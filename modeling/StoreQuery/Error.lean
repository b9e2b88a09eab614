import StoreQuery.Clause

/-!
# Errors

`ConfigError` and `QueryError` are the causes for which settings are refused and a query fails. A
`Report` is what a caller is told about a cause: a class of errors with the details its message
shows. Several causes share a class, and `Report.message` is the one place where messages are
worded.
-/

namespace StoreQuery

/-- Why settings are refused. -/
inductive ConfigError where
  /-- The settings file is not there or is no text. -/
  | unreadable
  /-- The settings text is malformed or sets something that there is not. -/
  | malformed
  /-- A template is given for an operator that there is not. -/
  | unknownOperator (name : String)
  /-- A text cannot be the template of an operator. -/
  | invalidTemplate (op : Operator) (cause : OverrideError)
  /-- The word for labels is no identifier. -/
  | notIdentifier (word : String)
  /-- The two words for labels are the same. -/
  | sameWords (word : String)
deriving DecidableEq

/-- Why a query fails. -/
inductive QueryError where
  /-- A condition on groups is given before the groups. -/
  | havingWithoutGrouping
  /-- The query has no source. -/
  | noSource
  /-- An expression cannot be written. -/
  | clause (cause : ClauseError)
  /-- Two clauses gave the same label. -/
  | duplicateLabel (label : String)
  /-- The engine failed. -/
  | engine (detail : String)
  /-- One row at most is expected and there are several. -/
  | severalRows (rows : Nat)
  /-- A row has no columns. -/
  | noColumns
  /-- A row has several columns where one is expected. -/
  | severalColumns
  /-- Rows are expected and the engine gave a single result. -/
  | singleResult
  /-- A count gave no row. -/
  | countWithoutRow
  /-- A count gave something else than a natural number. -/
  | countNotNatural
  /-- The settings are refused. -/
  | config (cause : ConfigError)
deriving DecidableEq

/-- What a caller is told. -/
inductive Report where
  /-- The clauses do not fit together. -/
  | invalidMetadata (reason : String)
  /-- There is no source. -/
  | noSource
  /-- The engine failed. -/
  | execution (detail : String)
  /-- There are too many rows. -/
  | cardinality (rows : Nat)
  /-- The query language has no text for an expression. -/
  | unsupported (reason : String)
  /-- An expression is malformed. -/
  | serialization (detail : String)
  /-- Two clauses gave the same label. -/
  | duplicateLabel (label : String)
  /-- The engine's output does not fit the question. -/
  | unexpectedOutput (reason : String)
  /-- The settings cannot be read. -/
  | unreadableConfig
  /-- The settings are malformed. -/
  | malformedConfig
  /-- The settings name an operator that there is not. -/
  | unknownOperator (name : String)
  /-- The settings have a bad template. -/
  | invalidTemplate (operator reason : String)
  /-- The settings contradict themselves or a rule. -/
  | invalidConfig (reason : String)
deriving DecidableEq

namespace Report

/-- The code of the class of errors that a program can test for. -/
def code : Report → String
  | .invalidMetadata _ => "InvalidMetadata"
  | .noSource => "NoSourceRegistered"
  | .execution _ => "ExecutionFailure"
  | .cardinality _ => "CardinalityViolation"
  | .unsupported _ => "Unsupported"
  | .serialization _ => "Serialization"
  | .duplicateLabel _ => "DuplicateLabel"
  | .unexpectedOutput _ => "UnexpectedOutput"
  | .unreadableConfig | .malformedConfig | .unknownOperator _ | .invalidTemplate _ _
  | .invalidConfig _ => "Config"

/-- What a report says. -/
def message : Report → String
  | .invalidMetadata reason => "invalid query metadata: " ++ reason
  | .noSource => "query has no source; call from() first"
  | .execution detail => "execution failed: " ++ detail
  | .cardinality rows =>
    "unique result expected but query returned " ++ toString rows ++ " rows"
  | .unsupported reason => "unsupported expression: " ++ reason
  | .serialization detail => "serialization failed: " ++ detail
  | .duplicateLabel label => "constant label '" ++ label ++ "' declared twice"
  | .unexpectedOutput reason => "unexpected executor output: " ++ reason
  | .unreadableConfig => "failed to read query config"
  | .malformedConfig => "failed to parse query config"
  | .unknownOperator name => "unknown operator '" ++ name ++ "' in templates"
  | .invalidTemplate operator reason =>
    "invalid template for '" ++ operator ++ "': " ++ reason
  | .invalidConfig reason => "invalid query config: " ++ reason

/-- The error below, as text: only a failure of the engine has one. -/
def source? : Report → Option String
  | .execution detail => some detail
  | _ => none

end Report

/-- The report of a refusal to write an expression. -/
def ClauseError.report : ClauseError → Report
  | .wrongArity op given =>
    .serialization ("'" ++ op.name ++ "' expects " ++ toString op.arity ++ " operand(s), got " ++
      toString given)
  | .classNameRequired => .unsupported "instanceof requires a type name as its right operand"
  | .constructOutsideProjection =>
    .unsupported "constructor calls are only valid as projection columns"
  | .literalWithoutLabel =>
    .unsupported "constants in order-by expressions are not bound as parameters"
  | .missingOperand op index =>
    .serialization ("'" ++ op.name ++ "' has no operand " ++ toString index)

/-- The report of a refusal of settings. -/
def ConfigError.report : ConfigError → Report
  | .unreadable => .unreadableConfig
  | .malformed => .malformedConfig
  | .unknownOperator name => .unknownOperator name
  | .invalidTemplate op cause => .invalidTemplate op.name cause.message
  | .notIdentifier word => .invalidConfig ("label prefix '" ++ word ++ "' must be an identifier")
  | .sameWords word =>
    .invalidConfig ("group and projection prefixes must differ (both '" ++ word ++ "')")

/-- The report of a failure of a query. -/
def QueryError.report : QueryError → Report
  | .havingWithoutGrouping => .invalidMetadata "having requires at least one group-by expression"
  | .noSource => .noSource
  | .clause cause => cause.report
  | .duplicateLabel label => .duplicateLabel label
  | .engine detail => .execution detail
  | .severalRows rows => .cardinality rows
  | .noColumns => .unexpectedOutput "row has no columns"
  | .severalColumns =>
    .unexpectedOutput "single-column query returned several columns; use list_many"
  | .singleResult => .unexpectedOutput "list query returned a unique result"
  | .countWithoutRow => .unexpectedOutput "count returned no row"
  | .countNotNatural => .unexpectedOutput "count returned a non-integral value"
  | .config cause => cause.report

/-- The code of a failure. -/
def QueryError.code (e : QueryError) : String := e.report.code

/-- The message of a failure. -/
def QueryError.message (e : QueryError) : String := e.report.message

/-- The message of a refusal of settings. -/
def ConfigError.message (e : ConfigError) : String := e.report.message

end StoreQuery
