import StoreQuery.Config.Text
import StoreQuery.Error

/-!
# Settings

A `Config` holds the templates of the operators and the words from which labels are made. The
words for groups and for columns are two different identifiers.

* `Config.withTemplate` and `Config.withWords` change a setting and refuse what is invalid;
* `Config.ofOverrides` builds the settings that a settings text asks for, `Config.ofText` reads
  them and `Config.ofBytes` decodes them first.
-/

namespace StoreQuery

/-- The settings of a query. -/
structure Config where
  /-- The templates. -/
  patterns : Patterns
  /-- The word for labels of groups. -/
  groupWord : String
  /-- The word for labels of columns. -/
  columnWord : String

namespace Config

/-- The settings that hold unless they are changed. -/
def default : Config := ⟨.default, "varg", "varp"⟩

variable (c : Config)

/-- The labels in conditions on objects. -/
def filterLabels : LabelScheme := .alphabetic

/-- The labels in groups and conditions on them. -/
def groupLabels : LabelScheme := .numbered c.groupWord

/-- The labels in columns. -/
def columnLabels : LabelScheme := .numbered c.columnWord

/-- The word is an identifier: a letter, then letters, digits and underscores. -/
def isIdentifier (word : String) : Bool :=
  (word.toList.head?.any Char.isAlpha) && word.toList.all fun c => c.isAlphanum || c == '_'

/-- The words are identifiers and differ. -/
def checkWords (group column : String) : Except ConfigError Unit :=
  if !isIdentifier group then .error (.notIdentifier group)
  else if !isIdentifier column then .error (.notIdentifier column)
  else if group = column then .error (.sameWords group)
  else .ok ()

/-- Replace both words. -/
def withWords (group column : String) : Except ConfigError Config :=
  (checkWords group column).map fun _ => { c with groupWord := group, columnWord := column }

/-- Replace the template of an operator. -/
def withTemplate (op : Operator) (source : String) : Except ConfigError Config :=
  match c.patterns.override op source with
  | .ok patterns => .ok { c with patterns }
  | .error cause => .error (.invalidTemplate op cause)

/-- Replace the template of an operator given by its name. -/
def withNamedTemplate (name source : String) : Except ConfigError Config :=
  match Operator.ofName? name with
  | some op => c.withTemplate op source
  | none => .error (.unknownOperator name)

/-- The operator that an override names and the template it gives. -/
def resolve (name source : String) : Except ConfigError (Operator × Template) :=
  match Operator.ofName? name with
  | none => .error (.unknownOperator name)
  | some op =>
    match Patterns.check op source with
    | .ok t => .ok (op, t)
    | .error cause => .error (.invalidTemplate op cause)

/-- The settings with the given changes. They are checked in order, the words first, and nothing is
replaced until all are found valid. -/
def ofOverrides (o : ConfigText.Overrides) : Except ConfigError Config := do
  let group := o.groupWord.getD default.groupWord
  let column := o.columnWord.getD default.columnWord
  checkWords group column
  let replaced ← o.templates.mapM fun t => resolve t.1 t.2
  return ⟨Patterns.default.setAll replaced, group, column⟩

/-- The settings of a settings text. -/
def ofText (text : String) : Except ConfigError Config :=
  match ConfigText.read text with
  | some overrides => ofOverrides overrides
  | none => .error .malformed

/-- The settings of a settings file, given its bytes if it is there. -/
def ofBytes (bytes : Option ByteArray) : Except ConfigError Config :=
  match bytes.bind String.fromUTF8? with
  | some text => ofText text
  | none => .error .unreadable

end Config

end StoreQuery
