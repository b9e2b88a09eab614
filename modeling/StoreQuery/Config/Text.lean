import StoreQuery.Text

/-!
# Settings texts

Settings are written in TOML. A settings text may set the texts `group_prefix` and
`projection_prefix` and the table `templates`, whose entries are texts. `ConfigText.read` gives
what is set; a text that is not TOML is refused, and so is one that sets anything else.

Since every refusal is the same, the reader knows only the part of TOML that settings can use. An
array, a number, a truth value or a header other than that of `templates` is refused where it
starts, whether or not it is well formed. A date or time is known, because `templates` may be one:
it counts as a table with the one entry `dateTimeKey`.
-/

namespace StoreQuery.ConfigText

/-- What a settings text sets. -/
structure Overrides where
  /-- The word for labels of groups. -/
  groupWord : Option String
  /-- The word for labels of columns. -/
  columnWord : Option String
  /-- The templates by the names of their operators, in ascending order of the names. -/
  templates : List (String × String)

/-! ### Characters -/

/-- Blank space within a line. -/
def isBlank (c : Char) : Bool := c == ' ' || c == '\t'

/-- Not a control character, tabs apart. -/
def isPrintable (c : Char) : Bool := c == '\t' || (0x20 ≤ c.toNat && c.toNat != 0x7F)

/-- A character of a key without quotes. -/
def isBareKey (c : Char) : Bool := c.isAlphanum || c == '-' || c == '_'

/-- Drop blank space. -/
def skipBlank (cs : List Char) : List Char := cs.dropWhile isBlank

/-- Read the end of a line. -/
def readNewline : List Char → Option (List Char)
  | '\n' :: cs => some cs
  | '\r' :: '\n' :: cs => some cs
  | _ => none

/-- Read the end of a line or of the text. -/
def readLineEnd : List Char → Option (List Char)
  | [] => some []
  | cs => readNewline cs

/-- Drop a comment up to the end of its line. -/
def skipComment : List Char → List Char
  | '#' :: cs => cs.dropWhile isPrintable
  | cs => cs

/-- Read what may follow a statement on its line: blank space, a comment, the end of the line. -/
def readTrailing (cs : List Char) : Option (List Char) := readLineEnd (skipComment (skipBlank cs))

/-! ### Texts -/

/-- The character with a code point in hexadecimal. -/
def hexChar? (digits : List Char) : Option Char := do
  let n ← digits.foldlM (fun n c => do some (n * 16 + (← Text.hexValue? c))) 0
  if n.isValidChar then some (Char.ofNat n) else none

/-- Read a code point of `n` hexadecimal digits. -/
def readCode (n : Nat) (cs : List Char) : Option (Char × List Char) :=
  if cs.length < n then none else (hexChar? (cs.take n)).map fun c => (c, cs.drop n)

/-- Read what follows a backslash, a line end apart. -/
def readEscape : List Char → Option (Char × List Char)
  | 'b' :: cs => some ('\x08', cs)
  | 'f' :: cs => some ('\x0c', cs)
  | 'n' :: cs => some ('\n', cs)
  | 'r' :: cs => some ('\r', cs)
  | 't' :: cs => some ('\t', cs)
  | '"' :: cs => some ('"', cs)
  | '\\' :: cs => some ('\\', cs)
  | 'u' :: cs => readCode 4 cs
  | 'U' :: cs => readCode 8 cs
  | _ => none

/-- The number of quotes at the front. -/
def quotes (quote : Char) (cs : List Char) : Nat := (cs.takeWhile (· == quote)).length

/-- Read the end of a text of several lines: three quotes, before which up to two more belong to
the text. -/
def readClosing (quote : Char) (cs : List Char) : Option (List Char × List Char) :=
  let n := quotes quote cs
  if n < 3 then none
  else
    let inner := min (n - 3) 2
    some (List.replicate inner quote, cs.drop (inner + 3))

/-- A text is read one character at a time by `next`, which gives the characters it stands for;
`close` reads its end. The number of characters bounds the number of steps. -/
def readBody (close : List Char → Option (List Char × List Char))
    (next : List Char → Option (List Char × List Char)) :
    Nat → List Char → Option (List Char × List Char)
  | 0, _ => none
  | steps + 1, cs =>
    match close cs with
    | some end_ => some end_
    | none => do
      let (chars, cs) ← next cs
      let (rest, cs) ← readBody close next steps cs
      some (chars ++ rest, cs)

/-- Read a quote that ends a text of one line. -/
def readQuote (quote : Char) : List Char → Option (List Char × List Char)
  | c :: cs => if c == quote then some ([], cs) else none
  | [] => none

/-- Read a character that stands for itself. -/
def readPlain : List Char → Option (List Char × List Char)
  | c :: cs => if isPrintable c then some ([c], cs) else none
  | [] => none

/-- Read a character of a text with escapes. -/
def readEscaped : List Char → Option (List Char × List Char)
  | '\\' :: cs => (readEscape cs).map fun (c, cs) => ([c], cs)
  | cs => readPlain cs

/-- Read a character, or a line end, of a text of several lines. -/
def readLinePart (part : List Char → Option (List Char × List Char)) (cs : List Char) :
    Option (List Char × List Char) :=
  match readNewline cs with
  | some cs => some (['\n'], cs)
  | none => part cs

/-- Drop blank space and line ends. -/
def skipLines : List Char → List Char
  | '\r' :: '\n' :: cs => skipLines cs
  | c :: cs => if isBlank c || c == '\n' then skipLines cs else c :: cs
  | [] => []

/-- Read a character of a text of several lines with escapes. A backslash at the end of a line
joins the line to what follows the blank space after it. -/
def readEscapedLinePart : List Char → Option (List Char × List Char)
  | '\\' :: cs =>
    match readNewline (skipBlank cs) with
    | some cs => some ([], skipLines cs)
    | none => readEscaped ('\\' :: cs)
  | cs => readLinePart readEscaped cs

/-- Drop a line end right after the quotes that open a text of several lines. -/
def skipFirstNewline (cs : List Char) : List Char := (readNewline cs).getD cs

/-- Read a text of one line after its opening quote. -/
def readLineText (quote : Char) (cs : List Char) : Option (String × List Char) :=
  let next := if quote == '"' then readEscaped else readPlain
  (readBody (readQuote quote) next (cs.length + 1) cs).map fun (s, cs) => (String.ofList s, cs)

/-- Read a text of several lines after its opening quotes. -/
def readBlockText (quote : Char) (cs : List Char) : Option (String × List Char) :=
  let next := if quote == '"' then readEscapedLinePart else readLinePart readPlain
  (readBody (readClosing quote) next (cs.length + 1) (skipFirstNewline cs)).map
    fun (s, cs) => (String.ofList s, cs)

/-- Read a text in any of its four forms. -/
def readText : List Char → Option (String × List Char)
  | '"' :: '"' :: '"' :: cs => readBlockText '"' cs
  | '"' :: cs => readLineText '"' cs
  | '\'' :: '\'' :: '\'' :: cs => readBlockText '\'' cs
  | '\'' :: cs => readLineText '\'' cs
  | _ => none

/-! ### Keys -/

/-- Read one part of a key, in quotes or without. -/
def readKeyPart : List Char → Option (String × List Char)
  | '"' :: cs => readLineText '"' cs
  | '\'' :: cs => readLineText '\'' cs
  | cs =>
    match cs.span isBareKey with
    | ([], _) => none
    | (part, cs) => some (String.ofList part, cs)

/-- Read a key of one part, or of two with a point between. No setting has a longer key. -/
def readKey (cs : List Char) : Option ((String × Option String) × List Char) := do
  let (first, cs) ← readKeyPart (skipBlank cs)
  match skipBlank cs with
  | '.' :: cs =>
    let (second, cs) ← readKeyPart (skipBlank cs)
    some ((first, some second), skipBlank cs)
  | cs => some ((first, none), cs)

/-! ### Dates and times -/

/-- The key of the one entry that a date or time has as a table. -/
def dateTimeKey : String := "$__toml_private_datetime"

/-- Read a number of `n` digits in a range. -/
def readField (n low high : Nat) (cs : List Char) : Option (Nat × List Char) :=
  let digits := cs.take n
  let value := digits.foldl (fun n c => n * 10 + (c.toNat - '0'.toNat)) 0
  if digits.length = n ∧ digits.all Char.isDigit ∧ low ≤ value ∧ value ≤ high then
    some (value, cs.drop n)
  else none

/-- Read one character. -/
def readChar (c : Char) : List Char → Option (List Char)
  | d :: cs => if d == c then some cs else none
  | [] => none

/-- The number of days of a month. -/
def daysInMonth (year month : Nat) : Nat :=
  if month = 2 then
    if year % 4 = 0 ∧ (year % 100 ≠ 0 ∨ year % 400 = 0) then 29 else 28
  else if month ∈ [4, 6, 9, 11] then 30
  else 31

/-- Read a date. -/
def readDate (cs : List Char) : Option (List Char) := do
  let (year, cs) ← readField 4 0 9999 cs
  let (month, cs) ← readField 2 1 12 (← readChar '-' cs)
  let (_, cs) ← readField 2 1 (daysInMonth year month) (← readChar '-' cs)
  some cs

/-- Read a fraction of a second, if there is one. -/
def skipFraction : List Char → List Char
  | '.' :: c :: cs => if c.isDigit then cs.dropWhile Char.isDigit else '.' :: c :: cs
  | cs => cs

/-- Read a time of day. The last minute may have a sixty-first second. -/
def readTime (cs : List Char) : Option (List Char) := do
  let (_, cs) ← readField 2 0 23 cs
  let (_, cs) ← readField 2 0 59 (← readChar ':' cs)
  let (_, cs) ← readField 2 0 60 (← readChar ':' cs)
  some (skipFraction cs)

/-- Read hours and minutes. -/
def readOffset (cs : List Char) : Option (List Char) := do
  let (_, cs) ← readField 2 0 23 cs
  let (_, cs) ← readField 2 0 59 (← readChar ':' cs)
  some cs

/-- Read the distance to universal time, if there is one. -/
def readZone : List Char → Option (List Char)
  | 'Z' :: cs | 'z' :: cs => some cs
  | '+' :: cs | '-' :: cs => readOffset cs
  | cs => some cs

/-- Read a date, a time or both. After a date a time is read only if there is one. -/
def readDateTime (cs : List Char) : Option (List Char) :=
  match readDate cs with
  | none => readTime cs
  | some rest =>
    match rest with
    | c :: time =>
      if c == 'T' || c == 't' || c == ' ' then
        match readTime time with
        | some cs => readZone cs
        | none => some rest
      else some rest
    | [] => some []

/-! ### Settings -/

/-- What is set so far. -/
structure Draft where
  /-- The word for labels of groups. -/
  groupWord : Option String
  /-- The word for labels of columns. -/
  columnWord : Option String
  /-- The templates, if the table was started. -/
  templates : Option (List (String × String))
  /-- More entries may be set by keys that begin with the table's name. -/
  isOpen : Bool
  /-- The header of the table was read, so that keys are the table's. -/
  inTable : Bool

/-- Nothing is set. -/
def Draft.empty : Draft := ⟨none, none, none, true, false⟩

/-- Put an entry among entries in ascending order; each name may be set once. -/
def insertEntry (name text : String) : List (String × String) → Option (List (String × String))
  | [] => some [(name, text)]
  | (n, t) :: rest =>
    if name < n then some ((name, text) :: (n, t) :: rest)
    else if name = n then none
    else (insertEntry name text rest).map ((n, t) :: ·)

namespace Draft

variable (d : Draft)

/-- Set a template. -/
def addTemplate (name text : String) : Option Draft := do
  some { d with templates := some (← insertEntry name text (d.templates.getD [])) }

/-- Set the whole table at once, after which it is closed. -/
def setTemplates (entries : List (String × String)) : Option Draft :=
  if d.templates.isSome then none else some { d with templates := some entries, isOpen := false }

/-- Set a text at the top. -/
def setText (key text : String) : Option Draft :=
  match key with
  | "group_prefix" => if d.groupWord.isSome then none else some { d with groupWord := some text }
  | "projection_prefix" =>
    if d.columnWord.isSome then none else some { d with columnWord := some text }
  | _ => none

/-- Start the table by its header. -/
def startTable : Option Draft :=
  if d.templates.isSome then none else some { d with templates := some [], inTable := true }

end Draft

/-- Read a key, the equals sign and a text. -/
def readTextEntry (cs : List Char) : Option ((String × String) × List Char) := do
  match ← readKey cs with
  | ((key, none), '=' :: cs) =>
    let (text, cs) ← readText (skipBlank cs)
    some ((key, text), cs)
  | _ => none

/-- Read the entries of a table in braces, up to the closing one. -/
def readInlineEntries (entries : List (String × String)) :
    Nat → List Char → Option (List (String × String) × List Char)
  | 0, _ => none
  | steps + 1, cs => do
    let ((name, text), cs) ← readTextEntry cs
    let entries ← insertEntry name text entries
    match skipBlank cs with
    | ',' :: cs => readInlineEntries entries steps cs
    | '}' :: cs => some (entries, cs)
    | _ => none

/-- Read the table as a value: entries in braces, or a date or time. -/
def readTable : List Char → Option (List (String × String) × List Char)
  | '{' :: cs =>
    match skipBlank cs with
    | '}' :: cs => some ([], cs)
    | cs => readInlineEntries [] (cs.length + 1) cs
  | cs => (readDateTime cs).map fun cs => ([(dateTimeKey, "")], cs)

/-- Read a header after its opening bracket. -/
def readHeader (cs : List Char) : Option (List Char) := do
  match ← readKey cs with
  | (("templates", none), ']' :: cs) => some cs
  | _ => none

/-- Read a key and its value. -/
def readEntry (d : Draft) (cs : List Char) : Option (Draft × List Char) := do
  match ← readKey cs with
  | ((key, part), '=' :: cs) =>
    let cs := skipBlank cs
    match d.inTable, key, part with
    | true, name, none =>
      let (text, cs) ← readText cs
      some (← d.addTemplate name text, cs)
    | false, "templates", some name =>
      if !d.isOpen then none
      let (text, cs) ← readText cs
      some (← d.addTemplate name text, cs)
    | false, "templates", none =>
      let (entries, cs) ← readTable cs
      some (← d.setTemplates entries, cs)
    | false, key, none =>
      let (text, cs) ← readText cs
      some (← d.setText key text, cs)
    | _, _, some _ => none
  | _ => none

/-- Read the lines of a settings text, one a step. -/
def readLines (d : Draft) : Nat → List Char → Option Draft
  | 0, _ => none
  | steps + 1, cs =>
    match skipBlank cs with
    | [] => some d
    | '#' :: cs => do readLines d steps (← readTrailing ('#' :: cs))
    | '[' :: cs => do
      let cs ← readTrailing (← readHeader cs)
      readLines (← d.startTable) steps cs
    | '\n' :: cs => readLines d steps cs
    | '\r' :: '\n' :: cs => readLines d steps cs
    | cs => do
      let (d, cs) ← readEntry d cs
      readLines d steps (← readTrailing cs)

/-- Read a settings text. A mark of the byte order at its start is no part of it. -/
def read (text : String) : Option Overrides := do
  let cs := match text.toList with
    | '\uFEFF' :: cs => cs
    | cs => cs
  let d ← readLines .empty (cs.length + 1) cs
  some ⟨d.groupWord, d.columnWord, d.templates.getD []⟩

end StoreQuery.ConfigText
