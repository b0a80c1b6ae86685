import OptionSchema.Toml.Quoted
import OptionSchema.Toml.Table

/-!
# TOML documents

A document is a row of lines: headers, keys with values, and blank ones. Arrays and inline tables
may go over several lines and may end with a comma. They cannot lie more than eighty levels deep,
and a key cannot have more than eighty parts.
-/

namespace OptionSchema.Toml

def isBareKeyChar (c : Char) : Bool :=
  c.isAlphanum || c == '_' || c == '-'

def dropSpaces (text : List Char) : List Char :=
  text.dropWhile isSpace

def dropComment : List Char → List Char
  | '#' :: rest => rest.dropWhile isPlain
  | text => text

def lineEnd? (text : List Char) : Option (List Char) :=
  match dropComment (dropSpaces text) with
  | [] => some []
  | rest => lineFeed? rest

/-- A text without the blanks, line ends and comments that it starts with; `inComment` says that it
starts within a comment. -/
def dropTrivia (inComment : Bool) : List Char → List Char
  | [] => []
  | '\r' :: '\n' :: rest => dropTrivia false rest
  | c :: rest =>
      if c == '\n' then dropTrivia false rest
      else if inComment then if isPlain c then dropTrivia true rest else c :: rest
      else if isSpace c then dropTrivia false rest
      else if c == '#' then dropTrivia true rest
      else c :: rest

def keyPart? (text : List Char) : Option (String × List Char) :=
  match text with
  | '"' :: '"' :: '"' :: _ => none
  | '\'' :: '\'' :: '\'' :: _ => none
  | '"' :: _ => quoted? text
  | '\'' :: _ => quoted? text
  | _ =>
      let (key, rest) := text.span isBareKeyChar
      if key.isEmpty then none else some (String.ofList key, rest)

/-- The most levels that brackets and braces have in a value, and the most parts of a key. -/
def levelLimit : Nat :=
  80

/-- Reads a key of at most so many parts, with dots between them. Gives the parts before the last
one, and the last one. -/
def keyParts? : Nat → List Char → Option ((List String × String) × List Char)
  | 0, _ => none
  | levels + 1, text => do
      let (part, rest) ← keyPart? text
      match dropSpaces rest with
      | '.' :: rest =>
          let ((path, last), rest) ← keyParts? levels (dropSpaces rest)
          return ((part :: path, last), rest)
      | rest => return (([], part), rest)

def key? (text : List Char) : Option ((List String × String) × List Char) :=
  keyParts? levelLimit text

/-- Whether a character can stand in a scalar without quotes, where quotes may follow others. -/
def isScalarChar (c : Char) : Bool :=
  !"=,[]\x7b\x7d# \t\r\n".toList.contains c

def resumesScalar (c : Char) : Bool :=
  isScalarChar c && c != '.' && c != '"' && c != '\''

/-- The number of characters of the scalar that a text starts with. Blanks belong to it if more of
it follows them, as in a date with a time. -/
def scalarLength : List Char → Nat
  | [] => 0
  | c :: rest =>
      if isScalarChar c then scalarLength rest + 1
      else if isSpace c && (dropSpaces rest).head?.any resumesScalar then scalarLength rest + 1
      else 0

def bareScalar? (text : List Char) : Option (Value × List Char) :=
  let count := scalarLength text
  (scalar? (text.take count)).map fun value => (value, text.drop count)

mutual

/-- Reads a value with at most so many levels of brackets. The fuel bounds the number of calls. -/
def value? (levels : Nat) : Nat → List Char → Option (Value × List Char)
  | 0, _ => none
  | fuel + 1, text =>
      match levels, text with
      | levels + 1, '[' :: rest =>
          (items? levels fuel (dropTrivia false rest)).map fun (items, rest) =>
            (.array items, rest)
      | levels + 1, '{' :: rest =>
          (entries? levels fuel (.start .header) (dropTrivia false rest)).map fun (table, rest) =>
            (table.toValue, rest)
      | _, '"' :: _ => (quoted? text).map fun (text, rest) => (.string text, rest)
      | _, '\'' :: _ => (quoted? text).map fun (text, rest) => (.string text, rest)
      | _, text => bareScalar? text

def items? (levels : Nat) : Nat → List Char → Option (List Value × List Char)
  | 0, _ => none
  | fuel + 1, text =>
      match text with
      | ']' :: rest => some ([], rest)
      | text => do
          let (item, rest) ← value? levels fuel text
          match dropTrivia false rest with
          | ',' :: rest =>
              let (items, rest) ← items? levels fuel (dropTrivia false rest)
              return (item :: items, rest)
          | ']' :: rest => return ([item], rest)
          | _ => none

def entries? (levels : Nat) : Nat → Table → List Char → Option (Table × List Char)
  | 0, _, _ => none
  | fuel + 1, table, text =>
      match text with
      | '}' :: rest => some (table, rest)
      | text => do
          let ((path, key), rest) ← key? text
          let rest ← expect? '=' (dropTrivia false rest)
          let (value, rest) ← value? levels fuel (dropTrivia false rest)
          let table ← table.put false key value path
          match dropTrivia false rest with
          | ',' :: rest => entries? levels fuel table (dropTrivia false rest)
          | '}' :: rest => return (table, rest)
          | _ => none

end

def readValue? (text : List Char) : Option (Value × List Char) :=
  value? levelLimit (2 * text.length + 2) text

/-- A document that is being read: all tables, and the path of the one that was opened last. -/
structure Draft where
  root : Table
  current : List String

def Draft.openHeader (draft : Draft) (path : List String) (key : String) : Option Draft := do
  let root ← draft.root.descend (Table.openHeader key) path
  return ⟨root, path ++ [key]⟩

def Draft.openNext (draft : Draft) (path : List String) (key : String) : Option Draft := do
  let root ← draft.root.descend (Table.openNext key) path
  return ⟨root, path ++ [key]⟩

def Draft.put (draft : Draft) (path : List String) (key : String) (value : Value) :
    Option Draft := do
  let root ← draft.root.descend (fun table => table.put false key value path) draft.current
  return { draft with root }

def readLines? : Nat → Draft → List Char → Option Draft
  | 0, _, _ => none
  | _ + 1, draft, [] => some draft
  | fuel + 1, draft, text => do
      match dropSpaces text with
      | '[' :: '[' :: rest =>
          let ((path, key), rest) ← key? (dropSpaces rest)
          let rest ← expect? ']' rest
          let rest ← expect? ']' rest
          let draft ← draft.openNext path key
          let rest ← lineEnd? rest
          readLines? fuel draft rest
      | '[' :: rest =>
          let ((path, key), rest) ← key? (dropSpaces rest)
          let rest ← expect? ']' rest
          let draft ← draft.openHeader path key
          let rest ← lineEnd? rest
          readLines? fuel draft rest
      | text =>
          match lineEnd? text with
          | some rest => readLines? fuel draft rest
          | none =>
              let ((path, key), rest) ← key? text
              let rest ← expect? '=' rest
              let (value, rest) ← readValue? (dropSpaces rest)
              let draft ← draft.put path key value
              let rest ← lineEnd? rest
              readLines? fuel draft rest

/-- The table of a document. A byte order mark may stand in front. -/
def document? (text : String) : Option (List (String × Value)) := do
  let chars :=
    match text.toList with
    | '\uFEFF' :: rest => rest
    | chars => chars
  let draft ← readLines? (chars.length + 1) ⟨.start .header, []⟩ chars
  return itemValues draft.root.items

end OptionSchema.Toml
