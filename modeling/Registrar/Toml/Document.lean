import Registrar.Toml.Quoted
import Registrar.Toml.Scalar
import Registrar.Toml.Table

/-!
Reading a TOML document. Each reader gives what stands at the beginning of a text, with what
follows it. `read?` gives the table of a whole document, or nothing when the text is no document or
gives a key twice. Every construct takes a character or more, so that reading on from a text of
length `n` nests no deeper than `2 * n + 1` calls; this bound is passed on as `fuel`.
-/

set_option autoImplicit false

namespace Registrar.Toml

def dropBlanks (text : List Char) : List Char :=
  text.dropWhile fun c => c == ' ' || c == '\t'

def dropGaps (inComment : Bool) : List Char → Option (List Char)
  | [] => some []
  | '\n' :: rest => dropGaps false rest
  | '\r' :: '\n' :: rest => dropGaps false rest
  | c :: rest =>
      if inComment then if isPlain c then dropGaps true rest else none
      else if c = ' ' ∨ c = '\t' then dropGaps false rest
      else if c = '#' then dropGaps true rest
      else some (c :: rest)

def isBareKeyChar (c : Char) : Bool := c.isAlphanum || c == '-' || c == '_'

def simpleKey? (text : List Char) : Option (String × List Char) :=
  match text with
  | '"' :: _ | '\x27' :: _ => (quoted? text).map fun (key, rest) => (String.ofList key, rest)
  | _ =>
      let key := text.takeWhile isBareKeyChar
      if key.isEmpty then none else some (String.ofList key, text.drop key.length)

def key? : Nat → List Char → Option ((List String × String) × List Char)
  | 0, _ => none
  | fuel + 1, text => do
      let (first, rest) ← simpleKey? text
      match dropBlanks rest with
      | '.' :: rest =>
          let ((path, last), rest) ← key? fuel (dropBlanks rest)
          return ((first :: path, last), rest)
      | rest => return (([], first), rest)

mutual

def value? : Nat → List Char → Option (Value × List Char)
  | 0, _ => none
  | fuel + 1, text =>
      match text with
      | '[' :: rest => items? fuel [] rest
      | '\x7b' :: rest => fields? fuel [] rest
      | '"' :: _ | '\x27' :: _ =>
          (anyQuoted? text).map fun (content, rest) => (.string (String.ofList content), rest)
      | _ => (scalar? text).map fun (content, rest) => (.scalar content, rest)

def items? : Nat → List Value → List Char → Option (Value × List Char)
  | 0, _, _ => none
  | fuel + 1, items, text => do
      match ← dropGaps false text with
      | ']' :: rest => return (.array items, rest)
      | text =>
          let (item, rest) ← value? fuel text
          match ← dropGaps false rest with
          | ',' :: rest => items? fuel (items ++ [item]) rest
          | ']' :: rest => return (.array (items ++ [item]), rest)
          | _ => none

def fields? : Nat → Entries → List Char → Option (Value × List Char)
  | 0, _, _ => none
  | fuel + 1, entries, text => do
      match ← dropGaps false text with
      | '\x7d' :: rest => return (.table (finishEntries entries), rest)
      | text =>
          let (((path, key), value), rest) ← assignment? fuel text
          let entries ← entries.insert? path key value
          match ← dropGaps false rest with
          | ',' :: rest => fields? fuel entries rest
          | '\x7d' :: rest => return (.table (finishEntries entries), rest)
          | _ => none

def assignment? : Nat → List Char → Option (((List String × String) × Value) × List Char)
  | 0, _ => none
  | fuel + 1, text => do
      let (key, rest) ← key? fuel text
      match rest with
      | '=' :: rest =>
          let (value, rest) ← value? fuel (dropBlanks rest)
          return ((key, value), rest)
      | _ => none

end

/-- The entries read so far, and the path of the table that the last header opened. -/
structure Progress where
  entries : Entries := []
  current : List String := []

namespace Progress

def open? (progress : Progress) (path : List String) (key : String) : Option Progress := do
  return ⟨← progress.entries.open? path key, path ++ [key]⟩

def openNext? (progress : Progress) (path : List String) (key : String) : Option Progress := do
  return ⟨← progress.entries.openNext? path key, path ++ [key]⟩

def insert? (progress : Progress) (path : List String) (key : String) (value : Value) :
    Option Progress := do
  let entries ← progress.entries.modify (fun _ inner => inner.insert? path key value) .implied
    progress.current .opened
  return { progress with entries := entries }

end Progress

def statement? (fuel : Nat) (progress : Progress) (text : List Char) :
    Option (Progress × List Char) := do
  match text with
  | '[' :: '[' :: rest =>
      let ((path, key), rest) ← key? fuel (dropBlanks rest)
      match rest with
      | ']' :: ']' :: rest => return (← progress.openNext? path key, rest)
      | _ => none
  | '[' :: rest =>
      let ((path, key), rest) ← key? fuel (dropBlanks rest)
      match rest with
      | ']' :: rest => return (← progress.open? path key, rest)
      | _ => none
  | _ =>
      let (((path, key), value), rest) ← assignment? fuel text
      return (← progress.insert? path key value, rest)

/-- Whether nothing but a comment follows in the line. -/
def endsStatement (rest : List Char) : Bool :=
  let rest := dropBlanks rest
  rest.isEmpty || rest.head? == some '#' || atLineEnd rest

def statements? : Nat → Progress → List Char → Option Progress
  | 0, _, _ => none
  | fuel + 1, progress, text => do
      match ← dropGaps false text with
      | [] => return progress
      | text =>
          let (progress, rest) ← statement? fuel progress text
          if endsStatement rest then statements? fuel progress rest else none

/-- The table of a document. A byte order mark in front does not belong to the text. -/
def read? (text : String) : Option (List (String × Value)) :=
  let text := match text.toList with
    | '\uFEFF' :: rest => rest
    | text => text
  (statements? (2 * text.length + 2) { } text).map fun progress => finishEntries progress.entries

end Registrar.Toml
