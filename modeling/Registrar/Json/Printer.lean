import Registrar.Json.Value

/-!
Printing JSON. Every item of an array and every field of an object has a line of its own, two
blanks further in; empty arrays and objects stand on one line. Only what a string cannot hold as it
is gets escaped.
-/

set_option autoImplicit false

namespace Registrar.Json

def escapeByCode (c : Char) : List Char :=
  let n := c.toNat
  ['\\', 'u', Nat.digitChar (n / 4096 % 16), Nat.digitChar (n / 256 % 16),
    Nat.digitChar (n / 16 % 16), Nat.digitChar (n % 16)]

def escapeChar (c : Char) : List Char :=
  if c = '"' then ['\\', '"']
  else if c = '\\' then ['\\', '\\']
  else if c = '\x08' then ['\\', 'b']
  else if c = '\x0c' then ['\\', 'f']
  else if c = '\n' then ['\\', 'n']
  else if c = '\r' then ['\\', 'r']
  else if c = '\t' then ['\\', 't']
  else if c.toNat < 0x20 then escapeByCode c
  else [c]

def quote (text : String) : List Char :=
  '"' :: text.toList.flatMap escapeChar ++ ['"']

def newLine (level : Nat) : List Char := '\n' :: List.replicate (2 * level) ' '

def block (opening closing : Char) (level : Nat) : List (List Char) → List Char
  | [] => [opening, closing]
  | items =>
      opening :: newLine (level + 1) ++ (',' :: newLine (level + 1)).intercalate items ++
        newLine level ++ [closing]

mutual

def Value.chars (level : Nat) : Value → List Char
  | .null => ['n', 'u', 'l', 'l']
  | .number n => Nat.toDigits 10 n
  | .string text => quote text
  | .array items => block '[' ']' level (itemChars (level + 1) items)
  | .object fields => block '\x7b' '\x7d' level (fieldChars (level + 1) fields)

def itemChars (level : Nat) : List Value → List (List Char)
  | [] => []
  | item :: rest => item.chars level :: itemChars level rest

def fieldChars (level : Nat) : List (String × Value) → List (List Char)
  | [] => []
  | (key, value) :: rest => (quote key ++ ':' :: ' ' :: value.chars level) :: fieldChars level rest

end

def Value.print (value : Value) : String := String.ofList (value.chars 0)

end Registrar.Json
