import Registrar.Json.Value
import Registrar.Toml.Quoted

/-!
# Reading JSON

A reader for JSON texts of any kind, whatever printed them. Each reader gives what stands at the
beginning of a text, with what follows it. A value takes a character or more, so that reading on
from a text of length `n` nests no deeper than `2 * n + 1` calls; this bound is passed on as `fuel`.
-/

set_option autoImplicit false

namespace Registrar.Json

/-- The number `units * 10 ^ exponent`, as its digits write it. -/
structure Decimal where
  units : Int
  exponent : Int := 0
deriving DecidableEq

/-- What a JSON text says. The fields of an object are in the order of the text. -/
inductive Datum where
  | null
  | truth (value : Bool)
  | number (value : Decimal)
  | string (text : String)
  | array (items : List Datum)
  | object (fields : List (String × Datum))

def isGap (c : Char) : Bool := c == ' ' || c == '\t' || c == '\n' || c == '\r'

def dropGaps (text : List Char) : List Char := text.dropWhile isGap

def digits? (text : List Char) : Option (List Char × List Char) :=
  let digits := text.takeWhile Char.isDigit
  if digits.isEmpty then none else some (digits, text.dropWhile Char.isDigit)

def ofDigits (digits : List Char) : Int := (Nat.ofDigitChars 10 digits 0 : Nat)

def whole? : List Char → Option (List Char × List Char)
  | '0' :: rest => some (['0'], rest)
  | text => digits? text

def fraction? : List Char → Option (List Char × List Char)
  | '.' :: rest => digits? rest
  | text => some ([], text)

def exponent? : List Char → Option (Int × List Char)
  | 'e' :: rest | 'E' :: rest =>
      match rest with
      | '-' :: rest => (digits? rest).map fun (digits, rest) => (-ofDigits digits, rest)
      | '+' :: rest => (digits? rest).map fun (digits, rest) => (ofDigits digits, rest)
      | rest => (digits? rest).map fun (digits, rest) => (ofDigits digits, rest)
  | text => some (0, text)

def unsigned? (text : List Char) : Option (Decimal × List Char) := do
  let (whole, rest) ← whole? text
  let (fraction, rest) ← fraction? rest
  let (exponent, rest) ← exponent? rest
  return (⟨ofDigits (whole ++ fraction), exponent - fraction.length⟩, rest)

def number? : List Char → Option (Decimal × List Char)
  | '-' :: rest =>
      (unsigned? rest).map fun (value, rest) => ({ value with units := -value.units }, rest)
  | text => unsigned? text

def shortEscape? : Char → Option Char
  | '"' => some '"'
  | '\\' => some '\\'
  | '/' => some '/'
  | 'b' => some '\x08'
  | 'f' => some '\x0c'
  | 'n' => some '\n'
  | 'r' => some '\r'
  | 't' => some '\t'
  | _ => none

def codeUnit? (text : List Char) : Option Nat :=
  let digits := text.take 4
  if digits.length < 4 then none else Toml.hexNumber? digits

def escape? : List Char → Option (Char × Nat)
  | [] => none
  | 'u' :: rest => do
      let high ← codeUnit? rest
      if high.isValidChar then return (Char.ofNat high, 5)
      match rest.drop 4 with
      | '\\' :: 'u' :: rest =>
          let low ← codeUnit? rest
          if high < 0xDC00 ∧ 0xDC00 ≤ low ∧ low < 0xE000 then
            return (Char.ofNat (0x10000 + (high - 0xD800) * 0x400 + (low - 0xDC00)), 11)
          else none
      | _ => none
  | letter :: _ => (shortEscape? letter).map fun c => (c, 1)

def string? (skip : Nat) : List Char → Option (List Char × List Char)
  | [] => none
  | c :: rest =>
      match skip with
      | skip + 1 => string? skip rest
      | 0 =>
          if c = '"' then some ([], rest)
          else if c = '\\' then do
            let (escaped, length) ← escape? rest
            let (text, rest) ← string? length rest
            return (escaped :: text, rest)
          else if c.toNat < 0x20 then none
          else (string? 0 rest).map fun (text, rest) => (c :: text, rest)

def key? (text : List Char) : Option (String × List Char) :=
  match dropGaps text with
  | '"' :: rest => do
      let (key, rest) ← string? 0 rest
      match dropGaps rest with
      | ':' :: rest => return (String.ofList key, rest)
      | _ => none
  | _ => none

def word? : List Char → Option (Datum × List Char)
  | 'n' :: 'u' :: 'l' :: 'l' :: rest => some (.null, rest)
  | 't' :: 'r' :: 'u' :: 'e' :: rest => some (.truth true, rest)
  | 'f' :: 'a' :: 'l' :: 's' :: 'e' :: rest => some (.truth false, rest)
  | _ => none

mutual

def datum? : Nat → List Char → Option (Datum × List Char)
  | 0, _ => none
  | fuel + 1, text =>
      match dropGaps text with
      | [] => none
      | c :: rest =>
          if c = '"' then
            (string? 0 rest).map fun (text, rest) => (.string (String.ofList text), rest)
          else if c = '[' then
            match dropGaps rest with
            | ']' :: rest => some (.array [], rest)
            | rest => (items? fuel rest).map fun (items, rest) => (.array items, rest)
          else if c = '\x7b' then
            match dropGaps rest with
            | '\x7d' :: rest => some (.object [], rest)
            | rest => (fields? fuel rest).map fun (fields, rest) => (.object fields, rest)
          else if c.isAlpha then word? (c :: rest)
          else (number? (c :: rest)).map fun (value, rest) => (.number value, rest)

def items? : Nat → List Char → Option (List Datum × List Char)
  | 0, _ => none
  | fuel + 1, text => do
      let (item, rest) ← datum? fuel text
      match dropGaps rest with
      | ',' :: rest => (items? fuel rest).map fun (items, rest) => (item :: items, rest)
      | ']' :: rest => return ([item], rest)
      | _ => none

def fields? : Nat → List Char → Option (List (String × Datum) × List Char)
  | 0, _ => none
  | fuel + 1, text => do
      let (key, rest) ← key? text
      let (value, rest) ← datum? fuel rest
      match dropGaps rest with
      | ',' :: rest => (fields? fuel rest).map fun (fields, rest) => ((key, value) :: fields, rest)
      | '\x7d' :: rest => return ([(key, value)], rest)
      | _ => none

end

/-- What a JSON text says, if nothing follows its value. -/
def read? (text : String) : Option Datum := do
  let (datum, rest) ← datum? (2 * text.toList.length + 1) text.toList
  if (dropGaps rest).isEmpty then return datum else none

end Registrar.Json
