/-!
Quoted strings. A basic string has escapes and a literal one has none; three quotes instead of one
let a string go over several lines. Each reader takes the characters behind the opening quotes and
gives the text of the string with the characters behind the closing ones.
-/

set_option autoImplicit false

namespace Registrar.Toml

/-- The text of a string and what follows it. -/
abbrev Quotation := Option (List Char × List Char)

def Quotation.cons (c : Char) (quotation : Quotation) : Quotation :=
  quotation.map fun (text, rest) => (c :: text, rest)

/-- Characters that a string or a comment holds as they are. -/
def isPlain (c : Char) : Bool := c == '\t' || (0x20 ≤ c.toNat && c.toNat != 0x7F)

def hexDigit? (c : Char) : Option Nat :=
  if c.isDigit then some (c.toNat - '0'.toNat)
  else if 'a' ≤ c && c ≤ 'f' then some (c.toNat - 'a'.toNat + 10)
  else if 'A' ≤ c && c ≤ 'F' then some (c.toNat - 'A'.toNat + 10)
  else none

def hexNumber? (digits : List Char) : Option Nat :=
  digits.foldlM (fun number c => (hexDigit? c).map (number * 16 + ·)) 0

def hexChar? (digits : List Char) : Option Char := do
  let number ← hexNumber? digits
  if number.isValidChar then some (Char.ofNat number) else none

def codeLength? : Char → Option Nat
  | 'x' => some 2
  | 'u' => some 4
  | 'U' => some 8
  | _ => none

def shortEscape? : Char → Option Char
  | 'b' => some '\x08'
  | 't' => some '\t'
  | 'n' => some '\n'
  | 'f' => some '\x0c'
  | 'r' => some '\r'
  | 'e' => some '\x1b'
  | '"' => some '"'
  | '\\' => some '\\'
  | _ => none

def escape? : List Char → Option (Char × Nat)
  | [] => none
  | letter :: rest =>
      match shortEscape? letter with
      | some c => some (c, 1)
      | none => do
          let length ← codeLength? letter
          let digits := rest.take length
          if digits.length < length then none
          else return (← hexChar? digits, length + 1)

def literal : List Char → Quotation
  | [] => none
  | c :: rest =>
      if c = '\x27' then some ([], rest)
      else if isPlain c then Quotation.cons c (literal rest)
      else none

def basic (skip : Nat) : List Char → Quotation
  | [] => none
  | c :: rest =>
      match skip with
      | skip + 1 => basic skip rest
      | 0 =>
          if c = '"' then some ([], rest)
          else if c = '\\' then do
            let (escaped, length) ← escape? rest
            Quotation.cons escaped (basic length rest)
          else if isPlain c then Quotation.cons c (basic 0 rest)
          else none

def atLineEnd : List Char → Bool
  | '\n' :: _ => true
  | '\r' :: '\n' :: _ => true
  | _ => false

def dropLineEnd : List Char → List Char
  | '\n' :: rest => rest
  | '\r' :: '\n' :: rest => rest
  | text => text

def closing (quote : Char) (found : Nat) (rest : List Char) : Quotation :=
  let inside := min (found - 3) 2
  some (List.replicate inside quote, List.replicate (found - 3 - inside) quote ++ rest)

/-- The quotes of a run that closes nothing. -/
def innerQuotes (quote : Char) (found : Nat) (quotation : Quotation) : Quotation :=
  quotation.map fun (text, rest) => (List.replicate found quote ++ text, rest)

def longLiteral (found : Nat) : List Char → Quotation
  | [] => if 3 ≤ found then closing '\x27' found [] else none
  | c :: rest =>
      if c = '\x27' then longLiteral (found + 1) rest
      else if 3 ≤ found then closing '\x27' found (c :: rest)
      else if isPlain c || atLineEnd (c :: rest) then
        innerQuotes '\x27' found (Quotation.cons c (longLiteral 0 rest))
      else none

/-- What is passed over in a string over several lines. -/
inductive Skipped where
  | nothing
  /-- The rest of an escape. -/
  | escape (length : Nat)
  /-- Blanks and line ends behind a backslash at the end of a line. -/
  | blanks
deriving DecidableEq

def blankToLineEnd (text : List Char) : Bool :=
  atLineEnd (text.dropWhile fun c => c == ' ' || c == '\t')

def longBasic (found : Nat) (skipped : Skipped) : List Char → Quotation
  | [] => if 3 ≤ found then closing '"' found [] else none
  | c :: rest =>
      match skipped with
      | .escape (length + 1) => longBasic 0 (.escape length) rest
      | .escape 0 | .nothing => read c rest
      | .blanks =>
          if c = ' ' ∨ c = '\t' ∨ atLineEnd (c :: rest) then longBasic 0 .blanks rest
          else read c rest
where
  /-- A character that is not passed over. -/
  read (c : Char) (rest : List Char) : Quotation :=
    if c = '"' then longBasic (found + 1) .nothing rest
    else if 3 ≤ found then closing '"' found (c :: rest)
    else innerQuotes '"' found <|
      if c = '\\' then
        if blankToLineEnd rest then longBasic 0 .blanks rest
        else do
          let (escaped, length) ← escape? rest
          Quotation.cons escaped (longBasic 0 (.escape length) rest)
      else if isPlain c || atLineEnd (c :: rest) then Quotation.cons c (longBasic 0 .nothing rest)
      else none

def quoted? : List Char → Quotation
  | '"' :: rest => basic 0 rest
  | '\x27' :: rest => literal rest
  | _ => none

def anyQuoted? : List Char → Quotation
  | '"' :: '"' :: '"' :: rest => longBasic 0 .nothing (dropLineEnd rest)
  | '\x27' :: '\x27' :: '\x27' :: rest => longLiteral 0 (dropLineEnd rest)
  | text => quoted? text

end Registrar.Toml
