/-!
Scalars: truth values, numbers, dates and times. Their form is checked; no setting uses their
value.
-/

set_option autoImplicit false

namespace Registrar.Toml

/-- Digits, of which neighbours may be separated by one underscore. -/
def isDigits (isDigit : Char → Bool) : List Char → Bool
  | [] => false
  | [c] => isDigit c
  | c :: '_' :: rest => isDigit c && isDigits isDigit rest
  | c :: rest => isDigit c && isDigits isDigit rest

def isDecimal (text : List Char) : Bool := isDigits Char.isDigit text

/-- A decimal number without a needless zero in front. -/
def isWhole (text : List Char) : Bool :=
  isDecimal text && (text.length == 1 || text.head? != some '0')

def dropSign : List Char → List Char
  | '+' :: rest => rest
  | '-' :: rest => rest
  | text => text

def isInteger (text : List Char) : Bool :=
  match text with
  | '0' :: 'x' :: digits =>
      isDigits (fun c => c.isDigit || ('a' ≤ c.toLower && c.toLower ≤ 'f')) digits
  | '0' :: 'o' :: digits => isDigits (fun c => '0' ≤ c && c ≤ '7') digits
  | '0' :: 'b' :: digits => isDigits (fun c => c == '0' || c == '1') digits
  | _ => isWhole (dropSign text)

def isExponentMark (c : Char) : Bool := c == 'e' || c == 'E'

def isFloat (text : List Char) : Bool :=
  let text := dropSign text
  if text = ['i', 'n', 'f'] ∨ text = ['n', 'a', 'n'] then true
  else
    let mantissa := text.takeWhile fun c => !isExponentMark c
    let whole := mantissa.takeWhile (· != '.')
    let fraction := mantissa.drop whole.length
    let exponent := text.drop mantissa.length
    isWhole whole && (fraction.isEmpty || isDecimal (fraction.drop 1)) &&
      (exponent.isEmpty || isDecimal (dropSign (exponent.drop 1))) &&
      !(fraction.isEmpty && exponent.isEmpty)

def twoDigits? (tens ones : Char) : Option Nat :=
  if tens.isDigit && ones.isDigit then
    some ((tens.toNat - '0'.toNat) * 10 + (ones.toNat - '0'.toNat))
  else none

def isWithin (low high : Nat) (tens ones : Char) : Bool :=
  (twoDigits? tens ones).any fun number => low ≤ number && number ≤ high

def daysOfMonth (year month : Nat) : Nat :=
  if month = 2 then
    if year % 4 = 0 ∧ (year % 100 ≠ 0 ∨ year % 400 = 0) then 29 else 28
  else if month = 4 ∨ month = 6 ∨ month = 9 ∨ month = 11 then 30
  else 31

def isDate : List Char → Bool
  | [y1, y2, y3, y4, '-', m1, m2, '-', d1, d2] =>
      match twoDigits? y1 y2, twoDigits? y3 y4, twoDigits? m1 m2 with
      | some century, some year, some month =>
          1 ≤ month && month ≤ 12 && isWithin 1 (daysOfMonth (century * 100 + year) month) d1 d2
      | _, _, _ => false
  | _ => false

/-- Whether the text is a time of day. Seconds may be left out. -/
def isTime : List Char → Bool
  | h1 :: h2 :: ':' :: m1 :: m2 :: rest =>
      isWithin 0 23 h1 h2 && isWithin 0 59 m1 m2 &&
        match rest with
        | [] => true
        | [':', s1, s2] => isWithin 0 60 s1 s2
        | ':' :: s1 :: s2 :: '.' :: fraction =>
            isWithin 0 60 s1 s2 && !fraction.isEmpty && fraction.all Char.isDigit
        | _ => false
  | _ => false

/-- Whether the text is the distance of a time from universal time. -/
def isOffset : List Char → Bool
  | ['Z'] => true
  | ['z'] => true
  | [sign, h1, h2, ':', m1, m2] =>
      (sign == '+' || sign == '-') && isWithin 0 23 h1 h2 && isWithin 0 59 m1 m2
  | _ => false

def isTimeWithOffset (text : List Char) : Bool :=
  let time := text.takeWhile fun c => c.isDigit || c == ':' || c == '.'
  isTime time && (text.drop time.length).isEmpty || isTime time && isOffset (text.drop time.length)

def isDateSeparator (c : Char) : Bool := c == 'T' || c == 't' || c == ' '

def isMoment (text : List Char) : Bool :=
  isTime text || isDate text ||
    (isDate (text.take 10) && (text.drop 10).head?.any isDateSeparator &&
      isTimeWithOffset (text.drop 11))

def isScalar (text : List Char) : Bool :=
  text = "true".toList ∨ text = "false".toList ∨ isInteger text ∨ isFloat text ∨ isMoment text

def endsScalar (c : Char) : Bool :=
  c == ' ' || c == '\t' || c == '\n' || c == '\r' || c == '#' || c == ',' || c == '=' ||
    c == '[' || c == ']' || c == '\x7b' || c == '\x7d' || c == '"' || c == '\x27'

def scalar? (text : List Char) : Option (String × List Char) :=
  let word := text.takeWhile fun c => !endsScalar c
  let rest := text.drop word.length
  let (word, rest) :=
    match rest with
    | ' ' :: c :: _ =>
        if isDate word && c.isDigit then
          let time := (rest.drop 1).takeWhile fun c => !endsScalar c
          (word ++ ' ' :: time, rest.drop (time.length + 1))
        else (word, rest)
    | _ => (word, rest)
  if isScalar word then some (String.ofList word, rest) else none

end Registrar.Toml
