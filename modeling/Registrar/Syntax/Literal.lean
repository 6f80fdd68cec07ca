/-!
Quoted literals: characters and strings. A string is regular, verbatim or raw, and may hold
interpolated code, in which further literals stand. `Layer.feed` follows a literal character by
character; the layers under way are kept in a list, the innermost first.
-/

set_option autoImplicit false

namespace Registrar.Syntax

/-- Something quoted that is not closed yet. -/
inductive Layer where
  /-- The opening quotes of a string behind the given signs; `asIs` makes it verbatim. -/
  | opening (dollars : Nat) (asIs : Bool) (quotes : Nat)
  /-- Signs in interpolated code that may belong to a string. -/
  | sigil (dollars : Nat) (asIs : Bool)
  /-- A string in which a backslash escapes the next character. -/
  | regular (holes escaped brace : Bool)
  /-- A string in which a doubled quote stands for one. -/
  | verbatim (holes quote brace : Bool)
  /-- A string that ends with as many quotes as it began with. -/
  | raw (quotes dollars quoteRun braceRun : Nat)
  | character (escaped : Bool)
  /-- Interpolated code, closed by the given number of braces. -/
  | hole (closers depth closing : Nat)
deriving DecidableEq, Repr

inductive Fed where
  /-- The literal goes on. -/
  | inside (layers : List Layer)
  | closes
  /-- The literal ended before the character. -/
  | after
  /-- The line ends before the literal does. -/
  | broken
deriving DecidableEq, Repr

namespace Layer

def leave : List Layer → Fed
  | [] => .closes
  | outer => .inside outer

def feedHole (closers depth closing : Nat) (outer : List Layer) (c : Char) : Fed :=
  if c = '\x7b' then .inside (.hole closers (depth + 1) 0 :: outer)
  else if c = '\x7d' then
    if 0 < depth then .inside (.hole closers (depth - 1) 0 :: outer)
    else if closing + 1 = closers then leave outer
    else .inside (.hole closers 0 (closing + 1) :: outer)
  else
    let hole := Layer.hole closers depth 0
    if c = '"' then .inside (.opening 0 false 1 :: hole :: outer)
    else if c = '\x27' then .inside (.character false :: hole :: outer)
    else if c = '$' then .inside (.sigil 1 false :: hole :: outer)
    else if c = '@' then .inside (.sigil 0 true :: hole :: outer)
    else .inside (hole :: outer)

/-- A character of a regular string. `brace` says that an opening brace precedes it. -/
def feedRegular (holes brace : Bool) (outer : List Layer) (c : Char) : Fed :=
  if brace && c != '\x7b' then feedHole 1 0 0 (.regular holes false false :: outer) c
  else if c = '"' then leave outer
  else if c = '\\' then .inside (.regular holes true false :: outer)
  else if c = '\n' then .broken
  else .inside (.regular holes false (holes && !brace && c == '\x7b') :: outer)

def feedVerbatim (holes brace : Bool) (outer : List Layer) (c : Char) : Fed :=
  if brace && c != '\x7b' then feedHole 1 0 0 (.verbatim holes false false :: outer) c
  else if c = '"' then .inside (.verbatim holes true false :: outer)
  else .inside (.verbatim holes false (holes && !brace && c == '\x7b') :: outer)

/-- A character of a raw string that does not follow its closing quotes. -/
def feedRaw (quotes dollars quoteRun braceRun : Nat) (outer : List Layer) (c : Char) : Fed :=
  if 0 < dollars && c == '\x7b' then .inside (.raw quotes dollars 0 (braceRun + 1) :: outer)
  else if 0 < dollars && dollars ≤ braceRun then
    feedHole dollars 0 0 (.raw quotes dollars 0 0 :: outer) c
  else if c = '"' then .inside (.raw quotes dollars (quoteRun + 1) 0 :: outer)
  else .inside (.raw quotes dollars 0 0 :: outer)

/-- What the next character means to a literal. -/
def feed : List Layer → Char → Fed
  | [], _ => .after
  | .opening dollars true _ :: outer, c => feedVerbatim (0 < dollars) false outer c
  | .opening dollars false quotes :: outer, c =>
      if c = '"' then .inside (.opening dollars false (quotes + 1) :: outer)
      else if quotes = 1 then feedRegular (0 < dollars) false outer c
      else if quotes = 2 then feed outer c
      else feedRaw quotes dollars 0 0 outer c
  | .sigil dollars asIs :: outer, c =>
      if c = '$' then .inside (.sigil (dollars + 1) asIs :: outer)
      else if c = '@' then .inside (.sigil dollars true :: outer)
      else if c = '"' then .inside (.opening dollars asIs 1 :: outer)
      else feed outer c
  | .regular holes true _ :: outer, _ => .inside (.regular holes false false :: outer)
  | .regular holes false brace :: outer, c => feedRegular holes brace outer c
  | .verbatim holes true _ :: outer, c =>
      if c = '"' then .inside (.verbatim holes false false :: outer) else feed outer c
  | .verbatim holes false brace :: outer, c => feedVerbatim holes brace outer c
  | .raw quotes dollars quoteRun braceRun :: outer, c =>
      if quotes ≤ quoteRun && c != '"' then feed outer c
      else feedRaw quotes dollars quoteRun braceRun outer c
  | .character true :: outer, _ => .inside (.character false :: outer)
  | .character false :: outer, c =>
      if c = '\\' then .inside (.character true :: outer)
      else if c = '\x27' then leave outer
      else if c = '\n' then .broken
      else .inside (.character false :: outer)
  | .hole closers depth closing :: outer, c => feedHole closers depth closing outer c

def isComplete : List Layer → Bool
  | [.opening _ false 2] => true
  | [.verbatim _ true _] => true
  | [.raw quotes _ quoteRun _] => quotes ≤ quoteRun
  | _ => false

end Layer

end Registrar.Syntax
