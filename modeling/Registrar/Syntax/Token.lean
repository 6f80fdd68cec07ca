import Registrar.Syntax.Literal
import Registrar.Text.Blank
import Registrar.Text.Identifier

/-!
Tokens of a source text. `Lexer.step` reads one character; the tokens of a text are those that
reading all its characters leaves behind. Blanks and comments are kept as the gap before the token
that follows them, so that tokens and gaps together are the text.
-/

set_option autoImplicit false

namespace Registrar.Syntax

inductive TokenKind where
  /-- A keyword or an identifier. -/
  | word
  | number
  /-- A character or a string. -/
  | quoted
  /-- A bracket, an operator or another mark. -/
  | symbol
  /-- A line for the preprocessor. -/
  | directive
  /-- Characters that form no token. -/
  | stray
deriving DecidableEq, Repr

/-- A token, the blanks and comments before it, and the row where it begins, counted from zero. -/
structure Token where
  kind : TokenKind
  gap : String
  text : String
  row : Nat
deriving DecidableEq, Repr

namespace Token

def sourceText : List Token → String
  | [] => ""
  | first :: rest => first.text ++ String.join (rest.map fun token => token.gap ++ token.text)

end Token

namespace Lexer

/-- What the characters read last belong to. -/
inductive Mode where
  | gap
  /-- A slash, which may begin a comment. -/
  | slash
  | lineComment
  | blockComment (star : Bool)
  | word
  | number
  | symbol
  | directive
  /-- Signs that may begin a string. -/
  | sigil (dollars : Nat) (asIs : Bool)
  | quoted (layers : List Layer)
deriving DecidableEq, Repr

/-- Where the reading of a text stands. The gap, the text of the token under way and the tokens
are kept backwards. -/
structure State where
  mode : Mode := .gap
  gap : List Char := []
  text : List Char := []
  start : Nat := 0
  row : Nat := 0
  tokens : List Token := []
deriving DecidableEq, Repr

def isSymbolChar (c : Char) : Bool :=
  "\x7b\x7d[]().,:;+-*/%&|^!~=<>?".toList.contains c

/-- Symbols of more than one character. A closing angle bracket is never joined with another
one, so that each closes a list of type arguments. -/
def longSymbols : List (List Char) :=
  ["::", "=>", "==", "!=", "<=", ">=", "&&", "||", "??", "??=", "++", "--", "+=", "-=", "*=",
    "/=", "%=", "&=", "|=", "^=", "<<", "<<=", "->", ".."].map String.toList

/-- Whether each backslash of a word begins a character code. -/
def escapesFit : List Char → Bool
  | [] => true
  | '\\' :: 'u' :: a :: b :: c :: d :: rest =>
      [a, b, c, d].all (fun x => x.isDigit || ('a' ≤ x.toLower && x.toLower ≤ 'f')) &&
        escapesFit rest
  | '\\' :: 'U' :: rest =>
      (rest.take 8).length == 8 &&
        (rest.take 8).all (fun x => x.isDigit || ('a' ≤ x.toLower && x.toLower ≤ 'f')) &&
        escapesFit rest
  | '\\' :: _ => false
  | _ :: rest => escapesFit rest

def State.emit (state : State) (kind : TokenKind) : State :=
  let token : Token := ⟨kind, String.ofList state.gap.reverse, String.ofList state.text.reverse,
    state.start⟩
  { state with mode := .gap, gap := [], text := [], tokens := token :: state.tokens }

def State.emitWord (state : State) : State :=
  state.emit (if escapesFit state.text.reverse then .word else .stray)

def State.begin (state : State) (mode : Mode) (c : Char) : State :=
  { state with mode := mode, text := [c], start := state.row }

def State.extend (state : State) (mode : Mode) (c : Char) : State :=
  { state with mode := mode, text := c :: state.text }

def State.skip (state : State) (mode : Mode) (c : Char) : State :=
  { state with mode := mode, gap := c :: state.gap }

def State.comment (state : State) (mode : Mode) (c : Char) : State :=
  { state with mode := mode, gap := c :: (state.text ++ state.gap), text := [] }

/-- Reads a character that no token under way takes. -/
def State.fresh (state : State) (c : Char) : State :=
  if Text.isBlank c || c == '\uFEFF' then state.skip .gap c
  else if c = '/' then state.begin .slash c
  else if Text.isIdentifierStart c || c == '\\' then state.begin .word c
  else if c.isDigit then state.begin .number c
  else if c = '"' then state.begin (.quoted [.opening 0 false 1]) c
  else if c = '\x27' then state.begin (.quoted [.character false]) c
  else if c = '$' then state.begin (.sigil 1 false) c
  else if c = '@' then state.begin (.sigil 0 true) c
  else if c = '#' then state.begin .directive c
  else if isSymbolChar c then state.begin .symbol c
  else (state.begin .symbol c).emit .stray

def State.afterSymbol (state : State) (c : Char) : State :=
  if longSymbols.contains (c :: state.text).reverse then state.extend .symbol c
  else (state.emit .symbol).fresh c

def State.read (state : State) (c : Char) : State :=
  match state.mode with
  | .gap => state.fresh c
  | .slash =>
      if c = '/' then state.comment .lineComment c
      else if c = '*' then state.comment (.blockComment false) c
      else state.afterSymbol c
  | .lineComment => state.skip (if c = '\n' ∨ c = '\r' then .gap else .lineComment) c
  | .blockComment star =>
      state.skip (if star && c == '/' then .gap else .blockComment (c == '*')) c
  | .word =>
      if Text.isIdentifierPart c || c == '\\' then state.extend .word c
      else state.emitWord.fresh c
  | .number =>
      if Text.isIdentifierPart c then state.extend .number c else (state.emit .number).fresh c
  | .symbol => state.afterSymbol c
  | .directive =>
      if c = '\n' then (state.emit .directive).fresh c else state.extend .directive c
  | .sigil dollars asIs =>
      if c = '$' then state.extend (.sigil (dollars + 1) asIs) c
      else if c = '@' then state.extend (.sigil dollars true) c
      else if c = '"' then state.extend (.quoted [.opening dollars asIs 1]) c
      else if state.text = ['@'] ∧ Text.isIdentifierStart c then state.extend .word c
      else (state.emit .stray).fresh c
  | .quoted layers =>
      match Layer.feed layers c with
      | .inside layers => state.extend (.quoted layers) c
      | .closes => (state.extend .gap c).emit .quoted
      | .after => (state.emit .quoted).fresh c
      | .broken => (state.emit .stray).fresh c

def State.step (state : State) (c : Char) : State :=
  { state.read c with row := state.row + if c = '\n' then 1 else 0 }

/-- Ends the token under way at the end of the text. -/
def State.finish (state : State) : State :=
  match state.mode with
  | .gap | .lineComment | .blockComment _ => state
  | .slash | .symbol => state.emit .symbol
  | .word => state.emitWord
  | .number => state.emit .number
  | .directive => state.emit .directive
  | .sigil _ _ => state.emit .stray
  | .quoted layers => state.emit (if Layer.isComplete layers then .quoted else .stray)

def run (state : State) (text : List Char) : State := text.foldl State.step state

@[simp]
theorem run_nil (state : State) : run state [] = state := rfl

@[simp]
theorem run_cons (state : State) (c : Char) (text : List Char) :
    run state (c :: text) = run (state.step c) text := rfl

theorem run_append (state : State) (text more : List Char) :
    run state (text ++ more) = run (run state text) more := by
  simp [run, List.foldl_append]

end Lexer

/-- The tokens of a text, and whether its last comment is not closed. -/
structure Lexed where
  tokens : List Token
  openComment : Bool
deriving DecidableEq, Repr

def lex (text : List Char) : Lexed :=
  let state := Lexer.run { } text
  { tokens := state.finish.tokens.reverse
    openComment := match state.mode with
      | .blockComment _ => true
      | _ => false }

end Registrar.Syntax
