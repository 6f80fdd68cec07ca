import Registrar.Text.Blank
import Registrar.Text.Lines
import Registrar.Text.Utf8

/-!
Spans of a manifest. A complaint about a setting points at the line that sets it.
-/

set_option autoImplicit false

namespace Registrar

/-- A part of a text, in bytes. -/
structure Span where
  offset : Nat
  length : Nat
deriving DecidableEq, Repr

/-- Whether a line, which begins with no blank, gives a value to the key. -/
def assigns (key line : List Char) : Bool :=
  key.isPrefixOf line && ((line.drop key.length).dropWhile Text.isBlank).head? == some '='

/-- The span of the first assignment to the key among the pieces of a text, the first of which
begins at the offset. Blanks around the assignment do not belong to it. -/
def spanAmong (key : List Char) (offset : Nat) : List (List Char) → Option Span
  | [] => none
  | piece :: rest =>
      let line := piece.dropWhile Text.isBlank
      if assigns key line then
        some ⟨offset + (Text.byteLength piece - Text.byteLength line),
          Text.byteLength (Text.trimEndChars line)⟩
      else spanAmong key (offset + Text.byteLength piece) rest

/-- The span of the line that gives a value to the key. -/
def keySpan? (source key : String) : Option Span :=
  spanAmong key.toList 0 (Text.pieces source.toList)

end Registrar
