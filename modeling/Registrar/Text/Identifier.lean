import Registrar.Text.IdentifierTable

/-!
Characters of identifiers: letters and underscores start one, digits and joining characters may
continue it.
-/

set_option autoImplicit false

namespace Registrar.Text

def isIdentifierStart (c : Char) : Bool :=
  if c.val < 128 then c.isAlpha || c == '_' else inRanges identifierStartRanges c.toNat

def isIdentifierPart (c : Char) : Bool :=
  if c.val < 128 then c.isAlphanum || c == '_'
  else inRanges identifierStartRanges c.toNat || inRanges identifierExtraRanges c.toNat

theorem isIdentifierPart_of_isIdentifierStart {c : Char} (h : isIdentifierStart c = true) :
    isIdentifierPart c = true := by
  unfold isIdentifierStart at h
  unfold isIdentifierPart
  split at h <;> simp_all [Char.isAlphanum]
  rcases h with h | h <;> simp [h]

end Registrar.Text
