import Registrar.Text.CaseTable
import Registrar.Text.Search

/-!
Case folding. Names, extensions, markers and anchors are compared by their full lowercase forms:
a letter may fold to two characters, and a capital sigma folds to the final form at the end of a
word.
-/

set_option autoImplicit false

namespace Registrar.Text

def lowerChar (c : Char) : List Char :=
  if c.val < 128 then [c.toLower]
  else if c = '\u0130' then ['i', '\u0307']
  else
    match caseRuns.find? (·.covers c.toNat) with
    | some run => [Char.ofNat (run.target + (c.toNat - run.first))]
    | none => [c]

def isCased (c : Char) : Bool :=
  if c.val < 128 then c.isAlpha else inRanges casedRanges c.toNat

/-- Characters that are passed over when the end of a word is looked for. -/
def isCaseIgnorable (c : Char) : Bool :=
  if c.val < 128 then c = '\x27' || c = '.' || c = ':' || c = '^' || c = '\x60'
  else inRanges caseIgnorableRanges c.toNat

def beginsCased (text : List Char) : Bool :=
  match text.dropWhile isCaseIgnorable with
  | [] => false
  | c :: _ => isCased c

def lowerSigma (before after : List Char) : Char :=
  if beginsCased before && !beginsCased after then '\u03C2' else '\u03C3'

/-- Lowercases a text whose characters up to here are `before`, read backwards. -/
def lowerAfter (before : List Char) : List Char → List Char
  | [] => []
  | c :: rest =>
      (if c = '\u03A3' then [lowerSigma before rest] else lowerChar c) ++
        lowerAfter (c :: before) rest

/-- The key under which texts are compared without regard to case. -/
def foldCase (text : String) : String :=
  String.ofList (lowerAfter [] text.toList)

def eqIgnoreCase (a b : String) : Bool :=
  a == b || foldCase a == foldCase b

def containsIgnoreCase (text needle : String) : Bool :=
  occursIn (foldCase needle).toList (foldCase text).toList

@[simp]
theorem toList_foldCase (text : String) : (foldCase text).toList = lowerAfter [] text.toList := by
  simp [foldCase]

theorem eqIgnoreCase_iff (a b : String) : eqIgnoreCase a b = true ↔ foldCase a = foldCase b := by
  simp only [eqIgnoreCase, Bool.or_eq_true, beq_iff_eq]
  exact ⟨fun h => h.elim (congrArg foldCase) id, Or.inr⟩

end Registrar.Text
