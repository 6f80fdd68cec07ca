import Registrar.Proofs.Artifact.Splice
import Registrar.Proofs.Text.Ascii

/-!
# Anchors as ASCII texts

The texts of both anchors are ASCII and firm, so that the first line with an anchor can be found by
comparing ASCII letters: folding whole lines neither hides an anchor nor makes one up.
-/

set_option autoImplicit false

namespace Registrar.Anchor

open Text

theorem ascii_marker (anchor : Anchor) : ∀ c ∈ anchor.marker.toList, c.val < 128 := by
  have checked : anchor.marker.toList.all (fun c => c.val < 128) = true := by
    cases anchor <;> decide
  simpa only [List.all_eq_true, decide_eq_true_eq] using checked

theorem isFirm_marker (anchor : Anchor) : IsFirm (anchor.marker.toList.map Char.toLower) := by
  have checked :
      (anchor.marker.toList.map Char.toLower).all (fun c => c.val < 128) = true := by
    cases anchor <;> decide
  constructor
  · simpa only [List.all_eq_true, decide_eq_true_eq] using checked
  · cases anchor <;> decide
  · cases anchor <;> decide

theorem contains_marker_iff (anchor : Anchor) (line : String) :
    containsIgnoreCase line anchor.marker = true ↔ HoldsAscii line anchor.marker :=
  containsIgnoreCase_iff_holdsAscii anchor.ascii_marker anchor.isFirm_marker line

/-- The place of an anchor is the number of the first line that holds its text up to the case of
ASCII letters, and it has no place precisely if no line does. -/
theorem find?_by_ascii_letters (anchor : Anchor) (lines : List String) :
    (∀ i, anchor.find? lines = some i ↔
      ∃ line, lines[i]? = some line ∧ HoldsAscii line anchor.marker ∧
        ∀ earlier ∈ lines.take i, ¬ HoldsAscii earlier anchor.marker) ∧
      (anchor.find? lines = none ↔ ∀ line ∈ lines, ¬ HoldsAscii line anchor.marker) := by
  constructor
  · intro i
    constructor
    · intro found
      obtain ⟨bound, present, absent⟩ := List.findIdx?_eq_some_iff_getElem.1 found
      refine ⟨lines[i], List.getElem?_eq_getElem bound,
        (anchor.contains_marker_iff _).1 present, ?_⟩
      intro earlier membership held
      obtain ⟨j, less, rfl⟩ := List.mem_take_iff_getElem.1 membership
      exact absent j (by omega) ((anchor.contains_marker_iff _).2 held)
    · rintro ⟨line, here, held, absent⟩
      obtain ⟨bound, rfl⟩ := List.getElem?_eq_some_iff.1 here
      apply List.findIdx?_eq_some_iff_getElem.2
      refine ⟨bound, (anchor.contains_marker_iff _).2 held, ?_⟩
      intro j less present
      apply absent lines[j] (List.mem_take_iff_getElem.2 ⟨j, by omega, rfl⟩)
      exact (anchor.contains_marker_iff _).1 present
  · rw [find?_eq_none_iff]
    refine forall₂_congr fun line _ => ?_
    rw [← anchor.contains_marker_iff, Bool.not_eq_true]

/-- The Kelvin sign and the dotted capital I make up no anchor, and hide none. -/
example : Anchor.context.find?
    ["#regİon ContextualizationOfClasses", "İ#REGION contextualizationofclassesK"] = some 1 := by
  rfl

end Registrar.Anchor
