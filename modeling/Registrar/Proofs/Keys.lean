import Registrar.Names
import Registrar.Proofs.Decl.Marker

/-!
# Folded keys

What has been folded is not changed by folding it again. So a marker may fold its token beforehand,
and it makes no difference for the names that are kept whether they are made distinct as written or
by their keys.
-/

set_option autoImplicit false

namespace Registrar

open Text

theorem containsIgnoreCase_foldCase (text needle : String) :
    containsIgnoreCase text (foldCase needle) = containsIgnoreCase text needle := by
  unfold containsIgnoreCase
  rw [foldCase_foldCase]

theorem Marker.key_of_key (marker : Marker) : Marker.key ⟨marker.key⟩ = marker.key :=
  foldCase_foldCase marker.token

theorem distinctAfter_map_foldCase (seen names : List String) :
    distinctAfter seen (names.map foldCase) = (distinctAfter seen names).map foldCase := by
  induction names generalizing seen with
  | nil => rfl
  | cons name rest inductionHypothesis =>
      simp only [List.map_cons, distinctAfter, foldCase_foldCase]
      by_cases known : foldCase name ∈ seen
      · simp only [known, if_true]
        exact inductionHypothesis seen
      · simp only [known, if_false, List.map_cons]
        rw [inductionHypothesis]

/-- Folding is idempotent. The folded token of a marker is compared as the needle that folding the
token once gives; a marker made of it has the same key; and names have the keys that they are kept
under: these are what is kept of the keys of all names, and each of them is its own key. -/
theorem folding_again_changes_nothing :
    (∀ text, foldCase (foldCase text) = foldCase text) ∧
      (∀ (marker : Marker) (name : String),
        containsIgnoreCase name marker.key = occursIn marker.key.toList (foldCase name).toList ∧
          containsIgnoreCase name marker.key = containsIgnoreCase name marker.token ∧
          Marker.key ⟨marker.key⟩ = marker.key) ∧
      ∀ names : List String,
        (distinctNames names).map foldCase = distinctNames (names.map foldCase) ∧
          ∀ key ∈ (distinctNames names).map foldCase, foldCase key = key := by
  refine ⟨foldCase_foldCase, fun marker name => ⟨?_, ?_, marker.key_of_key⟩, fun names => ⟨?_, ?_⟩⟩
  · unfold containsIgnoreCase
    rw [Marker.key, foldCase_foldCase]
  · exact containsIgnoreCase_foldCase name marker.token
  · exact (distinctAfter_map_foldCase [] names).symm
  · intro key membership
    obtain ⟨name, -, rfl⟩ := List.mem_map.1 membership
    exact foldCase_foldCase name

end Registrar
