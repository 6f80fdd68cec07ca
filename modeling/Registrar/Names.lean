import Registrar.Text.Case

/-!
Distinct names. Names that differ in case only count as one; the first spelling is kept, at its
place.
-/

set_option autoImplicit false

namespace Registrar

/-- The names whose folded form is not among `seen` and not that of an earlier name. -/
def distinctAfter (seen : List String) : List String → List String
  | [] => []
  | name :: rest =>
      if Text.foldCase name ∈ seen then distinctAfter seen rest
      else name :: distinctAfter (Text.foldCase name :: seen) rest

/-- One name for each folded form, the first one, in the order of the names. -/
def distinctNames (names : List String) : List String := distinctAfter [] names

theorem mem_of_mem_distinctAfter {seen names : List String} {name : String}
    (h : name ∈ distinctAfter seen names) : name ∈ names := by
  induction names generalizing seen with
  | nil => simp [distinctAfter] at h
  | cons other rest ih =>
      simp only [distinctAfter] at h
      split at h
      · exact List.mem_cons_of_mem _ (ih h)
      · rcases List.mem_cons.1 h with rfl | h
        · exact List.mem_cons_self
        · exact List.mem_cons_of_mem _ (ih h)

end Registrar
