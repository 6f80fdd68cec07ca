import Mathlib.Data.List.Forall2
import Mathlib.Data.List.Nodup
import Registrar.Toml.Value

/-!
Values that differ in the order of keys. Where no key comes twice, looking a key up gives the same
in both, up to the order of keys within what is found.
-/

set_option autoImplicit false

namespace Registrar.Toml

inductive SameKey (related : Value → Value → Prop) : String × Value → String × Value → Prop
  | intro (key : String) {value other : Value} (same : related value other) :
      SameKey related (key, value) (key, other)

/-- That two values are the same up to the order in which tables give their keys. -/
inductive Value.Reordered : Value → Value → Prop
  | string (text : String) : Reordered (.string text) (.string text)
  | scalar (text : String) : Reordered (.scalar text) (.scalar text)
  | array {items others : List Value} (each : List.Forall₂ Reordered items others) :
      Reordered (.array items) (.array others)
  | table {entries middle others : List (String × Value)}
      (each : List.Forall₂ (SameKey Reordered) entries middle) (order : middle.Perm others) :
      Reordered (.table entries) (.table others)

namespace Value.Reordered

theorem text?_eq {value other : Value} (same : value.Reordered other) :
    value.text? = other.text? := by
  cases same <;> rfl

theorem eq_string_iff {value other : Value} (same : value.Reordered other) (text : String) :
    value = .string text ↔ other = .string text := by
  cases same <;> simp

theorem exists_table_iff {value other : Value} (same : value.Reordered other) :
    (∃ inner, value = .table inner) ↔ ∃ inner, other = .table inner := by
  cases same <;> simp

theorem texts?_eq {value other : Value} (same : value.Reordered other) :
    value.texts? = other.texts? := by
  cases same with
  | string | scalar | table => rfl
  | array each =>
      change List.mapM text? _ = List.mapM text? _
      induction each with
      | nil => rfl
      | cons head _ inductionHypothesis =>
          rw [List.mapM_cons, List.mapM_cons, text?_eq head, inductionHypothesis]

end Value.Reordered

section Lookup

variable {entries others : List (String × Value)}

theorem lookup_eq_some_iff_mem (distinct : (entries.map Prod.fst).Nodup) {key : String}
    {value : Value} : entries.lookup key = some value ↔ (key, value) ∈ entries := by
  induction entries with
  | nil => simp
  | cons entry rest inductionHypothesis =>
      obtain ⟨first, found⟩ := entry
      obtain ⟨absent, rest_distinct⟩ := List.nodup_cons.mp distinct
      by_cases hit : key = first
      · subst hit
        have elsewhere : (key, value) ∉ rest := fun member =>
          absent (List.mem_map.mpr ⟨_, member, rfl⟩)
        simp [elsewhere, eq_comm]
      · have missed : (key == first) = false := by simpa using hit
        simp [List.lookup_cons, missed, hit, inductionHypothesis rest_distinct]

theorem Value.Reordered.lookup (same : (Value.table entries).Reordered (.table others))
    (distinct : (others.map Prod.fst).Nodup) (key : String) :
    Option.Rel Reordered (entries.lookup key) (others.lookup key) := by
  cases same with
  | @table _ middle _ each order =>
      have middle_distinct : (middle.map Prod.fst).Nodup :=
        (order.map Prod.fst).nodup_iff.mpr distinct
      have reordered : middle.lookup key = others.lookup key := by
        apply Option.ext
        intro value
        rw [lookup_eq_some_iff_mem middle_distinct, lookup_eq_some_iff_mem distinct, order.mem_iff]
      rw [← reordered]
      clear reordered middle_distinct order distinct
      induction each with
      | nil => exact .none
      | cons head _ inductionHypothesis =>
          obtain ⟨first, same⟩ := head
          simp only [List.lookup_cons]
          split
          · exact .some same
          · exact inductionHypothesis

theorem Value.Reordered.bind_eq {β : Type} {read : Value → Option β}
    (respects : ∀ value other, value.Reordered other → read value = read other)
    {found other_found : Option Value} (same : Option.Rel Reordered found other_found) :
    found.bind read = other_found.bind read := by
  cases same with
  | none => rfl
  | some value_same => exact respects _ _ value_same

variable {satisfies : String × Value → Prop}

theorem Value.Reordered.exists_mem_iff
    (respects : ∀ key value other, value.Reordered other →
      (satisfies (key, value) ↔ satisfies (key, other)))
    (same : (Value.table entries).Reordered (.table others)) :
    (∃ entry ∈ entries, satisfies entry) ↔ ∃ entry ∈ others, satisfies entry := by
  cases same with
  | table each order =>
      simp only [← order.mem_iff]
      clear order
      induction each with
      | nil => rfl
      | cons head _ inductionHypothesis =>
          obtain ⟨key, value_same⟩ := head
          simp only [List.exists_mem_cons_iff, inductionHypothesis, respects key _ _ value_same]

theorem Value.Reordered.forall_mem_iff
    (respects : ∀ key value other, value.Reordered other →
      (satisfies (key, value) ↔ satisfies (key, other)))
    (same : (Value.table entries).Reordered (.table others)) :
    (∀ entry ∈ entries, satisfies entry) ↔ ∀ entry ∈ others, satisfies entry := by
  have failing : (∃ entry ∈ entries, ¬satisfies entry) ↔ ∃ entry ∈ others, ¬satisfies entry :=
    same.exists_mem_iff fun key value other value_same =>
      not_congr (respects key value other value_same)
  simpa only [not_exists, not_and, not_not] using not_congr failing

end Lookup

end Registrar.Toml
