import Registrar.Proofs.Manifest.Settings

/-!
Tables that differ in the order of their keys and sections. What decides on a manifest, and the
manifest itself, are found by looking keys up, so that such tables give the same.
-/

set_option autoImplicit false

namespace Registrar

open Toml (Value)

section Values

variable {value other : Value}

theorem Form.takes_iff (form : Form) (same : value.Reordered other) :
    form.Takes value ↔ form.Takes other := by
  cases form with
  | text => rw [takes_text_iff, takes_text_iff, same.text?_eq]
  | texts => rw [takes_texts_iff, takes_texts_iff, same.texts?_eq]

theorem Toml.Value.Reordered.path?_eq (same : value.Reordered other) :
    Manifest.path? value = Manifest.path? other := by
  rw [Manifest.path?, same.text?_eq, Manifest.path?]

theorem Toml.Value.Reordered.mode?_eq (same : value.Reordered other) :
    Manifest.mode? value = Manifest.mode? other := by
  rw [Manifest.mode?, same.text?_eq, Manifest.mode?]

end Values

namespace Manifest

variable {entries others : List (String × Value)}

theorem given_reordered (same : (Value.table entries).Reordered (.table others))
    (distinct : (others.map Prod.fst).Nodup) (name : String) :
    (Value.table (given entries name)).Reordered (.table (given others name)) := by
  have found := same.lookup distinct name
  unfold given
  generalize entries.lookup name = first at found ⊢
  generalize others.lookup name = second at found ⊢
  cases found with
  | none => exact .table .nil (.refl _)
  | some value_same =>
      cases value_same with
      | string | scalar | array => exact .table .nil (.refl _)
      | table each order => exact .table each order

theorem PlainSections.reordered (plain : PlainSections entries)
    (same : (Value.table entries).Reordered (.table others))
    (distinct : (others.map Prod.fst).Nodup) : PlainSections others := by
  constructor
  · refine (same.forall_mem_iff fun key value other value_same => ?_).mp plain.tables
    rw [value_same.exists_table_iff]
  · refine ((given_reordered same distinct "output").forall_mem_iff
      fun key value other value_same => ?_).mp plain.mode
    simp only [value_same.eq_string_iff]

theorem hasUnknownKey_iff (same : (Value.table entries).Reordered (.table others))
    (distinct : (others.map Prod.fst).Nodup) : HasUnknownKey entries ↔ HasUnknownKey others := by
  apply or_congr
  · exact same.exists_mem_iff fun key value other _ => Iff.rfl
  · refine exists_congr fun part => and_congr_right fun _ => ?_
    exact (given_reordered same distinct part.1).exists_mem_iff fun key value other _ => Iff.rfl

theorem hasWrongType_iff (same : (Value.table entries).Reordered (.table others))
    (distinct : (others.map Prod.fst).Nodup) : HasWrongType entries ↔ HasWrongType others := by
  refine exists_congr fun part => and_congr_right fun _ => ?_
  apply (given_reordered same distinct part.1).exists_mem_iff
  intro key value other value_same
  simp only [Form.takes_iff _ value_same]

theorem hasUnknownMode_iff (same : (Value.table entries).Reordered (.table others))
    (distinct : (others.map Prod.fst).Nodup) : HasUnknownMode entries ↔ HasUnknownMode others := by
  apply (given_reordered same distinct "output").exists_mem_iff
  intro key value other value_same
  simp only [IsUnknownMode, value_same.eq_string_iff]

theorem overridden_eq (same : (Value.table entries).Reordered (.table others))
    (distinct : (Value.table others).DistinctKeys) : overridden entries = overridden others := by
  have keys_distinct := (Toml.Value.distinctKeys_table.mp distinct).1
  have found (name key : String) : Option.Rel Value.Reordered ((given entries name).lookup key)
      ((given others name).lookup key) :=
    (given_reordered same keys_distinct name).lookup (nodup_given distinct name) key
  have path (name key : String) : ((given entries name).lookup key).bind path? =
      ((given others name).lookup key).bind path? :=
    Toml.Value.Reordered.bind_eq (fun _ _ => Toml.Value.Reordered.path?_eq) (found name key)
  have text (name key : String) : ((given entries name).lookup key).bind Value.text? =
      ((given others name).lookup key).bind Value.text? :=
    Toml.Value.Reordered.bind_eq (fun _ _ => Toml.Value.Reordered.text?_eq) (found name key)
  have texts (name key : String) : ((given entries name).lookup key).bind Value.texts? =
      ((given others name).lookup key).bind Value.texts? :=
    Toml.Value.Reordered.bind_eq (fun _ _ => Toml.Value.Reordered.texts?_eq) (found name key)
  have mode (name key : String) : ((given entries name).lookup key).bind mode? =
      ((given others name).lookup key).bind mode? :=
    Toml.Value.Reordered.bind_eq (fun _ _ => Toml.Value.Reordered.mode?_eq) (found name key)
  unfold overridden overriddenScan overriddenOutput
  simp only [path, text, texts, mode]

/-- The manifest of a table does not depend on the order of its keys and sections. -/
theorem ofEntries?_eq (plain : PlainSections entries)
    (same : (Value.table entries).Reordered (.table others))
    (distinct : (Value.table entries).DistinctKeys)
    (others_distinct : (Value.table others).DistinctKeys) :
    ofEntries? entries = ofEntries? others := by
  have entries_nodup := (Toml.Value.distinctKeys_table.mp distinct).1
  have others_nodup := (Toml.Value.distinctKeys_table.mp others_distinct).1
  have others_plain := plain.reordered same others_nodup
  have refused : ofEntries? entries = none ↔ ofEntries? others = none := by
    rw [ofEntries?_eq_none_iff plain entries_nodup,
      ofEntries?_eq_none_iff others_plain others_nodup, hasUnknownKey_iff same others_nodup,
      hasWrongType_iff same others_nodup, hasUnknownMode_iff same others_nodup]
  cases first : ofEntries? entries with
  | none => exact (refused.mp first).symm
  | some manifest =>
      cases second : ofEntries? others with
      | none => exact absurd (refused.mpr second) (by simp [first])
      | some other =>
          rw [eq_overridden plain distinct first, eq_overridden others_plain others_distinct second,
            overridden_eq same others_distinct]

end Manifest

end Registrar
