import Registrar.Manifest.Decode
import Registrar.Proofs.Toml.Keys
import Registrar.Proofs.Toml.Order

/-!
The manifest that a table gives. It is the default one, overridden by the values that the table
gives to keys of its sections; a table with an unknown key, with a value of the wrong form or with
an unknown mode gives none. Settings are put in one after another, so that what holds of one of
them, whether it is taken and what it puts where, is carried over to all by induction.
-/

set_option autoImplicit false

namespace Registrar

open Toml (Value)

/-- What the value of a setting has to be. -/
inductive Form where
  | text
  | texts

def Form.Takes : Form → Value → Prop
  | .text, value => ∃ content, value = .string content
  | .texts, value => ∃ contents : List String, value = .array (contents.map Value.string)

namespace Manifest

def scanForms : List (String × Form) :=
  [("root", .text), ("extensions", .texts), ("exclude", .texts), ("marker", .text)]

def outputForms : List (String × Form) :=
  [("artifact", .text), ("entry_point", .text), ("mode", .text)]

def sections : List (String × List (String × Form)) :=
  [("scan", scanForms), ("output", outputForms)]

def given (entries : List (String × Value)) (name : String) : List (String × Value) :=
  match entries.lookup name with
  | some (.table inner) => inner
  | _ => []

/-- Sections are tables, and the mode is called by a string. -/
structure PlainSections (entries : List (String × Value)) : Prop where
  tables : ∀ entry ∈ entries, entry.1 ∈ sections.map Prod.fst → ∃ inner, entry.2 = .table inner
  mode : ∀ entry ∈ given entries "output", entry.1 = "mode" → ∃ text, entry.2 = .string text

def HasUnknownKey (entries : List (String × Value)) : Prop :=
  (∃ entry ∈ entries, entry.1 ∉ sections.map Prod.fst) ∨
    ∃ part ∈ sections, ∃ entry ∈ given entries part.1, entry.1 ∉ part.2.map Prod.fst

def HasWrongType (entries : List (String × Value)) : Prop :=
  ∃ part ∈ sections, ∃ entry ∈ given entries part.1,
    ∃ form, (entry.1, form) ∈ part.2 ∧ ¬form.Takes entry.2

def IsUnknownMode (key : String) (value : Value) : Prop :=
  key = "mode" ∧ ∃ text, value = .string text ∧ text ∉ ["overwrite", "append"]

def HasUnknownMode (entries : List (String × Value)) : Prop :=
  ∃ entry ∈ given entries "output", IsUnknownMode entry.1 entry.2

def path? (value : Value) : Option Path := value.text?.map Path.mk

def mode? (value : Value) : Option WriteMode := value.text?.bind WriteMode.ofName?

def overriddenScan (inner : List (String × Value)) : ScanSettings where
  root := ((inner.lookup "root").bind path?).getD { : ScanSettings }.root
  extensions := ((inner.lookup "extensions").bind Value.texts?).getD { : ScanSettings }.extensions
  exclude := ((inner.lookup "exclude").bind Value.texts?).getD { : ScanSettings }.exclude
  marker := ((inner.lookup "marker").bind Value.text?).getD { : ScanSettings }.marker

def overriddenOutput (inner : List (String × Value)) : OutputSettings where
  artifact := ((inner.lookup "artifact").bind path?).getD { : OutputSettings }.artifact
  entryPoint := ((inner.lookup "entry_point").bind path?).getD { : OutputSettings }.entryPoint
  mode := ((inner.lookup "mode").bind mode?).getD { : OutputSettings }.mode

def overridden (entries : List (String × Value)) : Manifest where
  scan := overriddenScan (given entries "scan")
  output := overriddenOutput (given entries "output")

end Manifest

section Putting

variable {α β : Type} {set? : α → String → Value → Option α} {entries : List (String × Value)}

theorem isSome_foldlM_iff {taken : String × Value → Prop}
    (step : ∀ entry ∈ entries, ∀ settings : α,
      (set? settings entry.1 entry.2).isSome ↔ taken entry) (settings : α) :
    (entries.foldlM (fun settings entry => set? settings entry.1 entry.2) settings).isSome ↔
      ∀ entry ∈ entries, taken entry := by
  induction entries generalizing settings with
  | nil => simp
  | cons entry rest inductionHypothesis =>
      obtain ⟨head, tail⟩ := List.forall_mem_cons.mp step
      rw [List.foldlM_cons, List.forall_mem_cons, ← head settings]
      cases set? settings entry.1 entry.2 with
      | none => simp
      | some changed => simpa using inductionHypothesis tail changed

/-- That putting a value under the key changes the field to what is read of the value, and that
putting one under another key leaves the field. -/
def Puts (set? : α → String → Value → Option α) (field : α → β) (key : String)
    (read : Value → Option β) : Prop :=
  ∀ ⦃settings : α⦄ ⦃name : String⦄ ⦃value : Value⦄ ⦃changed : α⦄,
    set? settings name value = some changed →
      field changed = if name = key then (read value).getD (field settings) else field settings

/-- A field in the end is what is read of the only value under its key, or what it was before. -/
theorem Puts.field_foldlM {field : α → β} {key : String} {read : Value → Option β}
    (puts : Puts set? field key read) (distinct : (entries.map Prod.fst).Nodup)
    {settings result : α}
    (put : entries.foldlM (fun settings entry => set? settings entry.1 entry.2) settings =
      some result) :
    field result = ((entries.lookup key).bind read).getD (field settings) := by
  induction entries generalizing settings with
  | nil =>
      cases put
      rfl
  | cons entry rest inductionHypothesis =>
      obtain ⟨name, value⟩ := entry
      obtain ⟨absent, rest_distinct⟩ := List.nodup_cons.mp distinct
      rw [List.foldlM_cons] at put
      obtain ⟨changed, head, tail⟩ := Option.bind_eq_some_iff.mp put
      rw [inductionHypothesis rest_distinct tail, puts head]
      by_cases hit : name = key
      · subst hit
        have elsewhere : rest.lookup name = none := by
          rw [List.lookup_eq_none_iff]
          intro other member
          have different : name ≠ other.1 := fun same =>
            absent (List.mem_map.mpr ⟨other, member, same.symm⟩)
          simpa using different
        rw [elsewhere, if_pos rfl, List.lookup_cons_self]
        rfl
      · have missed : (key == name) = false := by simpa using Ne.symm hit
        rw [if_neg hit, List.lookup_cons, missed]

end Putting

section Forms

theorem Toml.Value.text?_eq_some_iff {value : Value} {content : String} :
    value.text? = some content ↔ value = .string content := by
  cases value <;> simp [Value.text?]

theorem Toml.Value.texts?_eq_some_iff {value : Value} {contents : List String} :
    value.texts? = some contents ↔ value = .array (contents.map Value.string) := by
  cases value with
  | string | scalar | table => simp [Value.texts?]
  | array items =>
      rw [Value.array.injEq]
      change items.mapM Value.text? = some contents ↔ _
      induction items generalizing contents with
      | nil => cases contents <;> simp
      | cons item rest inductionHypothesis =>
          cases contents with
          | nil => simp [List.mapM_cons, Option.bind_eq_some_iff]
          | cons content contents =>
              simp [List.mapM_cons, Option.bind_eq_some_iff, Value.text?_eq_some_iff,
                inductionHypothesis]

theorem Form.takes_text_iff {value : Value} : Form.text.Takes value ↔ value.text?.isSome := by
  simp [Form.Takes, Option.isSome_iff_exists, Value.text?_eq_some_iff]

theorem Form.takes_texts_iff {value : Value} : Form.texts.Takes value ↔ value.texts?.isSome := by
  simp [Form.Takes, Option.isSome_iff_exists, Value.texts?_eq_some_iff]

/-- That a key is one of a section's, and that its value has the form of the setting. -/
def Fits (forms : List (String × Form)) (key : String) (value : Value) : Prop :=
  key ∈ forms.map Prod.fst ∧ ∀ form, (key, form) ∈ forms → form.Takes value

end Forms

namespace ScanSettings

theorem isSome_set?_iff {settings : ScanSettings} {key : String} {value : Value} :
    (settings.set? key value).isSome ↔ Fits Manifest.scanForms key value := by
  unfold set?
  split <;> simp_all [Fits, Manifest.scanForms, Form.takes_text_iff, Form.takes_texts_iff]

theorem set?_eq {settings changed : ScanSettings} {key : String} {value : Value}
    (put : settings.set? key value = some changed) :
    changed =
      { root := if key = "root" then (Manifest.path? value).getD settings.root else settings.root
        extensions :=
          if key = "extensions" then value.texts?.getD settings.extensions
          else settings.extensions
        exclude :=
          if key = "exclude" then value.texts?.getD settings.exclude else settings.exclude
        marker :=
          if key = "marker" then value.text?.getD settings.marker else settings.marker } := by
  unfold set? at put
  split at put
  case h_5 => cases put
  all_goals
    obtain ⟨content, found, rfl⟩ := Option.map_eq_some_iff.mp put
    simp [Manifest.path?, found]

theorem eq_overridden {inner : List (String × Value)} {settings : ScanSettings}
    (distinct : (inner.map Prod.fst).Nodup)
    (read : readSection? keys set? { } (.table inner) = some settings) :
    settings = Manifest.overriddenScan inner := by
  have root : Puts set? ScanSettings.root "root" Manifest.path? :=
    fun _ _ _ _ put => by rw [set?_eq put]
  have extensions : Puts set? ScanSettings.extensions "extensions" Value.texts? :=
    fun _ _ _ _ put => by rw [set?_eq put]
  have exclude : Puts set? ScanSettings.exclude "exclude" Value.texts? :=
    fun _ _ _ _ put => by rw [set?_eq put]
  have marker : Puts set? ScanSettings.marker "marker" Value.text? :=
    fun _ _ _ _ put => by rw [set?_eq put]
  calc settings = ⟨settings.root, settings.extensions, settings.exclude, settings.marker⟩ := rfl
    _ = Manifest.overriddenScan inner := by
      rw [root.field_foldlM distinct read, extensions.field_foldlM distinct read,
        exclude.field_foldlM distinct read, marker.field_foldlM distinct read]
      rfl

end ScanSettings

theorem WriteMode.isSome_ofName?_iff {text : String} :
    (WriteMode.ofName? text).isSome ↔ text ∈ ["overwrite", "append"] := by
  unfold ofName?
  split <;> simp_all

namespace OutputSettings

theorem isSome_set?_iff {settings : OutputSettings} {key : String} {value : Value}
    (plain : key = "mode" → ∃ text, value = .string text) :
    (settings.set? key value).isSome ↔
      Fits Manifest.outputForms key value ∧ ¬Manifest.IsUnknownMode key value := by
  unfold set? Manifest.IsUnknownMode
  split
  case h_3 =>
    obtain ⟨text, rfl⟩ := plain rfl
    simp [Fits, Manifest.outputForms, Form.takes_text_iff, Value.text?, WriteMode.ofValue?,
      WriteMode.isSome_ofName?_iff, or_iff_not_imp_left]
  all_goals simp_all [Fits, Manifest.outputForms, Form.takes_text_iff]

theorem set?_eq {settings changed : OutputSettings} {key : String} {value : Value}
    (put : settings.set? key value = some changed) :
    changed =
      { artifact :=
          if key = "artifact" then (Manifest.path? value).getD settings.artifact
          else settings.artifact
        entryPoint :=
          if key = "entry_point" then (Manifest.path? value).getD settings.entryPoint
          else settings.entryPoint
        mode :=
          if key = "mode" then (WriteMode.ofValue? value).getD settings.mode
          else settings.mode } := by
  unfold set? at put
  split at put
  case h_4 => cases put
  all_goals
    obtain ⟨content, found, rfl⟩ := Option.map_eq_some_iff.mp put
    simp [Manifest.path?, found]

theorem eq_overridden {inner : List (String × Value)} {settings : OutputSettings}
    (distinct : (inner.map Prod.fst).Nodup)
    (plain : ∀ entry ∈ inner, entry.1 = "mode" → ∃ text, entry.2 = .string text)
    (read : readSection? keys set? { } (.table inner) = some settings) :
    settings = Manifest.overriddenOutput inner := by
  have artifact : Puts set? OutputSettings.artifact "artifact" Manifest.path? :=
    fun _ _ _ _ put => by rw [set?_eq put]
  have entryPoint : Puts set? OutputSettings.entryPoint "entry_point" Manifest.path? :=
    fun _ _ _ _ put => by rw [set?_eq put]
  have mode : Puts set? OutputSettings.mode "mode" WriteMode.ofValue? :=
    fun _ _ _ _ put => by rw [set?_eq put]
  have named : (inner.lookup "mode").bind WriteMode.ofValue? =
      (inner.lookup "mode").bind Manifest.mode? := by
    cases found : inner.lookup "mode" with
    | none => rfl
    | some value =>
        have member := (Toml.lookup_eq_some_iff_mem distinct).mp found
        obtain ⟨text, rfl⟩ := plain _ member rfl
        rfl
  calc settings = ⟨settings.artifact, settings.entryPoint, settings.mode⟩ := rfl
    _ = Manifest.overriddenOutput inner := by
      rw [artifact.field_foldlM distinct read, entryPoint.field_foldlM distinct read,
        mode.field_foldlM distinct read, named]
      rfl

end OutputSettings

namespace Manifest

variable {entries : List (String × Value)}

theorem given_eq {name : String} {inner : List (String × Value)}
    (distinct : (entries.map Prod.fst).Nodup) (member : (name, .table inner) ∈ entries) :
    given entries name = inner := by
  rw [given, (Toml.lookup_eq_some_iff_mem distinct).mpr member]

theorem given_eq_nil_or (distinct : (entries.map Prod.fst).Nodup) (name : String) :
    given entries name = [] ∨ ∃ inner, (name, Value.table inner) ∈ entries := by
  cases found : entries.lookup name with
  | none => exact .inl (by rw [given, found])
  | some value =>
      have member := (Toml.lookup_eq_some_iff_mem distinct).mp found
      cases value with
      | string | scalar | array => exact .inl (by rw [given, found])
      | table inner => exact .inr ⟨inner, member⟩

theorem nodup_given (distinct : (Value.table entries).DistinctKeys) (name : String) :
    ((given entries name).map Prod.fst).Nodup := by
  obtain ⟨keys_distinct, each⟩ := Toml.Value.distinctKeys_table.mp distinct
  obtain nothing | ⟨inner, member⟩ := given_eq_nil_or keys_distinct name
  · simp [nothing]
  · rw [given_eq keys_distinct member]
    exact (Toml.Value.distinctKeys_table.mp (each _ member)).1

/-- That a value under a key of the document is a section that can be read. -/
def Reads (name : String) (value : Value) : Prop :=
  (name = "scan" ∧ (readSection? ScanSettings.keys ScanSettings.set? { } value).isSome) ∨
    (name = "output" ∧ (readSection? OutputSettings.keys OutputSettings.set? { } value).isSome)

theorem isSome_set?_iff {manifest : Manifest} {name : String} {value : Value} :
    (manifest.set? name value).isSome ↔ Reads name value := by
  unfold set?
  split <;> simp_all [Reads]

theorem isSome_ofEntries?_iff :
    (ofEntries? entries).isSome ↔ ∀ entry ∈ entries, Reads entry.1 entry.2 :=
  isSome_foldlM_iff (fun _ _ _ => isSome_set?_iff) _

theorem reads_scan_iff {inner : List (String × Value)} :
    Reads "scan" (.table inner) ↔ ∀ entry ∈ inner, Fits scanForms entry.1 entry.2 := by
  simp only [Reads, true_and, String.reduceEq, false_and, or_false]
  exact isSome_foldlM_iff (fun _ _ _ => ScanSettings.isSome_set?_iff) _

theorem reads_output_iff {inner : List (String × Value)}
    (plain : ∀ entry ∈ inner, entry.1 = "mode" → ∃ text, entry.2 = .string text) :
    Reads "output" (.table inner) ↔ ∀ entry ∈ inner,
      Fits outputForms entry.1 entry.2 ∧ ¬IsUnknownMode entry.1 entry.2 := by
  simp only [Reads, true_and, String.reduceEq, false_and, false_or]
  exact isSome_foldlM_iff
    (fun entry member _ => OutputSettings.isSome_set?_iff (plain entry member)) _

/-- A table gives a manifest exactly when its keys are sections and what it gives in each of them
fits. -/
theorem isSome_ofEntries?_iff_fits (plain : PlainSections entries)
    (distinct : (entries.map Prod.fst).Nodup) :
    (ofEntries? entries).isSome ↔
      (∀ entry ∈ entries, entry.1 ∈ sections.map Prod.fst) ∧
        (∀ part ∈ sections, ∀ entry ∈ given entries part.1, Fits part.2 entry.1 entry.2) ∧
          ¬HasUnknownMode entries := by
  rw [isSome_ofEntries?_iff]
  constructor
  · intro reads
    have known : ∀ entry ∈ entries, entry.1 ∈ sections.map Prod.fst := by
      intro entry member
      obtain ⟨name, -⟩ | ⟨name, -⟩ := reads entry member <;> simp [name, sections]
    have scan : ∀ entry ∈ given entries "scan", Fits scanForms entry.1 entry.2 := by
      obtain nothing | ⟨inner, member⟩ := given_eq_nil_or distinct "scan"
      · simp [nothing]
      · rw [given_eq distinct member]
        exact reads_scan_iff.mp (reads _ member)
    have output : ∀ entry ∈ given entries "output",
        Fits outputForms entry.1 entry.2 ∧ ¬IsUnknownMode entry.1 entry.2 := by
      obtain nothing | ⟨inner, member⟩ := given_eq_nil_or distinct "output"
      · simp [nothing]
      · have inside := given_eq distinct member
        have plain_inner := plain.mode
        rw [inside] at plain_inner ⊢
        exact (reads_output_iff plain_inner).mp (reads _ member)
    refine ⟨known, ?_, ?_⟩
    · simp only [sections, List.forall_mem_cons, List.not_mem_nil, false_implies, implies_true,
        and_true]
      exact ⟨scan, fun entry member => (output entry member).1⟩
    · rintro ⟨entry, member, unknown⟩
      exact (output entry member).2 unknown
  · rintro ⟨known, fits, mode⟩ ⟨name, value⟩ member
    obtain ⟨inner, rfl⟩ := plain.tables _ member (known _ member)
    have inside := given_eq distinct member
    have names : name = "scan" ∨ name = "output" := by
      simpa [sections] using known _ member
    obtain rfl | rfl := names
    · rw [reads_scan_iff, ← inside]
      exact fits ("scan", scanForms) (by simp [sections])
    · have plain_inner := plain.mode
      rw [inside] at plain_inner
      rw [reads_output_iff plain_inner, ← inside]
      intro entry entry_member
      exact ⟨fits ("output", outputForms) (by simp [sections]) entry entry_member,
        fun unknown => mode ⟨entry, entry_member, unknown⟩⟩

/-- A table gives no manifest exactly when it has an unknown key, a value of the wrong form or an
unknown mode. -/
theorem ofEntries?_eq_none_iff (plain : PlainSections entries)
    (distinct : (entries.map Prod.fst).Nodup) :
    ofEntries? entries = none ↔
      HasUnknownKey entries ∨ HasWrongType entries ∨ HasUnknownMode entries := by
  have known : ¬HasUnknownKey entries ↔ (∀ entry ∈ entries, entry.1 ∈ sections.map Prod.fst) ∧
      ∀ part ∈ sections, ∀ entry ∈ given entries part.1, entry.1 ∈ part.2.map Prod.fst := by
    simp only [HasUnknownKey, not_or, not_exists, not_and, not_not]
  have formed : ¬HasWrongType entries ↔ ∀ part ∈ sections, ∀ entry ∈ given entries part.1,
      ∀ form, (entry.1, form) ∈ part.2 → form.Takes entry.2 := by
    simp only [HasWrongType, not_exists, not_and, not_not]
  rw [← not_iff_not, ← ne_eq, Option.ne_none_iff_isSome, isSome_ofEntries?_iff_fits plain distinct,
    not_or, not_or, known, formed]
  simp only [Fits, imp_and, forall_and]
  tauto

theorem field_eq {α : Type} {field : Manifest → α} {name : String} {read : Value → Option α}
    {override : List (String × Value) → α} {manifest : Manifest}
    (puts : Puts set? field name read) (distinct : (entries.map Prod.fst).Nodup)
    (default : field { } = override [])
    (section_eq : ∀ value, (name, value) ∈ entries → ∃ inner, value = .table inner ∧
      read value = some (override inner))
    (put : ofEntries? entries = some manifest) :
    field manifest = override (given entries name) := by
  rw [puts.field_foldlM distinct put, given]
  cases found : entries.lookup name with
  | none => exact default
  | some value =>
      obtain ⟨inner, rfl, read_eq⟩ :=
        section_eq value ((Toml.lookup_eq_some_iff_mem distinct).mp found)
      simp [read_eq]

theorem puts_scan : Puts set? Manifest.scan "scan"
    (readSection? ScanSettings.keys ScanSettings.set? { }) := by
  intro manifest name value changed put
  unfold set? at put
  split at put
  case h_3 => cases put
  all_goals
    obtain ⟨settings, read, rfl⟩ := Option.map_eq_some_iff.mp put
    simp [read]

theorem puts_output : Puts set? Manifest.output "output"
    (readSection? OutputSettings.keys OutputSettings.set? { }) := by
  intro manifest name value changed put
  unfold set? at put
  split at put
  case h_3 => cases put
  all_goals
    obtain ⟨settings, read, rfl⟩ := Option.map_eq_some_iff.mp put
    simp [read]

theorem eq_overridden {manifest : Manifest} (plain : PlainSections entries)
    (distinct : (Value.table entries).DistinctKeys) (put : ofEntries? entries = some manifest) :
    manifest = overridden entries := by
  have keys_distinct := (Toml.Value.distinctKeys_table.mp distinct).1
  have reads := isSome_ofEntries?_iff.mp (Option.isSome_iff_exists.mpr ⟨manifest, put⟩)
  have inner_distinct {name : String} {inner : List (String × Value)}
      (member : (name, .table inner) ∈ entries) : (inner.map Prod.fst).Nodup :=
    given_eq keys_distinct member ▸ nodup_given distinct name
  have scan : manifest.scan = overriddenScan (given entries "scan") := by
    apply field_eq puts_scan keys_distinct rfl _ put
    intro value member
    obtain ⟨inner, rfl⟩ := plain.tables _ member (by simp [sections])
    have taken := reads _ member
    simp only [Reads, true_and, String.reduceEq, false_and, or_false] at taken
    obtain ⟨settings, read⟩ := Option.isSome_iff_exists.mp taken
    exact ⟨inner, rfl, ScanSettings.eq_overridden (inner_distinct member) read ▸ read⟩
  have output : manifest.output = overriddenOutput (given entries "output") := by
    apply field_eq puts_output keys_distinct rfl _ put
    intro value member
    obtain ⟨inner, rfl⟩ := plain.tables _ member (by simp [sections])
    have taken := reads _ member
    simp only [Reads, true_and, String.reduceEq, false_and, false_or] at taken
    obtain ⟨settings, read⟩ := Option.isSome_iff_exists.mp taken
    have plain_inner := plain.mode
    rw [given_eq keys_distinct member] at plain_inner
    exact ⟨inner, rfl,
      OutputSettings.eq_overridden (inner_distinct member) plain_inner read ▸ read⟩
  calc manifest = ⟨manifest.scan, manifest.output⟩ := rfl
    _ = overridden entries := by rw [scan, output]; rfl

end Manifest

end Registrar
