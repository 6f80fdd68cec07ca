import Mathlib
import Registrar.Manifest.Read
import Registrar.Proofs.Manifest.Order

/-!
Reading a manifest, for every document. It is refused for what its keys and values are, or the
manifest that they give is looked through for faults, of which the first is reported. All of this
is said of look-ups in tables without double keys, so that the order of keys plays no part.
-/

set_option autoImplicit false

namespace Registrar

open Toml (Value)

theorem Text.isEmpty_trim_iff {text : String} :
    (trim text).isEmpty = true ↔ ∀ c ∈ text.toList, isBlank c = true := by
  have nothing_left : trimChars text.toList = [] ↔ text.toList.dropWhile isBlank = [] := by
    change (text.toList.dropWhile isBlank).rdropWhile isBlank = [] ↔ _
    rw [List.rdropWhile_eq_nil_iff, ← List.dropWhile_eq_nil_iff, List.dropWhile_idempotent]
  rw [trim, String.isEmpty_iff, ← String.toList_eq_nil_iff, String.toList_ofList, nothing_left,
    List.dropWhile_eq_nil_iff]

def IsDotted (extension : String) : Prop := ['.'] <+: extension.toList

namespace Fault

/-- That a manifest has the fault. Of the extensions with a dot in front only the first counts. -/
def Found (manifest : Manifest) : Fault → Prop
  | .blankMarker => ∀ c ∈ manifest.scan.marker.toList, Text.isBlank c = true
  | .noExtensions => manifest.scan.extensions = []
  | .dottedExtension extension => ∃ front back,
      manifest.scan.extensions = front ++ extension :: back ∧
        IsDotted extension ∧ ∀ other ∈ front, ¬IsDotted other
  | .emptyArtifact => manifest.output.artifact.text = ""

/-- The place of a fault in the order in which faults are looked for. -/
def rank : Fault → Nat
  | .blankMarker => 0
  | .noExtensions => 1
  | .dottedExtension _ => 2
  | .emptyArtifact => 3

def IsFirst (manifest : Manifest) (fault : Fault) : Prop :=
  fault.Found manifest ∧ ∀ other : Fault, other.Found manifest → fault.rank ≤ other.rank

end Fault

namespace Manifest

theorem find?_dotted_eq_some_iff {extensions : List String} {extension : String} :
    (extensions.find? fun extension => extension.toList.head? == some '.') = some extension ↔
      ∃ front back, extensions = front ++ extension :: back ∧
        IsDotted extension ∧ ∀ other ∈ front, ¬IsDotted other := by
  have dotted (extension : String) :
      (extension.toList.head? == some '.') = true ↔ IsDotted extension := by
    simp [IsDotted, List.cons_prefix_iff, List.head?_eq_some_iff]
  simp only [List.find?_eq_some_iff_append, Bool.not_eq_true', ← Bool.not_eq_true, dotted]
  tauto

theorem fault?_cases (manifest : Manifest) :
    (∃ fault : Fault, manifest.fault? = some fault ∧ fault.IsFirst manifest) ∨
      (manifest.fault? = none ∧ ∀ fault : Fault, ¬fault.Found manifest) := by
  unfold fault?
  split
  next blank =>
    exact .inl ⟨_, rfl, Text.isEmpty_trim_iff.mp blank, fun other _ => Nat.zero_le _⟩
  next solid =>
    have solid : ¬Fault.blankMarker.Found manifest := fun blank =>
      solid (Text.isEmpty_trim_iff.mpr blank)
    split
    next none_given =>
      refine .inl ⟨_, rfl, List.isEmpty_iff.mp none_given, fun other found => ?_⟩
      cases other with
      | blankMarker => exact absurd found solid
      | noExtensions | dottedExtension | emptyArtifact => simp [Fault.rank]
    next some_given =>
      have some_given : ¬Fault.noExtensions.Found manifest := fun none_given =>
        some_given (List.isEmpty_iff.mpr none_given)
      split
      next extension dotted =>
        refine .inl ⟨_, rfl, find?_dotted_eq_some_iff.mp dotted, fun other found => ?_⟩
        cases other with
        | blankMarker => exact absurd found solid
        | noExtensions => exact absurd found some_given
        | dottedExtension | emptyArtifact => simp [Fault.rank]
      next plain =>
        have plain (extension : String) : ¬(Fault.dottedExtension extension).Found manifest := by
          intro found
          rw [find?_dotted_eq_some_iff.mpr found] at plain
          cases plain
        split
        next empty =>
          refine .inl ⟨_, rfl, String.isEmpty_iff.mp empty, fun other found => ?_⟩
          cases other with
          | blankMarker => exact absurd found solid
          | noExtensions => exact absurd found some_given
          | dottedExtension extension => exact absurd found (plain extension)
          | emptyArtifact => exact Nat.le_refl _
        next named =>
          refine .inr ⟨rfl, fun fault found => ?_⟩
          cases fault with
          | blankMarker => exact solid found
          | noExtensions => exact some_given found
          | dottedExtension extension => exact plain extension found
          | emptyArtifact => exact named (String.isEmpty_iff.mpr found)

theorem check_ne_unparsable (manifest : Manifest) (source : String) :
    manifest.check source ≠ .error .unparsable := by
  unfold check
  split <;> simp

theorem mapError_check (manifest : Manifest) (source other : String) :
    (manifest.check source).mapError ManifestError.message =
      (manifest.check other).mapError ManifestError.message := by
  unfold check
  cases manifest.fault? <;> rfl

theorem read_eq {source : String} {entries : List (String × Value)}
    (document : Toml.read? source = some entries) :
    read source =
      match ofEntries? entries with
      | some manifest => manifest.check source
      | none => .error .unparsable := by
  rw [read, document]
  rfl

/-- A document gives no manifest exactly when it has an unknown key, a value of the wrong form or
an unknown mode. Otherwise it gives the default manifest, overridden by its values, unless that has
a fault, of which the first is reported. The order of keys and sections has no effect. -/
theorem read_by_settings {source : String} {entries : List (String × Value)}
    (document : Toml.read? source = some entries) (plain : PlainSections entries) :
    (read source = .error .unparsable ↔
      HasUnknownKey entries ∨ HasWrongType entries ∨ HasUnknownMode entries) ∧
    (¬(HasUnknownKey entries ∨ HasWrongType entries ∨ HasUnknownMode entries) →
      (∃ fault : Fault, fault.IsFirst (overridden entries) ∧
        read source = .error (.invalid fault (keySpan? source fault.key))) ∨
      ((∀ fault : Fault, ¬fault.Found (overridden entries)) ∧
        read source = .ok (overridden entries))) ∧
    (∀ extension span, (ManifestError.invalid (.dottedExtension extension) span).message =
      "extension '" ++ extension ++ "' must not start with a dot") ∧
    ∀ other others, Toml.read? other = some others →
      (Value.table entries).Reordered (.table others) →
        (read other).mapError ManifestError.message =
          (read source).mapError ManifestError.message := by
  have distinct := Toml.distinctKeys_of_read? document
  have keys_distinct := (Toml.Value.distinctKeys_table.mp distinct).1
  have refused := ofEntries?_eq_none_iff plain keys_distinct
  refine ⟨?_, ?_, fun _ _ => rfl, ?_⟩
  · rw [← refused, read_eq document]
    cases ofEntries? entries with
    | none => simp
    | some manifest => simp [check_ne_unparsable]
  · rw [← refused, read_eq document]
    intro accepted
    obtain ⟨manifest, put⟩ := Option.ne_none_iff_exists'.mp accepted
    obtain rfl := eq_overridden plain distinct put
    rw [put]
    obtain ⟨fault, reported, first⟩ | ⟨none_reported, none_found⟩ :=
      fault?_cases (overridden entries)
    · exact .inl ⟨fault, first, by simp [check, reported]⟩
    · exact .inr ⟨none_found, by simp [check, none_reported]⟩
  · intro other others other_document same
    have equal := ofEntries?_eq plain same distinct (Toml.distinctKeys_of_read? other_document)
    rw [read_eq document, read_eq other_document, equal]
    cases ofEntries? others with
    | none => rfl
    | some manifest => exact mapError_check manifest other source

def dottedSource : String :=
  "[output]\nmode = 'append'\n\n[scan]\nextensions = ['cs', \".csx\", '.vb']\nmarker = \"Aot\"\n"

def dottedEntries : List (String × Value) :=
  [("output", .table [("mode", .string "append")]),
    ("scan", .table [("extensions", .array [.string "cs", .string ".csx", .string ".vb"]),
      ("marker", .string "Aot")])]

def turnedSource : String :=
  "scan = \x7b marker = \"Aot\", extensions = ['cs', '.csx', '.vb'] \x7d\noutput.mode = 'append'"

def turnedEntries : List (String × Value) :=
  [("scan", .table [("marker", .string "Aot"),
      ("extensions", .array [.string "cs", .string ".csx", .string ".vb"])]),
    ("output", .table [("mode", .string "append")])]

theorem turnedEntries_reordered :
    (Value.table dottedEntries).Reordered (.table turnedEntries) := by
  have extensions : (Value.array [.string "cs", .string ".csx", .string ".vb"]).Reordered
      (.array [.string "cs", .string ".csx", .string ".vb"]) :=
    .array (.cons (.string _) (.cons (.string _) (.cons (.string _) .nil)))
  have output : (Value.table [("mode", .string "append")]).Reordered
      (.table [("mode", .string "append")]) :=
    .table (.cons (.intro _ (.string _)) .nil) (.refl _)
  refine .table (.cons (.intro _ output) (.cons (.intro _ (.table ?_ (.swap _ _ _))) .nil))
    (.swap _ _ _)
  exact .cons (.intro _ extensions) (.cons (.intro _ (.string _)) .nil)

/-- The first of two extensions with a dot is reported, in whatever order the settings come. -/
theorem dotted_extension_in_any_order :
    Toml.read? dottedSource = some dottedEntries ∧ PlainSections dottedEntries ∧
      ¬(HasUnknownKey dottedEntries ∨ HasWrongType dottedEntries ∨ HasUnknownMode dottedEntries) ∧
      (∃ fault : Fault, fault.IsFirst (overridden dottedEntries) ∧
        read dottedSource = .error (.invalid fault (keySpan? dottedSource fault.key))) ∧
      (read turnedSource).mapError ManifestError.message =
        .error "extension '.csx' must not start with a dot" := by
  have document : Toml.read? dottedSource = some dottedEntries := by cbv
  have turned_document : Toml.read? turnedSource = some turnedEntries := by cbv
  have plain : PlainSections dottedEntries := by
    constructor
    · simp [dottedEntries]
    · simp [dottedEntries, given]
  obtain ⟨refused, accepted, -, in_any_order⟩ := read_by_settings document plain
  have outcome : (read dottedSource).mapError ManifestError.message =
      .error "extension '.csx' must not start with a dot" := by
    rw [read_eq document]
    rfl
  have fits : ¬(HasUnknownKey dottedEntries ∨ HasWrongType dottedEntries ∨
      HasUnknownMode dottedEntries) := by
    intro unfit
    rw [refused.mpr unfit] at outcome
    exact absurd outcome (by decide)
  obtain first | ⟨-, sound⟩ := accepted fits
  · exact ⟨document, plain, fits, first,
      (in_any_order _ _ turned_document turnedEntries_reordered).trans outcome⟩
  · rw [sound] at outcome
    cases outcome

end Manifest

end Registrar
