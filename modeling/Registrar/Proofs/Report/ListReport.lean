import Mathlib.Data.List.Forall2
import Registrar.Proofs.Json.RoundTrip
import Registrar.Report.ListReport

/-!
# Reports in JSON

Nothing of a listing gets lost in JSON: what a reader finds in the printed text is an object with
four members, from which the whole report is taken again.
-/

set_option autoImplicit false

namespace Registrar

namespace Json.Datum

def text? : Datum → Option String
  | .string text => some text
  | _ => none

def count? : Datum → Option Nat
  | .number ⟨.ofNat n, 0⟩ => some n
  | _ => none

def list? {α : Type} (read? : Datum → Option α) : Datum → Option (List α)
  | .array items => items.mapM read?
  | _ => none

def optional? {α : Type} (read? : Datum → Option α) : Datum → Option (Option α)
  | .null => some none
  | datum => (read? datum).map some

def member? (key : String) : Datum → Option Datum
  | .object fields => fields.lookup key
  | _ => none

@[simp]
theorem text?_string (text : String) : (Value.string text).datum.text? = some text := rfl

@[simp]
theorem count?_number (n : Nat) : (Value.number n).datum.count? = some n := rfl

@[simp]
theorem member?_object (key : String) (fields : List (String × Value)) :
    (Value.object fields).datum.member? key = (fields.lookup key).map Value.datum := by
  simp only [Value.datum, member?]
  induction fields with
  | nil => rfl
  | cons field rest inductionHypothesis =>
      obtain ⟨other, value⟩ := field
      simp only [fieldData, List.lookup_cons]
      cases key == other with
      | true => rfl
      | false => exact inductionHypothesis

section Written

variable {α : Type} {write : α → Value} {read? : Datum → Option α}
  (back : ∀ item, read? (write item).datum = some item)

include back

theorem list?_ofList (items : List α) :
    (Value.ofList write items).datum.list? read? = some items := by
  simp only [Value.ofList, Value.datum, list?, itemData_eq_map, List.map_map]
  induction items with
  | nil => rfl
  | cons item rest inductionHypothesis =>
      simp [back, inductionHypothesis]

theorem optional?_ofOption (present : ∀ item, (write item).datum ≠ .null) (item : Option α) :
    (Value.ofOption write item).datum.optional? read? = some item := by
  cases item with
  | none => rfl
  | some item =>
      simp only [Value.ofOption, Option.elim_some]
      unfold optional?
      split
      · rename_i missing
        exact absurd missing (present item)
      · rw [back]
        rfl

end Written

end Json.Datum

open Json (Datum)

def Finding.ofDatum? (datum : Datum) : Option Finding := do
  return {
    name := ← (← datum.member? "name").text?
    space := ← (← datum.member? "namespace").text?
    kind := ← TypeKind.ofKeyword? (← (← datum.member? "kind").text?)
    attr := ← (← datum.member? "annotation").text?
    path := ⟨← (← datum.member? "path").text?⟩
    line := ← (← datum.member? "line").count? }

def Diagnostic.ofDatum? (datum : Datum) : Option Diagnostic := do
  return {
    severity := ← Severity.ofName? (← (← datum.member? "severity").text?)
    phase := ← (← datum.member? "phase").text?
    message := ← (← datum.member? "message").text?
    location := ← (← datum.member? "location").optional? Datum.text? }

def ListReport.ofDatum? (datum : Datum) : Option ListReport := do
  return {
    files := ← (← datum.member? "files").count?
    types := ← (← datum.member? "types").list? Finding.ofDatum?
    names := ← (← datum.member? "names").list? Datum.text?
    diagnostics := ← (← datum.member? "diagnostics").list? Diagnostic.ofDatum? }

theorem Finding.ofDatum?_toJson (finding : Finding) :
    ofDatum? finding.toJson.datum = some finding := by
  simp [ofDatum?, toJson, List.lookup_cons]

theorem Diagnostic.ofDatum?_toJson (diagnostic : Diagnostic) :
    ofDatum? diagnostic.toJson.datum = some diagnostic := by
  have location := Datum.optional?_ofOption Datum.text?_string (by simp [Json.Value.datum])
    diagnostic.location
  simp [ofDatum?, toJson, List.lookup_cons, location]

theorem Diagnostic.location_toJson (diagnostic : Diagnostic) :
    diagnostic.toJson.datum.member? "location" = some .null ↔ diagnostic.location = none := by
  simp only [toJson, Datum.member?_object]
  cases diagnostic.location with
  | none => simp [List.lookup_cons, Json.Value.ofOption, Json.Value.datum]
  | some location => simp [List.lookup_cons, Json.Value.ofOption, Json.Value.datum]

namespace ListReport

theorem ofDatum?_toJson (report : ListReport) : ofDatum? report.toJson.datum = some report := by
  have types := Datum.list?_ofList Finding.ofDatum?_toJson report.types
  have names := Datum.list?_ofList Datum.text?_string report.names
  have diagnostics := Datum.list?_ofList Diagnostic.ofDatum?_toJson report.diagnostics
  simp [ofDatum?, toJson, List.lookup_cons, types, names, diagnostics]

theorem locations_toJson (diagnostics : List Diagnostic) :
    List.Forall₂ (fun datum (diagnostic : Diagnostic) =>
        Datum.member? "location" datum = some .null ↔ diagnostic.location = none)
      (diagnostics.map fun diagnostic => diagnostic.toJson.datum) diagnostics := by
  induction diagnostics with
  | nil => exact .nil
  | cons diagnostic rest inductionHypothesis =>
      exact .cons diagnostic.location_toJson inductionHypothesis

/-- Reading the JSON text of a listing gives an object with the members of a report and no others.
The report is recovered from it as a whole, the location of a diagnostic is null precisely if there
is none, and no other report has the same text. -/
theorem recovered_from_json (report : ListReport) :
    (∃ fields diagnostics, Json.read? report.toJson.print = some (.object fields) ∧
      fields.map Prod.fst = ["files", "types", "names", "diagnostics"] ∧
      ofDatum? (.object fields) = some report ∧
      fields.lookup "diagnostics" = some (.array diagnostics) ∧
      List.Forall₂ (fun datum (diagnostic : Diagnostic) =>
          Datum.member? "location" datum = some .null ↔ diagnostic.location = none)
        diagnostics report.diagnostics) ∧
      ∀ other : ListReport, other.toJson.print = report.toJson.print → other = report := by
  have found := Json.read?_print report.toJson
  constructor
  · refine ⟨_, _, found, rfl, report.ofDatum?_toJson, ?_, locations_toJson report.diagnostics⟩
    show some (Datum.array (Json.itemData (report.diagnostics.map Diagnostic.toJson))) = _
    rw [Json.itemData_eq_map, List.map_map]
    rfl
  · intro other same
    have again := Json.read?_print other.toJson
    rw [same, found] at again
    have equal := congrArg (·.bind ofDatum?) again
    simpa [ofDatum?_toJson] using equal.symm

end ListReport

end Registrar
