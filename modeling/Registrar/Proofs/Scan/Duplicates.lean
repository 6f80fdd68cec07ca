import Mathlib.Data.Finset.Range
import Mathlib.Data.List.Forall2
import Registrar.Proofs.Names
import Registrar.Proofs.Scan.Pipeline

/-!
# Notes about dropped names

The names that are dropped when the names of the findings are made distinct are the ones that the
check for duplicates speaks of. Each of them gets one note, at its own place, about the finding that
is registered in its stead.
-/

set_option autoImplicit false

namespace Registrar

namespace Lint

def firstOf? (findings : List Finding) (name : String) : Option Finding :=
  findings.find? fun other => Text.foldCase other.name == Text.foldCase name

theorem firstOf?_congr {first second : String} (same : Text.foldCase first = Text.foldCase second)
    (findings : List Finding) : firstOf? findings first = firstOf? findings second := by
  rw [firstOf?, same, firstOf?]

theorem firstOf?_cons (finding : Finding) (rest : List Finding) (name : String) :
    firstOf? (finding :: rest) name =
      if Text.foldCase finding.name = Text.foldCase name then some finding
      else firstOf? rest name := by
  rw [firstOf?, List.find?_cons]
  cases same : Text.foldCase finding.name == Text.foldCase name with
  | true => rw [if_pos (eq_of_beq same)]
  | false => rw [if_neg (ne_of_beq_false same), firstOf?]

theorem firstOf?_append_singleton (before : List Finding) (finding : Finding) (name : String) :
    firstOf? (before ++ [finding]) name = (firstOf? before name).or (firstOf? [finding] name) := by
  rw [firstOf?, List.find?_append, firstOf?, firstOf?]

/-- The first finding of a name among those in front of number `i`. -/
def earlier? (findings : List Finding) (i : Nat) (name : String) : Option Finding :=
  firstOf? (findings.take i) name

/-- The numbers of the findings whose name is that of an earlier one. -/
def dropped (findings : List Finding) : Finset Nat :=
  ((findings.zipIdx.filter fun (finding, i) => (earlier? findings i finding.name).isSome).map
    Prod.snd).toFinset

theorem mem_dropped_iff {findings : List Finding} {finding : Finding} {i : Nat}
    (found : findings[i]? = some finding) :
    i ∈ dropped findings ↔ (earlier? findings i finding.name).isSome := by
  simp only [dropped, List.mem_toFinset, List.mem_map, List.mem_filter, Prod.exists,
    List.mem_zipIdx_iff_getElem?]
  constructor
  · rintro ⟨other, j, ⟨among, earlier⟩, rfl⟩
    cases among.symm.trans found
    exact earlier
  · exact fun earlier => ⟨finding, i, ⟨found, earlier⟩, rfl⟩

theorem dropped_subset (findings : List Finding) :
    dropped findings ⊆ Finset.range findings.length := by
  intro i membership
  simp only [dropped, List.mem_toFinset, List.mem_map, List.mem_filter, Prod.exists,
    List.mem_zipIdx_iff_getElem?] at membership
  obtain ⟨finding, j, ⟨found, -⟩, rfl⟩ := membership
  exact Finset.mem_range.2 (List.getElem?_eq_some_iff.1 found).1

theorem duplicatesAfter_cons (kept : List Finding) (finding : Finding) (rest : List Finding) :
    duplicatesAfter kept (finding :: rest) =
      match firstOf? kept finding.name with
      | some first => duplicateDiagnostic first finding :: duplicatesAfter kept rest
      | none => duplicatesAfter (finding :: kept) rest := rfl

/-- The notes, in terms of the findings in front of each one. All that matters of the findings kept
so far is which of them is the first of a name. -/
theorem duplicatesAfter_eq (before kept : List Finding)
    (known : ∀ name, firstOf? kept name = firstOf? before name) (findings : List Finding) :
    duplicatesAfter kept findings =
      (findings.zipIdx before.length).filterMap fun (finding, i) =>
        (earlier? (before ++ findings) i finding.name).map
          fun first => duplicateDiagnostic first finding := by
  induction findings generalizing before kept with
  | nil => rfl
  | cons finding rest inductionHypothesis =>
      have shift : before ++ finding :: rest = before ++ [finding] ++ rest := by simp
      have size : (before ++ [finding]).length = before.length + 1 := by simp
      have here : earlier? (before ++ finding :: rest) before.length finding.name =
          firstOf? before finding.name := by
        rw [earlier?, List.take_left]
      rw [duplicatesAfter_cons, List.zipIdx_cons, List.filterMap_cons, known]
      simp only [here]
      cases found : firstOf? before finding.name with
      | some first =>
          -- the name has its first finding already, which stays the one that is found
          have stays : ∀ name, firstOf? kept name = firstOf? (before ++ [finding]) name := by
            intro name
            rw [known, firstOf?_append_singleton, firstOf?_cons]
            split
            · rename_i same
              rw [← firstOf?_congr same, found, Option.some_or]
            · exact Option.or_none.symm
          have tail := inductionHypothesis (before ++ [finding]) kept stays
          rw [size, ← shift] at tail
          simp only [tail, Option.map_some]
      | none =>
          have joins : ∀ name,
              firstOf? (finding :: kept) name = firstOf? (before ++ [finding]) name := by
            intro name
            rw [firstOf?_cons, known, firstOf?_append_singleton, firstOf?_cons]
            split
            · rename_i same
              rw [← firstOf?_congr same, found, Option.none_or]
            · exact Option.or_none.symm
          have tail := inductionHypothesis (before ++ [finding]) (finding :: kept) joins
          rw [size, ← shift] at tail
          simp only [tail, Option.map_none]

/-- Number `j` is the first finding of a name, and the only one that is not dropped. -/
structure IsKeptFor (findings : List Finding) (dropped : Finset Nat) (name : String)
    (kept : Finding) (j : Nat) : Prop where
  found : findings[j]? = some kept
  sameName : Text.foldCase kept.name = Text.foldCase name
  notDropped : j ∉ dropped
  first : ∀ k other, findings[k]? = some other →
    Text.foldCase other.name = Text.foldCase name → j ≤ k
  only : ∀ k other, findings[k]? = some other →
    Text.foldCase other.name = Text.foldCase name → k ∉ dropped → k = j

/-- What a note says about a finding: that another one, and where that is, is registered for its
name. It is no more than information, and it points to the finding itself. -/
structure Informs (note : Diagnostic) (finding kept : Finding) : Prop where
  severity : note.severity = .info
  phase : note.phase = "validate"
  location : note.location = some (finding.path.text ++ ":" ++ toString finding.line)
  message : note.message =
    "type '" ++ finding.name ++ "' shares its name with '" ++ kept.name ++ "' at " ++
      (kept.path.text ++ ":" ++ toString kept.line) ++ "; only the first is registered"

theorem exists_isKeptFor {findings : List Finding} {i : Nat} {name : String} {kept : Finding}
    (earlier : earlier? findings i name = some kept) :
    ∃ j, IsKeptFor findings (dropped findings) name kept j := by
  obtain ⟨same, j, bound, rfl, before⟩ := List.find?_eq_some_iff_getElem.1 earlier
  rw [List.length_take, Nat.lt_min] at bound
  obtain ⟨-, inside⟩ := bound
  simp only [List.getElem_take] at same before ⊢
  have found : findings[j]? = some findings[j] := List.getElem?_eq_getElem inside
  have sameName := eq_of_beq same
  have first : ∀ k other, findings[k]? = some other →
      Text.foldCase other.name = Text.foldCase name → j ≤ k := by
    intro k other among equal
    by_contra shorter
    obtain ⟨_, rfl⟩ := List.getElem?_eq_some_iff.1 among
    simpa [equal] using before k (by omega)
  refine ⟨j, found, sameName, ?_, first, ?_⟩
  · intro membership
    obtain ⟨other, sooner⟩ := Option.isSome_iff_exists.1 ((mem_dropped_iff found).1 membership)
    obtain ⟨equal, k, bound, rfl, -⟩ := List.find?_eq_some_iff_getElem.1 sooner
    rw [List.length_take, Nat.lt_min] at bound
    rw [List.getElem_take] at equal
    have late := first k _ (List.getElem?_eq_getElem bound.2) ((eq_of_beq equal).trans sameName)
    omega
  · intro k other among equal notDropped
    by_contra apart
    have late : j < k := Nat.lt_of_le_of_ne (first k other among equal) (Ne.symm apart)
    refine notDropped ((mem_dropped_iff among).2 ?_)
    rw [earlier?, firstOf?, List.find?_isSome]
    refine ⟨findings[j], List.mem_take_iff_getElem.2 ⟨j, by omega, rfl⟩, ?_⟩
    exact beq_iff_eq.2 (sameName.trans equal.symm)

/-- The entries of a list that pass a test are answered one by one, in order, if the test says which
entries have an answer. -/
theorem forall₂_filterMap {α β : Type} {test : α → Bool} {answer? : α → Option β}
    {related : α → β → Prop} {entries : List α}
    (tests : ∀ entry ∈ entries, test entry = (answer? entry).isSome)
    (fits : ∀ entry ∈ entries, ∀ answer, answer? entry = some answer → related entry answer) :
    List.Forall₂ related (entries.filter test) (entries.filterMap answer?) := by
  induction entries with
  | nil => exact .nil
  | cons entry rest inductionHypothesis =>
      obtain ⟨testsFirst, testsRest⟩ := List.forall_mem_cons.1 tests
      obtain ⟨fitsFirst, fitsRest⟩ := List.forall_mem_cons.1 fits
      have tail := inductionHypothesis testsRest fitsRest
      rw [List.filter_cons, List.filterMap_cons, testsFirst]
      cases answered : answer? entry with
      | none => exact tail
      | some answer => exact .cons (fitsFirst answer answered) tail

end Lint

namespace Scan

theorem names_dedup (scan : Scan) :
    scan.dedup.names =
      (scan.findings.zipIdx.filter fun entry => entry.2 ∉ Lint.dropped scan.findings).map
        fun entry => entry.1.name := by
  rw [dedup, distinctNames_eq_firstSpellings, firstSpellings, List.zipIdx_map, List.filter_map,
    List.map_map]
  refine congrArg _ (List.filter_congr ?_)
  rintro ⟨finding, i⟩ membership
  have found := List.mem_zipIdx_iff_getElem?.1 membership
  rw [Bool.eq_iff_iff, decide_eq_true_iff, Lint.mem_dropped_iff found, Lint.earlier?,
    Lint.firstOf?, Bool.not_eq_true, Option.isSome_eq_false_iff, Option.isNone_iff_eq_none,
    List.find?_eq_none]
  simp [← List.map_take]

/-- The notes about duplicates account for the names that are dropped when names are made distinct.
There is a set of positions such that the other findings give the distinct names, in order, and each
finding at one of these positions gets one note, in order, that points to it and names the first
finding of its name, the only one of them that is kept. What has been noted before is left in
front. -/
theorem duplicate_notes_match_dropped_names (scan : Scan) :
    ∃ dropped ⊆ Finset.range scan.findings.length, ∃ notes,
      scan.dedup.names = (scan.findings.zipIdx.filter fun entry => entry.2 ∉ dropped).map
        (fun entry => entry.1.name) ∧
      notes = Lint.duplicateName.check scan.findings ∧
      ((validate [.duplicateName]).run.run scan).2 =
        { scan with diagnostics := scan.diagnostics ++ notes } ∧
      List.Forall₂
        (fun entry note => ∃ kept j,
          Lint.IsKeptFor scan.findings dropped entry.1.name kept j ∧
            Lint.Informs note entry.1 kept)
        (scan.findings.zipIdx.filter fun entry => entry.2 ∈ dropped) notes ∧
      scan.findings.length = scan.dedup.names.length + notes.length := by
  have answered : ∀ entry ∈ scan.findings.zipIdx,
      decide (entry.2 ∈ Lint.dropped scan.findings) =
        (Lint.earlier? scan.findings entry.2 entry.1.name).isSome := by
    rintro ⟨finding, i⟩ membership
    rw [Bool.eq_iff_iff, decide_eq_true_iff]
    exact Lint.mem_dropped_iff (List.mem_zipIdx_iff_getElem?.1 membership)
  have notes : List.Forall₂
      (fun entry note => ∃ kept j,
        Lint.IsKeptFor scan.findings (Lint.dropped scan.findings) entry.1.name kept j ∧
          Lint.Informs note entry.1 kept)
      (scan.findings.zipIdx.filter fun entry => entry.2 ∈ Lint.dropped scan.findings)
      (Lint.duplicateName.check scan.findings) := by
    rw [Lint.check, Lint.duplicatesAfter_eq [] [] (fun _ => rfl)]
    refine Lint.forall₂_filterMap (by simpa using answered) ?_
    rintro ⟨finding, i⟩ - note noted
    obtain ⟨kept, earlier, rfl⟩ := Option.map_eq_some_iff.1 noted
    obtain ⟨j, isKept⟩ := Lint.exists_isKeptFor earlier
    exact ⟨kept, j, isKept, rfl, rfl, rfl, rfl⟩
  have names := names_dedup scan
  refine ⟨Lint.dropped scan.findings, Lint.dropped_subset _, _, names, rfl, ?_, notes, ?_⟩
  · rw [snd_run_validate, checked, List.flatMap_singleton]
  · have parts := List.length_eq_length_filter_add (l := scan.findings.zipIdx)
      fun entry => decide (entry.2 ∈ Lint.dropped scan.findings)
    rw [List.length_zipIdx] at parts
    rw [names, List.length_map, ← notes.length_eq, parts, Nat.add_comm]
    simp only [decide_not]

end Scan

end Registrar
