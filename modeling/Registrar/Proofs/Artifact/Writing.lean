import Registrar.Artifact.Writer
import Registrar.Proofs.Artifact.Append
import Registrar.Proofs.Artifact.Reading
import Registrar.Proofs.FileTree.Replace

/-!
# Writing a handler and adding to it

A handler that is written anew and then added to, any number of times, keeps its layout: the names
of each addition go in front of those before it. The anchors are never missing.
-/

set_option autoImplicit false

namespace Registrar

def addInTurn (existing : String) (later : List (List String)) : Except Anchor String :=
  later.foldlM (fun text names => splice text (Fragments.ofNames names)) existing

/-- Writes a handler anew with the first names, and adds the later ones, one list after another. -/
def writeInTurn (path : Path) (first : List String) (later : List (List String)) :
    FileM ArtifactError Unit := do
  writeArtifact path .overwrite (Fragments.ofNames first)
  later.forM fun names => writeArtifact path .append (Fragments.ofNames names)

/-- One addition divides the names into those that are there and those that the later additions
meet. -/
theorem compact_of_addition {names added kept : List String} {later : List (List String)}
    (compact : ∀ name ∈ (names :: later).flatten ++ added ++ kept, Text.IsCompact name) :
    (∀ name ∈ added ++ kept, Text.IsCompact name) ∧
      ∀ name ∈ later.flatten ++ (names ++ added) ++ kept, Text.IsCompact name := by
  constructor
  · intro name membership
    apply compact
    rw [List.append_assoc]
    exact List.mem_append_right _ membership
  · intro name membership
    apply compact
    simp only [List.flatten_cons, List.mem_append] at membership ⊢
    grind

theorem addInTurn_handlerText {kept : List String} (later : List (List String))
    {added : List String} (compact : ∀ name ∈ later.flatten ++ added ++ kept, Text.IsCompact name) :
    addInTurn (handlerText added kept) later =
      .ok (handlerText (later.reverse.flatten ++ added) kept) := by
  induction later generalizing added with
  | nil => rfl
  | cons names later inductionHypothesis =>
      obtain ⟨present, remaining⟩ := compact_of_addition compact
      have rest := inductionHypothesis remaining
      rw [addInTurn, List.foldlM_cons, splice_handlerText names present]
      rw [addInTurn] at rest
      simpa [bind, Except.bind] using rest

theorem FileTree.IsWritten.eq_of_readText {before after : FileTree} {path : Path}
    {text existing : String} (written : FileTree.IsWritten before after path text)
    (read : after.readText path = .ok existing) : existing = text := by
  rcases written.readBack with same | ⟨-, broken⟩
  · rw [same] at read
    exact (Except.ok.inj read).symm
  · rw [broken] at read
    cases read

theorem exists_of_writeArtifact {path : Path} {mode : WriteMode} {fragments : Fragments}
    {tree after : FileTree}
    (done : (writeArtifact path mode fragments).run.run tree = (.ok (), after)) :
    ∃ text, previewArtifact tree path fragments mode = .ok text ∧
      (replaceFile path text).run.run tree = (.ok (), after) := by
  rw [writeArtifact] at done
  obtain ⟨text, between, previewed, done⟩ := Procedure.exists_of_run_bind done
  rw [FileM.run_ask] at previewed
  obtain ⟨preview, rfl⟩ := Prod.mk.inj previewed
  exact ⟨text, preview, FileM.run_during_eq_ok.1 done⟩

theorem run_writeArtifact {path : Path} {mode : WriteMode} {fragments : Fragments} {text : String}
    {tree after : FileTree} (preview : previewArtifact tree path fragments mode = .ok text)
    (done : (replaceFile path text).run.run tree = (.ok (), after)) :
    (writeArtifact path mode fragments).run.run tree = (.ok (), after) := by
  rw [writeArtifact, Procedure.run_bind, FileM.run_ask, preview]
  exact FileM.run_during_eq_ok.2 done

theorem isWritten_of_writeArtifact {path : Path} {mode : WriteMode} {fragments : Fragments}
    {tree after : FileTree}
    (done : (writeArtifact path mode fragments).run.run tree = (.ok (), after)) :
    ∃ text, previewArtifact tree path fragments mode = .ok text ∧
      FileTree.IsWritten tree after path text := by
  obtain ⟨text, preview, replaced⟩ := exists_of_writeArtifact done
  exact ⟨text, preview, isWritten_of_replaceFile replaced⟩

theorem preview_of_missingAnchor {path place : Path} {mode : WriteMode} {fragments : Fragments}
    {tree after : FileTree} {anchor : Anchor}
    (failed : (writeArtifact path mode fragments).run.run tree =
      (.error (.missingAnchor place anchor), after)) :
    previewArtifact tree path fragments mode = .error (.missingAnchor place anchor) := by
  rw [writeArtifact, Procedure.run_bind, FileM.run_ask] at failed
  rcases preview : previewArtifact tree path fragments mode with error | text
  · simp only [preview] at failed
    exact congrArg Except.error (Except.error.inj (Prod.mk.inj failed).1)
  · simp only [preview, FileM.run_during] at failed
    rcases replaced : (replaceFile path text).run.run tree with ⟨error | answer, result⟩
    · rw [replaced] at failed
      cases failed
    · rw [replaced] at failed
      cases failed

/-- What a run that writes a handler comes to: the text stands at the path, or the run failed for
another reason than a missing anchor. -/
def LeavesHandler (path : Path) (text : String) : Except ArtifactError Unit × FileTree → Prop
  | (.ok (), after) => ∃ before, FileTree.IsWritten before after path text
  | (.error error, _) => ∀ place anchor, error ≠ .missingAnchor place anchor

/-- One addition to a handler goes in front of the names that it has. -/
theorem leavesHandler_append {path : Path} {added kept : List String} {before tree : FileTree}
    (names : List String) (compact : ∀ name ∈ added ++ kept, Text.IsCompact name)
    (written : FileTree.IsWritten before tree path (handlerText added kept)) :
    LeavesHandler path (handlerText (names ++ added) kept)
      ((writeArtifact path .append (Fragments.ofNames names)).run.run tree) := by
  rcases outcome : (writeArtifact path .append (Fragments.ofNames names)).run.run tree with
    ⟨error | answer, after⟩
  · rintro place anchor rfl
    have preview := preview_of_missingAnchor outcome
    rcases read : tree.readText path with cause | existing
    · simp [previewArtifact, read] at preview
    · obtain rfl := written.eq_of_readText read
      simp [previewArtifact, read, splice_handlerText names compact] at preview
  · obtain ⟨text, preview, stands⟩ := isWritten_of_writeArtifact outcome
    rcases read : tree.readText path with cause | existing
    · simp [previewArtifact, read] at preview
    · obtain rfl := written.eq_of_readText read
      simp only [previewArtifact, read, splice_handlerText names compact, Except.ok.injEq]
        at preview
      exact ⟨tree, preview ▸ stands⟩

theorem leavesHandler_appends {path : Path} {kept : List String} (later : List (List String))
    {added : List String} {before tree : FileTree}
    (compact : ∀ name ∈ later.flatten ++ added ++ kept, Text.IsCompact name)
    (written : FileTree.IsWritten before tree path (handlerText added kept)) :
    LeavesHandler path (handlerText (later.reverse.flatten ++ added) kept)
      ((later.forM fun names => writeArtifact path .append (Fragments.ofNames names)).run.run
        tree) := by
  induction later generalizing added before tree with
  | nil => exact ⟨before, written⟩
  | cons names later inductionHypothesis =>
      obtain ⟨present, remaining⟩ := compact_of_addition compact
      have step := leavesHandler_append names present written
      rw [List.forM_eq_forM, List.forM_cons, Procedure.run_bind]
      rcases outcome : (writeArtifact path .append (Fragments.ofNames names)).run.run tree with
        ⟨error | answer, after⟩
      · rw [outcome] at step
        intro place anchor
        exact step place anchor
      · rw [outcome] at step
        obtain ⟨last, stands⟩ := step
        simpa using inductionHypothesis remaining stands

/-- A handler that is written anew and then added to any number of times holds exactly its fixed
text with the rows and classes of all names, those added last in front, and no anchor is missing on
the way. The names are read back in this order, just as from a handler that is written with all of
them at once. -/
theorem appends_keep_layout {first : List String} {later : List (List String)}
    (compact : ∀ name ∈ later.flatten ++ first, Text.IsCompact name) :
    addInTurn (renderArtifact (Fragments.ofNames first)) later =
        .ok (handlerText later.reverse.flatten first) ∧
      (∀ path tree, LeavesHandler path (handlerText later.reverse.flatten first)
        ((writeInTurn path first later).run.run tree)) ∧
      rowNames (Text.lines (handlerText later.reverse.flatten first)) =
        later.reverse.flatten ++ first ∧
      classNames (Text.lines (handlerText later.reverse.flatten first)) =
        later.reverse.flatten ++ first ∧
      rowNames (Text.lines (renderArtifact (Fragments.ofNames (later.reverse.flatten ++ first)))) =
        later.reverse.flatten ++ first := by
  have noneAdded : ∀ name ∈ later.flatten ++ [] ++ first, Text.IsCompact name := by
    simpa using compact
  have final : ∀ name ∈ later.reverse.flatten ++ first, Text.IsCompact name := by
    intro name membership
    apply compact
    simpa [List.mem_flatten] using membership
  refine ⟨?_, fun path tree => ?_, ?_, ?_, ?_⟩
  · simpa [renderArtifact_ofNames] using addInTurn_handlerText later noneAdded
  · rw [writeInTurn, Procedure.run_bind]
    rcases outcome : (writeArtifact path .overwrite (Fragments.ofNames first)).run.run tree with
      ⟨error | answer, after⟩
    · rintro place anchor rfl
      have preview := preview_of_missingAnchor outcome
      simp [previewArtifact] at preview
    · obtain ⟨text, preview, stands⟩ := isWritten_of_writeArtifact outcome
      simp only [previewArtifact, renderArtifact_ofNames, Except.ok.injEq] at preview
      subst preview
      simpa using leavesHandler_appends later noneAdded stands
  · rw [lines_handlerText final, rowNames_handlerLines]
  · rw [lines_handlerText final, classNames_handlerLines]
  · rw [renderArtifact_ofNames, lines_handlerText (by simpa using final), rowNames_handlerLines,
      List.nil_append]

/-- Setup, which registers no name, followed by two additions. -/
theorem appends_keep_layout_from_setup :
    (∀ name ∈ [["A", "B"], ["C", "A"]].flatten ++ [], Text.IsCompact name) ∧
      addInTurn (renderArtifact (Fragments.ofNames [])) [["A", "B"], ["C", "A"]] =
        .ok (handlerText ["C", "A", "A", "B"] []) ∧
      rowNames (Text.lines (handlerText ["C", "A", "A", "B"] [])) = ["C", "A", "A", "B"] := by
  have compact : ∀ name ∈ [["A", "B"], ["C", "A"]].flatten ++ [], Text.IsCompact name := by
    decide
  obtain ⟨added, -, rows, -, -⟩ := appends_keep_layout compact
  exact ⟨compact, added, rows⟩

end Registrar
