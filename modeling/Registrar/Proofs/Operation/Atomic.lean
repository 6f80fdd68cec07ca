import Registrar.Proofs.Operation.Registration

/-!
# All or nothing

A run that fails leaves every file and link as it was, and no other ones; at most it has made
directories on the way to the handler. A run that succeeds writes what a dry run shows, in one
entry, and leaves all other entries as they were. Reading the path of the handler then gives what
was written, except where that path leads through the link that the handler has replaced.
-/

set_option autoImplicit false

namespace Registrar

open FileTree

/-- Every entry stands in a directory. -/
def FileTree.IsConnected (tree : FileTree) : Prop :=
  ∀ location name entry, tree.find? (location ++ [name]) = some entry →
    tree.find? location = some .directory

theorem FileTree.IsConnected.find?_append {tree : FileTree} (connected : tree.IsConnected)
    {location : Location} (missing : tree.find? location = none) (rest : Location) :
    tree.find? (location ++ rest) = none := by
  induction rest generalizing location with
  | nil => rwa [List.append_nil]
  | cons name rest inductionHypothesis =>
      have next : tree.find? (location ++ [name]) = none := by
        rcases found : tree.find? (location ++ [name]) with _ | entry
        · rfl
        · rw [connected location name entry found] at missing
          cases missing
      rw [← List.singleton_append, ← List.append_assoc]
      exact inductionHypothesis next

/-- Nothing but directories has come to the second tree, each of them one that the path of the
artifact's directory names or one around that, and nothing but directories is in them. -/
structure AddsDirectoriesOnly (artifact : Path) (tree after : FileTree) : Prop where
  growsAlong : GrowsAlong artifact.directory.ancestors tree after
  empty : tree.IsConnected → ∀ location rest entry, tree.find? location = none →
    after.find? (location ++ rest) = some entry → entry = .directory

theorem FileTree.GrowsAlong.addsDirectoriesOnly {artifact : Path} {tree after : FileTree}
    (growsAlong : GrowsAlong artifact.directory.ancestors tree after) :
    AddsDirectoriesOnly artifact tree after := by
  refine ⟨growsAlong, ?_⟩
  intro connected location rest entry missing found
  rcases growsAlong.find?_eq (location ++ rest) with same | ⟨-, made, -⟩
  · rw [same, connected.find?_append missing] at found
    cases found
  · rw [made] at found
    exact (Option.some.inj found).symm

theorem addsDirectoriesOnly_of_replaceFile {artifact : Path} {text : String}
    {tree after : FileTree} {error : FileError}
    (failed : (replaceFile artifact text).run.run tree = (.error error, after)) :
    AddsDirectoriesOnly artifact tree after :=
  (growsAlong_of_failed_replaceFile failed).addsDirectoriesOnly

theorem addsDirectoriesOnly_of_writeArtifact {artifact : Path} {mode : WriteMode}
    {fragments : Fragments} {tree after : FileTree} {error : ArtifactError}
    (failed : (writeArtifact artifact mode fragments).run.run tree = (.error error, after)) :
    AddsDirectoriesOnly artifact tree after := by
  rw [writeArtifact, Procedure.run_bind, FileM.run_ask] at failed
  rcases preview : previewArtifact tree artifact fragments mode with reason | text
  · simp only [preview] at failed
    obtain ⟨-, rfl⟩ := Prod.mk.inj failed
    exact (GrowsAlong.refl tree).addsDirectoriesOnly
  · simp only [preview, FileM.run_during] at failed
    rcases replaced : (replaceFile artifact text).run.run tree with ⟨reason | answer, result⟩
    · rw [replaced] at failed
      obtain ⟨-, rfl⟩ := Prod.mk.inj failed
      exact addsDirectoriesOnly_of_replaceFile replaced
    · rw [replaced] at failed
      cases failed

/-- The second tree has the text in the entry that the path of the artifact names, and differs from
the first one beyond that only in new directories. -/
structure WritesEntry (artifact : Path) (text : String) (tree after : FileTree) : Prop where
  entry : ∃ location mode, tree.slot? artifact = some location ∧
    after.find? location = some (.file text.toUTF8 mode) ∧
    tree.find? location ≠ some .directory ∧
    ∀ other, other ≠ location → after.find? other = tree.find? other ∨
      tree.find? other = none ∧ after.find? other = some .directory
  readText : tree.leadsThroughItself artifact = false → after.readText artifact = .ok text
  broken : tree.leadsThroughItself artifact = true →
    (∃ location target, tree.slot? artifact = some location ∧
      tree.find? location = some (.link target)) ∧ after.readText artifact = .error .notDirectory

theorem writesEntry_of_replaceFile {artifact : Path} {text : String} {tree after : FileTree}
    (done : (replaceFile artifact text).run.run tree = (.ok (), after)) :
    WritesEntry artifact text tree after := by
  have grows := grows_withDirectories tree artifact.directory
  obtain ⟨place, name, held, -, free, -, written, kept⟩ := exists_of_replaceFile done
  obtain ⟨aside, through⟩ := readText_of_replaceFile done
  have slot : tree.slot? artifact = some (place ++ [name]) := by rw [slot?, held]
  refine ⟨⟨_, _, slot, written, ?_, ?_⟩, aside, through⟩
  · exact fun directory => free (grows.find?_eq_some directory)
  · intro other apart
    rw [kept other apart]
    exact grows.find?_eq other

theorem addsDirectoriesOnly_of_register {host : Host} {settings : ScanSettings} {artifact : Path}
    {mode : WriteMode} {tree after : FileTree} {failure : Failure}
    (failed : (register host settings ⟨artifact, mode, false⟩).run.run tree =
      (.error failure, after)) : AddsDirectoriesOnly artifact tree after := by
  rw [run_register_eq] at failed
  split at failed
  · obtain ⟨-, rfl⟩ := Prod.mk.inj failed
    exact (GrowsAlong.refl tree).addsDirectoriesOnly
  · split at failed
    · cases failed
    · rename_i unwritten
      obtain ⟨-, rfl⟩ := Prod.mk.inj failed
      exact addsDirectoriesOnly_of_writeArtifact unwritten

/-- A run is all or nothing, and agrees with a dry run from the same tree. -/
theorem register_all_or_nothing (host : Host) (settings : ScanSettings) (artifact : Path)
    (mode : WriteMode) (tree : FileTree) :
    match (register host settings ⟨artifact, mode, false⟩).run.run tree with
    | (.error _, after) => AddsDirectoriesOnly artifact tree after
    | (.ok report, after) => ∃ text,
        (register host settings ⟨artifact, mode, true⟩).run.run tree =
          (.ok { report with preview := some text }, tree) ∧
        WritesEntry artifact text tree after := by
  rcases outcome : (register host settings ⟨artifact, mode, false⟩).run.run tree with
    ⟨failure | report, after⟩
  · exact addsDirectoriesOnly_of_register outcome
  · obtain ⟨files, discovered, rfl, written⟩ := exists_of_register outcome
    obtain ⟨text, preview, replaced⟩ := exists_of_writeArtifact written
    refine ⟨text, ?_, writesEntry_of_replaceFile replaced⟩
    rw [run_register_dry_eq, discovered]
    simp only [preview]
    rfl

/-- A directory with a marked type in it, and a link to that directory. -/
def linkedDirectory : FileTree :=
  ((FileTree.empty.put ["D"] .directory).put ["D", "A.cs"]
    (.file "[JsonAot] class Foo { }".toUTF8 0o644)).put ["L"] (.link ⟨"D"⟩)

/-- A handler whose path leads through the link that it replaces is not found there any more. -/
theorem register_through_link : ∃ report after text,
    (register Host.standard { root := ⟨"D"⟩ } ⟨⟨"L/../L"⟩, .overwrite, false⟩).run.run
      linkedDirectory = (.ok report, after) ∧
    (register Host.standard { root := ⟨"D"⟩ } ⟨⟨"L/../L"⟩, .overwrite, true⟩).run.run
      linkedDirectory = (.ok { report with preview := some text }, linkedDirectory) ∧
    after.readText ⟨"L/../L"⟩ = .error .notDirectory := by
  have names : ((register Host.standard { root := ⟨"D"⟩ }
      ⟨⟨"L/../L"⟩, .overwrite, false⟩).run.run linkedDirectory).1.map RunReport.names =
        .ok ["Foo"] := by
    decide +kernel
  have through : linkedDirectory.leadsThroughItself ⟨"L/../L"⟩ = true := by decide +kernel
  obtain ⟨report, after, outcome, -⟩ := exists_of_map_names names
  obtain ⟨files, discovered, rfl, written⟩ := exists_of_register outcome
  obtain ⟨text, preview, replaced⟩ := exists_of_writeArtifact written
  refine ⟨_, after, text, outcome, ?_, ((readText_of_replaceFile replaced).2 through).2⟩
  rw [run_register_dry_eq, discovered]
  simp only [preview]
  rfl

end Registrar
