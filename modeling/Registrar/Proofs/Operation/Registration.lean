import Registrar.Operation.Registration
import Registrar.Proofs.Artifact.Writing
import Registrar.Proofs.Names
import Registrar.Proofs.Scan.Pipeline
import Registrar.Proofs.Source.Unit

/-!
# What a run registers

A run that overwrites its handler leaves exactly the marked types of the tree in it: one row and
one context class for each first spelling, in the order of the files and in document order.
-/

set_option autoImplicit false

namespace Registrar

/-- The names of the marked types in a file, of any depth. -/
def namesIn (parser : SourceParser) (settings : ScanSettings) (file : SourceFile) : List String :=
  ((file.read parser).root.decls.filter (Marker.mk settings.marker).marks).map TypeDecl.name

/-- The names of the marked types of the files, in their order and without those that an earlier one
is equal to without regard to case. -/
def markedNames (parser : SourceParser) (settings : ScanSettings) (files : List SourceFile) :
    List String :=
  firstSpellings (files.flatMap (namesIn parser settings))

namespace Scan

variable (parser : SourceParser) (settings : ScanSettings) (found : Discovery)

theorem findings_ofDiscovery : (ofDiscovery parser settings found).findings =
    found.files.flatMap fun file => (file.read parser).findings ⟨settings.marker⟩ :=
  List.flatMap_map ..

theorem names_ofDiscovery :
    (ofDiscovery parser settings found).names = markedNames parser settings found.files := by
  have names : (ofDiscovery parser settings found).names =
      distinctNames ((ofDiscovery parser settings found).findings.map Finding.name) := rfl
  rw [names, findings_ofDiscovery, distinctNames_eq_firstSpellings, markedNames, List.map_flatMap]
  simp only [SourceUnit.map_name_findings]
  rfl

variable {parser settings} in
theorem isCompact_of_mem_markedNames {files : List SourceFile} {name : String}
    (membership : name ∈ markedNames parser settings files) : Text.IsCompact name := by
  rw [markedNames, ← distinctNames_eq_firstSpellings] at membership
  obtain ⟨file, -, inside⟩ := List.mem_flatMap.1 (mem_of_mem_distinctAfter membership)
  obtain ⟨decl, marked, rfl⟩ := List.mem_map.1 inside
  exact SourceFile.isCompact_of_mem_decls (List.mem_filter.1 marked).1

theorem nodup_markedNames (files : List SourceFile) :
    (markedNames parser settings files).Nodup := by
  rw [markedNames, ← distinctNames_eq_firstSpellings]
  exact nodup_distinctNames _

end Scan

def RunReport.ofScan (options : RunOptions) (scan : Scan) : RunReport :=
  ⟨options.artifact, options.mode, scan.units.length, scan.names, scan.diagnostics, none⟩

theorem run_takeFragments_ofDiscovery (parser : SourceParser) (settings : ScanSettings)
    (found : Discovery) :
    Scan.takeFragments.run.run (Scan.ofDiscovery parser settings found) =
      (.ok (Fragments.ofNames (Scan.ofDiscovery parser settings found).names),
        { Scan.ofDiscovery parser settings found with fragments := none }) := rfl

section Register

variable (host : Host) (settings : ScanSettings) (artifact : Path) (mode : WriteMode)
  (tree : FileTree)

/-- What a run comes to: it fails at its root or writes the handler. -/
theorem run_register_eq :
    (register host settings ⟨artifact, mode, false⟩).run.run tree =
      match tree.discover host.access settings.root ⟨settings.extensions, settings.exclude⟩ with
      | none => (.error (.during .pipeline
          (.during (.scanning settings.root) (.missingRoot settings.root))), tree)
      | some found =>
          match (writeArtifact artifact mode (Fragments.ofNames
            (Scan.ofDiscovery host.parser settings found).names)).run.run tree with
          | (.ok (), after) => (.ok (.ofScan ⟨artifact, mode, false⟩
              (Scan.ofDiscovery host.parser settings found)), after)
          | (.error error, after) =>
              (.error (.during .updatingArtifact (.artifact error)), after) := by
  rw [register, Procedure.run_bind, FileM.run_ask, scanTree_eq]
  rcases tree.discover host.access settings.root ⟨settings.extensions, settings.exclude⟩ with
    _ | found
  · rfl
  · simp only [run_takeFragments_ofDiscovery, pure_bind, Bool.false_eq_true, if_false]
    rw [Procedure.run_bind, FileM.run_during]
    rcases (writeArtifact artifact mode (Fragments.ofNames
      (Scan.ofDiscovery host.parser settings found).names)).run.run tree with
      ⟨error | answer, after⟩
    · rfl
    · rfl

theorem run_register_dry_eq :
    (register host settings ⟨artifact, mode, true⟩).run.run tree =
      match tree.discover host.access settings.root ⟨settings.extensions, settings.exclude⟩ with
      | none => (.error (.during .pipeline
          (.during (.scanning settings.root) (.missingRoot settings.root))), tree)
      | some found =>
          match previewArtifact tree artifact (Fragments.ofNames
            (Scan.ofDiscovery host.parser settings found).names) mode with
          | .ok text => (.ok { RunReport.ofScan ⟨artifact, mode, true⟩
                (Scan.ofDiscovery host.parser settings found) with preview := some text }, tree)
          | .error error => (.error (.during .renderingArtifact (.artifact error)), tree) := by
  rw [register, Procedure.run_bind, FileM.run_ask, scanTree_eq]
  rcases tree.discover host.access settings.root ⟨settings.extensions, settings.exclude⟩ with
    _ | found
  · rfl
  · simp only [run_takeFragments_ofDiscovery, pure_bind, if_true]
    rw [Procedure.run_bind, FileM.run_during, FileM.run_ask]
    rcases previewArtifact tree artifact (Fragments.ofNames
      (Scan.ofDiscovery host.parser settings found).names) mode with error | text
    · rfl
    · rfl

end Register

section Registered

variable {host : Host} {settings : ScanSettings} {artifact : Path} {mode : WriteMode}
  {tree after : FileTree}

theorem exists_of_register {report : RunReport}
    (done : (register host settings ⟨artifact, mode, false⟩).run.run tree =
      (.ok report, after)) :
    ∃ found, tree.discover host.access settings.root ⟨settings.extensions, settings.exclude⟩ =
        some found ∧
      report = .ofScan ⟨artifact, mode, false⟩ (Scan.ofDiscovery host.parser settings found) ∧
      (writeArtifact artifact mode (Fragments.ofNames
        (Scan.ofDiscovery host.parser settings found).names)).run.run tree = (.ok (), after) := by
  rw [run_register_eq] at done
  split at done
  · cases done
  · rename_i found discovered
    split at done
    · rename_i result written
      obtain ⟨same, rfl⟩ := Prod.mk.inj done
      exact ⟨found, discovered, (Except.ok.inj same).symm, written⟩
    · cases done

theorem run_register {found : Discovery}
    (discovered : tree.discover host.access settings.root ⟨settings.extensions, settings.exclude⟩ =
      some found)
    (written : (writeArtifact artifact mode (Fragments.ofNames
      (Scan.ofDiscovery host.parser settings found).names)).run.run tree = (.ok (), after)) :
    (register host settings ⟨artifact, mode, false⟩).run.run tree =
      (.ok (.ofScan ⟨artifact, mode, false⟩ (Scan.ofDiscovery host.parser settings found)),
        after) := by
  rw [run_register_eq, discovered]
  simp only [written]

end Registered

/-- A run that overwrites its handler leaves the marked names of the tree in it, in their order and
each once, both in the rows and in the context classes. Listing the tree before the run reports the
same names. This holds for every parser: no blank is left in a name that is gathered from a tree. -/
theorem overwrite_registers_marked_names {host : Host} {settings : ScanSettings} {artifact : Path}
    {tree after : FileTree} {report : RunReport}
    (done : (register host settings ⟨artifact, .overwrite, false⟩).run.run tree =
      (.ok report, after)) :
    ∃ found text listing,
      tree.discover host.access settings.root ⟨settings.extensions, settings.exclude⟩ =
        some found ∧
      FileTree.IsWritten tree after artifact text ∧
      rowNames (Text.lines text) = markedNames host.parser settings found.files ∧
      classNames (Text.lines text) = markedNames host.parser settings found.files ∧
      (markedNames host.parser settings found.files).Nodup ∧
      report.names = markedNames host.parser settings found.files ∧
      listTypes host tree settings = .ok listing ∧
      listing.names = markedNames host.parser settings found.files := by
  obtain ⟨found, discovered, rfl, written⟩ := exists_of_register done
  obtain ⟨text, preview, stands⟩ := isWritten_of_writeArtifact written
  have names := Scan.names_ofDiscovery host.parser settings found
  simp only [previewArtifact, renderArtifact_ofNames, Except.ok.injEq, names] at preview
  have compact : ∀ name ∈ [] ++ markedNames host.parser settings found.files,
      Text.IsCompact name := fun name membership => Scan.isCompact_of_mem_markedNames membership
  have listed : listTypes host tree settings = .ok
      ⟨(Scan.ofDiscovery host.parser settings found).units.length,
        (Scan.ofDiscovery host.parser settings found).findings,
        (Scan.ofDiscovery host.parser settings found).names,
        (Scan.ofDiscovery host.parser settings found).diagnostics⟩ := by
    rw [listTypes, scanTree_eq, discovered]
    rfl
  have lines : Text.lines text = handlerLines [] (markedNames host.parser settings found.files) :=
    preview ▸ lines_handlerText compact
  refine ⟨found, text, _, discovered, stands, ?_, ?_, Scan.nodup_markedNames _ _ _, names, listed,
    names⟩
  · rw [lines, rowNames_handlerLines, List.nil_append]
  · rw [lines, classNames_handlerLines, List.nil_append]

theorem exists_of_map_names {ε : Type} {outcome : Except ε RunReport × FileTree}
    {names : List String} (known : outcome.1.map RunReport.names = .ok names) :
    ∃ report after, outcome = (.ok report, after) ∧ report.names = names :=
  Procedure.exists_of_map known

/-- A tree with one file, in which a namespace holds two marked types whose names differ in case
only. -/
def twoSpellings : FileTree :=
  FileTree.empty.put ["A.cs"]
    (.file "namespace N { [JsonAot] class Foo { } [JsonAot] class FOO { } }".toUTF8 0o644)

theorem overwrite_registers_first_spelling : ∃ report after,
    (register Host.standard { } ⟨⟨"H.cs"⟩, .overwrite, false⟩).run.run twoSpellings =
        (.ok report, after) ∧
      report.names = ["Foo"] ∧
      ∃ text, FileTree.IsWritten twoSpellings after ⟨"H.cs"⟩ text ∧
        rowNames (Text.lines text) = ["Foo"] := by
  have names : ((register Host.standard { } ⟨⟨"H.cs"⟩, .overwrite, false⟩).run.run
      twoSpellings).1.map RunReport.names = .ok ["Foo"] := by
    decide +kernel
  obtain ⟨report, after, outcome, reported⟩ := exists_of_map_names names
  obtain ⟨found, text, listing, -, written, rows, -, -, same, -, -⟩ :=
    overwrite_registers_marked_names outcome
  exact ⟨report, after, outcome, reported, text, written, by rw [rows, ← same, reported]⟩

end Registrar
