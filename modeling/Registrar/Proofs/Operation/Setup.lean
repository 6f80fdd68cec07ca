import Registrar.Operation.Setup
import Registrar.Proofs.Artifact.Writing
import Registrar.Proofs.EntryPoint
import Registrar.Proofs.FileTree.Again
import Registrar.Proofs.Operation.Atomic

/-!
# Setting up again

A setup writes the handler, then the import lines, then the manifest. `IsSetUp` describes what the
three of them leave, wherever their paths lead: the handler may be the entry point, or be reached
through links from it. Another setup finds a tree like that as it leaves it.
-/

set_option autoImplicit false

namespace Registrar

def emptyHandler : String := renderArtifact Fragments.empty

namespace SetupOptions

def artifactOf (options : SetupOptions) (manifest : Manifest) : Path :=
  options.artifact.getD manifest.output.artifact

def importerOf (options : SetupOptions) (manifest : Manifest) : Option Path :=
  if options.entryPoint then some manifest.output.entryPoint else none

end SetupOptions

-- The three steps of a setup, each with what it adds to the report.

def writeHandler (artifact : Path) : FileM Failure Unit :=
  (writeArtifact artifact .overwrite Fragments.empty).during
    fun error => .during .creatingArtifact (.artifact error)

def importHandler : Option Path → FileM Failure (Option (Path × ImportOutcome))
  | none => pure none
  | some importer => do
      let outcome ← addImports importer
      pure (some (importer, outcome))

def writeConfig : Option Path → FileM Failure (Option (Path × WriteResult))
  | none => pure none
  | some path => do
      let result ← ((configFile path .ifMissing).write ⟨""⟩).during (.during .writingConfig)
      pure (some (path, result))

theorem setUp_eq (manifest : Manifest) (options : SetupOptions) :
    setUp manifest options = do
      writeHandler (options.artifactOf manifest)
      let imports ← importHandler (options.importerOf manifest)
      let config ← writeConfig options.config
      return ⟨options.artifactOf manifest, imports, config⟩ := by
  rcases options with ⟨artifact, entryPoint, config⟩
  cases entryPoint <;> cases config <;>
    simp [setUp, writeHandler, importHandler, writeConfig, SetupOptions.artifactOf,
      SetupOptions.importerOf]

theorem exists_of_writeHandler {artifact : Path} {tree after : FileTree}
    (done : (writeHandler artifact).run.run tree = (.ok (), after)) :
    (replaceFile artifact emptyHandler).run.run tree = (.ok (), after) := by
  obtain ⟨text, preview, replaced⟩ := exists_of_writeArtifact (FileM.run_during_eq_ok.1 done)
  cases preview
  exact replaced

theorem run_writeHandler {artifact : Path} {tree after : FileTree}
    (done : (replaceFile artifact emptyHandler).run.run tree = (.ok (), after)) :
    (writeHandler artifact).run.run tree = (.ok (), after) :=
  FileM.run_during_eq_ok.2 (run_writeArtifact rfl done)

theorem run_importHandler {importer : Path} {tree after : FileTree} {outcome : ImportOutcome}
    (added : (addImports importer).run.run tree = (.ok outcome, after)) :
    (importHandler (some importer)).run.run tree =
      (.ok (some (importer, outcome)), after) := by
  rw [importHandler, Procedure.run_bind, added]
  rfl

/-- A manifest is written only where there is nothing. -/
theorem writeConfig_cases {path : Path} {tree after : FileTree}
    {written : Option (Path × WriteResult)}
    (done : (writeConfig (some path)).run.run tree = (.ok written, after)) :
    tree.pathExists path = true ∧ after = tree ∨
      tree.pathExists path = false ∧
        (replaceFile path (configFile path .ifMissing).text).run.run tree = (.ok (), after) := by
  rw [writeConfig] at done
  obtain ⟨_, between, first, last⟩ := Procedure.exists_of_run_bind done
  obtain ⟨-, rfl⟩ := Prod.mk.inj last
  have outcome := FileM.run_during_eq_ok.1 first
  rw [GeneratedFile.write, Procedure.run_bind, Procedure.run_get] at outcome
  have name : (configFile path .ifMissing).path ⟨""⟩ = path := by
    simp [GeneratedFile.path, configFile, Path.join]
  simp only [name] at outcome
  split at outcome
  · rename_i present
    exact .inl ⟨present.2, (Prod.mk.inj outcome).2.symm⟩
  · rename_i absent
    obtain ⟨_, later, replaced, last⟩ := Procedure.exists_of_run_bind outcome
    obtain ⟨-, rfl⟩ := Prod.mk.inj last
    refine .inr ⟨?_, FileM.run_during_eq_ok.1 replaced⟩
    simpa [configFile] using absent

theorem run_writeConfig_skipped {path : Path} {tree : FileTree}
    (present : tree.pathExists path = true) :
    (writeConfig (some path)).run.run tree = (.ok (some (path, .skipped)), tree) := by
  have name : (configFile path .ifMissing).path ⟨""⟩ = path := by
    simp [GeneratedFile.path, configFile, Path.join]
  have rule : (configFile path .ifMissing).rule = .ifMissing := rfl
  rw [writeConfig, Procedure.run_bind, FileM.run_during, GeneratedFile.write, Procedure.run_bind,
    Procedure.run_get]
  simp only [name, rule, present, and_self, if_true]
  rfl

/-- What a setup leaves. The handler is written at its path; if that is where the importer stands
too, it has got the import lines. -/
structure IsSetUp (artifact : Path) (importer config : Option Path) (tree : FileTree) : Prop where
  handler : ∃ place name text mode, tree.NamesFile artifact place name text mode ∧
    (text = emptyHandler ∨ text = withImports emptyHandler ∧ ∃ path, importer = some path ∧
      tree.holder path = .ok (place, some name) ∧ path.endsWithSlash = false)
  imports : ∀ path, importer = some path →
    ∃ text, tree.readText path = .ok text ∧ hasImports text = true
  config : ∀ path, config = some path → tree.pathExists path = true

theorem IsSetUp.keepsFiles {artifact : Path} {importer : Option Path} {tree after : FileTree}
    (done : IsSetUp artifact importer none tree) (keeps : FileTree.KeepsFiles tree after) :
    IsSetUp artifact importer none after := by
  obtain ⟨⟨place, name, text, mode, names, content⟩, imports, -⟩ := done
  refine ⟨⟨place, name, text, mode, names.keepsFiles keeps, ?_⟩, ?_, by simp⟩
  · rcases content with plain | ⟨imported, path, same, held, slash⟩
    · exact .inl plain
    · exact .inr ⟨imported, path, same, keeps.holder held, slash⟩
  · intro path same
    obtain ⟨text, read, present⟩ := imports path same
    exact ⟨text, keeps.readText read, present⟩

theorem namesFile_of_writeHandler {artifact : Path} {tree after : FileTree}
    (done : (writeHandler artifact).run.run tree = (.ok (), after))
    (aside : tree.leadsThroughItself artifact = false) :
    ∃ place name mode, after.NamesFile artifact place name emptyHandler mode := by
  obtain ⟨place, name, mode, -, held, slash, stands⟩ :=
    holder_of_replaceFile (exists_of_writeHandler done) aside
  exact ⟨place, name, mode, held, slash, stands⟩

theorem isSetUp_of_importHandler {artifact : Path} {importer : Option Path}
    {tree after : FileTree} {place : Location} {name : FileName} {mode : Nat}
    {imports : Option (Path × ImportOutcome)}
    (names : tree.NamesFile artifact place name emptyHandler mode)
    (done : (importHandler importer).run.run tree = (.ok imports, after))
    (found : ∀ path, imports ≠ some (path, .missing)) : IsSetUp artifact importer none after := by
  rcases importer with _ | path
  · obtain ⟨-, rfl⟩ := Prod.mk.inj done
    exact ⟨⟨place, name, _, mode, names, .inl rfl⟩, by simp, by simp⟩
  obtain ⟨outcome, between, added, last⟩ := Procedure.exists_of_run_bind done
  obtain ⟨answer, rfl⟩ := Prod.mk.inj last
  rcases addImports_cases added with
    ⟨rfl, -⟩ | ⟨text, read, ⟨present, -, rfl⟩ | ⟨-, -, replaced⟩⟩
  · exact absurd (Except.ok.inj answer).symm (found path)
  · refine ⟨⟨place, name, _, mode, names, .inl rfl⟩, ?_, by simp⟩
    rintro _ ⟨⟩
    exact ⟨text, read, present⟩
  obtain ⟨other, last, otherMode, held, slash, closed, puts⟩ :=
    FileTree.putsFile_of_readText read replaced
  have importer := FileTree.NamesFile.of_putsFile puts closed held slash
  refine ⟨?_, ?_, by simp⟩
  · by_cases same : place ++ [name] = other ++ [last]
    · -- the importer is the handler, which was read with nothing in it yet
      obtain ⟨rfl, named⟩ := List.append_inj' same rfl
      obtain rfl := List.singleton_inj.1 named
      have itself : tree.NamesFile path place name emptyHandler mode :=
        ⟨held, slash, names.stands⟩
      obtain rfl : emptyHandler = text := Except.ok.inj (itself.readText.symm.trans read)
      exact ⟨place, name, _, otherMode, .of_putsFile puts closed names.held names.slash,
        .inr ⟨rfl, path, rfl, importer.held, slash⟩⟩
    · exact ⟨place, name, _, mode, ⟨puts.holder closed names.held, names.slash,
        (puts.find?_eq _ same).trans names.stands⟩, .inl rfl⟩
  · rintro _ ⟨⟩
    exact ⟨_, importer.readText, hasImports_withImports text⟩

theorem isSetUp_of_writeConfig {artifact : Path} {importer config : Option Path}
    {tree after : FileTree} {written : Option (Path × WriteResult)}
    (before : IsSetUp artifact importer none tree)
    (done : (writeConfig config).run.run tree = (.ok written, after))
    (vacant : ∀ path, config = some path → tree.pathExists path = false →
      tree.isVacant path = true) : IsSetUp artifact importer config after := by
  rcases config with _ | path
  · obtain ⟨-, rfl⟩ := Prod.mk.inj done
    exact before
  rcases writeConfig_cases done with ⟨present, rfl⟩ | ⟨absent, replaced⟩
  · refine ⟨before.handler, before.imports, ?_⟩
    rintro _ ⟨⟩
    exact present
  obtain ⟨place, name, held, slash, puts⟩ := FileTree.putsFile_of_replaceFile replaced
  have nowhere := FileTree.leadsNowhere_of_isVacant (vacant path rfl absent) held
  have made := (FileTree.grows_withDirectories tree path.directory).keeps.keepsFiles
  have kept := (before.keepsFiles made).keepsFiles (puts.keepsFiles held nowhere)
  refine ⟨kept.handler, kept.imports, ?_⟩
  rintro _ ⟨⟩
  exact (FileTree.NamesFile.of_putsFile puts nowhere.isDeadEnd held slash).pathExists

theorem rewrites_handler {artifact : Path} {importer config : Option Path} {tree : FileTree}
    (before : IsSetUp artifact importer config tree) :
    ∃ between imports after, (writeHandler artifact).run.run tree = (.ok (), between) ∧
      (importHandler importer).run.run between = (.ok imports, after) ∧
      tree.Agrees after := by
  obtain ⟨⟨place, name, text, mode, names, content⟩, importing, -⟩ := before
  obtain ⟨between, written, puts, again⟩ := names.rewrite emptyHandler
  refine ⟨between, ?_⟩
  rcases content with plain | ⟨imported, path, importerIs, held, slash⟩
  · -- the same text is written, so that the importer is read as before
    have same := puts.agrees (plain ▸ names.stands)
    rcases importer with _ | path
    · exact ⟨none, between, run_writeHandler written, rfl, same⟩
    · obtain ⟨text, read, present⟩ := importing path rfl
      have added := run_addImports_present (same.keeps.keepsFiles.readText read) present
      exact ⟨_, between, run_writeHandler written, run_importHandler added, same⟩
  · -- the import lines are lost with the old text and put in front of the new one
    rw [imported] at names
    subst importerIs
    have itself : between.NamesFile path place name emptyHandler mode :=
      ⟨puts.holder names.isDeadEnd held, slash, puts.stands⟩
    obtain ⟨after, replaced, restores, -⟩ := itself.rewrite (withImports emptyHandler)
    have added := run_addImports_added itself.readText hasImports_handler replaced
    exact ⟨_, after, run_writeHandler written, run_importHandler added,
      (puts.trans restores).agrees names.stands⟩

theorem exists_of_setUp {manifest : Manifest} {options : SetupOptions} {tree after : FileTree}
    {report : SetupReport}
    (done : (setUp manifest options).run.run tree = (.ok report, after)) :
    ∃ written between,
      (writeHandler (options.artifactOf manifest)).run.run tree = (.ok (), written) ∧
      (importHandler (options.importerOf manifest)).run.run written =
        (.ok report.imports, between) ∧
      (writeConfig options.config).run.run between = (.ok report.config, after) := by
  rw [setUp_eq] at done
  obtain ⟨⟨⟩, written, handler, done⟩ := Procedure.exists_of_run_bind done
  obtain ⟨imports, between, imported, done⟩ := Procedure.exists_of_run_bind done
  obtain ⟨config, last, configured, done⟩ := Procedure.exists_of_run_bind done
  obtain ⟨answer, rfl⟩ := Prod.mk.inj done
  cases answer
  exact ⟨written, between, handler, imported, configured⟩

theorem run_setUp {manifest : Manifest} {options : SetupOptions}
    {tree written between after : FileTree} {imports : Option (Path × ImportOutcome)}
    {config : Option (Path × WriteResult)}
    (handler : (writeHandler (options.artifactOf manifest)).run.run tree = (.ok (), written))
    (imported : (importHandler (options.importerOf manifest)).run.run written =
      (.ok imports, between))
    (configured : (writeConfig options.config).run.run between = (.ok config, after)) :
    (setUp manifest options).run.run tree =
      (.ok ⟨options.artifactOf manifest, imports, config⟩, after) := by
  rw [setUp_eq, Procedure.run_bind, handler]
  simp only
  rw [Procedure.run_bind, imported]
  simp only
  rw [Procedure.run_bind, configured]
  rfl

theorem setUp_of_isSetUp {manifest : Manifest} {options : SetupOptions} {tree : FileTree}
    (before : IsSetUp (options.artifactOf manifest) (options.importerOf manifest) options.config
      tree) :
    ∃ report after, (setUp manifest options).run.run tree = (.ok report, after) ∧
      tree.Agrees after ∧ report.config = options.config.map fun path => (path, .skipped) := by
  obtain ⟨written, imports, between, handler, imported, same⟩ := rewrites_handler before
  have configured : (writeConfig options.config).run.run between =
      (.ok (options.config.map fun path => (path, .skipped)), between) := by
    have present := before.config
    generalize options.config = config at present
    rcases config with _ | path
    · rfl
    · exact run_writeConfig_skipped (same.keeps.pathExists (present path rfl))
  exact ⟨_, between, run_setUp handler imported configured, same, rfl⟩

/-- The tree that a setup leaves before it comes to the manifest. -/
def FileTree.beforeConfig (tree : FileTree) (manifest : Manifest) (options : SetupOptions) :
    FileTree :=
  ((setUp manifest { options with config := none }).run.run tree).2

/-- A setup that has succeeded can be repeated, and then leaves the tree as it is, wherever its
three paths lead. The path of the handler must not lead through the entry that the handler takes,
since it leads nowhere afterwards. The manifest must not replace anything: what counts as missing
has to be missing. -/
theorem setUp_again {manifest : Manifest} {options : SetupOptions} {tree after : FileTree}
    {report : SetupReport}
    (first : (setUp manifest options).run.run tree = (.ok report, after))
    (found : ∀ path, report.imports ≠ some (path, .missing))
    (aside : tree.leadsThroughItself
      (options.artifact.getD manifest.output.artifact) = false)
    (vacant : ∀ path, options.config = some path →
      (tree.beforeConfig manifest options).pathExists path = false →
      (tree.beforeConfig manifest options).isVacant path = true) :
    ∃ second again, (setUp manifest options).run.run after = (.ok second, again) ∧
      after.Agrees again ∧ second.config = options.config.map fun path => (path, .skipped) := by
  obtain ⟨written, between, handler, imported, configured⟩ := exists_of_setUp first
  have early : tree.beforeConfig manifest options = between := by
    have run : (setUp manifest { options with config := none }).run.run tree =
        (.ok ⟨options.artifactOf manifest, report.imports, none⟩, between) :=
      run_setUp handler imported rfl
    rw [FileTree.beforeConfig, run]
  rw [early] at vacant
  obtain ⟨place, name, mode, names⟩ := namesFile_of_writeHandler handler aside
  have imports := isSetUp_of_importHandler names imported found
  exact setUp_of_isSetUp (isSetUp_of_writeConfig imports configured vacant)

def importingP : Manifest := { output := { entryPoint := ⟨"P.cs"⟩ } }

/-- Options by which the handler, the entry point and the manifest are one file. -/
def oneFile : SetupOptions :=
  { artifact := some ⟨"P.cs"⟩, entryPoint := true, config := some ⟨"P.cs"⟩ }

/-- A tree in which the entry point is a link to another file, and a link that leads nowhere has the
name of the manifest. -/
def linkedEntryPoint : FileTree :=
  ((FileTree.empty.put ["Q.cs"] (.file "x".toUTF8 0o600)).put ["P.cs"] (.link ⟨"Q.cs"⟩)).put
    ["J.toml"] (.link ⟨"nowhere"⟩)

def threeFiles : SetupOptions := { entryPoint := true, config := some ⟨"J.toml"⟩ }

theorem run_setUp_oneFile : ∃ report after,
    (setUp importingP oneFile).run.run .empty = (.ok report, after) ∧
      report.imports = some (⟨"P.cs"⟩, .added) ∧
      (FileTree.empty.beforeConfig importingP oneFile).pathExists ⟨"P.cs"⟩ = true := by
  have takes : (FileTree.empty.withDirectories (Path.directory ⟨"P.cs"⟩)).takesFile ⟨"P.cs"⟩ =
      true := by
    decide +kernel
  obtain ⟨written, replaced⟩ := run_replaceFile emptyHandler takes
  have handler := run_writeHandler replaced
  obtain ⟨place, name, mode, names⟩ := namesFile_of_writeHandler handler (by decide +kernel)
  obtain ⟨between, imported, -, again⟩ := names.rewrite (withImports emptyHandler)
  have added := run_importHandler
    (run_addImports_added names.readText hasImports_handler imported)
  have early : (setUp importingP { oneFile with config := none }).run.run .empty =
      (.ok ⟨⟨"P.cs"⟩, some (⟨"P.cs"⟩, .added), none⟩, between) :=
    run_setUp handler added rfl
  have whole : (setUp importingP oneFile).run.run .empty =
      (.ok ⟨⟨"P.cs"⟩, some (⟨"P.cs"⟩, .added), some (⟨"P.cs"⟩, .skipped)⟩, between) :=
    run_setUp handler added (run_writeConfig_skipped again.pathExists)
  refine ⟨_, between, whole, rfl, ?_⟩
  rw [FileTree.beforeConfig, early]
  exact again.pathExists

/-- One file is handler, entry point and manifest; and three files are written of which the second
is reached through a link and the third takes the place of one. -/
theorem setUp_again_through_links :
    (∃ report after second again,
      (setUp importingP oneFile).run.run .empty = (.ok report, after) ∧
        (setUp importingP oneFile).run.run after = (.ok second, again) ∧
        after.Agrees again ∧ second.config = some (⟨"P.cs"⟩, .skipped)) ∧
      ∃ report after second again,
        (setUp importingP threeFiles).run.run linkedEntryPoint = (.ok report, after) ∧
          (setUp importingP threeFiles).run.run after = (.ok second, again) ∧
          after.Agrees again ∧ second.config = some (⟨"J.toml"⟩, .skipped) := by
  constructor
  · obtain ⟨report, after, first, imports, present⟩ := run_setUp_oneFile
    obtain ⟨second, again, repeated, same, config⟩ :=
      setUp_again first (by simp [imports]) (by decide +kernel) (by
        rintro path ⟨⟩ missing
        rw [present] at missing
        cases missing)
    exact ⟨report, after, second, again, first, repeated, same, config⟩
  · have known : ((setUp importingP threeFiles).run.run linkedEntryPoint).1.map
        SetupReport.imports = .ok (some (⟨"P.cs"⟩, .added)) := by
      decide +kernel
    obtain ⟨report, after, first, imports⟩ := Procedure.exists_of_map known
    obtain ⟨second, again, repeated, same, config⟩ :=
      setUp_again first (by simp [imports]) (by decide +kernel) (by
        rintro path ⟨⟩ -
        decide +kernel)
    exact ⟨report, after, second, again, first, repeated, same, config⟩

def throughLink : SetupOptions := { artifact := some ⟨"L/../L"⟩ }

/-- Options by which the manifest takes the place of the handler. Its path leads nowhere until the
directory `X` is made for it. -/
def overHandler : SetupOptions := { config := some ⟨"X/../JSONHandler.cs"⟩ }

def FileTree.firstByte? (tree : FileTree) (location : Location) : Option UInt8 :=
  match tree.find? location with
  | some (.file bytes _) => bytes.data.toList.head?
  | _ => none

/-- A handler that replaces the link on the way to it cannot be written again, and one that the
manifest has replaced is put back. -/
theorem setUp_again_differs :
    (∃ report after failure later,
      (setUp { } throughLink).run.run linkedDirectory = (.ok report, after) ∧
        report.imports = none ∧
        (setUp { } throughLink).run.run after = (.error failure, later)) ∧
      ∃ report after second again,
        (setUp { } overHandler).run.run .empty = (.ok report, after) ∧
          report.imports = none ∧
          (setUp { } overHandler).run.run after = (.ok second, again) ∧
          again.find? ["JSONHandler.cs"] ≠ after.find? ["JSONHandler.cs"] := by
  constructor
  · have known : ((setUp { } throughLink).run.run linkedDirectory).1.map SetupReport.imports =
        .ok none := by
      decide +kernel
    have broken : ((setUp { } throughLink).run.run
        ((setUp { } throughLink).run.run linkedDirectory).2).1.toBool = false := by
      decide +kernel
    obtain ⟨report, after, first, imports⟩ := Procedure.exists_of_map known
    rw [first] at broken
    rcases second : (setUp { } throughLink).run.run after with ⟨failure | answer, later⟩
    · exact ⟨report, after, failure, later, first, imports, second⟩
    · rw [second] at broken
      cases broken
  · have known : ((setUp { } overHandler).run.run .empty).1.map SetupReport.imports = .ok none := by
      decide +kernel
    have repeated : ((setUp { } overHandler).run.run
        ((setUp { } overHandler).run.run .empty).2).1.map SetupReport.imports = .ok none := by
      decide +kernel
    have bytes : ((setUp { } overHandler).run.run .empty).2.firstByte? ["JSONHandler.cs"] =
          some 35 ∧
        ((setUp { } overHandler).run.run
          ((setUp { } overHandler).run.run .empty).2).2.firstByte? ["JSONHandler.cs"] =
            some 10 := by
      decide +kernel
    obtain ⟨report, after, first, imports⟩ := Procedure.exists_of_map known
    rw [first] at repeated bytes
    obtain ⟨second, again, next, -⟩ := Procedure.exists_of_map repeated
    rw [next] at bytes
    refine ⟨report, after, second, again, first, imports, next, ?_⟩
    intro same
    rw [FileTree.firstByte?, FileTree.firstByte?, same] at bytes
    exact absurd (bytes.1.symm.trans bytes.2) (by decide)

end Registrar
