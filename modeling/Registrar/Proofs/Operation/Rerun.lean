import Registrar.Manifest.Read
import Registrar.Proofs.Artifact.Tokens
import Registrar.Proofs.Operation.Registration
import Registrar.Proofs.Source.Discovery

/-!
# Running once more

A run may scan the handler that an earlier one wrote. It finds nothing new there, and then writes
the same text, unless the marker accepts an attribute of the handler itself. Beside that the entry
that became the handler must not have been one that the first run read a marked type from, or went
through on its way to the root or to the handler.
-/

set_option autoImplicit false

namespace Registrar

open FileTree

theorem filter_marks_handler {parser : SourceParser} {marker : Marker} {added kept : List String}
    (reads : parser.ReadsHandler added kept)
    (unmarked : ∀ name ∈ handlerAttributes (added ++ kept), marker.accepts ⟨name⟩ = false)
    (path : Path) :
    (SourceFile.read parser ⟨path, (handlerText added kept).toUTF8⟩).root.decls.filter
      marker.marks = [] := by
  rw [List.filter_eq_nil_iff]
  intro decl membership marked
  obtain ⟨⟨name⟩, carried, accepted⟩ := List.any_eq_true.1 marked
  rw [unmarked name (reads.name_mem membership carried)] at accepted
  cases accepted

theorem namesIn_handler {parser : SourceParser} {settings : ScanSettings} {names : List String}
    (reads : parser.ReadsHandler [] names)
    (unmarked : ∀ name ∈ handlerAttributes names,
      (Marker.mk settings.marker).accepts ⟨name⟩ = false)
    (path : Path) : namesIn parser settings ⟨path, (handlerText [] names).toUTF8⟩ = [] := by
  rw [namesIn, filter_marks_handler reads unmarked path, List.map_nil]

section Below

variable (host : Host) (settings : ScanSettings)

/-- The names of the marked types in the files that are read below a location. -/
def namesBelow (tree : FileTree) (place : Location) : List String :=
  (tree.readBelow host.access settings.root ⟨settings.extensions, settings.exclude⟩ place).flatMap
    fun (names, bytes) => namesIn host.parser settings ⟨settings.root.extend names, bytes⟩

variable {host settings} {tree : FileTree}

theorem names_ofDiscovery_below {found : Discovery} {place : Location}
    (located : tree.locate settings.root = .ok place)
    (discovered : tree.discover host.access settings.root ⟨settings.extensions, settings.exclude⟩ =
      some found) :
    (Scan.ofDiscovery host.parser settings found).names =
      firstSpellings (namesBelow host settings tree place) := by
  obtain ⟨other, again, -, files, -⟩ := discover_eq_some_iff.1 discovered
  obtain rfl : other = place := Except.ok.inj (again.symm.trans located)
  rw [Scan.names_ofDiscovery, markedNames, files, List.flatMap_map]
  rfl

end Below

/-- What a run comes to, and another one that overwrites the same handler behind it. -/
structure RunsTwice (host : Host) (settings : ScanSettings) (artifact : Path)
    (location place : Location) (mode : Nat) (tree after again : FileTree)
    (first second : RunReport) : Prop where
  directory : tree.find? place = some .directory
  remains : after.find? place = some .directory
  changesOnly : ChangesOnly (some location) artifact tree after
  stands : after.find? location = some (.file (handlerText [] first.names).toUTF8 mode)
  rerun : (register host settings ⟨artifact, .overwrite, false⟩).run.run after =
    (.ok second, again)
  before : first.names = firstSpellings (namesBelow host settings tree place)
  behind : second.names = firstSpellings (namesBelow host settings after place)
  read : after.readText artifact = .ok (handlerText [] first.names)
  reread : again.readText artifact = .ok (handlerText [] second.names)
  puts : PutsFile after again location (handlerText [] second.names) mode

section Again

variable {host : Host} {settings : ScanSettings} {artifact : Path} {tree after : FileTree}
  {report : RunReport} {location : Location}

theorem exists_of_register_again
    (first : (register host settings ⟨artifact, .overwrite, false⟩).run.run tree =
      (.ok report, after))
    (slot : tree.slot? artifact = some location)
    (aside : tree.leadsThroughItself artifact = false)
    (rooted : (tree.erase location).isDirectory settings.root = true) :
    ∃ place mode second again, tree.locate settings.root = .ok place ∧
      RunsTwice host settings artifact location place mode tree after again report second := by
  obtain ⟨found, discovered, rfl, written⟩ := exists_of_register first
  obtain ⟨text, preview, replaced⟩ := exists_of_writeArtifact written
  simp only [previewArtifact, renderArtifact_ofNames, Except.ok.injEq] at preview
  subst preview
  obtain ⟨-, other, _, replaces⟩ := exists_replaces replaced
  obtain rfl : other = location := Option.some.inj (replaces.slot.symm.trans slot)
  obtain ⟨place, located, directory, relocated, remains⟩ :=
    exists_root_of_changesOnly replaces.changesOnly rooted
  obtain ⟨around, name, mode, again, held, slash, stands⟩ := holder_of_replaceFile replaced aside
  obtain rfl : other = around ++ [name] := Option.some.inj (slot.symm.trans again)
  have handler : after.NamesFile artifact around name _ mode := ⟨held, slash, stands⟩
  obtain ⟨others, rediscovered⟩ : ∃ others, after.discover host.access settings.root
      ⟨settings.extensions, settings.exclude⟩ = some others :=
    ⟨⟨_, _⟩, discover_eq_some_iff.2 ⟨place, relocated, remains, rfl, rfl⟩⟩
  obtain ⟨again, repeated, puts, handlerAgain⟩ :=
    handler.rewrite (handlerText [] (Scan.ofDiscovery host.parser settings others).names)
  have preview : previewArtifact after artifact
      (Fragments.ofNames (Scan.ofDiscovery host.parser settings others).names) .overwrite =
        .ok (handlerText [] (Scan.ofDiscovery host.parser settings others).names) := by
    rw [previewArtifact, renderArtifact_ofNames]
  exact ⟨place, mode, _, again, located, {
    directory := directory
    remains := remains
    changesOnly := replaces.changesOnly
    stands := stands
    rerun := run_register rediscovered (run_writeArtifact preview repeated)
    before := names_ofDiscovery_below located discovered
    behind := names_ofDiscovery_below relocated rediscovered
    read := handler.readText
    reread := handlerAgain.readText
    puts := puts }⟩

/-- A run that overwrites its handler, done once more, registers the same names and changes nothing.
Neither path leads through the entry that becomes the handler, and the first run has found no marked
type there. If the handler is scanned, the parser sees its attributes and the marker accepts none
of them. -/
theorem overwrite_again
    (first : (register host settings ⟨artifact, .overwrite, false⟩).run.run tree =
      (.ok report, after))
    (slot : tree.slot? artifact = some location)
    (aside : tree.leadsThroughItself artifact = false)
    (rooted : (tree.erase location).isDirectory settings.root = true)
    (replaced : ∀ bytes mode, tree.find? location = some (.file bytes mode) →
      tree.IsScanned host.access settings.root ⟨settings.extensions, settings.exclude⟩ location →
      ∀ path, namesIn host.parser settings ⟨path, bytes⟩ = [])
    (reads : host.parser.ReadsHandler [] report.names)
    (unmarked :
      tree.IsScanned host.access settings.root ⟨settings.extensions, settings.exclude⟩ location →
      ∀ name ∈ handlerAttributes report.names,
        (Marker.mk settings.marker).accepts ⟨name⟩ = false) :
    ∃ text second again,
      (register host settings ⟨artifact, .overwrite, false⟩).run.run after =
        (.ok second, again) ∧
      second.names = report.names ∧
      after.readText artifact = .ok text ∧
      again.readText artifact = .ok text ∧
      Agrees after again := by
  obtain ⟨place, mode, second, again, located, twice⟩ :=
    exists_of_register_again first slot aside rooted
  have names : second.names = report.names := by
    rw [twice.before, twice.behind]
    refine congrArg firstSpellings (flatMap_readBelow_of_changesOnly twice.changesOnly located
      twice.directory twice.remains ?_ ?_)
    · exact fun bytes mode stood scanned names => replaced bytes mode stood scanned _
    · intro bytes mode stands scanned names
      obtain ⟨rfl, -⟩ := Entry.file.inj (Option.some.inj (stands.symm.trans twice.stands))
      exact namesIn_handler reads (unmarked scanned) _
  have puts := twice.puts
  have reread := twice.reread
  rw [names] at puts reread
  exact ⟨_, second, again, twice.rerun, names, twice.read, reread, puts.agrees twice.stands⟩

end Again

/-- The handler of the default settings is scanned, but its attributes are not accepted. -/
theorem overwrite_again_unchanged : ∃ report after second again,
    (register .standard { } ⟨⟨"H.cs"⟩, .overwrite, false⟩).run.run twoSpellings =
        (.ok report, after) ∧
      twoSpellings.slot? ⟨"H.cs"⟩ = some (["H.cs"] : Location) ∧
      twoSpellings.leadsThroughItself ⟨"H.cs"⟩ = false ∧
      (twoSpellings.erase ["H.cs"]).isDirectory ⟨"."⟩ = true ∧
      outlineParser.ReadsHandler [] report.names ∧
      (∀ name ∈ handlerAttributes report.names, (Marker.mk "JsonA").accepts ⟨name⟩ = false) ∧
      (register .standard { } ⟨⟨"H.cs"⟩, .overwrite, false⟩).run.run after = (.ok second, again) ∧
      second.names = ["Foo"] ∧
      again.readText ⟨"H.cs"⟩ = after.readText ⟨"H.cs"⟩ := by
  have names : ((register .standard { } ⟨⟨"H.cs"⟩, .overwrite, false⟩).run.run
      twoSpellings).1.map RunReport.names = .ok ["Foo"] := by
    decide +kernel
  have slot : twoSpellings.slot? ⟨"H.cs"⟩ = some (["H.cs"] : Location) ∧
      twoSpellings.leadsThroughItself ⟨"H.cs"⟩ = false ∧
      (twoSpellings.erase ["H.cs"]).isDirectory ⟨"."⟩ = true ∧
      twoSpellings.find? ["H.cs"] = none := by
    decide +kernel
  obtain ⟨slot, aside, rooted, missing⟩ := slot
  obtain ⟨report, after, outcome, reported⟩ := exists_of_map_names names
  have reads : outlineParser.ReadsHandler [] report.names := by
    rw [reported]
    exact outlineParser_readsHandler (by decide +kernel)
  have unmarked : ∀ name ∈ handlerAttributes report.names,
      (Marker.mk "JsonA").accepts ⟨name⟩ = false := by
    rw [reported]
    decide +kernel
  have replaced : ∀ bytes mode, twoSpellings.find? ["H.cs"] = some (.file bytes mode) →
      twoSpellings.IsScanned Host.standard.access ⟨"."⟩ { } ["H.cs"] →
      ∀ path, namesIn outlineParser { } ⟨path, bytes⟩ = [] := by
    intro bytes mode stood
    rw [missing] at stood
    cases stood
  obtain ⟨text, second, again, rerun, same, read, reread, -⟩ :=
    overwrite_again outcome slot aside rooted replaced reads fun _ => unmarked
  exact ⟨report, after, second, again, outcome, slot, aside, rooted, reads, unmarked, rerun,
    same.trans reported, reread.trans read.symm⟩

theorem toList_handlerText_nil (names : List String) : (handlerText [] names).toList =
    (Template.openingLines ++ names.map rowLine ++ Template.middleLines ++
      names.flatMap classLines ++ Template.closingLines).flatMap fun line =>
        line.toList ++ ['\n'] := by
  rw [handlerText_eq_unlines, Text.toList_unlines, handlerLines, linesBeforeRegion,
    Template.middleLines_eq]
  simp

def oneMarked : FileTree :=
  FileTree.empty.put ["A.cs"] (.file "[JsonAot] class Foo \x7b \x7d".toUTF8 0o644)

def linkedRoot : FileTree :=
  (FileTree.empty.put ["D"] .directory).put ["L"] (.link ⟨"D"⟩)

def danglingLink : FileTree := FileTree.empty.put ["L"] (.link ⟨"X"⟩)

/-- Settings without a fault whose marker accepts more than the attribute it is made for. -/
def looseSettings : ScanSettings := { marker := "Json" }

theorem FileTree.eq_of_find?_put_empty {location other : Location} {entry : Entry}
    {bytes : ByteArray} {mode : Nat}
    (found : (empty.put location entry).find? other = some (.file bytes mode)) :
    other = location := by
  rw [find?_put] at found
  split at found
  · rename_i same
    exact same.2.symm
  · cases other with
    | nil =>
        rw [find?_nil] at found
        cases found
    | cons name rest => simp [find?, empty] at found

/-- A run whose settings are without a fault writes a handler where the path leads nowhere, and
another run behind it does not report the same names. -/
structure ReportsOnce (settings : ScanSettings) (artifact : Path) (tree : FileTree) : Prop where
  valid : (Manifest.mk settings { artifact := artifact }).fault? = none
  missing : tree.pathExists artifact = false
  once : ∃ report after,
    (register .standard settings ⟨artifact, .overwrite, false⟩).run.run tree = (.ok report, after) ∧
      ¬ ∃ second again, (register .standard settings ⟨artifact, .overwrite, false⟩).run.run after =
        (.ok second, again) ∧ second.names = report.names

theorem ReportsOnce.of_failed {settings : ScanSettings} {artifact : Path} {tree : FileTree}
    (valid : (Manifest.mk settings { artifact := artifact }).fault? = none)
    (missing : tree.pathExists artifact = false)
    (first : ((register .standard settings ⟨artifact, .overwrite, false⟩).run.run
      tree).1.toBool = true)
    (failed : ((register .standard settings ⟨artifact, .overwrite, false⟩).run.run
      ((register .standard settings ⟨artifact, .overwrite, false⟩).run.run tree).2).1.toBool =
        false) :
    ReportsOnce settings artifact tree := by
  refine ⟨valid, missing, ?_⟩
  rcases outcome : (register .standard settings ⟨artifact, .overwrite, false⟩).run.run tree with
    ⟨failure | report, after⟩
  · rw [outcome] at first
    cases first
  · rw [outcome] at failed
    refine ⟨report, after, rfl, ?_⟩
    rintro ⟨second, again, rerun, -⟩
    rw [rerun] at failed
    cases failed

theorem ReportsOnce.of_twice {settings : ScanSettings} {artifact : Path} {tree : FileTree}
    {location : Location} {names : List String}
    (valid : (Manifest.mk settings { artifact := artifact }).fault? = none)
    (missing : tree.pathExists artifact = false)
    (reported : ((register .standard settings ⟨artifact, .overwrite, false⟩).run.run
      tree).1.map RunReport.names = .ok names)
    (slot : tree.slot? artifact = some location)
    (aside : tree.leadsThroughItself artifact = false)
    (rooted : (tree.erase location).isDirectory settings.root = true)
    (differs : ∀ place mode after again first second, tree.locate settings.root = .ok place →
      RunsTwice .standard settings artifact location place mode tree after again first second →
      first.names = names → second.names ≠ names) :
    ReportsOnce settings artifact tree := by
  obtain ⟨first, after, outcome, named⟩ := exists_of_map_names reported
  obtain ⟨place, mode, second, again, located, twice⟩ :=
    exists_of_register_again outcome slot aside rooted
  refine ⟨valid, missing, first, after, outcome, ?_⟩
  rintro ⟨other, later, rerun, same⟩
  rw [twice.rerun] at rerun
  obtain rfl := Except.ok.inj (Prod.mk.inj rerun).1
  exact differs place mode after again first second located twice named (same.trans named)

theorem namesIn_looseHandler (path : Path) :
    namesIn outlineParser looseSettings ⟨path, (handlerText [] ["Foo"]).toUTF8⟩ =
      ["FooContext"] := by
  rw [namesIn, root_read_handler, outlineParser, toList_handlerText_nil]
  simp only [Template.openingLines, Template.middleLines, Template.closingLines, rowLine,
    classLines, List.map_cons, List.map_nil, List.cons_append, List.nil_append,
    List.flatMap_cons, List.flatMap_nil, String.toList_append]
  repeat rw [String.toList_ofList]
  decide +kernel

theorem reportsOnce_looseMarker : ReportsOnce looseSettings ⟨"JSONHandler.cs"⟩ oneMarked := by
  have closed : oneMarked.slot? ⟨"JSONHandler.cs"⟩ = some (["JSONHandler.cs"] : Location) ∧
      oneMarked.leadsThroughItself ⟨"JSONHandler.cs"⟩ = false ∧
      (oneMarked.erase ["JSONHandler.cs"]).isDirectory looseSettings.root = true ∧
      oneMarked.locate looseSettings.root = .ok [] := by
    decide +kernel
  obtain ⟨slot, aside, rooted, root⟩ := closed
  have reported : ((register .standard looseSettings
      ⟨⟨"JSONHandler.cs"⟩, .overwrite, false⟩).run.run oneMarked).1.map RunReport.names =
        .ok ["Foo"] := by
    decide +kernel
  refine .of_twice (by decide +kernel) (by decide +kernel) reported slot aside rooted ?_
  intro place mode after again first second located twice named same
  obtain rfl : place = [] := Except.ok.inj (located.symm.trans root)
  have stands := twice.stands
  rw [named] at stands
  have selected : SourceFilter.Selects ⟨looseSettings.extensions, looseSettings.exclude⟩
      ["JSONHandler.cs"] :=
    ⟨by simp, _, rfl, SourceFilter.acceptsName_iff.1 (by decide +kernel)⟩
  have permitted : Host.standard.access.Reads looseSettings.root ["JSONHandler.cs"] := by
    refine ⟨fun directory above => ?_, by decide +kernel⟩
    obtain rfl : directory = [] := by simpa using (isAbove_iff.1 above).2
    decide +kernel
  have scanned := (mem_readBelow_iff twice.remains).2 ⟨⟨mode, stands⟩, selected, permitted⟩
  have registered : "FooContext" ∈ namesBelow .standard looseSettings after [] := by
    refine List.mem_flatMap.2 ⟨_, scanned, ?_⟩
    have names := namesIn_looseHandler (Path.extend looseSettings.root ["JSONHandler.cs"])
    show "FooContext" ∈ namesIn outlineParser looseSettings _
    rw [names]
    exact List.mem_singleton_self _
  obtain ⟨kept, among, spelling⟩ := exists_mem_firstSpellings registered
  rw [← twice.behind, same, List.mem_singleton] at among
  subst among
  exact absurd spelling (by decide +kernel)

theorem reportsOnce_registeredFile : ReportsOnce { } ⟨"X/../A.cs"⟩ oneMarked := by
  have closed : oneMarked.slot? ⟨"X/../A.cs"⟩ = some (["A.cs"] : Location) ∧
      oneMarked.leadsThroughItself ⟨"X/../A.cs"⟩ = false ∧
      (oneMarked.erase ["A.cs"]).isDirectory ⟨"."⟩ = true ∧
      (∀ name ∈ handlerAttributes ["Foo"], (Marker.mk "JsonA").accepts ⟨name⟩ = false) := by
    decide +kernel
  obtain ⟨slot, aside, rooted, unmarked⟩ := closed
  have reported : ((register .standard { } ⟨⟨"X/../A.cs"⟩, .overwrite, false⟩).run.run
      oneMarked).1.map RunReport.names = .ok ["Foo"] := by
    decide +kernel
  refine .of_twice (by decide +kernel) (by decide +kernel) reported slot aside rooted ?_
  intro place mode after again first second located twice named same
  have silent : ∀ path, namesIn outlineParser { } ⟨path, (handlerText [] ["Foo"]).toUTF8⟩ = [] :=
    namesIn_handler (outlineParser_readsHandler (by decide +kernel)) unmarked
  have others : ∀ {location bytes mode}, location ≠ (["A.cs"] : Location) →
      after.find? location ≠ some (.file bytes mode) := by
    intro location bytes mode apart stands
    have distinct : some location ≠ some (["A.cs"] : Location) := fun same =>
      apart (Option.some.inj same)
    rcases stood : oneMarked.find? location with _ | entry
    · cases (twice.changesOnly.isDirectory _ _ distinct stood stands).1
    · obtain rfl := Option.some.inj
        ((twice.changesOnly.find?_eq_some _ _ distinct stood).symm.trans stands)
      rw [oneMarked] at stood
      exact apart (eq_of_find?_put_empty stood)
  have nothing : namesBelow .standard { } after place = [] := by
    refine List.flatMap_eq_nil_iff.2 ?_
    rintro ⟨names, bytes⟩ scanned
    obtain ⟨⟨mode, stands⟩, -⟩ := (mem_readBelow_iff twice.remains).1 scanned
    by_cases here : place ++ names = (["A.cs"] : Location)
    · rw [here, twice.stands] at stands
      obtain ⟨rfl, -⟩ := Entry.file.inj (Option.some.inj stands)
      show namesIn outlineParser { } _ = []
      rw [named, silent]
    · exact absurd stands (others here)
  rw [twice.behind, nothing] at same
  cases same

/-- A second run may find its own context class, miss a file that it has replaced, or get stuck at a
path that led through the entry that it has replaced. -/
theorem overwrite_again_reports_other_names :
    ReportsOnce looseSettings ⟨"JSONHandler.cs"⟩ oneMarked ∧
      ReportsOnce { } ⟨"X/../A.cs"⟩ oneMarked ∧
      ReportsOnce { root := ⟨"L"⟩ } ⟨"X/../L"⟩ linkedRoot ∧
      ReportsOnce { } ⟨"X/../L/../L"⟩ danglingLink := by
  refine ⟨reportsOnce_looseMarker, reportsOnce_registeredFile, ?_, ?_⟩
  · apply ReportsOnce.of_failed <;> decide +kernel
  · apply ReportsOnce.of_failed <;> decide +kernel

end Registrar
