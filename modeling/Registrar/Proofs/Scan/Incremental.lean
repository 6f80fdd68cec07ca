import Registrar.Proofs.Scan.Pipeline

/-!
# Scans in instalments

Files may be added to a scan between its phases, which may run in any order and any number of
times. Whatever has been done, a scan accounts for each added file once: either the file still
waits, or its unit and its warnings are there. So the phases that conclude a scan leave what they
leave where all files were added at once.
-/

set_option autoImplicit false

namespace Registrar.Scan

inductive Action where
  | add (file : SourceFile)
  | parse
  | collect
  | dedup
  | synthesize
  | validate (lints : List Lint)
  | take

namespace Action

def procedure (parser : SourceParser) : Action → ScanM Unit
  | add file => modify fun scan => { scan with sources := scan.sources ++ [file] }
  | parse => modify (Scan.parse parser)
  | collect => modify Scan.collect
  | dedup => modify Scan.dedup
  | synthesize => modify Scan.synthesize
  | validate lints => Scan.validate lints
  | take => discard Scan.takeFragments

def added : Action → List SourceFile
  | add file => [file]
  | _ => []

/-- The phases that bring a scan up to date. -/
def concluding : List Action := [parse, collect, dedup, synthesize]

end Action

/-- What an action leaves of a scan, whether it succeeds or fails. -/
def perform (parser : SourceParser) (scan : Scan) (action : Action) : Scan :=
  ((action.procedure parser).run.run scan).2

def performAll (parser : SourceParser) (scan : Scan) (actions : List Action) : Scan :=
  actions.foldl (perform parser) scan

theorem performAll_append (parser : SourceParser) (scan : Scan) (actions more : List Action) :
    scan.performAll parser (actions ++ more) =
      (scan.performAll parser actions).performAll parser more :=
  List.foldl_append

def parseDiagnostics (scan : Scan) : List Diagnostic :=
  scan.diagnostics.filter fun diagnostic => diagnostic.phase == Phase.parse.name

theorem filter_unitWarnings (unit : SourceUnit) :
    (unitWarnings unit).filter (fun diagnostic => diagnostic.phase == Phase.parse.name) =
      unitWarnings unit := by
  apply List.filter_eq_self.2
  intro diagnostic membership
  rcases List.mem_append.1 membership with lossy | recovered
  · split at lossy
    · rw [List.mem_singleton.1 lossy]
      rfl
    · cases lossy
  · split at recovered
    · rw [List.mem_singleton.1 recovered]
      rfl
    · cases recovered

end Registrar.Scan

namespace Registrar.Lint

theorem phase_of_mem_duplicatesAfter {kept findings : List Finding} {diagnostic : Diagnostic}
    (membership : diagnostic ∈ duplicatesAfter kept findings) : diagnostic.phase = phase := by
  induction findings generalizing kept with
  | nil => cases membership
  | cons finding rest inductionHypothesis =>
      rw [duplicatesAfter] at membership
      split at membership
      · rcases List.mem_cons.1 membership with rfl | later
        · rfl
        · exact inductionHypothesis later
      · exact inductionHypothesis membership

theorem phase_of_mem_check {lint : Lint} {findings : List Finding} {diagnostic : Diagnostic}
    (membership : diagnostic ∈ lint.check findings) : diagnostic.phase = phase := by
  cases lint with
  | nearMiss =>
      obtain ⟨finding, -, rfl⟩ := List.mem_map.1 membership
      rfl
  | duplicateName => exact phase_of_mem_duplicatesAfter membership

end Registrar.Lint

namespace Registrar.Scan

theorem filter_checks (lints : List Lint) (findings : List Finding) :
    (lints.flatMap fun lint => lint.check findings).filter
      (fun diagnostic => diagnostic.phase == Phase.parse.name) = [] := by
  apply List.filter_eq_nil_iff.2
  intro diagnostic membership
  obtain ⟨lint, -, check⟩ := List.mem_flatMap.1 membership
  rw [Lint.phase_of_mem_check check]
  decide

section

variable (parser : SourceParser)

theorem perform_validate (scan : Scan) (lints : List Lint) :
    scan.perform parser (.validate lints) =
      { scan with
        diagnostics := scan.diagnostics ++ lints.flatMap fun lint => lint.check scan.findings } :=
  snd_run_validate lints scan

theorem perform_take (scan : Scan) :
    scan.perform parser .take = { scan with fragments := none } := by
  rcases scan with ⟨settings, marker, sources, units, findings, names, _ | fragments, diagnostics⟩
  · rfl
  · rfl

/-- Each of the files is accounted for once: it waits, or its unit and warnings are there. -/
structure AccountsFor (settings : ScanSettings) (files : List SourceFile) (scan : Scan) :
    Prop where
  marker : scan.marker = ⟨settings.marker⟩
  units : scan.units ++ scan.sources.map (SourceFile.read parser) =
    files.map (SourceFile.read parser)
  warnings :
    scan.parseDiagnostics ++ (scan.sources.map (SourceFile.read parser)).flatMap unitWarnings =
      (files.map (SourceFile.read parser)).flatMap unitWarnings

theorem AccountsFor.start (settings : ScanSettings) :
    AccountsFor parser settings [] (Scan.start settings) :=
  ⟨rfl, rfl, rfl⟩

theorem parseDiagnostics_parse (scan : Scan) :
    (scan.parse parser).parseDiagnostics =
      scan.parseDiagnostics ++
        (scan.sources.map (SourceFile.read parser)).flatMap unitWarnings := by
  simp only [parseDiagnostics, Scan.parse, List.filter_append, List.filter_flatMap,
    filter_unitWarnings]

end

namespace AccountsFor

variable {parser : SourceParser} {settings : ScanSettings} {files : List SourceFile} {scan : Scan}

theorem add (accounts : AccountsFor parser settings files scan) (file : SourceFile) :
    AccountsFor parser settings (files ++ [file]) (scan.perform parser (.add file)) := by
  constructor
  · exact accounts.marker
  · calc scan.units ++ (scan.sources ++ [file]).map (SourceFile.read parser)
        = (scan.units ++ scan.sources.map (SourceFile.read parser)) ++ [file.read parser] := by simp
      _ = (files ++ [file]).map (SourceFile.read parser) := by simp [accounts.units]
  · calc scan.parseDiagnostics ++
          ((scan.sources ++ [file]).map (SourceFile.read parser)).flatMap unitWarnings
        = (scan.parseDiagnostics ++
            (scan.sources.map (SourceFile.read parser)).flatMap unitWarnings) ++
              unitWarnings (file.read parser) := by simp
      _ = ((files ++ [file]).map (SourceFile.read parser)).flatMap unitWarnings := by
          simp [accounts.warnings]

theorem parse (accounts : AccountsFor parser settings files scan) :
    AccountsFor parser settings files (scan.perform parser .parse) := by
  constructor
  · exact accounts.marker
  · exact (List.append_nil _).trans accounts.units
  · exact (List.append_nil _).trans ((parseDiagnostics_parse parser scan).trans accounts.warnings)

theorem validate (accounts : AccountsFor parser settings files scan) (lints : List Lint) :
    AccountsFor parser settings files (scan.perform parser (.validate lints)) := by
  rw [perform_validate]
  constructor
  · exact accounts.marker
  · exact accounts.units
  · simp only [parseDiagnostics, List.filter_append, filter_checks, List.append_nil]
    exact accounts.warnings

theorem of_untouched (accounts : AccountsFor parser settings files scan) {after : Scan}
    (marker : after.marker = scan.marker) (sources : after.sources = scan.sources)
    (units : after.units = scan.units) (diagnostics : after.diagnostics = scan.diagnostics) :
    AccountsFor parser settings files after := by
  constructor
  · exact marker.trans accounts.marker
  · rw [units, sources]
    exact accounts.units
  · rw [parseDiagnostics, diagnostics, sources]
    exact accounts.warnings

/-- No action loses a file or reads one twice. -/
theorem perform (accounts : AccountsFor parser settings files scan) (action : Action) :
    AccountsFor parser settings (files ++ action.added) (scan.perform parser action) := by
  have nothingAdded : ∀ {after : Scan}, AccountsFor parser settings files after →
      AccountsFor parser settings (files ++ []) after := by
    intro after still
    rwa [List.append_nil]
  cases action with
  | add file => exact accounts.add file
  | parse => exact nothingAdded accounts.parse
  | validate lints => exact nothingAdded (accounts.validate lints)
  | collect | dedup | synthesize => exact nothingAdded (accounts.of_untouched rfl rfl rfl rfl)
  | take =>
      rw [perform_take]
      exact nothingAdded (accounts.of_untouched rfl rfl rfl rfl)

theorem performAll (accounts : AccountsFor parser settings files scan) (actions : List Action) :
    AccountsFor parser settings (files ++ actions.flatMap Action.added)
      (scan.performAll parser actions) := by
  induction actions generalizing files scan with
  | nil =>
      rw [List.flatMap_nil, List.append_nil]
      exact accounts
  | cons action rest inductionHypothesis =>
      rw [List.flatMap_cons, ← List.append_assoc]
      exact inductionHypothesis (accounts.perform action)

end AccountsFor

/-- What has been found out when a scan is concluded, apart from what the checks noted on the
way. -/
structure SameResult (first second : Scan) : Prop where
  sources : first.sources = second.sources
  units : first.units = second.units
  findings : first.findings = second.findings
  names : first.names = second.names
  fragments : first.fragments = second.fragments
  parseDiagnostics : first.parseDiagnostics = second.parseDiagnostics

/-- A concluded scan depends on the files that it accounts for, not on how they came in. -/
structure Concluded (parser : SourceParser) (settings : ScanSettings) (files : List SourceFile)
    (scan : Scan) : Prop where
  sources : scan.sources = []
  units : scan.units = files.map (SourceFile.read parser)
  findings : scan.findings = scan.units.flatMap fun unit => unit.findings ⟨settings.marker⟩
  names : scan.names = distinctNames (scan.findings.map Finding.name)
  fragments : scan.fragments = some (Fragments.ofNames scan.names)
  parseDiagnostics :
    scan.parseDiagnostics = (files.map (SourceFile.read parser)).flatMap unitWarnings

section

variable {parser : SourceParser} {settings : ScanSettings} {files : List SourceFile}

theorem AccountsFor.conclude {scan : Scan}
    (accounts : AccountsFor parser settings files scan) :
    Concluded parser settings files (scan.performAll parser Action.concluding) := by
  have parsed : (scan.performAll parser Action.concluding) =
      (scan.parse parser).collect.dedup.synthesize := rfl
  rw [parsed]
  constructor
  · rfl
  · exact accounts.units
  · rw [← accounts.marker]
    rfl
  · rfl
  · rfl
  · exact (parseDiagnostics_parse parser scan).trans accounts.warnings

theorem Concluded.sameResult {first second : Scan}
    (concluded : Concluded parser settings files first)
    (other : Concluded parser settings files second) : SameResult first second := by
  have units := concluded.units.trans other.units.symm
  have findings : first.findings = second.findings := by
    rw [concluded.findings, other.findings, units]
  have names : first.names = second.names := by
    rw [concluded.names, other.names, findings]
  constructor
  · exact concluded.sources.trans other.sources.symm
  · exact units
  · exact findings
  · exact names
  · rw [concluded.fragments, other.fragments, names]
  · exact concluded.parseDiagnostics.trans other.parseDiagnostics.symm

end

variable (parser : SourceParser)

/-- The warnings about a file: the one about its bytes comes first. -/
def fileWarnings (file : SourceFile) : List Diagnostic :=
  (if file.bytes.IsValidUTF8 then []
    else [⟨.warning, "parse", "file is not valid UTF-8; invalid bytes were replaced",
      some file.path.text⟩]) ++
    (if (parser (Text.withoutMark (Text.decode file.bytes).text)).hasError then
      [⟨.warning, "parse",
        "file has syntax errors; declarations were recovered where possible",
        some file.path.text⟩]
    else [])

theorem unitWarnings_read (file : SourceFile) :
    unitWarnings (file.read parser) = fileWarnings parser file := by
  have lossy : (file.read parser).lossy = true ↔ ¬ file.bytes.IsValidUTF8 := by
    have decoded : (file.read parser).lossy = (Text.decode file.bytes).lossy := rfl
    rw [decoded, Text.decode, String.fromUTF8?]
    by_cases valid : file.bytes.IsValidUTF8
    · simp [valid]
    · simp [valid]
  have place : (file.read parser).path = file.path := rfl
  have recovered : (file.read parser).recovered =
      (parser (Text.withoutMark (Text.decode file.bytes).text)).hasError := rfl
  rw [unitWarnings, fileWarnings, recovered, unitWarning, unitWarning, place]
  by_cases valid : file.bytes.IsValidUTF8
  · simp [lossy, valid, Phase.name]
  · simp [lossy, valid, Phase.name]

/-- A scan to which files are added while its phases run, in whatever order, is concluded just as
one to which the same files are added first: each file gives its unit and its warnings once, in the
order in which the files were added. -/
theorem incremental_eq_batch (settings : ScanSettings) (actions : List Action) :
    let files := actions.flatMap Action.added
    let stepwise := (start settings).performAll parser (actions ++ Action.concluding)
    let batch := (start settings).performAll parser (files.map .add ++ Action.concluding)
    SameResult stepwise batch ∧ stepwise.sources = [] ∧
      stepwise.units = files.map (SourceFile.read parser) ∧
      stepwise.parseDiagnostics = files.flatMap (fileWarnings parser) := by
  intro files stepwise batch
  have first : Concluded parser settings files stepwise := by
    have accounts := (AccountsFor.start parser settings).performAll actions
    have concluded := accounts.conclude
    rwa [← performAll_append] at concluded
  have second : Concluded parser settings files batch := by
    have accounts := (AccountsFor.start parser settings).performAll (files.map .add)
    have same : (files.map Action.add).flatMap Action.added = files := by
      simp [List.flatMap_map, Action.added]
    rw [List.nil_append, same] at accounts
    have concluded := accounts.conclude
    rwa [← performAll_append] at concluded
  refine ⟨first.sameResult second, first.sources, first.units, ?_⟩
  rw [first.parseDiagnostics, List.flatMap_map]
  simp only [unitWarnings_read]

end Registrar.Scan
