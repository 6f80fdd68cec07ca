import Registrar.FileTree.Replace
import Registrar.Proofs.FileTree.Around

/-!
# Replacing a file

A replacement that succeeds changes one entry, the one that the path names once the directories
around it are there; beyond that it only makes directories where nothing was. The new text is read
back through the path, except where the path led through the entry that was replaced.
-/

set_option autoImplicit false

namespace Registrar

open FileTree

namespace FileTree

theorem le_foldl_max (names : List FileName) (longest : Nat) :
    longest ≤ names.foldl (fun longest name => max longest name.bytes.length) longest ∧
      ∀ name ∈ names, name.bytes.length ≤
        names.foldl (fun longest name => max longest name.bytes.length) longest := by
  induction names generalizing longest with
  | nil => simp
  | cons name rest inductionHypothesis =>
      obtain ⟨start, others⟩ := inductionHypothesis (max longest name.bytes.length)
      rw [List.foldl_cons]
      refine ⟨by omega, ?_⟩
      intro other membership
      rcases List.mem_cons.1 membership with rfl | later
      · omega
      · exact others other later

def mentioned : Location × Entry → List FileName
  | (location, .link target) => FileName.ofText target.text :: location
  | (location, _) => location

theorem longestName_eq (tree : FileTree) :
    tree.longestName = (tree.toList.flatMap mentioned).foldl
      (fun longest name => max longest name.bytes.length) 0 := by
  rw [longestName, List.foldl_flatMap]
  congr 1
  funext longest entry
  rcases entry with ⟨location, _ | _ | target⟩ <;> rfl

theorem length_le_longestName {tree : FileTree} {location : Location} {entry : Entry}
    (found : tree.find? location = some entry) {name : FileName} (membership : name ∈ location) :
    name.bytes.length ≤ tree.longestName := by
  have below : location ≠ [] := List.ne_nil_of_mem membership
  rw [longestName_eq]
  refine (le_foldl_max _ 0).2 name (List.mem_flatMap.2 ⟨_, (mem_toList_iff below).2 found, ?_⟩)
  cases entry with
  | link target => exact List.mem_cons_of_mem _ membership
  | file bytes mode => exact membership
  | directory => exact membership

theorem find?_freshName (tree : FileTree) (place : Location) (path : Path) :
    tree.find? (place ++ [tree.freshName path]) = none := by
  rcases found : tree.find? (place ++ [tree.freshName path]) with _ | entry
  · rfl
  · have bound := length_le_longestName found
      (show tree.freshName path ∈ place ++ [tree.freshName path] by simp)
    simp only [freshName, List.length_replicate] at bound
    omega

theorem exists_of_move {tree after : FileTree} {source : Location} {path : Path}
    (moved : tree.move source path = .ok after) :
    ∃ place name entry, tree.holder path = .ok (place, some name) ∧
      path.endsWithSlash = false ∧ tree.find? source = some entry ∧
      tree.find? (place ++ [name]) ≠ some .directory ∧
      after = (tree.erase source).put (place ++ [name]) entry := by
  rw [move] at moved
  rcases held : tree.holder path with error | ⟨place, _ | name⟩
  · simp [held, bind, Except.bind] at moved
  · simp [held, bind, Except.bind] at moved
  · simp only [held, bind, Except.bind] at moved
    split at moved
    · cases moved
    · rename_i slash
      rcases present : tree.find? source with _ | entry
      · simp [present] at moved
      · refine ⟨place, name, entry, rfl, by simpa using slash, rfl, ?_⟩
        rcases old : tree.find? (place ++ [name]) with _ | ⟨_, _⟩ | _ | target <;>
          simp [present, old] at moved ⊢ <;> exact moved.symm

theorem unlink_eq_error_of_move {tree : FileTree} {source : Location} {path : Path} {entry : Entry}
    {error : FileError} (present : tree.find? source = some entry)
    (refused : tree.move source path = .error error) :
    ∃ reason, tree.unlink path = .error reason := by
  rw [move] at refused
  rw [unlink]
  rcases held : tree.holder path with failure | ⟨place, _ | name⟩
  · exact ⟨failure, by simp [bind, Except.bind]⟩
  · exact ⟨.isDirectory, by simp [bind, Except.bind]⟩
  · simp only [held, bind, Except.bind, present] at refused ⊢
    split at refused
    · rename_i slash
      rcases tree.find? (place ++ [name]) with _ | ⟨_, _⟩ | _ | target <;> simp [slash]
    · rcases old : tree.find? (place ++ [name]) with _ | ⟨_, _⟩ | _ | target <;>
        simp [old] at refused ⊢

def stagedAt (tree : FileTree) (path : Path) (directory : Location) : Location :=
  directory ++ [tree.freshName path]

def withStaged (tree : FileTree) (path : Path) (text : String) (directory : Location) : FileTree :=
  tree.put (tree.stagedAt path directory) (.file text.toUTF8 (tree.modeFor path))

section Staged

variable (tree : FileTree) (path : Path) (text : String) (directory : Location)

theorem find?_stagedAt : tree.find? (tree.stagedAt path directory) = none :=
  find?_freshName tree directory path

theorem find?_withStaged_stagedAt :
    (tree.withStaged path text directory).find? (tree.stagedAt path directory) =
      some (.file text.toUTF8 (tree.modeFor path)) := by
  simp [withStaged, find?_put, stagedAt]

theorem find?_withStaged_of_ne {other : Location} (apart : other ≠ tree.stagedAt path directory) :
    (tree.withStaged path text directory).find? other = tree.find? other := by
  rw [withStaged, find?_put, if_neg fun same => apart same.2.symm]

theorem find?_erase_stagedAt (other : Location) :
    ((tree.withStaged path text directory).erase (tree.stagedAt path directory)).find? other =
      tree.find? other := by
  rw [find?_erase]
  split
  · rename_i same
    rw [← same.2, find?_stagedAt]
  · rename_i apart
    by_cases root : other = []
    · rw [root, find?_nil, find?_nil]
    · exact find?_withStaged_of_ne tree path text directory fun same => apart ⟨root, same.symm⟩

end Staged

/-- The location of the entry that a path names once the directories around it are there. -/
def slot? (tree : FileTree) (path : Path) : Option Location :=
  match (tree.withDirectories path.directory).holder path with
  | .ok (place, some name) => some (place ++ [name])
  | _ => none

/-- Whether a file can get the name that the last step of a path takes. -/
def takesFile (tree : FileTree) (path : Path) : Bool :=
  match tree.holder path with
  | .ok (place, some name) =>
      !path.endsWithSlash && decide (tree.find? (place ++ [name]) ≠ some .directory)
  | _ => false

theorem takesFile_iff {tree : FileTree} {path : Path} :
    tree.takesFile path = true ↔ ∃ place name, tree.holder path = .ok (place, some name) ∧
      path.endsWithSlash = false ∧ tree.find? (place ++ [name]) ≠ some .directory := by
  rw [takesFile]
  rcases tree.holder path with error | ⟨place, _ | name⟩
  · simp
  · simp
  · constructor
    · intro takes
      exact ⟨place, name, rfl, by simpa using takes⟩
    · rintro ⟨_, _, ⟨⟩, slash, free⟩
      simp [slash, free]

end FileTree

/-- Once the directories are there all depends on whether the staged file can get the name. A second
attempt meets the same tree, since what refuses the name to the file cannot be removed. -/
theorem run_replaceFile_of_located {path : Path} {tree mid : FileTree} {directory : Location}
    (made : (makeDirectories path.directory).run.run tree = (.ok (), mid))
    (located : mid.locate path.directory = .ok directory) (text : String) :
    (replaceFile path text).run.run tree =
      match (mid.withStaged path text directory).move (mid.stagedAt path directory) path with
      | .ok after => (.ok (), after)
      | .error error => (.error error,
          (mid.withStaged path text directory).erase (mid.stagedAt path directory)) := by
  have stage : mid.put (directory ++ [mid.freshName path])
      (.file text.toUTF8 (mid.modeFor path)) = mid.withStaged path text directory := rfl
  have place : directory ++ [mid.freshName path] = mid.stagedAt path directory := rfl
  rw [replaceFile, Procedure.run_bind, made]
  simp only
  rw [Procedure.run_bind, Procedure.run_get]
  simp only
  rw [Procedure.run_bind, FileM.run_ask, located]
  simp only
  rw [Procedure.run_bind, Procedure.run_set, stage, place]
  simp only
  rw [Procedure.run_tryCatch, FileM.run_change]
  rcases moved : (mid.withStaged path text directory).move (mid.stagedAt path directory) path with
    error | after
  · obtain ⟨reason, kept⟩ :=
      unlink_eq_error_of_move (find?_withStaged_stagedAt mid path text directory) moved
    simp only [moved, Procedure.run_bind, FileM.run_attempt, FileM.run_change, kept,
      Procedure.run_tryCatch, Procedure.run_modify, Procedure.run_throw]
  · rfl

/-- A replacement fails where the directory around the file is not there even after an attempt to
make it, or it depends on whether the staged file can get the name. -/
theorem replaceFile_cases (path : Path) (text : String) (tree : FileTree) :
    (∃ error, (replaceFile path text).run.run tree =
        (.error error, tree.withDirectories path.directory) ∧
      (tree.withDirectories path.directory).isDirectory path.directory = false) ∨
      ∃ directory, (makeDirectories path.directory).run.run tree =
          (.ok (), tree.withDirectories path.directory) ∧
        (tree.withDirectories path.directory).locate path.directory = .ok directory := by
  rcases made : (makeDirectories path.directory).run.run tree with ⟨error | answer, mid⟩
  · left
    refine ⟨error, ?_, ?_⟩
    · rw [replaceFile, Procedure.run_bind, withDirectories, made]
    · rw [withDirectories, made]
      exact isDirectory_of_failed_makeDirectories made
  · have middle : tree.withDirectories path.directory = mid := by rw [withDirectories, made]
    rw [middle]
    rcases located : mid.locate path.directory with error | directory
    · left
      refine ⟨error, ?_, ?_⟩
      · rw [replaceFile, Procedure.run_bind, made]
        simp only
        rw [Procedure.run_bind, Procedure.run_get]
        simp only
        rw [Procedure.run_bind, FileM.run_ask, located]
      · rw [isDirectory, stat, located]
        rfl
    · exact .inr ⟨directory, rfl, rfl⟩

theorem find?_of_failed_replaceFile {path : Path} {text : String} {tree after : FileTree}
    {error : FileError}
    (failed : (replaceFile path text).run.run tree = (.error error, after)) :
    after.here = tree.here ∧
      ∀ location, after.find? location = (tree.withDirectories path.directory).find? location := by
  have here_eq := (grows_withDirectories tree path.directory).here_eq
  rcases replaceFile_cases path text tree with ⟨reason, early, -⟩ | ⟨directory, made, located⟩
  · rw [early] at failed
    obtain ⟨-, rfl⟩ := Prod.mk.inj failed
    exact ⟨here_eq, fun _ => rfl⟩
  · rw [run_replaceFile_of_located made located] at failed
    split at failed
    · cases failed
    · obtain ⟨-, rfl⟩ := Prod.mk.inj failed
      exact ⟨here_eq, find?_erase_stagedAt _ path text directory⟩

theorem growsAlong_of_failed_replaceFile {path : Path} {text : String} {tree after : FileTree}
    {error : FileError}
    (failed : (replaceFile path text).run.run tree = (.error error, after)) :
    GrowsAlong path.directory.ancestors tree after := by
  have growsAlong := growsAlong_withDirectories tree path.directory
  obtain ⟨here_eq, same⟩ := find?_of_failed_replaceFile failed
  exact growsAlong.trans
    ⟨here_eq.trans growsAlong.here_eq.symm, fun location => .inl (same location)⟩

/-- A replacement that succeeds gives the entry of the path the new text and the mode of the old
file, and leaves every other entry alone once the directories are made. -/
theorem exists_of_replaceFile {path : Path} {text : String} {tree after : FileTree}
    (done : (replaceFile path text).run.run tree = (.ok (), after)) :
    ∃ place name, (tree.withDirectories path.directory).holder path = .ok (place, some name) ∧
      path.endsWithSlash = false ∧
      (tree.withDirectories path.directory).find? (place ++ [name]) ≠ some .directory ∧
      after.here = tree.here ∧
      after.find? (place ++ [name]) =
        some (.file text.toUTF8 ((tree.withDirectories path.directory).modeFor path)) ∧
      ∀ other, other ≠ place ++ [name] →
        after.find? other = (tree.withDirectories path.directory).find? other := by
  have here_eq := (grows_withDirectories tree path.directory).here_eq
  rcases replaceFile_cases path text tree with ⟨reason, early, -⟩ | ⟨directory, made, located⟩
  · rw [early] at done
    cases done
  rw [run_replaceFile_of_located made located] at done
  generalize tree.withDirectories path.directory = mid at here_eq located done ⊢
  have present := find?_withStaged_stagedAt mid path text directory
  have others : ∀ other, other ≠ mid.stagedAt path directory →
      (mid.withStaged path text directory).find? other = mid.find? other :=
    fun _ => find?_withStaged_of_ne mid path text directory
  split at done
  · rename_i result moved
    obtain ⟨-, rfl⟩ := Prod.mk.inj done
    obtain ⟨place, name, entry, held, slash, found, free, rfl⟩ := exists_of_move moved
    obtain rfl := Option.some.inj (present.symm.trans found)
    obtain ⟨before, steps, proper, leads, around⟩ := holder_eq_ok_some_iff.1 held
    have notStaged : place ≠ mid.stagedAt path directory := by
      rintro rfl
      rw [present] at around
      cases around
    have heldBefore : mid.holder path = .ok (place, some name) := by
      refine holder_eq_ok_some_iff.2 ⟨before, steps, proper, ?_, others place notStaged ▸ around⟩
      exact leads.of_added_file present others around
    refine ⟨place, name, heldBefore, slash, ?_, here_eq, ?_, ?_⟩
    · by_cases equality : place ++ [name] = mid.stagedAt path directory
      · simp [equality, find?_stagedAt]
      · rwa [others _ equality] at free
    · simp [find?_put]
    · intro other distinct
      rw [find?_put, if_neg fun same => distinct same.2.symm]
      exact find?_erase_stagedAt mid path text directory other
  · cases done

namespace FileTree

/-- What a successful replacement leaves behind. The entry of the path is a file with the text,
which is read back through the path unless the path led through that entry, then a link. -/
structure IsWritten (before after : FileTree) (path : Path) (text : String) : Prop where
  stands : ∃ location mode, before.slot? path = some location ∧
    after.find? location = some (.file text.toUTF8 mode)
  readBack : after.readText path = .ok text ∨
    (∃ location target, before.slot? path = some location ∧
      before.find? location = some (.link target)) ∧ after.readText path = .error .notDirectory

theorem readText_of_holder {tree : FileTree} {path : Path} {place : Location} {name : FileName}
    {text : String} {mode : Nat} (held : tree.holder path = .ok (place, some name))
    (slash : path.endsWithSlash = false)
    (found : tree.find? (place ++ [name]) = some (.file text.toUTF8 mode)) :
    tree.readText path = .ok text ∧ tree.modeFor path = mode := by
  have located := locate_of_holder held found (by simp) (by simp [slash])
  simp only [readText, readBytes, modeFor, stat, located, found, bind, Except.bind,
    Text.fromUTF8?_toUTF8, and_self]

end FileTree

theorem FileTree.toBool_holder_iff {tree : FileTree} {path : Path} {before : List FileName}
    {last : FileName} (steps : path.steps = before ++ [last]) :
    (tree.holder path).toBool = true ↔ ∃ place,
      tree.Leads linkLimit (tree.origin path) before place ∧
        tree.find? place = some .directory := by
  have shape : path.steps.reverse = last :: before.reverse := by simp [steps]
  constructor
  · intro held
    rw [holder, shape] at held
    simp only [List.reverse_reverse] at held
    rcases reached : tree.follow linkLimit (tree.origin path) before with error | place
    · rw [reached] at held
      cases held
    · simp only [reached, bind, Except.bind] at held
      split at held
      · cases held
      · rename_i directory
        exact ⟨place, leads_of_follow reached, Classical.not_not.1 directory⟩
  · rintro ⟨place, leads, directory⟩
    rw [holder_of_leads steps leads directory]
    rfl

/-- Whether the path leads through the entry that it names itself, so that it leads nowhere without
that entry. -/
def FileTree.leadsThroughItself (tree : FileTree) (path : Path) : Bool :=
  match tree.slot? path with
  | some location =>
      !(((tree.withDirectories path.directory).erase location).holder path).toBool
  | none => false

theorem leadsThroughItself_eq {tree : FileTree} {path : Path} {location : Location}
    (slot : tree.slot? path = some location) :
    tree.leadsThroughItself path =
      !(((tree.withDirectories path.directory).erase location).holder path).toBool := by
  rw [leadsThroughItself, slot]

theorem holder_of_replaceFile {path : Path} {text : String} {tree after : FileTree}
    (done : (replaceFile path text).run.run tree = (.ok (), after))
    (aside : tree.leadsThroughItself path = false) :
    ∃ place name mode, tree.slot? path = some (place ++ [name]) ∧
      after.holder path = .ok (place, some name) ∧ path.endsWithSlash = false ∧
      after.find? (place ++ [name]) = some (.file text.toUTF8 mode) := by
  have grows := grows_withDirectories tree path.directory
  obtain ⟨place, name, held, slash, -, here_eq, written, kept⟩ := exists_of_replaceFile done
  have slot : tree.slot? path = some (place ++ [name]) := by simp [slot?, held]
  rw [leadsThroughItself_eq slot] at aside
  generalize tree.withDirectories path.directory = mid at grows held kept written aside
  obtain ⟨before, steps, proper, leads, -⟩ := holder_eq_ok_some_iff.1 held
  have origin := origin_congr (here_eq.trans grows.here_eq.symm) path
  -- the route does without the entry, so it is still there with the file in its place
  have both : ∀ other entry, (mid.erase (place ++ [name])).find? other = some entry →
      mid.find? other = some entry ∧ after.find? other = some entry := by
    intro other entry found
    rw [find?_erase] at found
    split at found
    · cases found
    · rename_i apart
      refine ⟨found, ?_⟩
      by_cases root : other = []
      · rw [root, find?_nil] at found ⊢
        exact found
      · rw [kept other fun same => apart ⟨root, same.symm⟩, found]
  obtain ⟨other, route, around⟩ :=
    (toBool_holder_iff steps).1 (by simpa using aside : (_ : Except _ _).toBool = true)
  have here : mid.Leads linkLimit (mid.origin path) before other :=
    route.mono fun location entry found => (both location entry found).1
  obtain rfl : other = place :=
    Except.ok.inj (here.follow_eq_ok.symm.trans leads.follow_eq_ok)
  refine ⟨other, name, _, slot, ?_, slash, written⟩
  refine holder_eq_ok_some_iff.2 ⟨before, steps, proper, ?_, (both _ _ around).2⟩
  rw [origin]
  exact route.mono fun location entry found => (both location entry found).2

theorem readText_of_replaceFile {path : Path} {text : String} {tree after : FileTree}
    (done : (replaceFile path text).run.run tree = (.ok (), after)) :
    (tree.leadsThroughItself path = false → after.readText path = .ok text) ∧
      (tree.leadsThroughItself path = true →
        (∃ location target, tree.slot? path = some location ∧
          tree.find? location = some (.link target)) ∧
            after.readText path = .error .notDirectory) := by
  refine ⟨fun aside => ?_, fun through => ?_⟩
  · obtain ⟨_, _, _, -, held, slash, stands⟩ := holder_of_replaceFile done aside
    exact (readText_of_holder held slash stands).1
  · have grows := grows_withDirectories tree path.directory
    obtain ⟨place, name, held, slash, free, here_eq, written, kept⟩ := exists_of_replaceFile done
    have slot : tree.slot? path = some (place ++ [name]) := by simp [slot?, held]
    rw [leadsThroughItself_eq slot] at through
    generalize tree.withDirectories path.directory = mid at grows held free kept through
    obtain ⟨before, steps, proper, leads, directory⟩ := holder_eq_ok_some_iff.1 held
    have origin := origin_congr (here_eq.trans grows.here_eq.symm) path
    have same : ∀ other, other ≠ place ++ [name] →
        after.find? other = (mid.erase (place ++ [name])).find? other := by
      intro other apart
      rw [kept other apart, find?_erase, if_neg fun both => apart both.2.symm]
    have walk : path.walkSteps = before ++ [name] := by simp [Path.walkSteps, slash, steps]
    have nonempty := text_ne_empty_of_steps (by simp [steps] : path.steps ≠ [])
    rcases leads.replaced written kept free directory proper with route | ⟨⟨target, link⟩, broken⟩
    · -- a route that ends at the file does not lead through it
      obtain ⟨other, remaining, route, last⟩ := route.exists_of_append rfl
      have around := last.directory_of_cons
      have notPlace : other ≠ place ++ [name] := by
        rintro rfl
        rw [written] at around
        cases around
      have aside : ((mid.erase (place ++ [name])).holder path).toBool = true :=
        (toBool_holder_iff steps).2
          ⟨other, route.of_added_file written same around, same other notPlace ▸ around⟩
      rw [aside] at through
      cases through
    · have located : after.locate path = .error .notDirectory := by
        simp [locate, nonempty, walk, origin, broken]
      refine ⟨⟨_, target, slot, ?_⟩,
        by simp [readText, readBytes, stat, located, bind, Except.bind]⟩
      rcases grows.find?_eq (place ++ [name]) with unchanged | ⟨-, made⟩
      · exact unchanged.symm.trans link
      · rw [link] at made
        cases made

theorem isWritten_of_replaceFile {path : Path} {text : String} {tree after : FileTree}
    (done : (replaceFile path text).run.run tree = (.ok (), after)) :
    IsWritten tree after path text := by
  obtain ⟨place, name, held, -, -, -, written, -⟩ := exists_of_replaceFile done
  have slot : tree.slot? path = some (place ++ [name]) := by simp [slot?, held]
  refine ⟨⟨_, _, slot, written⟩, ?_⟩
  obtain ⟨aside, through⟩ := readText_of_replaceFile done
  by_cases itself : tree.leadsThroughItself path = true
  · exact .inr (through itself)
  · exact .inl (aside (by simpa using itself))

theorem run_makeDirectories_of_isDirectory {tree : FileTree} {path : Path}
    (directory : tree.isDirectory path.directory = true) :
    (makeDirectories path.directory).run.run tree = (.ok (), tree) := by
  obtain ⟨above, ancestors⟩ := path.exists_ancestors_directory
  rw [makeDirectories, ancestors]
  exact run_makeDirectoriesAmong directory

theorem FileTree.withDirectories_of_isDirectory {tree : FileTree} {path : Path}
    (directory : tree.isDirectory path.directory = true) :
    tree.withDirectories path.directory = tree := by
  rw [withDirectories, run_makeDirectories_of_isDirectory directory]

theorem run_replaceFile {path : Path} {tree : FileTree} (text : String)
    (takes : (tree.withDirectories path.directory).takesFile path = true) :
    ∃ after, (replaceFile path text).run.run tree = (.ok (), after) := by
  obtain ⟨place, name, held, slash, free⟩ := takesFile_iff.1 takes
  rcases replaceFile_cases path text tree with ⟨reason, -, missing⟩ | ⟨location, made, located⟩
  · rw [isDirectory_directory held] at missing
    cases missing
  rw [run_replaceFile_of_located made located]
  generalize tree.withDirectories path.directory = mid at held free
  have present := find?_withStaged_stagedAt mid path text location
  have keeps : Keeps mid (mid.withStaged path text location) :=
    keeps_put _ (find?_stagedAt mid path location)
  have target : (mid.withStaged path text location).find? (place ++ [name]) ≠ some .directory := by
    by_cases equality : place ++ [name] = mid.stagedAt path location
    · rw [equality, present]
      simp
    · rwa [find?_withStaged_of_ne _ _ _ _ equality]
  have moved : ∃ after, (mid.withStaged path text location).move (mid.stagedAt path location)
      path = .ok after := by
    rw [move, keeps.holder held]
    simp only [bind, Except.bind, slash, present]
    rcases (mid.withStaged path text location).find? (place ++ [name]) with
      _ | ⟨_, _⟩ | _ | target <;> simp_all
  obtain ⟨after, moved⟩ := moved
  rw [moved]
  exact ⟨after, rfl⟩

end Registrar
