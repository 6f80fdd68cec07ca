import Registrar.Proofs.FileTree.Replace

/-!
# Writing a file again

A path that names a file can be given another text any number of times. Only that file changes, so
that the tree is what it was once the first text is back. Other paths still lead where they led,
unless they went through an entry that is a file now.
-/

set_option autoImplicit false

namespace Registrar.FileTree

/-- The second tree looks like the first one: what stands at each location is the same, and so are
the modes. -/
structure Agrees (tree after : FileTree) : Prop where
  here_eq : after.here = tree.here
  find?_eq : ∀ location, after.find? location = tree.find? location
  directoryMode_eq : ∀ location, tree.find? location = some .directory →
    after.directoryMode location = tree.directoryMode location

theorem Agrees.keeps {tree after : FileTree} (agrees : Agrees tree after) : Keeps tree after :=
  ⟨agrees.here_eq, fun location _ found => (agrees.find?_eq location).trans found⟩

theorem readText_eq_ok_iff {tree : FileTree} {path : Path} {text : String} :
    tree.readText path = .ok text ↔ ∃ location bytes mode, tree.locate path = .ok location ∧
      tree.find? location = some (.file bytes mode) ∧ String.fromUTF8? bytes = some text := by
  constructor
  · intro read
    rw [readText, readBytes, stat] at read
    rcases located : tree.locate path with error | location
    · simp [located, bind, Except.bind] at read
    · rcases found : tree.find? location with _ | ⟨bytes, mode⟩ | _ | target <;>
        simp only [located, found, bind, Except.bind, reduceCtorEq] at read
      refine ⟨location, bytes, mode, rfl, found, ?_⟩
      rcases decoded : String.fromUTF8? bytes with _ | old <;> simp_all
  · rintro ⟨location, bytes, mode, located, found, decoded⟩
    simp [readText, readBytes, stat, located, found, decoded, bind, Except.bind]

theorem pathExists_iff {tree : FileTree} {path : Path} :
    tree.pathExists path = true ↔ ∃ location entry, tree.locate path = .ok location ∧
      tree.find? location = some entry := by
  rw [pathExists, stat]
  rcases located : tree.locate path with error | location
  · simp [bind, Except.bind, Except.toBool]
  · rcases found : tree.find? location with _ | entry <;>
      simp [found, bind, Except.bind, Except.toBool]

/-- Every path that leads to a file in the first tree, or whose last step could be taken there, does
so in the second. -/
structure KeepsFiles (tree after : FileTree) : Prop where
  holder : ∀ {path place name}, tree.holder path = .ok (place, some name) →
    after.holder path = .ok (place, some name)
  locate : ∀ {path location}, tree.locate path = .ok location → after.locate path = .ok location
  find?_eq_some : ∀ {location bytes mode}, tree.find? location = some (.file bytes mode) →
    after.find? location = some (.file bytes mode)

theorem Keeps.keepsFiles {tree after : FileTree} (keeps : Keeps tree after) :
    KeepsFiles tree after :=
  ⟨keeps.holder, keeps.locate, keeps.find?_eq_some _ _⟩

theorem KeepsFiles.readText {tree after : FileTree} {path : Path} {text : String}
    (keeps : KeepsFiles tree after) (read : tree.readText path = .ok text) :
    after.readText path = .ok text := by
  obtain ⟨location, bytes, mode, located, found, decoded⟩ := readText_eq_ok_iff.1 read
  exact readText_eq_ok_iff.2
    ⟨location, bytes, mode, keeps.locate located, keeps.find?_eq_some found, decoded⟩

theorem Keeps.pathExists {tree after : FileTree} {path : Path} (keeps : Keeps tree after)
    (present : tree.pathExists path = true) : after.pathExists path = true := by
  obtain ⟨location, entry, located, found⟩ := pathExists_iff.1 present
  exact pathExists_iff.2 ⟨location, entry, keeps.locate located, keeps.find?_eq_some _ _ found⟩

theorem directoryMode_erase {tree : FileTree} {location other : Location}
    (apart : location ≠ other) :
    (tree.erase location).directoryMode other = tree.directoryMode other := by
  have distinct : compare location other ≠ .eq :=
    fun same => apart (Std.LawfulEqCmp.compare_eq_iff_eq.1 same)
  simp [directoryMode, erase, Std.TreeMap.getD_erase, distinct]

theorem directoryMode_of_replaceFile {path : Path} {text : String} {tree after : FileTree}
    {answer : Except FileError Unit}
    (outcome : (replaceFile path text).run.run tree = (answer, after)) {location : Location}
    (directory : (tree.withDirectories path.directory).find? location = some .directory) :
    after.directoryMode location = tree.directoryMode location := by
  rw [← directoryMode_withDirectories tree path.directory location]
  rcases replaceFile_cases path text tree with ⟨reason, early, -⟩ | ⟨around, made, located⟩
  · rw [early] at outcome
    obtain ⟨-, rfl⟩ := Prod.mk.inj outcome
    rfl
  rw [run_replaceFile_of_located made located] at outcome
  generalize tree.withDirectories path.directory = mid at outcome directory
  have apart : mid.stagedAt path around ≠ location := by
    rintro rfl
    rw [find?_stagedAt] at directory
    cases directory
  split at outcome
  · rename_i result moved
    obtain ⟨-, rfl⟩ := Prod.mk.inj outcome
    obtain ⟨place, name, entry, -, -, -, -, rfl⟩ := exists_of_move moved
    exact directoryMode_erase apart
  · obtain ⟨-, rfl⟩ := Prod.mk.inj outcome
    exact directoryMode_erase apart

/-- The second tree is the first one with a file at a location where no directory stands. -/
structure PutsFile (tree after : FileTree) (location : Location) (text : String) (mode : Nat) :
    Prop where
  here_eq : after.here = tree.here
  free : tree.find? location ≠ some .directory
  stands : after.find? location = some (.file text.toUTF8 mode)
  find?_eq : ∀ other, other ≠ location → after.find? other = tree.find? other
  directoryMode_eq : ∀ other, tree.find? other = some .directory →
    after.directoryMode other = tree.directoryMode other

theorem putsFile_of_replaceFile {path : Path} {text : String} {tree after : FileTree}
    (done : (replaceFile path text).run.run tree = (.ok (), after)) :
    ∃ place name, (tree.withDirectories path.directory).holder path = .ok (place, some name) ∧
      path.endsWithSlash = false ∧
      PutsFile (tree.withDirectories path.directory) after (place ++ [name]) text
        ((tree.withDirectories path.directory).modeFor path) := by
  have here_eq := (grows_withDirectories tree path.directory).here_eq
  obtain ⟨place, name, held, slash, free, same, stands, kept⟩ := exists_of_replaceFile done
  refine ⟨place, name, held, slash, same.trans here_eq.symm, free, stands, kept, ?_⟩
  intro location directory
  rw [directoryMode_of_replaceFile done directory, directoryMode_withDirectories]

/-- What a name leads to in a directory, if anything, is no directory. -/
def IsDeadEnd (tree : FileTree) (place : Location) (name : FileName) : Prop :=
  ∀ links ≤ linkLimit, ∀ stop, tree.Leads links place [name] stop →
    tree.find? stop ≠ some .directory

theorem isDeadEnd_of_leads {tree : FileTree} {place stop : Location} {name : FileName} {links : Nat}
    (leads : tree.Leads links place [name] stop)
    (notDirectory : tree.find? stop ≠ some .directory) : tree.IsDeadEnd place name := by
  intro _ _ other route
  rw [leads.unique route]
  exact notDirectory

theorem PutsFile.holder {tree after : FileTree} {place other : Location} {name last : FileName}
    {text : String} {mode : Nat} {path : Path}
    (puts : PutsFile tree after (place ++ [name]) text mode)
    (closed : tree.IsDeadEnd place name) (held : tree.holder path = .ok (other, some last)) :
    after.holder path = .ok (other, some last) := by
  obtain ⟨before, steps, proper, leads, directory⟩ := holder_eq_ok_some_iff.1 held
  have apart : other ≠ place ++ [name] := by
    rintro rfl
    exact puts.free directory
  have origin := origin_congr puts.here_eq path
  refine holder_eq_ok_some_iff.2
    ⟨before, steps, proper, ?_, (puts.find?_eq _ apart).trans directory⟩
  rw [origin]
  refine leads.aside (fun _ _ distinct found => (puts.find?_eq _ distinct).trans found) puts.free ?_
  intro fewer less stop route
  have notDirectory := closed fewer less stop route
  exact ⟨notDirectory, fun same => notDirectory (same ▸ directory)⟩

/-- A path names a file with a text, without a link in its last step. -/
structure NamesFile (tree : FileTree) (path : Path) (place : Location) (name : FileName)
    (text : String) (mode : Nat) : Prop where
  held : tree.holder path = .ok (place, some name)
  slash : path.endsWithSlash = false
  stands : tree.find? (place ++ [name]) = some (.file text.toUTF8 mode)

namespace NamesFile

variable {tree after : FileTree} {path : Path} {place : Location} {name : FileName} {text : String}
  {mode : Nat}

theorem readText (names : tree.NamesFile path place name text mode) :
    tree.readText path = .ok text :=
  (readText_of_holder names.held names.slash names.stands).1

theorem pathExists (names : tree.NamesFile path place name text mode) :
    tree.pathExists path = true := by
  have located := locate_of_holder names.held names.stands (by simp) (by simp [names.slash])
  exact pathExists_iff.2 ⟨_, _, located, names.stands⟩

theorem takesFile (names : tree.NamesFile path place name text mode) :
    tree.takesFile path = true :=
  takesFile_iff.2 ⟨place, name, names.held, names.slash, by simp [names.stands]⟩

theorem isDeadEnd (names : tree.NamesFile path place name text mode) :
    tree.IsDeadEnd place name := by
  obtain ⟨_, _, proper, _, directory⟩ := holder_eq_ok_some_iff.1 names.held
  have route : tree.Leads 0 place [name] (place ++ [name]) :=
    .enter directory proper names.stands (by simp) .here
  exact isDeadEnd_of_leads route (by simp [names.stands])

theorem keepsFiles (names : tree.NamesFile path place name text mode)
    (keeps : KeepsFiles tree after) : after.NamesFile path place name text mode :=
  ⟨keeps.holder names.held, names.slash, keeps.find?_eq_some names.stands⟩

theorem of_putsFile (puts : PutsFile tree after (place ++ [name]) text mode)
    (closed : tree.IsDeadEnd place name) (held : tree.holder path = .ok (place, some name))
    (slash : path.endsWithSlash = false) : after.NamesFile path place name text mode :=
  ⟨puts.holder closed held, slash, puts.stands⟩

theorem rewrite (names : tree.NamesFile path place name text mode) (later : String) :
    ∃ after, (replaceFile path later).run.run tree = (.ok (), after) ∧
      PutsFile tree after (place ++ [name]) later mode ∧
      after.NamesFile path place name later mode := by
  have settled := withDirectories_of_isDirectory (isDirectory_directory names.held)
  obtain ⟨after, done⟩ := run_replaceFile later (by rw [settled, names.takesFile])
  obtain ⟨other, last, held, -, puts⟩ := putsFile_of_replaceFile done
  rw [settled, (readText_of_holder names.held names.slash names.stands).2] at puts
  rw [settled] at held
  obtain ⟨rfl, rfl⟩ : other = place ∧ last = name := by simpa using held.symm.trans names.held
  exact ⟨after, done, puts, of_putsFile puts names.isDeadEnd names.held names.slash⟩

end NamesFile

/-- Of two files that are put in the same entry the second one remains. -/
theorem PutsFile.trans {tree after again : FileTree} {location : Location} {text later : String}
    {mode other : Nat} (first : PutsFile tree after location text mode)
    (second : PutsFile after again location later other) :
    PutsFile tree again location later other := by
  refine ⟨second.here_eq.trans first.here_eq, first.free, second.stands, ?_, ?_⟩
  · intro place apart
    exact (second.find?_eq place apart).trans (first.find?_eq place apart)
  · intro place directory
    have apart : place ≠ location := by
      rintro rfl
      exact first.free directory
    have between := (first.find?_eq place apart).trans directory
    exact (second.directoryMode_eq place between).trans (first.directoryMode_eq place directory)

theorem PutsFile.agrees {tree after : FileTree} {location : Location} {text : String} {mode : Nat}
    (puts : PutsFile tree after location text mode)
    (stood : tree.find? location = some (.file text.toUTF8 mode)) : Agrees tree after := by
  refine ⟨puts.here_eq, fun place => ?_, puts.directoryMode_eq⟩
  by_cases here : place = location
  · rw [here, puts.stands, stood]
  · exact puts.find?_eq place here

theorem putsFile_of_readText {path : Path} {text old : String} {tree after : FileTree}
    (read : tree.readText path = .ok old)
    (done : (replaceFile path text).run.run tree = (.ok (), after)) :
    ∃ place name mode, tree.holder path = .ok (place, some name) ∧
      path.endsWithSlash = false ∧ tree.IsDeadEnd place name ∧
      PutsFile tree after (place ++ [name]) text mode := by
  obtain ⟨_, name, held, slash, puts⟩ := putsFile_of_replaceFile done
  obtain ⟨before, steps, proper, -, -⟩ := holder_eq_ok_some_iff.1 held
  obtain ⟨final, bytes, mode, located, found, -⟩ := readText_eq_ok_iff.1 read
  have walk : path.walkSteps = before ++ [name] := by simp [Path.walkSteps, slash, steps]
  obtain ⟨-, route⟩ := locate_eq_ok_iff.1 located
  obtain ⟨place, remaining, early, late⟩ := route.exists_of_append walk
  have heldBefore : tree.holder path = .ok (place, some name) :=
    holder_eq_ok_some_iff.2 ⟨before, steps, proper, early, late.directory_of_cons⟩
  have settled := withDirectories_of_isDirectory (isDirectory_directory heldBefore)
  rw [settled] at held puts
  obtain ⟨rfl, -⟩ := Prod.mk.inj (Except.ok.inj (heldBefore.symm.trans held))
  exact ⟨place, name, _, heldBefore, slash, isDeadEnd_of_leads late (by simp [found]), puts⟩

/-- Nothing is found in the entry that a path names once the directories around it are there. At
most a link that leads nowhere has its name. -/
def isVacant (tree : FileTree) (path : Path) : Bool :=
  match (tree.withDirectories path.directory).holder path with
  | .ok (place, some name) =>
      !((tree.withDirectories path.directory).follow linkLimit place [name]).toBool
  | _ => true

def LeadsNowhere (tree : FileTree) (place : Location) (name : FileName) : Prop :=
  ∀ links ≤ linkLimit, ∀ stop, ¬ tree.Leads links place [name] stop

theorem LeadsNowhere.isDeadEnd {tree : FileTree} {place : Location} {name : FileName}
    (nowhere : tree.LeadsNowhere place name) : tree.IsDeadEnd place name :=
  fun links less stop route => absurd route (nowhere links less stop)

theorem leadsNowhere_of_isVacant {tree : FileTree} {path : Path} {place : Location}
    {name : FileName}
    (vacant : tree.isVacant path = true)
    (held : (tree.withDirectories path.directory).holder path = .ok (place, some name)) :
    (tree.withDirectories path.directory).LeadsNowhere place name := by
  intro links less stop route
  simp [isVacant, held, (route.mono_links less).follow_eq_ok, Except.toBool] at vacant

theorem PutsFile.keepsFiles {tree after : FileTree} {place : Location} {name : FileName}
    {text : String} {mode : Nat} {path : Path}
    (puts : PutsFile tree after (place ++ [name]) text mode)
    (held : tree.holder path = .ok (place, some name))
    (nowhere : tree.LeadsNowhere place name) : KeepsFiles tree after := by
  refine ⟨puts.holder nowhere.isDeadEnd, ?_, ?_⟩
  · intro path location located
    obtain ⟨nonempty, route⟩ := locate_eq_ok_iff.1 located
    refine locate_eq_ok_iff.2 ⟨nonempty, ?_⟩
    rw [origin_congr puts.here_eq path]
    refine route.aside ?_ puts.free ?_
    · exact fun _ _ distinct found => (puts.find?_eq _ distinct).trans found
    · exact fun links less stop through => absurd through (nowhere links less stop)
  · intro location bytes mode found
    refine (puts.find?_eq _ ?_).trans found
    rintro rfl
    obtain ⟨_, _, proper, _, directory⟩ := holder_eq_ok_some_iff.1 held
    exact nowhere 0 (Nat.zero_le _) _ (.enter directory proper found (by simp) .here)

end Registrar.FileTree
