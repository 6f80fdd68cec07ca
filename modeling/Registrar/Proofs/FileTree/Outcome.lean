import Registrar.Proofs.FileTree.Again

/-!
# What a replacement comes to

A replacement succeeds exactly if a file can get the name that the path gives, once the directories
around it are there. It then changes that entry alone. If it fails it changes no entry. Either way
nothing else comes to the tree than directories that lead to the file: a staged file never remains.
-/

set_option autoImplicit false

namespace Registrar

namespace FileTree

/-- Apart from one location, if any, the second tree has the entries of the first one, and beside
these only directories around what the path names. -/
structure ChangesOnly (changed : Option Location) (path : Path) (tree after : FileTree) :
    Prop where
  here_eq : after.here = tree.here
  find?_eq_some : ∀ location entry, some location ≠ changed →
    tree.find? location = some entry → after.find? location = some entry
  isDirectory : ∀ location entry, some location ≠ changed →
    tree.find? location = none → after.find? location = some entry → entry = .directory ∧
      ∃ above ∈ path.directory.ancestors,
        (tree.withDirectories path.directory).locate above = .ok location
  directoryMode_eq : ∀ location, tree.find? location = some .directory →
    after.directoryMode location = tree.directoryMode location

theorem changesOnly_of_replaceFile {path : Path} {text : String} {tree after : FileTree}
    {answer : Except FileError Unit} {changed : Option Location}
    (outcome : (replaceFile path text).run.run tree = (answer, after))
    (here_eq : after.here = tree.here)
    (same : ∀ location, some location ≠ changed →
      after.find? location = (tree.withDirectories path.directory).find? location) :
    ChangesOnly changed path tree after := by
  have along := growsAlong_withDirectories tree path.directory
  refine ⟨here_eq, ?_, ?_, ?_⟩
  · intro location entry apart found
    exact (same location apart).trans (along.grows.find?_eq_some found)
  · intro location entry apart missing found
    rw [same location apart] at found
    rcases along.find?_eq location with unchanged | ⟨-, made, named⟩
    · rw [unchanged, missing] at found
      cases found
    · exact ⟨Option.some.inj (found.symm.trans made), named⟩
  · intro location directory
    exact directoryMode_of_replaceFile outcome (along.grows.find?_eq_some directory)

theorem ChangesOnly.keeps {location : Location} {path : Path} {tree after : FileTree}
    (changes : ChangesOnly (some location) path tree after) :
    Keeps (tree.erase location) after := by
  refine ⟨changes.here_eq, ?_⟩
  intro other entry found
  rw [find?_erase] at found
  split at found
  · cases found
  · rename_i apart
    by_cases root : other = []
    · rw [root, find?_nil] at found ⊢
      exact found
    · have distinct : some other ≠ some location := fun same =>
        apart ⟨root, (Option.some.inj same).symm⟩
      exact changes.find?_eq_some other entry distinct found

/-- The mode that a file gets at a path: that of what the path leads to once the directories are
there. This is the mode of what it led to before, if anything, and the plain one if it leads
nowhere even then. -/
structure InheritsMode (tree : FileTree) (path : Path) (mode : Nat) : Prop where
  eq_modeFor : mode = (tree.withDirectories path.directory).modeFor path
  kept : tree.pathExists path = true → mode = tree.modeFor path
  plain : (tree.withDirectories path.directory).pathExists path = false → mode = 0o644

theorem Grows.modeFor {tree after : FileTree} {path : Path} (grows : Grows tree after)
    (modes : ∀ location, after.directoryMode location = tree.directoryMode location)
    (present : tree.pathExists path = true) : after.modeFor path = tree.modeFor path := by
  obtain ⟨location, entry, located, found⟩ := pathExists_iff.1 present
  rw [FileTree.modeFor, FileTree.modeFor, grows.keeps.locate located, located]
  simp only [found, grows.find?_eq_some found, modes]

theorem modeFor_of_missing {tree : FileTree} {path : Path}
    (missing : tree.pathExists path = false) : tree.modeFor path = plainMode := by
  rw [modeFor]
  rcases located : tree.locate path with error | location
  · rfl
  · rcases found : tree.find? location with _ | entry
    · simp only [found]
    · rw [pathExists_iff.2 ⟨location, entry, located, found⟩] at missing
      cases missing

theorem inheritsMode_modeFor (tree : FileTree) (path : Path) :
    InheritsMode tree path ((tree.withDirectories path.directory).modeFor path) where
  eq_modeFor := rfl
  kept := (grows_withDirectories tree path.directory).modeFor
    (directoryMode_withDirectories tree path.directory)
  plain := modeFor_of_missing

/-- The second tree has a file with the text in the entry that the path names, and nothing else has
changed. The path leads to that file, unless it led through that entry, then a link; it leads
nowhere then. -/
structure Replaces (path : Path) (text : String) (tree after : FileTree) (location : Location)
    (mode : Nat) : Prop where
  slot : tree.slot? path = some location
  stands : after.find? location = some (.file text.toUTF8 mode)
  inheritsMode : InheritsMode tree path mode
  changesOnly : ChangesOnly (some location) path tree after
  locate : tree.leadsThroughItself path = false → after.locate path = .ok location
  broken : tree.leadsThroughItself path = true →
    (∃ target, tree.find? location = some (.link target)) ∧
      after.readText path = .error .notDirectory

theorem Replaces.stat {path : Path} {text : String} {tree after : FileTree} {location : Location}
    {mode : Nat} (replaces : Replaces path text tree after location mode)
    (aside : tree.leadsThroughItself path = false) :
    after.stat path = .ok (.file text.toUTF8 mode) := by
  simp [FileTree.stat, replaces.locate aside, replaces.stands, bind, Except.bind]

theorem exists_replaces {path : Path} {text : String} {tree after : FileTree}
    (done : (replaceFile path text).run.run tree = (.ok (), after)) :
    (tree.withDirectories path.directory).takesFile path = true ∧
      ∃ location mode, Replaces path text tree after location mode := by
  obtain ⟨place, name, held, slash, free, here_eq, stands, kept⟩ := exists_of_replaceFile done
  have slot : tree.slot? path = some (place ++ [name]) := by simp [slot?, held]
  refine ⟨takesFile_iff.2 ⟨place, name, held, slash, free⟩, _, _, slot, stands,
    inheritsMode_modeFor tree path, ?_, ?_, ?_⟩
  · exact changesOnly_of_replaceFile done here_eq
      fun location apart => kept location fun same => apart (congrArg some same)
  · intro aside
    obtain ⟨other, last, mode, again, heldAfter, -, standsAfter⟩ :=
      holder_of_replaceFile done aside
    rw [Option.some.inj (slot.symm.trans again)]
    exact locate_of_holder heldAfter standsAfter (by simp) (by simp [slash])
  · intro through
    obtain ⟨⟨location, target, again, link⟩, broken⟩ := (readText_of_replaceFile done).2 through
    rw [Option.some.inj (slot.symm.trans again)]
    exact ⟨⟨target, link⟩, broken⟩

end FileTree

open FileTree

/-- A file is replaced as a whole, or no entry changes. The one happens if a file can get the name
once the directories are there, the other if not. -/
theorem replaceFile_all_or_nothing (path : Path) (text : String) (tree : FileTree) :
    match (replaceFile path text).run.run tree with
    | (.ok (), after) => (tree.withDirectories path.directory).takesFile path = true ∧
        ∃ location mode, Replaces path text tree after location mode
    | (.error _, after) => (tree.withDirectories path.directory).takesFile path = false ∧
        ChangesOnly none path tree after := by
  rcases outcome : (replaceFile path text).run.run tree with ⟨error | ⟨⟩, after⟩
  · have refused : ¬ (tree.withDirectories path.directory).takesFile path = true := by
      intro takes
      obtain ⟨later, done⟩ := run_replaceFile text takes
      rw [outcome] at done
      cases done
    obtain ⟨here_eq, same⟩ := find?_of_failed_replaceFile outcome
    exact ⟨by simpa using refused, changesOnly_of_replaceFile outcome here_eq
      fun location _ => same location⟩
  · exact exists_replaces outcome

/-- A link to a directory, and beside both a file that is its owner's alone. -/
def privateFileBesideLink : FileTree :=
  ((FileTree.empty.put ["D"] .directory).put ["L"] (.link ⟨"D"⟩)).put ["P.cs"]
    (.file "old".toUTF8 0o600)

/-- A path that leads through the link that is replaced leads nowhere afterwards. One that leads
nowhere until a directory is made for it may name a file then, which keeps its mode. -/
theorem replaceFile_path_leads_elsewhere :
    (∃ after, (replaceFile ⟨"L/../L"⟩ "new").run.run privateFileBesideLink = (.ok (), after) ∧
      after.readText ⟨"L/../L"⟩ = .error .notDirectory) ∧
    privateFileBesideLink.pathExists ⟨"X/../P.cs"⟩ = false ∧
      ∃ after, (replaceFile ⟨"X/../P.cs"⟩ "new").run.run privateFileBesideLink = (.ok (), after) ∧
        after.stat ⟨"X/../P.cs"⟩ = .ok (.file "new".toUTF8 0o600) := by
  obtain ⟨replaceable, through, takes, aside, mode, missing⟩ :
      (privateFileBesideLink.withDirectories (Path.directory ⟨"L/../L"⟩)).takesFile
        ⟨"L/../L"⟩ = true ∧ privateFileBesideLink.leadsThroughItself ⟨"L/../L"⟩ = true ∧
      (privateFileBesideLink.withDirectories (Path.directory ⟨"X/../P.cs"⟩)).takesFile
        ⟨"X/../P.cs"⟩ = true ∧ privateFileBesideLink.leadsThroughItself ⟨"X/../P.cs"⟩ = false ∧
      (privateFileBesideLink.withDirectories (Path.directory ⟨"X/../P.cs"⟩)).modeFor
        ⟨"X/../P.cs"⟩ = 0o600 ∧ privateFileBesideLink.pathExists ⟨"X/../P.cs"⟩ = false := by
    decide +kernel
  obtain ⟨after, done⟩ := run_replaceFile "new" replaceable
  obtain ⟨later, written⟩ := run_replaceFile "new" takes
  obtain ⟨-, location, _, replaces⟩ := exists_replaces written
  refine ⟨⟨after, done, ((readText_of_replaceFile done).2 through).2⟩, missing, later, written, ?_⟩
  rw [replaces.stat aside, replaces.inheritsMode.eq_modeFor, mode]

end Registrar
