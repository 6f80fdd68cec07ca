import Registrar.FileTree.Build
import Registrar.Proofs.FileTree.Leads
import Registrar.Proofs.FileTree.Procedure

/-!
# Making directories

Making directories adds directories where nothing was, and changes nothing where the path already
names one. Once it succeeds the path names a directory.
-/

set_option autoImplicit false

namespace Registrar

namespace FileTree

theorem holder_of_leads {tree : FileTree} {path : Path} {before : List FileName} {last : FileName}
    {place : Location} (steps : path.steps = before ++ [last])
    (leads : tree.Leads linkLimit (tree.origin path) before place)
    (directory : tree.find? place = some .directory) :
    tree.holder path = .ok (place, if isDotStep last then none else some last) := by
  have shape : path.steps.reverse = last :: before.reverse := by simp [steps]
  rw [holder, shape]
  simp [leads.follow_eq_ok, bind, Except.bind, directory]

theorem holder_eq_ok_some_iff {tree : FileTree} {path : Path} {place : Location} {name : FileName} :
    tree.holder path = .ok (place, some name) ↔
      ∃ before, path.steps = before ++ [name] ∧ isDotStep name = false ∧
        tree.Leads linkLimit (tree.origin path) before place ∧
        tree.find? place = some .directory := by
  constructor
  · intro held
    rw [holder] at held
    split at held
    · split at held <;> cases held
    · rename_i last before shape
      have steps : path.steps = before.reverse ++ [last] := by
        rw [← List.reverse_inj, shape]
        simp
      rcases reached : tree.follow linkLimit (tree.origin path) before.reverse with error | location
      · simp [reached, bind, Except.bind] at held
      · simp only [reached, bind, Except.bind] at held
        split at held
        · cases held
        · rename_i directory
          simp only [Except.ok.injEq, Prod.mk.injEq] at held
          obtain ⟨rfl, named⟩ := held
          split at named
          · cases named
          · rename_i proper
            cases named
            exact ⟨before.reverse, steps, by simpa using proper, leads_of_follow reached,
              Classical.not_not.1 directory⟩
  · rintro ⟨before, steps, proper, leads, directory⟩
    rw [holder_of_leads steps leads directory, proper]
    rfl

theorem text_ne_empty_of_steps {path : Path} (named : path.steps ≠ []) :
    path.text.isEmpty = false := by
  rw [← Bool.not_eq_true, String.isEmpty_iff]
  intro empty
  have : path.steps = [] := by simp [Path.steps, empty, Path.splitSlash]
  exact named this

theorem origin_congr {tree after : FileTree} (here_eq : after.here = tree.here) (path : Path) :
    after.origin path = tree.origin path := by
  rw [origin, origin, here_eq]

theorem locate_eq_ok_iff {tree : FileTree} {path : Path} {final : Location} :
    tree.locate path = .ok final ↔
      path.text.isEmpty = false ∧ tree.Leads linkLimit (tree.origin path) path.walkSteps final := by
  constructor
  · intro located
    rw [locate] at located
    split at located
    · cases located
    · rename_i nonempty
      exact ⟨by simpa using nonempty, leads_of_follow located⟩
  · rintro ⟨nonempty, route⟩
    rw [locate, nonempty, if_neg Bool.false_ne_true, route.follow_eq_ok]

theorem locate_of_holder {tree : FileTree} {path : Path} {place : Location} {name : FileName}
    {entry : Entry} (held : tree.holder path = .ok (place, some name))
    (found : tree.find? (place ++ [name]) = some entry) (notLink : ∀ target, entry ≠ .link target)
    (fits : path.endsWithSlash = true → entry = .directory) :
    tree.locate path = .ok (place ++ [name]) := by
  obtain ⟨before, steps, proper, leads, directory⟩ := holder_eq_ok_some_iff.1 held
  have nonempty := text_ne_empty_of_steps (by simp [steps] : path.steps ≠ [])
  have route : tree.Leads linkLimit (tree.origin path) path.walkSteps (place ++ [name]) := by
    rw [Path.walkSteps, steps]
    split
    · rename_i slash
      rw [fits slash] at found
      rw [List.append_assoc]
      exact leads.append fun _ => .enter directory proper found (by simp) (.stay found .here)
    · exact leads.append fun _ => .enter directory proper found notLink .here
  exact locate_eq_ok_iff.2 ⟨nonempty, route⟩

theorem isDirectory_iff {tree : FileTree} {path : Path} :
    tree.isDirectory path = true ↔
      ∃ location, tree.locate path = .ok location ∧ tree.find? location = some .directory := by
  rw [isDirectory, stat]
  rcases tree.locate path with error | location
  · simp [bind, Except.bind]
  · rcases found : tree.find? location with _ | ⟨_, _⟩ | _ | target <;>
      simp [bind, Except.bind, found]

/-- The second tree has all entries of the first. -/
structure Keeps (tree after : FileTree) : Prop where
  here_eq : after.here = tree.here
  find?_eq_some : ∀ location entry, tree.find? location = some entry →
    after.find? location = some entry

namespace Keeps

variable {tree after : FileTree} {path : Path}

theorem origin_eq (keeps : Keeps tree after) (path : Path) :
    after.origin path = tree.origin path :=
  origin_congr keeps.here_eq path

theorem locate (keeps : Keeps tree after) {location : Location}
    (located : tree.locate path = .ok location) : after.locate path = .ok location := by
  obtain ⟨nonempty, route⟩ := locate_eq_ok_iff.1 located
  refine locate_eq_ok_iff.2 ⟨nonempty, ?_⟩
  rw [keeps.origin_eq]
  exact route.mono keeps.find?_eq_some

theorem holder (keeps : Keeps tree after) {place : Location} {name : FileName}
    (held : tree.holder path = .ok (place, some name)) :
    after.holder path = .ok (place, some name) := by
  obtain ⟨before, steps, proper, leads, directory⟩ := holder_eq_ok_some_iff.1 held
  refine holder_eq_ok_some_iff.2 ⟨before, steps, proper, ?_, keeps.find?_eq_some _ _ directory⟩
  rw [keeps.origin_eq]
  exact leads.mono keeps.find?_eq_some

end Keeps

theorem keeps_put {tree : FileTree} {location : Location} (entry : Entry)
    (missing : tree.find? location = none) : Keeps tree (tree.put location entry) := by
  refine ⟨rfl, ?_⟩
  intro other old found
  rw [find?_put, if_neg, found]
  rintro ⟨-, rfl⟩
  rw [missing] at found
  cases found

theorem keeps_erase (tree : FileTree) (location : Location) : Keeps (tree.erase location) tree := by
  refine ⟨rfl, ?_⟩
  intro other entry found
  rw [find?_erase] at found
  split at found
  · cases found
  · exact found

/-- The second tree has the entries of the first and, where that has none, perhaps directories. -/
structure Grows (tree after : FileTree) : Prop where
  here_eq : after.here = tree.here
  find?_eq : ∀ location, after.find? location = tree.find? location ∨
    tree.find? location = none ∧ after.find? location = some .directory

theorem Grows.find?_eq_some {tree after : FileTree} (grows : Grows tree after)
    {location : Location} {entry : Entry} (found : tree.find? location = some entry) :
    after.find? location = some entry := by
  rcases grows.find?_eq location with same | ⟨missing, -⟩
  · exact same.trans found
  · rw [found] at missing
    cases missing

theorem Grows.keeps {tree after : FileTree} (grows : Grows tree after) : Keeps tree after :=
  ⟨grows.here_eq, fun _ _ => grows.find?_eq_some⟩

/-- The second tree has the entries of the first and, where that has none, perhaps directories
that one of the paths names. -/
structure GrowsAlong (paths : List Path) (tree after : FileTree) : Prop where
  here_eq : after.here = tree.here
  find?_eq : ∀ location, after.find? location = tree.find? location ∨
    tree.find? location = none ∧ after.find? location = some .directory ∧
      ∃ path ∈ paths, after.locate path = .ok location

namespace GrowsAlong

variable {paths others : List Path}

theorem grows {tree after : FileTree} (along : GrowsAlong paths tree after) : Grows tree after := by
  refine ⟨along.here_eq, ?_⟩
  intro location
  rcases along.find?_eq location with same | ⟨missing, made, -⟩
  · exact .inl same
  · exact .inr ⟨missing, made⟩

theorem refl (tree : FileTree) : GrowsAlong paths tree tree := ⟨rfl, fun _ => .inl rfl⟩

theorem trans {first second third : FileTree} (early : GrowsAlong paths first second)
    (late : GrowsAlong paths second third) : GrowsAlong paths first third := by
  refine ⟨late.here_eq.trans early.here_eq, ?_⟩
  intro location
  rcases early.find?_eq location with same | ⟨missing, made, path, membership, located⟩
  · rw [← same]
    exact late.find?_eq location
  · have keeps := late.grows.keeps
    exact .inr ⟨missing, keeps.find?_eq_some _ _ made, path, membership, keeps.locate located⟩

theorem composes : FileM.Composes (GrowsAlong paths) := ⟨refl, trans⟩

theorem mono (more : paths ⊆ others) {tree after : FileTree}
    (along : GrowsAlong paths tree after) : GrowsAlong others tree after := by
  refine ⟨along.here_eq, ?_⟩
  intro location
  rcases along.find?_eq location with same | ⟨missing, made, path, membership, located⟩
  · exact .inl same
  · exact .inr ⟨missing, made, path, more membership, located⟩

end GrowsAlong

theorem growsAlong_of_makeDirectory {tree after : FileTree} {path : Path}
    (made : tree.makeDirectory path = .ok after) : GrowsAlong [path] tree after := by
  rw [makeDirectory] at made
  rcases held : tree.holder path with error | ⟨place, _ | name⟩
  · simp [held, bind, Except.bind] at made
  · simp [held, bind, Except.bind] at made
  · simp only [held, bind, Except.bind] at made
    split at made
    · cases made
    · rename_i missing
      cases made
      have stands : (tree.put (place ++ [name]) .directory).find? (place ++ [name]) =
          some .directory := by
        simp [find?_put]
      have heldAfter := (keeps_put .directory missing).holder held
      have located := locate_of_holder heldAfter stands (by simp) fun _ => rfl
      refine ⟨rfl, ?_⟩
      intro other
      by_cases here : place ++ [name] = other
      · subst here
        exact .inr ⟨missing, stands, path, List.mem_singleton_self path, located⟩
      · left
        rw [find?_put, if_neg fun both => here both.2]

end FileTree

open FileTree

/-- What is true of making each directory is true of making all of them, whether that succeeds or
not. -/
theorem within_makeDirectoriesAmong {related : FileTree → FileTree → Prop}
    (composes : FileM.Composes related) (paths : List Path)
    (edits : ∀ path ∈ paths, ∀ {tree after}, tree.makeDirectory path = .ok after →
      related tree after) : FileM.Within related (makeDirectoriesAmong paths) := by
  induction paths with
  | nil => exact .pure composes ()
  | cons path above inductionHypothesis =>
      have made : FileM.Within related (FileM.change (·.makeDirectory path)) :=
        .change composes (edits path List.mem_cons_self)
      have settled : ∀ error : FileError, FileM.Within related
          (do if (← get).isDirectory path then pure () else throw error :
            FileM FileError Unit) := by
        intro error
        refine .bind composes (.get composes) ?_
        intro tree
        split
        · exact .pure composes ()
        · exact .throw composes error
      have around := inductionHypothesis fun path membership =>
        edits path (List.mem_cons_of_mem _ membership)
      refine .tryCatch composes made ?_
      intro error
      split
      · exact .bind composes around fun _ => .tryCatch composes made settled
      · exact settled error

theorem growsAlong_makeDirectoriesAmong (paths : List Path) :
    FileM.Within (GrowsAlong paths) (makeDirectoriesAmong paths) :=
  within_makeDirectoriesAmong GrowsAlong.composes paths fun _ membership _ _ edited =>
    (growsAlong_of_makeDirectory edited).mono (by simpa using membership)

theorem directoryModes_makeDirectoriesAmong (paths : List Path) :
    FileM.Within (fun tree after => after.directoryModes = tree.directoryModes)
      (makeDirectoriesAmong paths) := by
  have composes : FileM.Composes fun tree after : FileTree =>
      after.directoryModes = tree.directoryModes :=
    ⟨fun _ => rfl, fun early late => late.trans early⟩
  refine within_makeDirectoriesAmong composes paths ?_
  intro path _ tree after made
  rw [makeDirectory] at made
  rcases held : tree.holder path with error | ⟨place, _ | name⟩
  · simp [held, bind, Except.bind] at made
  · simp [held, bind, Except.bind] at made
  · simp only [held, bind, Except.bind] at made
    split at made <;> cases made
    rfl

namespace FileTree

theorem growsAlong_withDirectories (tree : FileTree) (path : Path) :
    GrowsAlong path.ancestors tree (tree.withDirectories path) :=
  growsAlong_makeDirectoriesAmong path.ancestors tree

theorem grows_withDirectories (tree : FileTree) (path : Path) :
    Grows tree (tree.withDirectories path) := (growsAlong_withDirectories tree path).grows

theorem directoryMode_withDirectories (tree : FileTree) (path : Path) (location : Location) :
    (tree.withDirectories path).directoryMode location = tree.directoryMode location :=
  congrArg (·.getD location 0o755) (directoryModes_makeDirectoriesAmong path.ancestors tree)

theorem makeDirectory_of_isDirectory {tree : FileTree} {path : Path}
    (directory : tree.isDirectory path = true) :
    tree.makeDirectory path = .error .alreadyExists := by
  obtain ⟨final, located, -⟩ := isDirectory_iff.1 directory
  obtain ⟨nonempty, route⟩ := locate_eq_ok_iff.1 located
  rw [makeDirectory]
  rcases List.eq_nil_or_concat path.steps with noStep | ⟨before, last, steps⟩
  · simp [holder, noStep, nonempty, bind, Except.bind]
  · rw [List.concat_eq_append] at steps
    obtain ⟨more, walk⟩ : ∃ more, path.walkSteps = before ++ last :: more := by
      rw [Path.walkSteps, steps]
      split
      · exact ⟨[FileName.ofText "."], by simp⟩
      · exact ⟨[], rfl⟩
    obtain ⟨place, remaining, leads, further⟩ := route.exists_of_append walk
    rw [holder_of_leads steps leads further.directory_of_cons]
    cases further with
    | stay => simp [isDotStep, bind, Except.bind]
    | up => simp [isDotStep, bind, Except.bind]
    | link _ proper met => simp [proper, met, bind, Except.bind]
    | enter _ proper met => simp [proper, met, bind, Except.bind]

theorem isDirectory_of_makeDirectory {tree after : FileTree} {path : Path}
    (made : tree.makeDirectory path = .ok after) : after.isDirectory path = true := by
  have keeps := (growsAlong_of_makeDirectory made).grows.keeps
  rw [makeDirectory] at made
  rcases held : tree.holder path with error | ⟨place, _ | name⟩
  · simp [held, bind, Except.bind] at made
  · simp [held, bind, Except.bind] at made
  · simp only [held, bind, Except.bind] at made
    split at made
    · cases made
    · cases made
      have found : (tree.put (place ++ [name]) .directory).find? (place ++ [name]) =
          some .directory := by
        simp [find?_put]
      exact isDirectory_iff.2 ⟨_, locate_of_holder (keeps.holder held) found (by simp)
        fun _ => rfl, found⟩

end FileTree

/-- Where a directory cannot be made it is enough that it is there. -/
theorem run_settle (path : Path) (error : FileError) (tree : FileTree) :
    (do if (← get).isDirectory path then pure () else throw error :
      FileM FileError Unit).run.run tree =
        (if tree.isDirectory path then .ok () else .error error, tree) := by
  rw [Procedure.run_bind, Procedure.run_get]
  simp only
  split <;> rfl

theorem run_makeDirectory_settled (path : Path) (tree : FileTree) :
    ∃ answer after, (tryCatch (FileM.change (·.makeDirectory path)) fun error => do
      if (← get).isDirectory path then pure () else throw error :
        FileM FileError Unit).run.run tree = (answer, after) ∧
          answer.toBool = after.isDirectory path := by
  rw [Procedure.run_tryCatch, FileM.run_change]
  rcases made : tree.makeDirectory path with error | after
  · simp only [run_settle]
    refine ⟨_, _, rfl, ?_⟩
    cases tree.isDirectory path <;> rfl
  · exact ⟨_, _, rfl, (isDirectory_of_makeDirectory made).symm⟩

theorem run_makeDirectoriesAmong_cons (path : Path) (above : List Path) (tree : FileTree) :
    ∃ answer after, (makeDirectoriesAmong (path :: above)).run.run tree = (answer, after) ∧
      (answer.toBool = after.isDirectory path ∨
        answer.toBool = false ∧ (makeDirectoriesAmong above).run.run tree = (answer, after)) := by
  rw [makeDirectoriesAmong, Procedure.run_tryCatch, FileM.run_change]
  rcases made : tree.makeDirectory path with error | after
  · simp only
    split
    · rw [Procedure.run_bind]
      rcases around : (makeDirectoriesAmong above).run.run tree with ⟨reason | answer, between⟩
      · exact ⟨_, _, rfl, .inr ⟨rfl, rfl⟩⟩
      · obtain ⟨answer, after, outcome, same⟩ := run_makeDirectory_settled path between
        exact ⟨answer, after, outcome, .inl same⟩
    · rw [run_settle]
      refine ⟨_, _, rfl, .inl ?_⟩
      cases tree.isDirectory path <;> rfl
  · exact ⟨_, _, rfl, .inl (isDirectory_of_makeDirectory made).symm⟩

theorem run_makeDirectoriesAmong {path : Path} {above : List Path} {tree : FileTree}
    (directory : tree.isDirectory path = true) :
    (makeDirectoriesAmong (path :: above)).run.run tree = (.ok (), tree) := by
  rw [makeDirectoriesAmong, Procedure.run_tryCatch, FileM.run_change,
    makeDirectory_of_isDirectory directory]
  simp only [reduceCtorEq, if_false]
  rw [run_settle, directory]
  rfl

theorem Path.ancestors_eq_cons {path : Path} (nonempty : ¬ path.text.isEmpty = true) :
    path.ancestors = path :: path.parent?.elim [] Path.ancestors := by
  rw [Path.ancestors, if_neg nonempty]
  split <;> rename_i cut <;> rw [cut] <;> rfl

theorem Path.exists_ancestors_directory (path : Path) :
    ∃ above, path.directory.ancestors = path.directory :: above := by
  refine ⟨_, Path.ancestors_eq_cons ?_⟩
  rw [Path.directory]
  split
  · split
    · decide
    · assumption
  · decide

end Registrar
