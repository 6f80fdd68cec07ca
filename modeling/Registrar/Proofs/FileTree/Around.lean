import Mathlib.Data.List.TakeWhile
import Registrar.Proofs.FileTree.Directories

/-!
# The directory around a path

The path of the directory is cut out of the text of a path. It leads to where the last step of the
path is taken.
-/

set_option autoImplicit false

namespace Registrar

namespace Path

theorem splitSlash_ne_nil (text : List Char) : splitSlash text ≠ [] := by
  fun_cases splitSlash text <;> simp

theorem splitSlash_append (front back : List Char) :
    splitSlash (front ++ '/' :: back) = splitSlash front ++ splitSlash back := by
  induction front with
  | nil => simp [splitSlash]
  | cons c front inductionHypothesis =>
      by_cases slash : c = '/'
      · simp [splitSlash, slash, inductionHypothesis]
      · rcases shape : splitSlash front with _ | ⟨part, others⟩
        · exact absurd shape (splitSlash_ne_nil front)
        · simp [splitSlash, slash, inductionHypothesis, shape]

theorem splitSlash_of_not_mem {text : List Char} (absent : '/' ∉ text) :
    splitSlash text = [text] := by
  induction text with
  | nil => rfl
  | cons c text inductionHypothesis =>
      rw [List.mem_cons, not_or] at absent
      simp [splitSlash, Ne.symm absent.1, inductionHypothesis absent.2]

def stepsOf (text : List Char) : List FileName := (Path.mk (String.ofList text)).steps

theorem stepsOf_eq (text : List Char) :
    stepsOf text = ((splitSlash text).filter fun part => !part.isEmpty).map fun part =>
      FileName.ofText (String.ofList part) := by
  rw [stepsOf, steps, String.toList_ofList]

theorem stepsOf_toList (path : Path) : stepsOf path.text.toList = path.steps := by
  rw [stepsOf, String.ofList_toList]

theorem stepsOf_append (front back : List Char) :
    stepsOf (front ++ '/' :: back) = stepsOf front ++ stepsOf back := by
  simp [stepsOf_eq, splitSlash_append]

theorem stepsOf_of_not_mem {text : List Char} (absent : '/' ∉ text) (nonempty : text ≠ []) :
    stepsOf text = [FileName.ofText (String.ofList text)] := by
  simp [stepsOf_eq, splitSlash_of_not_mem absent, nonempty]

@[simp]
theorem stepsOf_nil : stepsOf [] = [] := rfl

theorem stepsOf_append_slash (text : List Char) : stepsOf (text ++ ['/']) = stepsOf text := by
  rw [stepsOf_append, stepsOf_nil, List.append_nil]

theorem exists_stepsOf_reverse (text : List Char) :
    ∃ count, stepsOf text.reverse =
      stepsOf (dropEnding text).reverse ++ List.replicate count (FileName.ofText ".") := by
  fun_induction dropEnding text with
  | case1 c rest inductionHypothesis =>
      obtain ⟨count, shape⟩ := inductionHypothesis
      refine ⟨count, ?_⟩
      rw [← shape, List.reverse_cons, stepsOf_append_slash]
  | case2 rest inductionHypothesis =>
      obtain ⟨count, shape⟩ := inductionHypothesis
      refine ⟨count + 1, ?_⟩
      have dot : stepsOf ['.'] = [FileName.ofText "."] := by decide
      rw [List.reverse_cons, stepsOf_append_slash] at shape
      rw [List.reverse_cons, List.reverse_cons, List.append_assoc, List.singleton_append,
        stepsOf_append, dot, shape, List.append_assoc, ← List.replicate_succ']
  | case3 text => exact ⟨0, by simp⟩

theorem getLast?_dropEnding (text : List Char) : (dropEnding text).getLast? = text.getLast? := by
  fun_induction dropEnding text with
  | case1 c rest inductionHypothesis => rw [inductionHypothesis, List.getLast?_cons_cons]
  | case2 rest inductionHypothesis => rw [inductionHypothesis, List.getLast?_cons_cons]
  | case3 text => rfl

theorem dropEnding_ne_slash_cons (text : List Char) (c : Char) (rest : List Char) :
    dropEnding text ≠ '/' :: c :: rest := by
  fun_induction dropEnding text with
  | case1 other rest inductionHypothesis => exact inductionHypothesis
  | case2 rest inductionHypothesis => exact inductionHypothesis
  | case3 text notSlash => exact fun shape => notSlash _ _ shape

theorem exists_steps_of_cutLast {path : Path} {front part : List Char}
    (cut : path.cutLast = (front, part)) (nonempty : part ≠ []) :
    path.isAbsolute = (front.getLast? == some '/') ∧ ∃ more,
      path.steps = stepsOf front.reverse ++ FileName.ofText (String.ofList part) ::
        List.replicate more (FileName.ofText ".") := by
  have sameStart := getLast?_dropEnding path.text.toList.reverse
  obtain ⟨more, shape⟩ := exists_stepsOf_reverse path.text.toList.reverse
  rw [List.reverse_reverse, stepsOf_toList] at shape
  rw [cutLast] at cut
  generalize dropEnding path.text.toList.reverse = text at cut sameStart shape
  obtain ⟨rfl, rfl⟩ := Prod.mk.inj cut
  have parts := List.takeWhile_append_dropWhile (p := (· != '/')) (l := text)
  have oneStep : '/' ∉ text.takeWhile (· != '/') := by
    intro membership
    simpa using List.mem_takeWhile_imp membership
  have stops := List.head?_dropWhile_not (· != '/') text
  generalize text.takeWhile (· != '/') = last at *
  generalize text.dropWhile (· != '/') = front at *
  subst parts
  have alone : stepsOf last.reverse = [FileName.ofText (String.ofList last.reverse)] :=
    stepsOf_of_not_mem (by simpa using oneStep) nonempty
  rw [List.getLast?_reverse] at sameStart
  refine ⟨?_, more, ?_⟩
  · rw [isAbsolute, ← sameStart, List.getLast?_append]
    rcases front with _ | ⟨c, rest⟩
    · have notSlash : last.getLast? ≠ some '/' := fun ends => oneStep (List.mem_of_getLast? ends)
      simpa using notSlash
    · rw [List.getLast?_cons, Option.some_or]
  · rw [shape, List.reverse_append]
    rcases front with _ | ⟨c, rest⟩
    · simp [alone]
    · obtain rfl : c = '/' := by simpa using stops
      rw [List.reverse_cons, List.append_assoc, List.singleton_append, stepsOf_append, alone,
        stepsOf_append_slash, List.append_assoc, List.singleton_append]

theorem exists_steps_of_parent? {path above : Path} (cut : path.parent? = some above) :
    above.isAbsolute = path.isAbsolute ∧ ∃ few name more, path.steps =
      above.steps ++ List.replicate few (FileName.ofText ".") ++
        name :: List.replicate more (FileName.ofText ".") := by
  rcases parts : path.cutLast with ⟨front, _ | ⟨c, part⟩⟩
  · simp [parent?, parts] at cut
  · obtain rfl : ⟨String.ofList (dropEnding front).reverse⟩ = above := by
      simpa [parent?, parts] using cut
    obtain ⟨start, more, steps⟩ := exists_steps_of_cutLast parts (by simp)
    obtain ⟨few, shape⟩ := exists_stepsOf_reverse front
    refine ⟨?_, few, _, more, steps.trans (by rw [shape, stepsOf])⟩
    rw [start, isAbsolute, String.toList_ofList, List.head?_reverse, getLast?_dropEnding]

theorem exists_steps_of_parent?_eq_none {path : Path} (uncut : path.parent? = none) :
    ∃ count, path.steps = List.replicate count (FileName.ofText ".") := by
  obtain ⟨count, shape⟩ := exists_stepsOf_reverse path.text.toList.reverse
  rw [List.reverse_reverse, stepsOf_toList] at shape
  have notSlash := dropEnding_ne_slash_cons path.text.toList.reverse
  refine ⟨count, shape.trans ?_⟩
  rw [parent?, cutLast] at uncut
  generalize dropEnding path.text.toList.reverse = text at uncut notSlash
  rcases text with _ | ⟨c, rest⟩
  · rfl
  · by_cases slash : c = '/'
    · subst slash
      rcases rest with _ | ⟨other, rest⟩
      · rfl
      · exact absurd rfl (notSlash other rest)
    · simp [slash] at uncut

end Path

namespace FileTree

theorem Leads.eq_of_dots {tree : FileTree} {links : Nat} {location final : Location} {count : Nat}
    (leads : tree.Leads links location (List.replicate count (FileName.ofText ".")) final) :
    final = location := by
  induction count with
  | zero => cases leads; rfl
  | succ count inductionHypothesis =>
      generalize shape : List.replicate (count + 1) (FileName.ofText ".") = steps at leads
      rw [List.replicate_succ] at shape
      cases leads with
      | here => cases shape
      | stay _ rest => exact inductionHypothesis ((List.cons.inj shape).2 ▸ rest)
      | up => simp at shape
      | link _ proper => simp [← (List.cons.inj shape).1, isDotStep] at proper
      | enter _ proper => simp [← (List.cons.inj shape).1, isDotStep] at proper

theorem isDirectory_of_leads {tree : FileTree} {path above : Path} {place : Location} {few : Nat}
    (nonempty : above.text.isEmpty = false) (start : above.isAbsolute = path.isAbsolute)
    (leads : tree.Leads linkLimit (tree.origin path)
      (above.steps ++ List.replicate few (FileName.ofText ".")) place)
    (directory : tree.find? place = some .directory) : tree.isDirectory above = true := by
  obtain ⟨last, remaining, early, late⟩ := leads.exists_of_append rfl
  obtain rfl := late.eq_of_dots
  have sameOrigin : tree.origin above = tree.origin path := by rw [origin, origin, start]
  refine isDirectory_iff.2 ⟨place, locate_eq_ok_iff.2 ⟨nonempty, ?_⟩, directory⟩
  rw [sameOrigin, Path.walkSteps]
  split
  · exact early.append fun _ => .stay directory .here
  · exact early

theorem isDirectory_dot {tree : FileTree} (directory : tree.find? tree.here = some .directory) :
    tree.isDirectory ⟨"."⟩ = true := by
  have route : tree.Leads linkLimit tree.here [FileName.ofText "."] tree.here :=
    .stay directory .here
  have dot : (Path.mk ".").text.isEmpty = false ∧ (Path.mk ".").isAbsolute = false ∧
      (Path.mk ".").walkSteps = [FileName.ofText "."] := by
    decide
  refine isDirectory_iff.2 ⟨tree.here, locate_eq_ok_iff.2 ⟨dot.1, ?_⟩, directory⟩
  rwa [origin, dot.2.1, dot.2.2]

theorem isDirectory_directory {tree : FileTree} {path : Path} {place : Location} {name : FileName}
    (held : tree.holder path = .ok (place, some name)) :
    tree.isDirectory path.directory = true := by
  obtain ⟨before, steps, proper, leads, directory⟩ := holder_eq_ok_some_iff.1 held
  have notDot := (isDotStep_eq_false_iff.1 proper).1
  rcases cut : path.parent? with _ | above
  · obtain ⟨count, dots⟩ := Path.exists_steps_of_parent?_eq_none cut
    have membership : name ∈ List.replicate count (FileName.ofText ".") := by simp [← dots, steps]
    exact absurd (List.eq_of_mem_replicate membership) notDot
  · obtain ⟨start, few, last, more, shape⟩ := Path.exists_steps_of_parent? cut
    rw [steps] at shape
    rcases more with _ | more
    · obtain rfl : before = above.steps ++ List.replicate few (FileName.ofText ".") :=
        List.append_inj_left' shape rfl
      by_cases empty : above.text.isEmpty = true
      · -- the path is a name by itself, and begins where it is taken
        obtain rfl : above = ⟨""⟩ := by
          rcases above with ⟨text⟩
          exact congrArg Path.mk (String.isEmpty_iff.1 empty)
        obtain rfl := leads.eq_of_dots
        have relative : tree.origin path = tree.here := by
          rw [origin, ← start]
          rfl
        rw [Path.directory, cut]
        exact isDirectory_dot (relative ▸ directory)
      · have nonempty : above.text.isEmpty = false := by simpa using empty
        simp only [Path.directory, cut, nonempty]
        exact isDirectory_of_leads nonempty start leads directory
    · rw [List.replicate_succ', ← List.cons_append, ← List.append_assoc] at shape
      exact absurd (List.singleton_inj.1 (List.append_inj_right' shape rfl)) notDot

theorem isDirectory_of_parent? {tree : FileTree} {path above : Path}
    (cut : path.parent? = some above) (nonempty : above.text.isEmpty = false)
    (directory : tree.isDirectory path = true) : tree.isDirectory above = true := by
  obtain ⟨start, few, last, more, steps⟩ := Path.exists_steps_of_parent? cut
  obtain ⟨final, located, -⟩ := isDirectory_iff.1 directory
  obtain ⟨-, route⟩ := locate_eq_ok_iff.1 located
  obtain ⟨others, walk⟩ : ∃ others, path.walkSteps =
      (above.steps ++ List.replicate few (FileName.ofText ".")) ++ last :: others := by
    rw [Path.walkSteps, steps]
    split
    · exact ⟨List.replicate more (FileName.ofText ".") ++ [FileName.ofText "."], by simp⟩
    · exact ⟨_, rfl⟩
  obtain ⟨place, remaining, early, late⟩ := route.exists_of_append walk
  exact isDirectory_of_leads nonempty start early late.directory_of_cons

end FileTree

theorem isDirectory_of_failed_makeDirectories {path : Path} {tree after : FileTree}
    {error : FileError} (failed : (makeDirectories path).run.run tree = (.error error, after)) :
    after.isDirectory path = false := by
  rw [makeDirectories] at failed
  induction path using Path.ancestors.induct with
  | case1 path empty =>
      rw [Path.ancestors, if_pos empty] at failed
      cases failed
  | case2 path nonempty uncut =>
      rw [Path.ancestors_eq_cons nonempty, uncut] at failed
      obtain ⟨answer, later, outcome, same⟩ := run_makeDirectoriesAmong_cons path [] tree
      obtain ⟨rfl, rfl⟩ := Prod.mk.inj (failed.symm.trans outcome)
      rcases same with same | ⟨-, around⟩
      · exact same.symm
      · cases around
  | case3 path nonempty above cut inductionHypothesis =>
      rw [Path.ancestors_eq_cons nonempty, cut] at failed
      obtain ⟨answer, later, outcome, same⟩ :=
        run_makeDirectoriesAmong_cons path above.ancestors tree
      obtain ⟨rfl, rfl⟩ := Prod.mk.inj (failed.symm.trans outcome)
      rcases same with same | ⟨-, around⟩
      · exact same.symm
      · -- what the path leads to would stand in a directory that could not be made
        have named : above.text.isEmpty = false := by
          by_contra empty
          rw [Path.ancestors, if_pos (by simpa using empty)] at around
          cases around
        have missing := inductionHypothesis around
        by_contra directory
        rw [FileTree.isDirectory_of_parent? cut named (by simpa using directory)] at missing
        cases missing

end Registrar
