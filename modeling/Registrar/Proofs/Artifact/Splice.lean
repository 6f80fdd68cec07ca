import Registrar.Artifact.Splice
import Registrar.Proofs.Text.Lines

/-!
# Adding fragments line by line

Cutting a handler into regions and filling the slots between them comes to the same as going
through its lines one by one and adding fragments behind the first line of each anchor.
-/

set_option autoImplicit false

namespace Registrar

def Anchor.isFirst (anchor : Anchor) (lines : List String) (i : Nat) : Bool :=
  (lines[i]?.any fun line => Text.containsIgnoreCase line anchor.marker) &&
    (lines.take i).all fun line => !Text.containsIgnoreCase line anchor.marker

/-- The text of the lines, with all fragments of an anchor behind its first line. -/
def spliceByLine (lines : List String) (fragments : Fragments) : String :=
  String.join (lines.zipIdx.map fun (line, i) =>
    line ++ "\n" ++
      (if Anchor.context.isFirst lines i then
        String.join (fragments.contexts.map fun context => context.text ++ "\n")
      else "") ++
      (if Anchor.table.isFirst lines i then
        String.join (fragments.entries.map fun entry => "\t" ++ entry.text ++ "\n")
      else ""))

theorem slots_eq (lines : List String) : slots lines =
    match Anchor.context.find? lines, Anchor.table.find? lines with
    | none, _ => .error .context
    | some _, none => .error .table
    | some i, some j => .ok [(i, .context), (j, .table)] := by
  rw [slots, Anchor.all]
  cases context : Anchor.context.find? lines <;> cases table : Anchor.table.find? lines <;>
    simp [context, table, bind, Except.bind, pure, Except.pure]

theorem mergeSort_pair (first second : Nat × Anchor) :
    ([first, second].mergeSort fun first second => first.1 ≤ second.1) =
      if first.1 ≤ second.1 then [first, second] else [second, first] := by
  simp [List.mergeSort, List.MergeSort.Internal.splitInTwo, List.merge]

theorem splice_of_find? {existing : String} {i j : Nat} (fragments : Fragments)
    (context : Anchor.context.find? (Text.lines existing) = some i)
    (table : Anchor.table.find? (Text.lines existing) = some j) :
    splice existing fragments = .ok (Text.unlines
      ((regionsFrom (Text.lines existing) 0
        (if i ≤ j then [(i, .context), (j, .table)] else [(j, .table), (i, .context)])).flatMap
          (Region.lines fragments))) := by
  simp only [splice, regions, slots_eq, context, table, mergeSort_pair, bind, Except.bind, pure,
    Except.pure]

def annotate (behind : Nat → List String) (start : Nat) : List String → List String
  | [] => []
  | line :: rest => line :: behind start ++ annotate behind (start + 1) rest

theorem annotate_append (behind : Nat → List String) (start : Nat) (first second : List String) :
    annotate behind start (first ++ second) =
      annotate behind start first ++ annotate behind (start + first.length) second := by
  induction first generalizing start with
  | nil => rfl
  | cons line rest inductionHypothesis =>
      have shift : start + 1 + rest.length = start + (line :: rest).length := by
        rw [List.length_cons]
        omega
      rw [List.cons_append, annotate, annotate, inductionHypothesis, shift]
      simp

theorem annotate_of_silent {behind : Nat → List String} {start : Nat} {lines : List String}
    (silent : ∀ i, start ≤ i → i < start + lines.length → behind i = []) :
    annotate behind start lines = lines := by
  induction lines generalizing start with
  | nil => rfl
  | cons line rest inductionHypothesis =>
      have tail : annotate behind (start + 1) rest = rest := by
        apply inductionHypothesis
        intro i lower upper
        apply silent i (by omega)
        rw [List.length_cons]
        omega
      rw [annotate, tail, silent start (Nat.le_refl _) (by simp)]
      rfl

/-- Lines up to the first one behind which something is added. -/
theorem annotate_drop {behind : Nat → List String} {lines : List String} {start i : Nat}
    (bound : i < lines.length) (lower : start ≤ i) (silent : ∀ j < i, behind j = []) :
    annotate behind start (lines.drop start) =
      (lines.take (i + 1)).drop start ++
        (behind i ++ annotate behind (i + 1) (lines.drop (i + 1))) := by
  have reached : start ≤ (lines.take i).length := by
    rw [List.length_take]
    omega
  have cut : lines.drop start = (lines.take i).drop start ++ lines[i] :: lines.drop (i + 1) := by
    rw [← List.drop_eq_getElem_cons bound, ← List.drop_append_of_le_length reached,
      List.take_append_drop]
  have upper : (lines.take (i + 1)).drop start = (lines.take i).drop start ++ [lines[i]] := by
    rw [← List.take_append_getElem bound, List.drop_append_of_le_length reached]
  have here : start + ((lines.take i).drop start).length = i := by
    simp
    omega
  have front : annotate behind start ((lines.take i).drop start) = (lines.take i).drop start := by
    apply annotate_of_silent
    intro j _ less
    exact silent j (here ▸ less)
  rw [cut, annotate_append, front, here, annotate, upper]
  simp

theorem annotate_congr {behind other : Nat → List String} {start : Nat} {lines : List String}
    (same : ∀ i, start ≤ i → behind i = other i) :
    annotate behind start lines = annotate other start lines := by
  induction lines generalizing start with
  | nil => rfl
  | cons line rest inductionHypothesis =>
      rw [annotate, annotate, same start (Nat.le_refl _), inductionHypothesis]
      intro i lower
      exact same i (by omega)

theorem unlines_annotate (behind : Nat → List String) (start : Nat) (lines : List String) :
    Text.unlines (annotate behind start lines) =
      String.join ((lines.zipIdx start).map fun (line, i) =>
        line ++ "\n" ++ Text.unlines (behind i)) := by
  induction lines generalizing start with
  | nil => rfl
  | cons line rest inductionHypothesis =>
      simp [annotate, inductionHypothesis, String.append_assoc]

/-- What the slots of line number `i` add behind it. -/
def Fragments.behind (fragments : Fragments) (slots : List (Nat × Anchor)) (i : Nat) :
    List String :=
  (slots.filter fun slot => slot.1 == i).flatMap fun slot => fragments.linesAt slot.2

theorem Fragments.behind_eq_nil {fragments : Fragments} {slots : List (Nat × Anchor)} {i : Nat}
    (elsewhere : ∀ slot ∈ slots, slot.1 ≠ i) : fragments.behind slots i = [] := by
  rw [behind, List.filter_eq_nil_iff.2 (by simpa using elsewhere), List.flatMap_nil]

theorem Fragments.behind_cons_self (fragments : Fragments) (i : Nat) (anchor : Anchor)
    (slots : List (Nat × Anchor)) : fragments.behind ((i, anchor) :: slots) i =
      fragments.linesAt anchor ++ fragments.behind slots i := by
  simp [behind]

theorem Fragments.behind_cons_of_ne (fragments : Fragments) {i j : Nat} (anchor : Anchor)
    (slots : List (Nat × Anchor)) (apart : i ≠ j) :
    fragments.behind ((i, anchor) :: slots) j = fragments.behind slots j := by
  simp [behind, apart]

theorem Fragments.behind_eq_nil_of_lt (fragments : Fragments) {i j : Nat} {anchor : Anchor}
    {slots : List (Nat × Anchor)} (later : ∀ slot ∈ slots, i ≤ slot.1) (less : j < i) :
    fragments.behind ((i, anchor) :: slots) j = [] := by
  apply behind_eq_nil
  intro slot membership
  rcases List.mem_cons.1 membership with rfl | among
  · exact Nat.ne_of_gt less
  · exact Nat.ne_of_gt (Nat.lt_of_lt_of_le less (later slot among))

/-- What the slots behind the line in front of number `start` add. -/
def Fragments.before (fragments : Fragments) (slots : List (Nat × Anchor)) : Nat → List String
  | 0 => []
  | last + 1 => fragments.behind slots last

/-- The regions from a line on, for slots in the order of their lines. Cuts can fall together, so
there may be slots left behind the line in front of it. -/
theorem flatMap_regionsFrom (fragments : Fragments) {lines : List String}
    {slots : List (Nat × Anchor)} {start : Nat}
    (sorted : slots.Pairwise fun first second => first.1 ≤ second.1)
    (inside : ∀ slot ∈ slots, start ≤ slot.1 + 1 ∧ slot.1 < lines.length) :
    (regionsFrom lines start slots).flatMap (Region.lines fragments) =
      fragments.before slots start ++
        annotate (fragments.behind slots) start (lines.drop start) := by
  induction slots generalizing start with
  | nil =>
      have nothing : fragments.before [] start = [] := by cases start <;> rfl
      have silent : annotate (fragments.behind []) start (lines.drop start) = lines.drop start :=
        annotate_of_silent fun _ _ _ => rfl
      rw [nothing, silent, regionsFrom, List.flatMap_cons, List.flatMap_nil, Region.lines]
      simp
  | cons slot rest inductionHypothesis =>
      obtain ⟨i, anchor⟩ := slot
      obtain ⟨later, restSorted⟩ := List.pairwise_cons.1 sorted
      obtain ⟨below, bound⟩ := inside (i, anchor) List.mem_cons_self
      have tail : (regionsFrom lines (i + 1) rest).flatMap (Region.lines fragments) =
          fragments.behind rest i ++
            annotate (fragments.behind ((i, anchor) :: rest)) (i + 1) (lines.drop (i + 1)) := by
        rw [inductionHypothesis restSorted, Fragments.before]
        · congr 1
          apply annotate_congr
          intro j lower
          rw [fragments.behind_cons_of_ne anchor rest (by omega)]
        · intro slot membership
          exact ⟨Nat.succ_le_succ (later slot membership),
            (inside slot (List.mem_cons_of_mem _ membership)).2⟩
      rw [regionsFrom, List.flatMap_cons, List.flatMap_cons, tail, Region.lines, Region.lines,
        ← List.append_assoc (fragments.linesAt anchor), ← fragments.behind_cons_self]
      by_cases repeated : start = i + 1
      · -- the line of this slot has been emitted with an earlier one
        rw [repeated, List.drop_take, Nat.sub_self, List.take_zero, List.nil_append]
        rfl
      · have lower : start ≤ i := by omega
        have elsewhere : ∀ j < i, fragments.behind ((i, anchor) :: rest) j = [] :=
          fun j less => fragments.behind_eq_nil_of_lt later less
        have nothing : fragments.before ((i, anchor) :: rest) start = [] := by
          cases start with
          | zero => rfl
          | succ last => exact elsewhere last lower
        rw [nothing, List.nil_append, annotate_drop bound lower elsewhere]

theorem Anchor.lt_length_of_find? {anchor : Anchor} {lines : List String} {i : Nat}
    (found : anchor.find? lines = some i) : i < lines.length :=
  (List.findIdx?_eq_some_iff_getElem.1 found).1

theorem Anchor.isFirst_of_find? {anchor : Anchor} {lines : List String} {i : Nat}
    (found : anchor.find? lines = some i) (j : Nat) : anchor.isFirst lines j = decide (i = j) := by
  obtain ⟨bound, present, absent⟩ := List.findIdx?_eq_some_iff_getElem.1 found
  rw [isFirst, Bool.eq_iff_iff, decide_eq_true_iff]
  constructor
  · intro first
    rw [Bool.and_eq_true, Option.any_eq_true, List.all_eq_true] at first
    obtain ⟨⟨line, among, here⟩, earlier⟩ := first
    obtain ⟨inside, rfl⟩ := List.getElem?_eq_some_iff.1 among
    rcases Nat.lt_trichotomy i j with less | same | more
    · have refused := earlier lines[i] (List.mem_take_iff_getElem.2 ⟨i, by omega, rfl⟩)
      simp [present] at refused
    · exact same
    · exact absurd here (absent j more)
  · rintro rfl
    rw [Bool.and_eq_true, List.all_eq_true]
    refine ⟨by simp [bound, present], ?_⟩
    intro line membership
    obtain ⟨j, less, rfl⟩ := List.mem_take_iff_getElem.1 membership
    simpa using absent j (by omega)

theorem Anchor.find?_eq_none_iff {anchor : Anchor} {lines : List String} :
    anchor.find? lines = none ↔
      ∀ line ∈ lines, Text.containsIgnoreCase line anchor.marker = false :=
  List.findIdx?_eq_none_iff

theorem splice_of_present {existing : String} {i j : Nat} (fragments : Fragments)
    (context : Anchor.context.find? (Text.lines existing) = some i)
    (table : Anchor.table.find? (Text.lines existing) = some j) :
    splice existing fragments = .ok (spliceByLine (Text.lines existing) fragments) := by
  rw [splice_of_find? fragments context table]
  generalize Text.lines existing = lines at context table
  have contextInside := Anchor.lt_length_of_find? context
  have tableInside := Anchor.lt_length_of_find? table
  generalize order : (if i ≤ j then [(i, Anchor.context), (j, Anchor.table)]
    else [(j, Anchor.table), (i, Anchor.context)]) = found
  have sorted : found.Pairwise fun first second => first.1 ≤ second.1 := by
    rw [← order]
    split
    · simpa
    · simp
      omega
  have inside : ∀ slot ∈ found, 0 ≤ slot.1 + 1 ∧ slot.1 < lines.length := by
    intro slot membership
    rw [← order] at membership
    split at membership <;> simp at membership <;> rcases membership with rfl | rfl <;> simpa
  have behind : ∀ k, fragments.behind found k =
      (if Anchor.context.isFirst lines k then fragments.linesAt .context else []) ++
        if Anchor.table.isFirst lines k then fragments.linesAt .table else [] := by
    intro k
    rw [Anchor.isFirst_of_find? context, Anchor.isFirst_of_find? table, ← order]
    split
    · by_cases atContext : i = k <;> by_cases atTable : j = k <;>
        simp [Fragments.behind, atContext, atTable]
    · -- the anchors are on different lines, so that only one of them can be on this one
      by_cases atContext : i = k
      · have apart : j ≠ k := by omega
        simp [Fragments.behind, atContext, apart]
      · by_cases atTable : j = k <;> simp [Fragments.behind, atContext, atTable]
  rw [flatMap_regionsFrom fragments sorted inside, Fragments.before, List.nil_append,
    List.drop_zero, unlines_annotate, spliceByLine]
  refine congrArg (Except.ok ∘ String.join) (List.map_congr_left ?_)
  rintro ⟨line, k⟩ -
  simp only [behind, Text.unlines_append, ← String.append_assoc]
  congr 2
  · split <;> simp [Fragments.linesAt, Text.unlines, Function.comp_def]
  · split <;> simp [Fragments.linesAt, Text.unlines, Function.comp_def]

theorem exists_find?_of_splice {existing output : String} {fragments : Fragments}
    (done : splice existing fragments = .ok output) :
    ∃ i j, Anchor.context.find? (Text.lines existing) = some i ∧
      Anchor.table.find? (Text.lines existing) = some j := by
  cases context : Anchor.context.find? (Text.lines existing) with
  | none => simp [splice, regions, slots_eq, context, bind, Except.bind] at done
  | some i =>
      cases table : Anchor.table.find? (Text.lines existing) with
      | none => simp [splice, regions, slots_eq, context, table, bind, Except.bind] at done
      | some j => exact ⟨i, j, rfl, rfl⟩

/-- Adding fragments fails exactly where no line contains the context anchor, or else no line the
one of the table. Otherwise it gives the existing lines one by one, with the context classes behind
the first line of the one anchor and the rows behind the first line of the other. -/
theorem splice_eq_spliceByLine (existing : String) (fragments : Fragments) :
    splice existing fragments =
      if ∀ line ∈ Text.lines existing,
          Text.containsIgnoreCase line Anchor.context.marker = false then
        .error .context
      else if ∀ line ∈ Text.lines existing,
          Text.containsIgnoreCase line Anchor.table.marker = false then
        .error .table
      else .ok (spliceByLine (Text.lines existing) fragments) := by
  simp only [← Anchor.find?_eq_none_iff]
  cases context : Anchor.context.find? (Text.lines existing) with
  | none => simp [splice, regions, slots_eq, context, bind, Except.bind]
  | some i =>
      cases table : Anchor.table.find? (Text.lines existing) with
      | none => simp [splice, regions, slots_eq, context, table, bind, Except.bind]
      | some j =>
          rw [splice_of_present fragments context table]
          simp

end Registrar
