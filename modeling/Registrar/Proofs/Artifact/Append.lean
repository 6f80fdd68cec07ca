import Registrar.Proofs.Artifact.Layout
import Registrar.Proofs.Artifact.Splice
import Registrar.Proofs.Text.Case

/-!
# Adding registrations to a handler

Both anchors of a handler are where its layout has them, whatever names it holds: a row holds the
one space of the context anchor only behind other words. So the rows and classes of further names
go into the first two gaps, in front of those added before them.
-/

set_option autoImplicit false

namespace Registrar

namespace Anchor

theorem context_key : Text.lowerAfter [] Anchor.context.marker.toList =
    ['#', 'r', 'e', 'g', 'i', 'o', 'n'] ++ ' ' ::
      ['c', 'o', 'n', 't', 'e', 'x', 't', 'u', 'a', 'l', 'i', 'z', 'a', 't', 'i', 'o', 'n', 'o',
        'f', 'c', 'l', 'a', 's', 's', 'e', 's'] := by
  rw [Anchor.marker, String.toList_ofList]
  rfl

theorem find?_eq_some {anchor : Anchor} {before rest : List String} {line : String}
    (absent : ∀ earlier ∈ before, Text.containsIgnoreCase earlier anchor.marker = false)
    (present : Text.containsIgnoreCase line anchor.marker = true) :
    anchor.find? (before ++ [line] ++ rest) = some before.length := by
  have none : before.findIdx? (fun line => Text.containsIgnoreCase line anchor.marker) = none := by
    rw [List.findIdx?_eq_none_iff]
    exact absent
  simp [find?, List.findIdx?_append, none, List.findIdx?_cons, present]

theorem contains_marker (anchor : Anchor) :
    Text.containsIgnoreCase anchor.marker anchor.marker = true := by
  rw [Text.containsIgnoreCase_eq]
  exact (Text.occursIn_iff _ _).2 List.infix_rfl

end Anchor

namespace Template

def tableLine : String := openingLines.getLast (by simp [openingLines])

theorem openingLines_eq : openingLines = openingLines.dropLast ++ [tableLine] :=
  (List.dropLast_concat_getLast _).symm

theorem table_not_mem_openingLines : ∀ line ∈ openingLines.dropLast,
    Text.containsIgnoreCase line Anchor.table.marker = false := by
  simp only [openingLines, List.dropLast_cons_cons, List.dropLast_singleton, List.forall_mem_cons,
    Text.containsIgnoreCase_eq, Anchor.marker]
  repeat rw [String.toList_ofList]
  decide

theorem table_mem_tableLine :
    Text.containsIgnoreCase tableLine Anchor.table.marker = true := by
  simp only [tableLine, openingLines, List.getLast_cons_cons, List.getLast_singleton,
    Text.containsIgnoreCase_eq, Anchor.marker]
  repeat rw [String.toList_ofList]
  rfl

theorem context_not_mem_openingLines : ∀ line ∈ openingLines,
    Text.containsIgnoreCase line Anchor.context.marker = false := by
  simp only [openingLines, List.forall_mem_cons, Text.containsIgnoreCase_eq, Anchor.marker]
  repeat rw [String.toList_ofList]
  decide

theorem methodLines_eq : methodLines = middleLines.take 23 := by
  rfl

theorem context_not_mem_methodLines : ∀ line ∈ methodLines,
    Text.containsIgnoreCase line Anchor.context.marker = false := by
  simp only [methodLines_eq, middleLines, List.take_succ_cons, List.take_zero,
    List.forall_mem_cons, Text.containsIgnoreCase_eq, Anchor.marker]
  repeat rw [String.toList_ofList]
  decide

end Template

theorem toList_rowLine (name : String) :
    (rowLine name).toList = [' '].intercalate
      [['\t'], [], [], [], [], [], [], [], ['{'], "typeof(".toList ++ name.toList ++ [')', ','],
        ['n', 'e', 'w'],
        name.toList ++ "Context().GetTypeInfo(typeof(".toList ++ name.toList ++ [')', ')'],
        ['}', ',']] := by
  simp [rowLine_eq, Fragment.entry, List.intercalate_cons_cons]

theorem not_region_suffix {text : List Char} {last : Char} (notLetter : last ≠ 'n')
    (notSigma : last ≠ '\u03A3') (lower : Text.lowerChar last = [last]) :
    ¬ ['#', 'r', 'e', 'g', 'i', 'o', 'n'] <:+ Text.lowerAfter [] (text ++ [last]) := by
  intro ends
  obtain ⟨front, equality⟩ := Text.lowerAfter_suffix [] text [last]
  simp only [Text.lowerAfter, if_neg notSigma, lower] at equality
  obtain ⟨start, shape⟩ := ends
  have same : (front ++ [last]).getLast? =
      (start ++ ['#', 'r', 'e', 'g', 'i', 'o', 'n']).getLast? := by
    rw [shape, ← equality]
    simp
  simp at same
  exact notLetter same

theorem context_not_mem_rowLine {name : String} (compact : Text.IsCompact name) :
    Text.containsIgnoreCase (rowLine name) Anchor.context.marker = false := by
  have oneWord : ' ' ∉ name.toList := fun membership => absurd (compact ' ' membership) (by decide)
  rw [Text.containsIgnoreCase_eq, Anchor.context_key, ← Bool.not_eq_true, Text.occursIn_iff,
    toList_rowLine]
  apply Text.not_infix_words (by decide)
  · simp [oneWord]
  · simp only [List.dropLast_cons_cons, List.dropLast_singleton, List.forall_mem_cons]
    have blank : ¬ ['#', 'r', 'e', 'g', 'i', 'o', 'n'] <:+ Text.lowerAfter [] [] := by decide
    refine ⟨by decide, blank, blank, blank, blank, blank, blank, blank, by decide, ?_, by decide,
      ?_, by simp⟩
    · rw [show [')', ','] = [')'] ++ [','] from rfl, ← List.append_assoc]
      exact not_region_suffix (by decide) (by decide) (by decide)
    · rw [show [')', ')'] = [')'] ++ [')'] from rfl, ← List.append_assoc]
      exact not_region_suffix (by decide) (by decide) (by decide)

theorem regionsFrom_parts (before between rest : List String) (upper lower : String)
    (first second : Anchor) :
    regionsFrom (before ++ [upper] ++ between ++ [lower] ++ rest) 0
        [(before.length, first), (before.length + 1 + between.length, second)] =
      [.text (before ++ [upper]), .slot first, .text (between ++ [lower]), .slot second,
        .text rest] := by
  have upperCut : (before ++ [upper] ++ between ++ [lower] ++ rest).take (before.length + 1) =
      before ++ [upper] := by
    rw [List.append_assoc, List.append_assoc]
    exact List.take_left' (by simp)
  have lowerCut : (before ++ [upper] ++ between ++ [lower] ++ rest).take
      (before.length + 1 + between.length + 1) = before ++ [upper] ++ between ++ [lower] :=
    List.take_left' (by simp; omega)
  have remaining : (before ++ [upper] ++ between ++ [lower] ++ rest).drop
      (before.length + 1 + between.length + 1) = rest :=
    List.drop_left' (by simp; omega)
  have inside : (before ++ [upper] ++ between ++ [lower]).drop (before.length + 1) =
      between ++ [lower] := by
    rw [List.append_assoc]
    exact List.drop_left' (by simp)
  rw [regionsFrom, regionsFrom, regionsFrom, upperCut, lowerCut, remaining, inside, List.drop_zero]

theorem splice_eq_ok {existing : String} {before between rest : List String}
    {table context : String}
    (names : List String)
    (shape : Text.lines existing = before ++ [table] ++ between ++ [context] ++ rest)
    (noTable : ∀ line ∈ before, Text.containsIgnoreCase line Anchor.table.marker = false)
    (isTable : Text.containsIgnoreCase table Anchor.table.marker = true)
    (noContext : ∀ line ∈ before ++ [table] ++ between,
      Text.containsIgnoreCase line Anchor.context.marker = false)
    (isContext : Text.containsIgnoreCase context Anchor.context.marker = true) :
    splice existing (Fragments.ofNames names) = .ok (Text.unlines
      (before ++ [table] ++ names.map rowLine ++ between ++ [context] ++
        names.flatMap classLines ++ rest)) := by
  have tableFound : Anchor.table.find? (Text.lines existing) = some before.length := by
    rw [shape, List.append_assoc _ _ rest, List.append_assoc _ between]
    exact Anchor.find?_eq_some noTable isTable
  have contextFound : Anchor.context.find? (Text.lines existing) =
      some (before.length + 1 + between.length) := by
    rw [shape, Anchor.find?_eq_some noContext isContext]
    simp
    omega
  have order : ¬ before.length + 1 + between.length ≤ before.length := by omega
  have rows : (names.map Fragment.entry).map (fun entry => "\t" ++ entry.text) =
      names.map rowLine := by
    rw [List.map_map]
    exact List.map_congr_left fun name _ => (rowLine_eq name).symm
  rw [splice_of_find? _ contextFound tableFound, if_neg order, shape, regionsFrom_parts]
  simp only [List.flatMap_cons, List.flatMap_nil, Region.lines, Fragments.linesAt,
    Fragments.ofNames, rows, Text.unlines_append, Text.unlines_nil, List.map_map,
    Function.comp_def, unlines_contexts, String.append_assoc, String.append_empty]

/-- Further names go into the first two gaps of a handler, in front of what is there. -/
theorem splice_handlerText {added kept : List String} (names : List String)
    (compact : ∀ name ∈ added ++ kept, Text.IsCompact name) :
    splice (handlerText added kept) (Fragments.ofNames names) =
      .ok (handlerText (names ++ added) kept) := by
  have shape : Text.lines (handlerText added kept) =
      Template.openingLines.dropLast ++ [Template.tableLine] ++
        ((added ++ kept).map rowLine ++ Template.methodLines) ++ [Anchor.context.marker] ++
        (added.flatMap classLines ++ Template.regionLines.drop 1 ++ kept.flatMap classLines ++
          Template.closingLines) := by
    rw [lines_handlerText compact, handlerLines, linesBeforeRegion, ← Template.openingLines_eq]
    simp only [List.append_assoc]
  have noContext : ∀ line ∈ Template.openingLines.dropLast ++ [Template.tableLine] ++
      ((added ++ kept).map rowLine ++ Template.methodLines),
      Text.containsIgnoreCase line Anchor.context.marker = false := by
    intro line membership
    rw [← Template.openingLines_eq] at membership
    rcases List.mem_append.1 membership with fixed | later
    · exact Template.context_not_mem_openingLines line fixed
    rcases List.mem_append.1 later with row | fixed
    · obtain ⟨name, among, rfl⟩ := List.mem_map.1 row
      exact context_not_mem_rowLine (compact name among)
    · exact Template.context_not_mem_methodLines line fixed
  rw [splice_eq_ok names shape Template.table_not_mem_openingLines Template.table_mem_tableLine
    noContext Anchor.context.contains_marker, handlerText_eq_unlines, handlerLines,
    linesBeforeRegion, ← Template.openingLines_eq]
  simp only [List.map_append, List.flatMap_append, List.append_assoc]

end Registrar
