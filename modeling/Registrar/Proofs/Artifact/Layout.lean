import Registrar.Artifact.Anchor
import Registrar.Artifact.Render
import Registrar.Proofs.Text.Lines
import Registrar.Text.Blank

/-!
# The layout of a handler

A handler is the fixed text with three gaps: one for the rows of the lookup table, one behind the
line of the context anchor, and one in front of the end of the region. A handler written anew has
all of its context classes in the last gap. `handlerText` is the text with the gaps filled, and
`handlerLines` are its lines.
-/

set_option autoImplicit false

namespace Registrar

namespace CodeBuilder

@[simp]
theorem indent_lines (builder : CodeBuilder) (contents : List String) :
    (builder.lines contents).indent = builder.indent := by
  induction contents generalizing builder with
  | nil => rfl
  | cons content rest inductionHypothesis => exact inductionHypothesis (builder.line content)

@[simp]
theorem level_lines (builder : CodeBuilder) (contents : List String) :
    (builder.lines contents).level = builder.level := by
  induction contents generalizing builder with
  | nil => rfl
  | cons content rest inductionHypothesis => exact inductionHypothesis (builder.line content)

theorem text_lines (builder : CodeBuilder) (contents : List String) :
    (builder.lines contents).text = builder.text ++
      Text.unlines (contents.map (builder.indent.text builder.level ++ ·)) := by
  induction contents generalizing builder with
  | nil => simp [lines]
  | cons content rest inductionHypothesis =>
      have tail := inductionHypothesis (builder.line content)
      simp only [lines, line, List.foldl_cons, List.map_cons, Text.unlines_cons] at tail ⊢
      rw [tail]
      simp only [String.append_assoc]

end CodeBuilder

namespace Template

def methodLines : List String := middleLines.takeWhile (· != Anchor.context.marker)

def regionLines : List String := middleLines.dropWhile (· != Anchor.context.marker)

def middleToAnchor : String := Text.unlines (methodLines ++ [Anchor.context.marker])

def middleBehindAnchor : String := Text.unlines (regionLines.drop 1)

theorem regionLines_eq :
    regionLines = [Anchor.context.marker, "    // space for adding context classes"] := by
  rfl

theorem middleLines_eq :
    middleLines = methodLines ++ [Anchor.context.marker] ++ regionLines.drop 1 := by
  have whole := List.takeWhile_append_dropWhile (p := (· != Anchor.context.marker))
    (l := middleLines)
  have region : middleLines.dropWhile (· != Anchor.context.marker) =
      [Anchor.context.marker] ++ regionLines.drop 1 := by
    rw [regionLines_eq]
    exact regionLines_eq
  rw [region, ← List.append_assoc] at whole
  exact whole.symm

theorem middle_eq : middle = middleToAnchor ++ middleBehindAnchor := by
  rw [middle, middleLines_eq, Text.unlines_append, middleToAnchor, middleBehindAnchor]

end Template

/-- The line of a name in the lookup table. -/
def rowLine (name : String) : String :=
  "\t" ++ "        \x7b typeof(" ++ name ++ "), new " ++ name ++ "Context().GetTypeInfo(typeof(" ++
    name ++ ")) \x7d,"

/-- The lines of the context class of a name. -/
def classLines (name : String) : List String :=
  ["", "    [JsonSerializable(typeof(" ++ name ++ "))]",
    "    public partial class " ++ name ++ "Context : JsonSerializerContext \x7b \x7d", ""]

theorem rowLine_eq (name : String) : rowLine name = "\t" ++ (Fragment.entry name).text := by
  simp only [rowLine, Fragment.entry, String.append_assoc]

theorem text_context (name : String) :
    (Fragment.context name).text ++ "\n" = Text.unlines (classLines name) := by
  have indentation : Indent.classBody.text 1 = "    " := rfl
  simp only [Fragment.context, CodeBuilder.new, CodeBuilder.blank, CodeBuilder.deeper,
    CodeBuilder.line, indentation, classLines, Text.unlines_cons, Text.unlines_nil]
  simp [← String.toList_inj]

theorem unlines_contexts (names : List String) :
    Text.unlines (names.map fun name => (Fragment.context name).text) =
      Text.unlines (names.flatMap classLines) := by
  induction names with
  | nil => rfl
  | cons name rest inductionHypothesis =>
      rw [List.map_cons, List.flatMap_cons, Text.unlines_cons, Text.unlines_append, text_context,
        inductionHypothesis]

/-- The text of a handler whose names `kept` are those it was written anew with, and whose names
`added` have been added since. -/
def handlerText (added kept : List String) : String :=
  Template.opening ++ Text.unlines ((added ++ kept).map rowLine) ++
    Template.middleToAnchor ++
    Text.unlines (added.map fun name => (Fragment.context name).text) ++
    Template.middleBehindAnchor ++
    Text.unlines (kept.map fun name => (Fragment.context name).text) ++
    Template.closing

def linesBeforeRegion (names : List String) : List String :=
  Template.openingLines ++ names.map rowLine ++ Template.methodLines

/-- The lines of a handler with the given names. -/
def handlerLines (added kept : List String) : List String :=
  linesBeforeRegion (added ++ kept) ++ [Anchor.context.marker] ++ added.flatMap classLines ++
    Template.regionLines.drop 1 ++ kept.flatMap classLines ++ Template.closingLines

theorem handlerText_eq_unlines (added kept : List String) :
    handlerText added kept = Text.unlines (handlerLines added kept) := by
  simp only [handlerText, handlerLines, linesBeforeRegion, unlines_contexts, Text.unlines_append,
    Template.opening, Template.closing, Template.middleToAnchor, Template.middleBehindAnchor,
    String.append_assoc]

theorem isLine_of_mem_template : ∀ line ∈
    Template.openingLines ++ Template.middleLines ++ Template.closingLines, Text.IsLine line := by
  have checked : (Template.openingLines ++ Template.middleLines ++ Template.closingLines).all
      (fun line => !line.toList.contains '\n' && line.toList.getLast? != some '\r') = true := by
    simp only [Template.openingLines, Template.middleLines, Template.closingLines,
      List.cons_append, List.nil_append, List.all_cons, List.all_nil]
    repeat rw [String.toList_ofList]
    rfl
  intro line membership
  simpa [Text.IsLine] using List.all_eq_true.1 checked line membership

theorem isLine_rowLine {name : String} (compact : Text.IsCompact name) :
    Text.IsLine (rowLine name) := by
  have oneLine : '\n' ∉ name.toList := fun membership =>
    absurd (compact '\n' membership) (by decide)
  constructor
  · simp [rowLine_eq, Fragment.entry, oneLine]
  · simp only [rowLine_eq, Fragment.entry, String.toList_append, List.getLast?_append]
    simp

theorem isLine_of_mem_classLines {name line : String} (compact : Text.IsCompact name)
    (membership : line ∈ classLines name) : Text.IsLine line := by
  have oneLine : '\n' ∉ name.toList := fun found => absurd (compact '\n' found) (by decide)
  simp only [classLines, List.mem_cons, List.not_mem_nil, or_false] at membership
  rcases membership with rfl | rfl | rfl | rfl
  · decide
  · refine ⟨by simp [oneLine], ?_⟩
    simp only [String.toList_append, List.getLast?_append]
    simp
  · refine ⟨by simp [oneLine], ?_⟩
    simp only [String.toList_append, List.getLast?_append]
    simp
  · decide

theorem of_mem_handlerLines {added kept : List String} {line : String}
    (membership : line ∈ handlerLines added kept) :
    line ∈ Template.openingLines ++ Template.middleLines ++ Template.closingLines ∨
      ∃ name ∈ added ++ kept, line = rowLine name ∨ line ∈ classLines name := by
  rw [Template.middleLines_eq]
  simp only [handlerLines, linesBeforeRegion, List.mem_append, List.mem_map, List.mem_flatMap]
    at membership ⊢
  rcases membership with
    ((((((fixed | ⟨name, among, rfl⟩) | fixed) | fixed) | ⟨name, among, inside⟩) |
    fixed) | ⟨name, among, inside⟩) | fixed
  · exact .inl (.inl (.inl fixed))
  · exact .inr ⟨name, among, .inl rfl⟩
  · exact .inl (.inl (.inr (.inl (.inl fixed))))
  · exact .inl (.inl (.inr (.inl (.inr fixed))))
  · exact .inr ⟨name, .inl among, .inr inside⟩
  · exact .inl (.inl (.inr (.inr fixed)))
  · exact .inr ⟨name, .inr among, .inr inside⟩
  · exact .inl (.inr fixed)

/-- The lines of a handler are found again in its text. -/
theorem lines_handlerText {added kept : List String}
    (compact : ∀ name ∈ added ++ kept, Text.IsCompact name) :
    Text.lines (handlerText added kept) = handlerLines added kept := by
  rw [handlerText_eq_unlines]
  apply Text.lines_unlines
  intro line membership
  rcases of_mem_handlerLines membership with fixed | ⟨name, among, rfl | inside⟩
  · exact isLine_of_mem_template line fixed
  · exact isLine_rowLine (compact name among)
  · exact isLine_of_mem_classLines (compact name among) inside

theorem renderArtifact_ofNames (names : List String) :
    renderArtifact (Fragments.ofNames names) = handlerText [] names := by
  have tab : Indent.tab.text 1 = "\t" := rfl
  have rows : (names.map fun name => Indent.tab.text 1 ++ (Fragment.entry name).text) =
      names.map rowLine :=
    List.map_congr_left fun name _ => (rowLine_eq name).symm
  have classes : (names.map fun name => Indent.tab.text 0 ++ (Fragment.context name).text) =
      names.map fun name => (Fragment.context name).text := by
    simp
  simp only [renderArtifact, Fragments.ofNames, CodeBuilder.new, CodeBuilder.raw,
    CodeBuilder.deeper, CodeBuilder.shallower, CodeBuilder.text_lines, CodeBuilder.indent_lines,
    CodeBuilder.level_lines, List.map_map, Function.comp_def, rows, classes, handlerText,
    Template.middle_eq, List.nil_append, List.map_nil, Text.unlines_nil, String.append_assoc,
    String.empty_append, Nat.add_sub_cancel]

end Registrar
