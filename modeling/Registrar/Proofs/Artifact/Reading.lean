import Registrar.Proofs.Artifact.Layout

/-!
# Reading a handler back

The names of a handler are read from its lines in two ways: from the rows of the lookup table, and
from the two lines that declare a context class. Either reading accepts exactly the lines of the
form that it looks for, whatever the name in them, and finds exactly the registered names.
-/

set_option autoImplicit false

namespace Registrar

/-- The name in a line that has the form of a row. -/
def rowName? (line : String) : Option String :=
  let name := String.ofList ((line.toList.drop 18).take ((line.toList.length - 59) / 3))
  if line = rowLine name then some name else none

def rowNames (lines : List String) : List String := lines.filterMap rowName?

def classHead (name : String) : String := "    [JsonSerializable(typeof(" ++ name ++ "))]"

def classBody (name : String) : String :=
  "    public partial class " ++ name ++ "Context : JsonSerializerContext \x7b \x7d"

/-- The name in two lines that have the form of a context class with its attribute. -/
def className? (head body : String) : Option String :=
  let name := String.ofList ((head.toList.drop 29).take (head.toList.length - 32))
  if head = classHead name ∧ body = classBody name then some name else none

def classNames : List String → List String
  | head :: body :: rest => (className? head body).toList ++ classNames (body :: rest)
  | _ => []

theorem toList_classHead (name : String) : (classHead name).toList =
    "    [JsonSerializable(typeof(".toList ++ name.toList ++ "))]".toList := by
  show ("    [JsonSerializable(typeof(" ++ name ++ "))]").toList = _
  rw [String.toList_append, String.toList_append]

theorem toList_classBody (name : String) : (classBody name).toList =
    "    public partial class ".toList ++ name.toList ++
      "Context : JsonSerializerContext \x7b \x7d".toList := by
  show ("    public partial class " ++ name ++
    "Context : JsonSerializerContext \x7b \x7d").toList = _
  rw [String.toList_append, String.toList_append]

theorem rowName?_rowLine (name : String) : rowName? (rowLine name) = some name := by
  have length : (rowLine name).toList.length = 59 + 3 * name.toList.length := by
    simp only [rowLine, String.toList_append]
    repeat rw [String.toList_ofList]
    simp only [List.length_append, List.length_cons, List.length_nil]
    omega
  have width : ((rowLine name).toList.length - 59) / 3 = name.toList.length := by omega
  have behind : (rowLine name).toList.drop 18 = name.toList ++
      ("), new " ++ name ++ "Context().GetTypeInfo(typeof(" ++ name ++ ")) \x7d,").toList := by
    simp only [rowLine, String.toList_append, List.append_assoc]
    rw [← List.append_assoc]
    exact List.drop_left' (by simp)
  simp only [rowName?, width, behind, List.take_left, String.ofList_toList, if_true]

theorem rowName?_eq_some_iff {line name : String} :
    rowName? line = some name ↔ line = rowLine name := by
  constructor
  · intro found
    simp only [rowName?] at found
    split at found
    · cases found
      assumption
    · cases found
  · rintro rfl
    exact rowName?_rowLine name

theorem className?_class (name : String) :
    className? (classHead name) (classBody name) = some name := by
  have length : (classHead name).toList.length = 32 + name.toList.length := by
    rw [toList_classHead]
    repeat rw [String.toList_ofList]
    simp only [List.length_append, List.length_cons, List.length_nil]
    omega
  have width : (classHead name).toList.length - 32 = name.toList.length := by omega
  have behind : (classHead name).toList.drop 29 = name.toList ++ "))]".toList := by
    rw [toList_classHead, List.append_assoc]
    exact List.drop_left' (by simp)
  simp only [className?, width, behind, List.take_left, String.ofList_toList, and_self, if_true]

theorem className?_eq_some_iff {head body name : String} :
    className? head body = some name ↔ head = classHead name ∧ body = classBody name := by
  constructor
  · intro found
    simp only [className?] at found
    split at found
    · cases found
      assumption
    · cases found
  · rintro ⟨rfl, rfl⟩
    exact className?_class name

theorem rowName?_eq_none {line : String} (noTab : line.toList.head? ≠ some '\t') :
    rowName? line = none := by
  rcases found : rowName? line with _ | name
  · rfl
  · rw [rowName?_eq_some_iff] at found
    subst found
    refine absurd ?_ noTab
    rw [rowLine_eq, String.toList_append, String.toList_ofList]
    rfl

/-- The characters that the attribute of a context class begins with. -/
def classStart : List Char :=
  [' ', ' ', ' ', ' ', '[', 'J', 's', 'o', 'n', 'S', 'e', 'r', 'i', 'a', 'l', 'i', 'z', 'a', 'b',
    'l', 'e', '(']

theorem classHead_begins (name : String) : classStart <+: (classHead name).toList := by
  refine ⟨['t', 'y', 'p', 'e', 'o', 'f', '('] ++ name.toList ++ "))]".toList, ?_⟩
  rw [toList_classHead, ← List.append_assoc, ← List.append_assoc, String.toList_ofList]
  rfl

theorem className?_eq_none {head : String} (body : String)
    (notHead : ¬ classStart <+: head.toList) : className? head body = none := by
  rcases found : className? head body with _ | name
  · rfl
  · rw [className?_eq_some_iff] at found
    obtain ⟨rfl, -⟩ := found
    exact absurd (classHead_begins name) notHead

theorem classNames_cons {line : String} (rest : List String)
    (notHead : ¬ classStart <+: line.toList) : classNames (line :: rest) = classNames rest := by
  cases rest with
  | nil => rfl
  | cons next rest => rw [classNames, className?_eq_none next notHead, Option.toList_none,
      List.nil_append]

theorem classNames_append {before : List String} (rest : List String)
    (notHead : ∀ line ∈ before, ¬ classStart <+: line.toList) :
    classNames (before ++ rest) = classNames rest := by
  induction before with
  | nil => rfl
  | cons line before inductionHypothesis =>
      rw [List.cons_append, classNames_cons _ (notHead line List.mem_cons_self)]
      exact inductionHypothesis fun other membership =>
        notHead other (List.mem_cons_of_mem _ membership)

theorem rowNames_eq_nil {lines : List String}
    (noTab : ∀ line ∈ lines, line.toList.head? ≠ some '\t') : rowNames lines = [] := by
  rw [rowNames, List.filterMap_eq_nil_iff]
  exact fun line membership => rowName?_eq_none (noTab line membership)

theorem rowNames_append (first second : List String) :
    rowNames (first ++ second) = rowNames first ++ rowNames second :=
  List.filterMap_append

theorem rowNames_rows (names : List String) : rowNames (names.map rowLine) = names := by
  have reads : rowName? ∘ rowLine = some := funext rowName?_rowLine
  rw [rowNames, List.filterMap_map, reads, List.filterMap_some]

theorem template_plain : ∀ line ∈
    Template.openingLines ++ Template.middleLines ++ Template.closingLines,
    line.toList.head? ≠ some '\t' ∧ ¬ classStart <+: line.toList := by
  have checked : (Template.openingLines ++ Template.middleLines ++ Template.closingLines).all
      (fun line =>
        line.toList.head? != some '\t' && !classStart.isPrefixOf line.toList) = true := by
    simp only [Template.openingLines, Template.middleLines, Template.closingLines, classStart,
      List.cons_append, List.nil_append, List.all_cons, List.all_nil]
    repeat rw [String.toList_ofList]
    rfl
  intro line membership
  have plain := List.all_eq_true.1 checked line membership
  simpa [← List.isPrefixOf_iff_prefix] using plain

theorem rowNames_classLines (names : List String) : rowNames (names.flatMap classLines) = [] := by
  apply rowNames_eq_nil
  intro line membership
  obtain ⟨name, -, inside⟩ := List.mem_flatMap.1 membership
  simp only [classLines, List.mem_cons, List.not_mem_nil, or_false] at inside
  rcases inside with rfl | rfl | rfl | rfl
  · decide
  · rw [String.toList_append, String.toList_append, String.toList_ofList]
    simp
  · rw [String.toList_append, String.toList_append, String.toList_ofList]
    simp
  · decide

theorem classNames_rows (names rest : List String) :
    classNames (names.map rowLine ++ rest) = classNames rest := by
  apply classNames_append
  intro line membership
  obtain ⟨name, -, rfl⟩ := List.mem_map.1 membership
  rw [rowLine_eq, String.toList_append, String.toList_ofList, ← List.isPrefixOf_iff_prefix]
  simp [classStart]

theorem classNames_classLines (names rest : List String) :
    classNames (names.flatMap classLines ++ rest) = names ++ classNames rest := by
  have blank : ¬ classStart <+: "".toList := by decide
  have body : ∀ name, ¬ classStart <+: (classBody name).toList := by
    intro name
    rw [toList_classBody, String.toList_ofList, ← List.isPrefixOf_iff_prefix]
    simp [classStart]
  induction names with
  | nil => rfl
  | cons name names inductionHypothesis =>
      have lines : classLines name = ["", classHead name, classBody name, ""] := rfl
      rw [List.flatMap_cons, lines, List.append_assoc, List.cons_append, classNames_cons _ blank,
        List.cons_append, List.cons_append, classNames, className?_class,
        classNames_cons _ (body name), List.cons_append, classNames_cons _ blank, List.nil_append,
        inductionHypothesis]
      rfl

/-- The rows of a handler give its names, those added last in front. -/
theorem rowNames_handlerLines (added kept : List String) :
    rowNames (handlerLines added kept) = added ++ kept := by
  have template := fun line membership => (template_plain line membership).1
  have opening : rowNames Template.openingLines = [] :=
    rowNames_eq_nil fun line membership => template line (by simp [membership])
  have middle : rowNames Template.middleLines = [] :=
    rowNames_eq_nil fun line membership => template line (by simp [membership])
  have closing : rowNames Template.closingLines = [] :=
    rowNames_eq_nil fun line membership => template line (by simp [membership])
  simp only [Template.middleLines_eq, rowNames_append, List.append_eq_nil_iff] at middle
  simp only [handlerLines, linesBeforeRegion, rowNames_append, rowNames_rows, rowNames_classLines,
    opening, middle, closing, List.nil_append, List.append_nil]

/-- The context classes of a handler give its names, those added last in front. -/
theorem classNames_handlerLines (added kept : List String) :
    classNames (handlerLines added kept) = added ++ kept := by
  have template := fun line membership => (template_plain line membership).2
  rw [Template.middleLines_eq] at template
  have opening : ∀ rest, classNames (Template.openingLines ++ rest) = classNames rest :=
    fun rest => classNames_append rest fun line membership => template line (by simp [membership])
  have methods : ∀ rest, classNames (Template.methodLines ++ rest) = classNames rest :=
    fun rest => classNames_append rest fun line membership => template line (by simp [membership])
  have anchor : ∀ rest, classNames (Anchor.context.marker :: rest) = classNames rest :=
    fun rest => classNames_cons rest (template _ (by simp))
  have region : ∀ rest, classNames (Template.regionLines.drop 1 ++ rest) = classNames rest :=
    fun rest => classNames_append rest fun line membership =>
      template line (by simp only [List.mem_append, membership, or_true, true_or])
  have closing : classNames Template.closingLines = [] := by
    have behind : ∀ line ∈ Template.closingLines, ¬ classStart <+: line.toList :=
      fun line membership => template line (by simp [membership])
    rw [← List.append_nil Template.closingLines, classNames_append [] behind]
    rfl
  simp only [handlerLines, linesBeforeRegion, List.append_assoc, opening, classNames_rows, methods,
    List.cons_append, List.nil_append, anchor, region, classNames_classLines, closing,
    List.append_nil]

end Registrar
