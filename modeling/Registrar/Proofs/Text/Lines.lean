import Registrar.Text.Lines
import Registrar.Text.Search

/-!
# Lines and their text

A text that is put together from lines is cut into the same lines again, provided that no line
holds a line feed or ends with a carriage return. A carriage return at the end of a line then stands
in front of a line feed, belongs to the line end with it, and is lost.
-/

set_option autoImplicit false

namespace Registrar.Text

/-- What a line of a text can be without losing a character when the text is cut into lines. -/
def IsLine (line : String) : Prop :=
  '\n' ∉ line.toList ∧ line.toList.getLast? ≠ some '\r'

instance (line : String) : Decidable (IsLine line) :=
  inferInstanceAs (Decidable (_ ∧ _))

@[simp]
theorem unlines_cons (line : String) (rest : List String) :
    unlines (line :: rest) = line ++ "\n" ++ unlines rest := by
  simp [unlines]

@[simp]
theorem unlines_append (first second : List String) :
    unlines (first ++ second) = unlines first ++ unlines second := by
  simp [unlines]

theorem toList_unlines (lines : List String) :
    (unlines lines).toList = lines.flatMap fun line => line.toList ++ ['\n'] := by
  simp [unlines, String.toList_join, List.flatMap_map]

theorem pieces_line {line : List Char} (rest : List Char) (oneLine : '\n' ∉ line) :
    pieces (line ++ '\n' :: rest) = (line ++ ['\n']) :: pieces rest := by
  induction line with
  | nil => simp [pieces]
  | cons c line inductionHypothesis =>
      have notFeed : c ≠ '\n' := fun equality => oneLine (by simp [equality])
      have restOneLine : '\n' ∉ line := fun membership =>
        oneLine (List.mem_cons_of_mem _ membership)
      simp [pieces, notFeed, inductionHypothesis restOneLine]

def dropReturn (line : String) : String :=
  if line.toList.getLast? = some '\r' then String.ofList line.toList.dropLast else line

theorem dropReturn_of_getLast?_ne {line : String} (noReturn : line.toList.getLast? ≠ some '\r') :
    dropReturn line = line := if_neg noReturn

theorem length_dropReturn_lt {line : String} (ends : line.toList.getLast? = some '\r') :
    (dropReturn line).length < line.length := by
  obtain ⟨front, shape⟩ := List.getLast?_eq_some_iff.1 ends
  rw [dropReturn, if_pos ends, ← String.length_toList, ← String.length_toList, String.toList_ofList,
    shape]
  simp

theorem dropReturn_eq_self_iff {line : String} :
    dropReturn line = line ↔ line.toList.getLast? ≠ some '\r' := by
  refine ⟨fun same ends => ?_, dropReturn_of_getLast?_ne⟩
  have shorter := length_dropReturn_lt ends
  rw [same] at shorter
  exact Nat.lt_irrefl _ shorter

theorem ofList_lineOfPiece_feed (line : String) :
    String.ofList (lineOfPiece (line.toList ++ ['\n'])) = dropReturn line := by
  rcases List.eq_nil_or_concat line.toList with empty | ⟨front, last, shape⟩
  · rw [dropReturn, empty, if_neg (by simp), ← String.ofList_toList (s := line), empty]
    rfl
  · rw [List.concat_eq_append] at shape
    rw [dropReturn, shape]
    by_cases ends : last = '\r'
    · simp [lineOfPiece, ends]
    · rw [← String.ofList_toList (s := line), shape]
      simp [lineOfPiece, ends]

theorem lines_feed {line : String} (oneLine : '\n' ∉ line.toList) (rest : String) :
    lines (line ++ "\n" ++ rest) = dropReturn line :: lines rest := by
  have text : (line ++ "\n" ++ rest).toList = line.toList ++ '\n' :: rest.toList := by
    simp
  rw [lines, text, pieces_line _ oneLine, List.map_cons, ofList_lineOfPiece_feed, lines]

/-- Lines that are put together are found again, but for the carriage returns at their ends. -/
theorem lines_unlines_eq_map {lines : List String} (oneLine : ∀ line ∈ lines, '\n' ∉ line.toList) :
    Text.lines (unlines lines) = lines.map dropReturn := by
  induction lines with
  | nil => rfl
  | cons line rest inductionHypothesis =>
      obtain ⟨first, others⟩ := List.forall_mem_cons.1 oneLine
      rw [unlines_cons, lines_feed first, inductionHypothesis others, List.map_cons]

theorem lines_unlines {lines : List String} (wellFormed : ∀ line ∈ lines, IsLine line) :
    Text.lines (unlines lines) = lines := by
  calc Text.lines (unlines lines) = lines.map dropReturn :=
        lines_unlines_eq_map fun line membership => (wellFormed line membership).1
    _ = lines.map id := List.map_congr_left fun line membership =>
        dropReturn_of_getLast?_ne (wellFormed line membership).2
    _ = lines := List.map_id _

/-- A text is a last line without a line feed, or a line with its line feed in front of a text. -/
@[elab_as_elim]
theorem lines_induction {motive : String → Prop}
    (last : ∀ text, '\n' ∉ text.toList → motive text)
    (feed : ∀ line rest, '\n' ∉ line.toList → motive rest → motive (line ++ "\n" ++ rest))
    (text : String) : motive text := by
  by_cases oneLine : '\n' ∈ text.toList
  · obtain ⟨front, back, shape, absent⟩ := List.eq_append_cons_of_mem oneLine
    have parts : text = String.ofList front ++ "\n" ++ String.ofList back := by
      apply String.toList_injective
      simp [shape]
    have shorter : back.length < text.length := by
      rw [← String.length_toList, shape]
      simp
      omega
    rw [parts]
    exact feed _ _ (by simpa using absent) (lines_induction last feed (String.ofList back))
  · exact last text oneLine
termination_by text.length

theorem pieces_of_oneLine {text : List Char} (oneLine : '\n' ∉ text) (nonempty : text ≠ []) :
    pieces text = [text] := by
  induction text with
  | nil => exact absurd rfl nonempty
  | cons c rest inductionHypothesis =>
      obtain ⟨notFeed, restOneLine⟩ := not_or.1 (mt List.mem_cons.2 oneLine)
      rw [pieces, if_neg (Ne.symm notFeed)]
      cases rest with
      | nil => rfl
      | cons d rest => rw [inductionHypothesis restOneLine (by simp)]

theorem lines_of_oneLine {text : String} (oneLine : '\n' ∉ text.toList) (nonempty : text ≠ "") :
    lines text = [text] := by
  have someCharacter : text.toList ≠ [] := by simpa using nonempty
  have whole : lineOfPiece text.toList = text.toList := by
    rw [lineOfPiece]
    split
    · rename_i shape
      exact absurd (List.mem_reverse.1 (shape ▸ List.mem_cons_self)) oneLine
    · rename_i shape
      exact absurd (List.mem_reverse.1 (shape ▸ List.mem_cons_self)) oneLine
    · rfl
  rw [lines, pieces_of_oneLine oneLine someCharacter, List.map_singleton, whole,
    String.ofList_toList]

theorem mem_of_mem_dropReturn {line : String} {c : Char}
    (membership : c ∈ (dropReturn line).toList) :
    c ∈ line.toList := by
  rw [dropReturn] at membership
  split at membership
  · rw [String.toList_ofList] at membership
    exact List.dropLast_subset _ membership
  · exact membership

theorem feed_not_mem_of_mem_lines {text line : String} (membership : line ∈ lines text) :
    '\n' ∉ line.toList := by
  induction text using lines_induction with
  | last text oneLine =>
      by_cases empty : text = ""
      · rw [empty] at membership
        cases membership
      · rw [lines_of_oneLine oneLine empty] at membership
        rwa [List.mem_singleton.1 membership]
  | feed first rest oneLine inductionHypothesis =>
      rw [lines_feed oneLine] at membership
      rcases List.mem_cons.1 membership with rfl | later
      · exact fun inside => oneLine (mem_of_mem_dropReturn inside)
      · exact inductionHypothesis later

theorem lines_unlines_lines (text : String) :
    lines (unlines (lines text)) = (lines text).map dropReturn :=
  lines_unlines_eq_map fun _ => feed_not_mem_of_mem_lines

/-- A carriage return stands at the end of the text, or in front of another one that belongs to the
end of a line. -/
def HasStrayReturn (text : String) : Prop :=
  ['\r', '\r', '\n'] <:+: text.toList ∨ ['\r'] <:+ text.toList

instance (text : String) : Decidable (HasStrayReturn text) :=
  inferInstanceAs (Decidable (_ ∨ _))

theorem getLast?_dropReturn_iff {line : String} :
    (dropReturn line).toList.getLast? = some '\r' ↔ ['\r', '\r'] <:+ line.toList := by
  rw [dropReturn]
  split
  · rename_i ends
    obtain ⟨front, shape⟩ := List.getLast?_eq_some_iff.1 ends
    rw [String.toList_ofList, shape, List.dropLast_concat,
      ← List.singleton_suffix_iff_getLast?_eq_some]
    constructor
    · rintro ⟨before, rfl⟩
      exact ⟨before, by simp⟩
    · rintro ⟨before, whole⟩
      have parts : before ++ ['\r'] ++ ['\r'] = front ++ ['\r'] := by simpa using whole
      exact ⟨before, List.append_cancel_right parts⟩
  · rename_i noReturn
    refine ⟨fun ends => absurd ends noReturn, ?_⟩
    rintro ⟨front, shape⟩
    rw [← shape] at noReturn
    simp at noReturn

theorem hasStrayReturn_feed {line : String} (oneLine : '\n' ∉ line.toList) (rest : String) :
    HasStrayReturn (line ++ "\n" ++ rest) ↔
      ['\r', '\r'] <:+ line.toList ∨ HasStrayReturn rest := by
  have text : (line ++ "\n" ++ rest).toList = line.toList ++ '\n' :: rest.toList := by
    simp
  have last : ['\r'] <:+ line.toList ++ '\n' :: rest.toList ↔ ['\r'] <:+ rest.toList := by
    rw [List.singleton_suffix_iff_getLast?_eq_some, List.singleton_suffix_iff_getLast?_eq_some]
    cases rest.toList with
    | nil => simp
    | cons c more => simp [List.getLast?_append, List.getLast?_cons_cons]
  have inside : ['\r', '\r', '\n'] <:+: line.toList ++ '\n' :: rest.toList ↔
      ['\r', '\r'] <:+ line.toList ∨ ['\r', '\r', '\n'] <:+: rest.toList := by
    constructor
    · have noFeed : '\n' ∉ ['\r', '\r'] := by decide
      exact infix_append_cons noFeed oneLine
    · rintro (⟨front, shape⟩ | ⟨front, back, shape⟩)
      · exact ⟨front, rest.toList, by simp [← shape]⟩
      · exact ⟨line.toList ++ '\n' :: front, back, by simp [← shape]⟩
  rw [HasStrayReturn, HasStrayReturn, text, last, inside, or_assoc]

/-- A text has a stray carriage return if one of its lines ends with a carriage return. -/
theorem hasStrayReturn_iff {text : String} :
    HasStrayReturn text ↔ ∃ line ∈ lines text, line.toList.getLast? = some '\r' := by
  induction text using lines_induction with
  | last text oneLine =>
      have noFeed : ¬ ['\r', '\r', '\n'] <:+: text.toList := fun found =>
        oneLine (found.subset (by simp))
      rw [HasStrayReturn, or_iff_right noFeed, List.singleton_suffix_iff_getLast?_eq_some]
      by_cases empty : text = ""
      · simp [empty, lines, pieces]
      · simp [lines_of_oneLine oneLine empty]
  | feed line rest oneLine inductionHypothesis =>
      rw [hasStrayReturn_feed oneLine, lines_feed oneLine, inductionHypothesis,
        ← getLast?_dropReturn_iff]
      simp

/-- Lines that are put together are found again in full just if none of them ends with a carriage
return. -/
theorem map_dropReturn_lines_iff {text : String} :
    (lines text).map dropReturn = lines text ↔ ¬ HasStrayReturn text := by
  have same : (lines text).map dropReturn = (lines text).map id ↔
      ∀ line ∈ lines text, dropReturn line = line := List.map_inj_left
  rw [List.map_id] at same
  simp only [same, hasStrayReturn_iff, dropReturn_eq_self_iff, not_exists, not_and]

theorem pieces_unlines {lines : List String} (oneLine : ∀ line ∈ lines, '\n' ∉ line.toList) :
    pieces (unlines lines).toList = lines.map fun line => line.toList ++ ['\n'] := by
  induction lines with
  | nil => rfl
  | cons line rest inductionHypothesis =>
      obtain ⟨first, others⟩ := List.forall_mem_cons.1 oneLine
      have text : (unlines (line :: rest)).toList =
          line.toList ++ '\n' :: (unlines rest).toList := by
        simp
      rw [text, pieces_line _ first, inductionHypothesis others, List.map_cons]

theorem unlines_inj {first second : List String} (firstLines : ∀ line ∈ first, '\n' ∉ line.toList)
    (secondLines : ∀ line ∈ second, '\n' ∉ line.toList) :
    unlines first = unlines second ↔ first = second := by
  refine ⟨fun same => ?_, congrArg unlines⟩
  have pieces := congrArg (fun text => Text.pieces text.toList) same
  simp only [pieces_unlines firstLines, pieces_unlines secondLines] at pieces
  refine (List.map_inj_right fun line other equal => ?_).1 pieces
  exact String.toList_injective (List.append_cancel_right equal)

end Registrar.Text
