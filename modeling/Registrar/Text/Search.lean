/-!
Searching in lists of characters: whether one list occurs inside another, and the part that
follows the last occurrence of a separator.
-/

set_option autoImplicit false

namespace Registrar.Text

/-- Whether `needle` occurs in the text as consecutive characters. The empty list occurs in every
text. -/
def occursIn (needle : List Char) : List Char → Bool
  | [] => needle.isEmpty
  | c :: rest => needle.isPrefixOf (c :: rest) || occursIn needle rest

theorem occursIn_iff (needle text : List Char) :
    occursIn needle text = true ↔ needle <:+: text := by
  induction text with
  | nil => simp [occursIn, List.isEmpty_iff]
  | cons c rest ih => simp [occursIn, ih, List.infix_cons_iff, List.isPrefixOf_iff_prefix]

theorem infix_append_cons {separator : Char} {first second word rest : List Char}
    (firstOneWord : separator ∉ first) (oneWord : separator ∉ word)
    (found : first ++ separator :: second <:+: word ++ separator :: rest) :
    first <:+ word ∨ first ++ separator :: second <:+: rest := by
  obtain ⟨front, back, equality⟩ := found
  have aligned : (front ++ first) ++ separator :: (second ++ back) = word ++ separator :: rest := by
    simpa using equality
  rcases List.append_eq_append_iff.1 aligned with ⟨gap, wordShape, restShape⟩ | ⟨gap, shape, behind⟩
  · cases gap with
    | nil =>
        left
        rw [List.append_nil] at wordShape
        exact ⟨front, wordShape.symm⟩
    | cons c gap =>
        obtain ⟨rfl, -⟩ := List.cons.inj restShape
        exact absurd (by simp [wordShape]) oneWord
  · cases gap with
    | nil =>
        left
        rw [List.append_nil] at shape
        exact ⟨front, shape⟩
    | cons c gap =>
        right
        obtain ⟨rfl, restShape⟩ := List.cons.inj behind
        rcases List.append_eq_append_iff.1 shape with
          ⟨inner, -, firstShape⟩ | ⟨inner, -, gapShape⟩
        · exact absurd (by simp [firstShape]) firstOneWord
        · cases inner with
          | nil =>
              rw [List.nil_append] at gapShape
              exact absurd (gapShape ▸ List.mem_cons_self) firstOneWord
          | cons d inner =>
              obtain ⟨-, gapShape⟩ := List.cons.inj gapShape
              exact ⟨inner, back, by simp [restShape, gapShape]⟩

/-- What follows the last occurrence of `separator`, or the whole text when there is none. -/
def afterLast (separator : List Char) : List Char → List Char
  | [] => []
  | c :: rest =>
      if occursIn separator rest then afterLast separator rest
      else if separator.isPrefixOf (c :: rest) then (c :: rest).drop separator.length
      else c :: rest

@[simp]
theorem afterLast_nil (separator : List Char) : afterLast separator [] = [] := rfl

theorem afterLast_of_not_occursIn {separator text : List Char}
    (absent : occursIn separator text = false) : afterLast separator text = text := by
  cases text with
  | nil => rfl
  | cons c rest =>
      simp only [occursIn, Bool.or_eq_false_iff] at absent
      simp [afterLast, absent.1, absent.2]

end Registrar.Text
