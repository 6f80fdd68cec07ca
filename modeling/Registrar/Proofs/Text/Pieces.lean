import Registrar.Proofs.Text.Lines

/-!
# Pieces of a text

A text is the sequence of its lines with their line feeds. Each of these pieces is described by its
place in the text, without the function that cuts the text.
-/

set_option autoImplicit false

namespace Registrar.Text

/-- A line of a text with its line feed, which the last line may lack, between what stands before
and behind it. -/
structure IsPiece (text before piece behind : List Char) : Prop where
  whole : text = before ++ piece ++ behind
  begins : before = [] ∨ before.getLast? = some '\n'
  ends : behind = [] ∨ piece.getLast? = some '\n'
  oneLine : '\n' ∉ piece.dropLast
  nonempty : piece ≠ []

theorem pieces_append {front : List Char} (rest : List Char)
    (ends : front = [] ∨ front.getLast? = some '\n') :
    pieces (front ++ rest) = pieces front ++ pieces rest := by
  rcases ends with rfl | ends
  · rfl
  · obtain ⟨line, rfl⟩ := List.getLast?_eq_some_iff.1 ends
    clear ends
    induction line with
    | nil => simp [pieces]
    | cons c line inductionHypothesis =>
        by_cases feed : c = '\n'
        · simpa [pieces, feed] using inductionHypothesis
        · simp only [List.cons_append, pieces, if_neg feed, inductionHypothesis]
          -- a text that ends with a line feed has a first piece
          cases cut : pieces (line ++ ['\n']) with
          | nil =>
              have empty := flatten_pieces (line ++ ['\n'])
              simp [cut] at empty
          | cons piece others => rfl

theorem pieces_of_single {piece : List Char} (oneLine : '\n' ∉ piece.dropLast)
    (nonempty : piece ≠ []) : pieces piece = [piece] := by
  obtain ⟨line, last, rfl⟩ := (List.eq_nil_or_concat piece).resolve_left nonempty
  rw [List.concat_eq_append] at *
  rw [List.dropLast_concat] at oneLine
  by_cases feed : last = '\n'
  · rw [feed, pieces_line [] oneLine]
    rfl
  · exact pieces_of_oneLine (by simp [oneLine, Ne.symm feed]) (by simp)

namespace IsPiece

variable {text before piece behind : List Char}

theorem pieces_eq (isPiece : IsPiece text before piece behind) :
    pieces text = pieces before ++ piece :: pieces behind := by
  have single := pieces_of_single isPiece.oneLine isPiece.nonempty
  have later : pieces (piece ++ behind) = piece :: pieces behind := by
    rcases isPiece.ends with rfl | ends
    · rw [List.append_nil, single]
      rfl
    · rw [pieces_append _ (.inr ends), single, List.singleton_append]
  rw [isPiece.whole, List.append_assoc, pieces_append _ isPiece.begins, later]

theorem of_pieces_eq_cons {others : List (List Char)} (cut : pieces text = piece :: others) :
    IsPiece text [] piece others.flatten ∧ pieces others.flatten = others := by
  have whole : text = piece ++ others.flatten := by
    rw [← flatten_pieces text, cut, List.flatten_cons]
  by_cases feed : '\n' ∈ text
  · obtain ⟨line, rest, rfl, oneLine⟩ := List.eq_append_cons_of_mem feed
    rw [pieces_line rest oneLine] at cut
    obtain ⟨rfl, rfl⟩ := List.cons.inj cut
    rw [flatten_pieces]
    exact ⟨⟨by simp, .inl rfl, .inr (by simp), by simpa using oneLine, by simp⟩, rfl⟩
  · have someCharacter : text ≠ [] := fun empty => by simp [empty, pieces] at cut
    rw [pieces_of_oneLine feed someCharacter] at cut
    obtain ⟨rfl, rfl⟩ := List.cons.inj cut
    exact ⟨⟨by simp, .inl rfl, .inl rfl, fun inside => feed (List.dropLast_subset _ inside),
      someCharacter⟩, rfl⟩

theorem of_pieces_eq {front back : List (List Char)} (cut : pieces text = front ++ piece :: back) :
    IsPiece text front.flatten piece back.flatten ∧ pieces front.flatten = front := by
  induction front generalizing text with
  | nil => exact ⟨(of_pieces_eq_cons cut).1, rfl⟩
  | cons first front inductionHypothesis =>
      obtain ⟨isFirst, rest⟩ := of_pieces_eq_cons cut
      obtain ⟨later, earlier⟩ := inductionHypothesis rest
      have feed : first.getLast? = some '\n' := by
        refine isFirst.ends.resolve_left fun empty => later.nonempty ?_
        rw [List.flatten_eq_nil_iff] at empty
        exact empty _ (by simp)
      have whole : text = first ++ front.flatten ++ piece ++ back.flatten := by
        rw [isFirst.whole, List.nil_append, later.whole]
        simp
      refine ⟨⟨by simp [whole], .inr ?_, later.ends, later.oneLine, later.nonempty⟩, ?_⟩
      · rcases later.begins with empty | ends
        · simp [empty, feed]
        · simp [List.getLast?_append, ends]
      · rw [List.flatten_cons, pieces_append _ (.inr feed), earlier,
          pieces_of_single isFirst.oneLine isFirst.nonempty, List.singleton_append]

theorem eq_nil_of_feed (isPiece : IsPiece text before piece behind) {front back : List Char}
    (shape : piece = front ++ '\n' :: back) : back = [] := by
  have oneLine := isPiece.oneLine
  cases back with
  | nil => rfl
  | cons c back => simp [shape] at oneLine

end IsPiece

theorem mem_pieces_iff {text piece : List Char} :
    piece ∈ pieces text ↔ ∃ before behind, IsPiece text before piece behind := by
  constructor
  · intro membership
    obtain ⟨front, back, cut⟩ := List.append_of_mem membership
    exact ⟨_, _, (IsPiece.of_pieces_eq cut).1⟩
  · rintro ⟨before, behind, isPiece⟩
    simp [isPiece.pieces_eq]

end Registrar.Text
