/-!
Lines of a text. A line ends with a line feed, before which one carriage return does not belong to
the line; the last line may lack its line feed.
-/

set_option autoImplicit false

namespace Registrar.Text

/-- Cuts a text behind each line feed. -/
def pieces : List Char → List (List Char)
  | [] => []
  | c :: rest =>
      if c = '\n' then [c] :: pieces rest
      else
        match pieces rest with
        | [] => [[c]]
        | piece :: others => (c :: piece) :: others

theorem flatten_pieces (text : List Char) : (pieces text).flatten = text := by
  induction text with
  | nil => rfl
  | cons c rest ih =>
      simp only [pieces]
      split
      · simp [ih]
      · split <;> rename_i h <;> simp_all

def lineOfPiece (piece : List Char) : List Char :=
  match piece.reverse with
  | '\n' :: '\r' :: line => line.reverse
  | '\n' :: line => line.reverse
  | _ => piece

def lines (text : String) : List String :=
  (pieces text.toList).map fun piece => String.ofList (lineOfPiece piece)

def unlines (lines : List String) : String :=
  String.join (lines.map (· ++ "\n"))

@[simp]
theorem unlines_nil : unlines [] = "" := rfl

end Registrar.Text
