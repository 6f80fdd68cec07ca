import Registrar.FileName
import Registrar.Text.Search

/-!
Paths as they are written. A path is its text; components are separated by slashes, empty
components and single dots inside a path say nothing, and a path that begins with a slash starts
at the root.
-/

set_option autoImplicit false

namespace Registrar

/-- A path as written in settings, on the command line or in messages. -/
structure Path where
  text : String
deriving DecidableEq, Inhabited

namespace Path

instance : ToString Path := ⟨Path.text⟩

def splitSlash : List Char → List (List Char)
  | [] => [[]]
  | c :: rest =>
      if c = '/' then [] :: splitSlash rest
      else
        match splitSlash rest with
        | [] => [[c]]
        | part :: others => (c :: part) :: others

def steps (path : Path) : List FileName :=
  ((splitSlash path.text.toList).filter fun part => !part.isEmpty).map fun part =>
    FileName.ofText (String.ofList part)

def isAbsolute (path : Path) : Bool := path.text.toList.head? == some '/'

def endsWithSlash (path : Path) : Bool := path.text.toList.getLast? == some '/'

/-- A reversed path text without slashes and single dots at its end. The first character of the
path is kept. -/
def dropEnding : List Char → List Char
  | '/' :: c :: rest => dropEnding (c :: rest)
  | '.' :: '/' :: rest => dropEnding ('/' :: rest)
  | text => text

def cutLast (path : Path) : List Char × List Char :=
  let text := dropEnding path.text.toList.reverse
  (text.dropWhile (· != '/'), (text.takeWhile (· != '/')).reverse)

def parent? (path : Path) : Option Path :=
  match path.cutLast with
  | (_, []) => none
  | (before, _) => some ⟨String.ofList (dropEnding before).reverse⟩

theorem length_dropEnding_le (text : List Char) : (dropEnding text).length ≤ text.length := by
  fun_induction dropEnding text with
  | case1 c rest ih => simp at ih ⊢; omega
  | case2 rest ih => simp at ih ⊢; omega
  | case3 => simp

theorem length_lt_of_parent? {path above : Path} (h : path.parent? = some above) :
    above.text.length < path.text.length := by
  have bound := length_dropEnding_le path.text.toList.reverse
  simp only [parent?, cutLast] at h
  generalize dropEnding path.text.toList.reverse = text at h bound
  have parts := congrArg List.length (List.takeWhile_append_dropWhile (p := (· != '/')) (l := text))
  split at h
  · simp at h
  · rename_i before name notEmpty equal
    simp only [Option.some.injEq] at h
    simp only [Prod.mk.injEq] at equal
    obtain ⟨rfl, rfl⟩ := equal
    subst h
    have shorter := length_dropEnding_le (text.dropWhile (· != '/'))
    have nonempty : 0 < (text.takeWhile (· != '/')).length := by
      apply Nat.pos_of_ne_zero
      intro zero
      exact notEmpty (by simp [List.length_eq_zero_iff.1 zero])
    simp only [List.length_append, List.length_reverse, String.length_toList] at parts bound
    simp only [String.length_ofList, List.length_reverse]
    omega

def ancestors (path : Path) : List Path :=
  if path.text.isEmpty then []
  else
    match _step : path.parent? with
    | none => [path]
    | some above => path :: above.ancestors
termination_by path.text.length
decreasing_by exact length_lt_of_parent? _step

def directory (path : Path) : Path :=
  match path.parent? with
  | some above => if above.text.isEmpty then ⟨"."⟩ else above
  | none => ⟨"."⟩

def fileName? (path : Path) : Option FileName :=
  match path.cutLast.2 with
  | [] => none
  | ['.'] => none
  | ['.', '.'] => none
  | name => some (FileName.ofText (String.ofList name))

/-- The path reached by `other` from the directory `base`. -/
def join (base other : Path) : Path :=
  if other.isAbsolute || base.text.isEmpty then other
  else if base.endsWithSlash then ⟨base.text ++ other.text⟩
  else ⟨base.text ++ "/" ++ other.text⟩

end Path

end Registrar
