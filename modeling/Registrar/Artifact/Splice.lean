import Registrar.Artifact.Anchor
import Registrar.Artifact.Fragment
import Registrar.Text.Lines

/-!
Fragments added to an existing handler. Its lines are cut once into regions behind the lines of the
anchors, and the fragments of each part fill the slot between two of them, so that no addition
shifts another one, whichever anchor comes first. Names that are already present are not looked
for.
-/

set_option autoImplicit false

namespace Registrar

/-- A part of the new text: lines of the existing one, or the fragments that belong behind an
anchor. -/
inductive Region where
  | text (lines : List String)
  | slot (anchor : Anchor)

/-- The anchors with the numbers of their lines, or the first anchor that is missing. -/
def slots (lines : List String) : Except Anchor (List (Nat × Anchor)) :=
  Anchor.all.mapM fun anchor =>
    match anchor.find? lines with
    | some i => .ok (i, anchor)
    | none => .error anchor

/-- The lines from number `start` on, cut behind the line of each slot. -/
def regionsFrom (lines : List String) (start : Nat) : List (Nat × Anchor) → List Region
  | [] => [.text (lines.drop start)]
  | (i, anchor) :: rest =>
      .text ((lines.take (i + 1)).drop start) :: .slot anchor :: regionsFrom lines (i + 1) rest

/-- The regions of a handler. Slots of one line keep the order of their anchors. -/
def regions (lines : List String) : Except Anchor (List Region) := do
  let found ← slots lines
  return regionsFrom lines 0 (found.mergeSort fun first second => first.1 ≤ second.1)

def Fragments.linesAt (fragments : Fragments) : Anchor → List String
  | .context => fragments.contexts.map Fragment.text
  | .table => fragments.entries.map fun entry => "\t" ++ entry.text

def Region.lines (fragments : Fragments) : Region → List String
  | .text lines => lines
  | .slot anchor => fragments.linesAt anchor

/-- The handler with the fragments added, or the first anchor that it lacks. -/
def splice (existing : String) (fragments : Fragments) : Except Anchor String := do
  let parts ← regions (Text.lines existing)
  return Text.unlines (parts.flatMap (Region.lines fragments))

end Registrar
