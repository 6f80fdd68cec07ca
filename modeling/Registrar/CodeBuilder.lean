/-!
Text written line by line at a level of indentation.
-/

set_option autoImplicit false

namespace Registrar

inductive Indent where
  | spaces (width : Nat)
  | tab
deriving DecidableEq, Repr

namespace Indent

def classBody : Indent := .spaces 4

def chars : Indent → List Char
  | .spaces width => List.replicate width ' '
  | .tab => ['\t']

def text (indent : Indent) (level : Nat) : String :=
  String.ofList (List.replicate level indent.chars).flatten

@[simp]
theorem text_zero (indent : Indent) : indent.text 0 = "" := rfl

end Indent

structure CodeBuilder where
  indent : Indent
  level : Nat
  text : String
deriving DecidableEq, Repr

namespace CodeBuilder

def new (indent : Indent) : CodeBuilder := ⟨indent, 0, ""⟩

def line (builder : CodeBuilder) (content : String) : CodeBuilder :=
  { builder with text := builder.text ++ builder.indent.text builder.level ++ content ++ "\n" }

def blank (builder : CodeBuilder) : CodeBuilder :=
  { builder with text := builder.text ++ "\n" }

def raw (builder : CodeBuilder) (content : String) : CodeBuilder :=
  { builder with text := builder.text ++ content }

def deeper (builder : CodeBuilder) : CodeBuilder :=
  { builder with level := builder.level + 1 }

def shallower (builder : CodeBuilder) : CodeBuilder :=
  { builder with level := builder.level - 1 }

def lines (builder : CodeBuilder) (contents : List String) : CodeBuilder :=
  contents.foldl line builder

end CodeBuilder

end Registrar
