import Registrar.Syntax.Header

/-!
The outline of a source text: its namespaces and types, found by following brackets, semicolons
and conditional sections token by token. Bodies of methods and the like are passed over. Text with
syntax errors still has an outline: what is complete is kept, and what is not closed becomes an
error node that holds the declarations found in it.
-/

set_option autoImplicit false

namespace Registrar.Syntax

/-- What encloses the tokens at hand. -/
inductive Scope where
  | file
  | space (name : String) (row : Nat)
  | type (kind : TypeKind) (name : Option String) (row : Nat) (attributes : List SyntaxNode)
  /-- A conditional section: the directive that opens it, the nodes of its earlier branches, the
  latest branch first, and whether attribute lists stood in one of them. -/
  | conditional (opening : Token) (branches : List (List SyntaxNode)) (attributes : Bool)
  /-- Something in braces that holds no declaration, with its open brackets. -/
  | block (brackets : List String)

/-- A scope with the nodes found in it, the header under way and the brackets open in that, all
backwards. `ignored` counts the conditional sections open inside the header. -/
structure Frame where
  scope : Scope
  nodes : List SyntaxNode := []
  header : List Token := []
  brackets : List String := []
  ignored : Nat := 0

namespace Frame

def add (frame : Frame) (node : SyntaxNode) : Frame :=
  { frame with nodes := node :: frame.nodes }

def push (frame : Frame) (token : Token) : Frame :=
  { frame with header := token :: frame.header }

def reset (frame : Frame) : Frame :=
  { frame with header := [], brackets := [] }

def tokens (frame : Frame) : List Token := frame.header.reverse

def isAttributesOnly (frame : Frame) : Bool :=
  let attributed := readAttributeLists frame.tokens
  attributed.wellFormed && attributed.rest.isEmpty

/-- Whether the header is one list of attributes of the whole program. -/
def isGlobalAttributeList (frame : Frame) : Bool :=
  match frame.tokens with
  | bracket :: target :: colon :: _ =>
      bracket.is "[" && (target.is "assembly" || target.is "module") && colon.is ":"
  | _ => false

/-- Whether the scope is the body of an enumeration, whose members have no semicolons. -/
def isEnumBody (frame : Frame) : Bool :=
  match frame.scope with
  | .type .enumType _ _ _ => true
  | _ => false

end Frame

/-- Where the reading of an outline stands: the innermost scope, those around it, and whether an
error has been met. -/
structure Outline where
  inner : Frame
  outer : List Frame := []
  broken : Bool := false

namespace Outline

def note (outline : Outline) (wrong : Bool) : Outline :=
  { outline with broken := outline.broken || wrong }

def onInner (outline : Outline) (f : Frame → Frame) : Outline :=
  { outline with inner := f outline.inner }

def enter (outline : Outline) (scope : Scope) : Outline :=
  { outline with inner := { scope := scope }, outer := outline.inner.reset :: outline.outer }

/-- The node of a conditional section: each branch after the first lies inside the one before. -/
def conditionalNode (row : Nat) : List (List SyntaxNode) → SyntaxNode
  | [] => .mk "preproc_if" none row []
  | [nodes] => .mk "preproc_if" none row nodes
  | nodes :: others => .mk "preproc_if" none row (nodes ++ [conditionalNode row others])

/-- The nodes of a scope that is left, as a node of the scope around it, if it has one. A scope
that is not closed leaves an error node. -/
def nodeOf (frame : Frame) (closed : Bool) : Option SyntaxNode :=
  let nodes := frame.nodes.reverse
  match frame.scope with
  | .file => none
  | .block _ => none
  | .space name row =>
      let body : SyntaxNode := .mk "declaration_list" none row nodes
      if closed then some (.mk "namespace_declaration" (some name) row [body])
      else some (.mk "ERROR" none row nodes)
  | .type kind name row attributes =>
      let body : SyntaxNode := .mk "declaration_list" none row nodes
      if closed then some (.mk kind.symbol name row (attributes ++ [body]))
      else some (.mk "ERROR" none row nodes)
  | .conditional opening branches _ =>
      let node := conditionalNode opening.row (nodes :: branches).reverse
      if closed then some node else some (.mk "ERROR" none opening.row [node])

def leave (outline : Outline) (closed : Bool) : Outline :=
  match outline.outer with
  | [] => outline
  | frame :: outer =>
      { outline with
        inner := (nodeOf outline.inner closed).elim frame frame.add
        outer := outer }

def openBody (outline : Outline) : Outline :=
  match Header.read outline.inner.tokens with
  | (.space name fits, row) => (outline.note !fits).enter (.space name row)
  | (.type .delegateType _ _ _, _) => (outline.note true).enter (.block ["\x7b"])
  | (.type kind name attributes fits, row) =>
      (outline.note !fits).enter (.type kind name row attributes)
  | (.other fits, _) => (outline.note !fits).enter (.block ["\x7b"])

def endHeader (outline : Outline) : Outline :=
  let tokens := outline.inner.tokens
  let outline := outline.onInner Frame.reset
  if tokens.isEmpty then outline
  else
    match Header.read tokens with
    | (.space name fits, row) =>
        (outline.note !fits).onInner
          (·.add (.mk "file_scoped_namespace_declaration" (some name) row []))
    | (.type .enumType _ _ _, _) => outline.note true
    | (.type kind name attributes fits, row) =>
        (outline.note !fits).onInner (·.add (.mk kind.symbol name row attributes))
    | (.other fits, _) => outline.note !fits

/-- Closes the innermost scope at a closing brace. A conditional section that is still open is
given up; a brace that closes nothing is passed over. -/
def closeScope (inner : Frame) (outer : List Frame) (broken : Bool) : Outline :=
  match outer with
  | [] => { inner := inner.reset, outer := [], broken := true }
  | frame :: others =>
      match inner.scope with
      | .conditional .. =>
          closeScope ((nodeOf inner false).elim frame frame.add) others true
      | _ =>
          let unfinished :=
            if inner.isEnumBody then !fitsEnumBody inner.tokens else !inner.header.isEmpty
          ({ inner := inner, outer := outer, broken := broken || unfinished } : Outline).leave true

/-- Ends a branch of a conditional section: its attribute lists, if there is nothing else in it,
may belong to a declaration behind the section. -/
def endBranch (outline : Outline) (opening : Token) (branches : List (List SyntaxNode))
    (attributes : Bool) : Outline :=
  let frame := outline.inner
  let pending := !frame.header.isEmpty
  let lists := pending && frame.isAttributesOnly
  { outline with
    inner :=
      { scope := .conditional opening (frame.nodes.reverse :: branches) (attributes || lists) }
    broken := outline.broken || (pending && !lists) }

/-- Ends a conditional section. One that holds nothing but attribute lists becomes a part of the
header behind it. -/
def endConditional (outline : Outline) (opening : Token) (branches : List (List SyntaxNode))
    (attributes : Bool) : Outline :=
  match outline.outer with
  | [] => outline
  | frame :: outer =>
      let branches := branches.reverse
      if branches.all List.isEmpty && attributes then
        { outline with inner := frame.push opening, outer := outer }
      else
        { inner := frame.reset.add (conditionalNode opening.row branches)
          outer := outer
          broken := outline.broken || attributes || !frame.header.isEmpty }

def directiveWord (token : Token) : String :=
  String.ofList (((token.text.toList.drop 1).dropWhile fun c => c == ' ' || c == '\t').takeWhile
    Char.isAlpha)

def plainDirectives : List String :=
  ["region", "endregion", "line", "pragma", "nullable", "error", "warning", "define", "undef"]

def isKnownDirective (token : Token) : Bool :=
  let word := directiveWord token
  ["if", "elif", "else", "endif"].contains word || plainDirectives.contains word ||
    (token.row == 0 && token.text.startsWith "#!")

def directive (outline : Outline) (token : Token) : Outline :=
  let frame := outline.inner
  match directiveWord token with
  | "if" =>
      if frame.brackets.isEmpty && frame.isAttributesOnly && !frame.isEnumBody then
        { outline with
          inner := { scope := .conditional token [] false }
          outer := frame :: outline.outer }
      else outline.onInner fun frame => { frame with ignored := frame.ignored + 1 }
  | "endif" =>
      if 0 < frame.ignored then
        outline.onInner fun frame => { frame with ignored := frame.ignored - 1 }
      else
        match frame.scope with
        | .conditional opening branches attributes =>
            let outline := outline.endBranch opening branches attributes
            match outline.inner.scope with
            | .conditional opening branches attributes =>
                outline.endConditional opening branches attributes
            | _ => outline
        | _ => outline.note true
  | "elif" | "else" =>
      if 0 < frame.ignored then outline
      else
        match frame.scope with
        | .conditional opening branches attributes =>
            outline.endBranch opening branches attributes
        | _ => outline.note true
  | _ => outline

def closeBracket (opening : String) (brackets : List String) : List String × Bool :=
  ((brackets.dropWhile (· != opening)).drop 1, brackets.head? != some opening)

def partner (closing : String) : String :=
  if closing == ")" then "(" else if closing == "]" then "[" else "\x7b"

/-- Reads a token inside of something that holds no declaration. -/
def stepBlock (outline : Outline) (brackets : List String) (token : Token) : Outline :=
  let continueWith (brackets : List String) : Outline :=
    outline.onInner fun frame => { frame with scope := .block brackets }
  if token.isOpening then continueWith (token.text :: brackets)
  else if token.is "\x7d" then
    let (left, inside) := closeBracket "\x7b" brackets
    if left.isEmpty then (outline.leave true).note inside
    else (continueWith left).note inside
  else if token.isClosing then
    if brackets.head? == some (partner token.text) then continueWith (brackets.drop 1)
    else outline.note true
  else outline

def stepBrackets (outline : Outline) (token : Token) : Outline :=
  let frame := outline.inner
  let close : Outline :=
    let (left, inside) := closeBracket (partner token.text) frame.brackets
    let next : Frame := { frame.push token with brackets := left }
    let next := if left.isEmpty && next.isGlobalAttributeList then next.reset else next
    { outline with inner := next, broken := outline.broken || inside }
  if token.isOpening then
    outline.onInner fun frame =>
      { frame.push token with brackets := token.text :: frame.brackets }
  else if token.is "\x7d" then
    if frame.brackets.contains "\x7b" then close
    else closeScope outline.inner outline.outer true
  else if token.isClosing then
    if frame.brackets.head? == some (partner token.text) then close
    else (outline.note true).onInner (·.push token)
  else outline.onInner (·.push token)

def stepHeader (outline : Outline) (token : Token) : Outline :=
  if token.is "\x7b" then outline.openBody
  else if token.is "\x7d" then closeScope outline.inner outline.outer outline.broken
  else if token.is ";" then outline.endHeader
  else if token.isOpening then
    outline.onInner fun frame => { frame.push token with brackets := [token.text] }
  else if token.isClosing then outline.note true
  else outline.onInner (·.push token)

def step (outline : Outline) (token : Token) : Outline :=
  match outline.inner.scope, token.kind with
  | _, .stray => outline.note true
  | .block _, .directive => outline.note !isKnownDirective token
  | _, .directive => (outline.note !isKnownDirective token).directive token
  | .block brackets, _ => outline.stepBlock brackets token
  | _, _ =>
      if outline.inner.brackets.isEmpty then outline.stepHeader token
      else outline.stepBrackets token

def finish (inner : Frame) (outer : List Frame) (broken : Bool) : Outline :=
  let unfinished := broken || !inner.header.isEmpty
  match outer with
  | [] => { inner := inner, outer := [], broken := unfinished }
  | frame :: others => finish ((nodeOf inner false).elim frame frame.add) others true

def start : Outline := { inner := { scope := .file } }

def ofTokens (tokens : List Token) : Outline :=
  let outline := tokens.foldl step start
  finish outline.inner outline.outer outline.broken

def tree (outline : Outline) : SyntaxNode :=
  .mk "compilation_unit" none 0 outline.inner.nodes.reverse

end Outline

end Registrar.Syntax
