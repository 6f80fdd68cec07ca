import Registrar.Syntax.Node
import Registrar.Syntax.Token

/-!
Headers. The tokens in front of a body or a semicolon say what is declared there: a namespace, a
type with its attributes, or something that holds no declaration.
-/

set_option autoImplicit false

namespace Registrar.Syntax

namespace Token

def is (token : Token) (text : String) : Bool := token.text == text

def reservedWords : List String :=
  ["abstract", "as", "base", "bool", "break", "byte", "case", "catch", "char", "checked", "class",
    "const", "continue", "decimal", "default", "delegate", "do", "double", "else", "enum", "event",
    "explicit", "extern", "false", "finally", "fixed", "float", "for", "foreach", "goto", "if",
    "implicit", "in", "int", "interface", "internal", "is", "lock", "long", "namespace", "new",
    "null", "object", "operator", "out", "override", "params", "private", "protected", "public",
    "readonly", "ref", "return", "sbyte", "sealed", "short", "sizeof", "stackalloc", "static",
    "string", "struct", "switch", "this", "throw", "true", "try", "typeof", "uint", "ulong",
    "unchecked", "unsafe", "ushort", "using", "virtual", "void", "volatile", "while"]

/-- Words that may stand in front of a declaration's keyword. -/
def modifiers : List String :=
  ["abstract", "async", "const", "extern", "file", "fixed", "internal", "new", "override",
    "partial", "private", "protected", "public", "readonly", "ref", "required", "sealed", "static",
    "unsafe", "virtual", "volatile"]

def isIdentifier (token : Token) : Bool :=
  token.kind == .word && !reservedWords.contains token.text

def isModifier (token : Token) : Bool :=
  token.kind == .word && modifiers.contains token.text

def isOpening (token : Token) : Bool := token.is "(" || token.is "[" || token.is "\x7b"

def isClosing (token : Token) : Bool := token.is ")" || token.is "]" || token.is "\x7d"

end Token

/-- Open brackets and, outside of them, open angle brackets. -/
structure Nesting where
  brackets : Nat := 0
  angles : Nat := 0
deriving DecidableEq, Repr

namespace Nesting

def isFlat (nesting : Nesting) : Bool := nesting.brackets == 0 && nesting.angles == 0

def next (nesting : Nesting) (token : Token) : Nesting :=
  if token.isOpening then { nesting with brackets := nesting.brackets + 1 }
  else if token.isClosing then { nesting with brackets := nesting.brackets - 1 }
  else if 0 < nesting.brackets then nesting
  else if token.is "<" then { nesting with angles := nesting.angles + 1 }
  else if token.is ">" then { nesting with angles := nesting.angles - 1 }
  else nesting

end Nesting

def splitCommas (nesting : Nesting) : List Token → List (List Token)
  | [] => [[]]
  | token :: rest =>
      if nesting.isFlat && token.is "," then [] :: splitCommas nesting rest
      else
        match splitCommas (nesting.next token) rest with
        | [] => [[token]]
        | part :: others => (token :: part) :: others

/-- The tokens up to the bracket that closes the one before them, and those behind it. -/
def cutGroup (depth : Nat) : List Token → Option (List Token × List Token)
  | [] => none
  | token :: rest =>
      if token.isClosing then
        if depth = 0 then some ([], rest)
        else (cutGroup (depth - 1) rest).map fun (inner, behind) => (token :: inner, behind)
      else
        (cutGroup (if token.isOpening then depth + 1 else depth) rest).map
          fun (inner, behind) => (token :: inner, behind)

theorem length_lt_of_cutGroup {depth : Nat} {tokens inner behind : List Token}
    (h : cutGroup depth tokens = some (inner, behind)) : behind.length < tokens.length := by
  induction tokens generalizing depth inner with
  | nil => simp [cutGroup] at h
  | cons token rest ih =>
      simp only [cutGroup] at h
      split at h
      · split at h
        · simp only [Option.some.injEq, Prod.mk.injEq] at h
          obtain ⟨-, rfl⟩ := h
          simp
        · obtain ⟨⟨i, b⟩, hc, hp⟩ := Option.map_eq_some_iff.1 h
          simp only [Prod.mk.injEq] at hp
          obtain ⟨-, rfl⟩ := hp
          exact Nat.lt_succ_of_lt (ih hc)
      · obtain ⟨⟨i, b⟩, hc, hp⟩ := Option.map_eq_some_iff.1 h
        simp only [Prod.mk.injEq] at hp
        obtain ⟨-, rfl⟩ := hp
        exact Nat.lt_succ_of_lt (ih hc)

inductive NameState where
  | identifier
  | separator
  | arguments (angles : Nat)
deriving DecidableEq, Repr

def cutName (state : NameState) : List Token → List Token × List Token × NameState
  | [] => ([], [], state)
  | token :: rest =>
      let take (next : NameState) :=
        let (name, behind, last) := cutName next rest
        (token :: name, behind, last)
      match state with
      | .identifier => if token.isIdentifier then take .separator else ([], token :: rest, state)
      | .separator =>
          if token.is "." || token.is "::" then take .identifier
          else if token.is "<" then take (.arguments 1)
          else ([], token :: rest, state)
      | .arguments angles =>
          if token.is "<" then take (.arguments (angles + 1))
          else if token.is ">" then
            take (if angles = 1 then .separator else .arguments (angles - 1))
          else take state

def readAttribute? (tokens : List Token) : Option SyntaxNode :=
  match cutName .identifier tokens with
  | (name, behind, .separator) =>
      let fits : Bool := match behind with
        | [] => true
        | first :: inner => first.is "(" && (cutGroup 0 inner).any fun (_, rest) => rest.isEmpty
      if fits then
        some (.mk "attribute" (some (Token.sourceText name)) (name.head?.elim 0 Token.row) [])
      else none
  | _ => none

def attributeTargets : List String :=
  ["field", "event", "method", "param", "property", "return", "type"]

/-- The attributes between the brackets of a list, if its tokens form some. A comma may follow the
last one. -/
def readAttributes? (inner : List Token) : Option (List SyntaxNode) :=
  let untargeted := match inner with
    | target :: colon :: rest =>
        if attributeTargets.contains target.text && colon.is ":" then rest else inner
    | _ => inner
  let parts := splitCommas { } untargeted
  let parts := if 1 < parts.length && parts.getLast? == some [] then parts.dropLast else parts
  parts.mapM readAttribute?

structure Attributed where
  /-- The nodes of the lists and of the conditional sections between them. -/
  nodes : List SyntaxNode
  /-- Whether each list holds attributes. -/
  wellFormed : Bool
  rest : List Token

def readAttributeLists : List Token → Attributed
  | [] => ⟨[], true, []⟩
  | token :: rest =>
      if token.kind == .directive then
        let following := readAttributeLists rest
        { following with nodes := .mk "preproc_if" none token.row [] :: following.nodes }
      else if token.is "[" then
        match _step : cutGroup 0 rest with
        | none => ⟨[], true, token :: rest⟩
        | some (inner, behind) =>
            let following := readAttributeLists behind
            match readAttributes? inner with
            | some attributes =>
                { following with
                  nodes := .mk "attribute_list" none token.row attributes :: following.nodes }
            | none => { following with wellFormed := false }
      else ⟨[], true, token :: rest⟩
termination_by tokens => tokens.length
decreasing_by
  · simp
  · have := length_lt_of_cutGroup _step
    simp
    omega

/-- What a header declares. `fits` says that nothing in it is out of place. -/
inductive Header where
  | space (name : String) (fits : Bool)
  /-- A type; without a name it declares nothing. -/
  | type (kind : TypeKind) (name : Option String) (attributes : List SyntaxNode) (fits : Bool)
  | other (fits : Bool)

namespace Header

def ofSpace (tokens : List Token) (fits : Bool) : Header :=
  let (name, behind, state) := cutName .identifier tokens
  .space (Token.sourceText name) (fits && behind.isEmpty && state == .separator)

def mayFollowName (tokens : List Token) : Bool :=
  match tokens with
  | [] => true
  | token :: _ => token.is "<" || token.is "(" || token.is ":" || token.is "where"

def dropTypeParameters (angles : Nat) : List Token → List Token
  | [] => []
  | token :: rest =>
      if token.is "<" then dropTypeParameters (angles + 1) rest
      else if token.is ">" then
        if angles ≤ 1 then rest else dropTypeParameters (angles - 1) rest
      else if angles = 0 then token :: rest
      else dropTypeParameters angles rest

def dropParameters (tokens : List Token) : List Token :=
  match tokens with
  | first :: inner =>
      if first.is "(" then ((cutGroup 0 inner).map Prod.snd).getD [] else tokens
  | [] => []

def fitsBehindName (tokens : List Token) : Bool :=
  match dropParameters (dropTypeParameters 0 tokens) with
  | [] => true
  | token :: rest =>
      if token.is ":" || token.is "where" then
        rest.head?.any fun next => next.kind == .word || next.is "("
      else false

def ofType (kind : TypeKind) (attributed : Attributed) (tokens : List Token) : Header :=
  match tokens with
  | name :: behind =>
      if name.isIdentifier && attributed.wellFormed then
        .type kind (some name.text) attributed.nodes (fitsBehindName behind)
      else .type kind none attributed.nodes false
  | [] => .type kind none attributed.nodes false

/-- The header of a record, given the tokens behind the keyword: the word has its meaning only in
front of a name. -/
def ofRecord (attributed : Attributed) (tokens : List Token) : Header :=
  let tokens := match tokens with
    | first :: rest => if first.is "class" || first.is "struct" then rest else tokens
    | [] => tokens
  match tokens with
  | name :: behind =>
      if name.isIdentifier && mayFollowName behind then ofType .recordType attributed tokens
      else .other attributed.wellFormed
  | [] => .other attributed.wellFormed

def beginsParameters (angles : Nat) : List Token → Bool
  | [] => false
  | token :: rest =>
      if token.is "<" then beginsParameters (angles + 1) rest
      else if 0 < angles then
        beginsParameters (if token.is ">" then angles - 1 else angles) rest
      else token.is "("

/-- The name of a delegate: the first identifier outside of brackets that parameters follow. -/
def delegateName? (nesting : Nesting) : List Token → Option Token
  | [] => none
  | token :: rest =>
      if nesting.isFlat && token.isIdentifier && beginsParameters 0 rest then some token
      else delegateName? (nesting.next token) rest

def ofDelegate (attributed : Attributed) (tokens : List Token) : Header :=
  match delegateName? { } tokens with
  | some name =>
      if attributed.wellFormed then .type .delegateType (some name.text) attributed.nodes true
      else .type .delegateType none attributed.nodes false
  | none => .other (attributed.wellFormed && tokens.head?.any (·.is "*"))

def fitsUsing (tokens : List Token) : Bool :=
  match tokens with
  | [] => false
  | first :: rest =>
      if first.is "static" || first.is "unsafe" then rest.head?.any Token.isIdentifier
      else first.kind == .word || first.is "("

/-- The kind of type that a reserved keyword declares. -/
def typeKeyword? (token : Token) : Option TypeKind :=
  if token.kind == .word then
    match token.text with
    | "class" => some .classType
    | "struct" => some .structType
    | "interface" => some .interfaceType
    | "enum" => some .enumType
    | _ => none
  else none

/-- Keywords that are a statement by themselves or in front of a block. -/
def statementWords : List String :=
  ["break", "checked", "continue", "do", "else", "finally", "return", "throw", "try", "unchecked"]

def fitsMember (tokens : List Token) : Bool :=
  match tokens with
  | [token] => token.kind != .word || statementWords.contains token.text
  | _ => true

/-- Reads the header that the tokens behind the attribute lists form. -/
def ofAttributed (attributed : Attributed) : Header :=
  match attributed.rest.dropWhile Token.isModifier with
  | [] => .other (attributed.nodes.isEmpty && attributed.wellFormed && attributed.rest.isEmpty)
  | keyword :: behind =>
      if keyword.is "namespace" then
        ofSpace behind (attributed.nodes.isEmpty && attributed.wellFormed &&
          !attributed.rest.head?.any Token.isModifier)
      else if keyword.is "record" then ofRecord attributed behind
      else if keyword.is "delegate" then ofDelegate attributed behind
      else if keyword.is "using" then .other (fitsUsing behind)
      else if keyword.is "global" then
        match behind with
        | next :: rest => .other (!next.is "using" || fitsUsing rest)
        | [] => .other true
      else
        match typeKeyword? keyword with
        | some kind => ofType kind attributed behind
        | none => .other (fitsMember (keyword :: behind))

/-- The part of a header from the first namespace or type keyword on, with its modifiers, where an
unfinished statement stands in front of a declaration. -/
def resume? (previous : Option Token) : List Token → Option (List Token)
  | [] => none
  | token :: rest =>
      let bound := previous.any fun before => before.is ":" || before.is "," || before.is "."
      let declares := match (token :: rest).dropWhile Token.isModifier with
        | keyword :: name :: _ =>
            ((typeKeyword? keyword).isSome || keyword.is "namespace") && name.isIdentifier
        | _ => false
      if declares && !bound then some (token :: rest) else resume? (some token) rest

def startRow (tokens : List Token) : Nat := tokens.head?.elim 0 Token.row

/-- Reads a header, and tells in which row it begins. Where it declares nothing but holds the
header of a declaration, that one is read in its place. -/
def read (tokens : List Token) : Header × Nat :=
  match ofAttributed (readAttributeLists tokens) with
  | .other fits =>
      match resume? none tokens with
      | none => (.other fits, startRow tokens)
      | some later =>
          let header : Header := match ofAttributed (readAttributeLists later) with
            | .space name _ => .space name false
            | .type kind name attributes _ => .type kind name attributes false
            | .other _ => .other false
          (header, startRow later)
  | header => (header, startRow tokens)

end Header

def fitsEnumMember (tokens : List Token) : Bool :=
  let attributed := readAttributeLists tokens
  attributed.wellFormed &&
    match attributed.rest with
    | [] => false
    | [name] => name.isIdentifier
    | name :: sign :: value => name.isIdentifier && sign.is "=" && !value.isEmpty

def fitsEnumBody (tokens : List Token) : Bool :=
  let parts := splitCommas { } tokens
  let members := if parts.getLast? == some [] then parts.dropLast else parts
  members.all fitsEnumMember

end Registrar.Syntax
