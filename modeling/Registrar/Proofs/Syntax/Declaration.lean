import Registrar.Proofs.Syntax.Listing

/-!
# Declarations in an outline

Where a header consists of attribute lists and of tokens outside of brackets, reading it keeps all
of its tokens. A header with a body between braces adds one node to the scope around it, which is
then as it was before: what stands behind the closing brace is read as if nothing had been in front
of it.
-/

set_option autoImplicit false

namespace Registrar.Syntax

/-- A token that stands for itself in a header or between its brackets. -/
structure Token.IsPlain (token : Token) : Prop where
  fit : token.kind ≠ .stray
  code : token.kind ≠ .directive
  opens : token.isOpening = false
  closes : token.isClosing = false
  ends : token.is ";" = false
  colon : token.is ":" = false
  comma : token.is "," = false

namespace Token.IsPlain

theorem name {token : Token} (word : token.kind = .word) (isName : IsName token.text.toList) :
    token.IsPlain := by
  obtain ⟨opens, closes⟩ := Token.is_bracket_eq_false_of_isName isName
  constructor
  · simp [word]
  · simp [word]
  · exact opens
  · exact closes
  · exact Token.is_eq_false_of_isName isName (by decide)
  · exact Token.is_eq_false_of_isName isName (by decide)
  · exact Token.is_eq_false_of_isName isName (by decide)

theorem dot (gap : String) (row : Nat) : Token.IsPlain ⟨.symbol, gap, ".", row⟩ := by
  constructor <;> simp [Token.isOpening, Token.isClosing, Token.is]

theorem enclosed {tokens : List Token} (plain : ∀ token ∈ tokens, token.IsPlain) :
    Enclosed tokens := by
  induction tokens with
  | nil => exact .nil
  | cons token rest inductionHypothesis =>
      obtain ⟨first, others⟩ := List.forall_mem_cons.1 plain
      exact .plain first.fit first.code first.opens first.closes (inductionHypothesis others)

end Token.IsPlain

/-- Tokens of a header that only declares: attribute lists, and tokens outside of brackets. -/
inductive Heading : List Token → Prop where
  | nil : Heading []
  | plain {token rest} : token.IsPlain → Heading rest → Heading (token :: rest)
  | list {opening inner closing rest} : opening.shape = (.symbol, "[") →
      closing.shape = (.symbol, "]") → (∀ token ∈ inner, token.IsPlain) → Heading rest →
      Heading (opening :: (inner ++ closing :: rest))

theorem Heading.of_plain {tokens : List Token} (plain : ∀ token ∈ tokens, token.IsPlain) :
    Heading tokens := by
  induction tokens with
  | nil => exact .nil
  | cons token rest inductionHypothesis =>
      obtain ⟨first, others⟩ := List.forall_mem_cons.1 plain
      exact .plain first (inductionHypothesis others)

theorem readAttributeLists_plain {token : Token} {rest : List Token}
    (code : token.kind ≠ .directive) (plain : token.is "[" = false) :
    readAttributeLists (token :: rest) = ⟨[], true, token :: rest⟩ := by
  have noDirective : (token.kind == .directive) = false := by simpa using code
  rw [readAttributeLists, noDirective, plain]
  rfl

theorem readAttributeLists_list {opening : Token} {rest inner behind : List Token}
    {attributes : List SyntaxNode} (opens : opening.shape = (.symbol, "["))
    (cut : cutGroup 0 rest = some (inner, behind))
    (read : readAttributes? inner = some attributes) :
    readAttributeLists (opening :: rest) =
      { readAttributeLists behind with
        nodes := .mk "attribute_list" none opening.row attributes ::
          (readAttributeLists behind).nodes } := by
  obtain ⟨symbol, text⟩ := Prod.mk.inj opens
  have noDirective : (opening.kind == .directive) = false := by simp [symbol]
  have bracket : opening.is "[" = true := by simp [Token.is, text]
  rw [readAttributeLists, noDirective, bracket]
  simp only [Bool.false_eq_true, if_false, if_true]
  split
  · rename_i missing
    rw [cut] at missing
    cases missing
  · rename_i found
    rw [cut] at found
    cases found
    rw [read]

theorem Frame.isGlobalAttributeList_eq_false {frame : Frame}
    (noColon : ∀ token ∈ frame.header, token.is ":" = false) :
    frame.isGlobalAttributeList = false := by
  rw [isGlobalAttributeList]
  split
  · rename_i bracket target colon rest shape
    have among : colon ∈ frame.tokens := by simp [shape]
    rw [noColon colon (List.mem_reverse.1 among), Bool.and_false]
  · rfl

namespace Outline

def pushAll (outline : Outline) (tokens : List Token) : Outline :=
  outline.onInner fun frame => { frame with header := tokens.reverse ++ frame.header }

def addAll (outline : Outline) (nodes : List SyntaxNode) : Outline :=
  outline.onInner fun frame => { frame with nodes := nodes.reverse ++ frame.nodes }

variable {outline : Outline}

theorem pushAll_append (outline : Outline) (first second : List Token) :
    outline.pushAll (first ++ second) = (outline.pushAll first).pushAll second := by
  simp [pushAll, onInner]

theorem addAll_append (outline : Outline) (first second : List SyntaxNode) :
    outline.addAll (first ++ second) = (outline.addAll first).addAll second := by
  simp [addAll, onInner]

/-- A header is forgotten when the scope behind it is entered. -/
theorem enter_pushAll (outline : Outline) (tokens : List Token) (scope : Scope) :
    (outline.pushAll tokens).enter scope = outline.enter scope := rfl

/-- A header in which no bracket is open and no colon stands. -/
structure IsOpen (outline : Outline) : Prop where
  scope : ∀ brackets, outline.inner.scope ≠ .block brackets
  brackets : outline.inner.brackets = []
  noColon : ∀ token ∈ outline.inner.header, token.is ":" = false

namespace IsOpen

theorem pushAll (isOpen : outline.IsOpen) {tokens : List Token}
    (noColon : ∀ token ∈ tokens, token.is ":" = false) : (outline.pushAll tokens).IsOpen := by
  refine ⟨isOpen.scope, isOpen.brackets, ?_⟩
  intro token membership
  rcases List.mem_append.1 membership with later | earlier
  · exact noColon token (List.mem_reverse.1 later)
  · exact isOpen.noColon token earlier

theorem step_plain (isOpen : outline.IsOpen) {token : Token} (plain : token.IsPlain) :
    outline.step token = outline.pushAll [token] := by
  have opens := plain.opens
  have closes := plain.closes
  have noBody : token.is "\x7b" = false := by
    simp only [Token.isOpening, Bool.or_eq_false_iff] at opens
    exact opens.2
  have noEnd : token.is "\x7d" = false := by
    simp only [Token.isClosing, Bool.or_eq_false_iff] at closes
    exact closes.2
  rw [step_of_header isOpen.scope plain.fit plain.code, isOpen.brackets, stepHeader]
  simp [noBody, noEnd, plain.ends, opens, closes, Outline.pushAll, onInner, Frame.push]

theorem foldl_step_list (isOpen : outline.IsOpen) {opening closing : Token} {inner : List Token}
    (opens : opening.shape = (.symbol, "[")) (closes : closing.shape = (.symbol, "]"))
    (plain : ∀ token ∈ inner, token.IsPlain)
    (noColon : ∀ token ∈ opening :: (inner ++ [closing]), token.is ":" = false) :
    (opening :: (inner ++ [closing])).foldl step outline =
      outline.pushAll (opening :: (inner ++ [closing])) := by
  obtain ⟨symbol, opens⟩ := Prod.mk.inj opens
  obtain ⟨symbol', closes⟩ := Prod.mk.inj closes
  have opened := step_opening isOpen.scope symbol (.inr opens)
  generalize begun : outline.step opening = first at opened
  have header : ∀ brackets, first.inner.scope ≠ .block brackets := opened ▸ isOpen.scope
  have more : first.inner.brackets = "[" :: [] := by
    simp [opened, onInner, Frame.push, opens, isOpen.brackets]
  have within := foldl_step_enclosed (Token.IsPlain.enclosed plain) first header more
  generalize ended : inner.foldl step first = second at within
  have remaining : second.inner.brackets = partner closing.text :: [] := by
    rw [closes, within]
    exact more
  have shut := step_closing (within ▸ header) symbol' (.inr closes) remaining
  have inside : second.inner.header = inner.reverse ++ opening :: outline.inner.header := by
    rw [within, opened]
    rfl
  have noTarget : ({ second.inner.push closing with brackets := [] } :
      Frame).isGlobalAttributeList = false := by
    have whole := (isOpen.pushAll noColon).noColon
    apply Frame.isGlobalAttributeList_eq_false
    simpa [Outline.pushAll, onInner, Frame.push, inside] using whole
  rw [List.foldl_cons, List.foldl_append, begun, ended, List.foldl_cons, List.foldl_nil, shut]
  simp only [onInner, noTarget, List.isEmpty_nil, Bool.and_false, Bool.false_eq_true, if_false]
  simp [within, opened, Outline.pushAll, onInner, Frame.push, isOpen.brackets]

theorem foldl_step {tokens : List Token} (isOpen : outline.IsOpen) (heading : Heading tokens) :
    tokens.foldl step outline = outline.pushAll tokens := by
  induction heading generalizing outline with
  | nil => rfl
  | @plain token rest plain _ inductionHypothesis =>
      have noColon : ∀ other ∈ [token], other.is ":" = false := by simpa using plain.colon
      rw [List.foldl_cons, isOpen.step_plain plain,
        inductionHypothesis (isOpen.pushAll noColon), ← pushAll_append, List.singleton_append]
  | @list opening inner closing rest opens closes plain _ inductionHypothesis =>
      have noColon : ∀ token ∈ opening :: (inner ++ [closing]), token.is ":" = false := by
        intro token membership
        obtain ⟨-, opens⟩ := Prod.mk.inj opens
        obtain ⟨-, closes⟩ := Prod.mk.inj closes
        rw [List.mem_cons, List.mem_append, List.mem_singleton] at membership
        rcases membership with rfl | within | rfl
        · simp [Token.is, opens]
        · exact (plain token within).colon
        · simp [Token.is, closes]
      have split : opening :: (inner ++ closing :: rest) =
          opening :: (inner ++ [closing]) ++ rest := by simp
      rw [split, List.foldl_append, isOpen.foldl_step_list opens closes plain noColon,
        inductionHypothesis (isOpen.pushAll noColon), ← pushAll_append]

end IsOpen

/-- A scope in which a declaration may begin. -/
structure IsIdle (outline : Outline) : Prop where
  scope : ∀ brackets, outline.inner.scope ≠ .block brackets
  header : outline.inner.header = []
  brackets : outline.inner.brackets = []

namespace IsIdle

theorem isOpen (idle : outline.IsIdle) : outline.IsOpen := by
  refine ⟨idle.scope, idle.brackets, ?_⟩
  rw [idle.header]
  nofun

theorem addAll (idle : outline.IsIdle) (nodes : List SyntaxNode) : (outline.addAll nodes).IsIdle :=
  ⟨idle.scope, idle.header, idle.brackets⟩

theorem tokens_pushAll (idle : outline.IsIdle) (tokens : List Token) :
    (outline.pushAll tokens).inner.tokens = tokens := by
  simp [pushAll, onInner, Frame.tokens, idle.header]

theorem reset (idle : outline.IsIdle) : outline.inner.reset = outline.inner := by
  simp [Frame.reset, ← idle.header, ← idle.brackets]

end IsIdle

/-- The tokens add the nodes to the scope in which they stand, wherever a declaration may begin. -/
def Adds (tokens : List Token) (nodes : List SyntaxNode) : Prop :=
  ∀ outline : Outline, outline.IsIdle → tokens.foldl step outline = outline.addAll nodes

theorem closeScope_of_empty {inner frame : Frame} {others : List Frame} {broken : Bool}
    (known : ∀ opening branches lists, inner.scope ≠ .conditional opening branches lists)
    (header : inner.header = []) : closeScope inner (frame :: others) broken =
      ({ inner := inner, outer := frame :: others, broken := broken } : Outline).leave true := by
  have noMembers : fitsEnumBody inner.tokens = true := by
    rw [Frame.tokens, header]
    rfl
  rw [closeScope]
  split
  · rename_i opening branches lists shape
    exact absurd shape (known opening branches lists)
  · simp [noMembers, header]

namespace Adds

theorem nil : Adds [] [] := fun _ _ => rfl

theorem append {first second : List Token} {nodes more : List SyntaxNode}
    (adds : Adds first nodes) (others : Adds second more) :
    Adds (first ++ second) (nodes ++ more) := by
  intro outline idle
  rw [List.foldl_append, adds outline idle, others _ (idle.addAll nodes), addAll_append]

variable {header inner : List Token} {nodes : List SyntaxNode} {opening closing : Token}

theorem scope {scope : Scope} {node : SyntaxNode} (heading : Heading header)
    (opens : opening.shape = (.symbol, "\x7b")) (closes : closing.shape = (.symbol, "\x7d"))
    (enters : ∀ outline : Outline, outline.inner.tokens = header →
      outline.openBody = outline.enter scope)
    (noBlock : ∀ brackets, scope ≠ .block brackets)
    (noSection : ∀ opening branches lists, scope ≠ .conditional opening branches lists)
    (inside : Adds inner nodes)
    (leaves : nodeOf { scope := scope, nodes := nodes.reverse } true = some node) :
    Adds (header ++ opening :: (inner ++ [closing])) [node] := by
  intro outline idle
  obtain ⟨symbol, opens⟩ := Prod.mk.inj opens
  obtain ⟨symbol', closes⟩ := Prod.mk.inj closes
  have entered : (outline.pushAll header).step opening = outline.enter scope := by
    have body : opening.is "\x7b" = true := by simp [Token.is, opens]
    have free : (outline.pushAll header).inner.brackets = [] := idle.brackets
    have accepts : ∀ brackets, (outline.pushAll header).inner.scope ≠ .block brackets := idle.scope
    rw [step_of_header accepts (by simp [symbol]) (by simp [symbol]), free, stepHeader, body]
    simp only [List.isEmpty_nil, if_true]
    rw [enters _ (idle.tokens_pushAll header), enter_pushAll]
  -- the body begins idle, so what is known of its tokens applies there as well
  have begun : (outline.enter scope).IsIdle := ⟨noBlock, rfl, rfl⟩
  have left : ((outline.enter scope).addAll nodes).step closing = outline.addAll [node] := by
    have noBody : closing.is "\x7b" = false := by simp [Token.is, closes]
    have ends : closing.is "\x7d" = true := by simp [Token.is, closes]
    have shape : ((outline.enter scope).addAll nodes).stepHeader closing =
        closeScope { scope := scope, nodes := nodes.reverse } (outline.inner :: outline.outer)
          outline.broken := by
      simp [stepHeader, noBody, ends, addAll, enter, onInner, idle.reset]
    have next : ((outline.enter scope).addAll nodes).IsIdle := begun.addAll nodes
    rw [step_of_header next.scope (by simp [symbol']) (by simp [symbol']), next.brackets, shape,
      closeScope_of_empty noSection rfl, leave]
    simp [leaves, addAll, onInner, Frame.add]
  rw [List.foldl_append, idle.isOpen.foldl_step heading, List.foldl_cons, entered,
    List.foldl_append, inside _ begun, List.foldl_cons, List.foldl_nil, left]

theorem space {name : String} {row : Nat} (heading : Heading header)
    (read : Header.read header = (.space name true, row))
    (opens : opening.shape = (.symbol, "\x7b")) (closes : closing.shape = (.symbol, "\x7d"))
    (inside : Adds inner nodes) : Adds (header ++ opening :: (inner ++ [closing]))
      [.mk "namespace_declaration" (some name) row [.mk "declaration_list" none row nodes]] := by
  have enters : ∀ outline : Outline, outline.inner.tokens = header →
      outline.openBody = outline.enter (.space name row) := by
    intro outline tokens
    simp [openBody, tokens, read, note]
  apply scope heading opens closes enters (by simp) (by simp) inside
  simp [nodeOf]

theorem type {kind : TypeKind} {name : Option String} {attributes : List SyntaxNode} {row : Nat}
    (heading : Heading header) (hasBody : kind ≠ .delegateType)
    (read : Header.read header = (.type kind name attributes true, row))
    (opens : opening.shape = (.symbol, "\x7b")) (closes : closing.shape = (.symbol, "\x7d")) :
    Adds (header ++ [opening, closing])
      [.mk kind.symbol name row (attributes ++ [.mk "declaration_list" none row []])] := by
  have enters : ∀ outline : Outline, outline.inner.tokens = header →
      outline.openBody = outline.enter (.type kind name row attributes) := by
    intro outline tokens
    rw [openBody, tokens, read]
    cases kind with
    | delegateType => exact absurd rfl hasBody
    | _ => simp [note]
  apply scope heading opens closes enters (by simp) (by simp) nil
  simp [nodeOf]

end Adds

/-- Tokens that add nodes to a file give a file of these nodes. -/
theorem ofTokens_of_adds {tokens : List Token} {nodes : List SyntaxNode}
    (adds : Adds tokens nodes) :
    (ofTokens tokens).tree.children = nodes ∧ (ofTokens tokens).broken = false := by
  have idle : start.IsIdle := ⟨by simp [start], rfl, rfl⟩
  rw [ofTokens, adds start idle]
  simp [start, addAll, onInner, finish, tree, SyntaxNode.children]

end Outline

end Registrar.Syntax
