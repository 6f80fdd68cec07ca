import Registrar.Proofs.Syntax.Header
import Registrar.Syntax.Lowering
import Registrar.Syntax.Outline

/-!
# What an outline declares

A property of headers that tokens keep when they are added passes to all headers of an outline. So
what follows from it for the type that a header declares holds for every type of the outline, in
whatever order its scopes are opened, closed and given up.
-/

set_option autoImplicit false

namespace Registrar.Syntax

/-- What is known of headers, of the tokens that may be added to them, and of the names and
attributes of the types that they declare. -/
structure HeaderLaw where
  known : List Token → Prop
  plain : Token → Prop
  declared : String → List Attribute → Prop
  nil : known []
  push : ∀ {tokens token}, known tokens → plain token → known (tokens ++ [token])
  read : ∀ {tokens kind name nodes fits row}, known tokens →
    Header.read tokens = (.type kind (some name) nodes fits, row) →
    declared (Text.compact name) (SyntaxNode.attributes nodes)

/-- Whatever is declared in a node without entering a type is as expected. -/
inductive Fit (declared : String → List Attribute → Prop) : SyntaxNode → Prop where
  | mk {node : SyntaxNode} :
      (∀ decl, node.decl? = some decl → declared decl.name decl.attributes) →
      (node.scope?.isSome → ∀ child ∈ node.children, Fit declared child) → Fit declared node

namespace Fit

variable {declared : String → List Attribute → Prop}

theorem of_children {kind : String} {name : Option String} {row : Nat}
    {children : List SyntaxNode} (noType : TypeKind.ofGrammarSymbol? kind = none)
    (fit : ∀ child ∈ children, Fit declared child) : Fit declared (.mk kind name row children) := by
  refine .mk (fun decl found => ?_) fun _ => fit
  rw [SyntaxNode.decl?, SyntaxNode.kind, noType] at found
  cases found

theorem of_type {kind : TypeKind} {name : Option String} {row : Nat} {children : List SyntaxNode}
    (fits : ∀ text, name = some text →
      declared (Text.compact text) (SyntaxNode.attributes children)) :
    Fit declared (.mk kind.symbol name row children) := by
  refine .mk (fun decl found => ?_) fun entered => by simp at entered
  rw [SyntaxNode.decl?_symbol] at found
  cases name with
  | none => cases found
  | some text =>
      rw [SyntaxNode.typeDecl?] at found
      rcases ite_eq_iff.1 found with ⟨-, missing⟩ | ⟨-, same⟩
      · cases missing
      · cases same
        exact fits text rfl

theorem conditionalNode {row : Nat} : ∀ {branches : List (List SyntaxNode)},
    (∀ nodes ∈ branches, ∀ node ∈ nodes, Fit declared node) →
      Fit declared (Outline.conditionalNode row branches)
  | [], _ => of_children rfl nofun
  | [nodes], fit => of_children rfl (fit nodes (by simp))
  | nodes :: next :: others, fit => by
      have rest : Fit declared (Outline.conditionalNode row (next :: others)) :=
        conditionalNode fun branch membership => fit branch (List.mem_cons_of_mem _ membership)
      apply of_children rfl
      intro child membership
      rcases List.mem_append.1 membership with first | last
      · exact fit nodes List.mem_cons_self child first
      · rw [List.mem_singleton.1 last]
        exact rest

end Fit

def Scope.Holds (law : HeaderLaw) : Scope → Prop
  | .type _ name _ attributes => ∀ text, name = some text →
      law.declared (Text.compact text) (SyntaxNode.attributes attributes)
  | .conditional opening branches _ => law.plain opening ∧
      ∀ nodes ∈ branches, ∀ node ∈ nodes, Fit law.declared node
  | .file | .space _ _ | .block _ => True

/-- What is known of a scope with the nodes found in it and the header under way. -/
structure Frame.Holds (law : HeaderLaw) (frame : Frame) : Prop where
  scope : frame.scope.Holds law
  nodes : ∀ node ∈ frame.nodes, Fit law.declared node
  header : law.known frame.tokens

namespace Frame.Holds

variable {law : HeaderLaw} {frame : Frame}

theorem add (holds : frame.Holds law) {node : SyntaxNode} (fit : Fit law.declared node) :
    (frame.add node).Holds law :=
  ⟨holds.scope, List.forall_mem_cons.2 ⟨fit, holds.nodes⟩, holds.header⟩

theorem push (holds : frame.Holds law) {token : Token} (plain : law.plain token) :
    (frame.push token).Holds law := by
  refine ⟨holds.scope, holds.nodes, ?_⟩
  rw [tokens, Frame.push, List.reverse_cons]
  exact law.push holds.header plain

theorem reset (holds : frame.Holds law) : frame.reset.Holds law :=
  ⟨holds.scope, holds.nodes, law.nil⟩

theorem start {scope : Scope} (holds : scope.Holds law) : Frame.Holds law { scope := scope } :=
  ⟨holds, nofun, law.nil⟩

theorem brackets (holds : frame.Holds law) (brackets : List String) :
    Frame.Holds law { frame with brackets := brackets } := ⟨holds.scope, holds.nodes, holds.header⟩

theorem ignored (holds : frame.Holds law) (count : Nat) :
    Frame.Holds law { frame with ignored := count } := ⟨holds.scope, holds.nodes, holds.header⟩

/-- A scope that is left leaves a node that fits, if it leaves one. -/
theorem fit_of_nodeOf (holds : frame.Holds law) {closed : Bool} {node : SyntaxNode}
    (left : Outline.nodeOf frame closed = some node) : Fit law.declared node := by
  have nodes : ∀ node ∈ frame.nodes.reverse, Fit law.declared node :=
    fun node membership => holds.nodes node (List.mem_reverse.1 membership)
  have scope := holds.scope
  rw [Outline.nodeOf] at left
  split at left
  · cases left
  · cases left
  · split at left
    · cases left
      apply Fit.of_children rfl
      intro child membership
      rw [List.mem_singleton.1 membership]
      exact .of_children rfl nodes
    · cases left
      exact .of_children rfl nodes
  · rename_i kind name row attributes shape
    rw [shape] at scope
    split at left
    · cases left
      apply Fit.of_type
      intro text same
      have alone : SyntaxNode.attributes
            (attributes ++ [.mk "declaration_list" none row frame.nodes.reverse]) =
          SyntaxNode.attributes attributes := by
        simp [SyntaxNode.attributes, SyntaxNode.kind]
      rw [alone]
      exact scope text same
    · cases left
      exact .of_children rfl nodes
  · rename_i opening branches lists shape
    rw [shape] at scope
    have fit : Fit law.declared (Outline.conditionalNode opening.row
        (frame.nodes.reverse :: branches).reverse) := by
      apply Fit.conditionalNode
      intro branch membership
      rcases List.mem_cons.1 (List.mem_reverse.1 membership) with rfl | earlier
      · exact nodes
      · exact scope.2 branch earlier
    split at left
    · cases left
      exact fit
    · cases left
      exact .of_children rfl fun child membership => List.mem_singleton.1 membership ▸ fit

theorem elim_nodeOf {inner : Frame} (holds : frame.Holds law) (inside : inner.Holds law)
    (closed : Bool) : ((Outline.nodeOf inner closed).elim frame frame.add).Holds law := by
  rcases left : Outline.nodeOf inner closed with _ | node
  · exact holds
  · exact holds.add (inside.fit_of_nodeOf left)

end Frame.Holds

namespace Outline

/-- What is known of all scopes around the tokens at hand. -/
structure Holds (law : HeaderLaw) (outline : Outline) : Prop where
  inner : outline.inner.Holds law
  outer : ∀ frame ∈ outline.outer, frame.Holds law

namespace Holds

variable {law : HeaderLaw} {outline : Outline}

theorem note (holds : outline.Holds law) (wrong : Bool) : (outline.note wrong).Holds law :=
  ⟨holds.inner, holds.outer⟩

theorem onInner (holds : outline.Holds law) {change : Frame → Frame}
    (changed : (change outline.inner).Holds law) : (outline.onInner change).Holds law :=
  ⟨changed, holds.outer⟩

theorem enter (holds : outline.Holds law) {scope : Scope} (known : scope.Holds law) :
    (outline.enter scope).Holds law :=
  ⟨.start known, List.forall_mem_cons.2 ⟨holds.inner.reset, holds.outer⟩⟩

theorem leave (holds : outline.Holds law) (closed : Bool) : (outline.leave closed).Holds law := by
  have outer := holds.outer
  rw [Outline.leave]
  split
  · exact holds
  · rename_i frame others shape
    rw [shape, List.forall_mem_cons] at outer
    exact ⟨outer.1.elim_nodeOf holds.inner closed, outer.2⟩

theorem declared_of_read {frame : Frame} (holds : frame.Holds law) {kind : TypeKind}
    {name : Option String} {nodes : List SyntaxNode} {fits : Bool} {row : Nat}
    (read : Header.read frame.tokens = (.type kind name nodes fits, row)) (text : String)
    (same : name = some text) :
    law.declared (Text.compact text) (SyntaxNode.attributes nodes) :=
  law.read holds.header (same ▸ read)

theorem openBody (holds : outline.Holds law) : outline.openBody.Holds law := by
  rw [Outline.openBody]
  split
  · exact (holds.note _).enter trivial
  · exact (holds.note _).enter trivial
  · rename_i read
    exact (holds.note _).enter (declared_of_read holds.inner read)
  · exact (holds.note _).enter trivial

theorem endHeader (holds : outline.Holds law) : outline.endHeader.Holds law := by
  have next : (outline.onInner Frame.reset).Holds law := holds.onInner holds.inner.reset
  rw [Outline.endHeader]
  split
  · exact next
  split
  · refine (next.note _).onInner ((next.note _).inner.add (.of_children rfl nofun))
  · exact next.note _
  · rename_i read
    refine (next.note _).onInner ((next.note _).inner.add (.of_type ?_))
    exact declared_of_read holds.inner read
  · exact next.note _

theorem closeScope {outer : List Frame} {inner : Frame} {broken : Bool} (inside : inner.Holds law)
    (around : ∀ frame ∈ outer, frame.Holds law) : (closeScope inner outer broken).Holds law := by
  fun_induction Outline.closeScope inner outer broken with
  | case1 inner => exact ⟨inside.reset, nofun⟩
  | case2 inner frame others opening branches lists shape _ inductionHypothesis =>
      rw [List.forall_mem_cons] at around
      exact inductionHypothesis (around.1.elim_nodeOf inside false) around.2
  | case3 inner frame others notConditional unfinished =>
      exact Holds.leave ⟨inside, around⟩ true

theorem endBranch {opening : Token} {branches : List (List SyntaxNode)} {lists : Bool}
    (holds : outline.Holds law)
    (known : (Scope.conditional opening branches lists).Holds law) :
    (outline.endBranch opening branches lists).Holds law := by
  refine ⟨.start ⟨known.1, List.forall_mem_cons.2 ⟨fun node membership => ?_, known.2⟩⟩,
    holds.outer⟩
  exact holds.inner.nodes node (List.mem_reverse.1 membership)

theorem endConditional {opening : Token} {branches : List (List SyntaxNode)} {lists : Bool}
    (holds : outline.Holds law)
    (known : (Scope.conditional opening branches lists).Holds law) :
    (outline.endConditional opening branches lists).Holds law := by
  have outer := holds.outer
  rw [Outline.endConditional]
  split
  · exact holds
  · rename_i frame others shape
    rw [shape, List.forall_mem_cons] at outer
    simp only
    split
    · exact ⟨outer.1.push known.1, outer.2⟩
    · refine ⟨outer.1.reset.add (Fit.conditionalNode fun nodes membership => ?_), outer.2⟩
      exact known.2 nodes (List.mem_reverse.1 membership)

theorem directive (holds : outline.Holds law) {token : Token} (plain : law.plain token) :
    (outline.directive token).Holds law := by
  have scope := holds.inner.scope
  rw [Outline.directive]
  split
  · split
    · exact ⟨.start ⟨plain, nofun⟩, List.forall_mem_cons.2 ⟨holds.inner, holds.outer⟩⟩
    · exact holds.onInner (holds.inner.ignored _)
  · split
    · exact holds.onInner (holds.inner.ignored _)
    split
    · rename_i opening branches lists shape
      rw [shape] at scope
      have ended := holds.endBranch scope
      exact ended.endConditional ended.inner.scope
    · exact holds.note _
  · split
    · exact holds
    split
    · rename_i opening branches lists shape
      rw [shape] at scope
      exact holds.endBranch scope
    · exact holds.note _
  · split
    · exact holds
    split
    · rename_i opening branches lists shape
      rw [shape] at scope
      exact holds.endBranch scope
    · exact holds.note _
  · exact holds

theorem block (holds : outline.Holds law) (brackets : List String) :
    (outline.onInner fun frame => { frame with scope := .block brackets }).Holds law :=
  holds.onInner ⟨trivial, holds.inner.nodes, holds.inner.header⟩

theorem stepBlock (holds : outline.Holds law) (brackets : List String) (token : Token) :
    (outline.stepBlock brackets token).Holds law := by
  rw [Outline.stepBlock]
  split
  · exact holds.block _
  split
  · simp only
    split
    · exact (holds.leave true).note _
    · exact (holds.block _).note _
  split
  · split
    · exact holds.block _
    · exact holds.note _
  · exact holds

theorem stepBrackets (holds : outline.Holds law) {token : Token} (plain : law.plain token) :
    (outline.stepBrackets token).Holds law := by
  have pushed := holds.inner.push plain
  have closed : ∀ brackets, Frame.Holds law
      (if brackets.isEmpty && ({ outline.inner.push token with brackets := brackets } :
          Frame).isGlobalAttributeList
        then ({ outline.inner.push token with brackets := brackets } : Frame).reset
        else { outline.inner.push token with brackets := brackets }) := by
    intro brackets
    split
    · exact (pushed.brackets _).reset
    · exact pushed.brackets _
  rw [Outline.stepBrackets]
  split
  · exact holds.onInner (pushed.brackets _)
  split
  · split
    · exact ⟨closed _, holds.outer⟩
    · exact closeScope holds.inner holds.outer
  split
  · split
    · exact ⟨closed _, holds.outer⟩
    · exact (holds.note true).onInner pushed
  · exact holds.onInner pushed

theorem stepHeader (holds : outline.Holds law) {token : Token} (plain : law.plain token) :
    (outline.stepHeader token).Holds law := by
  have pushed := holds.inner.push plain
  rw [Outline.stepHeader]
  split
  · exact holds.openBody
  split
  · exact closeScope holds.inner holds.outer
  split
  · exact holds.endHeader
  split
  · exact holds.onInner (pushed.brackets _)
  split
  · exact holds.note true
  · exact holds.onInner pushed

theorem step (holds : outline.Holds law) {token : Token} (plain : law.plain token) :
    (outline.step token).Holds law := by
  rw [Outline.step]
  split
  · exact holds.note true
  · exact holds.note _
  · exact (holds.note _).directive plain
  · exact holds.stepBlock _ token
  · split
    · exact holds.stepHeader plain
    · exact holds.stepBrackets plain

theorem foldl_step {tokens : List Token} (holds : outline.Holds law)
    (plain : ∀ token ∈ tokens, law.plain token) :
    (tokens.foldl Outline.step outline).Holds law := by
  induction tokens generalizing outline with
  | nil => exact holds
  | cons token rest inductionHypothesis =>
      rw [List.forall_mem_cons] at plain
      exact inductionHypothesis (holds.step plain.1) plain.2

theorem finish {outer : List Frame} {inner : Frame} {broken : Bool} (inside : inner.Holds law)
    (around : ∀ frame ∈ outer, frame.Holds law) :
    (Outline.finish inner outer broken).Holds law := by
  induction outer generalizing inner broken with
  | nil => exact ⟨inside, nofun⟩
  | cons frame others inductionHypothesis =>
      rw [List.forall_mem_cons] at around
      exact inductionHypothesis (around.1.elim_nodeOf inside false) around.2

theorem start (law : HeaderLaw) : Outline.start.Holds law := ⟨.start trivial, nofun⟩

theorem fit_of_ofTokens {tokens : List Token}
    (holds : (tokens.foldl Outline.step Outline.start).Holds law) :
    ∀ child ∈ (ofTokens tokens).tree.children, Fit law.declared child := by
  intro child membership
  have finished : (ofTokens tokens).Holds law := finish holds.inner holds.outer
  exact finished.inner.nodes child (List.mem_reverse.1 membership)

end Holds

end Outline

end Registrar.Syntax
