import Registrar.Proofs.Syntax.Lexing
import Registrar.Proofs.Syntax.Outline

/-!
# Attribute lists in an outline

Where every square bracket of a text begins an attribute list that is known as a whole, the types
of the text carry only attributes of these lists. The scope in which a list stands does not matter.
-/

set_option autoImplicit false

namespace Registrar.Syntax

/-- Where a header holds only lists of a kind, so do the attributes of the type that it declares. -/
def listLaw (allowed : Attribute → Prop) : HeaderLaw where
  known := Listed allowed
  plain token := token.is "[" = false
  declared _ attributes := ∀ attr ∈ attributes, allowed attr
  nil := Listed.nil
  push listed plain := listed.push plain
  read listed read := by
    obtain ⟨later, suffix, rfl⟩ := Header.exists_of_read read
    exact allowed_of_mem_attributes (listed.suffix suffix)

theorem splitCommas_of_no_comma {tokens : List Token} (nesting : Nesting)
    (whole : ∀ token ∈ tokens, token.is "," = false) : splitCommas nesting tokens = [tokens] := by
  induction tokens generalizing nesting with
  | nil => rfl
  | cons token rest inductionHypothesis =>
      rw [List.forall_mem_cons] at whole
      simp [splitCommas, whole.1, inductionHypothesis _ whole.2]

theorem name_of_readAttribute? {first second : Token} {rest : List Token} {node : SyntaxNode}
    (identifier : first.isIdentifier = true) (opens : second.text = "(")
    (read : readAttribute? (first :: second :: rest) = some node) :
    node.kind = "attribute" ∧ node.name = some first.text := by
  have cut : cutName .identifier (first :: second :: rest) =
      ([first], second :: rest, .separator) := by
    simp [cutName, identifier, Token.is, opens]
  rw [readAttribute?, cut] at read
  simp only at read
  rcases ite_eq_iff.1 read with ⟨-, same⟩ | ⟨-, missing⟩
  · cases same
    simp [SyntaxNode.kind, SyntaxNode.name, Token.sourceText, String.join]
  · cases missing

theorem readAttributes?_of_single {tokens : List Token}
    (noTarget : ∀ target colon rest, tokens = target :: colon :: rest → colon.is ":" = false)
    (whole : ∀ token ∈ tokens, token.is "," = false) :
    readAttributes? tokens = (readAttribute? tokens).map fun node => [node] := by
  have single : List.mapM readAttribute? [tokens] =
      (readAttribute? tokens).map fun node => [node] := by
    rw [List.mapM_cons, List.mapM_nil]
    cases readAttribute? tokens <;> rfl
  unfold readAttributes?
  simp only
  split
  · rename_i target colon rest
    simpa [noTarget target colon rest rfl, splitCommas_of_no_comma _ whole] using single
  · simpa [splitCommas_of_no_comma _ whole] using single

theorem Listing.of_single {allowed : Attribute → Prop} {first second : Token} {rest : List Token}
    (enclosed : Enclosed (first :: second :: rest)) (identifier : first.isIdentifier = true)
    (opens : second.text = "(") (whole : ∀ token ∈ first :: second :: rest, token.is "," = false)
    (accepted : allowed ⟨Text.compact first.text⟩) : Listing allowed (first :: second :: rest) := by
  refine ⟨enclosed, ?_⟩
  intro row nodes read attr membership
  have noTarget : ∀ target colon others,
      first :: second :: rest = target :: colon :: others → colon.is ":" = false := by
    rintro target colon others ⟨⟩
    simp [Token.is, opens]
  rw [readAttributes?_of_single noTarget whole] at read
  obtain ⟨node, found, rfl⟩ := Option.map_eq_some_iff.1 read
  obtain ⟨kind, name⟩ := name_of_readAttribute? identifier opens found
  have only : SyntaxNode.attributes [.mk "attribute_list" none row [node]] =
      [⟨Text.compact first.text⟩] := by
    have inside : SyntaxNode.attributes [.mk "attribute_list" none row [node]] =
        (([node].filter fun node => node.kind == "attribute").filterMap fun node =>
          node.name.map fun name => ⟨Text.compact name⟩) ++ [] := rfl
    simp [inside, kind, name]
  rw [only, List.mem_singleton] at membership
  exact membership ▸ accepted

theorem Token.is_eq_false_of_isName {token : Token} (isName : IsName token.text.toList)
    {mark : String} (noName : ¬ IsName mark.toList) : token.is mark = false := by
  rw [Token.is, beq_eq_false_iff_ne]
  rintro rfl
  exact noName isName

theorem Token.is_bracket_eq_false_of_isName {token : Token} (isName : IsName token.text.toList) :
    token.isOpening = false ∧ token.isClosing = false := by
  simp only [Token.isOpening, Token.isClosing]
  repeat rw [Token.is_eq_false_of_isName isName (by decide)]
  exact ⟨rfl, rfl⟩

theorem Enclosed.name {token : Token} {rest : List Token} (word : token.kind = .word)
    (isName : IsName token.text.toList) (enclosed : Enclosed rest) : Enclosed (token :: rest) := by
  obtain ⟨noOpening, noClosing⟩ := Token.is_bracket_eq_false_of_isName isName
  exact .plain (by simp [word]) (by simp [word]) noOpening noClosing enclosed

/-- A text that consists of attribute lists of a kind and of other tokens, given the shapes of its
tokens. -/
inductive Parted (allowed : Attribute → Prop) : List (TokenKind × String) → Prop where
  | nil : Parted allowed []
  | plain {shape rest} : shape.2 ≠ "[" → Parted allowed rest → Parted allowed (shape :: rest)
  | list {inner rest} :
      (∀ tokens : List Token, tokens.map Token.shape = inner → Listing allowed tokens) →
      Parted allowed rest →
      Parted allowed ((.symbol, "[") :: (inner ++ (.symbol, "]") :: rest))

namespace Parted

variable {allowed : Attribute → Prop}

theorem append {first second : List (TokenKind × String)} (parted : Parted allowed first)
    (more : Parted allowed second) : Parted allowed (first ++ second) := by
  induction parted with
  | nil => exact more
  | plain other _ inductionHypothesis => exact .plain other inductionHypothesis
  | list listing _ inductionHypothesis =>
      simpa using Parted.list listing inductionHypothesis

theorem of_plain {shapes : List (TokenKind × String)} (plain : ∀ shape ∈ shapes, shape.2 ≠ "[") :
    Parted allowed shapes := by
  induction shapes with
  | nil => exact .nil
  | cons shape rest inductionHypothesis =>
      rw [List.forall_mem_cons] at plain
      exact .plain plain.1 (inductionHypothesis plain.2)

end Parted

namespace Outline

variable {outline : Outline}

theorem step_of_header (header : ∀ brackets, outline.inner.scope ≠ .block brackets) {token : Token}
    (fit : token.kind ≠ .stray) (code : token.kind ≠ .directive) :
    outline.step token =
      if outline.inner.brackets.isEmpty then outline.stepHeader token
      else outline.stepBrackets token := by
  rw [step]
  split
  · exact absurd ‹token.kind = .stray› fit
  · exact absurd ‹token.kind = .directive› code
  · exact absurd ‹token.kind = .directive› code
  · exact absurd ‹outline.inner.scope = .block _› (header _)
  · rfl

theorem step_opening (header : ∀ brackets, outline.inner.scope ≠ .block brackets) {token : Token}
    (symbol : token.kind = .symbol) (opens : token.text = "(" ∨ token.text = "[") :
    outline.step token = outline.onInner fun frame =>
      { frame.push token with brackets := token.text :: frame.brackets } := by
  have opening : token.isOpening = true := by
    rcases opens with text | text <;> simp [Token.isOpening, Token.is, text]
  have noBody : token.is "\x7b" = false := by
    rcases opens with text | text <;> simp [Token.is, text]
  have noEnd : token.is "\x7d" = false ∧ token.is ";" = false := by
    rcases opens with text | text <;> simp [Token.is, text]
  rw [step_of_header header (by simp [symbol]) (by simp [symbol])]
  split
  · rename_i empty
    rw [stepHeader]
    simp [noBody, noEnd, opening, onInner, List.isEmpty_iff.1 empty, Frame.push]
  · rw [stepBrackets]
    simp [opening]

theorem step_closing (header : ∀ brackets, outline.inner.scope ≠ .block brackets) {token : Token}
    (symbol : token.kind = .symbol) (closes : token.text = ")" ∨ token.text = "]")
    {brackets : List String} (open' : outline.inner.brackets = partner token.text :: brackets) :
    outline.step token = outline.onInner fun frame =>
      let next : Frame := { frame.push token with brackets := brackets }
      if brackets.isEmpty && next.isGlobalAttributeList then next.reset else next := by
  have noOpening : token.isOpening = false := by
    rcases closes with text | text <;> simp [Token.isOpening, Token.is, text]
  have closing : token.isClosing = true := by
    rcases closes with text | text <;> simp [Token.isClosing, Token.is, text]
  have noEnd : token.is "\x7d" = false := by
    rcases closes with text | text <;> simp [Token.is, text]
  rw [step_of_header header (by simp [symbol]) (by simp [symbol]), open', stepBrackets]
  simp [noOpening, closing, noEnd, open', closeBracket, onInner]

theorem foldl_step_enclosed {tokens : List Token} (enclosed : Enclosed tokens) (outline : Outline)
    (header : ∀ brackets, outline.inner.scope ≠ .block brackets) {bracket : String}
    {brackets : List String} (open' : outline.inner.brackets = bracket :: brackets) :
    tokens.foldl step outline = outline.onInner fun frame =>
      { frame with header := tokens.reverse ++ frame.header } := by
  induction enclosed generalizing outline bracket brackets with
  | nil => rfl
  | @plain token rest fit code opens closes _ inductionHypothesis =>
      have noEnd : token.is "\x7d" = false := by
        simp only [Token.isClosing, Bool.or_eq_false_iff] at closes
        exact closes.2
      have added : outline.step token = outline.onInner (·.push token) := by
        rw [step_of_header header fit code, open', stepBrackets]
        simp [opens, closes, noEnd]
      rw [List.foldl_cons, added, inductionHypothesis (outline.onInner (·.push token)) header open']
      simp [onInner, Frame.push]
  | @round opening inner closing rest symbol opens symbol' closes _ _ inside behind =>
      rw [Token.is, beq_iff_eq] at opens closes
      have opened := step_opening header symbol (.inl opens)
      generalize begun : outline.step opening = first at opened
      have header' : ∀ brackets, first.inner.scope ≠ .block brackets := opened ▸ header
      have more : first.inner.brackets = "(" :: bracket :: brackets := by
        simp [opened, onInner, Frame.push, opens, open']
      have within := inside first header' more
      generalize ended : inner.foldl step first = second at within
      have closed : second.step closing = second.onInner fun frame =>
          { frame.push closing with brackets := bracket :: brackets } := by
        rw [step_closing (within ▸ header') symbol' (.inl closes)
          (by rw [closes, within]; exact more)]
        rfl
      rw [List.foldl_cons, List.foldl_append, List.foldl_cons, begun, ended, closed,
        behind (second.onInner _) (within ▸ header') rfl]
      simp [within, opened, onInner, Frame.push, open']

end Outline

theorem Enclosed.code {tokens : List Token} (enclosed : Enclosed tokens) :
    ∀ token ∈ tokens, token.kind ≠ .stray ∧ token.kind ≠ .directive ∧ token.is "\x7d" = false := by
  induction enclosed with
  | nil => nofun
  | plain fit code _ closes _ inductionHypothesis =>
      simp only [Token.isClosing, Bool.or_eq_false_iff] at closes
      exact List.forall_mem_cons.2 ⟨⟨fit, code, closes.2⟩, inductionHypothesis⟩
  | round symbol opens symbol' closes _ _ inside behind =>
      rw [Token.is, beq_iff_eq] at opens closes
      intro token membership
      rw [List.mem_cons, List.mem_append, List.mem_cons] at membership
      rcases membership with rfl | among | rfl | later
      · simp [symbol, Token.is, opens]
      · exact inside token among
      · simp [symbol', Token.is, closes]
      · exact behind token later

namespace Outline.Holds

variable {allowed : Attribute → Prop} {outline : Outline}

theorem step_block {law : HeaderLaw} (holds : outline.Holds law) {brackets : List String}
    (block : outline.inner.scope = .block brackets) {token : Token} (fit : token.kind ≠ .stray)
    (code : token.kind ≠ .directive) (noEnd : token.is "\x7d" = false) :
    (outline.step token).Holds law ∧
      ∃ others, (outline.step token).inner.scope = .block others := by
  have read : outline.step token = outline.stepBlock brackets token := by
    rw [Outline.step, block]
    split
    · exact absurd ‹token.kind = .stray› fit
    · exact absurd ‹token.kind = .directive› code
    · exact absurd ‹token.kind = .directive› code
    · rename_i same _ _
      rw [Scope.block.inj same]
    · exact absurd rfl (‹∀ others, Scope.block brackets = Scope.block others → False› brackets)
  rw [read]
  refine ⟨holds.stepBlock brackets token, ?_⟩
  rw [Outline.stepBlock]
  simp only [noEnd, Bool.false_eq_true, if_false]
  split
  · exact ⟨_, rfl⟩
  · split
    · split
      · exact ⟨_, rfl⟩
      · exact ⟨brackets, block⟩
    · exact ⟨brackets, block⟩

theorem foldl_block {law : HeaderLaw} {tokens : List Token} (holds : outline.Holds law)
    {brackets : List String} (block : outline.inner.scope = .block brackets)
    (code : ∀ token ∈ tokens, token.kind ≠ .stray ∧ token.kind ≠ .directive ∧
      token.is "\x7d" = false) : (tokens.foldl Outline.step outline).Holds law := by
  induction tokens generalizing outline brackets with
  | nil => exact holds
  | cons token rest inductionHypothesis =>
      rw [List.forall_mem_cons] at code
      obtain ⟨next, others, scope⟩ := holds.step_block block code.1.1 code.1.2.1 code.1.2.2
      exact inductionHypothesis next scope code.2

/-- A list as a whole keeps what is known, wherever it stands. -/
theorem list (holds : outline.Holds (listLaw allowed)) {opening closing : Token}
    {inner : List Token} (opens : opening.shape = (.symbol, "["))
    (closes : closing.shape = (.symbol, "]")) (listing : Listing allowed inner) :
    ((opening :: (inner ++ [closing])).foldl Outline.step outline).Holds (listLaw allowed) := by
  obtain ⟨symbol, opens⟩ := Prod.mk.inj opens
  obtain ⟨symbol', closes⟩ := Prod.mk.inj closes
  by_cases block : ∃ brackets, outline.inner.scope = .block brackets
  · obtain ⟨brackets, block⟩ := block
    apply holds.foldl_block block
    intro token membership
    rw [List.mem_cons, List.mem_append, List.mem_singleton] at membership
    rcases membership with rfl | among | rfl
    · simp [symbol, Token.is, opens]
    · exact listing.enclosed.code token among
    · simp [symbol', Token.is, closes]
  · have header : ∀ brackets, outline.inner.scope ≠ .block brackets :=
      fun brackets same => block ⟨brackets, same⟩
    have opened := step_opening header symbol (.inr opens)
    generalize begun : outline.step opening = first at opened
    have header' : ∀ brackets, first.inner.scope ≠ .block brackets := opened ▸ header
    have more : first.inner.brackets = "[" :: outline.inner.brackets := by
      simp [opened, Outline.onInner, Frame.push, opens]
    have within := foldl_step_enclosed listing.enclosed first header' more
    generalize ended : inner.foldl Outline.step first = second at within
    have remaining : second.inner.brackets = partner closing.text :: outline.inner.brackets := by
      rw [closes, within]
      exact more
    have closed := step_closing (within ▸ header') symbol' (.inr closes) remaining
    have known : Listed allowed (outline.inner.tokens ++ opening :: (inner ++ [closing])) :=
      Listed.list holds.inner.header (by simp [Token.is, closes]) listing
    have pushed : Frame.Holds (listLaw allowed)
        { second.inner.push closing with brackets := outline.inner.brackets } := by
      refine ⟨?_, ?_, ?_⟩
      · rw [within, opened]
        exact holds.inner.scope
      · rw [within, opened]
        exact holds.inner.nodes
      · have header : second.inner.header = inner.reverse ++ opening :: outline.inner.header := by
          rw [within, opened]
          rfl
        simpa [listLaw, Frame.tokens, Frame.push, header] using known
    rw [List.foldl_cons, List.foldl_append, begun, ended, List.foldl_cons, List.foldl_nil, closed]
    refine ⟨?_, ?_⟩
    · simp only [Outline.onInner]
      split
      · exact pushed.reset
      · exact pushed
    · rw [within, opened]
      exact holds.outer

/-- Reading a text in parts keeps what is known. -/
theorem foldl_parted {shapes : List (TokenKind × String)} (parted : Parted allowed shapes)
    (holds : outline.Holds (listLaw allowed)) {tokens : List Token}
    (same : tokens.map Token.shape = shapes) :
    (tokens.foldl Outline.step outline).Holds (listLaw allowed) := by
  induction parted generalizing outline tokens with
  | nil =>
      rw [List.map_eq_nil_iff.1 same]
      exact holds
  | plain other _ inductionHypothesis =>
      obtain ⟨token, rest, rfl, rfl, further⟩ := List.map_eq_cons_iff.1 same
      have plain : token.is "[" = false := by simpa [Token.is, Token.shape] using other
      exact inductionHypothesis (holds.step plain) further
  | @list inner rest listing _ inductionHypothesis =>
      obtain ⟨opening, _, rfl, opens, same⟩ := List.map_eq_cons_iff.1 same
      obtain ⟨inside, _, rfl, within, same⟩ := List.map_eq_append_iff.1 same
      obtain ⟨closing, behind, rfl, closes, further⟩ := List.map_eq_cons_iff.1 same
      have next := holds.list opens closes (listing inside within)
      have all := inductionHypothesis next further
      rw [← List.foldl_append] at all
      simpa using all

end Outline.Holds

end Registrar.Syntax
