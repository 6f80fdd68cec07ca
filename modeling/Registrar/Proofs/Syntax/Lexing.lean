import Registrar.Syntax.Token

/-!
# Reading text piece by piece

The kinds and texts of tokens do not depend on gaps and rows. So a piece of text that is read by
itself gives the tokens that it gives anywhere else, once what stood before it has come to its end.
A word, whatever its letters, is read as one token.
-/

set_option autoImplicit false

namespace Registrar.Syntax

/-- What a token is apart from its place. -/
def Token.shape (token : Token) : TokenKind × String := (token.kind, token.text)

namespace Lexer

/-- The second state stands where the first does, behind tokens of the given shapes. -/
structure Similar (before : List (TokenKind × String)) (first second : State) : Prop where
  mode : second.mode = first.mode
  text : second.text = first.text
  shapes : second.tokens.map Token.shape = first.tokens.map Token.shape ++ before

namespace Similar

variable {before : List (TokenKind × String)} {first second first' second' : State}

theorem emit (similar : Similar before first second) (kind : TokenKind) :
    Similar before (first.emit kind) (second.emit kind) := by
  refine ⟨rfl, rfl, ?_⟩
  simp only [State.emit, List.map_cons, similar.shapes, List.cons_append, Token.shape, similar.text]

theorem emitWord (similar : Similar before first second) :
    Similar before first.emitWord second.emitWord := by
  rw [State.emitWord, State.emitWord, similar.text]
  exact similar.emit _

theorem begin (similar : Similar before first second) (mode : Mode) (c : Char) :
    Similar before (first.begin mode c) (second.begin mode c) := ⟨rfl, rfl, similar.shapes⟩

theorem extend (similar : Similar before first second) (mode : Mode) (c : Char) :
    Similar before (first.extend mode c) (second.extend mode c) :=
  ⟨rfl, congrArg (c :: ·) similar.text, similar.shapes⟩

theorem skip (similar : Similar before first second) (mode : Mode) (c : Char) :
    Similar before (first.skip mode c) (second.skip mode c) := ⟨rfl, similar.text, similar.shapes⟩

theorem comment (similar : Similar before first second) (mode : Mode) (c : Char) :
    Similar before (first.comment mode c) (second.comment mode c) := ⟨rfl, rfl, similar.shapes⟩

theorem ite {condition : Prop} [Decidable condition] (positive : Similar before first second)
    (negative : Similar before first' second') :
    Similar before (if condition then first else first')
      (if condition then second else second') := by
  split
  · exact positive
  · exact negative

theorem fresh (similar : Similar before first second) (c : Char) :
    Similar before (first.fresh c) (second.fresh c) := by
  refine .ite (similar.skip _ c) (.ite (similar.begin _ c) (.ite (similar.begin _ c) ?_))
  refine .ite (similar.begin _ c) (.ite (similar.begin _ c) (.ite (similar.begin _ c) ?_))
  refine .ite (similar.begin _ c) (.ite (similar.begin _ c) (.ite (similar.begin _ c) ?_))
  exact .ite (similar.begin _ c) ((similar.begin _ c).emit _)

theorem afterSymbol (similar : Similar before first second) (c : Char) :
    Similar before (first.afterSymbol c) (second.afterSymbol c) := by
  rw [State.afterSymbol, State.afterSymbol, similar.text]
  exact .ite (similar.extend _ c) ((similar.emit _).fresh c)

theorem read (similar : Similar before first second) (c : Char) :
    Similar before (first.read c) (second.read c) := by
  rw [State.read, State.read, similar.mode, similar.text]
  split
  · exact similar.fresh c
  · exact .ite (similar.comment _ c) (.ite (similar.comment _ c) (similar.afterSymbol c))
  · exact similar.skip _ c
  · exact similar.skip _ c
  · exact .ite (similar.extend _ c) (similar.emitWord.fresh c)
  · exact .ite (similar.extend _ c) ((similar.emit _).fresh c)
  · exact similar.afterSymbol c
  · exact .ite ((similar.emit _).fresh c) (similar.extend _ c)
  · refine .ite (similar.extend _ c) (.ite (similar.extend _ c) (.ite (similar.extend _ c) ?_))
    exact .ite (similar.extend _ c) ((similar.emit _).fresh c)
  · split
    · exact similar.extend _ c
    · exact (similar.extend _ c).emit _
    · exact (similar.emit _).fresh c
    · exact (similar.emit _).fresh c

theorem step (similar : Similar before first second) (c : Char) :
    Similar before (first.step c) (second.step c) := by
  have next := similar.read c
  exact ⟨next.mode, next.text, next.shapes⟩

theorem run (similar : Similar before first second) (text : List Char) :
    Similar before (run first text) (run second text) := by
  induction text generalizing first second with
  | nil => exact similar
  | cons c rest inductionHypothesis => exact inductionHypothesis (similar.step c)

end Similar

/-- Where a state stands: behind tokens of the given shapes, the last one first, and in the token
under way. -/
def Stands (state : State) (mode : Mode) (text : List Char) (shapes : List (TokenKind × String)) :
    Prop :=
  state.mode = mode ∧ state.text = text ∧ state.tokens.map Token.shape = shapes

instance (state : State) (mode : Mode) (text : List Char) (shapes : List (TokenKind × String)) :
    Decidable (Stands state mode text shapes) :=
  inferInstanceAs (Decidable (_ ∧ _ ∧ _))

/-- A piece of text gives the tokens that it gives by itself. -/
theorem Stands.run {state : State} {mode mode' : Mode} {text text' piece : List Char}
    {before shapes : List (TokenKind × String)} (stands : Stands state mode text before)
    (alone : Stands (run { mode := mode, text := text } piece) mode' text' shapes) :
    Stands (run state piece) mode' text' (shapes ++ before) := by
  obtain ⟨sameMode, sameText, sameShapes⟩ := stands
  have similar : Similar before { mode := mode, text := text } state :=
    ⟨sameMode, sameText, by simpa using sameShapes⟩
  obtain ⟨nextMode, nextText, nextShapes⟩ := similar.run piece
  exact ⟨nextMode.trans alone.1, nextText.trans alone.2.1, by rw [nextShapes, alone.2.2]⟩

def isWordPart (c : Char) : Bool := Text.isIdentifierPart c || c == '\\'

def isWord : List Char → Bool
  | [] => false
  | c :: rest =>
      (if c = '@' then rest.head?.any Text.isIdentifierStart
        else Text.isIdentifierStart c || c == '\\') && rest.all isWordPart

theorem isWord_append {word more : List Char} (begun : isWord word = true)
    (parts : more.all isWordPart = true) : isWord (word ++ more) = true := by
  cases word with
  | nil => cases begun
  | cons c rest =>
      simp only [isWord, Bool.and_eq_true] at begun
      obtain ⟨start, inside⟩ := begun
      have head : (if c = '@' then (rest ++ more).head?.any Text.isIdentifierStart
          else Text.isIdentifierStart c || c == '\\') = true := by
        cases rest with
        | nil =>
            split
            · rename_i sign
              simp [sign] at start
            · rename_i noSign
              simpa [noSign] using start
        | cons d rest => exact start
      simp only [List.cons_append, isWord, head, List.all_append, inside, parts, Bool.and_self]

theorem escapesFit_append {word more : List Char} (fit : escapesFit word = true)
    (others : escapesFit more = true) : escapesFit (word ++ more) = true := by
  fun_induction escapesFit word with
  | case1 => exact others
  | case2 a b c d rest inductionHypothesis =>
      rw [Bool.and_eq_true] at fit
      simp only [List.cons_append, escapesFit, fit.1, inductionHypothesis fit.2, Bool.and_self]
  | case3 rest inductionHypothesis =>
      simp only [Bool.and_eq_true, beq_iff_eq] at fit
      obtain ⟨⟨long, digits⟩, further⟩ := fit
      have bound : 8 ≤ rest.length := by
        rw [List.length_take] at long
        omega
      have same : (rest ++ more).take 8 = rest.take 8 := List.take_append_of_le_length bound
      simp only [List.cons_append, escapesFit, same, long, digits, inductionHypothesis further,
        beq_self_eq_true, Bool.and_self]
  | case4 => cases fit
  | case5 c rest _ _ noSign inductionHypothesis =>
      have plain : c ≠ '\\' := noSign
      rw [List.cons_append, escapesFit]
      · exact inductionHypothesis fit
      all_goals simp [plain]

def blankCodes : List Nat :=
  [9, 10, 11, 12, 13, 0x20, 0x85, 0xA0, 0x1680, 0x2000, 0x2001, 0x2002, 0x2003, 0x2004, 0x2005,
    0x2006, 0x2007, 0x2008, 0x2009, 0x200A, 0x2028, 0x2029, 0x202F, 0x205F, 0x3000]

theorem isBlank_of_isWordPart {c : Char} (part : isWordPart c = true) : Text.isBlank c = false := by
  have checked : ∀ code ∈ blankCodes, isWordPart (Char.ofNat code) = false := by decide +kernel
  rw [← Bool.not_eq_true]
  intro blank
  have among : c.toNat ∈ blankCodes := by
    simp only [Text.isBlank, Bool.or_eq_true, Bool.and_eq_true, decide_eq_true_eq, beq_iff_eq]
      at blank
    simp only [blankCodes, List.mem_cons, List.not_mem_nil, or_false]
    omega
  have notPart := checked c.toNat among
  rw [Char.ofNat_toNat, part] at notPart
  cases notPart

theorem step_of_word {state : State} {c : Char} (mode : state.mode = .word)
    (ends : isWordPart c = false) : state.step c = state.emitWord.step c := by
  rw [isWordPart] at ends
  simp [State.step, State.read, mode, ends, State.emitWord, State.emit]

theorem step_of_parenthesis {state : State} (mode : state.mode = .symbol)
    (text : state.text = ['('])
    (c : Char) : state.step c = (state.emit .symbol).step c := by
  have short : longSymbols.contains (c :: ['(']).reverse = false := by
    simp [longSymbols]
  rw [State.step, State.step, State.read, mode]
  simp only [State.afterSymbol, text, short]
  rfl

theorem isWordPart_of_start {c : Char}
    (start : (Text.isIdentifierStart c || c == '\\') = true) : isWordPart c = true := by
  rw [isWordPart]
  rcases Bool.or_eq_true_iff.1 start with letter | sign
  · rw [Text.isIdentifierPart_of_isIdentifierStart letter, Bool.true_or]
  · rw [sign, Bool.or_true]

theorem fresh_of_start {c : Char} (start : (Text.isIdentifierStart c || c == '\\') = true)
    (state : State) : state.fresh c = state.begin .word c := by
  have notBlank := isBlank_of_isWordPart (isWordPart_of_start start)
  have notMark : (c == '\uFEFF') = false := by
    rw [beq_eq_false_iff_ne]
    rintro rfl
    exact absurd start (by decide +kernel)
  have notSlash : c ≠ '/' := by
    rintro rfl
    exact absurd start (by decide)
  rw [State.fresh]
  simp only [notBlank, notMark, Bool.or_self, Bool.false_eq_true, if_false, notSlash, start,
    if_true]

namespace Stands

variable {state : State} {text : List Char} {shapes : List (TokenKind × String)}

theorem part (stands : Stands state .word text shapes) {c : Char} (inside : isWordPart c = true) :
    Stands (state.step c) .word (c :: text) shapes := by
  obtain ⟨mode, sameText, sameShapes⟩ := stands
  rw [isWordPart] at inside
  rw [State.step, State.read, mode]
  simp only [inside, if_true]
  exact ⟨rfl, congrArg (c :: ·) sameText, sameShapes⟩

theorem parts (stands : Stands state .word text shapes) {more : List Char}
    (inside : more.all isWordPart = true) :
    Stands (Lexer.run state more) .word (more.reverse ++ text) shapes := by
  induction more generalizing state text with
  | nil => exact stands
  | cons c rest inductionHypothesis =>
      simp only [List.all_cons, Bool.and_eq_true] at inside
      rw [run_cons, List.reverse_cons, List.append_assoc, List.singleton_append]
      exact inductionHypothesis (stands.part inside.1) inside.2

theorem start (stands : Stands state .gap [] shapes) {c : Char}
    (start : (Text.isIdentifierStart c || c == '\\') = true) :
    Stands (state.step c) .word [c] shapes := by
  rw [State.step, State.read, stands.1]
  simp only [fresh_of_start start]
  exact ⟨rfl, rfl, stands.2.2⟩

theorem word (stands : Stands state .gap [] shapes) {word : List Char}
    (isOne : isWord word = true) :
    Stands (Lexer.run state word) .word word.reverse shapes := by
  cases word with
  | nil => cases isOne
  | cons c rest =>
      simp only [isWord, Bool.and_eq_true] at isOne
      obtain ⟨begins, inside⟩ := isOne
      split at begins
      · rename_i sign
        subst sign
        cases rest with
        | nil => cases begins
        | cons d rest =>
            have letter : Text.isIdentifierStart d = true := begins
            have begun : Stands ((state.step '@').step d) .word [d, '@'] shapes := by
              have notDollar : d ≠ '$' := by
                rintro rfl
                exact absurd letter (by decide)
              have notSign : d ≠ '@' := by
                rintro rfl
                exact absurd letter (by decide)
              have notQuote : d ≠ '"' := by
                rintro rfl
                exact absurd letter (by decide)
              have first : state.step '@' = { state.begin (.sigil 0 true) '@' with
                  row := (state.step '@').row } := by
                rw [State.step, State.read, stands.1]
                rfl
              rw [first, State.step, State.read]
              simp only [State.begin, notDollar, notSign, notQuote, if_false, letter, and_self,
                if_true]
              exact ⟨rfl, rfl, stands.2.2⟩
            simp only [List.all_cons, Bool.and_eq_true] at inside
            simpa using begun.parts inside.2
      · simpa using (stands.start begins).parts inside

end Stands

/-- Where a piece ends that a word may follow: in a gap or behind an opening parenthesis. -/
inductive Ready (state : State) : List (TokenKind × String) → Prop where
  | gap {shapes} : Stands state .gap [] shapes → Ready state shapes
  | parenthesis {shapes} :
      Stands state .symbol ['('] shapes → Ready state ((.symbol, "(") :: shapes)

theorem Ready.word {state : State} {before shapes : List (TokenKind × String)}
    {word rest : List Char} {next : Char} {mode : Mode} {text : List Char}
    (ready : Ready state before) (isOne : isWord word = true) (escapes : escapesFit word = true)
    (ends : isWordPart next = false)
    (alone : Stands (run { } (next :: rest)) mode text shapes) :
    Stands (run state (word ++ next :: rest)) mode text
      (shapes ++ (.word, String.ofList word) :: before) := by
  have read : Stands (run state word) .word word.reverse before := by
    cases ready with
    | gap stands => exact stands.word isOne
    | @parenthesis before stands =>
        have behind : Stands (state.emit .symbol) .gap [] ((.symbol, "(") :: before) := by
          refine ⟨rfl, rfl, ?_⟩
          simp only [State.emit, List.map_cons, Token.shape, stands.2.1, stands.2.2]
          rfl
        cases word with
        | nil => cases isOne
        | cons c rest =>
            rw [run_cons, step_of_parenthesis stands.1 stands.2.1, ← run_cons]
            exact behind.word isOne
  have behind :
      Stands (run state word).emitWord .gap [] ((.word, String.ofList word) :: before) := by
    refine ⟨rfl, rfl, ?_⟩
    simp only [State.emitWord, State.emit, List.map_cons, Token.shape, read.2.1, read.2.2,
      List.reverse_reverse, escapes, if_true]
  rw [run_append, run_cons, step_of_word read.1 ends, ← run_cons]
  exact behind.run alone

/-- A text that is read from gap to gap gives tokens of the given shapes. -/
def Reads (text : List Char) (shapes : List (TokenKind × String)) : Prop :=
  ∀ state before, Stands state .gap [] before →
    Stands (run state text) .gap [] (shapes.reverse ++ before)

namespace Reads

theorem nil : Reads [] [] := fun _ _ stands => stands

theorem append {first second : List Char} {shapes more : List (TokenKind × String)}
    (reads : Reads first shapes) (others : Reads second more) :
    Reads (first ++ second) (shapes ++ more) := by
  intro state before stands
  rw [run_append, List.reverse_append, List.append_assoc]
  exact others _ _ (reads _ _ stands)

theorem of_alone {text : List Char} {shapes : List (TokenKind × String)}
    (alone : Stands (run { } text) .gap [] shapes.reverse) : Reads text shapes :=
  fun _ _ stands => stands.run alone

theorem lex_eq {text : List Char} {shapes : List (TokenKind × String)} (reads : Reads text shapes) :
    (lex text).tokens.map Token.shape = shapes := by
  obtain ⟨mode, -, tokens⟩ := reads { } [] ⟨rfl, rfl, rfl⟩
  have done : (run { } text).finish = run { } text := by rw [State.finish, mode]
  simp [lex, done, tokens]

end Reads

end Lexer

/-- What the text of a word is. -/
def IsName (name : List Char) : Prop := Lexer.isWord name = true ∧ Lexer.escapesFit name = true

instance (name : List Char) : Decidable (IsName name) := inferInstanceAs (Decidable (_ ∧ _))

namespace IsName

variable {name : List Char}

theorem isBlank_eq_false (isName : IsName name) : ∀ c ∈ name, Text.isBlank c = false := by
  obtain ⟨isOne, -⟩ := isName
  cases name with
  | nil => nofun
  | cons first rest =>
      simp only [Lexer.isWord, Bool.and_eq_true] at isOne
      obtain ⟨begins, inside⟩ := isOne
      intro c membership
      rcases List.mem_cons.1 membership with rfl | later
      · split at begins
        · rename_i sign
          subst sign
          decide
        · exact Lexer.isBlank_of_isWordPart (Lexer.isWordPart_of_start begins)
      · exact Lexer.isBlank_of_isWordPart (List.all_eq_true.1 inside c later)

theorem append (isName : IsName name) {more : List Char}
    (parts : more.all Lexer.isWordPart = true) (escapes : Lexer.escapesFit more = true) :
    IsName (name ++ more) :=
  ⟨Lexer.isWord_append isName.1 parts, Lexer.escapesFit_append isName.2 escapes⟩

theorem isCompact {name : String} (isName : IsName name.toList) : Text.IsCompact name :=
  isName.isBlank_eq_false

theorem compact_eq {name : String} (isName : IsName name.toList) : Text.compact name = name := by
  rw [← String.toList_inj, Text.toList_compact, List.filter_eq_self]
  intro c membership
  rw [isName.isBlank_eq_false c membership]
  rfl

end IsName

end Registrar.Syntax
