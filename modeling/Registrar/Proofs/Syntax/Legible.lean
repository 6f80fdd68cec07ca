import Registrar.Proofs.Syntax.Lexing

/-!
# Legible text

A text of words and single marks, with blanks between them, is read as these words and marks: each
token has the blanks in front of it as its gap and stands in its row. The rules of `Legible` follow
the text from its front to its end, so that what is known of the end of a text is kept when
something is put in front of it.
-/

set_option autoImplicit false

namespace Registrar.Syntax

namespace Lexer

def isMark (c : Char) : Bool := ['[', ']', '\x7b', '\x7d', '.'].contains c

/-- The text behind the gap, which begins in the given row, has the given tokens. It ends in a
gap. -/
inductive Legible : String → Nat → List Char → List Token → Prop where
  | nil {gap row} : Legible gap row [] []
  | blank {gap row c rest tokens} : Text.isBlank c = true →
      Legible (gap.push c) (row + if c = '\n' then 1 else 0) rest tokens →
      Legible gap row (c :: rest) tokens
  | word {gap row first others next rest tokens} : Text.isIdentifierStart first = true →
      others.all isWordPart = true → escapesFit (first :: others) = true →
      isWordPart next = false → Legible "" row (next :: rest) tokens →
      Legible gap row (first :: (others ++ next :: rest))
        (⟨.word, gap, String.ofList (first :: others), row⟩ :: tokens)
  | mark {gap row c next rest tokens} : isMark c = true → isSymbolChar next = false →
      Legible "" row (next :: rest) tokens →
      Legible gap row (c :: next :: rest) (⟨.symbol, gap, String.ofList [c], row⟩ :: tokens)

namespace Legible

variable {row : Nat} {rest : List Char} {tokens : List Token}

theorem space (legible : Legible " " row rest tokens) : Legible "" row (' ' :: rest) tokens := by
  apply Legible.blank (by decide)
  exact legible

theorem newline (legible : Legible "\n" (row + 1) rest tokens) :
    Legible "" row ('\n' :: rest) tokens := by
  apply Legible.blank (by decide)
  exact legible

end Legible

/-- No token is under way; the gap has been read, and the next character stands in the row. -/
structure AtRest (state : State) (gap : String) (row : Nat) : Prop where
  mode : state.mode = .gap
  gap : state.gap = gap.toList.reverse
  row : state.row = row

variable {state : State} {gap : String} {row : Nat}

theorem not_feed_of_isWordPart {c : Char} (part : isWordPart c = true) : c ≠ '\n' := by
  rintro rfl
  exact absurd part (by decide)

theorem run_parts {others : List Char} (mode : state.mode = .word)
    (parts : others.all isWordPart = true) :
    run state others = { state with text := others.reverse ++ state.text } := by
  induction others generalizing state with
  | nil => rfl
  | cons c rest inductionHypothesis =>
      rw [List.all_cons, Bool.and_eq_true] at parts
      have inside : (Text.isIdentifierPart c || c == '\\') = true := parts.1
      have next : state.step c = { state with text := c :: state.text } := by
        simp [State.step, State.read, mode, inside, State.extend, not_feed_of_isWordPart parts.1]
      have further : run { state with text := c :: state.text } rest =
          { state with text := rest.reverse ++ c :: state.text } := inductionHypothesis mode parts.2
      rw [run_cons, next, further]
      simp

namespace AtRest

theorem blank (atRest : AtRest state gap row) {c : Char} (isBlank : Text.isBlank c = true) :
    AtRest (state.step c) (gap.push c) (row + if c = '\n' then 1 else 0) ∧
      (state.step c).tokens = state.tokens := by
  have next : state.step c =
      { state.skip .gap c with row := row + if c = '\n' then 1 else 0 } := by
    simp [State.step, State.read, atRest.mode, State.fresh, isBlank, atRest.row]
  rw [next]
  refine ⟨⟨rfl, ?_, rfl⟩, rfl⟩
  simp [State.skip, atRest.gap]

theorem word (atRest : AtRest state gap row) {first next : Char} {others rest : List Char}
    (start : Text.isIdentifierStart first = true) (parts : others.all isWordPart = true)
    (escapes : escapesFit (first :: others) = true) (ends : isWordPart next = false) :
    ∃ behind, AtRest behind "" row ∧
      behind.tokens = ⟨.word, gap, String.ofList (first :: others), row⟩ :: state.tokens ∧
      run state (first :: (others ++ next :: rest)) = run behind (next :: rest) := by
  have isStart : (Text.isIdentifierStart first || first == '\\') = true := by simp [start]
  have begun : state.step first = state.begin .word first := by
    have oneRow := not_feed_of_isWordPart (isWordPart_of_start isStart)
    simp [State.step, State.read, atRest.mode, fresh_of_start isStart, State.begin, oneRow]
  have read : run (state.begin .word first) others =
      { state.begin .word first with text := others.reverse ++ [first] } := run_parts rfl parts
  -- only the next character ends the word; the state behind has not read that one yet
  refine ⟨(run (state.begin .word first) others).emitWord, ?_, ?_, ?_⟩
  · rw [read]
    exact ⟨rfl, rfl, atRest.row⟩
  · have fit : escapesFit (others.reverse ++ [first]).reverse = true := by simpa using escapes
    rw [read]
    simp only [State.emitWord, fit, if_true]
    simp [State.emit, State.begin, atRest.gap, atRest.row]
  · rw [run_cons, begun, run_append, run_cons, run_cons, step_of_word _ ends]
    rw [read]
    rfl

theorem fresh_of_isMark {c : Char} (isMark : isMark c = true) (state : State) :
    state.fresh c = state.begin .symbol c := by
  simp only [Lexer.isMark, List.contains_iff_mem, List.mem_cons, List.not_mem_nil, or_false]
    at isMark
  rcases isMark with rfl | rfl | rfl | rfl | rfl <;> rfl

theorem longSymbols_of_mark {c next : Char} (other : isSymbolChar next = false) :
    longSymbols.contains [c, next] = false := by
  have only : ∀ symbol ∈ longSymbols, symbol.all isSymbolChar = true := by decide
  rw [← Bool.not_eq_true, List.contains_iff_mem]
  intro membership
  have both := only _ membership
  simp [other] at both

theorem mark (atRest : AtRest state gap row) {c next : Char} {rest : List Char}
    (isMark : isMark c = true) (other : isSymbolChar next = false) :
    ∃ behind, AtRest behind "" row ∧
      behind.tokens = ⟨.symbol, gap, String.ofList [c], row⟩ :: state.tokens ∧
      run state (c :: next :: rest) = run behind (next :: rest) := by
  have oneRow : c ≠ '\n' := by
    rintro rfl
    exact absurd isMark (by decide)
  have begun : state.step c = state.begin .symbol c := by
    simp [State.step, State.read, atRest.mode, fresh_of_isMark isMark, State.begin, oneRow]
  refine ⟨(state.begin .symbol c).emit .symbol, ⟨rfl, rfl, atRest.row⟩, ?_, ?_⟩
  · simp [State.emit, State.begin, atRest.gap, atRest.row]
  · have short : longSymbols.contains (next :: (state.begin .symbol c).text).reverse = false :=
      longSymbols_of_mark other
    have ended : (state.begin .symbol c).step next =
        ((state.begin .symbol c).emit .symbol).step next := by
      rw [State.step, State.step, State.read]
      simp only [State.begin, State.afterSymbol] at short ⊢
      simp only [short]
      rfl
    rw [run_cons, begun, run_cons, ended, run_cons]

end AtRest

/-- What is legible is read as it stands. -/
theorem Legible.run {text : List Char} {tokens : List Token} (legible : Legible gap row text tokens)
    (atRest : AtRest state gap row) : (run state text).mode = .gap ∧
      (Lexer.run state text).tokens = tokens.reverse ++ state.tokens := by
  induction legible generalizing state with
  | nil => exact ⟨atRest.mode, rfl⟩
  | blank isBlank _ inductionHypothesis =>
      obtain ⟨next, same⟩ := atRest.blank isBlank
      rw [run_cons, ← same]
      exact inductionHypothesis next
  | word start parts escapes ends _ inductionHypothesis =>
      obtain ⟨behind, next, added, read⟩ := atRest.word start parts escapes ends
      rw [read, List.reverse_cons, List.append_assoc, List.singleton_append, ← added]
      exact inductionHypothesis next
  | mark isMark other _ inductionHypothesis =>
      obtain ⟨behind, next, added, read⟩ := atRest.mark isMark other
      rw [read, List.reverse_cons, List.append_assoc, List.singleton_append, ← added]
      exact inductionHypothesis next

end Lexer

def isAsciiIdentifier : List Char → Bool
  | [] => false
  | first :: rest =>
      (first.isAlpha || first == '_') && rest.all fun c => c.isAlphanum || c == '_'

open Lexer

theorem escapesFit_of_no_escape {word : List Char} (plain : '\\' ∉ word) :
    escapesFit word = true := by
  induction word with
  | nil => rfl
  | cons c rest inductionHypothesis =>
      rw [List.mem_cons, not_or] at plain
      have noEscape : c ≠ '\\' := fun same => plain.1 same.symm
      rw [escapesFit]
      · exact inductionHypothesis plain.2
      all_goals simp [noEscape]

theorem val_lt_of_isAlpha {c : Char} (letter : c.isAlpha = true) : c.val < 128 := by
  rcases Bool.or_eq_true_iff.1 letter with upper | lower
  · have bound : c.val ≤ 'Z'.val := (of_decide_eq_true upper).2
    exact UInt32.lt_of_le_of_lt bound (by decide)
  · have bound : c.val ≤ 'z'.val := of_decide_eq_true (Bool.and_eq_true_iff.1 lower).2
    exact UInt32.lt_of_le_of_lt bound (by decide)

theorem val_lt_of_isDigit {c : Char} (digit : c.isDigit = true) : c.val < 128 := by
  have bound : c.val ≤ '9'.val := of_decide_eq_true (Bool.and_eq_true_iff.1 digit).2
  exact UInt32.lt_of_le_of_lt bound (by decide)

theorem isIdentifierStart_of_ascii {c : Char} (ascii : (c.isAlpha || c == '_') = true) :
    Text.isIdentifierStart c = true := by
  have small : c.val < 128 := by
    rcases Bool.or_eq_true_iff.1 ascii with letter | underscore
    · exact val_lt_of_isAlpha letter
    · rw [beq_iff_eq.1 underscore]
      decide
  rw [Text.isIdentifierStart, if_pos small]
  exact ascii

theorem isWordPart_of_ascii {c : Char} (ascii : (c.isAlphanum || c == '_') = true) :
    isWordPart c = true := by
  have small : c.val < 128 := by
    rcases Bool.or_eq_true_iff.1 ascii with sign | underscore
    · rcases Bool.or_eq_true_iff.1 sign with letter | digit
      · exact val_lt_of_isAlpha letter
      · exact val_lt_of_isDigit digit
    · rw [beq_iff_eq.1 underscore]
      decide
  rw [isWordPart, Text.isIdentifierPart, if_pos small, ascii, Bool.true_or]

theorem exists_of_isAsciiIdentifier {word : List Char} (ascii : isAsciiIdentifier word = true) :
    ∃ first others, word = first :: others ∧ Text.isIdentifierStart first = true ∧
      others.all isWordPart = true ∧ escapesFit word = true := by
  cases word with
  | nil => cases ascii
  | cons first others =>
      rw [isAsciiIdentifier, Bool.and_eq_true, List.all_eq_true] at ascii
      obtain ⟨start, parts⟩ := ascii
      refine ⟨first, others, rfl, isIdentifierStart_of_ascii start, ?_, ?_⟩
      · exact List.all_eq_true.2 fun c membership => isWordPart_of_ascii (parts c membership)
      · apply escapesFit_of_no_escape
        intro membership
        rcases List.mem_cons.1 membership with rfl | later
        · exact absurd start (by decide)
        · exact absurd (parts _ later) (by decide)

theorem isName_of_isAsciiIdentifier {word : List Char} (ascii : isAsciiIdentifier word = true) :
    IsName word := by
  obtain ⟨first, others, rfl, start, parts, escapes⟩ := exists_of_isAsciiIdentifier ascii
  have notSign : first ≠ '@' := by
    rintro rfl
    exact absurd start (by decide)
  exact ⟨by simp [isWord, notSign, start, parts], escapes⟩

theorem isSymbolChar_of_isIdentifierStart {c : Char} (start : Text.isIdentifierStart c = true) :
    isSymbolChar c = false := by
  have others : ("\x7b\x7d[]().,:;+-*/%&|^!~=<>?".toList.all fun mark =>
      !Text.isIdentifierStart mark) = true := by decide
  rw [← Bool.not_eq_true, isSymbolChar, List.contains_iff_mem]
  intro membership
  have noStart := List.all_eq_true.1 others c membership
  rw [start] at noStart
  cases noStart

def endsWord (text : List Char) : Bool := text.head?.any fun c => !isWordPart c

def endsMark (text : List Char) : Bool := text.head?.any fun c => !isSymbolChar c

namespace Lexer.Legible

variable {row : Nat} {rest : List Char} {tokens : List Token}

theorem identifier (gap : String) {text : String} (ascii : isAsciiIdentifier text.toList = true)
    (ends : endsWord rest = true) (legible : Legible "" row rest tokens) :
    Legible gap row (text.toList ++ rest) (⟨.word, gap, text, row⟩ :: tokens) := by
  obtain ⟨first, others, shape, start, parts, escapes⟩ := exists_of_isAsciiIdentifier ascii
  cases rest with
  | nil => cases ends
  | cons next rest =>
      have ends : isWordPart next = false := by simpa [endsWord] using ends
      have word : Legible gap row (first :: (others ++ next :: rest))
          (⟨.word, gap, String.ofList (first :: others), row⟩ :: tokens) :=
        .word start parts (shape ▸ escapes) ends legible
      rw [← shape, String.ofList_toList] at word
      rw [shape]
      exact word

theorem single (gap : String) {c : Char} (isMark : isMark c = true) (ends : endsMark rest = true)
    (legible : Legible "" row rest tokens) :
    Legible gap row (c :: rest) (⟨.symbol, gap, String.ofList [c], row⟩ :: tokens) := by
  cases rest with
  | nil => cases ends
  | cons next rest =>
      apply Legible.mark isMark _ legible
      simpa [endsMark] using ends

end Lexer.Legible

theorem lex_of_legible {text : List Char} {tokens : List Token}
    (legible : Lexer.Legible "" 0 text tokens) : lex text = ⟨tokens, false⟩ := by
  have atRest : Lexer.AtRest { } "" 0 := ⟨rfl, rfl, rfl⟩
  obtain ⟨mode, read⟩ := legible.run atRest
  simp [lex, Lexer.State.finish, mode, read]

end Registrar.Syntax
