import Registrar.Proofs.Syntax.Lexing
import Registrar.Syntax.Operand

/-!
# Tokens in order

Brackets may stand anywhere, a dot in front of a word, and a name in front of a mark. Where only
this happens, apart from keywords, no two tokens clash.
-/

set_option autoImplicit false

namespace Registrar.Syntax

/-- A word behind which no parenthesis has to follow. -/
structure IsCalmWord (token : Token) : Prop where
  word : token.kind = .word
  isName : IsName token.text.toList
  calm : token.text ∉ parenthesizedKeywords

/-- Tokens each of which may stand in front of the next. -/
inductive Orderly : List Token → Prop where
  | nil : Orderly []
  | mark {token rest} : token.kind = .symbol → token.text ∈ ["[", "]", "\x7b", "\x7d"] →
      Orderly rest → Orderly (token :: rest)
  | keyword {token rest} : IsCalmWord token → isPlainName token = false → Orderly rest →
      Orderly (token :: rest)
  | name {token next rest} : IsCalmWord token → next.kind = .symbol → Orderly (next :: rest) →
      Orderly (token :: next :: rest)
  | dot {token next rest} : token.kind = .symbol → token.text = "." → next.kind = .word →
      Orderly (next :: rest) → Orderly (token :: next :: rest)

theorem isPlainName_of_symbol {token : Token} (symbol : token.kind = .symbol) :
    isPlainName token = false := by
  simp [isPlainName, Token.isIdentifier, symbol]

theorem beginsWithThreeNames_of_first {token : Token} (rest : List Token)
    (noName : isPlainName token = false) : beginsWithThreeNames (token :: rest) = false := by
  rw [beginsWithThreeNames.eq_def]
  split
  · rename_i shape
    rw [← (List.cons.inj shape).1, noName]
    rfl
  · rfl

theorem beginsWithThreeNames_of_second {token next : Token} (rest : List Token)
    (noName : isPlainName next = false) : beginsWithThreeNames (token :: next :: rest) = false := by
  cases rest with
  | nil => rfl
  | cons third rest => simp [beginsWithThreeNames, noName]

theorem clash_of_bracket {token : Token} (next : Token) (symbol : token.kind = .symbol)
    (bracket : token.text ∈ ["[", "]", "\x7b", "\x7d"]) : clash token next = false := by
  have calm : ∀ text ∈ ["[", "]", "\x7b", "\x7d"],
      text ≠ "," ∧ text ≠ "(" ∧ text ≠ "." ∧ text ∉ expectingOperators := by decide
  obtain ⟨noComma, noParenthesis, noDot, noOperator⟩ := calm _ bracket
  rw [clash, symbol]
  cases next.kind with
  | symbol => simp [noComma, noParenthesis, noDot, noOperator]
  | _ => rfl

namespace IsCalmWord

variable {token : Token}

theorem clash_eq_false (isCalm : IsCalmWord token) (next : Token) : clash token next = false := by
  have calm := isCalm.calm
  rw [clash, isCalm.word]
  cases next.kind with
  | symbol => simp [calm]
  | word => simp [calm]
  | _ => rfl

theorem isMiscounted_eq_false (isCalm : IsCalmWord token) : isMiscounted token = false := by
  have isName := isCalm.isName
  rw [isMiscounted]
  split
  · rename_i content shape
    rw [shape] at isName
    exact absurd isName.1 (by simp [Lexer.isWord, Text.isIdentifierStart])
  · rfl

end IsCalmWord

theorem hasClash_cons {token : Token} {rest : List Token}
    (apart : ∀ next ∈ rest.head?, clash token next = false) (counted : isMiscounted token = false)
    (names : beginsWithThreeNames (token :: rest) = false) (others : hasClash rest = false) :
    hasClash (token :: rest) = false := by
  rw [hasClash, counted, names, others]
  cases rest with
  | nil => rfl
  | cons next rest => simp [apart next rfl]

theorem hasClash_of_orderly {tokens : List Token} (orderly : Orderly tokens) :
    hasClash tokens = false := by
  induction orderly with
  | nil => rfl
  | @mark token rest symbol bracket _ inductionHypothesis =>
      have counted : isMiscounted token = false := by
        have plain : ∀ text ∈ ["[", "]", "\x7b", "\x7d"], text.toList.head? ≠ some '\x27' := by
          decide
        have first := plain _ bracket
        rw [isMiscounted]
        split
        · rename_i content shape
          simp [shape] at first
        · rfl
      apply hasClash_cons _ counted _ inductionHypothesis
      · exact fun next _ => clash_of_bracket next symbol bracket
      · exact beginsWithThreeNames_of_first rest (isPlainName_of_symbol symbol)
  | @keyword token rest isCalm noName _ inductionHypothesis =>
      apply hasClash_cons _ isCalm.isMiscounted_eq_false _ inductionHypothesis
      · exact fun next _ => isCalm.clash_eq_false next
      · exact beginsWithThreeNames_of_first rest noName
  | @name token next rest isCalm symbol _ inductionHypothesis =>
      apply hasClash_cons _ isCalm.isMiscounted_eq_false _ inductionHypothesis
      · exact fun next _ => isCalm.clash_eq_false next
      · exact beginsWithThreeNames_of_second rest (isPlainName_of_symbol symbol)
  | @dot token next rest symbol text word _ inductionHypothesis =>
      have counted : isMiscounted token = false := by simp [isMiscounted, text]
      apply hasClash_cons _ counted _ inductionHypothesis
      · rintro _ ⟨⟩
        rw [clash, symbol, word]
      · exact beginsWithThreeNames_of_first _ (isPlainName_of_symbol symbol)

end Registrar.Syntax
