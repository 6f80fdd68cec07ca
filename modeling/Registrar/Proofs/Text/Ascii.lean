import Registrar.Proofs.Text.Folding

/-!
# Searching for ASCII texts

Folding makes ASCII letters of two other characters: a k of the Kelvin sign, and of the dotted
capital I an i with a combining dot behind it. So a needle of ASCII characters that has no k in it
and does not end with an i is found in a folded text precisely where it stands in the text itself,
up to the case of ASCII letters.
-/

set_option autoImplicit false

namespace Registrar.Text

def EqAscii (a b : String) : Prop := a.toList.map Char.toLower = b.toList.map Char.toLower

/-- Whether a part of the text equals the needle up to the case of ASCII letters. -/
def HoldsAscii (text needle : String) : Prop :=
  ∃ front part back, text = front ++ part ++ back ∧ EqAscii part needle

/-- What a folded needle has to be for nothing but ASCII characters to fold to it. -/
structure IsFirm (needle : List Char) : Prop where
  ascii : ∀ c ∈ needle, c.val < 128
  no_kelvin : 'k' ∉ needle
  no_dotted : needle.getLast? ≠ some 'i'

theorem holdsAscii_iff (text needle : String) :
    HoldsAscii text needle ↔
      needle.toList.map Char.toLower <:+: text.toList.map Char.toLower := by
  rw [List.infix_map_iff]
  constructor
  · rintro ⟨front, part, back, rfl, equal⟩
    exact ⟨part.toList, ⟨front.toList, back.toList, by simp⟩, equal.symm⟩
  · rintro ⟨part, ⟨front, back, shape⟩, equal⟩
    refine ⟨String.ofList front, String.ofList part, String.ofList back, ?_, ?_⟩
    · apply String.toList_inj.1
      simp [shape]
    · unfold EqAscii
      rw [String.toList_ofList]
      exact equal.symm

theorem targets_of_mem_caseRuns : ∀ run ∈ caseRuns,
    (run.target = 0x6B ∧ run.last = run.first ∨ 128 ≤ run.target) ∧
      (run.target + (run.last - run.first) < 0xD800 ∨
        0xDFFF < run.target ∧ run.target + (run.last - run.first) < 0x110000) := by
  decide +kernel

theorem lowerChar_of_foreign {c : Char} (foreign : ¬ c.val < 128) :
    lowerChar c = ['k'] ∨ lowerChar c = ['i', '\u0307'] ∨
      ∃ d, lowerChar c = [d] ∧ ¬ d.val < 128 := by
  by_cases dotted : c = '\u0130'
  · right
    left
    rw [lowerChar, if_neg foreign, if_pos dotted]
  · rw [lowerChar, if_neg foreign, if_neg dotted]
    cases found : caseRuns.find? (·.covers c.toNat) with
    | none => exact .inr (.inr ⟨c, rfl, foreign⟩)
    | some run =>
        have covered := List.find?_some found
        simp only [CaseRun.covers, Bool.and_eq_true, decide_eq_true_eq] at covered
        obtain ⟨letter, range⟩ := targets_of_mem_caseRuns run (List.mem_of_find?_eq_some found)
        rcases letter with ⟨kelvin, alone⟩ | high
        · left
          have code : run.target + (c.toNat - run.first) = 0x6B := by omega
          simp only [code]
        · right
          right
          have valid : (run.target + (c.toNat - run.first)).isValidChar := by
            unfold Nat.isValidChar
            omega
          refine ⟨_, rfl, ?_⟩
          rw [UInt32.lt_iff_toNat_lt]
          show ¬ (Char.ofNat _).toNat < 128
          rw [toNat_ofNat valid]
          omega

theorem lowerAfter_cons_ascii {c : Char} (low : c.val < 128) (before rest : List Char) :
    lowerAfter before (c :: rest) = c.toLower :: lowerAfter (c :: before) rest := by
  have notSigma : c ≠ '\u03A3' := by
    rintro rfl
    exact absurd low (by decide)
  rw [lowerAfter, if_neg notSigma, lowerChar, if_pos low]
  rfl

theorem lowerAfter_of_ascii {text : List Char} (low : ∀ c ∈ text, c.val < 128)
    (before : List Char) : lowerAfter before text = text.map Char.toLower := by
  induction text generalizing before with
  | nil => rfl
  | cons c rest inductionHypothesis =>
      obtain ⟨first, others⟩ := List.forall_mem_cons.1 low
      rw [lowerAfter_cons_ascii first, inductionHypothesis others, List.map_cons]

theorem lowerAfter_cons_foreign {c : Char} (foreign : ¬ c.val < 128) (before rest : List Char) :
    (∃ d, lowerAfter before (c :: rest) = d :: lowerAfter (c :: before) rest ∧
        (d = 'k' ∨ ¬ d.val < 128)) ∨
      lowerAfter before (c :: rest) = 'i' :: '\u0307' :: lowerAfter (c :: before) rest := by
  by_cases sigma : c = '\u03A3'
  · left
    refine ⟨lowerSigma before rest, ?_, ?_⟩
    · rw [lowerAfter, if_pos sigma]
      rfl
    · right
      unfold lowerSigma
      split <;> decide
  · rw [lowerAfter, if_neg sigma]
    rcases lowerChar_of_foreign foreign with kelvin | dotted | ⟨d, single, high⟩
    · rw [kelvin]
      exact .inl ⟨'k', rfl, .inl rfl⟩
    · rw [dotted]
      exact .inr rfl
    · rw [single]
      exact .inl ⟨d, rfl, .inr high⟩

section Firm

variable {needle : List Char}

theorem IsFirm.tail {c : Char} (firm : IsFirm (c :: needle)) : IsFirm needle := by
  refine ⟨?_, ?_, ?_⟩
  · intro d membership
    exact firm.ascii d (List.mem_cons_of_mem c membership)
  · intro membership
    exact firm.no_kelvin (List.mem_cons_of_mem c membership)
  · intro last
    apply firm.no_dotted
    rw [List.getLast?_cons, last]
    rfl

theorem IsFirm.not_prefix_foreign {c d : Char} (foreign : ¬ c.val < 128)
    (firm : IsFirm (d :: needle)) (before rest : List Char) :
    ¬ d :: needle <+: lowerAfter before (c :: rest) ∧
      ¬ d :: needle <+: (c :: rest).map Char.toLower := by
  have low := firm.ascii d List.mem_cons_self
  constructor
  · intro found
    rcases lowerAfter_cons_foreign foreign before rest with ⟨e, folded, other⟩ | folded
    · rw [folded] at found
      obtain ⟨rfl, -⟩ := List.cons_prefix_cons.1 found
      rcases other with rfl | high
      · exact firm.no_kelvin List.mem_cons_self
      · exact high low
    · -- the needle would have to go on with the combining dot
      rw [folded] at found
      obtain ⟨rfl, behind⟩ := List.cons_prefix_cons.1 found
      cases needle with
      | nil => exact firm.no_dotted rfl
      | cons e others =>
          obtain ⟨rfl, -⟩ := List.cons_prefix_cons.1 behind
          exact absurd (firm.ascii '\u0307' (by simp)) (by decide)
  · intro found
    have code : 128 ≤ c.toNat := Nat.not_lt.1 foreign
    rw [List.map_cons, toLower_of_le (by omega)] at found
    obtain ⟨rfl, -⟩ := List.cons_prefix_cons.1 found
    exact foreign low

theorem IsFirm.prefix_iff (firm : IsFirm needle) (before text : List Char) :
    needle <+: lowerAfter before text ↔ needle <+: text.map Char.toLower := by
  induction text generalizing needle before with
  | nil => rfl
  | cons c rest inductionHypothesis =>
      cases needle with
      | nil => exact iff_of_true List.nil_prefix List.nil_prefix
      | cons d needle =>
          by_cases low : c.val < 128
          · rw [lowerAfter_cons_ascii low, List.map_cons, List.cons_prefix_cons,
              List.cons_prefix_cons, inductionHypothesis firm.tail]
          · obtain ⟨notFolded, notWritten⟩ := firm.not_prefix_foreign low before rest
            exact iff_of_false notFolded notWritten

theorem IsFirm.infix_foreign {c d : Char} (foreign : ¬ c.val < 128)
    (firm : IsFirm (d :: needle)) (before rest : List Char) :
    d :: needle <:+: lowerAfter before (c :: rest) ↔
      d :: needle <:+: lowerAfter (c :: before) rest := by
  have notHere := (firm.not_prefix_foreign foreign before rest).1
  rcases lowerAfter_cons_foreign foreign before rest with ⟨e, folded, -⟩ | folded
  · rw [folded] at notHere ⊢
    rw [List.infix_cons_iff, or_iff_right notHere]
  · rw [folded] at notHere ⊢
    rw [List.infix_cons_iff, or_iff_right notHere, List.infix_cons_iff, or_iff_right]
    intro found
    obtain ⟨rfl, -⟩ := List.cons_prefix_cons.1 found
    exact absurd (firm.ascii '\u0307' List.mem_cons_self) (by decide)

theorem IsFirm.infix_iff (firm : IsFirm needle) (before text : List Char) :
    needle <:+: lowerAfter before text ↔ needle <:+: text.map Char.toLower := by
  cases needle with
  | nil => exact iff_of_true List.nil_infix List.nil_infix
  | cons d needle =>
      induction text generalizing before with
      | nil => rfl
      | cons c rest inductionHypothesis =>
          by_cases low : c.val < 128
          · have here := firm.prefix_iff before (c :: rest)
            rw [lowerAfter_cons_ascii low, List.map_cons] at here ⊢
            rw [List.infix_cons_iff, List.infix_cons_iff, here, inductionHypothesis]
          · have notHere := (firm.not_prefix_foreign low before rest).2
            rw [firm.infix_foreign low, inductionHypothesis]
            rw [List.map_cons] at notHere ⊢
            rw [List.infix_cons_iff, or_iff_right notHere]

end Firm

/-- Containment without regard to case is plain ASCII containment for needles whose small form is
firm. -/
theorem containsIgnoreCase_iff_holdsAscii {needle : String}
    (low : ∀ c ∈ needle.toList, c.val < 128)
    (firm : IsFirm (needle.toList.map Char.toLower)) (text : String) :
    containsIgnoreCase text needle = true ↔ HoldsAscii text needle := by
  rw [holdsAscii_iff, containsIgnoreCase_eq, occursIn_iff, lowerAfter_of_ascii low,
    firm.infix_iff]

end Registrar.Text
