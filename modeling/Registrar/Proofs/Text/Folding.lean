import Registrar.Proofs.Text.Case

/-!
# Folded texts

A folded character stays as it is when it is folded again: no letter of the table folds to another
letter of it. The letters are compared all at once, as the bits of two numbers.
-/

set_option autoImplicit false

namespace Registrar.Text

/-- The number with `count` bits, each of them `step` places above the one before it. -/
def spacedBits (step : Nat) : Nat → Nat
  | 0 => 0
  | count + 1 => spacedBits step count <<< step ||| 1

theorem testBit_spacedBits (step : Nat) {count j : Nat} (bound : j < count) :
    (spacedBits step count).testBit (j * step) = true := by
  induction count generalizing j with
  | zero => omega
  | succ count inductionHypothesis =>
      rw [spacedBits, Nat.testBit_or]
      cases j with
      | zero => simp
      | succ j =>
          have below := inductionHypothesis (Nat.lt_of_succ_lt_succ bound)
          rw [Nat.testBit_shiftLeft, Nat.succ_mul, Nat.add_sub_cancel, below]
          simp

/-- The codes of as many letters as the run has, from the given code on, as the bits of a number. -/
def CaseRun.bitsFrom (run : CaseRun) (code : Nat) : Nat :=
  spacedBits run.step ((run.last - run.first) / run.step + 1) <<< code

theorem CaseRun.testBit_bitsFrom {run : CaseRun} (code : Nat) {k : Nat}
    (bound : k ≤ run.last - run.first) (fits : k % run.step = 0) :
    (run.bitsFrom code).testBit (code + k) = true := by
  have place : k / run.step * run.step = k := Nat.div_mul_cancel (Nat.dvd_of_mod_eq_zero fits)
  have within : k / run.step < (run.last - run.first) / run.step + 1 :=
    Nat.lt_succ_of_le (Nat.div_le_div_right bound)
  have bit := testBit_spacedBits run.step within
  rw [place] at bit
  rw [bitsFrom, Nat.testBit_shiftLeft, Nat.add_sub_cancel_left, bit]
  simp

theorem testBit_foldr (runs : List CaseRun) (bits : CaseRun → Nat) (start n : Nat) :
    (runs.foldr (fun run codes => bits run ||| codes) start).testBit n = true ↔
      (∃ run ∈ runs, (bits run).testBit n = true) ∨ start.testBit n = true := by
  induction runs with
  | nil => simp
  | cons other rest inductionHypothesis =>
      rw [List.foldr_cons, Nat.testBit_or, Bool.or_eq_true, inductionHypothesis]
      simp [or_assoc]

/-- The codes of all capital letters that are not ASCII. -/
def capitalBits : Nat :=
  caseRuns.foldr (fun run codes => run.bitsFrom run.first ||| codes) (1 <<< 0x130)

/-- The codes of the letters that the runs fold to. -/
def smallBits : Nat := caseRuns.foldr (fun run codes => run.bitsFrom run.target ||| codes) 0

theorem capitalBits_and_smallBits : capitalBits &&& smallBits = 0 := by
  decide +kernel

theorem lowerChar_of_not_capital {c : Char} (high : ¬ c.val < 128)
    (small : capitalBits.testBit c.toNat = false) : lowerChar c = [c] := by
  rw [← Bool.not_eq_true, capitalBits, testBit_foldr, not_or] at small
  obtain ⟨uncovered, notDotted⟩ := small
  have none : caseRuns.find? (·.covers c.toNat) = none := by
    rw [List.find?_eq_none]
    intro run membership covered
    simp only [CaseRun.covers, Bool.and_eq_true, decide_eq_true_eq, beq_iff_eq] at covered
    obtain ⟨⟨lower, upper⟩, fits⟩ := covered
    have bit := CaseRun.testBit_bitsFrom run.first (Nat.sub_le_sub_right upper run.first) fits
    rw [Nat.add_sub_cancel' lower] at bit
    exact uncovered ⟨run, membership, bit⟩
  rw [lowerChar, if_neg high, if_neg, none]
  rintro rfl
  exact notDotted (by decide)

theorem toLower_of_le {c : Char} (bound : 0x61 ≤ c.toNat) : c.toLower = c := by
  unfold Char.toLower
  rw [dif_neg]
  rintro ⟨-, capital⟩
  have upper : c.toNat ≤ 0x5A := UInt32.le_iff_toNat_le.1 capital
  omega

theorem lowerChar_of_low {c : Char} (low : c.val < 128) (notCapital : c.toLower = c) :
    lowerChar c = [c] := by
  rw [lowerChar, if_pos low, notCapital]

theorem lowerChar_target {run : CaseRun} (membership : run ∈ caseRuns) {k : Nat}
    (bound : k ≤ run.last - run.first) (fits : k % run.step = 0) :
    lowerChar (Char.ofNat (run.target + k)) = [Char.ofNat (run.target + k)] := by
  have start := target_of_mem_caseRuns run membership
  by_cases valid : (run.target + k).isValidChar
  · have code := toNat_ofNat valid
    generalize Char.ofNat (run.target + k) = c at code
    by_cases low : c.val < 128
    · exact lowerChar_of_low low (toLower_of_le (by omega))
    · apply lowerChar_of_not_capital low
      have bit : smallBits.testBit c.toNat = true := by
        rw [smallBits, testBit_foldr, code]
        exact .inl ⟨run, membership, CaseRun.testBit_bitsFrom run.target bound fits⟩
      -- a bit of the small letters is none of the capital ones
      have both := congrArg (·.testBit c.toNat) capitalBits_and_smallBits
      simpa [bit] using both
  · rw [Char.ofNat, dif_neg valid]
    decide

theorem lowerChar_of_mem_lowerChar {c d : Char} (membership : d ∈ lowerChar c) :
    lowerChar d = [d] := by
  by_cases low : c.val < 128
  · rw [lowerChar, if_pos low, List.mem_singleton] at membership
    rw [membership]
    rcases toLower_cases c with same | ⟨lower, upper⟩
    · rw [same]
      exact lowerChar_of_low low same
    · refine lowerChar_of_low (UInt32.lt_iff_toNat_lt.2 ?_) (toLower_of_le lower)
      show c.toLower.toNat < 128
      omega
  · by_cases dotted : c = '\u0130'
    · rw [lowerChar, if_neg low, if_pos dotted] at membership
      rcases List.mem_cons.1 membership with rfl | last
      · decide
      · rw [List.mem_singleton.1 last]
        rfl
    · rcases found : caseRuns.find? (·.covers c.toNat) with _ | run
      · rw [lowerChar, if_neg low, if_neg dotted, found] at membership
        rw [List.mem_singleton.1 membership, lowerChar, if_neg low, if_neg dotted, found]
      · have covered := List.find?_some found
        simp only [CaseRun.covers, Bool.and_eq_true, decide_eq_true_eq, beq_iff_eq] at covered
        rw [lowerChar, if_neg low, if_neg dotted, found, List.mem_singleton] at membership
        rw [membership]
        exact lowerChar_target (List.mem_of_find?_eq_some found) (by omega) covered.2

theorem lowerChar_of_mem_lowerAfter {before text : List Char} {c : Char}
    (membership : c ∈ lowerAfter before text) : lowerChar c = [c] := by
  induction text generalizing before with
  | nil => cases membership
  | cons first rest inductionHypothesis =>
      rw [lowerAfter, List.mem_append] at membership
      rcases membership with here | later
      · split at here
        · rw [List.mem_singleton.1 here, lowerSigma]
          split <;> rfl
        · exact lowerChar_of_mem_lowerChar here
      · exact inductionHypothesis later

theorem lowerAfter_of_lower {text : List Char} (lower : ∀ c ∈ text, lowerChar c = [c])
    (before : List Char) : lowerAfter before text = text := by
  induction text generalizing before with
  | nil => rfl
  | cons c rest inductionHypothesis =>
      have first := lower c List.mem_cons_self
      have notSigma : c ≠ '\u03A3' := by
        rintro rfl
        have folded : lowerChar '\u03A3' = ['\u03C3'] := rfl
        rw [folded] at first
        exact absurd first (by decide)
      rw [lowerAfter, if_neg notSigma, first, inductionHypothesis]
      · rfl
      · intro d membership
        exact lower d (List.mem_cons_of_mem _ membership)

theorem lowerAfter_lowerAfter (front before text : List Char) :
    lowerAfter front (lowerAfter before text) = lowerAfter before text :=
  lowerAfter_of_lower (fun _ => lowerChar_of_mem_lowerAfter) front

@[simp]
theorem foldCase_foldCase (text : String) : foldCase (foldCase text) = foldCase text := by
  apply String.toList_inj.1
  rw [toList_foldCase, toList_foldCase, lowerAfter_lowerAfter]

end Registrar.Text
