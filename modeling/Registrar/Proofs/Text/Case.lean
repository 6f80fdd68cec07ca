import Registrar.Text.Case

/-!
# Folding word by word

A space is neither a cased letter nor passed over when the end of a word is looked for, and no
letter folds to one. So the folded form of a text is that of its words, and a needle that holds a
space is found only where two of the words meet.
-/

set_option autoImplicit false

namespace Registrar.Text

/-- Containment without regard to case is containment of the folded characters. -/
theorem containsIgnoreCase_eq (text needle : String) :
    containsIgnoreCase text needle =
      occursIn (lowerAfter [] needle.toList) (lowerAfter [] text.toList) := by
  simp [containsIgnoreCase]

theorem target_of_mem_caseRuns : ∀ run ∈ caseRuns, 0x61 ≤ run.target := by
  decide +kernel

theorem toNat_ofNat {n : Nat} (valid : n.isValidChar) : (Char.ofNat n).toNat = n := by
  rw [Char.ofNat, dif_pos valid]
  rfl

theorem toLower_cases (c : Char) :
    c.toLower = c ∨ 0x61 ≤ c.toLower.toNat ∧ c.toLower.toNat ≤ 0x7A := by
  unfold Char.toLower
  split
  · rename_i capital
    right
    have lower : 0x41 ≤ c.val.toNat := UInt32.le_iff_toNat_le.1 capital.1
    have upper : c.val.toNat ≤ 0x5A := UInt32.le_iff_toNat_le.1 capital.2
    have shifted : (c.val + ('a'.val - 'A'.val)).toNat = c.val.toNat + 0x20 := by
      rw [UInt32.toNat_add]
      show (c.val.toNat + 0x20) % _ = _
      omega
    show 0x61 ≤ (c.val + ('a'.val - 'A'.val)).toNat ∧ (c.val + ('a'.val - 'A'.val)).toNat ≤ 0x7A
    omega
  · exact .inl rfl

theorem eq_of_mem_lowerChar {c d : Char} (membership : d ∈ lowerChar c) (positive : 0 < d.toNat)
    (small : d.toNat < 0x61) : d = c := by
  unfold lowerChar at membership
  split at membership
  · rw [List.mem_singleton] at membership
    rcases toLower_cases c with same | letter
    · rw [membership, same]
    · rw [← membership] at letter
      omega
  · split at membership
    · rcases List.mem_cons.1 membership with rfl | last
      · exact absurd small (by decide)
      · rw [List.mem_singleton.1 last] at small
        exact absurd small (by decide)
    · split at membership
      · rename_i run found
        have bound := target_of_mem_caseRuns run (List.mem_of_find?_eq_some found)
        rw [List.mem_singleton.1 membership] at positive small
        by_cases valid : (run.target + (c.toNat - run.first)).isValidChar
        · rw [toNat_ofNat valid] at small
          omega
        · rw [Char.ofNat, dif_neg valid] at positive
          exact absurd positive (by decide)
      · exact List.mem_singleton.1 membership

theorem mem_of_mem_lowerAfter {before text : List Char} {d : Char}
    (membership : d ∈ lowerAfter before text) (positive : 0 < d.toNat) (small : d.toNat < 0x61) :
    d ∈ text := by
  induction text generalizing before with
  | nil => cases membership
  | cons c rest inductionHypothesis =>
      rw [lowerAfter, List.mem_append] at membership
      rcases membership with here | later
      · split at here
        · rw [List.mem_singleton.1 here, lowerSigma] at small
          split at small
          · exact absurd small (by decide)
          · exact absurd small (by decide)
        · rw [eq_of_mem_lowerChar here positive small]
          exact List.mem_cons_self
      · exact List.mem_cons_of_mem _ (inductionHypothesis later)

theorem space_not_mem_lowerAfter {text : List Char} (before : List Char) (oneWord : ' ' ∉ text) :
    ' ' ∉ lowerAfter before text :=
  fun membership => oneWord (mem_of_mem_lowerAfter membership (by decide) (by decide))

theorem beginsCased_append_uncased {c : Char} (counts : isCaseIgnorable c = false)
    (uncased : isCased c = false) (text more : List Char) :
    beginsCased (text ++ c :: more) = beginsCased text := by
  induction text with
  | nil => simp [beginsCased, counts, uncased]
  | cons d rest inductionHypothesis =>
      by_cases ignorable : isCaseIgnorable d = true
      · simpa [beginsCased, ignorable] using inductionHypothesis
      · simp [beginsCased, ignorable]

section Uncased

variable {c : Char} (counts : isCaseIgnorable c = false) (uncased : isCased c = false)

include counts uncased

theorem lowerAfter_behind_uncased (near far text : List Char) :
    lowerAfter (near ++ c :: far) text = lowerAfter near text := by
  induction text generalizing near with
  | nil => rfl
  | cons d rest inductionHypothesis =>
      have tail := inductionHypothesis (d :: near)
      rw [List.cons_append] at tail
      simp only [lowerAfter, tail, lowerSigma, beginsCased_append_uncased counts uncased]

theorem lowerAfter_append_uncased (notSigma : c ≠ '\u03A3') (same : lowerChar c = [c])
    (before text more : List Char) :
    lowerAfter before (text ++ c :: more) =
      lowerAfter before text ++ c :: lowerAfter [] more := by
  induction text generalizing before with
  | nil =>
      have tail := lowerAfter_behind_uncased counts uncased [] before more
      rw [List.nil_append] at tail
      simp only [List.nil_append, lowerAfter, tail, if_neg notSigma, same, List.singleton_append]
  | cons d rest inductionHypothesis =>
      simp only [List.cons_append, lowerAfter, inductionHypothesis, lowerSigma,
        beginsCased_append_uncased counts uncased, List.append_assoc]

end Uncased

theorem lowerAfter_append_space (before text more : List Char) :
    lowerAfter before (text ++ ' ' :: more) =
      lowerAfter before text ++ ' ' :: lowerAfter [] more :=
  lowerAfter_append_uncased rfl rfl (by decide) rfl before text more

theorem containsIgnoreCase_append_return {needle : String} (absent : '\r' ∉ needle.toList)
    (text : String) :
    containsIgnoreCase (text ++ "\r") needle = containsIgnoreCase text needle := by
  have folded : '\r' ∉ lowerAfter [] needle.toList := fun membership =>
    absent (mem_of_mem_lowerAfter membership (by decide) (by decide))
  have key : lowerAfter [] (text ++ "\r").toList = lowerAfter [] text.toList ++ ['\r'] := by
    rw [String.toList_append]
    exact lowerAfter_append_uncased rfl rfl (by decide) rfl [] text.toList []
  rw [containsIgnoreCase_eq, containsIgnoreCase_eq, key, Bool.eq_iff_iff, occursIn_iff,
    occursIn_iff, List.infix_concat_iff, List.suffix_concat_iff]
  constructor
  · rintro ((empty | ⟨front, shape, -⟩) | inside)
    · rw [empty]
      exact List.nil_infix
    · rw [shape] at folded
      simp at folded
    · exact inside
  · exact .inr

theorem lowerAfter_suffix (before text last : List Char) :
    lowerAfter (text.reverse ++ before) last <:+ lowerAfter before (text ++ last) := by
  induction text generalizing before with
  | nil => simp
  | cons c rest inductionHypothesis =>
      have tail := inductionHypothesis (c :: before)
      simp only [List.reverse_cons, List.append_assoc, List.singleton_append] at tail ⊢
      exact tail.trans (List.suffix_append _ _)

/-- A needle with a space does not occur where no word but the last ends with what the needle
holds in front of the space. -/
theorem not_infix_words {first second : List Char} (firstOneWord : ' ' ∉ first) :
    ∀ {words : List (List Char)}, (∀ word ∈ words, ' ' ∉ word) →
      (∀ word ∈ words.dropLast, ¬ first <:+ lowerAfter [] word) →
      ¬ first ++ ' ' :: second <:+: lowerAfter [] ([' '].intercalate words)
  | [], _, _ => by simp [lowerAfter]
  | [word], oneWord, _ => by
      intro found
      have space : ' ' ∈ lowerAfter [] word := by
        rw [List.intercalate_singleton] at found
        exact found.subset (by simp)
      exact space_not_mem_lowerAfter [] (oneWord word List.mem_cons_self) space
  | word :: next :: rest, oneWord, apart => by
      intro found
      rw [List.intercalate_cons_cons, List.append_assoc, List.singleton_append,
        lowerAfter_append_space] at found
      rcases infix_append_cons firstOneWord
          (space_not_mem_lowerAfter [] (oneWord word List.mem_cons_self)) found with ends | later
      · exact apart word (by simp) ends
      · refine not_infix_words firstOneWord (fun other membership => ?_)
          (fun other membership => ?_) later
        · exact oneWord other (List.mem_cons_of_mem _ membership)
        · exact apart other (by simp [membership])

end Registrar.Text
