import Registrar.Proofs.Text.Folding

/-!
# Folding and what stands around a text

All letters but one fold alike wherever they stand. A capital sigma has two lowercase forms, and
the first letters on either side of it decide between them, those outside of the text included. A
text is settled if it holds the letters that decide itself, for each of its capital sigmas. Then
it folds alike in every surrounding, and it occurs in folded form wherever it occurs. Every other
text has surroundings in which it occurs, but not in folded form.
-/

set_option autoImplicit false

namespace Registrar.Text

def firstCased? (text : List Char) : Option Bool :=
  (text.find? fun c => !isCaseIgnorable c).map isCased

theorem beginsCased_eq (text : List Char) : beginsCased text = (firstCased? text).getD false := by
  induction text with
  | nil => rfl
  | cons c rest inductionHypothesis =>
      by_cases ignorable : isCaseIgnorable c = true
      · simpa [beginsCased, firstCased?, ignorable] using inductionHypothesis
      · simp [beginsCased, firstCased?, ignorable]

theorem firstCased?_append (text more : List Char) :
    firstCased? (text ++ more) = (firstCased? text).or (firstCased? more) := by
  rw [firstCased?, List.find?_append, Option.map_or]
  rfl

theorem firstCased?_sigma (text : List Char) : firstCased? ('\u03A3' :: text) = some true := by
  have passed : isCaseIgnorable '\u03A3' = false := by decide +kernel
  have cased : isCased '\u03A3' = true := rfl
  simp [firstCased?, passed, cased]

theorem sigma_not_mem {text : List Char} (passed : firstCased? text = none) :
    '\u03A3' ∉ text := by
  intro membership
  obtain ⟨front, back, rfl⟩ := List.append_of_mem membership
  rw [firstCased?_append, firstCased?_sigma, Option.or_eq_none_iff] at passed
  cases passed.2

theorem lowerSigma_eq (before after : List Char) :
    lowerSigma before after =
      if firstCased? before = some true ∧ firstCased? after ≠ some true
      then '\u03C2' else '\u03C3' := by
  rw [lowerSigma, beginsCased_eq, beginsCased_eq]
  cases firstCased? before with
  | none => simp
  | some cased =>
      cases firstCased? after with
      | none => cases cased <;> simp
      | some other => cases cased <;> cases other <;> simp

def lowerBetween (before after : List Char) : List Char → List Char
  | [] => []
  | c :: rest =>
      (if c = '\u03A3' then [lowerSigma before (rest ++ after)] else lowerChar c) ++
        lowerBetween (c :: before) after rest

theorem lowerAfter_eq_lowerBetween (before text : List Char) :
    lowerAfter before text = lowerBetween before [] text := by
  induction text generalizing before with
  | nil => rfl
  | cons c rest inductionHypothesis =>
      rw [lowerAfter, lowerBetween, inductionHypothesis, List.append_nil]

theorem lowerBetween_append (before after text more : List Char) :
    lowerBetween before after (text ++ more) =
      lowerBetween before (more ++ after) text ++
        lowerBetween (text.reverse ++ before) after more := by
  induction text generalizing before with
  | nil => rfl
  | cons c rest inductionHypothesis =>
      rw [List.cons_append, lowerBetween, inductionHypothesis, lowerBetween]
      simp only [List.append_assoc, List.reverse_cons, List.singleton_append]

theorem lowerBetween_congr {before after before' after' : List Char} (text : List Char)
    (alike : ∀ near far, lowerSigma (near ++ before) (far ++ after) =
      lowerSigma (near ++ before') (far ++ after')) :
    lowerBetween before after text = lowerBetween before' after' text := by
  induction text generalizing before before' with
  | nil => rfl
  | cons c rest inductionHypothesis =>
      rw [lowerBetween, lowerBetween, inductionHypothesis]
      · have here := alike [] rest
        rw [List.nil_append, List.nil_append] at here
        rw [here]
      · intro near far
        have step := alike (near ++ [c]) far
        rw [List.append_assoc, List.append_assoc] at step
        exact step

theorem lowerBetween_of_not_mem {text : List Char} (absent : '\u03A3' ∉ text)
    (before after : List Char) : lowerBetween before after text = text.flatMap lowerChar := by
  induction text generalizing before with
  | nil => rfl
  | cons c rest inductionHypothesis =>
      rw [List.mem_cons, not_or] at absent
      rw [lowerBetween, if_neg (Ne.symm absent.1), inductionHypothesis absent.2, List.flatMap_cons]

/-- Whether letters in `before` and `after` settle the form of a capital sigma between them. -/
def settlesSigma (before after : List Char) : Bool :=
  match firstCased? before, firstCased? after with
  | some false, _ => true
  | _, some true => true
  | some true, some false => true
  | _, _ => false

/-- Whether the text behind `before` settles the form of each of its capital sigmas. -/
def settledAfter (before : List Char) : List Char → Bool
  | [] => true
  | c :: rest => (c != '\u03A3' || settlesSigma before rest) && settledAfter (c :: before) rest

theorem lowerSigma_of_settlesSigma {before after : List Char}
    (settles : settlesSigma before after = true) (front back : List Char) :
    lowerSigma (before ++ front) (after ++ back) = lowerSigma before after := by
  rw [lowerSigma_eq, lowerSigma_eq, firstCased?_append, firstCased?_append]
  rw [settlesSigma] at settles
  cases near : firstCased? before with
  | none =>
      cases far : firstCased? after with
      | none => simp [near, far] at settles
      | some cased => cases cased <;> simp_all
  | some cased =>
      cases far : firstCased? after with
      | none => cases cased <;> simp_all
      | some other => simp

theorem lowerBetween_of_settledAfter {before text : List Char}
    (settled : settledAfter before text = true) (front back : List Char) :
    lowerBetween (before ++ front) back text = lowerAfter before text := by
  induction text generalizing before with
  | nil => rfl
  | cons c rest inductionHypothesis =>
      rw [settledAfter, Bool.and_eq_true, Bool.or_eq_true, bne_iff_ne] at settled
      have later := inductionHypothesis settled.2
      rw [List.cons_append] at later
      rw [lowerBetween, lowerAfter, later]
      by_cases sigma : c = '\u03A3'
      · have settles := settled.1.resolve_left (not_not_intro sigma)
        rw [if_pos sigma, if_pos sigma, lowerSigma_of_settlesSigma settles]
      · rw [if_neg sigma, if_neg sigma]

/-- A settled text occurs in folded form wherever it occurs. -/
theorem infix_lowerAfter_of_settled {needle text : List Char}
    (settled : settledAfter [] needle = true) (found : needle <:+: text) :
    lowerAfter [] needle <:+: lowerAfter [] text := by
  obtain ⟨front, back, rfl⟩ := found
  -- the folded text has the needle between what stands before and behind it
  have middle := lowerBetween_of_settledAfter settled front.reverse back
  rw [List.nil_append] at middle
  rw [List.append_assoc, lowerAfter_eq_lowerBetween [] (front ++ _), lowerBetween_append,
    lowerBetween_append]
  simp only [List.append_nil, middle]
  exact ⟨_, _, List.append_assoc _ _ _⟩

theorem settledAfter_of_not_mem {text : List Char} (absent : '\u03A3' ∉ text)
    (before : List Char) : settledAfter before text = true := by
  induction text generalizing before with
  | nil => rfl
  | cons c rest inductionHypothesis =>
      rw [List.mem_cons, not_or] at absent
      rw [settledAfter, bne_iff_ne.2 (Ne.symm absent.1), inductionHypothesis absent.2]
      rfl

theorem exists_of_settledAfter_eq_false {before text : List Char}
    (unsettled : settledAfter before text = false) :
    ∃ word rest, text = word ++ '\u03A3' :: rest ∧
      settlesSigma (word.reverse ++ before) rest = false := by
  induction text generalizing before with
  | nil => cases unsettled
  | cons c rest inductionHypothesis =>
      rw [settledAfter, Bool.and_eq_false_iff] at unsettled
      rcases unsettled with here | later
      · rw [Bool.or_eq_false_iff, bne_eq_false_iff_eq] at here
        obtain ⟨rfl, undecided⟩ := here
        exact ⟨[], rest, rfl, undecided⟩
      · obtain ⟨word, more, rfl, undecided⟩ := inductionHypothesis later
        refine ⟨c :: word, more, rfl, ?_⟩
        rw [List.reverse_cons, List.append_assoc]
        exact undecided

theorem settlesSigma_eq_false_iff (before after : List Char) :
    settlesSigma before after = false ↔
      firstCased? before = none ∧ firstCased? after ≠ some true ∨
        firstCased? before = some true ∧ firstCased? after = none := by
  rw [settlesSigma]
  rcases firstCased? before with _ | _ | _ <;> rcases firstCased? after with _ | _ | _ <;> simp

theorem lowerBetween_behind_sigma (before after text : List Char) :
    lowerBetween ('\u03A3' :: before) after text = lowerBetween ['\u03A3'] after text := by
  apply lowerBetween_congr
  intro near far
  simp only [lowerSigma_eq, firstCased?_append, firstCased?_sigma]

theorem lowerBetween_before_sigma (before after text : List Char) :
    lowerBetween before ('\u03A3' :: after) text = lowerBetween before ['\u03A3'] text := by
  apply lowerBetween_congr
  intro near far
  simp only [lowerSigma_eq, firstCased?_append, firstCased?_sigma]

theorem lowerBetween_around_sigma (before after word rest : List Char) :
    lowerBetween before after (word ++ '\u03A3' :: rest) =
      lowerBetween before ['\u03A3'] word ++
        lowerSigma (word.reverse ++ before) (rest ++ after) ::
          lowerBetween ['\u03A3'] after rest := by
  rw [lowerBetween_append, List.cons_append, lowerBetween_before_sigma, lowerBetween, if_pos rfl,
    lowerBetween_behind_sigma]
  rfl

theorem beginsCased_append_digit (text : List Char) :
    beginsCased (text ++ ['1']) = beginsCased text :=
  beginsCased_append_uncased rfl rfl text []

theorem lowerBetween_digit_before (after text : List Char) :
    lowerBetween ['1'] after text = lowerBetween [] after text := by
  apply lowerBetween_congr
  intro near far
  rw [List.append_nil, lowerSigma, lowerSigma, beginsCased_append_digit]

theorem lowerBetween_digit_after (before text : List Char) :
    lowerBetween before ['1'] text = lowerBetween before [] text := by
  apply lowerBetween_congr
  intro near far
  rw [List.append_nil, lowerSigma, lowerSigma, beginsCased_append_digit]

theorem not_infix_of_replaced {c d front back : Char} (absent : c ∉ [d, front, back])
    (word rest : List Char) :
    ¬ word ++ c :: rest <:+: front :: (word ++ d :: rest ++ [back]) := by
  intro found
  have fewer := found.sublist.count_le c
  simp only [List.mem_cons, List.not_mem_nil, or_false, not_or] at absent
  obtain ⟨notD, notFront, notBack⟩ := absent
  rw [List.count_append, List.count_cons_self, List.count_cons_of_ne (Ne.symm notFront),
    List.count_append, List.count_append, List.count_cons_of_ne (Ne.symm notD),
    List.count_cons_of_ne (Ne.symm notBack), List.count_nil] at fewer
  omega

theorem lowerBetween_low {c : Char} (low : c.val < 128) (before after : List Char) :
    lowerBetween before after [c] = [c.toLower] := by
  have notSigma : c ≠ '\u03A3' := by
    rintro rfl
    exact absurd low (by decide)
  rw [lowerBetween, if_neg notSigma, lowerChar, if_pos low]
  rfl

theorem lowerAfter_surrounded {front back : Char} (low : front.val < 128) (low' : back.val < 128)
    (text : List Char) :
    lowerAfter [] (front :: (text ++ [back])) =
      front.toLower :: (lowerBetween [front] [back] text ++ [back.toLower]) := by
  rw [← List.singleton_append, lowerAfter_eq_lowerBetween, lowerBetween_append,
    lowerBetween_append, lowerBetween_low low, lowerBetween_low low']
  rfl

/-- A sigma that takes another form between two characters is missing from the folded text there,
if the characters have no effect on the rest of the text. -/
theorem not_infix_lowerAfter_surrounded {front back : Char} (low : front.val < 128)
    (low' : back.val < 128) {word rest : List Char}
    (sameWord : lowerBetween [front] ['\u03A3'] word = lowerBetween [] ['\u03A3'] word)
    (sameRest : lowerBetween ['\u03A3'] [back] rest = lowerBetween ['\u03A3'] [] rest)
    (other : lowerSigma word.reverse rest ∉
      [lowerSigma (word.reverse ++ [front]) (rest ++ [back]), front.toLower, back.toLower]) :
    ¬ lowerAfter [] (word ++ '\u03A3' :: rest) <:+:
      lowerAfter [] (front :: (word ++ '\u03A3' :: rest ++ [back])) := by
  rw [lowerAfter_surrounded low low', lowerAfter_eq_lowerBetween, lowerBetween_around_sigma,
    lowerBetween_around_sigma, sameWord, sameRest, List.append_nil, List.append_nil]
  exact not_infix_of_replaced other _ _

/-- A text that is not settled has surroundings in which it occurs, but not in folded form. -/
theorem not_infix_lowerAfter_of_unsettled {needle : List Char}
    (unsettled : settledAfter [] needle = false) :
    ¬ lowerAfter [] needle <:+: lowerAfter [] ('A' :: (needle ++ ['1'])) ∨
      ¬ lowerAfter [] needle <:+: lowerAfter [] ('1' :: (needle ++ ['A'])) := by
  obtain ⟨word, rest, rfl, undecided⟩ := exists_of_settledAfter_eq_false unsettled
  rw [List.append_nil, settlesSigma_eq_false_iff] at undecided
  have letter : firstCased? ['A'] = some true := rfl
  rcases undecided with ⟨before, after⟩ | ⟨before, after⟩
  · -- no letter stands in front of the sigma, and the final form needs one
    left
    have noSigma := mt List.mem_reverse.2 (sigma_not_mem before)
    apply not_infix_lowerAfter_surrounded (by decide) (by decide)
    · rw [lowerBetween_of_not_mem noSigma, lowerBetween_of_not_mem noSigma]
    · exact lowerBetween_digit_after _ rest
    · have alone : lowerSigma word.reverse rest = '\u03C3' := by
        rw [lowerSigma_eq, if_neg]
        simp [before]
      have behind : lowerSigma (word.reverse ++ ['A']) (rest ++ ['1']) = '\u03C2' := by
        rw [lowerSigma, beginsCased_append_digit, ← lowerSigma, lowerSigma_eq,
          firstCased?_append, before, letter, if_pos]
        exact ⟨rfl, after⟩
      rw [alone, behind]
      decide
  · -- a letter stands in front of the sigma, and one that follows rules out the final form
    right
    have noSigma := sigma_not_mem after
    apply not_infix_lowerAfter_surrounded (by decide) (by decide)
    · exact lowerBetween_digit_before _ word
    · rw [lowerBetween_of_not_mem noSigma, lowerBetween_of_not_mem noSigma]
    · have alone : lowerSigma word.reverse rest = '\u03C2' := by
        rw [lowerSigma_eq, if_pos]
        simp [before, after]
      have between : lowerSigma (word.reverse ++ ['1']) (rest ++ ['A']) = '\u03C3' := by
        rw [lowerSigma_eq, firstCased?_append rest, after, letter, if_neg]
        simp
      rw [alone, between]
      decide

end Registrar.Text
