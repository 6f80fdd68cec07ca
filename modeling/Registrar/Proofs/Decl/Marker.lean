import Mathlib.Data.List.TakeWhile
import Registrar.Decl.Marker
import Registrar.Proofs.Text.Sigma

/-!
# Markers and casing

A marker accepts an attribute if its token occurs in the simple name of the attribute as written,
or if the folded token occurs in the folded name. The first condition adds something to the second
one, and the casing of marker and attribute has an effect, precisely if the token does not settle
the form of each of its capital sigmas.
-/

set_option autoImplicit false

namespace Registrar

open Text

namespace Marker

/-- Whether the token folds alike wherever it stands in a name. -/
def isSettled (marker : Marker) : Bool := settledAfter [] marker.token.toList

/-- Whether the token holds none of the characters that part a name. No identifier holds one. -/
def isPlain (marker : Marker) : Bool :=
  marker.token.toList.all fun c => c != '<' && c != ':' && c != '.'

/-- Whether the markers treat attributes alike whose simple names differ in casing only. -/
def AgreeUpToCasing (first second : Marker) : Prop :=
  ∀ a b : Attribute, foldCase a.simpleName = foldCase b.simpleName →
    first.accepts a = second.accepts b

variable {marker first second : Marker}

theorem toList_key (marker : Marker) : marker.key.toList = lowerAfter [] marker.token.toList :=
  toList_foldCase marker.token

theorem containsIgnoreCase_key (marker : Marker) (name : String) :
    containsIgnoreCase name marker.key = true ↔
      marker.key.toList <:+: (foldCase name).toList := by
  rw [containsIgnoreCase_eq, occursIn_iff, toList_key, lowerAfter_lowerAfter, toList_foldCase]

theorem accepts_iff (marker : Marker) (attr : Attribute) :
    marker.accepts attr = true ↔
      marker.token.toList <:+: attr.simpleName.toList ∨
        marker.key.toList <:+: (foldCase attr.simpleName).toList := by
  rw [accepts, Bool.or_eq_true, occursIn_iff, containsIgnoreCase_key]

/-- Only a capital sigma can leave a token unsettled. -/
theorem isSettled_of_not_mem (absent : '\u03A3' ∉ marker.token.toList) :
    marker.isSettled = true := settledAfter_of_not_mem absent []

theorem accepts_iff_of_settled (settled : marker.isSettled = true) (attr : Attribute) :
    marker.accepts attr = true ↔ marker.key.toList <:+: (foldCase attr.simpleName).toList := by
  rw [accepts_iff, or_iff_right_of_imp]
  intro literal
  rw [toList_key, toList_foldCase]
  exact infix_lowerAfter_of_settled settled literal

theorem agree_of_settled (same : first.key = second.key) (settled : first.isSettled = true)
    (settled' : second.isSettled = true) : AgreeUpToCasing first second := by
  intro a b names
  rw [Bool.eq_iff_iff, accepts_iff_of_settled settled, accepts_iff_of_settled settled', same, names]

theorem trimChars_surrounded {front back : Char} (solid : isBlank front = false)
    (solid' : isBlank back = false) (text : List Char) :
    trimChars (front :: (text ++ [back])) = front :: (text ++ [back]) := by
  rw [trimChars, List.dropWhile_cons_of_neg (by simp [solid]), trimEndChars]
  simp [solid']

theorem afterLast_of_not_mem {c : Char} {rest text : List Char} (absent : c ∉ text) :
    afterLast (c :: rest) text = text := by
  apply afterLast_of_not_occursIn
  rw [← Bool.not_eq_true, occursIn_iff]
  exact fun found => absent (found.subset List.mem_cons_self)

theorem simpleName_of_plain {text : List Char} (plain : ∀ c ∈ ['<', ':', '.'], c ∉ text)
    (trimmed : trimChars text = text) : simpleName (String.ofList text) = String.ofList text := by
  have whole : text.takeWhile (· != '<') = text := by
    rw [List.takeWhile_eq_self_iff]
    intro c membership
    rw [bne_iff_ne]
    rintro rfl
    exact plain '<' (by decide) membership
  rw [simpleName, String.toList_ofList, whole, trimmed]
  rw [afterLast_of_not_mem (plain ':' (by decide)), afterLast_of_not_mem (plain '.' (by decide)),
    trimmed]

theorem accepts_foldCase_iff {name : String} (simple : simpleName (foldCase name) = foldCase name) :
    marker.accepts ⟨foldCase name⟩ = true ↔ marker.key.toList <:+: (foldCase name).toList := by
  have own : Attribute.simpleName ⟨foldCase name⟩ = foldCase name := simple
  have once : (foldCase (foldCase name)).toList = (foldCase name).toList := by
    rw [toList_foldCase, toList_foldCase, lowerAfter_lowerAfter]
  rw [accepts_iff, own, once, or_iff_right_of_imp]
  intro literal
  have lower : ∀ c ∈ marker.token.toList, lowerChar c = [c] := by
    intro c membership
    have member := literal.subset membership
    rw [toList_foldCase] at member
    exact lowerChar_of_mem_lowerAfter member
  rw [toList_key, lowerAfter_of_lower lower]
  exact literal

theorem simpleName_surrounded {front back : Char} (ends : front ∈ ['A', '1'])
    (ends' : back ∈ ['A', '1']) {text : List Char} (plain : ∀ c ∈ ['<', ':', '.'], c ∉ text) :
    let name := String.ofList (front :: (text ++ [back]))
    simpleName name = name ∧ simpleName (foldCase name) = foldCase name := by
  have solid : ∀ c ∈ ['A', '1'], isBlank c = false ∧ isBlank c.toLower = false ∧
      c.val < 128 ∧ c ∉ ['<', ':', '.'] := by simp [isBlank]
  have small : ∀ c ∈ ['<', ':', '.'], 0 < c.toNat ∧ c.toNat < 0x61 := by simp
  have whole : ∀ c ∈ ['<', ':', '.'], c ∉ front :: (text ++ [back]) := by
    intro c sign membership
    rcases List.mem_cons.1 membership with rfl | later
    · exact (solid c ends).2.2.2 sign
    · rcases List.mem_append.1 later with inside | last
      · exact plain c sign inside
      · rw [List.mem_singleton.1 last] at sign
        exact (solid back ends').2.2.2 sign
  constructor
  · exact simpleName_of_plain whole
      (trimChars_surrounded (solid front ends).1 (solid back ends').1 _)
  · rw [foldCase, String.toList_ofList]
    apply simpleName_of_plain
    · intro c sign membership
      exact whole c sign (mem_of_mem_lowerAfter membership (small c sign).1 (small c sign).2)
    · rw [lowerAfter_surrounded (solid front ends).2.2.1 (solid back ends').2.2.1]
      exact trimChars_surrounded (solid front ends).2.1 (solid back ends').2.1 _

theorem exists_name_of_unsettled (unsettled : marker.isSettled = false) :
    ∃ front ∈ ['A', '1'], ∃ back ∈ ['A', '1'],
      ¬ marker.key.toList <:+:
        (foldCase (String.ofList (front :: (marker.token.toList ++ [back])))).toList := by
  rw [toList_key]
  rcases not_infix_lowerAfter_of_unsettled unsettled with absent | absent
  · refine ⟨'A', by decide, '1', by decide, ?_⟩
    rwa [toList_foldCase, String.toList_ofList]
  · refine ⟨'1', by decide, 'A', by decide, ?_⟩
    rwa [toList_foldCase, String.toList_ofList]

theorem isSettled_iff (marker : Marker) :
    marker.isSettled = true ↔ ∀ name : String, occursIn marker.token.toList name.toList = true →
      containsIgnoreCase name marker.key = true := by
  constructor
  · intro settled name literal
    rw [occursIn_iff] at literal
    rw [containsIgnoreCase_key, toList_key, toList_foldCase]
    exact infix_lowerAfter_of_settled settled literal
  · intro covered
    rw [← Bool.not_eq_false]
    intro unsettled
    obtain ⟨front, -, back, -, absent⟩ := exists_name_of_unsettled unsettled
    apply absent
    rw [← containsIgnoreCase_key]
    apply covered
    rw [occursIn_iff, String.toList_ofList]
    exact ⟨[front], [back], by simp⟩

theorem isSettled_of_agree (same : first.key = second.key) (plain : first.isPlain = true)
    (agree : AgreeUpToCasing first second) : first.isSettled = true := by
  rw [← Bool.not_eq_false]
  intro unsettled
  obtain ⟨front, ends, back, ends', absent⟩ := exists_name_of_unsettled unsettled
  have signs : ∀ c ∈ ['<', ':', '.'], c ∉ first.token.toList := by
    intro c sign membership
    have other := List.all_eq_true.1 plain c membership
    revert sign
    simp_all
  obtain ⟨simple, lowerSimple⟩ := simpleName_surrounded ends ends' signs
  generalize shape : String.ofList (front :: (first.token.toList ++ [back])) = name at *
  -- the name holds the token as written; in its folded form nothing of the token is left to find
  have accepted : first.accepts ⟨name⟩ = true := by
    rw [accepts_iff, Attribute.simpleName, simple, ← shape, String.toList_ofList]
    exact .inl ⟨[front], [back], by simp⟩
  have rejected : ¬ second.accepts ⟨foldCase name⟩ = true := by
    rw [accepts_foldCase_iff lowerSimple, ← same]
    exact absent
  apply rejected
  rw [← agree ⟨name⟩ ⟨foldCase name⟩, accepted]
  rw [Attribute.simpleName, Attribute.simpleName, simple, lowerSimple]
  apply String.toList_inj.1
  rw [toList_foldCase, toList_foldCase, toList_foldCase, lowerAfter_lowerAfter]

/-- Casing has no effect precisely for settled tokens. Only for them is a literal occurrence in a
name always a folded one; markers with equal folded tokens agree up to casing if both tokens are
settled, and they do not if one of them is not and can stand in a simple name. -/
theorem casing_has_no_effect_iff (same : first.key = second.key) :
    (first.isSettled = true ↔
      ∀ name : String, occursIn first.token.toList name.toList = true →
        containsIgnoreCase name first.key = true) ∧
      (first.isSettled = true → second.isSettled = true → AgreeUpToCasing first second) ∧
        (first.isPlain = true → second.isPlain = true → AgreeUpToCasing first second →
          first.isSettled = true ∧ second.isSettled = true) := by
  refine ⟨isSettled_iff first, agree_of_settled same, ?_⟩
  intro plain plain' agree
  refine ⟨isSettled_of_agree same plain agree, isSettled_of_agree same.symm plain' ?_⟩
  intro a b names
  exact (agree b a names.symm).symm

/-- A sigma between two letters has one lowercase form only. -/
theorem casing_has_no_effect_inside_word :
    (⟨"ΑΣΑ"⟩ : Marker).key = (⟨"ασα"⟩ : Marker).key ∧
      AgreeUpToCasing ⟨"ΑΣΑ"⟩ ⟨"ασα"⟩ := by
  have facts : (⟨"ΑΣΑ"⟩ : Marker).key = (⟨"ασα"⟩ : Marker).key ∧
      isSettled ⟨"ΑΣΑ"⟩ = true ∧ isSettled ⟨"ασα"⟩ = true := by
    decide +kernel
  obtain ⟨same, settled, settled'⟩ := facts
  exact ⟨same, (casing_has_no_effect_iff same).2.1 settled settled'⟩

/-- A sigma at the end of a token folds to the final form, but not where the name goes on. -/
theorem casing_has_effect_at_word_end :
    ¬ ∀ first second : Marker, first.key = second.key → AgreeUpToCasing first second := by
  intro agree
  have facts : (⟨"ΟΔΟΣ"⟩ : Marker).key = (⟨"οδος"⟩ : Marker).key ∧
      accepts ⟨"ΟΔΟΣ"⟩ ⟨"ΟΔΟΣAttribute"⟩ = true ∧ accepts ⟨"οδος"⟩ ⟨"ΟΔΟΣAttribute"⟩ = false := by
    decide +kernel
  obtain ⟨same, accepted, rejected⟩ := facts
  have equal := agree ⟨"ΟΔΟΣ"⟩ ⟨"οδος"⟩ same ⟨"ΟΔΟΣAttribute"⟩ ⟨"ΟΔΟΣAttribute"⟩ rfl
  rw [accepted, rejected] at equal
  cases equal

example : (default : Marker).isSettled = true := by decide

end Marker

end Registrar
