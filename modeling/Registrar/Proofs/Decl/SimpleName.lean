import Registrar.Proofs.Decl.Marker
import Registrar.Proofs.Syntax.Lexing

/-!
# Simple names

A written name joins identifiers with dots or double colons, and each of them may be applied to
type arguments, which are written names again. Its simple name is the identifier in front of the
first type arguments. That is the last identifier of the name where only this one is applied.
-/

set_option autoImplicit false

namespace Registrar

open Text

/-- An identifier as the source text has it, be it escaped or not. -/
structure NameWord where
  text : String
  isName : Syntax.IsName text.toList

inductive NameSeparator where
  | dot
  | colons

def NameSeparator.text : NameSeparator → List Char
  | .dot => ['.']
  | .colons => [':', ':']

theorem NameSeparator.eq_of_mem {separator : NameSeparator} {c : Char}
    (membership : c ∈ separator.text) : c = '.' ∨ c = ':' := by
  cases separator with
  | dot => exact .inl (List.mem_singleton.1 membership)
  | colons => exact .inr (by simpa [text] using membership)

mutual

/-- A name as it is written, possibly qualified and with type arguments. -/
inductive WrittenName where
  | last (segment : NameSegment)
  | qualified (segment : NameSegment) (separator : NameSeparator) (rest : WrittenName)

inductive NameSegment where
  | plain (word : NameWord)
  | applied (word : NameWord) (arguments : List WrittenName)

end

def NameSegment.identifier : NameSegment → String
  | .plain word => word.text
  | .applied word _ => word.text

mutual

def WrittenName.text : WrittenName → List Char
  | .last segment => segment.text
  | .qualified segment separator rest => segment.text ++ separator.text ++ rest.text

def NameSegment.text : NameSegment → List Char
  | .plain word => word.text.toList
  | .applied word arguments => word.text.toList ++ '<' :: argumentsText arguments

def argumentsText : List WrittenName → List Char
  | [] => ['>']
  | name :: rest => name.text ++ furtherText rest

def furtherText : List WrittenName → List Char
  | [] => ['>']
  | name :: rest => ',' :: (name.text ++ furtherText rest)

end

namespace WrittenName

def lastIdentifier : WrittenName → String
  | .last segment => segment.identifier
  | .qualified _ _ rest => rest.lastIdentifier

/-- The identifier of the first segment that is applied, or of the last one if none is. -/
def firstApplied : WrittenName → String
  | .last segment => segment.identifier
  | .qualified (.plain _) _ rest => rest.firstApplied
  | .qualified (.applied word _) _ _ => word.text

/-- Whether no segment but the last one is applied. -/
def isPlainlyQualified : WrittenName → Bool
  | .last _ => true
  | .qualified (.plain _) _ rest => rest.isPlainlyQualified
  | .qualified (.applied _ _) _ _ => false

theorem firstApplied_of_isPlainlyQualified {name : WrittenName}
    (plainly : name.isPlainlyQualified = true) : name.firstApplied = name.lastIdentifier := by
  fun_induction isPlainlyQualified name with
  | case1 segment => rfl
  | case2 word separator rest inductionHypothesis => exact inductionHypothesis plainly
  | case3 => cases plainly

end WrittenName

namespace NameWord

theorem isWordPart_or_eq (word : NameWord) {c : Char} (membership : c ∈ word.text.toList) :
    Syntax.Lexer.isWordPart c = true ∨ c = '@' := by
  obtain ⟨isOne, -⟩ := word.isName
  generalize word.text.toList = characters at isOne membership
  cases characters with
  | nil => cases membership
  | cons first rest =>
      simp only [Syntax.Lexer.isWord, Bool.and_eq_true] at isOne
      obtain ⟨begins, inside⟩ := isOne
      rcases List.mem_cons.1 membership with rfl | later
      · split at begins
        · rename_i sign
          exact .inr sign
        · exact .inl (Syntax.Lexer.isWordPart_of_start begins)
      · exact .inl (List.all_eq_true.1 inside c later)

theorem not_mem (word : NameWord) : ∀ c ∈ ['<', ':', '.'], c ∉ word.text.toList := by
  intro c sign membership
  obtain ⟨noPart, noSign⟩ : Syntax.Lexer.isWordPart c = false ∧ c ≠ '@' := by
    simp only [List.mem_cons, List.not_mem_nil, or_false] at sign
    rcases sign with rfl | rfl | rfl <;> decide
  rcases word.isWordPart_or_eq membership with part | same
  · rw [noPart] at part
    cases part
  · exact noSign same

end NameWord

/-- The part is what follows the last separator in the text, or the whole text if there is none. -/
structure IsLastPart (c : Char) (rest text part : List Char) : Prop where
  not_mem : c ∉ part
  split : part = text ∨ ∃ front, text = front ++ c :: rest ++ part

namespace IsLastPart

variable {c : Char} {rest text part : List Char}

theorem whole (absent : c ∉ text) : IsLastPart c rest text text := ⟨absent, .inl rfl⟩

/-- Whatever stands before another separator is of no consequence. -/
theorem behind (isLast : IsLastPart c rest text part) (front : List Char) :
    IsLastPart c rest (front ++ c :: rest ++ text) part := by
  refine ⟨isLast.not_mem, .inr ?_⟩
  rcases isLast.split with rfl | ⟨middle, rfl⟩
  · exact ⟨front, rfl⟩
  · exact ⟨front ++ c :: rest ++ middle, by simp⟩

theorem afterLast_eq (isLast : IsLastPart c rest text part) :
    afterLast (c :: rest) text = part := by
  rcases isLast.split with rfl | ⟨front, rfl⟩
  · exact Marker.afterLast_of_not_mem isLast.not_mem
  · have once : occursIn (c :: rest) (rest ++ part) = false := by
      rw [← Bool.not_eq_true, occursIn_iff]
      intro again
      have counted := again.sublist.count_le c
      rw [List.count_cons_self, List.count_append, List.count_eq_zero.2 isLast.not_mem] at counted
      omega
    induction front with
    | nil =>
        rw [List.nil_append, List.cons_append, afterLast, once]
        simp [List.isPrefixOf_iff_prefix]
    | cons first front inductionHypothesis =>
        have present : occursIn (c :: rest) (front ++ c :: rest ++ part) = true := by
          rw [occursIn_iff]
          exact ⟨front, part, rfl⟩
        rw [List.cons_append, List.cons_append, afterLast, if_pos present]
        exact inductionHypothesis ⟨isLast.not_mem, .inr ⟨front, rfl⟩⟩

theorem subset (isLast : IsLastPart c rest text part) : part ⊆ text := by
  rcases isLast.split with rfl | ⟨front, rfl⟩
  · exact List.Subset.refl _
  · exact List.subset_append_right _ _

end IsLastPart

theorem trimChars_of_solid {text : List Char} (solid : ∀ c ∈ text, isBlank c = false) :
    trimChars text = text := by
  have kept : ∀ {text : List Char}, (∀ c ∈ text, isBlank c = false) →
      text.dropWhile isBlank = text := by
    intro text solid
    rw [List.dropWhile_eq_self_iff]
    intro present
    simp [solid _ (List.getElem_mem present)]
  rw [trimChars, kept solid, trimEndChars, kept (by simpa using solid), List.reverse_reverse]

namespace WrittenName

/-- The text in front of the first type arguments. -/
def spine : WrittenName → List Char
  | .last segment => segment.identifier.toList
  | .qualified (.plain word) separator rest =>
      word.text.toList ++ separator.text ++ rest.spine
  | .qualified (.applied word _) _ _ => word.text.toList

theorem forall_mem_spine {good : Char → Prop}
    (inWord : ∀ word : NameWord, ∀ c ∈ word.text.toList, good c)
    (inSeparator : ∀ separator : NameSeparator, ∀ c ∈ separator.text, good c)
    (name : WrittenName) : ∀ c ∈ name.spine, good c := by
  fun_induction spine name with
  | case1 segment =>
      cases segment with
      | plain word => exact inWord word
      | applied word arguments => exact inWord word
  | case2 word separator rest inductionHypothesis =>
      simp only [List.forall_mem_append]
      exact ⟨⟨inWord word, inSeparator separator⟩, inductionHypothesis⟩
  | case3 word => exact inWord word

theorem isBlank_spine (name : WrittenName) : ∀ c ∈ name.spine, isBlank c = false :=
  name.forall_mem_spine (fun word => word.isName.isBlank_eq_false) fun _ _ membership => by
    rcases NameSeparator.eq_of_mem membership with rfl | rfl <;> rfl

theorem no_bracket_spine (name : WrittenName) : ∀ c ∈ name.spine, (c != '<') = true := by
  refine name.forall_mem_spine (fun word c membership => ?_) fun _ c membership => ?_
  · rw [bne_iff_ne]
    rintro rfl
    exact word.not_mem '<' (by decide) membership
  · rcases NameSeparator.eq_of_mem membership with rfl | rfl <;> rfl

theorem takeWhile_text (name : WrittenName) : name.text.takeWhile (· != '<') = name.spine := by
  have solid := name.no_bracket_spine
  have ends : ∃ behind, name.text = name.spine ++ behind ∧
      behind.takeWhile (· != '<') = [] := by
    clear solid
    fun_induction spine name with
    | case1 segment =>
        cases segment with
        | plain word => exact ⟨[], by simp [text, NameSegment.text, NameSegment.identifier], rfl⟩
        | applied word arguments =>
            exact ⟨_, by rw [text, NameSegment.text, NameSegment.identifier], rfl⟩
    | case2 word separator rest inductionHypothesis =>
        obtain ⟨behind, shape, stops⟩ := inductionHypothesis
        exact ⟨behind, by simp [text, NameSegment.text, shape], stops⟩
    | case3 word arguments separator rest =>
        exact ⟨'<' :: (argumentsText arguments ++ separator.text ++ rest.text),
          by simp [text, NameSegment.text], rfl⟩
  obtain ⟨behind, shape, stops⟩ := ends
  rw [shape, List.takeWhile_append_of_pos solid, stops, List.append_nil]

theorem exists_lastParts (name : WrittenName) : ∃ dotted,
    IsLastPart ':' [':'] name.spine dotted ∧
      IsLastPart '.' [] dotted name.firstApplied.toList := by
  have alone : ∀ word : NameWord, IsLastPart ':' [':'] word.text.toList word.text.toList ∧
      IsLastPart '.' [] word.text.toList word.text.toList :=
    fun word => ⟨.whole (word.not_mem ':' (by decide)), .whole (word.not_mem '.' (by decide))⟩
  fun_induction spine name with
  | case1 segment =>
      cases segment with
      | plain word => exact ⟨_, alone word⟩
      | applied word arguments => exact ⟨_, alone word⟩
  | case2 word separator rest inductionHypothesis =>
      obtain ⟨dotted, colons, dots⟩ := inductionHypothesis
      cases separator with
      | colons => exact ⟨dotted, colons.behind word.text.toList, dots⟩
      | dot =>
          rcases colons.split with rfl | ⟨front, split⟩
          · -- no double colons are left, so the dots reach to the front
            refine ⟨_, .whole ?_, dots.behind word.text.toList⟩
            simp [word.not_mem, colons.not_mem, NameSeparator.text]
          · refine ⟨dotted, ⟨colons.not_mem, .inr ⟨word.text.toList ++ '.' :: front, ?_⟩⟩, dots⟩
            simp [split, NameSeparator.text]
  | case3 word arguments separator rest => exact ⟨_, alone word⟩

/-- The simple name of a written name is the identifier in front of the first type arguments, and
so the last identifier if no other one is applied. -/
theorem simpleName_text (name : WrittenName) :
    simpleName (String.ofList name.text) = name.firstApplied ∧
      (name.isPlainlyQualified = true →
        simpleName (String.ofList name.text) = name.lastIdentifier) := by
  obtain ⟨dotted, colons, dots⟩ := name.exists_lastParts
  have solid : ∀ c ∈ name.firstApplied.toList, isBlank c = false :=
    fun c membership => name.isBlank_spine c (colons.subset (dots.subset membership))
  have first : simpleName (String.ofList name.text) = name.firstApplied := by
    rw [simpleName, String.toList_ofList, takeWhile_text, trimChars_of_solid name.isBlank_spine,
      colons.afterLast_eq, dots.afterLast_eq, trimChars_of_solid solid, String.ofList_toList]
  exact ⟨first, fun plainly => first.trans (firstApplied_of_isPlainlyQualified plainly)⟩

/-- In `Outer<int>.JsonAot` the simple name is not the last identifier. -/
theorem simpleName_of_applied_qualifier :
    ¬ ∀ name : WrittenName, simpleName (String.ofList name.text) = name.lastIdentifier := by
  intro lastOne
  have outer := lastOne (.qualified
    (.applied ⟨"Outer", by decide⟩ [.last (.plain ⟨"int", by decide⟩)]) .dot
    (.last (.plain ⟨"JsonAot", by decide⟩)))
  exact absurd outer (by decide +kernel)

end WrittenName

end Registrar
