import Mathlib.Data.List.DropRight
import Mathlib.Data.String.Basic
import Registrar.Manifest.Read
import Registrar.Proofs.Text.Pieces

/-!
# Spans of assignments

The span of a key, in bytes, is the first line of the text that gives a value to the key, without
the blanks around it. It lies inside the text and between characters, so that what it covers can be
shown to the reader of a complaint.
-/

set_option autoImplicit false

namespace Registrar

open Text

namespace Text

structure BlankAround (indent content tail : List Char) : Prop where
  indent_blank : ∀ c ∈ indent, isBlank c = true
  tail_blank : ∀ c ∈ tail, isBlank c = true
  begins : ∀ c ∈ content.head?, isBlank c = false
  ends : ∀ c ∈ content.getLast?, isBlank c = false

theorem isBlank_of_head?_dropWhile {text : List Char} {c : Char}
    (first : (text.dropWhile isBlank).head? = some c) : isBlank c = false := by
  have solid := List.head?_dropWhile_not isBlank text
  rwa [first] at solid

theorem exists_blankAround (text : List Char) : ∃ tail,
    text = text.takeWhile isBlank ++ trimChars text ++ tail ∧
      BlankAround (text.takeWhile isBlank) (trimChars text) tail := by
  have trimmed : trimChars text = (text.dropWhile isBlank).rdropWhile isBlank := rfl
  refine ⟨(text.dropWhile isBlank).rtakeWhile isBlank, ?_, ?_, ?_, ?_, ?_⟩
  · rw [trimmed, List.append_assoc, List.rdropWhile_append_rtakeWhile,
      List.takeWhile_append_dropWhile]
  · exact fun c => List.mem_takeWhile_imp
  · exact fun c => List.mem_rtakeWhile_imp
  · intro c first
    obtain ⟨rest, shape⟩ := List.rdropWhile_prefix isBlank (text.dropWhile isBlank)
    apply isBlank_of_head?_dropWhile
    rw [← shape, List.head?_append, ← trimmed, Option.mem_def.1 first]
    rfl
  · intro c last
    obtain ⟨nonempty, rfl⟩ := List.mem_getLast?_eq_getLast last
    exact Bool.eq_false_of_not_eq_true (List.rdropWhile_last_not _ _ nonempty)

theorem BlankAround.dropWhile_prefix {indent content tail : List Char}
    (blankAround : BlankAround indent content tail) :
    (indent ++ content ++ tail).dropWhile isBlank <+: content ++ tail := by
  rw [List.append_assoc, List.dropWhile_append_of_pos blankAround.indent_blank]
  cases content with
  | nil => simp [List.dropWhile_eq_nil_iff.2 blankAround.tail_blank]
  | cons c rest => simp [blankAround.begins c rfl]

theorem byteLength_eq_utf8Len (text : List Char) : byteLength text = String.utf8Len text := by
  induction text with
  | nil => rfl
  | cons c rest inductionHypothesis =>
      rw [byteLength, String.utf8Len_cons, inductionHypothesis, Nat.add_comm]

theorem isValid_byteLength {source : String} {front back : List Char}
    (whole : source.toList = front ++ back) :
    String.Pos.Raw.IsValid source ⟨byteLength front⟩ := by
  rw [String.Pos.Raw.isValid_iff_exists_append]
  refine ⟨String.ofList front, String.ofList back, ?_, ?_⟩
  · rw [← String.ofList_append, ← whole, String.ofList_toList]
  · simp [byteLength_eq_utf8Len]

end Text

/-- The span covers a part of the text: it lies inside the text, it begins and ends between
characters, and what stands there are the characters of the part. -/
structure Span.Covers (span : Span) (source : String) (part : List Char) : Prop where
  inside : span.offset + span.length ≤ source.utf8ByteSize
  begins : String.Pos.Raw.IsValid source ⟨span.offset⟩
  ends : String.Pos.Raw.IsValid source ⟨span.offset + span.length⟩
  text : String.Pos.Raw.extract source ⟨span.offset⟩ ⟨span.offset + span.length⟩ =
    String.ofList part

theorem Span.covers_of_append {source : String} {front part back : List Char}
    (whole : source.toList = front ++ part ++ back) :
    (Span.mk (byteLength front) (byteLength part)).Covers source part := by
  have positions : byteLength (front ++ part) = byteLength front + byteLength part :=
    byteLength_append front part
  have ends : String.Pos.Raw.IsValid source ⟨byteLength front + byteLength part⟩ :=
    positions ▸ isValid_byteLength whole
  have begins : String.Pos.Raw.IsValid source ⟨byteLength front⟩ :=
    isValid_byteLength (whole.trans (List.append_assoc front part back))
  refine ⟨ends.le_utf8ByteSize, begins, ends, ?_⟩
  rw [← String.ofList_toList (s := source), whole, byteLength_eq_utf8Len, byteLength_eq_utf8Len]
  exact String.extract_of_valid front part back

/-- A line gives a value to a key: behind blanks stand the key, blanks and an equals sign. -/
def IsAssignment (key : String) (line : List Char) : Prop :=
  ∃ indent gap value, line = indent ++ key.toList ++ gap ++ '=' :: value ∧
    (∀ c ∈ indent, isBlank c = true) ∧ ∀ c ∈ gap, isBlank c = true

/-- Some line of the text gives a value to the key. -/
def IsAssignedIn (key : String) (text : List Char) : Prop :=
  ∃ before line behind, IsPiece text before line behind ∧ IsAssignment key line

theorem isAssignedIn_iff {key : String} {text : List Char} :
    IsAssignedIn key text ↔ ∃ line ∈ pieces text, IsAssignment key line := by
  simp only [IsAssignedIn, mem_pieces_iff]
  tauto

theorem assigns_dropWhile_iff {key : String} (compact : IsCompact key) (line : List Char) :
    assigns key.toList (line.dropWhile isBlank) = true ↔ IsAssignment key line := by
  rw [assigns, Bool.and_eq_true, List.isPrefixOf_iff_prefix, beq_iff_eq]
  constructor
  · rintro ⟨⟨rest, shape⟩, sign⟩
    rw [← shape, List.drop_left] at sign
    obtain ⟨value, behind⟩ := List.head?_eq_some_iff.1 sign
    refine ⟨line.takeWhile isBlank, rest.takeWhile isBlank, value, ?_, ?_, ?_⟩
    · calc line = line.takeWhile isBlank ++ line.dropWhile isBlank :=
            List.takeWhile_append_dropWhile.symm
        _ = line.takeWhile isBlank ++ (key.toList ++ rest) := by rw [shape]
        _ = line.takeWhile isBlank ++
              (key.toList ++ (rest.takeWhile isBlank ++ rest.dropWhile isBlank)) := by
            rw [List.takeWhile_append_dropWhile]
        _ = _ := by rw [behind]; simp
    · exact fun c => List.mem_takeWhile_imp
    · exact fun c => List.mem_takeWhile_imp
  · rintro ⟨indent, gap, value, rfl, indentBlank, gapBlank⟩
    have solidSign : isBlank '=' = false := rfl
    have sign : (gap ++ '=' :: value).dropWhile isBlank = '=' :: value := by
      simp [List.dropWhile_append_of_pos gapBlank, solidSign]
    rw [List.append_assoc, List.append_assoc, List.dropWhile_append_of_pos indentBlank]
    cases shape : key.toList with
    | nil => simp [sign, solidSign]
    | cons c rest =>
        have solid : isBlank c = false := compact c (by simp [shape])
        simp [solid, sign]

theorem spanAmong_eq_none_iff {key : List Char} {offset : Nat} {lines : List (List Char)} :
    spanAmong key offset lines = none ↔
      ∀ line ∈ lines, assigns key (line.dropWhile isBlank) = false := by
  induction lines generalizing offset with
  | nil => simp [spanAmong]
  | cons line rest inductionHypothesis =>
      rw [spanAmong, List.forall_mem_cons]
      cases assigns key (line.dropWhile isBlank) with
      | false => simpa using inductionHypothesis
      | true => simp

theorem spanAmong_append {key : List Char} {front : List (List Char)} {line : List Char}
    (absent : ∀ earlier ∈ front, assigns key (earlier.dropWhile isBlank) = false)
    (present : assigns key (line.dropWhile isBlank) = true) (offset : Nat)
    (back : List (List Char)) :
    spanAmong key offset (front ++ line :: back) =
      some ⟨offset + byteLength (front.flatten ++ line.takeWhile isBlank),
        byteLength (trimChars line)⟩ := by
  induction front generalizing offset with
  | nil =>
      have lengths : byteLength line =
          byteLength (line.takeWhile isBlank) + byteLength (line.dropWhile isBlank) := by
        rw [← byteLength_append, List.takeWhile_append_dropWhile]
      simp [spanAmong, present, lengths, trimChars]
  | cons first front inductionHypothesis =>
      obtain ⟨here, later⟩ := List.forall_mem_cons.1 absent
      rw [List.cons_append, spanAmong, here, if_neg (by simp), inductionHypothesis later]
      simp [byteLength_append, Nat.add_assoc]

/-- The first line of a text that gives a value to a key, with the blanks around it. No line of what
stands before it does so. -/
structure FirstAssignment (source key : String) where
  before : List Char
  indent : List Char
  content : List Char
  tail : List Char
  behind : List Char
  isPiece : IsPiece source.toList before (indent ++ content ++ tail) behind
  isAssignment : IsAssignment key (indent ++ content ++ tail)
  isFirst : ¬IsAssignedIn key before
  blankAround : BlankAround indent content tail

namespace FirstAssignment

variable {source key : String} (found : FirstAssignment source key)

def span : Span := ⟨byteLength (found.before ++ found.indent), byteLength found.content⟩

theorem covers : found.span.Covers source found.content := by
  have whole : source.toList =
      (found.before ++ found.indent) ++ found.content ++ (found.tail ++ found.behind) := by
    simp [found.isPiece.whole]
  exact Span.covers_of_append whole

theorem covers_indent :
    (Span.mk (byteLength found.before) (byteLength found.indent)).Covers source found.indent := by
  have whole : source.toList =
      found.before ++ found.indent ++ (found.content ++ found.tail ++ found.behind) := by
    simp [found.isPiece.whole]
  exact Span.covers_of_append whole

theorem feed_not_mem : '\n' ∉ found.content := by
  intro feed
  obtain ⟨front, back, shape⟩ := List.append_of_mem feed
  have line : found.indent ++ found.content ++ found.tail =
      (found.indent ++ front) ++ '\n' :: (back ++ found.tail) := by
    simp [shape]
  have nothing_behind := found.isPiece.eq_nil_of_feed line
  have last : found.content.getLast? = some '\n' := by
    simp [shape, (List.append_eq_nil_iff.1 nothing_behind).1]
  exact absurd (found.blankAround.ends _ last) (by decide)

theorem key_prefix (compact : IsCompact key) : key.toList <+: found.content := by
  have assigned := (assigns_dropWhile_iff compact _).2 found.isAssignment
  rw [assigns, Bool.and_eq_true, List.isPrefixOf_iff_prefix] at assigned
  obtain ⟨rest, shape⟩ := assigned.1.trans found.blankAround.dropWhile_prefix
  rcases List.append_eq_append_iff.1 shape with ⟨more, longer, -⟩ | ⟨more, keyShape, tailShape⟩
  · exact ⟨more, longer.symm⟩
  · cases more with
    | nil => simp [keyShape]
    | cons c more =>
        have blank := found.blankAround.tail_blank c (by simp [tailShape])
        have solid := compact c (by simp [keyShape])
        rw [blank] at solid
        cases solid

end FirstAssignment

theorem keySpan?_cases {key : String} (compact : IsCompact key) (source : String) :
    (keySpan? source key = none ∧ ¬IsAssignedIn key source.toList) ∨
      ∃ found : FirstAssignment source key, keySpan? source key = some found.span := by
  rw [isAssignedIn_iff]
  simp only [← assigns_dropWhile_iff compact]
  cases search : (pieces source.toList).find? fun line =>
      assigns key.toList (line.dropWhile isBlank) with
  | none =>
      rw [List.find?_eq_none] at search
      refine .inl ⟨spanAmong_eq_none_iff.2 fun line membership => ?_, ?_⟩
      · exact Bool.eq_false_of_not_eq_true (search line membership)
      · rintro ⟨line, membership, assigned⟩
        exact search line membership assigned
  | some line =>
      obtain ⟨assigned, front, back, cut, absent⟩ := List.find?_eq_some_iff_append.1 search
      simp only [Bool.not_eq_true'] at absent
      obtain ⟨isPiece, earlier⟩ := IsPiece.of_pieces_eq cut
      obtain ⟨tail, shape, blankAround⟩ := exists_blankAround line
      have isFirst : ¬IsAssignedIn key front.flatten := by
        rw [isAssignedIn_iff, earlier]
        rintro ⟨other, membership, otherAssigned⟩
        rw [← assigns_dropWhile_iff compact, absent other membership] at otherAssigned
        cases otherAssigned
      have isAssignment := (assigns_dropWhile_iff compact line).1 assigned
      refine .inr ⟨⟨front.flatten, line.takeWhile isBlank, trimChars line, tail, back.flatten,
        shape ▸ isPiece, shape ▸ isAssignment, isFirst, blankAround⟩, ?_⟩
      rw [keySpan?, cut, spanAmong_append absent assigned, Nat.zero_add]
      rfl

/-- A key without blanks has no span precisely if no line of the text gives it a value. Its span is
that of the first such line without the blanks around it: it lies inside the text and between
characters, what it covers begins with the key and holds no line feed, and only blanks stand in
front of it in its line. -/
theorem keySpan?_marks_first_assignment {key : String} (compact : IsCompact key) (source : String) :
    (keySpan? source key = none ↔ ¬IsAssignedIn key source.toList) ∧
    ∀ span, keySpan? source key = some span →
      ∃ found : FirstAssignment source key, span = found.span ∧
        span.Covers source found.content ∧ key.toList <+: found.content ∧ '\n' ∉ found.content ∧
        (Span.mk (byteLength found.before) (byteLength found.indent)).Covers source
          found.indent := by
  rcases keySpan?_cases compact source with ⟨noSpan, unassigned⟩ | ⟨found, marked⟩
  · simp [noSpan, unassigned]
  · have assigned : IsAssignedIn key source.toList :=
      ⟨_, _, _, found.isPiece, found.isAssignment⟩
    refine ⟨by simp [marked, assigned], ?_⟩
    intro span isSpan
    obtain rfl : found.span = span := Option.some.inj (marked.symm.trans isSpan)
    exact ⟨found, rfl, found.covers, found.key_prefix compact, found.feed_not_mem,
      found.covers_indent⟩

def spacedSource : String :=
  "# é marker = 1\r\n\r\n\u3000marker\u00a0=\t'' \r\nmarker = 2"

/-- An ideographic space stands in front of the key, a no-break space behind it. -/
theorem keySpan?_marks_spaced_assignment :
    IsCompact "marker" ∧ keySpan? spacedSource "marker" = some ⟨22, 12⟩ ∧
      ∃ found : FirstAssignment spacedSource "marker", ⟨22, 12⟩ = found.span ∧
        (Span.mk 22 12).Covers spacedSource found.content ∧
        "marker".toList <+: found.content ∧ '\n' ∉ found.content ∧
        (Span.mk (byteLength found.before) (byteLength found.indent)).Covers spacedSource
          found.indent := by
  have compact : IsCompact "marker" := by decide
  have marked : keySpan? spacedSource "marker" = some ⟨22, 12⟩ := by rfl
  exact ⟨compact, marked, (keySpan?_marks_first_assignment compact spacedSource).2 _ marked⟩

theorem Fault.isCompact_key (fault : Fault) : IsCompact fault.key := by
  cases fault with
  | blankMarker => exact (by decide : IsCompact "marker")
  | noExtensions | dottedExtension => exact (by decide : IsCompact "extensions")
  | emptyArtifact => exact (by decide : IsCompact "artifact")

namespace Manifest

theorem span_of_read {source : String} {fault : Fault} {span : Option Span}
    (refused : read source = .error (.invalid fault span)) : span = keySpan? source fault.key := by
  unfold read check at refused
  split at refused
  · split at refused
    · cases refused
      rfl
    · cases refused
  · cases refused

/-- What a complaint about a manifest points at can be shown, and it names the setting. -/
theorem exists_covers_of_read {source : String} {fault : Fault} {span : Span}
    (refused : read source = .error (.invalid fault (some span))) :
    ∃ part, span.Covers source part ∧ fault.key.toList <+: part ∧ '\n' ∉ part := by
  have compact := Fault.isCompact_key fault
  have marked := (span_of_read refused).symm
  rcases keySpan?_cases compact source with ⟨noSpan, -⟩ | ⟨found, foundSpan⟩
  · rw [noSpan] at marked
    cases marked
  · obtain rfl := Option.some.inj (foundSpan.symm.trans marked)
    exact ⟨found.content, found.covers, found.key_prefix compact, found.feed_not_mem⟩

end Manifest

end Registrar
