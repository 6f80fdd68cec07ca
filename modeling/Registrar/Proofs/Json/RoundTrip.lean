import Registrar.Json.Printer
import Registrar.Proofs.Json.Reading

/-!
# Reading what was printed

A printed value is read back from the beginning of any text that does not continue a number. So the
printer gives every value a text of its own.
-/

set_option autoImplicit false

namespace Registrar.Json

mutual

def Value.datum : Value → Datum
  | .null => .null
  | .number n => .number ⟨n, 0⟩
  | .string text => .string text
  | .array items => .array (itemData items)
  | .object fields => .object (fieldData fields)

def itemData : List Value → List Datum
  | [] => []
  | item :: rest => item.datum :: itemData rest

def fieldData : List (String × Value) → List (String × Datum)
  | [] => []
  | (key, value) :: rest => (key, value.datum) :: fieldData rest

end

theorem itemData_eq_map (items : List Value) : itemData items = items.map Value.datum := by
  induction items with
  | nil => rfl
  | cons item rest inductionHypothesis => rw [itemData, inductionHypothesis, List.map_cons]

section Gaps

theorem dropGaps_cons {c : Char} (solid : isGap c = false) (rest : List Char) :
    dropGaps (c :: rest) = c :: rest := by
  unfold dropGaps
  rw [List.dropWhile_cons_of_neg (by simp [solid])]

theorem dropGaps_newLine (level : Nat) (text : List Char) :
    dropGaps (newLine level ++ text) = dropGaps text := by
  unfold dropGaps newLine
  rw [List.cons_append, List.dropWhile_cons_of_pos (by decide)]
  generalize 2 * level = width
  induction width with
  | zero => rfl
  | succ width inductionHypothesis =>
      rw [List.replicate_succ, List.cons_append, List.dropWhile_cons_of_pos (by decide)]
      exact inductionHypothesis

end Gaps

section Numbers

/-- What may follow a number: nothing that would continue it. -/
def Stops : List Char → Prop
  | [] => True
  | c :: _ => c.isDigit = false ∧ c ≠ '.' ∧ c ≠ 'e' ∧ c ≠ 'E'

theorem dropWhile_isDigit_of_stops {rest : List Char} (stops : Stops rest) :
    rest.takeWhile Char.isDigit = [] ∧ rest.dropWhile Char.isDigit = rest := by
  cases rest with
  | nil => exact ⟨rfl, rfl⟩
  | cons c rest =>
      obtain ⟨other, -⟩ := stops
      simp [other]

theorem exists_toDigits {n : Nat} (positive : 0 < n) :
    ∃ c rest, Nat.toDigits 10 n = c :: rest ∧ c ≠ '0' := by
  induction n using Nat.strongRecOn with
  | ind n inductionHypothesis =>
      by_cases small : n < 10
      · refine ⟨n.digitChar, [], Nat.toDigits_of_lt_base small, ?_⟩
        rw [ne_eq, Nat.digitChar_eq_zero]
        omega
      · obtain ⟨c, rest, shape, nonzero⟩ := inductionHypothesis (n / 10) (by omega) (by omega)
        refine ⟨c, rest ++ [(n % 10).digitChar], ?_, nonzero⟩
        rw [Nat.toDigits_of_base_le (by decide) (by omega), shape, List.cons_append]

theorem digits?_toDigits (n : Nat) {rest : List Char} (stops : Stops rest) :
    digits? (Nat.toDigits 10 n ++ rest) = some (Nat.toDigits 10 n, rest) := by
  have allDigits : ∀ c ∈ Nat.toDigits 10 n, c.isDigit = true := fun c membership =>
    Nat.isDigit_of_mem_toDigits (by decide) (by decide) membership
  obtain ⟨none, whole⟩ := dropWhile_isDigit_of_stops stops
  unfold digits?
  rw [List.takeWhile_append_of_pos allDigits, List.dropWhile_append_of_pos allDigits, none, whole,
    List.append_nil]
  simp

theorem whole?_toDigits (n : Nat) {rest : List Char} (stops : Stops rest) :
    whole? (Nat.toDigits 10 n ++ rest) = some (Nat.toDigits 10 n, rest) := by
  rcases Nat.eq_zero_or_pos n with rfl | positive
  · rw [Nat.toDigits_zero]
    rfl
  · obtain ⟨c, others, shape, nonzero⟩ := exists_toDigits positive
    have found := digits?_toDigits n stops
    rw [shape, List.cons_append] at found ⊢
    unfold whole?
    split
    · rename_i same
      exact absurd (List.cons.inj same).1 nonzero
    · exact found

theorem unsigned?_toDigits (n : Nat) {rest : List Char} (stops : Stops rest) :
    unsigned? (Nat.toDigits 10 n ++ rest) = some (⟨n, 0⟩, rest) := by
  have noFraction : fraction? rest = some ([], rest) := by
    unfold fraction?
    split
    · exact absurd rfl stops.2.1
    · rfl
  have noExponent : exponent? rest = some (0, rest) := by
    unfold exponent?
    split
    · exact absurd rfl stops.2.2.1
    · exact absurd rfl stops.2.2.2
    · rfl
  have value : ofDigits (Nat.toDigits 10 n) = n :=
    congrArg Nat.cast (Nat.ofDigitChars_toDigits (by decide) (by decide))
  unfold unsigned?
  rw [whole?_toDigits n stops]
  simp [noFraction, noExponent, value]

theorem exists_digit_toDigits (n : Nat) :
    ∃ c rest, Nat.toDigits 10 n = c :: rest ∧ c.isDigit = true := by
  obtain ⟨c, rest, shape⟩ := List.exists_cons_of_ne_nil (Nat.toDigits_ne_nil (n := n) (b := 10))
  refine ⟨c, rest, shape, Nat.isDigit_of_mem_toDigits ?_ ?_ (shape ▸ List.mem_cons_self)⟩
  · decide
  · decide

theorem number?_toDigits (n : Nat) {rest : List Char} (stops : Stops rest) :
    number? (Nat.toDigits 10 n ++ rest) = some (⟨n, 0⟩, rest) := by
  have found := unsigned?_toDigits n stops
  obtain ⟨c, others, shape, digit⟩ := exists_digit_toDigits n
  rw [shape, List.cons_append] at found ⊢
  unfold number?
  split
  · rename_i same
    rw [(List.cons.inj same).1] at digit
    exact absurd digit (by decide)
  · exact found

end Numbers

section Strings

theorem string?_skip (front rest : List Char) :
    string? front.length (front ++ rest) = string? 0 rest := by
  induction front with
  | nil => rfl
  | cons c front inductionHypothesis => exact inductionHypothesis

theorem string?_escape {c : Char} (written rest : List Char)
    (escaped : escape? (written ++ rest) = some (c, written.length)) :
    string? 0 ('\\' :: written ++ rest) =
      (string? 0 rest).map fun (text, rest) => (c :: text, rest) := by
  rw [List.cons_append, string?, if_neg (by decide), if_pos rfl, escaped]
  simp only [Option.bind_eq_bind, Option.bind_some, string?_skip]
  cases string? 0 rest with
  | none => rfl
  | some found => rfl

theorem hexNumber?_code : ∀ n < 0x20,
    Toml.hexNumber? [Nat.digitChar (n / 4096 % 16), Nat.digitChar (n / 256 % 16),
      Nat.digitChar (n / 16 % 16), Nat.digitChar (n % 16)] = some n := by
  decide

theorem string?_escapeChar (c : Char) (rest : List Char) :
    string? 0 (escapeChar c ++ rest) =
      (string? 0 rest).map fun (text, rest) => (c :: text, rest) := by
  unfold escapeChar
  split
  · subst c
    exact string?_escape ['"'] rest rfl
  split
  · subst c
    exact string?_escape ['\\'] rest rfl
  split
  · subst c
    exact string?_escape ['b'] rest rfl
  split
  · subst c
    exact string?_escape ['f'] rest rfl
  split
  · subst c
    exact string?_escape ['n'] rest rfl
  split
  · subst c
    exact string?_escape ['r'] rest rfl
  split
  · subst c
    exact string?_escape ['t'] rest rfl
  rename_i quote backslash _ _ _ _ _
  split
  · rename_i control
    apply string?_escape ('u' :: _) rest
    have code := hexNumber?_code c.toNat control
    have valid : c.toNat.isValidChar := c.valid
    simp [escape?, codeUnit?, code, valid]
  · rename_i plain
    rw [List.singleton_append, string?, if_neg quote, if_neg backslash, if_neg plain]

theorem string?_flatMap (text rest : List Char) :
    string? 0 (text.flatMap escapeChar ++ '"' :: rest) = some (text, rest) := by
  induction text with
  | nil => rfl
  | cons c text inductionHypothesis =>
      rw [List.flatMap_cons, List.append_assoc, string?_escapeChar, inductionHypothesis]
      rfl

theorem string?_quote_cons (text : String) (rest : List Char) :
    ∃ more, quote text ++ rest = '"' :: more ∧ string? 0 more = some (text.toList, rest) := by
  refine ⟨text.toList.flatMap escapeChar ++ '"' :: rest, ?_, string?_flatMap text.toList rest⟩
  unfold quote
  simp

theorem key?_quote (key : String) (rest : List Char) :
    key? (quote key ++ ':' :: rest) = some (key, rest) := by
  obtain ⟨more, shape, found⟩ := string?_quote_cons key (':' :: rest)
  unfold key?
  rw [shape, dropGaps_cons rfl]
  simp only [found, Option.bind_eq_bind, Option.bind_some, String.ofList_toList]
  rw [dropGaps_cons rfl]
  rfl

end Strings

section Values

theorem exists_block (opening closing : Char) (level : Nat) (items : List (List Char)) :
    ∃ rest, block opening closing level items = opening :: rest := by
  cases items with
  | nil => exact ⟨_, rfl⟩
  | cons item items => exact ⟨_, rfl⟩

theorem of_isDigit {c : Char} (digit : c.isDigit = true) :
    isGap c = false ∧ c.isAlpha = false ∧ c ∉ ['"', '[', ']', '\x7b'] := by
  refine ⟨?_, ?_, ?_⟩
  · rw [← Bool.not_eq_true, isGap]
    intro gap
    simp only [Bool.or_eq_true, beq_iff_eq] at gap
    rcases gap with ((rfl | rfl) | rfl) | rfl <;> exact absurd digit (by decide)
  · rw [← Bool.not_eq_true]
    intro letter
    have codes : (65 ≤ c.val ∧ c.val ≤ 90) ∨ (97 ≤ c.val ∧ c.val ≤ 122) := by
      have checked : (decide (65 ≤ c.val ∧ c.val ≤ 90) ||
          (decide (97 ≤ c.val) && decide (c.val ≤ 122))) = true := letter
      simpa using checked
    have code : 48 ≤ c.val ∧ c.val ≤ 57 := by
      have checked : (decide (48 ≤ c.val) && decide (c.val ≤ 57)) = true := digit
      simpa using checked
    grind
  · intro sign
    have notDigit : ['"', '[', ']', '\x7b'].all (fun d => !d.isDigit) = true := by decide
    have other := List.all_eq_true.mp notDigit c sign
    rw [digit] at other
    cases other

theorem exists_chars (value : Value) (level : Nat) :
    ∃ c rest, value.chars level = c :: rest ∧ isGap c = false ∧ c ≠ ']' := by
  cases value with
  | null => exact ⟨'n', _, rfl, rfl, by decide⟩
  | number n =>
      obtain ⟨c, rest, shape, digit⟩ := exists_digit_toDigits n
      obtain ⟨solid, -, other⟩ := of_isDigit digit
      refine ⟨c, rest, shape, solid, ?_⟩
      rintro rfl
      exact other (by decide)
  | string text => exact ⟨'"', _, rfl, rfl, by decide⟩
  | array items =>
      obtain ⟨rest, shape⟩ := exists_block '[' ']' level (itemChars (level + 1) items)
      exact ⟨'[', rest, shape, rfl, by decide⟩
  | object fields =>
      obtain ⟨rest, shape⟩ := exists_block '\x7b' '\x7d' level (fieldChars (level + 1) fields)
      exact ⟨'\x7b', rest, shape, rfl, by decide⟩

theorem datum?_newLine (fuel level : Nat) (text : List Char) :
    datum? fuel (newLine level ++ text) = datum? fuel text := by
  cases fuel with
  | zero => rfl
  | succ fuel =>
      unfold datum?
      rw [dropGaps_newLine]

theorem stops_newLine (level : Nat) (rest : List Char) : Stops (newLine level ++ rest) :=
  ⟨by decide, by decide, by decide, by decide⟩

theorem stops_comma (rest : List Char) : Stops (',' :: rest) :=
  ⟨by decide, by decide, by decide, by decide⟩

theorem datum?_string (fuel : Nat) (text : String) (rest : List Char) :
    datum? (fuel + 1) (quote text ++ rest) = some (.string text, rest) := by
  obtain ⟨more, shape, found⟩ := string?_quote_cons text rest
  rw [shape]
  unfold datum?
  rw [dropGaps_cons rfl]
  simp [found]

theorem datum?_number (fuel n : Nat) {rest : List Char} (stops : Stops rest) :
    datum? (fuel + 1) (Nat.toDigits 10 n ++ rest) = some (.number ⟨n, 0⟩, rest) := by
  have found := number?_toDigits n stops
  obtain ⟨c, others, shape, digit⟩ := exists_digit_toDigits n
  obtain ⟨solid, noLetter, other⟩ := of_isDigit digit
  simp only [List.mem_cons, List.not_mem_nil, or_false, not_or] at other
  rw [shape, List.cons_append] at found ⊢
  unfold datum?
  rw [dropGaps_cons solid]
  simp [other, noLetter, found]

theorem datum?_array {fuel : Nat} {text rest : List Char} {items : List Datum} {c : Char}
    {more : List Char} (begins : dropGaps text = c :: more) (goesOn : c ≠ ']')
    (found : items? fuel (c :: more) = some (items, rest)) :
    datum? (fuel + 1) ('[' :: text) = some (.array items, rest) := by
  unfold datum?
  rw [dropGaps_cons rfl]
  simp only [begins, Char.reduceEq, if_false, if_true]
  split
  · rename_i same
    exact absurd (List.cons.inj same).1 goesOn
  · rw [found]
    rfl

theorem datum?_object {fuel : Nat} {text rest : List Char} {fields : List (String × Datum)}
    {c : Char} {more : List Char} (begins : dropGaps text = c :: more) (goesOn : c ≠ '\x7d')
    (found : fields? fuel (c :: more) = some (fields, rest)) :
    datum? (fuel + 1) ('\x7b' :: text) = some (.object fields, rest) := by
  unfold datum?
  rw [dropGaps_cons rfl]
  simp only [begins, Char.reduceEq, if_false, if_true]
  split
  · rename_i same
    exact absurd (List.cons.inj same).1 goesOn
  · rw [found]
    rfl

theorem items?_comma {fuel : Nat} {text rest more : List Char} {item : Datum} {items : List Datum}
    (first : datum? fuel text = some (item, ',' :: rest))
    (others : items? fuel rest = some (items, more)) :
    items? (fuel + 1) text = some (item :: items, more) := by
  unfold items?
  simp [first, dropGaps_cons (c := ',') rfl, others]

theorem items?_closed {fuel level : Nat} {text rest : List Char} {item : Datum}
    (last : datum? fuel text = some (item, newLine level ++ ']' :: rest)) :
    items? (fuel + 1) text = some ([item], rest) := by
  unfold items?
  simp [last, dropGaps_newLine, dropGaps_cons (c := ']') rfl]

theorem fields?_comma {fuel : Nat} {text rest more : List Char} {key : String} {value : Datum}
    {fields : List (String × Datum)} (first : datum? fuel text = some (value, ',' :: rest))
    (others : fields? fuel rest = some (fields, more)) :
    fields? (fuel + 1) (quote key ++ ':' :: text) = some ((key, value) :: fields, more) := by
  unfold fields?
  simp [key?_quote, first, dropGaps_cons (c := ',') rfl, others]

theorem fields?_closed {fuel level : Nat} {text rest : List Char} {key : String} {value : Datum}
    (last : datum? fuel text = some (value, newLine level ++ '\x7d' :: rest)) :
    fields? (fuel + 1) (quote key ++ ':' :: text) = some ([(key, value)], rest) := by
  unfold fields?
  simp [key?_quote, last, dropGaps_newLine, dropGaps_cons (c := '\x7d') rfl]

theorem items?_newLine (fuel level : Nat) (text : List Char) :
    items? fuel (newLine level ++ text) = items? fuel text := by
  cases fuel with
  | zero => rfl
  | succ fuel =>
      unfold items?
      rw [datum?_newLine]

theorem fields?_newLine (fuel level : Nat) (text : List Char) :
    fields? fuel (newLine level ++ text) = fields? fuel text := by
  cases fuel with
  | zero => rfl
  | succ fuel =>
      unfold fields? key?
      rw [dropGaps_newLine]

theorem datum?_space (fuel : Nat) (text : List Char) :
    datum? fuel (' ' :: text) = datum? fuel text := by
  cases fuel with
  | zero => rfl
  | succ fuel =>
      unfold datum? dropGaps
      rw [List.dropWhile_cons_of_pos (by decide)]

def joined (level : Nat) (items : List (List Char)) : List Char :=
  (',' :: newLine level).intercalate items

theorem joined_cons_cons (level : Nat) (item next : List Char) (others : List (List Char)) :
    joined level (item :: next :: others) =
      item ++ ',' :: (newLine level ++ joined level (next :: others)) := by
  unfold joined
  rw [List.intercalate_cons_cons]
  simp

theorem exists_joined (level : Nat) (item : List Char) (others : List (List Char)) :
    ∃ more, joined level (item :: others) = item ++ more := by
  cases others with
  | nil => exact ⟨[], by simp [joined]⟩
  | cons next others => exact ⟨_, joined_cons_cons level item next others⟩

theorem block_cons (opening closing : Char) (level : Nat) (item : List Char)
    (others : List (List Char)) :
    block opening closing level (item :: others) =
      opening :: (newLine (level + 1) ++ (joined (level + 1) (item :: others) ++
        (newLine level ++ [closing]))) := by
  simp [block, joined]

mutual

/-- A value is read from its text, whatever stands behind it. -/
theorem datum?_chars : ∀ (value : Value) (level fuel : Nat) (rest : List Char),
    2 * (value.chars level).length ≤ fuel → Stops rest →
      datum? fuel (value.chars level ++ rest) = some (value.datum, rest)
  | value, level, 0, rest, enough, _ => by
      obtain ⟨c, more, shape, -⟩ := exists_chars value level
      rw [shape, List.length_cons] at enough
      omega
  | .null, _, _ + 1, _, _, _ => rfl
  | .number n, _, fuel + 1, _, _, stops => datum?_number fuel n stops
  | .string text, _, fuel + 1, rest, _, _ => datum?_string fuel text rest
  | .array [], _, _ + 1, _, _, _ => rfl
  | .array (item :: others), level, fuel + 1, rest, enough, _ => by
      obtain ⟨c, begun, itemShape, solid, goesOn⟩ := exists_chars item (level + 1)
      obtain ⟨more, shape⟩ := exists_joined (level + 1) (item.chars (level + 1))
        (itemChars (level + 1) others)
      have found := items?_itemChars (item :: others) (level + 1) level fuel rest (by simp)
      simp only [Value.chars, itemChars, block_cons, List.length_cons, List.length_append] at enough
      specialize found (by simp only [itemChars]; omega)
      simp only [Value.chars, itemChars, block_cons, List.cons_append, List.append_assoc,
        List.nil_append] at found ⊢
      rw [shape, itemShape, List.cons_append, List.cons_append] at found ⊢
      refine datum?_array ?_ goesOn found
      rw [dropGaps_newLine, dropGaps_cons solid]
  | .object [], _, _ + 1, _, _, _ => rfl
  | .object ((key, value) :: others), level, fuel + 1, rest, enough, _ => by
      obtain ⟨more, shape⟩ := exists_joined (level + 1)
        (quote key ++ ':' :: ' ' :: value.chars (level + 1)) (fieldChars (level + 1) others)
      have found := fields?_fieldChars ((key, value) :: others) (level + 1) level fuel rest
        (by simp)
      simp only [Value.chars, fieldChars, block_cons, List.length_cons,
        List.length_append] at enough
      specialize found (by simp only [fieldChars]; omega)
      simp only [Value.chars, fieldChars, block_cons, List.cons_append, List.append_assoc,
        List.nil_append] at found ⊢
      rw [shape, quote] at found ⊢
      refine datum?_object ?_ (by decide) found
      rw [dropGaps_newLine]
      exact dropGaps_cons rfl _

theorem items?_itemChars : ∀ (items : List Value) (level outer fuel : Nat) (rest : List Char),
    items ≠ [] → 2 * (joined level (itemChars level items)).length < fuel →
      items? fuel (joined level (itemChars level items) ++ (newLine outer ++ ']' :: rest)) =
        some (itemData items, rest)
  | [], _, _, _, _, nonempty, _ => absurd rfl nonempty
  | [item], level, outer, fuel + 1, rest, _, enough => by
      have single : joined level (itemChars level [item]) = item.chars level := by
        simp [joined, itemChars]
      rw [single] at enough ⊢
      apply items?_closed
      exact datum?_chars item level fuel _ (by omega) (stops_newLine outer _)
  | item :: next :: others, level, outer, fuel + 1, rest, _, enough => by
      have shape : joined level (itemChars level (item :: next :: others)) =
          item.chars level ++
            ',' :: (newLine level ++ joined level (itemChars level (next :: others))) :=
        joined_cons_cons level _ _ _
      rw [shape] at enough ⊢
      simp only [List.length_append, List.length_cons] at enough
      rw [List.append_assoc, List.cons_append, List.append_assoc]
      apply items?_comma
      · exact datum?_chars item level fuel _ (by omega) (stops_comma _)
      · rw [items?_newLine]
        exact items?_itemChars (next :: others) level outer fuel rest (by simp) (by omega)

theorem fields?_fieldChars : ∀ (fields : List (String × Value)) (level outer fuel : Nat)
    (rest : List Char), fields ≠ [] → 2 * (joined level (fieldChars level fields)).length < fuel →
      fields? fuel (joined level (fieldChars level fields) ++ (newLine outer ++ '\x7d' :: rest)) =
        some (fieldData fields, rest)
  | [], _, _, _, _, nonempty, _ => absurd rfl nonempty
  | [(key, value)], level, outer, fuel + 1, rest, _, enough => by
      have single : joined level (fieldChars level [(key, value)]) =
          quote key ++ ':' :: ' ' :: value.chars level := by
        simp [joined, fieldChars]
      rw [single] at enough ⊢
      simp only [List.length_append, List.length_cons] at enough
      rw [List.append_assoc, List.cons_append, List.cons_append]
      apply fields?_closed
      rw [datum?_space]
      exact datum?_chars value level fuel _ (by omega) (stops_newLine outer _)
  | (key, value) :: next :: others, level, outer, fuel + 1, rest, _, enough => by
      have shape : joined level (fieldChars level ((key, value) :: next :: others)) =
          (quote key ++ ':' :: ' ' :: value.chars level) ++
            ',' :: (newLine level ++ joined level (fieldChars level (next :: others))) :=
        joined_cons_cons level _ _ _
      rw [shape] at enough ⊢
      simp only [List.length_append, List.length_cons] at enough
      simp only [List.append_assoc, List.cons_append]
      apply fields?_comma
      · rw [datum?_space]
        exact datum?_chars value level fuel _ (by omega) (stops_comma _)
      · rw [fields?_newLine]
        exact fields?_fieldChars (next :: others) level outer fuel rest (by simp) (by omega)

end

theorem read?_print (value : Value) : read? value.print = some value.datum := by
  have found := datum?_chars value 0 (2 * (value.chars 0).length + 1) [] (by omega) trivial
  rw [List.append_nil] at found
  unfold read? Value.print
  rw [String.toList_ofList, found]
  rfl

end Values

end Registrar.Json
