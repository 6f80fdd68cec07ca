import Mathlib.Data.List.Nodup
import Registrar.Toml.Document

/-!
No table of a document has a key twice. Putting a node under a key keeps this, so that it holds of
the entries behind every statement, and of every value that a statement gives.
-/

set_option autoImplicit false

namespace Registrar.Toml

/-- That no table in a value has a key twice, at any depth. -/
inductive Value.DistinctKeys : Value → Prop
  | string (text : String) : DistinctKeys (.string text)
  | scalar (text : String) : DistinctKeys (.scalar text)
  | array {items : List Value} (each : ∀ item ∈ items, DistinctKeys item) :
      DistinctKeys (.array items)
  | table {entries : List (String × Value)} (distinct : (entries.map Prod.fst).Nodup)
      (each : ∀ entry ∈ entries, DistinctKeys entry.2) : DistinctKeys (.table entries)

theorem Value.distinctKeys_array {items : List Value} :
    (Value.array items).DistinctKeys ↔ ∀ item ∈ items, item.DistinctKeys := by
  constructor
  · rintro ⟨⟩
    assumption
  · exact .array

theorem Value.distinctKeys_table {entries : List (String × Value)} :
    (Value.table entries).DistinctKeys ↔
      (entries.map Prod.fst).Nodup ∧ ∀ entry ∈ entries, entry.2.DistinctKeys := by
  constructor
  · rintro ⟨⟩
    exact ⟨‹_›, ‹_›⟩
  · rintro ⟨distinct, each⟩
    exact .table distinct each

theorem finishEntries_eq_map (entries : Entries) :
    finishEntries entries = entries.map fun entry => (entry.1, entry.2.finish) := by
  induction entries with
  | nil => rfl
  | cons entry rest inductionHypothesis =>
      rw [finishEntries, inductionHypothesis, List.map_cons]

namespace Entries

/-- That no key appears twice among entries under construction, nor in anything under them. -/
def Distinct (entries : Entries) : Prop :=
  (Value.table (finishEntries entries)).DistinctKeys

theorem distinct_iff {entries : Entries} :
    Distinct entries ↔
      (entries.map Prod.fst).Nodup ∧ ∀ entry ∈ entries, entry.2.finish.DistinctKeys := by
  unfold Distinct
  rw [Value.distinctKeys_table, finishEntries_eq_map, List.map_map, List.forall_mem_map]
  rfl

theorem Distinct.nil : Distinct [] := by
  simp [distinct_iff]

theorem distinctKeys_tables {earlier : List Value} {last : Entries} :
    (Node.tables earlier last).finish.DistinctKeys ↔
      (∀ item ∈ earlier, item.DistinctKeys) ∧ Distinct last := by
  rw [Node.finish, Value.distinctKeys_array, List.forall_mem_append, List.forall_mem_singleton]
  rfl

theorem mem_of_find? {entries : Entries} {key : String} {node : Node}
    (found : find? entries key = some node) : (key, node) ∈ entries := by
  unfold find? at found
  obtain ⟨entry, first, rfl⟩ := Option.map_eq_some_iff.mp found
  have same : entry.1 = key := by simpa using List.find?_some first
  exact same ▸ List.mem_of_find?_eq_some first

theorem find?_eq_none {entries : Entries} {key : String} :
    find? entries key = none ↔ key ∉ entries.map Prod.fst := by
  simp only [find?, Option.map_eq_none_iff, List.find?_eq_none, List.mem_map]
  grind

theorem Distinct.of_find? {entries : Entries} {key : String} {node : Node}
    (distinct : Distinct entries) (found : find? entries key = some node) :
    node.finish.DistinctKeys :=
  (distinct_iff.mp distinct).2 _ (mem_of_find? found)

theorem mem_put {entries : Entries} {key : String} {node : Node} {entry : String × Node}
    (present : entry ∈ put entries key node) : entry = (key, node) ∨ entry ∈ entries := by
  unfold put at present
  split at present
  · obtain ⟨old, member, rfl⟩ := List.mem_map.mp present
    split
    · exact .inl rfl
    · exact .inr member
  · simpa [or_comm] using present

theorem nodup_put {entries : Entries} {key : String} (node : Node)
    (distinct : (entries.map Prod.fst).Nodup) : ((put entries key node).map Prod.fst).Nodup := by
  unfold put
  split
  next found =>
    -- The node under the key is replaced, and the keys stay what they were.
    have same : (entries.map fun entry => if entry.1 == key then (key, node) else entry).map
        Prod.fst = entries.map Prod.fst := by
      rw [List.map_map]
      apply List.map_congr_left
      intro entry _
      by_cases hit : entry.1 = key <;> simp [hit]
    rwa [same]
  next missing =>
    have absent : key ∉ entries.map Prod.fst := by
      apply find?_eq_none.mp
      simpa using missing
    rw [List.map_append]
    simpa [List.nodup_append] using ⟨distinct, fun other node member =>
      fun same => absent (List.mem_map.mpr ⟨_, member, same⟩)⟩

theorem Distinct.put {entries : Entries} {key : String} {node : Node}
    (distinct : Distinct entries) (sound : node.finish.DistinctKeys) :
    Distinct (entries.put key node) := by
  obtain ⟨nodup, each⟩ := distinct_iff.mp distinct
  refine distinct_iff.mpr ⟨nodup_put node nodup, fun entry present => ?_⟩
  obtain rfl | member := mem_put present
  · exact sound
  · exact each entry member

theorem exists_eq_put {wrap : Entries → Node} {attempt : Option Entries} {entries result : Entries}
    {key : String}
    (modified : ((attempt.map wrap).bind fun node => some (entries.put key node)) = some result) :
    ∃ changed, attempt = some changed ∧ result = entries.put key (wrap changed) := by
  cases attempt with
  | none => cases modified
  | some changed => exact ⟨changed, rfl, (Option.some.inj modified).symm⟩

theorem Distinct.modify {change : Origin → Entries → Option Entries} {made : Origin}
    (keeps : ∀ origin inner changed, Distinct inner → change origin inner = some changed →
      Distinct changed)
    {path : List String} {origin : Origin} {entries result : Entries}
    (distinct : Distinct entries)
    (modified : Entries.modify change made path origin entries = some result) :
    Distinct result := by
  induction path generalizing origin entries result with
  | nil => exact keeps origin entries result distinct modified
  | cons key path inductionHypothesis =>
      simp only [Entries.modify, bind, pure] at modified
      split at modified
      next missing =>
        obtain ⟨changed, below, rfl⟩ := exists_eq_put modified
        exact distinct.put (inductionHypothesis .nil below)
      next inner found =>
        split at modified
        · cases modified
        · obtain ⟨changed, below, rfl⟩ := exists_eq_put modified
          exact distinct.put (inductionHypothesis (distinct.of_find? found) below)
      next earlier last found =>
        obtain ⟨changed, below, rfl⟩ := exists_eq_put modified
        obtain ⟨before, last_distinct⟩ := distinctKeys_tables.mp (distinct.of_find? found)
        exact distinct.put
          (distinctKeys_tables.mpr ⟨before, inductionHypothesis last_distinct below⟩)
      next => cases modified

theorem Distinct.insert? {entries result : Entries} {path : List String} {key : String}
    {value : Value} (distinct : Distinct entries) (sound : value.DistinctKeys)
    (inserted : entries.insert? path key value = some result) : Distinct result := by
  apply distinct.modify (fun origin inner changed kept made => ?_) inserted
  split at made
  · cases made
  · split at made
    · cases made
    · obtain rfl := Option.some.inj made
      exact kept.put sound

theorem Distinct.open? {entries result : Entries} {path : List String} {key : String}
    (distinct : Distinct entries) (opened : entries.open? path key = some result) :
    Distinct result := by
  apply distinct.modify (fun origin inner changed kept made => ?_) opened
  split at made
  next =>
    obtain rfl := Option.some.inj made
    exact kept.put Distinct.nil
  next found present =>
    obtain rfl := Option.some.inj made
    have below : Distinct found := kept.of_find? present
    exact kept.put below
  next => cases made

theorem Distinct.openNext? {entries result : Entries} {path : List String} {key : String}
    (distinct : Distinct entries) (opened : entries.openNext? path key = some result) :
    Distinct result := by
  apply distinct.modify (fun origin inner changed kept made => ?_) opened
  split at made
  next =>
    obtain rfl := Option.some.inj made
    exact kept.put (distinctKeys_tables.mpr ⟨by simp, .nil⟩)
  next earlier last present =>
    obtain rfl := Option.some.inj made
    have finished := Value.distinctKeys_array.mp (kept.of_find? present)
    exact kept.put (distinctKeys_tables.mpr ⟨finished, .nil⟩)
  next => cases made

end Entries

/-- That what is read with some fuel has no key twice, given that what was read before has none. -/
structure ReadsDistinct (fuel : Nat) : Prop where
  value {text rest : List Char} {value : Value} :
    value? fuel text = some (value, rest) → value.DistinctKeys
  items {earlier : List Value} {text rest : List Char} {value : Value} :
    (∀ item ∈ earlier, item.DistinctKeys) → items? fuel earlier text = some (value, rest) →
      value.DistinctKeys
  fields {entries : Entries} {text rest : List Char} {value : Value} :
    entries.Distinct → fields? fuel entries text = some (value, rest) → value.DistinctKeys
  assignment {text rest : List Char} {key : List String × String} {value : Value} :
    assignment? fuel text = some ((key, value), rest) → value.DistinctKeys

namespace ReadsDistinct

variable {fuel : Nat} {text rest : List Char} {value : Value}

theorem value_succ (below : ReadsDistinct fuel)
    (read : value? (fuel + 1) text = some (value, rest)) : value.DistinctKeys := by
  have of_map {content : Type} {make : content → Value} {quotation : Option (content × List Char)}
      (sound : ∀ found, (make found).DistinctKeys)
      (made : (quotation.map fun (found, rest) => (make found, rest)) = some (value, rest)) :
      value.DistinctKeys := by
    obtain ⟨found, _, same⟩ := Option.map_eq_some_iff.mp made
    obtain ⟨rfl, -⟩ := Prod.mk.inj same
    exact sound found.1
  unfold value? at read
  split at read
  · exact below.items (by simp) read
  · exact below.fields .nil read
  · exact of_map (fun found => .string _) read
  · exact of_map (fun found => .string _) read
  · exact of_map Value.DistinctKeys.scalar read

theorem items_succ {earlier : List Value} (below : ReadsDistinct fuel)
    (each : ∀ item ∈ earlier, item.DistinctKeys)
    (read : items? (fuel + 1) earlier text = some (value, rest)) : value.DistinctKeys := by
  simp only [items?, bind, Option.bind_eq_some_iff] at read
  obtain ⟨text, _, read⟩ := read
  split at read
  next =>
    cases read
    exact .array each
  next =>
    obtain ⟨⟨item, text⟩, item_read, read⟩ := Option.bind_eq_some_iff.mp read
    have more : ∀ other ∈ earlier ++ [item], other.DistinctKeys := by
      rw [List.forall_mem_append, List.forall_mem_singleton]
      exact ⟨each, below.value item_read⟩
    obtain ⟨text, _, read⟩ := Option.bind_eq_some_iff.mp read
    split at read
    next => exact below.items more read
    next =>
      cases read
      exact .array more
    next => cases read

theorem fields_succ {entries : Entries} (below : ReadsDistinct fuel) (distinct : entries.Distinct)
    (read : fields? (fuel + 1) entries text = some (value, rest)) : value.DistinctKeys := by
  simp only [fields?, bind, Option.bind_eq_some_iff] at read
  obtain ⟨text, _, read⟩ := read
  split at read
  next =>
    cases read
    exact distinct
  next =>
    obtain ⟨⟨⟨⟨path, key⟩, field⟩, text⟩, field_read, read⟩ := Option.bind_eq_some_iff.mp read
    obtain ⟨extended, inserted, read⟩ := Option.bind_eq_some_iff.mp read
    have more : extended.Distinct := distinct.insert? (below.assignment field_read) inserted
    obtain ⟨text, _, read⟩ := Option.bind_eq_some_iff.mp read
    split at read
    next => exact below.fields more read
    next =>
      cases read
      exact more
    next => cases read

theorem assignment_succ {key : List String × String} (below : ReadsDistinct fuel)
    (read : assignment? (fuel + 1) text = some ((key, value), rest)) : value.DistinctKeys := by
  simp only [assignment?, bind, Option.bind_eq_some_iff] at read
  obtain ⟨⟨key, text⟩, _, read⟩ := read
  split at read
  next =>
    obtain ⟨⟨found, text⟩, value_read, read⟩ := Option.bind_eq_some_iff.mp read
    cases read
    exact below.value value_read
  next => cases read

end ReadsDistinct

theorem readsDistinct (fuel : Nat) : ReadsDistinct fuel := by
  induction fuel with
  | zero =>
      constructor
      · intro text rest value read
        cases read
      · intro earlier text rest value _ read
        cases read
      · intro entries text rest value _ read
        cases read
      · intro text rest key value read
        cases read
  | succ fuel below =>
      exact ⟨below.value_succ, below.items_succ, below.fields_succ, below.assignment_succ⟩

variable {progress later : Progress}

theorem Progress.distinct_open? {path : List String} {key : String}
    (distinct : progress.entries.Distinct) (opened : progress.open? path key = some later) :
    later.entries.Distinct := by
  obtain ⟨entries, reached, made⟩ := Option.bind_eq_some_iff.mp opened
  cases made
  exact distinct.open? reached

theorem Progress.distinct_openNext? {path : List String} {key : String}
    (distinct : progress.entries.Distinct) (opened : progress.openNext? path key = some later) :
    later.entries.Distinct := by
  obtain ⟨entries, reached, made⟩ := Option.bind_eq_some_iff.mp opened
  cases made
  exact distinct.openNext? reached

theorem Progress.distinct_insert? {path : List String} {key : String} {value : Value}
    (distinct : progress.entries.Distinct) (sound : value.DistinctKeys)
    (inserted : progress.insert? path key value = some later) : later.entries.Distinct := by
  obtain ⟨entries, reached, made⟩ := Option.bind_eq_some_iff.mp inserted
  cases made
  exact distinct.modify (fun _ _ _ kept put => kept.insert? sound put) reached

theorem distinct_statement? {fuel : Nat} {text rest : List Char}
    (distinct : progress.entries.Distinct)
    (read : statement? fuel progress text = some (later, rest)) : later.entries.Distinct := by
  unfold statement? at read
  split at read
  next =>
    obtain ⟨⟨⟨path, key⟩, text⟩, _, read⟩ := Option.bind_eq_some_iff.mp read
    dsimp only at read
    split at read
    next =>
      obtain ⟨opened, made, read⟩ := Option.bind_eq_some_iff.mp read
      cases read
      exact Progress.distinct_openNext? distinct made
    next => cases read
  next =>
    obtain ⟨⟨⟨path, key⟩, text⟩, _, read⟩ := Option.bind_eq_some_iff.mp read
    dsimp only at read
    split at read
    next =>
      obtain ⟨opened, made, read⟩ := Option.bind_eq_some_iff.mp read
      cases read
      exact Progress.distinct_open? distinct made
    next => cases read
  next =>
    obtain ⟨⟨⟨⟨path, key⟩, value⟩, text⟩, value_read, read⟩ := Option.bind_eq_some_iff.mp read
    obtain ⟨inserted, made, read⟩ := Option.bind_eq_some_iff.mp read
    cases read
    exact Progress.distinct_insert? distinct ((readsDistinct fuel).assignment value_read) made

theorem distinct_statements? {fuel : Nat} {text : List Char} (distinct : progress.entries.Distinct)
    (read : statements? fuel progress text = some later) : later.entries.Distinct := by
  induction fuel generalizing progress text with
  | zero => cases read
  | succ fuel inductionHypothesis =>
      obtain ⟨text, _, read⟩ := Option.bind_eq_some_iff.mp read
      split at read
      next =>
        cases read
        exact distinct
      next =>
        obtain ⟨⟨next, text⟩, statement, read⟩ := Option.bind_eq_some_iff.mp read
        dsimp only at read
        split at read
        · exact inductionHypothesis (distinct_statement? distinct statement) read
        · cases read

/-- No table of a document has a key twice. -/
theorem distinctKeys_of_read? {source : String} {entries : List (String × Value)}
    (read : read? source = some entries) : (Value.table entries).DistinctKeys := by
  obtain ⟨progress, statements, rfl⟩ := Option.map_eq_some_iff.mp read
  have empty : ({ } : Progress).entries.Distinct := .nil
  exact distinct_statements? empty statements

end Registrar.Toml
