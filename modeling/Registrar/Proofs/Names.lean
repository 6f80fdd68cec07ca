import Mathlib.Data.List.Nodup
import Mathlib.Logic.ExistsUnique
import Registrar.Names

/-!
# First spellings

Making names distinct keeps exactly the names that no earlier one is equal to without regard to
case. Names that are distinct already are all kept, and names that follow others are kept as if they
followed the distinct ones of these.
-/

set_option autoImplicit false

namespace Registrar

/-- The names that no earlier name has the same folded form as. -/
def firstSpellings (names : List String) : List String :=
  (names.zipIdx.filter fun (name, i) =>
    (names.take i).all fun earlier => Text.foldCase earlier != Text.foldCase name).map Prod.fst

theorem distinctAfter_eq (before seen : List String)
    (known : ∀ key, key ∈ seen ↔ key ∈ before.map Text.foldCase) (names : List String) :
    distinctAfter seen names = ((names.zipIdx before.length).filter fun (name, i) =>
      ((before ++ names).take i).all fun earlier =>
        Text.foldCase earlier != Text.foldCase name).map Prod.fst := by
  induction names generalizing before seen with
  | nil => rfl
  | cons name rest inductionHypothesis =>
      have unseen : ((before ++ name :: rest).take before.length).all
          (fun earlier => Text.foldCase earlier != Text.foldCase name) =
            decide (Text.foldCase name ∉ seen) := by
        rw [List.take_left, Bool.eq_iff_iff, decide_eq_true_iff, known]
        simp [List.mem_map]
      have shift : before ++ name :: rest = before ++ [name] ++ rest := by simp
      simp only [List.zipIdx_cons, List.filter_cons, unseen]
      rw [distinctAfter]
      split
      · rename_i present
        have tail := inductionHypothesis (before ++ [name]) seen fun key => by
          rw [known, List.map_append, List.mem_append, List.map_singleton, List.mem_singleton]
          exact ⟨.inl, fun among => among.elim id fun same => same ▸ (known _).1 present⟩
        rw [tail, List.length_append, List.length_singleton, ← shift]
        simp [present]
      · rename_i absent
        have tail := inductionHypothesis (before ++ [name]) (Text.foldCase name :: seen)
          fun key => by
            rw [List.mem_cons, known, List.map_append, List.mem_append, List.map_singleton,
              List.mem_singleton, or_comm]
        rw [tail, List.length_append, List.length_singleton, ← shift]
        simp [absent]

theorem distinctNames_eq_firstSpellings (names : List String) :
    distinctNames names = firstSpellings names :=
  distinctAfter_eq [] [] (by simp) names

theorem pairwise_distinctAfter (seen names : List String) :
    (distinctAfter seen names).Pairwise (fun first second =>
      Text.foldCase first ≠ Text.foldCase second) ∧
      ∀ name ∈ distinctAfter seen names, Text.foldCase name ∉ seen := by
  induction names generalizing seen with
  | nil => simp [distinctAfter]
  | cons name rest inductionHypothesis =>
      rw [distinctAfter]
      split
      · exact inductionHypothesis seen
      · rename_i absent
        obtain ⟨apart, unseen⟩ := inductionHypothesis (Text.foldCase name :: seen)
        refine ⟨List.pairwise_cons.2 ⟨fun other membership => ?_, apart⟩,
          fun other membership => ?_⟩
        · exact fun same => unseen other membership (same ▸ List.mem_cons_self)
        · rcases List.mem_cons.1 membership with rfl | later
          · exact absent
          · exact fun among => unseen other later (List.mem_cons_of_mem _ among)

theorem exists_mem_distinctAfter {seen names : List String} {name : String}
    (membership : name ∈ names) : Text.foldCase name ∈ seen ∨
      ∃ kept ∈ distinctAfter seen names, Text.foldCase kept = Text.foldCase name := by
  induction names generalizing seen with
  | nil => cases membership
  | cons first rest inductionHypothesis =>
      rw [distinctAfter]
      split
      · rename_i present
        rcases List.mem_cons.1 membership with rfl | later
        · exact .inl present
        · exact inductionHypothesis later
      · rcases List.mem_cons.1 membership with rfl | later
        · exact .inr ⟨name, List.mem_cons_self, rfl⟩
        · rcases @inductionHypothesis (Text.foldCase first :: seen) later with
            among | ⟨kept, inside, same⟩
          · rcases List.mem_cons.1 among with same | earlier
            · exact .inr ⟨first, List.mem_cons_self, same.symm⟩
            · exact .inl earlier
          · exact .inr ⟨kept, List.mem_cons_of_mem _ inside, same⟩

theorem exists_mem_firstSpellings {names : List String} {name : String}
    (membership : name ∈ names) :
    ∃ kept ∈ firstSpellings names, Text.foldCase kept = Text.foldCase name := by
  rw [← distinctNames_eq_firstSpellings]
  have seenOrKept := @exists_mem_distinctAfter [] names name membership
  exact seenOrKept.resolve_left List.not_mem_nil

theorem nodup_distinctNames (names : List String) : (distinctNames names).Nodup :=
  (pairwise_distinctAfter [] names).1.imp fun distinct same => distinct (congrArg _ same)

theorem distinctAfter_congr {seen others : List String} (same : ∀ key, key ∈ seen ↔ key ∈ others)
    (names : List String) : distinctAfter seen names = distinctAfter others names := by
  induction names generalizing seen others with
  | nil => rfl
  | cons name rest inductionHypothesis =>
      rw [distinctAfter, distinctAfter, inductionHypothesis same,
        @inductionHypothesis (Text.foldCase name :: seen) (Text.foldCase name :: others)
          fun key => by rw [List.mem_cons, List.mem_cons, same]]
      simp only [same]

theorem distinctAfter_append (seen first second : List String) :
    distinctAfter seen (first ++ second) =
      distinctAfter seen first ++ distinctAfter (first.map Text.foldCase ++ seen) second := by
  induction first generalizing seen with
  | nil => rfl
  | cons name rest inductionHypothesis =>
      rw [List.cons_append, distinctAfter, distinctAfter]
      split
      · rename_i present
        rw [inductionHypothesis]
        congr 1
        apply distinctAfter_congr
        intro key
        rw [List.map_cons, List.cons_append, List.mem_cons]
        refine ⟨.inr, fun among => among.elim (fun same => ?_) id⟩
        exact same ▸ List.mem_append_right _ present
      · rw [inductionHypothesis, List.cons_append]
        congr 2
        apply distinctAfter_congr
        intro key
        simp only [List.map_cons, List.cons_append, List.mem_append, List.mem_cons]
        exact or_left_comm

/-- Names whose folded forms are new and differ from each other are all kept. -/
theorem distinctAfter_of_pairwise {seen names : List String}
    (apart : names.Pairwise fun first second => Text.foldCase first ≠ Text.foldCase second)
    (unseen : ∀ name ∈ names, Text.foldCase name ∉ seen) : distinctAfter seen names = names := by
  induction names generalizing seen with
  | nil => rfl
  | cons name rest inductionHypothesis =>
      obtain ⟨different, restApart⟩ := List.pairwise_cons.1 apart
      obtain ⟨fresh, restUnseen⟩ := List.forall_mem_cons.1 unseen
      have tail : distinctAfter (Text.foldCase name :: seen) rest = rest := by
        apply inductionHypothesis restApart
        intro other membership among
        rcases List.mem_cons.1 among with same | earlier
        · exact different other membership same.symm
        · exact restUnseen other membership earlier
      rw [distinctAfter, if_neg fresh, tail]

theorem distinctNames_distinctNames (names : List String) :
    distinctNames (distinctNames names) = distinctNames names :=
  distinctAfter_of_pairwise (pairwise_distinctAfter [] names).1 (by simp)

theorem mem_map_foldCase_distinctNames {names : List String} {key : String} :
    key ∈ (distinctNames names).map Text.foldCase ↔ key ∈ names.map Text.foldCase := by
  constructor
  · intro among
    obtain ⟨name, membership, rfl⟩ := List.mem_map.1 among
    exact List.mem_map_of_mem (mem_of_mem_distinctAfter membership)
  · intro among
    obtain ⟨name, membership, rfl⟩ := List.mem_map.1 among
    have seenOrKept := @exists_mem_distinctAfter [] names name membership
    obtain ⟨kept, inside, same⟩ := seenOrKept.resolve_left List.not_mem_nil
    exact same ▸ List.mem_map_of_mem inside

theorem distinctNames_append (first second : List String) :
    distinctNames (first ++ second) =
      distinctNames first ++ distinctAfter (first.map Text.foldCase) second := by
  rw [distinctNames, distinctAfter_append, List.append_nil]
  rfl

theorem distinctNames_append_distinctNames (first second : List String) :
    distinctNames (distinctNames first ++ second) = distinctNames (first ++ second) := by
  rw [distinctNames_append, distinctNames_append, distinctNames_distinctNames,
    distinctAfter_congr fun key => mem_map_foldCase_distinctNames]

/-- Distinct names are the first spellings, in order. No two of them are equal without regard to
case, every name is equal in this sense to exactly one of them, and making names distinct once more,
or when others have come behind them, makes no difference. -/
theorem distinctNames_keeps_first_spellings (names : List String) :
    distinctNames names = firstSpellings names ∧
      (distinctNames names).Pairwise
        (fun first second => Text.eqIgnoreCase first second = false) ∧
      (∀ name ∈ names, ∃! kept, kept ∈ distinctNames names ∧
        Text.eqIgnoreCase name kept = true) ∧
      distinctNames (distinctNames names) = distinctNames names ∧
      ∀ others,
        distinctNames (names ++ others) = distinctNames (distinctNames names ++ others) := by
  have apart := (pairwise_distinctAfter [] names).1
  refine ⟨distinctNames_eq_firstSpellings names, ?_, ?_, distinctNames_distinctNames names,
    fun others => (distinctNames_append_distinctNames names others).symm⟩
  · refine apart.imp fun different => ?_
    rwa [← Bool.not_eq_true, Text.eqIgnoreCase_iff]
  · intro name membership
    have seenOrKept := @exists_mem_distinctAfter [] names name membership
    obtain ⟨kept, inside, same⟩ := seenOrKept.resolve_left List.not_mem_nil
    refine ⟨kept, ⟨inside, (Text.eqIgnoreCase_iff _ _).2 same.symm⟩, ?_⟩
    rintro other ⟨among, equal⟩
    have keys : ((distinctNames names).map Text.foldCase).Nodup := List.pairwise_map.2 apart
    refine List.inj_on_of_nodup_map keys among inside ?_
    exact ((Text.eqIgnoreCase_iff _ _).1 equal).symm.trans same.symm

/-- Of three spellings of a name the first one is kept, and stands for the last one too. -/
theorem distinctNames_keeps_first_of_three :
    "FOO" ∈ ["Foo", "Bar", "foo", "FOO"] ∧
      distinctNames ["Foo", "Bar", "foo", "FOO"] = ["Foo", "Bar"] ∧
      ∃! kept, kept ∈ distinctNames ["Foo", "Bar", "foo", "FOO"] ∧
        Text.eqIgnoreCase "FOO" kept = true := by
  have among : "FOO" ∈ ["Foo", "Bar", "foo", "FOO"] := by simp
  obtain ⟨-, -, standsFor, -⟩ := distinctNames_keeps_first_spellings ["Foo", "Bar", "foo", "FOO"]
  exact ⟨among, rfl, standsFor "FOO" among⟩

end Registrar
