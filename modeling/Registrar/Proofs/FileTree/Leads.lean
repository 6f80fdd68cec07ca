import Registrar.FileTree.Resolve

/-!
# Where paths lead

`Leads` says of each step of a path where it is taken and what it meets; `follow` succeeds exactly
where steps lead somewhere. A route stays what it is when entries are added to a tree, and breaks
off only at an entry that is no longer what it was.
-/

set_option autoImplicit false

namespace Registrar.FileTree

/-- The steps lead from the first location to the second, through no more links than allowed. -/
inductive Leads (tree : FileTree) : Nat → Location → List FileName → Location → Prop where
  | here {links location} : Leads tree links location [] location
  | stay {links location rest final} :
      tree.find? location = some .directory →
      Leads tree links location rest final →
      Leads tree links location ("." :: rest) final
  | up {links location rest final} :
      tree.find? location = some .directory →
      Leads tree links location.dropLast rest final →
      Leads tree links location (".." :: rest) final
  | link {links location step rest target final} :
      tree.find? location = some .directory →
      isDotStep step = false →
      tree.find? (location ++ [step]) = some (.link target) →
      target.text.isEmpty = false →
      Leads tree links (if target.isAbsolute then [] else location) (target.walkSteps ++ rest)
        final →
      Leads tree (links + 1) location (step :: rest) final
  | enter {links location step rest entry final} :
      tree.find? location = some .directory →
      isDotStep step = false →
      tree.find? (location ++ [step]) = some entry →
      (∀ target, entry ≠ .link target) →
      Leads tree links (location ++ [step]) rest final →
      Leads tree links location (step :: rest) final

theorem isDotStep_eq_false_iff {step : FileName} :
    isDotStep step = false ↔ step ≠ "." ∧ step ≠ ".." := by
  simp [isDotStep]

section Steps

variable {tree : FileTree} {links : Nat} {location : Location} {step : FileName}
  {rest : List FileName}

theorem follow_of_not_directory (notDirectory : tree.find? location ≠ some .directory) :
    tree.follow links location (step :: rest) = .error .notDirectory := by
  rw [follow_cons, if_pos notDirectory]

theorem follow_dot (directory : tree.find? location = some .directory) :
    tree.follow links location ("." :: rest) = tree.follow links location rest := by
  rw [follow_cons, if_neg (not_not_intro directory), if_pos rfl]

theorem follow_dotDot (directory : tree.find? location = some .directory) :
    tree.follow links location (".." :: rest) = tree.follow links location.dropLast rest := by
  rw [follow_cons, if_neg (not_not_intro directory), if_neg (by decide), if_pos rfl]

theorem follow_link {target : Path} (directory : tree.find? location = some .directory)
    (proper : isDotStep step = false) (met : tree.find? (location ++ [step]) = some (.link target))
    (nonempty : target.text.isEmpty = false) :
    tree.follow (links + 1) location (step :: rest) =
      tree.follow links (if target.isAbsolute then [] else location)
        (target.walkSteps ++ rest) := by
  obtain ⟨notDot, notUp⟩ := isDotStep_eq_false_iff.1 proper
  rw [follow_cons, if_neg (not_not_intro directory), if_neg notDot, if_neg notUp, met]
  simp [nonempty]

theorem follow_enter {entry : Entry} (directory : tree.find? location = some .directory)
    (proper : isDotStep step = false) (met : tree.find? (location ++ [step]) = some entry)
    (notLink : ∀ target, entry ≠ .link target) :
    tree.follow links location (step :: rest) = tree.follow links (location ++ [step]) rest := by
  obtain ⟨notDot, notUp⟩ := isDotStep_eq_false_iff.1 proper
  rw [follow_cons, if_neg (not_not_intro directory), if_neg notDot, if_neg notUp, met]
  cases entry with
  | link target => exact absurd rfl (notLink target)
  | file bytes mode => rfl
  | directory => rfl

end Steps

theorem leads_of_follow {tree : FileTree} {final : Location} : ∀ {links : Nat} {location : Location}
    {steps : List FileName}, tree.follow links location steps = .ok final →
      tree.Leads links location steps final
  | links, location, [], reached => by
      rw [follow_nil] at reached
      cases reached
      exact .here
  | links, location, step :: rest, reached => by
      rw [follow_cons] at reached
      split at reached
      · cases reached
      · rename_i notMissing
        have directory := Classical.not_not.1 notMissing
        split at reached
        · rename_i dot
          subst dot
          exact .stay directory (leads_of_follow reached)
        · rename_i notDot
          split at reached
          · rename_i up
            subst up
            exact .up directory (leads_of_follow reached)
          · rename_i notUp
            have proper := isDotStep_eq_false_iff.2 ⟨notDot, notUp⟩
            split at reached
            · cases reached
            · rename_i target met
              split at reached
              · cases reached
              · split at reached
                · cases reached
                · rename_i nonempty
                  exact .link directory proper met (by simpa using nonempty)
                    (leads_of_follow reached)
            · rename_i entry notLink met
              exact .enter directory proper met notLink (leads_of_follow reached)
termination_by links _ steps => (links, steps.length)

namespace Leads

variable {tree after : FileTree} {links others : Nat} {location final : Location}
  {steps : List FileName}

theorem follow_eq_ok (leads : tree.Leads links location steps final) :
    tree.follow links location steps = .ok final := by
  induction leads with
  | here => exact follow_nil tree _ _
  | stay directory _ inductionHypothesis => exact (follow_dot directory).trans inductionHypothesis
  | up directory _ inductionHypothesis => exact (follow_dotDot directory).trans inductionHypothesis
  | link directory proper met nonempty _ inductionHypothesis =>
      exact (follow_link directory proper met nonempty).trans inductionHypothesis
  | enter directory proper met notLink _ inductionHypothesis =>
      exact (follow_enter directory proper met notLink).trans inductionHypothesis

/-- A route stays when every entry stays. -/
theorem mono (kept : ∀ place entry, tree.find? place = some entry → after.find? place = some entry)
    (leads : tree.Leads links location steps final) : after.Leads links location steps final := by
  induction leads with
  | here => exact .here
  | stay directory _ inductionHypothesis => exact .stay (kept _ _ directory) inductionHypothesis
  | up directory _ inductionHypothesis => exact .up (kept _ _ directory) inductionHypothesis
  | link directory proper met nonempty _ inductionHypothesis =>
      exact .link (kept _ _ directory) proper (kept _ _ met) nonempty inductionHypothesis
  | enter directory proper met notLink _ inductionHypothesis =>
      exact .enter (kept _ _ directory) proper (kept _ _ met) notLink inductionHypothesis

theorem append {place : Location} {more : List FileName}
    (leads : tree.Leads links location steps place)
    (further : ∀ links, tree.Leads links place more final) :
    tree.Leads links location (steps ++ more) final := by
  induction leads with
  | here => exact further _
  | stay directory _ inductionHypothesis => exact .stay directory (inductionHypothesis further)
  | up directory _ inductionHypothesis => exact .up directory (inductionHypothesis further)
  | link directory proper met nonempty _ inductionHypothesis =>
      refine .link directory proper met nonempty ?_
      simpa using inductionHypothesis further
  | enter directory proper met notLink _ inductionHypothesis =>
      exact .enter directory proper met notLink (inductionHypothesis further)

theorem exists_of_append {first second : List FileName}
    (leads : tree.Leads links location steps final) (parts : steps = first ++ second) :
    ∃ place remaining, tree.Leads links location first place ∧
      tree.Leads remaining place second final := by
  induction leads generalizing first with
  | @here links location =>
      obtain ⟨rfl, rfl⟩ := List.append_eq_nil_iff.1 parts.symm
      exact ⟨location, links, .here, .here⟩
  | @stay links location rest final directory tail inductionHypothesis =>
      rcases List.cons_eq_append_iff.1 parts with ⟨rfl, rfl⟩ | ⟨first, rfl, rfl⟩
      · exact ⟨location, links, .here, .stay directory tail⟩
      · obtain ⟨place, remaining, early, late⟩ := inductionHypothesis rfl
        exact ⟨place, remaining, .stay directory early, late⟩
  | @up links location rest final directory tail inductionHypothesis =>
      rcases List.cons_eq_append_iff.1 parts with ⟨rfl, rfl⟩ | ⟨first, rfl, rfl⟩
      · exact ⟨location, links, .here, .up directory tail⟩
      · obtain ⟨place, remaining, early, late⟩ := inductionHypothesis rfl
        exact ⟨place, remaining, .up directory early, late⟩
  | @link links location step rest target final directory proper met nonempty tail
      inductionHypothesis =>
      rcases List.cons_eq_append_iff.1 parts with ⟨rfl, rfl⟩ | ⟨first, rfl, rfl⟩
      · exact ⟨location, links + 1, .here, .link directory proper met nonempty tail⟩
      · obtain ⟨place, remaining, early, late⟩ :=
          inductionHypothesis (List.append_assoc _ _ _).symm
        exact ⟨place, remaining, .link directory proper met nonempty early, late⟩
  | @enter links location step rest entry final directory proper met notLink tail
      inductionHypothesis =>
      rcases List.cons_eq_append_iff.1 parts with ⟨rfl, rfl⟩ | ⟨first, rfl, rfl⟩
      · exact ⟨location, links, .here, .enter directory proper met notLink tail⟩
      · obtain ⟨place, remaining, early, late⟩ := inductionHypothesis rfl
        exact ⟨place, remaining, .enter directory proper met notLink early, late⟩

theorem directory_of_cons {step : FileName} {rest : List FileName}
    (leads : tree.Leads links location (step :: rest) final) :
    tree.find? location = some .directory := by
  cases leads with
  | stay directory => exact directory
  | up directory => exact directory
  | link directory => exact directory
  | enter directory => exact directory

theorem eq_nil_of_not_directory (leads : tree.Leads links location steps final)
    (notDirectory : tree.find? location ≠ some .directory) : steps = [] ∧ final = location := by
  cases steps with
  | nil =>
      cases leads
      exact ⟨rfl, rfl⟩
  | cons step rest => exact absurd leads.directory_of_cons notDirectory

/-- No route to a directory leads through a file that has been added. -/
theorem of_added_file {place : Location} {bytes : ByteArray} {mode : Nat}
    (added : after.find? place = some (.file bytes mode))
    (kept : ∀ other, other ≠ place → after.find? other = tree.find? other)
    (directory : after.find? final = some .directory)
    (leads : after.Leads links location steps final) : tree.Leads links location steps final := by
  have same : ∀ {other entry}, after.find? other = some entry → other ≠ place →
      tree.find? other = some entry := fun found distinct => kept _ distinct ▸ found
  have notPlace : ∀ {other}, after.find? other = some .directory → other ≠ place := by
    rintro other found rfl
    rw [added] at found
    cases found
  induction leads with
  | here => exact .here
  | stay found _ inductionHypothesis =>
      exact .stay (same found (notPlace found)) (inductionHypothesis directory)
  | up found _ inductionHypothesis =>
      exact .up (same found (notPlace found)) (inductionHypothesis directory)
  | link found proper met nonempty _ inductionHypothesis =>
      refine .link (same found (notPlace found)) proper (same met ?_) nonempty
        (inductionHypothesis directory)
      rintro equality
      rw [equality, added] at met
      cases met
  | enter found proper met notLink tail inductionHypothesis =>
      refine .enter (same found (notPlace found)) proper (same met ?_) notLink
        (inductionHypothesis directory)
      intro equality
      rw [equality] at tail
      have notDirectory : after.find? place ≠ some .directory := fun found => notPlace found rfl
      obtain ⟨-, rfl⟩ := tail.eq_nil_of_not_directory notDirectory
      exact notDirectory directory

theorem replaced {name : FileName} {bytes : ByteArray} {mode : Nat}
    (written : after.find? (final ++ [name]) = some (.file bytes mode))
    (kept : ∀ other, other ≠ final ++ [name] → after.find? other = tree.find? other)
    (notDirectory : tree.find? (final ++ [name]) ≠ some .directory)
    (directory : tree.find? final = some .directory) (proper : isDotStep name = false)
    (leads : tree.Leads links location steps final) :
    after.Leads links location (steps ++ [name]) (final ++ [name]) ∨
      (∃ target, tree.find? (final ++ [name]) = some (.link target)) ∧
        after.follow links location (steps ++ [name]) = .error .notDirectory := by
  have same : ∀ {other entry}, tree.find? other = some entry → other ≠ final ++ [name] →
      after.find? other = some entry := fun found distinct => (kept _ distinct).trans found
  have notPlace : ∀ {other}, tree.find? other = some .directory → other ≠ final ++ [name] := by
    rintro other found rfl
    exact notDirectory found
  have notFile : after.find? (final ++ [name]) ≠ some .directory := by simp [written]
  induction leads with
  | @here _ final =>
      left
      exact .enter (same directory (by simp)) proper written (by simp) .here
  | stay found _ inductionHypothesis =>
      have here := same found (notPlace found)
      rcases inductionHypothesis written kept notDirectory directory same notPlace notFile with
        leads | ⟨link, broken⟩
      · exact .inl (.stay here leads)
      · exact .inr ⟨link, (follow_dot here).trans broken⟩
  | up found _ inductionHypothesis =>
      have here := same found (notPlace found)
      rcases inductionHypothesis written kept notDirectory directory same notPlace notFile with
        leads | ⟨link, broken⟩
      · exact .inl (.up here leads)
      · exact .inr ⟨link, (follow_dotDot here).trans broken⟩
  | @link links location step rest target final found stepProper met nonempty _
      inductionHypothesis =>
      have here := same found (notPlace found)
      by_cases through : location ++ [step] = final ++ [name]
      · -- the link is the entry that is replaced, and a step remains behind it
        obtain ⟨next, others, shape⟩ := List.exists_cons_of_ne_nil
          (by simp : rest ++ [name] ≠ [])
        refine .inr ⟨⟨target, through ▸ met⟩, ?_⟩
        rw [List.cons_append, follow_enter here stepProper (through ▸ written) (by simp), through,
          shape, follow_of_not_directory notFile]
      · have metAfter := same met through
        rcases inductionHypothesis written kept notDirectory directory same notPlace notFile with
          leads | ⟨link, broken⟩
        · exact .inl (.link here stepProper metAfter nonempty (by simpa using leads))
        · refine .inr ⟨link, ?_⟩
          rw [List.cons_append, follow_link here stepProper metAfter nonempty, ← List.append_assoc,
            broken]
  | @enter links location step rest entry final found stepProper met notLink tail
      inductionHypothesis =>
      have here := same found (notPlace found)
      have apart : location ++ [step] ≠ final ++ [name] := by
        intro equality
        rw [equality] at tail
        obtain ⟨-, ends⟩ := tail.eq_nil_of_not_directory notDirectory
        simp at ends
      have metAfter := same met apart
      rcases inductionHypothesis written kept notDirectory directory same notPlace notFile with
        leads | ⟨link, broken⟩
      · exact .inl (.enter here stepProper metAfter notLink leads)
      · exact .inr ⟨link, (follow_enter here stepProper metAfter notLink).trans broken⟩

theorem mono_links (leads : tree.Leads links location steps final) (more : links ≤ others) :
    tree.Leads others location steps final := by
  induction leads generalizing others with
  | here => exact .here
  | stay directory _ inductionHypothesis => exact .stay directory (inductionHypothesis more)
  | up directory _ inductionHypothesis => exact .up directory (inductionHypothesis more)
  | link directory proper met nonempty _ inductionHypothesis =>
      obtain ⟨others, rfl⟩ := Nat.exists_eq_add_one_of_ne_zero (Nat.ne_zero_of_lt more)
      exact .link directory proper met nonempty (inductionHypothesis (Nat.le_of_succ_le_succ more))
  | enter directory proper met notLink _ inductionHypothesis =>
      exact .enter directory proper met notLink (inductionHypothesis more)

theorem unique {other : Location} (first : tree.Leads links location steps final)
    (second : tree.Leads others location steps other) : other = final := by
  have left := (first.mono_links (Nat.le_max_left links others)).follow_eq_ok
  have right := (second.mono_links (Nat.le_max_right links others)).follow_eq_ok
  exact Except.ok.inj (right.symm.trans left)

/-- A route does without an entry behind which it could not go on. -/
theorem aside {place : Location} {name : FileName}
    (kept : ∀ other entry, other ≠ place ++ [name] → tree.find? other = some entry →
      after.find? other = some entry)
    (noDirectory : tree.find? (place ++ [name]) ≠ some .directory)
    (leads : tree.Leads links location steps final)
    (avoids : ∀ fewer ≤ links, ∀ stop, tree.Leads fewer place [name] stop →
      tree.find? stop ≠ some .directory ∧ stop ≠ final) :
    after.Leads links location steps final := by
  have around : ∀ {other}, tree.find? other = some .directory →
      after.find? other = some .directory := by
    intro other directory
    refine kept other _ ?_ directory
    rintro rfl
    exact noDirectory directory
  -- a route that takes the entry stops behind it
  have apart : ∀ {links location step rest final},
      (∀ fewer ≤ links, ∀ stop, tree.Leads fewer place [name] stop →
        tree.find? stop ≠ some .directory ∧ stop ≠ final) →
      tree.Leads links location (step :: rest) final → location ++ [step] ≠ place ++ [name] := by
    intro links location step rest final avoids whole equality
    obtain ⟨rfl, named⟩ := List.append_inj' equality rfl
    obtain rfl := List.singleton_inj.1 named
    have parts : step :: rest = [step] ++ rest := rfl
    obtain ⟨stop, remaining, early, late⟩ := whole.exists_of_append parts
    obtain ⟨notDirectory, notFinal⟩ := avoids links (Nat.le_refl links) stop early
    exact notFinal (late.eq_nil_of_not_directory notDirectory).2.symm
  induction leads with
  | here => exact .here
  | stay directory _ inductionHypothesis =>
      exact .stay (around directory) (inductionHypothesis avoids)
  | up directory _ inductionHypothesis =>
      exact .up (around directory) (inductionHypothesis avoids)
  | link directory proper met nonempty tail inductionHypothesis =>
      have whole := Leads.link directory proper met nonempty tail
      refine .link (around directory) proper (kept _ _ (apart avoids whole) met) nonempty ?_
      exact inductionHypothesis fun fewer less => avoids fewer (Nat.le_succ_of_le less)
  | enter directory proper met notLink tail inductionHypothesis =>
      have whole := Leads.enter directory proper met notLink tail
      exact .enter (around directory) proper (kept _ _ (apart avoids whole) met) notLink
        (inductionHypothesis avoids)

end Leads

end Registrar.FileTree
