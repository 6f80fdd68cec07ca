import Registrar.EntryPoint
import Registrar.Proofs.Artifact.Layout
import Registrar.Proofs.FileTree.Procedure

/-!
# Import lines

A text that has got the import lines has them, so that they are put in front of it once. The handler
itself has none of them.
-/

set_option autoImplicit false

namespace Registrar

theorem isLine_of_mem_importLines : ∀ line ∈ importLines, Text.IsLine line := by
  decide +kernel

theorem lines_withImports (text : String) :
    Text.lines (withImports text) = importLines ++ (Text.lines text).map Text.dropReturn := by
  have imports : importLines.map Text.dropReturn = importLines.map id :=
    List.map_congr_left fun line membership =>
      Text.dropReturn_of_getLast?_ne (isLine_of_mem_importLines line membership).2
  rw [withImports, Text.lines_unlines_eq_map, List.map_append, imports, List.map_id]
  intro line membership
  rcases List.mem_append.1 membership with first | own
  · exact (isLine_of_mem_importLines line first).1
  · exact Text.feed_not_mem_of_mem_lines own

@[simp]
theorem hasImports_withImports (text : String) : hasImports (withImports text) = true := by
  have static : staticImport.toList.isPrefixOf
      (Text.trim (staticImport ++ " // Streamline serialization and deserialization")).toList =
        true := by
    rw [Text.trim, String.toList_ofList, String.toList_append, staticImport, String.toList_ofList,
      String.toList_ofList]
    rfl
  have space : Text.trim namespaceImport = namespaceImport := by
    rw [Text.trim, namespaceImport, String.toList_ofList]
    rfl
  rw [hasImports, lines_withImports]
  simp [importLines, static, space]

theorem trim_ne_of_mem_template : ∀ line ∈
    Template.openingLines ++ Template.middleLines ++ Template.closingLines,
    Text.trim line ≠ namespaceImport := by
  have checked : (Template.openingLines ++ Template.middleLines ++ Template.closingLines).all
      (fun line => Text.trimChars line.toList != namespaceImport.toList) = true := by
    simp only [Template.openingLines, Template.middleLines, Template.closingLines, namespaceImport,
      List.cons_append, List.nil_append, List.all_cons, List.all_nil]
    repeat rw [String.toList_ofList]
    rfl
  intro line membership trimmed
  have distinct := List.all_eq_true.1 checked line membership
  rw [← trimmed, Text.trim, String.toList_ofList] at distinct
  simp at distinct

theorem hasImports_handler : hasImports (renderArtifact Fragments.empty) = false := by
  have lines : Text.lines (renderArtifact (Fragments.ofNames [])) = handlerLines [] [] := by
    rw [renderArtifact_ofNames]
    exact lines_handlerText (by simp)
  have absent : namespaceImport ∉ (handlerLines [] []).map Text.trim := by
    intro membership
    obtain ⟨line, among, trimmed⟩ := List.mem_map.1 membership
    rcases of_mem_handlerLines among with fixed | ⟨name, none, -⟩
    · exact trim_ne_of_mem_template line fixed trimmed
    · simp at none
  rw [hasImports, show Fragments.empty = Fragments.ofNames [] from rfl, lines]
  simp [absent]

theorem addImports_cases {path : Path} {tree after : FileTree} {outcome : ImportOutcome}
    (done : (addImports path).run.run tree = (.ok outcome, after)) :
    outcome = .missing ∧ after = tree ∨ ∃ text, tree.readText path = .ok text ∧
      (hasImports text = true ∧ outcome = .alreadyPresent ∧ after = tree ∨
        hasImports text = false ∧ outcome = .added ∧
          (replaceFile path (withImports text)).run.run tree = (.ok (), after)) := by
  rw [addImports, Procedure.run_bind, Procedure.run_get] at done
  simp only at done
  split at done
  · obtain ⟨answer, rfl⟩ := Prod.mk.inj done
    exact .inl ⟨(Except.ok.inj answer).symm, rfl⟩
  · cases done
  · rename_i text read
    refine .inr ⟨text, read, ?_⟩
    split at done
    · rename_i present
      obtain ⟨answer, rfl⟩ := Prod.mk.inj done
      exact .inl ⟨present, (Except.ok.inj answer).symm, rfl⟩
    · rename_i absent
      obtain ⟨_, between, replaced, done⟩ := Procedure.exists_of_run_bind done
      obtain ⟨answer, rfl⟩ := Prod.mk.inj done
      exact .inr ⟨by simpa using absent, (Except.ok.inj answer).symm,
        FileM.run_during_eq_ok.1 replaced⟩

theorem run_addImports_present {path : Path} {tree : FileTree} {text : String}
    (read : tree.readText path = .ok text) (present : hasImports text = true) :
    (addImports path).run.run tree = (.ok .alreadyPresent, tree) := by
  rw [addImports, Procedure.run_bind, Procedure.run_get]
  simp only [read, present, if_true]
  rfl

theorem run_addImports_added {path : Path} {tree after : FileTree} {text : String}
    (read : tree.readText path = .ok text) (absent : hasImports text = false)
    (done : (replaceFile path (withImports text)).run.run tree = (.ok (), after)) :
    (addImports path).run.run tree = (.ok .added, after) := by
  rw [addImports, Procedure.run_bind, Procedure.run_get]
  simp only [read, absent, Bool.false_eq_true, if_false]
  rw [Procedure.run_bind, FileM.run_during_eq_ok.2 done]
  rfl

end Registrar
