import Registrar.Proofs.Artifact.Splice
import Registrar.Proofs.EntryPoint
import Registrar.Proofs.FileTree.Again
import Registrar.Proofs.Text.Case

/-!
# Lines of a rewritten file

Adding the import lines to an entry point and adding fragments to a handler both cut a text into
lines and put the lines together again. The lines are kept, with one exception: a carriage return
at the end of a line, left there by two of them in front of a line feed or by one at the end of the
text, is lost when the new text is cut.
-/

set_option autoImplicit false

namespace Registrar

theorem Text.containsIgnoreCase_dropReturn {needle : String} (absent : '\r' ∉ needle.toList)
    (line : String) :
    containsIgnoreCase (dropReturn line) needle = containsIgnoreCase line needle := by
  by_cases ends : line.toList.getLast? = some '\r'
  · obtain ⟨front, shape⟩ := List.getLast?_eq_some_iff.1 ends
    have whole : line = String.ofList front ++ "\r" := by
      apply String.toList_injective
      simp [shape]
    rw [dropReturn, if_pos ends, shape, List.dropLast_concat, whole,
      containsIgnoreCase_append_return absent]
  · rw [dropReturn_of_getLast?_ne ends]

theorem Anchor.return_not_mem_marker (anchor : Anchor) : '\r' ∉ anchor.marker.toList := by
  cases anchor with
  | context =>
      rw [marker, String.toList_ofList]
      decide
  | table =>
      rw [marker, String.toList_ofList]
      decide

theorem Anchor.find?_map_dropReturn (anchor : Anchor) (lines : List String) :
    anchor.find? (lines.map Text.dropReturn) = anchor.find? lines := by
  have same : (fun line => Text.containsIgnoreCase (Text.dropReturn line) anchor.marker) =
      fun line => Text.containsIgnoreCase line anchor.marker :=
    funext (Text.containsIgnoreCase_dropReturn anchor.return_not_mem_marker)
  rw [find?, List.findIdx?_map, Function.comp_def, same, find?]

theorem spliceByLine_empty (lines : List String) :
    spliceByLine lines .empty = Text.unlines lines := by
  have contexts : Fragments.empty.contexts = [] := rfl
  have entries : Fragments.empty.entries = [] := rfl
  have own : lines.zipIdx.map ((· ++ "\n") ∘ Prod.fst) = lines.map (· ++ "\n") := by
    rw [← List.map_map, List.zipIdx_map_fst]
  simp only [spliceByLine, contexts, entries, List.map_nil, String.join_nil, ite_self,
    String.append_empty]
  rw [Text.unlines, ← own]
  rfl

theorem splice_empty {existing output : String} (done : splice existing .empty = .ok output) :
    output = Text.unlines (Text.lines existing) ∧
      splice output .empty = .ok (Text.unlines ((Text.lines existing).map Text.dropReturn)) := by
  obtain ⟨i, j, context, table⟩ := exists_find?_of_splice done
  rw [splice_of_present .empty context table, spliceByLine_empty] at done
  obtain rfl := Except.ok.inj done
  have lines := Text.lines_unlines_lines existing
  refine ⟨rfl, ?_⟩
  rw [← Anchor.find?_map_dropReturn, ← lines] at context table
  rw [splice_of_present .empty context table, spliceByLine_empty, lines]

theorem readText_of_addImports {path : Path} {tree after : FileTree}
    (done : (addImports path).run.run tree = (.ok .added, after)) :
    ∃ text, tree.readText path = .ok text ∧ after.readText path = .ok (withImports text) := by
  rcases addImports_cases done with ⟨missing, -⟩ | ⟨text, read, ⟨-, present, -⟩ | ⟨-, -, replaced⟩⟩
  · cases missing
  · cases present
  · obtain ⟨place, name, mode, held, slash, closed, puts⟩ :=
      FileTree.putsFile_of_readText read replaced
    exact ⟨text, read, (FileTree.NamesFile.of_putsFile puts closed held slash).readText⟩

/-- Adding the import lines to a file, or nothing to a handler, gives a text with the same lines but
for carriage returns at their ends. So all lines are kept, and adding nothing once more changes
nothing, just if the old text has no stray carriage return. -/
theorem rewriting_keeps_lines_iff (path : Path) (tree : FileTree) (existing : String) :
    (∀ after, (addImports path).run.run tree = (.ok .added, after) →
        ∃ text new, tree.readText path = .ok text ∧ after.readText path = .ok new ∧
          Text.lines new = importLines ++ (Text.lines text).map Text.dropReturn ∧
          (Text.lines new = importLines ++ Text.lines text ↔ ¬ Text.HasStrayReturn text)) ∧
      ∀ output, splice existing .empty = .ok output →
        Text.lines output = (Text.lines existing).map Text.dropReturn ∧
          (Text.lines output = Text.lines existing ↔ ¬ Text.HasStrayReturn existing) ∧
          (splice output .empty = .ok output ↔ ¬ Text.HasStrayReturn existing) := by
  constructor
  · intro after done
    obtain ⟨text, read, readAgain⟩ := readText_of_addImports done
    refine ⟨text, _, read, readAgain, lines_withImports text, ?_⟩
    rw [lines_withImports, List.append_cancel_left_eq, Text.map_dropReturn_lines_iff]
  · intro output done
    obtain ⟨rfl, again⟩ := splice_empty done
    refine ⟨Text.lines_unlines_lines existing, ?_, ?_⟩
    · rw [Text.lines_unlines_lines, Text.map_dropReturn_lines_iff]
    · have oneLine : ∀ line ∈ (Text.lines existing).map Text.dropReturn, '\n' ∉ line.toList := by
        intro line membership
        obtain ⟨old, among, rfl⟩ := List.mem_map.1 membership
        exact fun feed => Text.feed_not_mem_of_mem_lines among (Text.mem_of_mem_dropReturn feed)
      rw [again, Except.ok.injEq, Text.unlines_inj oneLine fun _ => Text.feed_not_mem_of_mem_lines,
        Text.map_dropReturn_lines_iff]

def programOf (text : String) : FileTree :=
  FileTree.empty.put ["Program.cs"] (.file text.toUTF8 0o644)

theorem run_addImports_programOf {text : String} (absent : hasImports text = false) :
    (programOf text).readText ⟨"Program.cs"⟩ = .ok text ∧ ∃ after,
      (addImports ⟨"Program.cs"⟩).run.run (programOf text) = (.ok .added, after) ∧
        after.readText ⟨"Program.cs"⟩ = .ok (withImports text) := by
  have held : (programOf text).holder ⟨"Program.cs"⟩ = .ok ([], some "Program.cs") :=
    FileTree.holder_eq_ok_some_iff.2 ⟨[], by decide, by decide, .here, rfl⟩
  have names : (programOf text).NamesFile ⟨"Program.cs"⟩ [] "Program.cs" text 0o644 :=
    ⟨held, by decide, by simp [programOf, FileTree.find?_put]⟩
  obtain ⟨after, replaced, -, again⟩ := names.rewrite (withImports text)
  exact ⟨names.readText, after, run_addImports_added names.readText absent replaced, again.readText⟩

def anchorsEnded (ending : String) : String :=
  Anchor.context.marker ++ " " ++ Anchor.table.marker ++ ending

/-- Lines with different ends, one of them empty and the last without an end, are all kept. -/
theorem rewriting_keeps_mixed_line_ends :
    (∃ after new, (addImports ⟨"Program.cs"⟩).run.run (programOf "a\r\n\nb") = (.ok .added, after) ∧
      after.readText ⟨"Program.cs"⟩ = .ok new ∧
      Text.lines new = importLines ++ ["a", "", "b"]) ∧
    ∃ output, splice (anchorsEnded "\r\n\nlast") .empty = .ok output ∧
      Text.lines output = Text.lines (anchorsEnded "\r\n\nlast") ∧
      splice output .empty = .ok output := by
  obtain ⟨absent, context, table, settled⟩ : hasImports "a\r\n\nb" = false ∧
      Anchor.context.find? (Text.lines (anchorsEnded "\r\n\nlast")) = some 0 ∧
      Anchor.table.find? (Text.lines (anchorsEnded "\r\n\nlast")) = some 0 ∧
      ¬ Text.HasStrayReturn (anchorsEnded "\r\n\nlast") := by
    decide +kernel
  obtain ⟨imported, spliced⟩ := rewriting_keeps_lines_iff ⟨"Program.cs"⟩
    (programOf "a\r\n\nb") (anchorsEnded "\r\n\nlast")
  constructor
  · obtain ⟨start, after, outcome, -⟩ := run_addImports_programOf absent
    obtain ⟨text, new, read, readAgain, -, kept⟩ := imported _ outcome
    obtain rfl := Except.ok.inj (start.symm.trans read)
    exact ⟨after, new, outcome, readAgain, kept.2 (by decide)⟩
  · have done := splice_of_present .empty context table
    obtain ⟨-, kept, again⟩ := spliced _ done
    exact ⟨_, done, kept.2 settled, again.2 settled⟩

/-- A carriage return in front of the end of a line is lost: by the import lines at once, and by
adding nothing when that is done once more. -/
theorem rewriting_loses_stray_return :
    (∃ after new, (programOf "a\r").readText ⟨"Program.cs"⟩ = .ok "a\r" ∧
      (addImports ⟨"Program.cs"⟩).run.run (programOf "a\r") = (.ok .added, after) ∧
      after.readText ⟨"Program.cs"⟩ = .ok new ∧
      Text.lines "a\r" = ["a\r"] ∧ Text.lines new = importLines ++ ["a"]) ∧
    splice (anchorsEnded "\r\r\n") .empty = .ok (anchorsEnded "\r\n") ∧
      splice (anchorsEnded "\r\n") .empty = .ok (anchorsEnded "\n") ∧
      Text.lines (anchorsEnded "\r\n") ≠ Text.lines (anchorsEnded "\r\r\n") := by
  obtain ⟨absent, context, table, first, second, different⟩ : hasImports "a\r" = false ∧
      Anchor.context.find? (Text.lines (anchorsEnded "\r\r\n")) = some 0 ∧
      Anchor.table.find? (Text.lines (anchorsEnded "\r\r\n")) = some 0 ∧
      Text.unlines (Text.lines (anchorsEnded "\r\r\n")) = anchorsEnded "\r\n" ∧
      Text.unlines ((Text.lines (anchorsEnded "\r\r\n")).map Text.dropReturn) =
        anchorsEnded "\n" ∧
      Text.lines (anchorsEnded "\r\n") ≠ Text.lines (anchorsEnded "\r\r\n") := by
    decide +kernel
  have once := splice_of_present .empty context table
  rw [spliceByLine_empty, first] at once
  obtain ⟨-, twice⟩ := splice_empty once
  rw [second] at twice
  refine ⟨?_, once, twice, different⟩
  obtain ⟨start, after, outcome, readAgain⟩ := run_addImports_programOf absent
  exact ⟨after, _, start, outcome, readAgain, rfl, lines_withImports _⟩

end Registrar
