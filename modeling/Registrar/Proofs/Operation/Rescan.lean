import Registrar.Proofs.Artifact.Writing
import Registrar.Proofs.Operation.Rerun

/-!
# Scanning a handler

A handler declares types with attributes of its own, and the default marker accepts none of them.
So a handler among the scanned files, with whatever names and however often it was added to,
registers nothing.
-/

set_option autoImplicit false

namespace Registrar

theorem default_refuses_handler {names : List String} {name : String}
    (membership : name ∈ handlerAttributes names) : (default : Marker).accepts ⟨name⟩ = false := by
  have refused : ∀ name ∈ ["JsonSerializable", "AttributeUsage"],
      (default : Marker).accepts ⟨name⟩ = false := by
    decide +kernel
  apply refused
  rw [handlerAttributes] at membership
  split at membership
  · exact List.mem_cons_of_mem _ membership
  · exact membership

theorem walk_handler {parser : SourceParser} {added kept : List String}
    (reads : parser.ReadsHandler added kept) (path : Path) :
    ((SourceFile.read parser ⟨path, (handlerText added kept).toUTF8⟩).walk default).toList =
      [] := by
  have unmarked := filter_marks_handler reads (fun _ => default_refuses_handler) path
  rw [← Namespace.map_decl_marked, List.map_eq_nil_iff] at unmarked
  rw [SourceUnit.walk, Walk.toList_start, unmarked]

section Silent

variable {host : Host} {settings : ScanSettings} {tree : FileTree} {found : Discovery}

theorem listTypes_of_discover
    (discovered : tree.discover host.access settings.root ⟨settings.extensions, settings.exclude⟩ =
      some found) :
    ∃ listing, listTypes host tree settings = .ok listing ∧
      listing.types = (found.files.flatMap fun file =>
        (file.read host.parser).findings ⟨settings.marker⟩) ∧
      listing.names = markedNames host.parser settings found.files := by
  rw [listTypes, scanTree_eq, discovered]
  exact ⟨_, rfl, Scan.findings_ofDiscovery _ _ _, Scan.names_ofDiscovery _ _ _⟩

/-- A run, dry or not, reports the names that its scan finds. -/
theorem names_of_register {options : RunOptions} {after : FileTree} {report : RunReport}
    (discovered : tree.discover host.access settings.root ⟨settings.extensions, settings.exclude⟩ =
      some found)
    (done : (register host settings options).run.run tree = (.ok report, after)) :
    report.names = markedNames host.parser settings found.files := by
  rw [← Scan.names_ofDiscovery]
  obtain ⟨artifact, mode, dry⟩ := options
  cases dry with
  | false =>
      obtain ⟨others, same, rfl, -⟩ := exists_of_register done
      rw [discovered] at same
      cases same
      rfl
  | true =>
      rw [run_register_dry_eq, discovered] at done
      simp only at done
      split at done
      · obtain ⟨same, -⟩ := Prod.mk.inj done
        obtain rfl := Except.ok.inj same
        rfl
      · cases done

theorem markedNames_of_silent {parser : SourceParser} {file : SourceFile}
    (silent : (file.read parser).findings ⟨settings.marker⟩ = [])
    (before behind : List SourceFile) :
    markedNames parser settings (before ++ file :: behind) =
      markedNames parser settings (before ++ behind) := by
  have nothing : namesIn parser settings file = [] := by
    rw [namesIn, ← SourceUnit.map_name_findings, silent, List.map_nil]
  simp [markedNames, nothing]

end Silent

/-- A handler that was written with any names and added to any number of times holds no match for
the default marker, as long as the parser sees the attributes in it. Where it is one of the scanned
files, listing and running come to what they come to without it. -/
theorem handler_registers_nothing {host : Host} {first : List String} {later : List (List String)}
    (compact : ∀ name ∈ later.flatten ++ first, Text.IsCompact name)
    (reads : host.parser.ReadsHandler later.reverse.flatten first) :
    ∃ text, addInTurn (renderArtifact (Fragments.ofNames first)) later = .ok text ∧
      (∀ path, ((SourceFile.read host.parser ⟨path, text.toUTF8⟩).walk default).toList = []) ∧
      ∀ tree settings found path before behind, settings.marker = (default : Marker).token →
        FileTree.discover tree host.access settings.root
            ⟨settings.extensions, settings.exclude⟩ = some found →
        found.files = before ++ ⟨path, text.toUTF8⟩ :: behind →
        (∃ listing, listTypes host tree settings = .ok listing ∧
          listing.types = ((before ++ behind).flatMap fun file =>
            (file.read host.parser).findings ⟨settings.marker⟩) ∧
          listing.names = markedNames host.parser settings (before ++ behind)) ∧
        ∀ options report after,
          (register host settings options).run.run tree = (.ok report, after) →
          report.names = markedNames host.parser settings (before ++ behind) := by
  have unbroken : ∀ name ∈ later.flatten ++ [] ++ first, Text.IsCompact name := by
    rwa [List.append_nil]
  have silent := walk_handler reads
  refine ⟨handlerText later.reverse.flatten first, ?_, silent, ?_⟩
  · rw [renderArtifact_ofNames, addInTurn_handlerText later unbroken, List.append_nil]
  · intro tree settings found path before behind marker discovered files
    have nothing : (SourceFile.read host.parser
        ⟨path, (handlerText later.reverse.flatten first).toUTF8⟩).findings
          ⟨settings.marker⟩ = [] := by
      rw [marker, SourceUnit.findings, silent path, List.map_nil]
    have names := markedNames_of_silent nothing before behind
    constructor
    · obtain ⟨listing, listed, types, reported⟩ := listTypes_of_discover discovered
      refine ⟨listing, listed, ?_, ?_⟩
      · rw [types, files, List.flatMap_append, List.flatMap_append, List.flatMap_cons, nothing,
          List.nil_append]
      · rw [reported, files, names]
    · intro options report after done
      rw [names_of_register discovered done, files, names]

/-- Even a name that the marker would accept as an attribute is of no consequence. -/
theorem handler_registers_nothing_for_marker_name :
    (∀ name ∈ [["Bar", "@class"], ["JsonAot"]].flatten ++ ["Foo"], Text.IsCompact name) ∧
      outlineParser.ReadsHandler [["Bar", "@class"], ["JsonAot"]].reverse.flatten ["Foo"] ∧
      ∃ text, addInTurn (renderArtifact (Fragments.ofNames ["Foo"]))
          [["Bar", "@class"], ["JsonAot"]] = .ok text ∧
        ((SourceFile.read outlineParser ⟨⟨"H.cs"⟩, text.toUTF8⟩).walk default).toList = [] := by
  have isName : ∀ name ∈ [["Bar", "@class"], ["JsonAot"]].flatten ++ ["Foo"],
      Syntax.IsName name.toList := by
    decide +kernel
  have compact : ∀ name ∈ [["Bar", "@class"], ["JsonAot"]].flatten ++ ["Foo"],
      Text.IsCompact name := fun name membership => (isName name membership).isCompact
  have reads : Host.standard.parser.ReadsHandler [["Bar", "@class"], ["JsonAot"]].reverse.flatten
      ["Foo"] :=
    outlineParser_readsHandler (by decide +kernel)
  obtain ⟨text, added, silent, -⟩ := handler_registers_nothing compact reads
  exact ⟨compact, reads, text, added, silent _⟩

end Registrar
