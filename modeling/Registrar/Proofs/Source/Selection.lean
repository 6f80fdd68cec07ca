import Mathlib.Data.List.Basic
import Registrar.Proofs.FileTree.Around
import Registrar.Proofs.FileTree.Visit
import Registrar.Source.Discovery

/-!
# Which files are discovered

A file below the root is discovered by what its own names say and by what the system permits on the
way to it, whatever else stands there, and the files come in the order of their names, directory by
directory. Whatever is refused on the way is told.
-/

set_option autoImplicit false

namespace Registrar

open FileTree

/-- Locations are compared component by component, and components by their bytes. -/
def Precedes : Location → Location → Prop :=
  List.Lex fun first second => first.bytes < second.bytes

theorem lex_of_compare {α : Type} [Ord α] [Std.LawfulEqOrd α] {smaller : α → α → Prop}
    (smaller_of : ∀ a b : α, compare a b = .lt → smaller a b) {first second : List α}
    (less : compare first second = .lt) : List.Lex smaller first second := by
  induction first generalizing second with
  | nil =>
      cases second with
      | nil => cases less
      | cons b second => exact .nil
  | cons a first inductionHypothesis =>
      cases second with
      | nil => cases less
      | cons b second =>
          rw [List.compare_cons_cons, Ordering.then_eq_lt] at less
          rcases less with before | ⟨same, later⟩
          · exact .rel (smaller_of a b before)
          · rw [Std.LawfulEqOrd.compare_eq_iff_eq] at same
            rw [same]
            exact .cons (inductionHypothesis later)

theorem precedes_of_compare {first second : Location} (less : compare first second = .lt) :
    Precedes first second := by
  rw [Precedes]
  refine lex_of_compare (fun name other before => ?_) less
  rw [FileName.compare_eq] at before
  exact List.lex_lt.1 (lex_of_compare (fun _ _ byte => compareOfLessAndEq_eq_lt.1 byte) before)

/-- The extension of a name is what follows its last dot, which must not be its first byte. -/
theorem FileName.extension?_eq_some_iff {name extension : FileName} :
    name.extension? = some extension ↔ ∃ before, before ≠ [] ∧
      name.bytes = before ++ dot :: extension.bytes ∧ dot ∉ extension.bytes := by
  have whole := List.takeWhile_append_dropWhile (p := (· != dot)) (l := name.bytes.reverse)
  have split := List.head?_dropWhile_not (· != dot) name.bytes.reverse
  constructor
  · intro found
    rw [extension?] at found
    rcases shape : name.bytes.reverse.dropWhile (· != dot) with _ | ⟨first, rest⟩
    · simp [shape] at found
    rw [shape] at found whole split
    obtain rfl : first = dot := by simpa using split
    rcases ite_eq_iff.1 found with ⟨-, missing⟩ | ⟨nonempty, same⟩
    · cases missing
    cases same
    refine ⟨rest.reverse, by simpa using nonempty, ?_, ?_⟩
    · have bytes := congrArg List.reverse whole
      rw [List.reverse_reverse] at bytes
      exact bytes.symm.trans (by simp)
    · rw [List.mem_reverse]
      intro inside
      simpa using List.mem_takeWhile_imp inside
  · rintro ⟨before, nonempty, bytes, absent⟩
    have reversed : name.bytes.reverse = extension.bytes.reverse ++ dot :: before.reverse := by
      simp [bytes]
    have plain : ∀ byte ∈ extension.bytes.reverse, (byte != dot) = true := by
      intro byte inside
      rw [bne_iff_ne]
      rintro rfl
      exact absent (List.mem_reverse.1 inside)
    rw [extension?, reversed, List.takeWhile_append_of_pos plain,
      List.dropWhile_append_of_pos plain]
    simp [nonempty]

/-- A name ends with a dot and an accepted extension, and does not begin with that dot. The case of
the extension has no effect. -/
def SourceFilter.HasAcceptedExtension (filter : SourceFilter) (name : FileName) : Prop :=
  ∃ before extension, before ≠ [] ∧
    name.bytes = before ++ FileName.dot :: (FileName.ofText extension).bytes ∧
    FileName.dot ∉ (FileName.ofText extension).bytes ∧
    ∃ accepted ∈ filter.extensions, Text.foldCase accepted = Text.foldCase extension

/-- A file with these names below the root takes part in a scan: no directory strictly between is
excluded, and the extension is an accepted one. -/
structure SourceFilter.Selects (filter : SourceFilter) (names : Location) : Prop where
  entered : ∀ name ∈ names.dropLast, name ∉ filter.exclude.map FileName.ofText
  read : ∃ name, names.getLast? = some name ∧ filter.HasAcceptedExtension name

/-- Whether the system lists all directories on the way to what the names lead to. -/
def Access.ListsAbove (access : Access) (root : Path) (names : Location) : Prop :=
  ∀ directory, IsAbove directory names → access.listing root directory = none

/-- Whether the system lets a file be reached and read, given the names that lead to it. -/
structure Access.Reads (access : Access) (root : Path) (names : Location) : Prop where
  listed : access.ListsAbove root names
  reading : access.reading root names = none

/-- What is refused below the root, which is the location `place`: to list a directory that is not
excluded, or to read a file that is selected, where all directories on the way have been listed. -/
inductive Refusal (tree : FileTree) (access : Access) (root : Path) (filter : SourceFilter)
    (place : Location) : Location → SourceFailure → Prop
  | visit {names : Location} {cause : FileError} :
      tree.find? (place ++ names) = some .directory →
      (∀ name ∈ names, name ∉ filter.exclude.map FileName.ofText) →
      access.ListsAbove root names → access.listing root names = some cause →
      Refusal tree access root filter place names (.visit (root.extend names) cause)
  | read {names : Location} {bytes : ByteArray} {mode : Nat} {cause : FileError} :
      tree.find? (place ++ names) = some (.file bytes mode) → filter.Selects names →
      access.ListsAbove root names → access.reading root names = some cause →
      Refusal tree access root filter place names (.read (root.extend names) cause)

namespace SourceFilter

theorem skips_eq_false_iff {filter : SourceFilter} {name : FileName} :
    filter.skips name = false ↔ name ∉ filter.exclude.map FileName.ofText := by
  rw [skips, ← Bool.not_eq_true, Option.any_eq_true, List.mem_map]
  refine not_congr ⟨?_, ?_⟩
  · rintro ⟨text, same, excluded⟩
    exact ⟨text, by simpa using excluded, (FileName.text?_eq_some_iff.1 same).symm⟩
  · rintro ⟨text, excluded, rfl⟩
    exact ⟨text, FileName.text?_ofText text, by simpa using excluded⟩

theorem acceptsName_iff {filter : SourceFilter} {name : FileName} :
    filter.acceptsName name = true ↔ filter.HasAcceptedExtension name := by
  simp only [acceptsName, Option.any_eq_true, Option.bind_eq_some_iff,
    FileName.extension?_eq_some_iff, acceptsExtension, List.any_eq_true, Text.eqIgnoreCase_iff]
  constructor
  · rintro ⟨extension, ⟨written, ⟨before, nonempty, bytes, absent⟩, text⟩, accepted⟩
    rw [FileName.text?_eq_some_iff] at text
    subst text
    exact ⟨before, extension, nonempty, bytes, absent, accepted⟩
  · rintro ⟨before, extension, nonempty, bytes, absent, accepted⟩
    exact ⟨extension, ⟨_, ⟨before, nonempty, bytes, absent⟩, FileName.text?_ofText extension⟩,
      accepted⟩

theorem any_skips_eq_false_iff {filter : SourceFilter} {names : Location} :
    names.getLast?.any filter.skips = false ↔
      ∀ name, names.getLast? = some name → name ∉ filter.exclude.map FileName.ofText := by
  simp only [← skips_eq_false_iff, Option.any_eq_false]

theorem any_acceptsName_iff {filter : SourceFilter} {names : Location} :
    names.getLast?.any filter.acceptsName = true ↔
      ∃ name, names.getLast? = some name ∧ filter.HasAcceptedExtension name := by
  simp only [Option.any_eq_true, acceptsName_iff]

end SourceFilter

theorem forall_mem_iff_dropLast {α : Type} {property : α → Prop} {items : List α} :
    (∀ item ∈ items, property item) ↔
      (∀ item ∈ items.dropLast, property item) ∧
        ∀ item, items.getLast? = some item → property item := by
  rcases List.eq_nil_or_concat items with rfl | ⟨before, last, rfl⟩
  · simp
  · simp [List.concat_eq_append, or_imp, forall_and]

theorem isAbove_iff {directory names : Location} :
    IsAbove directory names ↔ names ≠ [] ∧ directory <+: names.dropLast := by
  rcases List.eq_nil_or_concat names with rfl | ⟨before, last, rfl⟩
  · simp [not_isAbove_nil]
  · rw [List.concat_eq_append, List.dropLast_concat, IsAbove, List.prefix_concat_iff]
    constructor
    · rintro ⟨same | inside, different⟩
      · exact absurd same different
      · exact ⟨by simp, inside⟩
    · rintro ⟨-, inside⟩
      refine ⟨.inr inside, ?_⟩
      rintro rfl
      exact absurd inside.length_le (by simp)

section Entered

variable {access : Access} {root : Path} {filter : SourceFilter} {names : Location}

theorem enters_iff : access.enters root filter names = true ↔
    (∀ name, names.getLast? = some name → name ∉ filter.exclude.map FileName.ofText) ∧
      access.listing root names = none := by
  rw [Access.enters, Bool.and_eq_true, Option.isNone_iff_eq_none, Bool.not_eq_true',
    SourceFilter.any_skips_eq_false_iff]

theorem forall_enters_iff :
    (∀ directory, IsAbove directory names → access.enters root filter directory = true) ↔
      (∀ name ∈ names.dropLast, name ∉ filter.exclude.map FileName.ofText) ∧
        access.ListsAbove root names := by
  simp only [enters_iff, Access.ListsAbove]
  constructor
  · intro all
    refine ⟨fun name among => ?_, fun directory above => (all directory above).2⟩
    obtain ⟨before, behind, shape⟩ := List.append_of_mem among
    have nonempty : names ≠ [] := by
      rintro rfl
      cases among
    have above : IsAbove (before ++ [name]) names :=
      isAbove_iff.2 ⟨nonempty, behind, by simp [shape]⟩
    exact (all _ above).1 name (by simp)
  · rintro ⟨entered, listed⟩ directory above
    refine ⟨fun name last => entered name ?_, listed directory above⟩
    exact (isAbove_iff.1 above).2.subset (List.mem_of_getLast? last)

end Entered

def readBytes? (access : Access) (root : Path) (filter : SourceFilter) :
    Location × Entry → Option (Location × ByteArray)
  | (names, .file bytes _) =>
      if names.getLast?.any filter.acceptsName ∧ access.reading root names = none then
        some (names, bytes)
      else none
  | _ => none

/-- What is refused at an entry that is met, with the names that lead to it. -/
def refused? (access : Access) (root : Path) (filter : SourceFilter) :
    Location × Entry → Option (Location × SourceFailure)
  | (names, .file _ _) =>
      if names.getLast?.any filter.acceptsName then
        (access.reading root names).map fun cause => (names, .read (root.extend names) cause)
      else none
  | (names, .directory) =>
      if names.getLast?.any filter.skips then none
      else (access.listing root names).map fun cause => (names, .visit (root.extend names) cause)
  | _ => none

section Answers

variable {access : Access} {root : Path} {filter : SourceFilter}

theorem files_ofAnswers (entries : List (Location × Entry)) :
    (Discovery.ofAnswers (entries.filterMap (Discovery.ofEntry? access root filter))).files =
      (entries.filterMap (readBytes? access root filter)).map
        fun (names, bytes) => ⟨root.extend names, bytes⟩ := by
  simp only [Discovery.ofAnswers, List.filterMap_filterMap, List.map_filterMap]
  congr 1
  funext ⟨names, entry⟩
  cases entry with
  | file bytes mode =>
      rw [Discovery.ofEntry?, readBytes?]
      by_cases accepted : names.getLast?.any filter.acceptsName = true
      · rcases reading : access.reading root names with _ | cause <;> simp [accepted]
      · simp [accepted]
  | directory =>
      rw [Discovery.ofEntry?]
      split
      · rfl
      · rcases access.listing root names with _ | cause <;> rfl
  | link target => rfl

theorem failures_ofAnswers (entries : List (Location × Entry)) :
    (Discovery.ofAnswers (entries.filterMap (Discovery.ofEntry? access root filter))).failures =
      (entries.filterMap (refused? access root filter)).map Prod.snd := by
  simp only [Discovery.ofAnswers, List.filterMap_filterMap, List.map_filterMap]
  congr 1
  funext ⟨names, entry⟩
  cases entry with
  | file bytes mode =>
      rw [Discovery.ofEntry?, refused?]
      split
      · rcases access.reading root names with _ | cause <;> rfl
      · rfl
  | directory =>
      rw [Discovery.ofEntry?, refused?]
      split
      · rfl
      · rcases access.listing root names with _ | cause <;> rfl
  | link target => rfl

theorem readBytes?_eq_some_iff {names others : Location} {entry : Entry} {bytes : ByteArray} :
    readBytes? access root filter (names, entry) = some (others, bytes) ↔
      others = names ∧ (∃ mode, entry = .file bytes mode) ∧
        names.getLast?.any filter.acceptsName = true ∧ access.reading root names = none := by
  cases entry with
  | file content mode =>
      rw [readBytes?]
      split
      · rename_i accepted
        simp [accepted, eq_comm]
      · rename_i refused
        simpa [and_assoc] using fun _ _ accepted => (not_and.1 refused) accepted
  | directory | link target => simp [readBytes?]

theorem refused?_eq_some_iff {names others : Location} {entry : Entry} {failure : SourceFailure} :
    refused? access root filter (names, entry) = some (others, failure) ↔
      others = names ∧
        ((entry = .directory ∧ names.getLast?.any filter.skips = false ∧
            ∃ cause, access.listing root names = some cause ∧
              failure = .visit (root.extend names) cause) ∨
          (∃ bytes mode, entry = .file bytes mode) ∧
            names.getLast?.any filter.acceptsName = true ∧
            ∃ cause, access.reading root names = some cause ∧
              failure = .read (root.extend names) cause) := by
  cases entry with
  | file bytes mode =>
      rw [refused?, Option.ite_none_right_eq_some, Option.map_eq_some_iff]
      constructor
      · rintro ⟨accepted, cause, reading, same⟩
        obtain ⟨rfl, rfl⟩ := Prod.mk.inj same
        exact ⟨rfl, .inr ⟨⟨bytes, mode, rfl⟩, accepted, cause, reading, rfl⟩⟩
      · rintro ⟨rfl, ⟨noFile, -⟩ | ⟨-, accepted, cause, reading, rfl⟩⟩
        · cases noFile
        · exact ⟨accepted, cause, reading, rfl⟩
  | directory =>
      rw [refused?, Option.ite_none_left_eq_some, Option.map_eq_some_iff, Bool.not_eq_true]
      constructor
      · rintro ⟨entered, cause, listing, same⟩
        obtain ⟨rfl, rfl⟩ := Prod.mk.inj same
        exact ⟨rfl, .inl ⟨rfl, entered, cause, listing, rfl⟩⟩
      · rintro ⟨rfl, ⟨-, entered, cause, listing, rfl⟩ | ⟨⟨bytes, mode, noDirectory⟩, -⟩⟩
        · exact ⟨entered, cause, listing, rfl⟩
        · cases noDirectory
  | link target => simp [refused?]

end Answers

namespace FileTree

theorem isDirectory_eq_false_iff (tree : FileTree) (root : Path) :
    tree.isDirectory root = false ↔
      ∀ place, tree.locate root = .ok place → tree.find? place ≠ some .directory := by
  rw [isDirectory, stat]
  rcases tree.locate root with error | place
  · simp [bind, Except.bind]
  · rcases found : tree.find? place with _ | entry
    · simp [bind, Except.bind, found]
    · cases entry <;> simp [bind, Except.bind, found]

theorem discover_eq_none_iff (tree : FileTree) (access : Access) (root : Path)
    (filter : SourceFilter) :
    tree.discover access root filter = none ↔ tree.isDirectory root = false := by
  rw [isDirectory_eq_false_iff, discover]
  rcases tree.locate root with error | place
  · simp
  · by_cases directory : tree.find? place = some .directory
    · simp [directory]
    · simp [directory]

/-- The entries that are met from a root, itself among them. -/
def metFrom (tree : FileTree) (access : Access) (root : Path) (filter : SourceFilter)
    (place : Location) : List (Location × Entry) :=
  ([], .directory) :: tree.visit (access.enters root filter) place

/-- The files that are read below a root, each with the names that lead to it. -/
def readBelow (tree : FileTree) (access : Access) (root : Path) (filter : SourceFilter)
    (place : Location) : List (Location × ByteArray) :=
  (tree.metFrom access root filter place).filterMap (readBytes? access root filter)

def refusedBelow (tree : FileTree) (access : Access) (root : Path) (filter : SourceFilter)
    (place : Location) : List (Location × SourceFailure) :=
  (tree.metFrom access root filter place).filterMap (refused? access root filter)

section Met

variable {tree : FileTree} {access : Access} {root : Path} {filter : SourceFilter}
  {place : Location}

theorem metFrom_sorted :
    (tree.metFrom access root filter place).Pairwise fun first second =>
      compare first.1 second.1 = .lt := by
  rw [metFrom, List.pairwise_cons]
  refine ⟨?_, visit_sorted tree _ place⟩
  rintro ⟨names, entry⟩ visited
  obtain ⟨name, rest, rfl⟩ := List.exists_cons_of_ne_nil (mem_visit_iff.1 visited).1
  rfl

theorem mem_metFrom_iff (directory : tree.find? place = some .directory) {names : Location}
    {entry : Entry} : (names, entry) ∈ tree.metFrom access root filter place ↔
      tree.find? (place ++ names) = some entry ∧
        (∀ name ∈ names.dropLast, name ∉ filter.exclude.map FileName.ofText) ∧
          access.ListsAbove root names := by
  rw [metFrom, List.mem_cons, mem_visit_iff, forall_enters_iff]
  rcases names with _ | ⟨name, rest⟩
  · simp [directory, Access.ListsAbove, not_isAbove_nil, eq_comm]
  · simp

theorem filterMap_metFrom_sorted {α : Type} {take? : Location × Entry → Option (Location × α)}
    (own : ∀ {names entry taken}, take? (names, entry) = some taken → taken.1 = names) :
    ((tree.metFrom access root filter place).filterMap take?).Pairwise fun first second =>
      compare first.1 second.1 = .lt := by
  apply List.pairwise_filterMap.2
  apply metFrom_sorted.imp
  rintro ⟨names, entry⟩ ⟨others, other⟩ less taken isTaken taken' isTaken'
  rwa [own isTaken, own isTaken']

theorem readBelow_sorted :
    (tree.readBelow access root filter place).Pairwise fun first second =>
      compare first.1 second.1 = .lt :=
  filterMap_metFrom_sorted fun isRead => (readBytes?_eq_some_iff.1 isRead).1

theorem refusedBelow_sorted :
    (tree.refusedBelow access root filter place).Pairwise fun first second =>
      compare first.1 second.1 = .lt :=
  filterMap_metFrom_sorted fun isRefused => (refused?_eq_some_iff.1 isRefused).1

theorem mem_readBelow_iff (directory : tree.find? place = some .directory)
    {names : Location} {bytes : ByteArray} :
    (names, bytes) ∈ tree.readBelow access root filter place ↔
      (∃ mode, tree.find? (place ++ names) = some (.file bytes mode)) ∧
        filter.Selects names ∧ access.Reads root names := by
  rw [readBelow, List.mem_filterMap]
  constructor
  · rintro ⟨⟨others, entry⟩, met, isRead⟩
    obtain ⟨rfl, ⟨mode, rfl⟩, accepted, reading⟩ := readBytes?_eq_some_iff.1 isRead
    obtain ⟨found, entered, listed⟩ := (mem_metFrom_iff directory).1 met
    exact ⟨⟨mode, found⟩, ⟨entered, SourceFilter.any_acceptsName_iff.1 accepted⟩,
      ⟨listed, reading⟩⟩
  · rintro ⟨⟨mode, found⟩, ⟨entered, accepted⟩, ⟨listed, reading⟩⟩
    refine ⟨(names, .file bytes mode), (mem_metFrom_iff directory).2 ⟨found, entered, listed⟩, ?_⟩
    exact readBytes?_eq_some_iff.2
      ⟨rfl, ⟨mode, rfl⟩, SourceFilter.any_acceptsName_iff.2 accepted, reading⟩

theorem mem_refusedBelow_iff (directory : tree.find? place = some .directory)
    {names : Location} {failure : SourceFailure} :
    (names, failure) ∈ tree.refusedBelow access root filter place ↔
      Refusal tree access root filter place names failure := by
  rw [refusedBelow, List.mem_filterMap]
  constructor
  · rintro ⟨⟨others, entry⟩, met, isRefused⟩
    obtain ⟨found, entered, listed⟩ := (mem_metFrom_iff directory).1 met
    obtain ⟨rfl, ⟨rfl, notSkipped, cause, listing, rfl⟩ |
      ⟨⟨bytes, mode, rfl⟩, accepted, cause, reading, rfl⟩⟩ := refused?_eq_some_iff.1 isRefused
    · have last := SourceFilter.any_skips_eq_false_iff.1 notSkipped
      exact .visit found (forall_mem_iff_dropLast.2 ⟨entered, last⟩) listed listing
    · exact .read found ⟨entered, SourceFilter.any_acceptsName_iff.1 accepted⟩ listed reading
  · rintro (⟨found, entered, listed, listing⟩ | ⟨found, ⟨entered, accepted⟩, listed, reading⟩)
    · obtain ⟨above, last⟩ := forall_mem_iff_dropLast.1 entered
      exact ⟨(names, .directory), (mem_metFrom_iff directory).2 ⟨found, above, listed⟩,
        refused?_eq_some_iff.2 ⟨rfl, .inl ⟨rfl, SourceFilter.any_skips_eq_false_iff.2 last, _,
          listing, rfl⟩⟩⟩
    · exact ⟨(names, .file _ _), (mem_metFrom_iff directory).2 ⟨found, entered, listed⟩,
        refused?_eq_some_iff.2 ⟨rfl, .inr ⟨⟨_, _, rfl⟩,
          SourceFilter.any_acceptsName_iff.2 accepted, _, reading, rfl⟩⟩⟩

theorem discover_eq_some_iff {discovery : Discovery} :
    tree.discover access root filter = some discovery ↔
      ∃ place, tree.locate root = .ok place ∧ tree.find? place = some .directory ∧
        discovery.files = (tree.readBelow access root filter place).map
          (fun (names, bytes) => ⟨root.extend names, bytes⟩) ∧
        discovery.failures = (tree.refusedBelow access root filter place).map Prod.snd := by
  constructor
  · intro discovered
    rw [discover] at discovered
    split at discovered
    · rename_i place located
      split at discovered
      · rename_i directory
        obtain rfl := Option.some.inj discovered
        exact ⟨place, located, directory, files_ofAnswers _, failures_ofAnswers _⟩
      · cases discovered
    · cases discovered
  · rintro ⟨place, located, directory, files, failures⟩
    rw [discover, located]
    simp only [directory, if_true, Option.some.injEq]
    obtain ⟨found, refused⟩ := discovery
    rw [readBelow, ← files_ofAnswers] at files
    rw [refusedBelow, ← failures_ofAnswers] at failures
    cases files
    cases failures
    rfl

end Met

/-- A scan discovers the files below its root that the filter selects and the system lets it reach
and read, each once, with its bytes and in the order of the names that lead to it. What is refused
is told, in the same order. A scan fails only where the root is no directory. -/
theorem discover_selects (tree : FileTree) (access : Access) (root : Path) (filter : SourceFilter) :
    (tree.discover access root filter = none ↔ tree.isDirectory root = false) ∧
      ∀ discovery, tree.discover access root filter = some discovery →
        ∃ place, ∃ found : List (Location × ByteArray), ∃ refused : List (Location × SourceFailure),
          tree.locate root = .ok place ∧ tree.find? place = some .directory ∧
          discovery.files = found.map (fun (names, bytes) => ⟨root.extend names, bytes⟩) ∧
          found.Pairwise (fun first second => Precedes first.1 second.1) ∧
          (∀ names bytes, (names, bytes) ∈ found ↔
            (∃ mode, tree.find? (place ++ names) = some (.file bytes mode)) ∧
              filter.Selects names ∧ access.Reads root names) ∧
          discovery.failures = refused.map Prod.snd ∧
          refused.Pairwise (fun first second => Precedes first.1 second.1) ∧
          ∀ names failure, (names, failure) ∈ refused ↔
            Refusal tree access root filter place names failure := by
  refine ⟨tree.discover_eq_none_iff access root filter, ?_⟩
  intro discovery discovered
  obtain ⟨place, located, directory, files, failures⟩ := discover_eq_some_iff.1 discovered
  refine ⟨place, _, _, located, directory, files, readBelow_sorted.imp precedes_of_compare, ?_,
    failures, refusedBelow_sorted.imp precedes_of_compare, ?_⟩
  · exact fun names bytes => mem_readBelow_iff directory
  · exact fun names failure => mem_refusedBelow_iff directory

end FileTree

def stayingPath : Nat → Path
  | 0 => ⟨"."⟩
  | count + 1 => ⟨"./" ++ (stayingPath count).text⟩

namespace stayingPath

theorem utf8ByteSize_text (count : Nat) :
    (stayingPath count).text.utf8ByteSize = 2 * count + 1 := by
  induction count with
  | zero => rfl
  | succ count inductionHypothesis =>
      have step : "./".utf8ByteSize = 2 := rfl
      rw [stayingPath, String.utf8ByteSize_append, inductionHypothesis, step]
      omega

theorem toList_text_succ (count : Nat) :
    (stayingPath (count + 1)).text.toList = ['.'] ++ '/' :: (stayingPath count).text.toList := by
  rw [stayingPath, String.toList_append]
  rfl

theorem endsWithSlash_eq_false (count : Nat) : (stayingPath count).endsWithSlash = false := by
  have last : (stayingPath count).text.toList.getLast? = some '.' := by
    induction count with
    | zero => rfl
    | succ count inductionHypothesis =>
        rw [toList_text_succ, List.getLast?_append, List.getLast?_cons, inductionHypothesis]
        rfl
  rw [Path.endsWithSlash, last]
  rfl

theorem isAbsolute_eq_false (count : Nat) : (stayingPath count).isAbsolute = false := by
  cases count with
  | zero => rfl
  | succ count =>
      rw [Path.isAbsolute, toList_text_succ]
      rfl

theorem walkSteps_eq (count : Nat) :
    (stayingPath count).walkSteps = List.replicate (count + 1) (FileName.ofText ".") := by
  rw [Path.walkSteps, endsWithSlash_eq_false, if_neg Bool.false_ne_true]
  induction count with
  | zero => rfl
  | succ count inductionHypothesis =>
      rw [← Path.stepsOf_toList, toList_text_succ, Path.stepsOf_append, Path.stepsOf_toList,
        inductionHypothesis]
      rfl

theorem locate_eq (count : Nat) {tree : FileTree}
    (directory : tree.find? tree.here = some .directory) :
    tree.locate (stayingPath count) = .ok tree.here := by
  have nonempty : (stayingPath count).text.isEmpty = false := by
    rw [← Bool.not_eq_true, String.isEmpty_iff, ← String.utf8ByteSize_eq_zero_iff,
      utf8ByteSize_text]
    omega
  have stays : ∀ steps, tree.follow linkLimit tree.here
      (List.replicate steps (FileName.ofText ".")) = .ok tree.here := by
    intro steps
    induction steps with
    | zero => exact follow_nil tree linkLimit tree.here
    | succ steps inductionHypothesis =>
        exact (FileTree.follow_dot directory).trans inductionHypothesis
  rw [FileTree.locate, nonempty, walkSteps_eq, FileTree.origin, isAbsolute_eq_false]
  exact stays (count + 1)

end stayingPath

def nestedModel : FileTree :=
  (FileTree.empty.put ["Models"] .directory).put ["Models", "A.cs"]
    (.file "[JsonAot] class Foo \x7b \x7d".toUTF8 0o644)

theorem discover_nestedModel {access : Access} {root : Path} {cause : FileError}
    (located : nestedModel.locate root = .ok []) (listed : access.listing root [] = none)
    (refused : access.listing root ["Models"] = some cause) :
    nestedModel.discover access root { } =
      some ⟨[], [.visit (root.extend ["Models"]) cause]⟩ := by
  have names : nestedModel.namesIn [] = ["Models"] := by decide +kernel
  have directory : nestedModel.find? ["Models"] = some .directory := by decide +kernel
  have entered : access.enters root { } [] = true := by simp [Access.enters, listed]
  have closed : access.enters root { } ["Models"] = false := by simp [Access.enters, refused]
  have skipped : SourceFilter.skips { } "Models" = false := by decide +kernel
  have inside : nestedModel.visit (fun names => access.enters root { } ("Models" :: names))
      ["Models"] = [] := by
    rw [visit_eq, closed]
    rfl
  simp only [discover, located, find?_nil, visit_eq, entered, names, if_true]
  simp [visitAt, directory, inside, Discovery.ofEntry?, Discovery.ofAnswers, listed, refused,
    skipped]

theorem discover_nestedModel_ofPathLimit {count : Nat} (short : 2 * count + 1 < 4096)
    (long : 4096 ≤ 2 * count + 8) :
    nestedModel.discover .ofPathLimit (stayingPath count) { } =
      some ⟨[], [.visit ((stayingPath count).extend ["Models"]) .nameTooLong]⟩ := by
  have size := stayingPath.utf8ByteSize_text count
  have name : (FileName.ofText "Models").bytes.length = 6 := by decide +kernel
  have whole : (stayingPath count).bytesBelow [] = 2 * count + 1 := size
  have inner : (stayingPath count).bytesBelow ["Models"] = 2 * count + 8 := by
    simp [Path.bytesBelow, size, name, stayingPath.endsWithSlash_eq_false]
  refine discover_nestedModel (stayingPath.locate_eq count (find?_nil nestedModel)) ?_ ?_
  · simp only [Access.ofPathLimit, whole, Access.pathLimit, if_neg (Nat.not_le.2 short)]
  · simp only [Access.ofPathLimit, inner, Access.pathLimit, if_pos long]

theorem isDirectory_stayingPath (count : Nat) :
    nestedModel.isDirectory (stayingPath count) = true := by
  have located := stayingPath.locate_eq count (find?_nil nestedModel)
  rw [FileTree.isDirectory, FileTree.stat, located]
  rfl

/-- Where the path of a directory is too long for the system, the files in it are passed over. -/
theorem discover_passes_over_long_path :
    (stayingPath 2046).text.utf8ByteSize = 4093 ∧
      nestedModel.isDirectory (stayingPath 2046) = true ∧
      nestedModel.locate (stayingPath 2046) = .ok [] ∧
      (∃ bytes mode, nestedModel.find? ["Models", "A.cs"] = some (.file bytes mode)) ∧
      SourceFilter.Selects { } ["Models", "A.cs"] ∧
      nestedModel.discover .ofPathLimit (stayingPath 2046) { } =
        some ⟨[], [.visit ((stayingPath 2046).extend ["Models"]) .nameTooLong]⟩ := by
  refine ⟨stayingPath.utf8ByteSize_text 2046, isDirectory_stayingPath 2046,
    stayingPath.locate_eq 2046 (find?_nil nestedModel), ?_, ?_,
    discover_nestedModel_ofPathLimit (by decide) (by decide)⟩
  · exact ⟨_, _, by rw [nestedModel, find?_put, if_pos ⟨by simp, rfl⟩]⟩
  · refine ⟨?_, _, rfl, SourceFilter.acceptsName_iff.1 (by decide +kernel)⟩
    intro name among
    exact SourceFilter.skips_eq_false_iff.1 (by
      obtain rfl : name = "Models" := by simpa using among
      decide +kernel)

end Registrar
