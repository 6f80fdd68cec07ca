import Mathlib.Data.List.Basic
import Registrar.Proofs.Syntax.Gathering

/-!
# The declarations that are reached

A path numbers a child at each step from the root. A node is reached if every node on the way to it
is entered, and the namespaces around it are read off that way: those entered, and at each step the
last one for the rest that stands in front. The forest of a file lists just what is declared at the
paths of its tree, in their order.
-/

set_option autoImplicit false

namespace Registrar

inductive Declaration where
  | type (decl : TypeDecl)
  | space (name : String)
deriving DecidableEq, Repr

mutual

/-- The declarations of a member in preorder, each with the names of the namespaces around it. -/
def Member.rows (chain : List String) : Member → List (List String × Declaration)
  | .type decl => [(chain, .type decl)]
  | .space name members => (chain, .space name) :: rowsOf (chain ++ [name]) members

def rowsOf (chain : List String) : List Member → List (List String × Declaration)
  | [] => []
  | member :: rest => member.rows chain ++ rowsOf chain rest

end

theorem rowsOf_append (chain : List String) (first second : List Member) :
    rowsOf chain (first ++ second) = rowsOf chain first ++ rowsOf chain second := by
  induction first with
  | nil => rfl
  | cons member rest inductionHypothesis =>
      rw [List.cons_append, rowsOf, rowsOf, inductionHypothesis, List.append_assoc]

namespace SyntaxNode

def at? (node : SyntaxNode) : List Nat → Option SyntaxNode
  | [] => some node
  | i :: path => node.children[i]?.bind (·.at? path)

mutual

/-- The paths of all nodes, in document order. -/
def paths : SyntaxNode → List (List Nat)
  | .mk _ _ _ children => [] :: pathsFrom 0 children

def pathsFrom (start : Nat) : List SyntaxNode → List (List Nat)
  | [] => []
  | node :: rest => node.paths.map (start :: ·) ++ pathsFrom (start + 1) rest

end

/-- Whether a node is a body, a section compiled under a condition or what an error leaves. -/
def IsPassage (node : SyntaxNode) : Prop :=
  node.kind = "declaration_list" ∨ node.kind = "ERROR" ∨ "preproc_".toList <+: node.kind.toList

instance (node : SyntaxNode) : Decidable node.IsPassage := by
  unfold IsPassage
  infer_instance

def visible (text : String) : String :=
  String.ofList (text.toList.filter fun c => !Text.isBlank c)

/-- The name of a node; one that has none is called by the empty text. -/
def spacelessName (node : SyntaxNode) : String := node.name.elim "" visible

def spaceName? (node : SyntaxNode) : Option String :=
  if node.kind = "namespace_declaration" ∨ node.kind = "file_scoped_namespace_declaration" then
    some node.spacelessName
  else none

/-- The name of a namespace node for the rest of what is around it. -/
def restName? (node : SyntaxNode) : Option String :=
  if node.kind = "file_scoped_namespace_declaration" then some node.spacelessName else none

/-- Whether all nodes between the two ends of a path are namespaces or passages. -/
def reaches (node : SyntaxNode) : List Nat → Bool
  | [] => false
  | [_] => true
  | i :: path => node.children[i]?.any fun child =>
      decide (child.spaceName?.isSome ∨ child.IsPassage) && child.reaches path

/-- The name of the last namespace for the rest in front of a child that declares none itself. -/
def restBefore? (node : SyntaxNode) (i : Nat) : Option String :=
  if (node.children[i]?.bind restName?).isSome then none
  else ((node.children.take i).filterMap restName?).getLast?

/-- The names of the namespaces around the end of a path, from the outside in. The node at its
beginning has the name `own`. -/
def chainTo (own : Option String) (node : SyntaxNode) : List Nat → List String
  | [] => []
  | i :: path =>
      own.toList ++ (node.restBefore? i).toList ++
        node.children[i]?.elim [] fun child => child.chainTo child.spaceName? path

def typeSymbols : List (String × TypeKind) :=
  [("class_declaration", .classType), ("struct_declaration", .structType),
    ("record_declaration", .recordType), ("record_struct_declaration", .recordType),
    ("interface_declaration", .interfaceType), ("enum_declaration", .enumType),
    ("delegate_declaration", .delegateType)]

/-- The names of the attributes in the attribute lists of a node, in order. -/
def attributeNames (node : SyntaxNode) : List String :=
  node.children.flatMap fun list =>
    if list.kind = "attribute_list" then
      list.children.flatMap fun item =>
        if item.kind = "attribute" then item.name.toList.map visible else []
    else []

/-- The type that a node declares, on the line behind its row: one of its kind, unless nothing is
left of its name. -/
def declaredType? (node : SyntaxNode) : Option TypeDecl :=
  (typeSymbols.lookup node.kind).bind fun kind =>
    if node.spacelessName = "" then none
    else some ⟨node.spacelessName, kind, node.attributeNames.map Attribute.mk, node.row + 1⟩

/-- What a node declares by itself. -/
def declaration? (node : SyntaxNode) : Option Declaration :=
  match node.spaceName? with
  | some name => some (.space name)
  | none => node.declaredType?.map .type

/-- What is declared at the end of a path from the root of a file, if it is reached. -/
def rowAt (root : SyntaxNode) (path : List Nat) : Option (List String × Declaration) :=
  if root.reaches path then
    ((root.at? path).bind declaration?).map fun declared => (root.chainTo none path, declared)
  else none

/-- The row of a path whose beginning lies in the given namespaces. -/
def rowWithin (chain : List String) (node : SyntaxNode) (path : List Nat) :
    Option (List String × Declaration) :=
  (node.rowAt path).map fun row => (chain ++ row.1, row.2)

theorem isConditional_iff (symbol : String) :
    isConditional symbol = true ↔ "preproc_".toList <+: symbol.toList :=
  List.isPrefixOf_iff_prefix

theorem compactName_eq (node : SyntaxNode) : node.compactName = node.spacelessName := by
  rw [compactName, spacelessName]
  cases node.name <;> rfl

/-- Each node is a namespace of one of the two kinds, a passage or closed. -/
theorem scope?_cases (node : SyntaxNode) :
    (node.kind = "namespace_declaration" ∧ node.scope? = some (.block node.spacelessName)) ∨
      (node.kind = "file_scoped_namespace_declaration" ∧
        node.scope? = some (.fileScoped node.spacelessName)) ∨
      (node.IsPassage ∧ node.spaceName? = none ∧ node.scope? = some .inline) ∨
      (¬ node.IsPassage ∧ node.spaceName? = none ∧ node.scope? = none) := by
  have conditional := isConditional_iff node.kind
  rw [scope?, compactName_eq, spaceName?, IsPassage, ← conditional]
  split
  · rename_i kind
    exact .inl ⟨kind, rfl⟩
  · rename_i kind
    exact .inr (.inl ⟨kind, rfl⟩)
  · rename_i kind
    exact .inr (.inr (.inl ⟨.inl kind, by simp [kind], rfl⟩))
  · rename_i kind
    exact .inr (.inr (.inl ⟨.inr (.inl kind), by simp [kind], rfl⟩))
  · rename_i noSpace noFileSpace noBody noError
    have unnamed : ¬ (node.kind = "namespace_declaration" ∨
        node.kind = "file_scoped_namespace_declaration") := not_or.2 ⟨noSpace, noFileSpace⟩
    rw [if_neg unnamed]
    by_cases compiled : isConditional node.kind = true
    · exact .inr (.inr (.inl ⟨.inr (.inr compiled), rfl, if_pos compiled⟩))
    · exact .inr (.inr (.inr ⟨not_or.2 ⟨noBody, not_or.2 ⟨noError, compiled⟩⟩, rfl,
        if_neg compiled⟩))

theorem restName?_eq_none {node : SyntaxNode} (unnamed : node.spaceName? = none) :
    node.restName? = none := by
  rw [spaceName?] at unnamed
  split at unnamed
  · cases unnamed
  · rename_i noSpace
    exact if_neg fun kind => noSpace (.inr kind)

theorem spaceName?_eq (node : SyntaxNode) : node.spaceName? =
    match node.scope? with
    | some (.block name) | some (.fileScoped name) => some name
    | _ => none := by
  rcases node.scope?_cases with ⟨kind, opened⟩ | ⟨kind, opened⟩ | ⟨-, unnamed, opened⟩ |
    ⟨-, unnamed, opened⟩
  · simp [spaceName?, kind, opened]
  · simp [spaceName?, kind, opened]
  · simp [unnamed, opened]
  · simp [unnamed, opened]

theorem restName?_eq (node : SyntaxNode) : node.restName? =
    match node.scope? with
    | some (.fileScoped name) => some name
    | _ => none := by
  rcases node.scope?_cases with ⟨kind, opened⟩ | ⟨kind, opened⟩ | ⟨-, unnamed, opened⟩ |
    ⟨-, unnamed, opened⟩
  · simp [restName?, kind, opened]
  · simp [restName?, kind, opened]
  · simp [restName?_eq_none unnamed, opened]
  · simp [restName?_eq_none unnamed, opened]

theorem isSome_scope?_iff (node : SyntaxNode) :
    node.scope?.isSome ↔ node.spaceName?.isSome ∨ node.IsPassage := by
  rcases node.scope?_cases with ⟨kind, opened⟩ | ⟨kind, opened⟩ | ⟨passage, unnamed, opened⟩ |
    ⟨closed, unnamed, opened⟩
  · simp [spaceName?, kind, opened]
  · simp [spaceName?, kind, opened]
  · simp [passage, opened]
  · simp [closed, unnamed, opened]

theorem ofGrammarSymbol?_eq_lookup (symbol : String) :
    TypeKind.ofGrammarSymbol? symbol = typeSymbols.lookup symbol := by
  unfold TypeKind.ofGrammarSymbol?
  split
  case h_8 noClass noStruct noRecord noRecordStruct noInterface noEnum noDelegate =>
    simp [typeSymbols, List.lookup_cons, beq_eq_false_iff_ne.2 noClass,
      beq_eq_false_iff_ne.2 noStruct, beq_eq_false_iff_ne.2 noRecord,
      beq_eq_false_iff_ne.2 noRecordStruct, beq_eq_false_iff_ne.2 noInterface,
      beq_eq_false_iff_ne.2 noEnum, beq_eq_false_iff_ne.2 noDelegate]
  all_goals rfl

theorem attributes_children (node : SyntaxNode) :
    attributes node.children = node.attributeNames.map Attribute.mk := by
  have inList : ∀ items : List SyntaxNode,
      ((items.filter fun node => node.kind == "attribute").filterMap fun node =>
        node.name.map fun name => (⟨Text.compact name⟩ : Attribute)) =
      items.flatMap fun item =>
        if item.kind = "attribute" then (item.name.toList.map visible).map Attribute.mk
        else [] := by
    intro items
    induction items with
    | nil => rfl
    | cons item rest inductionHypothesis =>
        rw [List.flatMap_cons, ← inductionHypothesis, List.filter_cons]
        by_cases kind : item.kind = "attribute"
        · rcases name : item.name with _ | text
          · simp [kind, name]
          · simp [kind, name]
            rfl
        · simp [kind]
  rw [attributes, attributeNames, List.map_flatMap]
  induction node.children with
  | nil => rfl
  | cons list rest inductionHypothesis =>
      rw [List.flatMap_cons, ← inductionHypothesis, List.filter_cons]
      by_cases kind : list.kind = "attribute_list"
      · simp [kind, inList, List.map_flatMap, apply_ite (List.map Attribute.mk)]
      · simp [kind]

theorem decl?_of_inline {node : SyntaxNode} (opened : node.scope? = some .inline) :
    node.decl? = none := by
  have kinds : ∀ symbol kind, typeSymbols.lookup symbol = some kind →
      symbol ≠ "declaration_list" ∧ symbol ≠ "ERROR" ∧ isConditional symbol = false := by
    intro symbol kind found
    have all : ∀ entry ∈ typeSymbols, entry.1 ≠ "declaration_list" ∧ entry.1 ≠ "ERROR" ∧
        isConditional entry.1 = false := by decide
    obtain ⟨before, after, shape, -⟩ := List.lookup_eq_some_iff.1 found
    exact all (symbol, kind) (by simp [shape])
  have passage : node.IsPassage := by
    rcases node.scope?_cases with ⟨-, other⟩ | ⟨-, other⟩ | ⟨passage, -⟩ | ⟨-, -, other⟩
    · cases opened.symm.trans other
    · cases opened.symm.trans other
    · exact passage
    · cases opened.symm.trans other
  rw [decl?, ofGrammarSymbol?_eq_lookup]
  rcases found : typeSymbols.lookup node.kind with _ | kind
  · rfl
  · obtain ⟨noBody, noError, plain⟩ := kinds node.kind kind found
    rw [IsPassage, ← isConditional_iff, plain] at passage
    simp [noBody, noError] at passage

/-- What a node that is not entered declares is said by its kind, its name, its attribute lists and
its row. -/
theorem declaredType?_eq (node : SyntaxNode) : node.declaredType? = node.decl? := by
  rw [declaredType?, decl?, ofGrammarSymbol?_eq_lookup]
  congr 1
  funext kind
  simp only [typeDecl?, compactName_eq, attributes_children, String.isEmpty_iff]

theorem paths_eq (node : SyntaxNode) : node.paths = [] :: pathsFrom 0 node.children := by
  cases node
  rfl

theorem exists_cons_of_mem_pathsFrom {start : Nat} {nodes : List SyntaxNode} {path : List Nat}
    (membership : path ∈ pathsFrom start nodes) :
    ∃ i tail, path = i :: tail ∧ start ≤ i := by
  induction nodes generalizing start with
  | nil => cases membership
  | cons node rest inductionHypothesis =>
      rcases List.mem_append.1 membership with first | later
      · obtain ⟨tail, -, rfl⟩ := List.mem_map.1 first
        exact ⟨start, tail, rfl, Nat.le_refl start⟩
      · obtain ⟨i, tail, rfl, bound⟩ := inductionHypothesis later
        exact ⟨i, tail, rfl, by omega⟩

theorem chainTo_cons (own : Option String) (node : SyntaxNode) (i : Nat) (path : List Nat) :
    node.chainTo own (i :: path) = own.toList ++ node.chainTo none (i :: path) := by
  simp only [chainTo, Option.toList_none, List.nil_append, List.append_assoc]

section Child

variable {node child : SyntaxNode} {before rest : List SyntaxNode}

theorem rowAt_child (shape : node.children = before ++ child :: rest) :
    node.rowAt [before.length] = child.declaration?.map
      fun declared => ((node.restBefore? before.length).toList, declared) := by
  have found : node.children[before.length]? = some child := by simp [shape]
  simp [rowAt, reaches, at?, chainTo, found]

theorem rowAt_below {scope : Scope} (shape : node.children = before ++ child :: rest)
    (opened : child.scope? = some scope) (i : Nat) (path : List Nat) :
    node.rowAt (before.length :: i :: path) = (child.rowAt (i :: path)).map fun row =>
      ((node.restBefore? before.length).toList ++ child.spaceName?.toList ++ row.1, row.2) := by
  have found : node.children[before.length]? = some child := by simp [shape]
  have chain : node.chainTo none (before.length :: i :: path) =
      (node.restBefore? before.length).toList ++ child.spaceName?.toList ++
        child.chainTo none (i :: path) := by
    rw [chainTo, found, Option.elim_some, chainTo_cons child.spaceName?]
    simp
  have target : node.at? (before.length :: i :: path) = child.at? (i :: path) := by
    rw [at?, found, Option.bind_some]
  have reached : node.reaches (before.length :: i :: path) = child.reaches (i :: path) := by
    have entered := child.isSome_scope?_iff.1 (by simp [opened])
    simp [reaches, found, entered]
  rw [rowAt, rowAt, chain, target, reached]
  split
  · rw [Option.map_map]
    rfl
  · rfl

/-- Nothing below a child that is not entered is reached. -/
theorem rowAt_closed (shape : node.children = before ++ child :: rest)
    (closed : child.scope? = none) (i : Nat) (path : List Nat) :
    node.rowAt (before.length :: i :: path) = none := by
  have found : node.children[before.length]? = some child := by simp [shape]
  have notEntered := mt child.isSome_scope?_iff.2 (by simp [closed])
  simp [rowAt, reaches, found, notEntered]

theorem restBefore?_child (shape : node.children = before ++ child :: rest) :
    node.restBefore? before.length =
      if child.restName?.isSome then none else (before.filterMap restName?).getLast? := by
  simp [restBefore?, shape]

theorem filterMap_rowAt_child {scope : Scope} {chain : List String}
    (shape : node.children = before ++ child :: rest) (opened : child.scope? = some scope)
    (inside : rowsOf (chain ++ (node.restBefore? before.length).toList ++ child.spaceName?.toList)
        (gatherAll child.children).members =
      (pathsFrom 0 child.children).filterMap (child.rowWithin
        (chain ++ (node.restBefore? before.length).toList ++ child.spaceName?.toList))) :
    (child.paths.map (before.length :: ·)).filterMap (node.rowWithin chain) =
      (child.spaceName?.map fun name =>
        (chain ++ (node.restBefore? before.length).toList, Declaration.space name)).toList ++
        rowsOf (chain ++ (node.restBefore? before.length).toList ++ child.spaceName?.toList)
          (gatherAll child.children).members := by
  have itself : child.declaration? = child.spaceName?.map .space := by
    cases scope with
    | inline =>
        simp [declaration?, spaceName?_eq, declaredType?_eq, opened, decl?_of_inline opened]
    | block name | fileScoped name => simp [declaration?, spaceName?_eq, opened]
  have below : ∀ path ∈ pathsFrom 0 child.children,
      node.rowWithin chain (before.length :: path) = child.rowWithin
        (chain ++ (node.restBefore? before.length).toList ++ child.spaceName?.toList) path := by
    intro path membership
    obtain ⟨i, tail, rfl, -⟩ := exists_cons_of_mem_pathsFrom membership
    rw [rowWithin, rowWithin, rowAt_below shape opened, Option.map_map]
    simp only [Function.comp_def, List.append_assoc]
  rw [inside, paths_eq, List.map_cons, List.filterMap_cons, List.filterMap_map, rowWithin,
    rowAt_child shape, itself, Function.comp_def, List.filterMap_congr below]
  rcases child.spaceName? with _ | name <;> rfl

theorem filterMap_rowAt_closed {chain : List String}
    (shape : node.children = before ++ child :: rest) (closed : child.scope? = none) :
    (child.paths.map (before.length :: ·)).filterMap (node.rowWithin chain) =
      rowsOf (chain ++ (node.restBefore? before.length).toList)
        (child.decl?.map Member.type).toList := by
  have below : ∀ path ∈ pathsFrom 0 child.children,
      node.rowWithin chain (before.length :: path) = none := by
    intro path membership
    obtain ⟨i, tail, rfl, -⟩ := exists_cons_of_mem_pathsFrom membership
    rw [rowWithin, rowAt_closed shape closed, Option.map_none]
  have unnamed : child.spaceName? = none := by simp [spaceName?_eq, closed]
  rw [paths_eq, List.map_cons, List.filterMap_cons, List.filterMap_map, rowWithin,
    rowAt_child shape, Function.comp_def, List.filterMap_eq_nil_iff.2 below, declaration?, unnamed,
    declaredType?_eq]
  rcases child.decl? with _ | decl <;> rfl

end Child

theorem rowsOf_gatherAll (node : SyntaxNode) (before : List SyntaxNode) (chain : List String) :
    ∀ nodes : List SyntaxNode, node.children = before ++ nodes →
      rowsOf (chain ++ (before.filterMap restName?).getLast?.toList) (gatherAll nodes).front ++
          rowsOf chain (gatherAll nodes).spaces =
        (pathsFrom before.length nodes).filterMap (node.rowWithin chain)
  | [], _ => rfl
  | child :: rest, shape => by
      have following := rowsOf_gatherAll node (before ++ [child]) chain rest (by simp [shape])
      have restBefore := restBefore?_child shape
      rw [gatherAll, pathsFrom, List.filterMap_append]
      rw [List.length_append, List.length_singleton] at following
      rw [← following, List.filterMap_append]
      rcases opened : child.scope? with _ | scope
      · have noName : child.restName? = none := by simp [restName?_eq, opened]
        rw [gather_of_no_scope _ opened, filterMap_rowAt_closed shape opened, restBefore]
        simp [noName, Gathered.behind, rowsOf_append]
      · have inside := rowsOf_gatherAll child []
          (chain ++ (node.restBefore? before.length).toList ++ child.spaceName?.toList)
          child.children rfl
        simp only [List.filterMap_nil, List.getLast?_nil, Option.toList_none, List.append_nil,
          ← rowsOf_append, List.length_nil] at inside
        rw [gather_of_scope _ opened, filterMap_rowAt_child shape opened inside, restBefore]
        cases scope with
        | inline =>
            have noName : child.restName? = none := by simp [restName?_eq, opened]
            have noSpace : child.spaceName? = none := by simp [spaceName?_eq, opened]
            simp [noName, noSpace, Gathered.enclose, Gathered.behind, rowsOf_append]
        | block name =>
            have noName : child.restName? = none := by simp [restName?_eq, opened]
            have space : child.spaceName? = some name := by simp [spaceName?_eq, opened]
            simp [noName, space, Gathered.enclose, Gathered.behind, rowsOf, Member.rows]
        | fileScoped name =>
            have restName : child.restName? = some name := by simp [restName?_eq, opened]
            have space : child.spaceName? = some name := by simp [spaceName?_eq, opened]
            simp [restName, space, Gathered.enclose, rowsOf, rowsOf_append, Member.rows]
termination_by nodes => sizeOf nodes
decreasing_by
  · simp only [List.cons.sizeOf_spec]
    omega
  · have bound := child.sizeOf_children_lt
    simp only [List.cons.sizeOf_spec]
    omega

/-- The rows of a file are those of its paths. -/
theorem rowsOf_members (root : SyntaxNode) :
    rowsOf [] root.members = root.paths.filterMap root.rowAt := by
  have rows := rowsOf_gatherAll root [] [] root.children rfl
  have same : root.rowWithin [] = root.rowAt := by
    funext path
    simp [rowWithin]
  have root : root.rowAt [] = none := rfl
  simp only [List.filterMap_nil, List.getLast?_nil, Option.toList_none, List.append_nil,
    ← rowsOf_append, List.length_nil, same] at rows
  rw [members_eq, paths_eq, List.filterMap_cons, root]
  exact rows

theorem cons_mem_pathsFrom_iff {start i : Nat} {nodes : List SyntaxNode} {path : List Nat} :
    i :: path ∈ pathsFrom start nodes ↔
      start ≤ i ∧ ∃ node, nodes[i - start]? = some node ∧ path ∈ node.paths := by
  induction nodes generalizing start with
  | nil => simp [pathsFrom]
  | cons node rest inductionHypothesis =>
      rw [pathsFrom, List.mem_append, inductionHypothesis]
      simp only [List.mem_map, List.cons.injEq]
      constructor
      · rintro (⟨tail, membership, rfl, rfl⟩ | ⟨bound, other, found, membership⟩)
        · exact ⟨Nat.le_refl _, node, by simp, membership⟩
        · refine ⟨by omega, other, ?_, membership⟩
          rwa [show i - start = i - (start + 1) + 1 by omega, List.getElem?_cons_succ]
      · rintro ⟨bound, other, found, membership⟩
        rcases Nat.eq_or_lt_of_le bound with rfl | above
        · simp only [Nat.sub_self, List.getElem?_cons_zero, Option.some.injEq] at found
          exact .inl ⟨path, found ▸ membership, rfl, rfl⟩
        · rw [show i - start = i - (start + 1) + 1 by omega, List.getElem?_cons_succ] at found
          exact .inr ⟨above, other, found, membership⟩

theorem mem_paths_iff {node : SyntaxNode} {path : List Nat} :
    path ∈ node.paths ↔ (node.at? path).isSome := by
  induction path generalizing node with
  | nil => simp [paths_eq, at?]
  | cons i path inductionHypothesis =>
      rw [paths_eq, List.mem_cons, cons_mem_pathsFrom_iff, at?]
      rcases found : node.children[i]? with _ | child <;> simp [inductionHypothesis]

theorem pathsFrom_sorted : ∀ (nodes : List SyntaxNode) (start : Nat),
    (pathsFrom start nodes).Pairwise (· < ·)
  | [], _ => .nil
  | node :: rest, start => by
      have below := pathsFrom_sorted node.children 0
      rw [pathsFrom, List.pairwise_append, List.pairwise_map, paths_eq, List.pairwise_cons]
      refine ⟨⟨fun path membership => ?_, ?_⟩, pathsFrom_sorted rest (start + 1), ?_⟩
      · obtain ⟨i, tail, rfl, -⟩ := exists_cons_of_mem_pathsFrom membership
        exact List.cons_lt_cons_iff.2 (.inr ⟨rfl, List.nil_lt_cons i tail⟩)
      · exact below.imp fun less => List.cons_lt_cons_iff.2 (.inr ⟨rfl, less⟩)
      · intro first here second later
        obtain ⟨path, -, rfl⟩ := List.mem_map.1 here
        obtain ⟨i, tail, rfl, bound⟩ := exists_cons_of_mem_pathsFrom later
        exact List.cons_lt_cons_iff.2 (.inl bound)
termination_by nodes => sizeOf nodes
decreasing_by
  · have bound := node.sizeOf_children_lt
    simp only [List.cons.sizeOf_spec]
    omega
  · simp only [List.cons.sizeOf_spec]
    omega

/-- A node comes before what is in it, and that before what follows the node. -/
theorem paths_sorted (node : SyntaxNode) : node.paths.Pairwise (· < ·) := by
  rw [paths_eq, List.pairwise_cons]
  refine ⟨fun path membership => ?_, pathsFrom_sorted node.children 0⟩
  obtain ⟨i, tail, rfl, -⟩ := exists_cons_of_mem_pathsFrom membership
  exact List.nil_lt_cons i tail

/-- The forest of a file lists what is declared at the paths that lead to a node, in document
order: each type and namespace that is reached once, with the namespaces around it. -/
theorem members_list_reached (root : SyntaxNode) :
    rowsOf [] root.members = root.paths.filterMap root.rowAt ∧
      root.paths.Pairwise (· < ·) ∧
      ∀ path, path ∈ root.paths ↔ (root.at? path).isSome :=
  ⟨rowsOf_members root, paths_sorted root, fun _ => mem_paths_iff⟩

end SyntaxNode

end Registrar
