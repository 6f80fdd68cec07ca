import Mathlib.Logic.Basic
import Registrar.Syntax.Header

/-!
# What headers declare

A header that declares a type takes the attributes from lists at the beginning of one of its ends.
Where each list of a header is known as a whole, only attributes of these lists are declared.
-/

set_option autoImplicit false

namespace Registrar.Syntax

namespace Header

variable {attributed : Attributed} {tokens : List Token} {kind kind' : TypeKind}
  {name : Option String} {nodes : List SyntaxNode} {fits : Bool}

theorem of_type {name' : Option String} {complete : Bool}
    (read : type kind' name' attributed.nodes complete = .type kind name nodes fits) :
    nodes = attributed.nodes := by
  simp only [type.injEq] at read
  exact read.2.2.1.symm

theorem of_ofType (read : ofType kind' attributed tokens = .type kind name nodes fits) :
    nodes = attributed.nodes := by
  unfold ofType at read
  split at read
  · split at read
    · exact of_type read
    · exact of_type read
  · exact of_type read

theorem of_ofRecord (read : ofRecord attributed tokens = .type kind name nodes fits) :
    nodes = attributed.nodes := by
  unfold ofRecord at read
  simp only at read
  split at read
  · split at read
    · exact of_ofType read
    · cases read
  · cases read

theorem of_ofDelegate (read : ofDelegate attributed tokens = .type kind name nodes fits) :
    nodes = attributed.nodes := by
  rw [ofDelegate] at read
  split at read
  · split at read
    · exact of_type read
    · exact of_type read
  · cases read

theorem of_ofAttributed (read : ofAttributed attributed = .type kind name nodes fits) :
    nodes = attributed.nodes := by
  rw [ofAttributed] at read
  split at read
  · cases read
  · split at read
    · cases read
    split at read
    · exact of_ofRecord read
    split at read
    · exact of_ofDelegate read
    split at read
    · cases read
    split at read
    · split at read <;> cases read
    split at read
    · exact of_ofType read
    · cases read

theorem suffix_of_resume? {previous : Option Token} {later : List Token}
    (found : resume? previous tokens = some later) : later <:+ tokens := by
  induction tokens generalizing previous with
  | nil => cases found
  | cons token rest inductionHypothesis =>
      rw [resume?] at found
      rcases ite_eq_iff.1 found with ⟨-, here⟩ | ⟨-, further⟩
      · cases here
        exact List.suffix_refl _
      · exact (inductionHypothesis further).trans (List.suffix_cons token rest)

end Header

theorem suffix_of_cutGroup {depth : Nat} {tokens inner behind : List Token}
    (cut : cutGroup depth tokens = some (inner, behind)) : behind <:+ tokens := by
  induction tokens generalizing depth inner with
  | nil => cases cut
  | cons token rest inductionHypothesis =>
      have later : ∀ {depth : Nat} {inside : List Token},
          cutGroup depth rest = some (inside, behind) → behind <:+ token :: rest :=
        fun further => (inductionHypothesis further).trans (List.suffix_cons token rest)
      rw [cutGroup] at cut
      split at cut
      · split at cut
        · obtain ⟨-, rfl⟩ := Prod.mk.inj (Option.some.inj cut)
          exact List.suffix_cons token rest
        · obtain ⟨⟨inside, left⟩, further, same⟩ := Option.map_eq_some_iff.1 cut
          obtain ⟨-, rfl⟩ := Prod.mk.inj same
          exact later further
      · obtain ⟨⟨inside, left⟩, further, same⟩ := Option.map_eq_some_iff.1 cut
        obtain ⟨-, rfl⟩ := Prod.mk.inj same
        exact later further

/-- A header that declares a type reads its attributes from an end of the header. -/
theorem Header.exists_of_read {tokens : List Token} {kind : TypeKind} {name : Option String}
    {nodes : List SyntaxNode} {fits : Bool} {row : Nat}
    (read : Header.read tokens = (.type kind name nodes fits, row)) :
    ∃ later, later <:+ tokens ∧ nodes = (readAttributeLists later).nodes := by
  rw [Header.read] at read
  split at read
  · split at read
    · cases read
    · rename_i later found
      simp only [Prod.mk.injEq] at read
      obtain ⟨read, -⟩ := read
      split at read
      · cases read
      · rename_i kind' name' nodes' fits' inside
        simp only [type.injEq] at read
        obtain ⟨rfl, rfl, rfl, -⟩ := read
        exact ⟨later, suffix_of_resume? found, of_ofAttributed inside⟩
      · cases read
  · obtain ⟨inside, -⟩ := Prod.mk.inj read
    exact ⟨tokens, List.suffix_refl _, of_ofAttributed inside⟩

/-- Tokens whose brackets are round and come in pairs. -/
inductive Enclosed : List Token → Prop where
  | nil : Enclosed []
  | plain {token rest} : token.kind ≠ .stray → token.kind ≠ .directive →
      token.isOpening = false → token.isClosing = false → Enclosed rest → Enclosed (token :: rest)
  | round {opening inner closing rest} : opening.kind = .symbol → opening.is "(" = true →
      closing.kind = .symbol → closing.is ")" = true → Enclosed inner → Enclosed rest →
      Enclosed (opening :: (inner ++ closing :: rest))

theorem Token.isOpening_of_is {token : Token} (round : token.is "(" = true) :
    token.isOpening = true := by
  rw [Token.isOpening, round]
  rfl

theorem Token.isClosing_of_is {token : Token} (round : token.is ")" = true) :
    token.isClosing = true := by
  rw [Token.isClosing, round]
  rfl

theorem Token.isClosing_eq_false_of_isOpening {token : Token} (opening : token.isOpening = true) :
    token.isClosing = false := by
  simp only [Token.isOpening, Token.is, Bool.or_eq_true, beq_iff_eq] at opening
  rcases opening with (text | text) | text <;> simp [Token.isClosing, Token.is, text]

/-- Nothing that is enclosed closes a group around it. -/
theorem Enclosed.cutGroup_append {tokens : List Token} (enclosed : Enclosed tokens) (depth : Nat)
    (rest : List Token) :
    cutGroup depth (tokens ++ rest) =
      (cutGroup depth rest).map fun (inner, behind) => (tokens ++ inner, behind) := by
  induction enclosed generalizing depth rest with
  | nil => simp
  | plain _ _ opens closes _ inductionHypothesis =>
      rw [List.cons_append, cutGroup, closes, opens, if_neg (by simp), if_neg (by simp),
        inductionHypothesis, Option.map_map]
      rfl
  | @round opening inner closing more _ opens _ closes _ _ inside behind =>
      have opening' := Token.isOpening_of_is opens
      have closing' := Token.isClosing_of_is closes
      have passes : cutGroup (depth + 1) (closing :: (more ++ rest)) =
          (cutGroup depth (more ++ rest)).map fun (inner, behind) =>
            (closing :: inner, behind) := by
        rw [cutGroup, closing']
        rfl
      rw [List.cons_append, List.append_assoc, List.cons_append, cutGroup,
        Token.isClosing_eq_false_of_isOpening opening', opening', if_neg (by simp), if_pos rfl,
        inside, passes, behind]
      simp [Option.map_map, Function.comp_def]

/-- The tokens between the brackets of a list that holds only attributes of a kind. -/
structure Listing (allowed : Attribute → Prop) (inner : List Token) : Prop where
  enclosed : Enclosed inner
  sound : ∀ row nodes, readAttributes? inner = some nodes →
    ∀ attr ∈ SyntaxNode.attributes [.mk "attribute_list" none row nodes], allowed attr

/-- Each square bracket of a header begins a list that holds only attributes of a kind. -/
def Listed (allowed : Attribute → Prop) (header : List Token) : Prop :=
  ∀ before bracket after, header = before ++ bracket :: after → bracket.is "[" = true →
    ∃ inner closing behind, after = inner ++ closing :: behind ∧ closing.is "]" = true ∧
      Listing allowed inner

namespace Listed

variable {allowed : Attribute → Prop} {header : List Token}

theorem nil : Listed allowed [] := by
  intro before bracket after shape
  simp at shape

theorem suffix {later : List Token} (listed : Listed allowed header) (part : later <:+ header) :
    Listed allowed later := by
  obtain ⟨earlier, rfl⟩ := part
  intro before bracket after shape opens
  exact listed (earlier ++ before) bracket after (by simp [shape]) opens

theorem push (listed : Listed allowed header) {token : Token} (plain : token.is "[" = false) :
    Listed allowed (header ++ [token]) := by
  intro before bracket after shape opens
  rcases List.eq_nil_or_concat after with rfl | ⟨middle, last, rfl⟩
  · obtain ⟨-, same⟩ := List.append_inj' shape rfl
    rw [List.cons.inj same |>.1, opens] at plain
    cases plain
  · have split : header ++ [token] = (before ++ bracket :: middle) ++ [last] := by simp [shape]
    obtain ⟨rfl, same⟩ := List.append_inj' split rfl
    obtain ⟨inner, closing, behind, rfl, closes, listing⟩ := listed before bracket middle rfl opens
    exact ⟨inner, closing, behind ++ [last], by simp, closes, listing⟩

end Listed

theorem Enclosed.is_eq_false {tokens : List Token} (enclosed : Enclosed tokens) :
    ∀ token ∈ tokens, token.is "[" = false := by
  induction enclosed with
  | nil => nofun
  | plain _ _ opens _ _ inductionHypothesis =>
      intro other membership
      rcases List.mem_cons.1 membership with rfl | later
      · simp only [Token.isOpening, Bool.or_eq_false_iff] at opens
        exact opens.1.2
      · exact inductionHypothesis other later
  | round _ opens _ closes _ _ inside behind =>
      intro other membership
      rw [List.mem_cons, List.mem_append, List.mem_cons] at membership
      rw [Token.is, beq_iff_eq] at opens closes
      rcases membership with rfl | among | rfl | later
      · simp [Token.is, opens]
      · exact inside other among
      · simp [Token.is, closes]
      · exact behind other later

namespace Listed

variable {allowed : Attribute → Prop} {header : List Token}

theorem list (listed : Listed allowed header) {opening closing : Token} {inner : List Token}
    (closes : closing.is "]" = true) (listing : Listing allowed inner) :
    Listed allowed (header ++ opening :: (inner ++ [closing])) := by
  intro before bracket after shape opens
  have plain : ∀ token ∈ inner ++ [closing], token.is "[" = false := by
    intro token membership
    rcases List.mem_append.1 membership with among | last
    · exact listing.enclosed.is_eq_false token among
    · rw [List.mem_singleton.1 last]
      rw [Token.is, beq_iff_eq] at closes
      simp [Token.is, closes]
  rcases List.append_eq_append_iff.1 shape with ⟨more, rfl, rest⟩ | ⟨more, rfl, rest⟩
  · -- the bracket stands behind the header: it is the one that opens the list
    cases more with
    | nil =>
        obtain ⟨rfl, rfl⟩ := List.cons.inj rest
        exact ⟨inner, closing, [], rfl, closes, listing⟩
    | cons first more =>
        have same : inner ++ [closing] = more ++ bracket :: after := (List.cons.inj rest).2
        have inside : bracket ∈ inner ++ [closing] := by
          rw [same]
          exact List.mem_append_right more List.mem_cons_self
        simp [plain bracket inside] at opens
  · cases more with
    | nil =>
        obtain ⟨rfl, rfl⟩ := List.cons.inj rest
        exact ⟨inner, closing, [], rfl, closes, listing⟩
    | cons first more =>
        obtain ⟨rfl, rfl⟩ := List.cons.inj rest
        obtain ⟨inside, last, behind, rfl, ends, same⟩ := listed before bracket more rfl opens
        exact ⟨inside, last, behind ++ opening :: (inner ++ [closing]), by simp, ends, same⟩

end Listed

theorem attributes_cons (node : SyntaxNode) (nodes : List SyntaxNode) :
    SyntaxNode.attributes (node :: nodes) =
      SyntaxNode.attributes [node] ++ SyntaxNode.attributes nodes := by
  simp only [SyntaxNode.attributes]
  rw [← List.flatMap_append, ← List.filter_append, List.singleton_append]

/-- The attributes in front of a declaration are those of its lists. -/
theorem allowed_of_mem_attributes {allowed : Attribute → Prop} {header : List Token}
    (listed : Listed allowed header) :
    ∀ attr ∈ SyntaxNode.attributes (readAttributeLists header).nodes, allowed attr := by
  fun_induction readAttributeLists header with
  | case1 => nofun
  | case2 token rest directive following inductionHypothesis =>
      intro attr membership
      rw [attributes_cons, List.mem_append] at membership
      rcases membership with here | later
      · cases here
      · exact inductionHypothesis (listed.suffix (List.suffix_cons token rest)) attr later
  | case3 => nofun
  | case4 token rest notDirective bracket inner behind step following attributes read
      inductionHypothesis =>
      intro attr membership
      rw [attributes_cons, List.mem_append] at membership
      obtain ⟨inside, closing, left, shape, closes, listing⟩ := listed [] token rest rfl bracket
      have cut : cutGroup 0 rest = some (inside, left) := by
        have ends : closing.isClosing = true := by
          rw [Token.is, beq_iff_eq] at closes
          simp [Token.isClosing, Token.is, closes]
        rw [shape, listing.enclosed.cutGroup_append, cutGroup, ends]
        simp
      obtain ⟨rfl, rfl⟩ := Prod.mk.inj (Option.some.inj (step.symm.trans cut))
      rcases membership with here | later
      · exact listing.sound _ _ read attr here
      · refine inductionHypothesis (listed.suffix ?_) attr later
        exact (suffix_of_cutGroup step).trans (List.suffix_cons token rest)
  | case5 token rest notDirective bracket inner behind step following read inductionHypothesis =>
      apply inductionHypothesis (listed.suffix _)
      exact (suffix_of_cutGroup step).trans (List.suffix_cons token rest)
  | case6 => nofun

end Registrar.Syntax
