import Registrar.Proofs.Source.Printing
import Registrar.Proofs.Syntax.Declaration

/-!
# Parsing printed declarations

The headers of a printed forest declare its namespaces and types, and each member adds its node to
the scope around it.
-/

set_option autoImplicit false

namespace Registrar

open Syntax

namespace Identifier

theorem isName (name : Identifier) : IsName name.text.toList :=
  isName_of_isAsciiIdentifier name.isAscii

theorem isIdentifier (name : Identifier) (gap : String) (row : Nat) :
    Token.isIdentifier ⟨.word, gap, name.text, row⟩ = true := by
  simp [Token.isIdentifier, name.isFree]

theorem isPlain (name : Identifier) (gap : String) (row : Nat) :
    Token.IsPlain ⟨.word, gap, name.text, row⟩ := .name rfl name.isName

end Identifier

namespace DottedName

variable (name : DottedName) (gap : String) (row : Nat)

theorem isPlain_of_mem_dotTokens (row : Nat) (parts : List Identifier) :
    ∀ token ∈ dotTokens row parts, token.IsPlain := by
  induction parts with
  | nil => nofun
  | cons part rest inductionHypothesis =>
      rw [dotTokens, List.forall_mem_cons, List.forall_mem_cons]
      exact ⟨.dot "" row, part.isPlain "" row, inductionHypothesis⟩

theorem isPlain_of_mem_tokens : ∀ token ∈ name.tokens gap row, token.IsPlain := by
  rw [tokens, List.forall_mem_cons]
  exact ⟨name.first.isPlain gap row, isPlain_of_mem_dotTokens row name.rest⟩

theorem cutName_dotTokens (row : Nat) (parts : List Identifier) :
    cutName .separator (dotTokens row parts) = (dotTokens row parts, [], .separator) := by
  induction parts with
  | nil => rfl
  | cons part rest inductionHypothesis =>
      simp [dotTokens, cutName, Token.is, part.isIdentifier, inductionHypothesis]

theorem cutName_tokens :
    cutName .identifier (name.tokens gap row) = (name.tokens gap row, [], .separator) := by
  simp [tokens, cutName, name.first.isIdentifier, cutName_dotTokens]

theorem sourceText_tokens : Token.sourceText (name.tokens gap row) = name.text := by
  have dots : ∀ parts, (String.join ((dotTokens row parts).map fun token =>
      token.gap ++ token.text)).toList = dotChars parts := by
    intro parts
    induction parts with
    | nil => rfl
    | cons part rest inductionHypothesis =>
        simpa [dotTokens, dotChars] using inductionHypothesis
  rw [← String.toList_inj, name.toList_text, tokens, Token.sourceText, String.toList_append, dots]

def node : SyntaxNode := .mk "attribute" (some name.text) row []

theorem readAttribute?_tokens :
    readAttribute? (name.tokens gap row) = some (name.node row) := by
  have begins : (name.tokens gap row).head? = some ⟨.word, gap, name.first.text, row⟩ := rfl
  rw [readAttribute?, cutName_tokens]
  simp [sourceText_tokens, node, begins]

theorem readAttributes?_tokens :
    readAttributes? (name.tokens gap row) = some [name.node row] := by
  have plain := name.isPlain_of_mem_tokens gap row
  have noTarget : ∀ target colon rest,
      name.tokens gap row = target :: colon :: rest → colon.is ":" = false := by
    intro target colon rest shape
    exact (plain colon (by simp [shape])).colon
  have noComma : ∀ token ∈ name.tokens gap row, token.is "," = false :=
    fun token membership => (plain token membership).comma
  rw [readAttributes?_of_single noTarget noComma, readAttribute?_tokens, Option.map_some]

def listNode (row : Nat) (name : DottedName) : SyntaxNode :=
  .mk "attribute_list" none row [name.node row]

end DottedName

variable (kind : TypeKind) (name : Identifier) (row : Nat)

theorem readAttributeLists_header (gap : String) (attrs : List DottedName) :
    ∃ before, readAttributeLists (headerTokens kind name row gap attrs) =
      ⟨attrs.map (DottedName.listNode row), true,
        [⟨.word, before, kind.keyword, row⟩, ⟨.word, " ", name.text, row⟩]⟩ := by
  induction attrs generalizing gap with
  | nil =>
      have noList : Token.is ⟨.word, gap, kind.keyword, row⟩ "[" = false := by
        cases kind <;> simp [Token.is, TypeKind.keyword]
      exact ⟨gap, readAttributeLists_plain (by simp) noList⟩
  | cons attr rest inductionHypothesis =>
      obtain ⟨before, further⟩ := inductionHypothesis " "
      have enclosed := Token.IsPlain.enclosed (attr.isPlain_of_mem_tokens "" row)
      have cut : cutGroup 0 (attr.tokens "" row ++
          ⟨.symbol, "", "]", row⟩ :: headerTokens kind name row " " rest) =
          some (attr.tokens "" row, headerTokens kind name row " " rest) := by
        rw [enclosed.cutGroup_append]
        simp [cutGroup, Token.isClosing, Token.is]
      refine ⟨before, ?_⟩
      rw [headerTokens, readAttributeLists_list rfl cut (attr.readAttributes?_tokens "" row),
        further]
      rfl

theorem ofType_name (attributed : Attributed) (wellFormed : attributed.wellFormed = true) :
    Header.ofType kind attributed [⟨.word, " ", name.text, row⟩] =
      .type kind (some name.text) attributed.nodes true := by
  simp [Header.ofType, name.isIdentifier, wellFormed, Header.fitsBehindName,
    Header.dropTypeParameters, Header.dropParameters]

theorem ofAttributed_type (before : String) (hasBody : kind ≠ .delegateType)
    (nodes : List SyntaxNode) :
    Header.ofAttributed ⟨nodes, true,
        [⟨.word, before, kind.keyword, row⟩, ⟨.word, " ", name.text, row⟩]⟩ =
      .type kind (some name.text) nodes true := by
  cases kind with
  | delegateType => exact absurd rfl hasBody
  | recordType =>
      have noKeyword : name.text ≠ "class" ∧ name.text ≠ "struct" := by
        constructor
        · intro same
          exact name.isFree (same ▸ by decide)
        · intro same
          exact name.isFree (same ▸ by decide)
      simp [Header.ofAttributed, Token.isModifier, Token.modifiers, Token.is, TypeKind.keyword,
        Header.ofRecord, noKeyword, name.isIdentifier, Header.mayFollowName, ofType_name]
  | _ =>
      simp [Header.ofAttributed, Token.isModifier, Token.modifiers, Token.is, TypeKind.keyword,
        Header.typeKeyword?, ofType_name]

theorem startRow_header (gap : String) (attrs : List DottedName) :
    Header.startRow (headerTokens kind name row gap attrs) = row := by
  cases attrs <;> rfl

/-- The header of a printed type declares it. -/
theorem read_header (gap : String) (hasBody : kind ≠ .delegateType) (attrs : List DottedName) :
    Header.read (headerTokens kind name row gap attrs) =
      (.type kind (some name.text) (attrs.map (DottedName.listNode row)) true, row) := by
  obtain ⟨before, lists⟩ := readAttributeLists_header kind name row gap attrs
  rw [Header.read, lists, ofAttributed_type kind name row before hasBody, startRow_header]

theorem heading_header (gap : String) (attrs : List DottedName) :
    Heading (headerTokens kind name row gap attrs) := by
  induction attrs generalizing gap with
  | nil =>
      have keyword : IsName kind.keyword.toList :=
        isName_of_isAsciiIdentifier (Lexer.Legible.keyword kind)
      apply Heading.of_plain
      intro token membership
      simp only [headerTokens, List.mem_cons, List.not_mem_nil, or_false] at membership
      rcases membership with rfl | rfl
      · exact .name rfl keyword
      · exact name.isPlain " " row
  | cons attr rest inductionHypothesis =>
      exact .list rfl rfl (attr.isPlain_of_mem_tokens "" row) (inductionHypothesis " ")

theorem read_space (name : DottedName) (row : Nat) (gap : String) :
    Header.read (spaceTokens name row gap) = (.space name.text true, row) := by
  have lists : readAttributeLists (spaceTokens name row gap) =
      ⟨[], true, spaceTokens name row gap⟩ :=
    readAttributeLists_plain (by simp) (by simp [Token.is])
  have declared : Header.ofAttributed ⟨[], true, spaceTokens name row gap⟩ =
      .space name.text true := by
    simp [Header.ofAttributed, spaceTokens, Token.isModifier, Token.modifiers, Token.is,
      Header.ofSpace, name.cutName_tokens, name.sourceText_tokens]
  rw [Header.read, lists, declared]
  rfl

theorem heading_space (name : DottedName) (row : Nat) (gap : String) :
    Heading (spaceTokens name row gap) := by
  have keyword : IsName "namespace".toList := by decide
  apply Heading.of_plain
  intro token membership
  rcases List.mem_cons.1 membership with rfl | later
  · exact .name rfl keyword
  · exact name.isPlain_of_mem_tokens " " row token later

mutual

def PlainMember.node (row : Nat) : PlainMember → SyntaxNode
  | .type type =>
      .mk type.kind.symbol (some type.name.text) row
        (type.attributes.map (DottedName.listNode row) ++ [.mk "declaration_list" none row []])
  | .space name members =>
      .mk "namespace_declaration" (some name.text) row
        [.mk "declaration_list" none row (memberNodes (row + 1) members)]

def memberNodes (row : Nat) : List PlainMember → List SyntaxNode
  | [] => []
  | member :: rest => member.node row :: memberNodes (row + member.printed.length) rest

end

mutual

/-- A printed member adds its node to the scope around it. -/
theorem PlainMember.adds : ∀ (member : PlainMember) (gap : String) (row : Nat),
    Outline.Adds (member.tokens gap row) [member.node row]
  | .type type, gap, row => by
      have heading := heading_header type.kind type.name row gap type.attributes
      have read := read_header type.kind type.name row gap type.hasBody type.attributes
      rw [PlainMember.tokens, PlainMember.node]
      exact .type heading type.hasBody read rfl rfl
  | .space name members, gap, row => by
      have inside := adds_members members "\n" (row + 1)
      rw [PlainMember.tokens, PlainMember.node]
      exact .space (heading_space name row gap) (read_space name row gap) rfl rfl inside

theorem adds_members : ∀ (members : List PlainMember) (gap : String) (row : Nat),
    Outline.Adds (memberTokens gap row members) (memberNodes row members)
  | [], _, _ => by
      rw [memberTokens, memberNodes]
      exact .nil
  | member :: rest, gap, row => by
      rw [memberTokens, memberNodes]
      exact (member.adds gap row).append (adds_members rest "\n" _)

end

end Registrar
