import Registrar.Proofs.Decl.Types
import Registrar.Proofs.Source.Presenting
import Registrar.Proofs.Syntax.Operand
import Registrar.Source.Unit
import Registrar.Syntax.OutlineParser

/-!
# Printing and reading back

A printed forest is read back as the same forest, without an error, and each type is found on the
line on which it was printed.
-/

set_option autoImplicit false

namespace Registrar

open Syntax

theorem PlainType.isPresentedBy_node (type : PlainType) (row : Nat) :
    type.IsPresentedBy row ((PlainMember.type type).node row) := by
  refine ⟨rfl, rfl, rfl, ?_⟩
  rw [PlainMember.node, SyntaxNode.children, List.filter_append]
  induction type.attributes with
  | nil => exact .nil
  | cons attr rest inductionHypothesis =>
      exact .cons ⟨attr.node row, rfl, rfl, rfl⟩ inductionHypothesis

mutual

theorem PlainMember.isPresentedBy_node : ∀ (member : PlainMember) (row : Nat),
    member.IsPresentedBy row (member.node row)
  | .type type, row => by
      rw [PlainMember.IsPresentedBy]
      exact type.isPresentedBy_node row
  | .space name members, row => by
      rw [PlainMember.IsPresentedBy, PlainMember.node]
      exact ⟨rfl, rfl, [], _, rfl, nofun, rfl, arePresentedBy_memberNodes members (row + 1)⟩

theorem arePresentedBy_memberNodes : ∀ (members : List PlainMember) (row : Nat),
    ArePresentedBy row (memberNodes row members) members
  | [], row => by
      rw [ArePresentedBy, memberNodes]
  | member :: rest, row => by
      rw [ArePresentedBy, memberNodes]
      exact ⟨_, _, rfl, member.isPresentedBy_node row, arePresentedBy_memberNodes rest _⟩

end

namespace Orderly

variable {next : Token} {rest : List Token}

theorem isCalmWord (name : Identifier) (gap : String) (row : Nat) :
    IsCalmWord ⟨.word, gap, name.text, row⟩ := by
  have reserved : ∀ word ∈ parenthesizedKeywords, word ∈ Token.reservedWords := by decide
  exact ⟨rfl, name.isName, fun among => name.isFree (reserved _ among)⟩

theorem bracket (gap : String) (row : Nat) (text : String)
    (among : text ∈ ["[", "]", "\x7b", "\x7d"]) (orderly : Orderly rest) :
    Orderly (⟨.symbol, gap, text, row⟩ :: rest) :=
  .mark rfl among orderly

theorem dotted (gap : String) (row : Nat) (name : DottedName) (symbol : next.kind = .symbol)
    (orderly : Orderly (next :: rest)) : Orderly (name.tokens gap row ++ next :: rest) := by
  have dots : ∀ parts, ∃ head tail, dotTokens row parts ++ next :: rest = head :: tail ∧
      head.kind = .symbol ∧ Orderly (head :: tail) := by
    intro parts
    induction parts with
    | nil => exact ⟨next, rest, rfl, symbol, orderly⟩
    | cons part others inductionHypothesis =>
        obtain ⟨head, tail, same, symbol, behind⟩ := inductionHypothesis
        rw [dotTokens, List.cons_append, List.cons_append, same]
        exact ⟨_, _, rfl, rfl, .dot rfl rfl rfl (.name (isCalmWord part "" row) symbol behind)⟩
  obtain ⟨head, tail, same, symbol, behind⟩ := dots name.rest
  rw [DottedName.tokens, List.cons_append, same]
  exact .name (isCalmWord name.first gap row) symbol behind

theorem header (kind : TypeKind) (hasBody : kind ≠ .delegateType) (name : Identifier) (row : Nat)
    (gap : String) (attrs : List DottedName) (symbol : next.kind = .symbol)
    (orderly : Orderly (next :: rest)) :
    Orderly (headerTokens kind name row gap attrs ++ next :: rest) := by
  induction attrs generalizing gap with
  | nil =>
      have keyword : IsCalmWord ⟨.word, gap, kind.keyword, row⟩ := by
        refine ⟨rfl, isName_of_isAsciiIdentifier (Lexer.Legible.keyword kind), ?_⟩
        cases kind <;> simp [TypeKind.keyword, parenthesizedKeywords]
      have noName : isPlainName ⟨.word, gap, kind.keyword, row⟩ = false := by
        cases kind with
        | delegateType => exact absurd rfl hasBody
        | _ => simp [isPlainName, Token.isIdentifier, Token.reservedWords, contextualWords,
            TypeKind.keyword]
      exact .keyword keyword noName (.name (isCalmWord name " " row) symbol orderly)
  | cons attr others inductionHypothesis =>
      have behind := bracket "" row "]" (by decide) (inductionHypothesis " ")
      have list := bracket gap row "[" (by decide) (dotted "" row attr rfl behind)
      simpa [headerTokens] using list

end Orderly

mutual

theorem PlainMember.orderly : ∀ (member : PlainMember) (gap : String) (row : Nat)
    {rest : List Token}, Orderly rest → Orderly (member.tokens gap row ++ rest)
  | .type type, gap, row, rest, behind => by
      have closing := Orderly.bracket " " row "\x7d" (by decide) behind
      have body := Orderly.bracket " " row "\x7b" (by decide) closing
      have whole := Orderly.header type.kind type.hasBody type.name row gap type.attributes rfl body
      simpa [PlainMember.tokens] using whole
  | .space name members, gap, row, rest, behind => by
      have keyword : IsCalmWord ⟨.word, gap, "namespace", row⟩ := by
        have isName : IsName "namespace".toList := by decide
        exact ⟨rfl, isName, by simp [parenthesizedKeywords]⟩
      have noName : isPlainName ⟨.word, gap, "namespace", row⟩ = false := by
        simp [isPlainName, Token.isIdentifier, Token.reservedWords]
      have closing := Orderly.bracket "\n" (row + 1 + (printedMembers members).length) "\x7d"
        (by decide) behind
      have inside := orderly_members members "\n" (row + 1) closing
      have body := Orderly.bracket " " row "\x7b" (by decide) inside
      have whole := Orderly.keyword keyword noName (Orderly.dotted " " row name rfl body)
      simpa [PlainMember.tokens, spaceTokens] using whole

theorem orderly_members : ∀ (members : List PlainMember) (gap : String) (row : Nat)
    {rest : List Token}, Orderly rest → Orderly (memberTokens gap row members ++ rest)
  | [], _, _, _, behind => behind
  | member :: others, gap, row, rest, behind => by
      have next := orderly_members others "\n" (row + member.printed.length) behind
      have whole := member.orderly gap row next
      simpa [memberTokens] using whole

end

theorem Syntax.Lexer.Legible.head_ne {gap : String} {row : Nat} {text rest : List Char}
    {tokens : List Token} (legible : Lexer.Legible gap row text tokens) :
    text ≠ '\uFEFF' :: rest := by
  rintro rfl
  cases legible with
  | blank isBlank => exact absurd isBlank (by decide)
  | word start => exact absurd start (by decide +kernel)
  | mark isMark => exact absurd isMark (by decide)

theorem withoutMark_printedText (forest : List PlainMember) :
    Text.withoutMark (printedText forest) = printedText forest := by
  rw [Text.withoutMark]
  split
  · rename_i rest shape
    exact absurd shape (legible_printed forest).head_ne
  · rfl

/-- The outline of a printed forest presents it. -/
theorem outlineParser_presents (forest : List PlainMember) :
    (outlineParser (printedText forest)).Presents forest := by
  have lexed := lex_of_legible (legible_printed forest)
  obtain ⟨nodes, complete⟩ := Outline.ofTokens_of_adds (adds_members forest "" 0)
  have orderly : Orderly (memberTokens "" 0 forest) := by
    simpa using orderly_members forest "" 0 .nil
  constructor
  · simp only [outlineParser, lexed, nodes]
    exact arePresentedBy_memberNodes forest 0
  · simp only [outlineParser, lexed, complete, hasClash_of_orderly orderly]
    rfl

mutual

theorem PlainMember.exists_line : ∀ (member : PlainMember) (line : Nat) {decl : TypeDecl},
    decl ∈ (member.declared line).decls → ∃ type : PlainType, ∃ offset : Nat,
      decl = type.decl (line + offset) ∧ member.printed[offset]? = some type.printed
  | .type type, line, decl, membership => by
      rw [PlainMember.declared, Member.decls, List.mem_singleton] at membership
      exact ⟨type, 0, membership, rfl⟩
  | .space name members, line, decl, membership => by
      rw [PlainMember.declared, Member.decls] at membership
      obtain ⟨type, offset, same, found⟩ := exists_line_of_mem members (line + 1) membership
      have inside : offset < (printedMembers members).length :=
        (List.getElem?_eq_some_iff.1 found).1
      refine ⟨type, offset + 1, ?_, ?_⟩
      · rw [same, Nat.add_assoc, Nat.add_comm 1 offset]
      · rw [PlainMember.printed, List.getElem?_cons_succ, List.getElem?_append_left inside, found]

theorem exists_line_of_mem : ∀ (members : List PlainMember) (line : Nat) {decl : TypeDecl},
    decl ∈ declsOf (declaredMembers line members) → ∃ type : PlainType, ∃ offset : Nat,
      decl = type.decl (line + offset) ∧ (printedMembers members)[offset]? = some type.printed
  | [], _, _, membership => by
      rw [declaredMembers] at membership
      cases membership
  | member :: rest, line, decl, membership => by
      rw [declaredMembers, declsOf, List.mem_append] at membership
      rw [printedMembers]
      rcases membership with here | later
      · obtain ⟨type, offset, same, found⟩ := member.exists_line line here
        have inside : offset < member.printed.length := (List.getElem?_eq_some_iff.1 found).1
        exact ⟨type, offset, same, by rw [List.getElem?_append_left inside, found]⟩
      · obtain ⟨type, offset, same, found⟩ := exists_line_of_mem rest _ later
        refine ⟨type, member.printed.length + offset, ?_, ?_⟩
        · rw [same, Nat.add_assoc]
        · rw [List.getElem?_append_right (Nat.le_add_right _ _), Nat.add_sub_cancel_left, found]

end

theorem Text.isLine_of_last {line : String} {front : List Char} {last : Char}
    (shape : line.toList = front ++ [last]) (visible : Text.isBlank last = false)
    (oneLine : '\n' ∉ front) : Text.IsLine line := by
  constructor
  · rw [shape, List.mem_append, List.mem_singleton]
    rintro (inside | rfl)
    · exact oneLine inside
    · cases visible
  · rw [shape, List.getLast?_concat]
    rintro ⟨⟩
    cases visible

theorem Identifier.oneLine (name : Identifier) : '\n' ∉ name.text.toList := by
  intro membership
  cases name.isName.isBlank_eq_false _ membership

theorem DottedName.oneLine (name : DottedName) : '\n' ∉ name.text.toList := by
  intro membership
  cases name.isBlank_eq_false _ membership

theorem PlainType.isLine_printed (type : PlainType) : Text.IsLine type.printed := by
  have keyword : '\n' ∉ type.kind.keyword.toList := by
    cases type.kind <;> decide
  have oneLine : '\n' ∉ Lexer.Legible.headerChars type.kind type.name type.attributes ++
      [' ', '\x7b', ' '] := by
    simp [Lexer.Legible.headerChars, type.name.oneLine, keyword, DottedName.oneLine]
  have shape : type.printed.toList =
      Lexer.Legible.headerChars type.kind type.name type.attributes ++ [' ', '\x7b', ' '] ++
        ['\x7d'] := by
    simp [Lexer.Legible.toList_printed]
  exact Text.isLine_of_last shape (by decide) oneLine

mutual

theorem PlainMember.isLine_of_mem : ∀ (member : PlainMember),
    ∀ line ∈ member.printed, Text.IsLine line
  | .type type => by
      rw [PlainMember.printed, List.forall_mem_singleton]
      exact type.isLine_printed
  | .space name members => by
      have opening : Text.IsLine ("namespace " ++ name.text ++ " \x7b") := by
        have oneLine : '\n' ∉ "namespace ".toList ++ name.text.toList ++ [' '] := by
          simp [name.oneLine]
        have shape : ("namespace " ++ name.text ++ " \x7b").toList =
            "namespace ".toList ++ name.text.toList ++ [' '] ++ ['\x7b'] := by
          simp
        exact Text.isLine_of_last shape (by decide) oneLine
      rw [PlainMember.printed, List.forall_mem_cons, List.forall_mem_append,
        List.forall_mem_singleton]
      exact ⟨opening, isLine_of_mem_printed members, by decide⟩

theorem isLine_of_mem_printed : ∀ (members : List PlainMember),
    ∀ line ∈ printedMembers members, Text.IsLine line
  | [] => by
      rw [printedMembers]
      nofun
  | member :: rest => by
      rw [printedMembers, List.forall_mem_append]
      exact ⟨member.isLine_of_mem, isLine_of_mem_printed rest⟩

end

/-- A printed forest is read back as the same forest: the namespaces with their names, the types
with their names, kinds and attributes, all in the same order. The text has no error, no byte is
replaced, and each type is declared on the line on which it is printed. Of the parser it matters
only that its tree presents the forest. -/
theorem SourceFile.read_printedText (parser : SourceParser) (path : Path)
    (forest : List PlainMember) (presented : (parser (printedText forest)).Presents forest) :
    SourceFile.read parser ⟨path, (printedText forest).toUTF8⟩ =
        ⟨path, Namespace.ofMembers (declaredMembers 1 forest), false, false⟩ ∧
      ∀ decl ∈ declsOf (declaredMembers 1 forest), ∃ type : PlainType,
        decl = type.decl decl.line ∧
          (Text.lines (printedText forest))[decl.line - 1]? = some type.printed := by
  constructor
  · rw [SourceFile.read, Text.decode_toUTF8, withoutMark_printedText]
    simp only [presented.members_eq, presented.hasError]
  · intro decl membership
    obtain ⟨type, offset, rfl, found⟩ := exists_line_of_mem forest 1 membership
    refine ⟨type, rfl, ?_⟩
    have line : (type.decl (1 + offset)).line - 1 = offset := by
      simp [PlainType.decl]
    rw [line, printedText, Text.lines_unlines (isLine_of_mem_printed forest), found]

/-- A record in a namespace, read by the outline. -/
theorem SourceFile.read_printedText_record :
    SourceFile.read outlineParser
        ⟨⟨"B.cs"⟩, "namespace A.B \x7b\n[A] [B.A] record B \x7b \x7d\n\x7d\n".toUTF8⟩ =
      ⟨⟨"B.cs"⟩, .ofMembers [.space "A.B" [.type ⟨"B", .recordType, [⟨"A"⟩, ⟨"B.A"⟩], 2⟩]], false,
        false⟩ := by
  let a : Identifier := ⟨"A", by decide, by decide⟩
  let b : Identifier := ⟨"B", by decide, by decide⟩
  let forest : List PlainMember :=
    [.space ⟨a, [b]⟩ [.type ⟨b, .recordType, by decide, [⟨a, []⟩, ⟨b, [a]⟩]⟩]]
  have printed : printedText forest =
      "namespace A.B \x7b\n[A] [B.A] record B \x7b \x7d\n\x7d\n" := by
    decide
  have read := (SourceFile.read_printedText outlineParser ⟨"B.cs"⟩ forest
    (outlineParser_presents forest)).1
  rw [printed] at read
  exact read

end Registrar
