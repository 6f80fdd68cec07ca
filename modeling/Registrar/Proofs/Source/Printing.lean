import Registrar.Decl.Basic
import Registrar.Proofs.Syntax.Legible
import Registrar.Proofs.Text.Lines
import Registrar.Syntax.Header

/-!
# Printed declarations

A forest of namespaces and types is printed with one declaration or closing brace on each line.
What is printed is legible: its tokens are those of the forest.
-/

set_option autoImplicit false

namespace Registrar

open Syntax

/-- An identifier of ASCII characters that is no reserved word. -/
structure Identifier where
  text : String
  isAscii : isAsciiIdentifier text.toList = true
  isFree : text ∉ Token.reservedWords

structure DottedName where
  first : Identifier
  rest : List Identifier

structure PlainType where
  name : Identifier
  kind : TypeKind
  hasBody : kind ≠ .delegateType
  attributes : List DottedName

/-- A namespace or a type, apart from its place in a text. -/
inductive PlainMember where
  | type (type : PlainType)
  | space (name : DottedName) (members : List PlainMember)

def DottedName.text (name : DottedName) : String :=
  name.first.text ++ String.join (name.rest.map fun part => "." ++ part.text)

namespace PlainType

def printed (type : PlainType) : String :=
  String.join (type.attributes.map fun attr => "[" ++ attr.text ++ "] ") ++
    type.kind.keyword ++ " " ++ type.name.text ++ " \x7b \x7d"

def decl (type : PlainType) (line : Nat) : TypeDecl :=
  ⟨type.name.text, type.kind, type.attributes.map fun attr => ⟨attr.text⟩, line⟩

end PlainType

mutual

def PlainMember.printed : PlainMember → List String
  | .type type => [type.printed]
  | .space name members =>
      ("namespace " ++ name.text ++ " \x7b") :: (printedMembers members ++ ["\x7d"])

def printedMembers : List PlainMember → List String
  | [] => []
  | member :: rest => member.printed ++ printedMembers rest

end

mutual

def PlainMember.declared (line : Nat) : PlainMember → Member
  | .type type => .type (type.decl line)
  | .space name members => .space name.text (declaredMembers (line + 1) members)

def declaredMembers (line : Nat) : List PlainMember → List Member
  | [] => []
  | member :: rest => member.declared line :: declaredMembers (line + member.printed.length) rest

end

def printedText (forest : List PlainMember) : String := Text.unlines (printedMembers forest)

example :
    let a : Identifier := ⟨"A", by decide, by decide⟩
    let b : Identifier := ⟨"B", by decide, by decide⟩
    printedText [.space ⟨a, [b]⟩ [.type ⟨b, .recordType, by decide, [⟨a, []⟩, ⟨b, [a]⟩]⟩]] =
      "namespace A.B \x7b\n[A] [B.A] record B \x7b \x7d\n\x7d\n" := by
  decide

def dotTokens (row : Nat) : List Identifier → List Token
  | [] => []
  | part :: rest =>
      ⟨.symbol, "", ".", row⟩ :: ⟨.word, "", part.text, row⟩ :: dotTokens row rest

def DottedName.tokens (gap : String) (row : Nat) (name : DottedName) : List Token :=
  ⟨.word, gap, name.first.text, row⟩ :: dotTokens row name.rest

def headerTokens (kind : TypeKind) (name : Identifier) (row : Nat) (gap : String) :
    List DottedName → List Token
  | [] => [⟨.word, gap, kind.keyword, row⟩, ⟨.word, " ", name.text, row⟩]
  | attr :: rest =>
      ⟨.symbol, gap, "[", row⟩ ::
        (attr.tokens "" row ++ ⟨.symbol, "", "]", row⟩ :: headerTokens kind name row " " rest)

def spaceTokens (name : DottedName) (row : Nat) (gap : String) : List Token :=
  ⟨.word, gap, "namespace", row⟩ :: name.tokens " " row

mutual

def PlainMember.tokens (gap : String) (row : Nat) : PlainMember → List Token
  | .type type =>
      headerTokens type.kind type.name row gap type.attributes ++
        [⟨.symbol, " ", "\x7b", row⟩, ⟨.symbol, " ", "\x7d", row⟩]
  | .space name members =>
      spaceTokens name row gap ++ ⟨.symbol, " ", "\x7b", row⟩ ::
        (memberTokens "\n" (row + 1) members ++
          [⟨.symbol, "\n", "\x7d", row + 1 + (printedMembers members).length⟩])

def memberTokens (gap : String) (row : Nat) : List PlainMember → List Token
  | [] => []
  | member :: rest =>
      member.tokens gap row ++ memberTokens "\n" (row + member.printed.length) rest

end

def dotChars (parts : List Identifier) : List Char :=
  parts.flatMap fun part => '.' :: part.text.toList

theorem DottedName.toList_text (name : DottedName) :
    name.text.toList = name.first.text.toList ++ dotChars name.rest := by
  simp [text, dotChars, String.toList_join, List.flatMap_map]

namespace Syntax.Lexer.Legible

variable {row : Nat} {rest : List Char} {more : List Token}

theorem endsMark_identifier (name : Identifier) (rest : List Char) :
    endsMark (name.text.toList ++ rest) = true := by
  obtain ⟨first, others, shape, start, -⟩ := exists_of_isAsciiIdentifier name.isAscii
  simp [shape, endsMark, isSymbolChar_of_isIdentifierStart start]

theorem endsMark_dotted (name : DottedName) (rest : List Char) :
    endsMark (name.text.toList ++ rest) = true := by
  rw [name.toList_text, List.append_assoc]
  exact endsMark_identifier name.first _

theorem dots (parts : List Identifier) (ends : endsWord rest = true)
    (legible : Legible "" row rest more) : endsWord (dotChars parts ++ rest) = true ∧
      Legible "" row (dotChars parts ++ rest) (dotTokens row parts ++ more) := by
  induction parts with
  | nil => exact ⟨ends, legible⟩
  | cons part others inductionHypothesis =>
      obtain ⟨ends, behind⟩ := inductionHypothesis
      have dot : isMark '.' = true := by decide
      have word := identifier "" part.isAscii ends behind
      have whole := single "" dot (endsMark_identifier part _) word
      refine ⟨rfl, ?_⟩
      simpa [dotChars, dotTokens] using whole

theorem dotted (gap : String) (name : DottedName) (ends : endsWord rest = true)
    (legible : Legible "" row rest more) :
    Legible gap row (name.text.toList ++ rest) (name.tokens gap row ++ more) := by
  obtain ⟨ends, behind⟩ := dots name.rest ends legible
  rw [name.toList_text, List.append_assoc]
  exact identifier gap name.first.isAscii ends behind

theorem keyword (kind : TypeKind) : isAsciiIdentifier kind.keyword.toList = true := by
  cases kind <;> decide

def headerChars (kind : TypeKind) (name : Identifier) (attrs : List DottedName) : List Char :=
  attrs.flatMap (fun attr => '[' :: (attr.text.toList ++ [']', ' '])) ++
    (kind.keyword.toList ++ ' ' :: name.text.toList)

theorem header (gap : String) (kind : TypeKind) (name : Identifier) (attrs : List DottedName)
    (ends : endsWord rest = true) (legible : Legible "" row rest more) :
    Legible gap row (headerChars kind name attrs ++ rest)
      (headerTokens kind name row gap attrs ++ more) := by
  induction attrs generalizing gap with
  | nil =>
      have behind := space (identifier " " name.isAscii ends legible)
      simpa [headerChars, headerTokens] using identifier gap (keyword kind) rfl behind
  | cons attr others inductionHypothesis =>
      have opening : isMark '[' = true := by decide
      have closing : isMark ']' = true := by decide
      have behind := single "" closing rfl (space (inductionHypothesis " "))
      have list := single gap opening (endsMark_dotted attr _) (dotted "" attr rfl behind)
      simpa [headerChars, headerTokens] using list

theorem toList_printed (type : PlainType) : type.printed.toList =
    headerChars type.kind type.name type.attributes ++ [' ', '\x7b', ' ', '\x7d'] := by
  simp [PlainType.printed, headerChars, String.toList_join, List.flatMap_map]

theorem closed (gap : String) (legible : Legible "\n" (row + 1) rest more) :
    Legible gap row ('\x7d' :: '\n' :: rest) (⟨.symbol, gap, "\x7d", row⟩ :: more) := by
  have closing : isMark '\x7d' = true := by decide
  exact single gap closing rfl (newline legible)

theorem type (gap : String) (type : PlainType) (legible : Legible "\n" (row + 1) rest more) :
    Legible gap row (type.printed.toList ++ '\n' :: rest)
      ((PlainMember.type type).tokens gap row ++ more) := by
  have opening : isMark '\x7b' = true := by decide
  have body := single " " opening rfl (space (closed " " legible))
  have whole := header gap type.kind type.name type.attributes rfl (space body)
  simpa [toList_printed, PlainMember.tokens] using whole

theorem opened (gap : String) (name : DottedName) (legible : Legible "\n" (row + 1) rest more) :
    Legible gap row (("namespace " ++ name.text ++ " \x7b").toList ++ '\n' :: rest)
      (spaceTokens name row gap ++ ⟨.symbol, " ", "\x7b", row⟩ :: more) := by
  have opening : isMark '\x7b' = true := by decide
  have keyword : isAsciiIdentifier "namespace".toList = true := by decide
  have body := single " " opening rfl (newline legible)
  have whole := identifier gap keyword rfl (space (dotted " " name rfl (space body)))
  simpa [spaceTokens] using whole

end Syntax.Lexer.Legible

open Syntax.Lexer

mutual

/-- A member is read as its tokens, whatever is read behind its lines. -/
theorem PlainMember.legible : ∀ (member : PlainMember) (gap : String) {row : Nat}
    {rest : List Char} {more : List Token},
    Legible "\n" (row + member.printed.length) rest more →
      Legible gap row ((Text.unlines member.printed).toList ++ rest)
        (member.tokens gap row ++ more)
  | .type type, gap, row, rest, more, legible => by
      have whole := Legible.type gap type legible
      simpa [PlainMember.printed] using whole
  | .space name members, gap, row, rest, more, legible => by
      have next : Legible "\n" (row + 1 + (printedMembers members).length + 1) rest more := by
        have same : row + 1 + (printedMembers members).length + 1 =
            row + (PlainMember.space name members).printed.length := by
          simp only [PlainMember.printed, List.length_cons, List.length_append, List.length_nil]
          omega
        rw [same]
        exact legible
      -- the closing brace stands behind the members and is what they are put in front of
      have inside := legible_members members (Legible.closed "\n" next)
      have whole := Legible.opened gap name inside
      simpa [PlainMember.printed, PlainMember.tokens, Text.unlines] using whole

theorem legible_members : ∀ (members : List PlainMember) {row : Nat} {rest : List Char}
    {more : List Token},
    Legible "\n" (row + (printedMembers members).length) rest more →
      Legible "\n" row ((Text.unlines (printedMembers members)).toList ++ rest)
        (memberTokens "\n" row members ++ more)
  | [], row, rest, more, legible => legible
  | member :: others, row, rest, more, legible => by
      have next : Legible "\n"
          (row + member.printed.length + (printedMembers others).length) rest more := by
        simpa [printedMembers, Nat.add_assoc] using legible
      have whole := member.legible "\n" (legible_members others next)
      simpa [printedMembers, memberTokens] using whole

end

theorem legible_printed (forest : List PlainMember) :
    Legible "" 0 (printedText forest).toList (memberTokens "" 0 forest) := by
  rw [printedText]
  cases forest with
  | nil => exact .nil
  | cons member others =>
      have behind : Legible "\n" (0 + member.printed.length)
          ((Text.unlines (printedMembers others)).toList ++ []) _ := legible_members others .nil
      have whole := member.legible "" behind
      simpa [printedMembers, memberTokens] using whole

end Registrar
