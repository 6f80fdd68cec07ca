import Registrar.Proofs.Artifact.Reading
import Registrar.Proofs.Source.Unit
import Registrar.Proofs.Syntax.Listing
import Registrar.Syntax.OutlineParser

/-!
# The tokens of a handler

Each line of a handler is read by itself, from gap to gap. Its tokens are those of the fixed texts
with a name as one token wherever it stands, so that the square brackets of a handler begin nothing
but the attribute lists of its context classes and of the declared attribute.
-/

set_option autoImplicit false

namespace Registrar

open Syntax Lexer

/-- A line that is read from gap to gap, and whose attribute lists hold only attributes of a
kind. -/
def IsParted (allowed : Attribute → Prop) (line : String) : Prop :=
  ∃ shapes, Reads (line.toList ++ ['\n']) shapes ∧ Parted allowed shapes

/-- The shapes of the tokens in the line that declares the targets of the declared attribute. -/
def usageShapes : List (TokenKind × String) :=
  [(.symbol, "["), (.word, "AttributeUsage"), (.symbol, "("), (.word, "AttributeTargets"),
    (.symbol, "."), (.word, "Class"), (.symbol, ")"), (.symbol, "]")]

def isFixedLine (line : List Char) : Bool :=
  let state := run { } (line ++ ['\n'])
  let shapes := (state.tokens.map Token.shape).reverse
  state.mode == .gap && state.text.isEmpty &&
    (shapes.all (fun shape => shape.2 != "[") || shapes == usageShapes)

theorem isFixedLine_of_mem_template : ∀ line ∈
    Template.openingLines ++ Template.middleLines ++ Template.closingLines,
    isFixedLine line.toList = true := by
  have checked : (Template.openingLines ++ Template.middleLines ++ Template.closingLines).all
      (fun line => isFixedLine line.toList) = true := by
    simp only [Template.openingLines, Template.middleLines, Template.closingLines,
      List.cons_append, List.nil_append, List.all_cons, List.all_nil]
    repeat rw [String.toList_ofList]
    decide +kernel
  exact List.all_eq_true.1 checked

variable {allowed : Attribute → Prop} {name : String}

theorem listing_serializable (accepted : allowed ⟨"JsonSerializable"⟩) (isName : IsName name.toList)
    (tokens : List Token) (same : tokens.map Token.shape =
      [(.word, "JsonSerializable"), (.symbol, "("), (.word, "typeof"), (.symbol, "("),
        (.word, name), (.symbol, ")"), (.symbol, ")")]) : Listing allowed tokens := by
  simp only [List.map_eq_cons_iff, List.map_eq_nil_iff, Token.shape, Prod.mk.injEq] at same
  obtain ⟨first, _, rfl, ⟨word, text⟩, opening, _, rfl, ⟨symbol, opens⟩, keyword, _, rfl,
    ⟨word', keywordText⟩, opening', _, rfl, ⟨symbol', opens'⟩, target, _, rfl, ⟨named, rfl⟩,
    closing', _, rfl, ⟨mark', closes'⟩, closing, _, rfl, ⟨mark, closes⟩, rfl⟩ := same
  have firstName : IsName first.text.toList := by
    rw [text]
    decide
  have keywordName : IsName keyword.text.toList := by
    rw [keywordText]
    decide
  have inner : Enclosed (opening' :: ([target] ++ closing' :: [])) :=
    .round symbol' (by simp [Token.is, opens']) mark' (by simp [Token.is, closes'])
      (.name named isName .nil) .nil
  have arguments : Enclosed (opening :: ((keyword :: opening' :: target :: closing' :: []) ++
      closing :: [])) :=
    .round symbol (by simp [Token.is, opens]) mark (by simp [Token.is, closes])
      (.name word' keywordName inner) .nil
  refine .of_single (.name word firstName arguments) ?_ opens ?_ ?_
  · simp [Token.isIdentifier, word, text, Token.reservedWords]
  · have noComma : ¬ IsName ",".toList := by decide
    simp only [List.forall_mem_cons, List.not_mem_nil, false_implies, implies_true, and_true,
      Token.is_eq_false_of_isName firstName noComma, Token.is_eq_false_of_isName isName noComma,
      Token.is_eq_false_of_isName keywordName noComma]
    simp [Token.is, opens, opens', closes, closes']
  · have compact : Text.compact first.text = "JsonSerializable" := by
      rw [firstName.compact_eq, text]
    rwa [compact]

theorem listing_usage (accepted : allowed ⟨"AttributeUsage"⟩)
    (tokens : List Token) (same : tokens.map Token.shape =
      [(.word, "AttributeUsage"), (.symbol, "("), (.word, "AttributeTargets"), (.symbol, "."),
        (.word, "Class"), (.symbol, ")")]) : Listing allowed tokens := by
  simp only [List.map_eq_cons_iff, List.map_eq_nil_iff, Token.shape, Prod.mk.injEq] at same
  obtain ⟨first, _, rfl, ⟨word, text⟩, opening, _, rfl, ⟨symbol, opens⟩, targets, _, rfl,
    ⟨word', targetsText⟩, dot, _, rfl, ⟨dotMark, dotText⟩, target, _, rfl, ⟨named, targetText⟩,
    closing, _, rfl, ⟨mark, closes⟩, rfl⟩ := same
  have firstName : IsName first.text.toList := by
    rw [text]
    decide
  have targetsName : IsName targets.text.toList := by
    rw [targetsText]
    decide
  have targetName : IsName target.text.toList := by
    rw [targetText]
    decide
  have dotted : Enclosed (dot :: target :: []) :=
    .plain (by simp [dotMark]) (by simp [dotMark]) (by simp [Token.isOpening, Token.is, dotText])
      (by simp [Token.isClosing, Token.is, dotText]) (.name named targetName .nil)
  have arguments : Enclosed (opening :: ((targets :: dot :: target :: []) ++ closing :: [])) :=
    .round symbol (by simp [Token.is, opens]) mark (by simp [Token.is, closes])
      (.name word' targetsName dotted) .nil
  refine .of_single (.name word firstName arguments) ?_ opens ?_ ?_
  · simp [Token.isIdentifier, word, text, Token.reservedWords]
  · simp [Token.is, text, opens, targetsText, dotText, targetText, closes]
  · have compact : Text.compact first.text = "AttributeUsage" := by
      rw [firstName.compact_eq, text]
    rwa [compact]

theorem isParted_template (accepted : allowed ⟨"AttributeUsage"⟩) {line : String}
    (membership : line ∈
      Template.openingLines ++ Template.middleLines ++ Template.closingLines) :
    IsParted allowed line := by
  have fixed := isFixedLine_of_mem_template line membership
  simp only [isFixedLine, Bool.and_eq_true, Bool.or_eq_true, beq_iff_eq, List.isEmpty_iff] at fixed
  obtain ⟨⟨mode, text⟩, parts⟩ := fixed
  have reads : Reads (line.toList ++ ['\n'])
      ((run { } (line.toList ++ ['\n'])).tokens.map Token.shape).reverse :=
    .of_alone ⟨mode, text, by simp⟩
  refine ⟨_, reads, ?_⟩
  rcases parts with plain | usage
  · apply Parted.of_plain
    intro shape among
    simpa using List.all_eq_true.1 plain shape among
  · rw [usage]
    exact .list (listing_usage accepted) .nil

theorem ne_bracket (isName : IsName name.toList) : name ≠ "[" := by
  rintro rfl
  exact absurd isName (by decide)

theorem isName_context (isName : IsName name.toList) : IsName (name ++ "Context").toList := by
  rw [String.toList_append]
  exact isName.append (by decide) (by decide)

theorem isParted_rowLine (isName : IsName name.toList) : IsParted allowed (rowLine name) := by
  have opening : Stands (run { } "\t        \x7b typeof(".toList) .symbol ['(']
      [(.word, "typeof"), (.symbol, "\x7b")] := by
    decide
  have behindName : Stands (run { } (')' :: ", new ".toList)) .gap []
      [(.word, "new"), (.symbol, ","), (.symbol, ")")] := by
    decide
  have behindContext : Stands (run { } ('(' :: ").GetTypeInfo(typeof(".toList)) .symbol ['(']
      [(.word, "typeof"), (.symbol, "("), (.word, "GetTypeInfo"), (.symbol, "."), (.symbol, ")"),
        (.symbol, "(")] := by
    decide
  have closing : Stands (run { } (')' :: ") \x7d,\n".toList)) .gap []
      [(.symbol, ","), (.symbol, "\x7d"), (.symbol, ")"), (.symbol, ")")] := by
    decide
  have pieces : (rowLine name).toList ++ ['\n'] =
      "\t        \x7b typeof(".toList ++ ((name.toList ++ ')' :: ", new ".toList) ++
        (((name ++ "Context").toList ++ '(' :: ").GetTypeInfo(typeof(".toList) ++
          (name.toList ++ ')' :: ") \x7d,\n".toList))) := by
    simp [rowLine_eq, Fragment.entry]
  have context := isName_context isName
  refine ⟨[(.symbol, "\x7b"), (.word, "typeof"), (.symbol, "("), (.word, name), (.symbol, ")"),
    (.symbol, ","), (.word, "new"), (.word, name ++ "Context"), (.symbol, "("), (.symbol, ")"),
    (.symbol, "."), (.word, "GetTypeInfo"), (.symbol, "("), (.word, "typeof"), (.symbol, "("),
    (.word, name), (.symbol, ")"), (.symbol, ")"), (.symbol, "\x7d"), (.symbol, ",")], ?_, ?_⟩
  · intro state before stands
    rw [pieces, run_append, run_append, run_append]
    have first := Ready.parenthesis (stands.run opening)
    have second := Ready.gap (first.word isName.1 isName.2 (by decide) behindName)
    have third := Ready.parenthesis (second.word context.1 context.2 (by decide) behindContext)
    have fourth := third.word isName.1 isName.2 (by decide) closing
    simpa using fourth
  · apply Parted.of_plain
    simp [ne_bracket isName, ne_bracket context]

theorem isParted_classHead (accepted : allowed ⟨"JsonSerializable"⟩) (isName : IsName name.toList) :
    IsParted allowed (classHead name) := by
  have opening : Stands (run { } "    [JsonSerializable(typeof(".toList) .symbol ['(']
      [(.word, "typeof"), (.symbol, "("), (.word, "JsonSerializable"), (.symbol, "[")] := by
    decide
  have closing : Stands (run { } (')' :: ")]\n".toList)) .gap []
      [(.symbol, "]"), (.symbol, ")"), (.symbol, ")")] := by
    decide
  have pieces : (classHead name).toList ++ ['\n'] =
      "    [JsonSerializable(typeof(".toList ++ (name.toList ++ ')' :: ")]\n".toList) := by
    rw [toList_classHead]
    simp
  refine ⟨_, fun state before stands => ?_, .list (listing_serializable accepted isName) .nil⟩
  rw [pieces, run_append]
  have first := Ready.parenthesis (stands.run opening)
  simpa using first.word isName.1 isName.2 (by decide) closing

theorem isParted_classBody (isName : IsName name.toList) : IsParted allowed (classBody name) := by
  have opening : Stands (run { } "    public partial class ".toList) .gap []
      [(.word, "class"), (.word, "partial"), (.word, "public")] := by
    decide
  have closing : Stands (run { } (' ' :: ": JsonSerializerContext \x7b \x7d\n".toList)) .gap []
      [(.symbol, "\x7d"), (.symbol, "\x7b"), (.word, "JsonSerializerContext"), (.symbol, ":")] := by
    decide
  have pieces : (classBody name).toList ++ ['\n'] =
      "    public partial class ".toList ++
        ((name ++ "Context").toList ++ ' ' :: ": JsonSerializerContext \x7b \x7d\n".toList) := by
    rw [toList_classBody]
    simp
  have context := isName_context isName
  refine ⟨[(.word, "public"), (.word, "partial"), (.word, "class"), (.word, name ++ "Context"),
    (.symbol, ":"), (.word, "JsonSerializerContext"), (.symbol, "\x7b"), (.symbol, "\x7d")],
    fun state before stands => ?_, ?_⟩
  · rw [pieces, run_append]
    have first := Ready.gap (stands.run opening)
    simpa using first.word context.1 context.2 (by decide) closing
  · apply Parted.of_plain
    simp [ne_bracket context]

theorem isParted_empty : IsParted allowed "" :=
  ⟨[], .of_alone (by decide), .nil⟩

theorem isParted_of_mem_handlerLines {added kept : List String}
    (usage : allowed ⟨"AttributeUsage"⟩)
    (serializable : added ++ kept ≠ [] → allowed ⟨"JsonSerializable"⟩)
    (isName : ∀ name ∈ added ++ kept, IsName name.toList) :
    ∀ line ∈ handlerLines added kept, IsParted allowed line := by
  intro line membership
  rcases of_mem_handlerLines membership with fixed | ⟨name, among, rfl | inside⟩
  · exact isParted_template usage fixed
  · exact isParted_rowLine (isName name among)
  · have named := isName name among
    have lines : classLines name = ["", classHead name, classBody name, ""] := rfl
    rw [lines] at inside
    simp only [List.mem_cons, List.not_mem_nil, or_false] at inside
    rcases inside with rfl | rfl | rfl | rfl
    · exact isParted_empty
    · exact isParted_classHead (serializable (List.ne_nil_of_mem among)) named
    · exact isParted_classBody named
    · exact isParted_empty

/-- A text whose lines are parted is parted as a whole. -/
theorem exists_of_isParted {lines : List String} (parted : ∀ line ∈ lines, IsParted allowed line) :
    ∃ shapes, Reads (Text.unlines lines).toList shapes ∧ Parted allowed shapes := by
  rw [Text.toList_unlines]
  induction lines with
  | nil => exact ⟨[], .nil, .nil⟩
  | cons line rest inductionHypothesis =>
      rw [List.forall_mem_cons] at parted
      obtain ⟨shapes, reads, parts⟩ := parted.1
      obtain ⟨others, further, remaining⟩ := inductionHypothesis parted.2
      exact ⟨shapes ++ others, reads.append further, parts.append remaining⟩

theorem SyntaxNode.fit_of_reaches {declared : String → List Attribute → Prop} {path : List Nat}
    {node target : SyntaxNode} (fit : ∀ child ∈ node.children, Syntax.Fit declared child)
    (reached : node.reaches path = true) (found : node.at? path = some target) :
    Syntax.Fit declared target := by
  induction path generalizing node with
  | nil => cases reached
  | cons i path inductionHypothesis =>
      rw [at?] at found
      obtain ⟨child, stands, further⟩ := Option.bind_eq_some_iff.1 found
      have here := fit child (List.mem_of_getElem? stands)
      cases path with
      | nil =>
          cases further
          exact here
      | cons next path =>
          rw [reaches, stands, Option.any_some, Bool.and_eq_true, decide_eq_true_iff,
            ← child.isSome_scope?_iff] at reached
          · cases here with
            | mk _ inside => exact inductionHypothesis (inside reached.1) reached.2 further
          · simp

def handlerAttributes (names : List String) : List String :=
  if names.isEmpty then ["AttributeUsage"] else ["JsonSerializable", "AttributeUsage"]

/-- Whether a parser takes the attribute lists of a handler for what they are: the types that it
finds there have no attributes but those that a handler writes. -/
def SourceParser.ReadsHandler (parser : SourceParser) (added kept : List String) : Prop :=
  (parser (handlerText added kept)).HasAttributesAmong (handlerAttributes (added ++ kept))

theorem outlineParser_readsHandler {added kept : List String}
    (isName : ∀ name ∈ added ++ kept, IsName name.toList) :
    outlineParser.ReadsHandler added kept := by
  have usage : "AttributeUsage" ∈ handlerAttributes (added ++ kept) := by
    rw [handlerAttributes]
    split <;> simp
  have serializable : added ++ kept ≠ [] →
      "JsonSerializable" ∈ handlerAttributes (added ++ kept) := by
    intro present
    rw [handlerAttributes, if_neg (by simpa using present)]
    exact List.mem_cons_self
  let allowed (attr : Attribute) : Prop := attr.name ∈ handlerAttributes (added ++ kept)
  obtain ⟨shapes, reads, parted⟩ := @exists_of_isParted allowed _
    (isParted_of_mem_handlerLines usage serializable isName)
  rw [← handlerText_eq_unlines] at reads
  have holds := (Outline.Holds.start (listLaw allowed)).foldl_parted parted reads.lex_eq
  intro path type reached found declares name written
  obtain ⟨decl, declared⟩ := Option.isSome_iff_exists.1 declares
  have carried : ⟨name⟩ ∈ decl.attributes := by
    rw [(SyntaxNode.exists_of_declaredType? declared).2]
    exact List.mem_map_of_mem written
  rw [type.declaredType?_eq] at declared
  cases SyntaxNode.fit_of_reaches holds.fit_of_ofTokens reached found with
  | mk fits _ => exact fits decl declared ⟨name⟩ carried

theorem withoutMark_handlerText (added kept : List String) :
    Text.withoutMark (handlerText added kept) = handlerText added kept := by
  obtain ⟨rest, shape⟩ : ∃ rest, (handlerText added kept).toList = '\n' :: rest := by
    obtain ⟨others, lines⟩ : ∃ others, handlerLines added kept = "" :: others := ⟨_, rfl⟩
    rw [handlerText_eq_unlines, Text.toList_unlines, lines, List.flatMap_cons, String.toList_empty,
      List.nil_append, List.singleton_append]
    exact ⟨_, rfl⟩
  rw [Text.withoutMark, shape]
  rfl

theorem root_read_handler (parser : SourceParser) (path : Path) (added kept : List String) :
    (SourceFile.read parser ⟨path, (handlerText added kept).toUTF8⟩).root =
      .ofMembers (parser (handlerText added kept)).tree.members := by
  rw [SourceFile.root_read, Text.decode_toUTF8, withoutMark_handlerText]

/-- A type in a handler has only attributes that a handler writes. -/
theorem SourceParser.ReadsHandler.name_mem {parser : SourceParser} {added kept : List String}
    (reads : parser.ReadsHandler added kept) {path : Path} {decl : TypeDecl} {attr : Attribute}
    (membership : decl ∈
      (SourceFile.read parser ⟨path, (handlerText added kept).toUTF8⟩).root.decls)
    (carried : attr ∈ decl.attributes) : attr.name ∈ handlerAttributes (added ++ kept) := by
  rw [root_read_handler] at membership
  exact ParsedText.HasAttributesAmong.name_mem reads membership carried

end Registrar
