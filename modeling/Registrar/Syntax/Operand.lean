import Registrar.Syntax.Header

/-!
Tokens that cannot stand next to each other. An operator that joins two operands needs one behind
it, and some keywords need a parenthesis; where these are missing the text has a syntax error.
-/

set_option autoImplicit false

namespace Registrar.Syntax

/-- Operators that stand between two operands and never at the beginning of one. -/
def joiningOperators : List String :=
  ["=", "==", "!=", "<=", ">=", "&&", "||", "??", "=>", "/", "%", "|", "+=", "-=", "*=", "/=",
    "%=", "&=", "|=", "^=", "??=", "<<="]

def expectingOperators : List String :=
  joiningOperators ++ ["+", "-", "<<", "&", "^", ",", "."]

def endingMarks : List String := [";", ")", "]", "\x7d", ","]

def parenthesizedKeywords : List String := ["if", "while", "for", "foreach", "lock"]

/-- Whether `next` cannot follow `token`. -/
def clash (token next : Token) : Bool :=
  match token.kind, next.kind with
  | .symbol, .symbol =>
      if token.text == "," then next.text == ")" || next.text == ";"
      else if token.text == "(" then next.text == ","
      else if token.text == "." then next.text != "<"
      else expectingOperators.contains token.text &&
        (endingMarks.contains next.text || joiningOperators.contains next.text)
  | .word, .symbol => parenthesizedKeywords.contains token.text && next.text != "("
  | .word, .word => parenthesizedKeywords.contains token.text
  | .number, .number | .number, .quoted | .quoted, .number | .quoted, .quoted => true
  | _, _ => false

/-- Words that have a meaning of their own in some places. -/
def contextualWords : List String :=
  ["add", "alias", "and", "ascending", "async", "await", "by", "descending", "dynamic", "equals",
    "file", "from", "get", "global", "group", "init", "into", "join", "let", "managed", "not",
    "notnull", "nint", "nuint", "on", "or", "orderby", "partial", "record", "remove", "required",
    "scoped", "select", "set", "unmanaged", "value", "var", "when", "where", "with", "yield"]

def isPlainName (token : Token) : Bool :=
  token.isIdentifier && !contextualWords.contains token.text

/-- Whether three names stand in a row; two of them may be a type and what is declared of it. -/
def beginsWithThreeNames : List Token → Bool
  | first :: second :: third :: _ => isPlainName first && isPlainName second && isPlainName third
  | _ => false

/-- Whether the token is a character literal that holds none or several of them. An escape begins
with a backslash and may be longer. -/
def isMiscounted (token : Token) : Bool :=
  match token.text.toList with
  | '\x27' :: content => content.length != 2 && content.head? != some '\\'
  | _ => false

/-- Whether somewhere tokens cannot stand next to each other, or one is out of shape. -/
def hasClash : List Token → Bool
  | [] => false
  | token :: rest =>
      (rest.head?.any fun next => clash token next) || isMiscounted token ||
        beginsWithThreeNames (token :: rest) || hasClash rest

end Registrar.Syntax
