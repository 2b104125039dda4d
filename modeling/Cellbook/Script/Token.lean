import Cellbook.Script.SyntaxFault

/-!
# Tokens

The words of the script language.  A fault of the lexical level is a token as well, so that it is
reported only when a reader gets as far as its place.
-/

namespace Cellbook.Script

/-- A word of a script. -/
inductive Token where
  | int (value : Int64)
  | float (value : Float)
  | char (value : Char)
  | text (value : String)
  /-- Text up to an embedded block. -/
  | textBefore (value : String)
  | name (value : String)
  /-- A keyword, operator or bracket in use. -/
  | symbol (spelling : String)
  /-- A keyword or symbol that is kept out of use. -/
  | reserved (spelling : String)
  | fault (fault : SyntaxFault)
  | done
  deriving Repr

/-- A token and its place. -/
structure Placed where
  token : Token
  position : Position
  deriving Repr

/-- The keywords in use. -/
def keywords : List String :=
  ["true", "false", "let", "const", "if", "else", "switch", "do", "while", "until", "loop", "for",
    "in", "continue", "break", "fn", "private", "return", "throw", "try", "catch", "import",
    "export", "as"]

/-- The functions that are keywords: they may be called but not defined. -/
def callableKeywords : List String :=
  ["print", "debug", "type_of", "eval", "Fn", "call", "curry", "is_shared", "is_def_fn",
    "is_def_var"]

/-- The callable keywords that may also be called as methods. -/
def methodKeywords : List String := ["type_of", "call", "curry", "is_shared"]

/-- The keywords kept out of use. -/
def reservedKeywords : List String :=
  ["var", "static", "shared", "goto", "match", "case", "public", "protected", "new", "use", "with",
    "is", "module", "package", "super", "thread", "spawn", "go", "await", "async", "sync", "yield",
    "default", "void", "null", "nil", "this"] ++ callableKeywords

/-- The token of a word that stands at a place. -/
def Token.ofWord (word : String) (position : Position) : Token :=
  if keywords.contains word then .symbol word
  else if reservedKeywords.contains word then .reserved word
  else if word == "_" then .symbol word
  else if isWord word then .name word
  else .fault ⟨.malformedName word, some position⟩

/-- Whether an operand may follow a token, so that a sign there belongs to a number. -/
def Token.awaitsOperand : Token → Bool
  | symbol spelling =>
    !(["true", "false", "()", ")", "]", "\x7d", ".", "?."].contains spelling)
  | fault _ => true
  | _ => false

/-- The symbols in use, longer spellings before their prefixes. -/
def symbols : List String :=
  ["#\x7b", "**=", "<<=", ">>=", "..=", "!in", "()", "+=", "-=", "*=", "/=", "%=", "&=", "|=", "^=",
    "**", "<<", ">>", "<=", ">=", "==", "!=", "=>", "&&", "||", "??", "?.", "?[", "::", "..",
    "\x7b", "\x7d", "(", ")", "[", "]", "+", "-", "*", "/", "%", "<", ">", "=", "!", "&", "|", "^",
    ",", ".", ":", ";"]

/-- The symbols kept out of use, each with the advice given for it, if any; longer spellings before
their prefixes. -/
def reservedSymbols : List (String × Option String) :=
  [("===", some "'===' is not a valid operator. This is not JavaScript! Should it be '=='?"),
    ("!==", some "'!==' is not a valid operator. This is not JavaScript! Should it be '!='?"),
    ("->", some "'->' is not a valid symbol. This is not C or C++!"),
    ("<-", some "'<-' is not a valid symbol. This is not Go! Should it be '<='?"),
    (":=", some
      "':=' is not a valid assignment operator. This is not Go or Pascal! Should it be simply '='?"),
    (":;", some "':;' is not a valid symbol. Should it be '::'?"),
    ("::<", some "'::<>' is not a valid symbol. This is not Rust! Should it be '::'?"),
    ("(*", some
      "'(* .. *)' is not a valid comment format. This is not Pascal! Should it be '/* .. */'?"),
    ("*)", some
      "'(* .. *)' is not a valid comment format. This is not Pascal! Should it be '/* .. */'?"),
    ("# \x7b", some "'#' is not a valid symbol. Should it be '#\x7b'?"),
    ("...", none), ("++", none), ("--", none), ("<|", none), ("|>", none),
    ("!.", none), ("#!", none), ("#", none), ("@", none), ("$", none), ("~", none), ("?", none)]

/-- Whether an operator assigns the result of combining the old value with the new one. -/
def isCombiningAssignment (spelling : String) : Bool :=
  ["+=", "-=", "*=", "/=", "%=", "**=", "<<=", ">>=", "&=", "|=", "^="].contains spelling

end Cellbook.Script
