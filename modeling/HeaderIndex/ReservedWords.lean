/-!
# Reserved words

The words that target languages keep for themselves.  A name that collides with one of them is
written with an underscore behind it.
-/

namespace HeaderIndex

namespace ReservedWords

/-- Reserved words of Python, those with a meaning in some places only included. -/
def python : List String := [
  "False", "None", "True", "and", "as", "assert", "async", "await", "break", "class", "continue",
  "def", "del", "elif", "else", "except", "finally", "for", "from", "global", "if", "import", "in",
  "is", "lambda", "nonlocal", "not", "or", "pass", "raise", "return", "try", "while", "with",
  "yield", "_", "case", "match"]

/-- Reserved words of Ruby. -/
def ruby : List String := [
  "alias", "and", "begin", "break", "case", "class", "def", "defined?", "do", "else", "elsif", "end",
  "ensure", "false", "for", "if", "in", "module", "next", "nil", "not", "or", "redo", "rescue",
  "retry", "return", "self", "super", "then", "true", "undef", "unless", "until", "when", "while",
  "yield", "BEGIN", "END"]

/-- Reserved words of Java. -/
def java : List String := [
  "abstract", "assert", "boolean", "break", "byte", "case", "catch", "char", "class", "const",
  "continue", "default", "do", "double", "else", "enum", "extends", "final", "finally", "float",
  "for", "goto", "if", "implements", "import", "instanceof", "int", "interface", "long", "native",
  "new", "package", "private", "protected", "public", "return", "short", "static", "strictfp",
  "super", "switch", "synchronized", "this", "throw", "throws", "transient", "try", "void",
  "volatile", "while"]

end ReservedWords

/-- A language that bindings are generated for. -/
inductive TargetLanguage where
  | java | python | ruby
  deriving DecidableEq, Repr

/-- The words that a language reserves. -/
def TargetLanguage.reservedWords : TargetLanguage → List String
  | java => ReservedWords.java
  | python => ReservedWords.python
  | ruby => ReservedWords.ruby

end HeaderIndex
