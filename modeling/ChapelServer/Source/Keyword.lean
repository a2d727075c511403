/-!
# Reserved words

The reserved words of Chapel, in the order in which they are offered as completions. They name no
symbol of a program.
-/

namespace ChapelServer

/-- The reserved words, in the order in which they are offered (`CHAPEL_KEYWORDS`). -/
def keywords : List String := [
  "align", "as", "atomic", "begin", "break", "by", "class", "cobegin", "coforall", "config",
  "const", "continue", "delete", "dmapped", "inout", "do", "iter", "domain", "label", "else",
  "let", "enum", "local", "except", "module", "export", "new", "extern", "nil", "for", "noinit",
  "forall", "on", "if", "only", "in", "otherwise", "index", "out", "inline", "param", "private",
  "subdomain", "proc", "sync", "public", "then", "record", "type", "reduce", "union", "ref",
  "use", "require", "var", "return", "when", "scan", "where", "select", "while", "serial", "with",
  "single", "yield", "sparse", "zip"]

/-- The word is reserved: one of `_KEYWORDS`. -/
def isKeyword (word : List Char) : Bool :=
  keywords.any fun keyword => keyword.toList == word

end ChapelServer
