import ChapelServer.Text.Word

/-!
# Tokens of a Chapel text

Comments, strings, numbers and identifiers, in the order in which they stand. Every other
character is passed over. A lexeme is found by its first characters and then taken as far as its
kind allows:

* a block comment up to its first `*/`, or to the end of the text;
* a line comment up to the end of its line;
* a string up to its closing quote, or to the end of its line, where a backslash takes the next
  character with it, a line break included;
* a number with all word characters glued to it, then a fraction, then an exponent;
* an identifier with all word characters and dollar signs after its first letter.
-/

namespace ChapelServer

/-- The kinds of tokens: the groups of `_TOKEN_RE`. -/
inductive Token.Kind
  | blockComment
  | lineComment
  | string
  | number
  | identifier
  deriving DecidableEq, Repr

/-- A token (`Token`): what it is, its characters, and the offset of the first one. -/
structure Token where
  kind : Token.Kind
  lexeme : List Char
  start : Nat
  deriving DecidableEq, Repr

namespace Token

/-- The offset right after the last character. -/
def stop (t : Token) : Nat :=
  t.start + t.lexeme.length

/-- An ASCII letter or an underscore: `[A-Za-z_]`. -/
def startsIdentifier (c : Char) : Bool :=
  c.isAlpha || c == '_'

/-- A word character or a dollar sign: `[\w$]`. -/
def continuesIdentifier (c : Char) : Bool :=
  Text.isWord c || c == '$'

/-- A carriage return or a line feed: `[\r\n]`. -/
def endsLine (c : Char) : Bool :=
  c == '\r' || c == '\n'

/-- The rest of a block comment, through the first `*/` or to the end. -/
def blockCommentBody : List Char → List Char
  | [] => []
  | '*' :: '/' :: _ => ['*', '/']
  | c :: rest => c :: blockCommentBody rest

/-- The rest of a string opened by `quote`. -/
def stringBody (quote : Char) : List Char → List Char
  | [] => []
  | '\\' :: c :: rest => '\\' :: c :: stringBody quote rest
  | c :: rest =>
    if c = quote then [c]
    else if c = '\\' || endsLine c then []
    else c :: stringBody quote rest

/-- The fraction that the text starts with: a point and a run of digits. -/
def fraction : List Char → List Char
  | '.' :: d :: rest => if Text.isDigit d then '.' :: d :: rest.takeWhile Text.isDigit else []
  | _ => []

/-- The digits of an exponent, which has to have one. -/
def exponentDigits : List Char → Option (List Char)
  | d :: rest => if Text.isDigit d then some (d :: rest.takeWhile Text.isDigit) else none
  | [] => none

/-- The exponent that the text starts with: its letter, an optional sign and a run of digits. -/
def exponent : List Char → List Char
  | e :: sign :: rest =>
    if e = 'e' || e = 'E' then
      if sign = '+' || sign = '-' then
        match exponentDigits rest with
        | some digits => e :: sign :: digits
        | none => []
      else
        match exponentDigits (sign :: rest) with
        | some digits => e :: digits
        | none => []
    else []
  | _ => []

/-- The rest of a number after its first digit. -/
def numberBody (rest : List Char) : List Char :=
  let glued := rest.takeWhile Text.isWord
  let rest := rest.dropWhile Text.isWord
  let fractional := fraction rest
  glued ++ fractional ++ exponent (rest.drop fractional.length)

/-- The kind and the characters of the token that the text starts with: a match of `_TOKEN_RE`. -/
def lexeme? : List Char → Option (Kind × List Char)
  | [] => none
  | '/' :: '*' :: rest => some (.blockComment, '/' :: '*' :: blockCommentBody rest)
  | '/' :: '/' :: rest => some (.lineComment, '/' :: '/' :: rest.takeWhile (!endsLine ·))
  | c :: rest =>
    if c = '"' || c = '\'' then some (.string, c :: stringBody c rest)
    else if Text.isDigit c then some (.number, c :: numberBody rest)
    else if startsIdentifier c then some (.identifier, c :: rest.takeWhile continuesIdentifier)
    else none

/-- The tokens of the text from `offset` on, when its first `inside` characters belong to a token
already taken. -/
def scanFrom : (offset inside : Nat) → List Char → List Token
  | _, _, [] => []
  | offset, inside + 1, _ :: rest => scanFrom (offset + 1) inside rest
  | offset, 0, c :: rest =>
    match lexeme? (c :: rest) with
    | none => scanFrom (offset + 1) 0 rest
    | some (kind, lexeme) =>
      { kind, lexeme, start := offset } :: scanFrom (offset + 1) (lexeme.length - 1) rest

/-- The tokens of a text, in order (`tokenize`). -/
def scan (source : List Char) : List Token :=
  scanFrom 0 0 source

end Token

end ChapelServer
