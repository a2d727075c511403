/-!
# Lines of a text

Two ways to see the lines of a text that came from outside: `unifyNewlines` turns every line end
into one line feed, and `splitLines` cuts the text at all characters that break a line.
-/

namespace ChapelServer.Text

/-- The text with each carriage return, and each carriage return with its line feed, turned into
one line feed, as a file is read as text. -/
def unifyNewlines : List Char → List Char
  | [] => []
  | '\r' :: '\n' :: rest => '\n' :: unifyNewlines rest
  | c :: rest => (if c = '\r' then '\n' else c) :: unifyNewlines rest

/-- A character that ends a line: line feed, carriage return, vertical tab, form feed, the ASCII
file, group and record separators, next line, and the line and paragraph separators. -/
def isLineBreak (c : Char) : Bool :=
  c ∈ ['\n', '\r', '\x0b', '\x0c', '\x1c', '\x1d', '\x1e', '\u0085', '\u2028', '\u2029']

/-- The character put in front of the first line. -/
def consLine (c : Char) : List (List Char) → List (List Char)
  | [] => [[c]]
  | line :: rest => (c :: line) :: rest

/-- The lines of a text without their line breaks (`splitlines`). A break at the very end opens no
line after it, and the empty text has no line. -/
def splitLines : List Char → List (List Char)
  | [] => []
  | '\r' :: '\n' :: rest => [] :: splitLines rest
  | c :: rest => if isLineBreak c then [] :: splitLines rest else consLine c (splitLines rest)

/-- The lines with a line feed between each two (`join`). -/
def joinLines (lines : List (List Char)) : List Char :=
  ['\n'].intercalate lines

end ChapelServer.Text
