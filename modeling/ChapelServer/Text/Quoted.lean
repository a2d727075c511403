import ChapelServer.Text.CodePoint
import ChapelServer.Text.Printable

/-!
# Quoted text

A text inside quotes, with escapes for what would not show: single quotes, or double quotes when
the text has a single quote and no double one (`repr`). A surrogate is always escaped, so that the
quoted text has characters only.
-/

namespace ChapelServer.Text

/-- The lower case hexadecimal digits of `n`, filled with zeros up to `width`. -/
def hexDigits (width n : Nat) : List Char :=
  let digits := Nat.toDigits 16 n
  List.replicate (width - digits.length) '0' ++ digits

/-- The escape of a code point by its number, in the shortest of three widths. -/
def codePointEscape (n : Nat) : List Char :=
  if n ≤ 0xFF then '\\' :: 'x' :: hexDigits 2 n
  else if n ≤ 0xFFFF then '\\' :: 'u' :: hexDigits 4 n
  else '\\' :: 'U' :: hexDigits 8 n

/-- The character as it stands between the quotes `quote`. -/
def quotedChar (quote c : Char) : List Char :=
  if c = quote || c = '\\' then ['\\', c]
  else if c = '\n' then ['\\', 'n']
  else if c = '\r' then ['\\', 'r']
  else if c = '\t' then ['\\', 't']
  else if isPrintable c then [c]
  else codePointEscape c.toNat

/-- The code point as it stands between the quotes `quote`. -/
def quotedPoint (quote : Char) : CodePoint → List Char
  | .char c => quotedChar quote c
  | .surrogate n => codePointEscape (CodePoint.surrogate n).toNat

/-- The quote that a text is put in. -/
def quoteFor (t : Text) : Char :=
  if t.contains '\'' && !t.contains '"' then '"' else '\''

/-- The text in quotes (`repr`). -/
def quoted (t : Text) : List Char :=
  let quote := quoteFor t
  quote :: t.flatMap (quotedPoint quote) ++ [quote]

/-- The text in quotes, as a string. -/
def quotedString (t : Text) : String :=
  String.ofList (quoted t)

/-- The characters with each one outside ASCII written as an escape (`ascii`). -/
def asciiOnly (s : List Char) : List Char :=
  s.flatMap fun c => if c.toNat < 0x80 then [c] else codePointEscape c.toNat

end ChapelServer.Text
