/-!
# Classes of characters

Classes are kept as tables of inclusive ranges of code points. Here are the blanks of every script,
with the texts trimmed of them, and the decimal digits: each script's digits stand in one block of
ten consecutive characters, so that the value of a digit is its place in the block.
-/

namespace ChapelServer.Text

/-- The code point lies in one of the ranges. -/
def inRanges (table : List (Nat × Nat)) (n : Nat) : Bool :=
  table.any fun range => range.1 ≤ n && n ≤ range.2

/-! ## Blanks -/

/-- The blank characters. -/
def blankRanges : List (Nat × Nat) := [
  (0x0009, 0x000D), (0x001C, 0x0020), (0x0085, 0x0085), (0x00A0, 0x00A0), (0x1680, 0x1680),
  (0x2000, 0x200A), (0x2028, 0x2029), (0x202F, 0x202F), (0x205F, 0x205F), (0x3000, 0x3000)]

/-- White space of any script, with the ASCII separators U+001C to U+001F (`\s`, `isspace`). The
zero width space and the byte order mark are not blank. -/
def isBlank (c : Char) : Bool :=
  inRanges blankRanges c.toNat

/-- The list without the items of a class at its start. -/
def trimStartBy {α : Type} (blank : α → Bool) (s : List α) : List α :=
  s.dropWhile blank

/-- The list without the items of a class at its end. -/
def trimEndBy {α : Type} (blank : α → Bool) (s : List α) : List α :=
  (s.reverse.dropWhile blank).reverse

/-- The list without the items of a class at both ends. -/
def trimBy {α : Type} (blank : α → Bool) (s : List α) : List α :=
  trimEndBy blank (trimStartBy blank s)

/-- The characters without the blanks at their end (`rstrip`). -/
def trimEnd (s : List Char) : List Char :=
  trimEndBy isBlank s

/-- The characters without the blanks around them (`strip`). -/
def trim (s : List Char) : List Char :=
  trimBy isBlank s

/-! ## Digits -/

/-- The zero of each block of decimal digits. -/
def digitZeros : List Nat := [
  0x0030, 0x0660, 0x06F0, 0x07C0, 0x0966, 0x09E6, 0x0A66, 0x0AE6, 0x0B66, 0x0BE6, 0x0C66, 0x0CE6,
  0x0D66, 0x0DE6, 0x0E50, 0x0ED0, 0x0F20, 0x1040, 0x1090, 0x17E0, 0x1810, 0x1946, 0x19D0, 0x1A80,
  0x1A90, 0x1B50, 0x1BB0, 0x1C40, 0x1C50, 0xA620, 0xA8D0, 0xA900, 0xA9D0, 0xA9F0, 0xAA50, 0xABF0,
  0xFF10, 0x104A0, 0x10D30, 0x11066, 0x110F0, 0x11136, 0x111D0, 0x112F0, 0x11450, 0x114D0,
  0x11650, 0x116C0, 0x11730, 0x118E0, 0x11950, 0x11C50, 0x11D50, 0x11DA0, 0x16A60, 0x16AC0,
  0x16B50, 0x1D7CE, 0x1D7D8, 0x1D7E2, 0x1D7EC, 0x1D7F6, 0x1E140, 0x1E2F0, 0x1E950, 0x1FBF0]

/-- The value of a decimal digit of any script. -/
def digitValue? (c : Char) : Option Nat :=
  (digitZeros.find? fun first => first ≤ c.toNat && c.toNat < first + 10).map (c.toNat - ·)

/-- A decimal digit of any script (`\d`). -/
def isDigit (c : Char) : Bool :=
  (digitValue? c).isSome

/-- The number that a run of digit values spells, most significant first. -/
def ofDigits (digits : List Nat) : Nat :=
  digits.foldl (fun n d => 10 * n + d) 0

end ChapelServer.Text
