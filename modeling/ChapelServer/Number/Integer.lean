import ChapelServer.Text.Class

/-!
# Integer numerals

Integers as people write them: blanks around, an optional sign, and decimal digits of any script
with single underscores between them. A numeral of more than 4300 digits is refused.
-/

namespace ChapelServer.Number

/-- The longest numeral that is read, in digits (`sys.int_info.default_max_str_digits`). -/
def maxDigits : Nat := 4300

/-- The refusal of a numeral with too many digits. -/
inductive TooLong
  | mk
  deriving DecidableEq, Repr

/-- The number that a run of digits spells (`int`). -/
def ofDigitRun (run : List Char) : Except TooLong Nat :=
  if run.length > maxDigits then .error .mk
  else .ok (Text.ofDigits (run.map fun c => (Text.digitValue? c).getD 0))

/-- The ASCII character that stands for `c` in a numeral: itself below U+007F, a space for any
other blank, and the ASCII digit of the same value for a digit of any script. -/
def toAscii? (c : Char) : Option Char :=
  if c.toNat < 0x7F then some c
  else if Text.isBlank c then some ' '
  else (Text.digitValue? c).map Nat.digitChar

/-- The ASCII blanks. -/
def isAsciiBlank (c : Char) : Bool :=
  c == ' ' || (0x09 ≤ c.toNat && c.toNat ≤ 0x0D)

/-- The text of a numeral in ASCII, without the blanks around it. The ASCII separators, blank as
they are elsewhere, are no blanks here. -/
def bare? (text : List Char) : Option (List Char) := do
  let ascii ← text.mapM toAscii?
  return Text.trimBy isAsciiBlank ascii

/-- The sign of a bare numeral, and the text after it. -/
def splitSign : List Char → Bool × List Char
  | '-' :: rest => (true, rest)
  | '+' :: rest => (false, rest)
  | text => (false, text)

/-- The digits of a text that goes on after a digit: more digits, each after at most one
underscore. -/
def moreDigits? : List Char → Option (List Char)
  | [] => some []
  | '_' :: d :: rest => if d.isDigit then (moreDigits? rest).map (d :: ·) else none
  | d :: rest => if d.isDigit then (moreDigits? rest).map (d :: ·) else none

/-- The digits of a text that is a run of digits with single underscores between them. -/
def digits? : List Char → Option (List Char)
  | d :: rest => if d.isDigit then (moreDigits? rest).map (d :: ·) else none
  | [] => none

/-- The integer that a text writes (`int`). -/
def integer? (text : List Char) : Option Int := do
  let (negative, text) := splitSign (← bare? text)
  let n ← (ofDigitRun (← digits? text)).toOption
  return if negative then -(n : Int) else n

/-- The decimal text of an integer (`str`). -/
def decimal (n : Int) : List Char :=
  if n < 0 then '-' :: Nat.toDigits 10 n.natAbs else Nat.toDigits 10 n.natAbs

end ChapelServer.Number
