import ChapelServer.Number.Integer
import ChapelServer.Number.Rounding

/-!
# Binary floating point numbers

The numbers of the IEEE 754 double format, kept exactly: a finite one is a mantissa of at most 53
bits times a power of two, counted in units of `2 ^ -1074`. Reading a quotient rounds it to the
nearest of them, a half going to the even mantissa, and to infinity beyond the largest.
-/

namespace ChapelServer.Number

/-- A double (`float`): `finite negative mantissa scale` is `mantissa * 2 ^ scale * 2 ^ -1074`, with
the sign in front. -/
inductive Binary64
  | nan
  | infinite (negative : Bool)
  | finite (negative : Bool) (mantissa scale : Nat)
  deriving DecidableEq, Repr

namespace Binary64

/-- The finest scale: one unit is `2 ^ -unitExponent`. -/
def unitExponent : Nat := 1074

/-- The largest scale of a finite number. -/
def maxScale : Nat := 2045

/-- The number with a mantissa and scale, infinite beyond the largest scale. -/
def ofParts (negative : Bool) (mantissa scale : Nat) : Binary64 :=
  if scale > maxScale then .infinite negative else .finite negative mantissa scale

/-- The double nearest to a quotient. -/
def ofRatio (negative : Bool) (r : Ratio) : Binary64 :=
  let units := r.num * Nat.pow 2 unitExponent
  let scale := Nat.log2 (units / r.den) + 1 - 53
  let mantissa := roundHalfEven units (r.den * Nat.pow 2 scale)
  if mantissa = Nat.pow 2 53 then ofParts negative (Nat.pow 2 52) (scale + 1)
  else ofParts negative mantissa scale

/-- The double nearest to `coefficient * 10 ^ exponent`. Exponents far outside the format are
settled by the place of the leading digit. -/
def ofDecimal (negative : Bool) (coefficient : Nat) (exponent : Int) : Binary64 :=
  let point := exponent + decimalWidth coefficient
  if coefficient = 0 then .finite negative 0 0
  else if point > 400 then .infinite negative
  else if point < -400 then .finite negative 0 0
  else ofRatio negative (Ratio.shift ⟨coefficient, 1⟩ exponent)

/-- The number, unless it is infinite. -/
def bounded? : Binary64 → Option Binary64
  | .infinite _ => none
  | x => some x

/-- The double nearest to an integer (`float`), unless that is infinite. -/
def ofInt? (n : Int) : Option Binary64 :=
  (ofRatio (n < 0) ⟨n.natAbs, 1⟩).bounded?

/-- The magnitude of a finite number as a quotient. -/
def magnitude (mantissa scale : Nat) : Ratio :=
  ⟨mantissa * Nat.pow 2 scale, Nat.pow 2 unitExponent⟩

/-- The number is negative or zero (`<= 0`). No order holds with `nan`. -/
def atMostZero : Binary64 → Bool
  | .nan => false
  | .infinite negative => negative
  | .finite negative mantissa _ => negative || mantissa = 0

end Binary64

/-- The text in lower case ASCII letters. -/
def lowerCase (text : List Char) : List Char :=
  text.map Char.toLower

/-- The text without its underscores, each of which has to stand between two digits; `before` is
the character before the text. -/
def dropUnderscores? : (before : Option Char) → List Char → Option (List Char)
  | _, [] => some []
  | before, '_' :: rest =>
    match before, rest with
    | some b, a :: _ =>
      if b.isDigit && a.isDigit then dropUnderscores? (some '_') rest else none
    | _, _ => none
  | _, c :: rest => (dropUnderscores? (some c) rest).map (c :: ·)

/-- The exponent that a text is, `some 0` for the empty text. -/
def exponentOf? : List Char → Option Int
  | [] => some 0
  | e :: rest =>
    if e = 'e' || e = 'E' then
      let (negative, digits) := splitSign rest
      if digits ≠ [] && digits.all Char.isDigit then
        let n := Text.ofDigits (digits.map fun c => c.toNat - '0'.toNat)
        some (if negative then -(n : Int) else n)
      else none
    else none

/-- The double that an unsigned decimal text writes: digits, a point among or around them, and an
exponent. -/
def unsignedDecimal? (negative : Bool) (text : List Char) : Option Binary64 := do
  let whole := text.takeWhile Char.isDigit
  let text := text.dropWhile Char.isDigit
  let (places, text) :=
    match text with
    | '.' :: rest => (rest.takeWhile Char.isDigit, rest.dropWhile Char.isDigit)
    | _ => ([], text)
  let digits := whole ++ places
  if digits = [] then none
  let exponent ← exponentOf? text
  let coefficient := Text.ofDigits (digits.map fun c => c.toNat - '0'.toNat)
  return .ofDecimal negative coefficient (exponent - places.length)

/-- The double that a text writes (`float`): a decimal numeral, or the name of a special number in
letters of any case, with blanks around it and an optional sign. -/
def real? (text : List Char) : Option Binary64 := do
  let (negative, text) := splitSign (← dropUnderscores? none (← bare? text))
  let name := String.ofList (lowerCase text)
  if name = "inf" || name = "infinity" then return .infinite negative
  else if name = "nan" then return .nan
  else unsignedDecimal? negative text

end ChapelServer.Number
