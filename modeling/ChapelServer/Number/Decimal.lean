import ChapelServer.Number.Binary64

/-!
# Decimal texts of numbers

A positive quotient is first turned into decimal digits with a place for the point, either with a
given number of digits or with the fewest that read back as the same double; then the digits are
laid out with a point or with an exponent.
-/

namespace ChapelServer.Number

/-- Decimal digits with a point: the value is `0.d₁d₂… * 10 ^ point`. -/
structure Decimal where
  digits : List Char
  point : Int
  deriving DecidableEq, Repr

/-- A number laid out: the digits before the point, and all that follows them. -/
structure Layout where
  whole : List Char
  rest : List Char
  deriving DecidableEq, Repr

/-- The whole text of a number laid out. -/
def Layout.text (l : Layout) : List Char :=
  l.whole ++ l.rest

/-- The quotient rounded to `count` significant digits, a half going to the even digit. -/
def Ratio.significant (r : Ratio) (count : Nat) : Decimal :=
  if r.num = 0 then ⟨List.replicate count '0', 1⟩
  else
    let n := (r.shift (count - r.point)).round
    if n = Nat.pow 10 count then ⟨'1' :: List.replicate (count - 1) '0', r.point + 1⟩
    else ⟨Nat.toDigits 10 n, r.point⟩

namespace Decimal

/-- The digits without the zeros at their end; the first digit stays. -/
def trimZeros (d : Decimal) : Decimal :=
  match d.digits with
  | [] => d
  | first :: rest => { d with digits := first :: (rest.reverse.dropWhile (· == '0')).reverse }

/-- The point and the digits after it, or nothing if there are none and no point is kept. -/
def withPoint (keepPoint : Bool) (places : List Char) : List Char :=
  if places = [] && !keepPoint then [] else '.' :: places

/-- The digits written with a point in its place. -/
def positional (keepPoint : Bool) (d : Decimal) : Layout :=
  if d.point ≤ 0 then
    ⟨['0'], withPoint keepPoint (List.replicate d.point.natAbs '0' ++ d.digits)⟩
  else
    let count := d.point.toNat
    ⟨d.digits.take count ++ List.replicate (count - d.digits.length) '0',
      withPoint keepPoint (d.digits.drop count)⟩

/-- The exponent with its sign and at least two digits. -/
def exponentText (e : Int) : List Char :=
  let digits := Nat.toDigits 10 e.natAbs
  (if e < 0 then '-' else '+') :: List.replicate (2 - digits.length) '0' ++ digits

/-- The digits written with the point after the first one and an exponent. -/
def scientific (keepPoint : Bool) (mark : Char) (d : Decimal) : Layout :=
  ⟨d.digits.take 1, withPoint keepPoint (d.digits.drop 1) ++ mark :: exponentText (d.point - 1)⟩

end Decimal

/-- The quotient with a fixed number of places after the point (`:f`). -/
def Ratio.fixed (keepPoint : Bool) (places : Nat) (r : Ratio) : Layout :=
  let digits := Nat.toDigits 10 (r.shift places).round
  let digits := List.replicate (places + 1 - digits.length) '0' ++ digits
  let count := digits.length - places
  ⟨digits.take count, Decimal.withPoint keepPoint (digits.drop count)⟩

/-- The quotient with an exponent and a fixed number of places after the point (`:e`). -/
def Ratio.exponential (keepPoint : Bool) (mark : Char) (places : Nat) (r : Ratio) : Layout :=
  (r.significant (places + 1)).scientific keepPoint mark

/-- The quotient with a number of significant digits (`:g`): with an exponent when it is below `10 ^
-4` or needs more digits than that before the point. The zeros at the end are left out, unless
`keepZeros`. -/
def Ratio.general (keepZeros : Bool) (mark : Char) (count : Nat) (r : Ratio) : Layout :=
  let count := max 1 count
  let rounded := r.significant count
  let d := if keepZeros then rounded else rounded.trimZeros
  if d.point ≤ -4 || d.point > count then d.scientific keepZeros mark
  else d.positional keepZeros

namespace Binary64

/-- The decimals of `count` digits next to a finite number that read back as that number, with
their distances from it in a common unit. -/
def readingBack (mantissa scale count : Nat) : List (Nat × Nat) :=
  let r := magnitude mantissa scale
  let shifted := r.shift (count - r.point)
  let below := shifted.num / shifted.den
  let distance := shifted.num % shifted.den
  let readsBack := fun n =>
    ofRatio false (Ratio.shift ⟨n, 1⟩ (r.point - count)) = .finite false mantissa scale
  [(below, distance), (below + 1, shifted.den - distance)].filter fun c => readsBack c.1

/-- The nearest of the decimals, the even one of two equally near. -/
def nearest? : List (Nat × Nat) → Option Nat
  | [] => none
  | [(n, _)] => some n
  | (n, dn) :: (m, dm) :: _ =>
    some (if dn < dm then n else if dm < dn then m else if n % 2 = 0 then n else m)

/-- The fewest digits that read back as the positive finite number, and of those the nearest to
it. Seventeen digits are always enough. -/
def shortest (mantissa scale : Nat) : Decimal :=
  let r := magnitude mantissa scale
  let found := (List.range 17).findSome? fun i =>
    (nearest? (readingBack mantissa scale (i + 1))).map fun n => (i + 1, n)
  match found with
  | none => r.significant 17
  | some (count, n) =>
    let digits := Nat.toDigits 10 n
    Decimal.trimZeros ⟨digits, r.point + ((digits.length : Int) - count)⟩

/-- The sign in front of a number. -/
def signText (negative : Bool) : List Char :=
  if negative then ['-'] else []

/-- The shortest text that reads back as the number (`repr`). It is positional below `10 ^ 16` and
from `10 ^ -4` on, and then always has a place after the point. -/
def text : Binary64 → List Char
  | .nan => "nan".toList
  | .infinite negative => signText negative ++ "inf".toList
  | .finite negative mantissa scale =>
    let d := if mantissa = 0 then ⟨['0'], 1⟩ else shortest mantissa scale
    signText negative ++
      if d.point ≤ -4 || d.point > 16 then (d.scientific false 'e').text
      else
        let layout := d.positional true
        layout.text ++ if layout.rest = ['.'] then ['0'] else []

/-- The text with at most six significant digits (`:g`). -/
def shortText : Binary64 → List Char
  | .nan => "nan".toList
  | .infinite negative => signText negative ++ "inf".toList
  | .finite negative mantissa scale =>
    signText negative ++ ((magnitude mantissa scale).general false 'e' 6).text

/-- The integer part of a finite number (`int`). -/
def truncate (negative : Bool) (mantissa scale : Nat) : Int :=
  let r := magnitude mantissa scale
  let n : Int := (r.num / r.den : Nat)
  if negative then -n else n

end Binary64

end ChapelServer.Number
