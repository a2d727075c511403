/-!
# Rounding quotients

A quotient of naturals rounded to the nearest natural, a half going to the even neighbour, and the
two ways to move a quotient by powers of ten.
-/

namespace ChapelServer.Number

/-- The natural nearest to `n / d`, the even one of two equally near. -/
def roundHalfEven (n d : Nat) : Nat :=
  let q := n / d
  let twice := 2 * (n % d)
  if twice < d then q else if twice = d then q + q % 2 else q + 1

/-- A quotient of naturals. -/
structure Ratio where
  num : Nat
  den : Nat
  deriving DecidableEq, Repr

/-- The quotient times a power of ten. -/
def Ratio.shift (r : Ratio) (exponent : Int) : Ratio :=
  match exponent with
  | .ofNat e => ⟨r.num * Nat.pow 10 e, r.den⟩
  | .negSucc e => ⟨r.num, r.den * Nat.pow 10 (e + 1)⟩

/-- The quotient rounded to the nearest natural. -/
def Ratio.round (r : Ratio) : Nat :=
  roundHalfEven r.num r.den

/-- The number of decimal digits of a natural. -/
def decimalWidth (n : Nat) : Nat :=
  (Nat.toDigits 10 n).length

/-- The place of the decimal point of a positive quotient: the least `k` with the quotient below
`10 ^ k`. -/
def Ratio.point (r : Ratio) : Int :=
  let estimate : Int := (decimalWidth r.num : Int) - decimalWidth r.den
  let scaled := r.shift (-estimate)
  if scaled.den ≤ scaled.num then estimate + 1 else estimate

end ChapelServer.Number
