import ChapelServer.Number.Decimal
import ChapelServer.Template.Spec

/-!
# Laying out values

Texts are cut to the precision and padded to the width. Numbers are written in the base or the
decimal form of their kind, as a sign, a mark of the base, digits in groups, and a rest, and padded
before, between or after these parts. How many characters there is room for depends on the host.
-/

namespace ChapelServer.Template

/-- Why a template cannot be filled in. -/
inductive Error
  /-- A brace, a name, a conversion or a spec that means nothing (`ValueError`). -/
  | malformed
  /-- A field of an unknown name (`KeyError`). -/
  | unknownName
  /-- A field by position, or a subscript beyond the end of a text (`IndexError`). -/
  | noSuchItem
  /-- A subscript on what has no such items (`TypeError`). -/
  | notSubscriptable
  /-- An attribute that the value does not have (`AttributeError`). -/
  | noAttribute
  /-- A number too large for its kind (`OverflowError`). -/
  | outOfRange
  /-- A layout of what has none (`TypeError`). -/
  | noLayout
  /-- A text that there is no room for (`MemoryError`). -/
  | tooLong
  deriving DecidableEq, Repr

/-- The padding before and after `length` characters in the width of the spec. -/
def Spec.padding (spec : Spec) (length : Nat) : Text × Text :=
  let missing := spec.width.getD 0 - length
  let pad := fun n => List.replicate n spec.fill
  match spec.align with
  | .left => ([], pad missing)
  | .right | .afterSign => (pad missing, [])
  | .center => (pad (missing / 2), pad (missing - missing / 2))

/-- The spec asks for more characters than there is room for. -/
def Spec.tooWide (spec : Spec) (room : Nat) : Bool :=
  spec.width.getD 0 > room

/-- A text laid out (`str.__format__`). Signs, groups and the other marks of numbers are refused. -/
def renderText (room : Nat) (spec : Spec) (text : Text) : Except Error Text :=
  if spec.kind ≠ 's' || spec.sign.isSome || spec.noNegativeZero || spec.alternate
      || spec.align = .afterSign then .error .malformed
  else if spec.tooWide room then .error .tooLong
  else
    let text := match spec.precision with
      | some count => text.take count
      | none => text
    let (before, after) := spec.padding text.length
    .ok (before ++ text ++ after)

/-- The digits with a separator before each full group of `size` from the right; `following` is
the number of digits after the first. -/
def separateFrom (separator : Char) (size : Nat) : (following : Nat) → List Char → List Char
  | _, [] => []
  | following, d :: rest =>
    let more := separateFrom separator size (following - 1) rest
    if following ≠ 0 && following % size = 0 then d :: separator :: more else d :: more

/-- The digits with a separator before each full group of `size` from the right. -/
def separate (separator : Char) (size : Nat) (digits : List Char) : List Char :=
  separateFrom separator size (digits.length - 1) digits

/-- The least number of digits that fill `width` characters when they are separated into groups
of `size`. -/
def digitsToFill (size width : Nat) : Nat :=
  width - (width - 1) / (size + 1)

/-- The digits with zeros before them up to a count. -/
def zeroExtend (count : Nat) (digits : List Char) : List Char :=
  List.replicate (count - digits.length) '0' ++ digits

/-- The digits in groups as the spec asks, filled with zeros to at least `width` characters. -/
def Spec.group (spec : Spec) (width : Nat) (digits : List Char) : List Char :=
  match spec.separator with
  | none => zeroExtend width digits
  | some separator =>
    let size := if spec.kind ∈ ['b', 'o', 'x', 'X'] then 4 else 3
    separate separator size (zeroExtend (digitsToFill size width) digits)

/-- The sign shown before a number. -/
def Spec.signText (spec : Spec) (negative : Bool) : List Char :=
  if negative then ['-']
  else
    match spec.sign with
    | some .plus => ['+']
    | some .space => [' ']
    | _ => []

/-- The parts of a number laid out. Zeros that fill after the sign count as digits and are
grouped with them. -/
def Spec.number (spec : Spec) (negative : Bool) (mark digits : List Char) (rest : Text) : Text :=
  let sign := spec.signText negative
  let fixed := sign.length + mark.length + rest.length
  let digitWidth :=
    if spec.fill = '0' && spec.align = .afterSign then spec.width.getD 0 - fixed else 0
  let digits := if digits = [] then [] else spec.group digitWidth digits
  let (before, after) := spec.padding (fixed + digits.length)
  match spec.align with
  | .afterSign => .ofChars (sign ++ mark) ++ before ++ .ofChars digits ++ rest
  | _ => before ++ .ofChars (sign ++ mark ++ digits) ++ rest ++ after

/-- The base of an integer kind, with the mark of that base. -/
def baseOf? (kind : Char) : Option (Nat × List Char) :=
  match kind with
  | 'b' => some (2, ['0', 'b'])
  | 'o' => some (8, ['0', 'o'])
  | 'x' => some (16, ['0', 'x'])
  | 'X' => some (16, ['0', 'X'])
  | 'd' => some (10, [])
  | 'n' => some (10, [])
  | _ => none

/-- An integer in a base (`:b`, `:o`, `:x`, `:X`, `:d` and `:n`). A precision is refused. -/
def renderInteger (room : Nat) (spec : Spec) (base : Nat) (mark : List Char) (n : Int) :
    Except Error Text :=
  if spec.precision.isSome || spec.noNegativeZero then .error .malformed
  else if spec.tooWide room then .error .tooLong
  else
    let digits := Nat.toDigits base n.natAbs
    let digits := if spec.kind = 'X' then digits.map Char.toUpper else digits
    .ok (spec.number (n < 0) (if spec.alternate then mark else []) digits [])

/-- The code point of a number (`:c`). -/
def renderPoint (room : Nat) (spec : Spec) (n : Int) : Except Error Text :=
  if spec.precision.isSome || spec.noNegativeZero || spec.sign.isSome || spec.alternate then
    .error .malformed
  else if n < 0 || n > 0x10FFFF then .error .outOfRange
  else if spec.tooWide room then .error .tooLong
  else .ok (spec.number false [] [] [.ofNat n.toNat])

/-- The largest precision of a decimal form (`INT_MAX`). -/
def maxPrecision : Nat := 0x7FFFFFFF

/-- More significant digits than any integer has that is a double. -/
def maxSignificant : Nat := 400

/-- The decimal form of a kind has as many digits as its precision says. The general kinds leave
out the zeros at the end, unless they are asked to keep them. -/
def Spec.writesPrecision (spec : Spec) : Bool :=
  spec.alternate || (spec.kind != 'g' && spec.kind != 'G')

/-- The precision of a decimal form: six unless the spec gives one, and no more than can matter. -/
def Spec.effectivePrecision (spec : Spec) : Nat :=
  let precision := spec.precision.getD 6
  if spec.writesPrecision then precision else min precision maxSignificant

/-- A quotient in the decimal form of a kind. -/
def decimalLayout (kind : Char) (keepPoint : Bool) (precision : Nat) (r : Number.Ratio) :
    Number.Layout :=
  match kind with
  | 'e' | 'E' => r.exponential keepPoint kind precision
  | 'g' => r.general keepPoint 'e' precision
  | 'G' => r.general keepPoint 'E' precision
  | _ => r.fixed keepPoint precision

/-- A hundred times a finite double, laid out as a percentage (`:%`). -/
def percentLayout (keepPoint : Bool) (precision : Nat) (r : Number.Ratio) : Number.Layout :=
  match Number.Binary64.ofRatio false ⟨r.num * 100, r.den⟩ with
  | .finite _ mantissa scale =>
    let layout := (Number.Binary64.magnitude mantissa scale).fixed keepPoint precision
    { layout with rest := layout.rest ++ ['%'] }
  | _ => ⟨[], "inf%".toList⟩

/-- An integer in a decimal form (`:e`, `:f`, `:g`, `:%`), by way of the nearest double. -/
def renderDecimal (room : Nat) (spec : Spec) (n : Int) : Except Error Text :=
  match Number.Binary64.ofInt? n with
  | some (.finite negative mantissa scale) =>
    let precision := spec.effectivePrecision
    if spec.precision.any (· > maxPrecision) then .error .malformed
    else if spec.tooWide room || precision > room then .error .tooLong
    else
      let r := Number.Binary64.magnitude mantissa scale
      let layout :=
        if spec.kind = '%' then percentLayout spec.alternate precision r
        else decimalLayout spec.kind spec.alternate precision r
      .ok (spec.number negative [] layout.whole (.ofChars layout.rest))
  | _ => .error .outOfRange

/-- A number laid out by the kind of the spec (`int.__format__`). -/
def renderNumber (room : Nat) (spec : Spec) (n : Int) : Except Error Text :=
  if spec.kind = 'c' then renderPoint room spec n
  else if spec.kind ∈ ['e', 'E', 'f', 'F', 'g', 'G', '%'] then renderDecimal room spec n
  else
    match baseOf? spec.kind with
    | some (base, mark) => renderInteger room spec base mark n
    | none => .error .malformed

end ChapelServer.Template
