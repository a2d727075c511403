import ChapelServer.Text.CodePoint

/-!
# Layout specs

The part of a replacement field after its colon says how the value is laid out:
`[[fill]align][sign][z][#][0][width][,|_][.precision][kind]` (`__format__`). Only its fill may be
any code point.
-/

namespace ChapelServer.Template

/-- The largest number that a template may write (`sys.maxsize`). -/
def maxNumber : Nat := 0x7FFFFFFFFFFFFFFF

/-- A number read from the digits of a text: none of its characters, a number, or too large a
one. -/
inductive Reading
  | number (n : Nat)
  | tooLarge
  deriving DecidableEq, Repr

/-- The number that the digits at the start of a text go on from `n`, and the text after them. -/
def readNumber (n : Nat) : Text → Reading × Text
  | [] => (.number n, [])
  | c :: rest =>
    match Text.digitValue? c.shown with
    | none => (.number n, c :: rest)
    | some d => if n * 10 + d > maxNumber then (.tooLarge, rest) else readNumber (n * 10 + d) rest

/-- Where the padding goes. -/
inductive Align
  | left
  | right
  | center
  /-- Between the sign and the digits. -/
  | afterSign
  deriving DecidableEq, Repr

/-- The alignment that a code point stands for: one of `<>^=`. -/
def Align.ofPoint? (c : CodePoint) : Option Align :=
  if c = '<' then some .left
  else if c = '>' then some .right
  else if c = '^' then some .center
  else if c = '=' then some .afterSign
  else none

/-- How the sign of a number is shown. -/
inductive Sign
  | plus
  | minus
  | space
  deriving DecidableEq, Repr

/-- The sign that a code point asks for: one of `+- `. -/
def Sign.ofPoint? (c : CodePoint) : Option Sign :=
  if c = '+' then some .plus
  else if c = '-' then some .minus
  else if c = ' ' then some .space
  else none

/-- A layout spec. -/
structure Spec where
  fill : CodePoint
  align : Align
  sign : Option Sign
  noNegativeZero : Bool
  alternate : Bool
  width : Option Nat
  separator : Option Char
  precision : Option Nat
  kind : Char
  deriving DecidableEq, Repr

/-- The fill and alignment that a spec starts with. -/
def readAlign : Text → Option (Option CodePoint × Align) × Text
  | fill :: a :: rest =>
    match Align.ofPoint? a with
    | some align => (some (some fill, align), rest)
    | none =>
      match Align.ofPoint? fill with
      | some align => (some (none, align), a :: rest)
      | none => (none, fill :: a :: rest)
  | [a] =>
    match Align.ofPoint? a with
    | some align => (some (none, align), [])
    | none => (none, [a])
  | [] => (none, [])

/-- The sign that a text starts with. -/
def readSign : Text → Option Sign × Text
  | c :: rest =>
    match Sign.ofPoint? c with
    | some sign => (some sign, rest)
    | none => (none, c :: rest)
  | [] => (none, [])

/-- Whether the text starts with a character, and the text after it. -/
def readFlag (flag : Char) : Text → Bool × Text
  | c :: rest => if c = flag then (true, rest) else (false, c :: rest)
  | [] => (false, [])

/-- The number that a text starts with, if it does; refuses one that is too large. -/
def readWidth? (text : Text) : Option (Option Nat × Text) :=
  match text with
  | [] => some (none, [])
  | c :: _ =>
    if Text.isDigit c.shown then
      match readNumber 0 text with
      | (.number n, rest) => some (some n, rest)
      | (.tooLarge, _) => none
    else some (none, text)

/-- The separator of digit groups that a text starts with; two different ones are refused. -/
def readSeparator? : Text → Option (Option Char × Text)
  | .char ',' :: .char '_' :: _ => none
  | .char ',' :: rest => some (some ',', rest)
  | .char '_' :: .char ',' :: _ => none
  | .char '_' :: rest => some (some '_', rest)
  | text => some (none, text)

/-- The precision that a text starts with; a point with no number after it is refused. -/
def readPrecision? : Text → Option (Option Nat × Text)
  | .char '.' :: rest =>
    match readWidth? rest with
    | some (some n, rest) => some (some n, rest)
    | _ => none
  | text => some (none, text)

/-- The kind at the end of a spec; nothing may follow it. A surrogate is no kind. -/
def readKind? (default : Char) : Text → Option Char
  | [] => some default
  | [kind] => some kind.shown
  | _ => none

/-- Groups can be separated in a number of this kind: by commas and underscores in decimal ones,
by underscores alone in binary, octal and hexadecimal ones. -/
def allowsSeparator (kind separator : Char) : Bool :=
  kind ∈ ['d', 'e', 'f', 'g', 'E', 'G', '%', 'F'] ||
    (separator == '_' && kind ∈ ['b', 'o', 'x', 'X'])

/-- The spec that a text writes, for values of the kind `default` aligned as `align` unless it
says otherwise. A zero before the width fills with zeros, after the sign of what is aligned to the
right. -/
def Spec.read? (default : Char) (align : Align) (text : Text) : Option Spec := do
  let (aligned, text) := readAlign text
  let (sign, text) := readSign text
  let (noNegativeZero, text) := readFlag 'z' text
  let (alternate, text) := readFlag '#' text
  let fill := aligned.bind (·.1)
  let (zero, text) := if fill.isSome then (false, text) else readFlag '0' text
  let (width, text) ← readWidth? text
  let (separator, text) ← readSeparator? text
  let (precision, text) ← readPrecision? text
  let kind ← readKind? default text
  if !separator.all (allowsSeparator kind ·) then none
  return {
    fill := fill.getD (if zero then '0' else ' ')
    align :=
      match aligned with
      | some (_, a) => a
      | none => if zero && align = .right then .afterSign else align
    sign, noNegativeZero, alternate, width, separator, precision, kind }

end ChapelServer.Template
