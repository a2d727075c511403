import ChapelServer.Text.Class
import ChapelServer.Text.Utf8

/-!
# Texts

A text is a list of code points. Most code points are characters, but a client may also send a
surrogate that has no partner, and a template can make one from its number. Such a text has no
UTF-8, and the system takes it for a file name or a word of a command only if each surrogate in it
stands for a byte.
-/

namespace ChapelServer

/-- A code point: a character, or a surrogate by its place in the block from U+D800 on. -/
inductive CodePoint
  | char (c : Char)
  | surrogate (n : Fin 0x800)
  deriving DecidableEq, Repr

/-- A text (`str`). -/
abbrev Text := List CodePoint

namespace CodePoint

instance : Coe Char CodePoint := ⟨.char⟩

/-- The code point of a number (`chr`). -/
def ofNat (n : Nat) : CodePoint :=
  if h : 0xD800 ≤ n ∧ n < 0xE000 then .surrogate ⟨n - 0xD800, by omega⟩ else .char (Char.ofNat n)

/-- The number of a code point (`ord`). -/
def toNat : CodePoint → Nat
  | .char c => c.toNat
  | .surrogate n => 0xD800 + n

/-- The character, if it is one. -/
def char? : CodePoint → Option Char
  | .char c => some c
  | .surrogate _ => none

/-- The character that is read for a code point. Nothing is read into a surrogate: it is no blank,
no digit, no part of a word and no sign, just like the replacement character. -/
def shown : CodePoint → Char
  | .char c => c
  | .surrogate _ => '\uFFFD'

/-- A blank character. -/
def isBlank (c : CodePoint) : Bool :=
  Text.isBlank c.shown

/-- A surrogate that stands for no byte. Those from U+DC80 to U+DCFF stand for the bytes from 0x80
on (`surrogateescape`). -/
def isStray : CodePoint → Bool
  | .char _ => false
  | .surrogate n => !(0x480 ≤ n.val && n.val < 0x500)

/-- The bytes of a code point in the name of a file. -/
def byteSize : CodePoint → Nat
  | .char c => c.utf8Size
  | .surrogate _ => 1

end CodePoint

namespace Text

/-- The text of characters. -/
def ofChars (s : List Char) : Text :=
  s.map .char

/-- The text of a string. -/
def ofString (s : String) : Text :=
  ofChars s.toList

instance : Coe String Text := ⟨ofString⟩

/-- The characters that are read for a text. -/
def chars (t : Text) : List Char :=
  t.map CodePoint.shown

/-- The string that is read for a text. -/
def string (t : Text) : String :=
  String.ofList t.chars

/-- The characters of a text, if it has nothing else. -/
def chars? (t : Text) : Option (List Char) :=
  t.mapM CodePoint.char?

@[simp] theorem chars?_ofChars (s : List Char) : (ofChars s).chars? = some s := by
  induction s with
  | nil => rfl
  | cons c s ih =>
    rw [chars?, ofChars, List.map_cons, List.mapM_cons, ← ofChars, ← chars?, ih]
    rfl

/-- The UTF-8 of a text (`encode`), unless it has a surrogate in it (`UnicodeEncodeError`). -/
def utf8? (t : Text) : Option (List UInt8) :=
  t.chars?.map fun s => Utf8.encode (String.ofList s)

/-- The text without the blanks around it (`strip`). -/
def stripped (t : Text) : Text :=
  trimBy CodePoint.isBlank t

/-- The bytes of a text in the name of a file. -/
def byteSize (t : Text) : Nat :=
  t.foldl (fun total c => total + c.byteSize) 0

/-- Why the system does not take a text: `UnicodeEncodeError`, or `ValueError`. -/
inductive Flaw
  | surrogate
  | nul
  deriving DecidableEq, Repr

/-- What the system finds wrong with a text. It is encoded before null characters are looked for. -/
def flaw? (t : Text) : Option Flaw :=
  if t.any CodePoint.isStray then some .surrogate
  else if t.contains '\x00' then some .nul
  else none

/-- The texts with a text between each two (`join`). -/
def joined (between : Text) (texts : List Text) : Text :=
  between.intercalate texts

end Text

end ChapelServer
