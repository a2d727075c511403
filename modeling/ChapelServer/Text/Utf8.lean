/-!
# Reading UTF-8

Bytes are read one by one. After a leading byte the reader knows how many continuation bytes are
missing and in which range the next one has to lie; a byte outside it ends the character as ill
formed and is read again as a leading byte. So each maximal ill-formed part is one item, which the
lossy reading shows as one replacement character and the strict reading refuses.
-/

namespace ChapelServer.Text.Utf8

/-- What the reader is in the middle of: nothing, or a character that still needs `missing`
continuation bytes, the next of them between `low` and `high`. -/
inductive Pending
  | idle
  | expecting (missing low high value : Nat)
  deriving DecidableEq, Repr

/-- The reader after a leading byte: what it could finish, and what it waits for. The item
`none` stands for an ill-formed part. -/
def lead (b : Nat) : List (Option Char) × Pending :=
  if b < 0x80 then ([some (Char.ofNat b)], .idle)
  else if b < 0xC2 then ([none], .idle)
  else if b < 0xE0 then ([], .expecting 1 0x80 0xBF (b - 0xC0))
  else if b = 0xE0 then ([], .expecting 2 0xA0 0xBF 0)
  else if b = 0xED then ([], .expecting 2 0x80 0x9F 0xD)
  else if b < 0xF0 then ([], .expecting 2 0x80 0xBF (b - 0xE0))
  else if b = 0xF0 then ([], .expecting 3 0x90 0xBF 0)
  else if b < 0xF4 then ([], .expecting 3 0x80 0xBF (b - 0xF0))
  else if b = 0xF4 then ([], .expecting 3 0x80 0x8F 4)
  else ([none], .idle)

/-- The reader after one more byte. -/
def Pending.next (b : Nat) : Pending → List (Option Char) × Pending
  | .idle => lead b
  | .expecting missing low high value =>
    if low ≤ b ∧ b ≤ high then
      let value := value * 64 + (b - 0x80)
      if missing = 1 then ([some (Char.ofNat value)], .idle)
      else ([], .expecting (missing - 1) 0x80 0xBF value)
    else
      let (items, pending) := lead b
      (none :: items, pending)

/-- The items read from the bytes, `none` for each maximal ill-formed part. -/
def itemsFrom : Pending → List UInt8 → List (Option Char)
  | .idle, [] => []
  | .expecting .., [] => [none]
  | pending, b :: rest =>
    let (items, pending) := pending.next b.toNat
    items ++ itemsFrom pending rest

/-- The items of a whole byte string. -/
def items (bytes : List UInt8) : List (Option Char) :=
  itemsFrom .idle bytes

/-- The text of the bytes, with one replacement character for each maximal ill-formed part
(`decode` with `errors="replace"`). -/
def decodeLossy (bytes : List UInt8) : List Char :=
  (items bytes).map fun item => item.getD '\uFFFD'

/-- The text of well-formed bytes (`decode`). -/
def decode? (bytes : List UInt8) : Option (List Char) :=
  (items bytes).mapM id

/-- The bytes of a text (`encode`). -/
def encode (s : String) : List UInt8 :=
  s.toUTF8.toList

end ChapelServer.Text.Utf8
