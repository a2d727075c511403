import ChapelServer.Number.Integer
import ChapelServer.Text.Lines
import ChapelServer.Text.Run
import ChapelServer.Text.Utf8
import ChapelServer.Text.Word

/-!
# Pass logs

The compiler's dump of resolved types holds entries `name[id]:type(line)`. The type of a symbol is
that of its first entry: the leftmost place where the symbol's name stands literally, not glued to
a word character or a dollar sign before it, with the rest of an entry right after it.
-/

namespace ChapelServer.PassLog

/-- A resolved symbol (`ResolvedType`): its number in the dump, the name of its type and its line.
-/
structure Entry where
  symbol : List Char
  id : Nat
  typeName : List Char
  line : Nat
  deriving DecidableEq, Repr

/-- The part of an entry that a hover shows (`span`). -/
def Entry.span (e : Entry) : List Char :=
  e.typeName ++ '(' :: Nat.toDigits 10 e.line ++ [')']

/-- The characters of an entry after its symbol, as they stand in the dump. -/
structure Fields where
  id : List Char
  typeName : List Char
  line : List Char
  deriving DecidableEq, Repr

/-- The fields that the text starts with: `\[(\d+)\]:(\w+)\((\d+)\)`. -/
def fields? (text : List Char) : Option Fields := do
  let text ← Text.after? ['['] text
  let (id, text) ← Text.run? Text.isDigit text
  let text ← Text.after? [']', ':'] text
  let (typeName, text) ← Text.run? Text.isWord text
  let text ← Text.after? ['('] text
  let (line, text) ← Text.run? Text.isDigit text
  let _ ← Text.after? [')'] text
  return { id, typeName, line }

/-- A character that glues to a name standing right after it: one of `[\w$]`. -/
def gluesTo (c : Char) : Bool :=
  Text.isWord c || c == '$'

/-- The fields of the first entry of the symbol; `glued` tells whether the text follows a
character that glues to it. -/
def firstFrom? (symbol : List Char) : (glued : Bool) → List Char → Option Fields
  | _, [] => none
  | glued, c :: rest =>
    match if glued then none else (Text.after? symbol (c :: rest)).bind fields? with
    | some fields => some fields
    | none => firstFrom? symbol (gluesTo c) rest

/-- The first entry of a symbol in a dump (`find_resolved_type`), or the refusal of an overlong
numeral in it. -/
def find (dump symbol : List Char) : Except Number.TooLong (Option Entry) :=
  match firstFrom? symbol false dump with
  | none => .ok none
  | some fields => do
    let id ← Number.ofDigitRun fields.id
    let line ← Number.ofDigitRun fields.line
    return some { symbol, id, typeName := fields.typeName, line }

/-- The text of a pass log file (`read_text`): its bytes as UTF-8 with replacements, every line end
as one line feed. -/
def textOfBytes (bytes : List UInt8) : List Char :=
  Text.unifyNewlines (Text.Utf8.decodeLossy bytes)

end ChapelServer.PassLog
