/-!
# Positions and offsets

A position names a line and a character in it, an offset counts characters from the start of the
text. A line ends at a carriage return, a line feed, or both together, and the characters of that
line break are no positions of the line.
-/

namespace ChapelServer

/-- A place in a text as the editor names it, counted from zero. Queries may name lines and
characters that the text does not have. -/
structure Position where
  line : Int
  character : Int
  deriving DecidableEq, Repr

/-- The stretch between two positions. -/
structure Range where
  start : Position
  stop : Position
  deriving DecidableEq, Repr

/-- A line of a text: the offset of its first character, and how many characters stand before its
line break. -/
structure Line where
  start : Nat
  width : Nat
  deriving DecidableEq, Repr

namespace Line

/-- The lines of a text whose current line began at `start` and has `width` characters so far. -/
def scanFrom : (start width : Nat) → List Char → List Line
  | start, width, [] => [{ start, width }]
  | start, width, '\r' :: '\n' :: rest =>
    { start, width } :: scanFrom (start + width + 2) 0 rest
  | start, width, c :: rest =>
    if c = '\r' || c = '\n' then { start, width } :: scanFrom (start + width + 1) 0 rest
    else scanFrom start (width + 1) rest

/-- The lines of a text (`_line_starts`). There is always one, and a line break at the end opens
another. -/
def scan (source : List Char) : List Line :=
  scanFrom 0 0 source

end Line

/-- The offset of a position (`_offset_at`), if the text has that position. -/
def Position.offset? (lines : List Line) (p : Position) : Option Nat :=
  if p.line < 0 || p.character < 0 then none
  else
    match lines[p.line.toNat]? with
    | none => none
    | some line =>
      if p.character.toNat ≤ line.width then some (line.start + p.character.toNat) else none

/-- The position of an offset when `current`, the line number `index`, is the last line known to
begin at or before it. -/
def Position.ofOffsetFrom (offset : Nat) : (index : Nat) → (current : Line) → List Line → Position
  | index, current, [] => { line := index, character := (offset : Int) - current.start }
  | index, current, next :: rest =>
    if offset < next.start then { line := index, character := (offset : Int) - current.start }
    else ofOffsetFrom offset (index + 1) next rest

/-- The position of an offset (`_position_at`): the last line that begins at or before it, and the
distance from that line's first character. -/
def Position.ofOffset (lines : List Line) (offset : Nat) : Position :=
  match lines with
  | [] => { line := 0, character := offset }
  | first :: rest => ofOffsetFrom offset 0 first rest

end ChapelServer
