import ChapelServer.Text.CodePoint

/-!
# Segments of a template

A template is a text with replacement fields in braces: `{name}`, `{name!conversion}`,
`{name:spec}`, or both of these (`str.format`). A brace that is meant as text is doubled. The
template is read character by character by a machine whose modes say what has been opened; what
cannot be read further is a malformed segment, and nothing follows it.
-/

namespace ChapelServer.Template

/-- A part of a template. -/
inductive Segment
  /-- A character of the text. -/
  | char (c : CodePoint)
  /-- A replacement field: its name, its conversion if it has one, and its spec, which is a
  template again when `nested`. -/
  | field (name : Text) (conversion : Option CodePoint) (spec : Text) (nested : Bool)
  /-- What cannot be read. -/
  | malformed
  deriving DecidableEq, Repr

/-- What the reader is in the middle of. Texts being collected are kept reversed. -/
inductive Mode
  | text
  | openBrace
  | closeBrace
  | name (name : Text)
  | subscript (name : Text)
  | conversion (name : Text)
  | converted (name : Text) (conversion : CodePoint)
  | spec (name : Text) (conversion : Option CodePoint) (spec : Text) (depth : Nat)
      (nested : Bool)
  deriving DecidableEq, Repr

/-- The outcome of one more character: segments finished and the mode to go on in, or the end of
what can be read. -/
inductive Step
  | go (segments : List Segment) (mode : Mode)
  | stuck
  deriving DecidableEq, Repr

/-- One more character of a field's name. -/
def nameStep (name : Text) (c : CodePoint) : Step :=
  if c = '{' then .stuck
  else if c = '[' then .go [] (.subscript (c :: name))
  else if c = '}' then .go [.field name.reverse none [] false] .text
  else if c = ':' then .go [] (.spec name none [] 0 false)
  else if c = '!' then .go [] (.conversion name)
  else .go [] (.name (c :: name))

/-- One more character of a field's spec; `depth` counts the braces open inside it. -/
def specStep (name : Text) (conversion : Option CodePoint) (spec : Text) (depth : Nat)
    (nested : Bool) (c : CodePoint) : Step :=
  if c = '{' then .go [] (.spec name conversion (c :: spec) (depth + 1) true)
  else if c = '}' then
    match depth with
    | 0 => .go [.field name.reverse conversion spec.reverse nested] .text
    | depth + 1 => .go [] (.spec name conversion (c :: spec) depth nested)
  else .go [] (.spec name conversion (c :: spec) depth nested)

/-- One more character. -/
def Mode.step (c : CodePoint) : Mode → Step
  | .text =>
    if c = '{' then .go [] .openBrace
    else if c = '}' then .go [] .closeBrace
    else .go [.char c] .text
  | .openBrace => if c = '{' then .go [.char c] .text else nameStep [] c
  | .closeBrace => if c = '}' then .go [.char c] .text else .stuck
  | .name label => nameStep label c
  | .subscript label =>
    if c = ']' then .go [] (.name (c :: label)) else .go [] (.subscript (c :: label))
  | .conversion label => .go [] (.converted label c)
  | .converted label how =>
    if c = '}' then .go [.field label.reverse (some how) [] false] .text
    else if c = ':' then .go [] (.spec label (some how) [] 0 false)
    else .stuck
  | .spec label how layout depth nested => specStep label how layout depth nested c

/-- The segments of a template read on from a mode. -/
def segmentsFrom : Mode → Text → List Segment
  | .text, [] => []
  | _, [] => [.malformed]
  | mode, c :: rest =>
    match mode.step c with
    | .go segments mode => segments ++ segmentsFrom mode rest
    | .stuck => [.malformed]

/-- The segments of a template, as `format` comes to them. -/
def segments (template : Text) : List Segment :=
  segmentsFrom .text template

end ChapelServer.Template
