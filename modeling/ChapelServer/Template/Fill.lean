import ChapelServer.Template.Argument
import ChapelServer.Template.Segment

/-!
# Filling in a template

The fields of a template are looked up by name, followed through subscripts and attributes,
converted and laid out, from left to right; the first thing that fails decides the error. A spec
with braces in it is a template of its own and is filled in first, but its fields may have no such
spec again.
-/

namespace ChapelServer.Template

/-- The keyword arguments of `format`: the fields of a template by name. -/
abbrev Arguments := List (String × Argument)

/-- A step from a value to a part of it: `.name` or `[name]`. -/
inductive Access
  | attribute (name : Text)
  | subscript (name : Text)
  /-- What is no step. -/
  | malformed
  deriving DecidableEq, Repr

/-- What the reader of a path is in the middle of. -/
inductive PathMode
  | start
  | attribute (name : Text)
  | subscript (name : Text)
  deriving DecidableEq, Repr

/-- The attribute of a name, which has to have a character. -/
def attributeAccess (name : Text) : Access :=
  if name = [] then .malformed else .attribute name.reverse

/-- The subscript of a name, which has to have a character. -/
def subscriptAccess (name : Text) : Access :=
  if name = [] then .malformed else .subscript name.reverse

/-- The steps that follow the first name of a field. -/
def accessesFrom : PathMode → Text → List Access
  | .start, [] => []
  | .attribute name, [] => [attributeAccess name]
  | .subscript _, [] => [.malformed]
  | .start, c :: rest =>
    if c = '.' then accessesFrom (.attribute []) rest
    else if c = '[' then accessesFrom (.subscript []) rest
    else [.malformed]
  | .attribute name, c :: rest =>
    if c = '.' then attributeAccess name :: accessesFrom (.attribute []) rest
    else if c = '[' then attributeAccess name :: accessesFrom (.subscript []) rest
    else accessesFrom (.attribute (c :: name)) rest
  | .subscript name, c :: rest =>
    if c = ']' then subscriptAccess name :: accessesFrom .start rest
    else accessesFrom (.subscript (c :: name)) rest

/-- The argument that the first name of a field stands for. There are no arguments by position. -/
def lookup (arguments : Arguments) (name : Text) : Except Error Argument :=
  match Index.ofName name with
  | .tooLarge => .error .malformed
  | .number _ => .error .noSuchItem
  | .word =>
    if name = [] then .error .noSuchItem
    else
      match arguments.lookup (name.string) with
      | some argument => .ok argument
      | none => .error .unknownName

/-- One step from a value to a part of it (`getattr` or a subscript). -/
def Argument.access (argument : Argument) : Access → Except Error Argument
  | .attribute name => argument.attribute (name.string)
  | .subscript name => argument.item name
  | .malformed => .error .malformed

/-- The value of a field's name. -/
def resolve (arguments : Arguments) (name : Text) : Except Error Argument := do
  let isFirst := fun c : CodePoint => c != '.' && c != '['
  let first ← lookup arguments (name.takeWhile isFirst)
  (accessesFrom .start (name.dropWhile isFirst)).foldlM Argument.access first

/-- The value after its conversion: to a plain text (`!s`), to a literal (`!r`), or to a literal in
ASCII (`!a`). A null character asks for none. -/
def Argument.convert (argument : Argument) : Option CodePoint → Except Error Argument
  | none | some (.char '\x00') => .ok argument
  | some (.char 's') => .ok (.text argument.plain)
  | some (.char 'r') => .ok (.text (.ofChars argument.literal))
  | some (.char 'a') => .ok (.text (.ofChars (Text.asciiOnly argument.literal)))
  | some _ => .error .malformed

/-- A number laid out by a spec that is still to be read. -/
def renderNumberBy (room : Nat) (spec : Text) (n : Int) : Except Error Text :=
  match Spec.read? 'd' .right spec with
  | some spec => renderNumber room spec n
  | none => .error .malformed

/-- The value laid out by a spec (`__format__`). A truth value is laid out as a number. -/
def Argument.render (argument : Argument) (room : Nat) (spec : Text) :
    Except Error Text :=
  if spec = [] then .ok argument.plain
  else
    match argument with
    | .text s =>
      match Spec.read? 's' .left spec with
      | some spec => renderText room spec s
      | none => .error .malformed
    | .number n => renderNumberBy room spec n
    | .truth b => renderNumberBy room spec b.toNat
    | _ => .error .noLayout

/-- The text of a segment, when the specs in it are filled in by `inner`. -/
def Segment.fill (room : Nat) (arguments : Arguments)
    (inner : Text → Except Error Text) :
    Segment → Except Error Text
  | .char c => .ok [c]
  | .malformed => .error .malformed
  | .field name conversion spec nested => do
    let argument ← (← resolve arguments name).convert conversion
    argument.render room (← if nested then inner spec else .ok spec)

/-- The texts of the segments, one after the other. -/
def fillSegments (room : Nat) (arguments : Arguments)
    (inner : Text → Except Error Text) :
    List Segment → Except Error Text
  | [] => .ok []
  | segment :: rest => do
    let text ← segment.fill room arguments inner
    return text ++ (← fillSegments room arguments inner rest)

/-- The template filled in, with specs that are templates at most `depth` deep. -/
def fillTo (room : Nat) (arguments : Arguments) :
    (depth : Nat) → Text → Except Error Text
  | 0, template => fillSegments room arguments (fun _ => .error .malformed) (segments template)
  | depth + 1, template =>
    fillSegments room arguments (fillTo room arguments depth) (segments template)

/-- The template filled in (`format`). -/
def fill (room : Nat) (arguments : Arguments) (template : Text) : Except Error Text :=
  fillTo room arguments 1 template

end ChapelServer.Template
