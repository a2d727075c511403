import ChapelServer.Text.Class
import ChapelServer.Text.Lines
import ChapelServer.Text.Run
import ChapelServer.Text.Utf8

/-!
# The version in a project file

The version of a project is given by a line `version = "..."` of its file, with nothing but blanks
after it. The text between the quotes is not empty, and may go over several lines.
-/

namespace ChapelServer.Version

/-- The version of a project that gives none. -/
def unknown : String := "0.0.0"

/-- Only blanks stand in the rest of the line. -/
def endsLine : List Char → Bool
  | [] => true
  | c :: rest => c = '\n' || Text.isBlank c && endsLine rest

/-- The version that the text starts with. -/
def here? (text : List Char) : Option (List Char) := do
  let text ← Text.after? "version = \"".toList text
  let value := text.takeWhile (· ≠ '"')
  if value = [] then none
  else
    match text.dropWhile (· ≠ '"') with
    | [] => none
    | _ :: rest => if endsLine rest then some value else none

/-- The first version at the start of a line; `atStart` says whether the text starts one. -/
def findFrom? (atStart : Bool) : List Char → Option (List Char)
  | [] => none
  | c :: rest =>
    match if atStart then here? (c :: rest) else none with
    | some value => some value
    | none => findFrom? (c = '\n') rest

/-- The version that the text of a project file gives. -/
def ofText (text : List Char) : String :=
  match findFrom? true text with
  | some value => String.ofList value
  | none => unknown

/-- The version of a project (`__version__`) with this file, or with none. There is no answer if the
file is not well-formed UTF-8. -/
def ofFile? : Option (List UInt8) → Option String
  | none => some unknown
  | some bytes => (Text.Utf8.decode? bytes).map fun text => ofText (Text.unifyNewlines text)

end ChapelServer.Version
