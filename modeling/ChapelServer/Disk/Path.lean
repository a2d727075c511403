import ChapelServer.Text.Quoted

/-!
# Paths

A path starts at a work directory or at the root, and goes on by names. Joining drops empty names
and single dots, keeps double dots, and starts anew at an absolute path. Work directories are
numbered in the order in which they were made, and are written by their numbers.
-/

namespace ChapelServer

/-- Where a path starts. Exactly two slashes at the start of an absolute path are kept, as the
system may give them a meaning of their own. -/
inductive Path.Anchor
  | work (n : Nat)
  | root
  | doubleRoot
  deriving DecidableEq, Repr

/-- A path (`Path`): where it starts, and the names it goes on by. -/
structure Path where
  anchor : Path.Anchor
  parts : List Text
  deriving DecidableEq, Repr

namespace Path

/-- The stretches of a text between its slashes. -/
def splitSlashes : Text → List Text
  | [] => [[]]
  | c :: rest =>
    if c = '/' then [] :: splitSlashes rest
    else
      match splitSlashes rest with
      | [] => [[c]]
      | part :: parts => (c :: part) :: parts

/-- The names of a path text: its stretches between slashes, without empty ones and dots. -/
def partsOf (text : Text) : List Text :=
  (splitSlashes text).filter fun part => part ≠ [] && part ≠ Text.ofString "."

/-- The root that a text starts with, if it is absolute. -/
def rootOf? : Text → Option Anchor
  | .char '/' :: .char '/' :: .char '/' :: _ => some .root
  | .char '/' :: .char '/' :: _ => some .doubleRoot
  | .char '/' :: _ => some .root
  | _ => none

/-- The path of a work directory (`mkdtemp`). -/
def work (n : Nat) : Path :=
  ⟨.work n, []⟩

/-- The path joined with a path text (`/`). -/
def join (p : Path) (text : Text) : Path :=
  match rootOf? text with
  | some anchor => ⟨anchor, partsOf text⟩
  | none => { p with parts := p.parts ++ partsOf text }

/-- The text of where a path starts. -/
def Anchor.text : Anchor → Text
  | .work n => s!"<W{n}>"
  | .root => "/"
  | .doubleRoot => "//"

/-- The text of a path. -/
def text (p : Path) : Text :=
  match p.anchor with
  | .work _ => Text.joined "/" (p.anchor.text :: p.parts)
  | _ => p.anchor.text ++ Text.joined "/" p.parts

/-- The last name of a path (`name`). -/
def name (p : Path) : Text :=
  match p.parts.getLast?, p.anchor with
  | some part, _ => part
  | none, .work _ => p.anchor.text
  | none, _ => []

/-- What the system finds wrong with a path. -/
def flaw? (p : Path) : Option Text.Flaw :=
  Text.flaw? p.parts.flatten

/-- The bytes that a path starts with, if those of a work directory are so many. -/
def Anchor.byteSize (workBytes : Nat) : Anchor → Nat
  | .work _ => workBytes
  | .root => 0
  | .doubleRoot => 1

/-- The bytes of a path: those it starts with, and each name with a slash before it. -/
def byteSize (p : Path) (workBytes : Nat) : Nat :=
  p.parts.foldl (fun total part => total + 1 + part.byteSize) (p.anchor.byteSize workBytes)

/-- The system takes paths shorter than this, in bytes. -/
def byteLimit : Nat := 4096

/-- The path in quotes, as messages show it. -/
def quoted (p : Path) : String :=
  Text.quotedString p.text

end Path

end ChapelServer
