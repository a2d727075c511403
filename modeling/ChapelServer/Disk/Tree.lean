import ChapelServer.Disk.OsError
import ChapelServer.Disk.Path
import ChapelServer.Text.Utf8

/-!
# Files on disk

The files and directories that the server can meet: those of its work directories, and those
outside them. A place is a work directory or the outside, with a list of names in it; the outside
itself is always there. A path is followed name by name, a double dot going up, and fails where a
name is missing, is too long, or leads into a file.
-/

namespace ChapelServer

/-- A place on disk: names below a work directory, or below the outside. -/
structure Place where
  work : Option Nat
  names : List Text
  deriving DecidableEq, Repr

namespace Place

/-- The outside of all work directories. -/
def outside : Place := ⟨none, []⟩

/-- The place of a name in a directory. -/
def child (p : Place) (name : Text) : Place :=
  { p with names := p.names ++ [name] }

/-- The directory around a place. Work directories lie outside, and nothing lies around the
outside. -/
def parent (p : Place) : Place :=
  if p.names = [] then outside else { p with names := p.names.dropLast }

/-- The place lies in the directory at `d`, at any depth, or is `d` itself. -/
def isWithin (d p : Place) : Bool :=
  if d = outside then true else d.work == p.work && d.names.isPrefixOf p.names

end Place

/-- What is at a place. -/
inductive Entry
  | file (bytes : List UInt8)
  | directory
  deriving DecidableEq, Repr

/-- A file or directory to be put in a work directory. -/
structure Placement where
  path : String
  entry : Entry
  deriving DecidableEq, Repr

/-- The files and directories, each with its place, and how many bytes the path of a work directory
has. -/
structure Disk where
  entries : List (Place × Entry) := []
  workBytes : Nat := 24
  deriving DecidableEq, Repr

/-- The end of a path that was followed. -/
inductive Disk.Target
  | found (place : Place) (entry : Entry)
  /-- Nothing is there, and something can be put there. -/
  | free (place : Place)
  deriving DecidableEq, Repr

/-- Why a directory could not be removed with all that lies in it: its contents could not be
listed, or what is at its path could not be removed. -/
inductive Disk.RemovalError
  | unlisted (error : OsError)
  | system (error : OsError)
  deriving DecidableEq, Repr

/-- Why a file could not be opened: an error of the system, or a path that it does not take. -/
inductive Disk.OpenError
  | system (error : OsError)
  | flawed (flaw : Text.Flaw)
  deriving DecidableEq, Repr

namespace Disk

/-- What is at a place. -/
def get? (d : Disk) (p : Place) : Option Entry :=
  if p = .outside then some .directory else d.entries.lookup p

/-- The disk with an entry at a place. -/
def put (d : Disk) (p : Place) (e : Entry) : Disk :=
  { d with entries := d.entries.filter (·.1 ≠ p) ++ [(p, e)] }

/-- The disk without the place and all that lies in it. -/
def erase (d : Disk) (p : Place) : Disk :=
  { d with entries := d.entries.filter fun e => !p.isWithin e.1 }

/-- The disk without what lies in a directory; the directory stays. -/
def clear (d : Disk) (p : Place) : Disk :=
  { d with entries := d.entries.filter fun e => e.1 = p || !p.isWithin e.1 }

/-- The longest name of a file, in bytes. -/
def maxNameBytes : Nat := 255

/-- The end of the path that goes on from a directory by names. -/
def follow (d : Disk) : Place → List Text → Except OsError Target
  | p, [] => .ok (.found p .directory)
  | p, name :: rest =>
    if name = Text.ofString ".." then follow d p.parent rest
    else if name.byteSize > maxNameBytes then .error .nameTooLong
    else
      match d.get? (p.child name) with
      | none => if rest = [] then .ok (.free (p.child name)) else .error .noEntry
      | some .directory => follow d (p.child name) rest
      | some (.file bytes) =>
        if rest = [] then .ok (.found (p.child name) (.file bytes)) else .error .notDirectory

/-- The place where a path starts. -/
def start (p : Path) : Place :=
  match p.anchor with
  | .work n => ⟨some n, []⟩
  | _ => .outside

/-- The end of a path. One that is too long as a whole is not followed at all. -/
def resolve (d : Disk) (p : Path) : Except OsError Target :=
  if p.byteSize d.workBytes ≥ Path.byteLimit then .error .nameTooLong
  else
    match d.get? (start p) with
    | none => if p.parts = [] then .ok (.free (start p)) else .error .noEntry
    | some _ => d.follow (start p) p.parts

/-- Whether something is at a path (`exists`). A name or path that is too long is an error, and a
path that the system does not take leads nowhere. -/
def exists? (d : Disk) (p : Path) : Except OsError Bool :=
  if p.flaw?.isSome then .ok false
  else
    match d.resolve p with
    | .ok (.found _ _) => .ok true
    | .ok (.free _) => .ok false
    | .error error => if error = .nameTooLong then .error error else .ok false

/-- The bytes of a file (`read_bytes`). -/
def read (d : Disk) (p : Path) : Except OpenError (List UInt8) :=
  match p.flaw? with
  | some flaw => .error (.flawed flaw)
  | none =>
    match d.resolve p with
    | .ok (.found _ (.file bytes)) => .ok bytes
    | .ok (.found _ .directory) => .error (.system .isDirectory)
    | .ok (.free _) => .error (.system .noEntry)
    | .error error => .error (.system error)

/-- The bytes of a file as a process finds them that is told its path. No file has a path that the
system does not take. -/
def load (d : Disk) (p : Path) : Except OsError (List UInt8) :=
  match d.read p with
  | .ok bytes => .ok bytes
  | .error (.system error) => .error error
  | .error (.flawed _) => .error .noEntry

/-- The disk with a file written, new or in place of an old one (`write_text`). -/
def write (d : Disk) (p : Path) (bytes : List UInt8) : Except OpenError Disk :=
  match p.flaw? with
  | some flaw => .error (.flawed flaw)
  | none =>
    match d.resolve p with
    | .ok (.found place (.file _)) => .ok (d.put place (.file bytes))
    | .ok (.free place) => .ok (d.put place (.file bytes))
    | .ok (.found _ .directory) => .error (.system .isDirectory)
    | .error error => .error (.system error)

/-- The disk without an empty directory (`rmdir`). One that is named by a double dot holds the
directory it was named from, and the outside cannot go. -/
def removeDirectory (d : Disk) (p : Path) : Except OsError Disk :=
  match d.resolve p with
  | .ok (.found place .directory) =>
    if p.parts.getLast? = some (Text.ofString "..") then .error .notEmpty
    else if place = .outside then .error .busy
    else .ok (d.erase place)
  | .ok (.found _ (.file _)) => .error .notDirectory
  | .ok (.free _) => .error .noEntry
  | .error error => .error error

/-- The disk after a directory is removed with all that lies in it (`rmtree`), and what went wrong:
first its contents go, then the directory by its path, which may lead nowhere by then. -/
def removeTree (d : Disk) (p : Path) : Disk × Option RemovalError :=
  match d.resolve p with
  | .ok (.found place .directory) =>
    match (d.clear place).removeDirectory p with
    | .ok d => (d, none)
    | .error error => (d.clear place, some (.system error))
  | .ok (.found _ (.file _)) => (d, some (.unlisted .notDirectory))
  | .ok (.free _) => (d, some (.system .noEntry))
  | .error error => (d, some (.system error))

/-- The disk with the directories along a path made, and the place of its last name. Nothing is
made in a file. -/
def makePath (d : Disk) : Place → List Text → Option (Disk × Place)
  | p, [] => some (d, p)
  | p, name :: rest =>
    if name = Text.ofString ".." then makePath d p.parent rest
    else
      match d.get? (p.child name) with
      | none => makePath (d.put (p.child name) .directory) (p.child name) rest
      | some .directory => makePath d (p.child name) rest
      | some (.file _) => none

/-- The disk with a file or directory placed below a work directory, and the directories on the
way to it. -/
def place (n : Nat) (d : Disk) (item : Placement) : Disk :=
  let names := Path.partsOf item.path
  match item.entry with
  | .directory => (d.makePath ⟨some n, []⟩ names).elim d (·.1)
  | .file bytes =>
    match d.makePath ⟨some n, []⟩ names.dropLast, names.getLast? with
    | some (d, p), some name => d.put (p.child name) (.file bytes)
    | _, _ => d

/-- The disk with a new work directory (`mkdtemp`), and the files that are found in it. -/
def makeWork (d : Disk) (n : Nat) (items : List Placement) : Disk :=
  items.foldl (place n) (d.put ⟨some n, []⟩ .directory)

/-- The disk without a work directory, removed with `ignore_errors`. -/
def removeWork (d : Disk) (n : Nat) : Disk :=
  d.erase ⟨some n, []⟩

/-- A name put in its place among sorted ones, in the order of the code points. -/
def insertName (name : Text) : List Text → List Text
  | [] => [name]
  | next :: rest =>
    if name.map CodePoint.toNat ≤ next.map CodePoint.toNat then name :: next :: rest
    else next :: insertName name rest

/-- The names in a work directory, in order. -/
def namesIn (d : Disk) (n : Nat) : List Text :=
  let names := d.entries.filterMap fun e =>
    match e.1 with
    | ⟨some m, [name]⟩ => if m = n then some name else none
    | _ => none
  names.foldr insertName []

/-- The number of work directories. -/
def workCount (d : Disk) : Nat :=
  d.entries.countP fun e => e.1.work.isSome && e.1.names = []

end Disk

end ChapelServer
