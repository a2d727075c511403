import ChapelServer.Compilation.Staging

/-!
# The host

What the machine that the server runs on does: which compilers it has and how each use of them
goes, which attempts to make a work directory fail, and which files are found in a new one. It also
sets the limits that the server meets: how long a text may get, and how long the path of a work
directory is.
-/

namespace ChapelServer

/-- A compiler process that starts: after how many milliseconds it exits and its output ends, or
never; the files it writes before it exits; its status and what it has to say. -/
structure Run where
  exitAfter : Option Nat := some 0
  outputEndsAfter : Option Nat := some 0
  files : List Placement := []
  status : Int := 0
  stderr : List UInt8 := []
  deriving DecidableEq, Repr

/-- How a use of a compiler goes: the process cannot be started, or it runs. -/
inductive Behaviour
  | refused (error : OsError)
  | runs (run : Run)
  deriving DecidableEq, Repr

/-- The machine that the server runs on. The behaviours of a compiler are those of its uses to
come, one after the other, the last of them for ever. -/
structure Host where
  compilers : List (Text × List Behaviour) := []
  refusedDirectories : List Nat := []
  leftovers : List Placement := []
  /-- No process is started from words that the system does not take. -/
  checksWords : Bool := true
  /-- How a compiler runs that does not find the file it is to compile, unless it cannot even be
  started then. -/
  withoutSource : Option Run := none
  /-- How many characters there is room for when a text is laid out. -/
  room : Nat := Template.maxNumber
  /-- The bytes of the path of a work directory. In `/tmp` it is `chapel-lsp-` and eight letters. -/
  workBytes : Nat := 24
  deriving DecidableEq, Repr

namespace Host

/-- The behaviours that are left after one use. -/
def afterUse : List Behaviour → List Behaviour
  | _ :: next :: rest => next :: rest
  | behaviours => behaviours

/-- The behaviour of the next use of a compiler. -/
def next? (h : Host) (compiler : Text) : Option Behaviour :=
  (h.compilers.lookup compiler).bind List.head?

/-- The host after one use of a compiler. -/
def use (h : Host) (compiler : Text) : Host :=
  { h with
    compilers := h.compilers.map fun (name, behaviours) =>
      (name, if name = compiler then afterUse behaviours else behaviours) }

/-- What the host finds wrong with a command: what is wrong with the first of its words that is not
taken. -/
def flaw? (h : Host) (command : List Text) : Option Text.Flaw :=
  if h.checksWords then command.findSome? Text.flaw? else none

/-- Why a compiler could not be started, with the text of what the error is about:
`FileNotFoundError` or any other `OSError`. -/
def refusal (compiler : Text) (error : OsError) (subject : String) : Failure :=
  if error = .noEntry then .compilerNotFound compiler
  else .launch compiler ⟨error, some subject⟩

/-- How the next use of a compiler goes, where `opened` is what it finds at the path of the file
that it is to compile. -/
def run (h : Host) (compiler : Text) (source : Path) (opened : Except OsError (List UInt8)) :
    Except Failure Run :=
  match h.next? compiler with
  | none => .error (.compilerNotFound compiler)
  | some (.refused error) => .error (refusal compiler error (Text.quotedString compiler))
  | some (.runs run) =>
    match opened, h.withoutSource with
    | .ok _, _ => .ok run
    | .error _, some other => .ok other
    | .error error, none => .error (refusal compiler error source.quoted)

/-- What comes of starting the compiler in a work directory (`create_subprocess_exec`), with the
host after it. A word that is not taken ends it before the compiler is even looked for. -/
def start (h : Host) (settings : Settings) (n : Nat) (d : Disk) : Host × Except Stop Run :=
  match h.flaw? (Staging.command settings n) with
  | some flaw => (h, .error (.fault (.command flaw)))
  | none =>
    let compiler := settings.compilerPath
    let source := Staging.namedPath settings n
    (h.use compiler, (h.run compiler source (d.load source)).mapError .failure)

end Host

end ChapelServer
