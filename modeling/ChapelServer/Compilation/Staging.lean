import ChapelServer.Disk.Tree
import ChapelServer.PassLog
import ChapelServer.Server.Request

/-!
# Staging and reading back

The text of a document is put in a work directory of its own, from which an old log directory is
removed first, and the pass log is read back from it after the compiler has run.
-/

namespace ChapelServer

/-- What ends a compilation before there is a finding. -/
inductive Stop
  | failure (failure : Failure)
  | fault (fault : Fault)
  deriving DecidableEq, Repr

namespace Staging

/-- The path of the log directory in a work directory (`log_dir`). -/
def logDir (settings : Settings) (n : Nat) : Path :=
  (Path.work n).join settings.logDirName

/-- The path of the staged file in a work directory (`source_path`). -/
def sourcePath (settings : Settings) (n : Nat) : Path :=
  (Path.work n).join settings.stagingFilename

/-- The command that is run in a work directory. It has the staged file by its bare name. -/
def command (settings : Settings) (n : Nat) : List Text :=
  settings.command (sourcePath settings n).name

/-- The path that the bare name of the staged file stands for in a work directory. -/
def namedPath (settings : Settings) (n : Nat) : Path :=
  (Path.work n).join (sourcePath settings n).name

/-- The failure of preparing a work directory. -/
def failure (n : Nat) (error : OsError) (subject : String) : Stop :=
  .failure (.staging (Path.work n).text ⟨error, some subject⟩)

/-- The disk after the old log directory of a work directory is removed (`rmtree`), if it is there,
and what stops the compilation if that fails. -/
def removeLogDir (settings : Settings) (n : Nat) (d : Disk) : Disk × Option Stop :=
  let path := logDir settings n
  match d.exists? path with
  | .error error => (d, some (failure n error path.quoted))
  | .ok false => (d, none)
  | .ok true =>
    match d.removeTree path with
    | (d, none) => (d, none)
    | (d, some (.unlisted error)) =>
      (d, some (failure n error ("PosixPath(" ++ path.quoted ++ ")")))
    | (d, some (.system error)) => (d, some (failure n error path.quoted))

/-- The disk after the text of a document is put in the staged file (`write_text`), and what stops
the compilation if that fails. The file is opened first, so that a text without UTF-8 leaves it
empty. -/
def writeSource (settings : Settings) (n : Nat) (text : Text) (d : Disk) : Disk × Option Stop :=
  let path := sourcePath settings n
  match d.write path (text.utf8?.getD []) with
  | .ok d => (d, if text.utf8?.isSome then none else some (.fault .unencodable))
  | .error (.flawed flaw) => (d, some (.fault (.path flaw)))
  | .error (.system error) => (d, some (failure n error path.quoted))

/-- The path of the pass log that the compiler is to write (`artifact_path`). -/
def artifactPath (settings : Settings) (room n : Nat) : Except Stop Path :=
  match settings.artifactName room with
  | .ok name => .ok ((logDir settings n).join name)
  | .error error => .error (.fault (.template error))

/-- The disk after a work directory is prepared (`_stage`), and the path of the pass log to be
read. -/
def stage (settings : Settings) (room n : Nat) (text : Text) (d : Disk) :
    Disk × Except Stop Path :=
  match removeLogDir settings n d with
  | (d, some stop) => (d, .error stop)
  | (d, none) =>
    match writeSource settings n text d with
    | (d, some stop) => (d, .error stop)
    | (d, none) => (d, artifactPath settings room n)

end Staging

/-- The first entry of a symbol in the pass log at a path (`resolve_type`). No pass log holds a
surrogate. -/
def Disk.findEntry (d : Disk) (path : Path) (symbol : Text) : Except Stop (Option PassLog.Entry) :=
  match d.read path with
  | .error (.flawed flaw) => .error (.fault (.path flaw))
  | .error (.system error) =>
    if error = .noEntry then .error (.failure (.artifactNotFound path.text))
    else .error (.failure (.unreadable path.text ⟨error, some path.quoted⟩))
  | .ok bytes =>
    match symbol.chars? with
    | none => .ok none
    | some name =>
      match PassLog.find (PassLog.textOfBytes bytes) name with
      | .ok entry => .ok entry
      | .error _ => .error (.fault .numeralTooLong)

/-- The number of lines that are kept of what a compiler has to say (`_STDERR_TAIL_LINES`). -/
def tailLines : Nat := 20

/-- The last lines of a text, without the blanks around it (`_tail`). -/
def tail (text : List Char) : List Char :=
  let lines := Text.splitLines (Text.trim text)
  Text.joinLines (lines.drop (lines.length - tailLines))

/-- The end of what a compiler has to say. -/
def tailOfBytes (bytes : List UInt8) : String :=
  String.ofList (tail (Text.Utf8.decodeLossy bytes))

end ChapelServer
