import ChapelServer.Compilation.Host
import ChapelServer.Compilation.Staging
import ChapelServer.Server.State

/-!
# Hovers in flight

The server with its hovers in flight. One hover compiles at a time, in a work directory of its
own; the others wait for the `_lock`, first come first served. An action is what can happen next: a
message is delivered, the compiler's process exits, its output ends, its time is up, or a hover is
cancelled. Each action is carried through to the next point of waiting, which may let several hovers
end one after the other.
-/

namespace ChapelServer

/-- A hover that was asked: its task, who asked, and its question, which it keeps whatever happens
to the document later. -/
structure Ticket where
  task : Nat
  bare : Bool
  uri : String
  question : Server.Question
  deriving DecidableEq, Repr

/-- A hover that compiles: its work directory, the settings it was started with, the pass log it
is to read, its process, since when it runs, and whether it has exited. -/
structure Job where
  ticket : Ticket
  directory : Nat
  settings : Settings
  artifact : Path
  process : Nat
  run : Run
  since : Nat
  exited : Bool := false
  deriving DecidableEq, Repr

/-- A moment of a run: an event, or a step that shows only in what follows from it. A hover enters
its compile section, a work directory is made for it, its pass log is read, and it is removed. -/
inductive Moment
  | event (event : Event)
  | entered (task : Nat)
  | made (task directory : Nat)
  | read (directory : Nat)
  | removed (directory : Nat)
  deriving Repr

/-- How the compile section of a hover ends: with what the pass log holds, with a stop, or because
the hover is cancelled. -/
inductive Ending
  | found (entry : Option PassLog.Entry)
  | stopped (stop : Stop)
  | cancelled
  deriving DecidableEq, Repr

/-- The server, the host and the disk, with the hovers in flight and what has happened so far. -/
structure Machine where
  host : Host := {}
  server : Server := { room := host.room }
  disk : Disk := { workBytes := host.workBytes }
  now : Nat := 0
  directoryAttempts : Nat := 0
  directories : Nat := 0
  processes : Nat := 0
  running : Option Job := none
  waiting : List Ticket := []
  trace : List Moment := []
  outcomes : List (Nat × Outcome) := []

/-- What can happen next. -/
inductive Action
  | deliver (task : Nat) (request : Request)
  | exit
  | outputEnd
  | expire
  | cancel (task : Nat)
  deriving Repr

namespace Machine

/-! ## What happens -/

/-- The machine after a moment. -/
def record (m : Machine) (moment : Moment) : Machine :=
  { m with trace := m.trace ++ [moment] }

/-- The machine after events. -/
def emit (m : Machine) (events : List Event) : Machine :=
  { m with trace := m.trace ++ events.map .event }

/-- The machine after a notice. -/
def note (m : Machine) (notice : Notice) : Machine :=
  m.emit [.notice notice]

/-- A task has come to an end. -/
def settle (m : Machine) (task : Nat) (outcome : Outcome) : Machine :=
  { m.emit [.done task] with outcomes := m.outcomes ++ [(task, outcome)] }

/-! ## The ends of a hover -/

/-- A hover ends with a failure (`_rpc_error`). A bare one just has it; any other is logged and
answered. -/
def fail (m : Machine) (task : Nat) (bare : Bool) (uri : String) (failure : Failure) : Machine :=
  if bare then m.settle task (.failed failure)
  else
    let notice := match failure with
      | .artifactNotFound _ => Notice.inconsistent failure
      | _ => Notice.hoverFailed uri failure
    (m.note notice).settle task (.refused failure)

/-- A hover ends with a finding, or without one (`build_hover`). -/
def conclude (m : Machine) (task : Nat) (bare : Bool) (finding : Option Finding) : Machine :=
  m.settle task (if bare then .finding finding else .hover (Hover.ofFinding? finding))

/-- What a hover finds out (`HoverResult`) when the pass log has this entry for its symbol, or none.
-/
def findingOf (question : Server.Question) (entry : Option PassLog.Entry) : Finding :=
  { symbol := question.symbol
    span := entry.map fun e => String.ofList e.span
    range := question.range }

/-- A hover ends as its compile section has ended. -/
def close (m : Machine) (t : Ticket) : Ending → Machine
  | .found entry => m.conclude t.task t.bare (some (findingOf t.question entry))
  | .stopped (.failure failure) => m.fail t.task t.bare t.uri failure
  | .stopped (.fault fault) => m.settle t.task (.faulted fault)
  | .cancelled => m.settle t.task .cancelled

/-! ## The compile section -/

/-- A work directory is made for a hover (`mkdtemp`), with the files that are found in it. -/
def makeDirectory (m : Machine) (task : Nat) : Machine :=
  let n := m.directories + 1
  { m with directories := n, disk := m.disk.makeWork n m.host.leftovers }.record (.made task n)

/-- A work directory is removed (`rmtree`). -/
def removeDirectory (m : Machine) (n : Nat) : Machine :=
  { m with disk := m.disk.removeWork n }.record (.removed n)

/-- The compile section is left before a process runs. -/
def abandon (m : Machine) (t : Ticket) (n : Nat) (stop : Stop) : Machine :=
  (m.removeDirectory n).close t (.stopped stop)

/-- The process of a hover runs in a work directory. -/
def spawn (m : Machine) (t : Ticket) (n : Nat) (settings : Settings) (artifact : Path)
    (run : Run) : Machine :=
  let process := m.processes + 1
  let job : Job := {
    ticket := t, directory := n, settings, artifact, process, run, since := m.now }
  { m with processes := process, running := some job }.emit
    [.spawn process (Staging.command settings n) n t.question.text
      (m.disk.load (Staging.namedPath settings n)).toOption (m.disk.namesIn n)]

/-- The compiler is started (`_run`) in a work directory that is prepared. -/
def launch (m : Machine) (t : Ticket) (n : Nat) (settings : Settings) (artifact : Path) :
    Machine :=
  let m := m.note (.compiling (Staging.command settings n))
  let (host, started) := m.host.start settings n m.disk
  let m := { m with host }
  match started with
  | .ok run => m.spawn t n settings artifact run
  | .error stop => m.abandon t n stop

/-- The text of a hover is staged in its work directory (`_stage`), with the settings in force now,
and the compiler is started. -/
def prepare (m : Machine) (t : Ticket) (n : Nat) : Machine :=
  let settings := m.server.pipeline.compilerSettings
  let (disk, staged) := Staging.stage settings m.server.room n t.question.text m.disk
  let m := { m with disk }
  match staged with
  | .ok artifact => m.launch t n settings artifact
  | .error stop => m.abandon t n stop

/-- A hover enters its compile section (`invoke`). -/
def enter (m : Machine) (t : Ticket) : Machine :=
  let attempt := m.directoryAttempts + 1
  let m := { m with directoryAttempts := attempt }.record (.entered t.task)
  if m.host.refusedDirectories.contains attempt then
    m.close t (.stopped (.failure (.workDirectory ⟨.noSpace, none⟩)))
  else
    let m := m.makeDirectory t.task
    m.prepare t m.directories

/-- The hovers of a queue enter one after the other, until one of them has a process running; the
others go on waiting. -/
def serve : List Ticket → Machine → Machine
  | [], m => { m with waiting := [] }
  | t :: queue, m =>
    let m := { m with waiting := queue }.enter t
    match m.running with
    | some _ => m
    | none => serve queue m

/-- The compile section is left: the work directory goes, the hover ends, and the next one
enters. -/
def leave (m : Machine) (job : Job) (ending : Ending) : Machine :=
  let m := ({ m with running := none }.removeDirectory job.directory).close job.ticket ending
  serve m.waiting m

/-! ## Messages -/

/-- A hover is asked (`hover`). It keeps its question, and enters at once if no other one compiles.
-/
def ask (m : Machine) (task : Nat) (bare : Bool) (uri : String) (position : Position) : Machine :=
  match m.server.guardedQuestion bare uri position with
  | .error failure => m.fail task bare uri failure
  | .ok none => m.conclude task bare none
  | .ok (some question) =>
    let queue := m.waiting ++ [{ task, bare, uri, question }]
    match m.running with
    | some _ => { m with waiting := queue }
    | none => serve queue m

/-- A message has been handled in one go. -/
def absorb (m : Machine) (task : Nat) (handled : Handled) : Machine :=
  ({ m with server := handled.server }.emit handled.events).settle task handled.outcome

/-- A message is delivered. -/
def deliver (m : Machine) (task : Nat) : Request → Machine
  | .hover bare uri position => m.ask task bare uri position
  | .handshake client options => m.absorb task (m.server.handshake client options)
  | .ready refusal => m.absorb task (m.server.ready refusal)
  | .shutdown => m.absorb task m.server.stop
  | .configure settings reply => m.absorb task (m.server.configure settings reply)
  | .folders => m.absorb task m.server.foldersChanged
  | .watched changes => m.absorb task (m.server.filesChanged changes)
  | .didOpen document => m.absorb task (m.server.didOpen document)
  | .didChange uri version changes => m.absorb task (m.server.didChange uri version changes)
  | .didClose uri => m.absorb task (m.server.didClose uri)
  | .completion => m.absorb task m.server.completion
  | .resolveItem item => m.absorb task (m.server.resolveItem item)

/-! ## Processes -/

/-- The process exits by itself, after writing its files. -/
def exit (m : Machine) (job : Job) : Machine :=
  { m with
    disk := job.run.files.foldl (Disk.place job.directory) m.disk
    running := some { job with exited := true } }.emit [.exit job.process]

/-- How the compile section ends when the process has exited and its output has ended. -/
def endingOf (m : Machine) (job : Job) : Ending :=
  if job.run.status = 0 then
    match m.disk.findEntry job.artifact job.ticket.question.symbol with
    | .ok entry => .found entry
    | .error stop => .stopped stop
  else
    .stopped <| .failure <|
      .exitStatus job.settings.compilerPath job.run.status (tailOfBytes job.run.stderr)

/-- The pass log of a process that ended with status zero is read. One that is missing then is
logged. -/
def readLog (m : Machine) (job : Job) : Machine :=
  let ending := m.endingOf job
  let m := if job.run.status = 0 then m.record (.read job.directory) else m
  match ending with
  | .stopped (.failure (.artifactNotFound _)) =>
    m.note (.noArtifact job.artifact.name m.server.pipeline.symbolSettings.passName)
  | _ => m

/-- The output of an exited process ends. -/
def finish (m : Machine) (job : Job) : Machine :=
  (m.readLog job).leave job (m.endingOf job)

/-- The process is stopped (`_kill`): killed, unless it has exited by itself, and waited for. -/
def stopProcess (m : Machine) (job : Job) : Machine :=
  m.emit ((if job.exited then [] else [.kill job.process]) ++ [.wait job.process])

/-- The time of the process is up (`CompilationTimeout`). -/
def expire (m : Machine) (job : Job) : Machine :=
  let limit := job.settings.compilerTimeout
  ((m.stopProcess job).note (.timedOut limit)).leave job
    (.stopped (.failure (.compilationTimeout limit)))

/-- The hover that compiles is cancelled (`CancelledError`). -/
def interrupt (m : Machine) (job : Job) : Machine :=
  ((m.stopProcess job).note .compilationCancelled).leave job .cancelled

/-- A hover that waits is cancelled: it leaves the queue. -/
def dequeue (m : Machine) (task : Nat) : Machine :=
  if m.waiting.any (·.task == task) then
    { m with waiting := m.waiting.filter (·.task != task) }.settle task .cancelled
  else m

/-- A hover is cancelled, if it is in flight. -/
def cancel (m : Machine) (task : Nat) : Machine :=
  match m.running with
  | some job => if job.ticket.task = task then m.interrupt job else m.dequeue task
  | none => m.dequeue task

/-! ## Actions -/

/-- The machine after an action. What cannot happen changes nothing: a process exits only once,
and its output ends only after that. -/
def act (m : Machine) : Action → Machine
  | .deliver task request => m.deliver task request
  | .cancel task => m.cancel task
  | .exit =>
    match m.running with
    | some job => if job.exited then m else m.exit job
    | none => m
  | .outputEnd =>
    match m.running with
    | some job => if job.exited then m.finish job else m
    | none => m
  | .expire =>
    match m.running with
    | some job => m.expire job
    | none => m

end Machine

end ChapelServer
