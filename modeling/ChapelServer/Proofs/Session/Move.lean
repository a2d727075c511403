import ChapelServer.Session.Timeline
import Mathlib.Logic.Relation

/-!
# Moves of the machine

An action is carried through to the next point of waiting, which may let several hovers enter and
end. This module cuts it into moves: what the action itself does (`respond`), and then the hovers
that enter one by one while no process runs (`advance`). Whatever every move keeps, every run
keeps.
-/

namespace ChapelServer

/-- What comes of a hover whose compile section ends so. -/
def Ticket.outcome (t : Ticket) : Ending → Outcome
  | .found entry =>
    if t.bare then .finding (some (Machine.findingOf t.question entry))
    else .hover (Hover.ofFinding? (some (Machine.findingOf t.question entry)))
  | .stopped (.failure failure) => if t.bare then .failed failure else .refused failure
  | .stopped (.fault fault) => .faulted fault
  | .cancelled => .cancelled

/-- The notice of a failed hover, which a bare one does not give. -/
def failureNotice (bare : Bool) (uri : String) : Failure → List Event
  | .artifactNotFound path =>
    if bare then [] else [.notice (.inconsistent (.artifactNotFound path))]
  | failure => if bare then [] else [.notice (.hoverFailed uri failure)]

/-- The events at the end of a hover. -/
def Ticket.closing (t : Ticket) : Ending → List Event
  | .stopped (.failure failure) => failureNotice t.bare t.uri failure ++ [.done t.task]
  | _ => [.done t.task]

/-- The event concerns no process. -/
def Event.isQuiet : Event → Bool
  | .spawn _ _ _ _ _ _ | .exit _ | .kill _ => false
  | _ => true

/-- The event is a notice or a call to the client. -/
def Event.isSpoken : Event → Bool
  | .notice _ | .register _ | .pull _ => true
  | _ => false

theorem Event.isQuiet_of_isSpoken {e : Event} (h : e.isSpoken) : e.isQuiet := by
  cases e <;> simp_all [isSpoken, isQuiet]

/-- Events that are spoken, and then the end of a task, concern no process. -/
theorem isQuiet_of_mem_spoken_done {spoken : List Event} (h : ∀ e ∈ spoken, e.isSpoken)
    (task : Nat) : ∀ e ∈ spoken ++ [Event.done task], e.isQuiet := by
  intro e he
  rcases List.mem_append.mp he with he | he
  · exact Event.isQuiet_of_isSpoken (h e he)
  · rw [List.mem_singleton.mp he]
    rfl

theorem failureNotice_spoken (bare : Bool) (uri : String) (failure : Failure) :
    ∀ e ∈ failureNotice bare uri failure, e.isSpoken := by
  intro e he
  cases failure <;> cases bare <;> simp_all [failureNotice, Event.isSpoken]

/-- A hover ends with what is spoken about it, and then its end. -/
theorem Ticket.closing_eq (t : Ticket) (ending : Ending) :
    ∃ spoken, (∀ e ∈ spoken, e.isSpoken) ∧ t.closing ending = spoken ++ [.done t.task] := by
  cases ending with
  | stopped stop =>
    cases stop with
    | failure failure => exact ⟨_, failureNotice_spoken t.bare t.uri failure, rfl⟩
    | fault fault => exact ⟨[], by simp, rfl⟩
  | _ => exact ⟨[], by simp, rfl⟩

/-- The outcome shows something about a symbol. -/
def Outcome.isShown : Outcome → Bool
  | .hover (some _) | .finding (some _) => true
  | _ => false

namespace Machine

/-! ## The ends of a hover as updates of the machine -/

theorem settle_eq (m : Machine) (task : Nat) (outcome : Outcome) :
    m.settle task outcome =
      { m with
        trace := m.trace ++ [.event (.done task)]
        outcomes := m.outcomes ++ [(task, outcome)] } := rfl

theorem fail_eq (m : Machine) (task : Nat) (bare : Bool) (uri : String) (failure : Failure) :
    m.fail task bare uri failure =
      { m with
        trace := m.trace ++ (failureNotice bare uri failure ++ [Event.done task]).map .event
        outcomes := m.outcomes ++
          [(task, if bare then .failed failure else .refused failure)] } := by
  cases bare
  · cases failure <;> simp [fail, failureNotice, settle, note, emit]
  · cases failure <;> simp [fail, failureNotice, settle, emit]

theorem close_eq (m : Machine) (t : Ticket) (ending : Ending) :
    m.close t ending =
      { m with
        trace := m.trace ++ (t.closing ending).map .event
        outcomes := m.outcomes ++ [(t.task, t.outcome ending)] } := by
  cases ending with
  | found entry => cases hb : t.bare <;> simp [close, conclude, settle_eq, Ticket.closing,
      Ticket.outcome, hb]
  | stopped stop =>
    cases stop with
    | failure failure => simp [close, fail_eq, Ticket.closing, Ticket.outcome]
    | fault fault => rfl
  | cancelled => rfl

/-- The compile section is left, and nobody has entered it again yet. -/
def vacate (m : Machine) (job : Job) (ending : Ending) : Machine :=
  ({ m with running := none }.removeDirectory job.directory).close job.ticket ending

theorem vacate_eq (m : Machine) (job : Job) (ending : Ending) :
    m.vacate job ending =
      { m with
        running := none
        disk := m.disk.removeWork job.directory
        trace := m.trace ++ .removed job.directory :: (job.ticket.closing ending).map .event
        outcomes := m.outcomes ++ [(job.ticket.task, job.ticket.outcome ending)] } := by
  simp [vacate, close_eq, removeDirectory, record]

theorem leave_eq (m : Machine) (job : Job) (ending : Ending) :
    m.leave job ending = serve (m.vacate job ending).waiting (m.vacate job ending) := rfl

/-- The notice of a pass log that is missing. -/
def missingNotice (m : Machine) (job : Job) : List Event :=
  match m.endingOf job with
  | .stopped (.failure (.artifactNotFound _)) =>
    [.notice (.noArtifact job.artifact.name m.server.pipeline.symbolSettings.passName)]
  | _ => []

/-- What happens when the pass log of a process is to be read. -/
def readMoments (m : Machine) (job : Job) : List Moment :=
  (if job.run.status = 0 then [.read job.directory] else []) ++ (m.missingNotice job).map .event

theorem readLog_eq (m : Machine) (job : Job) :
    m.readLog job = { m with trace := m.trace ++ m.readMoments job } := by
  unfold readLog readMoments missingNotice
  by_cases hz : job.run.status = 0
  · simp only [hz, if_true]
    split <;> simp [*, note, emit, record]
  · simp only [hz, if_false]
    split <;> simp [*, note, emit]

/-- What happens when a process is stopped, and why. -/
def stopEvents (job : Job) (notice : Notice) : List Event :=
  (if job.exited then [] else [.kill job.process]) ++ [.wait job.process, .notice notice]

theorem stopProcess_eq (m : Machine) (job : Job) (notice : Notice) :
    (m.stopProcess job).note notice =
      { m with trace := m.trace ++ (stopEvents job notice).map .event } := by
  cases hx : job.exited <;> simp [stopProcess, note, emit, stopEvents, hx]

theorem absorb_eq (m : Machine) (task : Nat) (handled : Handled) :
    m.absorb task handled =
      { m with
        server := handled.server
        trace := m.trace ++ (handled.events ++ [Event.done task]).map .event
        outcomes := m.outcomes ++ [(task, handled.outcome)] } := by
  simp [absorb, settle_eq, emit]

/-! ## What an action does by itself -/

/-- A hover is asked. It ends at once, or joins the queue. -/
def enqueue (m : Machine) (task : Nat) (bare : Bool) (uri : String) (position : Position) :
    Machine :=
  match m.server.guardedQuestion bare uri position with
  | .error failure => m.fail task bare uri failure
  | .ok none => m.conclude task bare none
  | .ok (some question) => { m with waiting := m.waiting ++ [{ task, bare, uri, question }] }

/-- What the server does with a message other than a hover. -/
def handled? (s : Server) : Request → Option Handled
  | .hover _ _ _ => none
  | .handshake client options => some (s.handshake client options)
  | .ready refusal => some (s.ready refusal)
  | .shutdown => some s.stop
  | .configure settings reply => some (s.configure settings reply)
  | .folders => some s.foldersChanged
  | .watched changes => some (s.filesChanged changes)
  | .didOpen document => some (s.didOpen document)
  | .didChange uri version changes => some (s.didChange uri version changes)
  | .didClose uri => some (s.didClose uri)
  | .completion => some s.completion
  | .resolveItem item => some (s.resolveItem item)

/-- The hover that compiles is cancelled, or one that waits. -/
def withdraw (m : Machine) (task : Nat) : Machine :=
  match m.running with
  | some job =>
    if job.ticket.task = task then
      ((m.stopProcess job).note .compilationCancelled).vacate job .cancelled
    else m.dequeue task
  | none => m.dequeue task

/-- The output of the process ends, if it has exited. -/
def conclusion (m : Machine) : Machine :=
  match m.running with
  | some job => if job.exited then (m.readLog job).vacate job (m.endingOf job) else m
  | none => m

/-- The time of the process is up. -/
def deadline (m : Machine) : Machine :=
  match m.running with
  | some job =>
    ((m.stopProcess job).note (.timedOut job.settings.compilerTimeout)).vacate job
      (.stopped (.failure (.compilationTimeout job.settings.compilerTimeout)))
  | none => m

/-- What an action does by itself, before other hovers enter. -/
def respond (m : Machine) : Action → Machine
  | .deliver task (.hover bare uri position) => m.enqueue task bare uri position
  | .deliver task request => m.deliver task request
  | .cancel task => m.withdraw task
  | .exit => m.act .exit
  | .outputEnd => m.conclusion
  | .expire => m.deadline

/-- Hovers enter while no process runs. -/
def advance (m : Machine) : Machine :=
  match m.running with
  | some _ => m
  | none => serve m.waiting m

/-- No hover waits while no process runs. -/
def Settled (m : Machine) : Prop :=
  m.running = none → m.waiting = []

theorem advance_of_settled {m : Machine} (h : m.Settled) : m.advance = m := by
  cases hr : m.running with
  | some job => simp [advance, hr]
  | none =>
    have hw := h hr
    cases m
    cases hr
    cases hw
    rfl

theorem serve_waiting (queue waiting : List Ticket) (m : Machine) :
    serve queue { m with waiting } = serve queue m := by
  cases queue <;> rfl

theorem advance_vacate (m : Machine) (job : Job) (ending : Ending) :
    (m.vacate job ending).advance = m.leave job ending := by
  have hr : (m.vacate job ending).running = none := by rw [vacate_eq]
  simp only [advance, hr, leave_eq]

theorem deliver_absorb {m : Machine} {task : Nat} {request : Request} {handled : Handled}
    (h : handled? m.server request = some handled) :
    m.deliver task request = m.absorb task handled := by
  cases request <;> cases h <;> rfl

theorem respond_absorb {m : Machine} {task : Nat} {request : Request} {handled : Handled}
    (h : handled? m.server request = some handled) :
    m.respond (.deliver task request) = m.absorb task handled := by
  cases request <;> cases h <;> rfl

theorem advance_enqueue {m : Machine} (h : m.Settled) (task : Nat) (bare : Bool) (uri : String)
    (position : Position) :
    (m.enqueue task bare uri position).advance = m.ask task bare uri position := by
  unfold enqueue ask
  match m.server.guardedQuestion bare uri position with
  | .error failure =>
    simp only [fail_eq]
    exact advance_of_settled h
  | .ok none => exact advance_of_settled h
  | .ok (some question) =>
    -- The queue that `serve` is given is the one that counts, not the one in the machine.
    have hserve (queue : List Ticket) := serve_waiting queue queue m
    simp only [advance]
    cases hr : m.running with
    | none =>
      rw [hr] at hserve
      exact hserve _
    | some job => rfl

theorem dequeue_running (m : Machine) (task : Nat) : (m.dequeue task).running = m.running := by
  unfold dequeue
  split <;> rfl

theorem dequeue_settled {m : Machine} (h : m.Settled) (task : Nat) :
    (m.dequeue task).Settled := by
  intro hr
  have hw := h (by rw [← hr, dequeue_running])
  simp [dequeue, hw]

theorem exit_settled {m : Machine} (h : m.Settled) : (m.act .exit).Settled := by
  unfold act
  cases hr : m.running with
  | none => exact h
  | some job =>
    by_cases hx : job.exited
    · simpa [hx] using h
    · intro hn
      simp [hx, exit, emit] at hn

/-- An action is what it does by itself, and then hovers enter. -/
theorem act_eq {m : Machine} (h : m.Settled) (action : Action) :
    m.act action = (m.respond action).advance := by
  cases action with
  | deliver task request =>
    cases hh : handled? m.server request with
    | none =>
      cases request with
      | hover bare uri position => exact (advance_enqueue h task bare uri position).symm
      | _ => cases hh
    | some handled =>
      rw [respond_absorb hh, act, deliver_absorb hh, advance_of_settled]
      exact h
  | exit => exact (advance_of_settled (exit_settled h)).symm
  | outputEnd =>
    cases hr : m.running with
    | none => simp [act, respond, conclusion, hr, advance_of_settled h]
    | some job =>
      by_cases hx : job.exited
      · simp [act, respond, conclusion, hr, hx, finish, advance_vacate]
      · simp [act, respond, conclusion, hr, hx, advance_of_settled h]
  | expire =>
    cases hr : m.running with
    | none => simp [act, respond, deadline, hr, advance_of_settled h]
    | some job => simp [act, respond, deadline, hr, expire, advance_vacate]
  | cancel task =>
    have hd := advance_of_settled (dequeue_settled h task)
    cases hr : m.running with
    | none => simp [act, cancel, respond, withdraw, hr, hd]
    | some job =>
      by_cases ht : job.ticket.task = task
      · simp [act, cancel, respond, withdraw, hr, ht, interrupt, advance_vacate]
      · simp [act, cancel, respond, withdraw, hr, ht, hd]

/-! ## The ways an action can go -/

/-- How the hover that compiles leaves its compile section: what happens before its work directory
is removed, and how the section ends. -/
inductive Leaves (m : Machine) (job : Job) : Action → List Moment → Ending → Prop
  | finished (hx : job.exited = true) :
    Leaves m job .outputEnd (m.readMoments job) (m.endingOf job)
  | expired :
    Leaves m job .expire
      ((stopEvents job (.timedOut job.settings.compilerTimeout)).map .event)
      (.stopped (.failure (.compilationTimeout job.settings.compilerTimeout)))
  | interrupted :
    Leaves m job (.cancel job.ticket.task)
      ((stopEvents job .compilationCancelled).map .event) .cancelled

/-- The action finds nothing that it could act on. -/
def Idle (m : Machine) : Action → Prop
  | .deliver _ _ => False
  | .exit => ∀ job, m.running = some job → job.exited = true
  | .outputEnd => ∀ job, m.running = some job → job.exited = false
  | .expire => m.running = none
  | .cancel task =>
    (∀ job, m.running = some job → job.ticket.task ≠ task) ∧ ∀ t ∈ m.waiting, t.task ≠ task

/-- The ways in which an action can go by itself, before other hovers enter. -/
inductive Response (m : Machine) : Action → Machine → Prop
  | absorbed {task : Nat} {request : Request} {handled : Handled}
    (hh : handled? m.server request = some handled) :
    Response m (.deliver task request) { m with
      server := handled.server
      trace := m.trace ++ (handled.events ++ [Event.done task]).map .event
      outcomes := m.outcomes ++ [(task, handled.outcome)] }
  | dismissed {task : Nat} {bare : Bool} {uri : String} {position : Position}
    {notices : List Event} {outcome : Outcome}
    (hq : ∀ q, m.server.guardedQuestion bare uri position ≠ .ok (some q))
    (spoken : ∀ e ∈ notices, e.isSpoken) (hidden : outcome.isShown = false) :
    Response m (.deliver task (.hover bare uri position)) { m with
      trace := m.trace ++ (notices ++ [Event.done task]).map .event
      outcomes := m.outcomes ++ [(task, outcome)] }
  | queued {task : Nat} {bare : Bool} {uri : String} {position : Position}
    {question : Server.Question}
    (hq : m.server.guardedQuestion bare uri position = .ok (some question)) :
    Response m (.deliver task (.hover bare uri position)) { m with
      waiting := m.waiting ++ [{ task, bare, uri, question }] }
  | exited {job : Job} (hr : m.running = some job) (hx : job.exited = false) :
    Response m .exit { m with
      disk := job.run.files.foldl (Disk.place job.directory) m.disk
      running := some { job with exited := true }
      trace := m.trace ++ [.event (.exit job.process)] }
  | left {action : Action} {job : Job} {moments : List Moment} {ending : Ending}
    (hr : m.running = some job) (hl : Leaves m job action moments ending) :
    Response m action { m with
      running := none
      disk := m.disk.removeWork job.directory
      trace := m.trace ++
        (moments ++ .removed job.directory :: (job.ticket.closing ending).map .event)
      outcomes := m.outcomes ++ [(job.ticket.task, job.ticket.outcome ending)] }
  | dequeued {task : Nat} (hr : ∀ job, m.running = some job → job.ticket.task ≠ task)
    (hw : ∃ t ∈ m.waiting, t.task = task) :
    Response m (.cancel task) { m with
      waiting := m.waiting.filter (·.task != task)
      trace := m.trace ++ [.event (.done task)]
      outcomes := m.outcomes ++ [(task, .cancelled)] }
  | idle {action : Action} (hi : m.Idle action) : Response m action m

theorem response_deliver (m : Machine) (task : Nat) (request : Request) :
    Response m (.deliver task request) (m.respond (.deliver task request)) := by
  cases hh : handled? m.server request with
  | some handled =>
    rw [respond_absorb hh, absorb_eq]
    exact .absorbed hh
  | none =>
    cases request with
    | hover bare uri position =>
      simp only [respond, enqueue]
      match hg : m.server.guardedQuestion bare uri position with
      | .error failure =>
        simp only [fail_eq]
        refine .dismissed (by simp [hg]) (failureNotice_spoken bare uri failure) ?_
        cases bare <;> rfl
      | .ok none =>
        have hnone : ∀ e ∈ ([] : List Event), e.isSpoken := by simp
        refine .dismissed (by simp [hg]) hnone ?_
        cases bare <;> rfl
      | .ok (some question) => exact .queued hg
    | _ => cases hh

theorem response_left {m : Machine} {action : Action} {job : Job} {moments : List Moment}
    {ending : Ending} (hr : m.running = some job) (hl : Leaves m job action moments ending)
    (h : m.respond action = { m with trace := m.trace ++ moments }.vacate job ending) :
    Response m action (m.respond action) := by
  rw [h, vacate_eq]
  simpa only [List.append_assoc] using Response.left hr hl

theorem response_dequeue {m : Machine} {task : Nat}
    (hr : ∀ job, m.running = some job → job.ticket.task ≠ task) :
    Response m (.cancel task) (m.dequeue task) := by
  unfold dequeue
  split
  · rename_i hw
    obtain ⟨t, ht, heq⟩ := List.any_eq_true.mp hw
    exact .dequeued hr ⟨t, ht, by simpa using heq⟩
  · rename_i hw
    exact .idle ⟨hr, by simpa using hw⟩

/-- An action goes one of these ways. -/
theorem response (m : Machine) (action : Action) : Response m action (m.respond action) := by
  cases action with
  | deliver task request => exact response_deliver m task request
  | exit =>
    simp only [respond, act]
    cases hr : m.running with
    | none => exact .idle (by simp [Idle, hr])
    | some job =>
      cases hx : job.exited with
      | true =>
        have hidle : m.Idle .exit := by simpa [Idle, hr] using hx
        simpa [hx] using Response.idle hidle
      | false => simpa [hx, exit, emit] using Response.exited hr hx
  | outputEnd =>
    cases hr : m.running with
    | none =>
      simp only [respond, conclusion, hr]
      exact .idle (by simp [Idle, hr])
    | some job =>
      cases hx : job.exited with
      | false =>
        simp only [respond, conclusion, hr, hx]
        exact .idle (by simpa [Idle, hr] using hx)
      | true =>
        refine response_left hr (.finished hx) ?_
        simp only [respond, conclusion, hr, hx, if_true, readLog_eq]
  | expire =>
    cases hr : m.running with
    | none =>
      simp only [respond, deadline, hr]
      exact .idle hr
    | some job =>
      refine response_left hr .expired ?_
      simp only [respond, deadline, hr, stopProcess_eq]
  | cancel task =>
    cases hr : m.running with
    | none =>
      simp only [respond, withdraw, hr]
      exact response_dequeue (by simp [hr])
    | some job =>
      by_cases ht : job.ticket.task = task
      · subst ht
        refine response_left hr .interrupted ?_
        simp only [respond, withdraw, hr, if_true, stopProcess_eq]
      · simp only [respond, withdraw, hr, if_neg ht]
        exact response_dequeue (by simpa [hr] using ht)

/-! ## Entering the compile section -/

/-- The number of the next work directory. -/
def nextDirectory (m : Machine) : Nat :=
  m.directories + 1

/-- The settings that a compilation uses now. -/
def inForce (m : Machine) : Settings :=
  m.server.pipeline.compilerSettings

/-- Making a work directory fails next time. -/
def refusesDirectory (m : Machine) : Bool :=
  m.host.refusedDirectories.contains (m.directoryAttempts + 1)

/-- The disk after a text is staged in the next work directory, and what comes of it. -/
def staging (m : Machine) (text : Text) : Disk × Except Stop Path :=
  Staging.stage m.inForce m.server.room m.nextDirectory text
    (m.disk.makeWork m.nextDirectory m.host.leftovers)

/-- The host after the compiler is started in the next work directory, as it is on this disk, and
the process or why there is none. -/
def starting (m : Machine) (disk : Disk) : Host × Except Stop Run :=
  m.host.start m.inForce m.nextDirectory disk

/-- The command that the next compilation runs. -/
def nextCommand (m : Machine) : List Text :=
  Staging.command m.inForce m.nextDirectory

/-- What the next compilation finds on this disk under the bare name of its file. -/
def opening (m : Machine) (disk : Disk) : Option (List UInt8) :=
  (disk.load (Staging.namedPath m.inForce m.nextDirectory)).toOption

/-- The end of a hover that gets no work directory. -/
def noDirectory : Ending :=
  .stopped (.failure (.workDirectory ⟨.noSpace, none⟩))

/-- The job of a hover whose process starts. -/
def newJob (m : Machine) (t : Ticket) (artifact : Path) (run : Run) : Job where
  ticket := t
  directory := m.nextDirectory
  settings := m.inForce
  artifact := artifact
  process := m.processes + 1
  run := run
  since := m.now

/-- The ways in which a hover enters its compile section: it ends there at once, or its process
runs. -/
inductive Entry (m : Machine) (t : Ticket) : Machine → Prop
  | refused (hd : m.refusesDirectory = true) :
    Entry m t { m with
      directoryAttempts := m.directoryAttempts + 1
      trace := m.trace ++ .entered t.task :: (t.closing noDirectory).map .event
      outcomes := m.outcomes ++ [(t.task, t.outcome noDirectory)] }
  | unstaged {disk : Disk} {stop : Stop} (hd : m.refusesDirectory = false)
    (hs : m.staging t.question.text = (disk, .error stop)) :
    Entry m t { m with
      directoryAttempts := m.directoryAttempts + 1
      directories := m.nextDirectory
      disk := disk.removeWork m.nextDirectory
      trace := m.trace ++ .entered t.task :: .made t.task m.nextDirectory ::
        .removed m.nextDirectory :: (t.closing (.stopped stop)).map .event
      outcomes := m.outcomes ++ [(t.task, t.outcome (.stopped stop))] }
  | unstarted {disk : Disk} {artifact : Path} {stop : Stop}
    (hd : m.refusesDirectory = false) (hs : m.staging t.question.text = (disk, .ok artifact))
    (hr : (m.starting disk).2 = .error stop) :
    Entry m t { m with
      host := (m.starting disk).1
      directoryAttempts := m.directoryAttempts + 1
      directories := m.nextDirectory
      disk := disk.removeWork m.nextDirectory
      trace := m.trace ++ .entered t.task :: .made t.task m.nextDirectory ::
        .event (.notice (.compiling m.nextCommand)) :: .removed m.nextDirectory ::
        (t.closing (.stopped stop)).map .event
      outcomes := m.outcomes ++ [(t.task, t.outcome (.stopped stop))] }
  | started {disk : Disk} {artifact : Path} {run : Run}
    (hd : m.refusesDirectory = false) (hs : m.staging t.question.text = (disk, .ok artifact))
    (hr : (m.starting disk).2 = .ok run) :
    Entry m t { m with
      host := (m.starting disk).1
      directoryAttempts := m.directoryAttempts + 1
      directories := m.nextDirectory
      disk := disk
      processes := m.processes + 1
      running := some (m.newJob t artifact run)
      trace := m.trace ++ [.entered t.task, .made t.task m.nextDirectory,
        .event (.notice (.compiling m.nextCommand)),
        .event (.spawn (m.processes + 1) m.nextCommand m.nextDirectory t.question.text
          (m.opening disk) (disk.namesIn m.nextDirectory))] }

theorem enter_refused {m : Machine} (hd : m.refusesDirectory = true) (t : Ticket) :
    Entry m t (m.enter t) := by
  have hd' : m.directoryAttempts + 1 ∈ m.host.refusedDirectories := by
    simpa [refusesDirectory] using hd
  have h := Entry.refused (t := t) hd
  simpa [enter, record, close_eq, hd', noDirectory] using h

/-- A work directory is made for a hover. -/
def opened (m : Machine) (t : Ticket) : Machine :=
  { m with
    directoryAttempts := m.directoryAttempts + 1
    directories := m.nextDirectory
    disk := m.disk.makeWork m.nextDirectory m.host.leftovers
    trace := m.trace ++ [.entered t.task, .made t.task m.nextDirectory] }

theorem enter_opened {m : Machine} (hd : m.refusesDirectory = false) (t : Ticket) :
    m.enter t = (m.opened t).prepare t m.nextDirectory := by
  have hd' : m.directoryAttempts + 1 ∉ m.host.refusedDirectories := by
    simpa [refusesDirectory] using hd
  simp [enter, record, hd', makeDirectory, opened, nextDirectory]

theorem enter_unstaged {m : Machine} {t : Ticket} {disk : Disk} {stop : Stop}
    (hd : m.refusesDirectory = false) (hs : m.staging t.question.text = (disk, .error stop)) :
    Entry m t (m.enter t) := by
  have h := Entry.unstaged hd hs
  have hs' : Staging.stage (m.opened t).server.pipeline.compilerSettings (m.opened t).server.room
      m.nextDirectory t.question.text (m.opened t).disk = (disk, .error stop) := hs
  rw [enter_opened hd, prepare]
  simp only [hs']
  simpa [abandon, removeDirectory, record, close_eq, opened] using h

/-- The machine once the attempt to start the compiler has been noted, started or not. -/
def attempted (m : Machine) (n : Nat) (settings : Settings) : Machine :=
  { m.note (.compiling (Staging.command settings n)) with
    host := (m.host.start settings n m.disk).1 }

theorem launch_ok {m : Machine} {n : Nat} {settings : Settings} {run : Run}
    (hr : (m.host.start settings n m.disk).2 = .ok run) (t : Ticket) (artifact : Path) :
    m.launch t n settings artifact =
      (m.attempted n settings).spawn t n settings artifact run := by
  simp [launch, attempted, note, emit, hr]

theorem launch_error {m : Machine} {n : Nat} {settings : Settings} {stop : Stop}
    (hr : (m.host.start settings n m.disk).2 = .error stop) (t : Ticket) (artifact : Path) :
    m.launch t n settings artifact = (m.attempted n settings).abandon t n stop := by
  simp [launch, attempted, note, emit, hr]

theorem enter_launch {m : Machine} {t : Ticket} {disk : Disk} {artifact : Path}
    (hd : m.refusesDirectory = false) (hs : m.staging t.question.text = (disk, .ok artifact)) :
    m.enter t = { m.opened t with disk }.launch t m.nextDirectory m.inForce artifact := by
  have hs' : Staging.stage (m.opened t).server.pipeline.compilerSettings (m.opened t).server.room
      m.nextDirectory t.question.text (m.opened t).disk = (disk, .ok artifact) := hs
  rw [enter_opened hd, prepare]
  simp only [hs']
  rfl

theorem enter_unstarted {m : Machine} {t : Ticket} {disk : Disk} {artifact : Path} {stop : Stop}
    (hd : m.refusesDirectory = false) (hs : m.staging t.question.text = (disk, .ok artifact))
    (hr : (m.starting disk).2 = .error stop) : Entry m t (m.enter t) := by
  have h := Entry.unstarted hd hs hr
  rw [enter_launch hd hs, launch_error (m := { m.opened t with disk }) hr]
  simpa [attempted, note, emit, opened, abandon, removeDirectory, record, close_eq, starting,
    nextCommand] using h

theorem enter_started {m : Machine} {t : Ticket} {disk : Disk} {artifact : Path} {run : Run}
    (hd : m.refusesDirectory = false) (hs : m.staging t.question.text = (disk, .ok artifact))
    (hr : (m.starting disk).2 = .ok run) : Entry m t (m.enter t) := by
  have h := Entry.started hd hs hr
  rw [enter_launch hd hs, launch_ok (m := { m.opened t with disk }) hr]
  simpa [attempted, note, emit, opened, spawn, starting, nextCommand, opening, newJob] using h

/-- Entering goes one of these ways. -/
theorem entry (m : Machine) (t : Ticket) : Entry m t (m.enter t) := by
  cases hd : m.refusesDirectory with
  | true => exact enter_refused hd t
  | false =>
    match hs : m.staging t.question.text with
    | (disk, .error stop) => exact enter_unstaged hd hs
    | (disk, .ok artifact) =>
      match hr : (m.starting disk).2 with
      | .error stop => exact enter_unstarted hd hs hr
      | .ok run => exact enter_started hd hs hr

/-! ## Moves and runs -/

/-- What is due happens. -/
def happen (m : Machine) (due : Due) : Machine :=
  { m with now := due.instant }.act due.action

/-- The machine after all that is due has happened, in this order. -/
def runs (m : Machine) (dues : List Due) : Machine :=
  dues.foldl happen m

/-- One move: what is due happens, or the first hover of the queue enters. -/
inductive Move : Machine → Machine → Prop
  | respond (m : Machine) (due : Due) (settled : m.Settled) :
    Move m ({ m with now := due.instant }.respond due.action)
  | enter {m : Machine} {t : Ticket} {queue : List Ticket} (free : m.running = none)
    (next : m.waiting = t :: queue) : Move m ({ m with waiting := queue }.enter t)

/-- A state that the machine passes through later, or the same. -/
abbrev Moves : Machine → Machine → Prop :=
  Relation.ReflTransGen Move

/-- A hover that enters leaves the queue as it is. -/
theorem Entry.waiting_eq {m m' : Machine} {t : Ticket} (h : Entry m t m') :
    m'.waiting = m.waiting := by
  cases h <;> rfl

theorem enter_waiting (m : Machine) (t : Ticket) : (m.enter t).waiting = m.waiting :=
  (m.entry t).waiting_eq

/-- What the entering of one hover keeps, the entering of several keeps. -/
theorem serve_induct {P : Machine → Prop}
    (hP : ∀ {m : Machine} {t : Ticket} {queue : List Ticket}, m.running = none →
      m.waiting = t :: queue → P m → P ({ m with waiting := queue }.enter t))
    (queue : List Ticket) {m : Machine} (hr : m.running = none) (hw : m.waiting = queue)
    (hm : P m) : P (serve queue m) := by
  -- On the queue: a hover that ends at once leaves the section free for the next one.
  induction queue generalizing m with
  | nil =>
    have h := advance_of_settled (m := m) (fun _ => hw)
    simp only [advance, hr, hw] at h
    rwa [h]
  | cons t queue ih =>
    have hm' := hP hr hw hm
    have hw' : ({ m with waiting := queue }.enter t).waiting = queue := enter_waiting _ t
    simp only [serve]
    split
    · exact hm'
    · rename_i hr'
      exact ih hr' hw' hm'

theorem advance_induct {P : Machine → Prop}
    (hP : ∀ {m : Machine} {t : Ticket} {queue : List Ticket}, m.running = none →
      m.waiting = t :: queue → P m → P ({ m with waiting := queue }.enter t))
    {m : Machine} (hm : P m) : P m.advance := by
  unfold advance
  split
  · exact hm
  · rename_i hr
    exact serve_induct hP _ hr rfl hm

theorem advance_moves (m : Machine) : Moves m m.advance :=
  advance_induct (fun hr hw h => h.tail (.enter hr hw)) .refl

theorem serve_settled (queue : List Ticket) (m : Machine) : (serve queue m).Settled := by
  induction queue generalizing m with
  | nil => exact fun _ => rfl
  | cons t queue ih =>
    simp only [serve]
    split
    · rename_i hr
      intro hn
      simp [hn] at hr
    · exact ih _

theorem advance_settled (m : Machine) : m.advance.Settled := by
  unfold advance
  split
  · rename_i hr
    intro hn
    simp [hn] at hr
  · exact serve_settled _ _

theorem happen_eq {m : Machine} (h : m.Settled) (due : Due) :
    m.happen due = ({ m with now := due.instant }.respond due.action).advance :=
  act_eq (m := { m with now := due.instant }) h due.action

theorem happen_settled {m : Machine} (h : m.Settled) (due : Due) : (m.happen due).Settled := by
  rw [happen_eq h]
  exact advance_settled _

theorem happen_moves {m : Machine} (h : m.Settled) (due : Due) : Moves m (m.happen due) := by
  rw [happen_eq h]
  exact .head (.respond m due h) (advance_moves _)

theorem runs_settled {m : Machine} (h : m.Settled) (dues : List Due) : (m.runs dues).Settled := by
  induction dues generalizing m with
  | nil => exact h
  | cons due dues ih => exact ih (happen_settled h due)

/-- A run is made of moves. -/
theorem runs_moves {m : Machine} (h : m.Settled) (dues : List Due) : Moves m (m.runs dues) := by
  induction dues generalizing m with
  | nil => exact .refl
  | cons due dues ih => exact (happen_moves h due).trans (ih (happen_settled h due))

/-- What every move keeps, every sequence of moves keeps. -/
theorem Moves.keep {P : Machine → Prop} (hP : ∀ {m m' : Machine}, Move m m' → P m → P m')
    {m m' : Machine} (h : Moves m m') (hm : P m) : P m' := by
  induction h with
  | refl => exact hm
  | tail _ hmove ih => exact hP hmove ih

end Machine

end ChapelServer
