import ChapelServer.Session.Machine

/-!
# Time

Messages arrive at their times, processes exit and time out at theirs, and hovers are cancelled at
theirs: what is due first happens first. Instants are counted in units so fine that every
millisecond and every time limit is a whole number of them.
-/

namespace ChapelServer

/-- An instant, or a stretch of time, in units of `2 ^ -1074` milliseconds. -/
abbrev Instant := Nat

namespace Instant

/-- A number of milliseconds. -/
def ofMilliseconds (n : Nat) : Instant :=
  n * Nat.pow 2 Number.Binary64.unitExponent

/-- A time limit in seconds, if it is ever reached. One that is not above zero is reached at once,
and one that is no number has no instant. -/
def ofLimit? : Number.Binary64 → Option Instant
  | .infinite false | .nan => none
  | .infinite true | .finite true _ _ => some 0
  | .finite false mantissa scale => some (1000 * (mantissa * Nat.pow 2 scale))

end Instant

/-- A message to come: its task, when it arrives, how long after that it is cancelled, if it is,
both in milliseconds, and the message. -/
structure Arrival where
  task : Nat
  start : Nat := 0
  cancelAfter : Option Nat := none
  request : Request

/-- Something that is due at an instant. -/
structure Due where
  instant : Instant
  action : Action

namespace Due

/-- The earlier of two, the first one if neither is. -/
def earlier (a b : Due) : Due :=
  if b.instant < a.instant then b else a

/-- The earliest of all, the first such one. -/
def earliest? : List Due → Option Due
  | [] => none
  | d :: rest => some (rest.foldl earlier d)

end Due

namespace Arrival

/-- The delivery of a message. -/
def delivery (a : Arrival) : Due :=
  ⟨.ofMilliseconds a.start, .deliver a.task a.request⟩

/-- The cancellation of a message, if there is one. -/
def cancellation? (a : Arrival) : Option Due :=
  a.cancelAfter.map fun ms => ⟨.ofMilliseconds (a.start + ms), .cancel a.task⟩

end Arrival

namespace Job

/-- The instant that is so many milliseconds after the start of a job's process. -/
def after (job : Job) (ms : Nat) : Instant :=
  job.since + .ofMilliseconds ms

/-- When the process exits, if it has not and ever does. -/
def exit? (job : Job) : Option Due :=
  if job.exited then none else job.run.exitAfter.map fun ms => ⟨job.after ms, .exit⟩

/-- When the output of an exited process ends (`communicate`), which is not before it exits. -/
def outputEnd? (job : Job) : Option Due :=
  if job.exited then
    job.run.outputEndsAfter.map fun ms =>
      ⟨job.after (max ms (job.run.exitAfter.getD 0)), .outputEnd⟩
  else none

/-- When the time of the process is up (`wait_for`). -/
def expiry? (job : Job) : Option Due :=
  (Instant.ofLimit? job.settings.compilerTimeout).map fun limit => ⟨job.since + limit, .expire⟩

/-- All that is due of a job. -/
def dues (job : Job) : List Due :=
  job.exit?.toList ++ job.outputEnd?.toList ++ job.expiry?.toList

end Job

/-- The machine with the messages to come and the cancellations of those that have come. -/
structure Timeline where
  machine : Machine
  arrivals : List Arrival
  started : List Arrival := []

namespace Timeline

/-- A task is in flight. -/
def inFlight (m : Machine) (task : Nat) : Bool :=
  m.waiting.any (·.task == task) || m.running.any (·.ticket.task == task)

/-- The messages to come and the cancellations of those in flight. -/
def toCome (t : Timeline) : List Due :=
  t.arrivals.map Arrival.delivery
    ++ (t.started.filter (inFlight t.machine ·.task)).filterMap Arrival.cancellation?

/-- All that is due at an instant of its own. -/
def timed (t : Timeline) : List Due :=
  (t.machine.running.map Job.dues).getD [] ++ t.toCome

/-- The end of a limit that is no number. It is reached at once if nothing else was to come when the
process started, and with the next thing that happens otherwise. -/
def unmeasured? (t : Timeline) : Option Due :=
  match t.machine.running with
  | some job =>
    if job.settings.compilerTimeout = .nan then
      let others := t.toCome.any fun due => job.since < due.instant
      if others && t.machine.now ≤ job.since then
        (Due.earliest? t.timed).map fun due => { due with action := .expire }
      else some ⟨t.machine.now, .expire⟩
    else none
  | none => none

/-- All that is due. -/
def dues (t : Timeline) : List Due :=
  t.timed ++ t.unmeasured?.toList

/-- The timeline after an action at an instant. -/
def take (t : Timeline) (due : Due) : Timeline :=
  let machine := { t.machine with now := due.instant }.act due.action
  match due.action with
  | .deliver task _ =>
    { machine
      arrivals := t.arrivals.filter (·.task != task)
      started := t.started ++ t.arrivals.filter (·.task == task) }
  | _ => { t with machine }

/-- The timeline after at most so many actions. -/
def run : Nat → Timeline → Timeline
  | 0, t => t
  | fuel + 1, t =>
    match Due.earliest? t.dues with
    | none => t
    | some due => run fuel (t.take due)

/-- The timeline when nothing is due any more. Each message is delivered once, and a hover has at
most one exit, one end and one cancellation. -/
def finish (t : Timeline) : Timeline :=
  t.run (4 * t.arrivals.length + 1)

end Timeline

end ChapelServer
