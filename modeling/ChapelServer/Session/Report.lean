import ChapelServer.Session.Timeline

/-!
# Sessions

A session is a list of steps. A step sends one message, or several at their times, and is over
when nothing is due any more. Its report tells what came of each message, what happened, and the
state that is left.
-/

namespace ChapelServer

/-- A step of a session. -/
inductive Step
  | single (request : Request) (cancelAfter : Option Nat)
  | together (arrivals : List Arrival)

/-- What is told after a step. -/
structure Report where
  /-- What came of each message, in the order of the messages. -/
  outcomes : List (Option Outcome)
  trace : List Event
  server : Server
  workDirectoriesLeft : Nat

namespace Step

/-- The messages of a step. -/
def arrivals : Step → List Arrival
  | .single request cancelAfter => [{ task := 0, cancelAfter, request }]
  | .together arrivals => arrivals

/-- What the report of a step shows of a moment: the events, but the end of a message only if
there are several. -/
def shown? (step : Step) (moment : Moment) : Option Event :=
  match step, moment with
  | .single _ _, .event (.done _) => none
  | _, .event event => some event
  | _, _ => none

end Step

namespace Machine

/-- The machine at the start of a step: the clock is set back, and nothing has happened yet. -/
def restart (m : Machine) : Machine :=
  { m with now := 0, trace := [], outcomes := [] }

/-- The machine after a step. -/
def play (m : Machine) (step : Step) : Machine :=
  (Timeline.finish { machine := m.restart, arrivals := step.arrivals }).machine

/-- The report of a step that the machine has just played. -/
def report (m : Machine) (step : Step) : Report :=
  { outcomes := step.arrivals.map fun a => m.outcomes.lookup a.task
    trace := m.trace.filterMap step.shown?
    server := m.server
    workDirectoriesLeft := m.disk.workCount }

/-- The reports of the steps, played one after the other. -/
def reports (m : Machine) : List Step → List Report
  | [] => []
  | step :: rest =>
    let m := m.play step
    m.report step :: m.reports rest

end Machine

/-- The reports of a session on a host, with a fresh server. -/
def Session.reports (host : Host) (steps : List Step) : List Report :=
  Machine.reports { host } steps

end ChapelServer
