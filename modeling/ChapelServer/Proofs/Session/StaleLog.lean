import ChapelServer.Proofs.Compilation.Clearing
import ChapelServer.Proofs.Session.Cleanup
import ChapelServer.Proofs.Session.Snapshot
import ChapelServer.Proofs.Session.Withdrawal
import ChapelServer.Session.Report

/-!
# An old pass log is never reported

Two machines that differ only in what is found in the log directories of new work directories go
through any step side by side, and nobody is answered differently. So a pass log that was there
before the compiler ran makes no difference: if the compiler writes nothing, none is found.
-/

namespace ChapelServer

namespace Disk

/-- Where a disk has places in some work directories only, another one is empty. -/
theorem HoldsOnly.get?_eq_none {S : Nat → Prop} {d : Disk} (h : d.HoldsOnly S) {n : Nat}
    (hn : ¬ S n) (names : List Text) : d.get? ⟨some n, names⟩ = none := by
  rw [get?, if_neg (Place.ne_outside_of_work rfl), List.lookup_eq_none_iff]
  intro x hx
  rw [bne_iff_ne]
  intro heq
  exact hn (h x hx n (heq ▸ rfl))

theorem Same.findEntry {d d' : Disk} (h : Same d d') (path : Path) (symbol : Text) :
    d.findEntry path symbol = d'.findEntry path symbol := by
  rw [Disk.findEntry, Disk.findEntry, h.read]

end Disk

namespace Machine

/-- The machine that finds nothing in a log directory of this name. -/
def withoutLog (m : Machine) (log : Text) : Machine :=
  { m with
    host := { m.host with leftovers := m.host.leftovers.filter fun item => !item.isIn log } }

/-! ## Side by side -/

/-- The second machine finds nothing in a log directory of this name, and is like the first one
otherwise: it may tell another story, and its disk may have come about in another way. -/
inductive Level (log : Text) (m : Machine) : Machine → Prop
  | intro {disk : Disk} {trace : List Moment} (same : Disk.Same m.disk disk) :
    Level log m { m.withoutLog log with disk, trace }

variable {log : Text} {m m' : Machine}

theorem Level.running_eq (h : Level log m m') : m'.running = m.running := by
  cases h
  rfl

theorem Level.waiting_eq (h : Level log m m') : m'.waiting = m.waiting := by
  cases h
  rfl

theorem Level.outcomes_eq (h : Level log m m') : m'.outcomes = m.outcomes := by
  cases h
  rfl

theorem Level.queue (h : Level log m m') (waiting : List Ticket) :
    Level log { m with waiting } { m' with waiting } := by
  cases h with
  | intro same => exact .intro same

theorem Level.close (h : Level log m m') (t : Ticket) (ending : Ending) :
    Level log (m.close t ending) (m'.close t ending) := by
  cases h with
  | intro same =>
    rw [close_eq, close_eq]
    exact .intro same

theorem Level.vacate (h : Level log m m') (job : Job) (ending : Ending) :
    Level log (m.vacate job ending) (m'.vacate job ending) := by
  cases h with
  | intro same =>
    rw [vacate_eq, vacate_eq]
    exact .intro (same.removeWork _)

theorem Level.moments (h : Level log m m') (moments moments' : List Moment) :
    Level log { m with trace := m.trace ++ moments } { m' with trace := m'.trace ++ moments' } := by
  cases h with
  | intro same => exact .intro same

theorem Level.endingOf (h : Level log m m') (job : Job) : m.endingOf job = m'.endingOf job := by
  cases h with
  | intro same => simp only [Machine.endingOf, same.findEntry]

theorem Level.enqueue (h : Level log m m') (task : Nat) (bare : Bool) (uri : String)
    (position : Position) :
    Level log (m.enqueue task bare uri position) (m'.enqueue task bare uri position) := by
  cases h with
  | intro same =>
    simp only [Machine.enqueue, withoutLog]
    cases m.server.guardedQuestion bare uri position with
    | error failure =>
      simp only [fail_eq]
      exact .intro same
    | ok found =>
      cases found with
      | none => exact .intro same
      | some question => exact .intro same

theorem Level.dequeue (h : Level log m m') (task : Nat) :
    Level log (m.dequeue task) (m'.dequeue task) := by
  cases h with
  | @intro disk trace same =>
    unfold Machine.dequeue
    by_cases hw : m.waiting.any (·.task == task) = true
    · have hw' : { m.withoutLog log with disk, trace }.waiting.any (·.task == task) = true := hw
      rw [if_pos hw, if_pos hw']
      exact .intro same
    · have hw' : ¬ { m.withoutLog log with disk, trace }.waiting.any (·.task == task) = true := hw
      rw [if_neg hw, if_neg hw']
      exact .intro same

/-- An action goes the same way on both sides. -/
theorem Level.respond (h : Level log m m') (action : Action) :
    Level log (m.respond action) (m'.respond action) := by
  have hrunning := h.running_eq
  cases action with
  | deliver task request =>
    have hserver : m'.server = m.server := by
      cases h
      rfl
    cases hh : handled? m.server request with
    | some handled =>
      rw [respond_absorb hh, respond_absorb (hserver ▸ hh), absorb_eq, absorb_eq]
      cases h with
      | intro same => exact .intro same
    | none =>
      cases request with
      | hover bare uri position => exact h.enqueue task bare uri position
      | _ => cases hh
  | exit =>
    simp only [Machine.respond, act, hrunning]
    split
    · split
      · exact h
      · cases h with
        | intro same => exact .intro (same.foldl_place _ _)
    · exact h
  | outputEnd =>
    simp only [Machine.respond, conclusion, hrunning, readLog_eq, h.endingOf]
    split
    · split
      · exact (h.moments _ _).vacate _ _
      · exact h
    · exact h
  | expire =>
    simp only [Machine.respond, deadline, hrunning, stopProcess_eq]
    split
    · exact (h.moments _ _).vacate _ _
    · exact h
  | cancel task =>
    simp only [Machine.respond, withdraw, hrunning, stopProcess_eq]
    split
    · split
      · exact (h.moments _ _).vacate _ _
      · exact h.dequeue task
    · exact h.dequeue task

/-! ## Entering -/

/-- The log directory has this name, no work directory is left from before, and what is found in new
ones is not in the place of the log directory. -/
structure Clears (m : Machine) (log : Text) : Prop where
  tidy : m.Tidy
  inForce : m.inForce.logDirName = log
  found : Disk.IsFoundBeside log m.host.leftovers

theorem Entry.leftovers_eq {t : Ticket} (h : Entry m t m') :
    m'.host.leftovers = m.host.leftovers := by
  cases h with
  | refused | unstaged => rfl
  | unstarted | started => exact Host.start_leftovers _ _ _ _

theorem Response.host_eq {action : Action} (h : Response m action m') : m'.host = m.host := by
  cases h <;> rfl

theorem Clears.enter (h : m.Clears log) (free : m.running = none) (t : Ticket) :
    (m.enter t).Clears log where
  tidy := (entry m t).tidy free h.tidy
  inForce := by
    rw [Machine.inForce, (entry m t).server_eq]
    exact h.inForce
  found := by
    rw [(entry m t).leftovers_eq]
    exact h.found

theorem Level.start_eq (h : Level log m m') (s : Settings) (n : Nat) :
    (m'.host.start s n m'.disk).2 = (m.host.start s n m.disk).2 := by
  cases h with
  | intro same => rw [withoutLog, Host.start_with_leftovers, Host.start_of_load_eq (same.load _)]

theorem Level.attempted (h : Level log m m') (n : Nat) (s : Settings) :
    Level log (m.attempted n s) (m'.attempted n s) := by
  cases h with
  | @intro disk trace same =>
    have heq : ({ m.withoutLog log with disk, trace } : Machine).attempted n s =
        { (m.attempted n s).withoutLog log with
          disk
          trace := trace ++ [.event (.notice (.compiling (Staging.command s n)))] } := by
      simp [Machine.attempted, withoutLog, note, emit, Host.start_with_leftovers,
        Host.start_of_load_eq (same.load _), Host.start_leftovers]
    rw [heq]
    exact .intro same

theorem Level.abandon (h : Level log m m') (t : Ticket) (n : Nat) (stop : Stop) :
    Level log (m.abandon t n stop) (m'.abandon t n stop) := by
  refine Level.close ?_ t _
  cases h with
  | intro same => exact .intro (same.removeWork n)

theorem Level.launch (h : Level log m m') (t : Ticket) (n : Nat) (s : Settings)
    (artifact : Path) : Level log (m.launch t n s artifact) (m'.launch t n s artifact) := by
  have hattempted := h.attempted n s
  cases hr : (m.host.start s n m.disk).2 with
  | ok run =>
    rw [launch_ok hr, launch_ok ((h.start_eq s n).trans hr)]
    generalize m.attempted n s = a, m'.attempted n s = a' at hattempted
    cases hattempted with
    | intro same => exact .intro same
  | error stop =>
    rw [launch_error hr, launch_error ((h.start_eq s n).trans hr)]
    exact hattempted.abandon t n stop

theorem enter_abandoned {t : Ticket} {disk : Disk} {stop : Stop} (hd : m.refusesDirectory = false)
    (hs : m.staging t.question.text = (disk, .error stop)) :
    m.enter t = { m.opened t with disk }.abandon t m.nextDirectory stop := by
  have hs' : Staging.stage (m.opened t).server.pipeline.compilerSettings (m.opened t).server.room
      m.nextDirectory t.question.text (m.opened t).disk = (disk, .error stop) := hs
  rw [enter_opened hd, prepare]
  simp only [hs']

/-- A hover enters in the same way on both sides. -/
theorem Level.enter (h : Level log m m') (hc : m.Clears log) (named : Path.IsName log)
    (free : m.running = none) (t : Ticket) : Level log (m.enter t) (m'.enter t) := by
  obtain ⟨tidy, rfl, found⟩ := hc
  cases h with
  | @intro disk trace same =>
    let m' : Machine := { m.withoutLog m.inForce.logDirName with disk, trace }
    cases hd : m.refusesDirectory with
    | true =>
      rw [enter_closed hd, enter_closed (m := m') hd]
      refine Level.close ?_ t _
      exact .intro same
    | false =>
      have hfresh : ∀ names, disk.get? ⟨some m.nextDirectory, names⟩ = none := by
        intro names
        rw [← same.get? _ trivial]
        exact tidy.get?_eq_none (by simp [free]) names
      have hmade := Disk.makeWork_overlaid found same hfresh
      have hopened {e e' : Disk} (he : Disk.Same e e') :
          Level m.inForce.logDirName { m.opened t with disk := e }
            { m'.opened t with disk := e' } :=
        .intro he
      rcases Staging.stage_overlaid named hmade m.server.room t.question.text with
        hstage | ⟨stop, hs, hs'⟩
      · have hstage : Paired Disk.Same (m.staging t.question.text) (m'.staging t.question.text) :=
          hstage
        generalize hs : m.staging t.question.text = staged,
          hs' : m'.staging t.question.text = staged' at hstage
        obtain ⟨e, result⟩ := staged
        obtain ⟨e', result'⟩ := staged'
        obtain ⟨hsame, rfl⟩ : Disk.Same e e' ∧ result = result' := ⟨hstage.disk, hstage.result⟩
        cases result with
        | error stop =>
          rw [enter_abandoned hd hs, enter_abandoned (m := m') hd hs']
          exact (hopened hsame).abandon t _ stop
        | ok artifact =>
          rw [enter_launch hd hs, enter_launch (m := m') hd hs']
          exact (hopened hsame).launch t _ _ artifact
      · rw [enter_abandoned hd hs, enter_abandoned (m := m') hd hs']
        refine Level.close ?_ t _
        exact .intro hmade.removeWork

theorem Level.serve {queue : List Ticket} (h : Level log m m') (hc : m.Clears log)
    (named : Path.IsName log) (free : m.running = none) :
    Level log (serve queue m) (serve queue m') := by
  induction queue generalizing m m' with
  | nil => exact h.queue []
  | cons t queue ih =>
    have hc' : Machine.Clears { m with waiting := queue } log := ⟨hc.tidy, hc.inForce, hc.found⟩
    have henter := (h.queue queue).enter hc' named free t
    cases hr : ({ m with waiting := queue }.enter t).running with
    | some job =>
      rw [serve_cons_some hr, serve_cons_some (henter.running_eq.trans hr)]
      exact henter
    | none =>
      rw [serve_cons_none hr, serve_cons_none (henter.running_eq.trans hr)]
      exact ih henter (hc'.enter free t) hr

/-! ## Steps -/

theorem Level.settled (h : Level log m m') (hs : m.Settled) : m'.Settled := by
  intro hr
  rw [h.waiting_eq]
  exact hs (h.running_eq ▸ hr)

theorem Clears.respond (h : m.Clears log) {due : Due} (hk : due.keepsSettings) :
    ({ m with now := due.instant }.respond due.action).Clears log := by
  have hresponse := response { m with now := due.instant } due.action
  refine ⟨hresponse.tidy h.tidy, ?_, ?_⟩
  · have hpipeline : ({ m with now := due.instant }.respond due.action).server.pipeline =
        m.server.pipeline := by
      cases ha : due.action with
      | deliver task request =>
        rw [ha] at hresponse
        exact hresponse.pipeline (by simpa [Due.keepsSettings, ha] using hk)
      | _ =>
        rw [ha] at hresponse
        exact congrArg Server.pipeline (hresponse.server (by simp))
    rw [Machine.inForce, hpipeline]
    exact h.inForce
  · rw [hresponse.host_eq]
    exact h.found

theorem Clears.advance (h : m.Clears log) : m.advance.Clears log := by
  refine advance_induct (P := fun m => m.Clears log) ?_ h
  intro m t queue free _ h
  exact Clears.enter (m := { m with waiting := queue }) ⟨h.tidy, h.inForce, h.found⟩ free t

theorem Level.advance (h : Level log m m') (hc : m.Clears log) (named : Path.IsName log) :
    Level log m.advance m'.advance := by
  have hwaiting := h.waiting_eq
  cases hr : m.running with
  | some job =>
    rw [advance_of_running hr, advance_of_running (h.running_eq.trans hr)]
    exact h
  | none =>
    simp only [Machine.advance, hr, h.running_eq, hwaiting]
    exact h.serve hc named hr

/-- What is due happens in the same way on both sides. -/
theorem Level.happen (h : Level log m m') (hs : m.Settled) (hc : m.Clears log)
    (named : Path.IsName log) {due : Due} (hk : due.keepsSettings) :
    Level log (m.happen due) (m'.happen due) := by
  have hnow : Level log { m with now := due.instant } { m' with now := due.instant } := by
    cases h with
    | intro same => exact .intro same
  rw [happen_eq hs, happen_eq (h.settled hs)]
  exact (hnow.respond due.action).advance (hc.respond hk) named

theorem Clears.happen (h : m.Clears log) (hs : m.Settled) {due : Due} (hk : due.keepsSettings) :
    (m.happen due).Clears log := by
  rw [happen_eq hs]
  exact (h.respond hk).advance

end Machine

namespace Timeline

variable {log : Text}

theorem dues_of_level {t : Timeline} {m' : Machine} (h : Machine.Level log t.machine m') :
    ({ t with machine := m' } : Timeline).dues = t.dues := by
  cases h
  rfl

theorem take_level (t : Timeline) (m' : Machine) (due : Due) :
    ({ t with machine := m' } : Timeline).take due =
      { t.take due with machine := m'.happen due } := by
  unfold take Machine.happen
  cases due.action <;> rfl

/-- Nothing that is due brings settings if no message to come does. -/
theorem keepsSettings_of_first {t : Timeline} {due : Due}
    (first : Due.earliest? t.dues = some due)
    (keep : ∀ a ∈ t.arrivals, a.request.keepsSettings) : due.keepsSettings := by
  cases source_of_mem (Due.earliest?_mem first) with
  | arrival mem => exact keep _ mem
  | _ => rfl

/-- Two machines that are level run through the same timeline side by side. -/
theorem run_level {t : Timeline} {m' : Machine} (fuel : Nat)
    (h : Machine.Level log t.machine m') (settled : t.machine.Settled)
    (clears : t.machine.Clears log) (named : Path.IsName log)
    (keep : ∀ a ∈ t.arrivals, a.request.keepsSettings) :
    Machine.Level log (t.run fuel).machine
      (({ t with machine := m' } : Timeline).run fuel).machine := by
  induction fuel generalizing t m' with
  | zero => exact h
  | succ fuel ih =>
    unfold run
    rw [dues_of_level h]
    cases first : Due.earliest? t.dues with
    | none => exact h
    | some due =>
      have hk := keepsSettings_of_first first keep
      have hrun : Runs t (t.take due) := .single (.take first)
      have hmachine := take_machine t due
      simp only [take_level]
      refine ih ?_ ?_ ?_ fun a ha => keep a (hrun.arrivals_subset ha)
      · rw [hmachine]
        exact h.happen settled clears named hk
      · rw [hmachine]
        exact Machine.happen_settled settled due
      · rw [hmachine]
        exact clears.happen settled hk

end Timeline

namespace Machine

/-- No hover is in flight, and no work directory is left. -/
structure Vacant (m : Machine) : Prop where
  free : m.running = none
  queue : m.waiting = []
  tidy : m.Tidy

/-- Whatever is found in the log directories of new work directories, nobody is answered
differently. -/
theorem Vacant.play_withoutLog {m : Machine} (h : m.Vacant)
    (named : Path.IsName m.inForce.logDirName)
    (found : Disk.IsFoundBeside m.inForce.logDirName m.host.leftovers) {step : Step}
    (keep : ∀ a ∈ step.arrivals, a.request.keepsSettings) :
    ((m.withoutLog m.inForce.logDirName).play step).outcomes = (m.play step).outcomes := by
  have hlevel : Level m.inForce.logDirName m.restart (m.withoutLog m.inForce.logDirName).restart :=
    .intro (m := m.restart) .refl
  have hclears : m.restart.Clears m.inForce.logDirName := ⟨h.tidy, rfl, found⟩
  have hrun := Timeline.run_level (t := { machine := m.restart, arrivals := step.arrivals })
    (4 * step.arrivals.length + 1) hlevel (fun _ => h.queue) hclears named keep
  exact hrun.outcomes_eq

end Machine

/-! ## A hover alone -/

/-- The process comes to its end within a limit that is a number. -/
structure Run.Completes (run : Run) (limit : Number.Binary64) : Prop where
  measured : limit ≠ .nan
  ends : run.finishedAt?.isSome
  inTime : run.InTime limit

namespace Timeline

theorem run_of_over {t : Timeline} (h : t.Over) (fuel : Nat) : t.run fuel = t := by
  cases fuel with
  | zero => rfl
  | succ fuel =>
    have hnone : Due.earliest? t.dues = none := h
    simp only [run, hnone]

/-- No more messages come, and none of those that came is cancelled. -/
structure Quiet (t : Timeline) : Prop where
  arrivals : t.arrivals = []
  uncancelled : ∀ a ∈ t.started, a.cancelAfter = none

theorem Quiet.over {t : Timeline} (h : t.Quiet) (free : t.machine.running = none) : t.Over := by
  cases first : Due.earliest? t.dues with
  | none => exact first
  | some due =>
    cases source_of_mem (Due.earliest?_mem first) with
    | arrival mem => simp [h.arrivals] at mem
    | cancellation mem flight set => simp [h.uncancelled _ mem] at set
    | exit runs | outputEnd runs | expiry runs => simp [free] at runs

/-- A process that completes is next to exit, and then its output is next to end. -/
theorem Quiet.first {t : Timeline} (h : t.Quiet) {job : Job} (hr : t.machine.running = some job)
    (completes : job.run.Completes job.settings.compilerTimeout) :
    ∃ due, Due.earliest? t.dues = some due ∧
      due.action = if job.exited then .outputEnd else .exit := by
  cases first : Due.earliest? t.dues with
  | none =>
    have hends := completes.ends
    simp [(Over.endless first hr).2] at hends
  | some due =>
    refine ⟨due, rfl, ?_⟩
    cases source_of_mem (Due.earliest?_mem first) with
    | arrival mem => simp [h.arrivals] at mem
    | cancellation mem flight set => simp [h.uncancelled _ mem] at set
    | exit runs alive set =>
      obtain rfl := Option.some.inj (runs.symm.trans hr)
      simp [alive]
    | outputEnd runs dead set =>
      obtain rfl := Option.some.inj (runs.symm.trans hr)
      simp [dead]
    | expiry runs =>
      exact absurd completes.inTime (not_inTime_of_expire first rfl hr completes.measured)

end Timeline

namespace Machine

variable {m : Machine}

theorem happen_exit {job : Job} {due : Due} (hr : m.running = some job)
    (hx : job.exited = false) (ha : due.action = .exit) :
    m.happen due = { m with
      now := due.instant
      disk := job.run.files.foldl (Disk.place job.directory) m.disk
      running := some { job with exited := true }
      trace := m.trace ++ [.event (.exit job.process)] } := by
  simp [happen, ha, act, hr, hx, exit, emit]

theorem happen_outputEnd {job : Job} {due : Due} (hr : m.running = some job)
    (hx : job.exited = true) (ha : due.action = .outputEnd) (hw : m.waiting = []) :
    (m.happen due).running = none ∧
      (m.happen due).outcomes =
        m.outcomes ++ [(job.ticket.task, job.ticket.outcome (m.endingOf job))] := by
  simp [happen, ha, act, hr, hx, finish, leave_eq, vacate_eq, readLog_eq, serve, hw, endingOf]

end Machine

namespace Timeline

/-- What is no message leaves those to come alone. -/
theorem take_of_ne_deliver {t : Timeline} {due : Due}
    (h : ∀ task request, due.action ≠ .deliver task request) :
    t.take due = { t with machine := t.machine.happen due } := by
  unfold take Machine.happen
  split
  · rename_i task request ha
    exact absurd ha (h task request)
  · rfl

/-- A process that completes with nobody else about ends as what it has left on the disk says. -/
theorem Quiet.outcomes {t : Timeline} (h : t.Quiet) {job : Job}
    (hr : t.machine.running = some job) (hx : job.exited = false)
    (hw : t.machine.waiting = [])
    (completes : job.run.Completes job.settings.compilerTimeout) (fuel : Nat) :
    (t.run (fuel + 2)).machine.outcomes = t.machine.outcomes ++ [(job.ticket.task,
      job.ticket.outcome (Machine.endingOf
        { t.machine with disk := job.run.files.foldl (Disk.place job.directory) t.machine.disk }
        job))] := by
  obtain ⟨exit, hexit, haction⟩ := h.first hr completes
  have htake : t.take exit = { t with machine := t.machine.happen exit } :=
    take_of_ne_deliver (by simp [haction, hx])
  have hexited := Machine.happen_exit hr hx (by simpa [hx] using haction)
  have hquiet : (t.take exit).Quiet := by
    rw [htake]
    exact ⟨h.arrivals, h.uncancelled⟩
  have hr' : (t.take exit).machine.running = some { job with exited := true } := by
    rw [htake, hexited]
  obtain ⟨last, hlast, haction'⟩ := hquiet.first hr' completes
  have htake' : (t.take exit).take last =
      { t.take exit with machine := (t.take exit).machine.happen last } :=
    take_of_ne_deliver (by simp [haction'])
  have hw' : (t.take exit).machine.waiting = [] := by
    rw [htake, hexited]
    exact hw
  obtain ⟨hfree, houtcomes⟩ := Machine.happen_outputEnd hr' rfl (by simpa using haction') hw'
  have hover : ((t.take exit).take last).Over := by
    rw [htake']
    exact Quiet.over ⟨hquiet.arrivals, hquiet.uncancelled⟩ hfree
  rw [run, hexit]
  simp only [run, hlast]
  rw [run_of_over hover, take_machine, houtcomes, htake, hexited]
  rfl

end Timeline

namespace Machine

variable {m : Machine} {bare : Bool} {uri : String} {position : Position}
  {question : Server.Question}

theorem serve_single (t : Ticket) (m : Machine) :
    serve [t] m = { m with waiting := [] }.enter t := by
  cases hr : ({ m with waiting := [] }.enter t).running with
  | some job => rw [serve_cons_some hr]
  | none =>
    have hw := enter_waiting { m with waiting := [] } t
    rw [serve_cons_none hr, serve]
    generalize { m with waiting := [] }.enter t = m' at hw
    cases m'
    cases hw
    rfl

/-- The message of a hover that is asked alone and not cancelled. -/
def lone (bare : Bool) (uri : String) (position : Position) : Arrival where
  task := 0
  request := .hover bare uri position

/-- A hover that is asked alone enters at once. -/
theorem Vacant.play_lone (h : m.Vacant)
    (hq : m.server.guardedQuestion bare uri position = .ok (some question)) :
    m.play (.single (.hover bare uri position) none) =
      (Timeline.run 4 {
        machine := m.restart.enter ⟨0, bare, uri, question⟩
        arrivals := []
        started := [lone bare uri position] }).machine := by
  have hfirst : Due.earliest? (Timeline.dues
      { machine := m.restart, arrivals := [lone bare uri position] }) =
      some (lone bare uri position).delivery := by
    simp [Timeline.dues, Timeline.timed, Timeline.toCome, Timeline.unmeasured?, restart, h.free,
      Due.earliest?]
  have hnow : (lone bare uri position).delivery.instant = 0 := Nat.zero_mul _
  have hhappen : m.restart.happen (lone bare uri position).delivery =
      m.restart.enter ⟨0, bare, uri, question⟩ := by
    have hq' : m.restart.server.guardedQuestion bare uri position = .ok (some question) := hq
    have hr : m.restart.running = none := h.free
    have hw : m.restart.waiting = [] := h.queue
    have hsame : { m.restart with
        now := 0
        running := m.restart.running
        waiting := m.restart.waiting } = m.restart := rfl
    rw [hr, hw] at hsame
    unfold happen
    rw [hnow]
    simp only [Arrival.delivery, lone, act, deliver, ask, hq', hr, hw, List.nil_append,
      serve_single]
    exact congrArg (enter · _) hsame
  have htake : Timeline.take { machine := m.restart, arrivals := [lone bare uri position] }
      (lone bare uri position).delivery = {
        machine := m.restart.enter ⟨0, bare, uri, question⟩
        arrivals := []
        started := [lone bare uri position] } := by
    rw [← hhappen]
    simp [Timeline.take, happen, lone, Arrival.delivery]
  have hrun : m.play (.single (.hover bare uri position) none) =
      (Timeline.run 5 { machine := m.restart, arrivals := [lone bare uri position] }).machine := rfl
  rw [hrun, Timeline.run, hfirst]
  simp only [htake]

/-- The compiler that a hover on a text starts now, in a work directory that is prepared, comes to
its end in time, with status zero, and writes nothing. -/
structure CompilesSilently (m : Machine) (text : Text) : Prop where
  directory : m.refusesDirectory = false
  staged : (m.staging text).2.isOk
  started : ∃ run, (m.starting (m.staging text).1).2 = .ok run ∧ run.status = 0 ∧ run.files = [] ∧
    run.Completes m.inForce.compilerTimeout

/-- The failure of a hover whose pass log is not there: it is not found, unless its path is too long
as a whole to be looked for. -/
def missingLog (m : Machine) (artifact : Path) : Failure :=
  if artifact.byteSize m.disk.workBytes < Path.byteLimit then .artifactNotFound artifact.text
  else .unreadable artifact.text ⟨.nameTooLong, some artifact.quoted⟩

/-- Where the compiler writes nothing, no pass log is found, whatever was there before. -/
theorem Vacant.play_silent (h : m.Vacant)
    (hq : m.server.guardedQuestion bare uri position = .ok (some question))
    (named : Path.IsName m.inForce.logDirName) {name : Text}
    (hname : m.inForce.artifactName m.server.room = .ok name) (plain : Path.IsName name)
    (silent : m.CompilesSilently question.text)
    (other : (Staging.sourcePath m.inForce m.nextDirectory).name ≠ m.inForce.logDirName) :
    (m.play (.single (.hover bare uri position) none)).outcomes =
      [(0, Ticket.outcome ⟨0, bare, uri, question⟩ (.stopped (.failure (m.missingLog
        ⟨.work m.nextDirectory, [m.inForce.logDirName, name]⟩))))] := by
  obtain ⟨artifact, hartifact⟩ : ∃ artifact, (m.staging question.text).2 = .ok artifact := by
    have hok := silent.staged
    cases hresult : (m.staging question.text).2 with
    | error stop => simp [hresult, Except.isOk, Except.toBool] at hok
    | ok artifact => exact ⟨artifact, rfl⟩
  have hs : m.staging question.text = ((m.staging question.text).1, .ok artifact) :=
    Prod.ext rfl hartifact
  obtain ⟨run, hr, hzero, hfiles, completes⟩ := silent.started
  obtain ⟨-, -, -, hartifact⟩ := Staging.stage_ok hs
  have hpath : artifact = ⟨.work m.nextDirectory, [m.inForce.logDirName, name]⟩ := by
    simp only [Staging.artifactPath, hname, Staging.logDir_of_isName named, plain.join_eq]
      at hartifact
    exact (Except.ok.inj hartifact).symm
  have hcleared := Staging.stage_cleared named (Disk.makeWork_root _ _ _) hs other
  have hentry := entry m.restart ⟨0, bare, uri, question⟩
  rw [h.play_lone hq]
  generalize m.restart.enter ⟨0, bare, uri, question⟩ = m' at hentry
  cases hentry with
  | refused hd => cases hd.symm.trans silent.directory
  | unstaged hd hs' => cases hs'.symm.trans hs
  | unstarted hd hs' hr' =>
    obtain ⟨rfl, -⟩ := Prod.mk.inj (hs'.symm.trans hs)
    cases hr'.symm.trans hr
  | started hd hs' hr' =>
    obtain ⟨rfl, hartifact'⟩ := Prod.mk.inj (hs'.symm.trans hs)
    obtain rfl := Except.ok.inj hartifact'
    obtain rfl := Except.ok.inj (hr'.symm.trans hr)
    have hfind := hcleared.findEntry named plain rfl question.symbol
    have hbytes : (m.staging question.text).1.workBytes = m.disk.workBytes :=
      (Staging.stage_workBytes _ _ _ _ _).trans (Disk.makeWork_workBytes _ _ _)
    rw [hbytes] at hfind
    rw [Timeline.Quiet.outcomes ⟨rfl, by simp [lone]⟩ rfl rfl h.queue completes 2]
    simp [endingOf, newJob, hzero, hfiles, hfind, hpath, missingLog, restart]

/-- A file in the place of the log directory ends a hover before a process is started. -/
theorem Vacant.play_blocked (h : m.Vacant)
    (hq : m.server.guardedQuestion bare uri position = .ok (some question))
    (named : Path.IsName m.inForce.logDirName) {bytes : List UInt8}
    (file : (m.disk.makeWork m.nextDirectory m.host.leftovers).get?
      ⟨some m.nextDirectory, [m.inForce.logDirName]⟩ = some (.file bytes)) :
    ∃ report, (m.play (.single (.hover bare uri position) none)).outcomes =
        [(0, Ticket.outcome ⟨0, bare, uri, question⟩
          (.stopped (.failure (.resourceUnavailable report))))] ∧
      (m.play (.single (.hover bare uri position) none)).processes = m.processes := by
  obtain ⟨report, hs⟩ := Staging.stage_of_file named (Disk.makeWork_root _ _ _) file
    m.server.room question.text
  have hentry := entry m.restart ⟨0, bare, uri, question⟩
  rw [h.play_lone hq]
  generalize m.restart.enter ⟨0, bare, uri, question⟩ = m' at hentry
  cases hentry with
  | refused =>
    rw [Timeline.run_of_over (Timeline.Quiet.over ⟨rfl, by simp [lone]⟩ h.free)]
    exact ⟨_, rfl, rfl⟩
  | unstaged hd hs' =>
    obtain rfl := Except.error.inj (congrArg Prod.snd (hs'.symm.trans hs))
    rw [Timeline.run_of_over (Timeline.Quiet.over ⟨rfl, by simp [lone]⟩ h.free)]
    exact ⟨report, rfl, rfl⟩
  | unstarted hd hs' => cases hs'.symm.trans hs
  | started hd hs' => cases hs'.symm.trans hs

/-- From a machine with nothing in flight and a plain name for the log directory, no step that keeps
the settings is answered differently for what is found in the log directories of new work
directories. In particular, a hover alone fails for want of a pass log if the compiler completes
with status zero and writes nothing, whatever was there before; and a file in the place of the log
directory ends it before a process is started. -/
theorem old_log_unseen (m : Machine) (vacant : m.Vacant)
    (named : Path.IsName m.inForce.logDirName) :
    (∀ step : Step, Disk.IsFoundBeside m.inForce.logDirName m.host.leftovers →
      (∀ a ∈ step.arrivals, a.request.keepsSettings) →
      ((m.withoutLog m.inForce.logDirName).play step).outcomes = (m.play step).outcomes) ∧
    ∀ (bare : Bool) (uri : String) (position : Position) (question : Server.Question),
      m.server.guardedQuestion bare uri position = .ok (some question) →
      let played := m.play (.single (.hover bare uri position) none)
      let failed := fun failure =>
        [(0, Ticket.outcome ⟨0, bare, uri, question⟩ (.stopped (.failure failure)))]
      (∀ name, m.inForce.artifactName m.server.room = .ok name → Path.IsName name →
        m.CompilesSilently question.text →
        (Staging.sourcePath m.inForce m.nextDirectory).name ≠ m.inForce.logDirName →
        played.outcomes =
          failed (m.missingLog ⟨.work m.nextDirectory, [m.inForce.logDirName, name]⟩)) ∧
      ∀ bytes, (m.disk.makeWork m.nextDirectory m.host.leftovers).get?
          ⟨some m.nextDirectory, [m.inForce.logDirName]⟩ = some (.file bytes) →
        ∃ report, played.outcomes = failed (.resourceUnavailable report) ∧
          played.processes = m.processes := by
  refine ⟨fun step found keep => vacant.play_withoutLog named found keep, ?_⟩
  intro bare uri position question hq
  refine ⟨fun name hname plain silent other => ?_, fun bytes file => ?_⟩
  · exact vacant.play_silent hq named hname plain silent other
  · exact vacant.play_blocked hq named file

namespace Sample

/-- A document with the text `x` is open, the compiler writes nothing, and these are found in new
work directories. -/
def silent (leftovers : List Placement) : Machine where
  server := { phase := .initialized, documents := ⟨[⟨"a", "chapel", 1, "x"⟩]⟩ }
  host := { compilers := [("chpl", [.runs {}])], leftovers }

/-- An old pass log with the entry `x[1]:i(1)` is found. -/
def stale : Machine :=
  silent [⟨"log/text_13resolve.ast", .file [120, 91, 49, 93, 58, 105, 40, 49, 41]⟩]

/-- A file is found in the place of the log directory. -/
def blocked : Machine :=
  silent [⟨"log", .file []⟩]

theorem silent_vacant (leftovers : List Placement) : (silent leftovers).Vacant where
  free := rfl
  queue := rfl
  tidy := by
    intro x hx
    cases hx

theorem log_isName : Path.IsName "log" :=
  ⟨by decide, by decide, by decide, by decide, by decide⟩

theorem stale_compilesSilently : stale.CompilesSilently "x" where
  directory := by decide +kernel
  staged := by decide +kernel
  started := by
    refine ⟨{}, rfl, rfl, rfl, by decide +kernel, rfl, fun _ _ => ⟨0, rfl, ?_⟩⟩
    simp [Instant.ofMilliseconds]

end Sample

/-- An old pass log is not found, and with it or without it the hover is answered in the same way. A
file in the place of the log directory ends the hover with no process started. -/
theorem old_log_unseen_sample :
    let hover : Step := .single (.hover false "a" ⟨0, 0⟩) none
    Sample.stale.Vacant ∧ Sample.stale.CompilesSilently "x" ∧
      ((Sample.stale.withoutLog "log").play hover).outcomes = (Sample.stale.play hover).outcomes ∧
      (Sample.stale.play hover).outcomes =
        [(0, .refused (.artifactNotFound "<W1>/log/text_13resolve.ast"))] ∧
      ∃ report, (Sample.blocked.play hover).outcomes =
          [(0, .refused (.resourceUnavailable report))] ∧
        (Sample.blocked.play hover).processes = 0 := by
  intro hover
  have hvacant : Sample.stale.Vacant := Sample.silent_vacant _
  have hsilent := Sample.stale_compilesSilently
  have hstale := old_log_unseen Sample.stale hvacant Sample.log_isName
  have hblocked := old_log_unseen Sample.blocked (Sample.silent_vacant _) Sample.log_isName
  refine ⟨hvacant, hsilent, ?_, ?_, ?_⟩
  · have hfound : Disk.IsFoundBeside Sample.stale.inForce.logDirName
        Sample.stale.host.leftovers := by
      unfold Disk.IsFoundBeside
      decide +kernel
    exact hstale.1 hover hfound (by simp [hover, Step.arrivals, Request.keepsSettings])
  · have hname : Path.IsName "text_13resolve.ast" :=
      ⟨by decide, by decide, by decide, by decide, by decide⟩
    rw [(hstale.2 false "a" ⟨0, 0⟩ Sample.question rfl).1 "text_13resolve.ast" rfl hname hsilent
      (by decide +kernel)]
    decide +kernel
  · exact (hblocked.2 false "a" ⟨0, 0⟩ Sample.question rfl).2 [] (by decide +kernel)

end Machine

end ChapelServer
