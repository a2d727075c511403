import ChapelServer.Proofs.Session.Schedule

/-!
# The way of one hover

A hover that has joined the queue waits, then compiles, and then has ended, and everything that
happens meanwhile to the server and to other hovers leaves what it is to find alone: the disk
changes under a hover that compiles only by what its own process writes.
-/

namespace ChapelServer

namespace Machine

/-- The disk after the process of a section has exited. -/
def written (m : Machine) (run : Run) (disk : Disk) : Disk :=
  run.files.foldl (Disk.place m.nextDirectory) disk

/-- How the compile section of a hover that enters it now comes to its end, unless it is
cancelled. -/
inductive SectionEnd (m : Machine) (t : Ticket) : Ending → Prop
  | refused (hd : m.refusesDirectory = true) : SectionEnd m t noDirectory
  | unstaged {disk : Disk} {stop : Stop} (hd : m.refusesDirectory = false)
    (hs : m.staging t.question.text = (disk, .error stop)) : SectionEnd m t (.stopped stop)
  | unstarted {disk : Disk} {artifact : Path} {stop : Stop} (hd : m.refusesDirectory = false)
    (hs : m.staging t.question.text = (disk, .ok artifact))
    (hr : (m.starting disk).2 = .error stop) : SectionEnd m t (.stopped stop)
  | late {disk : Disk} {artifact : Path} {run : Run} (hd : m.refusesDirectory = false)
    (hs : m.staging t.question.text = (disk, .ok artifact)) (hr : (m.starting disk).2 = .ok run)
    (hl : ¬ run.InTime m.inForce.compilerTimeout) :
    SectionEnd m t (.stopped (.failure (.compilationTimeout m.inForce.compilerTimeout)))
  | finished {disk : Disk} {artifact : Path} {run : Run} (hd : m.refusesDirectory = false)
    (hs : m.staging t.question.text = (disk, .ok artifact)) (hr : (m.starting disk).2 = .ok run)
    (hl : run.InTime m.inForce.compilerTimeout) :
    SectionEnd m t
      (endingOf { m with disk := m.written run disk } (m.newJob t artifact run))

/-- On the way from one machine to another, the hover enters its compile section, with these
settings in force. -/
structure Enters (origin : Machine) (t : Ticket) (s : Settings) (entry m : Machine) : Prop where
  comes : Moves origin entry
  free : entry.running = none
  next : ∃ queue, entry.waiting = t :: queue ∧
    Moves ({ entry with waiting := queue }.enter t) m
  settings : entry.inForce = s

theorem Enters.tail {origin entry m m' : Machine} {t : Ticket} {s : Settings}
    (h : Enters origin t s entry m) (hm : Move m m') : Enters origin t s entry m' := by
  obtain ⟨queue, hw, hmoves⟩ := h.next
  exact ⟨h.comes, h.free, ⟨queue, hw, hmoves.tail hm⟩, h.settings⟩

/-- How far a hover has come: it waits, and if it can enter now then with these settings; or it
compiles; or its compile section has come to its end. -/
inductive Fate (origin : Machine) (t : Ticket) (s : Settings) (m : Machine) : Prop
  | waits (mem : t ∈ m.waiting) (settings : m.running = none → m.inForce = s)
  | compiles {entry : Machine} {disk : Disk} {artifact : Path} {run : Run} (exited : Bool)
    (enters : Enters origin t s entry m) (hd : entry.refusesDirectory = false)
    (hs : entry.staging t.question.text = (disk, .ok artifact))
    (hr : (entry.starting disk).2 = .ok run)
    (runs : m.running = some { entry.newJob t artifact run with exited })
    (onDisk : m.disk = if exited then entry.written run disk else disk)
    (exits : exited = true → ∃ ms, run.exitAfter = some ms)
  | ended {entry : Machine} {ending : Ending} (enters : Enters origin t s entry m)
    (ends : SectionEnd entry t ending) (mem : (t.task, t.outcome ending) ∈ m.outcomes)

/-! ## What actions leave alone -/

/-- A message touches neither the process that runs nor the disk. -/
theorem Response.frame {m m' : Machine} {task : Nat} {request : Request}
    (h : Response m (.deliver task request) m') : m'.running = m.running ∧ m'.disk = m.disk := by
  cases h with
  | absorbed | dismissed | queued => exact ⟨rfl, rfl⟩
  | left hr hl => cases hl
  | idle hi => exact ⟨rfl, rfl⟩

/-- Only messages change the server. -/
theorem Response.server {m m' : Machine} {action : Action} (h : Response m action m')
    (hd : ∀ task request, action ≠ .deliver task request) : m'.server = m.server := by
  cases h with
  | absorbed => exact absurd rfl (hd _ _)
  | _ => rfl

/-- An action that lets hovers enter leaves the server as it is. -/
theorem Response.server_of_free {m m' : Machine} {action : Action} (h : Response m action m')
    (hr : m.running ≠ none) (hfree : m'.running = none) : m'.server = m.server := by
  refine h.server fun task request ha => hr ?_
  subst ha
  rw [← h.frame.1]
  exact hfree

/-- A hover that waits goes on waiting, unless it is cancelled. -/
theorem Response.mem_waiting {m m' : Machine} {t : Ticket} {action : Action}
    (h : Response m action m') (ht : t ∈ m.waiting) (hc : action ≠ .cancel t.task) :
    t ∈ m'.waiting := by
  cases h with
  | queued => exact List.mem_append_left _ ht
  | dequeued =>
    have hne : t.task ≠ _ := fun he => hc (he ▸ rfl)
    exact List.mem_filter.mpr ⟨ht, by simpa using hne⟩
  | _ => exact ht

/-! ## Outcomes stay -/

theorem Response.outcomes {m m' : Machine} {action : Action} (h : Response m action m') :
    ∃ more, m'.outcomes = m.outcomes ++ more := by
  cases h with
  | queued | exited | idle => exact ⟨[], by simp⟩
  | _ => exact ⟨_, rfl⟩

theorem Entry.outcomes {m m' : Machine} {t : Ticket} (h : Entry m t m') :
    ∃ more, m'.outcomes = m.outcomes ++ more := by
  cases h with
  | started => exact ⟨[], by simp⟩
  | _ => exact ⟨_, rfl⟩

theorem Move.mem_outcomes {m m' : Machine} (h : Move m m') {x : Nat × Outcome}
    (hx : x ∈ m.outcomes) : x ∈ m'.outcomes := by
  obtain ⟨more, hm⟩ : ∃ more, m'.outcomes = m.outcomes ++ more := by
    cases h with
    | respond due settled => exact (response { m with now := due.instant } due.action).outcomes
    | enter free next => exact (entry _ _).outcomes
  rw [hm]
  exact List.mem_append_left _ hx

/-! ## Entering -/

theorem Entry.server_eq {m m' : Machine} {t : Ticket} (h : Entry m t m') :
    m'.server = m.server := by
  cases h <;> rfl

theorem advance_server (m : Machine) : m.advance.server = m.server := by
  refine advance_induct (P := fun m' => m'.server = m.server) ?_ rfl
  intro m' t queue _ _ h
  exact (entry _ t).server_eq.trans h

/-- A hover that enters compiles from then on, or ends at once. -/
theorem Entry.fate {origin m m' : Machine} {t : Ticket} {s : Settings} {queue : List Ticket}
    (h : Entry { m with waiting := queue } t m') (enters : Enters origin t s m m') :
    Fate origin t s m' := by
  cases h with
  | refused hd => exact .ended enters (.refused hd) (by simp)
  | unstaged hd hs => exact .ended enters (.unstaged hd hs) (by simp)
  | unstarted hd hs hr => exact .ended enters (.unstarted hd hs hr) (by simp)
  | started hd hs hr =>
    exact .compiles false enters hd hs hr rfl (by simp) (by simp)

theorem Fate.enter {origin m : Machine} {t t' : Ticket} {s : Settings} {queue : List Ticket}
    (h : Fate origin t s m) (hcome : Moves origin m) (free : m.running = none)
    (next : m.waiting = t' :: queue) : Fate origin t s ({ m with waiting := queue }.enter t') := by
  cases h with
  | waits mem settings =>
    by_cases ht : t' = t
    · subst ht
      exact (entry _ t').fate ⟨hcome, free, ⟨queue, next, .refl⟩, settings free⟩
    · have hmem : t ∈ queue := by
        rw [next] at mem
        exact (List.mem_cons.mp mem).resolve_left fun he => ht he.symm
      have hserver := (entry { m with waiting := queue } t').server_eq
      refine .waits (by rwa [enter_waiting]) fun _ => ?_
      rw [inForce, hserver]
      exact settings free
  | compiles _ _ _ _ _ runs => simp [free] at runs
  | ended enters ends mem =>
    have hmove := Move.enter free next
    exact .ended (enters.tail hmove) ends (hmove.mem_outcomes mem)

theorem Fate.advance {origin m : Machine} {t : Ticket} {s : Settings} (h : Fate origin t s m)
    (hcome : Moves origin m) : Fate origin t s m.advance := by
  refine (advance_induct (P := fun m' => Moves origin m' ∧ Fate origin t s m') ?_ ⟨hcome, h⟩).2
  intro m' t' queue free next ⟨hcome, h⟩
  exact ⟨hcome.tail (.enter free next), h.enter hcome free next⟩

/-! ## Actions -/

/-- What happens is possible for a process: it exits only if it ever does, its output ends only in
time, and with a limit that is a number it is cut off only if it has not come to its end in
time. -/
structure Timely (m : Machine) (action : Action) : Prop where
  exits : ∀ job, m.running = some job → action = .exit → job.exited = false →
    ∃ ms, job.run.exitAfter = some ms
  late : ∀ job, m.running = some job → action = .expire →
    job.settings.compilerTimeout ≠ .nan → ¬ job.run.InTime job.settings.compilerTimeout
  inTime : ∀ job, m.running = some job → action = .outputEnd →
    (∃ ms, job.run.exitAfter = some ms) → job.run.InTime job.settings.compilerTimeout

theorem endingOf_congr {m m' : Machine} (h : m.disk = m'.disk) (job : Job) (exited : Bool) :
    m.endingOf { job with exited } = m'.endingOf job := by
  simp only [endingOf, h]

/-- What an action does to a hover that compiles. -/
theorem Fate.compiles_response {origin m m' : Machine} {t : Ticket} {s : Settings}
    {action : Action} {entry : Machine} {disk : Disk} {artifact : Path} {run : Run}
    {exited : Bool} (enters : Enters origin t s entry m') (hd : entry.refusesDirectory = false)
    (hs : entry.staging t.question.text = (disk, .ok artifact))
    (hr : (entry.starting disk).2 = .ok run)
    (runs : m.running = some { entry.newJob t artifact run with exited })
    (onDisk : m.disk = if exited then entry.written run disk else disk)
    (exits : exited = true → ∃ ms, run.exitAfter = some ms) (timely : m.Timely action)
    (hn : s.compilerTimeout ≠ .nan) (hc : action ≠ .cancel t.task)
    (h : Response m action m') : Fate origin t s m' := by
  cases h with
  | absorbed | dismissed | queued | dequeued | idle =>
    -- Messages and the cancelling of others do not touch the process or the disk.
    exact .compiles exited enters hd hs hr runs onDisk exits
  | @exited job hjob hx =>
    obtain rfl := Option.some.inj (hjob.symm.trans runs)
    obtain rfl : exited = false := hx
    obtain ⟨ms, hms⟩ := timely.exits _ runs rfl rfl
    exact .compiles true enters hd hs hr rfl (congrArg (run.files.foldl _) onDisk)
      fun _ => ⟨ms, hms⟩
  | @left _ job _ _ hjob hl =>
    obtain rfl := Option.some.inj (hjob.symm.trans runs)
    cases hl with
    | finished hx =>
      obtain rfl : exited = true := hx
      have hin := timely.inTime _ runs rfl (exits rfl)
      have hending : m.endingOf { entry.newJob t artifact run with exited := true } =
          endingOf { entry with disk := entry.written run disk } (entry.newJob t artifact run) :=
        endingOf_congr onDisk _ _
      refine .ended enters (.finished hd hs hr hin) ?_
      rw [← hending]
      exact List.mem_append_right _ (List.mem_singleton.mpr rfl)
    | expired =>
      have hlate := timely.late _ runs rfl (by simpa [newJob, enters.settings] using hn)
      refine .ended enters (.late hd hs hr hlate) ?_
      simp [newJob]
    | interrupted => exact absurd rfl hc

/-- An action that does not cancel a hover brings it no further than it is to go. -/
theorem Fate.respond {origin m : Machine} {t : Ticket} {s : Settings} {due : Due}
    (h : Fate origin t s m) (settled : m.Settled) (timely : m.Timely due.action)
    (hn : s.compilerTimeout ≠ .nan) (hc : due.action ≠ .cancel t.task)
    (hforce : t ∈ m.waiting → m.inForce = s) :
    Fate origin t s ({ m with now := due.instant }.respond due.action) := by
  have hmove := Move.respond m due settled
  have hresponse := response { m with now := due.instant } due.action
  cases h with
  | waits mem settings =>
    -- Only the end of another compilation lets the hover enter, and that brings no settings.
    refine .waits (hresponse.mem_waiting mem hc) fun hfree => ?_
    have hbusy : m.running ≠ none := by
      intro hnone
      simp [settled hnone] at mem
    rw [inForce, hresponse.server_of_free hbusy hfree]
    exact hforce mem
  | compiles exited enters hd hs hr runs onDisk exits =>
    exact compiles_response (m := { m with now := due.instant }) (enters.tail hmove) hd hs hr runs
      onDisk exits ⟨timely.exits, timely.late, timely.inTime⟩ hn hc hresponse
  | ended enters ends mem => exact .ended (enters.tail hmove) ends (hmove.mem_outcomes mem)

end Machine

/-! ## Settings in force -/

/-- The message brings no settings. -/
def Request.keepsSettings : Request → Bool
  | .handshake _ options => !options.isGiven
  | .configure _ _ => false
  | _ => true

theorem Machine.handled?_pipeline {server : Server} {request : Request} {handled : Handled}
    (hk : request.keepsSettings) (h : handled? server request = some handled) :
    handled.server.pipeline = server.pipeline := by
  cases request with
  | hover bare uri position => cases h
  | configure settings reply => cases hk
  | handshake client options =>
    have hgiven : options.isGiven = false := by simpa [Request.keepsSettings] using hk
    cases h
    simp [Server.handshake, hgiven]
  | ready refusal =>
    cases h
    unfold Server.ready
    split <;> rfl
  | didOpen document =>
    cases h
    unfold Server.didOpen
    split <;> rfl
  | didChange uri version changes =>
    cases h
    unfold Server.didChange
    split
    · split
      · rfl
      · split <;> rfl
    · rfl
  | completion =>
    cases h
    unfold Server.completion
    split <;> rfl
  | _ =>
    cases h
    rfl

theorem Machine.Response.pipeline {m m' : Machine} {task : Nat} {request : Request}
    (h : Response m (.deliver task request) m') (hk : request.keepsSettings) :
    m'.server.pipeline = m.server.pipeline := by
  cases h with
  | absorbed hh => exact handled?_pipeline hk hh
  | dismissed | queued | idle => rfl
  | left hr hl => cases hl

/-- What is due brings no settings. -/
def Due.keepsSettings (due : Due) : Bool :=
  match due.action with
  | .deliver _ request => request.keepsSettings
  | _ => true

theorem Machine.happen_pipeline {m : Machine} (hs : m.Settled) {due : Due}
    (hk : due.keepsSettings) : (m.happen due).server.pipeline = m.server.pipeline := by
  have hresponse := response { m with now := due.instant } due.action
  rw [happen_eq hs, advance_server]
  cases ha : due.action with
  | deliver task request =>
    rw [ha] at hresponse
    exact hresponse.pipeline (by simpa [Due.keepsSettings, ha] using hk)
  | _ =>
    rw [ha] at hresponse
    exact congrArg Server.pipeline (hresponse.server nofun)

namespace Timeline

/-- What is due first is possible for the process that runs. -/
theorem timely_of_first {t : Timeline} {due : Due} (h : Due.earliest? t.dues = some due) :
    t.machine.Timely due.action := by
  constructor
  · intro job hr ha hx
    cases source_of_mem (Due.earliest?_mem h) with
    | exit runs alive set => exact ⟨_, Option.some.inj (runs.symm.trans hr) ▸ set⟩
    | _ => cases ha
  · intro job hr ha hn
    exact not_inTime_of_expire h ha hr hn
  · rintro job hr ha ⟨ms, hms⟩
    exact inTime_of_outputEnd h ha hr hms

/-- The settings in force are these as long as the task has no outcome. -/
def InForce (t : Timeline) (task : Nat) (s : Settings) : Prop :=
  ∀ u, Runs t u → u.machine.outcomes.lookup task = none → u.machine.server.pipeline = ⟨s, s⟩

theorem InForce.of_runs {t u : Timeline} {task : Nat} {s : Settings} (h : t.InForce task s)
    (hrun : Runs t u) : u.InForce task s :=
  fun v hv => h v (hrun.trans hv)

/-- A task to come or in flight has no outcome. -/
theorem Distinct.lookup_none {t : Timeline} (hd : t.Distinct) {task : Nat}
    (h : task ∈ (t.machine.running.map (·.ticket.task)).toList ++
      t.machine.waiting.map (·.task) ++ t.arrivals.map (·.task)) :
    t.machine.outcomes.lookup task = none := by
  rw [Distinct, Machine.tasks, List.append_assoc] at hd
  rw [List.lookup_eq_none_iff]
  intro x hx
  have hne := (List.nodup_append.mp hd).2.2 x.1 (List.mem_map_of_mem hx) task h
  simpa using hne.symm

theorem lookup_of_mem {outcomes : List (Nat × Outcome)} (hn : (outcomes.map (·.1)).Nodup)
    {task : Nat} {o : Outcome} (h : (task, o) ∈ outcomes) : outcomes.lookup task = some o := by
  induction outcomes with
  | nil => simp at h
  | cons x rest ih =>
    obtain ⟨key, value⟩ := x
    obtain ⟨hkey, hrest⟩ := List.nodup_cons.mp hn
    rcases List.mem_cons.mp h with heq | hmem
    · cases heq
      exact List.lookup_cons_self
    · have hne : (task == key) = false := by
        rw [beq_eq_false_iff_ne]
        rintro rfl
        exact hkey (List.mem_map.mpr ⟨_, hmem, rfl⟩)
      rw [List.lookup_cons, hne]
      exact ih hrest hmem

theorem Distinct.lookup_some {t : Timeline} (hd : t.Distinct) {task : Nat} {o : Outcome}
    (h : (task, o) ∈ t.machine.outcomes) : t.machine.outcomes.lookup task = some o :=
  lookup_of_mem (List.nodup_append.mp (List.nodup_append.mp hd).1).1 h

/-- The invariant of a run with a hover on its way. -/
structure OnItsWay (origin : Machine) (ticket : Ticket) (s : Settings) (t : Timeline) : Prop where
  settled : t.machine.Settled
  distinct : t.Distinct
  uncancelled : t.Uncancelled ticket.task
  inForce : t.InForce ticket.task s
  moves : Machine.Moves origin t.machine
  fate : Machine.Fate origin ticket s t.machine

theorem OnItsWay.next {origin : Machine} {ticket : Ticket} {s : Settings} {t t' : Timeline}
    (h : OnItsWay origin ticket s t) (hn : s.compilerTimeout ≠ .nan) (hnext : Next t t') :
    OnItsWay origin ticket s t' := by
  obtain ⟨hdue⟩ := hnext
  rename_i due
  have hrun : Runs t (t.take due) := .single (.take hdue)
  have hsource := source_of_mem (Due.earliest?_mem hdue)
  have hforce : ticket ∈ t.machine.waiting → t.machine.inForce = s := by
    intro hmem
    have hnone : t.machine.outcomes.lookup ticket.task = none :=
      h.distinct.lookup_none (by simpa using .inr (.inl ⟨ticket, hmem, rfl⟩))
    rw [Machine.inForce, h.inForce t .refl hnone]
  have hresponds := h.fate.respond h.settled (timely_of_first hdue) hn
    (hsource.ne_cancel h.uncancelled) hforce
  have hfate := hresponds.advance (h.moves.tail (.respond _ due h.settled))
  rw [← Machine.happen_eq h.settled, ← take_machine] at hfate
  exact {
    settled := hrun.settled h.settled
    distinct := hrun.distinct h.settled h.distinct
    uncancelled := hrun.uncancelled h.uncancelled
    inForce := h.inForce.of_runs hrun
    moves := h.moves.trans (hrun.moves h.settled)
    fate := hfate }

theorem OnItsWay.runs {origin : Machine} {ticket : Ticket} {s : Settings} {t t' : Timeline}
    (h : OnItsWay origin ticket s t) (hn : s.compilerTimeout ≠ .nan) (hruns : Runs t t') :
    OnItsWay origin ticket s t' :=
  hruns.keep (fun hnext h => OnItsWay.next h hn hnext) h

/-- When nothing is due any more, the hover has come to its end, or a process runs for ever. -/
theorem OnItsWay.over {origin : Machine} {ticket : Ticket} {s : Settings} {t : Timeline}
    (h : OnItsWay origin ticket s t) (hover : t.Over) :
    (t.machine.outcomes.lookup ticket.task = none ∧
        ∃ job, t.machine.running = some job ∧ job.Endless ∧
          ticket.task ∈ job.ticket.task :: t.machine.waiting.map (·.task)) ∨
      ∃ entry ending, Machine.Enters origin ticket s entry t.machine ∧
        Machine.SectionEnd entry ticket ending ∧
        t.machine.outcomes.lookup ticket.task = some (ticket.outcome ending) := by
  cases h.fate with
  | waits mem settings =>
    cases hr : t.machine.running with
    | none => simp [h.settled hr] at mem
    | some job =>
      have hnone : t.machine.outcomes.lookup ticket.task = none :=
        h.distinct.lookup_none (by simpa using .inr (.inl ⟨ticket, mem, rfl⟩))
      exact .inl ⟨hnone, job, rfl, hover.endless hr,
        List.mem_cons_of_mem _ (List.mem_map_of_mem mem)⟩
  | compiles exited enters hd hs hr runs onDisk exits =>
    have hnone : t.machine.outcomes.lookup ticket.task = none :=
      h.distinct.lookup_none (by simp [runs, Machine.newJob])
    exact .inl ⟨hnone, _, runs, hover.endless runs, List.mem_cons_self⟩
  | @ended entry ending enters ends mem =>
    exact .inr ⟨entry, ending, enters, ends, h.distinct.lookup_some mem⟩

end Timeline

end ChapelServer
