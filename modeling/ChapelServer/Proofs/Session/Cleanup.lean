import ChapelServer.Proofs.Disk.Works
import ChapelServer.Proofs.Session.Attribution

/-!
# Nothing is left behind

The moments of a run keep a ledger: how many work directories have been made, which hover has the
last one, and which tasks have ended. No run breaks it. So a work directory that stands is that of
a hover that has not ended, and a hover that has ended has no work directory any more, neither in
what has happened nor on the disk, and no process that lives.
-/

namespace ChapelServer

/-! ## The ledger -/

/-- The number of work directories made so far, the task of the hover that has the last one, if it
still stands, and the tasks that have ended. -/
structure Ledger where
  directories : Nat := 0
  tenant : Option Nat := none
  ended : List Nat := []

/-- The moment is entered in the ledger. -/
def Moment.isBooked : Moment → Bool
  | .made _ _ | .removed _ | .event (.done _) => true
  | _ => false

namespace Ledger

/-- The moments that may come, with the ledger before and after them. A work directory gets the
next number and goes to a hover that has not ended; only the last one is there to be removed; and
who still has one does not end. -/
inductive Next : Ledger → Moment → Ledger → Prop
  | made {l : Ledger} {task : Nat} (free : l.tenant = none) (unended : task ∉ l.ended) :
    Next l (.made task (l.directories + 1))
      { l with directories := l.directories + 1, tenant := some task }
  | removed {l : Ledger} {task : Nat} (held : l.tenant = some task) :
    Next l (.removed l.directories) { l with tenant := none }
  | done {l : Ledger} {task : Nat} (other : l.tenant ≠ some task) (unended : task ∉ l.ended) :
    Next l (.event (.done task)) { l with ended := l.ended ++ [task] }
  | unbooked {l : Ledger} {moment : Moment} (h : moment.isBooked = false) : Next l moment l

/-- The ledger before and after some moments. -/
inductive Follows : Ledger → List Moment → Ledger → Prop
  | nil {l : Ledger} : Follows l [] l
  | cons {l l₁ l' : Ledger} {moment : Moment} {moments : List Moment} (next : Next l moment l₁)
    (rest : Follows l₁ moments l') : Follows l (moment :: moments) l'

theorem Follows.append {l l₁ l' : Ledger} {first second : List Moment} (h : Follows l first l₁)
    (h' : Follows l₁ second l') : Follows l (first ++ second) l' := by
  induction h with
  | nil => exact h'
  | cons next _ ih => exact .cons next (ih h')

theorem Follows.split {l l' : Ledger} {first second : List Moment}
    (h : Follows l (first ++ second) l') :
    ∃ l₁, Follows l first l₁ ∧ Follows l₁ second l' := by
  induction first generalizing l with
  | nil => exact ⟨l, .nil, h⟩
  | cons moment first ih =>
    cases h with
    | cons next rest =>
      obtain ⟨l₁, hfirst, hsecond⟩ := ih rest
      exact ⟨l₁, .cons next hfirst, hsecond⟩

theorem Follows.unbooked {l : Ledger} {moments : List Moment}
    (h : ∀ x ∈ moments, x.isBooked = false) : Follows l moments l := by
  induction moments with
  | nil => exact .nil
  | cons x moments ih =>
    have htail := ih fun y hy => h y (List.mem_cons_of_mem _ hy)
    exact .cons (.unbooked (h x List.mem_cons_self)) htail

/-- Who ends has no work directory then. -/
theorem Follows.done_head {l l' : Ledger} {task : Nat} {moments : List Moment}
    (h : Follows l (.event (.done task) :: moments) l') : l.tenant ≠ some task := by
  cases h with
  | cons next rest =>
    cases next with
    | done other unended => exact other
    | unbooked hx => cases hx

/-- A work directory is made for who has not ended. -/
theorem Follows.made_head {l l' : Ledger} {task n : Nat} {moments : List Moment}
    (h : Follows l (.made task n :: moments) l') : task ∉ l.ended := by
  cases h with
  | cons next rest =>
    cases next with
    | made free unended => exact unended
    | unbooked hx => cases hx

/-! ### What the ledger tells -/

theorem mem_of_mem_snoc {moments : List Moment} {x y : Moment} (h : y ∈ moments ++ [x])
    (hne : y ≠ x) : y ∈ moments :=
  (List.mem_append.mp h).resolve_right fun hy => hne (List.mem_singleton.mp hy)

theorem stands_snoc {n : Nat} {moments : List Moment} {x : Moment}
    (h : Stands n (moments ++ [x])) :
    Stands n moments ∧ x ≠ .removed n ∨ ∃ task, x = .made task n := by
  obtain ⟨before, task, since, heq, hr⟩ := h
  rcases List.eq_nil_or_concat since with rfl | ⟨since, y, rfl⟩
  · obtain ⟨-, hx⟩ := List.append_inj' heq rfl
    exact .inr ⟨task, (List.cons.inj hx).1⟩
  · have hsplit : moments ++ [x] = (before ++ .made task n :: since) ++ [y] := by simpa using heq
    obtain ⟨rfl, hx⟩ := List.append_inj' hsplit rfl
    obtain rfl := (List.cons.inj hx).1
    simp only [List.concat_eq_append, List.mem_append, List.mem_singleton, not_or] at hr
    exact .inl ⟨⟨before, task, since, rfl, hr.1⟩, Ne.symm hr.2⟩

/-- What a ledger tells about the moments that led to it. -/
structure Tells (l : Ledger) (moments : List Moment) : Prop where
  ended : ∀ {task : Nat}, .event (.done task) ∈ moments ↔ task ∈ l.ended
  numbered : ∀ {task n : Nat}, .made task n ∈ moments → n ≤ l.directories
  single : ∀ {task task' n : Nat}, .made task n ∈ moments → .made task' n ∈ moments → task = task'
  stands : ∀ {n : Nat}, Stands n moments →
    n = l.directories ∧ ∃ task, l.tenant = some task ∧ .made task n ∈ moments
  tenant : ∀ {task : Nat}, l.tenant = some task → task ∉ l.ended

theorem Tells.snoc {l l' : Ledger} {moments : List Moment} {x : Moment} (h : l.Tells moments)
    (hn : Next l x l') : l'.Tells (moments ++ [x]) := by
  cases hn with
  | @made task free hopen =>
    have hfresh : ∀ {other : Nat}, .made other (l.directories + 1) ∉ moments :=
      fun hmem => Nat.not_succ_le_self _ (h.numbered hmem)
    refine ⟨fun {task} => ?_, ?_, ?_, ?_, ?_⟩
    · simpa using h.ended
    · intro other n hmem
      rcases List.mem_append.mp hmem with hmem | hmem
      · exact Nat.le_succ_of_le (h.numbered hmem)
      · cases List.mem_singleton.mp hmem
        exact Nat.le_refl _
    · intro other other' n hmem hmem'
      by_cases hlast : n = l.directories + 1
      · subst hlast
        have heq := (List.mem_append.mp hmem).resolve_left hfresh
        have heq' := (List.mem_append.mp hmem').resolve_left hfresh
        cases List.mem_singleton.mp heq
        cases List.mem_singleton.mp heq'
        rfl
      · exact h.single (mem_of_mem_snoc hmem (by simp [hlast]))
          (mem_of_mem_snoc hmem' (by simp [hlast]))
    · intro n hstands
      rcases stands_snoc hstands with ⟨hold, -⟩ | ⟨other, heq⟩
      · obtain ⟨-, tenant, htenant, -⟩ := h.stands hold
        simp [free] at htenant
      · cases heq
        exact ⟨rfl, task, rfl, by simp⟩
    · intro other hother
      obtain rfl := Option.some.inj hother
      exact hopen
  | removed held =>
    refine ⟨fun {task} => by simpa using h.ended,
      fun hmem => h.numbered (mem_of_mem_snoc hmem nofun),
      fun hmem hmem' => h.single (mem_of_mem_snoc hmem nofun) (mem_of_mem_snoc hmem' nofun),
      ?_, nofun⟩
    intro n hstands
    rcases stands_snoc hstands with ⟨hold, hne⟩ | ⟨other, heq⟩
    · exact absurd (congrArg Moment.removed (h.stands hold).1.symm) hne
    · cases heq
  | @done task other hopen =>
    refine ⟨fun {task} => ?_, fun hmem => h.numbered (mem_of_mem_snoc hmem nofun),
      fun hmem hmem' => h.single (mem_of_mem_snoc hmem nofun) (mem_of_mem_snoc hmem' nofun), ?_, ?_⟩
    · simp only [List.mem_append, List.mem_singleton, Moment.event.injEq, Event.done.injEq, h.ended]
    · intro n hstands
      rcases stands_snoc hstands with ⟨hold, -⟩ | ⟨other, heq⟩
      · obtain ⟨hlast, tenant, htenant, hmade⟩ := h.stands hold
        exact ⟨hlast, tenant, htenant, List.mem_append_left _ hmade⟩
      · cases heq
    · intro tenant htenant hmem
      rcases List.mem_append.mp hmem with hmem | hmem
      · exact h.tenant htenant hmem
      · rw [List.mem_singleton.mp hmem] at htenant
        exact other htenant
  | unbooked hx =>
    have hne : ∀ {y : Moment}, y.isBooked = true → y ≠ x := by
      rintro y hy rfl
      cases hx.symm.trans hy
    refine ⟨fun {task} => ?_, fun hmem => h.numbered (mem_of_mem_snoc hmem (hne rfl)),
      fun hmem hmem' => h.single (mem_of_mem_snoc hmem (hne rfl)) (mem_of_mem_snoc hmem' (hne rfl)),
      ?_, h.tenant⟩
    · rw [← h.ended]
      exact ⟨fun hmem => mem_of_mem_snoc hmem (hne rfl), List.mem_append_left _⟩
    · intro n hstands
      rcases stands_snoc hstands with ⟨hold, -⟩ | ⟨task, heq⟩
      · obtain ⟨hlast, tenant, htenant, hmade⟩ := h.stands hold
        exact ⟨hlast, tenant, htenant, List.mem_append_left _ hmade⟩
      · exact absurd heq.symm (hne rfl)

theorem Tells.follows {l l' : Ledger} {moments more : List Moment} (h : l.Tells moments)
    (hf : Follows l more l') : l'.Tells (moments ++ more) := by
  induction hf generalizing moments with
  | nil => simpa using h
  | cons next _ ih => simpa using ih (h.snoc next)

theorem tells_of_follows {l : Ledger} {moments : List Moment} (h : Follows {} moments l) :
    l.Tells moments := by
  have hnone : ∀ {n : Nat}, ¬ Stands n [] := by
    rintro n ⟨before, task, since, heq, -⟩
    simp at heq
  have hstart : ({} : Ledger).Tells [] :=
    ⟨by simp, nofun, nofun, fun hstands => absurd hstands hnone, nofun⟩
  simpa using hstart.follows h

end Ledger

/-! ## Every run keeps the ledger -/

theorem Moment.isBooked_of_spoken {e : Event} (h : e.isSpoken) :
    (Moment.event e).isBooked = false := by
  cases e <;> simp_all [Event.isSpoken, isBooked]

/-- Something is spoken, and then a task ends. -/
theorem Ledger.Follows.spoken_done {l : Ledger} {spoken : List Event} {task : Nat}
    (h : ∀ e ∈ spoken, e.isSpoken) (other : l.tenant ≠ some task) (unended : task ∉ l.ended) :
    Follows l ((spoken ++ [Event.done task]).map .event)
      { l with ended := l.ended ++ [task] } := by
  rw [List.map_append]
  refine Follows.append (.unbooked fun x hx => ?_) (.cons (.done other unended) .nil)
  obtain ⟨e, he, rfl⟩ := List.mem_map.mp hx
  exact Moment.isBooked_of_spoken (h e he)

theorem Ledger.Follows.closing {l : Ledger} (t : Ticket) (ending : Ending)
    (other : l.tenant ≠ some t.task) (unended : t.task ∉ l.ended) :
    Follows l ((t.closing ending).map .event) { l with ended := l.ended ++ [t.task] } := by
  obtain ⟨spoken, hspoken, heq⟩ := t.closing_eq ending
  rw [heq]
  exact .spoken_done hspoken other unended

namespace Machine

/-- The ledger of a machine. -/
def ledger (m : Machine) : Ledger where
  directories := m.directories
  tenant := m.running.map (·.ticket.task)
  ended := m.outcomes.map (·.1)

/-- The ledger of a machine is that of what has happened, and the hover that compiles does so in
the last work directory. -/
structure Booked (m : Machine) : Prop where
  follows : Ledger.Follows {} m.trace m.ledger
  last : ∀ {job : Job}, m.running = some job → job.directory = m.directories

theorem Booked.extend {m m' : Machine} (h : m.Booked) {moments : List Moment}
    (ht : m'.trace = m.trace ++ moments) (hf : Ledger.Follows m.ledger moments m'.ledger)
    (last : ∀ {job : Job}, m'.running = some job → job.directory = m'.directories) :
    m'.Booked :=
  ⟨ht ▸ h.follows.append hf, last⟩

theorem Leaves.isBooked {m : Machine} {job : Job} {action : Action} {moments : List Moment}
    {ending : Ending} (h : Leaves m job action moments ending) :
    ∀ x ∈ moments, x.isBooked = false := by
  intro x hx
  rcases h.mem_moments hx with rfl | ⟨e, rfl, he | rfl | rfl⟩
  · rfl
  · exact Moment.isBooked_of_spoken he
  · rfl
  · rfl

/-- A task that is not in play has not ended, and is not that of the hover that compiles. -/
theorem not_tenant_of_not_mem_tasks {m : Machine} {task : Nat} (h : task ∉ m.tasks) :
    m.ledger.tenant ≠ some task ∧ task ∉ m.ledger.ended := by
  simp only [tasks, List.mem_append, not_or, Option.mem_toList] at h
  exact ⟨h.2.1, h.1⟩

theorem not_mem_ended_of_running {m : Machine} {job : Job} (hn : m.tasks.Nodup)
    (hr : m.running = some job) : job.ticket.task ∉ m.ledger.ended := by
  intro hmem
  exact (List.nodup_append.mp hn).2.2 _ hmem job.ticket.task (by simp [hr]) rfl

theorem not_mem_ended_of_waiting {m : Machine} {t : Ticket} (hn : m.tasks.Nodup)
    (ht : t ∈ m.waiting) : t.task ∉ m.ledger.ended := by
  intro hmem
  exact (List.nodup_append.mp hn).2.2 _ hmem t.task
    (List.mem_append_right _ (List.mem_map_of_mem ht)) rfl

theorem Response.booked {m m' : Machine} {action : Action} (h : Response m action m')
    (hn : (action.brings ++ m.tasks).Nodup) (hm : m.Booked) : m'.Booked := by
  have htasks : m.tasks.Nodup := (List.nodup_append.mp hn).2.1
  cases h with
  | @absorbed task request handled hh =>
    obtain ⟨hother, hunended⟩ := not_tenant_of_not_mem_tasks (List.nodup_cons.mp hn).1
    have hf := Ledger.Follows.spoken_done (handled?_spoken hh) hother hunended
    exact hm.extend rfl (by simpa [ledger] using hf) hm.last
  | @dismissed task _ _ _ _ _ hq spoken =>
    obtain ⟨hother, hunended⟩ := not_tenant_of_not_mem_tasks (List.nodup_cons.mp hn).1
    have hf := Ledger.Follows.spoken_done spoken hother hunended
    exact hm.extend rfl (by simpa [ledger] using hf) hm.last
  | queued | idle => exact ⟨hm.follows, hm.last⟩
  | exited hr =>
    have hlast := hm.last hr
    refine hm.extend rfl (.cons (.unbooked rfl) ?_) ?_
    · have heq : m.running.map (·.ticket.task) = some _ := congrArg (Option.map _) hr
      simpa [ledger, heq] using Ledger.Follows.nil
    · intro job hjob
      cases hjob
      exact hlast
  | @left _ job moments ending hr hl =>
    have hunended := not_mem_ended_of_running htasks hr
    have htenant : m.ledger.tenant = some job.ticket.task := by simp [ledger, hr]
    refine hm.extend rfl (.append (.unbooked hl.isBooked) ?_) nofun
    rw [hm.last hr]
    refine .cons (.removed htenant) ?_
    have hf := Ledger.Follows.closing (l := { m.ledger with tenant := none }) job.ticket ending
      nofun hunended
    simpa [ledger] using hf
  | @dequeued task hr hw =>
    obtain ⟨t, ht, rfl⟩ := hw
    have hother : m.ledger.tenant ≠ some t.task := by
      intro htenant
      obtain ⟨job, hjob, htask⟩ := Option.map_eq_some_iff.mp htenant
      exact hr job hjob htask
    refine hm.extend rfl (.cons (.done hother (not_mem_ended_of_waiting htasks ht)) ?_) hm.last
    simpa [ledger] using Ledger.Follows.nil

theorem Entry.booked {m m' : Machine} {t : Ticket} (h : Entry m t m') (free : m.running = none)
    (unended : t.task ∉ m.ledger.ended) (hm : m.Booked) : m'.Booked := by
  have htenant : m.ledger.tenant = none := by simp [ledger, free]
  -- what the hover does with the section while it has it
  have hmade : Ledger.Next m.ledger (.made t.task m.nextDirectory)
      { m.ledger with directories := m.nextDirectory, tenant := some t.task } :=
    .made htenant unended
  have hgone : Ledger.Next
      { m.ledger with directories := m.nextDirectory, tenant := some t.task }
      (.removed m.nextDirectory) { m.ledger with directories := m.nextDirectory, tenant := none } :=
    .removed rfl
  have hclosed (ending : Ending) : Ledger.Follows
      { m.ledger with directories := m.nextDirectory, tenant := none }
      ((t.closing ending).map .event)
      { directories := m.nextDirectory, tenant := none, ended := m.ledger.ended ++ [t.task] } :=
    .closing t ending nofun unended
  cases h with
  | refused =>
    have hother : m.ledger.tenant ≠ some t.task := by simp [htenant]
    have hf := Ledger.Follows.closing t noDirectory hother unended
    exact hm.extend rfl (.cons (.unbooked rfl) (by simpa [ledger] using hf)) (by simp [free])
  | @unstaged _ stop =>
    refine hm.extend rfl (.cons (.unbooked rfl) (.cons hmade (.cons hgone ?_))) (by simp [free])
    simpa [ledger, free] using hclosed (.stopped stop)
  | @unstarted _ _ stop =>
    refine hm.extend rfl (.cons (.unbooked rfl) (.cons hmade (.cons (.unbooked rfl)
      (.cons hgone ?_)))) (by simp [free])
    simpa [ledger, free] using hclosed (.stopped stop)
  | started =>
    refine hm.extend rfl (.cons (.unbooked rfl) (.cons hmade (.cons (.unbooked rfl)
      (.cons (.unbooked rfl) ?_)))) ?_
    · simpa [ledger, newJob] using Ledger.Follows.nil
    · intro job hjob
      cases hjob
      rfl

theorem advance_booked {m : Machine} (hn : m.tasks.Nodup) (hm : m.Booked) : m.advance.Booked := by
  refine (advance_induct (P := fun m' => m'.tasks.Nodup ∧ m'.Booked) ?_ ⟨hn, hm⟩).2
  rintro m' t queue free next ⟨hn, hm⟩
  have hentry := entry { m' with waiting := queue } t
  refine ⟨(hentry.tasks_perm free next).nodup_iff.mpr hn, ?_⟩
  have ht : t ∈ m'.waiting := next ▸ List.mem_cons_self
  have hunended : t.task ∉ m'.ledger.ended := not_mem_ended_of_waiting hn ht
  exact hentry.booked free hunended ⟨hm.follows, hm.last⟩

theorem happen_booked {m : Machine} (hs : m.Settled) {due : Due}
    (hn : (due.action.brings ++ m.tasks).Nodup) (hm : m.Booked) : (m.happen due).Booked := by
  have hresponse := response { m with now := due.instant } due.action
  have htasks := hresponse.tasks (List.nodup_append.mp hn).2.1
  rw [happen_eq hs]
  exact advance_booked (htasks.nodup_iff.mpr hn) (hresponse.booked hn ⟨hm.follows, hm.last⟩)

end Machine

/-- The tasks of the messages that are delivered. -/
def brought (dues : List Due) : List Nat :=
  dues.flatMap (·.action.brings)

namespace Machine

/-- A run keeps the ledger if no task is delivered twice. -/
theorem runs_booked {m : Machine} (hs : m.Settled) {dues : List Due}
    (hn : (brought dues ++ m.tasks).Nodup) (hm : m.Booked) : (m.runs dues).Booked := by
  induction dues generalizing m with
  | nil => exact hm
  | cons due dues ih =>
    rw [brought, List.flatMap_cons, List.append_assoc] at hn
    -- the tasks of the messages to come stay apart from those in play
    have hperm := (List.perm_append_comm_assoc due.action.brings (brought dues) m.tasks)
    have hhead : (due.action.brings ++ m.tasks).Nodup :=
      (List.nodup_append.mp (hperm.nodup_iff.mp hn)).2.1
    have htasks := happen_tasks hs (List.nodup_append.mp hhead).2.1 due
    refine ih (happen_settled hs due) ?_ (happen_booked hs hhead hm)
    exact ((htasks.append_left _).nodup_iff).mpr (hperm.nodup_iff.mp hn)

/-! ## Work directories on the disk -/

/-- All that is on the disk is outside the work directories, or in that of the hover that
compiles. -/
def Tidy (m : Machine) : Prop :=
  m.disk.HoldsOnly fun n => ∃ job, m.running = some job ∧ job.directory = n

theorem Response.tidy {m m' : Machine} {action : Action} (h : Response m action m')
    (hm : m.Tidy) : m'.Tidy := by
  cases h with
  | absorbed | dismissed | queued | dequeued | idle => exact hm
  | @exited job hr =>
    have hm' : m.disk.HoldsOnly fun n => job.directory = n := by
      simpa [Tidy, hr] using hm
    have hwritten := Disk.HoldsOnly.foldl_place rfl job.run.files hm'
    simpa [Tidy] using hwritten
  | left hr =>
    intro x hx n hn
    obtain ⟨⟨job, hjob, rfl⟩, hne⟩ := Disk.HoldsOnly.removeWork hm _ x hx n hn
    cases hr.symm.trans hjob
    exact absurd rfl hne

theorem Entry.tidy {m m' : Machine} {t : Ticket} (h : Entry m t m') (free : m.running = none)
    (hm : m.Tidy) : m'.Tidy := by
  have hnone : m.disk.HoldsOnly fun n => n = m.nextDirectory := by
    intro x hx n hn
    obtain ⟨job, hjob, -⟩ := hm x hx n hn
    simp [free] at hjob
  have hstaged : (m.staging t.question.text).1.HoldsOnly fun n => n = m.nextDirectory :=
    Staging.stage_holdsOnly _ _ _ (hnone.makeWork rfl m.host.leftovers) rfl
  have hgone {d : Disk} (hd : d.HoldsOnly fun n => n = m.nextDirectory) (S : Nat → Prop) :
      (d.removeWork m.nextDirectory).HoldsOnly S := by
    intro x hx n hn
    obtain ⟨heq, hne⟩ := hd.removeWork m.nextDirectory x hx n hn
    exact absurd heq hne
  cases h with
  | refused => exact hm
  | unstaged hd hs | unstarted hd hs hr =>
    rw [hs] at hstaged
    exact hgone hstaged _
  | started hd hs hr =>
    rw [hs] at hstaged
    intro x hx n hn
    exact ⟨_, rfl, (hstaged x hx n hn).symm⟩

theorem runs_tidy (host : Host) (dues : List Due) : (runs { host } dues).Tidy := by
  refine Moves.keep (P := Tidy) ?_ (runs_moves (fun _ => rfl) dues) nofun
  intro m m' h hm
  cases h with
  | respond due settled => exact (response { m with now := due.instant } due.action).tidy hm
  | enter free next => exact (entry _ _).tidy free hm

end Machine

/-! ## No leaks -/

/-- The process has exited by itself, or has been killed. -/
def Gone (p : Nat) (moments : List Moment) : Prop :=
  .event (.exit p) ∈ moments ∨ .event (.kill p) ∈ moments

/-- A process that has not gone lives in a work directory that stands. -/
theorem Hold.gone_or_stands {h : Hold} {p n : Nat} {moments : List Moment}
    (hs : Hold.free.after moments = some h) (hp : StartedIn p n moments) :
    Gone p moments ∨ Stands n moments := by
  have htells := tells_of_after hs
  obtain ⟨command, source, opened, names, hmem⟩ := hp
  obtain ⟨before, later, rfl⟩ := List.append_of_mem hmem
  obtain ⟨h₀, -, hrest⟩ := after_append_some hs
  obtain ⟨h₁, hspawn, hlater⟩ := after_cons_some hrest
  obtain ⟨-, rfl⟩ := next_spawn hspawn
  by_cases hlives : h = .compiling n p
  · exact .inr (htells.stands (.inr ⟨p, hlives⟩))
  · left
    rcases ended_of_after hlater hlives with hexit | hkill
    · exact .inl (by simp [hexit])
    · exact .inr (by simp [hkill])

namespace Machine

/-- Nothing is left behind by hovers that have ended. -/
structure LeavesNothing (m : Machine) : Prop where
  /-- What is on the disk in a work directory is that of the hover that compiles, which has not
  ended. -/
  owned : ∀ {place : Place} {entry : ChapelServer.Entry} {n : Nat},
    (place, entry) ∈ m.disk.entries → place.work = some n →
    ∃ job, m.running = some job ∧ job.directory = n ∧ .made job.ticket.task n ∈ m.trace ∧
      ∀ o, (job.ticket.task, o) ∉ m.outcomes
  /-- At any moment, a work directory that stands was made for a hover that has not ended. -/
  standing : ∀ {past future : List Moment} {n : Nat}, m.trace = past ++ future → Stands n past →
    ∃ task, .made task n ∈ past ∧ .event (.done task) ∉ past
  /-- When a hover ends, its work directory does not stand, and its process has gone. -/
  cleared : ∀ {past future : List Moment} {task n : Nat},
    m.trace = past ++ .event (.done task) :: future → .made task n ∈ past →
    ¬ Stands n past ∧ ∀ {p : Nat}, StartedIn p n past → Gone p past
  /-- A hover that has ended gets no other work directory. -/
  closed : ∀ {past future : List Moment} {task n : Nat},
    m.trace = past ++ .event (.done task) :: future → .made task n ∉ future
  /-- Whatever comes of a hover, by then it has ended in this way, and nothing of its work
  directory is on the disk. -/
  ended : ∀ {task : Nat} {o : Outcome}, (task, o) ∈ m.outcomes →
    .event (.done task) ∈ m.trace ∧ ∀ {n : Nat}, .made task n ∈ m.trace →
      ∀ x ∈ m.disk.entries, x.1.work ≠ some n

/-- The hover that compiles has the last work directory, and has not ended. -/
theorem Booked.tenant {m : Machine} (hb : m.Booked) (ha : m.Accepted) {job : Job}
    (hr : m.running = some job) :
    .made job.ticket.task job.directory ∈ m.trace ∧ ∀ o, (job.ticket.task, o) ∉ m.outcomes := by
  have htells := Ledger.tells_of_follows hb.follows
  have htenant : m.ledger.tenant = some job.ticket.task := by simp [ledger, hr]
  have hholds : (Hold.ofRunning m.running).Holds job.directory := by
    cases hx : job.exited <;> simp [hr, hx, Hold.ofRunning]
  have hstands : Stands job.directory m.trace := (Hold.tells_of_after ha).stands hholds
  obtain ⟨-, task, htask, hmade⟩ := htells.stands hstands
  obtain rfl := Option.some.inj (htask.symm.trans htenant)
  exact ⟨hmade, fun o ho => htells.tenant htenant (List.mem_map_of_mem ho)⟩

/-- The ledger where what has happened is cut. -/
theorem Booked.cut {m : Machine} (hb : m.Booked) {past future : List Moment}
    (heq : m.trace = past ++ future) :
    ∃ l : Ledger, l.Tells past ∧ Ledger.Follows l future m.ledger := by
  obtain ⟨l, hpast, hfuture⟩ := Ledger.Follows.split (heq ▸ hb.follows)
  exact ⟨l, Ledger.tells_of_follows hpast, hfuture⟩

theorem Booked.not_stands {m : Machine} (hb : m.Booked) {past future : List Moment} {task n : Nat}
    (heq : m.trace = past ++ .event (.done task) :: future) (hmade : .made task n ∈ past) :
    ¬ Stands n past := by
  intro hstands
  obtain ⟨l, hl, hfuture⟩ := hb.cut heq
  obtain ⟨-, tenant, htenant, hmade'⟩ := hl.stands hstands
  obtain rfl := hl.single hmade hmade'
  exact hfuture.done_head htenant

theorem Booked.not_made {m : Machine} (hb : m.Booked) {past future : List Moment} {task n : Nat}
    (heq : m.trace = past ++ .event (.done task) :: future) : .made task n ∉ future := by
  intro hmade
  obtain ⟨between, later, rfl⟩ := List.append_of_mem hmade
  have hcut : m.trace =
      (past ++ .event (.done task) :: between) ++ .made task n :: later := by simp [heq]
  obtain ⟨l, hl, hfuture⟩ := hb.cut hcut
  exact hfuture.made_head (hl.ended.mp (by simp))

theorem Booked.leavesNothing {m : Machine} (hb : m.Booked) (ha : m.Accepted) (ht : m.Tidy) :
    m.LeavesNothing := by
  have htells := Ledger.tells_of_follows hb.follows
  have howned : ∀ {place : Place} {entry : ChapelServer.Entry} {n : Nat},
      (place, entry) ∈ m.disk.entries → place.work = some n →
      ∃ job, m.running = some job ∧ job.directory = n ∧ .made job.ticket.task n ∈ m.trace ∧
        ∀ o, (job.ticket.task, o) ∉ m.outcomes := by
    intro place entry n hmem hwork
    obtain ⟨job, hr, rfl⟩ := ht _ hmem n hwork
    exact ⟨job, hr, rfl, hb.tenant ha hr⟩
  refine ⟨howned, ?_, ?_, hb.not_made, ?_⟩
  · intro past future n heq hstands
    obtain ⟨l, hl, -⟩ := hb.cut heq
    obtain ⟨-, task, htenant, hmade⟩ := hl.stands hstands
    exact ⟨task, hmade, fun hdone => hl.tenant htenant (hl.ended.mp hdone)⟩
  · intro past future task n heq hmade
    have hdown := hb.not_stands heq hmade
    have hafter : Hold.free.after m.trace = some (.ofRunning m.running) := ha
    rw [heq] at hafter
    obtain ⟨h, hh, -⟩ := Hold.after_append_some hafter
    exact ⟨hdown, fun hp => (Hold.gone_or_stands hh hp).resolve_right hdown⟩
  · intro task o ho
    have hended : task ∈ m.ledger.ended := List.mem_map_of_mem ho
    refine ⟨htells.ended.mpr hended, ?_⟩
    rintro n hmade ⟨place, entry⟩ hmem hwork
    obtain ⟨job, hr, -, hmade', hunended⟩ := howned hmem hwork
    obtain rfl := htells.single hmade hmade'
    exact hunended o ho

/-- In every run in which no task is delivered twice, whatever its hovers come to and whenever they
are cancelled, nothing is left behind: at any moment a work directory that stands belongs to a hover
that has not ended, and a hover that has ended has neither a work directory nor a live process. -/
theorem nothing_leaks (host : Host) (dues : List Due) (once : (brought dues).Nodup) :
    (Machine.runs { host } dues).LeavesNothing := by
  have hstart : ({ host } : Machine).Booked := ⟨.nil, nofun⟩
  have hbooked : (Machine.runs { host } dues).Booked :=
    runs_booked (fun _ => rfl) (by simpa [tasks] using once) hstart
  exact hbooked.leavesNothing (runs_accepted host dues) (runs_tidy host dues)

namespace Sample

/-- Three hovers on a document: one comes to its end, one is cut off by its time limit, and one is
cancelled while it compiles. -/
def endings : List Due :=
  [Timeline.Sample.greeting.delivery, Timeline.Sample.opening.delivery,
    Timeline.Sample.asking.delivery, ⟨1, .deliver 3 (.hover false "a" ⟨0, 0⟩)⟩,
    ⟨1, .deliver 4 (.hover false "a" ⟨0, 0⟩)⟩, ⟨2, .exit⟩, ⟨2, .outputEnd⟩, ⟨3, .expire⟩,
    ⟨4, .cancel 4⟩]

end Sample

theorem nothing_leaks_sample :
    (brought Sample.endings).Nodup ∧
      (Machine.runs { host := Timeline.Sample.host } Sample.endings).LeavesNothing ∧
      (Machine.runs { host := Timeline.Sample.host } Sample.endings).processes = 3 ∧
      (Machine.runs { host := Timeline.Sample.host } Sample.endings).disk.entries = [] :=
  ⟨by decide, nothing_leaks Timeline.Sample.host Sample.endings (by decide), by decide +kernel,
    by decide +kernel⟩

end Machine

end ChapelServer
