import ChapelServer.Proofs.Session.Move

/-!
# Runs of the timeline

What is due first happens first, until nothing is due. Each happening lowers the load of a timeline,
so that the end is reached; the process of a hover is cut off at its time limit exactly if it has
not come to its end by then; and the tasks in play stay distinct.
-/

namespace ChapelServer

/-! ## What is due first -/

namespace Due

/-- This is due before all of the first list, and not after any of the second. -/
structure Leads (due : Due) (before after : List Due) : Prop where
  sooner : ∀ e ∈ before, due.instant < e.instant
  notLater : ∀ e ∈ after, due.instant ≤ e.instant

theorem Leads.le {due : Due} {before after : List Due} (h : due.Leads before after) {e : Due}
    (he : e ∈ before ++ due :: after) : due.instant ≤ e.instant := by
  rcases List.mem_append.mp he with hb | ha
  · exact Nat.le_of_lt (h.sooner e hb)
  · rcases List.mem_cons.mp ha with rfl | ha
    · exact Nat.le_refl _
    · exact h.notLater e ha

theorem foldl_earlier_leads (d : Due) (rest : List Due) :
    ∃ before after, d :: rest = before ++ rest.foldl earlier d :: after ∧
      (rest.foldl earlier d).Leads before after := by
  induction rest generalizing d with
  | nil => exact ⟨[], [], rfl, by simp, by simp⟩
  | cons e rest ih =>
    rw [List.foldl_cons]
    by_cases hlt : e.instant < d.instant
    · have he : earlier d e = e := if_pos hlt
      rw [he]
      obtain ⟨before, after, heq, hl⟩ := ih e
      have hle := hl.le (e := e) (heq ▸ List.mem_cons_self)
      refine ⟨d :: before, after, congrArg (d :: ·) heq, ?_, hl.notLater⟩
      simp only [List.mem_cons, forall_eq_or_imp]
      exact ⟨Nat.lt_of_le_of_lt hle hlt, hl.sooner⟩
    · have hd : earlier d e = d := if_neg hlt
      rw [hd]
      obtain ⟨before, after, heq, hl⟩ := ih d
      cases before with
      | nil =>
        obtain ⟨hx, rfl⟩ : d = rest.foldl earlier d ∧ rest = after := by simpa using heq
        rw [← hx] at hl ⊢
        refine ⟨[], e :: rest, rfl, by simp, ?_⟩
        simp only [List.mem_cons, forall_eq_or_imp]
        exact ⟨Nat.le_of_not_lt hlt, hl.notLater⟩
      | cons d' before =>
        obtain ⟨rfl, hrest⟩ := List.cons.inj heq
        have hsooner := hl.sooner d List.mem_cons_self
        refine ⟨d :: e :: before, after, congrArg (d :: e :: ·) hrest, ?_, hl.notLater⟩
        intro x hx
        rcases List.mem_cons.mp hx with rfl | hx
        · exact hsooner
        · rcases List.mem_cons.mp hx with rfl | hx
          · exact Nat.lt_of_lt_of_le hsooner (Nat.le_of_not_lt hlt)
          · exact hl.sooner x (List.mem_cons_of_mem _ hx)

/-- The earliest of all is before those that stand before it, and not after the others. -/
theorem earliest?_leads {dues : List Due} {due : Due} (h : earliest? dues = some due) :
    ∃ before after, dues = before ++ due :: after ∧ due.Leads before after := by
  cases dues with
  | nil => simp [earliest?] at h
  | cons d rest =>
    obtain rfl := Option.some.inj h
    exact foldl_earlier_leads d rest

theorem earliest?_mem {dues : List Due} {due : Due} (h : earliest? dues = some due) :
    due ∈ dues := by
  obtain ⟨before, after, rfl, -⟩ := earliest?_leads h
  simp

theorem earliest?_le {dues : List Due} {due e : Due} (h : earliest? dues = some due)
    (he : e ∈ dues) : due.instant ≤ e.instant := by
  obtain ⟨before, after, rfl, hl⟩ := earliest?_leads h
  exact hl.le he

/-- What stands before the earliest is due later. -/
theorem earliest?_lt {first rest : List Due} {due e : Due}
    (h : earliest? (first ++ rest) = some due) (hn : due ∉ first) (he : e ∈ first) :
    due.instant < e.instant := by
  obtain ⟨before, after, heq, hl⟩ := earliest?_leads h
  rcases List.append_eq_append_iff.mp heq with ⟨between, rfl, -⟩ | ⟨between, rfl, hrest⟩
  · exact hl.sooner e (List.mem_append_left _ he)
  · cases between with
    | nil => exact hl.sooner e (by simpa using he)
    | cons d between =>
      obtain rfl := (List.cons.inj hrest).1
      simp at hn

/-- The first of those that are due at the same time, or before all others, is the earliest. -/
theorem earliest?_cons {d : Due} {rest : List Due} (h : ∀ e ∈ rest, d.instant ≤ e.instant) :
    earliest? (d :: rest) = some d := by
  refine congrArg some ?_
  induction rest with
  | nil => rfl
  | cons e rest ih =>
    have he : earlier d e = d := if_neg (Nat.not_lt_of_le (h e List.mem_cons_self))
    rw [List.foldl_cons, he]
    exact ih fun x hx => h x (List.mem_cons_of_mem _ hx)

theorem earliest?_eq_none {dues : List Due} : earliest? dues = none ↔ dues = [] := by
  cases dues <;> simp [earliest?]

end Due

namespace Timeline

/-! ## Runs -/

/-- What is due first happens. -/
inductive Next : Timeline → Timeline → Prop
  | take {t : Timeline} {due : Due} (first : Due.earliest? t.dues = some due) :
    Next t (t.take due)

/-- A timeline that is reached later, or the same. -/
abbrev Runs : Timeline → Timeline → Prop :=
  Relation.ReflTransGen Next

/-- Nothing is due any more. -/
def Over (t : Timeline) : Prop :=
  Due.earliest? t.dues = none

theorem take_machine (t : Timeline) (due : Due) :
    (t.take due).machine = t.machine.happen due := by
  unfold take Machine.happen
  cases due.action <;> rfl

theorem Runs.keep {P : Timeline → Prop} (hP : ∀ {t t' : Timeline}, Next t t' → P t → P t')
    {t t' : Timeline} (h : Runs t t') (ht : P t) : P t' := by
  induction h with
  | refl => exact ht
  | tail _ hnext ih => exact hP hnext ih

theorem Runs.settled {t t' : Timeline} (h : Runs t t') (ht : t.machine.Settled) :
    t'.machine.Settled := by
  refine h.keep (P := fun t => t.machine.Settled) ?_ ht
  rintro _ _ ⟨_⟩ hs
  rw [take_machine]
  exact Machine.happen_settled hs _

/-- The machine of a run moves along with it. -/
theorem Runs.moves {t t' : Timeline} (h : Runs t t') (ht : t.machine.Settled) :
    Machine.Moves t.machine t'.machine := by
  induction h with
  | refl => exact .refl
  | tail hrun hnext ih =>
    cases hnext
    rw [take_machine]
    exact ih.trans (Machine.happen_moves (Runs.settled hrun ht) _)

theorem run_runs (fuel : Nat) (t : Timeline) : Runs t (t.run fuel) := by
  induction fuel generalizing t with
  | zero => exact .refl
  | succ fuel ih =>
    unfold run
    cases h : Due.earliest? t.dues with
    | none => exact .refl
    | some due => exact .head (.take h) (ih _)

/-- Whatever a run passes through, it leads to the same end. -/
theorem Runs.run {t u : Timeline} (h : Runs t u) {fuel : Nat} (hend : (t.run fuel).Over) :
    Runs u (t.run fuel) := by
  induction h using Relation.ReflTransGen.head_induction_on generalizing fuel with
  | refl => exact run_runs fuel u
  | head hnext _ ih =>
    obtain ⟨hdue⟩ := hnext
    cases fuel with
    | zero =>
      have hnone : Due.earliest? _ = none := hend
      simp [Timeline.run, hdue] at hnone
    | succ fuel =>
      simp only [Timeline.run, hdue] at hend ⊢
      exact ih hend

end Timeline

/-! ## Where a due comes from -/

/-- After how many milliseconds the process has exited and its output has ended, if ever. -/
def Run.finishedAt? (run : Run) : Option Nat :=
  run.exitAfter.bind fun exit => run.outputEndsAfter.map (max · exit)

/-- The process comes to its end before its time is up, or just then. -/
def Run.InTime (run : Run) (limit : Number.Binary64) : Prop :=
  ∀ l, Instant.ofLimit? limit = some l →
    ∃ ms, run.finishedAt? = some ms ∧ Instant.ofMilliseconds ms ≤ l

/-- A process with no time limit that never comes to its end. -/
def Job.Endless (job : Job) : Prop :=
  job.settings.compilerTimeout = .infinite false ∧ job.run.finishedAt? = none

namespace Timeline

/-- The source of something that is due. -/
inductive Source (t : Timeline) : Due → Prop
  | arrival {a : Arrival} (mem : a ∈ t.arrivals) : Source t a.delivery
  | cancellation {a : Arrival} {ms instant : Nat} (mem : a ∈ t.started)
    (flight : inFlight t.machine a.task) (set : a.cancelAfter = some ms) :
    Source t ⟨instant, .cancel a.task⟩
  | exit {job : Job} {ms : Nat} (runs : t.machine.running = some job)
    (alive : job.exited = false) (set : job.run.exitAfter = some ms) :
    Source t ⟨job.after ms, .exit⟩
  | outputEnd {job : Job} {ms : Nat} (runs : t.machine.running = some job)
    (dead : job.exited = true) (set : job.run.outputEndsAfter = some ms) :
    Source t ⟨job.after (max ms (job.run.exitAfter.getD 0)), .outputEnd⟩
  | expiry {job : Job} {instant : Nat} (runs : t.machine.running = some job) :
    Source t ⟨instant, .expire⟩

theorem source_of_mem_toCome {t : Timeline} {due : Due} (h : due ∈ t.toCome) :
    t.Source due := by
  rcases List.mem_append.mp h with ha | hc
  · obtain ⟨a, hmem, rfl⟩ := List.mem_map.mp ha
    exact .arrival hmem
  · obtain ⟨a, hmem, heq⟩ := List.mem_filterMap.mp hc
    obtain ⟨hstarted, hflight⟩ := List.mem_filter.mp hmem
    obtain ⟨ms, hms, rfl⟩ := Option.map_eq_some_iff.mp heq
    exact .cancellation hstarted hflight hms

theorem source_of_mem_jobDues {t : Timeline} {job : Job} {due : Due}
    (hr : t.machine.running = some job) (h : due ∈ job.dues) : t.Source due := by
  simp only [Job.dues, List.mem_append, Option.mem_toList] at h
  rcases h with (h | h) | h
  · cases hx : job.exited with
    | true => simp [Job.exit?, hx] at h
    | false =>
      obtain ⟨ms, hms, rfl⟩ : ∃ ms, job.run.exitAfter = some ms ∧ ⟨job.after ms, .exit⟩ = due := by
        simpa [Job.exit?, hx] using h
      exact .exit hr hx hms
  · cases hx : job.exited with
    | false => simp [Job.outputEnd?, hx] at h
    | true =>
      simp only [Job.outputEnd?, hx, if_true, Option.map_eq_some_iff] at h
      obtain ⟨ms, hms, rfl⟩ := h
      exact .outputEnd hr hx hms
  · obtain ⟨limit, -, rfl⟩ := Option.map_eq_some_iff.mp h
    exact .expiry hr

theorem source_of_mem {t : Timeline} {due : Due} (h : due ∈ t.dues) : t.Source due := by
  rcases List.mem_append.mp h with h | h
  · rcases List.mem_append.mp h with h | h
    · cases hr : t.machine.running with
      | none => simp [hr] at h
      | some job => exact source_of_mem_jobDues hr (by simpa [hr] using h)
    · exact source_of_mem_toCome h
  · rw [Option.mem_toList] at h
    unfold unmeasured? at h
    cases hr : t.machine.running with
    | none => simp [hr] at h
    | some job =>
      simp only [hr] at h
      split at h
      · split at h
        · obtain ⟨due, -, rfl⟩ := Option.map_eq_some_iff.mp h
          exact .expiry hr
        · obtain rfl := Option.some.inj h
          exact .expiry hr
      · simp at h

end Timeline

/-! ## The end is reached -/

/-- The steps that a job has before it. -/
def Job.load (job : Job) : Nat :=
  if job.exited then 1 else 2

theorem Job.load_pos (job : Job) : 0 < job.load := by
  unfold load
  split <;> decide

namespace Machine

/-- The steps that the hovers in flight have before them. -/
def load (m : Machine) : Nat :=
  2 * m.waiting.length + (m.running.map Job.load).getD 0

theorem enter_load {m : Machine} {t : Ticket} {queue : List Ticket} (hr : m.running = none)
    (hw : m.waiting = t :: queue) : ({ m with waiting := queue }.enter t).load ≤ m.load := by
  have hload : m.load = 2 * queue.length + 2 := by simp [load, hr, hw, Nat.mul_add]
  have hentry := entry { m with waiting := queue } t
  generalize ({ m with waiting := queue } : Machine).enter t = m' at hentry ⊢
  rw [hload]
  cases hentry <;> simp [load, hr, newJob, Job.load]

theorem advance_load (m : Machine) : m.advance.load ≤ m.load :=
  advance_induct (P := fun m' => m'.load ≤ m.load)
    (fun hr hw h => Nat.le_trans (enter_load hr hw) h) (Nat.le_refl _)

/-- An action leaves fewer steps for the hovers in flight, unless it is a message, which brings at
most two, or idle. -/
theorem Response.load {m m' : Machine} {action : Action} (h : Response m action m') :
    m'.load < m.load ∨ m.Idle action ∨
      ∃ task request, action = .deliver task request ∧ m'.load ≤ m.load + 2 := by
  cases h with
  | absorbed | dismissed => exact .inr (.inr ⟨_, _, rfl, Nat.le_add_right _ _⟩)
  | queued =>
    refine .inr (.inr ⟨_, _, rfl, ?_⟩)
    simp only [Machine.load, List.length_append, List.length_singleton]
    omega
  | exited hr hx =>
    left
    simp [Machine.load, hr, hx, Job.load]
  | @left _ job _ _ hr =>
    left
    have hpos := job.load_pos
    simp only [Machine.load, hr, Option.map_none, Option.map_some, Option.getD_none,
      Option.getD_some]
    omega
  | @dequeued task hr hw =>
    left
    obtain ⟨t, ht, htask⟩ := hw
    have hlt : (m.waiting.filter (·.task != task)).length < m.waiting.length :=
      List.length_filter_lt_length_iff_exists.mpr ⟨t, ht, by simpa using htask⟩
    simp only [Machine.load]
    omega
  | idle hi => exact .inr (.inl hi)

end Machine

namespace Timeline

/-- The steps that a timeline has before it. -/
def load (t : Timeline) : Nat :=
  3 * t.arrivals.length + t.machine.load

theorem length_filter_arrivals_lt {t : Timeline} {a : Arrival} (h : a ∈ t.arrivals) :
    (t.arrivals.filter (·.task != a.task)).length < t.arrivals.length :=
  List.length_filter_lt_length_iff_exists.mpr ⟨a, h, by simp⟩

/-- What is due finds something to act on. -/
theorem Source.not_idle {t : Timeline} {due : Due} (h : t.Source due) :
    ¬ t.machine.Idle due.action := by
  intro hidle
  cases h with
  | arrival mem => exact hidle
  | cancellation mem flight set =>
    obtain ⟨hrunning, hwaiting⟩ := hidle
    rcases Bool.or_eq_true_iff.mp flight with hany | hany
    · obtain ⟨ticket, hmem, htask⟩ := List.any_eq_true.mp hany
      exact hwaiting ticket hmem (by simpa using htask)
    · obtain ⟨job, hjob, htask⟩ := (Option.any_eq_true ..).mp hany
      exact hrunning job hjob (by simpa using htask)
  | exit runs alive set => simp [hidle _ runs] at alive
  | outputEnd runs dead set => simp [hidle _ runs] at dead
  | expiry runs => simp [show t.machine.running = none from hidle] at runs

/-- Whatever happens, fewer steps are left. -/
theorem Source.load_lt {t : Timeline} {due : Due} (h : t.Source due) (hs : t.machine.Settled) :
    (t.take due).load < t.load := by
  have hle : (t.machine.happen due).load ≤
      ({ t.machine with now := due.instant }.respond due.action).load := by
    rw [Machine.happen_eq hs]
    exact Machine.advance_load _
  have hnow : ({ t.machine with now := due.instant } : Machine).load = t.machine.load := rfl
  have hresponse := Machine.response { t.machine with now := due.instant } due.action
  rw [load, load, take_machine]
  rcases hresponse.load with hlt | hidle | ⟨task, request, haction, hle'⟩
  · have harr : (t.take due).arrivals.length ≤ t.arrivals.length := by
      unfold take
      split
      · exact List.length_filter_le _ _
      · exact Nat.le_refl _
    rw [hnow] at hlt
    omega
  · cases due with
    | mk instant action => cases action <;> exact absurd hidle h.not_idle
  · -- Only what is to come is delivered, and then there is one message less to come.
    cases h with
    | arrival mem =>
      have harr := length_filter_arrivals_lt mem
      rw [hnow] at hle'
      simp only [take, Arrival.delivery] at hle hle' ⊢
      omega
    | _ => cases haction

theorem run_over {t : Timeline} (hs : t.machine.Settled) {fuel : Nat} (h : t.load < fuel) :
    (t.run fuel).Over := by
  induction fuel generalizing t with
  | zero => omega
  | succ fuel ih =>
    unfold run
    cases hdue : Due.earliest? t.dues with
    | none => exact hdue
    | some due =>
      have hlt := (source_of_mem (Due.earliest?_mem hdue)).load_lt hs
      refine ih ?_ (by omega)
      rw [take_machine]
      exact Machine.happen_settled hs due

/-- From a machine at rest, the steps of `finish` are enough. -/
theorem finish_over {t : Timeline} (hr : t.machine.running = none) (hw : t.machine.waiting = []) :
    t.finish.Over := by
  have hload : t.load = 3 * t.arrivals.length := by simp [load, Machine.load, hr, hw]
  exact run_over (fun _ => hw) (by omega)

/-- A run that is over has no process running, or one that never comes to its end. -/
theorem Over.endless {t : Timeline} (h : t.Over) {job : Job}
    (hr : t.machine.running = some job) : job.Endless := by
  have hnil := Due.earliest?_eq_none.mp h
  obtain ⟨hdues, hcome, hun⟩ : job.dues = [] ∧ t.toCome = [] ∧ t.unmeasured? = none := by
    simpa [dues, timed, hr] using hnil
  obtain ⟨hexit, hout, hexp⟩ : job.exit? = none ∧ job.outputEnd? = none ∧ job.expiry? = none := by
    simpa [Job.dues, and_assoc] using hdues
  constructor
  · have hn : job.settings.compilerTimeout ≠ .nan := by
      intro hnan
      simp [unmeasured?, hr, hnan, hcome] at hun
    have hlimit : Instant.ofLimit? job.settings.compilerTimeout = none := by
      simpa [Job.expiry?] using hexp
    unfold Instant.ofLimit? at hlimit
    split at hlimit <;> simp_all
  · unfold Run.finishedAt?
    cases hx : job.exited with
    | false =>
      have hnone : job.run.exitAfter = none := by simpa [Job.exit?, hx] using hexit
      simp [hnone]
    | true =>
      have hnone : job.run.outputEndsAfter = none := by simpa [Job.outputEnd?, hx] using hout
      simp [hnone]

/-! ## Time limits -/

theorem dues_of_running {t : Timeline} {job : Job} (hr : t.machine.running = some job)
    (hn : job.settings.compilerTimeout ≠ .nan) :
    t.dues = (job.exit?.toList ++ job.outputEnd?.toList) ++ (job.expiry?.toList ++ t.toCome) := by
  simp [dues, timed, unmeasured?, hr, hn, Job.dues]

theorem action_ne_expire_of_toCome {t : Timeline} {due : Due} (h : due ∈ t.toCome) :
    due.action ≠ .expire := by
  rcases List.mem_append.mp h with ha | hc
  · obtain ⟨a, -, rfl⟩ := List.mem_map.mp ha
    exact nofun
  · obtain ⟨a, -, heq⟩ := List.mem_filterMap.mp hc
    obtain ⟨ms, -, rfl⟩ := Option.map_eq_some_iff.mp heq
    exact nofun

theorem action_ne_expire_of_end {job : Job} {due : Due}
    (h : due ∈ job.exit?.toList ++ job.outputEnd?.toList) : due.action ≠ .expire := by
  simp only [List.mem_append, Option.mem_toList, Job.exit?, Job.outputEnd?] at h
  cases hx : job.exited with
  | false =>
    obtain ⟨ms, -, rfl⟩ : ∃ ms, job.run.exitAfter = some ms ∧ ⟨job.after ms, .exit⟩ = due := by
      simpa [hx] using h
    exact nofun
  | true =>
    simp only [hx, if_true, reduceCtorEq, false_or, Option.map_eq_some_iff] at h
    obtain ⟨ms, -, rfl⟩ := h
    exact nofun

/-- The end that a process is to come to, once it has exited or before. -/
theorem mem_end_of_finishedAt {job : Job} {ms : Nat} (h : job.run.finishedAt? = some ms) :
    ∃ due ∈ job.exit?.toList ++ job.outputEnd?.toList, due.instant ≤ job.after ms := by
  obtain ⟨exit, hexit, hmap⟩ := Option.bind_eq_some_iff.mp h
  obtain ⟨out, hout, rfl⟩ := Option.map_eq_some_iff.mp hmap
  cases hx : job.exited with
  | false =>
    refine ⟨⟨job.after exit, .exit⟩, by simp [Job.exit?, hx, hexit], ?_⟩
    exact Nat.add_le_add_left (Nat.mul_le_mul_right _ (Nat.le_max_right _ _)) _
  | true =>
    refine ⟨⟨job.after (max out exit), .outputEnd⟩, ?_, Nat.le_refl _⟩
    simp [Job.outputEnd?, hx, hexit, hout]

/-- A process that is cut off has not come to its end when its time is up. -/
theorem not_inTime_of_expire {t : Timeline} {due : Due} {job : Job}
    (h : Due.earliest? t.dues = some due) (ha : due.action = .expire)
    (hr : t.machine.running = some job) (hn : job.settings.compilerTimeout ≠ .nan) :
    ¬ job.run.InTime job.settings.compilerTimeout := by
  intro hin
  have hmem := Due.earliest?_mem h
  rw [dues_of_running hr hn] at h hmem
  have hfirst : due ∉ job.exit?.toList ++ job.outputEnd?.toList :=
    fun hd => action_ne_expire_of_end hd ha
  have hexp : due ∈ job.expiry?.toList := by
    rcases List.mem_append.mp hmem with hd | hd
    · exact absurd hd hfirst
    · exact (List.mem_append.mp hd).resolve_right fun hd => action_ne_expire_of_toCome hd ha
  obtain ⟨limit, hlimit, rfl⟩ := Option.map_eq_some_iff.mp (Option.mem_toList.mp hexp)
  -- The end of the process was due as well, and ends come before limits at the same instant.
  obtain ⟨ms, hms, hle⟩ := hin limit hlimit
  obtain ⟨e, he, hend⟩ := mem_end_of_finishedAt hms
  have hlt := Due.earliest?_lt h hfirst he
  exact Nat.lt_irrefl _ <| Nat.lt_of_lt_of_le hlt <|
    Nat.le_trans hend (Nat.add_le_add_left hle job.since)

/-- A process whose output ends first has come to its end when its time is up. -/
theorem inTime_of_outputEnd {t : Timeline} {due : Due} {job : Job} {exit : Nat}
    (h : Due.earliest? t.dues = some due) (ha : due.action = .outputEnd)
    (hr : t.machine.running = some job) (hx : job.run.exitAfter = some exit) :
    job.run.InTime job.settings.compilerTimeout := by
  intro limit hlimit
  have hexp : ⟨job.since + limit, .expire⟩ ∈ t.dues := by
    simp [dues, timed, hr, Job.dues, Job.expiry?, hlimit]
  have hle := Due.earliest?_le h hexp
  cases source_of_mem (Due.earliest?_mem h) with
  | @outputEnd job' ms runs dead set =>
    obtain rfl : job' = job := Option.some.inj (runs.symm.trans hr)
    refine ⟨max ms exit, by simp [Run.finishedAt?, hx, set], ?_⟩
    simp only [hx, Option.getD_some] at hle
    exact Nat.le_of_add_le_add_left hle
  | _ => cases ha

end Timeline

/-! ## Tasks in play -/

theorem map_filter_ne_eq_erase {α : Type} {f : α → Nat} {items : List α}
    (hn : (items.map f).Nodup) (k : Nat) :
    (items.filter (f · != k)).map f = (items.map f).erase k := by
  rw [hn.erase_eq_filter, List.filter_map]
  rfl

/-- The task that an action brings. -/
def Action.brings : Action → List Nat
  | .deliver task _ => [task]
  | _ => []

namespace Machine

/-- The tasks that have ended, that of the hover that compiles, and those of the hovers that
wait. -/
def tasks (m : Machine) : List Nat :=
  m.outcomes.map (·.1) ++ ((m.running.map (·.ticket.task)).toList ++ m.waiting.map (·.task))

theorem Entry.tasks_perm {m m' : Machine} {t : Ticket} {queue : List Ticket}
    (h : Entry { m with waiting := queue } t m') (hr : m.running = none)
    (hw : m.waiting = t :: queue) : m'.tasks.Perm m.tasks := by
  cases h <;> simp [tasks, hr, hw, newJob]

theorem advance_tasks (m : Machine) : m.advance.tasks.Perm m.tasks := by
  refine advance_induct (P := fun m' => m'.tasks.Perm m.tasks) ?_ (.refl _)
  intro m' t queue hr hw h
  exact ((entry _ t).tasks_perm hr hw).trans h

theorem Leaves.brings {m : Machine} {job : Job} {action : Action} {moments : List Moment}
    {ending : Ending} (h : Leaves m job action moments ending) : action.brings = [] := by
  cases h <;> rfl

theorem Idle.brings {m : Machine} {action : Action} (h : m.Idle action) : action.brings = [] := by
  cases action with
  | deliver task request => cases h
  | _ => rfl

/-- An action only moves tasks about, and may bring one. -/
theorem Response.tasks {m m' : Machine} {action : Action} (h : Response m action m')
    (hn : m.tasks.Nodup) : m'.tasks.Perm (action.brings ++ m.tasks) := by
  cases h with
  | absorbed | dismissed => simp [Machine.tasks, Action.brings]
  | queued =>
    simp only [Machine.tasks, List.map_append, List.map_cons, List.map_nil, ← List.append_assoc]
    exact List.perm_append_singleton _ _
  | exited hr => simp [Machine.tasks, Action.brings, hr]
  | left hr hl => simp [Machine.tasks, hl.brings, hr]
  | @dequeued task hr hw =>
    have hmem : task ∈ m.waiting.map (·.task) := by
      obtain ⟨t, ht, rfl⟩ := hw
      exact List.mem_map_of_mem ht
    have hnodup : (m.waiting.map (·.task)).Nodup :=
      (List.nodup_append.mp (List.nodup_append.mp hn).2.1).2.1
    have herase : (m.waiting.filter (·.task != task)).map (·.task) =
        (m.waiting.map (·.task)).erase task := map_filter_ne_eq_erase hnodup task
    simp only [Machine.tasks, herase, List.map_append, List.map_cons, List.map_nil,
      List.append_assoc, List.singleton_append, Action.brings, List.nil_append]
    refine List.Perm.append_left _ ?_
    refine List.perm_middle.symm.trans ?_
    exact List.Perm.append_left _ (List.perm_cons_erase hmem).symm
  | idle hi => simp [hi.brings]

theorem happen_tasks {m : Machine} (hs : m.Settled) (hn : m.tasks.Nodup) (due : Due) :
    (m.happen due).tasks.Perm (due.action.brings ++ m.tasks) := by
  rw [happen_eq hs]
  exact (advance_tasks _).trans ((response { m with now := due.instant } due.action).tasks hn)

end Machine

namespace Timeline

/-- The tasks in play and those to come are all distinct. -/
def Distinct (t : Timeline) : Prop :=
  (t.machine.tasks ++ t.arrivals.map (·.task)).Nodup

theorem Source.arrivals_perm {t : Timeline} {due : Due} (h : t.Source due)
    (hn : (t.arrivals.map (·.task)).Nodup) :
    (due.action.brings ++ (t.take due).arrivals.map (·.task)).Perm
      (t.arrivals.map (·.task)) := by
  cases h with
  | @arrival a mem =>
    have herase : (t.arrivals.filter (·.task != a.task)).map (·.task) =
        (t.arrivals.map (·.task)).erase a.task := map_filter_ne_eq_erase hn a.task
    simp only [take, Arrival.delivery, Action.brings, herase, List.singleton_append]
    exact (List.perm_cons_erase (List.mem_map_of_mem mem)).symm
  | _ => exact .refl _

theorem Source.distinct {t : Timeline} {due : Due} (h : t.Source due)
    (hs : t.machine.Settled) (hd : t.Distinct) : (t.take due).Distinct := by
  obtain ⟨htasks, harrivals, -⟩ := List.nodup_append.mp hd
  have hm := Machine.happen_tasks hs htasks due
  have ha := h.arrivals_perm harrivals
  unfold Distinct
  rw [take_machine]
  refine (List.Perm.nodup_iff ?_).mpr hd
  -- What the machine gains is what the messages to come lose.
  refine (hm.append_right _).trans ?_
  rw [List.append_assoc]
  exact (List.perm_append_comm_assoc _ _ _).trans (ha.append_left _)

theorem Runs.distinct {t t' : Timeline} (h : Runs t t') (hs : t.machine.Settled)
    (hd : t.Distinct) : t'.Distinct := by
  refine (h.keep (P := fun t => t.machine.Settled ∧ t.Distinct) ?_ ⟨hs, hd⟩).2
  rintro _ _ ⟨hdue⟩ ⟨hs, hd⟩
  refine ⟨?_, (source_of_mem (Due.earliest?_mem hdue)).distinct hs hd⟩
  rw [take_machine]
  exact Machine.happen_settled hs _

theorem Runs.arrivals_subset {t t' : Timeline} (h : Runs t t') : t'.arrivals ⊆ t.arrivals := by
  induction h with
  | refl => exact fun _ h => h
  | tail _ hnext ih =>
    cases hnext
    refine fun a ha => ih ?_
    unfold take at ha
    split at ha
    · exact (List.mem_filter.mp ha).1
    · exact ha

/-- No message with this task is ever cancelled. -/
def Uncancelled (t : Timeline) (task : Nat) : Prop :=
  ∀ a, a ∈ t.started ∨ a ∈ t.arrivals → a.task = task → a.cancelAfter = none

theorem Runs.uncancelled {t t' : Timeline} {task : Nat} (h : Runs t t')
    (hu : t.Uncancelled task) : t'.Uncancelled task := by
  refine h.keep (P := fun t => t.Uncancelled task) ?_ hu
  rintro t _ ⟨-⟩ hu a hmem
  refine hu a ?_
  unfold take at hmem
  split at hmem
  · simp only [List.mem_append, List.mem_filter] at hmem
    rcases hmem with (hs | hnew) | hrest
    · exact .inl hs
    · exact .inr hnew.1
    · exact .inr hrest.1
  · exact hmem

theorem Source.ne_cancel {t : Timeline} {due : Due} {task : Nat} (h : t.Source due)
    (hu : t.Uncancelled task) : due.action ≠ .cancel task := by
  intro ha
  cases h with
  | cancellation mem flight set =>
    have hnone := hu _ (.inl mem) (by simpa using ha)
    simp [set] at hnone
  | _ => cases ha

end Timeline

end ChapelServer
