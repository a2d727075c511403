import ChapelServer.Proofs.Session.Outcome
import ChapelServer.Proofs.Session.Withdrawal

/-!
# Courses of the timeline

What happens in a run of the timeline, each at its instant, is its course. If a hover is cancelled
while it waits, the course without that hover is the same at the same instants, but for the
delivery and the cancellation of the hover itself.
-/

namespace ChapelServer

/-! ## What is due first among some -/

namespace Due

theorem foldl_earlier_eq {due d : Due} {before after : List Due} (h : due.Leads before after)
    (hd : due.instant < d.instant) : (before ++ due :: after).foldl earlier d = due := by
  induction before generalizing d with
  | nil =>
    have hearlier : earlier d due = due := if_pos hd
    rw [List.nil_append, List.foldl_cons, hearlier]
    exact Option.some.inj (earliest?_cons h.notLater)
  | cons e before ih =>
    have he := h.sooner e List.mem_cons_self
    have hlt : due.instant < (earlier d e).instant := by
      unfold earlier
      split
      · exact he
      · exact hd
    exact ih ⟨fun x hx => h.sooner x (List.mem_cons_of_mem _ hx), h.notLater⟩ hlt

theorem Leads.earliest? {due : Due} {before after : List Due} (h : due.Leads before after) :
    Due.earliest? (before ++ due :: after) = some due := by
  cases before with
  | nil => exact earliest?_cons h.notLater
  | cons d before =>
    refine congrArg some (foldl_earlier_eq ?_ (h.sooner d List.mem_cons_self))
    exact ⟨fun x hx => h.sooner x (List.mem_cons_of_mem _ hx), h.notLater⟩

/-- The earliest of all is the earliest of any of them that it is among. -/
theorem earliest?_filter {dues : List Due} {due : Due} (h : earliest? dues = some due)
    {p : Due → Bool} (hp : p due = true) : earliest? (dues.filter p) = some due := by
  obtain ⟨before, after, rfl, hl⟩ := earliest?_leads h
  rw [List.filter_append, List.filter_cons_of_pos hp]
  exact Leads.earliest? ⟨fun e he => hl.sooner e (List.mem_filter.mp he).1,
    fun e he => hl.notLater e (List.mem_filter.mp he).1⟩

/-- This is the delivery or the cancellation of a task. -/
def isOf (task : Nat) (due : Due) : Bool :=
  match due.action with
  | .deliver other _ | .cancel other => other == task
  | _ => false

@[simp] theorem isOf_cancel (task instant other : Nat) :
    isOf task ⟨instant, .cancel other⟩ = (other == task) := rfl

theorem isOf_eq_false {task : Nat} {due : Due} (hk : task ∉ due.action.brings)
    (hc : due.action ≠ .cancel task) : due.isOf task = false := by
  unfold isOf
  split
  · rename_i other request ha
    rw [ha] at hk
    exact beq_false_of_ne fun h => hk (List.mem_singleton.mpr h.symm)
  · rename_i other ha
    exact beq_false_of_ne fun h => hc (h ▸ ha)
  · rfl

theorem not_mem_brings {task : Nat} {due : Due} (h : due.isOf task = false) :
    task ∉ due.action.brings := by
  intro hmem
  unfold isOf at h
  cases ha : due.action with
  | deliver other request =>
    rw [ha] at hmem h
    simp [List.mem_singleton.mp hmem] at h
  | _ =>
    rw [ha] at hmem
    cases hmem

end Due

/-! ## Settings of the hover that compiles -/

namespace Machine

variable {P : Settings → Prop} {m m' : Machine}

theorem Response.settings {action : Action} (h : Response m action m')
    (hrun : ∀ job, m.running = some job → P job.settings) :
    ∀ job, m'.running = some job → P job.settings := by
  intro job hjob
  cases h with
  | exited hr =>
    have hold := hrun _ hr
    cases hjob
    exact hold
  | left => cases hjob
  | _ => exact hrun job hjob

theorem Entry.settings {t : Ticket} (h : Entry m t m') (free : m.running = none)
    (hforce : P m.inForce) : ∀ job, m'.running = some job → P job.settings := by
  intro job hjob
  cases h with
  | started =>
    cases hjob
    exact hforce
  | _ => simp [free] at hjob

/-- The hover that compiles does so with settings that have been in force. -/
theorem happen_settings (hs : m.Settled) (due : Due) (hforce : P (m.happen due).inForce)
    (hrun : ∀ job, m.running = some job → P job.settings) :
    ∀ job, (m.happen due).running = some job → P job.settings := by
  rw [happen_eq hs] at hforce ⊢
  rw [inForce, advance_server] at hforce
  refine (advance_induct (P := fun m' => P m'.inForce ∧
    ∀ job, m'.running = some job → P job.settings) ?_
    ⟨hforce, (response { m with now := due.instant } due.action).settings hrun⟩).2
  rintro m' t queue free _ ⟨hforce, -⟩
  have hentry := entry { m' with waiting := queue } t
  refine ⟨?_, hentry.settings free hforce⟩
  rw [inForce, hentry.server_eq]
  exact hforce

end Machine

/-! ## Courses -/

namespace Timeline

/-- All that happens, in order, from one timeline to another. -/
inductive Course : Timeline → List Due → Timeline → Prop
  | nil {t : Timeline} : Course t [] t
  | cons {t u : Timeline} {due : Due} {dues : List Due} (first : Due.earliest? t.dues = some due)
    (rest : Course (t.take due) dues u) : Course t (due :: dues) u

theorem Runs.course {t u : Timeline} (h : Runs t u) : ∃ dues, Course t dues u := by
  induction h using Relation.ReflTransGen.head_induction_on with
  | refl => exact ⟨[], .nil⟩
  | head hnext _ ih =>
    obtain ⟨first⟩ := hnext
    obtain ⟨dues, hcourse⟩ := ih
    exact ⟨_ :: dues, .cons first hcourse⟩

theorem Course.runs {t u : Timeline} {dues : List Due} (h : Course t dues u) : Runs t u := by
  induction h with
  | nil => exact .refl
  | cons first _ ih => exact .head (.take first) ih

theorem Course.append {t u v : Timeline} {first second : List Due} (h : Course t first u)
    (h' : Course u second v) : Course t (first ++ second) v := by
  induction h with
  | nil => exact h'
  | cons due _ ih => exact .cons due (ih h')

theorem Course.split {t v : Timeline} {first second : List Due} (h : Course t (first ++ second) v) :
    ∃ u, Course t first u ∧ Course u second v := by
  induction first generalizing t with
  | nil => exact ⟨t, .nil, h⟩
  | cons due first ih =>
    cases h with
    | cons hdue hrest =>
      obtain ⟨u, hfirst, hsecond⟩ := ih hrest
      exact ⟨u, .cons hdue hfirst, hsecond⟩

theorem Course.machine {t u : Timeline} {dues : List Due} (h : Course t dues u) :
    u.machine = t.machine.runs dues := by
  induction h with
  | nil => rfl
  | cons first _ ih => rw [ih, take_machine, Machine.runs_cons]

/-- Each message is delivered once. -/
theorem Course.brings {t u : Timeline} {dues : List Due} (h : Course t dues u)
    (hn : (t.arrivals.map (·.task)).Nodup) :
    (dues.flatMap (·.action.brings) ++ u.arrivals.map (·.task)).Perm
      (t.arrivals.map (·.task)) := by
  induction h with
  | nil => exact .refl _
  | cons first _ ih =>
    have hperm := (source_of_mem (Due.earliest?_mem first)).arrivals_perm hn
    have hrest := ih (List.nodup_append.mp (hperm.nodup_iff.mpr hn)).2.1
    rw [List.flatMap_cons, List.append_assoc]
    exact (hrest.append_left _).trans hperm

/-- Who is not in flight and does not come is not cancelled. -/
theorem Course.ne_cancel {t u : Timeline} {dues : List Due} {task : Nat} (h : Course t dues u)
    (hs : t.machine.Settled) (hm : t.machine.Traced) (hl : task ∉ t.machine.line)
    (hk : ∀ due ∈ dues, task ∉ due.action.brings) : ∀ due ∈ dues, due.action ≠ .cancel task := by
  induction h with
  | nil => exact nofun
  | @cons t u due dues first _ ih =>
    have hline : task ∉ (t.machine.runs [due]).line :=
      Machine.not_mem_line_runs hs hl (by simpa using hk due List.mem_cons_self)
    have hrest := ih (take_machine t due ▸ Machine.happen_settled hs due)
      (take_machine t due ▸ Machine.happen_traced hs due hm) (take_machine t due ▸ hline)
      fun d hd => hk d (List.mem_cons_of_mem _ hd)
    intro d hd
    rcases List.mem_cons.mp hd with rfl | hd
    · intro ha
      cases source_of_mem (Due.earliest?_mem first) with
      | cancellation mem flight set =>
        obtain rfl := Action.cancel.inj ha
        rcases Bool.or_eq_true_iff.mp flight with hany | hany
        · obtain ⟨ticket, hmem, htask⟩ := List.any_eq_true.mp hany
          exact hl (List.mem_append_right _ (List.mem_map.mpr ⟨ticket, hmem, by simpa using htask⟩))
        · obtain ⟨job, hjob, htask⟩ := (Option.any_eq_true ..).mp hany
          exact hm.running_ne (fun hin => hl (List.mem_append_left _ hin)) job hjob
            (by simpa using htask)
      | _ => cases ha
    · exact hrest d hd

/-! ## The timeline without a hover -/


/-- The limit of every process that runs is a number. One that is no number has no instant of its
own, and is reached when something else happens. -/
def Measured (t : Timeline) : Prop :=
  ∀ u, Runs t u → ∀ job, u.machine.running = some job → job.settings.compilerTimeout ≠ .nan

theorem Measured.of_runs {t u : Timeline} (h : t.Measured) (hruns : Runs t u) : u.Measured :=
  fun v hv => h v (hruns.trans hv)

/-- If no message brings settings, it is enough that those in force have such a limit. -/
theorem measured_of_keepsSettings {t : Timeline} (rest : t.machine.Resting)
    (hforce : t.machine.inForce.compilerTimeout ≠ .nan)
    (hkeep : ∀ a ∈ t.arrivals, a.request.keepsSettings) : t.Measured := by
  intro u hruns
  refine (hruns.keep (P := fun u => u.machine.Settled ∧
    (u.machine.inForce.compilerTimeout ≠ .nan ∧
      ∀ job, u.machine.running = some job → job.settings.compilerTimeout ≠ .nan) ∧
    ∀ a ∈ u.arrivals, a.request.keepsSettings) ?_
    ⟨rest.settled, ⟨hforce, by simp [rest.running]⟩, hkeep⟩).2.1.2
  rintro t _ ⟨first⟩ ⟨hs, ⟨hforce, hlimit⟩, hkeep⟩
  rename_i due
  have hnext : Runs t (t.take due) := .single (.take first)
  refine ⟨hnext.settled hs, ?_, fun a ha => hkeep a (hnext.arrivals_subset ha)⟩
  have hkeeps : due.keepsSettings := by
    cases source_of_mem (Due.earliest?_mem first) with
    | arrival mem => exact hkeep _ mem
    | _ => rfl
  have hforce' : (t.machine.happen due).inForce.compilerTimeout ≠ .nan := by
    rwa [Machine.inForce, Machine.happen_pipeline hs hkeeps]
  rw [take_machine]
  exact ⟨hforce', Machine.happen_settings (P := (·.compilerTimeout ≠ .nan)) hs due hforce' hlimit⟩

theorem dues_eq_timed {t : Timeline}
    (hn : ∀ job, t.machine.running = some job → job.settings.compilerTimeout ≠ .nan) :
    t.dues = t.timed := by
  have hnone : t.unmeasured? = none := by
    unfold unmeasured?
    split
    · rename_i job hjob
      exact if_neg (hn job hjob)
    · rfl
  rw [dues, hnone, Option.toList_none, List.append_nil]

/-- The second timeline is the first one without the hover of a task. -/
structure Shadows (task : Nat) (t t' : Timeline) : Prop where
  machine : Machine.Unnoticed task t.machine t'.machine
  arrivals : t'.arrivals = t.arrivals.filter (·.task != task)
  started : t'.started = t.started.filter (·.task != task)

variable {task : Nat} {t t' : Timeline}

theorem isOf_jobDues {job : Job} : ∀ due ∈ job.dues, due.isOf task = false := by
  intro due hdue
  simp only [Job.dues, List.mem_append, Option.mem_toList] at hdue
  rcases hdue with (h | h) | h
  · unfold Job.exit? at h
    split at h
    · cases h
    · obtain ⟨ms, -, rfl⟩ := Option.map_eq_some_iff.mp h
      rfl
  · unfold Job.outputEnd? at h
    split at h
    · obtain ⟨ms, -, rfl⟩ := Option.map_eq_some_iff.mp h
      rfl
    · cases h
  · obtain ⟨limit, -, rfl⟩ := Option.map_eq_some_iff.mp h
    rfl

theorem Shadows.inFlight_eq (h : Shadows task t t') {other : Nat} (hne : other ≠ task) :
    inFlight t'.machine other = inFlight t.machine other := by
  obtain ⟨now, hmachine⟩ := h.machine.same
  rw [hmachine]
  unfold inFlight
  rw [← Machine.without_any t.machine hne]
  rfl

/-- The cancellations of the others are the same. -/
theorem Shadows.cancellations_eq (h : Shadows task t t') (started : List Arrival) :
    ((started.filter (·.task != task)).filter (inFlight t'.machine ·.task)).filterMap
        Arrival.cancellation? =
      ((started.filter (inFlight t.machine ·.task)).filterMap Arrival.cancellation?).filter
        fun due => !due.isOf task := by
  rw [List.filter_filterMap, List.filterMap_filter, List.filterMap_filter, List.filterMap_filter]
  congr 1
  funext a
  by_cases ha : a.task = task
  · cases hc : a.cancelAfter <;> simp [Arrival.cancellation?, ha, hc, Option.filter]
  · rw [h.inFlight_eq ha]
    cases hc : a.cancelAfter <;> simp [Arrival.cancellation?, ha, hc, Option.filter]

theorem Shadows.toCome_eq (h : Shadows task t t') :
    t'.toCome = t.toCome.filter fun due => !due.isOf task := by
  rw [toCome, toCome, h.arrivals, h.started, List.filter_append, List.filter_map,
    h.cancellations_eq]
  rfl

/-- The same is due without the hover, but for what concerns it. -/
theorem Shadows.dues_eq (h : Shadows task t t')
    (hn : ∀ job, t.machine.running = some job → job.settings.compilerTimeout ≠ .nan) :
    t'.dues = t.dues.filter fun due => !due.isOf task := by
  have hrunning : t'.machine.running = t.machine.running := by
    obtain ⟨now, hmachine⟩ := h.machine.same
    rw [hmachine]
    rfl
  rw [dues_eq_timed hn, dues_eq_timed (by rwa [hrunning]), timed, timed, hrunning, h.toCome_eq,
    List.filter_append]
  congr 1
  refine (List.filter_eq_self.mpr fun due hdue => ?_).symm
  cases hr : t.machine.running with
  | none => simp [hr] at hdue
  | some job => simp [isOf_jobDues due (by simpa [hr] using hdue)]

/-! ## The two courses side by side -/

/-- What does not concern the hover happens with it and without it. -/
theorem Shadows.take (h : Shadows task t t') (hs : t.machine.Settled) (hm : t.machine.Traced)
    {due : Due} (hd : due.isOf task = false) (hout : task ∉ (t.take due).machine.enteredTasks) :
    Shadows task (t.take due) (t'.take due) := by
  have hk := Due.not_mem_brings hd
  rw [take_machine] at hout
  refine ⟨?_, ?_, ?_⟩
  · rw [take_machine, take_machine]
    exact h.machine.happen hs hm hk hout
  · cases ha : due.action with
    | deliver other request =>
      simp only [Timeline.take, ha, h.arrivals, List.filter_filter, Bool.and_comm]
    | _ => simp only [Timeline.take, ha, h.arrivals]
  · cases ha : due.action with
    | deliver other request =>
      simp only [Timeline.take, ha, h.arrivals, h.started, List.filter_append, List.filter_filter,
        Bool.and_comm]
    | _ => simp only [Timeline.take, ha, h.started]

/-- The hover is asked. -/
theorem Shadows.dispatch (h : Shadows task t t') (hs : t.machine.Settled)
    (hl : task ∉ t.machine.line) {instant : Nat} {request : Request}
    (hw : task ∈ (t.take ⟨instant, .deliver task request⟩).machine.waitingTasks)
    (hout : task ∉ (t.take ⟨instant, .deliver task request⟩).machine.enteredTasks) :
    Shadows task (t.take ⟨instant, .deliver task request⟩) t' := by
  rw [take_machine] at hw hout
  refine ⟨?_, ?_, ?_⟩
  · rw [take_machine]
    exact h.machine.dispatch hs hl hw hout
  · simp only [Timeline.take, h.arrivals, List.filter_filter, Bool.and_self]
  · simp [Timeline.take, h.started, List.filter_filter]

/-- The hover is cancelled while it waits. -/
theorem Shadows.cancel (h : Shadows task t t') (hs : t.machine.Settled) (hm : t.machine.Traced)
    (hout : task ∉ t.machine.enteredTasks) (instant : Nat) :
    Shadows task (t.take ⟨instant, .cancel task⟩) t' := by
  refine ⟨?_, h.arrivals, h.started⟩
  rw [take_machine]
  exact h.machine.cancel hs hm hout instant

/-- A course in which nothing concerns the hover is the same without it. -/
theorem Shadows.course {u : Timeline} {dues : List Due} (hcourse : Course t dues u)
    (h : Shadows task t t') (hmeasured : t.Measured) (hs : t.machine.Settled)
    (hm : t.machine.Traced) (hd : ∀ due ∈ dues, due.isOf task = false)
    (hout : task ∉ u.machine.enteredTasks) : ∃ u', Course t' dues u' ∧ Shadows task u u' := by
  induction hcourse generalizing t' with
  | nil => exact ⟨t', .nil, h⟩
  | @cons t u due dues first rest ih =>
    have hdue := hd due List.mem_cons_self
    have hs' : (t.take due).machine.Settled := take_machine t due ▸ Machine.happen_settled hs due
    have hm' : (t.take due).machine.Traced :=
      take_machine t due ▸ Machine.happen_traced hs due hm
    have hout' : task ∉ (t.take due).machine.enteredTasks := fun hin => by
      rw [rest.machine] at hout
      exact hout (Machine.runs_entered hs' dues hin)
    have hfirst : Due.earliest? t'.dues = some due := by
      rw [h.dues_eq (hmeasured t .refl)]
      exact Due.earliest?_filter first (by simp [hdue])
    obtain ⟨u', hcourse, hshadows⟩ := ih (h.take hs hm hdue hout')
      (hmeasured.of_runs (.single (.take first))) hs' hm'
      (fun d hd' => hd d (List.mem_cons_of_mem _ hd')) hout
    exact ⟨u', .cons hfirst hcourse, hshadows⟩

end Timeline

/-! ## A hover that is asked and cancelled -/

namespace Interlude

variable {m : Machine} {i : Interlude}

theorem Waits.not_mem_line_cut (h : i.Waits m) (rest : m.Resting) :
    i.task ∉ ((m.runs (i.opening ++ i.between)).happen ⟨i.cut, .cancel i.task⟩).line := by
  have hs := Machine.runs_settled rest.settled (i.opening ++ i.between)
  have htraced := Machine.runs_traced rest.settled rest.traced (i.opening ++ i.between)
  have hnot := h.not_entered rest
  rw [Machine.happen_cancel hs (htraced.running_ne hnot)]
  simp [hnot]

/-- It is not cancelled before. -/
theorem Waits.ne_cancel (h : i.Waits m) (rest : m.Resting) :
    ∀ due ∈ i.between, due.action ≠ .cancel i.task := by
  intro due hdue ha
  obtain ⟨first, second, hbetween⟩ := List.append_of_mem hdue
  have hs := Machine.runs_settled rest.settled (i.opening ++ first)
  have htraced := Machine.runs_traced rest.settled rest.traced (i.opening ++ first)
  have hk : ∀ d ∈ second, i.task ∉ d.action.brings := fun d hd =>
    h.between d (hbetween ▸ List.mem_append_right _ (List.mem_cons_of_mem _ hd))
  have hsplit : m.runs (i.opening ++ i.between) =
      (m.runs (i.opening ++ first)).runs (due :: second) := by
    rw [hbetween, ← List.append_assoc, Machine.runs_append]
  have hnot : i.task ∉ (m.runs (i.opening ++ first)).enteredTasks := fun hin =>
    h.not_entered rest (hsplit ▸ Machine.runs_entered hs _ hin)
  have hwaits := h.waits
  rw [hsplit] at hwaits
  obtain ⟨instant, action⟩ := due
  obtain rfl : action = .cancel i.task := ha
  exact ((Machine.inTurn hs _).skipped rfl (htraced.running_ne hnot) hnot
    (Machine.not_mem_dispatched hk)).2 hwaits

/-- All that concerns the hover is its delivery and its cancellation. -/
theorem filter_dues (hquiet : ∀ due ∈ i.others, due.isOf i.task = false) :
    (i.dues.filter fun due => !due.isOf i.task) = i.others := by
  have hkeep : ∀ dues : List Due, (∀ due ∈ dues, due ∈ i.others) →
      (dues.filter fun due => !due.isOf i.task) = dues := fun dues hdues =>
    List.filter_eq_self.mpr fun due hdue => by simp [hquiet due (hdues due hdue)]
  have hbefore := hkeep i.before fun due hdue => List.mem_append_left _ hdue
  have hrest := hkeep (i.between ++ i.after) fun due hdue => List.mem_append_right _ hdue
  have hask : Due.isOf i.task ⟨i.asked, .deliver i.task i.request⟩ = true := beq_self_eq_true _
  rw [List.filter_append] at hrest
  simp only [dues, opening, others, List.filter_append, List.filter_cons, hbefore, hask,
    Due.isOf_cancel, beq_self_eq_true, Bool.not_true, Bool.false_eq_true, if_false,
    List.filter_nil, List.append_nil, hrest]

end Interlude

namespace Timeline

variable {t t' u : Timeline} {i : Interlude}

/-- Nothing else in a course concerns the hover. -/
theorem Course.isOf_others (h : Course t i.dues u) (rest : t.machine.Resting)
    (hwaits : i.Waits t.machine) : ∀ due ∈ i.others, due.isOf i.task = false := by
  refine fun due hdue => Due.isOf_eq_false (hwaits.once due hdue) ?_
  rw [Interlude.dues, ← List.append_assoc] at h
  obtain ⟨v, hopening, hcut⟩ := h.split
  rcases List.mem_append.mp hdue with hd | hd
  · rw [Interlude.opening, List.append_assoc] at hopening
    obtain ⟨w, hbefore, -⟩ := hopening.split
    exact hbefore.ne_cancel rest.settled rest.traced rest.not_mem_line hwaits.before due hd
  · rcases List.mem_append.mp hd with hd | hd
    · exact hwaits.ne_cancel rest due hd
    · have hs := Machine.runs_settled rest.settled (i.opening ++ i.between)
      have htraced := Machine.runs_traced rest.settled rest.traced (i.opening ++ i.between)
      have hline := hwaits.not_mem_line_cut rest
      rw [← hopening.machine] at hs htraced hline
      cases hcut with | cons first hafter
      exact hafter.ne_cancel (take_machine v _ ▸ Machine.happen_settled hs _)
        (take_machine v _ ▸ Machine.happen_traced hs _ htraced) (take_machine v _ ▸ hline)
        hwaits.after due hd

/-- The course with the hover and the one without it. -/
theorem Shadows.interlude (h : Shadows i.task t t') (rest : t.machine.Resting)
    (hwaits : i.Waits t.machine) (hcourse : Course t i.dues u) (hmeasured : t.Measured) :
    ∃ u', Course t' i.others u' ∧ Shadows i.task u u' := by
  have hquiet := hcourse.isOf_others rest hwaits
  have hs := Machine.runs_settled rest.settled
  have htraced := Machine.runs_traced rest.settled rest.traced
  have hnever := (hwaits.never rest).1
  rw [← hcourse.machine] at hnever
  obtain ⟨t₂, hopening, hrest⟩ := hcourse.split
  obtain ⟨t₃, hbetween, hcut⟩ := hrest.split
  have ht₂ := hopening.machine
  have ht₃ := (hopening.append hbetween).machine
  obtain ⟨t₁, hbefore, hask⟩ := hopening.split
  have ht₁ := hbefore.machine
  -- up to the delivery
  obtain ⟨v₁, hcourse₁, h₁⟩ := h.course hbefore hmeasured rest.settled rest.traced
    (fun due hdue => hquiet due (List.mem_append_left _ hdue)) (by
      rw [ht₁]
      exact fun hin => hwaits.not_mem_line rest (List.mem_append_left _ hin))
  cases hask with | cons _ hnil
  cases hnil
  have h₂ : Shadows i.task (t₁.take ⟨i.asked, .deliver i.task i.request⟩) v₁ := by
    refine h₁.dispatch (ht₁ ▸ hs _) (ht₁ ▸ hwaits.not_mem_line rest) ?_ ?_
    · rw [ht₂]
      exact hwaits.queued rest
    · rw [ht₂]
      exact hwaits.not_entered_opening rest
  -- up to the cancellation
  obtain ⟨v₂, hcourse₂, h₃⟩ := h₂.course hbetween (hmeasured.of_runs hopening.runs)
    (ht₂ ▸ hs _) (ht₂ ▸ htraced _)
    (fun due hdue => hquiet due (List.mem_append_right _ (List.mem_append_left _ hdue)))
    (ht₃ ▸ hwaits.not_entered rest)
  cases hcut with | cons first hafter
  have h₄ := h₃.cancel (ht₃ ▸ hs _) (ht₃ ▸ htraced _) (ht₃ ▸ hwaits.not_entered rest) i.cut
  -- and to the end
  obtain ⟨v₃, hcourse₃, h₅⟩ := h₄.course hafter
    (hmeasured.of_runs ((hopening.append hbetween).runs.tail (.take first)))
    (take_machine t₃ _ ▸ Machine.happen_settled (ht₃ ▸ hs _) _)
    (take_machine t₃ _ ▸ Machine.happen_traced (ht₃ ▸ hs _) _ (ht₃ ▸ htraced _))
    (fun due hdue => hquiet due (List.mem_append_right _ (List.mem_append_right _ hdue))) hnever
  exact ⟨v₃, hcourse₁.append (hcourse₂.append hcourse₃), h₅⟩

/-- A hover is cancelled while it waits. -/
def CutsWaiter (t : Timeline) (task : Nat) : Prop :=
  ∃ u cut, Runs t u ∧ Due.earliest? u.dues = some ⟨cut, .cancel task⟩ ∧
    task ∈ u.machine.waitingTasks

theorem mem_dispatched_of_waits {task : Nat} {dues : List Due} (rest : t.machine.Resting)
    (hcourse : Course t dues u) (hw : task ∈ u.machine.waitingTasks) : task ∈ dispatched dues := by
  have hline : task ∈ (t.machine.runs dues).line := by
    rw [← hcourse.machine]
    exact List.mem_append_right _ hw
  rcases List.mem_append.mp ((Machine.runs_line rest.settled dues).subset hline) with h | h
  · exact absurd h rest.not_mem_line
  · exact h

/-- A message that is delivered is delivered only once. -/
theorem Course.once {task : Nat} {before rest : List Due} {instant : Nat} {request : Request}
    (h : Course t (before ++ ⟨instant, .deliver task request⟩ :: rest) u)
    (hn : (t.arrivals.map (·.task)).Nodup) :
    ∀ due ∈ before ++ rest, task ∉ due.action.brings := by
  have hnodup := (List.nodup_append.mp ((h.brings hn).nodup_iff.mpr hn)).1
  rw [List.flatMap_append, List.flatMap_cons, Action.brings, List.singleton_append] at hnodup
  have hnot := (List.nodup_cons.mp (List.nodup_middle.mp hnodup)).1
  rw [← List.flatMap_append] at hnot
  exact fun due hdue hmem => hnot (List.mem_flatMap.mpr ⟨due, hdue, hmem⟩)

/-- A hover that is cancelled while it waits was asked before, and only once. -/
theorem CutsWaiter.interlude {task : Nat} (h : t.CutsWaiter task) (rest : t.machine.Resting)
    (hn : (t.arrivals.map (·.task)).Nodup) :
    ∃ i : Interlude, i.task = task ∧ i.Waits t.machine ∧ Course t i.dues t.finish := by
  obtain ⟨u, cut, hruns, first, hw⟩ := h
  obtain ⟨dues, hcourse⟩ := hruns.course
  obtain ⟨asked, request, hask⟩ :=
    Machine.mem_dispatched (mem_dispatched_of_waits rest hcourse hw)
  obtain ⟨before, between, rfl⟩ := List.append_of_mem hask
  have hend : Runs (u.take ⟨cut, .cancel task⟩) t.finish :=
    Runs.run (hruns.tail (.take first)) (finish_over rest.running rest.waiting)
  obtain ⟨after, hafter⟩ := hend.course
  have hwhole : Course t (before ++ ⟨asked, .deliver task request⟩ ::
      (between ++ ⟨cut, .cancel task⟩ :: after)) t.finish := by
    simpa using hcourse.append (.cons first hafter)
  refine ⟨⟨task, request, asked, cut, before, between, after⟩, rfl, ⟨fun due hdue => ?_, ?_⟩, ?_⟩
  · have hsub : (before ++ (between ++ after)).Sublist
        (before ++ (between ++ ⟨cut, .cancel task⟩ :: after)) :=
      ((List.sublist_cons_self _ after).append_left between).append_left before
    exact hwhole.once hn due (hsub.subset hdue)
  · rw [hcourse.machine] at hw
    simpa [Interlude.opening] using hw
  · simpa [Interlude.dues, Interlude.opening] using hwhole

theorem Over.eq_of_runs {t u : Timeline} (h : t.Over) (hruns : Runs t u) : u = t := by
  cases hruns.cases_head with
  | inl heq => exact heq.symm
  | inr hnext =>
    obtain ⟨v, ⟨first⟩, -⟩ := hnext
    simp [show Due.earliest? t.dues = none from h] at first

/-- Whenever a hover is cancelled while it waits, nobody else can tell that it was there: not in
any order of happenings, and not by the clock, by which all the others happen at the same instants
with the hover as without it. The clock asks for limits that are numbers: any other is reached with
whatever is due next, be it the cancellation of this hover. -/
theorem cancelled_waiter_invisible {m : Machine} (rest : m.Resting) :
    (∀ i : Interlude, i.Waits m →
      Machine.Invisible i.task (m.runs i.dues) (m.runs i.others)) ∧
    ∀ (arrivals : List Arrival) (task : Nat), (arrivals.map (·.task)).Nodup →
      Measured { machine := m, arrivals } → CutsWaiter { machine := m, arrivals } task →
      ∃ dues, Course { machine := m, arrivals } dues (finish { machine := m, arrivals }) ∧
        Course { machine := m, arrivals := arrivals.filter (·.task != task) }
          (dues.filter fun due => !due.isOf task)
          (finish { machine := m, arrivals := arrivals.filter (·.task != task) }) ∧
        Machine.Invisible task (finish { machine := m, arrivals }).machine
          (finish { machine := m, arrivals := arrivals.filter (·.task != task) }).machine := by
  refine ⟨fun i hi => hi.invisible rest, fun arrivals task hn hmeasured hcut => ?_⟩
  obtain ⟨i, rfl, hwaits, hcourse⟩ := hcut.interlude rest hn
  have hstart : Shadows i.task { machine := m, arrivals }
      { machine := m, arrivals := arrivals.filter (·.task != i.task) } :=
    ⟨rest.unnoticed, rfl, rfl⟩
  obtain ⟨u, hothers, hshadows⟩ := hstart.interlude rest hwaits hcourse hmeasured
  -- what is left of the run without the hover is nothing
  have hover : u.Over := by
    have hnil := Due.earliest?_eq_none.mp (finish_over (t := { machine := m, arrivals })
      rest.running rest.waiting)
    rw [Over, hshadows.dues_eq (hmeasured _ hcourse.runs), hnil]
    rfl
  obtain rfl := hover.eq_of_runs (Runs.run hothers.runs (finish_over rest.running rest.waiting))
  refine ⟨i.dues, hcourse, ?_, ?_⟩
  · rw [Interlude.filter_dues (hcourse.isOf_others rest hwaits)]
    exact hothers
  · have hinvisible := hwaits.invisible rest
    rwa [← hcourse.machine, ← hothers.machine] at hinvisible

namespace Sample

/-- A host whose compiler takes ten milliseconds. It writes the entry `x[1]:i(1)` to its pass log
the first time and `x[2]:r(2)` afterwards. -/
def slowHost : Host where
  compilers := [("chpl", [
    .runs { exitAfter := some 10, outputEndsAfter := some 10, files :=
      [⟨"log/text_13resolve.ast", .file [120, 91, 49, 93, 58, 105, 40, 49, 41]⟩] },
    .runs { exitAfter := some 10, outputEndsAfter := some 10, files :=
      [⟨"log/text_13resolve.ast", .file [120, 91, 50, 93, 58, 114, 40, 50, 41]⟩] }])]

/-- A hover that is cancelled four milliseconds after it was asked. -/
def impatient : Arrival :=
  { task := 3, start := 1, cancelAfter := some 4, request := .hover false "a" ⟨0, 0⟩ }

def patient : Arrival :=
  { task := 4, start := 2, request := .hover false "a" ⟨0, 0⟩ }

/-- A session with three hovers, the second of which is cancelled while it waits. -/
def busy : Timeline where
  machine := { host := slowHost }
  arrivals := [greeting, opening, asking, impatient, patient]

/-- The same happening in another order, and at other instants. -/
def visit : Interlude where
  task := 3
  request := .hover false "a" ⟨0, 0⟩
  asked := 2
  cut := 3
  before := [greeting.delivery, opening.delivery, asking.delivery,
    ⟨1, .deliver 4 (.hover false "a" ⟨0, 0⟩)⟩]
  between := [⟨2, .exit⟩]
  after := [⟨4, .outputEnd⟩, ⟨5, .exit⟩, ⟨5, .outputEnd⟩]

theorem busy_cutsWaiter : busy.CutsWaiter 3 := by
  have hcancel : (Due.earliest? (busy.run 5).dues).any (fun due =>
      match due.action with
      | .cancel task => task == 3
      | _ => false) = true := by decide +kernel
  obtain ⟨⟨cut, action⟩, first, haction⟩ := (Option.any_eq_true ..).mp hcancel
  split at haction
  · rename_i ha
    obtain rfl : action = _ := ha
    rw [beq_iff_eq.mp haction] at first
    exact ⟨busy.run 5, cut, run_runs 5 busy, first, by decide +kernel⟩
  · cases haction

end Sample

theorem cancelled_waiter_invisible_sample :
    Sample.visit.Waits { host := Sample.slowHost } ∧
      Machine.Invisible 3 (Machine.runs { host := Sample.slowHost } Sample.visit.dues)
        (Machine.runs { host := Sample.slowHost } Sample.visit.others) ∧
      Sample.busy.Measured ∧ Sample.busy.CutsWaiter 3 ∧
      (∃ dues, Course Sample.busy dues Sample.busy.finish ∧
        Course { Sample.busy with arrivals := Sample.busy.arrivals.filter (·.task != 3) }
          (dues.filter fun due => !due.isOf 3)
          (finish { Sample.busy with arrivals := Sample.busy.arrivals.filter (·.task != 3) }) ∧
        Machine.Invisible 3 Sample.busy.finish.machine
          (finish { Sample.busy with
            arrivals := Sample.busy.arrivals.filter (·.task != 3) }).machine) ∧
      Sample.busy.finish.machine.outcomes.lookup 4 =
        some (.hover (some ⟨"```chapel\nx: r(2)\n```", some ⟨⟨0, 0⟩, ⟨0, 1⟩⟩⟩)) := by
  have rest : ({ host := Sample.slowHost } : Machine).Resting := ⟨rfl, rfl, rfl, rfl⟩
  have hvisit : Sample.visit.Waits { host := Sample.slowHost } := ⟨by decide, by decide +kernel⟩
  have hmeasured : Sample.busy.Measured :=
    measured_of_keepsSettings rest (by decide) (by decide)
  obtain ⟨hschedule, hclock⟩ := cancelled_waiter_invisible rest
  exact ⟨hvisit, hschedule _ hvisit, hmeasured, Sample.busy_cutsWaiter,
    hclock Sample.busy.arrivals 3 (by decide) hmeasured Sample.busy_cutsWaiter, by decide +kernel⟩

end Timeline

end ChapelServer
