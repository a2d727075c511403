import ChapelServer.Proofs.Session.Attribution
import ChapelServer.Proofs.Session.Line

/-!
# A hover that is cancelled while it waits

A machine can be looked at without one of its hovers that waits, or that was cancelled while it did:
without its place in the queue, its outcome and the moment of its end. Whatever happens then happens
in the same way with the hover and without it, so that nobody else can tell whether it was there.
-/

namespace ChapelServer

/-- The moment is the end of the task. -/
def Moment.isEndOf (task : Nat) : Moment → Bool
  | .event (.done other) => other == task
  | _ => false

theorem Moment.isEndOf_of_spoken {e : Event} (h : e.isSpoken) (task : Nat) :
    (Moment.event e).isEndOf task = false := by
  cases e <;> simp_all [Event.isSpoken, isEndOf]

/-- The moments without the ends of a task. -/
def withoutEnd (task : Nat) (moments : List Moment) : List Moment :=
  moments.filter fun moment => !moment.isEndOf task

@[simp] theorem withoutEnd_append (task : Nat) (first second : List Moment) :
    withoutEnd task (first ++ second) = withoutEnd task first ++ withoutEnd task second :=
  List.filter_append _ _

theorem withoutEnd_eq_self {task : Nat} {moments : List Moment}
    (h : ∀ x ∈ moments, x.isEndOf task = false) : withoutEnd task moments = moments :=
  List.filter_eq_self.mpr fun x hx => by simp [h x hx]

theorem withoutEnd_spoken_done {task other : Nat} (hne : other ≠ task) {spoken : List Event}
    (h : ∀ e ∈ spoken, e.isSpoken) :
    withoutEnd task ((spoken ++ [Event.done other]).map .event) =
      (spoken ++ [Event.done other]).map .event := by
  refine withoutEnd_eq_self fun x hx => ?_
  obtain ⟨e, he, rfl⟩ := List.mem_map.mp hx
  rcases List.mem_append.mp he with he | he
  · exact Moment.isEndOf_of_spoken (h e he) task
  · rw [List.mem_singleton.mp he]
    simpa [Moment.isEndOf] using hne

theorem withoutEnd_closing {task : Nat} {t : Ticket} (hne : t.task ≠ task) (ending : Ending) :
    withoutEnd task ((t.closing ending).map .event) = (t.closing ending).map .event := by
  obtain ⟨spoken, hspoken, heq⟩ := t.closing_eq ending
  rw [heq]
  exact withoutEnd_spoken_done hne hspoken

namespace Machine

/-- The machine without the hover of a task, which waits or has been cancelled while it did. -/
def without (m : Machine) (task : Nat) : Machine :=
  { m with
    waiting := m.waiting.filter (·.task != task)
    trace := withoutEnd task m.trace
    outcomes := m.outcomes.filter (·.1 != task) }

/-! ## Entering -/

section Enter

variable {task : Nat}

theorem without_record (m : Machine) {moment : Moment} (h : moment.isEndOf task = false) :
    (m.record moment).without task = (m.without task).record moment := by
  have hkept : withoutEnd task [moment] = [moment] := withoutEnd_eq_self (by simpa using h)
  simp [without, record, hkept]

theorem without_note (m : Machine) (notice : Notice) :
    (m.note notice).without task = (m.without task).note notice :=
  without_record m rfl

theorem without_close (m : Machine) {t : Ticket} (hne : t.task ≠ task) (ending : Ending) :
    (m.close t ending).without task = (m.without task).close t ending := by
  simp [close_eq, without, withoutEnd_closing hne, hne]

theorem without_abandon (m : Machine) {t : Ticket} (hne : t.task ≠ task) (n : Nat) (stop : Stop) :
    (m.abandon t n stop).without task = (m.without task).abandon t n stop := by
  rw [abandon, without_close _ hne, removeDirectory, without_record _ rfl]
  rfl

theorem without_spawn (m : Machine) (t : Ticket) (n : Nat) (settings : Settings) (artifact : Path)
    (run : Run) :
    (m.spawn t n settings artifact run).without task =
      (m.without task).spawn t n settings artifact run :=
  without_record { m with processes := _, running := _ } rfl

theorem without_attempted (m : Machine) (n : Nat) (settings : Settings) :
    (m.attempted n settings).without task = (m.without task).attempted n settings :=
  without_note { m with host := _ } _

theorem without_launch (m : Machine) {t : Ticket} (hne : t.task ≠ task) (n : Nat)
    (settings : Settings) (artifact : Path) :
    (m.launch t n settings artifact).without task =
      (m.without task).launch t n settings artifact := by
  cases hr : (m.host.start settings n m.disk).2 with
  | ok run =>
    have hr' : ((m.without task).host.start settings n (m.without task).disk).2 = .ok run := hr
    rw [launch_ok hr, launch_ok hr', without_spawn, without_attempted]
  | error stop =>
    have hr' : ((m.without task).host.start settings n (m.without task).disk).2 = .error stop := hr
    rw [launch_error hr, launch_error hr', without_abandon _ hne, without_attempted]

theorem without_prepare (m : Machine) {t : Ticket} (hne : t.task ≠ task) (n : Nat) :
    (m.prepare t n).without task = (m.without task).prepare t n := by
  have hserver : (m.without task).server = m.server := rfl
  have hdisk : (m.without task).disk = m.disk := rfl
  simp only [prepare, hserver, hdisk]
  split
  · exact without_launch { m with disk := _ } hne _ _ _
  · exact without_abandon { m with disk := _ } hne _ _

theorem without_opened (m : Machine) (t : Ticket) :
    (m.opened t).without task = (m.without task).opened t := by
  have hkept (n : Nat) : withoutEnd task [.entered t.task, .made t.task n] =
      [.entered t.task, .made t.task n] := withoutEnd_eq_self (by simp [Moment.isEndOf])
  simp [without, opened, hkept, nextDirectory]

theorem enter_closed {m : Machine} (hd : m.refusesDirectory = true) (t : Ticket) :
    m.enter t = ({ m with directoryAttempts := m.directoryAttempts + 1 }.record
      (.entered t.task)).close t noDirectory := by
  have hd' : m.directoryAttempts + 1 ∈ m.host.refusedDirectories := by
    simpa [refusesDirectory] using hd
  simp [enter, record, hd', noDirectory]

/-- Others enter in the same way. -/
theorem without_enter (m : Machine) {t : Ticket} (hne : t.task ≠ task) :
    (m.enter t).without task = (m.without task).enter t := by
  cases hd : m.refusesDirectory with
  | true =>
    have hd' : (m.without task).refusesDirectory = true := hd
    rw [enter_closed hd, enter_closed hd', without_close _ hne, without_record _ rfl]
    rfl
  | false =>
    have hd' : (m.without task).refusesDirectory = false := hd
    rw [enter_opened hd, enter_opened hd', without_prepare _ hne, without_opened]
    rfl

theorem serve_cons_some {m : Machine} {t : Ticket} {queue : List Ticket} {job : Job}
    (h : ({ m with waiting := queue }.enter t).running = some job) :
    serve (t :: queue) m = { m with waiting := queue }.enter t := by
  simp only [serve, h]

theorem serve_cons_none {m : Machine} {t : Ticket} {queue : List Ticket}
    (h : ({ m with waiting := queue }.enter t).running = none) :
    serve (t :: queue) m = serve queue ({ m with waiting := queue }.enter t) := by
  simp only [serve, h]

/-- As long as the hover itself does not enter, the others do so in the same way. -/
theorem without_serve {queue : List Ticket} {m : Machine}
    (hout : task ∉ (serve queue m).enteredTasks) :
    (serve queue m).without task = serve (queue.filter (·.task != task)) (m.without task) := by
  induction queue generalizing m with
  | nil => rfl
  | cons t queue ih =>
    have hne : t.task ≠ task := by
      rintro rfl
      exact hout (mem_enteredTasks_serve_head t queue m)
    have henter : ({ m with waiting := queue }.enter t).without task =
        { m.without task with waiting := queue.filter (·.task != task) }.enter t :=
      without_enter { m with waiting := queue } hne
    have hrunning : ({ m.without task with waiting := queue.filter (·.task != task) }.enter
        t).running = ({ m with waiting := queue }.enter t).running := by
      rw [← henter]
      rfl
    rw [List.filter_cons_of_pos (by simpa using hne)]
    cases hr : ({ m with waiting := queue }.enter t).running with
    | some job => rw [serve_cons_some hr, serve_cons_some (hrunning.trans hr), henter]
    | none =>
      rw [serve_cons_none hr] at hout ⊢
      rw [serve_cons_none (hrunning.trans hr), ← henter]
      exact ih hout

theorem without_advance {m : Machine} (hout : task ∉ m.advance.enteredTasks) :
    m.advance.without task = (m.without task).advance := by
  have hrunning : (m.without task).running = m.running := rfl
  unfold advance at hout ⊢
  rw [hrunning]
  split
  · rfl
  · rename_i hfree
    simp only [hfree] at hout
    exact without_serve hout

end Enter

/-! ## What happens -/

section Respond

variable {task : Nat}

theorem without_moments (m : Machine) {moments : List Moment}
    (h : ∀ x ∈ moments, x.isEndOf task = false) :
    ({ m with trace := m.trace ++ moments } : Machine).without task =
      { m.without task with trace := (m.without task).trace ++ moments } := by
  simp [without, withoutEnd_eq_self h]

theorem without_vacate (m : Machine) {job : Job} (hne : job.ticket.task ≠ task)
    (ending : Ending) :
    (m.vacate job ending).without task = (m.without task).vacate job ending := by
  rw [vacate, without_close _ hne, removeDirectory, without_record _ rfl]
  rfl

theorem isEndOf_readMoments (m : Machine) (job : Job) :
    ∀ x ∈ m.readMoments job, x.isEndOf task = false := by
  intro x hx
  rcases List.mem_append.mp hx with hread | hnotice
  · split at hread
    · rw [List.mem_singleton.mp hread]
      rfl
    · simp at hread
  · obtain ⟨e, he, rfl⟩ := List.mem_map.mp hnotice
    exact Moment.isEndOf_of_spoken (missingNotice_spoken m job e he) task

theorem isEndOf_stopEvents (job : Job) (notice : Notice) :
    ∀ x ∈ (stopEvents job notice).map Moment.event, x.isEndOf task = false := by
  cases hx : job.exited <;> simp [stopEvents, hx, Moment.isEndOf]

/-- The section is left in the same way. -/
theorem without_stop (m : Machine) {job : Job} (hne : job.ticket.task ≠ task) (notice : Notice)
    (ending : Ending) :
    (((m.stopProcess job).note notice).vacate job ending).without task =
      (((m.without task).stopProcess job).note notice).vacate job ending := by
  rw [without_vacate _ hne, stopProcess_eq, stopProcess_eq,
    without_moments m (isEndOf_stopEvents job notice)]

theorem without_read (m : Machine) {job : Job} (hne : job.ticket.task ≠ task) (ending : Ending) :
    ((m.readLog job).vacate job ending).without task =
      ((m.without task).readLog job).vacate job ending := by
  rw [without_vacate _ hne, readLog_eq, readLog_eq, without_moments m (isEndOf_readMoments m job)]
  rfl

theorem without_absorb (m : Machine) {other : Nat} (hne : other ≠ task) {handled : Handled}
    (h : ∀ e ∈ handled.events, e.isSpoken) :
    (m.absorb other handled).without task = (m.without task).absorb other handled := by
  simp only [absorb_eq, without, withoutEnd_append, withoutEnd_spoken_done hne h]
  simp [hne]

theorem without_enqueue (m : Machine) {other : Nat} (hne : other ≠ task) (bare : Bool)
    (uri : String) (position : Position) :
    (m.enqueue other bare uri position).without task =
      (m.without task).enqueue other bare uri position := by
  have hserver : (m.without task).server = m.server := rfl
  simp only [enqueue, hserver]
  split
  · simp only [fail_eq, without, withoutEnd_append,
      withoutEnd_spoken_done hne (failureNotice_spoken bare uri _)]
    simp [hne]
  · have hkept : withoutEnd task [.event (.done other)] = [.event (.done other)] :=
      withoutEnd_eq_self (by simpa [Moment.isEndOf] using hne)
    simp [conclude, settle_eq, without, hkept, hne]
  · simp [without, hne]

/-- The hover itself can be taken out of the queue without a difference to the others. -/
theorem without_dequeue_self (m : Machine) :
    (m.dequeue task).without task = m.without task := by
  unfold dequeue
  split
  · have hgone : withoutEnd task [.event (.done task)] = [] := by simp [withoutEnd, Moment.isEndOf]
    simp [settle_eq, without, hgone]
  · rfl

theorem without_any (m : Machine) {other : Nat} (hne : other ≠ task) :
    (m.without task).waiting.any (·.task == other) = m.waiting.any (·.task == other) := by
  simp only [without, List.any_filter]
  congr 1
  funext t
  by_cases ht : t.task = other
  · simp [ht, hne]
  · have hbeq : (t.task == other) = false := by simpa using ht
    simp [hbeq]

theorem without_dequeue_other (m : Machine) {other : Nat} (hne : other ≠ task) :
    (m.dequeue other).without task = (m.without task).dequeue other := by
  have hkept : withoutEnd task [.event (.done other)] = [.event (.done other)] :=
    withoutEnd_eq_self (by simpa [Moment.isEndOf] using hne)
  unfold dequeue
  rw [without_any m hne]
  split
  · simp [settle_eq, without, hkept, hne, Bool.and_comm]
  · rfl

theorem dequeue_without (m : Machine) : (m.without task).dequeue task = m.without task := by
  have hnone : (m.without task).waiting.any (·.task == task) = false := by
    simp [without, List.any_filter]
  simp [dequeue, hnone]

theorem without_withdraw (m : Machine)
    (hr : ∀ job, m.running = some job → job.ticket.task ≠ task) (other : Nat) :
    (m.withdraw other).without task = (m.without task).withdraw other := by
  have hdequeue : (m.dequeue other).without task = (m.without task).dequeue other := by
    by_cases hne : other = task
    · rw [hne, without_dequeue_self, dequeue_without]
    · exact without_dequeue_other m hne
  have hrunning : (m.without task).running = m.running := rfl
  unfold withdraw
  rw [hrunning]
  split
  · rename_i job hjob
    split
    · exact without_stop m (hr job hjob) _ _
    · exact hdequeue
  · exact hdequeue

/-- Whatever does not bring the hover happens in the same way without it. -/
theorem without_respond (m : Machine)
    (hr : ∀ job, m.running = some job → job.ticket.task ≠ task) {action : Action}
    (hk : task ∉ action.brings) :
    (m.respond action).without task = (m.without task).respond action := by
  have hrunning : (m.without task).running = m.running := rfl
  cases action with
  | deliver other request =>
    have hne : other ≠ task := by
      rintro rfl
      exact hk List.mem_cons_self
    cases hh : handled? m.server request with
    | some handled =>
      have hh' : handled? (m.without task).server request = some handled := hh
      rw [respond_absorb hh, respond_absorb hh', without_absorb m hne (handled?_spoken hh)]
    | none =>
      cases request with
      | hover bare uri position => exact without_enqueue m hne bare uri position
      | _ => cases hh
  | exit =>
    simp only [respond, act, hrunning]
    split
    · split
      · rfl
      · exact without_record { m with disk := _, running := _ } rfl
    · rfl
  | outputEnd =>
    simp only [respond, conclusion, hrunning]
    split
    · rename_i job hjob
      split
      · exact without_read m (hr job hjob) _
      · rfl
    · rfl
  | expire =>
    simp only [respond, deadline, hrunning]
    split
    · rename_i job hjob
      exact without_stop m (hr job hjob) _ _
    · rfl
  | cancel other => exact without_withdraw m hr other

end Respond

/-! ## Runs with the hover and without it -/

/-- Who compiles, and who a work directory was made for, has entered. -/
structure Traced (m : Machine) : Prop where
  running : ∀ {job : Job}, m.running = some job → job.ticket.task ∈ m.enteredTasks
  made : ∀ {task n : Nat}, .made task n ∈ m.trace → task ∈ m.enteredTasks

theorem Response.traced {m m' : Machine} {action : Action} (h : Response m action m')
    (hm : m.Traced) : m'.Traced := by
  refine ⟨?_, fun hmade => ?_⟩
  · rw [h.enteredTasks_eq]
    cases h with
    | exited hr =>
      have hentered := hm.running hr
      intro job hjob
      cases hjob
      exact hentered
    | left => exact nofun
    | _ => exact hm.running
  · rw [h.enteredTasks_eq]
    exact hm.made ((h.mem_start_iff rfl).mp hmade)

theorem Entry.traced {m m' : Machine} {t : Ticket} (h : Entry m t m') (free : m.running = none)
    (hm : m.Traced) : m'.Traced := by
  refine ⟨fun {job} hjob => ?_, fun hmade => ?_⟩
  · rw [h.enteredTasks_eq]
    cases h with
    | started =>
      cases hjob
      exact List.mem_append_right _ (List.mem_singleton.mpr rfl)
    | _ => simp [free] at hjob
  · rw [h.enteredTasks_eq]
    rcases h.made hmade with hold | ⟨rfl, -⟩
    · exact List.mem_append_left _ (hm.made hold)
    · exact List.mem_append_right _ (List.mem_singleton.mpr rfl)

theorem Move.traced {m m' : Machine} (h : Move m m') (hm : m.Traced) : m'.Traced := by
  cases h with
  | respond due settled =>
    exact (response { m with now := due.instant } due.action).traced ⟨hm.running, hm.made⟩
  | enter free next => exact (entry _ _).traced free ⟨hm.running, hm.made⟩

theorem happen_traced {m : Machine} (hs : m.Settled) (due : Due) (hm : m.Traced) :
    (m.happen due).Traced :=
  Moves.keep Move.traced (happen_moves hs due) hm

theorem runs_traced {m : Machine} (hs : m.Settled) (hm : m.Traced) (dues : List Due) :
    (m.runs dues).Traced :=
  Moves.keep Move.traced (runs_moves hs dues) hm

variable {task : Nat} {m m' : Machine}

theorem without_settled (hs : m.Settled) (now : Nat) :
    ({ m.without task with now } : Machine).Settled := by
  intro hr
  have hw : m.waiting = [] := hs hr
  simp [without, hw]

theorem Traced.running_ne (hm : m.Traced) (hout : task ∉ m.enteredTasks) :
    ∀ job, m.running = some job → job.ticket.task ≠ task := by
  rintro job hjob rfl
  exact hout (hm.running hjob)

/-- A hover that waits once it is dispatched has just joined the queue. -/
theorem happen_joins (hs : m.Settled) (hl : task ∉ m.line) {instant : Nat} {request : Request}
    (hw : task ∈ (m.happen ⟨instant, .deliver task request⟩).waitingTasks)
    (hout : task ∉ (m.happen ⟨instant, .deliver task request⟩).enteredTasks) :
    ∃ t : Ticket, t.task = task ∧ m.happen ⟨instant, .deliver task request⟩ =
      { m with now := instant, waiting := m.waiting ++ [t] } := by
  have hresponse := response { m with now := instant } (.deliver task request)
  have hline : task ∈ (m.happen ⟨instant, .deliver task request⟩).line :=
    List.mem_append_right _ hw
  have hhappen : m.happen ⟨instant, .deliver task request⟩ =
      ({ m with now := instant }.respond (.deliver task request)).advance := happen_eq hs _
  rw [hhappen, advance_line] at hline
  generalize { m with now := instant }.respond (.deliver task request) = m₁
    at hresponse hhappen hline
  have hwaits : task ∈ m₁.waitingTasks :=
    (List.mem_append.mp hline).resolve_left fun hin => hout (hhappen ▸ advance_entered hin)
  cases hresponse with
  | absorbed | dismissed => exact absurd (List.mem_append_right _ hwaits) hl
  | @queued _ bare uri position question hq =>
    rcases Option.eq_none_or_eq_some m.running with hr | ⟨job, hr⟩
    · exact absurd (mem_enteredTasks_dispatch hs hr instant hq) hout
    · rw [hhappen, advance_of_running]
      · exact ⟨⟨task, bare, uri, question⟩, rfl, rfl⟩
      · exact hr
  | left hr hl => cases hl
  | idle hi => cases hi

/-- A hover that is cancelled while it waits just leaves the queue. -/
theorem happen_leaves (hs : m.Settled) (hm : m.Traced) (hout : task ∉ m.enteredTasks)
    (instant : Nat) :
    m.happen ⟨instant, .cancel task⟩ = { m with now := instant }.dequeue task := by
  have hr := hm.running_ne hout
  have hs' : ({ m with now := instant } : Machine).Settled := hs
  have hwithdraw : { m with now := instant }.withdraw task =
      { m with now := instant }.dequeue task := by
    unfold withdraw
    split
    · rename_i job hjob
      rw [if_neg (hr job hjob)]
    · rfl
  rw [happen_eq hs, respond, hwithdraw]
  exact advance_of_settled (dequeue_settled hs' task)

/-! ## What comes of the hover -/

/-- Nothing has come of a task but that it was cancelled. -/
def OnlyCancelled (m : Machine) (task : Nat) : Prop :=
  ∀ o, (task, o) ∈ m.outcomes → o = .cancelled

theorem Response.onlyCancelled {action : Action} (h : Response m action m')
    (hk : task ∉ action.brings) (hr : ∀ job, m.running = some job → job.ticket.task ≠ task)
    (hm : m.OnlyCancelled task) : m'.OnlyCancelled task := by
  intro o ho
  cases h with
  | absorbed | dismissed =>
    rcases List.mem_append.mp ho with ho | ho
    · exact hm o ho
    · cases List.mem_singleton.mp ho
      exact absurd List.mem_cons_self hk
  | left hr' hl =>
    rcases List.mem_append.mp ho with ho | ho
    · exact hm o ho
    · cases List.mem_singleton.mp ho
      exact absurd rfl (hr _ hr')
  | dequeued =>
    rcases List.mem_append.mp ho with ho | ho
    · exact hm o ho
    · exact congrArg Prod.snd (List.mem_singleton.mp ho)
  | queued | exited | idle => exact hm o ho

theorem OnlyCancelled.advance (hm : m.OnlyCancelled task)
    (hout : task ∉ m.advance.enteredTasks) : m.advance.OnlyCancelled task := by
  refine (advance_induct
    (P := fun m' => task ∈ m'.enteredTasks ∨ m'.OnlyCancelled task) ?_ (.inr hm)).resolve_left hout
  intro m' t queue _ _ h
  have hentry := entry { m' with waiting := queue } t
  rw [hentry.enteredTasks_eq]
  rcases h with hin | hm'
  · exact .inl (List.mem_append_left _ hin)
  · by_cases ht : t.task = task
    · exact .inl (List.mem_append_right _ (List.mem_singleton.mpr ht.symm))
    · refine .inr fun o ho => ?_
      rcases hentry.ended ho with hold | ⟨htask, -⟩
      · exact hm' o hold
      · exact absurd htask ht

theorem OnlyCancelled.happen (h : m.OnlyCancelled task) (hs : m.Settled) (hm : m.Traced) {due : Due}
    (hk : task ∉ due.action.brings) (hout : task ∉ (m.happen due).enteredTasks) :
    (m.happen due).OnlyCancelled task := by
  have hr := hm.running_ne fun hin => hout (happen_entered hs due hin)
  rw [happen_eq hs] at hout ⊢
  refine OnlyCancelled.advance ?_ hout
  exact (response { m with now := due.instant } due.action).onlyCancelled hk hr h

theorem OnlyCancelled.lookup (h : m.OnlyCancelled task) (hmem : (task, .cancelled) ∈ m.outcomes) :
    m.outcomes.lookup task = some .cancelled := by
  cases hl : m.outcomes.lookup task with
  | none => exact absurd rfl (bne_iff_ne.mp (List.lookup_eq_none_iff.mp hl _ hmem))
  | some o =>
    obtain ⟨first, rest, heq, -⟩ := List.lookup_eq_some_iff.mp hl
    rw [h o (by rw [heq]; simp)]

theorem lookup_filter_ne {other : Nat} (hne : other ≠ task) (outcomes : List (Nat × Outcome)) :
    (outcomes.filter (·.1 != task)).lookup other = outcomes.lookup other := by
  induction outcomes with
  | nil => rfl
  | cons x rest ih =>
    by_cases hx : x.1 = task
    · have hbeq : (other == x.1) = false := by simpa [hx] using hne
      rw [List.filter_cons_of_neg (by simpa using hx), ih, List.lookup_cons, hbeq]
    · rw [List.filter_cons_of_pos (by simpa using hx), List.lookup_cons, List.lookup_cons, ih]

theorem mem_outcomes_leaves (hs : m.Settled) (hm : m.Traced) (hout : task ∉ m.enteredTasks)
    (hw : task ∈ m.waitingTasks) (instant : Nat) :
    (task, .cancelled) ∈ (m.happen ⟨instant, .cancel task⟩).outcomes := by
  obtain ⟨t, ht, rfl⟩ := List.mem_map.mp hw
  have hany : m.waiting.any (·.task == t.task) = true :=
    List.any_eq_true.mpr ⟨t, ht, beq_self_eq_true _⟩
  rw [happen_leaves hs hm hout, dequeue, if_pos hany]
  exact List.mem_append_right _ (List.mem_singleton.mpr rfl)

/-! ## The two runs side by side -/

/-- The second machine is the first one without the hover of a task, at any time. Nothing has come
of that hover but that it was cancelled. -/
structure Unnoticed (task : Nat) (m m' : Machine) : Prop where
  same : ∃ now, m' = { m.without task with now }
  only : m.OnlyCancelled task

/-- What happens to both machines goes on unnoticed. -/
theorem Unnoticed.happen (h : Unnoticed task m m') (hs : m.Settled) (hm : m.Traced) {due : Due}
    (hk : task ∉ due.action.brings) (hout : task ∉ (m.happen due).enteredTasks) :
    Unnoticed task (m.happen due) (m'.happen due) := by
  refine ⟨?_, h.only.happen hs hm hk hout⟩
  obtain ⟨now, rfl⟩ := h.same
  have hr := hm.running_ne fun hin => hout (happen_entered hs due hin)
  rw [happen_eq hs] at hout ⊢
  rw [happen_eq (without_settled hs now)]
  have hrespond := without_respond { m with now := due.instant } hr hk
  have hadvance := without_advance hout
  rw [hrespond] at hadvance
  exact ⟨_, hadvance.symm⟩

theorem Unnoticed.run (h : Unnoticed task m m') (hs : m.Settled) (hm : m.Traced) {dues : List Due}
    (hk : ∀ due ∈ dues, task ∉ due.action.brings) (hout : task ∉ (m.runs dues).enteredTasks) :
    Unnoticed task (m.runs dues) (m'.runs dues) := by
  induction dues generalizing m m' with
  | nil => exact h
  | cons due dues ih =>
    have hs' := happen_settled hs due
    have hout' : task ∉ (m.happen due).enteredTasks :=
      fun hin => hout (runs_entered hs' dues hin)
    exact ih (h.happen hs hm (hk due List.mem_cons_self) hout') hs' (happen_traced hs due hm)
      (fun d hd => hk d (List.mem_cons_of_mem _ hd)) hout

/-- The hover joins the queue of the first machine. -/
theorem Unnoticed.dispatch (h : Unnoticed task m m') (hs : m.Settled) (hl : task ∉ m.line)
    {instant : Nat} {request : Request}
    (hw : task ∈ (m.happen ⟨instant, .deliver task request⟩).waitingTasks)
    (hout : task ∉ (m.happen ⟨instant, .deliver task request⟩).enteredTasks) :
    Unnoticed task (m.happen ⟨instant, .deliver task request⟩) m' := by
  obtain ⟨t, htask, heq⟩ := happen_joins hs hl hw hout
  rw [heq]
  refine ⟨?_, h.only⟩
  obtain ⟨now, rfl⟩ := h.same
  exact ⟨now, by simp [without, htask]⟩

/-- The hover leaves the queue of the first machine. -/
theorem Unnoticed.cancel (h : Unnoticed task m m') (hs : m.Settled) (hm : m.Traced)
    (hout : task ∉ m.enteredTasks) (instant : Nat) :
    Unnoticed task (m.happen ⟨instant, .cancel task⟩) m' := by
  have hresponse := response_dequeue (m := { m with now := instant }) (hm.running_ne hout)
  rw [happen_leaves hs hm hout]
  refine ⟨?_, hresponse.onlyCancelled List.not_mem_nil (hm.running_ne hout) h.only⟩
  obtain ⟨now, rfl⟩ := h.same
  exact ⟨now, by rw [without_dequeue_self]; rfl⟩

/-! ## A hover that is asked and cancelled -/

/-- Nothing is in flight, and nothing has happened yet. The server may hold any documents and
settings. -/
structure Resting (m : Machine) : Prop where
  running : m.running = none
  waiting : m.waiting = []
  trace : m.trace = []
  outcomes : m.outcomes = []

theorem Resting.settled (h : m.Resting) : m.Settled := fun _ => h.waiting

theorem Resting.traced (h : m.Resting) : m.Traced := by
  constructor
  · simp [h.running]
  · simp [h.trace]

theorem Resting.not_mem_line (h : m.Resting) : task ∉ m.line := by
  simp [line, enteredTasks, waitingTasks, h.trace, h.waiting]

theorem Resting.unnoticed (h : m.Resting) : Unnoticed task m m := by
  have hwaiting : m.waiting.filter (·.task != task) = m.waiting := by simp [h.waiting]
  have htrace : withoutEnd task m.trace = m.trace := by simp [withoutEnd, h.trace]
  have houtcomes : m.outcomes.filter (·.1 != task) = m.outcomes := by simp [h.outcomes]
  refine ⟨⟨m.now, by rw [without, hwaiting, htrace, houtcomes]⟩, ?_⟩
  simp [OnlyCancelled, h.outcomes]

/-- The first machine had a hover with this task, which was cancelled, and the second one never had
it. Nobody else can tell the two apart. -/
structure Invisible (task : Nat) (m m' : Machine) : Prop where
  /-- All that comes of the hover is that it was cancelled. -/
  cancelled : m.outcomes.lookup task = some .cancelled
  /-- It never entered the compile section, and no work directory was made for it. -/
  outside : task ∉ m.enteredTasks ∧ ∀ n, .made task n ∉ m.trace
  /-- What comes of all others is the same. -/
  results : ∀ other, other ≠ task → m'.outcomes.lookup other = m.outcomes.lookup other
  /-- The same happens in the same order, but for the end of the hover. -/
  trace : m'.trace = withoutEnd task m.trace
  /-- The server is the same, with its documents, phase and settings. -/
  server : m'.server = m.server
  /-- The compilers have the same behaviours left. -/
  host : m'.host = m.host
  disk : m'.disk = m.disk
  directories : m'.directories = m.directories ∧ m'.directoryAttempts = m.directoryAttempts
  processes : m'.processes = m.processes
  /-- The same hover compiles, since the same instant. -/
  running : m'.running = m.running
  waiting : m'.waiting = m.waiting

theorem Unnoticed.invisible (h : Unnoticed task m m') (hm : m.Traced)
    (hout : task ∉ m.enteredTasks) (hw : task ∉ m.waitingTasks)
    (hc : (task, .cancelled) ∈ m.outcomes) : Invisible task m m' := by
  have hwaiting : m.waiting.filter (·.task != task) = m.waiting := by
    refine List.filter_eq_self.mpr fun t ht => bne_iff_ne.mpr ?_
    rintro rfl
    exact hw (List.mem_map_of_mem ht)
  have hcancelled := h.only.lookup hc
  obtain ⟨now, rfl⟩ := h.same
  exact {
    cancelled := hcancelled
    outside := ⟨hout, fun n hmade => hout (hm.made hmade)⟩
    results := fun other hne => lookup_filter_ne hne m.outcomes
    trace := rfl, server := rfl, host := rfl, disk := rfl, directories := ⟨rfl, rfl⟩
    processes := rfl, running := rfl, waiting := hwaiting }

end Machine

/-- What happens when a message is delivered and its task is cancelled later on. -/
structure Interlude where
  task : Nat
  request : Request
  asked : Instant
  cut : Instant
  before : List Due
  between : List Due
  after : List Due

namespace Interlude

/-- All up to the delivery. -/
def opening (i : Interlude) : List Due :=
  i.before ++ [⟨i.asked, .deliver i.task i.request⟩]

/-- All that happens. -/
def dues (i : Interlude) : List Due :=
  i.opening ++ (i.between ++ ⟨i.cut, .cancel i.task⟩ :: i.after)

/-- All that happens otherwise. -/
def others (i : Interlude) : List Due :=
  i.before ++ (i.between ++ i.after)

/-- The task comes only with that message, and is that of a hover which waits when it is
cancelled. -/
structure Waits (i : Interlude) (m : Machine) : Prop where
  once : ∀ due ∈ i.others, i.task ∉ due.action.brings
  waits : i.task ∈ (m.runs (i.opening ++ i.between)).waitingTasks

variable {m : Machine} {i : Interlude}

section Once

variable (h : i.Waits m)

include h

theorem Waits.before : ∀ due ∈ i.before, i.task ∉ due.action.brings :=
  fun due hdue => h.once due (List.mem_append_left _ hdue)

theorem Waits.between : ∀ due ∈ i.between, i.task ∉ due.action.brings :=
  fun due hdue => h.once due (List.mem_append_right _ (List.mem_append_left _ hdue))

theorem Waits.after : ∀ due ∈ i.after, i.task ∉ due.action.brings :=
  fun due hdue => h.once due (List.mem_append_right _ (List.mem_append_right _ hdue))

end Once

/-- When it is cancelled, the hover has not entered. -/
theorem Waits.not_entered (h : i.Waits m) (rest : m.Resting) :
    i.task ∉ (m.runs (i.opening ++ i.between)).enteredTasks := by
  have hs := Machine.runs_settled rest.settled i.before
  have hline := Machine.not_mem_line_runs rest.settled rest.not_mem_line h.before
  have hcount := Machine.count_line_dispatch hs hline ⟨i.asked, .deliver i.task i.request⟩
  have hwaits := h.waits
  rw [opening, Machine.runs_append, Machine.runs_append] at hwaits ⊢
  exact fun hin => Machine.not_mem_waitingTasks
    (Machine.count_line_runs (Machine.happen_settled hs _) hcount h.between) hin hwaits

/-- It waits ever since it was asked. -/
theorem Waits.queued (h : i.Waits m) (rest : m.Resting) :
    i.task ∈ (m.runs i.opening).waitingTasks := by
  have hs := Machine.runs_settled rest.settled i.opening
  have hnot := h.not_entered rest
  have hwaits := h.waits
  rw [Machine.runs_append] at hwaits hnot
  by_contra hn
  have hline : i.task ∉ (m.runs i.opening).line := by
    intro hmem
    rcases List.mem_append.mp hmem with hin | hw
    · exact hnot (Machine.runs_entered hs _ hin)
    · exact hn hw
  exact Machine.not_mem_line_runs hs hline h.between (List.mem_append_right _ hwaits)

/-- It never enters, and waits no more once it is cancelled. -/
theorem Waits.never (h : i.Waits m) (rest : m.Resting) :
    i.task ∉ (m.runs i.dues).enteredTasks ∧ i.task ∉ (m.runs i.dues).waitingTasks := by
  have hs := Machine.runs_settled rest.settled (i.opening ++ i.between)
  have htraced := Machine.runs_traced rest.settled rest.traced (i.opening ++ i.between)
  have hnot := h.not_entered rest
  rw [dues, ← List.append_assoc, Machine.runs_append]
  exact (Machine.inTurn hs _).skipped rfl (htraced.running_ne hnot) hnot
    (Machine.not_mem_dispatched h.after)

theorem Waits.not_entered_opening (h : i.Waits m) (rest : m.Resting) :
    i.task ∉ (m.runs i.opening).enteredTasks := by
  have hnot := h.not_entered rest
  rw [Machine.runs_append] at hnot
  exact fun hin => hnot (Machine.runs_entered (Machine.runs_settled rest.settled _) _ hin)

theorem Waits.not_mem_line (h : i.Waits m) (rest : m.Resting) :
    i.task ∉ (m.runs i.before).line :=
  Machine.not_mem_line_runs rest.settled rest.not_mem_line h.before

theorem runs_opening (m : Machine) (i : Interlude) :
    m.runs i.opening = (m.runs i.before).happen ⟨i.asked, .deliver i.task i.request⟩ := by
  rw [opening, Machine.runs_append]
  rfl

theorem runs_dues (m : Machine) (i : Interlude) :
    m.runs i.dues =
      ((m.runs (i.opening ++ i.between)).happen ⟨i.cut, .cancel i.task⟩).runs i.after := by
  rw [dues, ← List.append_assoc, Machine.runs_append]
  rfl

theorem runs_others (m : Machine) (i : Interlude) :
    m.runs i.others = ((m.runs i.before).runs i.between).runs i.after := by
  rw [others, Machine.runs_append, Machine.runs_append]

/-- All others go on as they would without the hover. -/
theorem Waits.unnoticed (h : i.Waits m) (rest : m.Resting) :
    Machine.Unnoticed i.task (m.runs i.dues) (m.runs i.others) := by
  have hs := Machine.runs_settled rest.settled
  have htraced := Machine.runs_traced rest.settled rest.traced
  have hnot := h.not_entered rest
  have hbefore : Machine.Unnoticed i.task (m.runs i.before) (m.runs i.before) :=
    rest.unnoticed.run rest.settled rest.traced h.before fun hin =>
      h.not_mem_line rest (List.mem_append_left _ hin)
  have hopening : Machine.Unnoticed i.task (m.runs i.opening) (m.runs i.before) := by
    have hasked := h.not_entered_opening rest
    have hqueued := h.queued rest
    rw [runs_opening] at hasked hqueued ⊢
    exact hbefore.dispatch (hs _) (h.not_mem_line rest) hqueued hasked
  have hbetween : Machine.Unnoticed i.task (m.runs (i.opening ++ i.between))
      ((m.runs i.before).runs i.between) := by
    have hrun := hopening.run (hs _) (htraced _) h.between (by rwa [← Machine.runs_append])
    rwa [← Machine.runs_append] at hrun
  have hnever := (h.never rest).1
  rw [runs_dues] at hnever ⊢
  rw [runs_others]
  exact (hbetween.cancel (hs _) (htraced _) hnot i.cut).run (Machine.happen_settled (hs _) _)
    (Machine.happen_traced (hs _) _ (htraced _)) h.after hnever

theorem Waits.mem_outcomes (h : i.Waits m) (rest : m.Resting) :
    (i.task, .cancelled) ∈ (m.runs i.dues).outcomes := by
  have hs := Machine.runs_settled rest.settled (i.opening ++ i.between)
  have htraced := Machine.runs_traced rest.settled rest.traced (i.opening ++ i.between)
  have hcut := Machine.mem_outcomes_leaves hs htraced (h.not_entered rest) h.waits i.cut
  rw [runs_dues]
  exact Machine.Moves.keep (P := fun m => (i.task, .cancelled) ∈ m.outcomes)
    (fun hmove => hmove.mem_outcomes)
    (Machine.runs_moves (Machine.happen_settled hs _) i.after) hcut

theorem Waits.invisible (h : i.Waits m) (rest : m.Resting) :
    Machine.Invisible i.task (m.runs i.dues) (m.runs i.others) :=
  (h.unnoticed rest).invisible (Machine.runs_traced rest.settled rest.traced _)
    (h.never rest).1 (h.never rest).2 (h.mem_outcomes rest)

end Interlude

end ChapelServer
