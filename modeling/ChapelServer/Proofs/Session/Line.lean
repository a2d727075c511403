import ChapelServer.Proofs.Session.Fate
import ChapelServer.Proofs.Session.Serial

/-!
# The line of hovers

The hovers that have entered and those that wait form a line, in which nobody stands twice. Who has
entered compiles or has ended, and who waits was dispatched.
-/

namespace ChapelServer

namespace Machine

theorem runs_cons (m : Machine) (due : Due) (dues : List Due) :
    m.runs (due :: dues) = (m.happen due).runs dues := rfl

theorem runs_append (m : Machine) (first second : List Due) :
    m.runs (first ++ second) = (m.runs first).runs second := by
  simp [runs, List.foldl_append]

/-! ## Entering and waiting -/

theorem Response.enteredTasks_eq {m m' : Machine} {action : Action} (h : Response m action m') :
    m'.enteredTasks = m.enteredTasks := by
  cases h with
  | left hr hl => simp [enteredTasks, hl.entered, Moment.entered?]
  | exited | dequeued => simp [enteredTasks, Moment.entered?]
  | _ => simp [enteredTasks]

/-- Only what a message brings joins the queue. -/
theorem Response.mem_waitingTasks {m m' : Machine} {action : Action} (h : Response m action m')
    {task : Nat} (ht : task ∈ m'.waitingTasks) : task ∈ m.waitingTasks ∨ task ∈ action.brings := by
  cases h with
  | queued =>
    rw [waitingTasks, List.map_append] at ht
    rcases List.mem_append.mp ht with ht | ht
    · exact .inl ht
    · exact .inr ht
  | dequeued =>
    obtain ⟨t, hmem, rfl⟩ := List.mem_map.mp ht
    exact .inl (List.mem_map_of_mem (List.mem_filter.mp hmem).1)
  | _ => exact .inl ht

theorem mem_enteredTasks_serve {queue : List Ticket} {m : Machine} {task : Nat}
    (h : task ∈ m.enteredTasks) : task ∈ (serve queue m).enteredTasks := by
  induction queue generalizing m with
  | nil => exact h
  | cons t queue ih =>
    have henter : task ∈ ({ m with waiting := queue }.enter t).enteredTasks := by
      rw [(entry _ t).enteredTasks_eq]
      exact List.mem_append_left _ h
    simp only [serve]
    split
    · exact henter
    · exact ih henter

theorem mem_enteredTasks_serve_head (t : Ticket) (queue : List Ticket) (m : Machine) :
    t.task ∈ (serve (t :: queue) m).enteredTasks := by
  have henter : t.task ∈ ({ m with waiting := queue }.enter t).enteredTasks := by
    rw [(entry _ t).enteredTasks_eq]
    exact List.mem_append_right _ (List.mem_singleton.mpr rfl)
  simp only [serve]
  split
  · exact henter
  · exact mem_enteredTasks_serve henter

theorem advance_entered {m : Machine} {task : Nat} (h : task ∈ m.enteredTasks) :
    task ∈ m.advance.enteredTasks := by
  unfold advance
  split
  · exact h
  · exact mem_enteredTasks_serve h

theorem happen_entered {m : Machine} (hs : m.Settled) (due : Due) {task : Nat}
    (h : task ∈ m.enteredTasks) : task ∈ (m.happen due).enteredTasks := by
  rw [happen_eq hs]
  refine advance_entered ?_
  rw [(response { m with now := due.instant } due.action).enteredTasks_eq]
  exact h

theorem runs_entered {m : Machine} (hs : m.Settled) (dues : List Due) {task : Nat}
    (h : task ∈ m.enteredTasks) : task ∈ (m.runs dues).enteredTasks := by
  induction dues generalizing m with
  | nil => exact h
  | cons due dues ih => exact ih (happen_settled hs due) (happen_entered hs due h)

theorem advance_of_running {m : Machine} {job : Job} (hr : m.running = some job) :
    m.advance = m := by
  simp [Machine.advance, hr]

/-- A hover that finds the section free enters at once. -/
theorem mem_enteredTasks_dispatch {m : Machine} (hs : m.Settled) (free : m.running = none)
    (instant : Nat) {task : Nat} {bare : Bool} {uri : String} {position : Position}
    {question : Server.Question}
    (hq : m.server.guardedQuestion bare uri position = .ok (some question)) :
    task ∈ (m.happen ⟨instant, .deliver task (.hover bare uri position)⟩).enteredTasks := by
  simp only [happen_eq hs, respond, enqueue, hq, advance, free, hs free, List.nil_append]
  exact mem_enteredTasks_serve_head ⟨task, bare, uri, question⟩ [] _

theorem advance_outcomes (m : Machine) : ∃ more, m.advance.outcomes = m.outcomes ++ more := by
  refine advance_induct (P := fun m' => ∃ more, m'.outcomes = m.outcomes ++ more) ?_ ⟨[], by simp⟩
  rintro m' t queue _ _ ⟨more, hm'⟩
  obtain ⟨more', hentry⟩ := (entry { m' with waiting := queue } t).outcomes
  refine ⟨more ++ more', ?_⟩
  rw [hentry, ← List.append_assoc, ← hm']

/-! ## Nobody stands in the line twice -/

theorem mem_dispatched {task : Nat} {dues : List Due} (h : task ∈ dispatched dues) :
    ∃ instant request, ⟨instant, .deliver task request⟩ ∈ dues := by
  obtain ⟨⟨instant, action⟩, hdue, hhover⟩ := List.mem_filterMap.mp h
  unfold Due.hover? at hhover
  split at hhover
  · rename_i ha
    obtain rfl := Option.some.inj hhover
    obtain rfl : action = _ := ha
    exact ⟨instant, _, hdue⟩
  · cases hhover

theorem not_mem_dispatched {task : Nat} {dues : List Due}
    (hk : ∀ due ∈ dues, task ∉ due.action.brings) : task ∉ dispatched dues := by
  intro hmem
  obtain ⟨instant, request, hdue⟩ := mem_dispatched hmem
  exact hk _ hdue (List.mem_singleton.mpr rfl)

theorem count_line_runs {task : Nat} {m : Machine} (hs : m.Settled) (hl : m.line.count task ≤ 1)
    {dues : List Due} (hk : ∀ due ∈ dues, task ∉ due.action.brings) :
    (m.runs dues).line.count task ≤ 1 := by
  have hle := (runs_line hs dues).count_le task
  rw [List.count_append, List.count_eq_zero_of_not_mem (not_mem_dispatched hk)] at hle
  exact Nat.le_trans hle hl

theorem not_mem_waitingTasks {task : Nat} {m : Machine} (hl : m.line.count task ≤ 1)
    (hin : task ∈ m.enteredTasks) : task ∉ m.waitingTasks := by
  intro hw
  rw [line, List.count_append] at hl
  have hpos := List.count_pos_iff.mpr hin
  have hpos' := List.count_pos_iff.mpr hw
  omega

/-- Who does not stand in the line and is not delivered does not join it. -/
theorem not_mem_line_runs {task : Nat} {m : Machine} (hs : m.Settled) (hl : task ∉ m.line)
    {dues : List Due} (hk : ∀ due ∈ dues, task ∉ due.action.brings) :
    task ∉ (m.runs dues).line := by
  intro hmem
  rcases List.mem_append.mp ((runs_line hs dues).subset hmem) with hmem | hmem
  · exact hl hmem
  · exact not_mem_dispatched hk hmem

/-- The line of a fresh run holds no task that was not delivered. -/
theorem not_mem_line {host : Host} {task : Nat} {dues : List Due}
    (hk : ∀ due ∈ dues, task ∉ due.action.brings) : task ∉ (runs { host } dues).line :=
  not_mem_line_runs (fun _ => rfl) (List.not_mem_nil) hk

theorem count_line_dispatch {m : Machine} {task : Nat} (hs : m.Settled) (hl : task ∉ m.line)
    (due : Due) : (m.happen due).line.count task ≤ 1 := by
  have hle := (happen_line hs due).count_le task
  rw [List.count_append, List.count_eq_zero_of_not_mem hl] at hle
  have hlength : due.hover?.toList.length ≤ 1 := by
    cases due.hover? <;> simp
  have hcount : due.hover?.toList.count task ≤ due.hover?.toList.length := List.count_le_length
  omega

/-! ## Who has entered -/

/-- Every hover that has entered compiles or has ended. -/
def Placed (m : Machine) : Prop :=
  ∀ task ∈ m.enteredTasks,
    (∃ job, m.running = some job ∧ job.ticket.task = task) ∨ ∃ o, (task, o) ∈ m.outcomes

theorem Response.placed {m m' : Machine} {action : Action} (h : Response m action m')
    (hm : m.Placed) : m'.Placed := by
  intro task hin
  rw [h.enteredTasks_eq] at hin
  obtain ⟨more, hmore⟩ := h.outcomes
  rcases hm task hin with ⟨job, hr, htask⟩ | ⟨o, ho⟩
  · cases h with
    | exited hr' =>
      obtain rfl := Option.some.inj (hr'.symm.trans hr)
      exact .inl ⟨_, rfl, htask⟩
    | left hr' =>
      obtain rfl := Option.some.inj (hr'.symm.trans hr)
      exact .inr ⟨_, List.mem_append_right _ (by rw [htask]; exact List.mem_singleton.mpr rfl)⟩
    | _ => exact .inl ⟨job, hr, htask⟩
  · exact .inr ⟨o, hmore ▸ List.mem_append_left _ ho⟩

theorem Entry.placed {m m' : Machine} {t : Ticket} (h : Entry m t m') (free : m.running = none)
    (hm : m.Placed) : m'.Placed := by
  intro task hin
  rw [h.enteredTasks_eq] at hin
  obtain ⟨more, hmore⟩ := h.outcomes
  rcases List.mem_append.mp hin with hin | hin
  · rcases hm task hin with ⟨job, hr, -⟩ | ⟨o, ho⟩
    · simp [free] at hr
    · exact .inr ⟨o, hmore ▸ List.mem_append_left _ ho⟩
  · obtain rfl := List.mem_singleton.mp hin
    cases h with
    | started => exact .inl ⟨_, rfl, rfl⟩
    | _ => exact .inr ⟨_, List.mem_append_right _ (List.mem_singleton.mpr rfl)⟩

theorem runs_placed (host : Host) (dues : List Due) : (runs { host } dues).Placed := by
  refine Moves.keep (P := Placed) ?_ (runs_moves (fun _ => rfl) dues) nofun
  intro m m' h hm
  cases h with
  | respond due settled => exact (response { m with now := due.instant } due.action).placed hm
  | enter free next => exact (entry _ _).placed free hm

end Machine

end ChapelServer
