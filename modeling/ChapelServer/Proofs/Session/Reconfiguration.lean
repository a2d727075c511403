import ChapelServer.Proofs.Server.Turn
import ChapelServer.Proofs.Session.Line
import ChapelServer.Proofs.Session.Snapshot

/-!
# Settings of a hover

A hover meets the settings twice. The symbol is chosen by those in force when it is dispatched.
The rest, that is the staged file, the command, the pass log and the time limit, comes from those
in force when it enters its compile section, which a hover that has to wait does later; what is
configured while it waits counts, and what is configured after that does not.
-/

namespace ChapelServer

/-! ## Settings in force -/

namespace Machine

theorem Response.shared {m m' : Machine} {action : Action} (h : Response m action m')
    (hm : m.server.settingsShared) : m'.server.settingsShared := by
  cases h with
  | absorbed hh =>
    rw [← Server.after_of_handled hh]
    exact (m.server.after_renewed _).shared hm
  | _ => exact hm

theorem Move.shared {m m' : Machine} (h : Move m m') (hm : m.server.settingsShared) :
    m'.server.settingsShared := by
  cases h with
  | respond due settled => exact (response { m with now := due.instant } due.action).shared hm
  | enter free next =>
    rw [(entry _ _).server_eq]
    exact hm

/-- In every run, the settings that choose the symbol and those that the compiler is called with
are those of the state. -/
theorem runs_shared (host : Host) (dues : List Due) :
    (runs { host } dues).server.settingsShared :=
  Moves.keep (P := fun m => m.server.settingsShared) Move.shared
    (runs_moves (fun _ => rfl) dues) rfl

theorem runs_inForce (host : Host) (dues : List Due) :
    (runs { host } dues).inForce = (runs { host } dues).server.settings := by
  rw [inForce, Server.settingsShared_iff.mp (runs_shared host dues)]

/-! ## Entering -/

/-- The hover has entered with these settings. -/
abbrev EnteredWith (t : Ticket) (s : Settings) (m : Machine) : Prop :=
  m.Attributed t.task (· = t) (fun t' s' => t' = t ∧ s' = s) (fun _ => False)

/-- The hover waits, or was cancelled while it did. -/
abbrev NotEntered (t : Ticket) (m : Machine) : Prop :=
  m.Attributed t.task (· = t) (fun _ _ => False) (fun _ => False)

theorem NotEntered.enteredWith {t : Ticket} {m : Machine} (h : m.NotEntered t) (s : Settings) :
    m.EnteredWith t s :=
  h.mono (fun _ => id) (fun _ _ => False.elim) (fun _ => id)

/-- A hover that has not entered does so, if it does, with the settings in force now. -/
theorem NotEntered.advance {t : Ticket} {m : Machine} (h : m.NotEntered t)
    (hout : t.task ∉ m.enteredTasks) :
    t.task ∉ m.advance.enteredTasks ∧ m.advance.NotEntered t ∨
      t.task ∈ m.advance.enteredTasks ∧ m.advance.EnteredWith t m.inForce := by
  refine (advance_induct (P := fun m' => m'.inForce = m.inForce ∧
    (t.task ∉ m'.enteredTasks ∧ m'.NotEntered t ∨
      t.task ∈ m'.enteredTasks ∧ m'.EnteredWith t m.inForce)) ?_ ⟨rfl, .inl ⟨hout, h⟩⟩).2
  rintro m' t' queue free next ⟨hforce, hm'⟩
  have hentry := entry { m' with waiting := queue } t'
  refine ⟨by rw [← hforce, inForce, hentry.server_eq, inForce], ?_⟩
  rw [hentry.enteredTasks_eq]
  have hentered : ({ m' with waiting := queue } : Machine).enteredTasks = m'.enteredTasks := rfl
  rw [hentered]
  rcases hm' with ⟨hout', hm'⟩ | ⟨hin, hm'⟩
  · by_cases htask : t'.task = t.task
    · -- this is the hover itself
      obtain rfl : t' = t := hm'.waits (next ▸ List.mem_cons_self) htask
      refine .inr ⟨by simp, hentry.attributed free next (fun _ => ⟨rfl, hforce⟩) ?_⟩
      exact hm'.enteredWith _
    · refine .inl ⟨by simp [hout', Ne.symm htask], ?_⟩
      exact hentry.attributed free next (fun he => absurd he htask) hm'
  · refine .inr ⟨List.mem_append_left _ hin, hentry.attributed free next (fun htask => ?_) hm'⟩
    exact ⟨hm'.waits (next ▸ List.mem_cons_self) htask, hforce⟩

/-- No settings come between: what lets a hover enter that has waited is the end of another
compilation. -/
theorem NotEntered.happen {t : Ticket} {m : Machine} (h : m.NotEntered t) (hs : m.Settled)
    (hout : t.task ∉ m.enteredTasks) {due : Due} (hk : t.task ∉ due.action.brings) :
    t.task ∉ (m.happen due).enteredTasks ∧ (m.happen due).NotEntered t ∨
      t.task ∈ (m.happen due).enteredTasks ∧ (m.happen due).EnteredWith t m.inForce := by
  have hresponse := response { m with now := due.instant } due.action
  have hentered := hresponse.enteredTasks_eq
  have hr : NotEntered t _ := hresponse.attributed hk (h.wait due.instant)
  rw [happen_eq hs]
  generalize { m with now := due.instant }.respond due.action = m' at hresponse hentered hr ⊢
  have hout' : t.task ∉ m'.enteredTasks := by
    rw [hentered]
    exact hout
  rcases hr.advance hout' with hstill | ⟨hin, hnow⟩
  · exact .inl hstill
  · have hline : t.task ∈ m'.line := by
      rw [← advance_line]
      exact List.mem_append_left _ hin
    have hwaits : t.task ∈ m'.waitingTasks := (List.mem_append.mp hline).resolve_left hout'
    have hfree : m'.running = none := by
      cases hrun : m'.running with
      | none => rfl
      | some job => simp [Machine.advance, hrun, hout'] at hin
    have hbusy : m.running ≠ none := by
      intro hnone
      have hbefore := (hresponse.mem_waitingTasks hwaits).resolve_right hk
      simp [waitingTasks, hs hnone] at hbefore
    have hforce : m'.inForce = m.inForce := by
      rw [inForce, hresponse.server_of_free hbusy hfree, inForce]
    exact .inr ⟨hin, hforce ▸ hnow⟩

/-- A hover that has entered and does not wait keeps its settings. -/
theorem EnteredWith.run {t : Ticket} {s : Settings} {m : Machine} (h : m.EnteredWith t s)
    (hs : m.Settled) (hgone : t.task ∉ m.waitingTasks) {dues : List Due}
    (hk : ∀ due ∈ dues, t.task ∉ due.action.brings) : (m.runs dues).EnteredWith t s := by
  have hdone : m.Attributed t.task (fun _ => False) (fun t' s' => t' = t ∧ s' = s)
      (fun _ => False) :=
    { h with waits := fun ht htask => hgone (htask ▸ List.mem_map_of_mem ht) }
  exact (hdone.run hs hk fun _ _ => False.elim).mono (fun _ => False.elim) (fun _ _ => id)
    (fun _ => id)

/-- A hover that waits enters at one point of the run, with the settings in force just before, or
does not enter. -/
theorem NotEntered.run {t : Ticket} {m : Machine} (h : m.NotEntered t) (hs : m.Settled)
    (hout : t.task ∉ m.enteredTasks) (hl : m.line.count t.task ≤ 1) {dues : List Due}
    (hk : ∀ due ∈ dues, t.task ∉ due.action.brings) :
    t.task ∉ (m.runs dues).enteredTasks ∧ (m.runs dues).NotEntered t ∨
      ∃ between due rest, dues = between ++ due :: rest ∧
        t.task ∉ (m.runs between).enteredTasks ∧
        t.task ∈ ((m.runs between).happen due).enteredTasks ∧
        (m.runs dues).EnteredWith t (m.runs between).inForce := by
  induction dues generalizing m with
  | nil => exact .inl ⟨hout, h⟩
  | cons due dues ih =>
    have hs' := happen_settled hs due
    have hhead : ∀ d ∈ [due], t.task ∉ d.action.brings := by
      simpa using hk due List.mem_cons_self
    have htail : ∀ d ∈ dues, t.task ∉ d.action.brings :=
      fun d hd => hk d (List.mem_cons_of_mem _ hd)
    have hl' : (m.happen due).line.count t.task ≤ 1 := count_line_runs hs hl hhead
    rcases h.happen hs hout (hk due List.mem_cons_self) with ⟨hout', h'⟩ | ⟨hin, h'⟩
    · rcases ih h' hs' hout' hl' htail with hstill | ⟨between, due', rest, rfl, hrest⟩
      · exact .inl hstill
      · exact .inr ⟨due :: between, due', rest, rfl, hrest⟩
    · exact .inr ⟨[], due, dues, rfl, hout, hin,
        h'.run hs' (not_mem_waitingTasks hl' hin) htail⟩

/-! ## What is configured while a hover compiles -/

/-- The hover of a task compiles in both machines, in the same way, or has ended in both, in the
same way. -/
inductive Abreast (task : Nat) (m m' : Machine) : Prop
  | compiles {job : Job} (runs : m.running = some job) (runs' : m'.running = some job)
    (own : job.ticket.task = task) (disk : m'.disk = m.disk)
    (unended : m.outcomes.lookup task = none) (unended' : m'.outcomes.lookup task = none)
  | ended {o : Outcome} (ends : m.outcomes.lookup task = some o)
    (ends' : m'.outcomes.lookup task = some o)

theorem Abreast.lookup_eq {task : Nat} {m m' : Machine} (h : Abreast task m m') :
    m.outcomes.lookup task = m'.outcomes.lookup task := by
  cases h with
  | compiles _ _ _ _ unended unended' => rw [unended, unended']
  | ended ends ends' => rw [ends, ends']

/-- Hovers that enter change nothing for one that compiles or has ended. -/
theorem Abreast.advance {task : Nat} {m m' : Machine} (h : Abreast task m m') :
    Abreast task m.advance m'.advance := by
  cases h with
  | compiles runs runs' own disk unended unended' =>
    rw [advance_of_running runs, advance_of_running runs']
    exact .compiles runs runs' own disk unended unended'
  | ended ends ends' =>
    obtain ⟨more, hmore⟩ := m.advance_outcomes
    obtain ⟨more', hmore'⟩ := m'.advance_outcomes
    exact .ended (by rw [hmore, List.lookup_append, ends]; rfl)
      (by rw [hmore', List.lookup_append, ends']; rfl)

theorem lookup_append_ne {outcomes : List (Nat × Outcome)} {task other : Nat} (h : task ≠ other)
    (o : Outcome) : (outcomes ++ [(other, o)]).lookup task = outcomes.lookup task := by
  have hne : (task == other) = false := by simpa using h
  simp [List.lookup_append, List.lookup_cons, hne]

theorem lookup_append_self {outcomes : List (Nat × Outcome)} {task : Nat}
    (h : outcomes.lookup task = none) (o : Outcome) :
    (outcomes ++ [(task, o)]).lookup task = some o := by
  simp [List.lookup_append, h]

/-- A message says nothing about other tasks. -/
theorem Response.lookup_other {m m' : Machine} {task other : Nat} {request : Request}
    (h : Response m (.deliver other request) m') (hne : task ≠ other) :
    m'.outcomes.lookup task = m.outcomes.lookup task := by
  cases h with
  | absorbed | dismissed => exact lookup_append_ne hne _
  | queued | idle => rfl
  | left hr hl => cases hl

theorem dequeue_other (m : Machine) {task other : Nat} (hne : task ≠ other) :
    (m.dequeue other).running = m.running ∧ (m.dequeue other).disk = m.disk ∧
      (m.dequeue other).outcomes.lookup task = m.outcomes.lookup task := by
  unfold dequeue
  split
  · exact ⟨rfl, rfl, lookup_append_ne hne _⟩
  · exact ⟨rfl, rfl, rfl⟩

/-- The hover that compiles ends in the same way if the section is left in the same way. -/
theorem Abreast.vacate {m m' : Machine} {job : Job} (ending : Ending)
    (unended : m.outcomes.lookup job.ticket.task = none)
    (unended' : m'.outcomes.lookup job.ticket.task = none) :
    Abreast job.ticket.task (m.vacate job ending) (m'.vacate job ending) := by
  rw [vacate_eq, vacate_eq]
  exact .ended (lookup_append_self unended _) (lookup_append_self unended' _)

theorem Abreast.respond {task : Nat} {m m' : Machine} (h : Abreast task m m') {action : Action}
    (hk : task ∉ action.brings) : Abreast task (m.respond action) (m'.respond action) := by
  cases h with
  | ended ends ends' =>
    obtain ⟨more, hmore⟩ := (response m action).outcomes
    obtain ⟨more', hmore'⟩ := (response m' action).outcomes
    exact .ended (by rw [hmore, List.lookup_append, ends]; rfl)
      (by rw [hmore', List.lookup_append, ends']; rfl)
  | @compiles job runs runs' own disk unended unended' =>
    subst own
    cases action with
    | deliver other request =>
      have hne : job.ticket.task ≠ other := by simpa [Action.brings] using hk
      obtain ⟨hrun, hdisk⟩ := (response m (.deliver other request)).frame
      obtain ⟨hrun', hdisk'⟩ := (response m' (.deliver other request)).frame
      exact .compiles (hrun.trans runs) (hrun'.trans runs') rfl
        (hdisk'.trans (disk.trans hdisk.symm))
        ((response m _).lookup_other hne ▸ unended) ((response m' _).lookup_other hne ▸ unended')
    | exit =>
      simp only [Machine.respond, act, runs, runs']
      split
      · exact .compiles runs runs' rfl disk unended unended'
      · exact .compiles rfl rfl rfl (congrArg (job.run.files.foldl _) disk) unended unended'
    | outputEnd =>
      simp only [Machine.respond, conclusion, runs, runs']
      split
      · have hending : m'.endingOf job = m.endingOf job := endingOf_congr disk job job.exited
        rw [hending, readLog_eq, readLog_eq]
        exact .vacate _ unended unended'
      · exact .compiles runs runs' rfl disk unended unended'
    | expire =>
      simp only [Machine.respond, deadline, runs, runs', stopProcess_eq]
      exact .vacate _ unended unended'
    | cancel other =>
      simp only [Machine.respond, withdraw, runs, runs', stopProcess_eq]
      split
      · exact .vacate _ unended unended'
      · rename_i hne
        obtain ⟨hrun, hdisk, hlookup⟩ := dequeue_other m hne
        obtain ⟨hrun', hdisk', hlookup'⟩ := dequeue_other m' hne
        exact .compiles (hrun.trans runs) (hrun'.trans runs') rfl
          (hdisk'.trans (disk.trans hdisk.symm)) (hlookup.trans unended) (hlookup'.trans unended')

theorem Abreast.wait {task : Nat} {m m' : Machine} (h : Abreast task m m') (now : Nat) :
    Abreast task { m with now } { m' with now } := by
  cases h with
  | compiles runs runs' own disk unended unended' =>
    exact .compiles runs runs' own disk unended unended'
  | ended ends ends' => exact .ended ends ends'

theorem Abreast.happen {task : Nat} {m m' : Machine} (h : Abreast task m m') (hs : m.Settled)
    (hs' : m'.Settled) {due : Due} (hk : task ∉ due.action.brings) :
    Abreast task (m.happen due) (m'.happen due) := by
  rw [happen_eq hs, happen_eq hs']
  exact ((h.wait due.instant).respond hk).advance

/-- A message on one side only leaves the hover alone. -/
theorem Abreast.happen_left {task : Nat} {m m' : Machine} (h : Abreast task m m') (hs : m.Settled)
    {instant other : Nat} {request : Request} (hne : task ≠ other) :
    Abreast task (m.happen ⟨instant, .deliver other request⟩) m' := by
  have hresponse := response { m with now := instant } (.deliver other request)
  rw [happen_eq hs]
  cases h with
  | compiles runs runs' own disk unended unended' =>
    obtain ⟨hrun, hdisk⟩ := hresponse.frame
    have hruns := hrun.trans runs
    rw [advance_of_running hruns]
    exact .compiles hruns runs' own (disk.trans hdisk.symm)
      ((hresponse.lookup_other hne).trans unended) unended'
  | ended ends ends' =>
    obtain ⟨more, hmore⟩ := hresponse.outcomes
    obtain ⟨more', hmore'⟩ :=
      ({ m with now := instant }.respond (.deliver other request)).advance_outcomes
    refine .ended ?_ ends'
    rw [hmore', hmore]
    simp [List.lookup_append, ends]

/-- All settings that come while a hover compiles or later can be left out. -/
theorem Abreast.run {task : Nat} {m m' : Machine} (h : Abreast task m m') (hs : m.Settled)
    (hs' : m'.Settled) {dues : List Due} (hk : ∀ due ∈ dues, task ∉ due.action.brings) :
    Abreast task (m.runs dues) (m'.runs (dues.filter Due.keepsSettings)) := by
  induction dues generalizing m m' with
  | nil => exact h
  | cons due dues ih =>
    have htail : ∀ d ∈ dues, task ∉ d.action.brings := fun d hd => hk d (List.mem_cons_of_mem _ hd)
    have hhead := hk due List.mem_cons_self
    cases hkeep : due.keepsSettings with
    | true =>
      rw [List.filter_cons_of_pos hkeep]
      exact ih (h.happen hs hs' hhead) (happen_settled hs due) (happen_settled hs' due) htail
    | false =>
      rw [List.filter_cons_of_neg (by simp [hkeep])]
      obtain ⟨instant, action⟩ := due
      cases action with
      | deliver other request =>
        have hne : task ≠ other := by simpa [Action.brings] using hhead
        exact ih (h.happen_left hs hne) (happen_settled hs _) hs' htail
      | _ => cases hkeep

theorem Placed.abreast {m : Machine} (hm : m.Placed) {task : Nat} (hin : task ∈ m.enteredTasks) :
    Abreast task m m := by
  cases hlookup : m.outcomes.lookup task with
  | some o => exact .ended hlookup hlookup
  | none =>
    rcases hm task hin with ⟨job, hr, htask⟩ | ⟨o, ho⟩
    · exact .compiles hr hr htask rfl hlookup hlookup
    · have hne := List.lookup_eq_none_iff.mp hlookup (task, o) ho
      simp at hne

/-! ## The settings of a hover -/

/-- These settings are what the compile section of a hover uses: for its command with the name of
the staged file in it, for the staged file, the pass log and the time limit of its job, and for what
comes of it. -/
structure Governs (s : Settings) (t : Ticket) (m : Machine) : Prop where
  command : ∀ {p n : Nat} {command names : List Text} {source : Text}
    {opened : Option (List UInt8)},
    .made t.task n ∈ m.trace → .event (.spawn p command n source opened names) ∈ m.trace →
    command = s.command (Staging.sourcePath s n).name
  job : ∀ {job : Job}, m.running = some job → job.ticket.task = t.task →
    job.ticket = t ∧ job.settings = s ∧
      Staging.artifactPath s m.server.room job.directory = .ok job.artifact
  staged : ∀ {job : Job}, m.running = some job → job.ticket.task = t.task → job.exited = false →
    ∃ bytes, t.question.text.utf8? = some bytes ∧
      m.disk.read (Staging.sourcePath s job.directory) = .ok bytes
  ended : ∀ {o : Outcome}, (t.task, o) ∈ m.outcomes →
    o = .cancelled ∨ ∃ ending, t.Ends s m.server.room ending ∧ o = t.outcome ending

theorem EnteredWith.governs {t : Ticket} {s : Settings} {m : Machine} (h : m.EnteredWith t s) :
    Governs s t m where
  command hmade hspawn := by
    obtain ⟨_, _, ⟨-, rfl⟩, hcommand, -⟩ := h.started hmade hspawn
    exact hcommand
  job hr htask := by
    obtain ⟨ht, hsettings⟩ := h.runs hr htask
    exact ⟨ht, hsettings, hsettings ▸ h.artifact hr⟩
  staged hr htask hx := by
    obtain ⟨ht, hsettings⟩ := h.runs hr htask
    have hread := h.source hr hx
    rwa [ht, hsettings] at hread
  ended ho := by
    rcases h.ended ho with hc | hc | ⟨_, _, ending, ⟨rfl, rfl⟩, hends, rfl⟩
    · exact .inl hc
    · exact hc.elim
    · exact .inr ⟨ending, hends, rfl⟩

/-- Where a hover takes the settings of its compile section from, in a run from its dispatch on. It
does not get that far, or it enters at one point of the run, with the settings in force there, and
what is configured from then on makes no difference to what comes of it. -/
inductive Governed (asked : Machine) (t : Ticket) (dues : List Due) : Prop
  | outside (out : t.task ∉ (asked.runs dues).enteredTasks)
    (unmade : ∀ n, .made t.task n ∉ (asked.runs dues).trace)
    (ended : ∀ o, (t.task, o) ∈ (asked.runs dues).outcomes → o = .cancelled)
  | entered (between : List Due) (due : Due) (rest : List Due)
    (split : dues = between ++ due :: rest)
    (out : t.task ∉ (asked.runs between).enteredTasks)
    (enters : t.task ∈ ((asked.runs between).happen due).enteredTasks)
    (governs : Governs (asked.runs between).server.settings t (asked.runs dues))
    (steady : (asked.runs dues).outcomes.lookup t.task =
      (((asked.runs between).happen due).runs
        (rest.filter Due.keepsSettings)).outcomes.lookup t.task)

theorem Governed.of_enteredWith {host : Host} {before dues between rest : List Due} {due : Due}
    {t : Ticket} (split : dues = between ++ due :: rest)
    (out : t.task ∉ ((runs { host } before).runs between).enteredTasks)
    (enters : t.task ∈ (((runs { host } before).runs between).happen due).enteredTasks)
    (h : EnteredWith t ((runs { host } before).runs between).inForce
      ((runs { host } before).runs dues))
    (hk : ∀ due ∈ rest, t.task ∉ due.action.brings) : (runs { host } before).Governed t dues := by
  have hforce := runs_inForce host (before ++ between)
  have hplaced := runs_placed host (before ++ (between ++ [due]))
  have hs : (runs { host } (before ++ (between ++ [due]))).Settled := runs_settled (fun _ => rfl) _
  simp only [runs_append, runs_cons] at hforce hplaced hs
  have habreast := (hplaced.abreast enters).run hs hs hk
  refine .entered between due rest split out enters (hforce ▸ h.governs) ?_
  rw [split, runs_append, runs_cons]
  exact habreast.lookup_eq

theorem NotEntered.outside {asked : Machine} {t : Ticket} {dues : List Due}
    (h : (asked.runs dues).NotEntered t) (hout : t.task ∉ (asked.runs dues).enteredTasks) :
    asked.Governed t dues := by
  refine .outside hout (fun n hmade => ?_) (fun o ho => ?_)
  · obtain ⟨_, _, hfalse⟩ := h.entered hmade
    exact hfalse
  · rcases h.ended ho with hc | hfalse | ⟨_, _, _, hfalse, -⟩
    · exact hc
    · exact hfalse.elim
    · exact hfalse.elim

section Dispatch

variable {m : Machine} {task : Nat} {bare : Bool} {uri : String} {position : Position}
  {question : Server.Question}

/-- A hover that is dispatched with a question enters at once or waits. -/
theorem Untouched.dispatch (h : m.Untouched task) (hs : m.Settled) (hl : task ∉ m.line)
    (instant : Nat) (hq : m.server.guardedQuestion bare uri position = .ok (some question)) :
    let t : Ticket := ⟨task, bare, uri, question⟩
    let m' := m.happen ⟨instant, .deliver task (.hover bare uri position)⟩
    t.task ∉ m'.enteredTasks ∧ m'.NotEntered t ∨
      t.task ∈ m'.enteredTasks ∧ m'.EnteredWith t m.inForce := by
  intro t m'
  have hresponse := response { m with now := instant } (.deliver task (.hover bare uri position))
  have hnot : NotEntered t _ := hresponse.attributed_queued (h.wait instant) hq
  have hforce : (respond { m with now := instant }
      (.deliver task (.hover bare uri position))).inForce = m.inForce := by
    simp only [respond, enqueue, hq, inForce]
  have hout : t.task ∉ (respond { m with now := instant }
      (.deliver task (.hover bare uri position))).enteredTasks := by
    rw [hresponse.enteredTasks_eq]
    exact fun hin => hl (List.mem_append_left _ hin)
  have hadvance := hnot.advance hout
  rwa [hforce, ← happen_eq hs ⟨instant, .deliver task (.hover bare uri position)⟩] at hadvance

end Dispatch

theorem dispatch_governed {host : Host} {before later : List Due} {instant task : Nat}
    {bare : Bool} {uri : String} {position : Position} {question : Server.Question}
    (hk : ∀ due ∈ before ++ later, task ∉ due.action.brings)
    (hq : (runs { host } before).server.guardedQuestion bare uri position = .ok (some question)) :
    (runs { host } before).Governed ⟨task, bare, uri, question⟩
      (⟨instant, .deliver task (.hover bare uri position)⟩ :: later) := by
  have hbefore : ∀ due ∈ before, task ∉ due.action.brings :=
    fun due hdue => hk due (List.mem_append_left _ hdue)
  have hlater : ∀ due ∈ later, task ∉ due.action.brings :=
    fun due hdue => hk due (List.mem_append_right _ hdue)
  have hs : (runs { host } before).Settled := runs_settled (fun _ => rfl) before
  have hl : task ∉ (runs { host } before).line := not_mem_line hbefore
  have hs' := happen_settled hs ⟨instant, .deliver task (.hover bare uri position)⟩
  have hcount := count_line_dispatch hs hl ⟨instant, .deliver task (.hover bare uri position)⟩
  rcases (runs_untouched host hbefore).dispatch hs hl instant hq with ⟨hout, h⟩ | ⟨hin, h⟩
  · rcases h.run hs' hout hcount hlater with ⟨hout', h'⟩ |
      ⟨between, due, rest, rfl, hout', hin, h'⟩
    · rw [← runs_cons] at h' hout'
      exact h'.outside hout'
    · rw [← runs_cons] at hout' hin h'
      exact .of_enteredWith rfl hout' hin h' fun d hd => hlater d (by simp [hd])
  · have hrun := h.run hs' (not_mem_waitingTasks hcount hin) hlater
    have hout : task ∉ ((runs { host } before).runs []).enteredTasks :=
      fun hin => hl (List.mem_append_left _ hin)
    exact .of_enteredWith rfl hout hin hrun hlater

/-- Without new settings, a hover enters with those that are in force already. -/
theorem EnteredWith.run_kept {t : Ticket} {s : Settings} {m : Machine} (h : m.EnteredWith t s)
    (hs : m.Settled) (hforce : m.inForce = s) {dues : List Due}
    (hk : ∀ due ∈ dues, t.task ∉ due.action.brings) (hkeep : ∀ due ∈ dues, due.keepsSettings) :
    (m.runs dues).EnteredWith t s := by
  induction dues generalizing m with
  | nil => exact h
  | cons due dues ih =>
    have hforce' : (m.happen due).inForce = s := by
      rw [inForce, happen_pipeline hs (hkeep due List.mem_cons_self)]
      exact hforce
    have hresponds : ({ m with now := due.instant }.respond due.action).inForce = s := by
      rw [← hforce', happen_eq hs, inForce, inForce, advance_server]
    have h' := h.happen hs (hk due List.mem_cons_self) fun t' ht' => ⟨ht', hresponds⟩
    exact ih h' (happen_settled hs due) hforce' (fun d hd => hk d (List.mem_cons_of_mem _ hd))
      fun d hd => hkeep d (List.mem_cons_of_mem _ hd)

/-- A hover that finds the section free, or after which no settings come, uses those that it was
dispatched under. -/
theorem dispatch_governs {m : Machine} {later : List Due} {task : Nat} (h : m.Untouched task)
    (hs : m.Settled) (hl : task ∉ m.line) (instant : Nat) {bare : Bool} {uri : String}
    {position : Position} {question : Server.Question}
    (hk : ∀ due ∈ later, task ∉ due.action.brings)
    (hq : m.server.guardedQuestion bare uri position = .ok (some question))
    (hsame : m.running = none ∨ ∀ due ∈ later, due.keepsSettings) :
    Governs m.inForce ⟨task, bare, uri, question⟩
      (m.runs (⟨instant, .deliver task (.hover bare uri position)⟩ :: later)) := by
  let t : Ticket := ⟨task, bare, uri, question⟩
  let ask : Due := ⟨instant, .deliver task (.hover bare uri position)⟩
  have hs' : (m.happen ask).Settled := happen_settled hs ask
  have hasked : (m.happen ask).EnteredWith t m.inForce :=
    h.happen_queued hs instant hq ⟨rfl, rfl⟩
  rcases hsame with free | hkeep
  · have hin : task ∈ (m.happen ask).enteredTasks := mem_enteredTasks_dispatch hs free instant hq
    have hgone := not_mem_waitingTasks (count_line_dispatch hs hl ask) hin
    exact (hasked.run hs' hgone hk).governs
  · have hforce : (m.happen ask).inForce = m.inForce := by
      rw [inForce, happen_pipeline hs rfl, inForce]
    exact (hasked.run_kept hs' hforce hk hkeep).governs

end Machine

/-- The symbol of a question is chosen by these settings: it is the one that they fix, or else the
one at the position of the text. -/
def Server.Question.ChosenBy (q : Server.Question) (s : Settings) (position : Position) : Prop :=
  match s.fixedSymbol with
  | some name => q.symbol = name ∧ q.range = none
  | none => ∃ found, Symbol.at? q.text.chars position = some found ∧
      q.symbol = .ofChars found.name ∧ q.range = some found.range

theorem Server.Question.IsAbout.chosenBy {q : Server.Question} {s : Server} {uri : String}
    {position : Position} (h : q.IsAbout s uri position) (hs : s.settingsShared) :
    q.ChosenBy s.settings position := by
  have hsymbol : s.pipeline.symbolSettings = s.settings := by
    rw [Server.settingsShared_iff.mp hs]
  unfold ChosenBy
  split
  · rename_i name hname
    exact h.fixed name (hsymbol ▸ hname)
  · rename_i hnone
    exact h.symbol (hsymbol ▸ hnone)

namespace Machine

/-- A hover meets the settings twice: its symbol is chosen by those in force when it is dispatched,
and its compile section uses those in force when it enters, whatever comes later. These are the same
if it need not wait, or if none come while it waits. -/
theorem hover_meets_settings_twice (host : Host) (before later : List Due) (instant task : Nat)
    (bare : Bool) (uri : String) (position : Position) (question : Server.Question)
    (once : ∀ due ∈ before ++ later, task ∉ due.action.brings)
    (asks : (Machine.runs { host } before).server.guardedQuestion bare uri position =
      .ok (some question)) :
    let asked := Machine.runs { host } before
    let t : Ticket := ⟨task, bare, uri, question⟩
    let dues := ⟨instant, .deliver task (.hover bare uri position)⟩ :: later
    question.ChosenBy asked.server.settings position ∧ asked.Governed t dues ∧
      (asked.running = none ∨ (∀ due ∈ later, due.keepsSettings) →
        Governs asked.server.settings t (asked.runs dues)) := by
  intro asked t dues
  have hbefore : ∀ due ∈ before, task ∉ due.action.brings :=
    fun due hdue => once due (List.mem_append_left _ hdue)
  have hlater : ∀ due ∈ later, task ∉ due.action.brings :=
    fun due hdue => once due (List.mem_append_right _ hdue)
  have hs : asked.Settled := runs_settled (fun _ => rfl) before
  refine ⟨?_, dispatch_governed once asks, fun hsame => ?_⟩
  · exact (Server.isAbout_of_guardedQuestion asks).chosenBy (runs_shared host before)
  · have hgoverns := dispatch_governs (runs_untouched host hbefore) hs (not_mem_line hbefore)
      instant hlater asks hsame
    rwa [runs_inForce] at hgoverns

namespace Sample

/-- A host with a second compiler. -/
def twoCompilers : Host where
  compilers := ("cc", [.runs {}]) :: Timeline.Sample.host.compilers

/-- Other settings come while the second hover waits, and then the first one ends. -/
def reconfiguring : List Due :=
  [⟨2, .deliver 4 (.configure
      (.record [("compilerPath", .text "cc"), ("fixedSymbol", .text "t")]) (.items .null))⟩,
    ⟨3, .exit⟩, ⟨3, .outputEnd⟩]

end Sample

/-- The second hover looks for the symbol of its dispatch with the compiler that was configured
while it waited. -/
theorem hover_meets_settings_twice_sample :
    let asked := Machine.runs { host := Sample.twoCompilers } Sample.opening
    let dues := Sample.second :: Sample.reconfiguring
    asked.Governed ⟨3, false, "a", Sample.question⟩ dues ∧
      asked.server.settings.compilerPath = "chpl" ∧
      (asked.runs dues).running.map (fun job => (job.ticket.task, job.ticket.question.symbol,
        job.settings.compilerPath, job.settings.fixedSymbol)) =
          some (3, .ofString "x", .ofString "cc", some (.ofString "t")) := by
  intro asked dues
  have hasks : asked.server.guardedQuestion false "a" ⟨0, 0⟩ = .ok (some Sample.question) := by
    decide +kernel
  exact ⟨(hover_meets_settings_twice Sample.twoCompilers Sample.opening Sample.reconfiguring 1 3
    false "a" ⟨0, 0⟩ Sample.question (by decide) hasks).2.1, by decide +kernel, by decide +kernel⟩

end Machine

end ChapelServer
