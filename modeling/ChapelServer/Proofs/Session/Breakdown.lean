import ChapelServer.Proofs.Server.Turn
import ChapelServer.Proofs.Session.Outcome

/-!
# Hovers that break down

A hover is answered, refused with the code and message of a failure, or cancelled, unless it breaks
down. That happens in three places only. Its text cannot be staged, because the system does not take
the name of the file or because the text has no UTF-8; the compiler cannot be started, because the
system does not take a word of the command; and the pass log cannot be searched, because the system
does not take its path or because the entry of the symbol has a numeral that is too long. In each of
them, the hover that is there does break down.
-/

namespace ChapelServer

/-! ## Searching a pass log -/

/-- A pass log cannot be searched for a symbol, for this fault. -/
inductive Disk.Obstructs (d : Disk) (path : Path) (symbol : Text) : Fault → Prop
  | path {flaw : Text.Flaw} (flawed : path.flaw? = some flaw) : Obstructs d path symbol (.path flaw)
  | overlong {bytes : List UInt8} {name : List Char} {fields : PassLog.Fields}
    (read : d.read path = .ok bytes) (plain : symbol.chars? = some name)
    (first : PassLog.firstFrom? name false (PassLog.textOfBytes bytes) = some fields)
    (long : Number.maxDigits < fields.id.length ∨ Number.maxDigits < fields.line.length) :
    Obstructs d path symbol .numeralTooLong

namespace Disk

variable {d : Disk} {path : Path} {symbol : Text}

theorem read_flawed_iff {flaw : Text.Flaw} :
    d.read path = .error (.flawed flaw) ↔ path.flaw? = some flaw := by
  unfold read
  cases path.flaw? with
  | some other => simp
  | none =>
    refine ⟨fun h => ?_, nofun⟩
    simp only at h
    split at h <;> cases h

/-- The search of a pass log breaks down exactly at one of the two obstacles. -/
theorem findEntry_fault_iff {fault : Fault} :
    d.findEntry path symbol = .error (.fault fault) ↔ d.Obstructs path symbol fault := by
  constructor
  · intro h
    unfold findEntry at h
    split at h
    · rename_i hread
      obtain rfl := Stop.fault.inj (Except.error.inj h)
      exact .path (read_flawed_iff.mp hread)
    · split at h <;> cases h
    · rename_i bytes hread
      split at h
      · cases h
      · rename_i name hplain
        split at h
        · cases h
        · rename_i e hfind
          obtain rfl := Stop.fault.inj (Except.error.inj h)
          obtain ⟨fields, hfirst, hlong⟩ := PassLog.find_error_iff.mp ⟨e, hfind⟩
          exact .overlong hread hplain hfirst hlong
  · intro h
    cases h with
    | path flawed => simp only [findEntry, read_flawed_iff.mpr flawed]
    | overlong read plain first long =>
      obtain ⟨e, he⟩ := PassLog.find_error_iff.mpr ⟨_, first, long⟩
      simp only [findEntry, read, plain, he]

end Disk

/-! ## Answers -/

/-- The codes that a hover may be refused with. -/
def Stage.codes : List Int :=
  all.filterMap code?

theorem Stage.code_mem {code : Int} (stage : Stage) (h : stage.code? = some code) :
    code ∈ Stage.codes := by
  have hall : stage ∈ all := by cases stage <;> decide
  exact List.mem_filterMap.mpr ⟨stage, hall, h⟩

/-- What a hover may come to without a breakdown: what it shows or that there is nothing to show, a
refusal with the code of a stage, or its cancellation. -/
def Outcome.isAnswer : Outcome → Bool
  | .hover _ | .cancelled => true
  | .refused failure => failure.code ∈ Stage.codes
  | _ => false

/-- A compile section ends without a fault, and with a code of a stage if it fails. -/
def Ending.isSound : Ending → Bool
  | .stopped (.failure failure) => failure.code ∈ Stage.codes
  | .stopped (.fault _) => false
  | _ => true

theorem Ticket.outcome_isAnswer {t : Ticket} (hbare : t.bare = false) {ending : Ending}
    (h : ending.isSound) : (t.outcome ending).isAnswer := by
  cases ending with
  | found entry => simp [Ticket.outcome, hbare, Outcome.isAnswer]
  | cancelled => rfl
  | stopped stop =>
    cases stop with
    | fault fault => cases h
    | failure failure =>
      rw [Passage.outcome_failure hbare]
      exact h

theorem Disk.findEntry_failure {d : Disk} {path : Path} {symbol : Text} {failure : Failure}
    (h : d.findEntry path symbol = .error (.failure failure)) : failure.code ∈ Stage.codes := by
  unfold findEntry at h
  split at h
  · cases h
  · split at h
    · obtain rfl := Stop.failure.inj (Except.error.inj h)
      exact Stage.code_mem .noLog rfl
    · obtain rfl := Stop.failure.inj (Except.error.inj h)
      exact Stage.code_mem .unreadable rfl
  · split at h
    · cases h
    · split at h <;> cases h

/-- A hover of the handler, which is not bare. -/
def Request.isHandled : Request → Bool
  | .hover bare _ _ => !bare
  | _ => false

/-- What a turn brings of a task is a hover of the handler. -/
def Turn.onlyHovers (task : Nat) : Turn → Bool
  | .due ⟨_, .deliver other request⟩ => other != task || request.isHandled
  | .due _ | .pull => true
  | .answer other _ _ => other != task

namespace Machine

theorem question_code {s : Server} {uri : String} {position : Position} {failure : Failure}
    (h : s.guardedQuestion false uri position = .error failure) : failure.code ∈ Stage.codes := by
  rcases Passage.guardedQuestion_error (p := ⟨s, uri, position, {}⟩) h with
    ⟨-, hcode⟩ | ⟨-, -, hcode⟩
  · exact Stage.code_mem .notInitialized (congrArg some hcode.symm)
  · exact Stage.code_mem .notOpen (congrArg some hcode.symm)

/-- A process that has exited lets the hover end soundly, unless its pass log cannot be searched. -/
theorem endingOf_isSound (m : Machine) (job : Job) :
    (m.endingOf job).isSound = true ∨
      ∃ fault, m.endingOf job = .stopped (.fault fault) ∧ job.run.status = 0 ∧
        m.disk.Obstructs job.artifact job.ticket.question.symbol fault := by
  by_cases hstatus : job.run.status = 0
  · rw [endingOf_of_status hstatus]
    cases hfind : m.disk.findEntry job.artifact job.ticket.question.symbol with
    | ok entry => exact .inl rfl
    | error stop =>
      cases stop with
      | failure failure =>
        have hcode := Disk.findEntry_failure hfind
        exact .inl (by simpa [Ending.ofSearch, Ending.isSound] using hcode)
      | fault fault =>
        exact .inr ⟨fault, rfl, hstatus, Disk.findEntry_fault_iff.mp hfind⟩
  · rw [endingOf, if_neg hstatus]
    exact .inl rfl

/-! ## Where hovers break down -/

/-- At this step, the hover of a task breaks down with this fault. -/
inductive Breaks (m : Machine) (task : Nat) : Fault → Machine → Prop
  /-- It has a work directory, without an old log directory in it, but its text cannot be staged. -/
  | staging {t : Ticket} {queue : List Ticket} {cleared : Disk} {fault : Fault}
    (free : m.running = none) (next : m.waiting = t :: queue) (own : t.task = task)
    (made : m.refusesDirectory = false)
    (removed : Staging.removeLogDir m.inForce m.nextDirectory
      (m.disk.makeWork m.nextDirectory m.host.leftovers) = (cleared, none))
    (obstructed : Staging.Obstructs m.inForce m.nextDirectory t.question.text cleared fault) :
    Breaks m task fault ({ m with waiting := queue }.enter t)
  /-- Its text is staged, but the system does not take a word of the command. -/
  | starting {t : Ticket} {queue : List Ticket} {disk : Disk} {artifact : Path} {flaw : Text.Flaw}
    (free : m.running = none) (next : m.waiting = t :: queue) (own : t.task = task)
    (made : m.refusesDirectory = false)
    (staged : m.staging t.question.text = (disk, .ok artifact))
    (flawed : m.host.flaw? m.nextCommand = some flaw) :
    Breaks m task (.command flaw) ({ m with waiting := queue }.enter t)
  /-- Its process has ended with status zero, but the pass log cannot be searched. -/
  | reading {job : Job} {fault : Fault} (instant : Nat) (runs : m.running = some job)
    (own : job.ticket.task = task) (exited : job.exited = true) (status : job.run.status = 0)
    (obstructed : m.disk.Obstructs job.artifact job.ticket.question.symbol fault) :
    Breaks m task fault ({ m with now := instant }.respond .outputEnd)

/-- One step of a run in which answers about the configuration may come late. -/
inductive Stride : Machine → Machine → Prop
  | move {m m' : Machine} (h : Move m m') : Stride m m'
  | pull (m : Machine) : Stride m (m.turn .pull)
  | answer (m : Machine) (task : Nat) (settings : Value) (reply : ClientReply) :
    Stride m (m.turn (.answer task settings reply))

/-- A state that the machine passes through later, or the same, if answers may come late. -/
abbrev Strides : Machine → Machine → Prop :=
  Relation.ReflTransGen Stride

/-- On the way from one machine to another, the hover of a task has broken down with this fault. -/
def BrokeDown (origin : Machine) (task : Nat) (fault : Fault) (m : Machine) : Prop :=
  ∃ before after, Strides origin before ∧ Breaks before task fault after ∧ Strides after m

theorem BrokeDown.tail {origin m m' : Machine} {task : Nat} {fault : Fault}
    (h : BrokeDown origin task fault m) (hm : Stride m m') : BrokeDown origin task fault m' := by
  obtain ⟨before, after, hcome, hbreaks, hgo⟩ := h
  exact ⟨before, after, hcome, hbreaks, hgo.tail hm⟩

theorem Entry.mem_unstaged {m m' : Machine} {t : Ticket} {stop : Stop} (h : Entry m t m')
    (hd : m.refusesDirectory = false) (hs : (m.staging t.question.text).2 = .error stop) :
    (t.task, t.outcome (.stopped stop)) ∈ m'.outcomes := by
  cases h with
  | refused hd' => simp [hd] at hd'
  | unstaged hd' hs' =>
    rw [hs'] at hs
    obtain rfl := Except.error.inj hs
    exact List.mem_append_right _ List.mem_cons_self
  | unstarted hd' hs' => simp [hs'] at hs
  | started hd' hs' => simp [hs'] at hs

theorem Entry.mem_unstarted {m m' : Machine} {t : Ticket} {disk : Disk} {artifact : Path}
    {stop : Stop} (h : Entry m t m') (hd : m.refusesDirectory = false)
    (hs : m.staging t.question.text = (disk, .ok artifact))
    (hr : (m.starting disk).2 = .error stop) :
    (t.task, t.outcome (.stopped stop)) ∈ m'.outcomes := by
  cases h with
  | refused hd' => simp [hd] at hd'
  | unstaged hd' hs' => simp [hs] at hs'
  | unstarted hd' hs' hr' =>
    obtain ⟨rfl, -⟩ := Prod.mk.inj (hs'.symm.trans hs)
    obtain rfl := Except.error.inj (hr'.symm.trans hr)
    exact List.mem_append_right _ List.mem_cons_self
  | started hd' hs' hr' =>
    obtain ⟨rfl, -⟩ := Prod.mk.inj (hs'.symm.trans hs)
    cases hr'.symm.trans hr

theorem mem_outputEnd {m : Machine} {job : Job} (hr : m.running = some job)
    (hx : job.exited = true) :
    (job.ticket.task, job.ticket.outcome (m.endingOf job)) ∈ (m.respond .outputEnd).outcomes := by
  simp only [respond, conclusion, hr, hx, if_true, readLog_eq, vacate_eq]
  exact List.mem_append_right _ List.mem_cons_self

/-- The hover that is there does break down. -/
theorem Breaks.mem_outcomes {m m' : Machine} {task : Nat} {fault : Fault}
    (h : Breaks m task fault m') : (task, .faulted fault) ∈ m'.outcomes := by
  cases h with
  | @staging t queue cleared fault free next own made removed obstructed =>
    subst own
    have hstage : (({ m with waiting := queue } : Machine).staging t.question.text).2 =
        .error (.fault fault) := by
      refine congrArg Prod.snd (Staging.stage_of_unwritten (congrArg Prod.snd removed) ?_)
      rw [removed]
      exact obstructed.writeSource
    exact (entry { m with waiting := queue } t).mem_unstaged made hstage
  | @starting t queue disk artifact flaw free next own made staged flawed =>
    subst own
    have hstart : (({ m with waiting := queue } : Machine).starting disk).2 =
        .error (.fault (.command flaw)) := congrArg Prod.snd (Host.start_of_flaw flawed)
    exact (entry { m with waiting := queue } t).mem_unstarted made staged hstart
  | @reading job fault instant runs own exited status obstructed =>
    subst own
    have hending : ({ m with now := instant } : Machine).endingOf job =
        .stopped (.fault fault) := by
      rw [endingOf_of_status status, Disk.findEntry_fault_iff.mpr obstructed]
      rfl
    have hmem := mem_outputEnd (m := { m with now := instant }) runs exited
    rwa [hending] at hmem

theorem Stride.mem_outcomes {m m' : Machine} (h : Stride m m') {x : Nat × Outcome}
    (hx : x ∈ m.outcomes) : x ∈ m'.outcomes := by
  cases h with
  | move hm => exact hm.mem_outcomes hx
  | pull => exact hx
  | answer task settings reply =>
    rw [turn, absorb_eq]
    exact List.mem_append_left _ hx

/-- A breakdown stays on record. -/
theorem BrokeDown.mem_outcomes {origin m : Machine} {task : Nat} {fault : Fault}
    (h : BrokeDown origin task fault m) : (task, .faulted fault) ∈ m.outcomes := by
  obtain ⟨before, after, -, hbreaks, hgo⟩ := h
  induction hgo with
  | refl => exact hbreaks.mem_outcomes
  | tail _ hstride ih => exact hstride.mem_outcomes ih

/-! ## What comes of a hover -/

/-- A hover of this task is answered or has broken down on the way here, and only hovers of the
handler are in flight for it. -/
structure Accounted (origin : Machine) (task : Nat) (m : Machine) : Prop where
  comes : Strides origin m
  named : m.server.Named
  waits : ∀ t ∈ m.waiting, t.task = task → t.bare = false
  runs : ∀ job, m.running = some job → job.ticket.task = task → job.ticket.bare = false
  ended : ∀ o, (task, o) ∈ m.outcomes →
    o.isAnswer = true ∨ ∃ fault, o = .faulted fault ∧ BrokeDown origin task fault m

section Step

variable {origin m m' : Machine} {task : Nat}

/-- What is new after a step is an answer, or comes of the breakdown at this step. -/
theorem Accounted.extend (h : Accounted origin task m) (stride : Stride m m')
    (named : m'.server.Named)
    (waits : ∀ t ∈ m'.waiting, t.task = task → t.bare = false)
    (runs : ∀ job, m'.running = some job → job.ticket.task = task → job.ticket.bare = false)
    (more : List (Nat × Outcome)) (houtcomes : m'.outcomes = m.outcomes ++ more)
    (hmore : ∀ o, (task, o) ∈ more →
      o.isAnswer = true ∨ ∃ fault, o = .faulted fault ∧ Breaks m task fault m') :
    Accounted origin task m' where
  comes := h.comes.tail stride
  named := named
  waits := waits
  runs := runs
  ended o ho := by
    rw [houtcomes] at ho
    rcases List.mem_append.mp ho with hold | hnew
    · rcases h.ended o hold with hanswer | ⟨fault, rfl, hbroke⟩
      · exact .inl hanswer
      · exact .inr ⟨fault, rfl, hbroke.tail stride⟩
    · rcases hmore o hnew with hanswer | ⟨fault, rfl, hbreaks⟩
      · exact .inl hanswer
      · exact .inr ⟨fault, rfl, m, m', h.comes, hbreaks, .refl⟩

/-- The only thing that is new is what comes of one hover. -/
theorem single_outcome {t : Ticket} (hbare : t.task = task → t.bare = false) {ending : Ending}
    (hending : t.task = task → ending.isSound = true ∨
      ∃ fault, ending = .stopped (.fault fault) ∧ Breaks m task fault m') :
    ∀ o, (task, o) ∈ [(t.task, t.outcome ending)] →
      o.isAnswer = true ∨ ∃ fault, o = .faulted fault ∧ Breaks m task fault m' := by
  intro o ho
  obtain ⟨htask, rfl⟩ := Prod.mk.inj (List.mem_singleton.mp ho)
  rcases hending htask.symm with hsound | ⟨fault, rfl, hbreaks⟩
  · exact .inl (Ticket.outcome_isAnswer (hbare htask.symm) hsound)
  · exact .inr ⟨fault, rfl, hbreaks⟩

/-- A fault of staging is a breakdown where the hover enters. -/
theorem Breaks.of_unstaged {t : Ticket} {queue : List Ticket} (named : m.server.Named)
    (free : m.running = none) (next : m.waiting = t :: queue) (own : t.task = task)
    (made : ({ m with waiting := queue } : Machine).refusesDirectory = false) {fault : Fault}
    (hs : (({ m with waiting := queue } : Machine).staging t.question.text).2 =
      .error (.fault fault)) :
    Breaks m task fault ({ m with waiting := queue }.enter t) := by
  obtain ⟨hremoved, hobstructs⟩ := (Staging.stage_fault_iff named).mp hs
  exact .staging free next own made (Prod.ext rfl hremoved) hobstructs

/-- A fault of starting the compiler is a breakdown where the hover enters. -/
theorem Breaks.of_unstarted {t : Ticket} {queue : List Ticket} (free : m.running = none)
    (next : m.waiting = t :: queue) (own : t.task = task)
    (made : ({ m with waiting := queue } : Machine).refusesDirectory = false) {disk : Disk}
    {artifact : Path} {fault : Fault}
    (hs : ({ m with waiting := queue } : Machine).staging t.question.text = (disk, .ok artifact))
    (hr : (({ m with waiting := queue } : Machine).starting disk).2 = .error (.fault fault)) :
    Breaks m task fault ({ m with waiting := queue }.enter t) := by
  obtain ⟨flaw, hflaw, rfl⟩ := Host.start_fault_iff.mp hr
  exact .starting free next own made hs hflaw

theorem Accounted.enter {t : Ticket} {queue : List Ticket} (h : Accounted origin task m)
    (free : m.running = none) (next : m.waiting = t :: queue) :
    Accounted origin task ({ m with waiting := queue }.enter t) := by
  have hstride : Stride m ({ m with waiting := queue }.enter t) := .move (.enter free next)
  have hentry := entry { m with waiting := queue } t
  have hbare : t.task = task → t.bare = false := h.waits t (next ▸ List.mem_cons_self)
  have hqueue : ∀ t' ∈ queue, t'.task = task → t'.bare = false :=
    fun t' ht' => h.waits t' (next ▸ List.mem_cons_of_mem _ ht')
  have hunstaged := @Breaks.of_unstaged m task t queue h.named free next
  have hunstarted := @Breaks.of_unstarted m task t queue free next
  -- How the hover enters is all that is needed of the machine after it from here on.
  generalize { m with waiting := queue }.enter t = m' at hstride hentry hunstaged hunstarted ⊢
  cases hentry with
  | refused hd =>
    refine h.extend hstride h.named hqueue (by simp [free]) _ rfl (single_outcome hbare fun _ => ?_)
    exact .inl rfl
  | @unstaged _ stop hd hs =>
    refine h.extend hstride h.named hqueue (by simp [free]) _ rfl
      (single_outcome hbare fun own => ?_)
    have hs' := congrArg Prod.snd hs
    cases stop with
    | failure failure =>
      obtain ⟨report, rfl⟩ := Staging.stage_failure h.named hs'
      exact .inl rfl
    | fault fault => exact .inr ⟨fault, rfl, hunstaged own hd hs'⟩
  | @unstarted disk artifact stop hd hs hr =>
    refine h.extend hstride h.named hqueue (by simp [free]) _ rfl
      (single_outcome hbare fun own => ?_)
    cases stop with
    | failure failure =>
      obtain ⟨report, rfl⟩ := Host.start_failure hr
      exact .inl rfl
    | fault fault => exact .inr ⟨fault, rfl, hunstarted own hd hs hr⟩
  | started hd hs hr =>
    refine h.extend hstride h.named hqueue ?_ [] (by simp) (by simp)
    intro job hjob htask
    obtain rfl := Option.some.inj hjob
    exact hbare htask

theorem Accounted.advance (h : Accounted origin task m) : Accounted origin task m.advance :=
  advance_induct (fun free next h => h.enter free next) h

theorem Accounted.deliver (h : Accounted origin task m) (settled : m.Settled) (instant : Nat)
    {other : Nat} {request : Request} (hk : other = task → request.isHandled = true) :
    Accounted origin task ({ m with now := instant }.respond (.deliver other request)) := by
  have hstride : Stride m ({ m with now := instant }.respond (.deliver other request)) :=
    .move (.respond m ⟨instant, .deliver other request⟩ settled)
  cases hh : handled? m.server request with
  | some handled =>
    -- A message that is handled in one go is no hover, so it is not of this task.
    have hother : task ≠ other := by
      intro he
      have hhover := hk he.symm
      cases request with
      | hover bare uri position => cases hh
      | _ => cases hhover
    have hnamed := (m.server.after_renewed request).named h.named
    rw [Server.after_of_handled hh] at hnamed
    rw [respond_absorb (m := { m with now := instant }) hh, absorb_eq] at hstride ⊢
    exact h.extend hstride hnamed h.waits h.runs _ rfl (by simp [hother])
  | none =>
    cases request with
    | hover bare uri position =>
      have hbare : other = task → bare = false := by simpa [Request.isHandled] using hk
      simp only [respond, enqueue] at hstride ⊢
      cases hq : m.server.guardedQuestion bare uri position with
      | error failure =>
        simp only [hq, fail_eq] at hstride ⊢
        refine h.extend hstride h.named h.waits h.runs _ rfl fun o ho => .inl ?_
        obtain ⟨htask, rfl⟩ := Prod.mk.inj (List.mem_singleton.mp ho)
        obtain rfl := hbare htask.symm
        exact decide_eq_true (question_code hq)
      | ok question? =>
        simp only [hq] at hstride ⊢
        cases question? with
        | none =>
          refine h.extend hstride h.named h.waits h.runs _ rfl fun o ho => .inl ?_
          obtain ⟨htask, rfl⟩ := Prod.mk.inj (List.mem_singleton.mp ho)
          obtain rfl := hbare htask.symm
          rfl
        | some question =>
          refine h.extend hstride h.named ?_ h.runs [] (by simp) (by simp)
          intro t ht htask
          rcases List.mem_append.mp ht with hold | hnew
          · exact h.waits t hold htask
          · obtain rfl := List.mem_singleton.mp hnew
            exact hbare htask
    | _ => cases hh

/-- What is no message lets the hover that compiles leave its section, with a breakdown if its pass
log cannot be searched, or one that waits leave the queue. -/
theorem Accounted.respond (h : Accounted origin task m) (settled : m.Settled) (instant : Nat)
    {action : Action} (hd : ∀ other request, action ≠ .deliver other request) :
    Accounted origin task ({ m with now := instant }.respond action) := by
  have hstride : Stride m ({ m with now := instant }.respond action) :=
    .move (.respond m ⟨instant, action⟩ settled)
  have hresponse := response { m with now := instant } action
  have hbreaks {job : Job} {fault : Fault} (ha : action = .outputEnd) (hr : m.running = some job)
      (own : job.ticket.task = task) (hx : job.exited = true) (hstatus : job.run.status = 0)
      (ho : m.disk.Obstructs job.artifact job.ticket.question.symbol fault) :
      Breaks m task fault ({ m with now := instant }.respond action) :=
    ha ▸ .reading instant hr own hx hstatus ho
  generalize { m with now := instant }.respond action = m' at hstride hresponse hbreaks ⊢
  cases hresponse with
  | absorbed | dismissed | queued => exact absurd rfl (hd _ _)
  | @exited job hr hx =>
    refine h.extend hstride h.named h.waits ?_ [] (by simp) (by simp)
    intro job' hjob' htask
    obtain rfl := Option.some.inj hjob'
    exact h.runs job hr htask
  | @left _ job moments ending hr hl =>
    refine h.extend hstride h.named h.waits (by simp) _ rfl
      (single_outcome (h.runs job hr) fun own => ?_)
    cases hl with
    | finished hx =>
      rcases endingOf_isSound { m with now := instant } job with
        hsound | ⟨fault, hending, hstatus, hobstructs⟩
      · exact .inl hsound
      · exact .inr ⟨fault, hending, hbreaks rfl hr own hx hstatus hobstructs⟩
    | expired | interrupted => exact .inl rfl
  | dequeued hr hw =>
    refine h.extend hstride h.named (fun t ht => h.waits t (List.mem_filter.mp ht).1) h.runs _ rfl
      fun o ho => .inl ?_
    obtain ⟨-, rfl⟩ := Prod.mk.inj (List.mem_singleton.mp ho)
    rfl
  | idle hi => exact h.extend hstride h.named h.waits h.runs [] (by simp) (by simp)

theorem Accounted.turn (h : Accounted origin task m) (settled : m.Settled) {turn : Turn}
    (hk : turn.onlyHovers task) : Accounted origin task (m.turn turn) := by
  cases turn with
  | pull =>
    exact h.extend (.pull m) h.named h.waits h.runs [] (by simp [Machine.turn, emit]) (by simp)
  | answer other settings reply =>
    have hother : task ≠ other := by
      have hne : other ≠ task := by simpa [Turn.onlyHovers] using hk
      exact hne.symm
    have hstride := Stride.answer m other settings reply
    simp only [Machine.turn, absorb_eq] at hstride ⊢
    exact h.extend hstride ((m.server.resume_renewed settings reply).named h.named) h.waits h.runs
      _ rfl (by simp [hother])
  | due due =>
    obtain ⟨instant, action⟩ := due
    rw [Machine.turn, happen_eq settled]
    cases action with
    | deliver other request =>
      refine (h.deliver settled instant fun he => ?_).advance
      simpa [Turn.onlyHovers, he] using hk
    | _ => exact (h.respond settled instant (by simp)).advance

theorem Accounted.turns {turns : List Turn} (h : Accounted origin task m) (settled : m.Settled)
    (hk : ∀ turn ∈ turns, turn.onlyHovers task) : Accounted origin task (m.turns turns) := by
  induction turns generalizing m with
  | nil => exact h
  | cons turn turns ih =>
    exact ih (h.turn settled (hk turn List.mem_cons_self)) (turn_settled settled turn)
      fun t ht => hk t (List.mem_cons_of_mem _ ht)

end Step

namespace Sample

end Sample

end Machine

end ChapelServer
