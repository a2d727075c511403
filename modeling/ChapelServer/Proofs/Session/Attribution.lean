import ChapelServer.Proofs.Compilation.Confinement
import ChapelServer.Proofs.Session.Outcome
import ChapelServer.Proofs.Session.Serial

/-!
# Where the work of a hover comes from

Whatever is on the way at once, what a process is started with, what is searched for in a pass log
and what a hover is answered can be traced back to one question and to one value of the settings:
those that the hover had when it entered its compile section.
-/

namespace ChapelServer

/-- The ways in which the compile section of a hover ends that was entered with these settings, on a
server with this room for texts. -/
inductive Ticket.Ends (t : Ticket) (s : Settings) (room : Nat) : Ending → Prop
  | noDirectory : Ends t s room Machine.noDirectory
  | unstaged {n : Nat} {d : Disk} {stop : Stop}
    (hs : (Staging.stage s room n t.question.text d).2 = .error stop) :
    Ends t s room (.stopped stop)
  | badCommand {n : Nat} {word : Text} {flaw : Text.Flaw} (hw : word ∈ Staging.command s n)
    (hf : word.flaw? = some flaw) : Ends t s room (.stopped (.fault (.command flaw)))
  | notFound : Ends t s room (.stopped (.failure (.compilerNotFound s.compilerPath)))
  | refused (error : OsError) : Ends t s room (.stopped (.failure
      (Host.refusal s.compilerPath error (Text.quotedString s.compilerPath))))
  | sourceless (n : Nat) (error : OsError) : Ends t s room (.stopped (.failure
      (Host.refusal s.compilerPath error (Staging.namedPath s n).quoted)))
  | expired : Ends t s room (.stopped (.failure (.compilationTimeout s.compilerTimeout)))
  | badStatus (status : Int) (stderr : List UInt8) :
    Ends t s room (.stopped (.failure (.exitStatus s.compilerPath status (tailOfBytes stderr))))
  | searched {n : Nat} {artifact : Path} (d : Disk)
    (ha : Staging.artifactPath s room n = .ok artifact) :
    Ends t s room (.ofSearch (d.findEntry artifact t.question.symbol))
  | cancelled : Ends t s room .cancelled

/-- A work directory is made at this moment, or a process is started. -/
def Moment.isStart : Moment → Bool
  | .made _ _ | .event (.spawn _ _ _ _ _ _) => true
  | _ => false

theorem Moment.isStart_of_spoken {e : Event} (h : e.isSpoken) :
    (Moment.event e).isStart = false := by
  cases e <;> simp_all [Event.isSpoken, isStart]

theorem isStart_of_mem_spoken_done {spoken : List Event} (h : ∀ e ∈ spoken, e.isSpoken)
    (task : Nat) : ∀ x ∈ (spoken ++ [Event.done task]).map Moment.event, x.isStart = false := by
  intro x hx
  obtain ⟨e, he, rfl⟩ := List.mem_map.mp hx
  rcases List.mem_append.mp he with he | he
  · exact Moment.isStart_of_spoken (h e he)
  · rw [List.mem_singleton.mp he]
    rfl

theorem Ticket.closing_isStart (t : Ticket) (ending : Ending) :
    ∀ x ∈ (t.closing ending).map Moment.event, x.isStart = false := by
  obtain ⟨spoken, hspoken, heq⟩ := t.closing_eq ending
  rw [heq]
  exact isStart_of_mem_spoken_done hspoken t.task

/-- What was staged can be read back, and the pass log has the name that the settings give it. -/
theorem Staging.stage_read {s : Settings} {room n : Nat} {text : Text} {d d' : Disk}
    {artifact : Path} (h : Staging.stage s room n text d = (d', .ok artifact)) :
    Staging.artifactPath s room n = .ok artifact ∧
      ∃ bytes, text.utf8? = some bytes ∧ d'.read (Staging.sourcePath s n) = .ok bytes := by
  obtain ⟨-, hwritten, rfl, hartifact⟩ := Staging.stage_ok h
  obtain ⟨names, hparts, -⟩ := Staging.sourcePath_parts s n
  obtain ⟨bytes, hutf, hwrite⟩ := Staging.writeSource_ok hwritten
  exact ⟨hartifact, bytes, hutf, Disk.read_write (by simp [hparts]) hwrite⟩

namespace Machine

/-! ## Starts -/

/-- What happens before a work directory is removed: its pass log is read, something is spoken, or
its process is killed and waited for. -/
theorem Leaves.mem_moments {m : Machine} {job : Job} {action : Action} {moments : List Moment}
    {ending : Ending} (h : Leaves m job action moments ending) {x : Moment} (hx : x ∈ moments) :
    x = .read job.directory ∨
      ∃ e, x = .event e ∧ (e.isSpoken ∨ e = .kill job.process ∨ e = .wait job.process) := by
  cases h with
  | finished =>
    rcases List.mem_append.mp hx with hread | hnotice
    · split at hread
      · exact .inl (List.mem_singleton.mp hread)
      · simp at hread
    · obtain ⟨e, he, rfl⟩ := List.mem_map.mp hnotice
      exact .inr ⟨e, rfl, .inl (missingNotice_spoken m job e he)⟩
  | expired | interrupted =>
    obtain ⟨e, he, rfl⟩ := List.mem_map.mp hx
    refine .inr ⟨e, rfl, ?_⟩
    simp only [stopEvents, List.mem_append, List.mem_cons, List.not_mem_nil, or_false] at he
    rcases he with he | rfl | rfl
    · split at he
      · simp at he
      · exact .inr (.inl (List.mem_singleton.mp he))
    · exact .inr (.inr rfl)
    · exact .inl rfl

theorem Leaves.isStart {m : Machine} {job : Job} {action : Action} {moments : List Moment}
    {ending : Ending} (h : Leaves m job action moments ending) :
    ∀ x ∈ moments, x.isStart = false := by
  intro x hx
  rcases h.mem_moments hx with rfl | ⟨e, rfl, he | rfl | rfl⟩
  · rfl
  · exact Moment.isStart_of_spoken he
  · rfl
  · rfl

/-- No action makes a work directory or starts a process by itself. -/
theorem Response.starts {m m' : Machine} {action : Action} (h : Response m action m') :
    ∃ more, m'.trace = m.trace ++ more ∧ ∀ x ∈ more, x.isStart = false := by
  cases h with
  | @absorbed task request handled hh =>
    exact ⟨_, rfl, isStart_of_mem_spoken_done (handled?_spoken hh) task⟩
  | @dismissed task _ _ _ _ _ hq spoken =>
    exact ⟨_, rfl, isStart_of_mem_spoken_done spoken task⟩
  | queued | idle => exact ⟨[], by simp, by simp⟩
  | exited => exact ⟨_, rfl, by simp [Moment.isStart]⟩
  | @left _ job moments ending hr hl =>
    refine ⟨_, rfl, fun x hx => ?_⟩
    rcases List.mem_append.mp hx with hx | hx
    · exact hl.isStart x hx
    · rcases List.mem_cons.mp hx with rfl | hx
      · rfl
      · exact job.ticket.closing_isStart ending x hx
  | dequeued => exact ⟨_, rfl, by simp [Moment.isStart]⟩

/-- Entering makes at most one work directory, a new one, for the hover that enters. -/
theorem Entry.made {m m' : Machine} {t : Ticket} (h : Entry m t m') {task n : Nat}
    (hmem : .made task n ∈ m'.trace) :
    .made task n ∈ m.trace ∨ task = t.task ∧ n = m.nextDirectory ∧ m'.directories = n := by
  cases h with
  | refused => exact .inl (by simpa using hmem)
  | unstaged | unstarted | started =>
    simp only [List.mem_append, List.mem_cons, List.mem_map, List.not_mem_nil, reduceCtorEq,
      Moment.made.injEq, false_or, and_false, exists_false, or_false] at hmem
    rcases hmem with hold | ⟨htask, hn⟩
    · exact .inl hold
    · exact .inr ⟨htask, hn, hn.symm⟩

/-- Entering starts at most one process, in the new work directory. -/
theorem Entry.spawned {m m' : Machine} {t : Ticket} (h : Entry m t m') {p n : Nat}
    {command names : List Text} {source : Text} {opened : Option (List UInt8)}
    (hmem : .event (.spawn p command n source opened names) ∈ m'.trace) :
    .event (.spawn p command n source opened names) ∈ m.trace ∨
      n = m.nextDirectory ∧ m'.directories = n ∧ command = m.nextCommand ∧
        source = t.question.text := by
  have hclosing (ending : Ending) :
      .event (.spawn p command n source opened names) ∉ (t.closing ending).map Moment.event := by
    intro hx
    cases t.closing_isStart ending _ hx
  cases h with
  | refused | unstaged | unstarted =>
    simp only [List.mem_append, List.mem_cons, reduceCtorEq, Moment.event.injEq, false_or] at hmem
    exact .inl (hmem.resolve_right (hclosing _))
  | started =>
    simp only [List.mem_append, List.mem_cons, reduceCtorEq, Moment.event.injEq, false_or,
      List.not_mem_nil, or_false, Event.spawn.injEq] at hmem
    rcases hmem with hold | ⟨-, hcommand, hn, hsource, -⟩
    · exact .inl hold
    · exact .inr ⟨hn, hn.symm, hcommand, hsource⟩

/-- The work directories that were made or started in have the numbers given so far. -/
structure Numbered (m : Machine) : Prop where
  made : ∀ {task n : Nat}, .made task n ∈ m.trace → n ≤ m.directories
  spawned : ∀ {p n : Nat} {command names : List Text} {source : Text}
    {opened : Option (List UInt8)},
    .event (.spawn p command n source opened names) ∈ m.trace → n ≤ m.directories

theorem Response.mem_start_iff {m m' : Machine} {action : Action} (h : Response m action m')
    {x : Moment} (hx : x.isStart = true) : x ∈ m'.trace ↔ x ∈ m.trace := by
  obtain ⟨more, htrace, hmore⟩ := h.starts
  rw [htrace, List.mem_append, or_iff_left]
  intro hmem
  rw [hmore x hmem] at hx
  cases hx

theorem Response.numbered {m m' : Machine} {action : Action} (h : Response m action m')
    (hm : m.Numbered) : m'.Numbered := by
  have hdirectories : m'.directories = m.directories := by cases h <;> rfl
  constructor
  · intro task n hmem
    rw [hdirectories]
    exact hm.made ((h.mem_start_iff rfl).mp hmem)
  · intro p n command names source opened hmem
    rw [hdirectories]
    exact hm.spawned ((h.mem_start_iff rfl).mp hmem)

theorem Entry.numbered {m m' : Machine} {t : Ticket} (h : Entry m t m') (hm : m.Numbered) :
    m'.Numbered := by
  have hle : m.directories ≤ m'.directories := by
    cases h <;> simp [nextDirectory]
  constructor
  · intro task n hmem
    rcases h.made hmem with hold | ⟨-, -, hn⟩
    · exact Nat.le_trans (hm.made hold) hle
    · exact Nat.le_of_eq hn.symm
  · intro p n command names source opened hmem
    rcases h.spawned hmem with hold | ⟨-, hn, -⟩
    · exact Nat.le_trans (hm.spawned hold) hle
    · exact Nat.le_of_eq hn.symm

/-! ## Prepared jobs -/

/-- The pass log of the hover that compiles is named by its settings, and its text stands in the
staged file as long as its process has not exited. -/
structure Prepared (m : Machine) : Prop where
  artifact : ∀ {job : Job}, m.running = some job →
    Staging.artifactPath job.settings m.server.room job.directory = .ok job.artifact
  source : ∀ {job : Job}, m.running = some job → job.exited = false →
    ∃ bytes, job.ticket.question.text.utf8? = some bytes ∧
      m.disk.read (Staging.sourcePath job.settings job.directory) = .ok bytes

theorem Response.prepared {m m' : Machine} {action : Action} (h : Response m action m')
    (hm : m.Prepared) : m'.Prepared := by
  have hroom := h.room_eq
  cases h with
  | absorbed =>
    constructor
    · intro job hjob
      rw [hroom]
      exact hm.artifact hjob
    · exact hm.source
  | dismissed | queued | dequeued | idle => exact ⟨hm.artifact, hm.source⟩
  | exited hr hx =>
    have hartifact := hm.artifact hr
    constructor
    · intro job hjob
      cases hjob
      exact hartifact
    · intro job hjob hlive
      cases hjob
      cases hlive
  | left => exact ⟨nofun, nofun⟩

theorem Entry.prepared {m m' : Machine} {t : Ticket} (h : Entry m t m')
    (free : m.running = none) : m'.Prepared := by
  cases h with
  | refused | unstaged | unstarted => exact ⟨by simp [free], by simp [free]⟩
  | started hd hs hr =>
    obtain ⟨hartifact, hread⟩ := Staging.stage_read hs
    constructor
    · intro job hjob
      cases hjob
      exact hartifact
    · intro job hjob _
      cases hjob
      exact hread

/-! ## Attribution -/

/-- What a machine has done for a task, traced back: who may wait for it, who may have entered the
compile section for it and with which settings, and what may have come of it otherwise. -/
structure Attributed (task : Nat) (Waits : Ticket → Prop) (Enters : Ticket → Settings → Prop)
    (Comes : Outcome → Prop) (m : Machine) : Prop extends Numbered m, Prepared m where
  waits : ∀ {t : Ticket}, t ∈ m.waiting → t.task = task → Waits t
  runs : ∀ {job : Job}, m.running = some job → job.ticket.task = task →
    Enters job.ticket job.settings
  entered : ∀ {n : Nat}, .made task n ∈ m.trace → ∃ t s, Enters t s
  started : ∀ {p n : Nat} {command names : List Text} {source : Text}
    {opened : Option (List UInt8)},
    .made task n ∈ m.trace → .event (.spawn p command n source opened names) ∈ m.trace →
    ∃ t s, Enters t s ∧ command = s.command (Staging.sourcePath s n).name ∧
      source = t.question.text
  ended : ∀ {o : Outcome}, (task, o) ∈ m.outcomes → o = .cancelled ∨ Comes o ∨
    ∃ t s ending, Enters t s ∧ t.Ends s m.server.room ending ∧ o = t.outcome ending

variable {task : Nat} {Waits : Ticket → Prop} {Enters : Ticket → Settings → Prop}
  {Comes : Outcome → Prop}

theorem Leaves.ends {m : Machine} {job : Job} {action : Action} {moments : List Moment}
    {ending : Ending} (h : Leaves m job action moments ending) {room : Nat}
    (ha : Staging.artifactPath job.settings room job.directory = .ok job.artifact) :
    job.ticket.Ends job.settings room ending := by
  cases h with
  | finished hx =>
    by_cases hz : job.run.status = 0
    · rw [endingOf_of_status hz]
      exact .searched m.disk ha
    · simp only [endingOf, hz, if_false]
      exact .badStatus _ _
  | expired => exact .expired
  | interrupted => exact .cancelled

/-- An action that does not bring a task does for it only what was to come of it. -/
theorem Response.attributed {m m' : Machine} {action : Action} (h : Response m action m')
    (hk : task ∉ action.brings) (hm : m.Attributed task Waits Enters Comes) :
    m'.Attributed task Waits Enters Comes where
  toNumbered := h.numbered hm.toNumbered
  toPrepared := h.prepared hm.toPrepared
  waits := by
    cases h with
    | queued =>
      intro t ht htask
      rcases List.mem_append.mp ht with ht | ht
      · exact hm.waits ht htask
      · rw [List.mem_singleton.mp ht] at htask
        exact absurd (List.mem_singleton.mpr htask.symm) hk
    | dequeued => exact fun ht => hm.waits (List.mem_filter.mp ht).1
    | _ => exact hm.waits
  runs := by
    cases h with
    | exited hr hx =>
      have hruns := hm.runs hr
      intro job hjob
      cases hjob
      exact hruns
    | left => exact nofun
    | _ => exact hm.runs
  entered := fun hmade => hm.entered ((h.mem_start_iff rfl).mp hmade)
  started := fun hmade hspawn =>
    hm.started ((h.mem_start_iff rfl).mp hmade) ((h.mem_start_iff rfl).mp hspawn)
  ended := by
    rw [h.room_eq]
    cases h with
    | absorbed | dismissed =>
      intro o ho
      rcases List.mem_append.mp ho with ho | ho
      · exact hm.ended ho
      · cases List.mem_singleton.mp ho
        exact absurd List.mem_cons_self hk
    | left hr hl =>
      intro o ho
      rcases List.mem_append.mp ho with ho | ho
      · exact hm.ended ho
      · cases List.mem_singleton.mp ho
        exact .inr (.inr ⟨_, _, _, hm.runs hr rfl, hl.ends (hm.artifact hr), rfl⟩)
    | dequeued =>
      intro o ho
      rcases List.mem_append.mp ho with ho | ho
      · exact hm.ended ho
      · cases List.mem_singleton.mp ho
        exact .inl rfl
    | queued | exited | idle => exact hm.ended

theorem starting_ends {m : Machine} {disk : Disk} {stop : Stop}
    (h : (m.starting disk).2 = .error stop) (t : Ticket) :
    t.Ends m.inForce m.server.room (.stopped stop) := by
  rcases Host.start_stop h with ⟨flaw, hf, rfl⟩ | ⟨failure, hr, rfl⟩
  · obtain ⟨word, hword, hflaw⟩ := Host.mem_of_flaw? hf
    exact .badCommand hword hflaw
  · unfold Host.run at hr
    split at hr
    · cases hr
      exact .notFound
    · cases hr
      exact .refused _
    · split at hr
      · cases hr
      · cases hr
      · cases hr
        exact .sourceless _ _

/-- A hover that enters does so with the settings in force, and ends accordingly if it ends. -/
theorem Entry.ended {m m' : Machine} {t : Ticket} (h : Entry m t m') {o : Outcome}
    (ho : (task, o) ∈ m'.outcomes) :
    (task, o) ∈ m.outcomes ∨
      t.task = task ∧ ∃ ending, t.Ends m.inForce m.server.room ending ∧ o = t.outcome ending := by
  cases h with
  | started => exact .inl ho
  | refused =>
    rcases List.mem_append.mp ho with ho | ho
    · exact .inl ho
    · cases List.mem_singleton.mp ho
      exact .inr ⟨rfl, _, .noDirectory, rfl⟩
  | unstaged hd hs =>
    rcases List.mem_append.mp ho with ho | ho
    · exact .inl ho
    · cases List.mem_singleton.mp ho
      exact .inr ⟨rfl, _, .unstaged (congrArg Prod.snd hs), rfl⟩
  | unstarted hd hs hr =>
    rcases List.mem_append.mp ho with ho | ho
    · exact .inl ho
    · cases List.mem_singleton.mp ho
      exact .inr ⟨rfl, _, starting_ends hr t, rfl⟩

theorem Entry.attributed {m m' : Machine} {t : Ticket} {queue : List Ticket}
    (h : Entry { m with waiting := queue } t m') (free : m.running = none)
    (next : m.waiting = t :: queue) (henters : t.task = task → Enters t m.inForce)
    (hm : m.Attributed task Waits Enters Comes) : m'.Attributed task Waits Enters Comes := by
  have hnumbered : ({ m with waiting := queue } : Machine).Numbered := ⟨hm.made, hm.spawned⟩
  refine {
    toNumbered := h.numbered hnumbered
    toPrepared := h.prepared free
    waits := ?_, runs := ?_, entered := ?_, started := ?_, ended := ?_ }
  · intro t' ht'
    rw [h.waiting_eq] at ht'
    exact hm.waits (next ▸ List.mem_cons_of_mem _ ht')
  · intro job hjob htask
    cases h with
    | refused | unstaged | unstarted => simp [free] at hjob
    | started =>
      cases hjob
      exact henters htask
  · intro n hmade
    rcases h.made hmade with hold | ⟨htask, -⟩
    · exact hm.entered hold
    · exact ⟨t, _, henters htask.symm⟩
  · intro p n command names source opened hmade hspawn
    rcases h.made hmade with hold | ⟨htask, hn, -⟩
    · rcases h.spawned hspawn with hold' | ⟨hn, -⟩
      · exact hm.started hold hold'
      · -- the process that starts now is in a new work directory
        have hle := hm.made hold
        rw [hn] at hle
        exact absurd hle (Nat.not_succ_le_self _)
    · rcases h.spawned hspawn with hold | ⟨-, -, hcommand, hsource⟩
      · have hle := hm.spawned hold
        rw [hn] at hle
        exact absurd hle (Nat.not_succ_le_self _)
      · exact ⟨t, _, henters htask.symm, by rw [hcommand, hn]; rfl, hsource⟩
  · intro o ho
    rw [h.room_eq]
    rcases h.ended ho with hold | ⟨htask, ending, hends, rfl⟩
    · exact hm.ended hold
    · exact .inr (.inr ⟨t, _, ending, henters htask, hends, rfl⟩)

theorem Attributed.advance {m : Machine} (hm : m.Attributed task Waits Enters Comes)
    (hE : ∀ t, Waits t → Enters t m.inForce) : m.advance.Attributed task Waits Enters Comes := by
  refine (advance_induct (P := fun m' => m'.inForce = m.inForce ∧
    m'.Attributed task Waits Enters Comes) ?_ ⟨rfl, hm⟩).2
  rintro m' t queue free next ⟨hforce, hm'⟩
  constructor
  · rw [inForce, (entry _ t).server_eq]
    exact hforce
  · refine (entry _ t).attributed free next (fun htask => ?_) hm'
    rw [hforce]
    exact hE t (hm'.waits (next ▸ List.mem_cons_self) htask)

/-- Time alone does nothing for a task. -/
theorem Attributed.wait {m : Machine} (hm : m.Attributed task Waits Enters Comes)
    (now : Nat) : ({ m with now } : Machine).Attributed task Waits Enters Comes :=
  ⟨⟨hm.made, hm.spawned⟩, ⟨hm.artifact, hm.source⟩, hm.waits, hm.runs, hm.entered, hm.started,
    hm.ended⟩

theorem Attributed.happen {m : Machine} (hm : m.Attributed task Waits Enters Comes)
    (hs : m.Settled) {due : Due} (hk : task ∉ due.action.brings)
    (hE : ∀ t, Waits t →
      Enters t ({ m with now := due.instant }.respond due.action).inForce) :
    (m.happen due).Attributed task Waits Enters Comes := by
  rw [happen_eq hs]
  exact ((response _ due.action).attributed hk (hm.wait _)).advance hE

theorem Attributed.run {m : Machine} (hm : m.Attributed task Waits Enters Comes)
    (hs : m.Settled) {dues : List Due} (hk : ∀ due ∈ dues, task ∉ due.action.brings)
    (hE : ∀ t s, Waits t → Enters t s) :
    (m.runs dues).Attributed task Waits Enters Comes := by
  induction dues generalizing m with
  | nil => exact hm
  | cons due dues ih =>
    have hhead := hm.happen hs (hk due List.mem_cons_self) (fun t => hE t _)
    exact ih hhead (happen_settled hs due) fun d hd => hk d (List.mem_cons_of_mem _ hd)

/-! ## From the dispatch of a hover on -/

theorem Attributed.mono {m : Machine} {Waits' : Ticket → Prop} {Enters' : Ticket → Settings → Prop}
    {Comes' : Outcome → Prop} (hm : m.Attributed task Waits Enters Comes)
    (hW : ∀ t, Waits t → Waits' t) (hE : ∀ t s, Enters t s → Enters' t s)
    (hC : ∀ o, Comes o → Comes' o) : m.Attributed task Waits' Enters' Comes' where
  toNumbered := hm.toNumbered
  toPrepared := hm.toPrepared
  waits ht htask := hW _ (hm.waits ht htask)
  runs hr htask := hE _ _ (hm.runs hr htask)
  entered hmade := by
    obtain ⟨t, s, henters⟩ := hm.entered hmade
    exact ⟨t, s, hE t s henters⟩
  started hmade hspawn := by
    obtain ⟨t, s, henters, hrest⟩ := hm.started hmade hspawn
    exact ⟨t, s, hE t s henters, hrest⟩
  ended ho := by
    rcases hm.ended ho with hc | hc | ⟨t, s, ending, henters, hrest⟩
    · exact .inl hc
    · exact .inr (.inl (hC _ hc))
    · exact .inr (.inr ⟨t, s, ending, hE t s henters, hrest⟩)

/-- Nothing has been done for a task. -/
abbrev Untouched (m : Machine) (task : Nat) : Prop :=
  m.Attributed task (fun _ => False) (fun _ _ => False) (fun _ => False)

theorem Untouched.attributed {m : Machine} (h : m.Untouched task) :
    m.Attributed task Waits Enters Comes :=
  h.mono (fun _ => False.elim) (fun _ _ => False.elim) (fun _ => False.elim)

theorem runs_untouched (host : Host) {dues : List Due}
    (hk : ∀ due ∈ dues, task ∉ due.action.brings) : (runs { host } dues).Untouched task := by
  have hstart : ({ host } : Machine).Untouched task :=
    ⟨⟨nofun, nofun⟩, ⟨nofun, nofun⟩, nofun, nofun, nofun, nofun, nofun⟩
  exact hstart.run (fun _ => rfl) hk (fun _ _ => id)

/-- A hover that is dispatched with a question waits with it. -/
theorem Response.attributed_queued {m m' : Machine} {bare : Bool} {uri : String}
    {position : Position} {question : Server.Question}
    (h : Response m (.deliver task (.hover bare uri position)) m') (hm : m.Untouched task)
    (hq : m.server.guardedQuestion bare uri position = .ok (some question)) :
    m'.Attributed task (· = ⟨task, bare, uri, question⟩) Enters Comes := by
  cases h with
  | queued hq' =>
    cases hq.symm.trans hq'
    have hm' : m.Attributed task (· = ⟨task, bare, uri, question⟩) Enters Comes := hm.attributed
    refine ⟨⟨hm'.made, hm'.spawned⟩, ⟨hm'.artifact, hm'.source⟩, ?_, hm'.runs, hm'.entered,
      hm'.started, hm'.ended⟩
    intro t ht htask
    rcases List.mem_append.mp ht with ht | ht
    · exact hm'.waits ht htask
    · exact List.mem_singleton.mp ht
  | dismissed hnone => exact absurd hq (hnone question)
  | absorbed hh => cases hh
  | left hr hl => cases hl
  | idle hi => cases hi

/-- A hover that is dispatched without a question shows nothing. -/
theorem Response.attributed_dismissed {m m' : Machine} {bare : Bool} {uri : String}
    {position : Position} (h : Response m (.deliver task (.hover bare uri position)) m')
    (hm : m.Untouched task)
    (hq : ∀ question, m.server.guardedQuestion bare uri position ≠ .ok (some question)) :
    m'.Attributed task (fun _ => False) (fun _ _ => False) (·.isShown = false) := by
  cases h with
  | dismissed hnone spoken hidden =>
    have hresponse : Response m (.deliver task (.hover bare uri position)) _ :=
      .dismissed hnone spoken hidden
    have hm' : m.Attributed task (fun _ => False) (fun _ _ => False) (·.isShown = false) :=
      hm.attributed
    refine ⟨hresponse.numbered hm.toNumbered, hresponse.prepared hm.toPrepared, hm'.waits, hm'.runs,
      fun hmade => hm'.entered ((hresponse.mem_start_iff rfl).mp hmade),
      fun hmade hspawn => hm'.started ((hresponse.mem_start_iff rfl).mp hmade)
        ((hresponse.mem_start_iff rfl).mp hspawn), ?_⟩
    intro o ho
    rcases List.mem_append.mp ho with ho | ho
    · exact hm'.ended ho
    · cases List.mem_singleton.mp ho
      exact .inr (.inl hidden)
  | queued hq' => exact absurd hq' (hq _)
  | absorbed hh => cases hh
  | left hr hl => cases hl
  | idle hi => cases hi

theorem Untouched.happen_queued {m : Machine} (h : m.Untouched task) (hs : m.Settled)
    (instant : Nat) {bare : Bool} {uri : String} {position : Position}
    {question : Server.Question}
    (hq : m.server.guardedQuestion bare uri position = .ok (some question))
    (hE : Enters ⟨task, bare, uri, question⟩ m.inForce) :
    (m.happen ⟨instant, .deliver task (.hover bare uri position)⟩).Attributed task
      (· = ⟨task, bare, uri, question⟩) Enters Comes := by
  have hresponse := response { m with now := instant } (.deliver task (.hover bare uri position))
  rw [happen_eq hs]
  refine (hresponse.attributed_queued (h.wait instant) hq).advance ?_
  rintro _ rfl
  have hserver : ({ m with now := instant }.respond
      (.deliver task (.hover bare uri position))).server = m.server := by
    simp only [respond, enqueue, hq]
  rw [inForce, hserver]
  exact hE

theorem Untouched.happen_dismissed {m : Machine} (h : m.Untouched task) (hs : m.Settled)
    (instant : Nat) {bare : Bool} {uri : String} {position : Position}
    (hq : ∀ question, m.server.guardedQuestion bare uri position ≠ .ok (some question)) :
    (m.happen ⟨instant, .deliver task (.hover bare uri position)⟩).Attributed task
      (fun _ => False) (fun _ _ => False) (·.isShown = false) := by
  have hresponse := response { m with now := instant } (.deliver task (.hover bare uri position))
  rw [happen_eq hs]
  exact (hresponse.attributed_dismissed (h.wait instant) hq).advance fun _ => False.elim

end Machine

end ChapelServer
