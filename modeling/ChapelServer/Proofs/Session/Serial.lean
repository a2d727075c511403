import ChapelServer.Proofs.Session.Move

/-!
# One compilation at a time

The moments of a run tell who holds the compile section: nobody, a work directory without a live
process, or a work directory in which a process lives. A monitor that follows the moments accepts
every run, and what it accepts has disjoint stretches from the making of a work directory to its
removal, each with its process and the reading of its pass log inside. Hovers enter in the order
in which they were dispatched.
-/

namespace ChapelServer

/-! ## The monitor -/

/-- Who holds the compile section. -/
inductive Hold
  | free
  | held (directory : Nat)
  | compiling (directory process : Nat)
  deriving DecidableEq, Repr

namespace Hold

/-- Who holds the section after a moment, unless the moment may not come then. -/
def next : Hold → Moment → Option Hold
  | .free, .entered _ => some .free
  | .free, .made _ n => some (.held n)
  | .held n, .event (.spawn p _ n' _ _ _) => if n' = n then some (.compiling n p) else none
  | .held n, .read n' => if n' = n then some (.held n) else none
  | .held n, .removed n' => if n' = n then some .free else none
  | .compiling n p, .event (.exit p') => if p' = p then some (.held n) else none
  | .compiling n p, .event (.kill p') => if p' = p then some (.held n) else none
  | _, .event (.spawn _ _ _ _ _ _) => none
  | _, .event (.exit _) => none
  | _, .event (.kill _) => none
  | h, .event _ => some h
  | _, _ => none

/-- Who holds the section after some moments. -/
def after (h : Hold) (moments : List Moment) : Option Hold :=
  moments.foldlM next h

/-- Who holds the section of a machine. -/
def ofRunning : Option Job → Hold
  | none => .free
  | some job => if job.exited then .held job.directory else .compiling job.directory job.process

@[simp] theorem after_nil (h : Hold) : h.after [] = some h := rfl

theorem after_cons (h : Hold) (moment : Moment) (moments : List Moment) :
    h.after (moment :: moments) = (h.next moment).bind (·.after moments) := rfl

theorem after_append (h : Hold) (first second : List Moment) :
    h.after (first ++ second) = (h.after first).bind (·.after second) := by
  simp only [after, List.foldlM_append]
  rfl

theorem after_append_some {h h' : Hold} {first second : List Moment}
    (hs : h.after (first ++ second) = some h') :
    ∃ h₁, h.after first = some h₁ ∧ h₁.after second = some h' := by
  rw [after_append] at hs
  exact Option.bind_eq_some_iff.mp hs

theorem after_cons_some {h h' : Hold} {moment : Moment} {moments : List Moment}
    (hs : h.after (moment :: moments) = some h') :
    ∃ h₁, h.next moment = some h₁ ∧ h₁.after moments = some h' := by
  rw [after_cons] at hs
  exact Option.bind_eq_some_iff.mp hs

/-- The directory is held, with or without a live process. -/
def Holds (h : Hold) (n : Nat) : Prop :=
  h = .held n ∨ ∃ p, h = .compiling n p

@[simp] theorem not_holds_free (n : Nat) : ¬ Hold.free.Holds n := by
  simp [Holds]

@[simp] theorem holds_held {n k : Nat} : (Hold.held k).Holds n ↔ k = n := by
  simp [Holds]

@[simp] theorem holds_compiling {n k p : Nat} : (Hold.compiling k p).Holds n ↔ k = n := by
  simp [Holds]

/-! ### What the moments do to the holder -/

/-- The moments that may come, each with who holds the section before and after it. -/
inductive Next : Hold → Moment → Hold → Prop
  | entered {task : Nat} : Next .free (.entered task) .free
  | made {task n : Nat} : Next .free (.made task n) (.held n)
  | spawn {n p : Nat} {command names : List Text} {source : Text}
    {opened : Option (List UInt8)} :
      Next (.held n) (.event (.spawn p command n source opened names)) (.compiling n p)
  | read {n : Nat} : Next (.held n) (.read n) (.held n)
  | removed {n : Nat} : Next (.held n) (.removed n) .free
  | exit {n p : Nat} : Next (.compiling n p) (.event (.exit p)) (.held n)
  | kill {n p : Nat} : Next (.compiling n p) (.event (.kill p)) (.held n)
  | quiet {h : Hold} {e : Event} (hq : e.isQuiet = true) : Next h (.event e) h

/-- Everything below about single moments follows from this case analysis. -/
theorem next_of_some {h h' : Hold} {moment : Moment} (hn : h.next moment = some h') :
    Next h moment h' := by
  unfold next at hn
  split at hn
  · cases hn
    exact .entered
  · cases hn
    exact .made
  · obtain ⟨rfl, hsome⟩ := Option.ite_none_right_eq_some.mp hn
    cases hsome
    exact .spawn
  · obtain ⟨rfl, hsome⟩ := Option.ite_none_right_eq_some.mp hn
    cases hsome
    exact .read
  · obtain ⟨rfl, hsome⟩ := Option.ite_none_right_eq_some.mp hn
    cases hsome
    exact .removed
  · obtain ⟨rfl, hsome⟩ := Option.ite_none_right_eq_some.mp hn
    cases hsome
    exact .exit
  · obtain ⟨rfl, hsome⟩ := Option.ite_none_right_eq_some.mp hn
    cases hsome
    exact .kill
  · cases hn
  · cases hn
  · cases hn
  · rename_i e hspawn hexit hkill _ _ _
    cases hn
    refine .quiet ?_
    cases e with
    | spawn => exact absurd rfl (hspawn _ _ _ _ _ _)
    | exit => exact absurd rfl (hexit _)
    | kill => exact absurd rfl (hkill _)
    | _ => rfl
  · cases hn

theorem next_made {h h' : Hold} {task n : Nat} (hn : h.next (.made task n) = some h') :
    h = .free ∧ h' = .held n := by
  cases next_of_some hn
  exact ⟨rfl, rfl⟩

theorem next_entered {h h' : Hold} {task : Nat} (hn : h.next (.entered task) = some h') :
    h = .free ∧ h' = .free := by
  cases next_of_some hn
  exact ⟨rfl, rfl⟩

theorem next_removed {h h' : Hold} {n : Nat} (hn : h.next (.removed n) = some h') :
    h = .held n ∧ h' = .free := by
  cases next_of_some hn
  exact ⟨rfl, rfl⟩

theorem next_read {h h' : Hold} {n : Nat} (hn : h.next (.read n) = some h') :
    h = .held n ∧ h' = .held n := by
  cases next_of_some hn
  exact ⟨rfl, rfl⟩

theorem next_spawn {h h' : Hold} {p n : Nat} {command names : List Text} {source : Text}
    {opened : Option (List UInt8)}
    (hn : h.next (.event (.spawn p command n source opened names)) = some h') :
    h = .held n ∧ h' = .compiling n p := by
  cases next_of_some hn with
  | spawn => exact ⟨rfl, rfl⟩
  | quiet hq => cases hq

theorem next_exit {h h' : Hold} {p : Nat} (hn : h.next (.event (.exit p)) = some h') :
    ∃ n, h = .compiling n p ∧ h' = .held n := by
  cases next_of_some hn with
  | exit => exact ⟨_, rfl, rfl⟩
  | quiet hq => cases hq

theorem next_kill {h h' : Hold} {p : Nat} (hn : h.next (.event (.kill p)) = some h') :
    ∃ n, h = .compiling n p ∧ h' = .held n := by
  cases next_of_some hn with
  | kill => exact ⟨_, rfl, rfl⟩
  | quiet hq => cases hq

/-- A directory that is held stays so, or the moment is its removal. -/
theorem next_holds {h h' : Hold} {n : Nat} {moment : Moment} (hn : h.next moment = some h')
    (hh : h.Holds n) : h'.Holds n ∨ moment = .removed n := by
  cases next_of_some hn with
  | removed =>
    obtain rfl := holds_held.mp hh
    exact .inr rfl
  | entered | made => exact absurd hh (not_holds_free n)
  | read | quiet => exact .inl hh
  | spawn | exit | kill => exact .inl (by simpa using hh)

/-- A live process stays alive, or the moment is its exit or its being killed. -/
theorem next_compiling {h' : Hold} {n p : Nat} {moment : Moment}
    (hn : (Hold.compiling n p).next moment = some h') :
    h' = .compiling n p ∨ moment = .event (.exit p) ∨ moment = .event (.kill p) := by
  cases next_of_some hn with
  | exit => exact .inr (.inl rfl)
  | kill => exact .inr (.inr rfl)
  | quiet => exact .inl rfl

/-- A directory that is held was held before, or has just been made. -/
theorem holds_of_next {h h' : Hold} {n : Nat} {moment : Moment} (hn : h.next moment = some h')
    (hh : h'.Holds n) : h.Holds n ∧ moment ≠ .removed n ∨ ∃ task, moment = .made task n := by
  cases next_of_some hn with
  | made =>
    obtain rfl := holds_held.mp hh
    exact .inr ⟨_, rfl⟩
  | entered | removed => exact absurd hh (not_holds_free n)
  | read | quiet => exact .inl ⟨hh, nofun⟩
  | spawn | exit | kill => exact .inl ⟨by simpa using hh, nofun⟩

/-- A live process was alive before, or has just been started. -/
theorem compiling_of_next {h : Hold} {n p : Nat} {moment : Moment}
    (hn : h.next moment = some (.compiling n p)) :
    h = .compiling n p ∨
      ∃ command source opened names, moment = .event (.spawn p command n source opened names) := by
  cases next_of_some hn with
  | spawn => exact .inr ⟨_, _, _, _, rfl⟩
  | quiet => exact .inl rfl

/-! ### What an accepted run looks like -/

theorem removed_of_after {h h' : Hold} {n : Nat} {moments : List Moment}
    (hs : h.after moments = some h') (hh : h.Holds n) (hn : ¬ h'.Holds n) :
    .removed n ∈ moments := by
  induction moments generalizing h with
  | nil =>
    cases hs
    exact absurd hh hn
  | cons moment moments ih =>
    obtain ⟨h₁, hnext, hrest⟩ := after_cons_some hs
    rcases next_holds hnext hh with hh₁ | rfl
    · exact List.mem_cons_of_mem _ (ih hrest hh₁)
    · exact List.mem_cons_self

theorem ended_of_after {h' : Hold} {n p : Nat} {moments : List Moment}
    (hs : (Hold.compiling n p).after moments = some h') (hn : h' ≠ .compiling n p) :
    .event (.exit p) ∈ moments ∨ .event (.kill p) ∈ moments := by
  induction moments with
  | nil =>
    cases hs
    exact absurd rfl hn
  | cons moment moments ih =>
    obtain ⟨h₁, hnext, hrest⟩ := after_cons_some hs
    rcases next_compiling hnext with rfl | rfl | rfl
    · rcases ih hrest with he | hk
      · exact .inl (List.mem_cons_of_mem _ he)
      · exact .inr (List.mem_cons_of_mem _ hk)
    · exact .inl List.mem_cons_self
    · exact .inr List.mem_cons_self

end Hold

/-- The work directory has been made, and has not been removed. -/
def Stands (n : Nat) (moments : List Moment) : Prop :=
  ∃ before task since, moments = before ++ .made task n :: since ∧ .removed n ∉ since

/-- A process has been started in the work directory. -/
def StartedIn (p n : Nat) (moments : List Moment) : Prop :=
  ∃ command source opened names, .event (.spawn p command n source opened names) ∈ moments

theorem Stands.append {n : Nat} {moments more : List Moment} (h : Stands n moments)
    (hm : .removed n ∉ more) : Stands n (moments ++ more) := by
  obtain ⟨before, task, since, rfl, hr⟩ := h
  exact ⟨before, task, since ++ more, by simp, by simp [hr, hm]⟩

theorem StartedIn.append {p n : Nat} {moments : List Moment} (h : StartedIn p n moments)
    (more : List Moment) : StartedIn p n (moments ++ more) := by
  obtain ⟨command, source, opened, names, hs⟩ := h
  exact ⟨command, source, opened, names, List.mem_append_left _ hs⟩

/-- What the holder of the section tells about the moments so far. -/
structure Hold.Tells (h : Hold) (moments : List Moment) : Prop where
  stands : ∀ {n}, h.Holds n → Stands n moments
  started : ∀ {n p}, h = .compiling n p → StartedIn p n moments

/-- One more moment that is accepted keeps what the holder tells. -/
theorem Hold.Tells.snoc {h h' : Hold} {moments : List Moment} {moment : Moment}
    (ht : h.Tells moments) (hn : h.next moment = some h') : h'.Tells (moments ++ [moment]) := by
  constructor
  · intro n hh
    rcases holds_of_next hn hh with ⟨hh', hm⟩ | ⟨task, rfl⟩
    · exact (ht.stands hh').append (by simpa using hm.symm)
    · exact ⟨moments, task, [], rfl, by simp⟩
  · rintro n p rfl
    rcases compiling_of_next hn with hc | ⟨command, source, opened, names, rfl⟩
    · exact (ht.started hc).append _
    · exact ⟨command, source, opened, names, by simp⟩

theorem Hold.Tells.after {h h' : Hold} {moments more : List Moment} (ht : h.Tells moments)
    (hs : h.after more = some h') : h'.Tells (moments ++ more) := by
  induction more generalizing h moments with
  | nil =>
    cases hs
    simpa using ht
  | cons moment more ih =>
    obtain ⟨h₁, hnext, hrest⟩ := Hold.after_cons_some hs
    simpa using ih (ht.snoc hnext) hrest

theorem Hold.tells_of_after {h : Hold} {moments : List Moment}
    (hs : Hold.free.after moments = some h) : h.Tells moments := by
  have ht : Hold.free.Tells [] := ⟨by simp [Hold.Holds], by simp⟩
  simpa using ht.after hs

/-- The compilations that the moments of a run tell of come one after the other. -/
structure Serialized (trace : List Moment) : Prop where
  /-- A work directory is gone when the next one is made. -/
  apart : ∀ {before between later : List Moment} {task n task' n' : Nat},
    trace = before ++ .made task n :: (between ++ .made task' n' :: later) → .removed n ∈ between
  /-- A work directory is gone when the next hover enters. -/
  released : ∀ {before between later : List Moment} {task n task' : Nat},
    trace = before ++ .made task n :: (between ++ .entered task' :: later) → .removed n ∈ between
  /-- A process is started in a work directory that stands. -/
  spawned : ∀ {before later : List Moment} {p n : Nat} {command names : List Text} {source : Text}
    {opened : Option (List UInt8)},
    trace = before ++ .event (.spawn p command n source opened names) :: later → Stands n before
  /-- A process exits by itself while its work directory stands. -/
  exited : ∀ {before later : List Moment} {p : Nat},
    trace = before ++ .event (.exit p) :: later → ∃ n, StartedIn p n before ∧ Stands n before
  /-- A process is killed while its work directory stands. -/
  killed : ∀ {before later : List Moment} {p : Nat},
    trace = before ++ .event (.kill p) :: later → ∃ n, StartedIn p n before ∧ Stands n before
  /-- A pass log is read while its work directory stands. -/
  read : ∀ {before later : List Moment} {n : Nat}, trace = before ++ .read n :: later →
    Stands n before
  /-- A work directory is removed only after its process has gone. -/
  gone : ∀ {before between later : List Moment} {p n n' : Nat} {command names : List Text}
    {source : Text} {opened : Option (List UInt8)},
    trace = before ++ .event (.spawn p command n source opened names) ::
      (between ++ .removed n' :: later) →
    .event (.exit p) ∈ between ∨ .event (.kill p) ∈ between
  /-- A process has gone when the next one is started. -/
  alone : ∀ {before between later : List Moment} {p n p' n' : Nat}
    {command names command' names' : List Text} {source source' : Text}
    {opened opened' : Option (List UInt8)},
    trace = before ++ .event (.spawn p command n source opened names) ::
      (between ++ .event (.spawn p' command' n' source' opened' names') :: later) →
    .event (.exit p) ∈ between ∨ .event (.kill p) ∈ between

/-- What the monitor accepts is serialized. -/
theorem serialized_of_after {h : Hold} {trace : List Moment}
    (hs : Hold.free.after trace = some h) : Serialized trace := by
  -- who holds the section before and after the moment at which the trace is cut
  have cut : ∀ {before later : List Moment} {moment : Moment},
      trace = before ++ moment :: later →
      ∃ h₀ h₁, Hold.free.after before = some h₀ ∧ h₀.next moment = some h₁ ∧
        h₁.after later = some h := by
    rintro before later moment rfl
    obtain ⟨h₀, hbefore, hrest⟩ := Hold.after_append_some hs
    obtain ⟨h₁, hnext, hlater⟩ := Hold.after_cons_some hrest
    exact ⟨h₀, h₁, hbefore, hnext, hlater⟩
  have cutAgain : ∀ {h₁ : Hold} {between later : List Moment} {moment : Moment},
      h₁.after (between ++ moment :: later) = some h →
      ∃ h₂ h₃, h₁.after between = some h₂ ∧ h₂.next moment = some h₃ := by
    intro h₁ between later moment hrest
    obtain ⟨h₂, hbetween, hrest⟩ := Hold.after_append_some hrest
    obtain ⟨h₃, hnext, _⟩ := Hold.after_cons_some hrest
    exact ⟨h₂, h₃, hbetween, hnext⟩
  constructor
  · intro before between later task n task' n' ht
    obtain ⟨h₀, h₁, _, hmade, hrest⟩ := cut ht
    obtain ⟨h₂, h₃, hbetween, hmade'⟩ := cutAgain hrest
    obtain ⟨-, rfl⟩ := Hold.next_made hmade
    obtain ⟨rfl, -⟩ := Hold.next_made hmade'
    exact Hold.removed_of_after hbetween (.inl rfl) (Hold.not_holds_free n)
  · intro before between later task n task' ht
    obtain ⟨h₀, h₁, _, hmade, hrest⟩ := cut ht
    obtain ⟨h₂, h₃, hbetween, hentered⟩ := cutAgain hrest
    obtain ⟨-, rfl⟩ := Hold.next_made hmade
    obtain ⟨rfl, -⟩ := Hold.next_entered hentered
    exact Hold.removed_of_after hbetween (.inl rfl) (Hold.not_holds_free n)
  · intro before later p n command names source opened ht
    obtain ⟨h₀, h₁, hbefore, hspawn, _⟩ := cut ht
    obtain ⟨rfl, -⟩ := Hold.next_spawn hspawn
    exact (Hold.tells_of_after hbefore).stands (.inl rfl)
  · intro before later p ht
    obtain ⟨h₀, h₁, hbefore, hexit, _⟩ := cut ht
    obtain ⟨n, rfl, -⟩ := Hold.next_exit hexit
    have htells := Hold.tells_of_after hbefore
    exact ⟨n, htells.started rfl, htells.stands (.inr ⟨p, rfl⟩)⟩
  · intro before later p ht
    obtain ⟨h₀, h₁, hbefore, hkill, _⟩ := cut ht
    obtain ⟨n, rfl, -⟩ := Hold.next_kill hkill
    have htells := Hold.tells_of_after hbefore
    exact ⟨n, htells.started rfl, htells.stands (.inr ⟨p, rfl⟩)⟩
  · intro before later n ht
    obtain ⟨h₀, h₁, hbefore, hread, _⟩ := cut ht
    obtain ⟨rfl, -⟩ := Hold.next_read hread
    exact (Hold.tells_of_after hbefore).stands (.inl rfl)
  · intro before between later p n n' command names source opened ht
    obtain ⟨h₀, h₁, _, hspawn, hrest⟩ := cut ht
    obtain ⟨h₂, h₃, hbetween, hremoved⟩ := cutAgain hrest
    obtain ⟨-, rfl⟩ := Hold.next_spawn hspawn
    obtain ⟨rfl, -⟩ := Hold.next_removed hremoved
    exact Hold.ended_of_after hbetween (by simp)
  · intro before between later p n p' n' command names command' names' source source' opened
      opened' ht
    obtain ⟨h₀, h₁, _, hspawn, hrest⟩ := cut ht
    obtain ⟨h₂, h₃, hbetween, hspawn'⟩ := cutAgain hrest
    obtain ⟨-, rfl⟩ := Hold.next_spawn hspawn
    obtain ⟨rfl, -⟩ := Hold.next_spawn hspawn'
    exact Hold.ended_of_after hbetween (by simp)

/-! ## Every run is accepted -/

theorem Hold.after_quiet {events : List Event} (hq : ∀ e ∈ events, e.isQuiet) (h : Hold) :
    h.after (events.map .event) = some h := by
  induction events with
  | nil => rfl
  | cons e events ih =>
    have hn : h.next (.event e) = some h := by
      have he := hq e List.mem_cons_self
      cases e <;> cases h <;> simp_all [Hold.next, Event.isQuiet]
    rw [List.map_cons, Hold.after_cons, hn]
    exact ih (fun e he => hq e (List.mem_cons_of_mem _ he))

theorem Ticket.closing_quiet (t : Ticket) (ending : Ending) :
    ∀ e ∈ t.closing ending, e.isQuiet := by
  obtain ⟨spoken, hspoken, heq⟩ := t.closing_eq ending
  rw [heq]
  exact isQuiet_of_mem_spoken_done hspoken t.task

theorem Server.applySettings_spoken (s : Server) (value : Value) :
    ∀ e ∈ (s.applySettings value).events, e.isSpoken := by
  intro e he
  unfold Server.applySettings at he
  simp only at he
  split at he
  · simp only [List.mem_append, List.mem_map, List.mem_singleton] at he
    rcases he with ⟨w, _, rfl⟩ | rfl <;> rfl
  · obtain ⟨w, _, rfl⟩ := List.mem_map.mp he
    rfl

theorem Server.configure_spoken (s : Server) (settings : Value) (reply : ClientReply) :
    ∀ e ∈ (s.configure settings reply).events, e.isSpoken := by
  intro e he
  unfold Server.configure at he
  split at he
  · simp only [List.cons_append, List.mem_cons, List.mem_append] at he
    rcases he with rfl | he | he
    · rfl
    · split at he
      · simp at he
      · rw [List.mem_singleton.mp he]
        rfl
    · exact Server.applySettings_spoken _ _ e he
  · exact Server.applySettings_spoken _ _ e he

/-- The server itself does nothing to processes, and ends no task. -/
theorem Machine.handled?_spoken {s : Server} {request : Request} {handled : Handled}
    (h : Machine.handled? s request = some handled) : ∀ e ∈ handled.events, e.isSpoken := by
  intro e he
  cases request with
  | configure settings reply =>
    cases h
    exact Server.configure_spoken _ _ _ e he
  | handshake client options =>
    cases h
    unfold Server.handshake at he
    simp only at he
    split at he
    · rcases List.mem_cons.mp he with rfl | he
      · rfl
      · exact Server.applySettings_spoken _ _ e he
    · rw [List.mem_singleton.mp he]
      rfl
  | hover bare uri position => simp [Machine.handled?] at h
  | ready refusal =>
    cases h
    unfold Server.ready at he
    split at he
    · simp only [List.mem_cons, List.not_mem_nil, or_false] at he
      rcases he with rfl | rfl <;> rfl
    · simp at he
  | watched changes =>
    cases h
    obtain ⟨change, _, rfl⟩ := List.mem_map.mp he
    rfl
  | didChange uri version changes =>
    cases h
    unfold Server.didChange at he
    split at he
    · split at he
      · simp at he
      · split at he <;> rw [List.mem_singleton.mp he] <;> rfl
    · rw [List.mem_singleton.mp he]
      rfl
  | folders | didOpen | completion =>
    cases h
    simp only [Server.foldersChanged, Server.didOpen, Server.completion] at he
    split at he <;> simp_all [Event.isSpoken]
  | shutdown | didClose | resolveItem =>
    cases h
    simp_all [Server.stop, Server.didClose, Server.resolveItem, Event.isSpoken]

namespace Machine

/-- The monitor accepts what has happened, and knows who holds the section. -/
def Accepted (m : Machine) : Prop :=
  Hold.free.after m.trace = some (.ofRunning m.running)

theorem Accepted.extend {m m' : Machine} (h : m.Accepted) (moments : List Moment)
    (ht : m'.trace = m.trace ++ moments)
    (hn : (Hold.ofRunning m.running).after moments = some (.ofRunning m'.running)) :
    m'.Accepted := by
  unfold Accepted
  rw [ht, Hold.after_append, h]
  exact hn

/-- Events that concern no process change nothing. -/
theorem Accepted.quiet {m m' : Machine} (h : m.Accepted) (events : List Event)
    (ht : m'.trace = m.trace ++ events.map .event) (hr : m'.running = m.running)
    (hq : ∀ e ∈ events, e.isQuiet) : m'.Accepted :=
  h.extend _ ht (by rw [hr, Hold.after_quiet hq])

/-- Stopping a process leaves none alive. -/
theorem after_stopEvents (job : Job) (notice : Notice) :
    (Hold.ofRunning (some job)).after ((stopEvents job notice).map .event) =
      some (.held job.directory) := by
  cases hx : job.exited <;> simp [hx, stopEvents, Hold.ofRunning, Hold.after_cons, Hold.next]

theorem missingNotice_spoken (m : Machine) (job : Job) :
    ∀ e ∈ m.missingNotice job, e.isSpoken := by
  intro e he
  unfold missingNotice at he
  split at he
  · rw [List.mem_singleton.mp he]
    rfl
  · simp at he

theorem after_readMoments (m : Machine) {job : Job} (hx : job.exited = true) :
    (Hold.ofRunning (some job)).after (m.readMoments job) = some (.held job.directory) := by
  have hquiet : ∀ e ∈ m.missingNotice job, e.isQuiet :=
    fun e he => Event.isQuiet_of_isSpoken (missingNotice_spoken m job e he)
  rw [readMoments, Hold.after_append]
  by_cases hz : job.run.status = 0 <;>
    simp [hx, hz, Hold.ofRunning, Hold.after_cons, Hold.next, Hold.after_quiet hquiet]

/-- No process lives in the section when it is left. -/
theorem Leaves.after {m : Machine} {job : Job} {action : Action} {moments : List Moment}
    {ending : Ending} (h : Leaves m job action moments ending) :
    (Hold.ofRunning (some job)).after moments = some (.held job.directory) := by
  cases h with
  | finished hx => exact after_readMoments m hx
  | expired | interrupted => exact after_stopEvents job _

theorem Response.accepted {m m' : Machine} {action : Action} (hm : Response m action m')
    (h : m.Accepted) : m'.Accepted := by
  cases hm with
  | @absorbed task request handled hh =>
    exact h.quiet _ rfl rfl (isQuiet_of_mem_spoken_done (handled?_spoken hh) task)
  | @dismissed task _ _ _ _ _ hq spoken =>
    exact h.quiet _ rfl rfl (isQuiet_of_mem_spoken_done spoken task)
  | queued => exact h
  | exited hr hx =>
    refine h.extend _ rfl ?_
    simp [hr, hx, Hold.ofRunning, Hold.after_cons, Hold.next]
  | @left _ job moments ending hr hl =>
    refine h.extend _ rfl ?_
    rw [hr, Hold.after_append, hl.after]
    simp [Hold.after_cons, Hold.next, Hold.ofRunning,
      Hold.after_quiet (Ticket.closing_quiet job.ticket ending)]
  | @dequeued task => exact h.quiet [.done task] rfl rfl (by simp [Event.isQuiet])
  | idle => exact h

/-- A hover that enters takes the section, and gives it back if it ends there. -/
theorem Entry.accepted {m m' : Machine} {t : Ticket} (he : Entry m t m') (hr : m.running = none)
    (h : m.Accepted) : m'.Accepted := by
  have hq := fun ending => Hold.after_quiet (t.closing_quiet ending) .free
  cases he with
  | refused hd =>
    refine h.extend _ rfl ?_
    simp [hr, Hold.ofRunning, Hold.after_cons, Hold.next, hq]
  | unstaged hd hs =>
    refine h.extend _ rfl ?_
    simp [hr, Hold.ofRunning, Hold.after_cons, Hold.next, hq]
  | unstarted hd hs hf =>
    refine h.extend _ rfl ?_
    simp [hr, Hold.ofRunning, Hold.after_cons, Hold.next, hq]
  | started hd hs hf =>
    refine h.extend _ rfl ?_
    simp [hr, Hold.ofRunning, Hold.after_cons, Hold.next, newJob]

theorem Move.accepted {m m' : Machine} (hm : Move m m') (h : m.Accepted) : m'.Accepted := by
  cases hm with
  | respond due settled => exact (response { m with now := due.instant } due.action).accepted h
  | enter free next => exact (entry _ _).accepted free h

theorem runs_accepted (host : Host) (dues : List Due) :
    (Machine.runs { host } dues).Accepted :=
  Moves.keep Move.accepted (runs_moves (fun _ => rfl) dues) rfl

end Machine

/-! ## First come, first served -/

/-- The task of a hover that enters. -/
def Moment.entered? : Moment → Option Nat
  | .entered task => some task
  | _ => none

@[simp] theorem Moment.entered?_event (e : Event) : (Moment.event e).entered? = none := rfl

@[simp] theorem Moment.filterMap_entered?_event (events : List Event) :
    events.filterMap (Moment.entered? ∘ Moment.event) = [] :=
  List.filterMap_eq_nil_iff.mpr fun _ _ => rfl

namespace Machine

/-- The tasks of the hovers that have entered their compile section, in order. -/
def enteredTasks (m : Machine) : List Nat :=
  m.trace.filterMap Moment.entered?

/-- The tasks of the hovers that wait, in order. -/
def waitingTasks (m : Machine) : List Nat :=
  m.waiting.map (·.task)

/-- The hovers that have entered or wait, in order. -/
def line (m : Machine) : List Nat :=
  m.enteredTasks ++ m.waitingTasks

end Machine

/-- The task of a hover that is dispatched. -/
def Due.hover? (due : Due) : Option Nat :=
  match due.action with
  | .deliver task (.hover _ _ _) => some task
  | _ => none

/-- The tasks of the hovers that are dispatched, in order. -/
def dispatched (dues : List Due) : List Nat :=
  dues.filterMap Due.hover?

namespace Machine

theorem line_of_trace {m m' : Machine} {moments : List Moment}
    (ht : m'.trace = m.trace ++ moments) (hm : moments.filterMap Moment.entered? = [])
    (hw : m'.waiting = m.waiting) : m'.line = m.line := by
  simp [line, enteredTasks, waitingTasks, ht, hm, hw]

theorem Leaves.entered {m : Machine} {job : Job} {action : Action} {moments : List Moment}
    {ending : Ending} (h : Leaves m job action moments ending) :
    moments.filterMap Moment.entered? = [] := by
  cases h with
  | finished hx => by_cases hz : job.run.status = 0 <;> simp [readMoments, hz, Moment.entered?]
  | expired | interrupted => simp

/-- An action leaves the line as it is, or a hover with a question joins it at its end, or one
that waits is taken out of it by its cancellation. -/
theorem Response.line {m m' : Machine} {action : Action} (h : Response m action m') :
    m'.line = m.line ∨
      (∃ task bare uri position, action = .deliver task (.hover bare uri position) ∧
        m'.line = m.line ++ [task]) ∨
      ∃ task, action = .cancel task ∧
        m'.line = m.enteredTasks ++ m.waitingTasks.filter (· != task) := by
  cases h with
  | absorbed | dismissed => exact .inl (line_of_trace rfl (by simp) rfl)
  | queued =>
    refine .inr (.inl ⟨_, _, _, _, rfl, ?_⟩)
    simp [Machine.line, enteredTasks, waitingTasks]
  | exited => exact .inl (line_of_trace rfl rfl rfl)
  | left hr hl => exact .inl (line_of_trace rfl (by simp [hl.entered, Moment.entered?]) rfl)
  | dequeued =>
    refine .inr (.inr ⟨_, rfl, ?_⟩)
    simp [Machine.line, enteredTasks, waitingTasks, Moment.entered?, List.filter_map,
      Function.comp_def]
  | idle => exact .inl rfl

theorem Entry.enteredTasks_eq {m m' : Machine} {t : Ticket} (he : Entry m t m') :
    m'.enteredTasks = m.enteredTasks ++ [t.task] := by
  cases he <;> simp [enteredTasks, List.filterMap_cons, Moment.entered?]

/-- A hover that enters keeps its place in the line. -/
theorem enter_line {m : Machine} {t : Ticket} {queue : List Ticket}
    (hw : m.waiting = t :: queue) : ({ m with waiting := queue }.enter t).line = m.line := by
  have he := (entry { m with waiting := queue } t).enteredTasks_eq
  have hq := enter_waiting { m with waiting := queue } t
  rw [line, he, waitingTasks, hq, line, waitingTasks, hw]
  simp [enteredTasks]

theorem advance_line (m : Machine) : m.advance.line = m.line :=
  advance_induct (P := fun m' => m'.line = m.line)
    (fun _ hw h => (enter_line hw).trans h) rfl

/-- Only a hover that is dispatched joins the line, and it joins at its end. -/
theorem Response.line_sublist {m m' : Machine} {due : Due} (h : Response m due.action m') :
    m'.line.Sublist (m.line ++ due.hover?.toList) := by
  rcases h.line with hl | ⟨task, bare, uri, position, ha, hl⟩ | ⟨task, -, hl⟩
  · rw [hl]
    exact List.sublist_append_left _ _
  · simp [hl, Due.hover?, ha]
  · rw [hl]
    exact (List.Sublist.append_left List.filter_sublist _).trans (List.sublist_append_left _ _)

theorem happen_line {m : Machine} (hs : m.Settled) (due : Due) :
    (m.happen due).line.Sublist (m.line ++ due.hover?.toList) := by
  rw [happen_eq hs, advance_line]
  exact (response { m with now := due.instant } due.action).line_sublist

/-- The line only grows at its end, by the hovers that are dispatched. -/
theorem runs_line {m : Machine} (hs : m.Settled) (dues : List Due) :
    (m.runs dues).line.Sublist (m.line ++ dispatched dues) := by
  induction dues generalizing m with
  | nil => simp [runs, dispatched]
  | cons due dues ih =>
    have htail : ((m.happen due).runs dues).line.Sublist
        ((m.happen due).line ++ dispatched dues) :=
      ih (happen_settled hs due)
    refine htail.trans ?_
    have hhead := (happen_line hs due).append_right (dispatched dues)
    cases hh : due.hover? <;> simpa [dispatched, hh] using hhead

/-- A hover in the line stays there, unless it is cancelled while it waits. -/
theorem happen_mem_line {m : Machine} (hs : m.Settled) {task : Nat} (ht : task ∈ m.line)
    (due : Due) (hc : due.action = .cancel task → task ∉ m.waitingTasks) :
    task ∈ (m.happen due).line := by
  rw [happen_eq hs, advance_line]
  rcases (response { m with now := due.instant } due.action).line with
    hl | ⟨other, _, _, _, -, hl⟩ | ⟨other, ha, hl⟩
  · rw [hl]
    exact ht
  · rw [hl]
    exact List.mem_append_left _ ht
  · rw [hl]
    rcases List.mem_append.mp ht with he | hw
    · exact List.mem_append_left _ he
    · refine List.mem_append_right _ (List.mem_filter.mpr ⟨hw, ?_⟩)
      have hne : task ≠ other := by
        rintro rfl
        exact hc ha hw
      simpa using hne

theorem runs_mem_line {m : Machine} (hs : m.Settled) {task : Nat} (ht : task ∈ m.line)
    (dues : List Due) :
    task ∈ (m.runs dues).line ∨
      ∃ between cut later, dues = between ++ cut :: later ∧ cut.action = .cancel task ∧
        task ∈ (m.runs between).waitingTasks := by
  induction dues generalizing m with
  | nil => exact .inl ht
  | cons due dues ih =>
    by_cases hc : due.action = .cancel task ∧ task ∈ m.waitingTasks
    · exact .inr ⟨[], due, dues, rfl, hc⟩
    · have ht' := happen_mem_line hs ht due (fun ha hw => hc ⟨ha, hw⟩)
      rcases ih (happen_settled hs due) ht' with h | ⟨between, cut, later, rfl, ha, hw⟩
      · exact .inl h
      · exact .inr ⟨due :: between, cut, later, rfl, ha, hw⟩

/-- A hover that is dispatched with a question joins the line. -/
theorem Response.mem_line {m m' : Machine} {task : Nat} {bare : Bool} {uri : String}
    {position : Position} {question : Server.Question}
    (h : Response m (.deliver task (.hover bare uri position)) m')
    (hq : m.server.guardedQuestion bare uri position = .ok (some question)) : task ∈ m'.line := by
  cases h with
  | queued => simp [Machine.line, waitingTasks]
  | dismissed hnone => exact absurd hq (hnone question)
  | absorbed hh => cases hh
  | left hr hl => cases hl
  | idle hi => cases hi

theorem happen_dispatch {m : Machine} (hs : m.Settled) (instant task : Nat) {bare : Bool}
    {uri : String} {position : Position} {question : Server.Question}
    (hq : m.server.guardedQuestion bare uri position = .ok (some question)) :
    task ∈ (m.happen ⟨instant, .deliver task (.hover bare uri position)⟩).line := by
  rw [happen_eq hs, advance_line]
  exact (response { m with now := instant } _).mem_line hq

/-- A hover that is cancelled while it waits leaves the line, and does not enter. -/
theorem Response.line_cancel {m m' : Machine} {task : Nat} (h : Response m (.cancel task) m')
    (ht : ∀ job, m.running = some job → job.ticket.task ≠ task) :
    m'.line = m.enteredTasks ++ m.waitingTasks.filter (· != task) := by
  cases h with
  | left hr hl =>
    cases hl
    exact absurd rfl (ht _ hr)
  | dequeued =>
    simp [Machine.line, enteredTasks, waitingTasks, Moment.entered?, List.filter_map,
      Function.comp_def]
  | idle hi =>
    have hall : m.waitingTasks.filter (· != task) = m.waitingTasks := by
      refine List.filter_eq_self.mpr fun other hother => ?_
      obtain ⟨t, hwaits, rfl⟩ := List.mem_map.mp hother
      simpa using hi.2 t hwaits
    rw [hall, Machine.line]

theorem happen_cancel {m : Machine} (hs : m.Settled) {instant task : Nat}
    (ht : ∀ job, m.running = some job → job.ticket.task ≠ task) :
    (m.happen ⟨instant, .cancel task⟩).line =
      m.enteredTasks ++ m.waitingTasks.filter (· != task) := by
  rw [happen_eq hs, advance_line]
  exact (response { m with now := instant } _).line_cancel ht

/-- From a machine on, hovers enter in the order in which they were dispatched. The line of a
machine is made of the hovers that have entered and then of those that wait. -/
structure InTurn (m : Machine) (dues : List Due) : Prop where
  /-- The line goes on as it was, and then with the hovers dispatched since, in their order. -/
  order : ((m.runs dues).enteredTasks ++ (m.runs dues).waitingTasks).Sublist
    (m.enteredTasks ++ m.waitingTasks ++ dispatched dues)
  /-- A hover dispatched with a question has entered or waits, or was cancelled while it
  waited. -/
  served : ∀ {instant task : Nat} {bare : Bool} {uri : String} {position : Position}
    {question : Server.Question} {later : List Due},
    dues = ⟨instant, .deliver task (.hover bare uri position)⟩ :: later →
    m.server.guardedQuestion bare uri position = .ok (some question) →
    task ∈ (m.runs dues).enteredTasks ∨ task ∈ (m.runs dues).waitingTasks ∨
      ∃ between cut rest, dues = between ++ cut :: rest ∧ cut.action = .cancel task ∧
        task ∈ (m.runs between).waitingTasks
  /-- A hover cancelled while it waits never enters. -/
  skipped : ∀ {instant task : Nat} {later : List Due},
    dues = ⟨instant, .cancel task⟩ :: later →
    (∀ job, m.running = some job → job.ticket.task ≠ task) →
    task ∉ m.enteredTasks → task ∉ dispatched later →
    task ∉ (m.runs dues).enteredTasks ∧ task ∉ (m.runs dues).waitingTasks

theorem inTurn {m : Machine} (hs : m.Settled) (dues : List Due) : m.InTurn dues := by
  constructor
  · exact runs_line hs dues
  · rintro instant task bare uri position question later rfl hq
    have hj := happen_dispatch hs instant task hq
    rcases runs_mem_line (happen_settled hs _) hj later with h | ⟨between, cut, rest, rfl, ha, hw⟩
    · rcases List.mem_append.mp h with he | hw
      · exact .inl he
      · exact .inr (.inl hw)
    · exact .inr (.inr ⟨_ :: between, cut, rest, rfl, ha, hw⟩)
  · rintro instant task later rfl hj he hd
    have hl := runs_line (happen_settled hs ⟨instant, .cancel task⟩) later
    rw [happen_cancel hs hj] at hl
    -- Who is out of the line comes back only by being dispatched.
    have hout : task ∉ ((m.happen ⟨instant, .cancel task⟩).runs later).line := by
      intro hmem
      have h := hl.subset hmem
      simp [he, hd] at h
    exact ⟨fun h => hout (List.mem_append_left _ h), fun h => hout (List.mem_append_right _ h)⟩

/-- In every run on any host, with any messages, cancellations and time limits, at any point of
it: the stretches from the making of a work directory to its removal are disjoint, each with its
process and the reading of its pass log inside, and hovers enter in turn. -/
theorem compilations_serialized (host : Host) (before dues : List Due) :
    Serialized ((Machine.runs { host } before).runs dues).trace ∧
      (Machine.runs { host } before).InTurn dues := by
  have hs : (Machine.runs { host } before).Settled := runs_settled (fun _ => rfl) before
  have hruns : (Machine.runs { host } before).runs dues =
      Machine.runs { host } (before ++ dues) := by
    simp [runs, List.foldl_append]
  refine ⟨?_, inTurn hs dues⟩
  rw [hruns]
  exact serialized_of_after (runs_accepted host (before ++ dues))

end Machine

end ChapelServer
