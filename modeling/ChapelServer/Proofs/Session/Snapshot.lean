import ChapelServer.Proofs.Session.Attribution
import ChapelServer.Proofs.Source.Symbol

/-!
# A hover and its document

A hover takes its question from the documents when it is dispatched, and from then on speaks of
nothing else: what it stages, what it looks up in its pass log and what it shows are about the text
that was open then, whatever happens to the document in the meantime.
-/

namespace ChapelServer

/-- The question is about the text that is open at the address. Its symbol is the one at the
position of that text, unless the settings fix another, and its range is the place of the symbol in
that text. -/
structure Server.Question.IsAbout (q : Server.Question) (s : Server) (uri : String)
    (position : Position) : Prop where
  text : ∃ document, s.documents.get? uri = some document ∧ q.text = document.text
  symbol : s.pipeline.symbolSettings.fixedSymbol = none →
    ∃ found, Symbol.at? q.text.chars position = some found ∧
      q.symbol = .ofChars found.name ∧ q.range = some found.range
  fixed : ∀ name, s.pipeline.symbolSettings.fixedSymbol = some name →
    q.symbol = name ∧ q.range = none
  slice : ∀ range, q.range = some range →
    range.slice? (Line.scan q.text.chars) q.text = some q.symbol

theorem Server.isAbout_of_question {s : Server} {uri : String} {position : Position}
    {q : Server.Question} (h : s.question uri position = .ok (some q)) :
    q.IsAbout s uri position := by
  unfold Server.question Documents.get at h
  cases hopen : s.documents.get? uri with
  | none => simp [hopen, bind, Except.bind] at h
  | some document =>
    simp only [hopen, bind, Except.bind] at h
    cases hfixed : s.pipeline.symbolSettings.fixedSymbol with
    | some name =>
      simp only [hfixed, pure, Except.pure, Except.ok.injEq, Option.some.injEq] at h
      subst h
      exact {
        text := ⟨document, hopen, rfl⟩
        symbol := fun hnone => by simp [hfixed] at hnone
        fixed := fun other hother => by simpa [hfixed] using hother
        slice := nofun }
    | none =>
      simp only [hfixed, pure, Except.pure, Except.ok.injEq, Option.map_eq_some_iff] at h
      obtain ⟨found, hfound, rfl⟩ := h
      exact {
        text := ⟨document, hopen, rfl⟩
        symbol := fun _ => ⟨found, hfound, rfl, rfl⟩
        fixed := fun other hother => by simp [hfixed] at hother
        slice := fun range hrange => by
          obtain rfl := Option.some.inj hrange
          exact Symbol.slice?_text hfound }

theorem Server.isAbout_of_guardedQuestion {s : Server} {bare : Bool} {uri : String}
    {position : Position} {q : Server.Question}
    (h : s.guardedQuestion bare uri position = .ok (some q)) : q.IsAbout s uri position := by
  unfold Server.guardedQuestion at h
  split at h
  · exact isAbout_of_question h
  · cases h

namespace Machine

/-- What is done for a task is about this question: its text is what is staged, its symbol is what
is looked up in the pass log, and what is shown is its symbol at its range. -/
structure SpeaksOf (m : Machine) (task : Nat) (q : Server.Question) : Prop where
  staged : ∀ {p n : Nat} {command names : List Text} {source : Text}
    {opened : Option (List UInt8)}, .made task n ∈ m.trace →
    .event (.spawn p command n source opened names) ∈ m.trace → source = q.text
  written : ∀ {job : Job}, m.running = some job → job.ticket.task = task → job.exited = false →
    ∃ bytes, q.text.utf8? = some bytes ∧
      m.disk.read (Staging.sourcePath job.settings job.directory) = .ok bytes
  searched : ∀ {job : Job}, m.running = some job → job.ticket.task = task →
    job.run.status = 0 →
    m.endingOf job = .ofSearch (m.disk.findEntry job.artifact q.symbol)
  found : ∀ {f : Finding}, (task, .finding (some f)) ∈ m.outcomes →
    ∃ disk path entry, Disk.findEntry disk path q.symbol = .ok entry ∧
      f = ⟨q.symbol, entry.map fun e => String.ofList e.span, q.range⟩
  shown : ∀ {h : Hover}, (task, .hover (some h)) ∈ m.outcomes →
    ∃ disk path entry, Disk.findEntry disk path q.symbol = .ok (some entry) ∧
      h = ⟨Text.ofString "```chapel\n" ++ q.symbol ++
        Text.ofString s!": {String.ofList entry.span}\n```", q.range⟩

/-- Nothing is compiled for a task, and nothing is shown. -/
structure Silent (m : Machine) (task : Nat) : Prop where
  unmade : ∀ {n : Nat}, .made task n ∉ m.trace
  unshown : ∀ {o : Outcome}, (task, o) ∈ m.outcomes → o.isShown = false

end Machine

/-- Only what was looked up is shown. -/
theorem Ticket.Ends.found {t : Ticket} {s : Settings} {room : Nat} {entry : Option PassLog.Entry}
    (h : t.Ends s room (.found entry)) :
    ∃ disk path, Disk.findEntry disk path t.question.symbol = .ok entry := by
  generalize he : Ending.found entry = ending at h
  cases h with
  | searched d ha =>
    cases hfind : d.findEntry _ t.question.symbol with
    | ok e =>
      rw [hfind] at he
      cases he
      exact ⟨d, _, hfind⟩
    | error stop =>
      rw [hfind] at he
      cases he
  | _ => cases he

theorem Ticket.outcome_finding {t : Ticket} {ending : Ending} {f : Finding}
    (h : t.outcome ending = .finding (some f)) :
    ∃ entry, ending = .found entry ∧ f = Machine.findingOf t.question entry := by
  unfold Ticket.outcome at h
  split at h
  · split at h
    · cases h
      exact ⟨_, rfl, rfl⟩
    · cases h
  · split at h <;> cases h
  · cases h
  · cases h

theorem Hover.of_ofFinding? {q : Server.Question} {entry : Option PassLog.Entry} {h : Hover}
    (hof : Hover.ofFinding? (some (Machine.findingOf q entry)) = some h) :
    ∃ e, entry = some e ∧
      h = ⟨Text.ofString "```chapel\n" ++ q.symbol ++
        Text.ofString s!": {String.ofList e.span}\n```", q.range⟩ := by
  cases entry with
  | none => cases hof
  | some e =>
    unfold Hover.ofFinding? at hof
    dsimp only [Machine.findingOf, Option.map_some] at hof
    split at hof
    · cases hof
    · exact ⟨e, rfl, (Option.some.inj hof).symm⟩

theorem Ticket.outcome_hover {t : Ticket} {ending : Ending} {h : Hover}
    (ho : t.outcome ending = .hover (some h)) :
    ∃ e, ending = .found (some e) ∧
      h = ⟨Text.ofString "```chapel\n" ++ t.question.symbol ++
        Text.ofString s!": {String.ofList e.span}\n```", t.question.range⟩ := by
  unfold Ticket.outcome at ho
  split at ho
  · split at ho
    · cases ho
    · obtain ⟨e, rfl, rfl⟩ := Hover.of_ofFinding? (Outcome.hover.inj ho)
      exact ⟨e, rfl, rfl⟩
  · split at ho <;> cases ho
  · cases ho
  · cases ho

namespace Machine

/-- What is traced back to one ticket is about its question. -/
theorem Attributed.speaksOf {m : Machine} {t : Ticket} {Waits : Ticket → Prop}
    (h : m.Attributed t.task Waits (fun t' _ => t' = t) (fun _ => False)) :
    m.SpeaksOf t.task t.question where
  staged hmade hspawn := by
    obtain ⟨_, _, rfl, -, hsource⟩ := h.started hmade hspawn
    exact hsource
  written hr htask hx := by
    have hread := h.source hr hx
    rwa [h.runs hr htask] at hread
  searched hr htask hz := by
    rw [endingOf_of_status hz, h.runs hr htask]
  found hmem := by
    rcases h.ended hmem with hc | hc | ⟨_, s, ending, rfl, hends, ho⟩
    · cases hc
    · exact hc.elim
    · obtain ⟨entry, rfl, rfl⟩ := Ticket.outcome_finding ho.symm
      obtain ⟨disk, path, hfind⟩ := hends.found
      exact ⟨disk, path, entry, hfind, rfl⟩
  shown hmem := by
    rcases h.ended hmem with hc | hc | ⟨_, s, ending, rfl, hends, ho⟩
    · cases hc
    · exact hc.elim
    · obtain ⟨entry, rfl, rfl⟩ := Ticket.outcome_hover ho.symm
      obtain ⟨disk, path, hfind⟩ := hends.found
      exact ⟨disk, path, entry, hfind, rfl⟩

/-- Who never enters is silent. -/
theorem Attributed.silent {m : Machine} {task : Nat} {Waits : Ticket → Prop}
    (h : m.Attributed task Waits (fun _ _ => False) (·.isShown = false)) : m.Silent task where
  unmade hmade := by
    obtain ⟨_, _, hfalse⟩ := h.entered hmade
    exact hfalse
  unshown hmem := by
    rcases h.ended hmem with rfl | hc | ⟨_, _, _, hfalse, -⟩
    · rfl
    · exact hc
    · exact hfalse.elim

/-- A hover speaks about the text that was open at its address when it was dispatched, however
messages, processes and cancellations are mixed before and after; or it had no question then, and
shows nothing. -/
theorem hover_keeps_its_text (host : Host) (before later : List Due) (instant task : Nat)
    (bare : Bool) (uri : String) (position : Position)
    (once : ∀ due ∈ before ++ later, task ∉ due.action.brings) :
    let asked := Machine.runs { host } before
    let m := asked.runs (⟨instant, .deliver task (.hover bare uri position)⟩ :: later)
    match asked.server.guardedQuestion bare uri position with
    | .ok (some q) => q.IsAbout asked.server uri position ∧ m.SpeaksOf task q
    | _ => m.Silent task := by
  intro asked m
  have hs : asked.Settled := runs_settled (fun _ => rfl) before
  have huntouched : asked.Untouched task :=
    runs_untouched host fun due hdue => once due (List.mem_append_left _ hdue)
  have hlater : ∀ due ∈ later, task ∉ due.action.brings :=
    fun due hdue => once due (List.mem_append_right _ hdue)
  have hsettled := happen_settled hs ⟨instant, .deliver task (.hover bare uri position)⟩
  split
  · rename_i q hq
    refine ⟨Server.isAbout_of_guardedQuestion hq, ?_⟩
    let t : Ticket := ⟨task, bare, uri, q⟩
    have hdispatched : Attributed t.task (· = t) (fun t' _ => t' = t) (fun _ => False) _ :=
      huntouched.happen_queued hs instant hq rfl
    exact (hdispatched.run hsettled hlater fun _ _ ht => ht).speaksOf
  · rename_i hq
    have hdispatched := huntouched.happen_dismissed hs instant hq
    exact (hdispatched.run hsettled hlater fun _ _ => False.elim).silent

namespace Sample

/-- The handshake, a document with the text `x`, and a hover on it that compiles. -/
def opening : List Due :=
  [Timeline.Sample.greeting.delivery, Timeline.Sample.opening.delivery,
    Timeline.Sample.asking.delivery]

/-- A second hover on the document. -/
def second : Due :=
  ⟨1, .deliver 3 (.hover false "a" ⟨0, 0⟩)⟩

/-- The document is changed and closed and the server stopped while the second hover waits, and
then both hovers come to their ends. -/
def edits : List Due :=
  [⟨2, .deliver 4 (.didChange "a" 2 [⟨"y y", none⟩])⟩, ⟨2, .deliver 5 (.didClose "a")⟩,
    ⟨3, .deliver 6 .shutdown⟩, ⟨4, .exit⟩, ⟨4, .outputEnd⟩, ⟨5, .exit⟩, ⟨5, .outputEnd⟩]

/-- The machine when the second hover is dispatched. -/
def asked : Machine :=
  Machine.runs { host := Timeline.Sample.host } opening

/-- The question of the second hover. -/
def question : Server.Question :=
  ⟨"x", "x", some ⟨⟨0, 0⟩, ⟨0, 1⟩⟩⟩

end Sample

theorem hover_keeps_its_text_sample :
    (∀ due ∈ Sample.opening ++ Sample.edits, 3 ∉ due.action.brings) ∧
      Sample.question.IsAbout Sample.asked.server "a" ⟨0, 0⟩ ∧
      (Sample.asked.runs (Sample.second :: Sample.edits)).SpeaksOf 3 Sample.question ∧
      (Sample.asked.runs (Sample.second :: Sample.edits)).outcomes.lookup 3 =
        some (.hover (some ⟨"```chapel\nx: i(1)\n```", some ⟨⟨0, 0⟩, ⟨0, 1⟩⟩⟩)) := by
  have honce : ∀ due ∈ Sample.opening ++ Sample.edits, 3 ∉ due.action.brings := by decide
  have hq : Sample.asked.server.guardedQuestion false "a" ⟨0, 0⟩ = .ok (some Sample.question) := by
    decide +kernel
  have h := hover_keeps_its_text Timeline.Sample.host Sample.opening Sample.edits 1 3 false "a"
    ⟨0, 0⟩ honce
  change match Sample.asked.server.guardedQuestion false "a" ⟨0, 0⟩ with
    | .ok (some q) => q.IsAbout Sample.asked.server "a" ⟨0, 0⟩ ∧
      (Sample.asked.runs (Sample.second :: Sample.edits)).SpeaksOf 3 q
    | _ => (Sample.asked.runs (Sample.second :: Sample.edits)).Silent 3 at h
  rw [hq] at h
  exact ⟨honce, h.1, h.2, by decide +kernel⟩

end Machine

end ChapelServer
