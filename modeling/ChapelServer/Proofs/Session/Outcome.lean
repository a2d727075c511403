import ChapelServer.Proofs.Compilation.Staging
import ChapelServer.Proofs.PassLog.Occurrence
import ChapelServer.Proofs.Server.Turn
import Mathlib.Data.List.Nodup

/-!
# What comes of a hover

A hover passes through stages, each of which may be its end. Its outcome is that of the first stage
that applies to it, whatever else happens while it is in flight. At four of the stages it breaks
down instead of being answered: where the staged file cannot be written at all, where a word of the
command or the path of the pass log is not taken by the system, and where a numeral of the entry is
too long.
-/

namespace ChapelServer

/-- The stages at which a hover may end. -/
inductive Stage
  | notInitialized
  | notOpen
  | noSymbol
  | noDirectory
  | notStaged
  | obstructed
  | badCommand
  | notStarted
  | timedOut
  | badStatus
  | badPath
  | noLog
  | unreadable
  | noEntry
  | overlong
  | shown
  deriving DecidableEq, Repr

namespace Stage

/-- The stages in their order. -/
def all : List Stage :=
  [notInitialized, notOpen, noSymbol, noDirectory, notStaged, obstructed, badCommand, notStarted,
    timedOut, badStatus, badPath, noLog, unreadable, noEntry, overlong, shown]

/-- The stages before this one. -/
def before (stage : Stage) : List Stage :=
  all.takeWhile (· ≠ stage)

/-- The stages before the compile section. -/
def isEarly : Stage → Bool
  | notInitialized | notOpen | noSymbol => true
  | _ => false

/-- The code that a hover is refused with at a stage, if it is. -/
def code? : Stage → Option Int
  | notInitialized => some (-32002)
  | notOpen => some (-32001)
  | noDirectory | notStaged | notStarted | unreadable => some (-32012)
  | timedOut => some (-32011)
  | badStatus => some (-32010)
  | noLog => some (-32013)
  | noSymbol | obstructed | badCommand | badPath | noEntry | overlong | shown => none

end Stage

/-- How a compile section ends with what the search of the pass log gives. -/
def Ending.ofSearch : Except Stop (Option PassLog.Entry) → Ending
  | .ok entry => .found entry
  | .error stop => .stopped stop

theorem Machine.endingOf_of_status {m : Machine} {job : Job} (h : job.run.status = 0) :
    m.endingOf job = .ofSearch (m.disk.findEntry job.artifact job.ticket.question.symbol) := by
  rw [endingOf, if_pos h]
  cases m.disk.findEntry job.artifact job.ticket.question.symbol <;> rfl

/-- A hover on its way: the server as the hover finds it, what it asks about, and the machine as
it enters its compile section. -/
structure Passage where
  server : Server
  uri : String
  position : Position
  entry : Machine

namespace Passage

/-- The text of the document. -/
def text (p : Passage) : Text :=
  ((p.server.documents.get? p.uri).map (·.text)).getD []

/-- The symbol under the cursor. -/
def symbol? (p : Passage) : Option Symbol :=
  Symbol.at? p.text.chars p.position

/-- The name that is looked for: the one that the settings fix, or that of the symbol under the
cursor. -/
def name (p : Passage) (s : Settings) : Text :=
  s.fixedSymbol.getD (.ofChars ((p.symbol?.map (·.name)).getD []))

/-- The place of the symbol, if its name is not fixed. -/
def range (p : Passage) (s : Settings) : Option Range :=
  if s.fixedSymbol = none then p.symbol?.map (·.range) else none

/-- The number of the work directory. -/
def directory (p : Passage) : Nat :=
  p.entry.directories + 1

/-- The disk with the new work directory. -/
def made (p : Passage) : Disk :=
  p.entry.disk.makeWork p.directory p.entry.host.leftovers

/-- The disk after the text is staged in the new work directory, and what comes of it. -/
def staged (p : Passage) (s : Settings) : Disk × Except Stop Path :=
  Staging.stage s p.entry.server.room p.directory p.text p.made

/-- Staging breaks down, for this fault, after the old log directory is out of the way. -/
def Obstructed (p : Passage) (s : Settings) (fault : Fault) : Prop :=
  (Staging.removeLogDir s p.directory p.made).2 = none ∧
    Staging.Obstructs s p.directory p.text (Staging.removeLogDir s p.directory p.made).1 fault

/-- What is wrong with the command, if something is. -/
def commandFlaw? (p : Passage) (s : Settings) : Option Text.Flaw :=
  p.entry.host.flaw? (Staging.command s p.directory)

/-- What comes of starting the compiler when the text is staged. -/
def started? (p : Passage) (s : Settings) : Option (Except Stop Run) :=
  match p.staged s with
  | (disk, .ok _) => some (p.entry.host.start s p.directory disk).2
  | (_, .error _) => none

/-- What comes of reading the pass log when the process has written its files. -/
def log? (p : Passage) (s : Settings) : Option (Except Disk.OpenError (List UInt8)) :=
  match p.staged s, p.started? s with
  | (disk, .ok artifact), some (.ok run) =>
    some ((run.files.foldl (Disk.place p.directory) disk).read artifact)
  | _, _ => none

/-- The fields of the first entry of the name in a pass log. -/
def match? (p : Passage) (s : Settings) (bytes : List UInt8) : Option PassLog.Fields :=
  (p.name s).chars?.bind fun name => PassLog.firstFrom? name false (PassLog.textOfBytes bytes)

/-- The stage applies to the hover. -/
def Applies (p : Passage) (s : Settings) : Stage → Prop
  | .notInitialized => p.server.phase ≠ .initialized
  | .notOpen => p.uri ∉ p.server.documents.uris
  | .noSymbol => s.fixedSymbol = none ∧ p.symbol? = none
  | .noDirectory => p.entry.directoryAttempts + 1 ∈ p.entry.host.refusedDirectories
  | .notStaged => ∃ failure, (p.staged s).2 = .error (.failure failure)
  | .obstructed => ∃ fault, p.Obstructed s fault
  | .badCommand => ∃ flaw, p.commandFlaw? s = some flaw
  | .notStarted => ∃ failure, p.started? s = some (.error (.failure failure))
  | .timedOut => ∃ run, p.started? s = some (.ok run) ∧ ¬ run.InTime s.compilerTimeout
  | .badStatus => ∃ run, p.started? s = some (.ok run) ∧ run.status ≠ 0
  | .badPath => ∃ flaw, p.log? s = some (.error (.flawed flaw))
  | .noLog => p.log? s = some (.error (.system .noEntry))
  | .unreadable => ∃ error, p.log? s = some (.error (.system error))
  | .noEntry => ∃ bytes, p.log? s = some (.ok bytes) ∧ p.match? s bytes = none
  | .overlong => ∃ bytes fields, p.log? s = some (.ok bytes) ∧ p.match? s bytes = some fields ∧
      (Number.maxDigits < fields.id.length ∨ Number.maxDigits < fields.line.length)
  | .shown => ∃ bytes fields, p.log? s = some (.ok bytes) ∧ p.match? s bytes = some fields

/-- The fenced text `name: type(line)`, with the line in plain digits. -/
def fenced (p : Passage) (s : Settings) (fields : PassLog.Fields) : Text :=
  let line := Text.ofDigits (fields.line.map fun c => (Text.digitValue? c).getD 0)
  Text.ofString "```chapel\n" ++ p.name s ++ Text.ofString ": " ++ .ofChars fields.typeName ++
    Text.ofString "(" ++ .ofChars (Nat.toDigits 10 line) ++ Text.ofString ")\n```"

/-- What a hover that ends at a stage is answered, or the fault that it breaks down with. -/
def Answers (p : Passage) (s : Settings) : Stage → Outcome → Prop
  | .noSymbol, o => o = .hover none
  | .obstructed, o => ∃ fault, p.Obstructed s fault ∧ o = .faulted fault
  | .badCommand, o => ∃ flaw, p.commandFlaw? s = some flaw ∧ o = .faulted (.command flaw)
  | .badPath, o => ∃ flaw, p.log? s = some (.error (.flawed flaw)) ∧ o = .faulted (.path flaw)
  | .noEntry, o => o = .hover none
  | .overlong, o => o = .faulted .numeralTooLong
  | .shown, o => ∃ bytes fields, p.log? s = some (.ok bytes) ∧ p.match? s bytes = some fields ∧
      o = .hover (some ⟨p.fenced s fields, p.range s⟩)
  | stage, o => ∃ failure, o = .refused failure ∧ stage.code? = some failure.code

/-- No stage before this one applies. -/
def Reaches (p : Passage) (s : Settings) (stage : Stage) : Prop :=
  ∀ earlier ∈ stage.before, ¬ p.Applies s earlier

/-- The hover ends at this stage, the first one that applies, with this outcome. -/
structure EndsAt (p : Passage) (s : Settings) (stage : Stage) (o : Outcome) : Prop where
  applies : p.Applies s stage
  first : p.Reaches s stage
  answers : p.Answers s stage o

/-! ## Questions -/

theorem notOpen_iff {p : Passage} : p.uri ∉ p.server.documents.uris ↔
    p.server.documents.get? p.uri = none := by
  simp [Documents.uris, Documents.get?]

theorem guardedQuestion_initialized {server : Server} {uri : String} {position : Position}
    (h : server.phase = .initialized) :
    server.guardedQuestion false uri position = server.question uri position := by
  simp [Server.guardedQuestion, Server.isInitialized, h]

theorem guardedQuestion_uninitialized {server : Server} {uri : String} {position : Position}
    (h : server.phase ≠ .initialized) :
    server.guardedQuestion false uri position =
      .error (.notInitialized "textDocument/hover") := by
  simp [Server.guardedQuestion, Server.isInitialized, h]

/-- The question about a document that is not open is a failure. -/
theorem question_notOpen {p : Passage} (h : p.server.documents.get? p.uri = none) :
    ∃ failure, p.server.question p.uri p.position = .error failure ∧ failure.code = -32001 := by
  simp only [Server.question, Documents.get, h]
  exact ⟨_, rfl, rfl⟩

/-- The question about a document that is open asks for a name, if there is one. -/
theorem question_open {p : Passage} {s : Settings} {document : Document}
    (hs : p.server.pipeline.symbolSettings = s)
    (h : p.server.documents.get? p.uri = some document) :
    p.server.question p.uri p.position =
      .ok (if s.fixedSymbol = none ∧ p.symbol? = none then none
        else some ⟨p.text, p.name s, p.range s⟩) := by
  have htext : p.text = document.text := by simp [text, h]
  have hsymbol : Symbol.at? document.text.chars p.position = p.symbol? := by
    rw [← htext]
    rfl
  simp only [Server.question, Documents.get, h, hs, bind, Except.bind, hsymbol]
  cases hf : s.fixedSymbol with
  | some symbol => simp [pure, Except.pure, htext, name, range, hf]
  | none => cases hat : p.symbol? <;> simp [pure, Except.pure, htext, name, range, hf, hat]

theorem guardedQuestion_error {p : Passage} {failure : Failure}
    (h : p.server.guardedQuestion false p.uri p.position = .error failure) :
    (p.server.phase ≠ .initialized ∧ failure.code = -32002) ∨
      (p.server.phase = .initialized ∧ p.server.documents.get? p.uri = none ∧
        failure.code = -32001) := by
  by_cases hp : p.server.phase = .initialized
  · right
    rw [guardedQuestion_initialized hp] at h
    cases hg : p.server.documents.get? p.uri with
    | none =>
      obtain ⟨failure', hfailure, hcode⟩ := question_notOpen hg
      rw [hfailure] at h
      cases h
      exact ⟨hp, rfl, hcode⟩
    | some document =>
      rw [question_open rfl hg] at h
      cases h
  · left
    rw [guardedQuestion_uninitialized hp] at h
    cases h
    exact ⟨hp, rfl⟩

/-- A question that is asked: the server is initialized, the document is open, and there is a name
to look for or none. -/
theorem guardedQuestion_ok {p : Passage} {s : Settings} {q? : Option Server.Question}
    (hs : p.server.pipeline.symbolSettings = s)
    (h : p.server.guardedQuestion false p.uri p.position = .ok q?) :
    p.server.phase = .initialized ∧ p.uri ∈ p.server.documents.uris ∧
      ((q? = none ∧ s.fixedSymbol = none ∧ p.symbol? = none) ∨
        (¬ (s.fixedSymbol = none ∧ p.symbol? = none) ∧
          q? = some ⟨p.text, p.name s, p.range s⟩)) := by
  have hp : p.server.phase = .initialized := by
    refine Decidable.byContradiction fun hn => ?_
    rw [guardedQuestion_uninitialized hn] at h
    cases h
  rw [guardedQuestion_initialized hp] at h
  cases hg : p.server.documents.get? p.uri with
  | none =>
    obtain ⟨failure, hfailure, -⟩ := question_notOpen hg
    rw [hfailure] at h
    cases h
  | some document =>
    have hopen : p.uri ∈ p.server.documents.uris := by
      refine Decidable.byContradiction fun hn => ?_
      rw [notOpen_iff, hg] at hn
      cases hn
    rw [question_open hs hg] at h
    refine ⟨hp, hopen, ?_⟩
    obtain rfl := Except.ok.inj h
    by_cases hnone : s.fixedSymbol = none ∧ p.symbol? = none
    · exact .inl ⟨if_pos hnone, hnone⟩
    · exact .inr ⟨hnone, if_neg hnone⟩

/-! ## The compile section -/

variable {p : Passage} {s : Settings}

theorem Reaches.next {a b : Stage} (h : p.Reaches s a) (hn : ¬ p.Applies s a)
    (hb : b.before = a.before ++ [a]) : p.Reaches s b := by
  intro earlier hmem
  rw [hb] at hmem
  rcases List.mem_append.mp hmem with hmem | hmem
  · exact h earlier hmem
  · rw [List.mem_singleton.mp hmem]
    exact hn

theorem reaches_notInitialized : p.Reaches s .notInitialized :=
  List.forall_mem_nil _

theorem reaches_notOpen (hphase : p.server.phase = .initialized) : p.Reaches s .notOpen :=
  reaches_notInitialized.next (fun hn => hn hphase) rfl

theorem reaches_noSymbol (hphase : p.server.phase = .initialized)
    (hopen : p.uri ∈ p.server.documents.uris) : p.Reaches s .noSymbol :=
  (reaches_notOpen hphase).next (fun hn => hn hopen) rfl

theorem Reaches.notStaged (h : p.Reaches s .noDirectory)
    (hd : p.entry.refusesDirectory = false) : p.Reaches s .notStaged :=
  h.next (by simpa [Applies, Machine.refusesDirectory] using hd) rfl

theorem starting_eq (hforce : p.entry.inForce = s) (disk : Disk) :
    p.entry.starting disk = p.entry.host.start s p.directory disk := by
  rw [Machine.starting, hforce]
  rfl

theorem Reaches.badCommand {disk : Disk} {artifact : Path} (h : p.Reaches s .notStaged)
    (hname : ∃ name, s.artifactName p.entry.server.room = .ok name)
    (hs : p.staged s = (disk, .ok artifact)) : p.Reaches s .badCommand := by
  have hpast := h.next (b := .obstructed) (by simp [Applies, hs]) rfl
  refine hpast.next ?_ rfl
  rintro ⟨fault, hfault⟩
  have hstage : (p.staged s).2 = .error (.fault fault) := (Staging.stage_fault_iff hname).mpr hfault
  rw [hs] at hstage
  cases hstage

theorem started?_eq {disk : Disk} {artifact : Path} (hforce : p.entry.inForce = s)
    (hs : p.staged s = (disk, .ok artifact)) : p.started? s = some (p.entry.starting disk).2 := by
  simp only [started?, hs, starting_eq hforce]

/-- A command of which a process was started is in order. -/
theorem Reaches.timedOut {disk : Disk} {run : Run} (h : p.Reaches s .badCommand)
    (hforce : p.entry.inForce = s) (hr : (p.entry.starting disk).2 = .ok run)
    (hstarted : p.started? s = some (p.entry.starting disk).2) : p.Reaches s .timedOut := by
  have hflaw : ¬ p.Applies s .badCommand := by
    rintro ⟨flaw, hflaw⟩
    rw [starting_eq hforce, Host.start_of_flaw hflaw] at hr
    cases hr
  rw [hr] at hstarted
  have hpast := h.next (b := .notStarted) hflaw rfl
  exact hpast.next (by simp [Applies, hstarted]) rfl

/-- The hover that shows an entry. -/
theorem ofFinding?_entry (q : Server.Question) (entry : PassLog.Entry) :
    Hover.ofFinding? (some (Machine.findingOf q (some entry))) =
      some ⟨Text.ofString "```chapel\n" ++ q.symbol ++ Text.ofString ": " ++
        .ofChars entry.typeName ++ Text.ofString "(" ++ .ofChars (Nat.toDigits 10 entry.line) ++
        Text.ofString ")\n```", q.range⟩ := by
  have hspan : (String.ofList entry.span).isEmpty = false := by
    rw [← Bool.not_eq_true, String.isEmpty_iff, ← String.toList_eq_nil_iff]
    simp [PassLog.Entry.span]
  simp only [Hover.ofFinding?, Machine.findingOf, Option.map_some, hspan, Bool.false_eq_true,
    if_false, Option.some.injEq, Hover.mk.injEq, and_true]
  simp [PassLog.Entry.span, toString, Text.ofString, Text.ofChars]

theorem outcome_failure {t : Ticket} (hbare : t.bare = false) {failure : Failure} :
    t.outcome (.stopped (.failure failure)) = .refused failure := by
  simp [Ticket.outcome, hbare]

/-- A pass log that could be read: its first match decides. -/
theorem endsAt_of_bytes {t : Ticket} {d : Disk} {artifact : Path} {bytes : List UInt8}
    (hbare : t.bare = false) (hq : t.question = ⟨p.text, p.name s, p.range s⟩)
    (hreach : p.Reaches s .noEntry) (hr : d.read artifact = .ok bytes)
    (hlog : p.log? s = some (.ok bytes)) :
    ∃ stage, stage.isEarly = false ∧
      p.EndsAt s stage (t.outcome (.ofSearch (d.findEntry artifact (p.name s)))) := by
  simp only [Disk.findEntry, hr]
  cases hm : p.match? s bytes with
  | none =>
    refine ⟨.noEntry, rfl, ⟨bytes, hlog, hm⟩, hreach, ?_⟩
    cases hname : (p.name s).chars? with
    | none =>
      simp [Answers, Ending.ofSearch, Ticket.outcome, hbare, Machine.findingOf, Hover.ofFinding?]
    | some name =>
      have hnone : PassLog.firstFrom? name false (PassLog.textOfBytes bytes) = none := by
        rwa [match?, hname] at hm
      have hfind : PassLog.find (PassLog.textOfBytes bytes) name = .ok none := by
        simp only [PassLog.find, hnone]
      simp [hfind, Answers, Ending.ofSearch, Ticket.outcome, hbare, Machine.findingOf,
        Hover.ofFinding?]
  | some fields =>
    obtain ⟨name, hname, hfirst⟩ := Option.bind_eq_some_iff.mp hm
    simp only [hname]
    have hpast := hreach.next (b := .overlong) (by simp [Applies, hlog, hm]) rfl
    by_cases hlong : Number.maxDigits < fields.id.length ∨ Number.maxDigits < fields.line.length
    · obtain ⟨e, he⟩ := PassLog.find_overlong hfirst hlong
      simp only [he]
      exact ⟨.overlong, rfl, ⟨bytes, fields, hlog, hm, hlong⟩, hpast, rfl⟩
    · have hpast := hpast.next (b := .shown) (by simpa [Applies, hlog, hm] using hlong) rfl
      obtain ⟨entry, he, htype, hline⟩ := PassLog.find_short hfirst hlong
      simp only [he]
      refine ⟨.shown, rfl, ⟨bytes, fields, hlog, hm⟩, hpast, bytes, fields, hlog, hm, ?_⟩
      simp only [Ending.ofSearch, Ticket.outcome, hbare, Bool.false_eq_true, if_false,
        ofFinding?_entry, hq, htype, hline, fenced]

/-- A process that ended with status zero: its pass log decides. -/
theorem endsAt_of_search {t : Ticket} {d : Disk} {artifact : Path} (hbare : t.bare = false)
    (hq : t.question = ⟨p.text, p.name s, p.range s⟩) (hreach : p.Reaches s .badPath)
    (hlog : p.log? s = some (d.read artifact)) :
    ∃ stage, stage.isEarly = false ∧
      p.EndsAt s stage (t.outcome (.ofSearch (d.findEntry artifact (p.name s)))) := by
  cases hr : d.read artifact with
  | ok bytes =>
    rw [hr] at hlog
    have hpast := hreach.next (b := .noLog) (by simp [Applies, hlog]) rfl
    have hpast := hpast.next (b := .unreadable) (by simp [Applies, hlog]) rfl
    have hpast := hpast.next (b := .noEntry) (by simp [Applies, hlog]) rfl
    exact endsAt_of_bytes hbare hq hpast hr hlog
  | error e =>
    rw [hr] at hlog
    simp only [Disk.findEntry, hr]
    cases e with
    | flawed flaw => exact ⟨.badPath, rfl, ⟨flaw, hlog⟩, hreach, flaw, hlog, rfl⟩
    | system error =>
      have hpast := hreach.next (b := .noLog) (by simp [Applies, hlog]) rfl
      by_cases hne : error = .noEntry
      · subst hne
        exact ⟨.noLog, rfl, hlog, hpast, _, outcome_failure hbare, rfl⟩
      · have hpast := hpast.next (b := .unreadable) (by simp [Applies, hlog, hne]) rfl
        simp only [hne, if_false]
        exact ⟨.unreadable, rfl, ⟨error, hlog⟩, hpast, _, outcome_failure hbare, rfl⟩

/-- A process that came to its end in time: its status and its pass log decide. -/
theorem endsAt_of_log {t : Ticket} {disk : Disk} {artifact : Path} {run : Run} {ending : Ending}
    (hbare : t.bare = false) (hq : t.question = ⟨p.text, p.name s, p.range s⟩)
    (hreach : p.Reaches s .badStatus) (hs : p.staged s = (disk, .ok artifact))
    (hrun : p.started? s = some (.ok run))
    (hending : ending = Machine.endingOf { p.entry with disk := p.entry.written run disk }
      (p.entry.newJob t artifact run)) :
    ∃ stage, stage.isEarly = false ∧ p.EndsAt s stage (t.outcome ending) := by
  by_cases hstatus : run.status = 0
  · have hlog : p.log? s = some ((p.entry.written run disk).read artifact) := by
      simp only [log?, hs, hrun]
      rfl
    have hpast := hreach.next (b := .badPath) (by simp [Applies, hrun, hstatus]) rfl
    have hsymbol : (p.entry.newJob t artifact run).ticket.question.symbol = p.name s :=
      congrArg Server.Question.symbol hq
    rw [hending, Machine.endingOf_of_status hstatus, hsymbol]
    exact endsAt_of_search hbare hq hpast hlog
  · have hbad : ending = .stopped (.failure (.exitStatus p.entry.inForce.compilerPath run.status
        (tailOfBytes run.stderr))) := by
      rw [hending, Machine.endingOf]
      exact if_neg hstatus
    rw [hbad]
    exact ⟨.badStatus, rfl, ⟨run, hrun, hstatus⟩, hreach, _, outcome_failure hbare, rfl⟩

/-- Staging that stops fails, or breaks down. -/
theorem endsAt_of_unstaged {t : Ticket} {disk : Disk} {stop : Stop} (hbare : t.bare = false)
    (hname : ∃ name, s.artifactName p.entry.server.room = .ok name)
    (hreach : p.Reaches s .notStaged) (hs : p.staged s = (disk, .error stop)) :
    ∃ stage, stage.isEarly = false ∧ p.EndsAt s stage (t.outcome (.stopped stop)) := by
  have hstop : (p.staged s).2 = .error stop := by rw [hs]
  cases stop with
  | failure failure =>
    obtain ⟨report, rfl⟩ := Staging.stage_failure hname hstop
    exact ⟨.notStaged, rfl, ⟨_, hstop⟩, hreach, _, outcome_failure hbare, rfl⟩
  | fault fault =>
    have hfault : p.Obstructed s fault := (Staging.stage_fault_iff hname).mp hstop
    have hpast := hreach.next (b := .obstructed) (by simp [Applies, hs]) rfl
    exact ⟨.obstructed, rfl, ⟨fault, hfault⟩, hpast, fault, hfault, rfl⟩

/-- A compiler that is not started fails to, or its command breaks it down. -/
theorem endsAt_of_unstarted {t : Ticket} {disk : Disk} {stop : Stop} (hbare : t.bare = false)
    (hforce : p.entry.inForce = s) (hreach : p.Reaches s .badCommand)
    (hr : (p.entry.starting disk).2 = .error stop)
    (hstarted : p.started? s = some (p.entry.starting disk).2) :
    ∃ stage, stage.isEarly = false ∧ p.EndsAt s stage (t.outcome (.stopped stop)) := by
  rw [hr] at hstarted
  rw [starting_eq hforce] at hr
  cases stop with
  | fault fault =>
    obtain ⟨flaw, hflaw, rfl⟩ := Host.start_fault_iff.mp hr
    exact ⟨.badCommand, rfl, ⟨flaw, hflaw⟩, hreach, flaw, hflaw, rfl⟩
  | failure failure =>
    obtain ⟨report, rfl⟩ := Host.start_failure hr
    have hflaw : ¬ p.Applies s .badCommand := by
      rintro ⟨flaw, hflaw⟩
      rw [Host.start_of_flaw hflaw] at hr
      cases hr
    exact ⟨.notStarted, rfl, ⟨_, hstarted⟩, hreach.next hflaw rfl, _, outcome_failure hbare, rfl⟩

/-- A compile section that comes to its end does so at the first stage that applies. -/
theorem endsAt_of_sectionEnd {t : Ticket} {ending : Ending}
    (named : p.entry.server.Named) (hforce : p.entry.inForce = s)
    (hbare : t.bare = false) (hq : t.question = ⟨p.text, p.name s, p.range s⟩)
    (hreach : p.Reaches s .noDirectory) (h : Machine.SectionEnd p.entry t ending) :
    ∃ stage, stage.isEarly = false ∧ p.EndsAt s stage (t.outcome ending) := by
  have named : ∃ name, s.artifactName p.entry.server.room = .ok name := hforce ▸ named
  have hstaging : p.entry.staging t.question.text = p.staged s := by
    rw [hq, Machine.staging, hforce]
    rfl
  cases h with
  | refused hd =>
    refine ⟨.noDirectory, rfl, ?_, hreach, _, outcome_failure hbare, rfl⟩
    simpa [Applies, Machine.refusesDirectory] using hd
  | unstaged hd hs =>
    rw [hstaging] at hs
    exact endsAt_of_unstaged hbare named (hreach.notStaged hd) hs
  | unstarted hd hs hr =>
    rw [hstaging] at hs
    have hpast := (hreach.notStaged hd).badCommand named hs
    exact endsAt_of_unstarted hbare hforce hpast hr (started?_eq hforce hs)
  | late hd hs hr hl =>
    rw [hstaging] at hs
    rw [hforce] at hl ⊢
    have hstarted := started?_eq hforce hs
    have hpast := ((hreach.notStaged hd).badCommand named hs).timedOut hforce hr hstarted
    rw [hr] at hstarted
    exact ⟨.timedOut, rfl, ⟨_, hstarted, hl⟩, hpast, _, outcome_failure hbare, rfl⟩
  | finished hd hs hr hl =>
    rw [hstaging] at hs
    rw [hforce] at hl
    have hstarted := started?_eq hforce hs
    have hpast := ((hreach.notStaged hd).badCommand named hs).timedOut hforce hr hstarted
    rw [hr] at hstarted
    have hpast := hpast.next (b := .badStatus) (by simpa [Applies, hstarted] using hl) rfl
    exact endsAt_of_log hbare hq hpast hs hstarted rfl

end Passage

/-! ## Before the compile section -/

/-- From one machine to another, no work directory is made or tried, no file is touched, and no
process is started or stopped. -/
structure Machine.Spares (m m' : Machine) : Prop where
  disk : m'.disk = m.disk
  attempts : m'.directoryAttempts = m.directoryAttempts
  directories : m'.directories = m.directories
  processes : m'.processes = m.processes
  running : m'.running = m.running
  waiting : m'.waiting = m.waiting

namespace Timeline

/-! ## Hovers on a timeline -/

/-- What has come of a hover that was next at `t` when nothing is due any more at `u`. -/
inductive Comes (t u : Timeline) (a : Arrival) (uri : String) (position : Position)
    (s : Settings) : Prop
  /-- It has no outcome: its process runs for ever, or the one that it waits for. -/
  | never {job : Job} (none : u.machine.outcomes.lookup a.task = none)
    (runs : u.machine.running = some job) (endless : job.Endless)
    (waits : a.task ∈ job.ticket.task :: u.machine.waiting.map (·.task))
  /-- It ended as soon as it was asked, and nothing was touched. -/
  | atOnce {stage : Stage} {o : Outcome} (early : stage.isEarly = true)
    (outcome : u.machine.outcomes.lookup a.task = some o)
    (ends : Passage.EndsAt ⟨t.machine.server, uri, position, t.machine⟩ s stage o)
    (done : (t.take a.delivery).machine.outcomes.lookup a.task = some o)
    (spares : t.machine.Spares (t.take a.delivery).machine)
  /-- It entered its compile section on the way, and ended there or after it. -/
  | compiled {stage : Stage} {o : Outcome} {entry : Machine} {ticket : Ticket}
    (late : stage.isEarly = false) (outcome : u.machine.outcomes.lookup a.task = some o)
    (ends : Passage.EndsAt ⟨t.machine.server, uri, position, entry⟩ s stage o)
    (same : ticket.task = a.task) (enters : t.machine.Enters ticket s entry u.machine)

/-- A hover that gets a question waits for ever, or comes to its end in its compile section. -/
theorem OnItsWay.comes {t u : Timeline} {a : Arrival} {uri : String} {position : Position}
    {s : Settings} {q : Server.Question}
    (h : OnItsWay t.machine ⟨a.task, false, uri, q⟩ s u) (hover : u.Over)
    (named : t.machine.server.Named)
    (hpipe : t.machine.server.pipeline = ⟨s, s⟩)
    (hq : t.machine.server.guardedQuestion false uri position = .ok (some q)) :
    t.Comes u a uri position s := by
  rcases h.over hover with ⟨hnone, job, hruns, hendless, hwaits⟩ |
    ⟨entry, ending, henters, hends, hlookup⟩
  · exact .never hnone hruns hendless hwaits
  · obtain ⟨hphase, hopen, hq?⟩ := Passage.guardedQuestion_ok
      (p := ⟨t.machine.server, uri, position, entry⟩) (s := s) (by rw [hpipe]) hq
    rcases hq? with ⟨hnone, -⟩ | ⟨hsymbol, hsome⟩
    · cases hnone
    · have hreach := (Passage.reaches_noSymbol hphase hopen).next hsymbol
        (b := .noDirectory) rfl
      obtain ⟨stage, hlate, hstage⟩ := Passage.endsAt_of_sectionEnd
        (p := ⟨t.machine.server, uri, position, entry⟩) (henters.comes.named named)
        henters.settings rfl (Option.some.inj hsome) hreach hends
      exact .compiled hlate hlookup hstage rfl henters

namespace Sample

def greeting : Arrival :=
  { task := 0, request := .handshake none .null }

def opening : Arrival :=
  { task := 1, request := .didOpen ⟨"a", "chapel", 1, "x"⟩ }

def asking : Arrival :=
  { task := 2, request := .hover false "a" ⟨0, 0⟩ }

/-- A host whose compiler writes the entry `x[1]:i(1)` to its pass log. -/
def host : Host where
  compilers := [("chpl", [.runs { files :=
    [⟨"log/text_13resolve.ast", .file [120, 91, 49, 93, 58, 105, 40, 49, 41]⟩] }])]

/-- A session: the handshake, a document with the text `x`, and a hover on it. -/
def start : Timeline where
  machine := { host }
  arrivals := [greeting, opening, asking]

/-- The session when the hover is next. -/
def opened : Timeline :=
  (start.take greeting.delivery).take opening.delivery

end Sample

end Timeline

end ChapelServer
