import ChapelServer.Proofs.Document.Store
import ChapelServer.Proofs.Session.Fate
import ChapelServer.Proofs.Settings.Reading

/-!
# The server turn by turn

A server that asks the client for its configuration goes on while the client makes up its answer,
so that the answer meets the server in whatever state it is in by then. A turn is what is due, or
one half of such a change of configuration: the question, or the answer with what follows from it.
Turns come in any order.

Of the machine, only messages and answers change the server; so the server of a run is a fold of
the server's own turns, and what one of them keeps, every run keeps.
-/

namespace ChapelServer

/-! ## Asking for the configuration -/

/-- The configuration in what the client answers, or why there is none. -/
def ClientReply.item : ClientReply → Except String Value
  | .items value => Server.firstItem value
  | .refusal reason => .error reason

namespace Server

/-- The client is to be asked for its configuration. -/
def pulls (s : Server) (settings : Value) : Bool :=
  !hasSection settings && s.capabilities.configuration

/-- A change of configuration, from the client's answer on. -/
def resume (s : Server) (settings : Value) (reply : ClientReply) : Handled :=
  match reply.item with
  | .ok value => s.applySettings value
  | .error reason =>
    let handled := s.applySettings settings
    { handled with events := .notice (.configurationFailed reason) :: handled.events }

/-- A change of configuration for which the client is asked is the question, and then the rest. -/
theorem configure_of_pulls {s : Server} {settings : Value} (h : s.pulls settings)
    (reply : ClientReply) :
    s.configure settings reply =
      { s.resume settings reply with
        events := .pull ["chapel"] :: (s.resume settings reply).events } := by
  have hasks : (!hasSection settings && s.capabilities.configuration) = true := h
  unfold configure
  rw [if_pos hasks]
  cases reply with
  | refusal reason => rfl
  | items value =>
    cases hfirst : firstItem value with
    | ok item => simp [resume, ClientReply.item, hfirst]
    | error reason => simp [resume, ClientReply.item, hfirst]

theorem configure_of_not_pulls {s : Server} {settings : Value} (h : s.pulls settings = false)
    (reply : ClientReply) : s.configure settings reply = s.applySettings settings := by
  have hknown : ¬ (!hasSection settings && s.capabilities.configuration) = true := by
    rw [← pulls, h]
    exact Bool.false_ne_true
  unfold configure
  rw [if_neg hknown]

end Server

/-! ## Turns -/

/-- What the machine does next: what is due, or one half of a change of configuration. -/
inductive Turn
  | due (due : Due)
  /-- The client is asked for its configuration. -/
  | pull
  /-- The client answers to a change that came with these settings. -/
  | answer (task : Nat) (settings : Value) (reply : ClientReply)

namespace Machine

/-- The machine after a turn. -/
def turn (m : Machine) : Turn → Machine
  | .due due => m.happen due
  | .pull => m.emit [.pull ["chapel"]]
  | .answer task settings reply => m.absorb task (m.server.resume settings reply)

/-- The machine after turns, in this order. -/
def turns (m : Machine) (turns : List Turn) : Machine :=
  turns.foldl turn m

/-- A change of configuration that is answered at once is its two halves. -/
theorem turn_configure {m : Machine} {settings : Value} (h : m.server.pulls settings) (task : Nat)
    (reply : ClientReply) :
    m.turn (.due ⟨m.now, .deliver task (.configure settings reply)⟩) =
      (m.turn .pull).turn (.answer task settings reply) := by
  simp only [turn, happen, act, deliver, Server.configure_of_pulls h, absorb_eq, emit,
    List.map_cons, List.cons_append, List.map_nil, List.append_assoc, List.nil_append]

theorem turn_settled {m : Machine} (h : m.Settled) (turn : Turn) : (m.turn turn).Settled := by
  cases turn with
  | due due => exact happen_settled h due
  | pull | answer => exact h

theorem turns_settled {m : Machine} (h : m.Settled) (turns : List Turn) :
    (m.turns turns).Settled := by
  induction turns generalizing m with
  | nil => exact h
  | cons turn turns ih => exact ih (turn_settled h turn)

end Machine

namespace Server

/-- The server after a message. A hover leaves it as it is. -/
def after (s : Server) (request : Request) : Server :=
  ((Machine.handled? s request).map (·.server)).getD s

/-- The server after a turn. -/
def turn (s : Server) : Turn → Server
  | .due ⟨_, .deliver _ request⟩ => s.after request
  | .due _ | .pull => s
  | .answer _ settings reply => (s.resume settings reply).server

/-! ### One message -/

theorem after_of_handled {s : Server} {request : Request} {handled : Handled}
    (h : Machine.handled? s request = some handled) : s.after request = handled.server := by
  simp [after, h]

end Server

/-- The message leaves the server as it is. -/
def Request.isIdle : Request → Bool
  | .ready _ | .folders | .watched _ | .completion | .resolveItem _ | .hover _ _ _ => true
  | _ => false

namespace Server

theorem after_of_idle {request : Request} (h : request.isIdle) (s : Server) :
    s.after request = s := by
  cases request with
  | ready | completion =>
    simp only [after, Machine.handled?, ready, completion]
    split <;> rfl
  | folders | watched | resolveItem | hover => rfl
  | _ => cases h

theorem after_didOpen (s : Server) (document : Document) :
    s.after (.didOpen document) =
      { s with
        documents := if s.isInitialized then s.documents.put document else s.documents } := by
  simp only [after, Machine.handled?, didOpen, Option.map_some, Option.getD_some]
  split <;> rfl

/-- The text that the last of the changes gives, if that is one of the whole text. -/
def wholeText? (changes : List ContentChange) : Option Text :=
  match changes.getLast? with
  | some ⟨text, none⟩ => some text
  | _ => none

/-- Changes are taken exactly if the last one is of the whole text of a document that is open. -/
theorem after_didChange (s : Server) (uri : String) (version : Int)
    (changes : List ContentChange) :
    s.after (.didChange uri version changes) =
      { s with
        documents :=
          match s.isInitialized, s.documents.get? uri, wholeText? changes with
          | true, some doc, some text => s.documents.put { doc with version, text }
          | _, _, _ => s.documents } := by
  simp only [after, Machine.handled?, didChange, wholeText?, Option.map_some, Option.getD_some]
  cases s.isInitialized with
  | false => rfl
  | true =>
    simp only [if_true]
    cases hlast : changes.getLast? with
    | none => cases s.documents.get? uri <;> rfl
    | some last =>
      obtain ⟨text, range⟩ := last
      cases range with
      | some range => cases s.documents.get? uri <;> rfl
      | none =>
        cases hdoc : s.documents.get? uri with
        | none => simp [lastChange, Documents.change_of_not_open hdoc]
        | some doc => simp [lastChange, Documents.change_of_open hdoc]

/-- New settings touch neither the phase nor the documents. -/
theorem applySettings_frame (s : Server) (value : Value) :
    (s.applySettings value).server.phase = s.phase ∧
      (s.applySettings value).server.documents = s.documents := by
  unfold applySettings
  simp only
  split <;> exact ⟨rfl, rfl⟩

theorem resume_frame (s : Server) (settings : Value) (reply : ClientReply) :
    (s.resume settings reply).server.phase = s.phase ∧
      (s.resume settings reply).server.documents = s.documents := by
  unfold resume
  split <;> exact s.applySettings_frame _

theorem configure_frame (s : Server) (settings : Value) (reply : ClientReply) :
    (s.configure settings reply).server.phase = s.phase ∧
      (s.configure settings reply).server.documents = s.documents := by
  unfold configure
  split <;> exact s.applySettings_frame _

theorem handshake_frame (s : Server) (client : Option ClientMessage) (options : Value) :
    (s.handshake client options).server.phase = .initialized ∧
      (s.handshake client options).server.documents = s.documents := by
  unfold handshake
  simp only
  split
  · exact applySettings_frame _ options
  · exact ⟨rfl, rfl⟩

end Server

theorem Machine.Response.server_after {m m' : Machine} {task : Nat} {request : Request}
    (h : Response m (.deliver task request) m') : m'.server = m.server.after request := by
  cases h with
  | absorbed hh => exact (Server.after_of_handled hh).symm
  | dismissed | queued => rfl
  | left hr hl => cases hl
  | idle hi => cases hi

namespace Machine

/-- What is due changes the server only by the message that it delivers. -/
theorem turn_server {m : Machine} (h : m.Settled) (turn : Turn) :
    (m.turn turn).server = m.server.turn turn := by
  cases turn with
  | pull | answer => rfl
  | due due =>
    obtain ⟨instant, action⟩ := due
    have hresponse := response { m with now := instant } action
    have hserver : (m.turn (.due ⟨instant, action⟩)).server =
        ({ m with now := instant }.respond action).server := by
      rw [turn, happen_eq h, advance_server]
    rw [hserver]
    cases action with
    | deliver task request => exact hresponse.server_after
    | _ => exact hresponse.server nofun

/-- The server of a run is a fold of its own turns. -/
theorem turns_server {m : Machine} (h : m.Settled) (turns : List Turn) :
    (m.turns turns).server = turns.foldl Server.turn m.server := by
  induction turns generalizing m with
  | nil => rfl
  | cons turn turns ih =>
    rw [List.foldl_cons, ← turn_server h turn]
    exact ih (turn_settled h turn)

/-- What every turn of the server keeps holds in every run, if it holds of a new server. -/
theorem turns_keep {P : Server → Prop} {turns : List Turn} (host : Host)
    (start : P { room := host.room }) (step : ∀ s, ∀ turn ∈ turns, P s → P (s.turn turn)) :
    P (Machine.turns { host } turns).server := by
  rw [turns_server (fun _ => rfl)]
  exact List.foldlRecOn turns Server.turn start fun s hs turn hturn => step s turn hturn hs

end Machine

/-! ## New settings -/

/-- The values that may become the settings when the client answers. -/
def ClientReply.offers (reply : ClientReply) (settings : Value) : List Value :=
  settings :: reply.item.toOption.toList

/-- The values in a message that may become the settings. -/
def Request.offers : Request → List Value
  | .handshake _ options => [options]
  | .configure settings reply => reply.offers settings
  | _ => []

/-- The values of a turn that may become the settings. -/
def Turn.offers : Turn → List Value
  | .due ⟨_, .deliver _ request⟩ => request.offers
  | .due _ | .pull => []
  | .answer _ settings reply => reply.offers settings

namespace Server

theorem settingsShared_iff {s : Server} :
    s.settingsShared ↔ s.pipeline = ⟨s.settings, s.settings⟩ := by
  cases hp : s.pipeline
  simp [settingsShared, hp]

/-- The server keeps its settings, or has others, read from one of these values, in force
everywhere. The room that it has for texts is always the same. -/
inductive Renewed (values : List Value) (s s' : Server) : Prop
  | kept (settings : s'.settings = s.settings) (pipeline : s'.pipeline = s.pipeline)
    (room : s'.room = s.room)
  | replaced {value : Value} (offered : value ∈ values)
    (read : (Settings.ofValue s.room value).1 = .ok s'.settings)
    (pipeline : s'.pipeline = ⟨s'.settings, s'.settings⟩) (room : s'.room = s.room)

theorem Renewed.room_eq {values : List Value} {s s' : Server} (h : Renewed values s s') :
    s'.room = s.room := by
  cases h with
  | kept settings pipeline room => exact room
  | replaced offered read pipeline room => exact room

/-- The settings in force name the pass log. -/
def Named (s : Server) : Prop :=
  ∃ name, s.pipeline.compilerSettings.artifactName s.room = .ok name

theorem Renewed.named {values : List Value} {s s' : Server} (h : Renewed values s s')
    (hs : s.Named) : s'.Named := by
  unfold Named at hs ⊢
  cases h with
  | kept settings pipeline room => rwa [pipeline, room]
  | replaced offered read pipeline room =>
    rw [pipeline, room]
    exact Settings.artifactName_of_ofValue read

theorem Renewed.shared {values : List Value} {s s' : Server} (h : Renewed values s s')
    (hs : s.settingsShared) : s'.settingsShared := by
  rw [settingsShared_iff] at hs ⊢
  cases h with
  | kept settings pipeline => rw [settings, pipeline, hs]
  | replaced offered read pipeline => exact pipeline

theorem Renewed.mono {values more : List Value} {s s' : Server} (h : Renewed values s s')
    (hsub : ∀ value ∈ values, value ∈ more) : Renewed more s s' := by
  cases h with
  | kept settings pipeline room => exact .kept settings pipeline room
  | replaced offered read pipeline room => exact .replaced (hsub _ offered) read pipeline room

theorem applySettings_renewed (s : Server) (value : Value) :
    Renewed [value] s (s.applySettings value).server := by
  cases hread : (Settings.ofValue s.room value).1 with
  | ok settings =>
    have hserver : (s.applySettings value).server = s.withSettings settings := by
      simp only [applySettings, hread]
    rw [hserver]
    exact .replaced List.mem_cons_self hread rfl rfl
  | error obstacle =>
    have hserver : (s.applySettings value).server = s := by
      simp only [applySettings, hread]
    rw [hserver]
    exact .kept rfl rfl rfl

theorem resume_renewed (s : Server) (settings : Value) (reply : ClientReply) :
    Renewed (reply.offers settings) s (s.resume settings reply).server := by
  unfold resume ClientReply.offers
  cases reply.item with
  | ok value => exact (s.applySettings_renewed value).mono (by simp [Except.toOption])
  | error reason => exact (s.applySettings_renewed settings).mono (by simp)

theorem configure_renewed (s : Server) (settings : Value) (reply : ClientReply) :
    Renewed (reply.offers settings) s (s.configure settings reply).server := by
  cases hp : s.pulls settings with
  | true =>
    rw [configure_of_pulls hp]
    exact s.resume_renewed settings reply
  | false =>
    rw [configure_of_not_pulls hp]
    exact (s.applySettings_renewed settings).mono (by simp [ClientReply.offers])

theorem handshake_renewed (s : Server) (client : Option ClientMessage) (options : Value) :
    Renewed [options] s (s.handshake client options).server := by
  unfold handshake
  simp only
  split
  · -- The phase and the capabilities are noted first, and are no settings.
    let noted := { s with capabilities := Capabilities.ofMessage client, phase := .initialized }
    cases noted.applySettings_renewed options with
    | kept settings pipeline room => exact .kept settings pipeline room
    | replaced offered read pipeline room => exact .replaced offered read pipeline room
  · exact .kept rfl rfl rfl

/-- A message brings settings that it offers, or none. -/
theorem after_renewed (s : Server) (request : Request) :
    Renewed request.offers s (s.after request) := by
  cases request with
  | handshake client options => exact s.handshake_renewed client options
  | configure settings reply => exact s.configure_renewed settings reply
  | didOpen document =>
    rw [after_didOpen]
    exact .kept rfl rfl rfl
  | didChange uri version changes =>
    rw [after_didChange]
    exact .kept rfl rfl rfl
  | didClose | shutdown => exact .kept rfl rfl rfl
  | ready | folders | watched | completion | resolveItem | hover =>
    rw [after_of_idle rfl]
    exact .kept rfl rfl rfl

theorem turn_renewed (s : Server) (turn : Turn) : Renewed turn.offers s (s.turn turn) := by
  cases turn with
  | pull => exact .kept rfl rfl rfl
  | answer task settings reply => exact s.resume_renewed settings reply
  | due due =>
    obtain ⟨instant, action⟩ := due
    cases action with
    | deliver task request => exact s.after_renewed request
    | _ => exact .kept rfl rfl rfl

end Server

namespace Machine

theorem Response.renewed {m m' : Machine} {action : Action} (h : Response m action m') :
    ∃ values, Server.Renewed values m.server m'.server := by
  cases action with
  | deliver task request =>
    rw [h.server_after]
    exact ⟨_, m.server.after_renewed request⟩
  | _ =>
    rw [h.server nofun]
    exact ⟨[], .kept rfl rfl rfl⟩

theorem Response.room_eq {m m' : Machine} {action : Action} (h : Response m action m') :
    m'.server.room = m.server.room := by
  obtain ⟨values, hrenewed⟩ := h.renewed
  exact hrenewed.room_eq

theorem Entry.room_eq {m m' : Machine} {t : Ticket} (h : Entry m t m') :
    m'.server.room = m.server.room :=
  congrArg Server.room h.server_eq

theorem Move.renewed {m m' : Machine} (h : Move m m') :
    ∃ values, Server.Renewed values m.server m'.server := by
  cases h with
  | respond due settled => exact (response { m with now := due.instant } due.action).renewed
  | enter free next =>
    rw [(entry _ _).server_eq]
    exact ⟨[], .kept rfl rfl rfl⟩

/-- The settings in force name the pass log, whatever happens. -/
theorem Moves.named {m m' : Machine} (h : Moves m m') (hm : m.server.Named) : m'.server.Named := by
  refine h.keep (P := fun m => m.server.Named) (fun hmove hm => ?_) hm
  obtain ⟨values, hrenewed⟩ := hmove.renewed
  exact hrenewed.named hm

end Machine

/-- The settings of the state, of the symbol and of the compiler are the same in every run. -/
theorem Machine.turns_shared (host : Host) (turns : List Turn) :
    (Machine.turns { host } turns).server.settingsShared :=
  turns_keep (P := fun s => s.settingsShared) host rfl
    fun s turn _ h => (s.turn_renewed turn).shared h

/-- The room for texts is that of the host in every run. -/
theorem Machine.turns_room (host : Host) (turns : List Turn) :
    (Machine.turns { host } turns).server.room = host.room :=
  turns_keep (P := fun s => s.room = host.room) host rfl
    fun s turn _ h => (s.turn_renewed turn).room_eq.trans h

end ChapelServer
