import ChapelServer.Proofs.Server.Turn

/-!
# Document synchronisation

What the server holds for each address is told by the accepted changes alone, applied in the order
in which they came. A change is accepted or not by what came before it: opening and changing need a
server that answers, and changing needs the address to be open and the last change to be of the
whole text. Whatever is not accepted, and whatever is no change at all, leaves the documents as
they are. A server that does not answer holds none.
-/

namespace ChapelServer

/-! ## Accepted changes -/

/-- The change that a message makes, if the server answers (`live`) and this is held. -/
def Request.edit? (live : Bool) (held : Holding) : Request → Option Edit
  | .didOpen document => if live then some (.opens document) else none
  | .didChange uri version changes =>
    if live && (held uri).isSome then
      (Server.wholeText? changes).map (.changes uri version)
    else none
  | .didClose uri => some (.closes uri)
  | .shutdown => some .clears
  | _ => none

namespace Turn

/-- The message that a turn delivers. -/
def request? : Turn → Option Request
  | .due ⟨_, .deliver _ request⟩ => some request
  | _ => none

/-- The change that a turn makes. -/
def edit? (live : Bool) (held : Holding) (turn : Turn) : Option Edit :=
  turn.request?.bind (·.edit? live held)

/-- The server answers after a turn: from a handshake on, until it is shut down. -/
def answers (live : Bool) (turn : Turn) : Bool :=
  match turn.request? with
  | some (.handshake _ _) => true
  | some .shutdown => false
  | _ => live

/-- The accepted changes of a run. -/
def accepted : Bool → Holding → List Turn → List Edit
  | _, _, [] => []
  | live, held, turn :: turns =>
    match turn.edit? live held with
    | some edit => edit :: accepted (turn.answers live) (edit.apply held) turns
    | none => accepted (turn.answers live) held turns

end Turn

/-! ## One turn -/

namespace Server

/-- What a message does to the documents: the change that it makes, or nothing. -/
theorem after_documents (s : Server) (request : Request) :
    match request.edit? s.isInitialized s.documents.get? with
    | some edit => (s.after request).documents.get? = edit.apply s.documents.get?
    | none => (s.after request).documents = s.documents := by
  cases request with
  | handshake client options => exact (s.handshake_frame client options).2
  | configure settings reply => exact (s.configure_frame settings reply).2
  | ready | folders | watched | completion | resolveItem | hover =>
    rw [after_of_idle rfl]
    rfl
  | shutdown => rfl
  | didOpen document =>
    rw [after_didOpen]
    simp only [Request.edit?]
    cases s.isInitialized with
    | true => exact s.documents.get?_eq_update_put document
    | false => rfl
  | didClose uri => exact s.documents.get?_eq_update_close uri
  | didChange uri version changes =>
    rw [after_didChange]
    simp only [Request.edit?]
    cases s.isInitialized with
    | false => rfl
    | true =>
      cases hdoc : s.documents.get? uri with
      | none => rfl
      | some doc =>
        cases wholeText? changes with
        | none => rfl
        | some text =>
          have hopen : doc.uri = uri := Documents.uri_of_get? hdoc
          simp [Edit.apply, hdoc, Documents.get?_eq_update_put, hopen]

theorem turn_documents (s : Server) (turn : Turn) :
    match turn.edit? s.isInitialized s.documents.get? with
    | some edit => (s.turn turn).documents.get? = edit.apply s.documents.get?
    | none => (s.turn turn).documents = s.documents := by
  cases turn with
  | pull => rfl
  | answer task settings reply => exact (s.resume_frame settings reply).2
  | due due =>
    obtain ⟨instant, action⟩ := due
    cases action with
    | deliver task request => exact s.after_documents request
    | _ => rfl

/-- A turn that makes no change leaves the documents as they are, their order included. -/
theorem turn_of_no_edit {s : Server} {turn : Turn}
    (h : turn.edit? s.isInitialized s.documents.get? = none) :
    (s.turn turn).documents = s.documents := by
  have hturn := s.turn_documents turn
  rwa [h] at hturn

theorem turn_of_edit {s : Server} {turn : Turn} {edit : Edit}
    (h : turn.edit? s.isInitialized s.documents.get? = some edit) :
    (s.turn turn).documents.get? = edit.apply s.documents.get? := by
  have hturn := s.turn_documents turn
  rwa [h] at hturn

theorem after_phase (s : Server) (request : Request) :
    (s.after request).isInitialized =
      match request with
      | .handshake _ _ => true
      | .shutdown => false
      | _ => s.isInitialized := by
  cases request with
  | handshake client options =>
    have hphase : (s.after (.handshake client options)).phase = .initialized :=
      (s.handshake_frame client options).1
    simp [isInitialized, hphase]
  | configure settings reply =>
    have hphase : (s.after (.configure settings reply)).phase = s.phase :=
      (s.configure_frame settings reply).1
    simp [isInitialized, hphase]
  | didOpen document =>
    rw [after_didOpen]
    rfl
  | didChange uri version changes =>
    rw [after_didChange]
    rfl
  | didClose | shutdown => rfl
  | ready | folders | watched | completion | resolveItem | hover => rw [after_of_idle rfl]

theorem turn_phase (s : Server) (turn : Turn) :
    (s.turn turn).isInitialized = turn.answers s.isInitialized := by
  cases turn with
  | pull => rfl
  | answer task settings reply =>
    have hphase : (s.turn (.answer task settings reply)).phase = s.phase :=
      (s.resume_frame settings reply).1
    simp [isInitialized, hphase, Turn.answers, Turn.request?]
  | due due =>
    obtain ⟨instant, action⟩ := due
    cases action with
    | deliver task request =>
      refine (s.after_phase request).trans ?_
      cases request <;> rfl
    | _ => rfl

/-- No address is held twice. -/
theorem after_nodup {s : Server} (h : s.documents.uris.Nodup) (request : Request) :
    (s.after request).documents.uris.Nodup := by
  cases request with
  | didOpen document =>
    rw [after_didOpen]
    by_cases hlive : s.isInitialized = true
    · simpa only [hlive, if_true] using Documents.nodup_put h document
    · simpa only [if_neg hlive] using h
  | didClose uri => exact Documents.nodup_close h uri
  | didChange uri version changes =>
    rw [after_didChange]
    dsimp only
    split
    · exact Documents.nodup_put h _
    · exact h
  | shutdown => exact List.nodup_nil
  | handshake client options =>
    have hdocs : (s.after (.handshake client options)).documents = s.documents :=
      (s.handshake_frame client options).2
    rwa [hdocs]
  | configure settings reply =>
    have hdocs : (s.after (.configure settings reply)).documents = s.documents :=
      (s.configure_frame settings reply).2
    rwa [hdocs]
  | ready | folders | watched | completion | resolveItem | hover => rwa [after_of_idle rfl]

theorem turn_nodup {s : Server} (h : s.documents.uris.Nodup) (turn : Turn) :
    (s.turn turn).documents.uris.Nodup := by
  cases turn with
  | pull => exact h
  | answer task settings reply =>
    have hdocs : (s.turn (.answer task settings reply)).documents = s.documents :=
      (s.resume_frame settings reply).2
    rwa [hdocs]
  | due due =>
    obtain ⟨instant, action⟩ := due
    cases action with
    | deliver task request => exact after_nodup h request
    | _ => exact h

/-! ## All turns -/

/-- On the turns: each one brings what is held and whether the server answers to where the list of
accepted changes goes on from. -/
theorem foldl_turn_documents (s : Server) (turns : List Turn) :
    (turns.foldl turn s).documents.get? =
      (Turn.accepted s.isInitialized s.documents.get? turns).foldl Edit.apply
        s.documents.get? := by
  induction turns generalizing s with
  | nil => rfl
  | cons turn turns ih =>
    rw [List.foldl_cons, ih, s.turn_phase turn, Turn.accepted]
    cases hedit : turn.edit? s.isInitialized s.documents.get? with
    | none => simp only [turn_of_no_edit hedit]
    | some edit => simp only [turn_of_edit hedit, List.foldl_cons]

end Server

/-- The message is about one document. -/
def Request.isDocumentNotice : Request → Bool
  | .didOpen _ | .didChange _ _ _ | .didClose _ => true
  | _ => false

/-- The messages about documents come to nothing else. -/
theorem Machine.happen_documentNotice (m : Machine) {request : Request}
    (h : request.isDocumentNotice) (instant task : Nat) :
    (m.happen ⟨instant, .deliver task request⟩).outcomes = m.outcomes ++ [(task, .nothing)] := by
  cases request with
  | didOpen document =>
    simp only [happen, act, deliver, absorb_eq, Server.didOpen]
    split <;> rfl
  | didChange uri version changes =>
    simp only [happen, act, deliver, absorb_eq, Server.didChange]
    split
    · split
      · rfl
      · split <;> rfl
    · rfl
  | didClose uri => rfl
  | _ => cases h

/-- The documents of a run are what its accepted changes make of none, applied in the order in which
they came. Any turn that is none of these leaves them as they are, and the messages about documents
always come to their end. -/
theorem Machine.documents_follow_accepted_edits (host : Host) (turns : List Turn) :
    let m := Machine.turns { host } turns
    let held := (Turn.accepted false (fun _ => none) turns).foldl Edit.apply fun _ => none
    (∀ uri, m.server.documents.get? uri = held uri) ∧
      m.server.documents.uris.Nodup ∧
      (∀ doc, doc ∈ m.server.documents.toList ↔ held doc.uri = some doc) ∧
      (∀ turn : Turn, turn.edit? (m.server.phase = .initialized) held = none →
        (m.turn turn).server.documents = m.server.documents) ∧
      ∀ (instant task : Nat) (request : Request), request.isDocumentNotice →
        (m.turn (.due ⟨instant, .deliver task request⟩)).outcomes =
          m.outcomes ++ [(task, .nothing)] := by
  intro m held
  have hs : m.Settled := turns_settled (fun _ => rfl) turns
  have hheld : m.server.documents.get? = held := by
    have hfold := Server.foldl_turn_documents { room := host.room } turns
    rwa [← turns_server (m := { host }) (fun _ => rfl)] at hfold
  have hnodup : m.server.documents.uris.Nodup :=
    turns_keep (P := fun s => s.documents.uris.Nodup) host List.nodup_nil
      fun _ turn _ h => Server.turn_nodup h turn
  refine ⟨fun uri => congrFun hheld uri, hnodup, fun doc => ?_, fun turn hedit => ?_, ?_⟩
  · rw [← hheld]
    exact Documents.mem_iff_get? hnodup
  · rw [turn_server hs]
    rw [← hheld] at hedit
    exact Server.turn_of_no_edit hedit
  · intro instant task request hnotice
    exact m.happen_documentNotice hnotice instant task

/-! ## Documents and phases -/

namespace Server

/-- A server that does not answer holds no documents. -/
def Cleared (s : Server) : Prop :=
  s.phase = .initialized ∨ s.documents = {}

theorem Cleared.of_frame {s s' : Server} (h : s.Cleared)
    (hframe : s'.phase = s.phase ∧ s'.documents = s.documents) : s'.Cleared := by
  rw [Cleared, hframe.1, hframe.2]
  exact h

theorem Cleared.after {s : Server} (h : s.Cleared) (request : Request) :
    (s.after request).Cleared := by
  cases request with
  | handshake client options => exact .inl (s.handshake_frame client options).1
  | configure settings reply => exact h.of_frame (s.configure_frame settings reply)
  | shutdown => exact .inr rfl
  | ready | folders | watched | completion | resolveItem | hover => rwa [after_of_idle rfl]
  | didOpen document =>
    rw [after_didOpen]
    by_cases hlive : s.phase = .initialized
    · exact .inl hlive
    · have hdead : s.isInitialized = false := decide_eq_false hlive
      simpa [Cleared, hdead] using h
  | didChange uri version changes =>
    rw [after_didChange]
    by_cases hlive : s.phase = .initialized
    · exact .inl hlive
    · have hdead : s.isInitialized = false := decide_eq_false hlive
      simpa only [Cleared, hdead] using h
  | didClose uri =>
    refine h.imp_right fun hempty => ?_
    have hclose : (s.after (.didClose uri)).documents = s.documents.close uri := rfl
    rw [hclose, hempty]
    rfl

theorem Cleared.turn {s : Server} (h : s.Cleared) (turn : Turn) : (s.turn turn).Cleared := by
  cases turn with
  | pull => exact h
  | answer task settings reply => exact h.of_frame (s.resume_frame settings reply)
  | due due =>
    obtain ⟨instant, action⟩ := due
    cases action with
    | deliver task request => exact h.after request
    | _ => exact h

end Server

/-- Whatever comes, in whatever order, and however it ends: the settings of the state are those that
choose the symbol and those that the compiler is called with, and documents are held only while
the server answers. -/
theorem Machine.server_is_consistent (host : Host) (turns : List Turn) :
    let s := (Machine.turns { host } turns).server
    s.pipeline.symbolSettings = s.settings ∧ s.pipeline.compilerSettings = s.settings ∧
      (s.phase = .initialized ∨ s.documents = {}) := by
  intro s
  have hcleared : s.Cleared :=
    turns_keep host (.inr rfl) fun _ turn _ h => h.turn turn
  rw [Server.settingsShared_iff.mp (turns_shared host turns)]
  exact ⟨rfl, rfl, hcleared⟩

end ChapelServer
