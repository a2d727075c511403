import ChapelServer.Proofs.Server.Turn
import ChapelServer.Proofs.Settings.Independence

/-!
# Sections that are pushed

A client that changes its configuration sends the server's section wrapped in a field, or bare. Both
forms are read alike, but only the first one is taken for a section when it comes: a bare one counts
as a message without any. So where the client can be asked for its configuration it is asked, and
the bare section is put in force only if there is no answer.
-/

namespace ChapelServer

open Settings (payload)

/-- A section without a field of that name in it is read alike wrapped and bare. -/
theorem Settings.ofValue_bare {fields : List (Text × Value)}
    (h : fields.lookup ("chapel" : Text) = none) (room : Nat) :
    ofValue room (payload false fields) = ofValue room (payload true fields) := by
  have hwrapped : sectionOf? (payload true fields) = some fields := rfl
  have hbare : sectionOf? (payload false fields) = some fields := by
    simp only [payload, Bool.false_eq_true, if_false, sectionOf?, h]
  simp only [ofValue, hwrapped, hbare]

namespace Server

/-- What the client answers if it is asked for its configuration, and if it can be. -/
def answered (s : Server) (reply : ClientReply) : Option Value :=
  if s.capabilities.configuration then reply.item.toOption else none

/-- A change of configuration does to the server what the value does that it puts in force. -/
theorem configure_server (s : Server) (settings : Value) (reply : ClientReply) :
    (s.configure settings reply).server =
      (s.applySettings (s.configured settings reply)).server := by
  unfold configure configured
  split
  · cases reply with
    | refusal reason => rfl
    | items value =>
      cases hfirst : firstItem value with
      | ok item => simp [hfirst, Except.toOption]
      | error reason => simp [hfirst, Except.toOption]
  · rfl

/-- A wrapped section is put in force as it comes. -/
theorem configured_wrapped (s : Server) (fields : List (Text × Value)) (reply : ClientReply) :
    s.configured (payload true fields) reply = payload true fields := rfl

/-- A bare section gives way to what the client answers. -/
theorem configured_bare (s : Server) {fields : List (Text × Value)}
    (h : fields.lookup ("chapel" : Text) = none) (reply : ClientReply) :
    s.configured (payload false fields) reply =
      (s.answered reply).getD (payload false fields) := by
  have hsection : hasSection (payload false fields) = false := by
    simp only [payload, Bool.false_eq_true, if_false, hasSection, h]
  unfold configured answered
  rw [hsection, Bool.not_false, Bool.true_and]
  split
  · cases reply <;> rfl
  · rfl

/-- Values that are read alike are put in force alike. -/
theorem applySettings_congr (s : Server) {value value' : Value}
    (h : Settings.ofValue s.room value = Settings.ofValue s.room value') :
    s.applySettings value = s.applySettings value' := by
  simp only [applySettings, h]

/-- A section that is pushed wrapped is put in force whatever the client would answer. Pushed bare,
it comes to the same, unless the client can be asked and answers; then the answer is put in force in
its place. -/
theorem pushed_section_in_force (s : Server) (reply : ClientReply) (fields : List (Text × Value))
    (plain : fields.lookup ("chapel" : Text) = none) :
    let wrapped := s.configure (payload true fields) reply
    let bare := s.configure (payload false fields) reply
    (wrapped.server = (s.applySettings (payload true fields)).server ∧
        wrapped.outcome = (s.applySettings (payload true fields)).outcome) ∧
      (s.answered reply = none →
        bare.server = wrapped.server ∧ bare.outcome = wrapped.outcome) ∧
      ∀ item, s.answered reply = some item →
        bare.server = (s.applySettings item).server ∧
          bare.outcome = (s.applySettings item).outcome := by
  intro wrapped bare
  have hread := s.applySettings_congr (Settings.ofValue_bare plain s.room)
  have hwrapped : wrapped.server = (s.applySettings (payload true fields)).server ∧
      wrapped.outcome = (s.applySettings (payload true fields)).outcome := by
    rw [s.configure_server, s.configure_outcome, s.configured_wrapped]
    exact ⟨rfl, rfl⟩
  have hbare : bare.server =
        (s.applySettings ((s.answered reply).getD (payload false fields))).server ∧
      bare.outcome =
        (s.applySettings ((s.answered reply).getD (payload false fields))).outcome := by
    rw [s.configure_server, s.configure_outcome, s.configured_bare plain]
    exact ⟨rfl, rfl⟩
  refine ⟨hwrapped, fun hnone => ?_, fun item hitem => ?_⟩
  · rwa [hnone, Option.getD_none, hread, ← hwrapped.1, ← hwrapped.2] at hbare
  · rwa [hitem, Option.getD_some] at hbare

namespace Sample

/-- A server whose client can be asked for its configuration. -/
def asking : Server :=
  (({} : Server).handshake (some { workspace := some { configuration := some true } }) .null).server

/-- A section that names a stem. -/
def named : List (Text × Value) :=
  [("stagingStem", .text "hover")]

end Sample

/-- A client that refuses to answer gets its bare section put in force like a wrapped one. A client
that answers with nothing loses it to the defaults. -/
theorem pushed_section_in_force_sample :
    let wrapped := fun reply => Sample.asking.configure (payload true Sample.named) reply
    let bare := fun reply => Sample.asking.configure (payload false Sample.named) reply
    let refused := ClientReply.refusal "busy"
    let nothing := ClientReply.items (.list [.null])
    Sample.named.lookup ("chapel" : Text) = none ∧
      ((bare refused).server = (wrapped refused).server ∧
        (wrapped refused).server.settings = { stagingStem := "hover" }) ∧
      ((bare nothing).server = (Sample.asking.applySettings .null).server ∧
        (bare nothing).server.settings = {} ∧
        (wrapped nothing).server.settings = { stagingStem := "hover" }) := by
  intro wrapped bare refused nothing
  have hplain : Sample.named.lookup ("chapel" : Text) = none := rfl
  have hrefused := (pushed_section_in_force Sample.asking refused Sample.named hplain).2.1 rfl
  have hnothing :=
    (pushed_section_in_force Sample.asking nothing Sample.named hplain).2.2 .null rfl
  exact ⟨hplain, ⟨hrefused.1, by decide +kernel⟩, hnothing.1, by decide +kernel, by decide +kernel⟩

end Server

end ChapelServer
