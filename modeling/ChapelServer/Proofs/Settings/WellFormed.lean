import ChapelServer.Proofs.Compilation.Staging
import ChapelServer.Proofs.Number.Digits
import ChapelServer.Proofs.Server.Turn
import ChapelServer.Proofs.Text.Trimmed

/-!
# Settings in force are well formed

Every text among the settings in force has something in it and no blanks around it, the pass number
is short enough to be written, and the template gives a name. So the path of the pass log can always
be worked out, and staging never ends with a template that cannot be filled in.

The pass number needs numbers from the client that are no longer than a message can hold; everything
else is seen to when settings are read.
-/

namespace ChapelServer

/-! ## Short numbers -/

namespace Number

theorem ofDigitRun_lt {run : List Char} {n : Nat} (h : ofDigitRun run = .ok n) :
    n < 10 ^ maxDigits := by
  unfold ofDigitRun at h
  split at h
  · cases h
  · rename_i hlength
    obtain rfl := Except.ok.inj h
    have hdigits : ∀ d ∈ (run.map fun c => (Text.digitValue? c).getD 0).reverse, d < 10 := by
      intro d hd
      obtain ⟨c, -, rfl⟩ := List.mem_map.mp (List.mem_reverse.mp hd)
      cases hc : Text.digitValue? c with
      | none => decide
      | some d => exact Text.digitValue_lt hc
    have hlt := Nat.ofDigits_lt_base_pow_length (by decide : 1 < 10) hdigits
    rw [List.length_reverse, List.length_map] at hlt
    rw [Text.ofDigits_eq]
    exact hlt.trans_le (Nat.pow_le_pow_right (by decide) (by omega))

/-- A numeral that is read is a short number. -/
theorem integer_lt {text : List Char} {n : Int} (h : integer? text = some n) :
    n.natAbs < 10 ^ maxDigits := by
  simp only [integer?, Option.bind_eq_bind, Option.bind_eq_some_iff, Option.pure_def,
    Option.some.injEq] at h
  obtain ⟨bare, -, digits, -, k, hk, rfl⟩ := h
  have hrun : ofDigitRun digits = .ok k := by
    cases hr : ofDigitRun digits with
    | error e => simp [hr, Except.toOption] at hk
    | ok k' =>
      rw [hr] at hk
      rw [Option.some.inj hk]
  have hlt := ofDigitRun_lt hrun
  split <;> omega

namespace Binary64

/-- The number is one of the doubles. -/
def isDouble : Binary64 → Bool
  | .finite _ mantissa scale => mantissa < 2 ^ 53 && scale ≤ maxScale
  | _ => true

/-- The integer part of a double is a short number. -/
theorem truncate_lt {negative : Bool} {mantissa scale : Nat}
    (h : (finite negative mantissa scale).isDouble) :
    (truncate negative mantissa scale).natAbs < 10 ^ maxDigits := by
  obtain ⟨hmantissa, hscale⟩ : mantissa < 2 ^ 53 ∧ scale ≤ maxScale := by
    simpa [isDouble] using h
  have hwide (k : Nat) (hk : k ≤ maxDigits) : 2 ^ k ≤ 10 ^ maxDigits :=
    (Nat.pow_le_pow_left (by decide) k).trans (Nat.pow_le_pow_right (by decide) hk)
  have hexponents : 53 + maxScale = unitExponent + 1024 := rfl
  have hunits : mantissa * 2 ^ scale < 2 ^ unitExponent * 2 ^ 1024 := by
    calc mantissa * 2 ^ scale
        < 2 ^ 53 * 2 ^ scale := Nat.mul_lt_mul_of_pos_right hmantissa (Nat.two_pow_pos scale)
      _ ≤ 2 ^ 53 * 2 ^ maxScale := Nat.mul_le_mul_left _ (Nat.pow_le_pow_right (by decide) hscale)
      _ = 2 ^ unitExponent * 2 ^ 1024 := by
          rw [← Nat.pow_add, ← Nat.pow_add, hexponents]
  have habs : (truncate negative mantissa scale).natAbs =
      mantissa * 2 ^ scale / 2 ^ unitExponent := by
    simp only [truncate, magnitude, Nat.pow_eq]
    cases negative with
    | true => rw [if_pos rfl, Int.natAbs_neg, Int.natAbs_natCast]
    | false => rw [if_neg Bool.false_ne_true, Int.natAbs_natCast]
  rw [habs]
  calc mantissa * 2 ^ scale / 2 ^ unitExponent
      < 2 ^ 1024 := Nat.div_lt_of_lt_mul hunits
    _ ≤ 10 ^ maxDigits := hwide 1024 (by decide)

end Binary64

end Number

/-! ## Values that a message can hold -/

namespace Value

mutual

/-- The integers of a value are no longer than numerals that are read, and its other numbers are
doubles. -/
def isSendable : Value → Bool
  | .int n => n.natAbs < 10 ^ Number.maxDigits
  | .float x => x.isDouble
  | .list items => itemsSendable items
  | .record fields => fieldsSendable fields
  | .null | .bool _ | .text _ => true

/-- The items of a list can be sent. -/
def itemsSendable : List Value → Bool
  | [] => true
  | item :: rest => isSendable item && itemsSendable rest

/-- The fields of a record can be sent. -/
def fieldsSendable : List (Text × Value) → Bool
  | [] => true
  | (_, value) :: rest => isSendable value && fieldsSendable rest

end

theorem isSendable_of_lookup {fields : List (Text × Value)} (h : fieldsSendable fields)
    {key : Text} {value : Value} (hl : fields.lookup key = some value) : value.isSendable := by
  induction fields with
  | nil => cases hl
  | cons field rest ih =>
    obtain ⟨name, sent⟩ := field
    simp only [fieldsSendable, Bool.and_eq_true] at h
    rw [List.lookup_cons] at hl
    split at hl
    · obtain rfl := Option.some.inj hl
      exact h.1
    · exact ih h.2 hl

theorem fieldsSendable_of_section {value : Value} (h : value.isSendable)
    {fields : List (Text × Value)} (hs : Settings.sectionOf? value = some fields) :
    fieldsSendable fields := by
  cases value with
  | record sent =>
    rw [isSendable] at h
    simp only [Settings.sectionOf?] at hs
    split at hs
    · rename_i inner hinner
      obtain rfl := Option.some.inj hs
      simpa only [isSendable] using isSendable_of_lookup h hinner
    · cases hs
    · obtain rfl := Option.some.inj hs
      exact h
  | _ => cases hs

/-- The configuration in an answer can be sent if the answer can. -/
theorem isSendable_of_firstItem {value item : Value} (h : value.isSendable)
    (hi : Server.firstItem value = .ok item) : item.isSendable := by
  unfold Server.firstItem at hi
  split at hi
  · obtain rfl := Except.ok.inj hi
    simp only [isSendable, itemsSendable, Bool.and_eq_true] at h
    exact h.1
  all_goals cases hi
  all_goals rfl

end Value

namespace ClientReply

/-- The values in an answer. -/
def payload : ClientReply → List Value
  | .items value => [value]
  | .refusal _ => []

theorem isSendable_of_item {reply : ClientReply} (h : reply.payload.all Value.isSendable)
    {value : Value} (hi : reply.item = .ok value) : value.isSendable := by
  cases reply with
  | refusal reason => cases hi
  | items sent =>
    have hsent : sent.isSendable := by simpa [payload] using h
    exact Value.isSendable_of_firstItem hsent hi

end ClientReply

/-- The values in a message of the client. -/
def Request.payload : Request → List Value
  | .handshake _ options => [options]
  | .configure settings reply => settings :: reply.payload
  | _ => []

namespace Turn

/-- The values that the client sends in a turn. -/
def payload : Turn → List Value
  | .due ⟨_, .deliver _ request⟩ => request.payload
  | .due _ | .pull => []
  | .answer _ settings reply => settings :: reply.payload

/-- The client can send what a turn brings. -/
def isSendable (turn : Turn) : Bool :=
  turn.payload.all Value.isSendable

theorem isSendable_offers_reply {settings : Value} {reply : ClientReply}
    (h : (settings :: reply.payload).all Value.isSendable) :
    ∀ value ∈ reply.offers settings, value.isSendable := by
  rw [List.all_cons, Bool.and_eq_true] at h
  intro value hvalue
  rcases List.mem_cons.mp hvalue with rfl | hitem
  · exact h.1
  · have hok : reply.item = .ok value := by
      cases hr : reply.item with
      | error reason => simp [hr, Except.toOption] at hitem
      | ok item =>
        rw [hr] at hitem
        rw [List.mem_singleton.mp hitem]
    exact ClientReply.isSendable_of_item h.2 hok

/-- What may become the settings in a turn can be sent if the turn can. -/
theorem isSendable_offers {turn : Turn} (h : turn.isSendable) :
    ∀ value ∈ turn.offers, value.isSendable := by
  cases turn with
  | pull => exact nofun
  | answer task settings reply => exact isSendable_offers_reply h
  | due due =>
    obtain ⟨instant, action⟩ := due
    cases action with
    | deliver task request =>
      cases request with
      | configure settings reply => exact isSendable_offers_reply h
      | handshake client options =>
        intro value hvalue
        rw [List.mem_singleton.mp hvalue]
        simpa [isSendable, payload, Request.payload] using h
      | _ => exact nofun
    | _ => exact nofun

end Turn

/-! ## Settings that were read -/

namespace Settings

/-- Settings that a compilation can do with: texts that are trimmed, a pass number that can be
written, and a template that gives a name. -/
structure WellFormed (s : Settings) (room : Nat) : Prop where
  trimmed : ∀ text ∈ s.texts, Text.Trimmed CodePoint.isBlank text
  short : s.passNumber.natAbs < 10 ^ Number.maxDigits
  named : ∃ name, s.artifactName room = .ok name

theorem default_trimmed : ∀ text ∈ ({} : Settings).texts, Text.Trimmed CodePoint.isBlank text := by
  intro text htext
  have hkept : ∀ text ∈ ({} : Settings).texts, text.stripped ≠ [] ∧ text.stripped = text := by
    decide +kernel
  obtain ⟨hne, hstripped⟩ := hkept text htext
  rw [← hstripped]
  exact Text.trimBy_trimmed hne

theorem readText_trimmed {value : Value} {text : Text} (h : readText value = .taken text) :
    Text.Trimmed CodePoint.isBlank text := by
  cases value with
  | text s =>
    simp only [readText] at h
    split at h
    · cases h
    · rename_i hne
      obtain rfl := Reading.taken.inj h
      exact Text.trimBy_trimmed hne
  | _ => cases h

/-- What is read for a setting has every property that its default and all readings have. -/
theorem valueOf_has {α : Type} {P : α → Prop} {fields : List (Text × Value)} {key : String}
    {read : Value → Reading α} {default : α} (hd : P default)
    (hr : ∀ value a, given? fields key = some value → read value = .taken a → P a) :
    P (valueOf fields key read default) := by
  unfold valueOf
  cases hg : given? fields key with
  | none => exact hd
  | some value =>
    cases ha : read value with
    | taken a => simpa only [ha] using hr value a hg ha
    | invalid | unbounded => simpa only [ha] using hd

theorem valueOf_text_trimmed {fields : List (Text × Value)} {key : String}
    {default : Text} (hd : Text.Trimmed CodePoint.isBlank default) :
    Text.Trimmed CodePoint.isBlank (valueOf fields key readText default) :=
  valueOf_has hd fun _ _ _ h => readText_trimmed h

theorem valueOf_symbol_trimmed {fields : List (Text × Value)} {text : Text}
    (h : valueOf fields "fixedSymbol" readOptionalText none = some text) :
    Text.Trimmed CodePoint.isBlank text := by
  refine valueOf_has
    (P := fun symbol => ∀ text, symbol = some text → Text.Trimmed CodePoint.isBlank text)
    (by simp) ?_ text h
  rintro value symbol - hread name rfl
  unfold readOptionalText at hread
  split at hread
  · rename_i found hfound
    obtain rfl := Option.some.inj (Reading.taken.inj hread)
    exact readText_trimmed hfound
  · cases hread
  · cases hread

theorem gathered_trimmed (fields : List (Text × Value)) :
    ∀ text ∈ (gathered fields).texts, Text.Trimmed CodePoint.isBlank text := by
  intro text htext
  have hdefault := default_trimmed
  simp only [texts, gathered, List.mem_append, List.mem_cons, List.not_mem_nil, or_false,
    Option.mem_toList] at htext
  rcases htext with (rfl | rfl | rfl | rfl | rfl | rfl) | hsymbol
  case inr => exact valueOf_symbol_trimmed hsymbol
  all_goals exact valueOf_text_trimmed (hdefault _ (by simp [texts]))

theorem readInteger_short {value : Value} (hs : value.isSendable) {n : Int}
    (h : readInteger value = .taken n) : n.natAbs < 10 ^ Number.maxDigits := by
  unfold readInteger at h
  split at h
  · obtain rfl := Reading.taken.inj h
    simpa [Value.isSendable] using hs
  · obtain rfl := Reading.taken.inj h
    rw [Value.isSendable] at hs
    exact Number.Binary64.truncate_lt hs
  · cases h
  · rename_i text
    cases hi : Number.integer? text.chars with
    | none => simp [hi, Reading.ofOption] at h
    | some k =>
      rw [hi] at h
      rw [← Reading.taken.inj h]
      exact Number.integer_lt hi
  · cases h

theorem lookup_of_given? {fields : List (Text × Value)} {key : String} {value : Value}
    (h : given? fields key = some value) : fields.lookup (key : Text) = some value := by
  unfold given? at h
  split at h
  · cases h
  · cases h
  · rename_i hlookup
    rw [hlookup, h]

theorem default_short : ({} : Settings).passNumber.natAbs < 10 ^ Number.maxDigits := by
  decide +kernel

theorem gathered_short {fields : List (Text × Value)} (hs : Value.fieldsSendable fields) :
    (gathered fields).passNumber.natAbs < 10 ^ Number.maxDigits := by
  refine valueOf_has (P := fun n : Int => n.natAbs < 10 ^ Number.maxDigits) default_short ?_
  intro value n hg hread
  exact readInteger_short (Value.isSendable_of_lookup hs (lookup_of_given? hg)) hread

/-- A template that gives way to the default leaves all else as it is. -/
theorem withTemplate_frame (s : Settings) (room : Nat) :
    s.withTemplate room = s ∨
      s.withTemplate room = { s with artifactTemplate := ({} : Settings).artifactTemplate } := by
  unfold withTemplate
  split
  · exact .inl rfl
  · exact .inr rfl

theorem withTemplate_trimmed {s : Settings} {room : Nat}
    (h : ∀ text ∈ s.texts, Text.Trimmed CodePoint.isBlank text) :
    ∀ text ∈ (s.withTemplate room).texts, Text.Trimmed CodePoint.isBlank text := by
  rcases s.withTemplate_frame room with hs | hs
  · rwa [hs]
  · have htemplate := default_trimmed ({} : Settings).artifactTemplate (by simp [texts])
    rw [hs]
    simp only [texts, List.cons_append, List.nil_append, List.forall_mem_cons] at h ⊢
    obtain ⟨hcompiler, hpass, hlog, -, hrest⟩ := h
    exact ⟨hcompiler, hpass, hlog, htemplate, hrest⟩

theorem default_wellFormed (room : Nat) : ({} : Settings).WellFormed room where
  trimmed := default_trimmed
  short := default_short
  named := ⟨_, artifactName_default {} room⟩

/-- Settings that are read from a value that can be sent are well formed. -/
theorem wellFormed_of_ofValue {room : Nat} {value : Value} (hv : value.isSendable) {s : Settings}
    (h : (ofValue room value).1 = .ok s) : s.WellFormed room := by
  have hnamed := artifactName_of_ofValue h
  obtain ⟨-, rfl⟩ := ofValue_ok_iff.mp h
  cases hsection : sectionOf? value with
  | none =>
    simp only [normalised, hsection]
    exact default_wellFormed room
  | some fields =>
    have hfields := Value.fieldsSendable_of_section hv hsection
    simp only [normalised, hsection] at hnamed ⊢
    refine ⟨withTemplate_trimmed (gathered_trimmed fields), ?_, hnamed⟩
    rcases (gathered fields).withTemplate_frame room with hs | hs
    · rw [hs]
      exact gathered_short hfields
    · rw [hs]
      exact gathered_short hfields

end Settings

/-! ## Settings in force -/

theorem Server.Renewed.wellFormed {values : List Value} {s s' : Server}
    (h : Server.Renewed values s s') (hv : ∀ value ∈ values, value.isSendable)
    (hs : s.settings.WellFormed s.room) : s'.settings.WellFormed s'.room := by
  cases h with
  | kept settings pipeline room => rwa [settings, room]
  | replaced offered read pipeline room =>
    rw [room]
    exact Settings.wellFormed_of_ofValue (hv _ offered) read

theorem Settings.WellFormed.artifactPath {s : Settings} {room : Nat} (h : s.WellFormed room)
    (n : Nat) : ∃ path, Staging.artifactPath s room n = .ok path := by
  obtain ⟨name, hname⟩ := h.named
  simp only [Staging.artifactPath, hname]
  exact ⟨_, rfl⟩

/-- Staging with well-formed settings never fails for its template. -/
theorem Settings.WellFormed.stage_ne {s : Settings} {room : Nat} (h : s.WellFormed room) (n : Nat)
    (text : Text) (d : Disk) (e : Template.Error) :
    (Staging.stage s room n text d).2 ≠ .error (.fault (.template e)) := by
  intro hstage
  obtain ⟨-, hobstructs⟩ := (Staging.stage_fault_iff h.named).mp hstage
  cases hobstructs

/-- The settings in force are well formed in every run with values that a client can send, so that
the path of the pass log is always there and staging never fails for its template. -/
theorem Machine.settings_in_force_wellFormed (host : Host) (turns : List Turn)
    (sendable : ∀ turn ∈ turns, turn.isSendable) :
    let m := Machine.turns { host } turns
    m.inForce = m.server.settings ∧ m.server.settings.WellFormed host.room ∧
      (∀ n, ∃ path, Staging.artifactPath m.inForce host.room n = .ok path) ∧
      ∀ n text disk e,
        (Staging.stage m.inForce host.room n text disk).2 ≠ .error (.fault (.template e)) := by
  intro m
  have hwell : m.server.settings.WellFormed m.server.room :=
    turns_keep (P := fun s => s.settings.WellFormed s.room) host
      (Settings.default_wellFormed host.room) fun s turn hturn h => (s.turn_renewed turn).wellFormed
        (Turn.isSendable_offers (sendable turn hturn)) h
  rw [turns_room host turns] at hwell
  have hforce : m.inForce = m.server.settings := by
    rw [inForce, Server.settingsShared_iff.mp (turns_shared host turns)]
  rw [hforce]
  exact ⟨rfl, hwell, hwell.artifactPath, hwell.stage_ne⟩

namespace Machine.Sample

/-- A text with blanks around it, a template with an unknown field and a long number come in an
answer, which the client gives when the server is shut down already. -/
def lateAnswer : List Turn :=
  [.due ⟨0, .deliver 1 (.handshake none .null)⟩, .pull, .due ⟨1, .deliver 2 .shutdown⟩,
    .answer 3 .null (.items (.list [.record [("compilerPath", .text " cc\t"),
      ("artifactTemplate", .text "\x7bunknown\x7d"), ("passNumber", .int (10 ^ 4299))]]))]

end Machine.Sample

/-- What comes in such an answer is in force trimmed, and with the default template. -/
theorem Machine.settings_in_force_wellFormed_sample :
    (∀ turn ∈ Sample.lateAnswer, turn.isSendable) ∧
      (Machine.turns {} Sample.lateAnswer).server.settings.WellFormed ({} : Host).room ∧
      (Machine.turns {} Sample.lateAnswer).server.settings =
        { compilerPath := "cc", passNumber := 10 ^ 4299 } := by
  have hsendable : ∀ turn ∈ Sample.lateAnswer, turn.isSendable := by decide +kernel
  exact ⟨hsendable, (settings_in_force_wellFormed {} Sample.lateAnswer hsendable).2.1,
    by decide +kernel⟩

end ChapelServer
