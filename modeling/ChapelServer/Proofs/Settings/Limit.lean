import ChapelServer.Proofs.Number.Order
import ChapelServer.Proofs.Settings.WellFormed

/-!
# The time limit in force

The limit on a compilation is above zero in every run, with one exception: a client can ask for a
limit that is not a number. Nothing is zero or below there, so that it passes the test that is meant
to leave the numbers above zero.
-/

namespace ChapelServer

open Number (Binary64 SpellsNan)

/-- The value stands for what is not a number, as such or spelled in a text. -/
def Value.MeansNan : Value → Prop
  | .float x => x = .nan
  | .text s => SpellsNan s.chars
  | _ => False

namespace Settings

/-- The value has a section that asks for a time limit that is not a number. -/
def AsksForNan (value : Value) : Prop :=
  ∃ fields limit, sectionOf? value = some fields ∧
    given? fields "compilerTimeout" = some limit ∧ limit.MeansNan

/-! ## Reading a limit -/

theorem Reading.ofOption_eq_taken {α : Type} {missing : Reading α} {a? : Option α} {a : α}
    (h : missing ≠ .taken a) : Reading.ofOption missing a? = .taken a ↔ a? = some a := by
  cases a? with
  | none => simp [Reading.ofOption, h]
  | some b => simp [Reading.ofOption]

theorem readNumber_nan_iff {value : Value} : readNumber value = .taken .nan ↔ value.MeansNan := by
  cases value with
  | int n =>
    rw [readNumber, Reading.ofOption_eq_taken (by simp)]
    exact iff_of_false (Binary64.ofInt?_ne_nan n) id
  | float x => exact ⟨Reading.taken.inj, congrArg Reading.taken⟩
  | text s =>
    rw [readNumber, Reading.ofOption_eq_taken (by simp)]
    exact Number.real?_eq_nan_iff s.chars
  | null | bool | list | record => simp [readNumber, Value.MeansNan]

theorem readTimeout_nan_iff {value : Value} :
    readTimeout value = .taken .nan ↔ value.MeansNan := by
  rw [readTimeout_taken_iff, readNumber_nan_iff]
  exact and_iff_left rfl

/-- A limit that is taken is above zero, or not a number. -/
theorem isAboveZero_of_readTimeout {value : Value} {x : Binary64}
    (h : readTimeout value = .taken x) : x = .nan ∨ x.IsAboveZero :=
  x.atMostZero_eq_false_iff.mp (readTimeout_taken_iff.mp h).2

theorem defaultTimeout_isAboveZero : defaultTimeout.IsAboveZero :=
  Binary64.isAboveZero_finite.mpr ⟨rfl, by decide⟩

theorem gathered_isAboveZero (fields : List (Text × Value)) :
    (gathered fields).compilerTimeout = .nan ∨ (gathered fields).compilerTimeout.IsAboveZero :=
  valueOf_has (P := fun x : Binary64 => x = .nan ∨ x.IsAboveZero)
    (.inr defaultTimeout_isAboveZero) fun _ _ _ h => isAboveZero_of_readTimeout h

theorem gathered_nan_iff {fields : List (Text × Value)} :
    (gathered fields).compilerTimeout = .nan ↔
      ∃ limit, given? fields "compilerTimeout" = some limit ∧ limit.MeansNan := by
  simp only [gathered, valueOf, ← readTimeout_nan_iff]
  cases hg : given? fields "compilerTimeout" with
  | none => simp [defaultTimeout]
  | some limit =>
    cases hr : readTimeout limit with
    | taken x => simp [hr]
    | invalid | unbounded => simp [hr, defaultTimeout]

theorem withTemplate_compilerTimeout (s : Settings) (room : Nat) :
    (s.withTemplate room).compilerTimeout = s.compilerTimeout := by
  rcases s.withTemplate_frame room with h | h <;> rw [h]

/-- Settings that are read have a limit above zero, or one that is not a number. -/
theorem limit_of_ofValue {room : Nat} {value : Value} {s : Settings}
    (h : (ofValue room value).1 = .ok s) :
    s.compilerTimeout = .nan ∨ s.compilerTimeout.IsAboveZero := by
  obtain ⟨-, rfl⟩ := ofValue_ok_iff.mp h
  cases hsection : sectionOf? value with
  | none =>
    simp only [normalised, hsection]
    exact .inr defaultTimeout_isAboveZero
  | some fields =>
    simp only [normalised, hsection, withTemplate_compilerTimeout]
    exact gathered_isAboveZero fields

/-- The limit is not a number exactly if that was asked for. -/
theorem limit_nan_iff {room : Nat} {value : Value} {s : Settings}
    (h : (ofValue room value).1 = .ok s) : s.compilerTimeout = .nan ↔ AsksForNan value := by
  obtain ⟨-, rfl⟩ := ofValue_ok_iff.mp h
  cases hsection : sectionOf? value with
  | none => simp [normalised, hsection, AsksForNan, defaultTimeout]
  | some fields =>
    simp only [normalised, hsection, withTemplate_compilerTimeout, gathered_nan_iff, AsksForNan,
      Option.some.injEq, exists_and_left, exists_eq_left']

end Settings

/-! ## Runs -/

/-- The settings are the defaults, or were read from one of these values. -/
def Settings.ComesFrom (room : Nat) (values : List Value) (s : Settings) : Prop :=
  s = {} ∨ ∃ value ∈ values, (ofValue room value).1 = .ok s

theorem Settings.ComesFrom.limit {room : Nat} {values : List Value} {s : Settings}
    (h : s.ComesFrom room values) :
    s.compilerTimeout = .nan ∨ s.compilerTimeout.IsAboveZero := by
  rcases h with rfl | ⟨value, -, hread⟩
  · exact .inr defaultTimeout_isAboveZero
  · exact limit_of_ofValue hread

theorem Server.Renewed.comesFrom {values all : List Value} {s s' : Server}
    (h : Server.Renewed values s s') (hsub : ∀ value ∈ values, value ∈ all)
    (hs : s.settings.ComesFrom s.room all) : s'.settings.ComesFrom s'.room all := by
  cases h with
  | kept settings pipeline room => rwa [settings, room]
  | replaced offered read pipeline room =>
    rw [room]
    exact .inr ⟨_, hsub _ offered, read⟩

/-- The settings in force are the defaults, or were read from a value that a turn offered. -/
theorem Machine.inForce_comesFrom (host : Host) (turns : List Turn) :
    (Machine.turns { host } turns).inForce.ComesFrom host.room (turns.flatMap Turn.offers) := by
  have hforce : (Machine.turns { host } turns).inForce =
      (Machine.turns { host } turns).server.settings := by
    rw [inForce, Server.settingsShared_iff.mp (turns_shared host turns)]
  have hfrom := turns_keep (P := fun s => s.settings.ComesFrom s.room (turns.flatMap Turn.offers))
    host (.inl rfl) fun s turn hturn h => (s.turn_renewed turn).comesFrom
      (fun _ hvalue => List.mem_flatMap.mpr ⟨turn, hturn, hvalue⟩) h
  rw [turns_room host turns] at hfrom
  rwa [hforce]

/-- In every run, the limit in force is above zero unless it is not a number; and that it is exactly
if the settings in force were read from a value that asks for it. -/
theorem Machine.limit_in_force (host : Host) (turns : List Turn) :
    let m := Machine.turns { host } turns
    (m.inForce.compilerTimeout.IsAboveZero ↔ m.inForce.compilerTimeout ≠ .nan) ∧
      (m.inForce.compilerTimeout = .nan ↔ ∃ turn ∈ turns, ∃ value ∈ turn.offers,
        (Settings.ofValue host.room value).1 = .ok m.inForce ∧ Settings.AsksForNan value) := by
  intro m
  have hfrom : m.inForce.ComesFrom host.room (turns.flatMap Turn.offers) :=
    inForce_comesFrom host turns
  constructor
  · constructor
    · intro habove hnan
      rw [hnan] at habove
      exact Binary64.not_isAboveZero_nan habove
    · intro hnumber
      exact hfrom.limit.resolve_left hnumber
  · constructor
    · intro hnan
      rcases hfrom with hdefault | ⟨value, hvalue, hread⟩
      · rw [hdefault] at hnan
        cases hnan
      · obtain ⟨turn, hturn, hoffered⟩ := List.mem_flatMap.mp hvalue
        exact ⟨turn, hturn, value, hoffered, hread, (Settings.limit_nan_iff hread).mp hnan⟩
    · rintro ⟨turn, hturn, value, hoffered, hread, hasks⟩
      exact (Settings.limit_nan_iff hread).mpr hasks

namespace Machine.Sample

/-- The limit comes spelled out, in an answer to a change of configuration without a section. -/
def spelledNan : List Turn :=
  [.due ⟨0, .deliver 1 (.handshake none .null)⟩, .pull,
    .answer 2 .null (.items (.list [.record [("compilerTimeout", .text " -NaN ")]]))]

end Machine.Sample

/-- With such an answer, the limit in force is not above zero. -/
theorem Machine.limit_in_force_spelledNan :
    (Machine.turns {} Sample.spelledNan).inForce.compilerTimeout = .nan ∧
      ¬ (Machine.turns {} Sample.spelledNan).inForce.compilerTimeout.IsAboveZero := by
  have hnan : (Machine.turns {} Sample.spelledNan).inForce.compilerTimeout = .nan := by
    decide +kernel
  exact ⟨hnan, fun habove => (limit_in_force {} Sample.spelledNan).1.mp habove hnan⟩

end ChapelServer
