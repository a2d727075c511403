import ChapelServer.Proofs.Number.Overflow
import ChapelServer.Server.State

/-!
# Reading settings

Each setting is read by itself: a value that can be used is taken, and any other one gives way to
the default. Three things stop the reading altogether: a pass number without bound, a time limit
beyond the doubles, and a template that asks its fields for what they do not have.
-/

namespace ChapelServer

/-- The template means nothing, or names no field that there is. Such a template is replaced, and
any other failure is an obstacle. -/
def Template.Error.isReplaced : Template.Error → Bool
  | .malformed | .unknownName | .noSuchItem => true
  | _ => false

namespace Template

variable {room : Nat} {arguments : Arguments} {inner : Text → Except Error Text}

theorem fill_plainField {name : Text} {argument : Argument}
    (h : resolve arguments name = .ok argument) :
    (Segment.field name none [] false).fill room arguments inner = .ok argument.plain := by
  simp only [Segment.fill, h]
  rfl

theorem fillSegments_cons {segment : Segment} {rest : List Segment} {text more : Text}
    (h : segment.fill room arguments inner = .ok text)
    (hrest : fillSegments room arguments inner rest = .ok more) :
    fillSegments room arguments inner (segment :: rest) = .ok (text ++ more) := by
  unfold fillSegments
  rw [h, hrest]
  rfl

end Template

namespace Settings

/-! ## What a reader gives -/

/-- The reader gives this, with these warnings after those given before. -/
def Gives {α : Type} (x : Reader α) (result : Except Obstacle α) (warnings : List Warning) :
    Prop :=
  ∀ before, x.run.run before = (result, before ++ warnings)

theorem gives_pure {α : Type} (a : α) : Gives (pure a) (.ok a) [] := by
  intro before
  simp only [List.append_nil]
  rfl

theorem gives_throw {α : Type} (o : Obstacle) : Gives (throw o : Reader α) (.error o) [] := by
  intro before
  simp only [List.append_nil]
  rfl

theorem gives_warn (w : Warning) : Gives (warn w) (.ok ⟨⟩) [w] :=
  fun _ => rfl

theorem Gives.bind {α β : Type} {x : Reader α} {f : α → Reader β} {a : α}
    {result : Except Obstacle β} {first second : List Warning} (hx : Gives x (.ok a) first)
    (hf : Gives (f a) result second) : Gives (x >>= f) result (first ++ second) := by
  intro before
  have hfirst := hx before
  have hsecond := hf (before ++ first)
  rw [List.append_assoc] at hsecond
  rw [← hsecond, ExceptT.run_bind, StateT.run_bind, hfirst]
  rfl

theorem Gives.bind_error {α β : Type} {x : Reader α} {f : α → Reader β} {o : Obstacle}
    {warnings : List Warning} (hx : Gives x (.error o) warnings) :
    Gives (x >>= f) (.error o) warnings := by
  intro before
  rw [ExceptT.run_bind, StateT.run_bind, hx before]
  rfl

/-! ## One setting -/

/-- What the client sends for a setting, if it is not null. -/
def given? (fields : List (Text × Value)) (key : String) : Option Value :=
  match fields.lookup (Text.ofString key) with
  | none | some .null => none
  | some value => some value

/-- The value of a setting: what is given for it if that can be taken, and else the default. -/
def valueOf {α : Type} (fields : List (Text × Value)) (key : String)
    (read : Value → Reading α) (default : α) : α :=
  match given? fields key with
  | none => default
  | some value =>
    match read value with
    | .taken a => a
    | _ => default

/-- The warnings for a setting: one if what is given for it is invalid. -/
def warningsOf {α : Type} (fields : List (Text × Value)) (key : String)
    (read : Value → Reading α) (default : α) (toValue : α → Value) : List Warning :=
  match given? fields key with
  | none => []
  | some value =>
    match read value with
    | .invalid => [.invalidValue key value (toValue default)]
    | _ => []

variable {α : Type} {room : Nat} {fields : List (Text × Value)} {key : String}
  {read : Value → Reading α} {default : α} {toValue : α → Value}

theorem take_of_given_none (h : given? fields key = none) :
    take fields key read default toValue = pure default := by
  unfold given? at h
  unfold take
  cases hl : fields.lookup (Text.ofString key) with
  | none => rfl
  | some value =>
    rw [hl] at h
    cases value with
    | null => rfl
    | _ => cases h

theorem take_of_given_some {value : Value} (h : given? fields key = some value) :
    take fields key read default toValue =
      match read value with
      | .taken a => pure a
      | .invalid => do
        warn (.invalidValue key value (toValue default))
        return default
      | .unbounded => throw .unbounded := by
  unfold given? at h
  unfold take
  cases hl : fields.lookup (Text.ofString key) with
  | none =>
    rw [hl] at h
    cases h
  | some sent =>
    rw [hl] at h
    cases sent with
    | null => cases h
    | _ =>
      cases h
      rfl

/-- A setting that is not unbounded is read, with a warning if it is invalid. -/
theorem take_gives (h : ∀ value, given? fields key = some value → read value ≠ .unbounded) :
    Gives (take fields key read default toValue) (.ok (valueOf fields key read default))
      (warningsOf fields key read default toValue) := by
  cases hg : given? fields key with
  | none =>
    rw [take_of_given_none hg]
    simp only [valueOf, warningsOf, hg]
    exact gives_pure default
  | some value =>
    rw [take_of_given_some hg]
    simp only [valueOf, warningsOf, hg]
    cases hr : read value with
    | taken a => exact gives_pure a
    | invalid => exact (gives_warn _).bind (gives_pure default)
    | unbounded => exact absurd hr (h value hg)

theorem take_unbounded {value : Value} (hg : given? fields key = some value)
    (hr : read value = .unbounded) :
    Gives (take fields key read default toValue) (.error .unbounded) [] := by
  rw [take_of_given_some hg, hr]
  exact gives_throw _

theorem readText_ne_unbounded (value : Value) : readText value ≠ .unbounded := by
  unfold readText
  split
  · split <;> simp
  · simp

theorem readOptionalText_ne_unbounded (value : Value) : readOptionalText value ≠ .unbounded := by
  have h := readText_ne_unbounded value
  unfold readOptionalText
  split <;> simp_all

theorem Reading.ofOption_eq_unbounded {missing : Reading α} {a? : Option α} :
    Reading.ofOption missing a? = .unbounded ↔ a? = none ∧ missing = .unbounded := by
  cases a? <;> simp [Reading.ofOption]

theorem readInteger_unbounded_iff {value : Value} :
    readInteger value = .unbounded ↔ ∃ negative, value = .float (.infinite negative) := by
  unfold readInteger
  split
  · simp
  · simp
  · simp
  · simp [Reading.ofOption_eq_unbounded]
  · rename_i hinf _
    simp only [reduceCtorEq, false_iff, not_exists]
    exact hinf

theorem readNumber_unbounded_iff {value : Value} :
    readNumber value = .unbounded ↔
      ∃ n, value = .int n ∧ Number.Binary64.overflowBound ≤ n.natAbs := by
  unfold readNumber
  split
  · rename_i n
    simp [Reading.ofOption_eq_unbounded, Number.Binary64.ofInt?_eq_none_iff]
  · simp
  · simp [Reading.ofOption_eq_unbounded]
  · rename_i hint _ _
    simp only [reduceCtorEq, false_iff, not_exists, not_and]
    exact fun n hn => absurd hn (hint n)

/-- A limit is taken if it is a number that is not zero or below. -/
theorem readTimeout_taken_iff {value : Value} {x : Number.Binary64} :
    readTimeout value = .taken x ↔ readNumber value = .taken x ∧ x.atMostZero = false := by
  unfold readTimeout
  split
  · rename_i y hy
    rw [hy, Reading.taken.injEq]
    constructor
    · intro h
      split at h
      · cases h
      · rename_i hlimit
        obtain rfl := Reading.taken.inj h
        exact ⟨rfl, eq_false_of_ne_true hlimit⟩
    · rintro ⟨rfl, hlimit⟩
      rw [hlimit, if_neg Bool.false_ne_true]
  · rename_i hnone
    exact ⟨fun h => absurd h (hnone x), fun h => h.1⟩

theorem readTimeout_unbounded_iff {value : Value} :
    readTimeout value = .unbounded ↔
      ∃ n, value = .int n ∧ Number.Binary64.overflowBound ≤ n.natAbs := by
  rw [← readNumber_unbounded_iff]
  unfold readTimeout
  split
  · rename_i x hx
    rw [hx]
    split <;> simp
  · exact Iff.rfl

/-! ## A section -/

/-- The settings that a section gives, one by one. -/
def gathered (fields : List (Text × Value)) : Settings :=
  let defaults : Settings := {}
  { compilerPath := valueOf fields "compilerPath" readText defaults.compilerPath
    passName := valueOf fields "passName" readText defaults.passName
    logPass := valueOf fields "logPass" readText defaults.logPass
    passNumber := valueOf fields "passNumber" readInteger defaults.passNumber
    artifactTemplate := valueOf fields "artifactTemplate" readText defaults.artifactTemplate
    logDirName := valueOf fields "logDirName" readText defaults.logDirName
    stagingStem := valueOf fields "stagingStem" readText defaults.stagingStem
    compilerTimeout := valueOf fields "compilerTimeout" readTimeout defaults.compilerTimeout
    fixedSymbol := valueOf fields "fixedSymbol" readOptionalText defaults.fixedSymbol }

/-- A number without bound stands where a bounded one is needed. -/
def Unbounded (fields : List (Text × Value)) : Prop :=
  (∃ negative, given? fields "passNumber" = some (.float (.infinite negative))) ∨
    ∃ n, given? fields "compilerTimeout" = some (.int n) ∧
      Number.Binary64.overflowBound ≤ n.natAbs

/-- The settings with the default template in place of one that cannot be filled in. -/
def withTemplate (s : Settings) (room : Nat) : Settings :=
  match s.artifactName room with
  | .ok _ => s
  | .error _ => { s with artifactTemplate := ({} : Settings).artifactTemplate }

theorem segments_default :
    Template.segments ({} : Settings).artifactTemplate =
      [.field "stem" none [] false, .char '_', .field "pass_number" none [] false,
        .field "pass_name" none [] false, .char '.', .char 'a', .char 's', .char 't'] := by
  decide +kernel

/-- The default template can always be filled in. -/
theorem artifactName_default (s : Settings) (room : Nat) :
    { s with artifactTemplate := ({} : Settings).artifactTemplate }.artifactName room =
      .ok (s.stagingStem ++ (Text.ofString "_" ++ (.ofChars (Number.decimal s.passNumber) ++
        (s.passName ++ Text.ofString ".ast")))) := by
  have hstem : Template.resolve s.templateArguments "stem" = .ok (.text s.stagingStem) := rfl
  have hnumber : Template.resolve s.templateArguments "pass_number" =
      .ok (.number s.passNumber) := rfl
  have hname : Template.resolve s.templateArguments "pass_name" = .ok (.text s.passName) := rfl
  unfold artifactName Template.fill Template.fillTo
  rw [segments_default]
  exact Template.fillSegments_cons (Template.fill_plainField hstem) <|
    Template.fillSegments_cons rfl <|
    Template.fillSegments_cons (Template.fill_plainField hnumber) <|
    Template.fillSegments_cons (Template.fill_plainField hname) rfl

theorem artifactName_withTemplate (s : Settings) (room : Nat) :
    ∃ name, (s.withTemplate room).artifactName room = .ok name := by
  unfold withTemplate
  split
  · rename_i name hname
    exact ⟨name, hname⟩
  · exact ⟨_, artifactName_default s room⟩

theorem checkTemplate_error {s : Settings} {e : Template.Error}
    (hn : s.artifactName room = .error e) :
    checkTemplate room s =
      if e.isReplaced then do
        warn (.invalidTemplate s.artifactTemplate)
        return { s with artifactTemplate := ({} : Settings).artifactTemplate }
      else throw (.template e) := by
  unfold checkTemplate
  rw [hn]
  cases e <;> rfl

theorem checkTemplate_gives {s : Settings}
    (h : ∀ e, s.artifactName room = .error e → e.isReplaced = true) :
    ∃ warnings, Gives (checkTemplate room s) (.ok (s.withTemplate room)) warnings := by
  cases hn : s.artifactName room with
  | ok name =>
    simp only [checkTemplate, withTemplate, hn]
    exact ⟨[], gives_pure s⟩
  | error e =>
    rw [checkTemplate_error hn, if_pos (h e hn)]
    simp only [withTemplate, hn]
    exact ⟨_, (gives_warn _).bind (gives_pure _)⟩

theorem checkTemplate_obstructed {s : Settings} {e : Template.Error}
    (hn : s.artifactName room = .error e) (he : e.isReplaced = false) :
    Gives (checkTemplate room s) (.error (.template e)) [] := by
  rw [checkTemplate_error hn, he, if_neg Bool.false_ne_true]
  exact gives_throw _

theorem take_text_gives (key : String) (default : Text) :
    Gives (take fields key readText default Value.text) (.ok (valueOf fields key readText default))
      (warningsOf fields key readText default Value.text) :=
  take_gives fun value _ => readText_ne_unbounded value

theorem take_passNumber_gives
    (h : ¬ ∃ negative, given? fields "passNumber" = some (.float (.infinite negative))) :
    ∃ warnings, Gives (take fields "passNumber" readInteger ({} : Settings).passNumber Value.int)
      (.ok (gathered fields).passNumber) warnings := by
  refine ⟨_, take_gives fun value hg hu => ?_⟩
  obtain ⟨negative, rfl⟩ := readInteger_unbounded_iff.mp hu
  exact h ⟨negative, hg⟩

theorem take_compilerTimeout_gives
    (h : ¬ ∃ n, given? fields "compilerTimeout" = some (.int n) ∧
      Number.Binary64.overflowBound ≤ n.natAbs) :
    ∃ warnings, Gives (take fields "compilerTimeout" readTimeout
      ({} : Settings).compilerTimeout Value.float) (.ok (gathered fields).compilerTimeout)
      warnings := by
  refine ⟨_, take_gives fun value hg hu => ?_⟩
  obtain ⟨n, rfl, hn⟩ := readTimeout_unbounded_iff.mp hu
  exact h ⟨n, hg, hn⟩

/-- A section without unbounded numbers comes down to its template. -/
theorem readSection_gives {result : Except Obstacle Settings} {warnings : List Warning}
    (h : ¬ Unbounded fields) (hc : Gives (checkTemplate room (gathered fields)) result warnings) :
    ∃ warnings, Gives (readSection room fields) result warnings := by
  obtain ⟨hnumber, htimeout⟩ := not_or.mp h
  obtain ⟨_, number⟩ := take_passNumber_gives hnumber
  obtain ⟨_, timeout⟩ := take_compilerTimeout_gives htimeout
  have text := @take_text_gives fields
  have symbol : Gives (take fields "fixedSymbol" readOptionalText ({} : Settings).fixedSymbol
      fun symbol => symbol.elim .null Value.text) _ _ :=
    take_gives fun value _ => readOptionalText_ne_unbounded value
  -- Compiler, pass and log pass; pass number; template, log directory and stem; limit; symbol.
  exact ⟨_, (text _ _).bind <| (text _ _).bind <| (text _ _).bind <| number.bind <|
    (text _ _).bind <| (text _ _).bind <| (text _ _).bind <| timeout.bind <| symbol.bind hc⟩

/-- An unbounded number stops the reading of a section. -/
theorem readSection_unbounded (h : Unbounded fields) :
    ∃ warnings, Gives (readSection room fields) (.error .unbounded) warnings := by
  have text := @take_text_gives fields
  by_cases hn : ∃ negative, given? fields "passNumber" = some (.float (.infinite negative))
  · obtain ⟨negative, hg⟩ := hn
    have number : Gives (take fields "passNumber" readInteger ({} : Settings).passNumber
        Value.int) (.error .unbounded) [] := take_unbounded hg rfl
    exact ⟨_, (text _ _).bind <| (text _ _).bind <| (text _ _).bind number.bind_error⟩
  · obtain ⟨n, hg, hlarge⟩ := h.resolve_left hn
    obtain ⟨_, number⟩ := take_passNumber_gives hn
    have timeout : Gives (take fields "compilerTimeout" readTimeout
        ({} : Settings).compilerTimeout Value.float) (.error .unbounded) [] :=
      take_unbounded hg (readTimeout_unbounded_iff.mpr ⟨n, rfl, hlarge⟩)
    exact ⟨_, (text _ _).bind <| (text _ _).bind <| (text _ _).bind <| number.bind <|
      (text _ _).bind <| (text _ _).bind <| (text _ _).bind timeout.bind_error⟩

/-! ## Values -/

/-- The section meets this obstacle: an unbounded number, or else a template that asks for what
its fields do not have. -/
def Obstructs (room : Nat) (fields : List (Text × Value)) : Obstacle → Prop
  | .unbounded => Unbounded fields
  | .template e => ¬ Unbounded fields ∧ (gathered fields).artifactName room = .error e ∧
      e.isReplaced = false

/-- The value holds a section that meets this obstacle. -/
def Obstructed (room : Nat) (value : Value) (o : Obstacle) : Prop :=
  ∃ fields, sectionOf? value = some fields ∧ Obstructs room fields o

/-- The settings that a value stands for: those of its section one by one, each with its default
where it cannot be taken, and with the default template where theirs cannot be filled in. -/
def normalised (room : Nat) (value : Value) : Settings :=
  match sectionOf? value with
  | none => {}
  | some fields => (gathered fields).withTemplate room

theorem readSection_obstructed {o : Obstacle} (h : Obstructs room fields o) :
    ∃ warnings, Gives (readSection room fields) (.error o) warnings := by
  cases o with
  | unbounded => exact readSection_unbounded h
  | template e =>
    obtain ⟨hb, hn, he⟩ := h
    exact readSection_gives hb (checkTemplate_obstructed hn he)

theorem readSection_free (h : ∀ o, ¬ Obstructs room fields o) :
    ∃ warnings,
      Gives (readSection room fields) (.ok ((gathered fields).withTemplate room)) warnings := by
  have hb : ¬ Unbounded fields := h .unbounded
  have hreplaced : ∀ e, (gathered fields).artifactName room = .error e → e.isReplaced = true := by
    intro e hn
    cases he : e.isReplaced with
    | true => rfl
    | false => exact absurd ⟨hb, hn, he⟩ (h (.template e))
  obtain ⟨warnings, hc⟩ := checkTemplate_gives hreplaced
  exact readSection_gives hb hc

theorem Gives.fst {x : Reader α} {result : Except Obstacle α} {warnings : List Warning}
    (h : Gives x result warnings) : (x.run.run []).1 = result := by
  rw [h []]

/-- A value that meets an obstacle is not read. -/
theorem ofValue_obstructed {value : Value} {o : Obstacle} (h : Obstructed room value o) :
    (ofValue room value).1 = .error o := by
  obtain ⟨fields, hsection, ho⟩ := h
  obtain ⟨warnings, hgives⟩ := readSection_obstructed ho
  simp only [ofValue, hsection]
  exact hgives.fst

/-- A value that meets none is read. -/
theorem ofValue_free {value : Value} (h : ∀ o, ¬ Obstructed room value o) :
    (ofValue room value).1 = .ok (normalised room value) := by
  cases hsection : sectionOf? value with
  | none => simp only [ofValue, normalised, hsection]
  | some fields =>
    obtain ⟨warnings, hgives⟩ := @readSection_free room fields fun o ho =>
      h o ⟨fields, hsection, ho⟩
    simp only [ofValue, normalised, hsection]
    exact hgives.fst

/-- Reading fails exactly at an obstacle. -/
theorem ofValue_error_iff {value : Value} {o : Obstacle} :
    (ofValue room value).1 = .error o ↔ Obstructed room value o := by
  refine ⟨fun h => ?_, ofValue_obstructed⟩
  by_cases hmet : ∃ o, Obstructed room value o
  · obtain ⟨o', ho'⟩ := hmet
    rw [ofValue_obstructed ho'] at h
    exact Except.error.inj h ▸ ho'
  · rw [ofValue_free (not_exists.mp hmet)] at h
    cases h

theorem ofValue_ok_iff {value : Value} {s : Settings} :
    (ofValue room value).1 = .ok s ↔
      (∀ o, ¬ Obstructed room value o) ∧ s = normalised room value := by
  constructor
  · intro h
    have hfree : ∀ o, ¬ Obstructed room value o := by
      intro o ho
      rw [ofValue_obstructed ho] at h
      cases h
    rw [ofValue_free hfree] at h
    exact ⟨hfree, (Except.ok.inj h).symm⟩
  · rintro ⟨hfree, rfl⟩
    exact ofValue_free hfree

/-- The template of settings that were read can be filled in. -/
theorem artifactName_of_ofValue {value : Value} {s : Settings}
    (h : (ofValue room value).1 = .ok s) : ∃ name, s.artifactName room = .ok name := by
  obtain ⟨-, rfl⟩ := ofValue_ok_iff.mp h
  unfold normalised
  split
  · exact ⟨_, artifactName_default {} room⟩
  · exact artifactName_withTemplate _ room

end Settings

/-! ## Messages that bring settings -/

namespace Server

/-- The message comes to nothing, or fails at the obstacle that it meets. -/
structure Meets (outcome : Outcome) (obstacle : Settings.Obstacle → Prop) : Prop where
  fails : ∀ o, outcome = .faulted (.settings o) ↔ obstacle o
  passes : outcome = .nothing ↔ ∀ o, ¬ obstacle o

/-- The value that a change of configuration puts in force. -/
def configured (s : Server) (settings : Value) (reply : ClientReply) : Value :=
  if !hasSection settings && s.capabilities.configuration then
    match reply with
    | .items value => (firstItem value).toOption.getD settings
    | .refusal _ => settings
  else settings

theorem applySettings_meets (s : Server) (value : Value) :
    Meets (s.applySettings value).outcome (Settings.Obstructed s.room value) := by
  have herror := fun o => @Settings.ofValue_error_iff s.room value o
  cases hread : (Settings.ofValue s.room value).1 with
  | ok settings =>
    have houtcome : (s.applySettings value).outcome = .nothing := by
      simp only [applySettings, hread]
    rw [houtcome]
    have hfree := (Settings.ofValue_ok_iff.mp hread).1
    exact ⟨fun o => ⟨nofun, fun ho => absurd ho (hfree o)⟩, fun _ => hfree, fun _ => rfl⟩
  | error o =>
    have houtcome : (s.applySettings value).outcome = .faulted (.settings o) := by
      simp only [applySettings, hread]
    rw [houtcome]
    have hmet := (herror o).mp hread
    refine ⟨fun o' => ⟨fun h => ?_, fun h => ?_⟩, nofun, fun h => absurd hmet (h o)⟩
    · cases h
      exact hmet
    · have h' := (herror o').mpr h
      rw [hread] at h'
      rw [Except.error.inj h']

theorem handshake_meets (s : Server) (client : Option ClientMessage) (options : Value) :
    Meets (s.handshake client options).outcome
      fun o => options.isGiven = true ∧ Settings.Obstructed s.room options o := by
  cases hg : options.isGiven with
  | true =>
    simp only [handshake, hg, if_true, true_and]
    exact applySettings_meets _ options
  | false =>
    simp only [handshake, hg, Bool.false_eq_true, if_false, false_and]
    exact ⟨fun o => ⟨nofun, nofun⟩, fun _ _ => id, fun _ => rfl⟩

theorem configure_outcome (s : Server) (settings : Value) (reply : ClientReply) :
    (s.configure settings reply).outcome =
      (s.applySettings (s.configured settings reply)).outcome := by
  unfold configure configured
  split
  · cases reply with
    | refusal reason => rfl
    | items value =>
      cases hfirst : firstItem value with
      | ok item => simp [hfirst, Except.toOption]
      | error reason => simp [hfirst, Except.toOption]
  · rfl

end Server

/-- Settings are read exactly where no obstacle is met, each one taken or given its default; and
the messages that bring settings fail exactly at the same obstacles. -/
theorem Settings.reading_outcome (room : Nat) (value : Value) :
    (∀ o, (ofValue room value).1 = .error o ↔ Obstructed room value o) ∧
      (∀ s, (ofValue room value).1 = .ok s ↔
        (∀ o, ¬ Obstructed room value o) ∧ s = normalised room value) ∧
      (∀ (server : Server) client, Server.Meets (server.handshake client value).outcome
        fun o => value.isGiven = true ∧ Obstructed server.room value o) ∧
      ∀ (server : Server) reply, Server.Meets (server.configure value reply).outcome
        (Obstructed server.room (server.configured value reply)) := by
  refine ⟨fun o => ofValue_error_iff, fun s => ofValue_ok_iff, ?_, ?_⟩
  · intro server client
    exact server.handshake_meets client value
  · intro server reply
    rw [Server.configure_outcome]
    exact Server.applySettings_meets _ _

example (room : Nat) :
    (Settings.ofValue room (.record [("passNumber", .float (.infinite false))])).1 =
      .error .unbounded := rfl

end ChapelServer
