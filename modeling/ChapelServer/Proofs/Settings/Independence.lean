import ChapelServer.Proofs.Settings.WellFormed
import Mathlib.Data.List.Perm.Basic

/-!
# Each key and its field

A section is read key by key, and what stands at a key decides its own field and no other. Only the
template is looked at again in the end, together with the fields that it is filled in with: one that
cannot be filled in gives way to the default. Nothing else in a section is read, nor the order of
its keys.
-/

namespace ChapelServer.Settings

/-- The keys of the settings. -/
def keys : List Text := [
  "compilerPath", "passName", "logPass", "passNumber", "artifactTemplate", "logDirName",
  "stagingStem", "compilerTimeout", "fixedSymbol"]

/-- The keys of the fields that the template is filled in with. -/
def templateKeys : List Text := ["stagingStem", "passNumber", "passName"]

/-- A client's value that holds a section: wrapped in a field, or bare. -/
def payload (wrapped : Bool) (fields : List (Text × Value)) : Value :=
  .record (if wrapped then [("chapel", .record fields)] else fields)

/-- The settings agree on every field other than that of the key and the template. -/
structure AgreeBut (key : Text) (s s' : Settings) : Prop where
  compilerPath : key ≠ "compilerPath" → s.compilerPath = s'.compilerPath
  passName : key ≠ "passName" → s.passName = s'.passName
  logPass : key ≠ "logPass" → s.logPass = s'.logPass
  passNumber : key ≠ "passNumber" → s.passNumber = s'.passNumber
  logDirName : key ≠ "logDirName" → s.logDirName = s'.logDirName
  stagingStem : key ≠ "stagingStem" → s.stagingStem = s'.stagingStem
  compilerTimeout : key ≠ "compilerTimeout" → s.compilerTimeout = s'.compilerTimeout
  fixedSymbol : key ≠ "fixedSymbol" → s.fixedSymbol = s'.fixedSymbol

theorem AgreeBut.refl (key : Text) (s : Settings) : AgreeBut key s s := by
  constructor <;> intro _ <;> rfl

/-- The template that a value asks for, whether it can be filled in or not. -/
def askedTemplate (value : Value) : Text :=
  match sectionOf? value with
  | none => ({} : Settings).artifactTemplate
  | some fields => (gathered fields).artifactTemplate

/-- One of the templates is the one asked for, and the other the default. -/
def Switched (asked template template' : Text) : Prop :=
  template = asked ∧ template' = ({} : Settings).artifactTemplate ∨
    template = ({} : Settings).artifactTemplate ∧ template' = asked

/-! ## Fields -/

section Fields

variable {fields fields' : List (Text × Value)}

theorem valueOf_congr {α : Type} {key : String} {read : Value → Reading α} {default : α}
    (h : fields.lookup (key : Text) = fields'.lookup (key : Text)) :
    valueOf fields key read default = valueOf fields' key read default := by
  unfold valueOf given?
  rw [h]

theorem take_congr {α : Type} {key : String} {read : Value → Reading α} {default : α}
    {toValue : α → Value}
    (h : fields.lookup (key : Text) = fields'.lookup (key : Text)) :
    take fields key read default toValue = take fields' key read default toValue := by
  unfold take
  rw [h]

/-- Each field is read at its own key. -/
theorem gathered_agreeBut {key : Text}
    (h : ∀ other, other ≠ key → fields.lookup other = fields'.lookup other) :
    AgreeBut key (gathered fields) (gathered fields') where
  compilerPath hkey := valueOf_congr (h _ hkey.symm)
  passName hkey := valueOf_congr (h _ hkey.symm)
  logPass hkey := valueOf_congr (h _ hkey.symm)
  passNumber hkey := valueOf_congr (h _ hkey.symm)
  logDirName hkey := valueOf_congr (h _ hkey.symm)
  stagingStem hkey := valueOf_congr (h _ hkey.symm)
  compilerTimeout hkey := valueOf_congr (h _ hkey.symm)
  fixedSymbol hkey := valueOf_congr (h _ hkey.symm)

/-- A section is read at the keys of the settings only. -/
theorem readSection_congr (h : ∀ key ∈ keys, fields.lookup key = fields'.lookup key)
    (room : Nat) : readSection room fields = readSection room fields' := by
  simp only [keys, List.forall_mem_cons] at h
  obtain ⟨hcompiler, hname, hlog, hnumber, htemplate, hdir, hstem, htimeout, hsymbol, -⟩ := h
  simp only [readSection, take_congr hcompiler, take_congr hname, take_congr hlog,
    take_congr hnumber, take_congr htemplate, take_congr hdir, take_congr hstem,
    take_congr htimeout, take_congr hsymbol]

/-- A key that is there once is found wherever it stands. -/
theorem lookup_perm (h : fields.Perm fields') (hkeys : (fields.map Prod.fst).Nodup)
    (key : Text) : fields.lookup key = fields'.lookup key := by
  induction h with
  | nil => rfl
  | cons field h ih =>
    obtain ⟨name, value⟩ := field
    rw [List.lookup_cons, List.lookup_cons, ih (List.nodup_cons.mp hkeys).2]
  | swap first second rest =>
    obtain ⟨name, value⟩ := first
    obtain ⟨name', value'⟩ := second
    have hne : name' ≠ name := (List.ne_and_not_mem_of_not_mem_cons (List.nodup_cons.mp hkeys).1).1
    -- At most one of the two names is the key.
    by_cases hname : key = name
    · subst hname
      simp [List.lookup_cons, beq_false_of_ne hne.symm]
    · simp [List.lookup_cons, beq_false_of_ne hname]
  | trans h h' ih ih' => exact (ih hkeys).trans (ih' ((h.map Prod.fst).nodup_iff.mp hkeys))

end Fields

/-! ## The template -/

theorem withTemplate_eq (s : Settings) (room : Nat) :
    s.withTemplate room =
      { s with artifactTemplate := (s.withTemplate room).artifactTemplate } := by
  rcases s.withTemplate_frame room with hs | hs
  · rw [hs]
  · rw [hs]

theorem AgreeBut.withTemplate {key : Text} {s s' : Settings} (h : AgreeBut key s s')
    (room : Nat) : AgreeBut key (s.withTemplate room) (s'.withTemplate room) := by
  rw [withTemplate_eq s room, withTemplate_eq s' room]
  exact ⟨h.compilerPath, h.passName, h.logPass, h.passNumber, h.logDirName, h.stagingStem,
    h.compilerTimeout, h.fixedSymbol⟩

/-- The template stays the same where the fields are that it is filled in with. -/
theorem AgreeBut.template_eq {key : Text} {s s' : Settings} (h : AgreeBut key s s')
    (hkey : key ∉ templateKeys) (ht : s.artifactTemplate = s'.artifactTemplate) (room : Nat) :
    (s.withTemplate room).artifactTemplate = (s'.withTemplate room).artifactTemplate := by
  simp only [templateKeys, List.mem_cons, List.not_mem_nil, or_false, not_or] at hkey
  have hname : s.artifactName room = s'.artifactName room := by
    simp only [artifactName, templateArguments, ht, h.stagingStem hkey.1, h.passNumber hkey.2.1,
      h.passName hkey.2.2]
  unfold Settings.withTemplate
  rw [hname]
  split
  · exact ht
  · rfl

/-- The template is the one asked for or the default. -/
theorem template_eq_or_switched {s s' : Settings} (ht : s.artifactTemplate = s'.artifactTemplate)
    (room : Nat) :
    (s.withTemplate room).artifactTemplate = (s'.withTemplate room).artifactTemplate ∨
      Switched s.artifactTemplate (s.withTemplate room).artifactTemplate
        (s'.withTemplate room).artifactTemplate := by
  rcases s.withTemplate_frame room with hs | hs <;> rcases s'.withTemplate_frame room with hs' | hs'
  · rw [hs, hs']
    exact .inl ht
  · rw [hs, hs']
    exact .inr (.inl ⟨rfl, rfl⟩)
  · rw [hs, hs', ht]
    exact .inr (.inr ⟨rfl, rfl⟩)
  · rw [hs, hs']
    exact .inl rfl

/-! ## Values -/

section Values

variable {wrapped : Bool} {fields fields' : List (Text × Value)}

/-- Two values of the same form lead to their sections, or to one and the same. -/
theorem sectionOf?_payload
    (h : wrapped = false → fields.lookup ("chapel" : Text) = fields'.lookup ("chapel" : Text)) :
    sectionOf? (payload wrapped fields) = sectionOf? (payload wrapped fields') ∨
      sectionOf? (payload wrapped fields) = some fields ∧
        sectionOf? (payload wrapped fields') = some fields' := by
  cases wrapped with
  | true => exact .inr ⟨rfl, rfl⟩
  | false =>
    have hchapel := h rfl
    simp only [payload, Bool.false_eq_true, if_false, sectionOf?, ← hchapel]
    cases fields.lookup ("chapel" : Text) with
    | none => exact .inr ⟨rfl, rfl⟩
    | some value => cases value <;> exact .inl rfl

theorem ofValue_payload_congr (h : ∀ key ∈ keys, fields.lookup key = fields'.lookup key)
    (hchapel : wrapped = false → fields.lookup ("chapel" : Text) = fields'.lookup ("chapel" : Text))
    (room : Nat) :
    ofValue room (payload wrapped fields) = ofValue room (payload wrapped fields') := by
  rcases sectionOf?_payload hchapel with hsame | ⟨hsection, hsection'⟩
  · simp only [ofValue, hsame]
  · simp only [ofValue, hsection, hsection', readSection_congr h room]

end Values

/-- If two sections differ at one key only and are both read, the settings agree on every field
other than the key's own, but that the key of a field that the template is filled in with may also
switch between the template asked for and the default. Other keys than those of the settings and
the order of the keys do not matter. -/
theorem each_key_governs_its_field (room : Nat) (wrapped : Bool)
    (fields fields' : List (Text × Value)) :
    (∀ key ∈ keys, (∀ other, other ≠ key → fields.lookup other = fields'.lookup other) →
        ∀ s s', (ofValue room (payload wrapped fields)).1 = .ok s →
          (ofValue room (payload wrapped fields')).1 = .ok s' →
          AgreeBut key s s' ∧ (key ≠ "artifactTemplate" →
            s.artifactTemplate = s'.artifactTemplate ∨
              key ∈ templateKeys ∧ Switched (askedTemplate (payload wrapped fields))
                s.artifactTemplate s'.artifactTemplate)) ∧
      ((∀ key ∈ keys, fields.lookup key = fields'.lookup key) →
        (wrapped = false → fields.lookup ("chapel" : Text) = fields'.lookup ("chapel" : Text)) →
        ofValue room (payload wrapped fields) = ofValue room (payload wrapped fields')) ∧
      (fields.Perm fields' → (fields.map Prod.fst).Nodup →
        ofValue room (payload wrapped fields) = ofValue room (payload wrapped fields')) := by
  refine ⟨?_, fun hkeys hchapel => ofValue_payload_congr hkeys hchapel room, ?_⟩
  · intro key hkey hother s s' hs hs'
    obtain ⟨-, rfl⟩ := ofValue_ok_iff.mp hs
    obtain ⟨-, rfl⟩ := ofValue_ok_iff.mp hs'
    have hchapel : Text.ofString "chapel" ≠ key := by
      rintro rfl
      exact absurd hkey (by decide)
    -- A bare record may still hold a section in a field, and then both hold the same one.
    rcases @sectionOf?_payload wrapped fields fields' fun _ => hother _ hchapel with
      hsame | ⟨hsection, hsection'⟩
    · have heq : normalised room (payload wrapped fields) =
          normalised room (payload wrapped fields') := by
        simp only [normalised, hsame]
      rw [heq]
      exact ⟨.refl key _, fun _ => .inl rfl⟩
    · simp only [normalised, askedTemplate, hsection, hsection']
      have hagree := gathered_agreeBut hother
      refine ⟨hagree.withTemplate room, fun hne => ?_⟩
      have htemplate : (gathered fields).artifactTemplate = (gathered fields').artifactTemplate :=
        valueOf_congr (hother _ hne.symm)
      by_cases hfilled : key ∈ templateKeys
      · exact (template_eq_or_switched htemplate room).imp_right fun hswitched =>
          ⟨hfilled, hswitched⟩
      · exact .inl (hagree.template_eq hfilled htemplate room)
  · intro hperm hnodup
    have hlookup := lookup_perm hperm hnodup
    exact ofValue_payload_congr (fun key _ => hlookup key) (fun _ => hlookup _) room

namespace Sample

/-- A section with an invalid pass number and a template that takes a character of the stem. -/
def withStem (stem : Text) : List (Text × Value) :=
  [("passNumber", .text "treze"), ("stagingStem", .text stem),
    ("artifactTemplate", .text "\x7bstem[3]\x7d")]

end Sample

/-- A stem that is too short for the template puts the default in its place. -/
theorem each_key_governs_its_field_shortStem :
    (ofValue Template.maxNumber (payload false (Sample.withStem "prog"))).1 =
        .ok { stagingStem := "prog", artifactTemplate := "\x7bstem[3]\x7d" } ∧
      (ofValue Template.maxNumber (payload false (Sample.withStem "pro"))).1 =
        .ok { stagingStem := "pro" } ∧
      Switched "\x7bstem[3]\x7d" "\x7bstem[3]\x7d" ({} : Settings).artifactTemplate := by
  have hlong : (ofValue Template.maxNumber (payload false (Sample.withStem "prog"))).1 =
      .ok { stagingStem := "prog", artifactTemplate := "\x7bstem[3]\x7d" } := by decide +kernel
  have hshort : (ofValue Template.maxNumber (payload false (Sample.withStem "pro"))).1 =
      .ok { stagingStem := "pro" } := by decide +kernel
  have hother : ∀ other, other ≠ Text.ofString "stagingStem" →
      (Sample.withStem "prog").lookup other = (Sample.withStem "pro").lookup other := by
    intro other hne
    simp only [Sample.withStem, List.lookup_cons, beq_false_of_ne hne]
  obtain ⟨-, htemplate⟩ := (each_key_governs_its_field Template.maxNumber false
    (Sample.withStem "prog") (Sample.withStem "pro")).1 (Text.ofString "stagingStem") (by decide)
    hother _ _ hlong hshort
  rcases htemplate (by decide) with heq | ⟨-, hswitched⟩
  · exact absurd heq (by decide)
  · exact ⟨hlong, hshort, hswitched⟩

end ChapelServer.Settings
