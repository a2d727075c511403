import ChapelServer.Compilation.Host

/-!
# Failures of staging and starting

Preparing a work directory fails with one kind of failure, whatever goes wrong on the disk, as long
as the template can be filled in. It breaks down only where the system does not take the name of the
staged file, or where the text has no UTF-8. Starting the compiler fails in the same way, and breaks
down only at a word that the system does not take.
-/

namespace ChapelServer

namespace Text

theorem flaw?_eq_none_iff {t : Text} :
    t.flaw? = none ↔ (∀ c ∈ t, c.isStray = false) ∧ CodePoint.char '\x00' ∉ t := by
  unfold flaw?
  by_cases hstray : t.any CodePoint.isStray = true
  · have hsome : ¬ ∀ c ∈ t, c.isStray = false := by simpa using hstray
    simp [hstray, hsome]
  · have hnone : ∀ c ∈ t, c.isStray = false := by simpa using hstray
    by_cases hnul : CodePoint.char '\x00' ∈ t
    · simp [hstray, hnul]
    · simpa [hstray, hnul] using hnone

/-- What is wrong with a text is told by its stray surrogates and null characters. -/
theorem flaw?_congr {s t : Text}
    (h : ∀ c : CodePoint, c.isStray = true ∨ c = .char '\x00' → (c ∈ s ↔ c ∈ t)) :
    s.flaw? = t.flaw? := by
  have hstray : s.any CodePoint.isStray = t.any CodePoint.isStray := by
    rw [Bool.eq_iff_iff, List.any_eq_true, List.any_eq_true]
    exact exists_congr fun c => and_congr_left fun hc => h c (.inl hc)
  have hnul : s.contains (.char '\x00') = t.contains (.char '\x00') := by
    rw [Bool.eq_iff_iff, List.contains_iff_mem, List.contains_iff_mem]
    exact h _ (.inr rfl)
  unfold flaw?
  rw [hstray, hnul]

end Text

namespace Path

theorem mem_of_mem_splitSlashes {text part : Text} {c : CodePoint} (hp : part ∈ splitSlashes text)
    (hc : c ∈ part) : c ∈ text := by
  induction text generalizing part with
  | nil =>
    obtain rfl : part = [] := by simpa [splitSlashes] using hp
    simp at hc
  | cons d rest ih =>
    rw [splitSlashes] at hp
    split at hp
    · rcases List.mem_cons.mp hp with rfl | hp
      · simp at hc
      · exact List.mem_cons_of_mem _ (ih hp hc)
    · split at hp
      · rcases List.mem_singleton.mp hp with rfl
        exact List.mem_singleton.mp hc ▸ List.mem_cons_self
      · rename_i first parts hsplit
        rcases List.mem_cons.mp hp with rfl | hp
        · rcases List.mem_cons.mp hc with rfl | hc
          · exact List.mem_cons_self
          · exact List.mem_cons_of_mem _ (ih (hsplit ▸ List.mem_cons_self) hc)
        · exact List.mem_cons_of_mem _ (ih (hsplit ▸ List.mem_cons_of_mem _ hp) hc)

theorem exists_mem_splitSlashes {text : Text} {c : CodePoint} (hc : c ∈ text)
    (hne : c ≠ .char '/') : ∃ part ∈ splitSlashes text, c ∈ part := by
  induction text with
  | nil => simp at hc
  | cons d rest ih =>
    rw [splitSlashes]
    by_cases hd : d = .char '/'
    · rw [if_pos hd]
      have hrest : c ∈ rest := (List.mem_cons.mp hc).resolve_left fun he => hne (he.trans hd)
      obtain ⟨part, hpart, hmem⟩ := ih hrest
      exact ⟨part, List.mem_cons_of_mem _ hpart, hmem⟩
    · rw [if_neg hd]
      rcases List.mem_cons.mp hc with rfl | hrest
      · split
        · exact ⟨_, List.mem_cons_self, List.mem_cons_self⟩
        · exact ⟨_, List.mem_cons_self, List.mem_cons_self⟩
      · obtain ⟨part, hpart, hmem⟩ := ih hrest
        split
        · rename_i hnone
          simp [hnone] at hpart
        · rename_i first parts hsplit
          rw [hsplit] at hpart
          rcases List.mem_cons.mp hpart with rfl | hparts
          · exact ⟨_, List.mem_cons_self, List.mem_cons_of_mem _ hmem⟩
          · exact ⟨part, List.mem_cons_of_mem _ hparts, hmem⟩

/-- The names of a path text have all its code points but slashes and single dots. -/
theorem mem_flatten_partsOf {text : Text} {c : CodePoint} (hslash : c ≠ .char '/')
    (hdot : c ≠ .char '.') : c ∈ (partsOf text).flatten ↔ c ∈ text := by
  rw [List.mem_flatten]
  constructor
  · rintro ⟨part, hpart, hc⟩
    exact mem_of_mem_splitSlashes (List.mem_filter.mp hpart).1 hc
  · intro hc
    obtain ⟨part, hpart, hmem⟩ := exists_mem_splitSlashes hc hslash
    have hempty : part ≠ [] := List.ne_nil_of_mem hmem
    have hsingle : part ≠ Text.ofString "." := by
      rintro rfl
      exact hdot (List.mem_singleton.mp hmem)
    exact ⟨part, List.mem_filter.mpr ⟨hpart, by simp [hempty, hsingle]⟩, hmem⟩

theorem parts_join_work (n : Nat) (text : Text) : ((work n).join text).parts = partsOf text := by
  unfold join
  split
  · rfl
  · rfl

/-- The system takes a path in a work directory exactly if it takes the text of its names. -/
theorem flaw?_work_join (n : Nat) (text : Text) : ((work n).join text).flaw? = text.flaw? := by
  rw [flaw?, parts_join_work]
  refine Text.flaw?_congr fun c hc => mem_flatten_partsOf ?_ ?_
  · rintro rfl
    rcases hc with hc | hc <;> cases hc
  · rintro rfl
    rcases hc with hc | hc <;> cases hc

end Path

namespace Settings

/-- The texts that settings hold. -/
def texts (s : Settings) : List Text :=
  [s.compilerPath, s.passName, s.logPass, s.artifactTemplate, s.logDirName, s.stagingStem] ++
    s.fixedSymbol.toList

end Settings

namespace Staging

/-- What stops staging is a resource that is not available. -/
def Unavailable (stop : Stop) : Prop :=
  ∃ report, stop = .failure (.resourceUnavailable report)

/-- Staging breaks down, for this fault, on a disk without an old log directory: the system does not
take the name of the staged file, or the file is opened and the text has no UTF-8. -/
inductive Obstructs (s : Settings) (n : Nat) (text : Text) (d : Disk) : Fault → Prop
  | stem {flaw : Text.Flaw} (flawed : s.stagingStem.flaw? = some flaw) :
    Obstructs s n text d (.path flaw)
  | text {d' : Disk} (opened : d.write (sourcePath s n) [] = .ok d')
    (unencodable : text.utf8? = none) : Obstructs s n text d .unencodable

variable {s : Settings} {room n : Nat} {text : Text} {d : Disk} {stop : Stop}

theorem removeLogDir_stop (h : (removeLogDir s n d).2 = some stop) : Unavailable stop := by
  simp only [removeLogDir] at h
  split at h
  · exact ⟨_, (Option.some.inj h).symm⟩
  · cases h
  · split at h
    · cases h
    · exact ⟨_, (Option.some.inj h).symm⟩
    · exact ⟨_, (Option.some.inj h).symm⟩

/-- The extension of the staged file has nothing that the system does not take. -/
theorem flaw?_sourcePath (s : Settings) (n : Nat) :
    (sourcePath s n).flaw? = s.stagingStem.flaw? := by
  rw [sourcePath, Path.flaw?_work_join, Settings.stagingFilename]
  refine Text.flaw?_congr fun c hc => ?_
  have hextension : c ∉ Text.ofString ".chpl" := by
    have hsound : (Text.ofString ".chpl").flaw? = none := by decide
    obtain ⟨hstray, hnul⟩ := Text.flaw?_eq_none_iff.mp hsound
    intro hmem
    rcases hc with hc | rfl
    · rw [hstray c hmem] at hc
      cases hc
    · exact hnul hmem
  simp [hextension]

/-- Writing the staged file stops with a failure, or breaks down. -/
theorem writeSource_stop (h : (writeSource s n text d).2 = some stop) :
    Unavailable stop ∨ ∃ fault, stop = .fault fault ∧ Obstructs s n text d fault := by
  simp only [writeSource] at h
  split at h
  · rename_i d' hw
    cases hutf : text.utf8? with
    | some bytes => simp [hutf] at h
    | none =>
      rw [hutf] at h hw
      exact .inr ⟨_, (Option.some.inj h).symm, .text hw hutf⟩
  · rename_i flaw hw
    refine .inr ⟨_, (Option.some.inj h).symm, .stem ?_⟩
    rw [← flaw?_sourcePath s n]
    unfold Disk.write at hw
    split at hw
    · rename_i hflaw
      cases hw
      exact hflaw
    · split at hw <;> cases hw
  · exact .inl ⟨_, (Option.some.inj h).symm⟩

theorem Obstructs.writeSource {fault : Fault} (h : Obstructs s n text d fault) :
    (writeSource s n text d).2 = some (.fault fault) := by
  cases h with
  | stem flawed =>
    have hflaw := (flaw?_sourcePath s n).trans flawed
    simp only [Staging.writeSource, Disk.write, hflaw]
  | text opened unencodable =>
    simp only [Staging.writeSource, unencodable, Option.getD_none, opened]
    rfl

/-! Staging is removing the old log directory, then writing the staged file, and then naming the
pass log. The first of these that stops is where it stops. -/

theorem stage_of_unremoved (hl : (removeLogDir s n d).2 = some stop) :
    stage s room n text d = ((removeLogDir s n d).1, .error stop) := by
  unfold stage
  generalize removeLogDir s n d = removed at hl ⊢
  obtain ⟨d₁, stop₁⟩ := removed
  obtain rfl : stop₁ = some stop := hl
  rfl

theorem stage_of_removed (hl : (removeLogDir s n d).2 = none) :
    stage s room n text d =
      ((writeSource s n text (removeLogDir s n d).1).1,
        (writeSource s n text (removeLogDir s n d).1).2.elim (artifactPath s room n) .error) := by
  unfold stage
  generalize removeLogDir s n d = removed at hl ⊢
  obtain ⟨d₁, stop₁⟩ := removed
  obtain rfl : stop₁ = none := hl
  dsimp only
  obtain ⟨d₂, stop₂⟩ := writeSource s n text d₁
  cases stop₂ with
  | some stop => rfl
  | none => rfl

theorem stage_of_unwritten (hl : (removeLogDir s n d).2 = none)
    (hw : (writeSource s n text (removeLogDir s n d).1).2 = some stop) :
    stage s room n text d = ((writeSource s n text (removeLogDir s n d).1).1, .error stop) := by
  rw [stage_of_removed hl, hw]
  rfl

theorem stage_of_written (hl : (removeLogDir s n d).2 = none)
    (hw : (writeSource s n text (removeLogDir s n d).1).2 = none) :
    stage s room n text d =
      ((writeSource s n text (removeLogDir s n d).1).1, artifactPath s room n) := by
  rw [stage_of_removed hl, hw]
  rfl

/-- Staging stops when the old log directory cannot be removed, or when the text cannot be written
then, provided that the template can be filled in. -/
theorem stage_stop (hs : ∃ name, s.artifactName room = .ok name)
    (h : (stage s room n text d).2 = .error stop) :
    (removeLogDir s n d).2 = some stop ∨
      (removeLogDir s n d).2 = none ∧
        (writeSource s n text (removeLogDir s n d).1).2 = some stop := by
  obtain ⟨name, hname⟩ := hs
  cases hl : (removeLogDir s n d).2 with
  | some other =>
    rw [stage_of_unremoved hl] at h
    exact .inl (congrArg some (Except.error.inj h))
  | none =>
    cases hw : (writeSource s n text (removeLogDir s n d).1).2 with
    | some other =>
      rw [stage_of_unwritten hl hw] at h
      exact .inr ⟨rfl, congrArg some (Except.error.inj h)⟩
    | none =>
      rw [stage_of_written hl hw] at h
      simp [artifactPath, hname] at h

/-- Staging fails only with a resource that is not available. -/
theorem stage_failure {failure : Failure} (hs : ∃ name, s.artifactName room = .ok name)
    (h : (stage s room n text d).2 = .error (.failure failure)) :
    ∃ report, failure = .resourceUnavailable report := by
  have hstop : Unavailable (.failure failure) := by
    rcases stage_stop hs h with hl | ⟨-, hw⟩
    · exact removeLogDir_stop hl
    · rcases writeSource_stop hw with hunavailable | ⟨fault, hfault, -⟩
      · exact hunavailable
      · cases hfault
  obtain ⟨report, hreport⟩ := hstop
  exact ⟨report, Stop.failure.inj hreport⟩

/-- Staging breaks down exactly at an obstacle to writing the staged file, once the old log
directory is out of the way. -/
theorem stage_fault_iff {fault : Fault} (hs : ∃ name, s.artifactName room = .ok name) :
    (stage s room n text d).2 = .error (.fault fault) ↔
      (removeLogDir s n d).2 = none ∧ Obstructs s n text (removeLogDir s n d).1 fault := by
  constructor
  · intro h
    rcases stage_stop hs h with hl | ⟨hl, hw⟩
    · obtain ⟨report, hreport⟩ := removeLogDir_stop hl
      cases hreport
    · rcases writeSource_stop hw with ⟨report, hreport⟩ | ⟨fault', hfault, hobstructs⟩
      · cases hreport
      · cases hfault
        exact ⟨hl, hobstructs⟩
  · rintro ⟨hl, hobstructs⟩
    rw [stage_of_unwritten hl hobstructs.writeSource]

end Staging

namespace Host

variable {h : Host} {s : Settings} {n : Nat} {d : Disk}

theorem refusal_eq (compiler : Text) (error : OsError) (subject : String) :
    ∃ report, refusal compiler error subject = .resourceUnavailable report := by
  unfold refusal
  split
  · exact ⟨_, rfl⟩
  · exact ⟨_, rfl⟩

theorem run_error {compiler : Text} {source : Path} {opened : Except OsError (List UInt8)}
    {failure : Failure} (hr : h.run compiler source opened = .error failure) :
    ∃ report, failure = .resourceUnavailable report := by
  unfold run at hr
  split at hr
  · exact ⟨_, (Except.error.inj hr).symm⟩
  · obtain ⟨report, hreport⟩ := refusal_eq compiler _ (Text.quotedString compiler)
    exact ⟨report, (Except.error.inj hr).symm.trans hreport⟩
  · split at hr
    · cases hr
    · cases hr
    · obtain ⟨report, hreport⟩ := refusal_eq compiler _ source.quoted
      exact ⟨report, (Except.error.inj hr).symm.trans hreport⟩

/-- What is found wrong with a command is wrong with one of its words. -/
theorem mem_of_flaw? {command : List Text} {flaw : Text.Flaw} (hf : h.flaw? command = some flaw) :
    ∃ word ∈ command, word.flaw? = some flaw := by
  unfold flaw? at hf
  split at hf
  · exact List.exists_of_findSome?_eq_some hf
  · cases hf

theorem start_of_flaw {flaw : Text.Flaw} (hf : h.flaw? (Staging.command s n) = some flaw) :
    h.start s n d = (h, .error (.fault (.command flaw))) := by
  simp only [start, hf]

theorem start_of_sound (hf : h.flaw? (Staging.command s n) = none) :
    (h.start s n d).2 = (h.run s.compilerPath (Staging.namedPath s n)
      (d.load (Staging.namedPath s n))).mapError .failure := by
  simp only [start, hf]

/-- What starting the compiler comes to does not depend on what is found in new work directories. -/
theorem start_with_leftovers (h : Host) (leftovers : List Placement) (s : Settings) (n : Nat)
    (d : Disk) : { h with leftovers }.start s n d =
      ({ (h.start s n d).1 with leftovers }, (h.start s n d).2) := by
  have hflaw (command : List Text) : { h with leftovers }.flaw? command = h.flaw? command := rfl
  unfold start
  rw [hflaw]
  cases h.flaw? (Staging.command s n) with
  | some flaw => rfl
  | none => rfl

/-- Of the disk, starting the compiler reads only the file that it is to compile. -/
theorem start_of_load_eq {d d' : Disk}
    (hload : d.load (Staging.namedPath s n) = d'.load (Staging.namedPath s n)) :
    h.start s n d' = h.start s n d := by
  simp only [start, hload]

theorem start_leftovers (h : Host) (s : Settings) (n : Nat) (d : Disk) :
    (h.start s n d).1.leftovers = h.leftovers := by
  unfold start
  split
  · rfl
  · rfl

/-- Starting the compiler stops at what is wrong with its command, or where no process comes up. -/
theorem start_stop {stop : Stop} (hs : (h.start s n d).2 = .error stop) :
    (∃ flaw, h.flaw? (Staging.command s n) = some flaw ∧ stop = .fault (.command flaw)) ∨
      ∃ failure, h.run s.compilerPath (Staging.namedPath s n) (d.load (Staging.namedPath s n)) =
        .error failure ∧ stop = .failure failure := by
  cases hf : h.flaw? (Staging.command s n) with
  | some flaw =>
    rw [start_of_flaw hf] at hs
    exact .inl ⟨flaw, rfl, (Except.error.inj hs).symm⟩
  | none =>
    rw [start_of_sound hf] at hs
    cases hr : h.run s.compilerPath (Staging.namedPath s n) (d.load (Staging.namedPath s n)) with
    | ok run =>
      rw [hr] at hs
      cases hs
    | error failure =>
      rw [hr] at hs
      exact .inr ⟨failure, rfl, (Except.error.inj hs).symm⟩

/-- Starting the compiler breaks down exactly at a word that the system does not take. -/
theorem start_fault_iff {fault : Fault} :
    (h.start s n d).2 = .error (.fault fault) ↔
      ∃ flaw, h.flaw? (Staging.command s n) = some flaw ∧ fault = .command flaw := by
  constructor
  · intro hs
    rcases start_stop hs with ⟨flaw, hflaw, hstop⟩ | ⟨failure, -, hstop⟩
    · exact ⟨flaw, hflaw, Stop.fault.inj hstop⟩
    · cases hstop
  · rintro ⟨flaw, hflaw, rfl⟩
    rw [start_of_flaw hflaw]

/-- Starting the compiler fails only with a resource that is not available. -/
theorem start_failure {failure : Failure} (hs : (h.start s n d).2 = .error (.failure failure)) :
    ∃ report, failure = .resourceUnavailable report := by
  rcases start_stop hs with ⟨flaw, -, hstop⟩ | ⟨failure, hr, hstop⟩
  · cases hstop
  · cases hstop
    exact run_error hr

end Host

end ChapelServer
