import ChapelServer.Proofs.Compilation.Staging
import ChapelServer.Proofs.Disk.Frame
import ChapelServer.Proofs.Settings.Reading
import ChapelServer.Proofs.Session.Move

/-!
# Confinement to the work directory

Staged file, log directory and pass log are named by texts of the settings, which may hold slashes
and double dots or start at the root. The paths stay in the work directory exactly where the
depths that these texts reach say so, and a compilation whose paths stay there touches nothing
else.
-/

namespace ChapelServer

namespace Path

/-! ## Names in path texts -/

theorem slash_not_mem_of_mem_splitSlashes {text part : Text} (h : part ∈ splitSlashes text) :
    CodePoint.char '/' ∉ part := by
  induction text generalizing part with
  | nil =>
    obtain rfl : part = [] := by simpa [splitSlashes] using h
    simp
  | cons c rest ih =>
    rw [splitSlashes] at h
    split at h
    · rcases List.mem_cons.mp h with rfl | h
      · simp
      · exact ih h
    · rename_i hc
      split at h
      · rcases List.mem_singleton.mp h with rfl
        simpa using Ne.symm hc
      · rename_i first parts hsplit
        rcases List.mem_cons.mp h with rfl | h
        · have hfirst := ih (hsplit ▸ List.mem_cons_self)
          simpa using ⟨Ne.symm hc, hfirst⟩
        · exact ih (hsplit ▸ List.mem_cons_of_mem _ h)

theorem splitSlashes_of_not_mem {text : Text} (h : CodePoint.char '/' ∉ text) :
    splitSlashes text = [text] := by
  induction text with
  | nil => rfl
  | cons c rest ih =>
    obtain ⟨hc, hrest⟩ := not_or.mp (mt List.mem_cons.mpr h)
    simp [splitSlashes, Ne.symm hc, ih hrest]

/-- What follows the last slash goes into the last stretch. -/
theorem splitSlashes_append (text more : Text) (h : CodePoint.char '/' ∉ more) :
    ∃ front last, splitSlashes (text ++ more) = front ++ [last ++ more] := by
  induction text with
  | nil => exact ⟨[], [], splitSlashes_of_not_mem h⟩
  | cons c rest ih =>
    obtain ⟨front, last, hsplit⟩ := ih
    rw [List.cons_append, splitSlashes, hsplit]
    by_cases hc : c = .char '/'
    · exact ⟨[] :: front, last, by simp [hc]⟩
    · cases front with
      | nil => exact ⟨[], c :: last, by simp [hc]⟩
      | cons first front => exact ⟨(c :: first) :: front, last, by simp [hc]⟩

theorem rootOf?_of_not_mem {text : Text} (h : CodePoint.char '/' ∉ text) : rootOf? text = none := by
  unfold rootOf?
  split <;> simp_all

/-- A name in a path text is a path text of its own, with nothing but itself in it. -/
theorem join_part {text part : Text} (h : part ∈ partsOf text) (p : Path) :
    p.join part = { p with parts := p.parts ++ [part] } := by
  obtain ⟨hsplit, hkept⟩ := List.mem_filter.mp h
  have hslash := slash_not_mem_of_mem_splitSlashes hsplit
  have hparts : partsOf part = [part] := by
    simp only [partsOf, splitSlashes_of_not_mem hslash, List.filter_cons, hkept, if_true,
      List.filter_nil]
  simp only [join, rootOf?_of_not_mem hslash, hparts]

theorem rootOf?_ne_work {text : Text} {anchor : Anchor} (h : rootOf? text = some anchor)
    (n : Nat) : anchor ≠ .work n := by
  unfold rootOf? at h
  split at h <;> cases h <;> nofun

/-! ## Depths -/

/-- How deep below a directory names lead that start so many names below it. They lead nowhere
below it once they have left it. -/
def descend : Nat → List Text → Option Nat
  | depth, [] => some depth
  | 0, name :: rest => if name = Text.ofString ".." then none else descend 1 rest
  | depth + 1, name :: rest => descend (if name = Text.ofString ".." then depth else depth + 2) rest

/-- How deep below a directory a path text leads that starts so many names below it. -/
def depth? (depth : Nat) (text : Text) : Option Nat :=
  match rootOf? text with
  | some _ => none
  | none => descend depth (partsOf text)

/-- The depth of names in a work directory is that of the place they lead to. -/
theorem descend_eq_some_iff {names : List Text} {p : Place} {n depth : Nat}
    (hp : p.work = some n) :
    descend p.names.length names = some depth ↔
      (names.foldl Place.go p).work = some n ∧
        (names.foldl Place.go p).names.length = depth := by
  induction names generalizing p with
  | nil => simp [descend, hp]
  | cons name rest ih =>
    rw [List.foldl_cons]
    by_cases hup : name = Text.ofString ".."
    · rw [Place.go, if_pos hup, Place.parent]
      by_cases hnames : p.names = []
      · rw [if_pos hnames, hnames, List.length_nil, descend, if_pos hup]
        -- From the outside no names lead back into a work directory.
        constructor
        · intro h
          cases h
        · intro h
          cases Place.work_of_foldl_go h.1
      · have hlength : p.names.length = p.names.dropLast.length + 1 := by
          have hpos := List.length_pos_iff.mpr hnames
          rw [List.length_dropLast]
          omega
        rw [if_neg hnames, hlength, descend, if_pos hup]
        exact ih (p := { p with names := p.names.dropLast }) hp
    · have hdescend : descend p.names.length (name :: rest) =
          descend (p.child name).names.length rest := by
        rw [Place.child, List.length_append, List.length_singleton]
        cases p.names.length <;> simp only [descend, if_neg hup]
      rw [hdescend, Place.go, if_neg hup]
      exact ih hp

theorem join_place {p : Path} {text : Text} (h : rootOf? text = none) :
    (p.join text).place = (partsOf text).foldl Place.go p.place := by
  simp [join, h, place, Disk.start]

/-- A text joined to a path in a work directory leads as deep into it as its depth says. -/
theorem depth?_eq_some_iff {p : Path} {text : Text} {n depth : Nat}
    (hp : p.place.work = some n) :
    depth? p.place.names.length text = some depth ↔
      (p.join text).place.work = some n ∧ (p.join text).place.names.length = depth := by
  cases hroot : rootOf? text with
  | some anchor =>
    have hstart : Disk.start (p.join text) = .outside := by
      cases anchor with
      | work m => exact absurd rfl (rootOf?_ne_work hroot m)
      | root => simp [join, hroot, Disk.start]
      | doubleRoot => simp [join, hroot, Disk.start]
    simp only [depth?, hroot]
    constructor
    · intro h
      cases h
    · intro h
      have hwork : (Disk.start (p.join text)).work = some n := Place.work_of_foldl_go h.1
      rw [hstart] at hwork
      cases hwork
  | none =>
    rw [join_place hroot, depth?, hroot]
    exact descend_eq_some_iff hp

end Path

/-- The texts of the settings lead into the work directory: that of the staged file directly into
it, and those of the log directory and of the pass log below it. -/
def Settings.confined (s : Settings) (room : Nat) : Bool :=
  Path.depth? 0 s.stagingFilename = some 1 &&
    (Path.depth? 0 s.logDirName).any fun depth =>
      0 < depth && ((s.artifactName room).toOption.bind (Path.depth? depth)).any (0 < ·)

theorem Settings.confined_iff {s : Settings} {room : Nat} {name : Text}
    (hname : s.artifactName room = .ok name) :
    s.confined room = true ↔
      Path.depth? 0 s.stagingFilename = some 1 ∧
        ∃ depth, Path.depth? 0 s.logDirName = some depth ∧ 0 < depth ∧
          ∃ depth', Path.depth? depth name = some depth' ∧ 0 < depth' := by
  simp [confined, hname, Except.toOption, Option.any_eq_true]

/-- A place below a work directory, and not that directory itself. -/
def Place.IsBelow (n : Nat) (p : Place) : Prop :=
  p.work = some n ∧ 0 < p.names.length

namespace Staging

/-- The paths of a compilation stay in its work directory. The staged file lies directly in it and
is what its bare name stands for there, and log directory and pass log lie below it. -/
structure Within (s : Settings) (n : Nat) (artifact : Path) : Prop where
  source : (sourcePath s n).place = (Path.work n).place.child (sourcePath s n).name
  bare : (namedPath s n).place = (sourcePath s n).place
  logDir : (logDir s n).place.IsBelow n
  artifact : artifact.place.IsBelow n

/-- The last name of the staged file's path ends in an extension, so it is no double dot. -/
theorem sourcePath_parts (s : Settings) (n : Nat) :
    ∃ names, (sourcePath s n).parts = names ++ [(sourcePath s n).name] ∧
      (sourcePath s n).name ∈ Path.partsOf s.stagingFilename ∧
      (sourcePath s n).name ≠ Text.ofString ".." := by
  obtain ⟨front, last, hsplit⟩ :=
    Path.splitSlashes_append s.stagingStem (Text.ofString ".chpl") (by decide)
  have hlength : 2 < (last ++ Text.ofString ".chpl").length := by
    simp [Text.ofString, Text.ofChars]
  have hshort : ∀ short : Text, short.length ≤ 2 → last ++ Text.ofString ".chpl" ≠ short := by
    rintro short hle rfl
    omega
  have hkept : (last ++ Text.ofString ".chpl" ≠ [] &&
      last ++ Text.ofString ".chpl" ≠ Text.ofString ".") = true := by
    simp [hshort [] (by decide), hshort (Text.ofString ".") (by decide)]
  have hparts : Path.partsOf s.stagingFilename =
      (front.filter fun part => part ≠ [] && part ≠ Text.ofString ".") ++
        [last ++ Text.ofString ".chpl"] := by
    rw [Path.partsOf, Settings.stagingFilename, hsplit, List.filter_append]
    simp only [List.filter_cons, hkept, if_true, List.filter_nil]
  have hsource : (sourcePath s n).parts = Path.partsOf s.stagingFilename :=
    Path.parts_join_work n _
  have hname : (sourcePath s n).name = last ++ Text.ofString ".chpl" := by
    simp only [Path.name, hsource, hparts, List.getLast?_append, List.getLast?_singleton,
      Option.some_or]
  refine ⟨_, hname ▸ hsource.trans hparts, ?_, ?_⟩
  · rw [hname, hparts]
    exact List.mem_append_right _ List.mem_cons_self
  · rw [hname]
    exact hshort _ (by decide)

/-- The staged file lies directly in the work directory exactly where its text leads one name
deep. -/
theorem source_iff (s : Settings) (n : Nat) :
    (sourcePath s n).place = (Path.work n).place.child (sourcePath s n).name ↔
      Path.depth? 0 s.stagingFilename = some 1 := by
  have hdepth : Path.depth? 0 s.stagingFilename = some 1 ↔
      (sourcePath s n).place.work = some n ∧ (sourcePath s n).place.names.length = 1 :=
    Path.depth?_eq_some_iff (p := Path.work n) rfl
  rw [hdepth]
  obtain ⟨names, hparts, -, hne⟩ := sourcePath_parts s n
  have hplace : (sourcePath s n).place =
      (names.foldl Place.go (Disk.start (sourcePath s n))).child (sourcePath s n).name := by
    rw [Path.place, hparts, List.foldl_append, List.foldl_cons, List.foldl_nil, Place.go,
      if_neg hne]
  constructor
  · intro h
    rw [h]
    exact ⟨rfl, rfl⟩
  · rintro ⟨hwork, hlength⟩
    -- The last name goes down, so that those before it lead back to the work directory.
    rw [hplace] at hwork hlength ⊢
    generalize names.foldl Place.go (Disk.start (sourcePath s n)) = before at hwork hlength ⊢
    obtain ⟨work, above⟩ := before
    obtain rfl : above = [] := by simpa [Place.child] using hlength
    obtain rfl : work = some n := hwork
    rfl

theorem namedPath_eq (s : Settings) (n : Nat) :
    namedPath s n = ⟨.work n, [(sourcePath s n).name]⟩ := by
  obtain ⟨-, -, hmem, -⟩ := sourcePath_parts s n
  exact Path.join_part hmem (Path.work n)

theorem namedPath_place (s : Settings) (n : Nat) :
    (namedPath s n).place = (Path.work n).place.child (sourcePath s n).name := by
  obtain ⟨-, -, -, hne⟩ := sourcePath_parts s n
  rw [namedPath_eq]
  simp [Path.place, Path.work, Disk.start, Place.go, hne]

/-- A text joined to a path in a work directory leads below that directory exactly where its depth
is not zero. -/
theorem isBelow_iff {p : Path} {text : Text} {n : Nat} (hp : p.place.work = some n) :
    (p.join text).place.IsBelow n ↔
      ∃ depth, Path.depth? p.place.names.length text = some depth ∧ 0 < depth := by
  simp only [Path.depth?_eq_some_iff hp, Place.IsBelow]
  constructor
  · rintro ⟨hwork, hpos⟩
    exact ⟨_, ⟨hwork, rfl⟩, hpos⟩
  · rintro ⟨depth, ⟨hwork, rfl⟩, hpos⟩
    exact ⟨hwork, hpos⟩

/-- The paths stay in the work directory exactly where the depths of their texts say so. -/
theorem within_iff {s : Settings} {room : Nat} {name : Text}
    (hname : s.artifactName room = .ok name) (n : Nat) :
    Within s n ((logDir s n).join name) ↔ s.confined room = true := by
  rw [Settings.confined_iff hname, ← source_iff s n]
  have hlog : ∀ depth, Path.depth? 0 s.logDirName = some depth ↔
      (logDir s n).place.work = some n ∧ (logDir s n).place.names.length = depth :=
    fun depth => Path.depth?_eq_some_iff (p := Path.work n) rfl
  constructor
  · rintro ⟨hsource, -, ⟨hwork, hpos⟩, hartifact⟩
    exact ⟨hsource, _, (hlog _).mpr ⟨hwork, rfl⟩, hpos, (isBelow_iff hwork).mp hartifact⟩
  · rintro ⟨hsource, depth, hdepth, hpos, hartifact⟩
    obtain ⟨hwork, rfl⟩ := (hlog depth).mp hdepth
    exact {
      source := hsource
      bare := (namedPath_place s n).trans hsource.symm
      logDir := ⟨hwork, hpos⟩
      artifact := (isBelow_iff hwork).mpr hartifact }

/-! ## The bare name of the staged file -/

theorem le_foldl_byteSize (names : List Text) (size : Nat) :
    size ≤ names.foldl (fun total part => total + 1 + part.byteSize) size := by
  induction names generalizing size with
  | nil => exact Nat.le_refl size
  | cons name names ih => exact Nat.le_trans (by omega) (ih (size + 1 + name.byteSize))

/-- A path to a file directly in a work directory leads where its last name alone leads. -/
theorem resolve_bare {d : Disk} {p : Path} {n : Nat} {names : List Text} {name : Text}
    {target : Disk.Target} (hparts : p.parts = names ++ [name]) (hne : name ≠ Text.ofString "..")
    (hplace : p.place = ⟨some n, [name]⟩) (h : d.resolve p = .ok target) :
    d.resolve ⟨.work n, [name]⟩ = .ok target := by
  have hstop : (p.parts.foldl Place.go (Disk.start p)).work = some n := congrArg Place.work hplace
  have hstart : (Disk.start p).work = some n := Place.work_of_foldl_go hstop
  have hanchor : p.anchor = .work n := by
    unfold Disk.start at hstart
    split at hstart
    · rename_i m hm
      rw [hm, Option.some.inj hstart]
    · cases hstart
  have hwork : Disk.start p = ⟨some n, []⟩ := by simp [Disk.start, hanchor]
  have hbefore : names.foldl Place.go ⟨some n, []⟩ = ⟨some n, []⟩ := by
    rw [Path.place, hparts, hwork, List.foldl_append, List.foldl_cons, List.foldl_nil, Place.go,
      if_neg hne] at hplace
    generalize names.foldl Place.go ⟨some n, []⟩ = before at hplace
    obtain ⟨work, above⟩ := before
    obtain ⟨rfl, habove⟩ := Place.mk.inj hplace
    obtain rfl : above = [] := by simpa using habove
    rfl
  have hsize : Path.byteSize ⟨.work n, [name]⟩ d.workBytes ≤ p.byteSize d.workBytes := by
    have hle := le_foldl_byteSize names (p.anchor.byteSize d.workBytes)
    simp only [Path.byteSize, hparts, List.foldl_append, List.foldl_cons, List.foldl_nil]
    rw [hanchor] at hle ⊢
    omega
  unfold Disk.resolve at h ⊢
  rw [hwork, hparts] at h
  split at h
  · cases h
  · rename_i hlimit
    have hbare : ¬ Path.byteSize ⟨.work n, [name]⟩ d.workBytes ≥ Path.byteLimit := by omega
    have hroot : Disk.start ⟨.work n, [name]⟩ = ⟨some n, []⟩ := rfl
    rw [if_neg hbare, hroot]
    split at h
    · simp at h
    · have hfollow := Disk.follow_concat h
      rw [hbefore] at hfollow
      simp only [hfollow]

/-- What was written to the staged file is what a process finds under its bare name, if the file
lies directly in the work directory. -/
theorem load_namedPath {s : Settings} {n : Nat} {d d' : Disk} {bytes : List UInt8}
    (hsource : (sourcePath s n).place = (Path.work n).place.child (sourcePath s n).name)
    (h : d.write (sourcePath s n) bytes = .ok d') : d'.load (namedPath s n) = .ok bytes := by
  obtain ⟨names, hparts, -, hne⟩ := sourcePath_parts s n
  have hread : d'.read (sourcePath s n) = .ok bytes := by
    refine Disk.read_write ?_ h
    rw [hparts]
    simp
  rw [namedPath_eq]
  unfold Disk.read at hread
  split at hread
  · cases hread
  · rename_i hsound
    have hflaw : Path.flaw? ⟨.work n, [(sourcePath s n).name]⟩ = none := by
      rw [Path.flaw?, Text.flaw?_eq_none_iff, hparts, List.flatten_append] at hsound
      rw [Path.flaw?, Text.flaw?_eq_none_iff]
      exact ⟨fun c hc => hsound.1 c (List.mem_append_right _ hc),
        fun hc => hsound.2 (List.mem_append_right _ hc)⟩
    split at hread
    · rename_i hresolve
      cases hread
      simp only [Disk.load, Disk.read, hflaw, resolve_bare hparts hne hsource hresolve]
    all_goals cases hread

/-! ## What a compilation touches -/

variable {s : Settings} {room n : Nat} {text : Text} {d d' : Disk}

/-- The log directory is kept, emptied or removed. -/
theorem removeLogDir_felled (s : Settings) (n : Nat) (d : Disk) :
    Disk.Felled d (logDir s n).place (removeLogDir s n d).1 := by
  have htree := Disk.removeTree_felled d (logDir s n)
  simp only [removeLogDir]
  split
  · exact .kept
  · exact .kept
  · generalize d.removeTree (logDir s n) = removed at htree ⊢
    obtain ⟨d', error?⟩ := removed
    cases error? with
    | none => exact htree
    | some error => cases error <;> exact htree

theorem removeLogDir_agree {d₁ d₂ : Disk} (hlog : (logDir s n).place.work = some n)
    (h : Disk.Agree n d₁ d₂) :
    Paired (Disk.Agree n) (removeLogDir s n d₁) (removeLogDir s n d₂) := by
  have htree := h.removeTree hlog
  simp only [removeLogDir, h.exists? hlog]
  split
  · exact ⟨h, rfl⟩
  · exact ⟨h, rfl⟩
  · generalize d₁.removeTree (logDir s n) = r₁ at htree ⊢
    generalize d₂.removeTree (logDir s n) = r₂ at htree ⊢
    obtain ⟨e₁, error?⟩ := r₁
    obtain ⟨e₂, error?'⟩ := r₂
    obtain ⟨hdisk, rfl⟩ := htree
    cases error? with
    | none => exact ⟨hdisk, rfl⟩
    | some error => cases error <;> exact ⟨hdisk, rfl⟩

/-- The staged file is written, or nothing is. -/
theorem writeSource_disk (s : Settings) (n : Nat) (text : Text) (d : Disk) :
    (writeSource s n text d).1 = d ∨
      (writeSource s n text d).1 =
        d.put (sourcePath s n).place (.file (text.utf8?.getD [])) := by
  simp only [writeSource]
  split
  · rename_i hw
    exact .inr (Disk.write_ok hw)
  · exact .inl rfl
  · exact .inl rfl

theorem writeSource_ok (h : (writeSource s n text d).2 = none) :
    ∃ bytes, text.utf8? = some bytes ∧
      d.write (sourcePath s n) bytes = .ok (writeSource s n text d).1 := by
  simp only [writeSource] at h ⊢
  cases hutf : text.utf8? with
  | none =>
    rw [hutf] at h
    split at h <;> cases h
  | some bytes =>
    rw [hutf] at h
    refine ⟨bytes, rfl, ?_⟩
    simp only [Option.getD_some] at h ⊢
    split at h
    · rename_i hw
      simp only [hw]
    · cases h
    · cases h

theorem writeSource_paired {S : Place → Prop} {d₁ d₂ : Disk} (h : Disk.SameOn S d₁ d₂)
    (hr : d₁.resolve (sourcePath s n) = d₂.resolve (sourcePath s n)) :
    Paired (Disk.SameOn S) (writeSource s n text d₁) (writeSource s n text d₂) := by
  have hwrite := h.write hr (text.utf8?.getD [])
  simp only [writeSource]
  generalize d₁.write (sourcePath s n) (text.utf8?.getD []) = r₁ at hwrite ⊢
  generalize d₂.write (sourcePath s n) (text.utf8?.getD []) = r₂ at hwrite ⊢
  cases hwrite with
  | ok hr => exact ⟨hr, rfl⟩
  | error e => cases e <;> exact ⟨h, rfl⟩

/-- Staging that succeeds is removing the old log directory and then writing the staged file. -/
theorem stage_ok {path : Path} (h : stage s room n text d = (d', .ok path)) :
    (removeLogDir s n d).2 = none ∧ (writeSource s n text (removeLogDir s n d).1).2 = none ∧
      d' = (writeSource s n text (removeLogDir s n d).1).1 ∧ artifactPath s room n = .ok path := by
  cases hl : (removeLogDir s n d).2 with
  | some stop =>
    rw [stage_of_unremoved hl] at h
    cases (Prod.mk.inj h).2
  | none =>
    cases hw : (writeSource s n text (removeLogDir s n d).1).2 with
    | some stop =>
      rw [stage_of_unwritten hl hw] at h
      cases (Prod.mk.inj h).2
    | none =>
      rw [stage_of_written hl hw] at h
      obtain ⟨hdisk, hpath⟩ := Prod.mk.inj h
      exact ⟨rfl, rfl, hdisk.symm, hpath⟩

/-- Whatever comes of staging, the disk is that without the log directory, or that with the staged
file in it besides. -/
theorem stage_disk (s : Settings) (room n : Nat) (text : Text) (d : Disk) :
    (stage s room n text d).1 = (removeLogDir s n d).1 ∨
      (stage s room n text d).1 = (removeLogDir s n d).1.put (sourcePath s n).place
        (.file (text.utf8?.getD [])) := by
  cases hl : (removeLogDir s n d).2 with
  | some stop =>
    rw [stage_of_unremoved hl]
    exact .inl rfl
  | none =>
    rw [stage_of_removed hl]
    exact writeSource_disk s n text _

theorem removeWork_keeps (d : Disk) (n : Nat) : Disk.Keeps n d (d.removeWork n) :=
  Disk.erase_keeps d rfl

/-- A compilation touches its work directory only: a process that opens the staged file by its bare
name there finds the text; what is outside is not changed by preparing the directory, starting the
compiler and removing the directory; and it is seen neither by staging, nor by the process that
starts, nor in reading the pass log. -/
structure Sealed (s : Settings) (room n : Nat) (artifact : Path) : Prop where
  stages : ∀ {text : Text} {d d' : Disk} {path : Path}, stage s room n text d = (d', .ok path) →
    ∃ bytes, text.utf8? = some bytes ∧ d'.load (namedPath s n) = .ok bytes
  prepares : ∀ (m : Machine) (t : Ticket), m.server.pipeline.compilerSettings = s →
    Disk.Keeps n m.disk (m.prepare t n).disk
  removes : ∀ d : Disk, Disk.Keeps n d (d.removeWork n)
  stagesAlike : ∀ (text : Text) {d₁ d₂ : Disk}, Disk.Agree n d₁ d₂ →
    Paired (Disk.Agree n) (stage s room n text d₁) (stage s room n text d₂)
  startsAlike : ∀ (host : Host) {d₁ d₂ : Disk}, Disk.Agree n d₁ d₂ →
    host.start s n d₁ = host.start s n d₂
  readsAlike : ∀ (symbol : Text) {d₁ d₂ : Disk}, Disk.Agree n d₁ d₂ →
    d₁.findEntry artifact symbol = d₂.findEntry artifact symbol

theorem stage_keeps (hlog : (logDir s n).place.work = some n)
    (hsource : (sourcePath s n).place.work = some n) (room : Nat) (text : Text) (d : Disk) :
    Disk.Keeps n d (stage s room n text d).1 := by
  have hremoved := (removeLogDir_felled s n d).keeps hlog
  rcases stage_disk s room n text d with hd | hd
  · rwa [hd]
  · rw [hd]
    exact hremoved.trans (Disk.put_keeps _ _ hsource)

/-- Staging goes the same way on two disks if both of its steps do. -/
theorem stage_paired {R : Disk → Disk → Prop} {d₁ d₂ : Disk}
    (hremove : Paired R (removeLogDir s n d₁) (removeLogDir s n d₂))
    (hwrite : ∀ {e₁ e₂ : Disk}, R e₁ e₂ →
      Paired R (writeSource s n text e₁) (writeSource s n text e₂)) :
    Paired R (stage s room n text d₁) (stage s room n text d₂) := by
  have hwrite := hwrite hremove.disk
  cases hl : (removeLogDir s n d₂).2 with
  | some stop =>
    rw [stage_of_unremoved (hremove.result.trans hl), stage_of_unremoved hl]
    exact ⟨hremove.disk, rfl⟩
  | none =>
    rw [stage_of_removed (hremove.result.trans hl), stage_of_removed hl, hwrite.result]
    exact ⟨hwrite.disk, rfl⟩

theorem stage_agree {d₁ d₂ : Disk} (hlog : (logDir s n).place.work = some n)
    (hsource : (sourcePath s n).place.work = some n) (h : Disk.Agree n d₁ d₂) :
    Paired (Disk.Agree n) (stage s room n text d₁) (stage s room n text d₂) :=
  stage_paired (removeLogDir_agree hlog h) fun he =>
    writeSource_paired he (Disk.Agree.resolve he hsource)

/-- Preparing a work directory leaves it staged or removed. -/
theorem prepare_keeps (hlog : (logDir s n).place.work = some n)
    (hsource : (sourcePath s n).place.work = some n) (m : Machine) (t : Ticket)
    (hs : m.server.pipeline.compilerSettings = s) : Disk.Keeps n m.disk (m.prepare t n).disk := by
  have hkeeps := stage_keeps hlog hsource m.server.room t.question.text m.disk
  simp only [Machine.prepare, hs]
  generalize stage s m.server.room n t.question.text m.disk = staged at hkeeps ⊢
  obtain ⟨disk, path | path⟩ := staged
  · simp only [Machine.abandon, Machine.close_eq]
    exact hkeeps.trans (removeWork_keeps disk n)
  · simp only [Machine.launch]
    split
    · exact hkeeps
    · simp only [Machine.abandon, Machine.close_eq]
      exact hkeeps.trans (removeWork_keeps disk n)

theorem Within.sealed {artifact : Path} (h : Within s n artifact) : Sealed s room n artifact where
  stages := by
    intro text d d' path hstage
    obtain ⟨-, hwritten, rfl, -⟩ := stage_ok hstage
    obtain ⟨bytes, hutf, hwrite⟩ := writeSource_ok hwritten
    exact ⟨bytes, hutf, load_namedPath h.source hwrite⟩
  prepares := prepare_keeps h.logDir.1 (h.source ▸ rfl)
  removes := fun d => removeWork_keeps d n
  stagesAlike := fun text _ _ hd => stage_agree h.logDir.1 (h.source ▸ rfl) hd
  startsAlike := by
    intro host d₁ d₂ hd
    have hnamed : (namedPath s n).place.work = some n := by
      rw [h.bare, h.source]
      rfl
    simp only [Host.start, hd.load hnamed]
  readsAlike := by
    intro symbol d₁ d₂ hd
    rw [Disk.findEntry, Disk.findEntry, hd.read h.artifact.1]

/-- With settings that were read, the paths of a compilation stay in its work directory exactly
where the depths that its texts reach say so, and the compilation then touches nothing else. -/
theorem within_iff_confined (room : Nat) (value : Value) (s : Settings)
    (h : (Settings.ofValue room value).1 = .ok s) (n : Nat) :
    ∃ artifact, artifactPath s room n = .ok artifact ∧
      (Within s n artifact ↔ s.confined room = true) ∧
      (s.confined room = true → Sealed s room n artifact) := by
  obtain ⟨name, hname⟩ := Settings.artifactName_of_ofValue h
  have hartifact : artifactPath s room n = .ok ((logDir s n).join name) := by
    simp only [artifactPath, hname]
  have hwithin := within_iff hname n
  exact ⟨_, hartifact, hwithin, fun hc => (hwithin.mpr hc).sealed⟩

/-- The default settings are sealed in. A stem that starts with a double dot puts the staged file
next to the work directory, where its bare name does not stand for it. -/
theorem within_iff_confined_beside :
    (∃ artifact, artifactPath {} Template.maxNumber 1 = .ok artifact ∧
        Sealed {} Template.maxNumber 1 artifact) ∧
      (Settings.ofValue Template.maxNumber (.record [("stagingStem", .text "../prog")])).1 =
        .ok { stagingStem := "../prog" } ∧
      ∃ artifact, artifactPath { stagingStem := "../prog" } Template.maxNumber 1 = .ok artifact ∧
        ¬ Within { stagingStem := "../prog" } 1 artifact := by
  have hdefault : ({} : Settings).confined Template.maxNumber = true := by decide +kernel
  have hbeside : ({ stagingStem := "../prog" } : Settings).confined Template.maxNumber = false := by
    decide +kernel
  have hread : (Settings.ofValue Template.maxNumber
      (.record [("stagingStem", .text "../prog")])).1 = .ok { stagingStem := "../prog" } := rfl
  refine ⟨?_, hread, ?_⟩
  · obtain ⟨artifact, hartifact, -, hsealed⟩ :=
      within_iff_confined Template.maxNumber .null {} rfl 1
    exact ⟨artifact, hartifact, hsealed hdefault⟩
  · obtain ⟨artifact, hartifact, hwithin, -⟩ := within_iff_confined Template.maxNumber _ _ hread 1
    refine ⟨artifact, hartifact, fun h => ?_⟩
    rw [hwithin.mp h] at hbeside
    cases hbeside

end Staging

end ChapelServer
