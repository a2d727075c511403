import ChapelServer.Proofs.Compilation.Confinement
import ChapelServer.Proofs.Disk.Overlay

/-!
# The old log directory is cleared away

Where the log directory is named by a single plain name, staging looks at one place of the work
directory before it writes. A directory there goes with all that lies in it, and after that nothing
can be told from a work directory that never had one; a file there makes staging fail. So no pass
log is found that was not written since.
-/

namespace ChapelServer

/-- The text is a single plain name: there is something to it, the system takes it, it holds no
slash, and it is no dot or double dot. -/
structure Path.IsName (text : Text) : Prop where
  nonempty : text ≠ []
  sound : text.flaw? = none
  noSlash : CodePoint.char '/' ∉ text
  notDot : text ≠ Text.ofString "."
  notUp : text ≠ Text.ofString ".."

namespace Path

theorem IsName.partsOf_eq {text : Text} (h : IsName text) : partsOf text = [text] := by
  simp [partsOf, splitSlashes_of_not_mem h.noSlash, h.nonempty, h.notDot]

/-- A plain name leads from a directory to what has this name in it. -/
theorem IsName.join_eq {text : Text} (h : IsName text) (p : Path) :
    p.join text = { p with parts := p.parts ++ [text] } := by
  have hmem : text ∈ partsOf text := by simp [h.partsOf_eq]
  exact join_part hmem p

end Path

namespace Disk

/-- A name in a work directory is too long, or its path is. -/
abbrev IsLong (d : Disk) (n : Nat) (name : Text) : Prop :=
  name.byteSize > maxNameBytes ∨
    (⟨.work n, [name]⟩ : Path).byteSize d.workBytes ≥ Path.byteLimit

/-- A name in a work directory leads to its place, unless it is too long. -/
theorem resolve_name {d : Disk} {n : Nat} {name : Text} (hname : name ≠ Text.ofString "..")
    (root : d.get? ⟨some n, []⟩ = some .directory) :
    d.resolve ⟨.work n, [name]⟩ =
      if d.IsLong n name then .error .nameTooLong
      else
        .ok ((d.get? ⟨some n, [name]⟩).elim (.free ⟨some n, [name]⟩)
          (.found ⟨some n, [name]⟩)) := by
  have hchild : (⟨some n, []⟩ : Place).child name = ⟨some n, [name]⟩ := rfl
  have hstart : start ⟨.work n, [name]⟩ = ⟨some n, []⟩ := rfl
  simp only [resolve, hstart, root, follow, if_neg hname, hchild]
  by_cases hpath : (⟨.work n, [name]⟩ : Path).byteSize d.workBytes ≥ Path.byteLimit
  · rw [if_pos hpath, if_pos (.inr hpath)]
  · rw [if_neg hpath]
    by_cases hlong : name.byteSize > maxNameBytes
    · rw [if_pos hlong, if_pos (.inl hlong)]
    · rw [if_neg hlong, if_neg (not_or.mpr ⟨hlong, hpath⟩)]
      cases d.get? ⟨some n, [name]⟩ with
      | none => rfl
      | some entry => cases entry <;> rfl

end Disk

namespace Staging

variable {s : Settings} {room n : Nat} {d d' : Disk}

theorem logDir_of_isName (h : Path.IsName s.logDirName) (n : Nat) :
    logDir s n = ⟨.work n, [s.logDirName]⟩ :=
  h.join_eq (Path.work n)

/-- What is done about the old log directory is told by what is at its place. -/
theorem removeLogDir_eq (h : Path.IsName s.logDirName)
    (root : d.get? ⟨some n, []⟩ = some .directory) :
    removeLogDir s n d =
      if d.IsLong n s.logDirName then (d, some (failure n .nameTooLong (logDir s n).quoted))
      else
        match d.get? ⟨some n, [s.logDirName]⟩ with
        | none => (d, none)
        | some .directory =>
          ((d.clear ⟨some n, [s.logDirName]⟩).erase ⟨some n, [s.logDirName]⟩, none)
        | some (.file _) =>
          (d, some (failure n .notDirectory ("PosixPath(" ++ (logDir s n).quoted ++ ")"))) := by
  have hsound : (⟨.work n, [s.logDirName]⟩ : Path).flaw? = none := by
    simpa [Path.flaw?] using h.sound
  simp only [removeLogDir, logDir_of_isName h, Disk.exists?, hsound, Disk.removeTree,
    Disk.resolve_name h.notUp root]
  by_cases hlong : d.IsLong n s.logDirName
  · simp [if_pos hlong]
  · simp only [if_neg hlong]
    cases hentry : d.get? ⟨some n, [s.logDirName]⟩ with
    | none => simp
    | some entry =>
      cases entry with
      | file bytes => simp
      | directory =>
        -- the directory itself and the work directory stay until its contents are gone
        have hroot : (d.clear ⟨some n, [s.logDirName]⟩).get? ⟨some n, []⟩ = some .directory := by
          rw [Disk.get?_clear d _ (Place.ne_outside_of_work rfl)]
          simp [Place.isWithin, Place.outside, root]
        have hself : (d.clear ⟨some n, [s.logDirName]⟩).get? ⟨some n, [s.logDirName]⟩ =
            some .directory := by
          rw [Disk.get?_clear d _ (Place.ne_outside_of_work rfl)]
          simp [hentry]
        have hshort : ¬ (d.clear ⟨some n, [s.logDirName]⟩).IsLong n s.logDirName := hlong
        have hremove : (d.clear ⟨some n, [s.logDirName]⟩).removeDirectory
            ⟨.work n, [s.logDirName]⟩ =
            .ok ((d.clear ⟨some n, [s.logDirName]⟩).erase ⟨some n, [s.logDirName]⟩) := by
          simp [Disk.removeDirectory, Disk.resolve_name h.notUp hroot, if_neg hshort, hself,
            h.notUp, Place.outside]
        simp [hremove]

/-- A work directory with an old log directory, and one without, are the same after it is removed,
unless neither is touched. -/
theorem removeLogDir_overlaid (h : Path.IsName s.logDirName)
    (hd : Disk.Overlaid n s.logDirName d d') :
    Paired Disk.Same (removeLogDir s n d) (removeLogDir s n d') ∨
      ∃ stop, removeLogDir s n d = (d, some stop) ∧ removeLogDir s n d' = (d', some stop) := by
  have hroot' : d'.get? ⟨some n, []⟩ = some .directory := by
    rw [← hd.elsewhere.get? _ (by simp [Place.isWithin, Place.outside]), hd.root]
  have habsent := hd.absent _ ((Disk.isWithin_work n s.logDirName [s.logDirName]).mpr rfl)
  have hlong : d'.IsLong n s.logDirName ↔ d.IsLong n s.logDirName := by
    rw [Disk.IsLong, Disk.IsLong, hd.elsewhere.workBytes]
  rw [removeLogDir_eq h hd.root, removeLogDir_eq h hroot', habsent]
  simp only [hlong]
  split
  · exact .inr ⟨_, rfl, rfl⟩
  · left
    rcases hd.standing with hdir | hsame
    · rw [hdir]
      refine ⟨⟨hd.elsewhere.workBytes, fun q _ => ?_⟩, rfl⟩
      by_cases hout : q = .outside
      · simp [Disk.get?, hout]
      · rw [Disk.get?_erase _ _ hout, Disk.get?_clear _ _ hout]
        cases hq : (⟨some n, [s.logDirName]⟩ : Place).isWithin q with
        | true => simp [hd.absent q hq]
        | false => simp [hd.elsewhere.get? q hq]
    · rw [hsame.get? _ trivial, habsent]
      exact ⟨hsame, rfl⟩

/-- Staging does not tell a work directory with an old log directory from one without. Where the log
directory cannot be removed, it touches neither. -/
theorem stage_overlaid (h : Path.IsName s.logDirName) (hd : Disk.Overlaid n s.logDirName d d')
    (room : Nat) (text : Text) :
    Paired Disk.Same (stage s room n text d) (stage s room n text d') ∨
      ∃ stop, stage s room n text d = (d, .error stop) ∧
        stage s room n text d' = (d', .error stop) := by
  rcases removeLogDir_overlaid h hd with hremove | ⟨stop, hl, hl'⟩
  · exact .inl (stage_paired hremove fun he => writeSource_paired he (Disk.Same.resolve he _))
  · refine .inr ⟨stop, ?_, ?_⟩
    · rw [stage_of_unremoved (congrArg Prod.snd hl), hl]
    · rw [stage_of_unremoved (congrArg Prod.snd hl'), hl']

/-- A file at the place of the log directory makes staging fail. -/
theorem stage_of_file (h : Path.IsName s.logDirName)
    (root : d.get? ⟨some n, []⟩ = some .directory) {bytes : List UInt8}
    (file : d.get? ⟨some n, [s.logDirName]⟩ = some (.file bytes)) (room : Nat) (text : Text) :
    ∃ report, stage s room n text d = (d, .error (.failure (.resourceUnavailable report))) := by
  have hremove : ∃ stop, removeLogDir s n d = (d, some stop) := by
    rw [removeLogDir_eq h root, file]
    split
    · exact ⟨_, rfl⟩
    · exact ⟨_, rfl⟩
  obtain ⟨stop, hstop⟩ := hremove
  have hsecond := congrArg Prod.snd hstop
  obtain ⟨report, rfl⟩ := removeLogDir_stop hsecond
  exact ⟨report, by rw [stage_of_unremoved hsecond, hstop]⟩

theorem stage_workBytes (s : Settings) (room n : Nat) (text : Text) (d : Disk) :
    (stage s room n text d).1.workBytes = d.workBytes := by
  have hfelled := removeLogDir_felled s n d
  have hremoved : (removeLogDir s n d).1.workBytes = d.workBytes := by
    generalize (removeLogDir s n d).1 = d' at hfelled
    cases hfelled <;> rfl
  rcases stage_disk s room n text d with hdisk | hdisk
  · rw [hdisk, hremoved]
  · rw [hdisk]
    exact hremoved

/-- The place of the staged file ends in its name. -/
theorem sourcePath_place (s : Settings) (n : Nat) :
    ∃ p : Place, (sourcePath s n).place = p.child (sourcePath s n).name := by
  obtain ⟨names, hparts, -, hne⟩ := sourcePath_parts s n
  refine ⟨names.foldl Place.go (Disk.start (sourcePath s n)), ?_⟩
  rw [Path.place, hparts, List.foldl_append, List.foldl_cons, List.foldl_nil, Place.go, if_neg hne]

/-- A work directory that is prepared has no log directory, unless the staged file took its name. -/
structure Cleared (log : Text) (n : Nat) (d : Disk) : Prop where
  root : d.get? ⟨some n, []⟩ = some .directory
  short : log.byteSize ≤ Disk.maxNameBytes
  absent : d.get? ⟨some n, [log]⟩ = none

theorem removeLogDir_cleared (h : Path.IsName s.logDirName)
    (root : d.get? ⟨some n, []⟩ = some .directory) (hr : (removeLogDir s n d).2 = none) :
    Cleared s.logDirName n (removeLogDir s n d).1 := by
  rw [removeLogDir_eq h root] at hr ⊢
  split at hr
  · cases hr
  · rename_i hlong
    have hshort := Nat.le_of_not_lt (not_or.mp hlong).1
    rw [if_neg hlong]
    split at hr
    · rename_i habsent
      exact ⟨root, hshort, habsent⟩
    · refine ⟨?_, hshort, ?_⟩
      · rw [Disk.get?_erase _ _ (Place.ne_outside_of_work rfl),
          Disk.get?_clear _ _ (Place.ne_outside_of_work rfl)]
        simp [Place.isWithin, Place.outside, root]
      · rw [Disk.get?_erase _ _ (Place.ne_outside_of_work rfl), if_pos]
        exact (Disk.isWithin_work n s.logDirName [s.logDirName]).mpr rfl
    · cases hr

theorem stage_cleared {text : Text} {artifact : Path} (h : Path.IsName s.logDirName)
    (root : d.get? ⟨some n, []⟩ = some .directory)
    (hs : stage s room n text d = (d', .ok artifact))
    (other : (sourcePath s n).name ≠ s.logDirName) : Cleared s.logDirName n d' := by
  obtain ⟨hremove, hwritten, rfl, -⟩ := stage_ok hs
  have hcleared := removeLogDir_cleared h root hremove
  obtain ⟨p, hplace⟩ := sourcePath_place s n
  have hroot : (⟨some n, []⟩ : Place) ≠ p.child (sourcePath s n).name := by simp [Place.child]
  have hlog : (⟨some n, [s.logDirName]⟩ : Place) ≠ p.child (sourcePath s n).name := by
    intro heq
    have hlast := congrArg (fun q : Place => q.names.getLast?) heq
    exact other (by simpa [Place.child] using hlast.symm)
  obtain ⟨bytes, -, hwrite⟩ := writeSource_ok hwritten
  rw [Disk.write_ok hwrite, hplace]
  refine ⟨?_, hcleared.short, ?_⟩
  · rw [Disk.get?_put _ _ _ (Place.ne_outside_of_work rfl), if_neg hroot]
    exact hcleared.root
  · rw [Disk.get?_put _ _ _ (Place.ne_outside_of_work rfl), if_neg hlog]
    exact hcleared.absent

/-- In a work directory without a log directory no pass log is found. A path that is too long is
another failure. -/
theorem Cleared.findEntry {log name : Text} {path : Path} (h : Cleared log n d)
    (hlog : Path.IsName log) (hname : Path.IsName name) (hpath : path = ⟨.work n, [log, name]⟩)
    (symbol : Text) :
    d.findEntry path symbol =
      .error (.failure
        (if path.byteSize d.workBytes < Path.byteLimit then .artifactNotFound path.text
        else .unreadable path.text ⟨.nameTooLong, some path.quoted⟩)) := by
  have hsound : path.flaw? = none := by
    obtain ⟨hstray, hnul⟩ := Text.flaw?_eq_none_iff.mp hlog.sound
    obtain ⟨hstray', hnul'⟩ := Text.flaw?_eq_none_iff.mp hname.sound
    rw [hpath, Path.flaw?, Text.flaw?_eq_none_iff]
    simp only [List.flatten_cons, List.flatten_nil, List.append_nil, List.mem_append]
    exact ⟨fun c hc => hc.elim (hstray c) (hstray' c), not_or.mpr ⟨hnul, hnul'⟩⟩
  have hfollow : d.follow ⟨some n, []⟩ [log, name] = .error .noEntry := by
    have hchild : (⟨some n, []⟩ : Place).child log = ⟨some n, [log]⟩ := rfl
    simp [Disk.follow, hlog.notUp, Nat.not_lt_of_le h.short, hchild, h.absent]
  have hresolve : d.resolve path =
      if path.byteSize d.workBytes < Path.byteLimit then .error .noEntry
      else .error .nameTooLong := by
    have hstart : Disk.start path = ⟨some n, []⟩ := by rw [hpath]; rfl
    have hparts : path.parts = [log, name] := by rw [hpath]
    simp only [Disk.resolve, hstart, h.root, hparts, hfollow]
    by_cases hsize : path.byteSize d.workBytes < Path.byteLimit
    · rw [if_neg (Nat.not_le_of_lt hsize), if_pos hsize]
    · rw [if_pos (Nat.le_of_not_lt hsize), if_neg hsize]
  have hne : OsError.nameTooLong ≠ .noEntry := by decide
  by_cases hsize : path.byteSize d.workBytes < Path.byteLimit
  · simp [Disk.findEntry, Disk.read, hsound, hresolve, hsize]
  · simp [Disk.findEntry, Disk.read, hsound, hresolve, hsize, hne]

end Staging

end ChapelServer
