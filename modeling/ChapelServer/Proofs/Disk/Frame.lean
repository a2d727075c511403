import ChapelServer.Disk.Tree

/-!
# What an operation on the disk touches

The place that a path leads to can be told from its names alone. Where that place lies in a work
directory, the path is followed through places of that directory only, so an operation on the path
neither changes anything outside it nor sees what is there.
-/

namespace ChapelServer

/-! ## Places -/

namespace Place

/-- The place that a name leads to from a directory, a double dot going up. -/
def go (p : Place) (name : Text) : Place :=
  if name = Text.ofString ".." then p.parent else p.child name

theorem work_of_go {p : Place} {name : Text} {n : Nat} (h : (p.go name).work = some n) :
    p.work = some n := by
  unfold go parent at h
  split at h
  · split at h
    · cases h
    · exact h
  · exact h

/-- What lies outside the work directories does not come back into one. -/
theorem work_of_foldl_go {names : List Text} {p : Place} {n : Nat}
    (h : (names.foldl go p).work = some n) : p.work = some n := by
  induction names generalizing p with
  | nil => exact h
  | cons name rest ih => exact work_of_go (ih h)

theorem ne_outside_of_work {p : Place} {n : Nat} (h : p.work = some n) : p ≠ outside := by
  rintro rfl
  cases h

theorem child_ne_outside (p : Place) (name : Text) : p.child name ≠ outside := by
  simp [child, outside]

/-- A place in a work directory has nothing of another one, or of the outside, in it. -/
theorem isWithin_eq_false {p q : Place} {n : Nat} (hp : p.work = some n) (hq : q.work ≠ some n) :
    p.isWithin q = false := by
  have hne : p.work ≠ q.work := fun h => hq (h ▸ hp)
  simp [isWithin, ne_outside_of_work hp, hne]

end Place

/-- The place that a path leads to by its names, whatever is there. -/
def Path.place (p : Path) : Place :=
  p.parts.foldl Place.go (Disk.start p)

/-- The place at the end of a path. -/
def Disk.Target.place : Disk.Target → Place
  | .found p _ => p
  | .free p => p

namespace Disk

/-! ## Entries after a change -/

theorem lookup_filter_place (keep : Place → Bool) (entries : List (Place × Entry)) (q : Place) :
    (entries.filter fun e => keep e.1).lookup q =
      if keep q then entries.lookup q else none := by
  induction entries with
  | nil => simp
  | cons e rest ih =>
    obtain ⟨p, entry⟩ := e
    by_cases hq : q = p
    · subst hq
      cases hk : keep q <;> simp [hk, ih]
    · have hbeq : (q == p) = false := by simpa using hq
      cases hk : keep p <;> simp [hk, ih, List.lookup_cons, hbeq]

/-- What is left of a disk is found as before. -/
theorem get?_filter (d : Disk) (keep : Place → Bool) {q : Place} (hq : q ≠ .outside) :
    { d with entries := d.entries.filter fun e => keep e.1 }.get? q =
      if keep q then d.get? q else none := by
  simp only [get?, if_neg hq]
  exact lookup_filter_place keep d.entries q

theorem get?_put (d : Disk) (p : Place) (e : Entry) {q : Place} (hq : q ≠ .outside) :
    (d.put p e).get? q = if q = p then some e else d.get? q := by
  have hkeep := lookup_filter_place (fun x => x ≠ p) d.entries q
  simp only [get?, put, if_neg hq, List.lookup_append, hkeep]
  by_cases h : q = p
  · simp [h]
  · have hbeq : (q == p) = false := by simpa using h
    simp [h, List.lookup_cons, hbeq]

theorem get?_erase (d : Disk) (p : Place) {q : Place} (hq : q ≠ .outside) :
    (d.erase p).get? q = if p.isWithin q then none else d.get? q := by
  rw [erase, get?_filter d (fun x => !p.isWithin x) hq]
  cases p.isWithin q <;> rfl

theorem get?_clear (d : Disk) (p : Place) {q : Place} (hq : q ≠ .outside) :
    (d.clear p).get? q = if q = p || !p.isWithin q then d.get? q else none :=
  get?_filter d (fun x => x = p || !p.isWithin x) hq

/-! ## Where paths lead -/

theorem follow_place {d : Disk} {p : Place} {names : List Text} {target : Target}
    (h : d.follow p names = .ok target) : target.place = names.foldl Place.go p := by
  fun_induction follow d p names with
  | case1 p =>
    cases h
    rfl
  | case2 p rest ih => exact ih h
  | case3 => cases h
  | case4 p name hup _ _ =>
    cases h
    simp [Target.place, Place.go, hup]
  | case5 => cases h
  | case6 p name rest hup _ _ ih => simpa [Place.go, hup] using ih h
  | case7 p name hup _ bytes _ =>
    cases h
    simp [Target.place, Place.go, hup]
  | case8 => cases h

/-- The last name is followed from where those before it lead. -/
theorem follow_concat {d : Disk} {p : Place} {names : List Text} {name : Text} {target : Target}
    (h : d.follow p (names ++ [name]) = .ok target) :
    d.follow (names.foldl Place.go p) [name] = .ok target := by
  induction names generalizing p with
  | nil => exact h
  | cons first rest ih =>
    rw [List.cons_append, follow] at h
    rw [List.foldl_cons]
    by_cases hup : first = Text.ofString ".."
    · rw [if_pos hup] at h
      rw [Place.go, if_pos hup]
      exact ih h
    · rw [if_neg hup] at h
      rw [Place.go, if_neg hup]
      split at h
      · cases h
      · split at h
        · simp at h
        · exact ih h
        · simp at h

/-- A path that can be followed to its end leads to its place. -/
theorem resolve_place {d : Disk} {p : Path} {target : Target} (h : d.resolve p = .ok target) :
    target.place = p.place := by
  unfold resolve at h
  split at h
  · cases h
  · split at h
    · split at h
      · rename_i hparts
        cases h
        simp [Path.place, Target.place, hparts]
      · cases h
    · exact follow_place h

/-- A file that is written is at the place of its path. -/
theorem write_ok {d d' : Disk} {p : Path} {bytes : List UInt8} (h : d.write p bytes = .ok d') :
    d' = d.put p.place (.file bytes) := by
  unfold write at h
  split at h
  · cases h
  · split at h
    · rename_i hr
      cases h
      rw [← resolve_place hr]
      rfl
    · rename_i hr
      cases h
      rw [← resolve_place hr]
      rfl
    · cases h
    · cases h

theorem removeDirectory_ok {d d' : Disk} {p : Path} (h : d.removeDirectory p = .ok d') :
    d' = d.erase p.place := by
  unfold removeDirectory at h
  split at h
  · rename_i hr
    split at h
    · cases h
    · split at h
      · cases h
      · cases h
        rw [← resolve_place hr]
        rfl
  · cases h
  · cases h
  · cases h

/-- What can be left of a disk when a tree is removed: all of it, the tree's directory without its
contents, or nothing of the tree. -/
inductive Felled (d : Disk) (p : Place) : Disk → Prop
  | kept : Felled d p d
  | cleared : Felled d p (d.clear p)
  | erased : Felled d p ((d.clear p).erase p)

/-- A tree that is removed was at the place of its path. -/
theorem removeTree_felled (d : Disk) (p : Path) : Felled d p.place (d.removeTree p).1 := by
  unfold removeTree
  split
  · rename_i place hr
    obtain rfl : place = p.place := resolve_place hr
    split
    · rename_i hd
      rw [removeDirectory_ok hd]
      exact .erased
    · exact .cleared
  · exact .kept
  · exact .kept
  · exact .kept

/-! ## Reading what was written -/

/-- The end of a path is a file, or is free for one. -/
def Target.TakesFile : Target → Prop
  | .found _ .directory => False
  | _ => True

/-- A place that takes a file is no directory. -/
theorem follow_takesFile {d : Disk} {p : Place} {names : List Text} {target : Target}
    (h : d.follow p names = .ok target) (ht : target.TakesFile) :
    d.get? target.place ≠ some .directory := by
  fun_induction follow d p names with
  | case1 p =>
    cases h
    cases ht
  | case2 p rest ih => exact ih h
  | case3 => cases h
  | case4 p name hup hlong hnone =>
    cases h
    simp [Target.place, hnone]
  | case5 => cases h
  | case6 p name rest hup hlong hdir ih => exact ih h
  | case7 p name hup hlong bytes hfile =>
    cases h
    simp [Target.place, hfile]
  | case8 => cases h

theorem get?_put_child (d : Disk) (p : Place) (name : Text) (e : Entry) :
    (d.put (p.child name) e).get? (p.child name) = some e := by
  rw [get?_put d _ e (p.child_ne_outside name), if_pos rfl]

/-- A file put at the end of a path is found there: the directories on the way are others. -/
theorem follow_put {d : Disk} {p : Place} {names : List Text} {target : Target}
    (h : d.follow p names = .ok target) (ht : target.TakesFile) (bytes : List UInt8) :
    (d.put target.place (.file bytes)).follow p names =
      .ok (.found target.place (.file bytes)) := by
  have hplace := follow_takesFile h ht
  fun_induction follow d p names with
  | case1 p =>
    cases h
    cases ht
  | case2 p rest ih =>
    rw [follow, if_pos rfl]
    exact ih h
  | case3 => cases h
  | case4 p name hup hlong hnone =>
    cases h
    simp [follow, hup, hlong, Target.place, get?_put_child]
  | case5 => cases h
  | case6 p name rest hup hlong hdir ih =>
    have hne : p.child name ≠ target.place := by
      intro heq
      exact hplace (heq ▸ hdir)
    rw [follow, if_neg hup, if_neg hlong, get?_put _ _ _ (p.child_ne_outside name), if_neg hne,
      hdir]
    exact ih h
  | case7 p name hup hlong old hfile =>
    cases h
    simp [follow, hup, hlong, Target.place, get?_put_child]
  | case8 => cases h

/-- Where a path could be followed to a place for a file, a file put there is found by it. -/
theorem resolve_put {d : Disk} {p : Path} {target : Target} (hp : p.parts ≠ [])
    (h : d.resolve p = .ok target) (ht : target.TakesFile) (bytes : List UInt8) :
    (d.put target.place (.file bytes)).resolve p = .ok (.found target.place (.file bytes)) := by
  unfold resolve at h ⊢
  split at h
  · cases h
  · rename_i hsize
    have hput : (d.put target.place (.file bytes)).workBytes = d.workBytes := rfl
    rw [hput, if_neg hsize]
    split at h
    · cases h
    · rename_i entry hstart
      have hsome : ∃ e, (d.put target.place (.file bytes)).get? (start p) = some e := by
        by_cases hout : start p = .outside
        · exact ⟨.directory, by simp [get?, hout]⟩
        · rw [get?_put d _ _ hout, hstart]
          split <;> exact ⟨_, rfl⟩
      obtain ⟨e, he⟩ := hsome
      rw [he]
      exact follow_put h ht bytes

/-- What was written at a path is read there. -/
theorem read_write {d d' : Disk} {p : Path} {bytes : List UInt8} (hp : p.parts ≠ [])
    (h : d.write p bytes = .ok d') : d'.read p = .ok bytes := by
  unfold write at h
  split at h
  · cases h
  · rename_i hflaw
    have hread {target : Target} (hr : d.resolve p = .ok target) (ht : target.TakesFile)
        (hd : d' = d.put target.place (.file bytes)) : d'.read p = .ok bytes := by
      simp only [read, hflaw, hd, resolve_put hp hr ht bytes]
    split at h
    · rename_i hr
      cases h
      exact hread hr trivial rfl
    · rename_i hr
      cases h
      exact hread hr trivial rfl
    · cases h
    · cases h

/-! ## Changes in one work directory -/

/-- Nothing has changed but in a work directory. -/
def Keeps (n : Nat) (d d' : Disk) : Prop :=
  ∀ q : Place, q.work ≠ some n → d'.get? q = d.get? q

theorem Keeps.refl {n : Nat} {d : Disk} : Keeps n d d :=
  fun _ _ => rfl

theorem Keeps.trans {n : Nat} {d d' d'' : Disk} (h : Keeps n d d') (h' : Keeps n d' d'') :
    Keeps n d d'' :=
  fun q hq => (h' q hq).trans (h q hq)

variable {n : Nat} {p : Place}

theorem put_keeps (d : Disk) (e : Entry) (hp : p.work = some n) : Keeps n d (d.put p e) := by
  intro q hq
  by_cases hout : q = .outside
  · simp [get?, hout]
  · have hne : q ≠ p := fun h => hq (h ▸ hp)
    rw [get?_put d p e hout, if_neg hne]

theorem erase_keeps (d : Disk) (hp : p.work = some n) : Keeps n d (d.erase p) := by
  intro q hq
  by_cases hout : q = .outside
  · simp [get?, hout]
  · simp [get?_erase d p hout, Place.isWithin_eq_false hp hq]

theorem clear_keeps (d : Disk) (hp : p.work = some n) : Keeps n d (d.clear p) := by
  intro q hq
  by_cases hout : q = .outside
  · simp [get?, hout]
  · simp [get?_clear d p hout, Place.isWithin_eq_false hp hq]

theorem Felled.keeps {d d' : Disk} (h : Felled d p d') (hp : p.work = some n) : Keeps n d d' := by
  cases h with
  | kept => exact .refl
  | cleared => exact clear_keeps d hp
  | erased => exact (clear_keeps d hp).trans (erase_keeps _ hp)

/-! ## Disks with the same at some places -/

/-- Two disks have the same at these places. -/
structure SameOn (S : Place → Prop) (d₁ d₂ : Disk) : Prop where
  workBytes : d₁.workBytes = d₂.workBytes
  get? : ∀ q : Place, S q → d₁.get? q = d₂.get? q

section SameOn

variable {S : Place → Prop} {d₁ d₂ d₃ : Disk}

theorem SameOn.refl : SameOn S d d :=
  ⟨rfl, fun _ _ => rfl⟩

theorem SameOn.symm (h : SameOn S d₁ d₂) : SameOn S d₂ d₁ :=
  ⟨h.workBytes.symm, fun q hq => (h.get? q hq).symm⟩

theorem SameOn.trans (h : SameOn S d₁ d₂) (h' : SameOn S d₂ d₃) : SameOn S d₁ d₃ :=
  ⟨h.workBytes.trans h'.workBytes, fun q hq => (h.get? q hq).trans (h'.get? q hq)⟩

theorem SameOn.put (h : SameOn S d₁ d₂) (p : Place) (e : Entry) :
    SameOn S (d₁.put p e) (d₂.put p e) := by
  refine ⟨h.workBytes, fun q hq => ?_⟩
  by_cases hout : q = .outside
  · simp [Disk.get?, hout]
  · rw [get?_put d₁ p e hout, get?_put d₂ p e hout, h.get? q hq]

theorem SameOn.erase (h : SameOn S d₁ d₂) (p : Place) : SameOn S (d₁.erase p) (d₂.erase p) := by
  refine ⟨h.workBytes, fun q hq => ?_⟩
  by_cases hout : q = .outside
  · simp [Disk.get?, hout]
  · rw [get?_erase d₁ p hout, get?_erase d₂ p hout, h.get? q hq]

theorem SameOn.clear (h : SameOn S d₁ d₂) (p : Place) : SameOn S (d₁.clear p) (d₂.clear p) := by
  refine ⟨h.workBytes, fun q hq => ?_⟩
  by_cases hout : q = .outside
  · simp [Disk.get?, hout]
  · rw [get?_clear d₁ p hout, get?_clear d₂ p hout, h.get? q hq]

/-- An entry elsewhere is not seen. -/
theorem put_sameOn (h : ¬ S p) (d : Disk) (e : Entry) : SameOn S d (d.put p e) := by
  refine ⟨rfl, fun q hq => ?_⟩
  by_cases hout : q = .outside
  · simp [Disk.get?, hout]
  · have hne : q ≠ p := fun heq => h (heq ▸ hq)
    rw [get?_put d p e hout, if_neg hne]

end SameOn

/-! ## Disks that agree on a work directory -/

/-- Two disks have the same in a work directory. -/
abbrev Agree (n : Nat) : Disk → Disk → Prop :=
  SameOn fun q => q.work = some n

variable {d₁ d₂ : Disk}

/-- A walk that ends in a work directory has looked at nothing else. -/
theorem Agree.follow (h : Agree n d₁ d₂) {names : List Text}
    (hp : (names.foldl Place.go p).work = some n) : d₁.follow p names = d₂.follow p names := by
  -- The end of the walk lies in the directory, and so does every place before it.
  induction names generalizing p with
  | nil => rfl
  | cons name rest ih =>
    have hrest := ih hp
    have hgo : (p.go name).work = some n := Place.work_of_foldl_go hp
    unfold Disk.follow
    by_cases hup : name = Text.ofString ".."
    · simp only [Place.go, if_pos hup] at hrest
      rw [if_pos hup, if_pos hup, hrest]
    · simp only [Place.go, if_neg hup] at hrest hgo
      rw [if_neg hup, if_neg hup, h.get? _ hgo, hrest]

variable {path : Path}

theorem Agree.resolve (h : Agree n d₁ d₂) (hp : path.place.work = some n) :
    d₁.resolve path = d₂.resolve path := by
  unfold Disk.resolve
  rw [h.workBytes, h.get? (start path) (Place.work_of_foldl_go hp), h.follow hp]

theorem Agree.exists? (h : Agree n d₁ d₂) (hp : path.place.work = some n) :
    d₁.exists? path = d₂.exists? path := by
  unfold Disk.exists?
  rw [h.resolve hp]

theorem Agree.read (h : Agree n d₁ d₂) (hp : path.place.work = some n) :
    d₁.read path = d₂.read path := by
  unfold Disk.read
  rw [h.resolve hp]

theorem Agree.load (h : Agree n d₁ d₂) (hp : path.place.work = some n) :
    d₁.load path = d₂.load path := by
  unfold Disk.load
  rw [h.read hp]

end Disk

/-! ## Results that agree -/

/-- Two results are the same failure, or both succeed with related values. -/
inductive Alike {ε α : Type} (R : α → α → Prop) : Except ε α → Except ε α → Prop
  | ok {a b : α} (h : R a b) : Alike R (.ok a) (.ok b)
  | error (e : ε) : Alike R (.error e) (.error e)

/-- Two results that come with a disk are the same, and the disks are related. -/
structure Paired {α : Type} (R : Disk → Disk → Prop) (x y : Disk × α) : Prop where
  disk : R x.1 y.1
  result : x.2 = y.2

namespace Disk

variable {S : Place → Prop} {n : Nat} {d₁ d₂ : Disk} {path : Path}

theorem SameOn.write (h : SameOn S d₁ d₂) (hr : d₁.resolve path = d₂.resolve path)
    (bytes : List UInt8) : Alike (SameOn S) (d₁.write path bytes) (d₂.write path bytes) := by
  unfold Disk.write
  rw [hr]
  split
  · exact .error _
  · split
    · exact .ok (h.put _ _)
    · exact .ok (h.put _ _)
    · exact .error _
    · exact .error _

theorem SameOn.removeDirectory (h : SameOn S d₁ d₂) (hr : d₁.resolve path = d₂.resolve path) :
    Alike (SameOn S) (d₁.removeDirectory path) (d₂.removeDirectory path) := by
  unfold Disk.removeDirectory
  rw [hr]
  split
  · split
    · exact .error _
    · split
      · exact .error _
      · exact .ok (h.erase _)
  · exact .error _
  · exact .error _
  · exact .error _

theorem Agree.removeTree (h : Agree n d₁ d₂) (hp : path.place.work = some n) :
    Paired (Agree n) (d₁.removeTree path) (d₂.removeTree path) := by
  unfold Disk.removeTree
  rw [h.resolve hp]
  split
  · rename_i place _
    have hcleared : Agree n (d₁.clear place) (d₂.clear place) := h.clear place
    have hlast := hcleared.removeDirectory (hcleared.resolve hp)
    generalize (d₁.clear place).removeDirectory path = r₁ at hlast ⊢
    generalize (d₂.clear place).removeDirectory path = r₂ at hlast ⊢
    cases hlast with
    | ok hr => exact ⟨hr, rfl⟩
    | error e => exact ⟨hcleared, rfl⟩
  · exact ⟨h, rfl⟩
  · exact ⟨h, rfl⟩
  · exact ⟨h, rfl⟩

end Disk

end ChapelServer
