import ChapelServer.Proofs.Disk.Frame

/-!
# A directory more

Nothing tells apart two disks that have the same at every place, however they came about. A work
directory that is found with an old log directory in it, and one that is found without, have the
same everywhere else; so once the log directory is removed, they have the same everywhere.
-/

namespace ChapelServer

/-- The names on the way to what is placed. -/
def Placement.names (item : Placement) : List Text :=
  Path.partsOf item.path

/-- What is placed lies in the directory of this name, or is that directory. -/
def Placement.isIn (name : Text) (item : Placement) : Bool :=
  item.names.head? == some name

namespace Disk

variable {d d' d₁ d₂ : Disk} {S : Place → Prop}

/-- Two disks have the same everywhere. -/
abbrev Same : Disk → Disk → Prop :=
  SameOn fun _ => True

/-! ## Placing files -/

/-- The places that names lead through, one after the other. -/
def passes (p : Place) (names : List Text) (q : Place) : Prop :=
  ∃ front, front <+: names ∧ front ≠ [] ∧ front.foldl Place.go p = q

theorem passes_head (p : Place) (name : Text) (rest : List Text) :
    passes p (name :: rest) (p.go name) :=
  ⟨[name], by simp, by simp, rfl⟩

theorem passes_tail {p : Place} {name : Text} {rest : List Text} {q : Place}
    (h : passes (p.go name) rest q) : passes p (name :: rest) q := by
  obtain ⟨front, hfront, -, rfl⟩ := h
  exact ⟨name :: front, List.cons_prefix_cons.mpr ⟨rfl, hfront⟩, by simp, rfl⟩

theorem makePath_place {p q : Place} {names : List Text}
    (h : d.makePath p names = some (d', q)) : q = names.foldl Place.go p := by
  fun_induction Disk.makePath d p names with
  | case1 d p =>
    cases h
    rfl
  | case2 d p rest ih => exact ih h
  | case3 d p name rest hup hfree ih => simpa [Place.go, hup] using ih h
  | case4 d p name rest hup hthere ih => simpa [Place.go, hup] using ih h
  | case5 => cases h

/-- Making a path changes nothing but at the places on it. -/
theorem makePath_sameOn {p q : Place} {names : List Text}
    (h : d.makePath p names = some (d', q)) (hS : ∀ x, passes p names x → ¬ S x) :
    SameOn S d d' := by
  fun_induction Disk.makePath d p names with
  | case1 d p =>
    cases h
    exact .refl
  | case2 d p rest ih => exact ih h fun x hx => hS x (passes_tail hx)
  | case3 d p name rest hup hfree ih =>
    have hgo : p.go name = p.child name := if_neg hup
    have hchild : ¬ S (p.child name) := hgo ▸ hS _ (passes_head p name rest)
    exact (put_sameOn hchild d _).trans
      (ih h fun x hx => hS x (passes_tail (hgo.symm ▸ hx)))
  | case4 d p name rest hup hthere ih =>
    have hgo : p.go name = p.child name := if_neg hup
    exact ih h fun x hx => hS x (passes_tail (hgo.symm ▸ hx))
  | case5 => cases h

/-- A directory is still there after a path is made. -/
theorem makePath_directory {p q x : Place} {names : List Text}
    (h : d.makePath p names = some (d', q)) (hx : d.get? x = some .directory) :
    d'.get? x = some .directory := by
  fun_induction Disk.makePath d p names with
  | case1 d p =>
    cases h
    exact hx
  | case2 d p rest ih => exact ih h hx
  | case3 d p name rest hup hfree ih =>
    refine ih h ?_
    by_cases hout : x = .outside
    · simp [get?, hout]
    · rw [get?_put d _ _ hout]
      split
      · rfl
      · exact hx
  | case4 d p name rest hup hthere ih => exact ih h hx
  | case5 => cases h

/-- Two disks with the same at the places on a path have the same there when it is made. -/
theorem SameOn.makePath (h : SameOn S d d') {p : Place} {names : List Text}
    (hS : ∀ x, passes p names x → S x) :
    Option.Rel (fun a b => SameOn S a.1 b.1 ∧ a.2 = b.2) (d.makePath p names)
      (d'.makePath p names) := by
  induction names generalizing d d' p with
  | nil => exact .some ⟨h, rfl⟩
  | cons name rest ih =>
    have hrest : ∀ x, passes (p.go name) rest x → S x := fun x hx => hS x (passes_tail hx)
    have hhead := hS _ (passes_head p name rest)
    unfold Disk.makePath
    by_cases hup : name = Text.ofString ".."
    · rw [Place.go, if_pos hup] at hrest
      rw [if_pos hup, if_pos hup]
      exact ih h hrest
    · rw [Place.go, if_neg hup] at hrest hhead
      rw [if_neg hup, if_neg hup, h.get? _ hhead]
      split
      · exact ih (h.put _ _) hrest
      · exact ih h hrest
      · exact .none

/-- The ways in which something can be placed: not at all, as a directory, or as a file in one. -/
inductive Placed (n : Nat) (d : Disk) (item : Placement) : Disk → Prop
  | nothing : Placed n d item d
  | directory {d₁ : Disk} {q : Place} (entry : item.entry = .directory)
    (made : d.makePath ⟨some n, []⟩ item.names = some (d₁, q)) : Placed n d item d₁
  | file {d₁ : Disk} {q : Place} {front : List Text} {name : Text} {bytes : List UInt8}
    (entry : item.entry = .file bytes) (names : item.names = front ++ [name])
    (made : d.makePath ⟨some n, []⟩ front = some (d₁, q)) :
    Placed n d item (d₁.put (q.child name) (.file bytes))

theorem placed (n : Nat) (d : Disk) (item : Placement) : Placed n d item (Disk.place n d item) := by
  unfold Disk.place
  simp only
  split
  · rename_i hentry
    cases hmade : d.makePath ⟨some n, []⟩ (Path.partsOf (Text.ofString item.path)) with
    | none => exact .nothing
    | some r => exact .directory hentry hmade
  · rename_i bytes hentry
    split
    · rename_i d₁ q name hmade hlast
      obtain ⟨front, hfront⟩ := List.getLast?_eq_some_iff.mp hlast
      exact .file hentry (by simp [Placement.names, hfront]) hmade
    · exact .nothing

/-- Names without a double dot lead down. -/
theorem foldl_go_of_down {names : List Text} (h : Text.ofString ".." ∉ names) (w : Option Nat)
    (before : List Text) : names.foldl Place.go ⟨w, before⟩ = ⟨w, before ++ names⟩ := by
  induction names generalizing before with
  | nil => simp
  | cons name rest ih =>
    have hname : name ≠ Text.ofString ".." := fun heq => h (heq ▸ List.mem_cons_self)
    have hrest : Text.ofString ".." ∉ rest := fun hmem => h (List.mem_cons_of_mem _ hmem)
    rw [List.foldl_cons, Place.go, if_neg hname, Place.child, ih hrest]
    simp

theorem passes_of_down {names : List Text} (h : Text.ofString ".." ∉ names) {n : Nat} {q : Place}
    (hq : passes ⟨some n, []⟩ names q) : ∃ front, front <+: names ∧ front ≠ [] ∧
      q = ⟨some n, front⟩ := by
  obtain ⟨front, hfront, hne, rfl⟩ := hq
  have hdown : Text.ofString ".." ∉ front := fun hmem => h (hfront.subset hmem)
  exact ⟨front, hfront, hne, foldl_go_of_down hdown _ _⟩

theorem passes_mono {p q : Place} {front names : List Text} (h : front <+: names)
    (hq : passes p front q) : passes p names q := by
  obtain ⟨first, hfirst, hne, rfl⟩ := hq
  exact ⟨first, hfirst.trans h, hne, rfl⟩

/-- The place of a file that is placed is on the way of its names. -/
theorem passes_file {item : Placement} (h : Text.ofString ".." ∉ item.names) {d d₁ : Disk}
    {n : Nat} {q : Place} {front : List Text} {name : Text} (names : item.names = front ++ [name])
    (made : d.makePath ⟨some n, []⟩ front = some (d₁, q)) :
    passes ⟨some n, []⟩ item.names (q.child name) := by
  have hname : name ≠ Text.ofString ".." := fun heq => h (by simp [names, heq])
  refine ⟨item.names, List.prefix_rfl, by simp [names], ?_⟩
  rw [names, List.foldl_append, ← makePath_place made, List.foldl_cons, List.foldl_nil, Place.go,
    if_neg hname]

/-- Placing something changes nothing but at the places on the way to it. -/
theorem place_sameOn {n : Nat} {item : Placement} (down : Text.ofString ".." ∉ item.names)
    (hS : ∀ x, passes ⟨some n, []⟩ item.names x → ¬ S x) (d : Disk) :
    SameOn S d (Disk.place n d item) := by
  have hplaced := placed n d item
  generalize Disk.place n d item = d' at hplaced
  cases hplaced with
  | nothing => exact .refl
  | directory entry made => exact makePath_sameOn made hS
  | file entry names made =>
    have hfront := makePath_sameOn made fun x hx =>
      hS x (passes_mono (by simp [names]) hx)
    exact hfront.trans (put_sameOn (hS _ (passes_file down names made)) _ _)

/-- Two disks with the same at the places on the way have the same there when something is
placed. -/
theorem SameOn.place (h : SameOn S d d') {n : Nat} {item : Placement}
    (hS : ∀ x, passes ⟨some n, []⟩ item.names x → S x) :
    SameOn S (Disk.place n d item) (Disk.place n d' item) := by
  unfold Disk.place
  simp only
  split
  · have hrel := h.makePath hS
    unfold Placement.names at hrel
    generalize d.makePath ⟨some n, []⟩ (Path.partsOf (Text.ofString item.path)) = r at hrel ⊢
    generalize d'.makePath ⟨some n, []⟩ (Path.partsOf (Text.ofString item.path)) = r' at hrel ⊢
    cases hrel with
    | none => exact h
    | some hr => exact hr.1
  · rename_i bytes hentry
    have hfront : ∀ x, passes ⟨some n, []⟩ item.names.dropLast x → S x :=
      fun x hx => hS x (passes_mono (List.dropLast_prefix _) hx)
    have hrel := h.makePath hfront
    unfold Placement.names at hrel
    generalize d.makePath ⟨some n, []⟩ (Path.partsOf (Text.ofString item.path)).dropLast = r
      at hrel ⊢
    generalize d'.makePath ⟨some n, []⟩ (Path.partsOf (Text.ofString item.path)).dropLast = r'
      at hrel ⊢
    cases hrel with
    | none => exact h
    | some hr =>
      rename_i a b
      obtain ⟨d₁, q⟩ := a
      obtain ⟨d₂, q'⟩ := b
      obtain ⟨hsame, rfl⟩ := hr
      cases (Path.partsOf (Text.ofString item.path)).getLast? with
      | none => exact h
      | some name => exact hsame.put _ _

/-! ## One directory in a work directory -/

section Overlay

variable {n : Nat} {log : Text}

/-- A place of a work directory lies in a directory there if its names start with that one. -/
theorem isWithin_work (n : Nat) (log : Text) (names : List Text) :
    (⟨some n, [log]⟩ : Place).isWithin ⟨some n, names⟩ = true ↔ names.head? = some log := by
  cases names with
  | nil => simp [Place.isWithin, Place.outside]
  | cons name rest =>
    have hcomm : log = name ↔ name = log := eq_comm
    simp [Place.isWithin, Place.outside, hcomm]

theorem head?_of_passes {item : Placement} (down : Text.ofString ".." ∉ item.names) {x : Place}
    (hx : passes ⟨some n, []⟩ item.names x) :
    ∃ names, x = ⟨some n, names⟩ ∧ names.head? = item.names.head? ∧ names ≠ [] := by
  obtain ⟨front, ⟨rest, hrest⟩, hne, rfl⟩ := passes_of_down down hx
  refine ⟨front, rfl, ?_, hne⟩
  cases front with
  | nil => exact absurd rfl hne
  | cons first front => simp [← hrest]

/-- A work directory with something in a directory of it, and one without that directory. -/
structure Overlaid (n : Nat) (log : Text) (d d' : Disk) : Prop where
  root : d.get? ⟨some n, []⟩ = some .directory
  elsewhere : SameOn (fun q => (⟨some n, [log]⟩ : Place).isWithin q = false) d d'
  absent : ∀ q, (⟨some n, [log]⟩ : Place).isWithin q = true → d'.get? q = none
  standing : d.get? ⟨some n, [log]⟩ = some .directory ∨ Same d d'

/-- The work directory itself stays when something is placed in it. -/
theorem place_root (root : d.get? ⟨some n, []⟩ = some .directory) (item : Placement) :
    (Disk.place n d item).get? ⟨some n, []⟩ = some .directory := by
  have hplaced := placed n d item
  generalize Disk.place n d item = d' at hplaced
  cases hplaced with
  | nothing => exact root
  | directory entry made => exact makePath_directory made root
  | @file d₁ q front name bytes entry names made =>
    have hne : (⟨some n, []⟩ : Place) ≠ q.child name := by simp [Place.child]
    rw [get?_put _ _ _ (Place.ne_outside_of_work rfl), if_neg hne]
    exact makePath_directory made root

theorem makeWork_root (d : Disk) (n : Nat) (items : List Placement) :
    (d.makeWork n items).get? ⟨some n, []⟩ = some .directory := by
  have hstart : (d.put ⟨some n, []⟩ .directory).get? ⟨some n, []⟩ = some .directory := by
    rw [get?_put d _ _ (Place.ne_outside_of_work rfl), if_pos rfl]
  unfold Disk.makeWork
  generalize d.put ⟨some n, []⟩ .directory = e at hstart ⊢
  induction items generalizing e with
  | nil => exact hstart
  | cons item items ih => exact ih _ (place_root hstart item)

theorem place_workBytes (n : Nat) (d : Disk) (item : Placement) :
    (Disk.place n d item).workBytes = d.workBytes := by
  have hmade {d₁ : Disk} {q : Place} {names : List Text}
      (made : d.makePath ⟨some n, []⟩ names = some (d₁, q)) : d₁.workBytes = d.workBytes :=
    (makePath_sameOn (S := fun _ => False) made fun _ _ => id).workBytes.symm
  have hplaced := placed n d item
  generalize Disk.place n d item = d' at hplaced
  cases hplaced with
  | nothing => rfl
  | directory entry made => exact hmade made
  | file entry names made => exact (hmade made : _ = d.workBytes)

/-- The path of a work directory is as long as before, whatever is found in it. -/
theorem makeWork_workBytes (d : Disk) (n : Nat) (items : List Placement) :
    (d.makeWork n items).workBytes = d.workBytes := by
  have hput : (d.put ⟨some n, []⟩ .directory).workBytes = d.workBytes := rfl
  unfold Disk.makeWork
  generalize d.put ⟨some n, []⟩ .directory = e at hput ⊢
  induction items generalizing e with
  | nil => exact hput
  | cons item items ih => exact ih _ ((place_workBytes n e item).trans hput)

/-- What is placed elsewhere is placed on both sides. -/
theorem Overlaid.place_out (h : Overlaid n log d d') {item : Placement}
    (down : Text.ofString ".." ∉ item.names) (out : item.isIn log = false) :
    Overlaid n log (Disk.place n d item) (Disk.place n d' item) := by
  have hpasses : ∀ x, passes ⟨some n, []⟩ item.names x →
      (⟨some n, [log]⟩ : Place).isWithin x = false := by
    intro x hx
    obtain ⟨names, rfl, hhead, -⟩ := head?_of_passes down hx
    refine eq_false_of_ne_true fun hin => ?_
    rw [isWithin_work, hhead] at hin
    simp [Placement.isIn, hin] at out
  have hkept (d : Disk) : SameOn (fun q => (⟨some n, [log]⟩ : Place).isWithin q = true) d
      (Disk.place n d item) :=
    place_sameOn down (fun x hx hin => by simp [hpasses x hx] at hin) d
  have hself : (⟨some n, [log]⟩ : Place).isWithin ⟨some n, [log]⟩ = true :=
    (isWithin_work n log [log]).mpr rfl
  exact {
    root := place_root h.root item
    elsewhere := h.elsewhere.place hpasses
    absent := fun q hq => ((hkept d').get? q hq).symm.trans (h.absent q hq)
    standing := h.standing.imp (fun hdir => ((hkept d).get? _ hself).symm.trans hdir)
      (fun hsame => hsame.place fun _ _ => trivial) }

theorem makePath_first {p q : Place} {name : Text} {rest : List Text}
    (hname : name ≠ Text.ofString "..") (h : d.makePath p (name :: rest) = some (d', q)) :
    d'.get? (p.child name) = some .directory := by
  rw [Disk.makePath, if_neg hname] at h
  split at h
  · exact makePath_directory h (get?_put_child d p name .directory)
  · rename_i hdir
    exact makePath_directory h hdir
  · cases h

/-- Something placed in a directory, other than a file in its place, leaves that directory
standing. -/
theorem Placed.standing {item : Placement} (h : Placed n d item d₁)
    (down : Text.ofString ".." ∉ item.names) (hin : item.isIn log = true)
    (notFile : item.names = [log] → item.entry = .directory) :
    d₁ = d ∨ d₁.get? ⟨some n, [log]⟩ = some .directory := by
  obtain ⟨rest, hnames⟩ : ∃ rest, item.names = log :: rest := by
    cases hn : item.names with
    | nil => simp [Placement.isIn, hn] at hin
    | cons name rest =>
      obtain rfl : name = log := by simpa [Placement.isIn, hn] using hin
      exact ⟨rest, rfl⟩
  have hlog : log ≠ Text.ofString ".." := fun heq => down (by simp [hnames, heq])
  cases h with
  | nothing => exact .inl rfl
  | directory entry made =>
    rw [hnames] at made
    exact .inr (makePath_first hlog made)
  | @file d₂ q front name bytes entry names made =>
    cases front with
    | nil =>
      rw [hnames] at names
      obtain ⟨rfl, rfl⟩ := List.cons.inj names
      cases entry.symm.trans (notFile hnames)
    | cons first front =>
      obtain rfl : first = log := by simpa [hnames, eq_comm] using congrArg List.head? names
      have hq : q = ⟨some n, first :: front⟩ := by
        have hdown : Text.ofString ".." ∉ first :: front := fun hmem => down (by simp_all)
        rw [makePath_place made, foldl_go_of_down hdown, List.nil_append]
      have hne : (⟨some n, [first]⟩ : Place) ≠ q.child name := by
        simp [hq, Place.child]
      right
      rw [get?_put _ _ _ (Place.ne_outside_of_work rfl), if_neg hne]
      exact makePath_first hlog made

/-- What is placed in the directory is seen in it only. -/
theorem Overlaid.place_in (h : Overlaid n log d d') {item : Placement}
    (down : Text.ofString ".." ∉ item.names) (hin : item.isIn log = true)
    (notFile : item.names = [log] → item.entry = .directory) :
    Overlaid n log (Disk.place n d item) d' := by
  have hkept : SameOn (fun q => (⟨some n, [log]⟩ : Place).isWithin q = false) d
      (Disk.place n d item) := by
    refine place_sameOn down (fun x hx hout => ?_) d
    obtain ⟨names, rfl, hhead, -⟩ := head?_of_passes down hx
    have hwithin := (isWithin_work n log names).mpr (by simpa [hhead, Placement.isIn] using hin)
    simp [hwithin] at hout
  refine ⟨place_root h.root item, hkept.symm.trans h.elsewhere, h.absent, ?_⟩
  rcases (placed n d item).standing down hin notFile with heq | hdir
  · rw [heq]
    exact h.standing
  · exact .inl hdir

/-- What is found in a new work directory lies below it, and is no file in the place of the log
directory. -/
def IsFoundBeside (log : Text) (items : List Placement) : Prop :=
  ∀ item ∈ items, Text.ofString ".." ∉ item.names ∧ (item.names = [log] → item.entry = .directory)

/-- A new work directory with what is found in it, and one with what is found elsewhere in it. -/
theorem makeWork_overlaid {items : List Placement} (found : IsFoundBeside log items)
    (h : Same d d') (fresh : ∀ names, d'.get? ⟨some n, names⟩ = none) :
    Overlaid n log (d.makeWork n items)
      (d'.makeWork n (items.filter fun item => !item.isIn log)) := by
  have hstart : Overlaid n log (d.put ⟨some n, []⟩ .directory)
      (d'.put ⟨some n, []⟩ .directory) := by
    have hsame : Same (d.put ⟨some n, []⟩ .directory) (d'.put ⟨some n, []⟩ .directory) := h.put _ _
    refine ⟨?_, ⟨hsame.workBytes, fun q _ => hsame.get? q trivial⟩, ?_, .inr hsame⟩
    · rw [get?_put d _ _ (Place.ne_outside_of_work rfl), if_pos rfl]
    · rintro ⟨work, names⟩ hq
      obtain ⟨rfl, -⟩ : some n = work ∧ [log] <+: names := by
        simpa [Place.isWithin, Place.outside] using hq
      have hne : (⟨some n, names⟩ : Place) ≠ ⟨some n, []⟩ := by
        rintro ⟨rfl⟩
        simp [isWithin_work] at hq
      rw [get?_put d' _ _ (Place.ne_outside_of_work rfl), if_neg hne, fresh]
  unfold Disk.makeWork
  generalize d.put ⟨some n, []⟩ .directory = e at hstart ⊢
  generalize d'.put ⟨some n, []⟩ .directory = e' at hstart ⊢
  induction items generalizing e e' with
  | nil => exact hstart
  | cons item items ih =>
    obtain ⟨down, notFile⟩ := found item List.mem_cons_self
    have hrest : IsFoundBeside log items := fun x hx => found x (List.mem_cons_of_mem _ hx)
    cases hin : item.isIn log with
    | true =>
      rw [List.filter_cons_of_neg (by simp [hin])]
      exact ih hrest _ _ (hstart.place_in down hin notFile)
    | false =>
      rw [List.filter_cons_of_pos (by simp [hin])]
      exact ih hrest _ _ (hstart.place_out down hin)

/-- Once the work directory is removed, nothing is left of the difference. -/
theorem Overlaid.removeWork (h : Overlaid n log d d') :
    Same (d.removeWork n) (d'.removeWork n) := by
  refine ⟨h.elsewhere.workBytes, fun q _ => ?_⟩
  by_cases hout : q = .outside
  · simp [get?, hout]
  · rw [Disk.removeWork, Disk.removeWork, get?_erase d _ hout, get?_erase d' _ hout]
    split
    · rfl
    · rename_i hq
      refine h.elsewhere.get? q (eq_false_of_ne_true fun hin => hq ?_)
      obtain ⟨hwork, -⟩ : some n = q.work ∧ [log] <+: q.names := by
        simpa [Place.isWithin, Place.outside] using hin
      simp [Place.isWithin, Place.outside, hwork]

end Overlay

/-! ## Disks with the same everywhere -/

theorem Same.follow (h : Same d d') (p : Place) (names : List Text) :
    d.follow p names = d'.follow p names := by
  induction names generalizing p with
  | nil => rfl
  | cons name rest ih =>
    unfold Disk.follow
    rw [h.get? _ trivial, ih, ih]

theorem Same.resolve (h : Same d d') (path : Path) : d.resolve path = d'.resolve path := by
  unfold Disk.resolve
  rw [h.workBytes, h.get? _ trivial, h.follow]

theorem Same.read (h : Same d d') (path : Path) : d.read path = d'.read path := by
  unfold Disk.read
  rw [h.resolve]

theorem Same.load (h : Same d d') (path : Path) : d.load path = d'.load path := by
  unfold Disk.load
  rw [h.read]

theorem Same.foldl_place (h : Same d d') (n : Nat) (items : List Placement) :
    Same (items.foldl (Disk.place n) d) (items.foldl (Disk.place n) d') := by
  induction items generalizing d d' with
  | nil => exact h
  | cons item items ih => exact ih (SameOn.place h fun _ _ => trivial)

theorem Same.removeWork (h : Same d d') (n : Nat) : Same (d.removeWork n) (d'.removeWork n) :=
  h.erase _

end Disk

end ChapelServer
