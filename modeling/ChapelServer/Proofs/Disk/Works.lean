import ChapelServer.Proofs.Compilation.Confinement

/-!
# The work directories on a disk

Whatever is done in a work directory, by the server or by a compiler, brings nothing into another
one; and nothing is left of one that is removed.
-/

namespace ChapelServer

namespace Place

theorem work_of_parent {p : Place} {n : Nat} (h : p.parent.work = some n) : p.work = some n := by
  have hgo : (p.go (Text.ofString "..")).work = some n := h
  exact work_of_go hgo

end Place

namespace Disk

/-- The disk has places in no other work directories. -/
def HoldsOnly (S : Nat → Prop) (d : Disk) : Prop :=
  ∀ x ∈ d.entries, ∀ n, x.1.work = some n → S n

variable {S : Nat → Prop} {d d' : Disk}

theorem HoldsOnly.put (hd : d.HoldsOnly S) {p : Place} (hp : ∀ n, p.work = some n → S n)
    (e : Entry) : (d.put p e).HoldsOnly S := by
  intro x hx
  rcases List.mem_append.mp hx with hx | hx
  · exact hd x (List.mem_filter.mp hx).1
  · rw [List.mem_singleton.mp hx]
    exact hp

theorem HoldsOnly.erase (hd : d.HoldsOnly S) (p : Place) : (d.erase p).HoldsOnly S :=
  fun x hx => hd x (List.mem_filter.mp hx).1

theorem HoldsOnly.clear (hd : d.HoldsOnly S) (p : Place) : (d.clear p).HoldsOnly S :=
  fun x hx => hd x (List.mem_filter.mp hx).1

/-- Nothing is left of a work directory that is removed. -/
theorem HoldsOnly.removeWork (hd : d.HoldsOnly S) (n : Nat) :
    (d.removeWork n).HoldsOnly fun k => S k ∧ k ≠ n := by
  intro x hx k hk
  obtain ⟨hmem, hout⟩ := List.mem_filter.mp hx
  refine ⟨hd x hmem k hk, ?_⟩
  rintro rfl
  simp [Place.isWithin, Place.outside, hk] at hout

/-- The directories along a path from a work directory are in it, or outside. -/
theorem HoldsOnly.makePath {p q : Place} {names : List Text} (hd : d.HoldsOnly S)
    (hp : ∀ n, p.work = some n → S n) (h : d.makePath p names = some (d', q)) :
    d'.HoldsOnly S ∧ ∀ n, q.work = some n → S n := by
  fun_induction Disk.makePath d p names with
  | case1 d p =>
    cases h
    exact ⟨hd, hp⟩
  | case2 d p rest ih => exact ih hd (fun n hn => hp n (Place.work_of_parent hn)) h
  | case3 d p name rest hup hfree ih => exact ih (hd.put (p := p.child name) hp _) hp h
  | case4 d p name rest hup hthere ih => exact ih hd hp h
  | case5 => cases h

theorem HoldsOnly.place (hd : d.HoldsOnly S) {n : Nat} (hn : S n) (item : Placement) :
    (Disk.place n d item).HoldsOnly S := by
  have hwork : ∀ k, (⟨some n, []⟩ : Place).work = some k → S k := by
    rintro k ⟨rfl⟩
    exact hn
  unfold Disk.place
  simp only
  split
  · cases hpath : d.makePath ⟨some n, []⟩ (Path.partsOf (Text.ofString item.path)) with
    | none => exact hd
    | some r => exact (hd.makePath hwork hpath).1
  · split
    · rename_i d' q name hpath _
      obtain ⟨hd', hq⟩ := hd.makePath hwork hpath
      exact hd'.put (p := q.child name) hq _
    · exact hd

theorem HoldsOnly.foldl_place {n : Nat} (hn : S n) (items : List Placement)
    (hd : d.HoldsOnly S) : (items.foldl (Disk.place n) d).HoldsOnly S := by
  induction items generalizing d with
  | nil => exact hd
  | cons item items ih => exact ih (hd.place hn item)

theorem HoldsOnly.makeWork (hd : d.HoldsOnly S) {n : Nat} (hn : S n) (items : List Placement) :
    (d.makeWork n items).HoldsOnly S := by
  refine foldl_place hn items (hd.put ?_ _)
  rintro k ⟨rfl⟩
  exact hn

end Disk

namespace Staging

theorem work_of_join {n k : Nat} {text : Text}
    (h : ((Path.work n).join text).place.work = some k) : k = n := by
  have hstart := Place.work_of_foldl_go h
  unfold Path.join at hstart
  split at hstart
  · rename_i anchor hanchor
    cases anchor with
    | work m => exact absurd rfl (Path.rootOf?_ne_work hanchor m)
    | root | doubleRoot => cases hstart
  · exact (Option.some.inj hstart).symm

theorem removeLogDir_holdsOnly {S : Nat → Prop} {d : Disk} (s : Settings) (n : Nat)
    (hd : d.HoldsOnly S) : (removeLogDir s n d).1.HoldsOnly S := by
  have hfelled := removeLogDir_felled s n d
  generalize (removeLogDir s n d).1 = d' at hfelled
  cases hfelled with
  | kept => exact hd
  | cleared => exact hd.clear _
  | erased => exact (hd.clear _).erase _

/-- Staging brings nothing into other work directories. -/
theorem stage_holdsOnly {S : Nat → Prop} {n : Nat} {d : Disk} (s : Settings) (room : Nat)
    (text : Text) (hd : d.HoldsOnly S) (hn : S n) : (stage s room n text d).1.HoldsOnly S := by
  have hremoved := removeLogDir_holdsOnly s n hd
  rcases stage_disk s room n text d with hdisk | hdisk
  · rwa [hdisk]
  · rw [hdisk]
    refine hremoved.put (fun k hk => ?_) _
    rw [work_of_join hk]
    exact hn

end Staging

end ChapelServer
