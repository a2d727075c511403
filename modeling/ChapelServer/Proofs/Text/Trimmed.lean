import ChapelServer.Text.CodePoint
import Mathlib.Data.List.DropRight

/-!
# Trimmed texts

What is left of a text without the blanks around it: nothing if it is all blank, and else a text
that begins and ends with something else.
-/

namespace ChapelServer.Text

section

variable {α : Type} {blank : α → Bool} {s : List α}

/-- A list that is not empty and has no blanks around it. -/
structure Trimmed (blank : α → Bool) (s : List α) : Prop where
  nonempty : s ≠ []
  start : ∀ c, s.head? = some c → blank c = false
  stop : ∀ c, s.getLast? = some c → blank c = false

theorem trimEndBy_eq (blank : α → Bool) (s : List α) : trimEndBy blank s = s.rdropWhile blank := rfl

/-- What trimming leaves is trimmed, if it leaves anything. -/
theorem trimBy_trimmed (h : trimBy blank s ≠ []) : Trimmed blank (trimBy blank s) where
  nonempty := h
  start c hc := by
    have hfirst := List.head?_dropWhile_not blank s
    obtain ⟨rest, hrest⟩ : trimBy blank s <+: trimStartBy blank s :=
      List.rdropWhile_prefix blank _
    have hhead : (s.dropWhile blank).head? = some c := by
      rw [← trimStartBy, ← hrest, List.head?_append, hc]
      rfl
    rwa [hhead] at hfirst
  stop c hc := by
    have hlast := List.rdropWhile_last_not blank (trimStartBy blank s) h
    rw [List.getLast?_eq_some_getLast h] at hc
    simpa [← Option.some.inj hc, trimBy, trimEndBy_eq] using hlast

/-- A list with nothing to trim is not trimmed further. -/
theorem trimBy_of_ends (hstart : ∀ c, s.head? = some c → blank c = false)
    (hstop : ∀ c, s.getLast? = some c → blank c = false) : trimBy blank s = s := by
  have hfirst : trimStartBy blank s = s := by
    cases s with
    | nil => rfl
    | cons c rest => exact List.dropWhile_cons_of_neg (by simp [hstart c rfl])
  rw [trimBy, hfirst, trimEndBy_eq, List.rdropWhile_eq_self_iff]
  intro hne
  rw [hstop _ (List.getLast?_eq_some_getLast hne)]
  exact Bool.false_ne_true

theorem Trimmed.trimBy_eq (h : Trimmed blank s) : trimBy blank s = s :=
  trimBy_of_ends h.start h.stop

theorem trimBy_eq_nil_iff : trimBy blank s = [] ↔ ∀ c ∈ s, blank c = true := by
  rw [trimBy, trimEndBy_eq, List.rdropWhile_eq_nil_iff]
  constructor
  · intro h c hc
    rw [← List.takeWhile_append_dropWhile (p := blank) (l := s), List.mem_append] at hc
    rcases hc with hc | hc
    · exact List.all_eq_true.mp List.all_takeWhile c hc
    · exact h c hc
  · intro h c hc
    exact h c ((List.dropWhile_suffix blank).mem hc)

end

theorem trim_eq_nil_iff {s : List Char} : trim s = [] ↔ ∀ c ∈ s, isBlank c = true :=
  trimBy_eq_nil_iff

end ChapelServer.Text
