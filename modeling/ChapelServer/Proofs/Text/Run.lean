import ChapelServer.Text.Run

/-!
# Literals and runs

What a text starts with: a literal, or a run of characters of a class. A run is taken whole if the
text does not go on with a character of the class.
-/

namespace ChapelServer.Text

theorem isAlpha_iff_toNat {c : Char} :
    c.isAlpha = true ↔ (65 ≤ c.toNat ∧ c.toNat ≤ 90) ∨ (97 ≤ c.toNat ∧ c.toNat ≤ 122) := by
  change (decide ('A'.val ≤ c.val ∧ c.val ≤ 'Z'.val) ||
    (decide ('a'.val ≤ c.val) && decide (c.val ≤ 'z'.val))) = true ↔ _
  simp [UInt32.le_iff_toNat_le]

theorem after?_eq_some_iff {literal text rest : List Char} :
    after? literal text = some rest ↔ text = literal ++ rest := by
  constructor
  · intro h
    by_cases hstart : literal.isPrefixOf text = true
    · rw [after?, if_pos hstart, Option.some.injEq] at h
      obtain ⟨tail, rfl⟩ := List.isPrefixOf_iff_prefix.mp hstart
      rw [← h, List.drop_left]
    · rw [after?, if_neg hstart] at h
      cases h
  · rintro rfl
    have hstart : literal.isPrefixOf (literal ++ rest) = true :=
      List.isPrefixOf_iff_prefix.mpr (List.prefix_append literal rest)
    rw [after?, if_pos hstart, List.drop_left]

theorem after?_eq_none_of_ne {c d : Char} {literal text : List Char} (h : c ≠ d) :
    after? (c :: literal) (d :: text) = none := by
  simp [after?, h]

section Run

variable {p : Char → Bool} {run rest : List Char}

/-- The text does not go on with a character of the class. -/
def Stops (p : Char → Bool) (text : List Char) : Prop :=
  ∀ c, text.head? = some c → p c = false

theorem stops_cons {c : Char} : Stops p (c :: rest) ↔ p c = false := by
  simp [Stops]

/-- A run of characters of a class, with none of the class after it. -/
structure WholeRun (p : Char → Bool) (run after : List Char) : Prop where
  all : ∀ c ∈ run, p c = true
  stops : Stops p after

theorem wholeRun_takeWhile (p : Char → Bool) (text : List Char) :
    WholeRun p (text.takeWhile p) (text.dropWhile p) := by
  refine ⟨fun c hc => List.all_eq_true.mp List.all_takeWhile c hc, fun c hc => ?_⟩
  have hhead := List.head?_dropWhile_not p text
  rw [hc] at hhead
  exact hhead

theorem wholeRun_cons {c : Char} :
    WholeRun p (c :: run) rest ↔ p c = true ∧ WholeRun p run rest := by
  constructor
  · rintro ⟨hall, hstops⟩
    obtain ⟨hc, hrun⟩ := List.forall_mem_cons.mp hall
    exact ⟨hc, hrun, hstops⟩
  · rintro ⟨hc, hrun, hstops⟩
    exact ⟨List.forall_mem_cons.mpr ⟨hc, hrun⟩, hstops⟩

theorem WholeRun.cons {c : Char} (h : WholeRun p run rest) (hc : p c = true) :
    WholeRun p (c :: run) rest :=
  wholeRun_cons.mpr ⟨hc, h⟩

theorem WholeRun.takeWhile_eq (h : WholeRun p run rest) : (run ++ rest).takeWhile p = run := by
  rw [List.takeWhile_append_of_pos h.all]
  cases rest with
  | nil => simp
  | cons c rest => simp [stops_cons.mp h.stops]

theorem WholeRun.dropWhile_eq (h : WholeRun p run rest) : (run ++ rest).dropWhile p = rest := by
  rw [List.dropWhile_append_of_pos h.all]
  cases rest with
  | nil => simp
  | cons c rest => simp [stops_cons.mp h.stops]

theorem run?_of_ne {text : List Char} (h : text.takeWhile p ≠ []) :
    run? p text = some (text.takeWhile p, text.dropWhile p) := by
  unfold run?
  split
  · contradiction
  · rfl

/-- A run goes as far as its class does. -/
theorem run?_eq_some_iff {text : List Char} :
    run? p text = some (run, rest) ↔ run ≠ [] ∧ text = run ++ rest ∧ WholeRun p run rest := by
  constructor
  · intro h
    have hne : text.takeWhile p ≠ [] := by
      intro hnil
      simp [run?, hnil] at h
    rw [run?_of_ne hne] at h
    cases h
    exact ⟨hne, List.takeWhile_append_dropWhile.symm, wholeRun_takeWhile p text⟩
  · rintro ⟨hne, rfl, hrun⟩
    rw [run?_of_ne (by rwa [hrun.takeWhile_eq]), hrun.takeWhile_eq, hrun.dropWhile_eq]

end Run

end ChapelServer.Text
