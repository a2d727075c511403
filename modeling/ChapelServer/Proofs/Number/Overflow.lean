import ChapelServer.Number.Binary64
import Mathlib.Algebra.Group.Nat.Defs

/-!
# Integers beyond the doubles

An integer has no nearest double exactly from the midpoint on between the largest finite double
and the power of two after it. The midpoint itself goes to the even side, which is that power.
-/

namespace ChapelServer.Number

/-- A common factor does not change what a quotient is rounded to. -/
theorem roundHalfEven_mul_right (n d : Nat) {c : Nat} (hc : 0 < c) :
    roundHalfEven (n * c) (d * c) = roundHalfEven n d := by
  have hmod : n * c % (d * c) = n % d * c := Nat.mul_mod_mul_right c n d
  have hlt : 2 * (n % d * c) < d * c ↔ 2 * (n % d) < d := by
    rw [← Nat.mul_assoc]
    exact Nat.mul_lt_mul_right hc
  have heq : 2 * (n % d * c) = d * c ↔ 2 * (n % d) = d := by
    rw [← Nat.mul_assoc]
    exact Nat.mul_left_inj (Nat.ne_of_gt hc)
  simp only [roundHalfEven, Nat.mul_div_mul_right n d hc, hmod, hlt, heq]

/-- Rounding goes up to an even number exactly from the midpoint below it on. -/
theorem roundHalfEven_eq_even {n half k : Nat} (hk : 0 < k) (heven : k % 2 = 0) (hhalf : 0 < half)
    (hn : n < k * (2 * half)) :
    roundHalfEven n (2 * half) = k ↔ k * (2 * half) - half ≤ n := by
  obtain ⟨j, rfl⟩ : ∃ j, k = j + 1 := ⟨k - 1, by omega⟩
  have hsplit := Nat.div_add_mod n (2 * half)
  have hmod := Nat.mod_lt n (y := 2 * half) (by omega)
  have hmul : (j + 1) * (2 * half) = j * (2 * half) + 2 * half := Nat.succ_mul _ _
  have hdiv : n / (2 * half) < j + 1 := (Nat.div_lt_iff_lt_mul (by omega)).mpr hn
  rw [Nat.mul_comm] at hsplit
  by_cases hj : n / (2 * half) = j
  · -- In the last stretch, the rest decides.
    rw [hj] at hsplit
    unfold roundHalfEven
    simp only [hj]
    split
    · omega
    · split <;> omega
  · -- Below it, rounding does not reach so far.
    have hlow : n / (2 * half) + 1 ≤ j := by omega
    have hle : (n / (2 * half) + 1) * (2 * half) ≤ j * (2 * half) := Nat.mul_le_mul_right _ hlow
    rw [Nat.succ_mul] at hle
    unfold roundHalfEven
    dsimp only
    split
    · omega
    · split <;> omega

namespace Binary64

theorem bounded?_ofParts_eq_none {negative : Bool} {mantissa scale : Nat} :
    (ofParts negative mantissa scale).bounded? = none ↔ maxScale < scale := by
  unfold ofParts
  split
  · simp_all [bounded?]
  · simp_all [bounded?]

theorem two_pow_split {a b c : Nat} (h : a = b + c) : 2 ^ a = 2 ^ b * 2 ^ c := by
  rw [h, Nat.pow_add]

/-- The scale of a whole number reaches a value exactly from a power of two on. -/
theorem le_scale_iff {m : Nat} (hm : m ≠ 0) {u k e : Nat} (hk : 52 + k = e + u) (hpos : 0 < k) :
    k ≤ Nat.log2 (m * 2 ^ u) + 1 - 53 ↔ 2 ^ e ≤ m := by
  have hpow : 0 < 2 ^ u := Nat.two_pow_pos u
  have hne : m * 2 ^ u ≠ 0 := Nat.mul_ne_zero hm (Nat.ne_of_gt hpow)
  have hlog : k ≤ Nat.log2 (m * 2 ^ u) + 1 - 53 ↔ 52 + k ≤ Nat.log2 (m * 2 ^ u) := by omega
  rw [hlog, Nat.le_log2 hne, hk, Nat.pow_add]
  exact Nat.mul_le_mul_right_iff hpow

/-- The double of a whole number, by its scale and mantissa. -/
theorem bounded?_ofRatio_eq_none (negative : Bool) (m : Nat) :
    (ofRatio negative ⟨m, 1⟩).bounded? = none ↔
      maxScale < Nat.log2 (m * 2 ^ unitExponent) + 1 - 53 ∨
        (maxScale = Nat.log2 (m * 2 ^ unitExponent) + 1 - 53 ∧
          roundHalfEven (m * 2 ^ unitExponent)
            (2 ^ (Nat.log2 (m * 2 ^ unitExponent) + 1 - 53)) = 2 ^ 53) := by
  simp only [ofRatio, Nat.pow_eq, Nat.div_one, Nat.one_mul]
  generalize Nat.log2 (m * 2 ^ unitExponent) + 1 - 53 = scale
  generalize roundHalfEven (m * 2 ^ unitExponent) (2 ^ scale) = mantissa
  split
  · rename_i hm
    rw [bounded?_ofParts_eq_none]
    simp only [hm, and_true]
    omega
  · rename_i hm
    rw [bounded?_ofParts_eq_none]
    simp [hm]

/-- The midpoint between the largest finite double, `2 ^ 1024 - 2 ^ 971`, and `2 ^ 1024`. -/
def overflowBound : Nat := 2 ^ 1024 - 2 ^ 970

/-- An integer has no nearest double exactly from the midpoint on. -/
theorem ofInt?_eq_none_iff (n : Int) : ofInt? n = none ↔ overflowBound ≤ n.natAbs := by
  have htwo (e : Nat) : 0 < 2 ^ e := Nat.two_pow_pos e
  have hpos : 0 < 2 ^ 970 := htwo 970
  have h1023 : 2 ^ 1023 = 2 ^ 53 * 2 ^ 970 := by
    rw [two_pow_split (a := 1023) (b := 53) (c := 970) rfl]
  have h971 : 2 ^ 971 = 2 * 2 ^ 970 := by
    rw [two_pow_split (a := 971) (b := 1) (c := 970) rfl, Nat.pow_one]
  have h1024 : 2 ^ 1024 = 2 ^ 53 * (2 * 2 ^ 970) := by
    rw [two_pow_split (a := 1024) (b := 53) (c := 971) rfl, h971]
  have htop : 2 ^ maxScale = 2 * 2 ^ 970 * 2 ^ unitExponent := by
    rw [two_pow_split (a := maxScale) (b := 971) (c := unitExponent) rfl, h971]
  rw [ofInt?, bounded?_ofRatio_eq_none, overflowBound, h1024]
  generalize n.natAbs = m
  by_cases hm : m = 0
  · subst hm
    generalize 2 ^ 970 = p at hpos ⊢
    simp only [Nat.zero_mul, Nat.log2_zero, maxScale]
    omega
  · have hover := le_scale_iff hm (u := unitExponent) (k := maxScale + 1) (e := 1024) rfl
      (by decide)
    have hlast := le_scale_iff hm (u := unitExponent) (k := maxScale) (e := 1023) rfl (by decide)
    rw [h1024] at hover
    rw [h1023] at hlast
    generalize Nat.log2 (m * 2 ^ unitExponent) + 1 - 53 = scale at hover hlast ⊢
    generalize 2 ^ 970 = p at hpos htop hover hlast ⊢
    rcases Nat.lt_trichotomy scale maxScale with hlt | heq | hgt
    · have hsmall : m < 2 ^ 53 * p := by
        rw [← Nat.not_le, ← hlast]
        omega
      omega
    · -- At the largest scale, the number overflows if it is rounded up to the next power of two.
      have hround : roundHalfEven (m * 2 ^ unitExponent) (2 ^ scale) =
          roundHalfEven m (2 * p) := by
        rw [heq, htop, roundHalfEven_mul_right _ _ (Nat.two_pow_pos _)]
      have hbelow : m < 2 ^ 53 * (2 * p) := by
        rw [← Nat.not_le, ← hover]
        omega
      rw [hround, roundHalfEven_eq_even (by decide) (by decide) hpos hbelow]
      omega
    · have hlarge : 2 ^ 53 * (2 * p) ≤ m := hover.mp hgt
      omega

end Binary64

end ChapelServer.Number
