import ChapelServer.Number.Binary64
import ChapelServer.Proofs.Text.Run
import Mathlib.Algebra.Order.Field.Basic
import Mathlib.Algebra.Order.Monoid.Unbundled.WithTop
import Mathlib.Algebra.Order.Ring.Rat
import Mathlib.Algebra.Field.Rat

/-!
# Doubles above zero

A double has a value among the rationals with two infinities, unless it is not a number. A double
that is not found to be zero or below has a value above zero, or it is not a number; and a text is
read as not a number only if it spells that out, since rounding a numeral always gives a number.
-/

namespace ChapelServer.Number

namespace Binary64

/-- The size of a finite double. -/
def size (mantissa scale : Nat) : ℚ :=
  (magnitude mantissa scale).num / (magnitude mantissa scale).den

/-- The value of a double. What is not a number has none. -/
def value? : Binary64 → Option (WithBot (WithTop ℚ))
  | .nan => none
  | .infinite true => some ⊥
  | .infinite false => some ((⊤ : WithTop ℚ) : WithBot (WithTop ℚ))
  | .finite negative mantissa scale =>
    let value := if negative then -size mantissa scale else size mantissa scale
    some ((value : WithTop ℚ) : WithBot (WithTop ℚ))

/-- The double has a value, and that is above zero. -/
def IsAboveZero (x : Binary64) : Prop :=
  ∃ v, x.value? = some v ∧ 0 < v

theorem size_nonneg (mantissa scale : Nat) : 0 ≤ size mantissa scale :=
  div_nonneg (Nat.cast_nonneg _) (Nat.cast_nonneg _)

theorem size_pos_iff (mantissa scale : Nat) : 0 < size mantissa scale ↔ mantissa ≠ 0 := by
  have hpow (e : Nat) : (0 : ℚ) < (Nat.pow 2 e : Nat) := Nat.cast_pos.mpr (Nat.two_pow_pos e)
  unfold size magnitude
  rw [div_pos_iff_of_pos_right (hpow unitExponent), Nat.cast_pos, Nat.pow_eq,
    Nat.mul_pos_iff_of_pos_right (Nat.two_pow_pos scale), Nat.pos_iff_ne_zero]

theorem not_isAboveZero_nan : ¬ nan.IsAboveZero := by
  intro ⟨v, hv, _⟩
  cases hv

theorem isAboveZero_infinite {negative : Bool} :
    (infinite negative).IsAboveZero ↔ negative = false := by
  cases negative with
  | true => simp [IsAboveZero, value?]
  | false =>
    have htop : (0 : WithBot (WithTop ℚ)) < ((⊤ : WithTop ℚ) : WithBot (WithTop ℚ)) := by
      exact_mod_cast WithTop.coe_lt_top (0 : ℚ)
    simpa [IsAboveZero, value?] using htop

theorem isAboveZero_finite {negative : Bool} {mantissa scale : Nat} :
    (finite negative mantissa scale).IsAboveZero ↔ negative = false ∧ mantissa ≠ 0 := by
  have hvalue : (finite negative mantissa scale).IsAboveZero ↔
      0 < if negative then -size mantissa scale else size mantissa scale := by
    simp only [IsAboveZero, value?, Option.some.injEq, exists_eq_left']
    norm_cast
  rw [hvalue]
  cases negative with
  | true => simpa using size_nonneg mantissa scale
  | false => simpa using size_pos_iff mantissa scale

/-- The test for zero and below leaves the doubles above zero, and what is not a number. -/
theorem atMostZero_eq_false_iff (x : Binary64) :
    x.atMostZero = false ↔ x = .nan ∨ x.IsAboveZero := by
  cases x with
  | nan => simp [atMostZero]
  | infinite negative => simp [atMostZero, isAboveZero_infinite]
  | finite negative mantissa scale => simp [atMostZero, isAboveZero_finite]

/-! ## Rounding gives a number -/

theorem ofParts_ne_nan (negative : Bool) (mantissa scale : Nat) :
    ofParts negative mantissa scale ≠ .nan := by
  unfold ofParts
  split <;> simp

theorem ofRatio_ne_nan (negative : Bool) (r : Ratio) : ofRatio negative r ≠ .nan := by
  unfold ofRatio
  dsimp only
  split <;> exact ofParts_ne_nan _ _ _

theorem ofDecimal_ne_nan (negative : Bool) (coefficient : Nat) (exponent : Int) :
    ofDecimal negative coefficient exponent ≠ .nan := by
  unfold ofDecimal
  dsimp only
  split
  · simp
  · split
    · simp
    · split
      · simp
      · exact ofRatio_ne_nan _ _

theorem ofInt?_ne_nan (n : Int) : ofInt? n ≠ some .nan := by
  unfold ofInt?
  cases h : ofRatio (n < 0) ⟨n.natAbs, 1⟩ with
  | nan => exact absurd h (ofRatio_ne_nan _ _)
  | infinite negative => simp [bounded?]
  | finite negative mantissa scale => simp [bounded?]

end Binary64

/-! ## Texts that spell what is not a number -/

theorem unsignedDecimal?_ne_nan (negative : Bool) (text : List Char) :
    unsignedDecimal? negative text ≠ some .nan := by
  intro h
  unfold unsignedDecimal? at h
  dsimp only at h
  -- With a point and without, there are digits and an exponent, or nothing is read.
  split at h
  all_goals
    split at h
    · cases h
    · obtain ⟨exponent, -, hx⟩ := Option.bind_eq_some_iff.mp h
      exact Binary64.ofDecimal_ne_nan negative _ _ (Option.some.inj hx)

theorem dropUnderscores?_cons {c : Char} (h : c ≠ '_') (before : Option Char)
    (text : List Char) :
    dropUnderscores? before (c :: text) = (dropUnderscores? (some c) text).map (c :: ·) := by
  rw [dropUnderscores?]
  exact h

theorem dropUnderscores?_of_not_mem {text : List Char} (h : '_' ∉ text) (before : Option Char) :
    dropUnderscores? before text = some text := by
  induction text generalizing before with
  | nil => rfl
  | cons c text ih =>
    obtain ⟨hc, htext⟩ := not_or.mp (mt List.mem_cons.mpr h)
    rw [dropUnderscores?_cons (Ne.symm hc), ih htext, Option.map_some]

/-- An underscore is dropped only before a digit, which stays. -/
theorem eq_of_dropUnderscores? {before : Option Char} {text rest : List Char}
    (h : dropUnderscores? before text = some rest) (hrest : ∀ c ∈ rest, c.isDigit = false) :
    text = rest := by
  induction text generalizing before rest with
  | nil => exact Option.some.inj h
  | cons c text ih =>
    by_cases hc : c = '_'
    · subst hc
      cases before with
      | none => cases text <;> simp [dropUnderscores?] at h
      | some b =>
        cases text with
        | nil => simp [dropUnderscores?] at h
        | cons a text =>
          rw [dropUnderscores?] at h
          split at h
          · rename_i hdigits
            have ha : a.isDigit = true := (Bool.and_eq_true_iff.mp hdigits).2
            have hne : a ≠ '_' := by
              rintro rfl
              cases ha
            rw [dropUnderscores?_cons hne] at h
            obtain ⟨kept, -, rfl⟩ := Option.map_eq_some_iff.mp h
            rw [hrest a List.mem_cons_self] at ha
            cases ha
          · cases h
    · rw [dropUnderscores?_cons hc] at h
      obtain ⟨kept, hkept, rfl⟩ := Option.map_eq_some_iff.mp h
      rw [ih hkept fun d hd => hrest d (List.mem_cons_of_mem c hd)]

/-- The text is `nan` in letters of any case, with blanks around it and an optional sign. -/
def SpellsNan (text : List Char) : Prop :=
  ∃ sign letters, bare? text = some (sign ++ letters) ∧ sign ∈ [[], ['+'], ['-']] ∧
    lowerCase letters = ['n', 'a', 'n']

/-- Case changes letters only. -/
theorem toLower_of_not_isAlpha {c : Char} (h : c.isAlpha = false) : c.toLower = c := by
  have hupper : ¬ (c.val ≥ 'A'.val ∧ c.val ≤ 'Z'.val) := by
    rintro ⟨hlo, hhi⟩
    have halpha : c.isAlpha = true := Text.isAlpha_iff_toNat.mpr (.inl ⟨hlo, hhi⟩)
    cases h.symm.trans halpha
  exact dif_neg hupper

theorem isAlpha_of_lowerCase {letters : List Char} (h : lowerCase letters = ['n', 'a', 'n']) :
    ∀ c ∈ letters, c.isAlpha = true := by
  intro c hc
  have hlower : c.toLower ∈ ['n', 'a', 'n'] := h ▸ List.mem_map_of_mem hc
  refine Decidable.byContradiction fun halpha => ?_
  have hfalse := Bool.eq_false_of_not_eq_true halpha
  rw [toLower_of_not_isAlpha hfalse] at hlower
  simp only [List.mem_cons, List.not_mem_nil, or_false] at hlower
  rcases hlower with rfl | rfl | rfl <;> cases hfalse

theorem not_isDigit_of_isAlpha {c : Char} (h : c.isAlpha = true) : c.isDigit = false := by
  refine Bool.eq_false_of_not_eq_true fun hdigit => ?_
  obtain ⟨hlo, hhi⟩ := Char.isDigit_iff_toNat.mp hdigit
  have hletter := Text.isAlpha_iff_toNat.mp h
  simp at hlo hhi
  omega

/-- A sign and letters are neither digits nor underscores. -/
theorem not_numeral_of_mem {sign letters : List Char} (hsign : sign ∈ [[], ['+'], ['-']])
    (hletters : lowerCase letters = ['n', 'a', 'n']) {c : Char} (hc : c ∈ sign ++ letters) :
    c.isDigit = false ∧ c ≠ '_' := by
  rcases List.mem_append.mp hc with hc | hc
  · have hmark : c = '+' ∨ c = '-' := by
      simp only [List.mem_cons, List.not_mem_nil, or_false] at hsign
      rcases hsign with rfl | rfl | rfl
      · cases hc
      · exact .inl (List.mem_singleton.mp hc)
      · exact .inr (List.mem_singleton.mp hc)
    rcases hmark with rfl | rfl <;> decide
  · have halpha := isAlpha_of_lowerCase hletters c hc
    refine ⟨not_isDigit_of_isAlpha halpha, ?_⟩
    rintro rfl
    cases halpha

theorem splitSign_append {sign letters : List Char} (hsign : sign ∈ [[], ['+'], ['-']])
    (hletters : lowerCase letters = ['n', 'a', 'n']) :
    (splitSign (sign ++ letters)).2 = letters := by
  cases letters with
  | nil => cases hletters
  | cons c rest =>
    have hc : c.isAlpha = true := isAlpha_of_lowerCase hletters c List.mem_cons_self
    simp only [List.mem_cons, List.not_mem_nil, or_false] at hsign
    rcases hsign with rfl | rfl | rfl
    · have hplus : c ≠ '+' := by
        rintro rfl
        cases hc
      have hminus : c ≠ '-' := by
        rintro rfl
        cases hc
      rw [List.nil_append, splitSign]
      · simp [hminus]
      · simp [hplus]
    · rfl
    · rfl

theorem exists_sign_splitSign (text : List Char) :
    ∃ sign ∈ [[], ['+'], ['-']], text = sign ++ (splitSign text).2 := by
  unfold splitSign
  split <;> simp

/-- A text is read as not a number exactly if it spells that. -/
theorem real?_eq_nan_iff (text : List Char) : real? text = some .nan ↔ SpellsNan text := by
  simp only [real?, Option.bind_eq_bind, Option.bind_eq_some_iff]
  constructor
  · rintro ⟨bare, hbare, plain, hplain, h⟩
    split at h
    · cases h
    · split at h
      · rename_i hname
        obtain ⟨sign, hsign, hsplit⟩ := exists_sign_splitSign plain
        have hletters : lowerCase (splitSign plain).2 = ['n', 'a', 'n'] := by
          simpa using congrArg String.toList hname
        -- Neither the sign nor the letters are digits, so that no underscore was dropped.
        have hdigit : ∀ c ∈ plain, c.isDigit = false := by
          rw [hsplit]
          exact fun c hc => (not_numeral_of_mem hsign hletters hc).1
        obtain rfl := eq_of_dropUnderscores? hplain hdigit
        exact ⟨sign, _, hbare.trans (congrArg some hsplit), hsign, hletters⟩
      · exact absurd h (unsignedDecimal?_ne_nan _ _)
  · rintro ⟨sign, letters, hbare, hsign, hletters⟩
    have hdrop : dropUnderscores? none (sign ++ letters) = some (sign ++ letters) :=
      dropUnderscores?_of_not_mem (fun h => (not_numeral_of_mem hsign hletters h).2 rfl) none
    refine ⟨_, hbare, _, hdrop, ?_⟩
    simp [splitSign_append hsign hletters, hletters]

end ChapelServer.Number
