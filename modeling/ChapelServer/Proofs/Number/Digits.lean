import ChapelServer.Number.Integer
import ChapelServer.Proofs.Text.Trimmed
import Mathlib.Data.Nat.Digits.Defs

/-!
# Numerals and the numbers they spell

A run of digits spells a number in base ten, most significant digit first, whatever script each
digit is taken from. The decimal text of a number spells that number, and is read as that number if
it is not too long.
-/

namespace ChapelServer

namespace Text

theorem ofDigits_eq (digits : List Nat) : ofDigits digits = Nat.ofDigits 10 digits.reverse := by
  rw [Nat.ofDigits_eq_foldr, List.foldr_reverse, ofDigits]
  congr 1
  funext n d
  simp [Nat.add_comm]

theorem digitValue_lt {c : Char} {d : Nat} (h : digitValue? c = some d) : d < 10 := by
  obtain ⟨first, hfirst, rfl⟩ := Option.map_eq_some_iff.mp h
  have hblock := List.find?_some hfirst
  simp only [Bool.and_eq_true, decide_eq_true_eq] at hblock
  omega

/-- The ASCII digits are the first block. -/
theorem digitValue?_of_isDigit {c : Char} (h : c.isDigit = true) :
    digitValue? c = some (c.toNat - '0'.toNat) := by
  have hblock : 0x30 ≤ c.toNat ∧ c.toNat < 0x30 + 10 := by
    obtain ⟨hlo, hhi⟩ := Char.isDigit_iff_toNat.mp h
    exact ⟨hlo, Nat.lt_succ_of_le hhi⟩
  simp [digitValue?, digitZeros, hblock]

end Text

namespace Number

/-- The number that a run of digits spells. -/
def value (run : List Char) : Nat :=
  Nat.ofDigits 10 (run.map fun c => (Text.digitValue? c).getD 0).reverse

theorem ofDigitRun_eq (run : List Char) :
    ofDigitRun run = if run.length > maxDigits then .error .mk else .ok (value run) := by
  rw [ofDigitRun, Text.ofDigits_eq, value]

/-- The decimal text of a number is made of digits. -/
theorem isDigit_of_mem_toDigits {n : Nat} {c : Char} (h : c ∈ Nat.toDigits 10 n) :
    Text.isDigit c = true := by
  have hdigit := Nat.isDigit_of_mem_toDigits (by decide) (by decide) h
  simp [Text.isDigit, Text.digitValue?_of_isDigit hdigit]

theorem value_toDigits (n : Nat) : value (Nat.toDigits 10 n) = n := by
  have hvalues : (Nat.toDigits 10 n).map (fun c => (Text.digitValue? c).getD 0) =
      (Nat.toDigits 10 n).map fun c => c.toNat - '0'.toNat := by
    refine List.map_congr_left fun c hc => ?_
    have hdigit := Nat.isDigit_of_mem_toDigits (by decide) (by decide) hc
    rw [Text.digitValue?_of_isDigit hdigit, Option.getD_some]
  calc value (Nat.toDigits 10 n)
      = Text.ofDigits ((Nat.toDigits 10 n).map fun c => c.toNat - '0'.toNat) := by
        rw [value, hvalues, Text.ofDigits_eq]
    _ = Nat.ofDigitChars 10 (Nat.toDigits 10 n) 0 := by
        rw [Text.ofDigits, List.foldl_map, Nat.ofDigitChars_eq_foldl]
    _ = n := Nat.ofDigitChars_ten_toDigits

/-! ## Reading a decimal text -/

/-- A text in ASCII without blanks is bare already. -/
theorem bare?_of_ascii {text : List Char}
    (h : ∀ c ∈ text, c.toNat < 0x7F ∧ isAsciiBlank c = false) : bare? text = some text := by
  have hascii : text.mapM toAscii? = some text := by
    induction text with
    | nil => rfl
    | cons c text ih =>
      obtain ⟨hc, htext⟩ := List.forall_mem_cons.mp h
      rw [List.mapM_cons, toAscii?, if_pos hc.1, ih htext]
      rfl
  have hbare : Text.trimBy isAsciiBlank text = text :=
    Text.trimBy_of_ends (fun c hc => (h c (List.mem_of_mem_head? hc)).2)
      fun c hc => (h c (List.mem_of_mem_getLast? hc)).2
  simp only [bare?, hascii, Option.bind_eq_bind, Option.bind_some, hbare, Option.pure_def]

theorem not_blank_of_isDigit {c : Char} (h : c.isDigit = true) :
    c.toNat < 0x7F ∧ isAsciiBlank c = false := by
  obtain ⟨hlo, hhi⟩ := Char.isDigit_iff_toNat.mp h
  have hlo : 0x30 ≤ c.toNat := hlo
  have hhi : c.toNat ≤ 0x39 := hhi
  have hspace : c ≠ ' ' := by
    rintro rfl
    cases h
  refine ⟨by omega, ?_⟩
  simp only [isAsciiBlank, Bool.or_eq_false_iff, beq_eq_false_iff_ne, ne_eq, hspace,
    not_false_eq_true, true_and, Bool.and_eq_false_iff, decide_eq_false_iff_not]
  omega

theorem splitSign_of_digits {run : List Char} (h : ∀ c ∈ run, c.isDigit = true) :
    splitSign run = (false, run) := by
  cases run with
  | nil => rfl
  | cons d run =>
    have hd := h d List.mem_cons_self
    rw [splitSign]
    · rintro rest ⟨⟩
      cases hd
    · rintro rest ⟨⟩
      cases hd

theorem moreDigits?_of_digits {run : List Char} (h : ∀ c ∈ run, c.isDigit = true) :
    moreDigits? run = some run := by
  induction run with
  | nil => rfl
  | cons d run ih =>
    obtain ⟨hd, hrun⟩ := List.forall_mem_cons.mp h
    have hne : d ≠ '_' := by
      rintro rfl
      cases hd
    rw [moreDigits?, if_pos hd, ih hrun, Option.map_some]
    intro c rest hc
    exact absurd hc hne

theorem digits?_of_digits {run : List Char} (hne : run ≠ []) (h : ∀ c ∈ run, c.isDigit = true) :
    digits? run = some run := by
  cases run with
  | nil => exact absurd rfl hne
  | cons d run =>
    obtain ⟨hd, hrun⟩ := List.forall_mem_cons.mp h
    rw [digits?, if_pos hd, moreDigits?_of_digits hrun, Option.map_some]

/-- The decimal text of a short number is read as that number. -/
theorem integer?_decimal {n : Int} (h : n.natAbs < 10 ^ maxDigits) :
    integer? (decimal n) = some n := by
  have hdigits : ∀ c ∈ Nat.toDigits 10 n.natAbs, c.isDigit = true :=
    fun c hc => Nat.isDigit_of_mem_toDigits (by decide) (by decide) hc
  have hrun : digits? (Nat.toDigits 10 n.natAbs) = some (Nat.toDigits 10 n.natAbs) :=
    digits?_of_digits Nat.toDigits_ne_nil hdigits
  have hlength : ¬ (Nat.toDigits 10 n.natAbs).length > maxDigits :=
    Nat.not_lt.mpr ((Nat.length_toDigits_le_iff (by decide) (by decide)).mpr h)
  have hvalue : ofDigitRun (Nat.toDigits 10 n.natAbs) = .ok n.natAbs := by
    rw [ofDigitRun_eq, if_neg hlength, value_toDigits]
  have hbare := fun c hc => not_blank_of_isDigit (hdigits c hc)
  unfold decimal integer?
  split
  · have hminus : bare? ('-' :: Nat.toDigits 10 n.natAbs) =
        some ('-' :: Nat.toDigits 10 n.natAbs) :=
      bare?_of_ascii (List.forall_mem_cons.mpr ⟨by decide, hbare⟩)
    simp only [hminus, splitSign, hrun, hvalue, Except.toOption, Option.bind_eq_bind,
      Option.bind_some, Option.pure_def, if_true, Option.some.injEq]
    omega
  · simp only [bare?_of_ascii hbare, splitSign_of_digits hdigits, hrun, hvalue, Except.toOption,
      Option.bind_eq_bind, Option.bind_some, Option.pure_def, Bool.false_eq_true, if_false,
      Option.some.injEq]
    omega

end Number

end ChapelServer
