import ChapelServer.Text.Lines
import ChapelServer.Text.Utf8

/-!
# Bytes read up to a line feed

A byte below `0x80` continues no character: it ends what is pending, which is then ill formed, and
stands for itself. So bytes are read apart before and after it. Line ends can be made one across a
line feed only if a carriage return stands right before it, and then the two become a single one.
-/

namespace ChapelServer.Text

namespace Utf8

/-- What is missing, if anything, is no ASCII byte. -/
def Pending.Sound : Pending → Prop
  | .idle => True
  | .expecting _ low _ _ => 0x80 ≤ low

theorem lead_sound (b : Nat) : (lead b).2.Sound := by
  unfold lead
  repeat' split
  all_goals simp [Pending.Sound]

/-- The reader never waits for an ASCII byte. -/
theorem Pending.next_sound (pending : Pending) (b : Nat) : (pending.next b).2.Sound := by
  cases pending with
  | idle => exact lead_sound b
  | expecting missing low high value =>
    by_cases hin : low ≤ b ∧ b ≤ high
    · by_cases hlast : missing = 1
      · rw [next, if_pos hin, if_pos hlast]
        trivial
      · rw [next, if_pos hin, if_neg hlast]
        exact Nat.le_refl 0x80
    · rw [next, if_neg hin]
      exact lead_sound b

/-- An ASCII byte ends what is pending and stands for itself. -/
theorem Pending.next_ascii {pending : Pending} (h : pending.Sound) {b : Nat} (hb : b < 0x80) :
    pending.next b = (itemsFrom pending [] ++ [some (Char.ofNat b)], .idle) := by
  have hlead : lead b = ([some (Char.ofNat b)], .idle) := by rw [lead, if_pos hb]
  cases pending with
  | idle => exact hlead
  | expecting missing low high value =>
    have hout : ¬ (low ≤ b ∧ b ≤ high) := by
      intro hin
      have hlow : 0x80 ≤ low := h
      omega
    rw [next, if_neg hout, hlead]
    rfl

theorem itemsFrom_cons (pending : Pending) (b : UInt8) (rest : List UInt8) :
    itemsFrom pending (b :: rest) =
      (pending.next b.toNat).1 ++ itemsFrom (pending.next b.toNat).2 rest := by
  cases pending <;> rfl

theorem itemsFrom_append_ascii {pending : Pending} (h : pending.Sound) (above below : List UInt8)
    {b : UInt8} (hb : b.toNat < 0x80) :
    itemsFrom pending (above ++ b :: below) =
      itemsFrom pending above ++ some (Char.ofNat b.toNat) :: itemsFrom .idle below := by
  -- What is pending changes from byte to byte, and stays sound.
  induction above generalizing pending with
  | nil =>
    rw [List.nil_append, itemsFrom_cons, Pending.next_ascii h hb, List.append_assoc]
    rfl
  | cons a above ih =>
    rw [List.cons_append, itemsFrom_cons, ih (pending.next_sound a.toNat), itemsFrom_cons,
      List.append_assoc]

/-- Bytes are read apart before and after a line feed, however ill formed they are. -/
theorem decodeLossy_append_lineFeed (above below : List UInt8) :
    decodeLossy (above ++ 0x0A :: below) = decodeLossy above ++ '\n' :: decodeLossy below := by
  have hitems := @itemsFrom_append_ascii .idle trivial above below 0x0A (by decide)
  rw [decodeLossy, items, hitems, List.map_append, List.map_cons]
  rfl

end Utf8

theorem unifyNewlines_cons {c : Char} {rest : List Char}
    (h : c = '\r' → rest.head? ≠ some '\n') :
    unifyNewlines (c :: rest) = (if c = '\r' then '\n' else c) :: unifyNewlines rest := by
  rw [unifyNewlines]
  rintro tail hc rfl
  exact h hc rfl

/-- The line ends before and after a line feed are made one apart, but for a carriage return right
before it, which is one line end with it and another one alone. -/
theorem unifyNewlines_append_lineFeed (above below : List Char) :
    ∃ line, unifyNewlines (above ++ '\n' :: below) = line ++ '\n' :: unifyNewlines below ∧
      (unifyNewlines above = line ∨ unifyNewlines above = line ++ ['\n']) := by
  fun_induction unifyNewlines above with
  | case1 => exact ⟨[], rfl, .inl rfl⟩
  | case2 rest ih =>
    obtain ⟨line, hwhole, hline⟩ := ih
    refine ⟨'\n' :: line, ?_, ?_⟩
    · rw [List.cons_append, List.cons_append, unifyNewlines, hwhole, List.cons_append]
    · rcases hline with hline | hline
      · exact .inl (by rw [hline])
      · exact .inr (by rw [hline, List.cons_append])
  | case3 c rest hpair ih =>
    -- A carriage return at the very end is the one place where the line feed changes anything.
    by_cases hcut : c = '\r' ∧ rest = []
    · obtain ⟨rfl, rfl⟩ := hcut
      exact ⟨[], rfl, .inr rfl⟩
    · obtain ⟨line, hwhole, hline⟩ := ih
      have hfirst : c = '\r' → (rest ++ '\n' :: below).head? ≠ some '\n' := by
        intro hc hhead
        cases rest with
        | nil => exact hcut ⟨hc, rfl⟩
        | cons d rest =>
          obtain rfl : d = '\n' := Option.some.inj hhead
          exact hpair rest hc rfl
      refine ⟨(if c = '\r' then '\n' else c) :: line, ?_, ?_⟩
      · rw [List.cons_append, unifyNewlines_cons hfirst, hwhole, List.cons_append]
      · rcases hline with hline | hline
        · exact .inl (by rw [hline])
        · exact .inr (by rw [hline, List.cons_append])

end ChapelServer.Text
