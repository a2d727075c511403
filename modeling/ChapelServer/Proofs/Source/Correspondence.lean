import ChapelServer.Proofs.Source.Position
import Mathlib.Data.Set.Function

/-!
# Positions and offsets correspond

The lines of a text begin at its start and after each line break. A position of the text has an
offset, which has that position again. An offset has a position that leads back to it unless it
stands between the carriage return and the line feed of one line break, and then its position is
none of the text. So the positions of a text and the offsets that split no line break correspond
one to one.
-/

namespace ChapelServer

/-- At the length of the first of two texts, the two together are cut between them. -/
theorem splitsBreak_length_iff {before after : List Char} :
    SplitsBreak (before ++ after) before.length ↔ Text.CutsBreak before after := by
  constructor
  · rintro ⟨k, hk, hr, hn⟩
    rw [List.getElem?_append_left (by omega)] at hr
    rw [← hk, List.getElem?_append_right (Nat.le_refl _), Nat.sub_self] at hn
    refine ⟨?_, by rw [List.head?_eq_getElem?, hn]⟩
    rw [List.getLast?_eq_getElem?, hk, Nat.add_sub_cancel, hr]
  · rintro ⟨hr, hn⟩
    rw [List.getLast?_eq_getElem?] at hr
    rw [List.head?_eq_getElem?] at hn
    obtain ⟨hlt, -⟩ := List.getElem?_eq_some_iff.mp hr
    have hk : before.length = before.length - 1 + 1 := by omega
    refine ⟨before.length - 1, hk, ?_, ?_⟩
    · rw [List.getElem?_append_left hlt, hr]
    · rw [← hk, List.getElem?_append_right (Nat.le_refl _), Nat.sub_self, hn]

/-! ## Where lines begin -/

namespace Line

/-- A line begins at the offset: it is the start of the text, or stands right after a line break. -/
def BeginsAt (source : List Char) (offset : Nat) : Prop :=
  offset = 0 ∨ ∃ k c, offset = k + 1 ∧ source[k]? = some c ∧ Token.endsLine c = true ∧
    ¬ SplitsBreak source offset

theorem IsAt.beginsAt {source : List Char} {k : Nat} {line : Line} (h : IsAt source k line) :
    BeginsAt source line.start := by
  obtain ⟨before, text, after, rfl, hstands, -, rfl⟩ := h
  cases hlast : before.getLast? with
  | none =>
    obtain rfl := List.getLast?_eq_none_iff.mp hlast
    exact .inl rfl
  | some c =>
    have hends := hstands.opens c hlast
    rw [List.getLast?_eq_getElem?] at hlast
    obtain ⟨hlt, -⟩ := List.getElem?_eq_some_iff.mp hlast
    refine .inr ⟨before.length - 1, c, ?_, ?_, hends, ?_⟩
    · dsimp only
      omega
    · rw [List.getElem?_append_left hlt, hlast]
    · rw [splitsBreak_length_iff]
      exact hstands.whole

/-- After whole lines, the text up to the next line break is a line. -/
theorem exists_stands {before rest : List Char}
    (hopens : ∀ c, before.getLast? = some c → Token.endsLine c = true)
    (hwhole : ¬ Text.CutsBreak before rest) :
    ∃ text after, rest = text ++ after ∧ Stands before text after := by
  have hrest : (rest.takeWhile fun c => !Token.endsLine c) ++
      (rest.dropWhile fun c => !Token.endsLine c) = rest := List.takeWhile_append_dropWhile
  refine ⟨_, _, hrest.symm, hopens, by rwa [hrest], fun c hc => ?_, fun c hc => ?_⟩
  · simpa using List.all_eq_true.mp List.all_takeWhile c hc
  · have hstop := List.head?_dropWhile_not (fun c => !Token.endsLine c) rest
    rw [hc] at hstop
    simpa using hstop

theorem BeginsAt.exists_isAt {source : List Char} {offset : Nat} (h : BeginsAt source offset) :
    ∃ k line, IsAt source k line ∧ line.start = offset := by
  have hle : offset ≤ source.length := by
    rcases h with rfl | ⟨k, c, rfl, hget, -⟩
    · exact Nat.zero_le _
    · exact (List.getElem?_eq_some_iff.mp hget).1
  obtain ⟨before, rest, rfl, rfl⟩ :
      ∃ before rest, source = before ++ rest ∧ before.length = offset :=
    ⟨_, _, (List.take_append_drop offset source).symm, List.length_take_of_le hle⟩
  have hopens : ∀ c, before.getLast? = some c → Token.endsLine c = true := by
    intro c hc
    rw [List.getLast?_eq_getElem?] at hc
    obtain ⟨hlt, -⟩ := List.getElem?_eq_some_iff.mp hc
    rcases h with hzero | ⟨k, d, hk, hget, hends, -⟩
    · omega
    · rw [hk, Nat.add_sub_cancel, ← List.getElem?_append_left (by omega), hget] at hc
      exact Option.some.inj hc ▸ hends
  have hwhole : ¬ Text.CutsBreak before rest := by
    rw [← splitsBreak_length_iff]
    rcases h with hzero | ⟨k, d, -, -, -, hsplit⟩
    · rintro ⟨k, hk, -⟩
      omega
    · exact hsplit
  obtain ⟨text, after, rfl, hstands⟩ := exists_stands hopens hwhole
  exact ⟨_, _, ⟨before, text, after, rfl, hstands, rfl, rfl⟩, rfl⟩

/-- The lines that the scan of a text finds begin where its lines do. -/
theorem mem_starts_scan_iff {source : List Char} {offset : Nat} :
    offset ∈ (scan source).map (·.start) ↔ BeginsAt source offset := by
  rw [List.mem_map]
  constructor
  · rintro ⟨line, hline, rfl⟩
    obtain ⟨k, hk⟩ := List.mem_iff_getElem?.mp hline
    exact (getElem?_scan_iff.mp hk).beginsAt
  · intro h
    obtain ⟨k, line, hline, hstart⟩ := h.exists_isAt
    exact ⟨line, List.mem_of_getElem? hline.getElem?_scan, hstart⟩

theorem starts_scan_increasing (source : List Char) :
    ((scan source).map (·.start)).Pairwise (· < ·) := by
  refine List.pairwise_map.mpr ((scanFrom_pairwise 0 0 source).imp fun h => ?_)
  exact Nat.lt_of_le_of_lt (Nat.le_add_right _ _) h

end Line

/-! ## There and back -/

namespace Position

variable {source : List Char} {p : Position} {offset : Nat}

/-- A position of a text does not stand inside a line break. -/
theorem Marks.not_splitsBreak (h : p.Marks source offset) : ¬ SplitsBreak source offset := by
  obtain ⟨k, c, _, -, ⟨before, text, after, rfl, hstands, -, rfl⟩, hc, rfl⟩ := h
  dsimp only at hc ⊢
  -- The line is cut at the position: what was read of it, and the rest.
  have hlength : before.length + c = (before ++ text.take c).length := by
    rw [List.length_append, List.length_take_of_le hc]
  have hcut : before ++ (text ++ after) = (before ++ text.take c) ++ (text.drop c ++ after) := by
    rw [List.append_assoc, ← List.append_assoc (text.take c), List.take_append_drop]
  rw [hlength, hcut, splitsBreak_length_iff]
  cases c with
  | zero =>
    rw [List.take_zero, List.append_nil, List.drop_zero]
    exact hstands.whole
  | succ c =>
    rintro ⟨hr, -⟩
    have hne : text.take (c + 1) ≠ [] := by
      rw [Ne, List.take_eq_nil_iff]
      rintro (h | rfl)
      · omega
      · simp at hc
    rw [List.getLast?_append, Option.or_of_isSome (List.getLast?_isSome.mpr hne)] at hr
    have hmem := List.mem_of_mem_take (List.mem_of_getLast? hr)
    exact absurd (hstands.plain '\r' hmem) (by decide)

/-- The offset of a position has that position. -/
theorem ofOffset_of_offset? (h : p.offset? (Line.scan source) = some offset) :
    ofOffset (Line.scan source) offset = p := by
  obtain ⟨k, c, line, rfl, hline, hc, rfl⟩ := offset?_scan_iff.mp h
  rw [ofOffset_of_isAt hline ⟨Nat.le_add_right _ _, Nat.add_le_add_left hc _⟩]
  simp only [Position.mk.injEq, true_and]
  omega

/-- If the position of an offset is one of the text, it leads back to that offset. -/
theorem eq_of_offset?_ofOffset {found : Nat}
    (h : (ofOffset (Line.scan source) offset).offset? (Line.scan source) = some found) :
    found = offset := by
  obtain ⟨i, line, hget, hle, -, hpos⟩ := ofOffset_scan_spec source offset
  rw [hpos, offset?_eq_some_iff] at h
  obtain ⟨k, c, line', hsame, hget', -, rfl⟩ := h
  obtain ⟨hk, hc⟩ := Position.mk.inj hsame
  obtain rfl : i = k := Int.ofNat.inj hk
  obtain rfl : line = line' := Option.some.inj (hget.symm.trans hget')
  omega

/-- An offset inside a line break has no position of the text. -/
theorem offset?_ofOffset_of_splits (h : SplitsBreak source offset) :
    (ofOffset (Line.scan source) offset).offset? (Line.scan source) = none := by
  cases hfound : (ofOffset (Line.scan source) offset).offset? (Line.scan source) with
  | none => rfl
  | some found =>
    obtain rfl := eq_of_offset?_ofOffset hfound
    exact absurd h (offset?_scan_iff.mp hfound).not_splitsBreak

/-- The lines of a text begin at its start and after each line break, in that order. The offset of a
position has that position, the position of an offset leads back to it unless it splits a line
break, and then it leads nowhere. So the offsets that split no line break correspond one to one to
the positions of the text. -/
theorem positions_correspond_to_offsets (source : List Char) :
    let lines : List Line := Line.scan source
    let starts := lines.map (·.start)
    starts.Pairwise (· < ·) ∧
      (∀ offset, offset ∈ starts ↔ Line.BeginsAt source offset) ∧
      (∀ (p : Position) (offset : Nat), p.offset? lines = some offset → ofOffset lines offset = p) ∧
      (∀ offset ≤ source.length, ¬ SplitsBreak source offset →
        (ofOffset lines offset).offset? lines = some offset) ∧
      (∀ offset, SplitsBreak source offset → (ofOffset lines offset).offset? lines = none) ∧
      Set.BijOn (ofOffset lines) {offset | offset ≤ source.length ∧ ¬ SplitsBreak source offset}
        {p : Position | (p.offset? lines).isSome} := by
  intro lines starts
  refine ⟨Line.starts_scan_increasing source, fun offset => Line.mem_starts_scan_iff,
    fun p offset => ofOffset_of_offset?, fun offset => offset?_ofOffset,
    fun offset => offset?_ofOffset_of_splits, fun offset h => ?_, fun a ha b hb hab => ?_,
    fun p hp => ?_⟩
  · exact Option.isSome_of_eq_some (offset?_ofOffset h.1 h.2)
  · have hsame : some a = some b := by
      rw [← offset?_ofOffset ha.1 ha.2, ← offset?_ofOffset hb.1 hb.2]
      exact congrArg (·.offset? lines) hab
    exact Option.some.inj hsame
  · obtain ⟨offset, hoffset⟩ := Option.isSome_iff_exists.mp hp
    have hmarks := offset?_scan_iff.mp hoffset
    exact ⟨offset, ⟨hmarks.le_length, hmarks.not_splitsBreak⟩, ofOffset_of_offset? hoffset⟩

end Position

end ChapelServer
