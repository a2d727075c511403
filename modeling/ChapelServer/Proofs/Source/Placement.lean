import ChapelServer.Proofs.Source.Coverage

/-!
# A text within another

A text may stand in another one, its host, in a way that the tokens and the lines of the one are
found again in the other: behind other lines, or with other line breaks. Then a position of the
text names in the host, so many lines further down, the same symbol.
-/

namespace ChapelServer

/-! ## Lines further down -/

/-- The position so many lines further down. -/
def Position.lower (down : Nat) (p : Position) : Position :=
  { p with line := down + p.line }

/-- The symbol so many lines further down. -/
def Symbol.lower (down : Nat) (s : Symbol) : Symbol :=
  { s with range := ⟨s.range.start.lower down, s.range.stop.lower down⟩ }

theorem Symbol.lower_zero (s : Symbol) : s.lower 0 = s := by
  simp [lower, Position.lower]

namespace Line

theorem IsAt.le_lineBreaks {source : List Char} {k : Nat} {line : Line} (h : IsAt source k line) :
    k ≤ Text.lineBreaks source := by
  obtain ⟨hlt, -⟩ := List.getElem?_eq_some_iff.mp h.getElem?_scan
  rw [scan, length_scanFrom] at hlt
  exact Nat.le_of_lt_succ hlt

theorem IsAt.unique {source : List Char} {k : Nat} {line line' : Line} (h : IsAt source k line)
    (h' : IsAt source k line') : line = line' :=
  Option.some.inj (h.getElem?_scan.symm.trans h'.getElem?_scan)

/-- Every offset is on a line, unless it splits a line break. -/
theorem exists_isAt_has {source : List Char} {offset : Nat} (h : offset ≤ source.length)
    (hsplit : ¬ SplitsBreak source offset) : ∃ k line, IsAt source k line ∧ line.Has offset := by
  obtain ⟨k, line, hget, hhas, -⟩ := Position.ofOffset_has h hsplit
  exact ⟨k, line, getElem?_scan_iff.mp hget, hhas⟩

end Line

/-! ## Tokens and lines found again -/

/-- The second token is what the first one is in a text whose offsets are placed so. -/
structure Token.Matches (place : Nat → Nat) (t u : Token) : Prop where
  kind : u.kind = t.kind
  start : u.start = place t.start
  stop : u.stop = place t.stop
  lexeme : t.kind = .identifier → u.lexeme = t.lexeme

/-- The text stands in the host with its offsets placed so, and with so many line breaks before
it. Tokens of the host that end before it do not matter. -/
structure Placed (source host : List Char) (place : Nat → Nat) (down : Nat) : Prop where
  ordered : ∀ {i j}, i < j → j ≤ source.length → place i < place j
  along : ∀ {k line c}, Line.IsAt source k line → c ≤ line.width →
    place (line.start + c) = place line.start + c
  breaks : Text.lineBreaks host = down + Text.lineBreaks source
  line : ∀ {k line}, Line.IsAt source k line →
    Line.IsAt host (down + k) ⟨place line.start, line.width⟩
  forth : ∀ t ∈ Token.scan source, ∃ u ∈ Token.scan host, Token.Matches place t u
  back : ∀ u ∈ Token.scan host, place 0 ≤ u.stop → ∃ t ∈ Token.scan source, Token.Matches place t u

namespace Placed

variable {source host : List Char} {place : Nat → Nat} {down : Nat}

section Order

variable {i j : Nat}

theorem lt_iff (h : Placed source host place down) (hi : i ≤ source.length)
    (hj : j ≤ source.length) : place i < place j ↔ i < j := by
  refine ⟨fun hlt => ?_, fun hlt => h.ordered hlt hj⟩
  rcases Nat.lt_trichotomy i j with hlt' | rfl | hgt
  · exact hlt'
  · omega
  · have := h.ordered hgt hi
    omega

theorem le_iff (h : Placed source host place down) (hi : i ≤ source.length)
    (hj : j ≤ source.length) : place i ≤ place j ↔ i ≤ j := by
  rw [← Nat.not_lt, h.lt_iff hj hi, Nat.not_lt]

theorem eq_iff (h : Placed source host place down) (hi : i ≤ source.length)
    (hj : j ≤ source.length) : place i = place j ↔ i = j := by
  have hij := h.le_iff hi hj
  have hji := h.le_iff hj hi
  omega

end Order

/-! ### Positions -/

/-- The lines of the host from the first one of the text on are those of the text. -/
theorem exists_line (h : Placed source host place down) {k : Nat} {line' : Line}
    (hline' : Line.IsAt host (down + k) line') :
    ∃ line, Line.IsAt source k line ∧ line' = ⟨place line.start, line.width⟩ := by
  have hle : k ≤ Text.lineBreaks source := by
    have := hline'.le_lineBreaks
    rw [h.breaks] at this
    omega
  obtain ⟨line, hline⟩ := Line.exists_isAt hle
  exact ⟨line, hline, hline'.unique (h.line hline)⟩

theorem marks_iff (h : Placed source host place down) {l c : Int} (hl : 0 ≤ l) {offset' : Nat} :
    (⟨down + l, c⟩ : Position).Marks host offset' ↔
      ∃ offset, (⟨l, c⟩ : Position).Marks source offset ∧ offset' = place offset := by
  constructor
  · rintro ⟨k', c', line', hp, hline', hwidth, rfl⟩
    obtain ⟨hk', rfl⟩ := Position.mk.inj hp
    obtain ⟨k, rfl⟩ := Int.eq_ofNat_of_zero_le hl
    obtain rfl : k' = down + k := by omega
    obtain ⟨line, hline, rfl⟩ := h.exists_line hline'
    exact ⟨line.start + c', ⟨k, c', line, rfl, hline, hwidth, rfl⟩, (h.along hline hwidth).symm⟩
  · rintro ⟨offset, ⟨k, c', line, hp, hline, hwidth, rfl⟩, rfl⟩
    obtain ⟨rfl, rfl⟩ := Position.mk.inj hp
    exact ⟨down + k, c', _, by rw [Int.natCast_add], h.line hline, hwidth, h.along hline hwidth⟩

theorem ofOffset_place (h : Placed source host place down) {offset : Nat}
    (hle : offset ≤ source.length) (hsplit : ¬ SplitsBreak source offset) :
    Position.ofOffset (Line.scan host) (place offset) =
      (Position.ofOffset (Line.scan source) offset).lower down := by
  obtain ⟨k, line, hline, hhas⟩ := Line.exists_isAt_has hle hsplit
  obtain ⟨c, rfl⟩ := Nat.exists_eq_add_of_le hhas.1
  have hwidth : c ≤ line.width := Nat.le_of_add_le_add_left hhas.2
  have hplace := h.along hline hwidth
  have hhas' : (⟨place line.start, line.width⟩ : Line).Has (place (line.start + c)) := by
    rw [hplace]
    exact ⟨Nat.le_add_right _ _, Nat.add_le_add_left hwidth _⟩
  rw [Position.ofOffset_of_isAt hline hhas, Position.ofOffset_of_isAt (h.line hline) hhas', hplace,
    Position.lower, Position.mk.injEq]
  constructor <;> simp only <;> omega

/-! ### Tokens -/

theorem zero_le (h : Placed source host place down) {i : Nat} (hi : i ≤ source.length) :
    place 0 ≤ place i :=
  (h.le_iff (Nat.zero_le _) hi).mpr (Nat.zero_le i)

theorem isUnder_place (h : Placed source host place down) {offset : Nat} {t u : Token}
    (hle : offset ≤ source.length) (ht : t.IsUnder source offset) (hu : u ∈ Token.scan host)
    (hmatch : Token.Matches place t u) : u.IsUnder host (place offset) := by
  obtain ⟨hmem, hunder⟩ := ht
  have hstop := (Token.slice_of_mem_scan hmem).1
  have hstart : t.start ≤ source.length := Nat.le_trans (Nat.le_add_right _ _) hstop
  refine ⟨hu, ?_⟩
  rw [hmatch.start, hmatch.stop, h.le_iff hstart hle, h.lt_iff hle hstop, h.eq_iff hstop hle]
  refine hunder.imp_right fun ⟨hends, hclear⟩ => ⟨hends, fun v hv hbegins => ?_⟩
  -- A token of the host that begins here does not end before the text, so it is one of the text's.
  have hafter : place 0 ≤ v.stop := by
    have := Token.start_lt_stop_of_mem_scan hv
    have := h.zero_le hle
    omega
  obtain ⟨w, hw, hwv⟩ := h.back v hv hafter
  have hwstart : w.start ≤ source.length :=
    Nat.le_trans (Nat.le_add_right _ _) (Token.slice_of_mem_scan hw).1
  rw [hwv.start, h.eq_iff hwstart hle] at hbegins
  exact hclear w hw hbegins

theorem exists_isUnder (h : Placed source host place down) {offset : Nat} {u : Token}
    (hle : offset ≤ source.length) (hu : u.IsUnder host (place offset)) :
    ∃ t, t.IsUnder source offset ∧ Token.Matches place t u := by
  obtain ⟨hmem, hunder⟩ := hu
  have hafter : place 0 ≤ u.stop := by
    have := h.zero_le hle
    omega
  obtain ⟨t, ht, hmatch⟩ := h.back u hmem hafter
  have hstop := (Token.slice_of_mem_scan ht).1
  have hstart : t.start ≤ source.length := Nat.le_trans (Nat.le_add_right _ _) hstop
  refine ⟨t, ⟨ht, ?_⟩, hmatch⟩
  rw [hmatch.start, hmatch.stop, h.le_iff hstart hle, h.lt_iff hle hstop,
    h.eq_iff hstop hle] at hunder
  refine hunder.imp_right fun ⟨hends, hclear⟩ => ⟨hends, fun v hv hbegins => ?_⟩
  obtain ⟨w, hw, hvw⟩ := h.forth v hv
  exact hclear w hw (by rw [hvw.start, hbegins])

/-! ### Symbols -/

/-- The symbol of an identifier in the host is that of the text, further down. -/
theorem symbol_eq (h : Placed source host place down) {t u : Token} (ht : t ∈ Token.scan source)
    (hkind : t.kind = .identifier) (hmatch : Token.Matches place t u) :
    (⟨u.lexeme,
        ⟨.ofOffset (Line.scan host) u.start, .ofOffset (Line.scan host) u.stop⟩⟩ : Symbol) =
      Symbol.lower down ⟨t.lexeme,
        ⟨.ofOffset (Line.scan source) t.start, .ofOffset (Line.scan source) t.stop⟩⟩ := by
  obtain ⟨-, hstop, hsplit, hsplit'⟩ := Token.identifier_of_mem_scan ht hkind
  have hstart : t.start ≤ source.length := Nat.le_trans (Nat.le_add_right _ _) hstop
  rw [hmatch.lexeme hkind, hmatch.start, hmatch.stop, h.ofOffset_place hstart hsplit,
    h.ofOffset_place hstop hsplit']
  rfl

/-- A position names in the host, further down, what it names in the text. -/
theorem at?_lower (h : Placed source host place down) {l : Int} (hl : 0 ≤ l) (c : Int) :
    Symbol.at? host ⟨down + l, c⟩ = (Symbol.at? source ⟨l, c⟩).map (Symbol.lower down) := by
  refine Option.ext fun s => ?_
  rw [Option.map_eq_some_iff, Symbol.at?_eq_some_iff]
  constructor
  · rintro ⟨offset', u, hmarks', hunder', hkind', hword', rfl⟩
    obtain ⟨offset, hmarks, rfl⟩ := (h.marks_iff hl).mp hmarks'
    obtain ⟨t, hunder, hmatch⟩ := h.exists_isUnder hmarks.le_length hunder'
    have hkind : t.kind = .identifier := hmatch.kind.symm.trans hkind'
    rw [hmatch.lexeme hkind] at hword'
    exact ⟨_, Symbol.at?_eq_some_iff.mpr ⟨offset, t, hmarks, hunder, hkind, hword', rfl⟩,
      (h.symbol_eq hunder.1 hkind hmatch).symm⟩
  · rintro ⟨s', hat, rfl⟩
    obtain ⟨offset, t, hmarks, hunder, hkind, hword, rfl⟩ := Symbol.at?_eq_some_iff.mp hat
    obtain ⟨u, hu, hmatch⟩ := h.forth t hunder.1
    refine ⟨place offset, u, (h.marks_iff hl).mpr ⟨offset, hmarks, rfl⟩,
      h.isUnder_place hmarks.le_length hunder hu hmatch, hmatch.kind.trans hkind, ?_,
      (h.symbol_eq hunder.1 hkind hmatch).symm⟩
    rw [hmatch.lexeme hkind]
    exact hword

end Placed

end ChapelServer
