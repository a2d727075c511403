import ChapelServer.Proofs.Source.Symbol

/-!
# Positions and the lines they lie on

A line of a text is a stretch without line breaks that whole lines stand before, and that a line
break or the end of the text comes after. Its number is the number of line breaks before it. The
scan of a text finds exactly these lines, so a position has an offset exactly if there is such a
line with its number, and the line is wide enough.
-/

namespace ChapelServer

/-! ## Line breaks -/

namespace Text

/-- How many line breaks a text has. A carriage return and the line feed after it are one. -/
def lineBreaks : List Char → Nat
  | [] => 0
  | '\r' :: '\n' :: rest => lineBreaks rest + 1
  | c :: rest => if Token.endsLine c then lineBreaks rest + 1 else lineBreaks rest

/-- Between the two texts, a carriage return is cut from its line feed. -/
def CutsBreak (before after : List Char) : Prop :=
  before.getLast? = some '\r' ∧ after.head? = some '\n'

theorem not_cutsBreak_nil (after : List Char) : ¬ CutsBreak [] after := by
  simp [CutsBreak]

theorem CutsBreak.cons {before after : List Char} (h : CutsBreak before after) (c : Char) :
    CutsBreak (c :: before) after := by
  obtain ⟨hlast, hhead⟩ := h
  exact ⟨by simp [List.getLast?_cons, hlast], hhead⟩

/-- A carriage return before its line feed is taken with it, every other character alone. -/
@[elab_as_elim]
theorem break_induction {motive : List Char → Prop} (text : List Char) (nil : motive [])
    (crlf : ∀ rest, motive rest → motive ('\r' :: '\n' :: rest))
    (cons : ∀ c rest, ¬ CutsBreak [c] rest → motive rest → motive (c :: rest)) : motive text := by
  fun_induction lineBreaks text with
  | case1 => exact nil
  | case2 rest ih => exact crlf rest ih
  | case3 c rest hne _ ih | case4 c rest hne _ ih =>
    refine cons c rest ?_ ih
    rintro ⟨hc, hrest⟩
    obtain ⟨rest, rfl⟩ := List.head?_eq_some_iff.mp hrest
    exact hne rest (by simpa using hc) rfl

theorem lineBreaks_cons {c : Char} {rest : List Char} (h : ¬ CutsBreak [c] rest) :
    lineBreaks (c :: rest) = if Token.endsLine c then lineBreaks rest + 1 else lineBreaks rest := by
  rw [lineBreaks]
  rintro rest' rfl rfl
  exact h ⟨rfl, rfl⟩

/-- After a character come the rest, or the text after it if there is no rest. -/
theorem not_cutsBreak_append {c : Char} {rest after : List Char} (hrest : ¬ CutsBreak [c] rest)
    (h : ¬ CutsBreak (c :: rest) after) : ¬ CutsBreak [c] (rest ++ after) := by
  cases rest with
  | nil => exact h
  | cons d rest => exact hrest

theorem not_cutsBreak_left {c : Char} {rest after : List Char}
    (h : ¬ CutsBreak [c] (rest ++ after)) : ¬ CutsBreak [c] rest := by
  rintro ⟨hc, hrest⟩
  exact h ⟨hc, by rw [List.head?_append, hrest, Option.some_or]⟩

theorem not_cutsBreak_of_plain {text : List Char} (h : ∀ c ∈ text, Token.endsLine c = false)
    (after : List Char) : ¬ CutsBreak text after := by
  rintro ⟨hr, -⟩
  exact absurd (h '\r' (List.mem_of_getLast? hr)) (by decide)

end Text

/-! ## The lines of a text -/

namespace Line

theorem scanFrom_crlf (start width : Nat) (rest : List Char) :
    scanFrom start width ('\r' :: '\n' :: rest) =
      ⟨start, width⟩ :: scanFrom (start + width + 2) 0 rest := by
  rw [scanFrom]

theorem scanFrom_cons {c : Char} {rest : List Char} (h : ¬ Text.CutsBreak [c] rest)
    (start width : Nat) :
    scanFrom start width (c :: rest) =
      if Token.endsLine c then ⟨start, width⟩ :: scanFrom (start + width + 1) 0 rest
      else scanFrom start (width + 1) rest := by
  rw [scanFrom]
  · simp [Token.endsLine]
  · rintro rest' rfl rfl
    exact h ⟨rfl, rfl⟩

/-- The text is one line: whole lines stand before it, and a line break or the end comes after. -/
structure Stands (before text after : List Char) : Prop where
  opens : ∀ c, before.getLast? = some c → Token.endsLine c = true
  whole : ¬ Text.CutsBreak before (text ++ after)
  plain : ∀ c ∈ text, Token.endsLine c = false
  closes : ∀ c, after.head? = some c → Token.endsLine c = true

/-- Whole lines are scanned apart from what follows them. -/
theorem scanFrom_append {before after : List Char}
    (hopens : ∀ c, before.getLast? = some c → Token.endsLine c = true)
    (hwhole : ¬ Text.CutsBreak before after) (start width : Nat)
    (hwidth : before = [] → width = 0) :
    ∃ lines, lines.length = Text.lineBreaks before ∧ scanFrom start width (before ++ after) =
      lines ++ scanFrom (start + width + before.length) 0 after := by
  induction before using Text.break_induction generalizing start width with
  | nil =>
    obtain rfl := hwidth rfl
    exact ⟨[], rfl, rfl⟩
  | crlf rest ih =>
    obtain ⟨lines, hlength, hlines⟩ := ih (fun c hc => hopens c (by simp [List.getLast?_cons, hc]))
      (fun hcut => hwhole ((hcut.cons '\n').cons '\r')) (start + width + 2) 0 fun _ => rfl
    refine ⟨⟨start, width⟩ :: lines, by simp [Text.lineBreaks, hlength], ?_⟩
    rw [List.cons_append, List.cons_append, scanFrom_crlf, hlines, List.cons_append]
    congr 3
    simp only [List.length_cons]
    omega
  | cons c rest hc ih =>
    have hopens' : ∀ d, rest.getLast? = some d → Token.endsLine d = true :=
      fun d hd => hopens d (by simp [List.getLast?_cons, hd])
    have hwhole' : ¬ Text.CutsBreak rest after := fun hcut => hwhole (hcut.cons c)
    rw [List.cons_append, scanFrom_cons (Text.not_cutsBreak_append hc hwhole),
      Text.lineBreaks_cons hc]
    cases hends : Token.endsLine c with
    | true =>
      obtain ⟨lines, hlength, hlines⟩ := ih hopens' hwhole' (start + width + 1) 0 fun _ => rfl
      refine ⟨⟨start, width⟩ :: lines, by simp [hlength], ?_⟩
      rw [if_pos rfl, hlines, List.cons_append]
      congr 3
      simp only [List.length_cons]
      omega
    | false =>
      -- The last character ends a line, so that this one is not the last.
      have hne : rest ≠ [] := by
        rintro rfl
        rw [hopens c rfl] at hends
        cases hends
      obtain ⟨lines, hlength, hlines⟩ := ih hopens' hwhole' start (width + 1) fun h => absurd h hne
      refine ⟨lines, by simpa using hlength, ?_⟩
      rw [if_neg (by decide), hlines]
      congr 2
      simp only [List.length_cons]
      omega

theorem scanFrom_plain {text : List Char} (h : ∀ c ∈ text, Token.endsLine c = false)
    (start width : Nat) (after : List Char) :
    scanFrom start width (text ++ after) = scanFrom start (width + text.length) after := by
  induction text generalizing width with
  | nil => rfl
  | cons c text ih =>
    have hc := h c List.mem_cons_self
    have hcut : ¬ Text.CutsBreak [c] (text ++ after) :=
      Text.not_cutsBreak_of_plain (by simpa using hc) _
    rw [List.cons_append, scanFrom_cons hcut, hc, if_neg (by decide),
      ih (fun d hd => h d (List.mem_cons_of_mem c hd))]
    congr 1
    simp only [List.length_cons]
    omega

theorem scanFrom_closed {after : List Char}
    (h : ∀ c, after.head? = some c → Token.endsLine c = true) (start width : Nat) :
    ∃ lines, scanFrom start width after = ⟨start, width⟩ :: lines := by
  cases after using Text.break_induction with
  | nil => exact ⟨[], rfl⟩
  | crlf rest _ => exact ⟨_, scanFrom_crlf start width rest⟩
  | cons c rest hc _ =>
    rw [scanFrom_cons hc, if_pos (h c rfl)]
    exact ⟨_, rfl⟩

/-- The line with this number of a text. -/
def IsAt (source : List Char) (k : Nat) (line : Line) : Prop :=
  ∃ before text after, source = before ++ (text ++ after) ∧ Stands before text after ∧
    Text.lineBreaks before = k ∧ line = ⟨before.length, text.length⟩

theorem IsAt.getElem?_scan {source : List Char} {k : Nat} {line : Line} (h : IsAt source k line) :
    (scan source)[k]? = some line := by
  obtain ⟨before, text, after, rfl, hstands, rfl, rfl⟩ := h
  obtain ⟨lines, hlength, hlines⟩ := scanFrom_append hstands.opens hstands.whole 0 0 fun _ => rfl
  obtain ⟨more, hmore⟩ := scanFrom_closed hstands.closes before.length text.length
  rw [scan, hlines, scanFrom_plain hstands.plain, ← hlength]
  simp [hmore]

theorem IsAt.le_length {source : List Char} {k : Nat} {line : Line} (h : IsAt source k line) :
    line.start + line.width ≤ source.length := by
  obtain ⟨before, text, after, rfl, -, -, rfl⟩ := h
  simp only [List.length_append]
  omega

theorem isAt_zero_of_closed {source : List Char}
    (h : ∀ c, source.head? = some c → Token.endsLine c = true) : IsAt source 0 ⟨0, 0⟩ :=
  ⟨[], [], source, rfl, ⟨by simp, Text.not_cutsBreak_nil _, by simp, h⟩, rfl, rfl⟩

theorem Stands.prepend {before text after start : List Char} (h : Stands before text after)
    (hopens : before = [] → ∀ c, start.getLast? = some c → Token.endsLine c = true)
    (hwhole : before = [] → ¬ Text.CutsBreak start (text ++ after)) :
    Stands (start ++ before) text after := by
  cases before with
  | nil =>
    rw [List.append_nil]
    exact ⟨hopens rfl, hwhole rfl, h.plain, h.closes⟩
  | cons c before =>
    have hlast : (start ++ c :: before).getLast? = (c :: before).getLast? := by
      rw [List.getLast?_append, List.getLast?_cons, Option.some_or]
    refine ⟨?_, ?_, h.plain, h.closes⟩
    · rw [hlast]
      exact h.opens
    · rw [Text.CutsBreak, hlast]
      exact h.whole

/-- Every number up to that of the last line is that of a line. -/
theorem exists_isAt {source : List Char} {k : Nat} (h : k ≤ Text.lineBreaks source) :
    ∃ line, IsAt source k line := by
  induction source using Text.break_induction generalizing k with
  | nil =>
    obtain rfl : k = 0 := Nat.le_zero.mp h
    exact ⟨_, isAt_zero_of_closed (by simp)⟩
  | crlf rest ih =>
    cases k with
    | zero => exact ⟨_, isAt_zero_of_closed (by simp [Token.endsLine])⟩
    | succ k =>
      obtain ⟨_, before, text, after, rfl, hstands, rfl, rfl⟩ := ih (Nat.le_of_succ_le_succ h)
      have hstands' : Stands (['\r', '\n'] ++ before) text after :=
        hstands.prepend (by simp [Token.endsLine]) (by simp [Text.CutsBreak])
      exact ⟨_, _, text, after, rfl, hstands', rfl, rfl⟩
  | cons c rest hc ih =>
    rw [Text.lineBreaks_cons hc] at h
    cases hends : Token.endsLine c with
    | true =>
      rw [hends, if_pos rfl] at h
      cases k with
      | zero => exact ⟨_, isAt_zero_of_closed (by simp [hends])⟩
      | succ k =>
        obtain ⟨_, before, text, after, rfl, hstands, rfl, rfl⟩ := ih (Nat.le_of_succ_le_succ h)
        have hstands' : Stands ([c] ++ before) text after :=
          hstands.prepend (by simp [hends]) (by rintro rfl; exact hc)
        refine ⟨_, _, text, after, rfl, hstands', ?_, rfl⟩
        rw [List.singleton_append, Text.lineBreaks_cons (Text.not_cutsBreak_left hc), hends,
          if_pos rfl]
    | false =>
      rw [hends, if_neg (by decide)] at h
      obtain ⟨_, before, text, after, rfl, hstands, rfl, rfl⟩ := ih h
      by_cases hnil : before = []
      · -- The character belongs to the line itself.
        subst hnil
        have hplain : ∀ d ∈ c :: text, Token.endsLine d = false := by
          simpa [hends] using hstands.plain
        exact ⟨_, [], c :: text, after, rfl,
          ⟨by simp, Text.not_cutsBreak_nil _, hplain, hstands.closes⟩, rfl, rfl⟩
      · have hstands' : Stands ([c] ++ before) text after :=
          hstands.prepend (fun h => absurd h hnil) (fun h => absurd h hnil)
        refine ⟨_, _, text, after, rfl, hstands', ?_, rfl⟩
        rw [List.singleton_append, Text.lineBreaks_cons (Text.not_cutsBreak_left hc), hends,
          if_neg (by decide)]

theorem length_scanFrom (start width : Nat) (rest : List Char) :
    (scanFrom start width rest).length = Text.lineBreaks rest + 1 := by
  induction rest using Text.break_induction generalizing start width with
  | nil => rfl
  | crlf rest ih => rw [scanFrom_crlf, List.length_cons, ih, Text.lineBreaks]
  | cons c rest hc ih =>
    rw [scanFrom_cons hc, Text.lineBreaks_cons hc]
    split
    · rw [List.length_cons, ih]
    · exact ih start (width + 1)

/-- The scan of a text finds its lines, in order. -/
theorem getElem?_scan_iff {source : List Char} {k : Nat} {line : Line} :
    (scan source)[k]? = some line ↔ IsAt source k line := by
  refine ⟨fun h => ?_, IsAt.getElem?_scan⟩
  obtain ⟨hlt, -⟩ := List.getElem?_eq_some_iff.mp h
  rw [scan, length_scanFrom] at hlt
  obtain ⟨line', hline'⟩ := exists_isAt (Nat.le_of_lt_succ hlt)
  rw [hline'.getElem?_scan] at h
  exact Option.some.inj h ▸ hline'

theorem le_start_of_mem_scanFrom {start width : Nat} {rest : List Char} {line : Line}
    (h : line ∈ scanFrom start width rest) : start ≤ line.start := by
  induction rest using Text.break_induction generalizing start width with
  | nil =>
    obtain rfl := List.mem_singleton.mp h
    exact Nat.le_refl start
  | crlf rest ih =>
    rw [scanFrom_crlf] at h
    rcases List.mem_cons.mp h with rfl | h
    · exact Nat.le_refl start
    · have := ih h
      omega
  | cons c rest hc ih =>
    rw [scanFrom_cons hc] at h
    split at h
    · rcases List.mem_cons.mp h with rfl | h
      · exact Nat.le_refl start
      · have := ih h
        omega
    · exact ih h

/-- Each line begins after the ones before it have ended. -/
theorem scanFrom_pairwise (start width : Nat) (rest : List Char) :
    (scanFrom start width rest).Pairwise fun a b => a.start + a.width < b.start := by
  induction rest using Text.break_induction generalizing start width with
  | nil => exact List.pairwise_singleton _ _
  | crlf rest ih =>
    rw [scanFrom_crlf]
    refine List.pairwise_cons.mpr ⟨fun line hline => ?_, ih _ _⟩
    have := le_start_of_mem_scanFrom hline
    simp only
    omega
  | cons c rest hc ih =>
    rw [scanFrom_cons hc]
    split
    · refine List.pairwise_cons.mpr ⟨fun line hline => ?_, ih _ _⟩
      have := le_start_of_mem_scanFrom hline
      simp only
      omega
    · exact ih start (width + 1)

end Line

/-! ## Positions -/

namespace Position

/-- The text has the position, and the offset is where it stands: its line is one of the text's, and
its character is one of that line's or right after the last of them. -/
def Marks (source : List Char) (p : Position) (offset : Nat) : Prop :=
  ∃ (k c : Nat) (line : Line), p = ⟨k, c⟩ ∧ Line.IsAt source k line ∧ c ≤ line.width ∧
    offset = line.start + c

theorem Marks.le_length {source : List Char} {p : Position} {offset : Nat}
    (h : p.Marks source offset) : offset ≤ source.length := by
  obtain ⟨k, c, line, -, hline, hwidth, rfl⟩ := h
  exact Nat.le_trans (Nat.add_le_add_left hwidth _) hline.le_length

theorem offset?_eq_some_iff {lines : List Line} {p : Position} {offset : Nat} :
    p.offset? lines = some offset ↔
      ∃ (k c : Nat) (line : Line), p = ⟨k, c⟩ ∧ lines[k]? = some line ∧ c ≤ line.width ∧
        offset = line.start + c := by
  constructor
  · intro h
    unfold offset? at h
    split at h
    · cases h
    · rename_i hvalid
      obtain ⟨hline, hcharacter⟩ : ¬ p.line < 0 ∧ ¬ p.character < 0 := by simpa using hvalid
      split at h
      · cases h
      · rename_i line hget
        split at h
        · rename_i hwidth
          refine ⟨p.line.toNat, p.character.toNat, line, ?_, hget, hwidth, (Option.some.inj h).symm⟩
          rw [Int.toNat_of_nonneg (Int.not_lt.mp hline),
            Int.toNat_of_nonneg (Int.not_lt.mp hcharacter)]
        · cases h
  · rintro ⟨k, c, line, rfl, hget, hwidth, rfl⟩
    have hline : ¬ ((k : Int) < 0) := by omega
    have hcharacter : ¬ ((c : Int) < 0) := by omega
    simp [offset?, hget, hwidth, hline, hcharacter]

/-- A position has an offset exactly if the text has it. -/
theorem offset?_scan_iff {source : List Char} {p : Position} {offset : Nat} :
    p.offset? (Line.scan source) = some offset ↔ p.Marks source offset := by
  simp only [offset?_eq_some_iff, Line.getElem?_scan_iff, Marks]

/-- The position of an offset is on the line that has it. -/
theorem ofOffset_of_isAt {source : List Char} {k offset : Nat} {line : Line}
    (hline : Line.IsAt source k line) (hhas : line.Has offset) :
    ofOffset (Line.scan source) offset = ⟨k, (offset : Int) - line.start⟩ := by
  obtain ⟨i, line', hget', hle, hnext, hpos⟩ := ofOffset_scan_spec source offset
  have hget := hline.getElem?_scan
  have hapart {a b : Nat} {x y : Line} (hx : (Line.scan source)[a]? = some x)
      (hy : (Line.scan source)[b]? = some y) (hab : a < b) : x.start + x.width < y.start := by
    obtain ⟨ha, rfl⟩ := List.getElem?_eq_some_iff.mp hx
    obtain ⟨hb, rfl⟩ := List.getElem?_eq_some_iff.mp hy
    exact List.pairwise_iff_getElem.mp (Line.scanFrom_pairwise 0 0 source) a b ha hb hab
  -- The line after the last one that begins at or before the offset is too late to have it, and so
  -- are those that come later; the lines before it have ended.
  obtain rfl : i = k := by
    obtain ⟨hk, -⟩ := List.getElem?_eq_some_iff.mp hget
    rcases Nat.lt_trichotomy i k with hlt | heq | hgt
    · have hafter := List.getElem?_eq_getElem (Nat.lt_of_le_of_lt (Nat.succ_le_of_lt hlt) hk)
      have hlate := hnext _ hafter
      rcases Nat.eq_or_lt_of_le (Nat.succ_le_of_lt hlt) with rfl | hlater
      · rw [Option.some.inj (hafter.symm.trans hget)] at hlate
        exact absurd hhas.1 (Nat.not_le_of_lt hlate)
      · have hbetween := hapart hafter hget hlater
        have hfirst := hhas.1
        omega
    · exact heq
    · have hended := hapart hget hget' hgt
      have hlast := hhas.2
      omega
  obtain rfl : line' = line := Option.some.inj (hget'.symm.trans hget)
  exact hpos

end Position

end ChapelServer
