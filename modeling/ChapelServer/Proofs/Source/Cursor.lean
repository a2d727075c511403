import ChapelServer.Proofs.Source.Position
import ChapelServer.Server.Request

/-!
# The symbol under the cursor, exactly

The tokens of a text follow each other without overlap and none is empty. So at most one of them
covers an offset, at most one ends there, and what the search for a token picks is determined: the
one that covers the offset, or else the one that ends at it. A symbol is found if that token is an
identifier and no reserved word. Its range is the stretch of the token on the cursor's own line.
-/

namespace ChapelServer

/-! ## The order of tokens -/

namespace Token

theorem lexeme?_ne_nil {text lexeme : List Char} {kind : Kind}
    (h : lexeme? text = some (kind, lexeme)) : lexeme ≠ [] := by
  rintro rfl
  unfold lexeme? at h
  split at h
  · cases h
  · cases h
  · cases h
  · split at h
    · cases h
    · split at h
      · cases h
      · split at h
        · cases h
        · cases h

theorem start_lt_stop_of_mem_scan {t : Token} {source : List Char} (h : t ∈ scan source) :
    t.start < t.stop := by
  obtain ⟨k, -, hlex⟩ := lexeme?_of_mem_scanFrom h
  have hlength := List.length_pos_iff.mpr (lexeme?_ne_nil hlex)
  simp only [stop]
  omega

theorem le_start_of_mem_scanFrom {t : Token} {offset inside : Nat} {rest : List Char}
    (h : t ∈ scanFrom offset inside rest) : offset + inside ≤ t.start := by
  fun_induction scanFrom offset inside rest with
  | case1 => simp at h
  | case2 offset inside c rest ih =>
    have := ih h
    omega
  | case3 offset c rest _ ih =>
    have := ih h
    omega
  | case4 offset c rest kind lexeme _ ih =>
    rcases List.mem_cons.mp h with rfl | h
    · exact Nat.le_refl offset
    · have := ih h
      omega

/-- Each token begins after the ones before it have ended. -/
theorem scanFrom_pairwise (offset inside : Nat) (rest : List Char) :
    (scanFrom offset inside rest).Pairwise fun t u => t.stop ≤ u.start := by
  fun_induction scanFrom offset inside rest with
  | case1 => exact List.Pairwise.nil
  | case2 offset inside c rest ih => exact ih
  | case3 offset c rest _ ih => exact ih
  | case4 offset c rest kind lexeme hfound ih =>
    refine List.pairwise_cons.mpr ⟨fun u hu => ?_, ih⟩
    have hlength := List.length_pos_iff.mpr (lexeme?_ne_nil hfound)
    have hstart := le_start_of_mem_scanFrom hu
    simp only [stop]
    omega

/-! ## The token at an offset -/

section Search

variable {tokens : List Token} {t : Token} {offset : Nat}

/-- No token is found among those that begin beyond the offset. -/
theorem at?_of_beyond (h : ∀ u ∈ tokens, offset < u.start) (candidate : Option Token) :
    at? offset candidate tokens = candidate := by
  cases tokens with
  | nil => rfl
  | cons u rest => rw [at?, if_pos (h u List.mem_cons_self)]

/-- No token is found if none covers the offset and none ends there. -/
theorem at?_of_clear (hcovers : ∀ u ∈ tokens, ¬ (u.start ≤ offset ∧ offset < u.stop))
    (hends : ∀ u ∈ tokens, u.stop ≠ offset) (candidate : Option Token) :
    at? offset candidate tokens = candidate := by
  induction tokens with
  | nil => rfl
  | cons u rest ih =>
    rw [at?]
    by_cases hlt : offset < u.start
    · rw [if_pos hlt]
    · have hnot := hcovers u List.mem_cons_self
      rw [if_neg hlt, if_neg (by omega), if_neg (hends u List.mem_cons_self)]
      exact ih (fun v hv => hcovers v (List.mem_cons_of_mem u hv))
        fun v hv => hends v (List.mem_cons_of_mem u hv)

/-- The token that covers the offset is found. -/
theorem at?_of_covers (horder : tokens.Pairwise fun t u => t.stop ≤ u.start) (hmem : t ∈ tokens)
    (hstart : t.start ≤ offset) (hstop : offset < t.stop) (candidate : Option Token) :
    at? offset candidate tokens = some t := by
  induction tokens generalizing candidate with
  | nil => simp at hmem
  | cons u rest ih =>
    obtain ⟨hu, hrest⟩ := List.pairwise_cons.mp horder
    rw [at?]
    rcases List.mem_cons.mp hmem with rfl | hmem
    · rw [if_neg (Nat.not_lt.mpr hstart), if_pos hstop]
    · have hbefore := hu t hmem
      have hle : u.start ≤ u.stop := Nat.le_add_right _ _
      rw [if_neg (by omega), if_neg (by omega)]
      exact ih hrest hmem _

/-- The token that ends at the offset is found, unless one begins there. -/
theorem at?_of_ends (horder : tokens.Pairwise fun t u => t.stop ≤ u.start) (hmem : t ∈ tokens)
    (hnonempty : t.start < t.stop) (hstop : t.stop = offset)
    (hclear : ∀ u ∈ tokens, u.start ≠ offset) (candidate : Option Token) :
    at? offset candidate tokens = some t := by
  induction tokens generalizing candidate with
  | nil => simp at hmem
  | cons u rest ih =>
    obtain ⟨hu, hrest⟩ := List.pairwise_cons.mp horder
    have hclear' : ∀ v ∈ rest, v.start ≠ offset := fun v hv => hclear v (List.mem_cons_of_mem u hv)
    rw [at?]
    rcases List.mem_cons.mp hmem with rfl | hmem
    · rw [if_neg (by omega), if_neg (by omega), if_pos hstop]
      refine at?_of_beyond (fun v hv => ?_) _
      have hle := hu v hv
      have hne := hclear' v hv
      omega
    · have hbefore := hu t hmem
      have hle : u.start ≤ u.stop := Nat.le_add_right _ _
      rw [if_neg (by omega), if_neg (by omega)]
      exact ih hrest hmem hclear' _

end Search

/-- The cursor at the offset is on the token: it covers the offset, or it ends there and no token
begins there. -/
def IsUnder (source : List Char) (offset : Nat) (t : Token) : Prop :=
  t ∈ scan source ∧
    (t.start ≤ offset ∧ offset < t.stop ∨
      t.stop = offset ∧ ∀ u ∈ scan source, u.start ≠ offset)

/-- The search picks the token that the cursor is on. -/
theorem at?_scan_iff {source : List Char} {offset : Nat} {t : Token} :
    at? offset none (scan source) = some t ↔ IsUnder source offset t := by
  have horder : (scan source).Pairwise fun t u => t.stop ≤ u.start := scanFrom_pairwise 0 0 source
  have hfinds {u : Token} (hu : IsUnder source offset u) :
      at? offset none (scan source) = some u := by
    obtain ⟨hmem, ⟨hstart, hstop⟩ | ⟨hstop, hclear⟩⟩ := hu
    · exact at?_of_covers horder hmem hstart hstop none
    · exact at?_of_ends horder hmem (start_lt_stop_of_mem_scan hmem) hstop hclear none
  refine ⟨fun hat => ?_, hfinds⟩
  by_cases hunder : ∃ u, IsUnder source offset u
  · obtain ⟨u, hu⟩ := hunder
    rw [hfinds hu] at hat
    exact Option.some.inj hat ▸ hu
  · -- A token that begins at the offset would cover it, so none ends there either.
    have hcovers : ∀ u ∈ scan source, ¬ (u.start ≤ offset ∧ offset < u.stop) :=
      fun u hu hcover => hunder ⟨u, hu, .inl hcover⟩
    have hends : ∀ u ∈ scan source, u.stop ≠ offset := by
      intro u hu hstop
      refine hunder ⟨u, hu, .inr ⟨hstop, fun v hv hstart => hcovers v hv ?_⟩⟩
      have hv' := start_lt_stop_of_mem_scan hv
      omega
    rw [at?_of_clear hcovers hends none] at hat
    cases hat

/-! ## Identifiers on a line -/

theorem not_endsLine_of_mem_identifier {t : Token} {source : List Char} (h : t ∈ scan source)
    (hkind : t.kind = .identifier) {c : Char} (hc : c ∈ t.lexeme) : endsLine c = false := by
  obtain ⟨k, -, hlex⟩ := lexeme?_of_mem_scanFrom h
  rw [hkind] at hlex
  obtain ⟨hr, hn⟩ := not_endsLine_of_belongs (belongs_of_lexeme? hlex c hc)
  simp [endsLine, hr, hn]

theorem getElem?_of_identifier {t : Token} {source : List Char} (h : t ∈ scan source)
    (hkind : t.kind = .identifier) {i : Nat} (hstart : t.start ≤ i) (hstop : i < t.stop) :
    ∃ c, source[i]? = some c ∧ endsLine c = false := by
  obtain ⟨hslice, -⟩ := identifier_of_mem_scan h hkind
  have hlt : i - t.start < t.lexeme.length := by
    simp only [stop] at hstop
    omega
  refine ⟨t.lexeme[i - t.start], ?_, not_endsLine_of_mem_identifier h hkind (List.getElem_mem hlt)⟩
  rw [← List.getElem?_eq_getElem hlt, ← hslice, List.getElem?_take_of_lt hlt, List.getElem?_drop,
    Nat.add_sub_cancel' hstart]

/-- An identifier lies on one line with each offset that it touches. -/
theorem identifier_within_line {t : Token} {source : List Char} {k offset : Nat} {line : Line}
    (h : t ∈ scan source) (hkind : t.kind = .identifier) (hline : Line.IsAt source k line)
    (hhas : line.Has offset) (hstart : t.start ≤ offset) (hstop : offset ≤ t.stop) :
    line.start ≤ t.start ∧ t.stop ≤ line.start + line.width := by
  obtain ⟨before, text, after, rfl, hstands, -, rfl⟩ := hline
  obtain ⟨hlo, hhi⟩ : before.length ≤ offset ∧ offset ≤ before.length + text.length := hhas
  constructor
  · -- Otherwise the line break before the line would stand in the identifier.
    refine Nat.le_of_not_lt fun hlt => ?_
    change t.start < before.length at hlt
    obtain ⟨c, hget, hplain⟩ :=
      getElem?_of_identifier h hkind (i := before.length - 1) (by omega) (by omega)
    rw [List.getElem?_append_left (by omega), ← List.getLast?_eq_getElem?] at hget
    rw [hstands.opens c hget] at hplain
    cases hplain
  · -- Otherwise the line break after the line would.
    refine Nat.le_of_not_lt fun hlt => ?_
    change before.length + text.length < t.stop at hlt
    obtain ⟨c, hget, hplain⟩ :=
      getElem?_of_identifier h hkind (i := before.length + text.length) (by omega) hlt
    rw [List.getElem?_append_right (by omega), List.getElem?_append_right (by omega)] at hget
    rw [hstands.closes c (by simpa [List.head?_eq_getElem?] using hget)] at hplain
    cases hplain

end Token

/-! ## The symbol at a position -/

/-- The reserved words are the labels of the completion items. -/
theorem isKeyword_eq_false_iff {word : List Char} :
    isKeyword word = false ↔ word ∉ CompletionItem.catalog.map fun item => item.label.toList := by
  simp only [isKeyword, CompletionItem.catalog, List.any_eq_false, beq_iff_eq, List.map_map,
    List.mem_map, Function.comp_apply, not_exists, not_and]

namespace Symbol

theorem at?_eq_some_iff {source : List Char} {p : Position} {s : Symbol} :
    at? source p = some s ↔
      ∃ (offset : Nat) (t : Token), p.Marks source offset ∧ t.IsUnder source offset ∧
        t.kind = .identifier ∧ isKeyword t.lexeme = false ∧ s = ⟨t.lexeme,
          ⟨.ofOffset (Line.scan source) t.start, .ofOffset (Line.scan source) t.stop⟩⟩ := by
  simp only [at?_iff_token, Position.offset?_scan_iff, Token.at?_scan_iff]

/-- The cursor at the position is on an identifier of this name, which is no reserved word. -/
def IsNamed (source : List Char) (p : Position) (name : List Char) : Prop :=
  ∃ (offset : Nat) (t : Token), p.Marks source offset ∧ t.IsUnder source offset ∧
    t.kind = .identifier ∧ t.lexeme = name ∧
    name ∉ CompletionItem.catalog.map fun item => item.label.toList

theorem exists_range_iff {source : List Char} {p : Position} {name : List Char} :
    (∃ range, at? source p = some ⟨name, range⟩) ↔ IsNamed source p name := by
  simp only [at?_eq_some_iff, IsNamed, ← isKeyword_eq_false_iff]
  constructor
  · rintro ⟨range, offset, t, hmarks, hunder, hkind, hword, hsymbol⟩
    obtain ⟨rfl, -⟩ := Symbol.mk.inj hsymbol
    exact ⟨offset, t, hmarks, hunder, hkind, rfl, hword⟩
  · rintro ⟨offset, t, hmarks, hunder, hkind, rfl, hword⟩
    exact ⟨_, offset, t, hmarks, hunder, hkind, hword, rfl⟩

/-- A position names a symbol exactly if the cursor is on an identifier that is no reserved word.
A cursor on a token of another kind names none. -/
theorem found_iff_under_cursor (source : List Char) (p : Position) :
    (∀ name, (∃ range, at? source p = some ⟨name, range⟩) ↔ IsNamed source p name) ∧
      (at? source p = none ↔ ∀ name, ¬ IsNamed source p name) ∧
      ∀ (offset : Nat) (t : Token), p.Marks source offset → t.IsUnder source offset →
        t.kind ≠ .identifier → at? source p = none := by
  refine ⟨fun name => exists_range_iff, ?_, fun offset t hmarks hunder hkind => ?_⟩
  · simp only [← exists_range_iff, Option.eq_none_iff_forall_ne_some]
    exact ⟨fun h name ⟨range, hsome⟩ => h _ hsome, fun h s hsome => h s.name ⟨s.range, hsome⟩⟩
  · refine Option.eq_none_iff_forall_ne_some.mpr fun s hsome => ?_
    obtain ⟨offset', t', hmarks', hunder', hkind', -⟩ := at?_eq_some_iff.mp hsome
    -- The position has one offset, and the cursor there is on one token.
    obtain rfl : offset = offset' := by
      rw [← Position.offset?_scan_iff] at hmarks hmarks'
      exact Option.some.inj (hmarks.symm.trans hmarks')
    obtain rfl : t = t' := by
      rw [← Token.at?_scan_iff] at hunder hunder'
      exact Option.some.inj (hunder.symm.trans hunder')
    exact hkind hkind'

/-- A comment right after an identifier, on the second line. -/
def gluedComment : List Char := ['x', '\r', '\n', 's', '/', '/', 't']

theorem found_iff_under_cursor_gluedComment :
    ∃ t : Token, (⟨1, 4⟩ : Position).Marks gluedComment 7 ∧ t.IsUnder gluedComment 7 ∧
      t.kind = .lineComment ∧ at? gluedComment ⟨1, 4⟩ = none := by
  have hmarks : (⟨1, 4⟩ : Position).Marks gluedComment 7 :=
    Position.offset?_scan_iff.mp (by decide)
  have hunder : Token.IsUnder gluedComment 7 ⟨.lineComment, ['/', '/', 't'], 4⟩ :=
    Token.at?_scan_iff.mp (by decide)
  have hnone := (found_iff_under_cursor gluedComment ⟨1, 4⟩).2.2 7 _ hmarks hunder (by decide)
  exact ⟨_, hmarks, hunder, rfl, hnone⟩

/-! ## The range of a symbol -/

/-- An identifier of the text that is no reserved word, and the line that it stands on. -/
structure StandsOn (source : List Char) (k : Nat) (line : Line) (t : Token) : Prop where
  isAt : Line.IsAt source k line
  mem : t ∈ Token.scan source
  kind : t.kind = .identifier
  word : isKeyword t.lexeme = false
  start : line.start ≤ t.start
  stop : t.stop ≤ line.start + line.width

/-- The symbol that the identifier is. -/
def onLine (k : Nat) (line : Line) (t : Token) : Symbol :=
  ⟨t.lexeme, ⟨⟨k, (t.start : Int) - line.start⟩, ⟨k, (t.stop : Int) - line.start⟩⟩⟩

section OnLine

variable {source : List Char} {k : Nat} {line : Line} {t : Token}

theorem StandsOn.eq_onLine (h : StandsOn source k line t) :
    ⟨t.lexeme, ⟨.ofOffset (Line.scan source) t.start, .ofOffset (Line.scan source) t.stop⟩⟩ =
      onLine k line t := by
  have hle : t.start ≤ t.stop := Nat.le_add_right _ _
  have hstart : line.Has t.start := ⟨h.start, Nat.le_trans hle h.stop⟩
  have hstop : line.Has t.stop := ⟨Nat.le_trans h.start hle, h.stop⟩
  rw [Position.ofOffset_of_isAt h.isAt hstart, Position.ofOffset_of_isAt h.isAt hstop, onLine]

/-- An offset of the identifier, or right after it, is marked by a position of the line. -/
theorem StandsOn.marks (h : StandsOn source k line t) {offset : Nat} (hstart : t.start ≤ offset)
    (hstop : offset ≤ t.stop) :
    (⟨k, (offset : Int) - line.start⟩ : Position).Marks source offset := by
  have hlo := h.start
  have hhi := h.stop
  refine ⟨k, offset - line.start, line, ?_, h.isAt, by omega, by omega⟩
  rw [Int.ofNat_sub (Nat.le_trans hlo hstart)]

theorem StandsOn.at? (h : StandsOn source k line t) {offset : Nat} (hstart : t.start ≤ offset)
    (hstop : offset < t.stop) :
    Symbol.at? source ⟨k, (offset : Int) - line.start⟩ = some (onLine k line t) :=
  at?_eq_some_iff.mpr ⟨offset, t, h.marks hstart (Nat.le_of_lt hstop),
    ⟨h.mem, .inl ⟨hstart, hstop⟩⟩, h.kind, h.word, h.eq_onLine.symm⟩

end OnLine

/-- A symbol that is found stands on the line of the cursor, which touches it. -/
theorem standsOn_of_at? {source : List Char} {p : Position} {s : Symbol}
    (h : at? source p = some s) :
    ∃ (k : Nat) (line : Line) (t : Token) (offset : Nat), StandsOn source k line t ∧
      s = onLine k line t ∧ p = ⟨k, (offset : Int) - line.start⟩ ∧ t.start ≤ offset ∧
      offset ≤ t.stop := by
  obtain ⟨offset, t, hmarks, ⟨hmem, hplace⟩, hkind, hword, rfl⟩ := at?_eq_some_iff.mp h
  obtain ⟨k, c, line, rfl, hline, hwidth, rfl⟩ := hmarks
  have htouch : t.start ≤ line.start + c ∧ line.start + c ≤ t.stop := by
    have hle : t.start ≤ t.stop := Nat.le_add_right _ _
    omega
  have hhas : line.Has (line.start + c) := ⟨Nat.le_add_right _ _, Nat.add_le_add_left hwidth _⟩
  obtain ⟨hstart, hstop⟩ :=
    Token.identifier_within_line hmem hkind hline hhas htouch.1 htouch.2
  have hon : StandsOn source k line t := ⟨hline, hmem, hkind, hword, hstart, hstop⟩
  refine ⟨k, line, t, line.start + c, hon, hon.eq_onLine, ?_, htouch.1, htouch.2⟩
  simp only [Position.mk.injEq, true_and]
  omega

/-- The range of a symbol lies on the line of the cursor, has the cursor in it or at one of its
ends, and delimits the name of the symbol in the text. From each of its characters, the same symbol
is found. -/
theorem range_delimits_name {source : List Char} {p : Position} {s : Symbol}
    (h : at? source p = some s) :
    s.range.start.line = p.line ∧ s.range.stop.line = p.line ∧
      s.range.start.character ≤ p.character ∧ p.character ≤ s.range.stop.character ∧
      s.range.stop.character - s.range.start.character = s.name.length ∧
      (∃ before after, source = before ++ s.name ++ after ∧
        s.range.start.Marks source before.length ∧
        s.range.stop.Marks source (before.length + s.name.length)) ∧
      ∀ c, s.range.start.character ≤ c → c < s.range.stop.character →
        at? source ⟨p.line, c⟩ = some s := by
  obtain ⟨k, line, t, offset, hon, rfl, rfl, hstart, hstop⟩ := standsOn_of_at? h
  have hlength : t.stop = t.start + t.lexeme.length := rfl
  refine ⟨rfl, rfl, ?_, ?_, ?_, ?_, ?_⟩
  · simp only [onLine]
    omega
  · simp only [onLine]
    omega
  · simp only [onLine]
    omega
  · obtain ⟨hslice, hend, -⟩ := Token.identifier_of_mem_scan hon.mem hon.kind
    have hbefore : (source.take t.start).length = t.start := List.length_take_of_le (by omega)
    refine ⟨source.take t.start, source.drop t.stop, ?_, ?_, ?_⟩
    · calc source
          = source.take t.start ++ ((source.drop t.start).take t.lexeme.length ++
              (source.drop t.start).drop t.lexeme.length) := by
            rw [List.take_append_drop, List.take_append_drop]
        _ = source.take t.start ++ t.lexeme ++ source.drop t.stop := by
            rw [hslice, List.drop_drop, List.append_assoc, ← hlength]
    · rw [hbefore]
      exact hon.marks (Nat.le_refl _) (by omega)
    · rw [hbefore]
      exact hon.marks (by omega) (Nat.le_refl _)
  · intro c hlo hhi
    simp only [onLine] at hlo hhi
    obtain ⟨offset', hoffset'⟩ : ∃ offset' : Nat, (offset' : Int) = line.start + c :=
      ⟨(line.start + c).toNat, by have := hon.start; omega⟩
    obtain rfl : c = (offset' : Int) - line.start := by omega
    exact hon.at? (by omega) (by omega)

/-- Two lines with a line break of two characters between them. -/
def twoLines : List Char := ['a', '\r', '\n', ' ', 'b', '$', '1', '+', 'a']

theorem range_delimits_name_twoLines :
    at? twoLines ⟨1, 4⟩ = some ⟨['b', '$', '1'], ⟨⟨1, 1⟩, ⟨1, 4⟩⟩⟩ ∧
      (∃ before after, twoLines = before ++ ['b', '$', '1'] ++ after ∧
        (⟨1, 1⟩ : Position).Marks twoLines before.length ∧
        (⟨1, 4⟩ : Position).Marks twoLines (before.length + 3)) ∧
      at? twoLines ⟨1, 2⟩ = some ⟨['b', '$', '1'], ⟨⟨1, 1⟩, ⟨1, 4⟩⟩⟩ := by
  have hfound : at? twoLines ⟨1, 4⟩ = some ⟨['b', '$', '1'], ⟨⟨1, 1⟩, ⟨1, 4⟩⟩⟩ := by decide
  obtain ⟨-, -, -, -, -, hmarks, hagain⟩ := range_delimits_name hfound
  exact ⟨hfound, hmarks, hagain 2 (by decide) (by decide)⟩

end Symbol

end ChapelServer
