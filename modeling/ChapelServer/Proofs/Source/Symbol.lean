import ChapelServer.Source.Symbol
import ChapelServer.Text.CodePoint

/-!
# Where a symbol stands

The range of a symbol delimits its name in the text: a token is a stretch of the text, and the
position of an offset leads back to that offset unless it stands inside a line break, which no end
of an identifier does.
-/

namespace ChapelServer

/-- What stands in a text with these lines between two positions, if they have both. -/
def Range.slice? {α : Type} (r : Range) (lines : List Line) (source : List α) :
    Option (List α) :=
  (r.start.offset? lines).bind fun start =>
    (r.stop.offset? lines).map fun stop => (source.drop start).take (stop - start)

theorem Range.slice?_map {α β : Type} (f : α → β) (r : Range) (lines : List Line)
    (source : List α) :
    r.slice? lines (source.map f) = (r.slice? lines source).map (List.map f) := by
  unfold slice?
  cases r.start.offset? lines with
  | none => rfl
  | some start => cases r.stop.offset? lines <;> simp

/-! ## Offsets and positions -/

/-- The offset stands between the two characters of a line break. -/
def SplitsBreak (source : List Char) (offset : Nat) : Prop :=
  ∃ k, offset = k + 1 ∧ source[k]? = some '\r' ∧ source[k + 1]? = some '\n'

theorem SplitsBreak.cons {source : List Char} {offset : Nat} (h : SplitsBreak source offset)
    (c : Char) : SplitsBreak (c :: source) (offset + 1) := by
  obtain ⟨k, rfl, hr, hn⟩ := h
  exact ⟨k + 1, rfl, by simpa using hr, by simpa using hn⟩

/-- The offset is one of the line's own: at its start, at its line break, or in between. -/
def Line.Has (line : Line) (offset : Nat) : Prop :=
  line.start ≤ offset ∧ offset ≤ line.start + line.width

/-- The first line begins where the scan does. -/
theorem Line.scanFrom_eq_cons (start width : Nat) (rest : List Char) :
    ∃ wider lines, Line.scanFrom start width rest = ⟨start, wider⟩ :: lines := by
  fun_induction Line.scanFrom start width rest with
  | case4 start width c rest _ _ ih => exact ih
  | _ => exact ⟨_, _, rfl⟩

/-- An offset between the start of a line and that of the next one is one of the line's own, unless
it splits a line break. -/
theorem Line.has_of_scanFrom {start width i offset : Nat} {rest : List Char} {line : Line}
    (hget : (Line.scanFrom start width rest)[i]? = some line) (hlo : line.start ≤ offset)
    (hnext : ∀ next, (Line.scanFrom start width rest)[i + 1]? = some next → offset < next.start)
    (hhi : offset ≤ start + width + rest.length)
    (hsplit : ∀ k, offset = start + width + k → ¬ SplitsBreak rest k) : line.Has offset := by
  fun_induction Line.scanFrom start width rest generalizing i with
  | case1 start width =>
    obtain ⟨-, rfl⟩ : i = 0 ∧ (⟨start, width⟩ : Line) = line := by
      simpa [List.getElem?_cons] using hget
    exact ⟨hlo, hhi⟩
  | case2 start width rest ih =>
    simp only [List.length_cons] at hhi
    cases i with
    | zero =>
      obtain rfl : (⟨start, width⟩ : Line) = line := by simpa using hget
      obtain ⟨wider, lines, hlines⟩ := Line.scanFrom_eq_cons (start + width + 2) 0 rest
      have hlt : offset < start + width + 2 := hnext ⟨_, wider⟩ (by simp [hlines])
      have hne : offset ≠ start + width + 1 := fun he => hsplit 1 he ⟨0, rfl, rfl, rfl⟩
      exact ⟨hlo, by simp only; omega⟩
    | succ i =>
      refine ih hget hnext (by omega) fun k hk hs => ?_
      exact hsplit (k + 2) (by omega) ((hs.cons '\n').cons '\r')
  | case3 start width c rest _ _ ih =>
    simp only [List.length_cons] at hhi
    cases i with
    | zero =>
      obtain rfl : (⟨start, width⟩ : Line) = line := by simpa using hget
      obtain ⟨wider, lines, hlines⟩ := Line.scanFrom_eq_cons (start + width + 1) 0 rest
      have hlt : offset < start + width + 1 := hnext ⟨_, wider⟩ (by simp [hlines])
      exact ⟨hlo, by simp only; omega⟩
    | succ i =>
      refine ih hget hnext (by omega) fun k hk hs => ?_
      exact hsplit (k + 1) (by omega) (hs.cons c)
  | case4 start width c rest _ _ ih =>
    simp only [List.length_cons] at hhi
    exact ih hget hnext (by omega) fun k hk hs => hsplit (k + 1) (by omega) (hs.cons c)

namespace Position

variable {offset : Nat}

/-- The position of an offset is on the last line that begins at or before it. -/
theorem ofOffsetFrom_spec {current : Line} (h : current.start ≤ offset) (rest : List Line)
    (index : Nat) :
    ∃ (i : Nat) (line : Line), (current :: rest)[i]? = some line ∧ line.start ≤ offset ∧
      (∀ next, (current :: rest)[i + 1]? = some next → offset < next.start) ∧
      ofOffsetFrom offset index current rest = ⟨index + i, (offset : Int) - line.start⟩ := by
  induction rest generalizing current index with
  | nil => exact ⟨0, current, rfl, h, by simp, by simp [ofOffsetFrom]⟩
  | cons next rest ih =>
    by_cases hlt : offset < next.start
    · exact ⟨0, current, rfl, h, by simpa using hlt, by simp [ofOffsetFrom, hlt]⟩
    · obtain ⟨i, line, hget, hle, hnext, hpos⟩ := ih (Nat.not_lt.mp hlt) (index + 1)
      refine ⟨i + 1, line, hget, hle, hnext, ?_⟩
      rw [ofOffsetFrom, if_neg hlt, hpos]
      simp only [Position.mk.injEq, and_true]
      omega

/-- Every offset of a text has its position on the last line that begins at or before it. -/
theorem ofOffset_scan_spec (source : List Char) (offset : Nat) :
    ∃ (i : Nat) (line : Line), (Line.scan source)[i]? = some line ∧ line.start ≤ offset ∧
      (∀ next, (Line.scan source)[i + 1]? = some next → offset < next.start) ∧
      ofOffset (Line.scan source) offset = ⟨i, (offset : Int) - line.start⟩ := by
  obtain ⟨wider, lines, hlines⟩ := Line.scanFrom_eq_cons 0 0 source
  have hfirst : (⟨0, wider⟩ : Line).start ≤ offset := Nat.zero_le offset
  have hspec := ofOffsetFrom_spec hfirst lines 0
  rw [Line.scan, hlines, ofOffset]
  simpa using hspec

/-- The line of an offset has it, unless it splits a line break. -/
theorem ofOffset_has {source : List Char} (h : offset ≤ source.length)
    (hsplit : ¬ SplitsBreak source offset) :
    ∃ (i : Nat) (line : Line), (Line.scan source)[i]? = some line ∧ line.Has offset ∧
      ofOffset (Line.scan source) offset = ⟨i, (offset : Int) - line.start⟩ := by
  obtain ⟨i, line, hget, hlo, hnext, hpos⟩ := ofOffset_scan_spec source offset
  refine ⟨i, line, hget, Line.has_of_scanFrom hget hlo hnext (by omega) ?_, hpos⟩
  exact fun k hk hs => hsplit (by simpa [hk] using hs)

/-- The position of an offset leads back to it, unless it splits a line break. -/
theorem offset?_ofOffset {source : List Char} (h : offset ≤ source.length)
    (hsplit : ¬ SplitsBreak source offset) :
    (ofOffset (Line.scan source) offset).offset? (Line.scan source) = some offset := by
  obtain ⟨i, line, hget, ⟨hlo, hhi⟩, hpos⟩ := ofOffset_has h hsplit
  have hcharacter : ((offset : Int) - line.start).toNat = offset - line.start := by omega
  have hvalid : ¬ ((offset : Int) - line.start < 0) := by omega
  have hwidth : offset - line.start ≤ line.width := by omega
  rw [hpos]
  simp [offset?, hget, hcharacter, hvalid, hwidth, Nat.add_sub_cancel' hlo]

end Position

/-! ## Tokens -/

namespace Token

/-- A token is the lexeme that the text has from its start on. -/
theorem lexeme?_of_mem_scanFrom {t : Token} {offset inside : Nat} {rest : List Char}
    (h : t ∈ scanFrom offset inside rest) :
    ∃ k, t.start = offset + k ∧ lexeme? (rest.drop k) = some (t.kind, t.lexeme) := by
  fun_induction scanFrom offset inside rest with
  | case1 => simp at h
  | case2 offset inside c rest ih =>
    obtain ⟨k, hstart, hlex⟩ := ih h
    exact ⟨k + 1, by omega, hlex⟩
  | case3 offset c rest _ ih =>
    obtain ⟨k, hstart, hlex⟩ := ih h
    exact ⟨k + 1, by omega, hlex⟩
  | case4 offset c rest kind lexeme hfound ih =>
    rcases List.mem_cons.mp h with rfl | h
    · exact ⟨0, rfl, hfound⟩
    · obtain ⟨k, hstart, hlex⟩ := ih h
      exact ⟨k + 1, by omega, hlex⟩

theorem lexeme?_identifier {text lexeme : List Char}
    (h : lexeme? text = some (.identifier, lexeme)) :
    ∃ c rest, text = c :: rest ∧ startsIdentifier c = true ∧
      lexeme = c :: rest.takeWhile continuesIdentifier := by
  unfold lexeme? at h
  split at h
  · cases h
  · cases h
  · cases h
  · rename_i c rest _ _
    split at h
    · cases h
    · split at h
      · cases h
      · split at h
        · cases h
          exact ⟨c, rest, rfl, by assumption, rfl⟩
        · cases h

theorem mem_of_at? {t : Token} {offset : Nat} {candidate : Option Token} {tokens : List Token}
    (h : at? offset candidate tokens = some t) : candidate = some t ∨ t ∈ tokens := by
  fun_induction at? offset candidate tokens with
  | case1 => exact .inl h
  | case2 => exact .inl h
  | case3 candidate t' rest =>
    cases h
    exact .inr List.mem_cons_self
  | case4 candidate t' rest _ _ ih =>
    rcases ih h with hc | hmem
    · split at hc
      · cases hc
        exact .inr List.mem_cons_self
      · exact .inl hc
    · exact .inr (List.mem_cons_of_mem _ hmem)

/-- The characters of an identifier are those that may start or continue one. -/
theorem belongs_of_lexeme? {text lexeme : List Char}
    (h : lexeme? text = some (.identifier, lexeme)) :
    ∀ d ∈ lexeme, startsIdentifier d = true ∨ continuesIdentifier d = true := by
  obtain ⟨c, rest, -, hc, rfl⟩ := lexeme?_identifier h
  intro d hd
  rcases List.mem_cons.mp hd with rfl | hd
  · exact .inl hc
  · exact .inr (List.all_eq_true.mp List.all_takeWhile _ hd)

/-- No character of an identifier breaks a line. -/
theorem not_endsLine_of_belongs {d : Char}
    (h : startsIdentifier d = true ∨ continuesIdentifier d = true) : d ≠ '\r' ∧ d ≠ '\n' := by
  constructor <;> rintro rfl <;> revert h <;> decide

/-- An identifier of a text is the stretch of it from its start to its stop, and neither of them
splits a line break. -/
theorem identifier_of_mem_scan {t : Token} {source : List Char} (h : t ∈ scan source)
    (hkind : t.kind = .identifier) :
    (source.drop t.start).take t.lexeme.length = t.lexeme ∧ t.stop ≤ source.length ∧
      ¬ SplitsBreak source t.start ∧ ¬ SplitsBreak source t.stop := by
  obtain ⟨k, hstart, hlex⟩ := lexeme?_of_mem_scanFrom h
  rw [hkind] at hlex
  obtain ⟨c, rest, hdrop, hc, hlexeme⟩ := lexeme?_identifier hlex
  obtain rfl : t.start = k := by omega
  obtain ⟨after, hrest⟩ := List.takeWhile_prefix (l := rest) continuesIdentifier
  have hsource : source.drop t.start = t.lexeme ++ after := by
    rw [hdrop, hlexeme, List.cons_append, hrest]
  have hchar : ∀ d ∈ t.lexeme, d ≠ '\r' ∧ d ≠ '\n' :=
    fun d hd => not_endsLine_of_belongs (belongs_of_lexeme? hlex d hd)
  have hlength : 0 < t.lexeme.length := by simp [hlexeme]
  have hget : ∀ i < t.lexeme.length, source[t.start + i]? = t.lexeme[i]? := by
    intro i hi
    rw [← List.getElem?_drop, hsource, List.getElem?_append_left hi]
  refine ⟨by rw [hsource, List.take_left], ?_, ?_, ?_⟩
  · have hlen := congrArg List.length hsource
    simp only [List.length_drop, List.length_append] at hlen
    simp only [stop]
    omega
  · rintro ⟨j, hj, -, hn⟩
    have hfirst := hget 0 hlength
    rw [Nat.add_zero, hj, hn] at hfirst
    exact (hchar _ (List.mem_of_getElem? hfirst.symm)).2 rfl
  · rintro ⟨j, hj, hr, -⟩
    have hlast := hget (t.lexeme.length - 1) (by omega)
    have hindex : t.start + (t.lexeme.length - 1) = j := by
      simp only [stop] at hj
      omega
    rw [hindex, hr] at hlast
    exact (hchar _ (List.mem_of_getElem? hlast.symm)).1 rfl

end Token

/-- A symbol is found at the offset of its position, where its token is. -/
theorem Symbol.at?_iff_token {source : List Char} {p : Position} {s : Symbol} :
    at? source p = some s ↔
      ∃ (offset : Nat) (t : Token), p.offset? (Line.scan source) = some offset ∧
        Token.at? offset none (Token.scan source) = some t ∧ t.kind = .identifier ∧
        isKeyword t.lexeme = false ∧ s = ⟨t.lexeme,
          ⟨.ofOffset (Line.scan source) t.start, .ofOffset (Line.scan source) t.stop⟩⟩ := by
  unfold at? among?
  constructor
  · intro h
    split at h
    · cases h
    · rename_i offset hoffset
      split at h
      · cases h
      · rename_i t hat
        split at h
        · rename_i hsymbol
          obtain ⟨hkind, hword⟩ : t.kind = .identifier ∧ isKeyword t.lexeme = false := by
            simpa using hsymbol
          exact ⟨offset, t, hoffset, hat, hkind, hword, (Option.some.inj h).symm⟩
        · cases h
  · rintro ⟨offset, t, hoffset, hat, hkind, hword, rfl⟩
    simp [hoffset, hat, hkind, hword]

/-- The text at the range of a symbol is its name. -/
theorem Symbol.slice?_range {source : List Char} {p : Position} {s : Symbol}
    (h : at? source p = some s) : s.range.slice? (Line.scan source) source = some s.name := by
  obtain ⟨offset, t, -, hat, hkind, -, rfl⟩ := at?_iff_token.mp h
  have hmem := (Token.mem_of_at? hat).resolve_left nofun
  obtain ⟨hslice, hstop, hsplit, hsplit'⟩ := Token.identifier_of_mem_scan hmem hkind
  have hstart : t.start ≤ source.length := Nat.le_trans (Nat.le_add_right _ _) hstop
  simp only [Range.slice?, Position.offset?_ofOffset hstart hsplit,
    Position.offset?_ofOffset hstop hsplit', Option.bind_some, Option.map_some]
  rw [Token.stop, Nat.add_sub_cancel_left, hslice]

/-- The name of a symbol has no character that is shown for what is none. -/
theorem Symbol.shown_not_mem {source : List Char} {p : Position} {s : Symbol}
    (h : at? source p = some s) : '\uFFFD' ∉ s.name := by
  obtain ⟨offset, t, -, hat, hkind, -, rfl⟩ := at?_iff_token.mp h
  obtain ⟨k, -, hlex⟩ := Token.lexeme?_of_mem_scanFrom ((Token.mem_of_at? hat).resolve_left nofun)
  rw [hkind] at hlex
  intro hmem
  have hbelongs := Token.belongs_of_lexeme? hlex _ hmem
  revert hbelongs
  decide +kernel

/-- A text is its characters if none of them is shown for what is none. -/
theorem Text.eq_ofChars {t : Text} (h : '\uFFFD' ∉ t.chars) : t = .ofChars t.chars := by
  induction t with
  | nil => rfl
  | cons c t ih =>
    obtain ⟨hc, ht⟩ := not_or.mp (mt List.mem_cons.mpr h)
    cases c with
    | char c => exact congrArg (CodePoint.char c :: ·) (ih ht)
    | surrogate n => exact absurd rfl hc

/-- The text at the range of a symbol is its name, surrogates elsewhere or not. -/
theorem Symbol.slice?_text {text : Text} {p : Position} {s : Symbol}
    (h : at? text.chars p = some s) :
    s.range.slice? (Line.scan text.chars) text = some (Text.ofChars s.name) := by
  have hslice := slice?_range h
  rw [Text.chars, Range.slice?_map, ← Text.chars] at hslice
  obtain ⟨stretch, hstretch, hname⟩ := Option.map_eq_some_iff.mp hslice
  have hchars : Text.chars stretch = s.name := hname
  rw [hstretch, ← hchars, ← Text.eq_ofChars]
  rw [hchars]
  exact shown_not_mem h

end ChapelServer
