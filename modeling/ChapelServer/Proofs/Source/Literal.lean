import ChapelServer.Proofs.PassLog.RoundTrip
import ChapelServer.Proofs.Source.Coverage

/-!
# Letters glued to a number

A number takes all word characters after its first digit, but after a fraction or an exponent only
their own digits. What is glued to it there is scanned like any other text: characters that start
nothing are passed over, and the first letter, underscore or digit starts a token that takes the
rest. If it is a digit, that is another number. Otherwise the literal spills into an identifier, and
a cursor there is on a symbol.
-/

namespace ChapelServer.Token

/-! ## The tokens after a token -/

theorem scan_after_shift (before : List Token) {source rest : List Char} {n : Nat} {u : Token}
    (hscan : scan source = before ++ (scan rest).map (shift n))
    (hdrop : ∀ k, source.drop (n + k) = rest.drop k)
    (hrest : ∃ earlier, scan rest = earlier ++ u :: (scan (rest.drop u.stop)).map (shift u.stop)) :
    ∃ earlier, scan source = earlier ++ u.shift n ::
      (scan (source.drop (u.shift n).stop)).map (shift (u.shift n).stop) := by
  obtain ⟨earlier, hearlier⟩ := hrest
  refine ⟨before ++ earlier.map (shift n), ?_⟩
  rw [hscan, hearlier, List.map_append, List.map_cons, map_shift_map_shift, shift_stop, hdrop,
    List.append_assoc]

/-- After a token, the scan goes on as at the start of a text. -/
theorem exists_scan_after {source : List Char} {t : Token} (h : t ∈ scan source) :
    ∃ earlier, scan source = earlier ++ t :: (scan (source.drop t.stop)).map (shift t.stop) := by
  induction source using scan_induction generalizing t with
  | nil => cases h
  | gap c rest hnone ih =>
    have hscan := scan_gap hnone
    rw [hscan] at h
    obtain ⟨u, hu, rfl⟩ := List.mem_map.mp h
    refine scan_after_shift [] hscan (fun k => ?_) (ih hu)
    rw [Nat.add_comm, List.drop_succ_cons]
  | token kind lexeme rest hends ih =>
    have hscan := scan_lexeme hends
    rw [hscan] at h
    rcases List.mem_cons.mp h with rfl | h
    · refine ⟨[], ?_⟩
      rw [hscan, stop, Nat.zero_add, List.drop_left]
      rfl
    · obtain ⟨u, hu, rfl⟩ := List.mem_map.mp h
      exact scan_after_shift [⟨kind, lexeme, 0⟩] hscan List.drop_length_add_append (ih hu)

/-- Another token of the text ends before this one begins, or is one of the text after it. -/
theorem before_or_after {source : List Char} {t u : Token} (ht : t ∈ scan source)
    (hu : u ∈ scan source) (hne : u ≠ t) :
    u.stop ≤ t.start ∨ ∃ v ∈ scan (source.drop t.stop), u = v.shift t.stop := by
  obtain ⟨earlier, hscan⟩ := exists_scan_after ht
  have horder : (scan source).Pairwise fun t u => t.stop ≤ u.start := scanFrom_pairwise 0 0 source
  rw [hscan] at hu horder
  rcases List.mem_append.mp hu with hu | hu
  · exact .inl ((List.pairwise_append.mp horder).2.2 u hu t List.mem_cons_self)
  · rcases List.mem_cons.mp hu with rfl | hu
    · contradiction
    · obtain ⟨v, hv, rfl⟩ := List.mem_map.mp hu
      exact .inr ⟨v, hv, rfl⟩

theorem mem_scan_of_after {source : List Char} {t v : Token} (ht : t ∈ scan source)
    (hv : v ∈ scan (source.drop t.stop)) : v.shift t.stop ∈ scan source := by
  obtain ⟨earlier, hscan⟩ := exists_scan_after ht
  rw [hscan]
  exact List.mem_append_right _ (List.mem_cons_of_mem _ (List.mem_map_of_mem hv))

/-! ## What is glued to a number -/

/-- A number without a point takes all the word characters after it. -/
theorem Ends.number_stops {lexeme after : List Char} (h : Ends .number lexeme after)
    (hpoint : '.' ∉ lexeme) : Text.Stops Text.isWord after := by
  cases h with
  | @number d glued fractional exponential _ hdigit hglued hfraction hexponent =>
    cases hfraction with
    | present hmark _ _ =>
      rw [show _ = ['.'] from hmark] at hpoint
      simp at hpoint
    | absent _ =>
      cases hexponent with
      | present hmark _ _ =>
        -- The letter of the exponent would have been taken before.
        obtain ⟨e, he, hmark⟩ := hmark
        have hstops : Text.isWord e = false := by
          refine hglued.stops e ?_
          rcases hmark with rfl | rfl | rfl <;> rfl
        rcases he with rfl | rfl <;> exact absurd hstops (by decide)
      | absent _ => exact hglued.stops

/-- An identifier, and a number that consists of word characters, take all those after them. -/
theorem Ends.stops_isWord {kind : Kind} {lexeme after : List Char} (h : Ends kind lexeme after)
    (hkind : kind = .number ∨ kind = .identifier)
    (hword : ∀ c ∈ lexeme, Text.isWord c = true) : Text.Stops Text.isWord after := by
  rcases hkind with rfl | rfl
  · exact h.number_stops fun hpoint => absurd (hword _ hpoint) (by decide)
  · cases h with
    | identifier _ hrun =>
      intro c hc
      have hstops := hrun.stops c hc
      exact (Bool.or_eq_false_iff.mp hstops).1

/-- The word characters that a text starts with belong to its first token, if that is a number or
an identifier. -/
theorem Ends.takeWhile_isWord_le {kind : Kind} {lexeme after : List Char}
    (h : Ends kind lexeme after) (hkind : kind = .number ∨ kind = .identifier) :
    ((lexeme ++ after).takeWhile Text.isWord).length ≤ lexeme.length := by
  by_cases hword : ∀ c ∈ lexeme, Text.isWord c = true
  · rw [Text.WholeRun.takeWhile_eq ⟨hword, h.stops_isWord hkind hword⟩]
  · rw [List.takeWhile_append, if_neg]
    · exact (List.takeWhile_prefix _).length_le
    · intro hlength
      refine hword fun c hc => ?_
      rw [← (List.takeWhile_prefix _).eq_of_length hlength] at hc
      exact List.all_eq_true.mp List.all_takeWhile c hc

/-- A word character that starts neither an identifier nor a number. -/
def isIdle (c : Char) : Bool :=
  Text.isWord c && !startsIdentifier c && !Text.isDigit c

theorem isWord_of_isIdle {c : Char} (h : isIdle c = true) : Text.isWord c = true := by
  simp only [isIdle, Bool.and_eq_true] at h
  exact h.1.1

theorem lexeme?_of_isIdle {c : Char} (h : isIdle c = true) (rest : List Char) :
    lexeme? (c :: rest) = none := by
  have hword := isWord_of_isIdle h
  simp only [isIdle, Bool.and_eq_true, Bool.not_eq_true'] at h
  rw [lexeme?_eq_none_iff]
  constructor
  · rintro (hstarts | hdigit | hquote)
    · rw [h.1.2] at hstarts
      cases hstarts
    · rw [h.2] at hdigit
      cases hdigit
    · rcases hquote with rfl | rfl <;> exact absurd hword (by decide)
  · rintro ⟨rfl, -⟩
    exact absurd hword (by decide)

theorem takeWhile_isWord_idle {idle : List Char} (h : ∀ c ∈ idle, isIdle c = true)
    (rest : List Char) :
    ((idle ++ rest).takeWhile Text.isWord).length =
      idle.length + (rest.takeWhile Text.isWord).length := by
  have hword : ∀ c ∈ idle, Text.isWord c = true := fun c hc => isWord_of_isIdle (h c hc)
  rw [List.takeWhile_append_of_pos hword, List.length_append]

theorem scan_idle {idle : List Char} (h : ∀ c ∈ idle, isIdle c = true) (rest : List Char) :
    scan (idle ++ rest) = (scan rest).map (shift idle.length) := by
  induction idle with
  | nil => exact scanFrom_eq_map_shift 0 rest
  | cons c idle ih =>
    obtain ⟨hc, hidle⟩ := List.forall_mem_cons.mp h
    rw [List.cons_append, scan_gap (lexeme?_of_isIdle hc _), ih hidle, map_shift_map_shift,
      List.length_cons, Nat.add_comm 1]

/-- A word character that is not idle starts a number or an identifier. -/
theorem exists_ends_of_isWord {c : Char} {rest : List Char} (hword : Text.isWord c = true)
    (hidle : isIdle c = false) :
    ∃ kind lexeme after, c :: rest = lexeme ++ after ∧ Ends kind lexeme after ∧
      (kind = .number ∨ kind = .identifier) := by
  have hread : lexeme? (c :: rest) ≠ none := by
    rw [ne_eq, lexeme?_eq_none_iff]
    rintro ⟨hstarts, -⟩
    simp only [isIdle, hword, Bool.true_and, Bool.and_eq_false_iff, Bool.not_eq_false'] at hidle
    exact hstarts (hidle.imp_right .inl)
  obtain ⟨kind, lexeme, after, htext, hends⟩ := exists_ends hread
  refine ⟨kind, lexeme, after, htext, hends, ?_⟩
  -- Comments start with a slash and strings with a quote, which are no word characters.
  cases hends with
  | closedComment _ | openComment _ | lineComment _ =>
    obtain rfl := (List.cons.inj htext).1
    exact absurd hword (by decide)
  | closedString hquote _ | openString hquote _ _ =>
    obtain rfl := (List.cons.inj htext).1
    rcases hquote with rfl | rfl <;> exact absurd hword (by decide)
  | number _ _ _ _ => exact .inl rfl
  | identifier _ _ => exact .inr rfl

/-- The first of the word characters that start anything starts an identifier of this name, after
so many that start nothing. -/
def Spills (text : List Char) (k : Nat) (name : List Char) : Prop :=
  ∃ idle rest, text = idle ++ (name ++ rest) ∧ idle.length = k ∧
    (∀ c ∈ idle, isIdle c = true) ∧ Ends .identifier name rest

section Spill

variable {text name : List Char} {k : Nat}

theorem Spills.mem_scan (h : Spills text k name) : ⟨.identifier, name, k⟩ ∈ scan text := by
  obtain ⟨idle, rest, rfl, rfl, hidle, hends⟩ := h
  rw [scan_idle hidle, scan_lexeme hends, List.map_cons]
  exact List.mem_cons_self

/-- The identifier takes the rest of the word characters, of which there is one at least. -/
theorem Spills.takeWhile_isWord (h : Spills text k name) :
    k < (text.takeWhile Text.isWord).length ∧
      (text.takeWhile Text.isWord).length ≤ k + name.length := by
  obtain ⟨idle, rest, rfl, rfl, hidle, hends⟩ := h
  have hle := hends.takeWhile_isWord_le (.inr rfl)
  rw [takeWhile_isWord_idle hidle]
  have hpos : 0 < ((name ++ rest).takeWhile Text.isWord).length := by
    cases hends with
    | identifier hstart _ => simp [isWord_of_starts hstart]
  omega

/-- An identifier that begins among the word characters that a text starts with is the one they
spill into. -/
theorem spills_of_mem_scan {v : Token} (hv : v ∈ scan text) (hkind : v.kind = .identifier)
    (hstart : v.start < (text.takeWhile Text.isWord).length) : Spills text v.start v.lexeme := by
  obtain ⟨idle, rest, rfl, hidle, hrest⟩ : ∃ idle rest, text = idle ++ rest ∧
      (∀ c ∈ idle, isIdle c = true) ∧ Text.Stops isIdle rest :=
    ⟨_, _, List.takeWhile_append_dropWhile.symm, (Text.wholeRun_takeWhile isIdle text).all,
      (Text.wholeRun_takeWhile isIdle text).stops⟩
  rw [takeWhile_isWord_idle hidle] at hstart
  rw [scan_idle hidle] at hv
  obtain ⟨u, hu, rfl⟩ := List.mem_map.mp hv
  rw [shift_start] at hstart
  have hmore : 0 < (rest.takeWhile Text.isWord).length := by omega
  cases rest with
  | nil => cases hu
  | cons c rest =>
    have hword : Text.isWord c = true := by
      refine Bool.eq_true_of_not_eq_false fun hc => ?_
      simp [hc] at hmore
    obtain ⟨kind, lexeme, after, htext, hends, hfirst⟩ :=
      @exists_ends_of_isWord c rest hword (hrest c rfl)
    rw [htext] at hu hstart ⊢
    rw [scan_lexeme hends] at hu
    rcases List.mem_cons.mp hu with rfl | hu
    · obtain rfl : kind = .identifier := hkind
      exact ⟨idle, after, rfl, rfl, hidle, hends⟩
    · -- The first token takes the word characters, so that no other one begins among them.
      obtain ⟨w, -, rfl⟩ := List.mem_map.mp hu
      have hle := hends.takeWhile_isWord_le hfirst
      rw [shift_start] at hstart
      omega

end Spill

/-! ## The cursor on a literal -/

section Cursor

variable {source name : List Char} {t : Token} {k offset : Nat}

theorem point_of_spills (h : t ∈ scan source) (hkind : t.kind = .number)
    (hspills : Spills (source.drop t.stop) k name) : '.' ∈ t.lexeme := by
  refine Classical.byContradiction fun hpoint => ?_
  obtain ⟨before, after, hsource, hlength, hends⟩ := exists_cut_of_mem_scan h
  rw [hkind] at hends
  have hdrop : source.drop t.stop = after := by
    rw [hsource, stop, ← hlength, ← List.length_append, List.drop_left]
  have hnone : after.takeWhile Text.isWord = [] :=
    Text.WholeRun.takeWhile_eq ⟨List.forall_mem_nil _, hends.number_stops hpoint⟩
  have hlt := hspills.takeWhile_isWord.1
  rw [hdrop, hnone] at hlt
  exact Nat.not_lt_zero k hlt

/-- An identifier right after the number is what the literal spills into at once. -/
theorem spills_of_start_eq (h : t ∈ scan source) {u : Token} (hu : u ∈ scan source)
    (hidentifier : u.kind = .identifier) (hstart : u.start = t.stop) :
    Spills (source.drop t.stop) 0 u.lexeme := by
  have ht := start_lt_stop_of_mem_scan h
  have hne : u ≠ t := by
    rintro rfl
    omega
  rcases before_or_after h hu hne with hbefore | ⟨v, hv, rfl⟩
  · have hlt := start_lt_stop_of_mem_scan hu
    omega
  · obtain ⟨before, rest, hdrop, hlength, hends⟩ := exists_cut_of_mem_scan hv
    rw [shift_start] at hstart
    obtain rfl : before = [] := List.length_eq_zero_iff.mp (by omega)
    rw [show v.kind = .identifier from hidentifier] at hends
    exact ⟨[], rest, hdrop, rfl, List.forall_mem_nil _, hends⟩

/-- The identifier that a literal spills into is under the cursor from its first character on. -/
theorem Spills.isUnder (hspills : Spills (source.drop t.stop) k name) (h : t ∈ scan source)
    (hlo : t.stop + k ≤ offset)
    (hhi : offset < t.stop + ((source.drop t.stop).takeWhile Text.isWord).length) :
    IsUnder source offset ⟨.identifier, name, t.stop + k⟩ := by
  have hle := hspills.takeWhile_isWord.2
  refine ⟨mem_scan_of_after h hspills.mem_scan, .inl ⟨hlo, ?_⟩⟩
  show offset < t.stop + k + name.length
  omega

/-- No other identifier is under a cursor on the literal. -/
theorem spills_of_isUnder (h : t ∈ scan source) (hkind : t.kind = .number) {u : Token}
    (hunder : u.IsUnder source offset) (hidentifier : u.kind = .identifier)
    (hlo : t.start ≤ offset)
    (hhi : offset < t.stop + ((source.drop t.stop).takeWhile Text.isWord).length) :
    ∃ k, Spills (source.drop t.stop) k u.lexeme ∧ t.stop + k ≤ offset := by
  obtain ⟨hmem, hplace⟩ := hunder
  have hne : u ≠ t := by
    rintro rfl
    rw [hkind] at hidentifier
    cases hidentifier
  rcases before_or_after h hmem hne with hbefore | ⟨v, hv, rfl⟩
  · rcases hplace with ⟨-, hstop⟩ | ⟨hstop, hclear⟩
    · omega
    · -- It ends where the number begins, so that the cursor is on the number.
      exact absurd (by omega) (hclear t h)
  · have hstart : t.stop + v.start ≤ offset := by
      have hle : (v.shift t.stop).start ≤ (v.shift t.stop).stop := Nat.le_add_right _ _
      rw [shift_start] at hplace hle
      omega
    exact ⟨v.start, spills_of_mem_scan hv hidentifier (by omega), hstart⟩

end Cursor

/-- An identifier begins where a number ends exactly if the characters glued to the number spill
into it at once. A cursor on a literal, a number with the word characters glued to it, is on a
symbol exactly if they spill and the cursor has reached the identifier, unless that is a reserved
word. Only a number with a point can spill. -/
theorem literal_spills_exactly {source : List Char} {t : Token} (h : t ∈ scan source)
    (hkind : t.kind = .number) :
    (∀ k name, Spills (source.drop t.stop) k name → '.' ∈ t.lexeme) ∧
      ((∃ u ∈ scan source, u.kind = .identifier ∧ u.start = t.stop) ↔
        ∃ name, Spills (source.drop t.stop) 0 name) ∧
      ∀ (p : Position) (offset : Nat), p.Marks source offset → t.start ≤ offset →
        offset < t.stop + ((source.drop t.stop).takeWhile Text.isWord).length →
        ∀ name, (∃ range, Symbol.at? source p = some ⟨name, range⟩) ↔
          ∃ k, Spills (source.drop t.stop) k name ∧ t.stop + k ≤ offset ∧
            isKeyword name = false := by
  refine ⟨fun k name => point_of_spills h hkind, ⟨?_, ?_⟩, ?_⟩
  · rintro ⟨u, hu, hidentifier, hstart⟩
    exact ⟨u.lexeme, spills_of_start_eq h hu hidentifier hstart⟩
  · rintro ⟨name, hspills⟩
    exact ⟨_, mem_scan_of_after h hspills.mem_scan, rfl, rfl⟩
  · intro p offset hmarks hlo hhi name
    constructor
    · rintro ⟨range, hat⟩
      obtain ⟨offset', u, hmarks', hunder, hidentifier, hword, hsymbol⟩ :=
        Symbol.at?_eq_some_iff.mp hat
      obtain ⟨rfl, -⟩ := Symbol.mk.inj hsymbol
      obtain rfl : offset = offset' := by
        rw [← Position.offset?_scan_iff] at hmarks hmarks'
        exact Option.some.inj (hmarks.symm.trans hmarks')
      obtain ⟨k, hspills, hle⟩ := spills_of_isUnder h hkind hunder hidentifier hlo hhi
      exact ⟨k, hspills, hle, hword⟩
    · rintro ⟨k, hspills, hle, hword⟩
      exact ⟨_, Symbol.at?_eq_some_iff.mpr
        ⟨offset, _, hmarks, hspills.isUnder h hle hhi, rfl, hword, rfl⟩⟩

/-- A number with a fraction, to which a superscript and a letter are glued. The superscript starts
nothing. -/
def gluedLetters : List Char := ['1', '.', '5', '²', 'i']

theorem literal_spills_exactly_gluedLetters :
    ⟨.number, ['1', '.', '5'], 0⟩ ∈ scan gluedLetters ∧ '.' ∈ ['1', '.', '5'] ∧
      ∃ range, Symbol.at? gluedLetters ⟨0, 4⟩ = some ⟨['i'], range⟩ := by
  have hmem : ⟨.number, ['1', '.', '5'], 0⟩ ∈ scan gluedLetters := by decide
  have hspills : Spills (gluedLetters.drop 3) 1 ['i'] :=
    ⟨['²'], [], rfl, rfl, List.forall_mem_singleton.mpr (by decide),
      .identifier (by decide) ⟨List.forall_mem_nil _, nofun⟩⟩
  have hmarks : (⟨0, 4⟩ : Position).Marks gluedLetters 4 :=
    Position.offset?_scan_iff.mp (by decide)
  obtain ⟨hpoint, -, hcursor⟩ := literal_spills_exactly hmem rfl
  exact ⟨hmem, hpoint 1 ['i'] hspills,
    (hcursor ⟨0, 4⟩ 4 hmarks (by decide) (by decide) ['i']).mpr
      ⟨1, hspills, by decide, by decide⟩⟩

end ChapelServer.Token
