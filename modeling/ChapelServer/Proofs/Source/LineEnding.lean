import ChapelServer.Proofs.Source.Placement

/-!
# The same text with other line breaks

A text whose lines end with a line feed is written anew with another line break in place of each.
The tokens stay the same but for the line breaks in comments, and so do the lines. Only a string
could tell the difference, where a backslash takes one character of a line break with it. In a text
without such a string, a position names the same symbol whichever way the lines end.
-/

namespace ChapelServer

namespace Text

/-- The text with `ending` in place of each line feed. -/
def respell (ending text : List Char) : List Char :=
  text.flatMap fun c => if c = '\n' then ending else [c]

/-- The line breaks that begin with a carriage return. -/
def IsEnding (ending : List Char) : Prop :=
  ending = ['\r', '\n'] ∨ ending = ['\r']

variable {ending : List Char}

@[simp] theorem respell_nil (ending : List Char) : respell ending [] = [] := rfl

@[simp] theorem respell_append (ending a b : List Char) :
    respell ending (a ++ b) = respell ending a ++ respell ending b :=
  List.flatMap_append

theorem respell_break (ending rest : List Char) :
    respell ending ('\n' :: rest) = ending ++ respell ending rest := by
  simp [respell]

theorem respell_cons {c : Char} (hc : c ≠ '\n') (rest : List Char) :
    respell ending (c :: rest) = c :: respell ending rest := by
  simp [respell, hc]

/-- A text on one line stays as it is. -/
theorem respell_plain {text : List Char} (h : ∀ c ∈ text, Token.endsLine c = false) :
    respell ending text = text := by
  induction text with
  | nil => rfl
  | cons c text ih =>
    have hc : c ≠ '\n' := by
      rintro rfl
      exact absurd (h '\n' List.mem_cons_self) (by decide)
    rw [respell_cons hc, ih fun d hd => h d (List.mem_cons_of_mem c hd)]

/-- The class has no character of a line break. -/
def BreaksRuns (p : Char → Bool) : Prop :=
  p '\r' = false ∧ p '\n' = false

instance (p : Char → Bool) : Decidable (BreaksRuns p) :=
  inferInstanceAs (Decidable (_ ∧ _))

theorem BreaksRuns.not_endsLine {p : Char → Bool} (hp : BreaksRuns p) {c : Char}
    (hc : p c = true) : Token.endsLine c = false := by
  rw [Token.endsLine, Bool.or_eq_false_iff, beq_eq_false_iff_ne, beq_eq_false_iff_ne]
  constructor
  · rintro rfl
    rw [hp.1] at hc
    cases hc
  · rintro rfl
    rw [hp.2] at hc
    cases hc

theorem WholeRun.plain {p : Char → Bool} {run after : List Char} (h : WholeRun p run after)
    (hp : BreaksRuns p) : ∀ c ∈ run, Token.endsLine c = false :=
  fun c hc => hp.not_endsLine (h.all c hc)

section

variable (hending : IsEnding ending)

include hending

theorem IsEnding.endsLine : ∀ c ∈ ending, Token.endsLine c = true := by
  rcases hending with rfl | rfl <;> simp [Token.endsLine]

theorem IsEnding.endsLine_getLast {before : List Char} {c : Char}
    (h : (before ++ ending).getLast? = some c) : Token.endsLine c = true := by
  rcases hending with rfl | rfl
  · obtain rfl : '\n' = c := by simpa using h
    rfl
  · obtain rfl : '\r' = c := by simpa using h
    rfl

theorem IsEnding.exists_cons : ∃ tail, ending = '\r' :: tail := by
  rcases hending with rfl | rfl <;> exact ⟨_, rfl⟩

/-- A text that is written anew begins as before, but for a line feed. -/
theorem head?_respell (text : List Char) :
    (respell ending text).head? = text.head?.map fun c => if c = '\n' then '\r' else c := by
  obtain ⟨tail, htail⟩ := hending.exists_cons
  cases text with
  | nil => rfl
  | cons c rest =>
    by_cases hc : c = '\n'
    · simp [hc, respell_break, htail]
    · simp [hc, respell_cons hc]

theorem head?_respell_ne (text : List Char) : (respell ending text).head? ≠ some '\n' := by
  rw [head?_respell hending]
  cases text with
  | nil => simp
  | cons c rest =>
    by_cases hc : c = '\n'
    · simp [hc]
    · simp [hc]

theorem head?_of_respell {text : List Char} {c : Char} (hc : c ≠ '\r')
    (h : (respell ending text).head? = some c) : text.head? = some c := by
  rw [head?_respell hending, Option.map_eq_some_iff] at h
  obtain ⟨d, hd, hdc⟩ := h
  split at hdc
  · exact absurd hdc.symm hc
  · rw [hd, hdc]

theorem length_le_respell (text : List Char) : text.length ≤ (respell ending text).length := by
  have hpos : 0 < ending.length := by
    obtain ⟨tail, rfl⟩ := hending.exists_cons
    exact Nat.succ_pos _
  induction text with
  | nil => exact Nat.le_refl 0
  | cons c rest ih =>
    by_cases hc : c = '\n'
    · rw [hc, respell_break, List.length_append, List.length_cons]
      omega
    · rw [respell_cons hc]
      simpa using ih

/-- What is on one line at the start of the text that is written anew is there in the text. -/
theorem exists_of_respell_eq {plain rest text : List Char}
    (hplain : ∀ c ∈ plain, Token.endsLine c = false) (h : respell ending text = plain ++ rest) :
    ∃ rest', text = plain ++ rest' := by
  induction plain generalizing text with
  | nil => exact ⟨text, rfl⟩
  | cons c plain ih =>
    obtain ⟨hc, hplain⟩ := List.forall_mem_cons.mp hplain
    have hr : c ≠ '\r' := by
      rintro rfl
      exact absurd hc (by decide)
    have hn : c ≠ '\n' := by
      rintro rfl
      exact absurd hc (by decide)
    have hhead : (respell ending text).head? = some c := by
      rw [h]
      rfl
    obtain ⟨text, rfl⟩ := List.head?_eq_some_iff.mp (head?_of_respell hending hr hhead)
    rw [respell_cons hn, List.cons_append] at h
    obtain ⟨rest', rfl⟩ := ih hplain (List.cons.inj h).2
    exact ⟨rest', rfl⟩

/-- A run of a class without line breaks ends where it did. -/
theorem WholeRun.respell {p : Char → Bool} {run after : List Char} (h : WholeRun p run after)
    (hp : BreaksRuns p) : WholeRun p run (respell ending after) := by
  refine ⟨h.all, fun c hc => ?_⟩
  rw [head?_respell hending, Option.map_eq_some_iff] at hc
  obtain ⟨d, hd, rfl⟩ := hc
  split
  · exact hp.1
  · exact h.stops d hd

/-- A text of line feeds has as many line breaks when it is written anew. -/
theorem lineBreaks_respell {text : List Char} (hfeeds : '\r' ∉ text) :
    lineBreaks (Text.respell ending text) = lineBreaks text := by
  induction text with
  | nil => rfl
  | cons c rest ih =>
    obtain ⟨hc, hrest⟩ : '\r' ≠ c ∧ '\r' ∉ rest := by simpa using hfeeds
    have hcut : ¬ CutsBreak [c] rest := by
      rintro ⟨hr, -⟩
      exact hc (Option.some.inj hr).symm
    rw [lineBreaks_cons hcut]
    by_cases hn : c = '\n'
    · subst hn
      rw [respell_break, if_pos (by decide), ← ih hrest]
      rcases hending with rfl | rfl
      · rfl
      · refine lineBreaks_cons ?_
        rintro ⟨-, hhead⟩
        exact head?_respell_ne (.inr rfl) rest hhead
    · have hends : Token.endsLine c = false := by simp [Token.endsLine, hc.symm, hn]
      have hcut' : ¬ CutsBreak [c] (Text.respell ending rest) := by
        rintro ⟨hr, -⟩
        exact hc (Option.some.inj hr).symm
      rw [respell_cons hn, lineBreaks_cons hcut', hends, ih hrest]

end

/-! ## Offsets -/

/-- Where an offset of the text is found when the text is written anew. -/
def offsetIn (ending source : List Char) (offset : Nat) : Nat :=
  (respell ending (source.take offset)).length

theorem offsetIn_append (ending before after : List Char) (i : Nat) :
    offsetIn ending (before ++ after) (before.length + i) =
      (respell ending before).length + offsetIn ending after i := by
  rw [offsetIn, List.take_length_add_append, respell_append, List.length_append, offsetIn]

theorem offsetIn_plain {text : List Char} (h : ∀ c ∈ text, Token.endsLine c = false)
    (ending after : List Char) {i : Nat} (hi : i ≤ text.length) :
    offsetIn ending (text ++ after) i = i := by
  have hplain : ∀ c ∈ text.take i, Token.endsLine c = false :=
    fun c hc => h c (List.mem_of_mem_take hc)
  rw [offsetIn, List.take_append_of_le_length hi, respell_plain hplain,
    List.length_take_of_le hi]

theorem offsetIn_lt {source : List Char} (hending : IsEnding ending) {i j : Nat} (hlt : i < j)
    (hj : j ≤ source.length) : offsetIn ending source i < offsetIn ending source j := by
  obtain ⟨d, rfl⟩ := Nat.exists_eq_add_of_le (Nat.le_of_lt hlt)
  have hgrow := length_le_respell hending ((source.drop i).take d)
  rw [List.length_take_of_le (by rw [List.length_drop]; omega)] at hgrow
  rw [offsetIn, offsetIn, List.take_add, respell_append, List.length_append]
  omega

end Text

/-! ## Lines -/

/-- A line stays a line. -/
theorem Line.Stands.respell {ending before text after : List Char} (h : Stands before text after)
    (hending : Text.IsEnding ending) (hfeeds : '\r' ∉ before) :
    Stands (Text.respell ending before) text (Text.respell ending after) := by
  refine ⟨?_, ?_, h.plain, ?_⟩
  · intro c hc
    rcases List.eq_nil_or_concat before with rfl | ⟨start, last, rfl⟩
    · cases hc
    · have hends := h.opens last (by simp)
      have hlast : last = '\n' := by
        rcases Bool.or_eq_true_iff.mp hends with hr | hn
        · simp [eq_of_beq hr] at hfeeds
        · exact eq_of_beq hn
      rw [hlast, List.concat_eq_append, Text.respell_append, Text.respell_break, Text.respell_nil,
        List.append_nil] at hc
      exact hending.endsLine_getLast hc
  · rintro ⟨-, hhead⟩
    have htext : Text.respell ending text = text := Text.respell_plain h.plain
    rw [← htext, ← Text.respell_append] at hhead
    exact Text.head?_respell_ne hending _ hhead
  · intro c hc
    rw [Text.head?_respell hending, Option.map_eq_some_iff] at hc
    obtain ⟨d, hd, rfl⟩ := hc
    split
    · rfl
    · exact h.closes d hd

/-! ## Lexemes -/

namespace Token

variable {ending : List Char}

theorem NotClosed.respell {text : List Char} (h : NotClosed text) (hending : Text.IsEnding ending) :
    NotClosed (Text.respell ending text) := by
  induction text with
  | nil => exact h
  | cons c rest ih =>
    obtain ⟨hfirst, hrest⟩ := notClosed_cons.mp h
    by_cases hc : c = '\n'
    · rw [hc, Text.respell_break]
      rcases hending with rfl | rfl
      · exact notClosed_cons.mpr ⟨nofun, notClosed_cons.mpr ⟨nofun, ih hrest⟩⟩
      · exact notClosed_cons.mpr ⟨nofun, ih hrest⟩
    · rw [Text.respell_cons hc, notClosed_cons]
      refine ⟨fun hstar hslash => hfirst hstar ?_, ih hrest⟩
      exact Text.head?_of_respell hending (by decide) hslash

theorem CutsString.respell {after : List Char} (h : CutsString after)
    (hending : Text.IsEnding ending) : CutsString (Text.respell ending after) := by
  rcases h with rfl | rfl | ⟨c, rest, rfl, hline⟩
  · exact .inl rfl
  · exact .inr (.inl rfl)
  · refine .inr (.inr ?_)
    by_cases hc : c = '\n'
    · obtain ⟨tail, htail⟩ := hending.exists_cons
      refine ⟨'\r', tail ++ Text.respell ending rest, ?_, rfl⟩
      rw [hc, Text.respell_break, htail]
      rfl
    · exact ⟨c, Text.respell ending rest, Text.respell_cons hc rest, hline⟩

theorem OptionalPart.plain {IsMark : List Char → Prop} {part after : List Char}
    (h : OptionalPart IsMark part after)
    (hmarks : ∀ mark, IsMark mark → ∀ c ∈ mark, endsLine c = false) :
    ∀ c ∈ part, endsLine c = false := by
  cases h with
  | present hmark hdigits hrun =>
    rw [List.forall_mem_append]
    exact ⟨hmarks _ hmark, hrun.plain (by decide)⟩
  | absent h => simp

theorem OptionalPart.respell {IsMark : List Char → Prop} {part after : List Char}
    (h : OptionalPart IsMark part after)
    (hmarks : ∀ mark, IsMark mark → ∀ c ∈ mark, endsLine c = false)
    (hending : Text.IsEnding ending) : OptionalPart IsMark part (Text.respell ending after) := by
  cases h with
  | present hmark hdigits hrun =>
    exact .present hmark hdigits (hrun.respell hending (by decide))
  | absent habsent =>
    refine .absent fun mark d rest hmark hd htext => ?_
    have hplain : ∀ c ∈ mark ++ [d], endsLine c = false := by
      rw [List.forall_mem_append]
      exact ⟨hmarks mark hmark, by simpa using Text.BreaksRuns.not_endsLine (by decide) hd⟩
    have htext' : Text.respell ending after = (mark ++ [d]) ++ rest := by
      rw [htext, List.append_assoc]
      rfl
    obtain ⟨rest', rfl⟩ := Text.exists_of_respell_eq hending hplain htext'
    exact habsent mark d rest' hmark hd (by rw [List.append_assoc]; rfl)

/-- Of all lexemes, only comments and strings can have a line break in them. -/
theorem Ends.plain {kind : Kind} {lexeme after : List Char} (h : Ends kind lexeme after)
    (hkind : kind ≠ .blockComment)
    (hstring : kind = .string → ∀ c ∈ lexeme, endsLine c = false) :
    ∀ c ∈ lexeme, endsLine c = false := by
  cases h with
  | closedComment | openComment => contradiction
  | lineComment hrun =>
    simp only [List.forall_mem_cons]
    exact ⟨rfl, rfl, hrun.plain (by decide)⟩
  | closedString | openString => exact hstring rfl
  | number hdigit hglued hfraction hexponent =>
    simp only [List.forall_mem_cons, List.forall_mem_append]
    exact ⟨Text.BreaksRuns.not_endsLine (by decide) hdigit,
      ⟨hglued.plain (by decide), hfraction.plain fun _ h => h.plain⟩,
      hexponent.plain fun _ h => h.plain⟩
  | identifier hstart hrun =>
    simp only [List.forall_mem_cons]
    exact ⟨Text.BreaksRuns.not_endsLine (by decide) hstart,
      hrun.plain (by decide)⟩

/-- A lexeme ends where it did when the text is written anew, unless it is a string with a line
break in it. -/
theorem Ends.respell {kind : Kind} {lexeme after : List Char} (h : Ends kind lexeme after)
    (hending : Text.IsEnding ending)
    (hstring : kind = .string → ∀ c ∈ lexeme, endsLine c = false) :
    Ends kind (Text.respell ending lexeme) (Text.respell ending after) := by
  by_cases hkind : kind = .blockComment
  · subst hkind
    cases h with
    | @closedComment inner _ hinner =>
      have hlexeme : Text.respell ending ('/' :: '*' :: (inner ++ ['*', '/'])) =
          '/' :: '*' :: (Text.respell ending inner ++ ['*', '/']) := by
        rw [Text.respell_cons (by decide), Text.respell_cons (by decide), Text.respell_append]
        rfl
      rw [hlexeme]
      exact .closedComment (hinner.respell hending)
    | openComment hinner =>
      rw [Text.respell_cons (by decide), Text.respell_cons (by decide)]
      exact .openComment (hinner.respell hending)
  · -- The lexeme stands on one line, so that only what comes after it is written anew.
    rw [Text.respell_plain (h.plain hkind hstring)]
    cases h with
    | closedComment | openComment => contradiction
    | lineComment hrun => exact .lineComment (hrun.respell hending (by decide))
    | closedString hquote hinner => exact .closedString hquote hinner
    | openString hquote hinner hafter =>
      exact .openString hquote hinner (hafter.respell hending)
    | @number d glued fractional exponential _ hdigit hglued hfraction hexponent =>
      have hfractional := hfraction.plain fun _ h => h.plain
      have hexponential := hexponent.plain fun _ h => h.plain
      have hglued' := hglued.respell hending (by decide)
      have hfraction' := hfraction.respell (fun _ h => h.plain) hending
      rw [Text.respell_append, Text.respell_append, Text.respell_plain hfractional,
        Text.respell_plain hexponential] at hglued'
      rw [Text.respell_append, Text.respell_plain hexponential] at hfraction'
      exact .number hdigit hglued' hfraction' (hexponent.respell (fun _ h => h.plain) hending)
    | identifier hstart hrun =>
      exact .identifier hstart (hrun.respell hending (by decide))

/-! ## Tokens -/

/-- The token as it stands in the text that is written anew. -/
def respell (ending source : List Char) (t : Token) : Token where
  kind := t.kind
  lexeme := Text.respell ending t.lexeme
  start := Text.offsetIn ending source t.start

theorem respell_shift (ending before rest : List Char) (t : Token) :
    (t.shift before.length).respell ending (before ++ rest) =
      (t.respell ending rest).shift (Text.respell ending before).length := by
  simp only [respell, shift, Text.offsetIn_append]

theorem lexeme?_break {c : Char} (hc : endsLine c = true) (rest : List Char) :
    lexeme? (c :: rest) = none := by
  rw [lexeme?_eq_none_iff, StartsToken, IsQuote]
  rcases Bool.or_eq_true_iff.mp hc with hc | hc
  · rw [eq_of_beq hc]
    exact ⟨by decide, fun hcomment => absurd hcomment.1 (by decide)⟩
  · rw [eq_of_beq hc]
    exact ⟨by decide, fun hcomment => absurd hcomment.1 (by decide)⟩

theorem scan_breaks {breaks : List Char} (h : ∀ c ∈ breaks, endsLine c = true)
    (rest : List Char) : scan (breaks ++ rest) = (scan rest).map (shift breaks.length) := by
  induction breaks with
  | nil => exact scanFrom_eq_map_shift 0 rest
  | cons c breaks ih =>
    obtain ⟨hc, hbreaks⟩ := List.forall_mem_cons.mp h
    rw [List.cons_append, scan_gap (lexeme?_break hc _), ih hbreaks, map_shift_map_shift,
      List.length_cons, Nat.add_comm 1]

/-- What is passed over in the text is passed over when it is written anew. -/
theorem scan_respell_gap {c : Char} {rest : List Char} (hending : Text.IsEnding ending)
    (hnone : lexeme? (c :: rest) = none) :
    scan (Text.respell ending (c :: rest)) =
      (scan (Text.respell ending rest)).map (shift (Text.respell ending [c]).length) := by
  by_cases hc : c = '\n'
  · rw [hc, Text.respell_break, Text.respell_break, Text.respell_nil, List.append_nil]
    exact scan_breaks hending.endsLine (Text.respell ending rest)
  · rw [Text.respell_cons hc, Text.respell_cons hc]
    refine scan_gap ?_
    rw [lexeme?_eq_none_iff] at hnone ⊢
    refine ⟨hnone.1, ?_⟩
    rintro ⟨hslash, hnext⟩
    refine hnone.2 ⟨hslash, hnext.imp ?_ ?_⟩
    · exact Text.head?_of_respell hending (by decide)
    · exact Text.head?_of_respell hending (by decide)

/-- The tokens of the text that is written anew are those of the text. -/
theorem scan_respell {source : List Char} (hending : Text.IsEnding ending)
    (hstrings : ∀ t ∈ scan source, t.kind = .string → ∀ c ∈ t.lexeme, endsLine c = false) :
    scan (Text.respell ending source) = (scan source).map (Token.respell ending source) := by
  induction source using scan_induction with
  | nil => rfl
  | gap c rest hnone ih =>
    rw [scan_gap hnone] at hstrings ⊢
    rw [scan_respell_gap hending hnone,
      ih fun t ht => hstrings (t.shift 1) (List.mem_map_of_mem ht), List.map_map, List.map_map]
    refine List.map_congr_left fun t _ => ?_
    exact (respell_shift ending [c] rest t).symm
  | token kind lexeme rest hends ih =>
    rw [scan_lexeme hends] at hstrings ⊢
    obtain ⟨hfirst, hstrings⟩ := List.forall_mem_cons.mp hstrings
    rw [Text.respell_append, scan_lexeme (hends.respell hending hfirst),
      ih fun t ht => hstrings (t.shift lexeme.length) (List.mem_map_of_mem ht), List.map_cons,
      List.map_map, List.map_map]
    congr 1
    refine List.map_congr_left fun t _ => ?_
    exact (respell_shift ending lexeme rest t).symm

end Token

/-! ## Symbols -/

theorem Token.matches_respell {ending source : List Char} {t : Token} (h : t ∈ scan source) :
    Matches (Text.offsetIn ending source) t (t.respell ending source) := by
  obtain ⟨before, after, hsource, hlength, hends⟩ := exists_cut_of_mem_scan h
  refine ⟨rfl, rfl, ?_, fun hkind => ?_⟩
  · have htake : source.take t.stop = source.take t.start ++ t.lexeme := by
      rw [hsource, stop, ← hlength, List.append_assoc, List.take_length_add_append,
        List.take_left, List.take_left]
    rw [Text.offsetIn, htake, Text.respell_append, List.length_append]
    rfl
  · exact Text.respell_plain (hends.plain (by simp [hkind]) (by simp [hkind]))

/-- A text of line feeds stands, line by line, in the one that is written anew. -/
theorem Placed.respell {ending source : List Char} (hending : Text.IsEnding ending)
    (hfeeds : '\r' ∉ source)
    (hstrings : ∀ t ∈ Token.scan source, t.kind = .string →
      ∀ c ∈ t.lexeme, Token.endsLine c = false) :
    Placed source (Text.respell ending source) (Text.offsetIn ending source) 0 := by
  have hscan := Token.scan_respell hending hstrings
  refine ⟨Text.offsetIn_lt hending, ?_, ?_, ?_, fun t ht => ?_, fun u hu _ => ?_⟩
  · rintro k _ c ⟨before, text, after, rfl, hstands, rfl, rfl⟩ hwidth
    have hstart := Text.offsetIn_append ending before (text ++ after) 0
    rw [Nat.add_zero] at hstart
    rw [Text.offsetIn_append, hstart, Text.offsetIn_plain hstands.plain ending after hwidth,
      Text.offsetIn_plain hstands.plain ending after (Nat.zero_le _), Nat.add_zero]
  · rw [Nat.zero_add, Text.lineBreaks_respell hending hfeeds]
  · rintro k _ ⟨before, text, after, rfl, hstands, rfl, rfl⟩
    have hbefore : '\r' ∉ before := fun hr => hfeeds (List.mem_append_left _ hr)
    refine ⟨Text.respell ending before, text, Text.respell ending after, ?_,
      hstands.respell hending hbefore, ?_, ?_⟩
    · rw [Text.respell_append, Text.respell_append, Text.respell_plain hstands.plain]
    · rw [Nat.zero_add, Text.lineBreaks_respell hending hbefore]
    · rw [Text.offsetIn, List.take_left]
  · refine ⟨t.respell ending source, ?_, Token.matches_respell ht⟩
    rw [hscan]
    exact List.mem_map_of_mem ht
  · rw [hscan] at hu
    obtain ⟨t, ht, rfl⟩ := List.mem_map.mp hu
    exact ⟨t, ht, Token.matches_respell ht⟩

theorem Symbol.at?_of_line_neg {p : Position} (hp : p.line < 0) (source : List Char) :
    at? source p = none := by
  simp [at?, among?, Position.offset?, hp]

/-- A position names the same symbol, at the same range, whether the lines of a text end with a
line feed, a carriage return, or both, if no string of the text has a line break in it. -/
theorem same_symbol_at_any_ending {ending source : List Char} (hending : Text.IsEnding ending)
    (hfeeds : '\r' ∉ source)
    (hstrings : ∀ t ∈ Token.scan source, t.kind = .string →
      ∀ c ∈ t.lexeme, Token.endsLine c = false) (p : Position) :
    Symbol.at? (Text.respell ending source) p = Symbol.at? source p := by
  by_cases hp : p.line < 0
  · rw [Symbol.at?_of_line_neg hp, Symbol.at?_of_line_neg hp]
  · have hat := (Placed.respell hending hfeeds hstrings).at?_lower (Int.not_lt.mp hp) p.character
    rw [Int.natCast_zero, Int.zero_add] at hat
    rw [hat]
    cases Symbol.at? source p with
    | none => rfl
    | some s => rw [Option.map_some, Symbol.lower_zero]

/-- A comment over a line break, an identifier, and a string that a line break cuts off. -/
def brokenLines : List Char := ['/', '*', '\n', '*', '/', 's', '"', 'x', '\n', 't']

theorem same_symbol_at_any_ending_brokenLines :
    Symbol.at? (Text.respell ['\r', '\n'] brokenLines) ⟨1, 2⟩ =
        some ⟨['s'], ⟨⟨1, 2⟩, ⟨1, 3⟩⟩⟩ ∧
      Symbol.at? (Text.respell ['\r'] brokenLines) ⟨2, 1⟩ =
        some ⟨['t'], ⟨⟨2, 0⟩, ⟨2, 1⟩⟩⟩ := by
  have hfeeds : '\r' ∉ brokenLines := by decide
  have hall : ∀ t ∈ Token.scan brokenLines, t.kind = .string →
      t.lexeme.all (!Token.endsLine ·) = true := by decide
  have hstrings : ∀ t ∈ Token.scan brokenLines, t.kind = .string →
      ∀ c ∈ t.lexeme, Token.endsLine c = false := by
    intro t ht hkind c hc
    simpa using List.all_eq_true.mp (hall t ht hkind) c hc
  constructor
  · rw [same_symbol_at_any_ending (.inl rfl) hfeeds hstrings]
    decide
  · rw [same_symbol_at_any_ending (.inr rfl) hfeeds hstrings]
    decide

-- A backslash takes one character with it: the whole of a line feed, or half of a longer break.
example :
    Symbol.at? ['"', '\\', '\n', 's'] ⟨1, 0⟩ = none ∧
      Symbol.at? (Text.respell ['\r', '\n'] ['"', '\\', '\n', 's']) ⟨1, 0⟩ =
        some ⟨['s'], ⟨⟨1, 0⟩, ⟨1, 1⟩⟩⟩ := by
  decide

end ChapelServer
