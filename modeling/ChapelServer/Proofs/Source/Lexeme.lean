import ChapelServer.Proofs.Source.Symbol
import ChapelServer.Proofs.Text.Run

/-!
# Where a lexeme ends

For each kind of token, the texts that may be a lexeme of it when another text comes after. This
is told without a scan: what a lexeme consists of, and what has to follow it or must not. A text
starts with a lexeme of a kind exactly if it can be cut into one and what may come after it, and
there is at most one such cut. So each token of a text ends where its kind says.
-/

namespace ChapelServer

namespace Token

/-! ## What a lexeme consists of -/

/-- The two characters that close a block comment do not stand in the text. -/
def NotClosed (text : List Char) : Prop :=
  ¬ ['*', '/'] <:+: text

/-- The marks that open and close a string. -/
def IsQuote (c : Char) : Prop :=
  c = '"' ∨ c = '\''

/-- What may stand between the quotes of a string: pairs of a backslash and any character, and
characters other than the quote, a backslash and a line break. -/
inductive StringText (quote : Char) : List Char → Prop
  | nil : StringText quote []
  | escape (c : Char) {rest : List Char} (hrest : StringText quote rest) :
      StringText quote ('\\' :: c :: rest)
  | plain {c : Char} {rest : List Char} (hquote : c ≠ quote) (hescape : c ≠ '\\')
      (hline : endsLine c = false) (hrest : StringText quote rest) : StringText quote (c :: rest)

/-- A string that is not closed cannot go on here: at the end, at a line break, or at a backslash
that has nothing after it. -/
def CutsString (after : List Char) : Prop :=
  after = [] ∨ after = ['\\'] ∨ ∃ c rest, after = c :: rest ∧ endsLine c = true

/-- The mark of a fraction. -/
def IsPoint (mark : List Char) : Prop :=
  mark = ['.']

/-- The mark of an exponent: its letter and an optional sign. -/
def IsExponentMark (mark : List Char) : Prop :=
  ∃ e, (e = 'e' ∨ e = 'E') ∧ (mark = [e] ∨ mark = [e, '+'] ∨ mark = [e, '-'])

/-- A part of a number, which is there exactly if its mark and a digit follow. It takes all the
digits after its mark. -/
inductive OptionalPart (IsMark : List Char → Prop) : (part after : List Char) → Prop
  | present {mark digits after : List Char} (hmark : IsMark mark) (hdigits : digits ≠ [])
      (hrun : Text.WholeRun Text.isDigit digits after) : OptionalPart IsMark (mark ++ digits) after
  | absent {after : List Char}
      (h : ∀ mark d rest, IsMark mark → Text.isDigit d = true → after ≠ mark ++ d :: rest) :
      OptionalPart IsMark [] after

/-- The text is a lexeme of the kind when the other text comes after it. -/
inductive Ends : Kind → (lexeme after : List Char) → Prop
  /-- A block comment ends with the first `*/` after its opening. -/
  | closedComment {inner after : List Char} (hinner : NotClosed inner) :
      Ends .blockComment ('/' :: '*' :: (inner ++ ['*', '/'])) after
  /-- A block comment that has none ends with the text. -/
  | openComment {inner : List Char} (hinner : NotClosed inner) :
      Ends .blockComment ('/' :: '*' :: inner) []
  /-- A line comment ends at a line break or with the text. -/
  | lineComment {run after : List Char} (hrun : Text.WholeRun (!endsLine ·) run after) :
      Ends .lineComment ('/' :: '/' :: run) after
  /-- A string ends with the quote that closes it. -/
  | closedString {quote : Char} {inner after : List Char} (hquote : IsQuote quote)
      (hinner : StringText quote inner) : Ends .string (quote :: (inner ++ [quote])) after
  /-- A string that is not closed ends where it cannot go on. -/
  | openString {quote : Char} {inner after : List Char} (hquote : IsQuote quote)
      (hinner : StringText quote inner) (hafter : CutsString after) :
      Ends .string (quote :: inner) after
  /-- A number is a digit with the word characters after it, a fraction and an exponent. -/
  | number {d : Char} {glued fractional exponential after : List Char}
      (hdigit : Text.isDigit d = true)
      (hglued : Text.WholeRun Text.isWord glued (fractional ++ (exponential ++ after)))
      (hfraction : OptionalPart IsPoint fractional (exponential ++ after))
      (hexponent : OptionalPart IsExponentMark exponential after) :
      Ends .number (d :: (glued ++ fractional ++ exponential)) after
  /-- An identifier is a letter with the word characters and dollar signs after it. -/
  | identifier {c : Char} {run after : List Char} (hstart : startsIdentifier c = true)
      (hrun : Text.WholeRun continuesIdentifier run after) : Ends .identifier (c :: run) after

/-! ## Block comments -/

theorem notClosed_cons {c : Char} {rest : List Char} :
    NotClosed (c :: rest) ↔ (c = '*' → rest.head? ≠ some '/') ∧ NotClosed rest := by
  rw [NotClosed, List.infix_cons_iff, not_or, NotClosed]
  refine and_congr_left fun _ => ?_
  cases rest with
  | nil => simp
  | cons d rest => simp [List.cons_prefix_cons, eq_comm]

/-- A text has a first `*/`, or none. -/
theorem exists_closing (text : List Char) :
    (∃ inner after, text = inner ++ ['*', '/'] ++ after ∧ NotClosed inner) ∨ NotClosed text := by
  induction text with
  | nil => exact .inr (by simp [NotClosed])
  | cons c rest ih =>
    by_cases hcloses : c = '*' ∧ rest.head? = some '/'
    · obtain ⟨rfl, hhead⟩ := hcloses
      obtain ⟨after, rfl⟩ := List.head?_eq_some_iff.mp hhead
      exact .inl ⟨[], after, rfl, by simp [NotClosed]⟩
    · have hfirst : c = '*' → rest.head? ≠ some '/' := fun hc hhead => hcloses ⟨hc, hhead⟩
      rcases ih with ⟨inner, after, rfl, hinner⟩ | hclear
      · refine .inl ⟨c :: inner, after, rfl, notClosed_cons.mpr ⟨fun hc hhead => ?_, hinner⟩⟩
        refine hfirst hc ?_
        rw [List.append_assoc, List.head?_append, hhead, Option.some_or]
      · exact .inr (notClosed_cons.mpr ⟨hfirst, hclear⟩)

theorem blockCommentBody_cons {c : Char} {rest : List Char}
    (h : c = '*' → rest.head? ≠ some '/') :
    blockCommentBody (c :: rest) = c :: blockCommentBody rest := by
  rw [blockCommentBody]
  rintro tail hc rfl
  exact h hc rfl

theorem blockCommentBody_closed {inner : List Char} (h : NotClosed inner) (after : List Char) :
    blockCommentBody (inner ++ ['*', '/'] ++ after) = inner ++ ['*', '/'] := by
  induction inner with
  | nil => rfl
  | cons c inner ih =>
    obtain ⟨hfirst, hinner⟩ := notClosed_cons.mp h
    rw [List.cons_append, List.cons_append, blockCommentBody_cons, ih hinner]
    intro hc
    -- The `*` that closes the comment is no `/`, so that nothing is closed one character early.
    cases inner with
    | nil => simp
    | cons d inner => exact hfirst hc

theorem blockCommentBody_open {text : List Char} (h : NotClosed text) :
    blockCommentBody text = text := by
  induction text with
  | nil => rfl
  | cons c rest ih =>
    obtain ⟨hfirst, hrest⟩ := notClosed_cons.mp h
    rw [blockCommentBody_cons hfirst, ih hrest]

/-! ## Strings -/

theorem IsQuote.ne_escape {quote : Char} (h : IsQuote quote) : quote ≠ '\\' := by
  rcases h with rfl | rfl <;> decide

theorem IsQuote.not_endsLine {quote : Char} (h : IsQuote quote) : endsLine quote = false := by
  rcases h with rfl | rfl <;> decide

theorem stringBody_plain {quote c : Char} {rest : List Char} (hquote : c ≠ quote)
    (hescape : c ≠ '\\') (hline : endsLine c = false) :
    stringBody quote (c :: rest) = c :: stringBody quote rest := by
  rw [stringBody]
  · simp [hquote, hescape, hline]
  · rintro d tail hc -
    exact hescape hc

/-- The body of a string ends with its quote, or where it cannot go on. -/
theorem stringBody_ends (quote : Char) (text : List Char) :
    ∃ after, text = stringBody quote text ++ after ∧
      ((∃ inner, stringBody quote text = inner ++ [quote] ∧ StringText quote inner) ∨
        StringText quote (stringBody quote text) ∧ CutsString after) := by
  fun_induction stringBody quote text with
  | case1 => exact ⟨[], rfl, .inr ⟨.nil, .inl rfl⟩⟩
  | case2 c rest ih =>
    obtain ⟨after, htext, hends⟩ := ih
    refine ⟨after, by rw [List.cons_append, List.cons_append, ← htext], ?_⟩
    rcases hends with ⟨inner, hbody, hinner⟩ | ⟨hinner, hafter⟩
    · exact .inl ⟨'\\' :: c :: inner, by rw [hbody]; rfl, .escape c hinner⟩
    · exact .inr ⟨.escape c hinner, hafter⟩
  | case3 rest => exact ⟨rest, rfl, .inl ⟨[], rfl, .nil⟩⟩
  | case4 c rest hne hquote hcut =>
    refine ⟨c :: rest, rfl, .inr ⟨.nil, ?_⟩⟩
    rcases Bool.or_eq_true_iff.mp hcut with hescape | hline
    · obtain rfl : c = '\\' := by simpa using hescape
      cases rest with
      | nil => exact .inr (.inl rfl)
      | cons d rest => exact (hne d rest rfl rfl).elim
    · exact .inr (.inr ⟨c, rest, rfl, hline⟩)
  | case5 c rest hne hquote hcut ih =>
    obtain ⟨hescape, hline⟩ : c ≠ '\\' ∧ endsLine c = false := by simpa using hcut
    obtain ⟨after, htext, hends⟩ := ih
    refine ⟨after, by rw [List.cons_append, ← htext], ?_⟩
    rcases hends with ⟨inner, hbody, hinner⟩ | ⟨hinner, hafter⟩
    · exact .inl ⟨c :: inner, by rw [hbody]; rfl, .plain hquote hescape hline hinner⟩
    · exact .inr ⟨.plain hquote hescape hline hinner, hafter⟩

theorem stringBody_append {quote : Char} {inner : List Char} (h : StringText quote inner)
    (after : List Char) : stringBody quote (inner ++ after) = inner ++ stringBody quote after := by
  induction h with
  | nil => rfl
  | escape c _ ih => rw [List.cons_append, List.cons_append, stringBody, ih]; rfl
  | plain hquote hescape hline _ ih =>
    rw [List.cons_append, stringBody_plain hquote hescape hline, ih, List.cons_append]

theorem stringBody_quote {quote : Char} (h : IsQuote quote) (after : List Char) :
    stringBody quote (quote :: after) = [quote] := by
  rw [stringBody, if_pos rfl]
  rintro c rest hc -
  exact h.ne_escape hc

theorem stringBody_cut {quote : Char} (h : IsQuote quote) {after : List Char}
    (hafter : CutsString after) : stringBody quote after = [] := by
  rcases hafter with rfl | rfl | ⟨c, rest, rfl, hline⟩
  · rfl
  · rw [stringBody, if_neg h.ne_escape.symm, if_pos (by decide)]
    simp
  · have hquote : c ≠ quote := by
      rintro rfl
      rw [h.not_endsLine] at hline
      cases hline
    rw [stringBody, if_neg hquote, if_pos (by simp [hline])]
    rintro d tail rfl -
    exact absurd hline (by decide)

/-! ## Numbers -/

theorem IsPoint.plain {mark : List Char} (h : IsPoint mark) : ∀ c ∈ mark, endsLine c = false := by
  rw [show mark = ['.'] from h, List.forall_mem_singleton]
  rfl

theorem IsExponentMark.plain {mark : List Char} (h : IsExponentMark mark) :
    ∀ c ∈ mark, endsLine c = false := by
  obtain ⟨e, rfl | rfl, rfl | rfl | rfl⟩ := h <;> simp [endsLine]

theorem optionalPart_exists (IsMark : List Char → Prop) (text : List Char) :
    ∃ part after, text = part ++ after ∧ OptionalPart IsMark part after := by
  by_cases h : ∃ mark d rest, IsMark mark ∧ Text.isDigit d = true ∧ text = mark ++ d :: rest
  · obtain ⟨mark, d, rest, hmark, hd, rfl⟩ := h
    refine ⟨_, rest.dropWhile Text.isDigit, ?_, .present hmark (List.cons_ne_nil _ _)
      ((Text.wholeRun_takeWhile Text.isDigit rest).cons hd)⟩
    rw [List.append_assoc, List.cons_append, List.takeWhile_append_dropWhile]
  · refine ⟨[], text, rfl, .absent ?_⟩
    intro mark d rest hmark hd htext
    exact h ⟨mark, d, rest, hmark, hd, htext⟩

theorem fraction_eq {part after : List Char} (h : OptionalPart IsPoint part after) :
    fraction (part ++ after) = part := by
  cases h with
  | @present mark digits _ hmark hdigits hrun =>
    obtain rfl : mark = ['.'] := hmark
    cases digits with
    | nil => contradiction
    | cons d digits =>
      obtain ⟨hd, hrun⟩ := Text.wholeRun_cons.mp hrun
      simp [fraction, hd, hrun.takeWhile_eq]
  | absent h =>
    rw [List.nil_append, fraction.eq_def]
    split
    · rename_i d rest
      exact if_neg fun hd => h ['.'] d rest rfl hd rfl
    · rfl

theorem exponentDigits_eq_some {digits after : List Char} (hdigits : digits ≠ [])
    (hrun : Text.WholeRun Text.isDigit digits after) :
    exponentDigits (digits ++ after) = some digits := by
  cases digits with
  | nil => contradiction
  | cons d digits =>
    obtain ⟨hd, hrun⟩ := Text.wholeRun_cons.mp hrun
    simp [exponentDigits, hd, hrun.takeWhile_eq]

theorem exponentDigits_eq_none {text : List Char}
    (h : ∀ d rest, Text.isDigit d = true → text ≠ d :: rest) : exponentDigits text = none := by
  cases text with
  | nil => rfl
  | cons d rest => exact if_neg fun hd => h d rest hd rfl

theorem exponent_eq {part after : List Char} (h : OptionalPart IsExponentMark part after) :
    exponent (part ++ after) = part := by
  cases h with
  | @present mark digits _ hmark hdigits hrun =>
    have hread := exponentDigits_eq_some hdigits hrun
    obtain ⟨e, he, rfl | rfl | rfl⟩ := hmark
    · cases digits with
      | nil => contradiction
      | cons d digits =>
        -- A digit is no sign.
        have hd := (Text.wholeRun_cons.mp hrun).1
        have hsign : ¬ (d = '+' ∨ d = '-') := by
          rintro (rfl | rfl) <;> revert hd <;> decide
        rw [List.cons_append] at hread
        simp [exponent, he, hsign, hread]
    · simp [exponent, he, hread]
    · simp [exponent, he, hread]
  | absent h =>
    rw [List.nil_append, exponent.eq_def]
    split
    · rename_i e sign rest
      split
      · rename_i he
        replace he : e = 'e' ∨ e = 'E' := by simpa using he
        split
        · rename_i hsign
          have hmark : IsExponentMark [e, sign] := by
            refine ⟨e, he, .inr ?_⟩
            simpa using hsign
          rw [exponentDigits_eq_none]
          rintro d rest' hd rfl
          exact h [e, sign] d rest' hmark hd rfl
        · rw [exponentDigits_eq_none]
          intro d rest' hd hrest
          exact h [e] d rest' ⟨e, he, .inl rfl⟩ hd (by rw [hrest]; rfl)
      · rfl
    · rfl

theorem numberBody_eq {glued fractional exponential after : List Char}
    (hglued : Text.WholeRun Text.isWord glued (fractional ++ (exponential ++ after)))
    (hfraction : OptionalPart IsPoint fractional (exponential ++ after))
    (hexponent : OptionalPart IsExponentMark exponential after) :
    numberBody (glued ++ (fractional ++ (exponential ++ after))) =
      glued ++ fractional ++ exponential := by
  simp only [numberBody, hglued.takeWhile_eq, hglued.dropWhile_eq, fraction_eq hfraction,
    List.drop_left, exponent_eq hexponent]

/-! ## Lexemes -/

/-- No letter that starts an identifier is a digit. -/
theorem not_isDigit_of_starts {c : Char} (h : startsIdentifier c = true) :
    Text.isDigit c = false := by
  have hzeros : ∀ first ∈ Text.digitZeros, first = 0x30 ∨ 0x660 ≤ first := by decide
  rw [← Bool.not_eq_true, Text.isDigit, Text.digitValue?, Option.isSome_map, List.find?_isSome]
  rintro ⟨first, hfirst, hblock⟩
  obtain ⟨hlo, hhi⟩ : first ≤ c.toNat ∧ c.toNat < first + 10 := by simpa using hblock
  have hc : 65 ≤ c.toNat ∧ c.toNat ≤ 122 := by
    rcases Bool.or_eq_true_iff.mp h with halpha | hunderscore
    · rw [Text.isAlpha_iff_toNat] at halpha
      omega
    · rw [eq_of_beq hunderscore]
      decide
  have := hzeros first hfirst
  omega

/-- The character starts a comment together with the next one. -/
def StartsComment (c : Char) (next : Option Char) : Prop :=
  c = '/' ∧ (next = some '/' ∨ next = some '*')

theorem lexeme?_cons {c : Char} {rest : List Char} (hc : ¬ StartsComment c rest.head?) :
    lexeme? (c :: rest) =
      if c = '"' || c = '\'' then some (.string, c :: stringBody c rest)
      else if Text.isDigit c then some (.number, c :: numberBody rest)
      else if startsIdentifier c then some (.identifier, c :: rest.takeWhile continuesIdentifier)
      else none := by
  rw [lexeme?]
  · rintro rest' rfl rfl
    exact hc ⟨rfl, .inr rfl⟩
  · rintro rest' rfl rfl
    exact hc ⟨rfl, .inl rfl⟩

theorem lexeme?_quote {quote : Char} (h : IsQuote quote) (rest : List Char) :
    lexeme? (quote :: rest) = some (.string, quote :: stringBody quote rest) := by
  have hne : quote ≠ '/' := by rcases h with rfl | rfl <;> decide
  rw [lexeme?_cons (fun hc => hne hc.1), if_pos (by simpa [IsQuote] using h)]

/-- A text that is cut into a lexeme and what may come after it starts with that lexeme. -/
theorem Ends.lexeme?_eq {kind : Kind} {lexeme after : List Char} (h : Ends kind lexeme after) :
    lexeme? (lexeme ++ after) = some (kind, lexeme) := by
  cases h with
  | closedComment hinner =>
    rw [List.cons_append, List.cons_append, lexeme?, blockCommentBody_closed hinner]
  | openComment hinner =>
    rw [List.append_nil, lexeme?, blockCommentBody_open hinner]
  | lineComment hrun => rw [List.cons_append, List.cons_append, lexeme?, hrun.takeWhile_eq]
  | closedString hquote hinner =>
    rw [List.cons_append, lexeme?_quote hquote, List.append_assoc, stringBody_append hinner,
      List.singleton_append, stringBody_quote hquote]
  | openString hquote hinner hafter =>
    rw [List.cons_append, lexeme?_quote hquote, stringBody_append hinner,
      stringBody_cut hquote hafter, List.append_nil]
  | @number d glued fractional exponential _ hdigit hglued hfraction hexponent =>
    have hne : d ≠ '/' ∧ d ≠ '"' ∧ d ≠ '\'' := by
      refine ⟨?_, ?_, ?_⟩ <;> rintro rfl <;> revert hdigit <;> decide
    rw [List.cons_append, lexeme?_cons (fun hc => hne.1 hc.1), if_neg (by simp [hne.2]),
      if_pos hdigit, List.append_assoc, List.append_assoc,
      numberBody_eq hglued hfraction hexponent]
  | @identifier c run _ hstart hrun =>
    have hne : c ≠ '/' ∧ c ≠ '"' ∧ c ≠ '\'' := by
      refine ⟨?_, ?_, ?_⟩ <;> rintro rfl <;> revert hstart <;> decide
    rw [List.cons_append, lexeme?_cons (fun hc => hne.1 hc.1), if_neg (by simp [hne.2]),
      if_neg (by simp [not_isDigit_of_starts hstart]), if_pos hstart, hrun.takeWhile_eq]

/-- A text that starts with a lexeme can be cut into one and what may come after it. -/
theorem exists_ends {text : List Char} (h : lexeme? text ≠ none) :
    ∃ kind lexeme after, text = lexeme ++ after ∧ Ends kind lexeme after := by
  unfold lexeme? at h
  split at h
  · contradiction
  · rename_i rest
    rcases exists_closing rest with ⟨inner, after, rfl, hinner⟩ | hclear
    · exact ⟨_, _, after, rfl, .closedComment hinner⟩
    · exact ⟨_, _, [], (List.append_nil _).symm, .openComment hclear⟩
  · rename_i rest
    refine ⟨_, _, _, ?_, .lineComment (Text.wholeRun_takeWhile (!endsLine ·) rest)⟩
    simp [List.takeWhile_append_dropWhile]
  · rename_i c rest _ _
    split at h
    · rename_i hc
      have hquote : IsQuote c := by simpa [IsQuote] using hc
      obtain ⟨after, hrest, ⟨inner, hbody, hinner⟩ | ⟨hinner, hafter⟩⟩ := stringBody_ends c rest
      · exact ⟨_, _, after, by rw [hrest, hbody]; rfl, .closedString hquote hinner⟩
      · exact ⟨_, _, after, by rw [List.cons_append, ← hrest], .openString hquote hinner hafter⟩
    · split at h
      · rename_i hdigit
        obtain ⟨fractional, rest', hrest, hfraction⟩ :=
          optionalPart_exists IsPoint (rest.dropWhile Text.isWord)
        obtain ⟨exponential, after, rfl, hexponent⟩ := optionalPart_exists IsExponentMark rest'
        have hglued := Text.wholeRun_takeWhile Text.isWord rest
        rw [hrest] at hglued
        refine ⟨_, _, after, ?_, .number hdigit hglued hfraction hexponent⟩
        rw [List.cons_append, List.append_assoc, List.append_assoc, ← hrest,
          List.takeWhile_append_dropWhile]
      · split at h
        · rename_i hstart
          refine ⟨_, _, _, ?_,
            .identifier hstart (Text.wholeRun_takeWhile continuesIdentifier rest)⟩
          rw [List.cons_append, List.takeWhile_append_dropWhile]
        · contradiction

/-- A text starts with a lexeme exactly if it can be cut into it and what may come after it. -/
theorem lexeme?_eq_some_iff {text lexeme : List Char} {kind : Kind} :
    lexeme? text = some (kind, lexeme) ↔
      ∃ after, text = lexeme ++ after ∧ Ends kind lexeme after := by
  constructor
  · intro h
    obtain ⟨kind', lexeme', after, rfl, hends⟩ := exists_ends (by rw [h]; nofun)
    rw [hends.lexeme?_eq] at h
    cases h
    exact ⟨after, rfl, hends⟩
  · rintro ⟨after, rfl, hends⟩
    exact hends.lexeme?_eq

/-- There is one way to cut a lexeme off a text. -/
theorem Ends.unique {kind kind' : Kind} {lexeme lexeme' after after' : List Char}
    (h : Ends kind lexeme after) (h' : Ends kind' lexeme' after')
    (htext : lexeme ++ after = lexeme' ++ after') : kind' = kind ∧ lexeme' = lexeme := by
  have hread := h.lexeme?_eq
  rw [htext, h'.lexeme?_eq] at hread
  exact Prod.mk.inj (Option.some.inj hread)

/-- A token stands in the text from its start on, with what may come after its kind. -/
theorem exists_cut_of_mem_scan {source : List Char} {t : Token} (h : t ∈ scan source) :
    ∃ before after, source = before ++ t.lexeme ++ after ∧ before.length = t.start ∧
      Ends t.kind t.lexeme after := by
  obtain ⟨k, hstart, hlex⟩ := lexeme?_of_mem_scanFrom h
  obtain rfl : t.start = k := by omega
  obtain ⟨after, hdrop, hends⟩ := lexeme?_eq_some_iff.mp hlex
  have hle : t.start ≤ source.length := by
    refine Nat.le_of_not_lt fun hlt => ?_
    rw [List.drop_eq_nil_of_le (Nat.le_of_lt hlt)] at hlex
    cases hlex
  refine ⟨source.take t.start, after, ?_, List.length_take_of_le hle, hends⟩
  rw [List.append_assoc, ← hdrop, List.take_append_drop]

/-- Each token of a text ends where its kind says, given what comes after it in the text, and no
lexeme of any kind could end elsewhere from the same start. -/
theorem token_ends_as_its_kind {source : List Char} {t : Token} (h : t ∈ scan source) :
    ∃ before after, source = before ++ t.lexeme ++ after ∧ before.length = t.start ∧
      Ends t.kind t.lexeme after ∧
      ∀ kind lexeme rest, source = before ++ lexeme ++ rest → Ends kind lexeme rest →
        kind = t.kind ∧ lexeme = t.lexeme := by
  obtain ⟨before, after, rfl, hlength, hends⟩ := exists_cut_of_mem_scan h
  refine ⟨before, after, rfl, hlength, hends, fun kind lexeme rest hcut hends' => ?_⟩
  rw [List.append_assoc, List.append_assoc] at hcut
  exact hends.unique hends' (List.append_cancel_left hcut)

/-- A number with a letter and a sign after it, and a string that a lone backslash cuts off. -/
def cutShort : List Char := ['1', '.', '5', 'e', '+', '"', 'a', '\\']

theorem token_ends_as_its_kind_cutShort :
    (∃ before after, cutShort = before ++ ['1', '.', '5'] ++ after ∧ before.length = 0 ∧
        Ends .number ['1', '.', '5'] after ∧
        ∀ kind lexeme rest, cutShort = before ++ lexeme ++ rest → Ends kind lexeme rest →
          kind = .number ∧ lexeme = ['1', '.', '5']) ∧
      ∃ before after, cutShort = before ++ ['"', 'a'] ++ after ∧ before.length = 5 ∧
        Ends .string ['"', 'a'] after ∧
        ∀ kind lexeme rest, cutShort = before ++ lexeme ++ rest → Ends kind lexeme rest →
          kind = .string ∧ lexeme = ['"', 'a'] := by
  have hnumber : ⟨.number, ['1', '.', '5'], 0⟩ ∈ scan cutShort := by decide
  have hstring : ⟨.string, ['"', 'a'], 5⟩ ∈ scan cutShort := by decide
  exact ⟨token_ends_as_its_kind hnumber, token_ends_as_its_kind hstring⟩

end Token

end ChapelServer
