import ChapelServer.Proofs.Text.LineFeed
import ChapelServer.Proofs.Text.Trimmed

/-!
# Lines of a text and the blanks around it

Lines without line breaks that are put together with line feeds fall into the same lines again,
unless the last of them is empty. Every line break is blank, so that the blanks around a text are
taken away from it together with whole lines: of the lines that have anything in them none is lost,
the first loses the blanks at its start and the last loses those at its end.
-/

namespace ChapelServer.Text

theorem isBlank_of_isLineBreak {c : Char} (h : isLineBreak c = true) : isBlank c = true := by
  simp only [isLineBreak, List.mem_cons, List.not_mem_nil, or_false, decide_eq_true_eq] at h
  rcases h with rfl | rfl | rfl | rfl | rfl | rfl | rfl | rfl | rfl | rfl <;> decide

/-! ## Lines taken apart and put together -/

theorem splitLines_cons_break {c : Char} {rest : List Char} (hc : isLineBreak c = true)
    (h : c = '\r' → rest.head? ≠ some '\n') : splitLines (c :: rest) = [] :: splitLines rest := by
  rw [splitLines, if_pos hc]
  rintro tail hr rfl
  exact h hr rfl

theorem splitLines_cons_plain {c : Char} (hc : isLineBreak c = false) (rest : List Char) :
    splitLines (c :: rest) = consLine c (splitLines rest) := by
  rw [splitLines, if_neg (by simp [hc])]
  rintro tail rfl
  cases hc

theorem splitLines_crlf (rest : List Char) :
    splitLines ('\r' :: '\n' :: rest) = [] :: splitLines rest := by
  rw [splitLines]

/-- A carriage return before its line feed is taken with it, every other character alone. -/
@[elab_as_elim]
theorem line_induction {motive : List Char → Prop} (text : List Char) (nil : motive [])
    (crlf : ∀ rest, motive rest → motive ('\r' :: '\n' :: rest))
    (ends : ∀ c rest, isLineBreak c = true → (c = '\r' → rest.head? ≠ some '\n') →
      motive rest → motive (c :: rest))
    (plain : ∀ c rest, isLineBreak c = false → motive rest → motive (c :: rest)) :
    motive text := by
  fun_induction splitLines text with
  | case1 => exact nil
  | case2 rest ih => exact crlf rest ih
  | case3 c rest hpair hc ih =>
    refine ends c rest hc (fun hr hhead => ?_) ih
    obtain ⟨rest, rfl⟩ := List.head?_eq_some_iff.mp hhead
    exact hpair rest hr rfl
  | case4 c rest _ hc ih => exact plain c rest (by simpa using hc) ih

theorem splitLines_eq_nil_iff {text : List Char} : splitLines text = [] ↔ text = [] := by
  cases text using line_induction with
  | nil => exact iff_of_true rfl rfl
  | crlf rest => simp [splitLines_crlf]
  | ends c rest hc hfirst => simp [splitLines_cons_break hc hfirst]
  | plain c rest hc =>
    rw [splitLines_cons_plain hc]
    cases splitLines rest <;> simp [consLine]

/-- No line has a line break in it. -/
theorem plain_of_mem_splitLines {text line : List Char} (h : line ∈ splitLines text) :
    ∀ c ∈ line, isLineBreak c = false := by
  induction text using line_induction generalizing line with
  | nil => cases h
  | crlf rest ih =>
    rw [splitLines_crlf] at h
    rcases List.mem_cons.mp h with rfl | h
    · simp
    · exact ih h
  | ends c rest hc hfirst ih =>
    rw [splitLines_cons_break hc hfirst] at h
    rcases List.mem_cons.mp h with rfl | h
    · simp
    · exact ih h
  | plain c rest hc ih =>
    rw [splitLines_cons_plain hc] at h
    cases hlines : splitLines rest with
    | nil =>
      rw [hlines] at h
      obtain rfl := List.mem_singleton.mp h
      simpa using hc
    | cons first others =>
      rw [hlines] at h ih
      rcases List.mem_cons.mp h with rfl | h
      · exact List.forall_mem_cons.mpr ⟨hc, ih List.mem_cons_self⟩
      · exact ih (List.mem_cons_of_mem first h)

theorem splitLines_line {line : List Char} (hplain : ∀ c ∈ line, isLineBreak c = false)
    (hne : line ≠ []) : splitLines line = [line] := by
  induction line with
  | nil => exact absurd rfl hne
  | cons c line ih =>
    obtain ⟨hc, hline⟩ := List.forall_mem_cons.mp hplain
    rw [splitLines_cons_plain hc]
    by_cases hnil : line = []
    · rw [hnil]
      rfl
    · rw [ih hline hnil]
      rfl

theorem splitLines_line_append {line : List Char} (hplain : ∀ c ∈ line, isLineBreak c = false)
    (rest : List Char) : splitLines (line ++ '\n' :: rest) = line :: splitLines rest := by
  induction line with
  | nil => exact splitLines_cons_break rfl (by simp)
  | cons c line ih =>
    obtain ⟨hc, hline⟩ := List.forall_mem_cons.mp hplain
    rw [List.cons_append, splitLines_cons_plain hc, ih hline]
    rfl

theorem joinLines_singleton (line : List Char) : joinLines [line] = line := by
  simp [joinLines]

theorem joinLines_cons_cons (line next : List Char) (lines : List (List Char)) :
    joinLines (line :: next :: lines) = line ++ '\n' :: joinLines (next :: lines) := rfl

/-- Lines that are put together are taken apart into the same lines. -/
theorem splitLines_joinLines {lines : List (List Char)}
    (hplain : ∀ line ∈ lines, ∀ c ∈ line, isLineBreak c = false)
    (hlast : lines.getLast? ≠ some []) : splitLines (joinLines lines) = lines := by
  induction lines with
  | nil => rfl
  | cons line lines ih =>
    obtain ⟨hline, hlines⟩ := List.forall_mem_cons.mp hplain
    cases lines with
    | nil =>
      rw [joinLines_singleton]
      exact splitLines_line hline fun h => hlast (by rw [h]; rfl)
    | cons next lines =>
      rw [joinLines_cons_cons, splitLines_line_append hline, ih hlines hlast]

/-- Lines that are put together end with the last of them. -/
theorem suffix_joinLines {lines : List (List Char)} {line : List Char}
    (h : lines.getLast? = some line) : line <:+ joinLines lines := by
  induction lines with
  | nil => simp at h
  | cons first lines ih =>
    cases lines with
    | nil =>
      obtain rfl := Option.some.inj h
      rw [joinLines_singleton]
      exact List.suffix_rfl
    | cons next lines =>
      rw [joinLines_cons_cons]
      exact (ih h).trans ((List.suffix_cons _ _).trans (List.suffix_append _ _))

/-! ## One more character -/

/-- A character that breaks no line goes on with the last line, or begins one. -/
theorem splitLines_concat_plain (text : List Char) {c : Char} (hc : isLineBreak c = false) :
    ∃ lines line, splitLines (text ++ [c]) = lines ++ [line ++ [c]] ∧
      (splitLines text = lines ++ [line] ∨ splitLines text = lines ∧ line = []) := by
  induction text using line_induction with
  | nil => exact ⟨[], [], splitLines_cons_plain hc [], .inr ⟨rfl, rfl⟩⟩
  | crlf rest ih =>
    obtain ⟨lines, line, hmore, hline⟩ := ih
    refine ⟨[] :: lines, line, ?_, ?_⟩
    · rw [List.cons_append, List.cons_append, splitLines_crlf, hmore, List.cons_append]
    · rw [splitLines_crlf]
      exact hline.imp (congrArg ([] :: ·)) fun h => ⟨congrArg ([] :: ·) h.1, h.2⟩
  | ends d rest hd hfirst ih =>
    obtain ⟨lines, line, hmore, hline⟩ := ih
    have hfirst' : d = '\r' → (rest ++ [c]).head? ≠ some '\n' := by
      intro hr hhead
      cases rest with
      | nil =>
        obtain rfl : c = '\n' := Option.some.inj hhead
        cases hc
      | cons e rest => exact hfirst hr hhead
    refine ⟨[] :: lines, line, ?_, ?_⟩
    · rw [List.cons_append, splitLines_cons_break hd hfirst', hmore, List.cons_append]
    · rw [splitLines_cons_break hd hfirst]
      exact hline.imp (congrArg ([] :: ·)) fun h => ⟨congrArg ([] :: ·) h.1, h.2⟩
  | plain d rest hd ih =>
    obtain ⟨lines, line, hmore, hline⟩ := ih
    rw [List.cons_append, splitLines_cons_plain hd, splitLines_cons_plain hd, hmore]
    cases lines with
    | nil =>
      -- The line that goes on is the first one, which has the character put in front of it.
      refine ⟨[], d :: line, rfl, .inl ?_⟩
      rcases hline with hline | ⟨hline, rfl⟩
      · rw [hline]
        rfl
      · rw [hline]
        rfl
    | cons first lines =>
      refine ⟨(d :: first) :: lines, line, rfl, ?_⟩
      exact hline.imp (congrArg (consLine d)) fun h => ⟨congrArg (consLine d) h.1, h.2⟩

/-- A line break ends the last line, or is an empty line. -/
theorem splitLines_concat_break (text : List Char) {c : Char} (hc : isLineBreak c = true) :
    splitLines (text ++ [c]) = splitLines text ∨
      splitLines (text ++ [c]) = splitLines text ++ [[]] := by
  induction text using line_induction with
  | nil => exact .inr (splitLines_cons_break hc (by simp))
  | crlf rest ih =>
    rw [List.cons_append, List.cons_append, splitLines_crlf, splitLines_crlf]
    exact ih.imp (congrArg ([] :: ·)) (congrArg ([] :: ·))
  | ends d rest hd hfirst ih =>
    by_cases hcut : d = '\r' ∧ (rest ++ [c]).head? = some '\n'
    · -- The line feed belongs to the carriage return before it.
      obtain ⟨rfl, hhead⟩ := hcut
      cases rest with
      | nil =>
        obtain rfl : c = '\n' := Option.some.inj hhead
        exact .inl rfl
      | cons e rest => exact absurd hhead (hfirst rfl)
    · rw [List.cons_append, splitLines_cons_break hd fun hr hhead => hcut ⟨hr, hhead⟩,
        splitLines_cons_break hd hfirst]
      exact ih.imp (congrArg ([] :: ·)) (congrArg ([] :: ·))
  | plain d rest hd ih =>
    rw [List.cons_append, splitLines_cons_plain hd, splitLines_cons_plain hd]
    rcases ih with ih | ih
    · exact .inl (congrArg (consLine d) ih)
    · rw [ih]
      cases splitLines rest with
      | nil => exact .inl rfl
      | cons first lines => exact .inr rfl

/-! ## Lines with something in them -/

/-- The line has a character that is not blank. -/
def speaks (line : List Char) : Bool :=
  line.any fun c => !isBlank c

/-- The lines of a text that have a character that is not blank. -/
def spokenLines (text : List Char) : List (List Char) :=
  (splitLines text).filter speaks

theorem speaks_cons (c : Char) (line : List Char) :
    speaks (c :: line) = (!isBlank c || speaks line) := rfl

theorem speaks_concat (line : List Char) (c : Char) :
    speaks (line ++ [c]) = (speaks line || !isBlank c) := by
  simp [speaks]

theorem trimEnd_concat_blank {c : Char} (hc : isBlank c = true) (line : List Char) :
    trimEnd (line ++ [c]) = trimEnd line :=
  List.rdropWhile_concat_pos isBlank line c hc

theorem trimEnd_concat_ink {c : Char} (hc : isBlank c = false) (line : List Char) :
    trimEnd (line ++ [c]) = line ++ [c] :=
  List.rdropWhile_concat_neg isBlank line c (by simp [hc])

/-- A blank at the end of a text is at most one at the end of its last line. -/
theorem trimEnd_spokenLines_concat (text : List Char) {c : Char} (hc : isBlank c = true) :
    (spokenLines (text ++ [c])).map trimEnd = (spokenLines text).map trimEnd := by
  cases hbreak : isLineBreak c with
  | true =>
    rcases splitLines_concat_break text hbreak with h | h
    · rw [spokenLines, h, spokenLines]
    · rw [spokenLines, h, List.filter_append, spokenLines]
      simp [speaks]
  | false =>
    obtain ⟨lines, line, hmore, hline⟩ := splitLines_concat_plain text hbreak
    have hspeaks : speaks (line ++ [c]) = speaks line := by simp [speaks_concat, hc]
    rw [spokenLines, hmore, spokenLines]
    rcases hline with hline | ⟨hline, rfl⟩
    · rw [hline, List.filter_append, List.filter_append]
      cases hs : speaks line <;> simp [hspeaks, hs, trimEnd_concat_blank hc]
    · rw [hline, List.filter_append]
      simp [speaks, hc]

/-- Without the blanks at its end, a text has the same lines with something in them, but for the
blanks at their ends. -/
theorem trimEnd_spokenLines_trimEnd (text : List Char) :
    (spokenLines (trimEnd text)).map trimEnd = (spokenLines text).map trimEnd := by
  induction text using List.reverseRecOn with
  | nil => rfl
  | append_singleton text c ih =>
    cases hc : isBlank c with
    | true => rw [trimEnd_concat_blank hc, ih, trimEnd_spokenLines_concat text hc]
    | false => rw [trimEnd_concat_ink hc]

/-- Without the blanks at its start, a text has the same lines with something in them, but for the
blanks at the start of the first one. -/
theorem spokenLines_trimStart (text : List Char) :
    spokenLines (trimStartBy isBlank text) =
      (spokenLines text).modifyHead (trimStartBy isBlank) := by
  induction text using line_induction with
  | nil => rfl
  | crlf rest ih =>
    rw [spokenLines, spokenLines, splitLines_crlf]
    exact ih
  | ends c rest hc hfirst ih =>
    rw [trimStartBy, List.dropWhile_cons_of_pos (isBlank_of_isLineBreak hc), ← trimStartBy, ih,
      spokenLines, spokenLines, splitLines_cons_break hc hfirst]
    rfl
  | plain c rest hc ih =>
    cases hblank : isBlank c with
    | false =>
      rw [trimStartBy, List.dropWhile_cons_of_neg (by simp [hblank]), spokenLines,
        splitLines_cons_plain hc]
      cases splitLines rest with
      | nil => simp [consLine, speaks_cons, hblank, trimStartBy]
      | cons first lines => simp [consLine, speaks_cons, hblank, trimStartBy]
    | true =>
      rw [trimStartBy, List.dropWhile_cons_of_pos hblank, ← trimStartBy, ih, spokenLines,
        spokenLines, splitLines_cons_plain hc]
      cases splitLines rest with
      | nil => simp [consLine, speaks, hblank]
      | cons first lines =>
        cases hs : speaks first <;> simp [consLine, speaks_cons, hs, hblank, trimStartBy]

/-! ## The last line -/

/-- A text that does not end with a blank ends with its last line, which has something in it. -/
theorem splitLines_concat_ink (text : List Char) {c : Char} (hc : isBlank c = false) :
    ∃ lines line, splitLines (text ++ [c]) = lines ++ [line ++ [c]] := by
  have hplain : isLineBreak c = false := by
    cases hbreak : isLineBreak c with
    | false => rfl
    | true =>
      rw [isBlank_of_isLineBreak hbreak] at hc
      cases hc
  obtain ⟨lines, line, hlines, -⟩ := splitLines_concat_plain text hplain
  exact ⟨lines, line, hlines⟩

theorem getLast?_splitLines_trimEnd (text : List Char) :
    (splitLines (trimEnd text)).getLast? = (spokenLines text).getLast?.map trimEnd := by
  rw [← List.getLast?_map, ← trimEnd_spokenLines_trimEnd]
  induction text using List.reverseRecOn with
  | nil => rfl
  | append_singleton text c ih =>
    cases hc : isBlank c with
    | true => rw [trimEnd_concat_blank hc, ih]
    | false =>
      obtain ⟨lines, line, hlines⟩ := splitLines_concat_ink text hc
      have hspeaks : speaks (line ++ [c]) = true := by simp [speaks_concat, hc]
      rw [trimEnd_concat_ink hc, spokenLines, hlines, List.filter_append, List.map_append]
      simp [hspeaks, trimEnd_concat_ink hc]

/-- The last line of a trimmed text is the last line of the text that has something in it, without
the blanks at its end, and also without those at its start if there is no other such line. -/
theorem getLast?_splitLines_trim (text : List Char) :
    (splitLines (trim text)).getLast? = (spokenLines text).getLast?.map fun line =>
      if (spokenLines text).length = 1 then trim line else trimEnd line := by
  rw [trim, trimBy, ← trimEnd, getLast?_splitLines_trimEnd, spokenLines_trimStart]
  cases spokenLines text with
  | nil => rfl
  | cons first lines =>
    cases lines with
    | nil => rfl
    | cons next lines => simp

end ChapelServer.Text
