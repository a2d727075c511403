import ChapelServer.Compilation.Staging
import ChapelServer.Proofs.Text.Lines

/-!
# The end of what a compiler has to say

The tail of a text is its last lines, without the blanks around the text. They are kept as they are,
empty lines among them, whatever line breaks stood between them. The very last line is the last one
of the text that says anything.
-/

namespace ChapelServer

open Text

/-- The lines of a trimmed text that are kept. -/
def keptLines (text : List Char) : List (List Char) :=
  let lines := splitLines (trim text)
  lines.drop (lines.length - tailLines)

theorem tail_eq (text : List Char) : tail text = joinLines (keptLines text) := rfl

theorem length_keptLines (text : List Char) :
    (keptLines text).length = min tailLines (splitLines (trim text)).length := by
  rw [keptLines, List.length_drop]
  omega

/-- The last line is kept. -/
theorem getLast?_keptLines (text : List Char) :
    (keptLines text).getLast? = (splitLines (trim text)).getLast? := by
  cases hlines : splitLines (trim text) with
  | nil => simp [keptLines, hlines]
  | cons line lines =>
    have hkept : ¬ (line :: lines).length ≤ (line :: lines).length - tailLines := by
      simp only [List.length_cons, tailLines]
      omega
    rw [keptLines, hlines, List.getLast?_drop, if_neg hkept]

/-- The last line of a trimmed text ends with a character that is not blank. -/
theorem ink_of_getLast?_splitLines_trim {text line : List Char}
    (h : (splitLines (trim text)).getLast? = some line) :
    ∃ start c, line = start ++ [c] ∧ isBlank c = false := by
  cases hlast : (trim text).getLast? with
  | none =>
    rw [List.getLast?_eq_none_iff.mp hlast] at h
    cases h
  | some c =>
    obtain ⟨start, hstart⟩ := List.getLast?_eq_some_iff.mp hlast
    have hne : trim text ≠ [] := by simp [hstart]
    have hink : isBlank c = false := (trimBy_trimmed hne).stop c hlast
    obtain ⟨lines, begun, hlines⟩ := splitLines_concat_ink start hink
    rw [hstart, hlines, List.getLast?_concat] at h
    exact ⟨begun, c, (Option.some.inj h).symm, hink⟩

/-- The tail of a text has the lines that are kept. -/
theorem splitLines_tail (text : List Char) : splitLines (tail text) = keptLines text := by
  rw [tail_eq]
  refine splitLines_joinLines (fun line hline => ?_) fun hempty => ?_
  · exact plain_of_mem_splitLines (List.mem_of_mem_drop hline)
  · rw [getLast?_keptLines] at hempty
    obtain ⟨start, c, hnil, -⟩ := ink_of_getLast?_splitLines_trim hempty
    simp at hnil

theorem tail_eq_nil_iff {text : List Char} : tail text = [] ↔ ∀ c ∈ text, isBlank c = true := by
  rw [← trim_eq_nil_iff, ← splitLines_eq_nil_iff, splitLines_tail, ← List.length_eq_zero_iff,
    length_keptLines, ← splitLines_eq_nil_iff, ← List.length_eq_zero_iff]
  simp only [tailLines]
  omega

theorem ink_of_getLast?_tail {text : List Char} {c : Char} (h : (tail text).getLast? = some c) :
    isBlank c = false := by
  cases hlast : (keptLines text).getLast? with
  | none =>
    rw [tail_eq, List.getLast?_eq_none_iff.mp hlast] at h
    cases h
  | some line =>
    obtain ⟨before, hbefore⟩ := suffix_joinLines hlast
    rw [getLast?_keptLines] at hlast
    obtain ⟨start, d, rfl, hink⟩ := ink_of_getLast?_splitLines_trim hlast
    rw [tail_eq, ← hbefore, ← List.append_assoc, List.getLast?_concat] at h
    exact Option.some.inj h ▸ hink

/-- The lines of the tail of a text are the last twenty lines of the trimmed text, or all of them if
there are fewer. The tail is empty exactly if the text is blank, else it ends with a character that
is not blank. Its last line is the last line of the text that has something in it, without the
blanks at its end, and also without those at its start if there is no other such line. -/
theorem tail_keeps_last_lines (text : List Char) :
    let lines := splitLines (trim text)
    let kept := splitLines (tail text)
    (kept <:+ lines ∧ kept.length = min 20 lines.length) ∧
      (tail text = [] ↔ ∀ c ∈ text, isBlank c = true) ∧
      (∀ c, (tail text).getLast? = some c → isBlank c = false) ∧
      kept.getLast? = (spokenLines text).getLast?.map fun line =>
        if (spokenLines text).length = 1 then trim line else trimEnd line := by
  intro lines kept
  have hkept : kept = keptLines text := splitLines_tail text
  refine ⟨⟨?_, ?_⟩, tail_eq_nil_iff, fun c => ink_of_getLast?_tail, ?_⟩
  · rw [hkept]
    exact List.drop_suffix _ _
  · rw [hkept]
    exact length_keptLines text
  · rw [hkept, getLast?_keptLines]
    exact getLast?_splitLines_trim text

end ChapelServer
