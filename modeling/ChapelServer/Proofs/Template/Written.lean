import ChapelServer.Proofs.Settings.WellFormed

/-!
# Templates as they are written

A template can be written from the segments that are wanted: a brace of the text is doubled, and a
field is put in braces. Reading gives the same segments again, wherever braces of the text and those
of fields come together; and blanks around the template are blanks of its text, so that trimming it
takes away segments and breaks none.
-/

namespace ChapelServer.Template

/-! ## Writing -/

/-- A character of the text as it is written: a brace twice, any other character once. -/
def escape (c : CodePoint) : Text :=
  if c = '{' || c = '}' then [c, c] else [c]

/-- The characters that mean something in the name of a field. -/
def reserved : Text := [.char '{', .char '}', .char '[', .char ':', .char '!']

namespace Segment

/-- A segment as it is written, if it is a character or has nothing but a name. -/
def written : Segment → Text
  | .char c => escape c
  | .field name _ _ _ => [.char '{'] ++ name ++ [.char '}']
  | .malformed => []

/-- A character, or a field with nothing but a name in which nothing is reserved. -/
inductive IsPlain : Segment → Prop
  | char (c : CodePoint) : IsPlain (.char c)
  | field {name : Text} (free : ∀ c ∈ name, c ∉ reserved) :
    IsPlain (.field name none [] false)

end Segment

/-! ## Reading what was written -/

theorem nameStep_of_free {c : CodePoint} (h : c ∉ reserved) (name : Text) :
    nameStep name c = .go [] (.name (c :: name)) := by
  simp only [reserved, List.mem_cons, List.not_mem_nil, or_false, not_or] at h
  obtain ⟨hopen, hclose, hbracket, hcolon, hmark⟩ := h
  simp [nameStep, hopen, hclose, hbracket, hcolon, hmark]

/-- The name of a field is read up to the brace that closes it. -/
theorem segmentsFrom_name {name : Text} (h : ∀ c ∈ name, c ∉ reserved)
    (before rest : Text) :
    segmentsFrom (.name before) (name ++ .char '}' :: rest) =
      .field (before.reverse ++ name) none [] false :: segmentsFrom .text rest := by
  induction name generalizing before with
  | nil => simp [segmentsFrom, Mode.step, nameStep]
  | cons c name ih =>
    obtain ⟨hc, hname⟩ := List.forall_mem_cons.mp h
    rw [List.cons_append, segmentsFrom, Mode.step, nameStep_of_free hc]
    simp only [List.nil_append]
    rw [ih hname]
    simp

/-- After an open brace, anything but a second one starts a name. -/
theorem segmentsFrom_openBrace {c : CodePoint} (h : c ≠ .char '{') (rest : Text) :
    segmentsFrom .openBrace (c :: rest) = segmentsFrom (.name []) (c :: rest) := by
  simp [segmentsFrom, Mode.step, h]

theorem segmentsFrom_field {name : Text} (h : ∀ c ∈ name, c ∉ reserved) (rest : Text) :
    segmentsFrom .text (.char '{' :: (name ++ .char '}' :: rest)) =
      .field name none [] false :: segmentsFrom .text rest := by
  have hopen : segmentsFrom .text (.char '{' :: (name ++ .char '}' :: rest)) =
      segmentsFrom .openBrace (name ++ .char '}' :: rest) := by
    simp [segmentsFrom, Mode.step]
  have hname : segmentsFrom .openBrace (name ++ .char '}' :: rest) =
      segmentsFrom (.name []) (name ++ .char '}' :: rest) := by
    cases name with
    | nil => exact segmentsFrom_openBrace (by decide) rest
    | cons c name =>
      have hc : c ≠ .char '{' := by
        rintro rfl
        exact h _ List.mem_cons_self (by simp [reserved])
      exact segmentsFrom_openBrace hc _
  rw [hopen, hname, segmentsFrom_name h]
  rfl

theorem segmentsFrom_escape (c : CodePoint) (rest : Text) :
    segmentsFrom .text (escape c ++ rest) = .char c :: segmentsFrom .text rest := by
  by_cases hopen : c = .char '{'
  · simp [hopen, escape, segmentsFrom, Mode.step]
  · by_cases hclose : c = .char '}'
    · simp [hclose, escape, segmentsFrom, Mode.step]
    · simp [hopen, hclose, escape, segmentsFrom, Mode.step]

/-- What was written from plain segments is read as these segments. -/
theorem segments_written {gs : List Segment} (h : ∀ g ∈ gs, g.IsPlain) :
    segments (gs.flatMap Segment.written) = gs := by
  induction gs with
  | nil => rfl
  | cons g gs ih =>
    obtain ⟨hg, hgs⟩ := List.forall_mem_cons.mp h
    have hrest : segmentsFrom .text (gs.flatMap Segment.written) = gs := ih hgs
    rw [segments, List.flatMap_cons]
    cases hg with
    | char c => rw [Segment.written, segmentsFrom_escape, hrest]
    | field free =>
      rename_i name
      have hfield : (Segment.field name none [] false).written ++ gs.flatMap Segment.written =
          .char '{' :: (name ++ .char '}' :: gs.flatMap Segment.written) := by
        simp [Segment.written]
      rw [hfield, segmentsFrom_field free, hrest]

/-! ## Filling in -/

variable {room : Nat} {arguments : Arguments} {inner : Text → Except Error (Text)}

/-- Segments that can all be filled in give their texts one after the other. -/
theorem fillSegments_of_fill {gs : List Segment} {text : Segment → Text}
    (h : ∀ g ∈ gs, g.fill room arguments inner = .ok (text g)) :
    fillSegments room arguments inner gs = .ok (gs.flatMap text) := by
  induction gs with
  | nil => rfl
  | cons g gs ih =>
    obtain ⟨hg, hgs⟩ := List.forall_mem_cons.mp h
    exact fillSegments_cons hg (ih hgs)

/-! ## Trimming -/

/-- The segment is a blank of the text. -/
def Segment.isBlank : Segment → Bool
  | .char c => c.isBlank
  | _ => false

/-- Where each part is dropped as a whole or not at all, dropping characters is dropping parts. -/
theorem dropWhile_flatMap {α β : Type} {drops : α → Bool} {skips : β → Bool} {parts : β → List α}
    {bs : List β} (hskip : ∀ b ∈ bs, skips b = true → ∀ a ∈ parts b, drops a = true)
    (hstop : ∀ b ∈ bs, skips b = false → ∃ a rest, parts b = a :: rest ∧ drops a = false) :
    (bs.flatMap parts).dropWhile drops = (bs.dropWhile skips).flatMap parts := by
  induction bs with
  | nil => rfl
  | cons b bs ih =>
    obtain ⟨hb, hbs⟩ := List.forall_mem_cons.mp hskip
    obtain ⟨hb', hbs'⟩ := List.forall_mem_cons.mp hstop
    rw [List.flatMap_cons]
    cases hs : skips b with
    | true =>
      rw [List.dropWhile_append_of_pos (hb hs), List.dropWhile_cons_of_pos hs, ih hbs hbs']
    | false =>
      obtain ⟨a, rest, hparts, ha⟩ := hb' hs
      rw [List.dropWhile_cons_of_neg (by simp [hs]), List.flatMap_cons, hparts, List.cons_append,
        List.dropWhile_cons_of_neg (by simp [ha])]

theorem isBlank_of_mem_written {g : Segment} (hb : g.isBlank = true) :
    ∀ c ∈ g.written, CodePoint.isBlank c = true := by
  cases g with
  | char c =>
    have hmem : ∀ d ∈ escape c, d = c := by
      unfold escape
      split <;> simp
    intro d hd
    rw [hmem d hd]
    exact hb
  | field | malformed => cases hb

/-- A segment that is no blank begins and ends with a character that is none. -/
theorem written_ends {g : Segment} (hg : g.IsPlain) (hb : g.isBlank = false) :
    (∃ c rest, g.written = c :: rest ∧ CodePoint.isBlank c = false) ∧
      ∃ c rest, g.written.reverse = c :: rest ∧ CodePoint.isBlank c = false := by
  cases hg with
  | char c =>
    rw [Segment.written, escape]
    split
    · exact ⟨⟨c, [c], rfl, hb⟩, c, [c], rfl, hb⟩
    · exact ⟨⟨c, [], rfl, hb⟩, c, [], rfl, hb⟩
  | @field name free =>
    refine ⟨⟨.char '{', name ++ [.char '}'], rfl, rfl⟩, .char '}', name.reverse ++ [.char '{'],
      ?_, rfl⟩
    simp [Segment.written]

theorem trimStart_written {gs : List Segment} (h : ∀ g ∈ gs, g.IsPlain) :
    Text.trimStartBy CodePoint.isBlank (gs.flatMap Segment.written) =
      (gs.dropWhile Segment.isBlank).flatMap Segment.written :=
  dropWhile_flatMap (fun _ _ => isBlank_of_mem_written)
    fun g hg hb => (written_ends (h g hg) hb).1

theorem trimEnd_written {gs : List Segment} (h : ∀ g ∈ gs, g.IsPlain) :
    Text.trimEndBy CodePoint.isBlank (gs.flatMap Segment.written) =
      (gs.rdropWhile Segment.isBlank).flatMap Segment.written := by
  have hdrop : (gs.reverse.flatMap (List.reverse ∘ Segment.written)).dropWhile CodePoint.isBlank =
      (gs.reverse.dropWhile Segment.isBlank).flatMap (List.reverse ∘ Segment.written) := by
    refine dropWhile_flatMap (fun g _ hb c hc => ?_) fun g hg hb => ?_
    · exact isBlank_of_mem_written hb c (List.mem_reverse.mp hc)
    · exact (written_ends (h g (List.mem_reverse.mp hg)) hb).2
  rw [Text.trimEndBy, List.reverse_flatMap, hdrop, List.rdropWhile, List.flatMap_reverse]

/-- Trimming what was written from segments leaves what is written without the blanks at both
ends of them. -/
theorem trim_written {gs : List Segment} (h : ∀ g ∈ gs, g.IsPlain) :
    Text.stripped (gs.flatMap Segment.written) =
      ((gs.dropWhile Segment.isBlank).rdropWhile Segment.isBlank).flatMap Segment.written := by
  have hstart : ∀ g ∈ gs.dropWhile Segment.isBlank, g.IsPlain :=
    fun g hg => h g ((List.dropWhile_sublist _).mem hg)
  rw [Text.stripped, Text.trimBy, trimStart_written h, trimEnd_written hstart]

end ChapelServer.Template
