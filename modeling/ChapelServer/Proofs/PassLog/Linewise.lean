import ChapelServer.Compilation.Staging
import ChapelServer.Proofs.PassLog.RoundTrip
import ChapelServer.Proofs.Text.LineFeed

/-!
# Pass logs line by line

No entry reaches over a line feed, and a line feed glues to no name. So what a pass log says of an
identifier is what the first of its lines says that says anything, each read as a file of its own.
Bytes that are no text do no harm beyond their line.
-/

namespace ChapelServer.PassLog

/-! ## Answers -/

section Answers

variable {ε α : Type}

/-- The answer, or the next one if it is that there is no entry. -/
def orNext (answer next : Except ε (Option α)) : Except ε (Option α) :=
  match answer with
  | .ok none => next
  | answer => answer

/-- The first of the answers that is more than that there is no entry. -/
def firstAnswer (answers : List (Except ε (Option α))) : Except ε (Option α) :=
  answers.foldr orNext (.ok none)

theorem orNext_of_ne {answer next : Except ε (Option α)} (h : answer ≠ .ok none) :
    orNext answer next = answer := by
  unfold orNext
  split
  · contradiction
  · rfl

theorem orNext_none (answer : Except ε (Option α)) : orNext answer (.ok none) = answer := by
  unfold orNext
  split <;> rfl

theorem mapError_orNext {ε' : Type} (f : ε → ε') (answer next : Except ε (Option α)) :
    (orNext answer next).mapError f = orNext (answer.mapError f) (next.mapError f) := by
  cases answer with
  | error e => rfl
  | ok found => cases found <;> rfl

theorem mapError_firstAnswer {ε' : Type} (f : ε → ε') (answers : List (Except ε (Option α))) :
    (firstAnswer answers).mapError f = firstAnswer (answers.map (·.mapError f)) := by
  induction answers with
  | nil => rfl
  | cons answer answers ih =>
    rw [firstAnswer, List.foldr_cons, mapError_orNext, ← firstAnswer, ih]
    rfl

end Answers

/-! ## Entries and line feeds -/

variable {symbol : List Char}

/-- A text without a mark that starts another one does not reach to the mark. -/
theorem prefix_append_cons_iff {word text rest : List Char} {mark : Char} (h : mark ∉ word) :
    word <+: text ++ mark :: rest ↔ word <+: text := by
  constructor
  · rintro ⟨after, hafter⟩
    rcases List.append_eq_append_iff.mp hafter with ⟨tail, rfl, -⟩ | ⟨tail, rfl, hmark⟩
    · exact List.prefix_append word tail
    · cases tail with
      | nil => simp
      | cons c tail =>
        obtain rfl : mark = c := (List.cons.inj hmark).1
        exact absurd (List.mem_append_right text List.mem_cons_self) h
  · intro hword
    exact hword.trans (List.prefix_append text _)

theorem read_eq_some_iff {text : List Char} {f : Fields} :
    (Text.after? symbol text).bind fields? = some f ↔
      f.WellFormed ∧ symbol ++ f.text <+: text := by
  simp only [Option.bind_eq_some_iff, Text.after?_eq_some_iff, fields?_eq_some_iff]
  constructor
  · rintro ⟨_, rfl, hf, after, rfl⟩
    exact ⟨hf, after, List.append_assoc _ _ _⟩
  · rintro ⟨hf, after, rfl⟩
    exact ⟨f.text ++ after, List.append_assoc _ _ _, hf, after, rfl⟩

theorem IsRun.lineFeed_not_mem {p : Char → Bool} {run : List Char} (h : IsRun p run)
    (hp : p '\n' = false) : '\n' ∉ run := by
  intro hmem
  rw [h.2 _ hmem] at hp
  cases hp

theorem Fields.WellFormed.lineFeed_not_mem {f : Fields} (h : f.WellFormed) : '\n' ∉ f.text := by
  have hid := h.id.lineFeed_not_mem (by decide)
  have htype := h.typeName.lineFeed_not_mem (by decide)
  have hline := h.line.lineFeed_not_mem (by decide)
  simp [Fields.text, hid, htype, hline]

section Identifier

variable (hs : Token.isIdentifier symbol = true)
include hs

/-- What is tried at a place does not depend on the lines below. -/
theorem read_append_lineFeed (text rest : List Char) :
    (Text.after? symbol (text ++ '\n' :: rest)).bind fields? =
      (Text.after? symbol text).bind fields? := by
  refine Option.ext fun f => ?_
  rw [read_eq_some_iff, read_eq_some_iff]
  refine and_congr_right fun hf => prefix_append_cons_iff ?_
  have hsymbol := (isRun_of_isIdentifier hs).lineFeed_not_mem (by decide)
  simp [hsymbol, hf.lineFeed_not_mem]

/-- The search of a line goes on below it as from the start. -/
theorem firstFrom?_append_lineFeed (glued : Bool) (line rest : List Char) :
    firstFrom? symbol glued (line ++ '\n' :: rest) =
      (firstFrom? symbol glued line).or (firstFrom? symbol false rest) := by
  -- The line feed is no part of a name, so that nothing is glued to the place below it.
  induction line generalizing glued with
  | nil => exact firstFrom?_mark hs (by decide) glued
  | cons c line ih =>
    have hread := read_append_lineFeed hs (c :: line) rest
    rw [List.cons_append] at hread
    rw [List.cons_append, firstFrom?, firstFrom?, hread]
    cases if glued then none else (Text.after? symbol (c :: line)).bind fields? with
    | some f => rfl
    | none => exact ih (gluesTo c)

theorem find_append_lineFeed (line rest : List Char) :
    find (line ++ '\n' :: rest) symbol = orNext (find line symbol) (find rest symbol) := by
  have hfirst := firstFrom?_append_lineFeed hs false line rest
  cases hline : firstFrom? symbol false line with
  | none =>
    rw [hline, Option.none_or] at hfirst
    simp only [find, hfirst, hline, orNext]
  | some f =>
    rw [hline, Option.some_or] at hfirst
    have hfound : find line symbol ≠ .ok none := by
      rw [find_of_firstFrom? hline]
      split <;> simp
    rw [orNext_of_ne hfound, find_of_firstFrom? hfirst, find_of_firstFrom? hline]

/-- Two files put together with a line feed in between say what the first one says, or else the
second. -/
theorem find_textOfBytes_append (above below : List UInt8) :
    find (textOfBytes (above ++ 0x0A :: below)) symbol =
      orNext (find (textOfBytes above) symbol) (find (textOfBytes below) symbol) := by
  obtain ⟨line, hwhole, hline⟩ := Text.unifyNewlines_append_lineFeed
    (Text.Utf8.decodeLossy above) (Text.Utf8.decodeLossy below)
  have habove : find (textOfBytes above) symbol = find line symbol := by
    rcases hline with hline | hline
    · rw [textOfBytes, hline]
    · -- The carriage return is a line end of its own where no line feed follows.
      rw [textOfBytes, hline, find_append_lineFeed hs line []]
      exact orNext_none _
  rw [habove, textOfBytes, Text.Utf8.decodeLossy_append_lineFeed, hwhole,
    find_append_lineFeed hs]
  rfl

/-- A file says what the first of its lines says that says anything. -/
theorem find_intercalate (lines : List (List UInt8)) :
    find (textOfBytes ([0x0A].intercalate lines)) symbol =
      firstAnswer (lines.map fun line => find (textOfBytes line) symbol) := by
  induction lines with
  | nil => rfl
  | cons line lines ih =>
    cases lines with
    | nil => simp [firstAnswer, orNext_none]
    | cons next lines =>
      have hsplit : [0x0A].intercalate (line :: next :: lines) =
          line ++ 0x0A :: [0x0A].intercalate (next :: lines) := by
        simp [List.intercalate]
      rw [hsplit, find_textOfBytes_append hs, ih]
      rfl

end Identifier

/-! ## Files -/

/-- A file that can be read. -/
structure File where
  disk : Disk
  path : Path
  bytes : List UInt8
  read : disk.read path = .ok bytes

/-- What the file says of a symbol. -/
def File.answer (file : File) (symbol : List Char) : Except Stop (Option Entry) :=
  file.disk.findEntry file.path (.ofChars symbol)

/-- What a file says is told by its bytes alone. -/
theorem File.answer_eq (file : File) (symbol : List Char) :
    file.answer symbol =
      (find (textOfBytes file.bytes) symbol).mapError fun _ => .fault .numeralTooLong := by
  simp only [answer, Disk.findEntry, file.read, Text.chars?_ofChars]
  cases find (textOfBytes file.bytes) symbol <;> rfl

/-- A file of two parts with a line feed in between says of an identifier what the first part says
as a file of its own, unless that is nothing, and else what the second part says. So a file says
what the first of its lines says that says anything. -/
theorem answer_linewise (hs : Token.isIdentifier symbol = true) (whole : File) :
    (∀ above below : File, whole.bytes = above.bytes ++ 0x0A :: below.bytes →
        (above.answer symbol ≠ .ok none → whole.answer symbol = above.answer symbol) ∧
          (above.answer symbol = .ok none → whole.answer symbol = below.answer symbol)) ∧
      ∀ lines : List File, whole.bytes = [0x0A].intercalate (lines.map File.bytes) →
        whole.answer symbol = firstAnswer (lines.map fun line => line.answer symbol) := by
  constructor
  · intro above below hbytes
    have hwhole : whole.answer symbol = orNext (above.answer symbol) (below.answer symbol) := by
      simp only [File.answer_eq, hbytes, find_textOfBytes_append hs, mapError_orNext]
    rw [hwhole]
    refine ⟨orNext_of_ne, fun hnone => ?_⟩
    rw [hnone, orNext]
  · intro lines hbytes
    simp only [File.answer_eq, hbytes, find_intercalate hs, mapError_firstAnswer, List.map_map]
    rfl

namespace Sample

/-- A file with these bytes in a work directory. -/
def fileOf (bytes : List UInt8) : File where
  disk := { entries := [(⟨some 1, []⟩, .directory), (⟨some 1, ["log"]⟩, .file bytes)] }
  path := (Path.work 1).join "log"
  bytes
  read := by rfl

/-- An entry that is cut off in the middle, a character that is, and a carriage return. -/
def torn : List UInt8 := Text.Utf8.encode "s[1]:int(" ++ [0xE2, 0x82, 0x0D]

/-- The entry of `s`, and bytes after it that start no character. -/
def intact : List UInt8 := Text.Utf8.encode "s[3]:int(7)" ++ [0xFF, 0xC3]

end Sample

theorem answer_linewise_torn :
    (Sample.fileOf Sample.torn).answer ['s'] = .ok none ∧
      (Sample.fileOf (Sample.torn ++ 0x0A :: Sample.intact)).answer ['s'] =
        .ok (some ⟨['s'], 3, ['i', 'n', 't'], 7⟩) := by
  have htorn : (Sample.fileOf Sample.torn).answer ['s'] = .ok none := by decide +kernel
  have hintact : (Sample.fileOf Sample.intact).answer ['s'] =
      .ok (some ⟨['s'], 3, ['i', 'n', 't'], 7⟩) := by decide +kernel
  have hlines := (@answer_linewise ['s'] (by decide)
    (Sample.fileOf (Sample.torn ++ 0x0A :: Sample.intact))).1 (Sample.fileOf Sample.torn)
    (Sample.fileOf Sample.intact) rfl
  exact ⟨htorn, (hlines.2 htorn).trans hintact⟩

end ChapelServer.PassLog
