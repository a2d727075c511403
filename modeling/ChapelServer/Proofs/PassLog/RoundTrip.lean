import ChapelServer.Proofs.PassLog.Occurrence
import ChapelServer.Source.Token

/-!
# Dumps and their entries

A dump that is written entry by entry, with separators between them, gives its entries back: the
search for an identifier finds the first entry of that name. The search knows nothing of entries, so
every place of the dump has to be ruled out where the identifier could stand by chance: inside a
longer name, in a type of that name, or in what stands between.
-/

namespace ChapelServer

/-! ## Identifiers -/

namespace Token

theorem isWord_of_starts {c : Char} (h : startsIdentifier c = true) : Text.isWord c = true := by
  rcases (Bool.or_eq_true _ _).mp h with halpha | hunderscore
  · have hascii : c.toNat < 0x80 := by
      rw [Text.isAlpha_iff_toNat] at halpha
      omega
    simp [Text.isWord, hascii, Char.isAlphanum, halpha]
  · rw [eq_of_beq hunderscore]
    decide

theorem continues_of_starts {c : Char} (h : startsIdentifier c = true) :
    continuesIdentifier c = true := by
  simp [continuesIdentifier, isWord_of_starts h]

theorem not_starts_of_isDigit {c : Char} (h : c.isDigit = true) : startsIdentifier c = false := by
  obtain ⟨hlo, hhi⟩ : 48 ≤ c.toNat ∧ c.toNat ≤ 57 := Char.isDigit_iff_toNat.mp h
  have halpha : c.isAlpha = false := by
    rw [Bool.eq_false_iff, ne_eq, Text.isAlpha_iff_toNat]
    omega
  have hunderscore : c ≠ '_' := by
    rintro rfl
    revert h
    decide
  simp [startsIdentifier, halpha, hunderscore]

/-- A letter or an underscore, and then word characters and dollar signs. -/
def isIdentifier : List Char → Bool
  | [] => false
  | c :: rest => startsIdentifier c && rest.all continuesIdentifier

theorem exists_cons_of_isIdentifier {s : List Char} (hs : isIdentifier s = true) :
    ∃ c rest, s = c :: rest ∧ startsIdentifier c = true ∧
      ∀ d ∈ s, continuesIdentifier d = true := by
  cases s with
  | nil => cases hs
  | cons c rest =>
    obtain ⟨hstarts, hrest⟩ := Bool.and_eq_true_iff.mp hs
    refine ⟨c, rest, rfl, hstarts, fun d hd => ?_⟩
    rcases List.mem_cons.mp hd with rfl | hd
    · exact continues_of_starts hstarts
    · exact List.all_eq_true.mp hrest d hd

end Token

namespace PassLog

theorem isRun_of_isIdentifier {s : List Char} (hs : Token.isIdentifier s = true) :
    IsRun gluesTo s := by
  obtain ⟨c, rest, rfl, -, hglues⟩ := Token.exists_cons_of_isIdentifier hs
  exact ⟨List.cons_ne_nil c rest, hglues⟩

/-! ## Searching for an identifier -/

section Search

variable {s rest : List Char}

/-- Nothing is found in the middle of a word. -/
theorem firstFrom?_glued {run : List Char} (hrun : ∀ c ∈ run, gluesTo c = true) :
    firstFrom? s true (run ++ rest) = firstFrom? s true rest := by
  induction run with
  | nil => rfl
  | cons c run ih =>
    have hstep : firstFrom? s true (c :: (run ++ rest)) =
        firstFrom? s (gluesTo c) (run ++ rest) := by
      simp [firstFrom?]
    rw [List.cons_append, hstep, hrun c List.mem_cons_self]
    exact ih fun d hd => hrun d (List.mem_cons_of_mem c hd)

variable (hs : Token.isIdentifier s = true)
include hs

/-- An identifier cannot stand at a character that begins none. -/
theorem firstFrom?_mark {c : Char} (hc : Token.startsIdentifier c = false) (glued : Bool) :
    firstFrom? s glued (c :: rest) = firstFrom? s (gluesTo c) rest := by
  obtain ⟨d, tail, rfl, hd, -⟩ := Token.exists_cons_of_isIdentifier hs
  have hne : d ≠ c := by
    rintro rfl
    rw [hd] at hc
    cases hc
  simp [firstFrom?, Text.after?_eq_none_of_ne hne]

/-- Characters that begin no identifier are passed over. If the last of them glues to nothing, the
search goes on as from the start. -/
theorem firstFrom?_marks {marks : List Char} {last : Char}
    (hmarks : ∀ c ∈ marks, Token.startsIdentifier c = false)
    (hlast : Token.startsIdentifier last = false) (hloose : gluesTo last = false) (glued : Bool) :
    firstFrom? s glued (marks ++ last :: rest) = firstFrom? s false rest := by
  induction marks generalizing glued with
  | nil => rw [List.nil_append, firstFrom?_mark hs hlast, hloose]
  | cons c marks ih =>
    rw [List.cons_append, firstFrom?_mark hs (hmarks c List.mem_cons_self)]
    exact ih (fun d hd => hmarks d (List.mem_cons_of_mem c hd)) _

/-- A whole word is tried at its start. It has to be the identifier: fields cannot begin with a
character of a word. -/
theorem try_word {word : List Char} (hword : ∀ c ∈ word, gluesTo c = true)
    (hrest : Text.Stops gluesTo rest) :
    (Text.after? s (word ++ rest)).bind fields? = if word = s then fields? rest else none := by
  by_cases heq : word = s
  · rw [if_pos heq, heq, Text.after?_eq_some_iff.mpr rfl, Option.bind_some]
  · rw [if_neg heq, Option.eq_none_iff_forall_ne_some]
    intro f hf
    obtain ⟨text, htext, hread⟩ := Option.bind_eq_some_iff.mp hf
    obtain ⟨-, after, rfl⟩ := fields?_eq_some_iff.mp hread
    have hsplit := Text.after?_eq_some_iff.mp htext
    have hstops : Text.Stops gluesTo (f.text ++ after) := Text.stops_cons.mpr (by decide)
    apply heq
    calc word = (word ++ rest).takeWhile gluesTo := (Text.WholeRun.takeWhile_eq ⟨hword, hrest⟩).symm
      _ = (s ++ (f.text ++ after)).takeWhile gluesTo := by rw [hsplit]
      _ = s := Text.WholeRun.takeWhile_eq ⟨(isRun_of_isIdentifier hs).2, hstops⟩

/-- The search at a word that glues to nothing before it. -/
theorem firstFrom?_word {word : List Char} (hword : IsRun gluesTo word)
    (hrest : Text.Stops gluesTo rest) :
    firstFrom? s false (word ++ rest) =
      (if word = s then fields? rest else none).or (firstFrom? s true rest) := by
  obtain ⟨hne, hglues⟩ := hword
  rw [← try_word hs hglues hrest]
  obtain ⟨c, tail, rfl⟩ := List.exists_cons_of_ne_nil hne
  have htail : firstFrom? s (gluesTo c) (tail ++ rest) = firstFrom? s true rest := by
    rw [hglues c List.mem_cons_self]
    exact firstFrom?_glued fun d hd => hglues d (List.mem_cons_of_mem c hd)
  rw [List.cons_append, firstFrom?, htail]
  cases (Text.after? s (c :: (tail ++ rest))).bind fields? <;> simp

end Search

/-! ## Written dumps -/

/-- The fields of an entry as they are written. -/
def Entry.fields (e : Entry) : Fields :=
  ⟨Nat.toDigits 10 e.id, e.typeName, Nat.toDigits 10 e.line⟩

/-- An entry as it is written: `name[id]:type(line)`. -/
def Entry.text (e : Entry) : List Char :=
  e.symbol ++ e.fields.text

/-- The entry names an identifier and a type, and its numbers are not too long to be read. -/
structure Entry.Writable (e : Entry) : Prop where
  symbol : Token.isIdentifier e.symbol = true
  typeName : IsRun Text.isWord e.typeName
  id : (Nat.toDigits 10 e.id).length ≤ 4300
  line : (Nat.toDigits 10 e.line).length ≤ 4300

instance (e : Entry) : Decidable e.Writable :=
  decidable_of_iff (Token.isIdentifier e.symbol = true ∧ IsRun Text.isWord e.typeName ∧
      (Nat.toDigits 10 e.id).length ≤ 4300 ∧ (Nat.toDigits 10 e.line).length ≤ 4300)
    ⟨fun ⟨symbol, typeName, id, line⟩ => ⟨symbol, typeName, id, line⟩,
      fun ⟨symbol, typeName, id, line⟩ => ⟨symbol, typeName, id, line⟩⟩

/-- A character that may stand between entries: one that neither belongs to a word nor marks the
parts of an entry. -/
def separates (c : Char) : Bool :=
  !Text.isWord c && !List.contains ['$', '[', ']', ':', '(', ')'] c

/-- An entry of a dump and the separator that stands after it. -/
structure Item where
  entry : Entry
  separator : List Char
  writable : entry.Writable := by decide
  separates : separator.all separates = true := by decide

/-- The dump of the items, after a separator `lead`. Any of the separators may be empty. -/
def render (lead : List Char) (items : List Item) : List Char :=
  lead ++ items.flatMap fun item => item.entry.text ++ item.separator

theorem isRun_toDigits (n : Nat) : IsRun Text.isDigit (Nat.toDigits 10 n) :=
  ⟨Nat.toDigits_ne_nil, fun _ hc => Number.isDigit_of_mem_toDigits hc⟩

theorem Entry.Writable.wellFormed {e : Entry} (he : e.Writable) : e.fields.WellFormed :=
  ⟨isRun_toDigits e.id, he.typeName, isRun_toDigits e.line⟩

theorem not_starts_of_mem_toDigits {n : Nat} {c : Char} (hc : c ∈ Nat.toDigits 10 n) :
    Token.startsIdentifier c = false :=
  Token.not_starts_of_isDigit (Nat.isDigit_of_mem_toDigits (by decide) (by decide) hc)

/-- The search at an entry: it is the one, or nothing in it is. -/
theorem firstFrom?_entry {s rest : List Char} (hs : Token.isIdentifier s = true) {e : Entry}
    (he : e.Writable) :
    firstFrom? s false (e.text ++ rest) =
      if e.symbol = s then some e.fields else firstFrom? s false rest := by
  have hread : fields? (e.fields.text ++ rest) = some e.fields :=
    fields?_eq_some_iff.mpr ⟨he.wellFormed, rest, rfl⟩
  have hname : Text.Stops gluesTo (e.fields.text ++ rest) := Text.stops_cons.mpr (by decide)
  rw [Entry.text, List.append_assoc, firstFrom?_word hs (isRun_of_isIdentifier he.symbol) hname,
    hread]
  by_cases heq : e.symbol = s
  · simp [heq]
  · rw [if_neg heq, if_neg heq, Option.none_or]
    -- The number goes by, then the type, which no bracket follows, then the line.
    have htype : IsRun gluesTo e.typeName :=
      ⟨he.typeName.1, fun c hc => by simp [gluesTo, he.typeName.2 c hc]⟩
    have hparen : Text.Stops gluesTo ('(' :: (Nat.toDigits 10 e.line ++ ')' :: rest)) :=
      Text.stops_cons.mpr (by decide)
    have hnone : fields? ('(' :: (Nat.toDigits 10 e.line ++ ')' :: rest)) = none := by
      simp [fields?, Text.after?_eq_none_of_ne]
    calc firstFrom? s true (e.fields.text ++ rest)
        = firstFrom? s true (('[' :: (Nat.toDigits 10 e.id ++ [']'])) ++
            ':' :: (e.typeName ++ '(' :: (Nat.toDigits 10 e.line ++ ')' :: rest))) := by
          simp [Fields.text, Entry.fields]
      _ = firstFrom? s false (e.typeName ++ '(' :: (Nat.toDigits 10 e.line ++ ')' :: rest)) := by
          refine firstFrom?_marks hs ?_ (by decide) (by decide) true
          intro c hc
          simp only [List.mem_cons, List.mem_append, List.not_mem_nil, or_false] at hc
          rcases hc with rfl | hc | rfl
          · decide
          · exact not_starts_of_mem_toDigits hc
          · decide
      _ = firstFrom? s true (('(' :: Nat.toDigits 10 e.line) ++ ')' :: rest) := by
          rw [firstFrom?_word hs htype hparen, hnone, ite_self, Option.none_or, List.cons_append]
      _ = firstFrom? s false rest := by
          refine firstFrom?_marks hs ?_ (by decide) (by decide) true
          intro c hc
          rcases List.mem_cons.mp hc with rfl | hc
          · decide
          · exact not_starts_of_mem_toDigits hc

theorem firstFrom?_separator {s rest separator : List Char} (hs : Token.isIdentifier s = true)
    (h : separator.all separates = true) :
    firstFrom? s false (separator ++ rest) = firstFrom? s false rest := by
  induction separator with
  | nil => rfl
  | cons c separator ih =>
    rw [List.all_cons, Bool.and_eq_true] at h
    obtain ⟨hc, hrest⟩ := h
    have hloose : gluesTo c = false := by
      simp only [separates, Bool.and_eq_true, Bool.not_eq_true', List.contains_cons,
        Bool.or_eq_false_iff] at hc
      simp [gluesTo, hc]
    have hmark : Token.startsIdentifier c = false := by
      rw [Bool.eq_false_iff]
      intro hstarts
      have hglues : gluesTo c = true := Token.continues_of_starts hstarts
      rw [hloose] at hglues
      cases hglues
    rw [List.cons_append, firstFrom?_mark hs hmark, hloose]
    exact ih hrest

theorem firstFrom?_items {s : List Char} (hs : Token.isIdentifier s = true) (items : List Item) :
    firstFrom? s false (items.flatMap fun item => item.entry.text ++ item.separator) =
      ((items.map Item.entry).find? (·.symbol = s)).map Entry.fields := by
  induction items with
  | nil => rfl
  | cons item items ih =>
    rw [List.flatMap_cons, List.append_assoc, firstFrom?_entry hs item.writable,
      firstFrom?_separator hs item.separates, ih, List.map_cons]
    by_cases heq : item.entry.symbol = s
    · simp [heq]
    · simp [heq]

/-- The dump of a list of entries gives for an identifier the first entry of that name. -/
theorem find_render {lead s : List Char} (items : List Item)
    (hlead : lead.all separates = true) (hs : Token.isIdentifier s = true) :
    find (render lead items) s = .ok ((items.map Item.entry).find? (·.symbol = s)) := by
  have hfirst : firstFrom? s false (render lead items) =
      ((items.map Item.entry).find? (·.symbol = s)).map Entry.fields := by
    rw [render, firstFrom?_separator hs hlead, firstFrom?_items hs items]
  cases hfound : (items.map Item.entry).find? (·.symbol = s) with
  | none =>
    rw [hfound, Option.map_none] at hfirst
    simp [find, hfirst]
  | some e =>
    obtain ⟨item, -, rfl⟩ := List.mem_map.mp (List.mem_of_find?_eq_some hfound)
    have hsymbol : item.entry.symbol = s := by simpa using List.find?_some hfound
    have hid := item.writable.id
    have hline := item.writable.line
    rw [hfound, Option.map_some] at hfirst
    rw [find_of_firstFrom? hfirst, if_neg (by simp only [Entry.fields, Number.maxDigits]; omega)]
    simp only [Entry.fields, Number.value_toDigits, ← hsymbol]

/-- Entries in front of that of `s` that could be taken for it: a longer name with `s` for its type,
and `s` with a dollar sign. Another entry of `s` comes after it. -/
def lookalikes : List Item := [
  { entry := ⟨['a', 's'], 1, ['s'], 2⟩, separator := ['\n', ' '] },
  { entry := ⟨['s', '$'], 3, ['i', 'n', 't'], 4⟩, separator := [','] },
  { entry := ⟨['s'], 50, ['é', '_'], 60⟩, separator := ['\n'] },
  { entry := ⟨['s'], 7, ['i', 'n', 't'], 8⟩, separator := [] }]

theorem find_render_lookalikes :
    ['\n'].all separates = true ∧ Token.isIdentifier ['s'] = true ∧
      find (render ['\n'] lookalikes) ['s'] = .ok (some ⟨['s'], 50, ['é', '_'], 60⟩) :=
  ⟨by decide, by decide, find_render lookalikes (by decide) (by decide)⟩

end PassLog

end ChapelServer
