import ChapelServer.PassLog
import ChapelServer.Proofs.Number.Digits
import ChapelServer.Proofs.Text.Run

/-!
# Occurrences of a symbol in a dump

An occurrence is a way to cut the dump: something before, the symbol, the fields of an entry, and
something after. The search finds the fields of the occurrence with the least index, whatever the
characters of the symbol are, and none exactly when there is no occurrence. The fields at an index
are determined by it, since each run of characters ends at a mark outside its class.
-/

namespace ChapelServer.PassLog

/-! ## Runs -/

/-- A non-empty run of characters of a class. -/
def IsRun (p : Char → Bool) (run : List Char) : Prop :=
  run ≠ [] ∧ ∀ c ∈ run, p c = true

instance (p : Char → Bool) (run : List Char) : Decidable (IsRun p run) :=
  decidable_of_iff (run ≠ [] ∧ run.all p = true) (by rw [IsRun, List.all_eq_true])

/-! ## The fields of an entry -/

/-- The fields as they stand after a symbol: `[id]:type(line)`. -/
def Fields.text (f : Fields) : List Char :=
  '[' :: f.id ++ ']' :: ':' :: f.typeName ++ '(' :: f.line ++ [')']

/-- Digits, word characters and digits again, at least one of each. -/
structure Fields.WellFormed (f : Fields) : Prop where
  id : IsRun Text.isDigit f.id
  typeName : IsRun Text.isWord f.typeName
  line : IsRun Text.isDigit f.line

/-- A text starts with the fields that are read from it, and with no others. -/
theorem fields?_eq_some_iff {text : List Char} {f : Fields} :
    fields? text = some f ↔ f.WellFormed ∧ ∃ after, text = f.text ++ after := by
  simp only [fields?, Option.bind_eq_bind, Option.bind_eq_some_iff, Text.after?_eq_some_iff,
    Prod.exists, Text.run?_eq_some_iff, Option.pure_def, Option.some.injEq]
  constructor
  · rintro ⟨_, rfl, id, _, ⟨hid, rfl, hids⟩, _, rfl, typeName, _, ⟨htype, rfl, htypes⟩, _, rfl,
      line, _, ⟨hline, rfl, hlines⟩, after, rfl, rfl⟩
    exact ⟨⟨⟨hid, hids.all⟩, ⟨htype, htypes.all⟩, hline, hlines.all⟩, after, by simp [Fields.text]⟩
  · rintro ⟨hf, after, rfl⟩
    -- Each run is followed by a mark outside its class, so that it is taken whole.
    have hid : Text.Stops Text.isDigit
        ([']', ':'] ++ (f.typeName ++ (['('] ++ (f.line ++ ([')'] ++ after))))) :=
      Text.stops_cons.mpr (by decide)
    have htype : Text.Stops Text.isWord (['('] ++ (f.line ++ ([')'] ++ after))) :=
      Text.stops_cons.mpr (by decide)
    have hline : Text.Stops Text.isDigit ([')'] ++ after) := Text.stops_cons.mpr (by decide)
    exact ⟨_, by simp [Fields.text], f.id, _, ⟨hf.id.1, rfl, hf.id.2, hid⟩, _, rfl, f.typeName, _,
      ⟨hf.typeName.1, rfl, hf.typeName.2, htype⟩, _, rfl, f.line, _,
      ⟨hf.line.1, rfl, hf.line.2, hline⟩, after, rfl, rfl⟩

/-! ## Occurrences -/

/-- The symbol stands at an index of the dump: with the fields of an entry right after it, and not
glued to a word character or a dollar sign before it. -/
structure Occurs (dump symbol : List Char) (i : Nat) (f : Fields) : Prop where
  wellFormed : f.WellFormed
  stands : ∃ before after, dump = before ++ symbol ++ f.text ++ after ∧ before.length = i ∧
    ∀ c, before.getLast? = some c → Text.isWord c = false ∧ c ≠ '$'

/-- An occurrence that no other one stands before. -/
structure First (dump symbol : List Char) (i : Nat) (f : Fields) : Prop extends
    Occurs dump symbol i f where
  least : ∀ j g, Occurs dump symbol j g → i ≤ j

/-- The text ends in a character that glues to what follows. -/
def endsGlued (before : List Char) : Bool :=
  before.getLast?.any gluesTo

theorem endsGlued_concat (before : List Char) (c : Char) :
    endsGlued (before ++ [c]) = gluesTo c := by
  simp [endsGlued]

theorem endsGlued_eq_false_iff {before : List Char} :
    endsGlued before = false ↔
      ∀ c, before.getLast? = some c → Text.isWord c = false ∧ c ≠ '$' := by
  cases h : before.getLast? with
  | none => simp [endsGlued, h]
  | some c => simp [endsGlued, h, gluesTo]

/-- What the search tries at one place. -/
theorem occurs_append_iff {before text symbol : List Char} {f : Fields} :
    Occurs (before ++ text) symbol before.length f ↔
      endsGlued before = false ∧ (Text.after? symbol text).bind fields? = some f := by
  simp only [Option.bind_eq_some_iff, Text.after?_eq_some_iff, fields?_eq_some_iff,
    endsGlued_eq_false_iff]
  constructor
  · rintro ⟨hf, before', after, hdump, hlength, hglue⟩
    rw [List.append_assoc, List.append_assoc] at hdump
    obtain ⟨rfl, rfl⟩ := List.append_inj hdump hlength.symm
    exact ⟨hglue, _, rfl, hf, after, rfl⟩
  · rintro ⟨hglue, _, rfl, hf, after, rfl⟩
    exact ⟨hf, before, after, by simp, rfl, hglue⟩

theorem Occurs.lt_length {dump symbol : List Char} {i : Nat} {f : Fields}
    (h : Occurs dump symbol i f) : i < dump.length := by
  obtain ⟨-, before, after, rfl, rfl, -⟩ := h
  simp only [List.length_append, Fields.text, List.length_cons]
  omega

/-- The fields at an index are determined by it. -/
theorem Occurs.unique {dump symbol : List Char} {i : Nat} {f g : Fields}
    (hf : Occurs dump symbol i f) (hg : Occurs dump symbol i g) : f = g := by
  obtain ⟨before, after, rfl, rfl, -⟩ := hf.stands
  rw [List.append_assoc, List.append_assoc] at hf hg
  have hread := (occurs_append_iff.mp hf).2
  rw [(occurs_append_iff.mp hg).2] at hread
  exact (Option.some.inj hread).symm

theorem First.unique {dump symbol : List Char} {i j : Nat} {f g : Fields}
    (hf : First dump symbol i f) (hg : First dump symbol j g) : f = g := by
  have hij : i = j := Nat.le_antisymm (hf.least j g hg.toOccurs) (hg.least i f hf.toOccurs)
  subst hij
  exact hf.toOccurs.unique hg.toOccurs

/-! ## The search -/

section Search

variable {symbol before rest : List Char} {c : Char} {f : Fields}

theorem firstFrom?_of_occurs (h : Occurs (before ++ c :: rest) symbol before.length f) :
    firstFrom? symbol (endsGlued before) (c :: rest) = some f := by
  obtain ⟨hglue, hread⟩ := occurs_append_iff.mp h
  simp [firstFrom?, hglue, hread]

theorem firstFrom?_of_not_occurs
    (h : ∀ f, ¬ Occurs (before ++ c :: rest) symbol before.length f) :
    firstFrom? symbol (endsGlued before) (c :: rest) =
      firstFrom? symbol (endsGlued (before ++ [c])) rest := by
  have hnone : (if endsGlued before then none
      else (Text.after? symbol (c :: rest)).bind fields?) = none := by
    cases hglue : endsGlued before with
    | true => simp
    | false =>
      refine Option.eq_none_iff_forall_ne_some.mpr fun f hread => h f ?_
      exact occurs_append_iff.mpr ⟨hglue, hread⟩
  rw [firstFrom?, hnone, endsGlued_concat]

/-- A search from some place on that finds nothing leaves no occurrence from there on. -/
theorem lt_of_firstFrom?_eq_none {text : List Char}
    (hnone : firstFrom? symbol (endsGlued before) text = none) {i : Nat}
    (h : Occurs (before ++ text) symbol i f) : i < before.length := by
  induction text generalizing before with
  | nil => simpa using h.lt_length
  | cons c rest ih =>
    have hhere : ∀ g, ¬ Occurs (before ++ c :: rest) symbol before.length g := by
      intro g hg
      rw [firstFrom?_of_occurs hg] at hnone
      cases hnone
    rw [firstFrom?_of_not_occurs hhere] at hnone
    have hlt : i < (before ++ [c]).length := ih hnone (by simpa using h)
    have hne : i ≠ before.length := by
      rintro rfl
      exact hhere f h
    simp only [List.length_append, List.length_singleton] at hlt
    omega

/-- A search from some place on finds the first occurrence from there on. -/
theorem occurs_of_firstFrom?_eq_some {text : List Char}
    (hsome : firstFrom? symbol (endsGlued before) text = some f) :
    ∃ i, Occurs (before ++ text) symbol i f ∧
      ∀ j g, Occurs (before ++ text) symbol j g → before.length ≤ j → i ≤ j := by
  induction text generalizing before with
  | nil => simp [firstFrom?] at hsome
  | cons c rest ih =>
    by_cases hhere : ∃ g, Occurs (before ++ c :: rest) symbol before.length g
    · obtain ⟨g, hg⟩ := hhere
      rw [firstFrom?_of_occurs hg] at hsome
      cases hsome
      exact ⟨before.length, hg, fun j _ _ hj => hj⟩
    · have hnone := not_exists.mp hhere
      rw [firstFrom?_of_not_occurs hnone] at hsome
      obtain ⟨i, hi, hleast⟩ := ih hsome
      rw [List.append_assoc, List.singleton_append] at hi hleast
      refine ⟨i, hi, fun j g hg hj => hleast j g hg ?_⟩
      have hne : j ≠ before.length := by
        rintro rfl
        exact hnone g hg
      simp only [List.length_append, List.length_singleton]
      omega

end Search

theorem firstFrom?_eq_none_iff {dump symbol : List Char} :
    firstFrom? symbol false dump = none ↔ ∀ i f, ¬ Occurs dump symbol i f := by
  constructor
  · intro hnone i f h
    change firstFrom? symbol (endsGlued []) dump = none at hnone
    exact absurd (lt_of_firstFrom?_eq_none hnone h) (Nat.not_lt_zero i)
  · intro hnone
    refine Option.eq_none_iff_forall_ne_some.mpr fun f hsome => ?_
    change firstFrom? symbol (endsGlued []) dump = some f at hsome
    obtain ⟨i, hi, -⟩ := occurs_of_firstFrom?_eq_some hsome
    exact hnone i f hi

theorem firstFrom?_eq_some_iff {dump symbol : List Char} {f : Fields} :
    firstFrom? symbol false dump = some f ↔ ∃ i, First dump symbol i f := by
  have hfinds {g : Fields} (hsome : firstFrom? symbol (endsGlued []) dump = some g) :
      ∃ i, First dump symbol i g := by
    obtain ⟨i, hi, hleast⟩ := occurs_of_firstFrom?_eq_some hsome
    exact ⟨i, hi, fun j g hg => hleast j g hg (Nat.zero_le j)⟩
  constructor
  · exact hfinds
  · rintro ⟨i, hfirst⟩
    cases hfound : firstFrom? symbol false dump with
    | none => exact absurd hfirst.toOccurs (firstFrom?_eq_none_iff.mp hfound i f)
    | some g =>
      obtain ⟨j, hj⟩ := hfinds hfound
      rw [hfirst.unique hj]

/-- The entry that the fields found give, or the refusal of a numeral in them. -/
theorem find_of_firstFrom? {dump symbol : List Char} {f : Fields}
    (h : firstFrom? symbol false dump = some f) :
    find dump symbol =
      if Number.maxDigits < f.id.length ∨ Number.maxDigits < f.line.length then .error .mk
      else .ok (some ⟨symbol, Number.value f.id, f.typeName, Number.value f.line⟩) := by
  simp only [find, h, Number.ofDigitRun_eq]
  by_cases hid : f.id.length > Number.maxDigits
  · simp [hid, bind, Except.bind]
  · by_cases hline : f.line.length > Number.maxDigits
    · simp [hid, hline, bind, Except.bind]
    · simp [hid, hline, bind, Except.bind, pure, Except.pure]

theorem find_overlong {dump symbol : List Char} {f : Fields}
    (h : firstFrom? symbol false dump = some f)
    (hlong : Number.maxDigits < f.id.length ∨ Number.maxDigits < f.line.length) :
    ∃ e, find dump symbol = .error e := by
  rw [find_of_firstFrom? h, if_pos hlong]
  exact ⟨_, rfl⟩

theorem find_short {dump symbol : List Char} {f : Fields}
    (h : firstFrom? symbol false dump = some f)
    (hshort : ¬ (Number.maxDigits < f.id.length ∨ Number.maxDigits < f.line.length)) :
    ∃ entry, find dump symbol = .ok (some entry) ∧ entry.typeName = f.typeName ∧
      entry.line = Text.ofDigits (f.line.map fun c => (Text.digitValue? c).getD 0) := by
  rw [find_of_firstFrom? h, if_neg hshort]
  exact ⟨_, rfl, rfl, (Text.ofDigits_eq _).symm⟩

/-- The search of a dump fails exactly at an overlong numeral in the first match. -/
theorem find_error_iff {dump symbol : List Char} :
    (∃ e, find dump symbol = .error e) ↔
      ∃ f, firstFrom? symbol false dump = some f ∧
        (Number.maxDigits < f.id.length ∨ Number.maxDigits < f.line.length) := by
  constructor
  · rintro ⟨e, he⟩
    cases hm : firstFrom? symbol false dump with
    | none => simp [find, hm] at he
    | some f =>
      refine ⟨f, rfl, Decidable.byContradiction fun hshort => ?_⟩
      obtain ⟨entry, hentry, -⟩ := find_short hm hshort
      rw [hentry] at he
      cases he
  · rintro ⟨f, hm, hlong⟩
    exact find_overlong hm hlong

theorem find_eq_none_iff {dump symbol : List Char} :
    find dump symbol = .ok none ↔ ∀ i f, ¬ Occurs dump symbol i f := by
  rw [← firstFrom?_eq_none_iff]
  cases hfound : firstFrom? symbol false dump with
  | none => simp [find, hfound]
  | some f =>
    rw [find_of_firstFrom? hfound]
    split <;> simp

/-- The search of a dump says exactly what its first occurrence of the symbol says: nothing if there
is none, a refusal if one of its numerals is too long, and otherwise its entry. -/
theorem find_tells_first_occurrence (dump symbol : List Char) :
    (find dump symbol = .ok none ↔ ∀ i f, ¬ Occurs dump symbol i f) ∧
      ∀ i f, First dump symbol i f →
        (find dump symbol = .error .mk ↔ 4300 < f.id.length ∨ 4300 < f.line.length) ∧
        (f.id.length ≤ 4300 → f.line.length ≤ 4300 →
          ∃ e, find dump symbol = .ok (some e) ∧ e.symbol = symbol ∧
            e.id = Number.value f.id ∧ e.typeName = f.typeName ∧ e.line = Number.value f.line ∧
            e.span = f.typeName ++ '(' :: Nat.toDigits 10 (Number.value f.line) ++ [')']) := by
  refine ⟨find_eq_none_iff, fun i f hfirst => ?_⟩
  rw [find_of_firstFrom? (firstFrom?_eq_some_iff.mpr ⟨i, hfirst⟩), Number.maxDigits]
  by_cases hlong : 4300 < f.id.length ∨ 4300 < f.line.length
  · rw [if_pos hlong]
    refine ⟨iff_of_true rfl hlong, fun hid hline => ?_⟩
    omega
  · rw [if_neg hlong]
    exact ⟨iff_of_false nofun hlong, fun _ _ => ⟨_, rfl, rfl, rfl, rfl, rfl, rfl⟩⟩

/-- A dump in which the symbol `s` stands three times before its entry: glued to another name, with
no type, and with a letter for a number. The numerals of the entry have digits of two scripts and
zeros in front. -/
def mixedDump : List Char :=
  "as[1]:int(2) s[3]:(4) s[x]:int(5) s[٦]:bool(007) s[8]:real(9)".toList

theorem find_tells_first_occurrence_mixed :
    ∃ i, First mixedDump ['s'] i ⟨['٦'], ['b', 'o', 'o', 'l'], ['0', '0', '7']⟩ ∧
      ∃ e, find mixedDump ['s'] = .ok (some e) ∧ e.id = 6 ∧ e.line = 7 ∧
        e.span = ['b', 'o', 'o', 'l', '(', '7', ')'] := by
  obtain ⟨i, hfirst⟩ := firstFrom?_eq_some_iff.mp (show firstFrom? ['s'] false mixedDump =
    some ⟨['٦'], ['b', 'o', 'o', 'l'], ['0', '0', '7']⟩ by decide)
  obtain ⟨e, he, -, hid, -, hline, hspan⟩ :=
    ((find_tells_first_occurrence mixedDump ['s']).2 i _ hfirst).2 (by decide) (by decide)
  exact ⟨i, hfirst, e, he, hid, hline, hspan⟩

end ChapelServer.PassLog
