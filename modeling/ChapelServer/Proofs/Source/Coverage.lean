import ChapelServer.Proofs.Source.Cursor
import ChapelServer.Proofs.Source.Lexeme
import Mathlib.Logic.ExistsUnique

/-!
# What the tokens of a text cover

A text is scanned lexeme by lexeme: at each place it either starts with a lexeme, and the scan goes
on after it, or with a character that starts none and is passed over. Whatever is said of all the
tokens of a text follows these two steps. No start of a token is missed between the tokens, so that
every letter, digit and quote belongs to one of them.
-/

namespace ChapelServer.Token

/-! ## Scanning lexeme by lexeme -/

/-- The token in a text that has `n` characters more before it. -/
def shift (n : Nat) (t : Token) : Token :=
  { t with start := n + t.start }

@[simp] theorem shift_start (n : Nat) (t : Token) : (t.shift n).start = n + t.start := rfl

@[simp] theorem shift_stop (n : Nat) (t : Token) : (t.shift n).stop = n + t.stop :=
  Nat.add_assoc _ _ _

theorem map_shift_map_shift (n m : Nat) (tokens : List Token) :
    (tokens.map (shift m)).map (shift n) = tokens.map (shift (n + m)) := by
  rw [List.map_map]
  refine List.map_congr_left fun t _ => ?_
  simp [shift, Nat.add_assoc]

theorem scanFrom_add (n offset inside : Nat) (text : List Char) :
    scanFrom (n + offset) inside text = (scanFrom offset inside text).map (shift n) := by
  fun_induction scanFrom offset inside text with
  | case1 => simp [scanFrom]
  | case2 offset inside c rest ih => rw [scanFrom, Nat.add_assoc, ih]
  | case3 offset c rest hnone ih =>
    rw [scanFrom, hnone]
    simpa only [Nat.add_assoc] using ih
  | case4 offset c rest kind lexeme hfound ih =>
    rw [scanFrom, hfound]
    simp only [Nat.add_assoc, List.map_cons, ih]
    rfl

theorem scanFrom_eq_map_shift (offset : Nat) (text : List Char) :
    scanFrom offset 0 text = (scan text).map (shift offset) :=
  scanFrom_add offset 0 0 text

theorem scanFrom_inside (offset : Nat) (taken rest : List Char) :
    scanFrom offset taken.length (taken ++ rest) = scanFrom (offset + taken.length) 0 rest := by
  induction taken generalizing offset with
  | nil => rfl
  | cons c taken ih =>
    rw [List.length_cons, List.cons_append, scanFrom, ih, Nat.add_right_comm, Nat.add_assoc]

theorem Ends.ne_nil {kind : Kind} {lexeme after : List Char} (h : Ends kind lexeme after) :
    lexeme ≠ [] :=
  lexeme?_ne_nil h.lexeme?_eq

/-- A character that starts no lexeme is passed over. -/
theorem scan_gap {c : Char} {rest : List Char} (h : lexeme? (c :: rest) = none) :
    scan (c :: rest) = (scan rest).map (shift 1) := by
  rw [scan, scanFrom, h]
  exact scanFrom_eq_map_shift 1 rest

/-- After a lexeme, the scan goes on as at the start of a text. -/
theorem scan_lexeme {kind : Kind} {lexeme rest : List Char} (h : Ends kind lexeme rest) :
    scan (lexeme ++ rest) = ⟨kind, lexeme, 0⟩ :: (scan rest).map (shift lexeme.length) := by
  have hread := h.lexeme?_eq
  obtain ⟨c, taken, rfl⟩ := List.exists_cons_of_ne_nil h.ne_nil
  rw [List.cons_append] at hread ⊢
  rw [scan, scanFrom, hread]
  simp only [List.length_cons, Nat.add_sub_cancel]
  rw [scanFrom_inside, scanFrom_eq_map_shift, Nat.zero_add, Nat.add_comm 1]

/-- What holds of the empty text, and of a text if it holds after its first lexeme, or after its
first character if that starts none, holds of every text. -/
@[elab_as_elim]
theorem scan_induction {motive : List Char → Prop} (text : List Char) (nil : motive [])
    (gap : ∀ c rest, lexeme? (c :: rest) = none → motive rest → motive (c :: rest))
    (token : ∀ kind lexeme rest, Ends kind lexeme rest → motive rest → motive (lexeme ++ rest)) :
    motive text := by
  induction hlength : text.length using Nat.strongRecOn generalizing text with
  | ind n ih =>
    subst hlength
    cases text with
    | nil => exact nil
    | cons c rest =>
      cases hread : lexeme? (c :: rest) with
      | none => exact gap c rest hread (ih _ (Nat.lt_succ_self _) rest rfl)
      | some found =>
        obtain ⟨kind, lexeme⟩ := found
        obtain ⟨after, htext, hends⟩ := lexeme?_eq_some_iff.mp hread
        rw [htext]
        refine token kind lexeme after hends (ih _ ?_ after rfl)
        have hpos := List.length_pos_iff.mpr hends.ne_nil
        rw [htext, List.length_append]
        omega

/-! ## What lies in no token -/

/-- The character at the offset belongs to the token. -/
def Covers (t : Token) (i : Nat) : Prop :=
  t.start ≤ i ∧ i < t.stop

instance (t : Token) (i : Nat) : Decidable (t.Covers i) :=
  inferInstanceAs (Decidable (_ ∧ _))

theorem covers_shift {t : Token} {n i : Nat} (h : t.Covers i) : (t.shift n).Covers (n + i) := by
  obtain ⟨hstart, hstop⟩ := h
  exact ⟨by simpa using hstart, by simpa using hstop⟩

/-- A letter, an underscore, a digit or a quote: what starts a token, whatever comes after. -/
def StartsToken (c : Char) : Prop :=
  startsIdentifier c = true ∨ Text.isDigit c = true ∨ IsQuote c

theorem lexeme?_eq_none_iff {c : Char} {rest : List Char} :
    lexeme? (c :: rest) = none ↔ ¬ StartsToken c ∧ ¬ StartsComment c rest.head? := by
  by_cases hcomment : StartsComment c rest.head?
  · obtain ⟨rfl, hnext | hnext⟩ := hcomment
    · obtain ⟨rest, rfl⟩ := List.head?_eq_some_iff.mp hnext
      simp [lexeme?, StartsComment]
    · obtain ⟨rest, rfl⟩ := List.head?_eq_some_iff.mp hnext
      simp [lexeme?, StartsComment]
  · have hquote : (c = '"' || c = '\'') = true ↔ IsQuote c := by simp [IsQuote]
    rw [lexeme?_cons hcomment, StartsToken, ← hquote]
    by_cases hstring : (c = '"' || c = '\'') = true
    · simp only [hstring, if_true, reduceCtorEq, or_true, not_true_eq_false, false_and]
    · rw [if_neg hstring]
      by_cases hdigit : Text.isDigit c = true
      · simp [hdigit]
      · by_cases hstart : startsIdentifier c = true
        · simp [hdigit, hstart]
        · simp only [hdigit, hstart, hstring, hcomment]
          simp

/-- Where no token is, none could start. -/
theorem lexeme?_of_clear {source : List Char} {i : Nat}
    (hclear : ∀ t ∈ scan source, ¬ t.Covers i) : lexeme? (source.drop i) = none := by
  induction source using scan_induction generalizing i with
  | nil => rw [List.drop_nil]; rfl
  | gap c rest hnone ih =>
    cases i with
    | zero => exact hnone
    | succ i =>
      rw [List.drop_succ_cons]
      refine ih fun t ht hcovers => ?_
      rw [scan_gap hnone] at hclear
      refine hclear _ (List.mem_map_of_mem ht) ?_
      rw [Nat.add_comm]
      exact covers_shift hcovers
  | token kind lexeme rest hends ih =>
    rw [scan_lexeme hends] at hclear
    obtain ⟨hfirst, hclear⟩ := List.forall_mem_cons.mp hclear
    -- The first token covers what stands before the rest.
    have hle : lexeme.length ≤ i := by
      refine Nat.le_of_not_lt fun hlt => hfirst ⟨Nat.zero_le i, ?_⟩
      simpa [stop] using hlt
    obtain ⟨j, rfl⟩ := Nat.exists_eq_add_of_le hle
    rw [List.drop_length_add_append]
    refine ih fun t ht hcovers => ?_
    exact hclear _ (List.mem_map_of_mem ht) (covers_shift hcovers)

/-- A character that lies in no token starts none. -/
theorem not_starts_of_clear {source : List Char} {i : Nat} {c : Char} (hc : source[i]? = some c)
    (hclear : ∀ t ∈ scan source, ¬ t.Covers i) :
    ¬ StartsToken c ∧ ¬ StartsComment c source[i + 1]? := by
  have hdrop : source.drop i = c :: source.drop (i + 1) := by
    obtain ⟨hlt, rfl⟩ := List.getElem?_eq_some_iff.mp hc
    exact List.drop_eq_getElem_cons hlt
  have hnone := lexeme?_of_clear hclear
  rw [hdrop, lexeme?_eq_none_iff, List.head?_drop] at hnone
  exact hnone

/-! ## What lies in a token -/

theorem slice_of_mem_scan {source : List Char} {t : Token} (h : t ∈ scan source) :
    t.stop ≤ source.length ∧ (source.drop t.start).take (t.stop - t.start) = t.lexeme := by
  obtain ⟨before, after, rfl, hlength, -⟩ := exists_cut_of_mem_scan h
  rw [stop, ← hlength]
  constructor
  · simp
  · rw [Nat.add_sub_cancel_left, List.append_assoc, List.drop_left, List.take_left]

theorem eq_of_covers {source : List Char} {t u : Token} {i : Nat} (ht : t ∈ scan source)
    (hu : u ∈ scan source) (htcovers : t.Covers i) (hucovers : u.Covers i) : u = t := by
  have horder := scanFrom_pairwise 0 0 source
  have hfound := at?_of_covers horder ht htcovers.1 htcovers.2 none
  rw [at?_of_covers horder hu hucovers.1 hucovers.2 none] at hfound
  exact Option.some.inj hfound

/-- The tokens of a text are stretches of it, none is empty, and each begins after the ones before
it have ended. A character that lies in none of them starts no token. So each letter, underscore,
digit and quote of the text lies in exactly one. -/
theorem tokens_cover_every_start (source : List Char) :
    (∀ t ∈ scan source, t.lexeme ≠ [] ∧ t.stop ≤ source.length ∧
        (source.drop t.start).take (t.stop - t.start) = t.lexeme) ∧
      ((scan source).Pairwise fun t u => t.start < u.start ∧ t.stop ≤ u.start) ∧
      ∀ i c, source[i]? = some c →
        ((∀ t ∈ scan source, ¬ t.Covers i) →
          ¬ StartsToken c ∧ ¬ StartsComment c source[i + 1]?) ∧
        (StartsToken c → ∃! t, t ∈ scan source ∧ t.Covers i) := by
  refine ⟨fun t ht => ?_, ?_, fun i c hc => ⟨not_starts_of_clear hc, fun hstarts => ?_⟩⟩
  · obtain ⟨before, after, -, -, hends⟩ := exists_cut_of_mem_scan ht
    exact ⟨hends.ne_nil, slice_of_mem_scan ht⟩
  · refine (scanFrom_pairwise 0 0 source).imp_of_mem fun ht _ hle => ⟨?_, hle⟩
    exact Nat.lt_of_lt_of_le (start_lt_stop_of_mem_scan ht) hle
  · obtain ⟨t, ht, hcovers⟩ : ∃ t ∈ scan source, t.Covers i := by
      refine Classical.byContradiction fun hnone => ?_
      have hclear : ∀ t ∈ scan source, ¬ t.Covers i :=
        fun t ht hcovers => hnone ⟨t, ht, hcovers⟩
      exact (not_starts_of_clear hc hclear).1 hstarts
    refine ⟨t, ⟨ht, hcovers⟩, ?_⟩
    rintro u ⟨hu, hucovers⟩
    exact eq_of_covers ht hu hcovers hucovers

/-- A letter outside ASCII and a slash, which lie in no token, and an identifier. -/
def strayMarks : List Char := ['é', '/', 'x', '"']

theorem tokens_cover_every_start_strayMarks :
    (¬ StartsToken 'é' ∧ ¬ StartsComment 'é' (some '/')) ∧
      (¬ StartsToken '/' ∧ ¬ StartsComment '/' (some 'x')) ∧
      ∃! t, t ∈ scan strayMarks ∧ t.Covers 3 := by
  obtain ⟨-, -, hplaces⟩ := tokens_cover_every_start strayMarks
  exact ⟨(hplaces 0 'é' rfl).1 (by decide), (hplaces 1 '/' rfl).1 (by decide),
    (hplaces 3 '"' rfl).2 (.inr (.inr (.inl rfl)))⟩

end ChapelServer.Token
