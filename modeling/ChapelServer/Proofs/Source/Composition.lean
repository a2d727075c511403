import ChapelServer.Proofs.Source.Placement

/-!
# Texts put together line by line

Where a line feed ends a text and no token is open, the text is scanned apart from what is put
after it. No kind of lexeme looks back before its start, and none but an open comment or string
looks beyond a line feed that it does not take. So the tokens of the whole are those of its parts,
and a position below the first part names what it names in the second one.
-/

namespace ChapelServer

/-! ## What stays when a text goes on -/

namespace Text

variable {p : Char → Bool} {run after : List Char}

theorem Stops.append (h : Stops p after) (hne : after ≠ []) (more : List Char) :
    Stops p (after ++ more) := by
  cases after with
  | nil => contradiction
  | cons c after => exact h

theorem WholeRun.append (h : WholeRun p run after) (hne : after ≠ []) (more : List Char) :
    WholeRun p run (after ++ more) :=
  ⟨h.all, h.stops.append hne more⟩

theorem getLast?_append_of_some {text : List Char} {c : Char} (h : text.getLast? = some c)
    (before : List Char) : (before ++ text).getLast? = some c := by
  rw [List.getLast?_append, h, Option.some_or]

/-- Line breaks are counted apart where none is cut. -/
theorem lineBreaks_append {before after : List Char} (h : ¬ CutsBreak before after) :
    lineBreaks (before ++ after) = lineBreaks before + lineBreaks after := by
  induction before using break_induction with
  | nil => simp [lineBreaks]
  | crlf rest ih =>
    have hrest : ¬ CutsBreak rest after := fun hcut => h ((hcut.cons '\n').cons '\r')
    simp only [List.cons_append, lineBreaks, ih hrest]
    omega
  | cons c rest hc ih =>
    have hrest : ¬ CutsBreak rest after := fun hcut => h (hcut.cons c)
    rw [List.cons_append, lineBreaks_cons (not_cutsBreak_append hc h), lineBreaks_cons hc,
      ih hrest]
    split
    · omega
    · rfl

end Text

namespace Token

variable {after : List Char}

/-- A mark and a digit do not reach beyond a line feed. -/
theorem OptionalPart.append {IsMark : List Char → Prop} {part : List Char}
    (h : OptionalPart IsMark part after)
    (hmarks : ∀ mark, IsMark mark → ∀ c ∈ mark, endsLine c = false)
    (hbreak : after.getLast? = some '\n') (more : List Char) :
    OptionalPart IsMark part (after ++ more) := by
  cases h with
  | present hmark hdigits hrun =>
    have hne := List.ne_nil_of_mem (List.mem_of_getLast? hbreak)
    exact .present hmark hdigits (hrun.append hne more)
  | absent habsent =>
    refine .absent fun mark d rest hmark hd htext => ?_
    have htext' : after ++ more = (mark ++ [d]) ++ rest := by simpa using htext
    rcases List.append_eq_append_iff.mp htext' with ⟨tail, hstart, -⟩ | ⟨tail, rfl, -⟩
    · -- The mark and the digit would have the line feed among them.
      have hmem : '\n' ∈ mark ++ [d] := by
        rw [hstart]
        exact List.mem_append_left _ (List.mem_of_getLast? hbreak)
      rcases List.mem_append.mp hmem with hmem | hmem
      · exact absurd (hmarks mark hmark _ hmem) (by decide)
      · obtain rfl := List.mem_singleton.mp hmem
        exact absurd hd (by decide)
    · exact habsent mark d tail hmark hd (by simp)

theorem CutsString.append (h : CutsString after) (hbreak : after.getLast? = some '\n')
    (more : List Char) : CutsString (after ++ more) := by
  rcases h with rfl | rfl | ⟨c, rest, rfl, hline⟩
  · cases hbreak
  · cases hbreak
  · exact .inr (.inr ⟨c, rest ++ more, rfl, hline⟩)

/-- A lexeme with a line feed somewhere after it ends where it does, whatever comes later. -/
theorem Ends.append {kind : Kind} {lexeme : List Char} (h : Ends kind lexeme after)
    (hbreak : after.getLast? = some '\n') (more : List Char) :
    Ends kind lexeme (after ++ more) := by
  have hne := List.ne_nil_of_mem (List.mem_of_getLast? hbreak)
  cases h with
  | closedComment hinner => exact .closedComment hinner
  | openComment hinner => contradiction
  | lineComment hrun => exact .lineComment (hrun.append hne more)
  | closedString hquote hinner => exact .closedString hquote hinner
  | openString hquote hinner hafter => exact .openString hquote hinner (hafter.append hbreak more)
  | @number d glued fractional exponential _ hdigit hglued hfraction hexponent =>
    have hbreak' : (exponential ++ after).getLast? = some '\n' :=
      Text.getLast?_append_of_some hbreak exponential
    have hne' : fractional ++ (exponential ++ after) ≠ [] := by simp [hne]
    have hglued' := hglued.append hne' more
    have hfraction' := hfraction.append (fun _ h => h.plain) hbreak' more
    have hexponent' := hexponent.append (fun _ h => h.plain) hbreak more
    simp only [List.append_assoc] at hglued' hfraction'
    exact .number hdigit hglued' hfraction' hexponent'
  | identifier hstart hrun => exact .identifier hstart (hrun.append hne more)

/-! ## The tokens of the whole -/

/-- The scan of a text that a line feed ends is that of the start of any longer one, if no token is
open at the end. -/
theorem scan_append {above : List Char} (below : List Char)
    (hbreak : ∀ c, above.getLast? = some c → c = '\n')
    (hclosed : ∀ t ∈ scan above, t.stop ≠ above.length) :
    scan (above ++ below) = scan above ++ (scan below).map (shift above.length) := by
  induction above using scan_induction with
  | nil => exact scanFrom_eq_map_shift 0 below
  | gap c rest hnone ih =>
    have hnone' : lexeme? (c :: (rest ++ below)) = none := by
      rw [lexeme?_eq_none_iff] at hnone ⊢
      refine ⟨hnone.1, ?_⟩
      cases rest with
      | nil =>
        -- The line feed starts nothing.
        obtain rfl := hbreak c rfl
        rintro ⟨hslash, -⟩
        cases hslash
      | cons d rest => exact hnone.2
    have hbreak' : ∀ d, rest.getLast? = some d → d = '\n' :=
      fun d hd => hbreak d (Text.getLast?_append_of_some hd [c])
    have hclosed' : ∀ t ∈ scan rest, t.stop ≠ rest.length := by
      intro t ht hstop
      rw [scan_gap hnone] at hclosed
      refine hclosed _ (List.mem_map_of_mem ht) ?_
      rw [shift_stop, hstop, List.length_cons, Nat.add_comm]
    rw [List.cons_append, scan_gap hnone', scan_gap hnone, ih hbreak' hclosed', List.map_append,
      map_shift_map_shift, List.length_cons, Nat.add_comm 1]
  | token kind lexeme rest hends ih =>
    rw [scan_lexeme hends] at hclosed
    obtain ⟨hfirst, hclosed⟩ := List.forall_mem_cons.mp hclosed
    have hne : rest ≠ [] := by
      rintro rfl
      exact hfirst (by simp [stop])
    obtain ⟨d, hd⟩ : ∃ d, rest.getLast? = some d := ⟨_, List.getLast?_eq_some_getLast hne⟩
    obtain rfl := hbreak d (Text.getLast?_append_of_some hd lexeme)
    have hclosed' : ∀ t ∈ scan rest, t.stop ≠ rest.length := by
      intro t ht hstop
      refine hclosed _ (List.mem_map_of_mem ht) ?_
      rw [shift_stop, hstop, List.length_append]
    have hbreak' : ∀ c, rest.getLast? = some c → c = '\n' :=
      fun c hc => Option.some.inj (hc.symm.trans hd)
    rw [List.append_assoc, scan_lexeme (hends.append hd below), scan_lexeme hends,
      ih hbreak' hclosed', List.map_append, map_shift_map_shift, List.length_append,
      List.cons_append]

end Token

/-! ## Positions below -/

/-- A text stands in any longer one, below whole lines that no token is open after. -/
theorem Placed.below {above : List Char} (below : List Char)
    (hbreak : above.getLast? = some '\n')
    (hclosed : ∀ t ∈ Token.scan above, t.stop ≠ above.length) :
    Placed below (above ++ below) (above.length + ·) (Text.lineBreaks above) := by
  have hcut (after : List Char) : ¬ Text.CutsBreak above after := by
    rintro ⟨hr, -⟩
    rw [hbreak] at hr
    cases hr
  have hscan := Token.scan_append below (fun c hc => Option.some.inj (hc.symm.trans hbreak)) hclosed
  refine ⟨fun hlt _ => Nat.add_lt_add_left hlt _, fun _ _ => (Nat.add_assoc _ _ _).symm,
    Text.lineBreaks_append (hcut below), ?_, ?_, ?_⟩
  · rintro k _ ⟨before, text, after, rfl, hstands, rfl, rfl⟩
    have hstands' : Line.Stands (above ++ before) text after := by
      refine hstands.prepend (fun _ c hc => ?_) (fun _ => hcut _)
      rw [hbreak] at hc
      cases hc
      rfl
    exact ⟨above ++ before, text, after, by rw [List.append_assoc], hstands',
      Text.lineBreaks_append (hcut before), by rw [List.length_append]⟩
  · intro t ht
    refine ⟨t.shift above.length, ?_, rfl, rfl, t.shift_stop _, fun _ => rfl⟩
    rw [hscan]
    exact List.mem_append_right _ (List.mem_map_of_mem ht)
  · intro u hu hafter
    rw [hscan] at hu
    rcases List.mem_append.mp hu with hu | hu
    · have hle := (Token.slice_of_mem_scan hu).1
      have hne := hclosed u hu
      omega
    · obtain ⟨t, ht, rfl⟩ := List.mem_map.mp hu
      exact ⟨t, ht, rfl, rfl, t.shift_stop _, fun _ => rfl⟩

/-- If a line feed ends a text and no token is open there, what is put below it is scanned as it is
alone, and its positions name, as many lines further down, what they name alone. -/
theorem lines_scanned_apart (above below : List Char) (hbreak : above.getLast? = some '\n')
    (hclosed : ∀ t ∈ Token.scan above, t.stop ≠ above.length) :
    Token.scan (above ++ below) =
        Token.scan above ++ (Token.scan below).map (Token.shift above.length) ∧
      ∀ l c : Int, 0 ≤ l → Symbol.at? (above ++ below) ⟨Text.lineBreaks above + l, c⟩ =
        (Symbol.at? below ⟨l, c⟩).map (Symbol.lower (Text.lineBreaks above)) := by
  refine ⟨Token.scan_append below (fun c hc => Option.some.inj (hc.symm.trans hbreak)) hclosed,
    fun l c hl => ?_⟩
  exact (Placed.below below hbreak hclosed).at?_lower hl c

/-- A string that the line break cuts off. -/
def cutString : List Char := ['"', '/', '*', '\r', '\n']

theorem lines_scanned_apart_cutString :
    Token.scan (cutString ++ ['s', '"']) =
        [⟨.string, ['"', '/', '*'], 0⟩, ⟨.identifier, ['s'], 5⟩, ⟨.string, ['"'], 6⟩] ∧
      Symbol.at? (cutString ++ ['s', '"']) ⟨1, 0⟩ = some ⟨['s'], ⟨⟨1, 0⟩, ⟨1, 1⟩⟩⟩ := by
  have hbreak : cutString.getLast? = some '\n' := rfl
  have hclosed : ∀ t ∈ Token.scan cutString, t.stop ≠ cutString.length := by decide
  have hapart := lines_scanned_apart cutString ['s', '"'] hbreak hclosed
  exact ⟨hapart.1, hapart.2 0 0 (by decide)⟩

end ChapelServer
