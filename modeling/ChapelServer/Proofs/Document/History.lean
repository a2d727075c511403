import ChapelServer.Proofs.Document.Store
import Mathlib.Data.List.Induction

/-!
# Documents and their history

The documents after any calls are told by the calls alone. An address is present if it has been
opened since it was last closed and since all was last cleared. Its language is then that of the
last opening, and its version and text are those of the last opening or change. The addresses stand
in the order of the openings that began their presence, so that to be opened again or changed moves
none of them.
-/

namespace ChapelServer.Documents

/-! ## Calls -/

/-- A call: a change of what is held, or a question for one document. -/
inductive Call
  | edit (edit : Edit)
  | get (uri : String)
  deriving DecidableEq, Repr

/-- What a call comes to, and the documents after it. A change that is refused leaves them as they
are. -/
def call (docs : Documents) : Call → Except Failure (Option Document) × Documents
  | .edit (.opens document) => (.ok (some document), docs.put document)
  | .edit (.changes uri version text) =>
    let changed := docs.change uri version text
    (changed.bind fun docs => (docs.get uri).map some, changed.toOption.getD docs)
  | .edit (.closes uri) => (.ok none, docs.close uri)
  | .edit .clears => (.ok none, {})
  | .get uri => ((docs.get uri).map some, docs)

/-- The documents after calls, from none on. -/
def run (calls : List Call) : Documents :=
  calls.foldl (fun docs c => (docs.call c).2) {}

theorem run_append_singleton (calls : List Call) (c : Call) :
    run (calls ++ [c]) = ((run calls).call c).2 := by
  rw [run, List.foldl_append]
  rfl

theorem get_eq_ok_iff {docs : Documents} {uri : String} {doc : Document} :
    docs.get uri = .ok doc ↔ docs.get? uri = some doc := by
  cases h : docs.get? uri <;> simp [get, h]

/-- A document that is not held is not found, and that is the only failure. -/
theorem get_of_none {docs : Documents} {uri : String} (h : docs.get? uri = none) :
    docs.get uri = .error (.documentNotFound uri) := by
  simp [get, h]

theorem call_change_of_open {docs : Documents} {uri : String} {doc : Document}
    (h : docs.get? uri = some doc) (version : Int) (text : Text) :
    docs.call (.edit (.changes uri version text)) =
      (.ok (some { doc with version, text }), docs.put { doc with version, text }) := by
  have hfound : (docs.put { doc with version, text }).get uri = .ok { doc with version, text } := by
    rw [get_eq_ok_iff, get?_put, if_pos (uri_of_get? h).symm]
  simp only [call, change_of_open h]
  change (Except.map some ((docs.put _).get uri), docs.put _) = _
  rw [hfound]
  rfl

theorem call_change_of_not_open {docs : Documents} {uri : String} (h : docs.get? uri = none)
    (version : Int) (text : Text) :
    docs.call (.edit (.changes uri version text)) = (.error (.documentNotFound uri), docs) := by
  simp only [call, change_of_not_open h]
  rfl

/-- What is held after a call is what the change makes of it. -/
theorem get?_call_edit (docs : Documents) (edit : Edit) :
    (docs.call (.edit edit)).2.get? = edit.apply docs.get? := by
  cases edit with
  | opens document => exact docs.get?_eq_update_put document
  | closes uri => exact docs.get?_eq_update_close uri
  | clears => rfl
  | changes uri version text =>
    cases hdoc : docs.get? uri with
    | none =>
      rw [call_change_of_not_open hdoc, Edit.apply, hdoc, Option.map_none, ← hdoc,
        Function.update_eq_self]
    | some doc =>
      rw [call_change_of_open hdoc, Edit.apply, hdoc, Option.map_some, get?_eq_update_put]
      simp only [uri_of_get? hdoc]

/-! ## What calls say about an address -/

namespace Call

/-- The address that a call opens. -/
def opening? : Call → Option String
  | .edit (.opens document) => some document.uri
  | _ => none

/-- The document that a call opens at an address. -/
def opened? (uri : String) : Call → Option Document
  | .edit (.opens document) => if document.uri = uri then some document else none
  | _ => none

/-- The version and text that a call gives to an address. -/
def written? (uri : String) : Call → Option (Int × Text)
  | .edit (.opens document) =>
    if document.uri = uri then some (document.version, document.text) else none
  | .edit (.changes changed version text) => if changed = uri then some (version, text) else none
  | _ => none

/-- The call ends the presence of an address. -/
def drops (uri : String) : Call → Bool
  | .edit (.closes closed) => closed == uri
  | .edit .clears => true
  | _ => false

end Call

/-- The address has been opened since it was last closed and since all was last cleared. -/
def present (calls : List Call) (uri : String) : Bool :=
  (calls.reverse.takeWhile fun c => !c.drops uri).any fun c => c.opening? == some uri

/-- The last opening of an address. -/
def lastOpened? (calls : List Call) (uri : String) : Option Document :=
  (calls.filterMap (·.opened? uri)).getLast?

/-- The version and text of the last opening or change of an address. -/
def lastWritten? (calls : List Call) (uri : String) : Option (Int × Text) :=
  (calls.filterMap (·.written? uri)).getLast?

/-- The document is what the calls say about an address: the language is that of its last opening,
version and text are those of its last opening or change. -/
structure Recorded (calls : List Call) (uri : String) (doc : Document) : Prop where
  uri_eq : doc.uri = uri
  language : (lastOpened? calls uri).map (·.language) = some doc.language
  written : lastWritten? calls uri = some (doc.version, doc.text)

/-- The address whose presence began with this call and lasts: the call opens it, it was not present
before, and no later call ends its presence. -/
def begun? (calls : List Call) (i : Nat) : Option String :=
  (calls[i]?.bind Call.opening?).filter fun uri =>
    !present (calls.take i) uri && (calls.drop (i + 1)).all fun c => !c.drops uri

/-- The addresses that are present, in the order of the calls with which their presence began. -/
def begun (calls : List Call) : List String :=
  (List.range calls.length).filterMap (begun? calls)

/-! ## One more call -/

section

variable (calls : List Call) (c : Call) (uri : String)

theorem present_append_singleton :
    present (calls ++ [c]) uri =
      (!c.drops uri && (c.opening? == some uri || present calls uri)) := by
  rw [present, List.reverse_append, List.reverse_singleton, List.singleton_append,
    List.takeWhile_cons]
  cases c.drops uri <;> rfl

/-- What is said last is what the last call says, if it says anything. -/
theorem getLast?_filterMap_append_singleton {α : Type} (reading : Call → Option α) :
    ((calls ++ [c]).filterMap reading).getLast? =
      (reading c).or (calls.filterMap reading).getLast? := by
  rw [List.filterMap_append, List.getLast?_append]
  cases h : reading c <;> simp [h]

theorem lastOpened?_append_singleton :
    lastOpened? (calls ++ [c]) uri = (c.opened? uri).or (lastOpened? calls uri) :=
  getLast?_filterMap_append_singleton calls c _

theorem lastWritten?_append_singleton :
    lastWritten? (calls ++ [c]) uri = (c.written? uri).or (lastWritten? calls uri) :=
  getLast?_filterMap_append_singleton calls c _

theorem begun?_append_singleton {i : Nat} (h : i < calls.length) :
    begun? (calls ++ [c]) i = (begun? calls i).filter fun uri => !c.drops uri := by
  rw [begun?, begun?, List.getElem?_append_left h, List.take_append_of_le_length (Nat.le_of_lt h),
    List.drop_append_of_le_length h, Option.filter_filter]
  congr 1
  funext uri
  simp only [List.all_append, List.all_cons, List.all_nil, Bool.and_true, Bool.and_assoc]

theorem begun?_length :
    begun? (calls ++ [c]) calls.length = c.opening?.filter fun uri => !present calls uri := by
  simp [begun?]

/-- A call ends the presence of some addresses, and may begin that of another one. -/
theorem begun_append_singleton :
    begun (calls ++ [c]) = (begun calls).filter (fun uri => !c.drops uri) ++
      (c.opening?.filter fun uri => !present calls uri).toList := by
  have hbefore : (List.range calls.length).filterMap (begun? (calls ++ [c])) =
      (begun calls).filter fun uri => !c.drops uri := by
    rw [begun, List.filter_filterMap]
    refine List.filterMap_congr fun i hi => ?_
    exact begun?_append_singleton calls c (List.mem_range.mp hi)
  rw [begun, List.length_append, List.length_singleton, List.range_succ, List.filterMap_append,
    hbefore]
  congr 1
  rw [← begun?_length calls c]
  cases h : begun? (calls ++ [c]) calls.length <;> simp [h]

end

/-! ## Held and recorded -/

/-- What is found at an address is what the calls say about it. -/
structure Tells (calls : List Call) (uri : String) (found : Option Document) : Prop where
  isSome : found.isSome = present calls uri
  recorded : ∀ doc, found = some doc → Recorded calls uri doc

variable {calls : List Call} {uri : String} {found : Option Document}

/-- A call that says nothing about an address leaves what is known of it. -/
theorem Tells.keep (h : Tells calls uri found) {c : Call} (hdrops : c.drops uri = false)
    (hopening : c.opening? ≠ some uri) (hopened : c.opened? uri = none)
    (hwritten : c.written? uri = none) : Tells (calls ++ [c]) uri found where
  isSome := by
    have hother : (c.opening? == some uri) = false := beq_eq_false_iff_ne.mpr hopening
    rw [present_append_singleton, hdrops, hother, h.isSome]
    rfl
  recorded doc hdoc := by
    obtain ⟨huri, hlanguage, hlast⟩ := h.recorded doc hdoc
    refine ⟨huri, ?_, ?_⟩
    · rw [lastOpened?_append_singleton, hopened, Option.none_or, hlanguage]
    · rw [lastWritten?_append_singleton, hwritten, Option.none_or, hlast]

theorem Tells.drop (calls : List Call) {c : Call} (hdrops : c.drops uri = true) :
    Tells (calls ++ [c]) uri none where
  isSome := by
    rw [present_append_singleton, hdrops]
    rfl
  recorded := by simp

theorem Tells.opens (calls : List Call) (doc : Document) :
    Tells (calls ++ [.edit (.opens doc)]) doc.uri (some doc) where
  isSome := by simp [present_append_singleton, Call.drops, Call.opening?]
  recorded := by
    rintro _ ⟨⟩
    refine ⟨rfl, ?_, ?_⟩
    · simp [lastOpened?_append_singleton, Call.opened?]
    · simp [lastWritten?_append_singleton, Call.written?]

/-- A change leaves the language, and does not make an address present that is not. -/
theorem Tells.changes (h : Tells calls uri found) (version : Int) (text : Text) :
    Tells (calls ++ [.edit (.changes uri version text)]) uri
      (found.map fun doc => { doc with version, text }) where
  isSome := by
    rw [Option.isSome_map, h.isSome]
    simp [present_append_singleton, Call.drops, Call.opening?]
  recorded doc hdoc := by
    obtain ⟨old, hold, rfl⟩ := Option.map_eq_some_iff.mp hdoc
    obtain ⟨huri, hlanguage, -⟩ := h.recorded old hold
    refine ⟨huri, ?_, ?_⟩
    · rw [lastOpened?_append_singleton]
      exact hlanguage
    · simp [lastWritten?_append_singleton, Call.written?]

/-- A change of what is held says something about one address, or ends the presence of all. -/
theorem Tells.edit {held : Holding} (h : Tells calls uri (held uri)) (edit : Edit) :
    Tells (calls ++ [.edit edit]) uri (edit.apply held uri) := by
  cases edit with
  | opens doc =>
    by_cases hu : doc.uri = uri
    · subst hu
      rw [Edit.apply, Function.update_self]
      exact Tells.opens calls doc
    · rw [Edit.apply, Function.update_of_ne (Ne.symm hu)]
      exact h.keep rfl (by simp [Call.opening?, hu]) (if_neg hu) (if_neg hu)
  | changes changed version text =>
    by_cases hu : changed = uri
    · subst hu
      rw [Edit.apply, Function.update_self]
      exact h.changes version text
    · rw [Edit.apply, Function.update_of_ne (Ne.symm hu)]
      exact h.keep rfl (by simp [Call.opening?]) rfl (if_neg hu)
  | closes closed =>
    by_cases hu : closed = uri
    · subst hu
      rw [Edit.apply, Function.update_self]
      exact Tells.drop calls (beq_self_eq_true closed)
    · rw [Edit.apply, Function.update_of_ne (Ne.symm hu)]
      exact h.keep (beq_eq_false_iff_ne.mpr hu) (by simp [Call.opening?]) rfl rfl
  | clears => exact Tells.drop calls rfl

/-- What is held for an address after calls is what they say about it. -/
theorem run_tells (calls : List Call) (uri : String) : Tells calls uri ((run calls).get? uri) := by
  induction calls using List.reverseRecOn with
  | nil => exact ⟨rfl, by simp [run, get?]⟩
  | append_singleton calls c ih =>
    rw [run_append_singleton]
    cases c with
    | edit edit =>
      rw [get?_call_edit]
      exact ih.edit edit
    | get asked => exact ih.keep rfl (by simp [Call.opening?]) rfl rfl

theorem get?_isSome_run (calls : List Call) (uri : String) :
    ((run calls).get? uri).isSome = present calls uri :=
  (run_tells calls uri).isSome

/-- An address is listed exactly if it is present. -/
theorem mem_uris_run (calls : List Call) (uri : String) :
    uri ∈ (run calls).uris ↔ present calls uri = true := by
  rw [← get?_isSome_run, get?, List.find?_isSome, uris, List.mem_map]
  simp only [beq_iff_eq]

/-! ## The order of addresses -/

/-- With each call, an address that is closed goes, one that was not present comes last, and all
others keep their places. -/
theorem uris_run (calls : List Call) : (run calls).uris = begun calls := by
  induction calls using List.reverseRecOn with
  | nil => rfl
  | append_singleton calls c ih =>
    rw [run_append_singleton, begun_append_singleton, ← ih]
    cases c with
    | get asked => simp [call, Call.drops, Call.opening?]
    | edit edit =>
      cases edit with
      | clears => simp [call, Call.drops, Call.opening?, uris]
      | closes closed =>
        have hgone : ∀ uri, (uri != closed) = !(closed == uri) := fun uri => by
          rw [bne, Bool.beq_comm]
        simp [call, Call.drops, Call.opening?, uris_close, hgone]
      | opens doc =>
        cases hpresent : present calls doc.uri with
        | true =>
          have hmem := (mem_uris_run calls doc.uri).mpr hpresent
          simp [call, Call.drops, Call.opening?, uris_put, hmem, hpresent]
        | false =>
          have hnew : doc.uri ∉ (run calls).uris := by
            rw [mem_uris_run, hpresent]
            decide
          simp [call, Call.drops, Call.opening?, uris_put, hnew, hpresent, Option.filter_some]
      | changes changed version text =>
        cases hdoc : (run calls).get? changed with
        | none => simp [call_change_of_not_open hdoc, Call.drops, Call.opening?]
        | some doc =>
          have hmem : doc.uri ∈ (run calls).uris :=
            List.mem_map_of_mem (List.mem_of_find?_eq_some hdoc)
          simp [call_change_of_open hdoc, Call.drops, Call.opening?, uris_put, hmem]

theorem nodup_call {docs : Documents} (h : docs.uris.Nodup) (c : Call) :
    (docs.call c).2.uris.Nodup := by
  cases c with
  | get asked => exact h
  | edit edit =>
    cases edit with
    | opens doc => exact nodup_put h doc
    | closes closed => exact nodup_close h closed
    | clears => exact List.nodup_nil
    | changes changed version text =>
      cases hdoc : docs.get? changed with
      | none => rwa [call_change_of_not_open hdoc]
      | some doc =>
        rw [call_change_of_open hdoc]
        exact nodup_put h _

theorem nodup_run (calls : List Call) : (run calls).uris.Nodup := by
  induction calls using List.reverseRecOn with
  | nil => exact List.nodup_nil
  | append_singleton calls c ih =>
    rw [run_append_singleton]
    exact nodup_call ih c

/-! ## The documents after any calls -/

/-- After any calls, no address is held twice and each document is found at its own. A document is
found exactly at the addresses that are present, and is the one that the calls say; elsewhere it is
not found, and a change is refused and leaves the documents as they are. The addresses are those
that are present, in the order of the openings that began their presence. -/
theorem history_tells_documents (calls : List Call) :
    let docs := run calls
    docs.uris.Nodup ∧
      (∀ doc, doc ∈ docs.toList ↔ docs.get doc.uri = .ok doc) ∧
      (∀ uri, (∃ doc, docs.get uri = .ok doc) ↔ present calls uri = true) ∧
      (∀ uri, docs.get uri = .error (.documentNotFound uri) ↔ present calls uri = false) ∧
      (∀ uri doc, docs.get uri = .ok doc → Recorded calls uri doc) ∧
      (∀ uri version text,
        let called := docs.call (.edit (.changes uri version text))
        (called = (.error (.documentNotFound uri), docs) ↔ present calls uri = false) ∧
          ((∃ doc, called.1 = .ok (some doc)) ↔ present calls uri = true)) ∧
      (∀ uri, uri ∈ docs.uris ↔ present calls uri = true) ∧
      docs.uris = begun calls := by
  intro docs
  have hnodup : docs.uris.Nodup := nodup_run calls
  refine ⟨hnodup, fun doc => ?_, fun uri => ?_, fun uri => ?_, fun uri doc hdoc => ?_,
    fun uri version text => ?_, mem_uris_run calls, uris_run calls⟩
  · rw [get_eq_ok_iff]
    exact mem_iff_get? hnodup
  · simp only [get_eq_ok_iff]
    rw [← get?_isSome_run, Option.isSome_iff_exists]
  · have hsome := get?_isSome_run calls uri
    cases hdoc : docs.get? uri with
    | none => simp [get_of_none hdoc, ← hsome, docs, hdoc]
    | some doc => simp [get_eq_ok_iff.mpr hdoc, ← hsome, docs, hdoc]
  · exact (run_tells calls uri).recorded doc (get_eq_ok_iff.mp hdoc)
  · have hsome := get?_isSome_run calls uri
    cases hdoc : docs.get? uri with
    | none => simp [call_change_of_not_open hdoc, ← hsome, docs, hdoc]
    | some doc => simp [call_change_of_open hdoc, ← hsome, docs, hdoc]

end ChapelServer.Documents
