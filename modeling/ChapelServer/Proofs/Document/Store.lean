import ChapelServer.Document
import Mathlib.Data.List.Nodup
import Mathlib.Logic.Function.Basic

/-!
# Documents by their addresses

What is held for an address after each change of the documents. As no address is held twice, the
documents are known by what is held for each address.
-/

namespace ChapelServer

/-- What is held for each address. -/
abbrev Holding := String → Option Document

/-- A change of what is held. -/
inductive Edit
  | opens (document : Document)
  | changes (uri : String) (version : Int) (text : Text)
  | closes (uri : String)
  | clears
  deriving DecidableEq, Repr

/-- What is held after a change. A document whose text changes keeps its language. -/
def Edit.apply (held : Holding) : Edit → Holding
  | .opens document => Function.update held document.uri (some document)
  | .changes uri version text =>
    Function.update held uri ((held uri).map fun doc => { doc with version, text })
  | .closes uri => Function.update held uri none
  | .clears => fun _ => none

namespace Documents

/-! ## What is held -/

theorem uri_of_get? {docs : Documents} {uri : String} {doc : Document}
    (h : docs.get? uri = some doc) : doc.uri = uri := by
  simpa using List.find?_some h

theorem find?_putIn (doc : Document) (list : List Document) (uri : String) :
    (putIn doc list).find? (·.uri == uri) =
      if uri = doc.uri then some doc else list.find? (·.uri == uri) := by
  induction list with
  | nil =>
    by_cases hu : uri = doc.uri
    · simp [putIn, hu]
    · simp [putIn, hu, Ne.symm hu]
  | cons d rest ih =>
    by_cases hd : d.uri = doc.uri
    · by_cases hu : uri = doc.uri
      · simp [putIn, hd, hu]
      · simp [putIn, hd, hu, Ne.symm hu]
    · by_cases hu : d.uri = uri
      · subst hu
        simp [putIn, hd]
      · have hskip : (d.uri == uri) = false := by simpa using hu
        simp only [putIn, if_neg hd, List.find?_cons, hskip, ih]

theorem get?_put (docs : Documents) (doc : Document) (uri : String) :
    (docs.put doc).get? uri = if uri = doc.uri then some doc else docs.get? uri :=
  find?_putIn doc docs.toList uri

theorem get?_close (docs : Documents) (closed uri : String) :
    (docs.close closed).get? uri = if uri = closed then none else docs.get? uri := by
  simp only [close, get?, List.find?_filter]
  by_cases hu : uri = closed
  · subst hu
    simp
  · rw [if_neg hu]
    congr 1
    funext d
    by_cases hd : d.uri = uri
    · simp [hd, hu]
    · simp [hd]

theorem get?_eq_update_put (docs : Documents) (doc : Document) :
    (docs.put doc).get? = Function.update docs.get? doc.uri (some doc) := by
  funext uri
  rw [get?_put, Function.update_apply]

theorem get?_eq_update_close (docs : Documents) (uri : String) :
    (docs.close uri).get? = Function.update docs.get? uri none := by
  funext other
  rw [get?_close, Function.update_apply]

/-- A change of a document that is open replaces its version and text. -/
theorem change_of_open {docs : Documents} {uri : String} {doc : Document}
    (h : docs.get? uri = some doc) (version : Int) (text : Text) :
    docs.change uri version text = .ok (docs.put { doc with version, text }) := by
  simp only [change, get, h]
  rfl

/-- A change of a document that is not open is refused. -/
theorem change_of_not_open {docs : Documents} {uri : String} (h : docs.get? uri = none)
    (version : Int) (text : Text) :
    docs.change uri version text = .error (.documentNotFound uri) := by
  simp only [change, get, h]
  rfl

/-! ## Addresses -/

theorem map_uri_putIn (doc : Document) (list : List Document) :
    (putIn doc list).map (·.uri) =
      if doc.uri ∈ list.map (·.uri) then list.map (·.uri) else list.map (·.uri) ++ [doc.uri] := by
  induction list with
  | nil => simp [putIn]
  | cons d rest ih =>
    by_cases hd : d.uri = doc.uri
    · simp [putIn, hd]
    · simp only [putIn, if_neg hd, List.map_cons, ih, List.mem_cons, Ne.symm hd, false_or]
      split <;> rfl

/-- A document keeps the place of the one that it replaces, and a new one comes last. -/
theorem uris_put (docs : Documents) (doc : Document) :
    (docs.put doc).uris =
      if doc.uri ∈ docs.uris then docs.uris else docs.uris ++ [doc.uri] :=
  map_uri_putIn doc docs.toList

theorem uris_close (docs : Documents) (uri : String) :
    (docs.close uri).uris = docs.uris.filter (· != uri) := by
  simp only [uris, close, List.filter_map]
  rfl

theorem nodup_put {docs : Documents} (h : docs.uris.Nodup) (doc : Document) :
    (docs.put doc).uris.Nodup := by
  rw [uris_put]
  split
  · exact h
  · rename_i hnew
    exact h.append (List.nodup_singleton _) (by simpa using hnew)

theorem nodup_close {docs : Documents} (h : docs.uris.Nodup) (uri : String) :
    (docs.close uri).uris.Nodup := by
  rw [uris_close]
  exact h.filter _

/-- The documents are those that are held for their own addresses. -/
theorem mem_iff_get? {docs : Documents} (h : docs.uris.Nodup) {doc : Document} :
    doc ∈ docs.toList ↔ docs.get? doc.uri = some doc := by
  constructor
  · intro hmem
    obtain ⟨found, hfound⟩ : ∃ found, docs.get? doc.uri = some found :=
      Option.isSome_iff_exists.mp (List.find?_isSome.mpr ⟨doc, hmem, by simp⟩)
    have hsame : found = doc :=
      List.inj_on_of_nodup_map h (List.mem_of_find?_eq_some hfound) hmem (uri_of_get? hfound)
    rw [hfound, hsame]
  · exact List.mem_of_find?_eq_some

end Documents

end ChapelServer
