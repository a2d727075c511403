import ChapelServer.Failure

/-!
# Open documents

The documents that the editor has open, by their addresses, in the order in which they were
opened. A document is always replaced as a whole, and keeps its place when it is.
-/

namespace ChapelServer

/-- A document open in the editor. -/
structure Document where
  uri : String
  language : String
  version : Int
  text : Text
  deriving DecidableEq, Repr

/-- The open documents (`DocumentStore`), in the order in which they were opened. -/
structure Documents where
  toList : List Document := []
  deriving DecidableEq, Repr

namespace Documents

/-- The document of an address. -/
def get? (docs : Documents) (uri : String) : Option Document :=
  docs.toList.find? (·.uri == uri)

/-- The document of an address, or the failure of not having it (`get`). -/
def get (docs : Documents) (uri : String) : Except Failure Document :=
  match docs.get? uri with
  | some doc => .ok doc
  | none => .error (.documentNotFound uri)

/-- The address is open (`in`). -/
def contains (docs : Documents) (uri : String) : Bool :=
  docs.toList.any (·.uri == uri)

/-- The list with a document in the place of the one with the same address, or at its end. -/
def putIn (doc : Document) : List Document → List Document
  | [] => [doc]
  | d :: rest => if d.uri = doc.uri then doc :: rest else d :: putIn doc rest

/-- The documents with one more, or with a new one in the place of the old (`open`). -/
def put (docs : Documents) (doc : Document) : Documents :=
  ⟨putIn doc docs.toList⟩

/-- The documents with a new text and version of an open one (`change`). -/
def change (docs : Documents) (uri : String) (version : Int) (text : Text) :
    Except Failure Documents := do
  let doc ← docs.get uri
  return docs.put { doc with version, text }

/-- The documents without an address (`close`). -/
def close (docs : Documents) (uri : String) : Documents :=
  ⟨docs.toList.filter (·.uri != uri)⟩

/-- The addresses, in order. -/
def uris (docs : Documents) : List String :=
  docs.toList.map (·.uri)

/-- The number of documents (`len`). -/
def size (docs : Documents) : Nat :=
  docs.toList.length

end Documents

end ChapelServer
