import ChapelServer.Source.Keyword
import ChapelServer.Source.Position
import ChapelServer.Source.Token

/-!
# The symbol under the cursor

A cursor is on a symbol when it stands on a character of an identifier, or right after its last
one with no other token beginning there. Comments, strings, numbers and reserved words hide the
characters they cover.
-/

namespace ChapelServer

/-- An identifier of a text and where it stands (`SymbolAtPosition`). -/
structure Symbol where
  name : List Char
  range : Range
  deriving DecidableEq, Repr

/-- The token that covers the offset, or else the last one that ends there; `candidate` is the
best one met so far. -/
def Token.at? (offset : Nat) : (candidate : Option Token) → List Token → Option Token
  | candidate, [] => candidate
  | candidate, t :: rest =>
    if offset < t.start then candidate
    else if offset < t.stop then some t
    else at? offset (if t.stop = offset then some t else candidate) rest

/-- The symbol at a position of a text whose tokens and lines are known. -/
def Symbol.among? (tokens : List Token) (lines : List Line) (p : Position) : Option Symbol :=
  match p.offset? lines with
  | none => none
  | some offset =>
    match Token.at? offset none tokens with
    | none => none
    | some t =>
      if t.kind = .identifier && !isKeyword t.lexeme then
        some {
          name := t.lexeme
          range := ⟨.ofOffset lines t.start, .ofOffset lines t.stop⟩ }
      else none

/-- The symbol at a position of a text (`symbol_at_position`). -/
def Symbol.at? (source : List Char) (p : Position) : Option Symbol :=
  among? (Token.scan source) (Line.scan source) p

end ChapelServer
