import ChapelServer.Source.Symbol
import ChapelServer.Text.CodePoint

/-!
# Hovers

What a hover finds out about a symbol, and what it shows: the symbol with its type as a fenced
block, if a type was found.
-/

namespace ChapelServer

/-- What is known about a symbol (`HoverResult`): its type and line as the pass log gives them, if
it does, and the place of the symbol, if it was taken from the document. -/
structure Finding where
  symbol : Text
  span : Option String
  range : Option Range
  deriving DecidableEq, Repr

/-- What a hover shows. -/
structure Hover where
  value : Text
  range : Option Range
  deriving DecidableEq, Repr

/-- The hover that shows a finding (`build_hover`). There is none without a type. -/
def Hover.ofFinding? (finding : Option Finding) : Option Hover :=
  match finding with
  | none => none
  | some f =>
    match f.span with
    | none => none
    | some span =>
      if span.isEmpty then none
      else
        some ⟨Text.ofString "```chapel\n" ++ f.symbol ++ Text.ofString s!": {span}\n```", f.range⟩

end ChapelServer
