/-!
# What a text starts with

A literal, or a run of characters of a class that is taken as far as it goes.
-/

namespace ChapelServer.Text

/-- The text after a literal that it starts with. -/
def after? (literal text : List Char) : Option (List Char) :=
  if literal.isPrefixOf text then some (text.drop literal.length) else none

/-- A non-empty run of characters of a class at the start of a text, and the text after it. -/
def run? (p : Char → Bool) (text : List Char) : Option (List Char × List Char) :=
  match text.takeWhile p with
  | [] => none
  | run => some (run, text.dropWhile p)

end ChapelServer.Text
