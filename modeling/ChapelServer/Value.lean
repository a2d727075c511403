import ChapelServer.Number.Decimal
import ChapelServer.Text.Quoted

/-!
# Values from the client

What a client may send as configuration: any tree of records, lists and scalars. A value is shown
in warnings as a literal.
-/

namespace ChapelServer

/-- A value sent by the client. A record keeps its keys in the order in which they came. -/
inductive Value
  | null
  | bool (b : Bool)
  | int (n : Int)
  | float (x : Number.Binary64)
  | text (s : Text)
  | list (items : List Value)
  | record (fields : List (Text × Value))
  deriving Repr

namespace Value

mutual

/-- The literal of a value (`repr`). -/
def literal : Value → List Char
  | .null => "None".toList
  | .bool true => "True".toList
  | .bool false => "False".toList
  | .int n => Number.decimal n
  | .float x => x.text
  | .text s => Text.quoted s
  | .list items => '[' :: itemLiterals items ++ [']']
  | .record fields => '{' :: fieldLiterals fields ++ ['}']

/-- The literals of the items of a list, with commas between them. -/
def itemLiterals : List Value → List Char
  | [] => []
  | [item] => literal item
  | item :: rest => literal item ++ ',' :: ' ' :: itemLiterals rest

/-- The fields of a record, with commas between them. -/
def fieldLiterals : List (Text × Value) → List Char
  | [] => []
  | [(key, value)] => fieldLiteral key value
  | (key, value) :: rest => fieldLiteral key value ++ ',' :: ' ' :: fieldLiterals rest

/-- A key and its value. -/
def fieldLiteral (key : Text) (value : Value) : List Char :=
  Text.quoted key ++ ':' :: ' ' :: literal value

end

/-- The value counts as given: not null, false, zero or empty (`bool`). -/
def isGiven : Value → Bool
  | .null => false
  | .bool b => b
  | .int n => n ≠ 0
  | .float (.finite _ mantissa _) => mantissa ≠ 0
  | .float _ => true
  | .text s => !s.isEmpty
  | .list items => !items.isEmpty
  | .record fields => !fields.isEmpty

/-- The text of a value in a message: a text as it is, anything else as a literal (`str`). -/
def plain : Value → Text
  | .text s => s
  | value => .ofChars value.literal

/-- Why a value is no number of seconds. -/
inductive NoNumber
  | text
  | unbounded
  | other
  deriving DecidableEq, Repr

/-- The number of seconds that a value stands for, as `:g` lays it out. Truth counts as one, and
falsehood as zero. -/
def seconds : Value → Except NoNumber Number.Binary64
  | .float x => .ok x
  | .int n => ofInteger n
  | .bool b => ofInteger (if b then 1 else 0)
  | .text _ => .error .text
  | _ => .error .other
where
  ofInteger (n : Int) : Except NoNumber Number.Binary64 :=
    match Number.Binary64.ofInt? n with
    | some x => .ok x
    | none => .error .unbounded

end Value

end ChapelServer
