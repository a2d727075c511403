import ChapelServer.Number.Decimal
import ChapelServer.Template.Kind
import ChapelServer.Template.Render
import ChapelServer.Text.Quoted

/-!
# What a field stands for

A field stands for a text or a number, and its attributes and subscripts lead to parts of it. Most
attributes are operations, and lead on to their name, their owner, their description and their kind.
Only texts, numbers and truth values can be laid out, but everything has a plain text.
-/

namespace ChapelServer.Template

/-- An item of a sequence, or a parameter of a kind. -/
inductive Item
  | kind (k : Kind)
  | text (s : Text)
  | number (n : Int)
  deriving DecidableEq, Repr

/-- What a field can stand for. -/
inductive Argument
  | text (s : Text)
  | number (n : Int)
  | truth (b : Bool)
  | nothing
  /-- A kind as a value. -/
  | kind (k : Kind)
  /-- A kind with a parameter. -/
  | applied (k : Kind) (parameter : Item)
  | sequence (items : List Item)
  /-- The members of a kind by name. -/
  | table (k : Kind)
  /-- Values by name, of which there are none. -/
  | dictionary
  /-- A member of a kind. -/
  | member (home : Kind) (m : Member)
  /-- An operation of an owner, by the member that it comes from. -/
  | operation (owner : Argument) (home : Kind) (m : Member)
  deriving DecidableEq, Repr

/-- The item as a value of its own. -/
def Item.argument : Item → Argument
  | .kind k => .kind k
  | .text s => .text s
  | .number n => .number n

/-- The kind that the members of a role are of. -/
def Role.kind : Role → Kind
  | .constructor => .operation
  | .special => .specialMember
  | .method => .methodMember
  | .classMethod => .classMember
  | .static => .staticMember
  | .property => .property
  | .field => .field
  | .constant => .text

/-- The kind that a value is of (`type`). -/
def Argument.kindOf : Argument → Kind
  | .text _ => .text
  | .number _ => .number
  | .truth _ => .truth
  | .nothing => .nothing
  | .kind _ => .kind
  | .applied _ _ => .application
  | .sequence _ => .sequence
  | .table _ => .table
  | .dictionary => .dictionary
  | .member _ m => m.role.kind
  | .operation _ _ m => if m.role = .special then .special else .operation

/-- A text as a value, nothing if it is empty. -/
def Argument.ofText (s : String) : Argument :=
  if s = "" then .nothing else .text s

/-! ## Parts of the values -/

/-- The name of a member with that of the kind before it (`__qualname__`). -/
def qualifiedName (k : Kind) (m : Member) : String :=
  k.name ++ "." ++ m.name

/-- The description of a kind (`__doc__`). A kind of which only the values are described has the
member that describes them. -/
def Kind.description (k : Kind) : Argument :=
  match k, k.ownMember? "__doc__" with
  | .kind, _ =>
    .ofText "type(object) -> the object's type\ntype(name, bases, dict, **kwds) -> a new type"
  | _, some m => if m.role = .constant then .ofText m.description else .member k m
  | _, none => .nothing

/-- The part of a kind: an attribute that `type` gives its classes. -/
def Kind.part (k : Kind) (name : String) : Except Error Argument :=
  match name with
  | "__name__" | "__qualname__" => .ok (.text k.name)
  | "__module__" => .ok (.text k.module)
  | "__doc__" => .ok k.description
  | "__text_signature__" => .ok (.ofText k.signature)
  | "__base__" => .ok (match k.ancestors with | [] => .nothing | nearest :: _ => .kind nearest)
  | "__bases__" => .ok (.sequence ((k.ancestors.take 1).map .kind))
  | "__mro__" => .ok (.sequence ((k :: k.ancestors).map .kind))
  | "__dict__" => .ok (.table k)
  | "__basicsize__" => .ok (.number k.storage.size)
  | "__itemsize__" => .ok (.number k.storage.itemSize)
  | "__flags__" => .ok (.number k.storage.flags)
  | "__dictoffset__" => .ok (.number k.storage.tableOffset)
  | "__weakrefoffset__" => .ok (.number k.storage.weakOffset)
  | _ => .error .noAttribute

/-- The part of a number, as a complex or as a rational one. -/
def numberPart (n : Int) (name : String) : Except Error Argument :=
  match name with
  | "real" | "numerator" => .ok (.number n)
  | "imag" => .ok (.number 0)
  | "denominator" => .ok (.number 1)
  | _ => .error .noAttribute

/-- The part of a kind with a parameter: an attribute of a `types.GenericAlias`. -/
def applicationPart (k : Kind) (parameter : Item) (name : String) : Except Error Argument :=
  match name with
  | "__origin__" => .ok (.kind k)
  | "__args__" => .ok (.sequence [parameter])
  | "__parameters__" => .ok (.sequence [])
  | "__unpacked__" => .ok (.truth false)
  | "__typing_unpacked_tuple_args__" => .ok .nothing
  | _ => .error .noAttribute

/-- The part of a member of a kind. -/
def Member.part (m : Member) (home : Kind) (name : String) : Except Error Argument :=
  match name with
  | "__name__" => .ok (.text m.name)
  | "__qualname__" => .ok (.text (qualifiedName home m))
  | "__objclass__" => .ok (.kind home)
  | "__func__" | "__wrapped__" => .ok (.operation (.kind home) home m)
  | "__isabstractmethod__" => .ok (.truth false)
  | "__dict__" => .ok .dictionary
  | "__doc__" => .ok (.ofText m.description)
  | "__text_signature__" => .ok (.ofText m.signature)
  | _ => .error .noAttribute

/-- The part of an operation of an owner. It belongs to no module, and is named after its owner if
that is a kind, else after the owner's kind; special operations are named after the kind that has
them. -/
def operationPart (owner : Argument) (home : Kind) (m : Member) (name : String) :
    Except Error Argument :=
  match name, owner with
  | "__self__", _ => .ok (if m.role = .static then .nothing else owner)
  | "__module__", _ => .ok .nothing
  | "__qualname__", .kind k =>
    .ok (.text (qualifiedName (if m.role = .special then home else k) m))
  | "__qualname__", _ =>
    .ok (.text (qualifiedName (if m.role = .special then home else owner.kindOf) m))
  | _, _ => m.part home name

/-- The part of a value that a property or a field of its kind leads to. -/
def Argument.part (argument : Argument) (name : String) : Except Error Argument :=
  if name = "__class__" then .ok (.kind argument.kindOf)
  else
    match argument with
    | .number n => numberPart n name
    | .truth b => numberPart b.toNat name
    | .kind k => k.part name
    | .applied k parameter => applicationPart k parameter name
    | .member home m => m.part home name
    | .operation owner home m => operationPart owner home m name
    | _ => .error .noAttribute

/-! ## Attributes -/

/-- What a member is, asked of a value of its kind (`__get__`). -/
def Argument.take (argument : Argument) (home : Kind) (m : Member) : Except Error Argument :=
  match m.role with
  | .special | .method => .ok (.operation argument home m)
  | .classMethod => .ok (.operation (.kind argument.kindOf) home m)
  | .constructor | .static => .ok (.operation (.kind home) home m)
  | .property | .field => argument.part m.name
  | .constant => .ok (.ofText m.description)

/-- What a member is, asked of the kind `k` that has it, from its own members or from those of
`home`. -/
def Kind.take (k home : Kind) (m : Member) : Argument :=
  match m.role with
  | .special | .method | .property | .field => .member home m
  | .classMethod => .operation (.kind k) home m
  | .constructor | .static => .operation (.kind home) home m
  | .constant => .ofText m.description

/-- The attribute of a kind (`type.__getattribute__`): a part of it, then a member of it, then a
member of the kind of the kinds. -/
def Kind.attribute (k : Kind) (name : String) : Except Error Argument :=
  match Kind.kind.member? name, k.member? name with
  | some (home, m), found =>
    if m.role = .property || m.role = .field then (Argument.kind k).part name
    else
      match found with
      | some (home, m) => .ok (k.take home m)
      | none => (Argument.kind k).take home m
  | none, some (home, m) => .ok (k.take home m)
  | none, none => .error .noAttribute

/-- The attributes that a kind with a parameter has of its own. -/
def applicationAttributes : List String := [
  "__class__", "__origin__", "__args__", "__unpacked__", "__parameters__",
  "__typing_unpacked_tuple_args__", "__mro_entries__", "__reduce_ex__", "__reduce__", "__copy__",
  "__deepcopy__"]

/-- The attribute of a value (`object.__getattribute__`): a member of its kind. -/
def Argument.ownAttribute (argument : Argument) (name : String) : Except Error Argument :=
  match argument.kindOf.member? name with
  | some (home, m) => argument.take home m
  | none => .error .noAttribute

/-- The attribute of a value (`getattr`). A kind with a parameter has most of its attributes from
the kind. -/
def Argument.attribute (argument : Argument) (name : String) : Except Error Argument :=
  match argument with
  | .kind k => k.attribute name
  | .applied k _ =>
    if applicationAttributes.contains name then argument.ownAttribute name else k.attribute name
  | _ => argument.ownAttribute name

/-! ## Subscripts -/

/-- A name read as an index: a number if it is all digits. -/
inductive Index
  | number (n : Nat)
  | word
  | tooLarge
  deriving DecidableEq, Repr

/-- The index that a name is. -/
def Index.ofName (name : Text) : Index :=
  if name = [] then .word
  else
    match readNumber 0 name with
    | (.number n, []) => .number n
    | (.number _, _ :: _) => .word
    | (.tooLarge, _) => .tooLarge

/-- The item of a list at an index. -/
def itemAt {α : Type} (items : List α) (i : Nat) : Except Error α :=
  match items[i]? with
  | some item => .ok item
  | none => .error .noSuchItem

/-- What a kind holds under the name of a member. -/
def Kind.held (k : Kind) (m : Member) : Argument :=
  match m.role with
  | .constructor => .operation (.kind k) k m
  | .constant => .ofText m.description
  | _ => .member k m

/-- The member of a kind by its name. -/
def Kind.item (k : Kind) (name : String) : Except Error Argument :=
  match k.ownMember? name with
  | some m => .ok (k.held m)
  | none => .error .unknownName

/-- The kind with a parameter (`__class_getitem__`), if it can have one. -/
def Kind.apply (k : Kind) (parameter : Item) : Except Error Argument :=
  if k.isGeneric then .ok (.applied k parameter) else .error .notSubscriptable

/-- The item of a value (`__getitem__`): a character of a text, an item of a sequence, a member by
its name. Some kinds take any name as their parameter. -/
def Argument.item (argument : Argument) (name : Text) : Except Error Argument :=
  match Index.ofName name, argument with
  | .tooLarge, _ => .error .malformed
  | .number i, .text s => (itemAt s i).map fun c => .text [c]
  | .number i, .sequence items => (itemAt items i).map Item.argument
  | .number _, .table _ | _, .dictionary => .error .unknownName
  | .word, .table k => k.item name.string
  | .number i, .kind k => k.apply (.number i)
  | .word, .kind k => k.apply (.text name)
  | _, _ => .error .notSubscriptable

/-! ## Texts -/

/-- The place of a value in memory (`id`). It is never the same twice, so that only its form is
kept. -/
def address : String := "0x7f0000000000"

/-- The text of a kind. -/
def Kind.plain (k : Kind) : List Char :=
  ("<class '" ++ k.fullName ++ "'>").toList

/-- The text of an item as a literal. -/
def Item.literal : Item → List Char
  | .kind k => k.plain
  | .text s => Text.quoted s
  | .number n => Number.decimal n

/-- The text of a sequence. One that has one item ends in a comma. -/
def sequenceText (items : List Item) : List Char :=
  let inside := match items with
    | [item] => item.literal ++ [',']
    | _ => [',', ' '].intercalate (items.map Item.literal)
  ['('] ++ inside ++ [')']

/-- The text of an operation of an owner. -/
def operationText (owner : Argument) (m : Member) : List Char :=
  let rest := " of " ++ owner.kindOf.fullName ++ " object at " ++ address ++ ">"
  (if m.role = .special then "<method-wrapper '" ++ m.name ++ "'" ++ rest
    else "<built-in method " ++ m.name ++ rest).toList

/-- What the text of a member calls it. -/
def Role.title : Role → String
  | .special => "slot wrapper"
  | .property => "attribute"
  | .field => "member"
  | .constructor | .method | .classMethod | .static | .constant => "method"

/-- The text of a member of a kind. -/
def Member.plain (m : Member) (home : Kind) : List Char :=
  if m.role = .static then
    "<staticmethod(".toList ++ operationText (.kind home) m ++ ")>".toList
  else ("<" ++ m.role.title ++ " '" ++ m.name ++ "' of '" ++ home.fullName ++ "' objects>").toList

/-- The text of what a kind holds under the name of a member. -/
def Member.heldText (m : Member) (k : Kind) : List Char :=
  match m.role with
  | .constructor => operationText (.kind k) m
  | .constant => if m.description = "" then "None".toList else Text.quoted m.description
  | _ => m.plain k

/-- The text of the members of a kind by name. -/
def tableText (k : Kind) : List Char :=
  let entries := k.members.map fun m =>
    Text.quoted m.name ++ [':', ' '] ++ m.heldText k
  "\x7b".toList ++ [',', ' '].intercalate entries ++ "\x7d".toList

/-- The text of a value as a literal (`repr`). -/
def Argument.literal : Argument → List Char
  | .text s => Text.quoted s
  | .number n => Number.decimal n
  | .truth b => (if b then "True" else "False").toList
  | .nothing => "None".toList
  | .kind k => k.plain
  | .applied k parameter => k.fullName.toList ++ ['['] ++ parameter.literal ++ [']']
  | .sequence items => sequenceText items
  | .table k => "mappingproxy(".toList ++ tableText k ++ [')']
  | .dictionary => "\x7b\x7d".toList
  | .member home m => m.plain home
  | .operation owner _ m => operationText owner m

/-- The plain text of a value (`str`): a text as it is, and most other values as literals. -/
def Argument.plain : Argument → Text
  | .text s => s
  | .table k => .ofChars (tableText k)
  | argument => .ofChars argument.literal

end ChapelServer.Template
