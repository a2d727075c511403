/-!
# Kinds of values and their members

A template can follow attributes into what its values are made of: from `stem`, a `str`, or
`pass_number`, an `int`, to their methods, their class, and what the class has in its `__dict__`.
This is the table of the classes that can be reached in this way. Every kind has the members listed
for it, in the order of its `__dict__` and each with its `__doc__` and `__text_signature__`, and
behind them those of the kinds that it extends.
-/

namespace ChapelServer.Template

/-- The kinds of what a field can lead to. -/
inductive Kind
  /-- The kind whose members all kinds share, `object`. -/
  | object
  /-- The kind of the kinds, `type`. -/
  | kind
  /-- `str`. -/
  | text
  /-- `int`. -/
  | number
  /-- `bool`. -/
  | truth
  /-- The kind of `None`. -/
  | nothing
  /-- `tuple`. -/
  | sequence
  /-- The members of a kind by name, `mappingproxy`. -/
  | table
  /-- Values by name, `dict`. -/
  | dictionary
  /-- The operations of a value, as in `stem.upper`. -/
  | operation
  /-- The operations of a value that stand behind the signs of the language, as in
  `stem.__add__`. -/
  | special
  /-- Operations, as members of a kind: `stem.__class__.upper`. -/
  | methodMember
  /-- Special operations, as members of a kind: `stem.__class__.__add__`. -/
  | specialMember
  /-- Operations of a kind as a whole, as its members: `from_bytes` in the `__dict__` of `int`. -/
  | classMember
  /-- Operations without an owner, as members of a kind: `maketrans` in the `__dict__` of `str`. -/
  | staticMember
  /-- Parts of a value that are worked out, as members of a kind: `pass_number.__class__.real`. -/
  | property
  /-- Parts of a value that are held, as members of a kind. -/
  | field
  /-- Kinds with a parameter, as in `stem.__class__.__mro__.__class__[x]`. -/
  | application
  deriving DecidableEq, Repr

/-- What a member of a kind is to the values of the kind. -/
inductive Role
  /-- The operation that makes the values of the kind that has the member, `__new__`. -/
  | constructor
  /-- A special operation of the value. -/
  | special
  /-- An operation of the value. -/
  | method
  /-- An operation of the value's kind (`classmethod`). -/
  | classMethod
  /-- An operation that goes with the kind, but has no owner (`staticmethod`). -/
  | static
  /-- A part that is worked out. -/
  | property
  /-- A part that is held. -/
  | field
  /-- A text, or nothing: the same for all values. It is `__doc__`, or an operation that the kind
  does not have. -/
  | constant
  deriving DecidableEq, Repr

/-- A member of a kind. For a constant, the description is its text. -/
structure Member where
  name : String
  role : Role
  /-- Its description (`__doc__`), empty if there is none. -/
  description : String := ""
  /-- The arguments that it takes (`__text_signature__`), empty if it does not say so. -/
  signature : String := ""
  deriving DecidableEq, Repr

/-- How the values of a kind are stored: `__basicsize__`, `__itemsize__`, `__flags__`,
`__dictoffset__` and `__weakrefoffset__`. -/
structure Storage where
  size : Nat
  itemSize : Nat
  flags : Nat
  tableOffset : Nat
  weakOffset : Nat
  deriving DecidableEq, Repr

/-- Members of one role, each with its description and its signature. -/
def membersOf (role : Role) (rows : List (String × String × String)) : List Member :=
  rows.map fun (name, description, signature) => { name, role, description, signature }

/-- Members of one role that are not described. -/
def plainMembers (role : Role) (names : List String) : List Member :=
  names.map fun name => { name, role }

/-- The operation that makes values (`__new__`), which is described in the same way in every kind.
-/
def makers : List Member :=
  membersOf .constructor [
    ("__new__", "Create and return a new object.  See help(type) for accurate signature.",
      "($type, *args, **kwargs)")]

/-- The special operations with their descriptions and signatures, which are the same in every
kind. -/
def specialOperations : List (String × String × String) := [
  ("__abs__", "abs(self)", "($self, /)"), ("__add__", "Return self+value.", "($self, value, /)"),
  ("__and__", "Return self&value.", "($self, value, /)"),
  ("__bool__", "True if self else False", "($self, /)"),
  ("__call__", "Call self as a function.", "($self, /, *args, **kwargs)"),
  ("__contains__", "Return key in self.", "($self, key, /)"),
  ("__delattr__", "Implement delattr(self, name).", "($self, name, /)"),
  ("__delete__", "Delete an attribute of instance.", "($self, instance, /)"),
  ("__delitem__", "Delete self[key].", "($self, key, /)"),
  ("__divmod__", "Return divmod(self, value).", "($self, value, /)"),
  ("__eq__", "Return self==value.", "($self, value, /)"),
  ("__float__", "float(self)", "($self, /)"),
  ("__floordiv__", "Return self//value.", "($self, value, /)"),
  ("__ge__", "Return self>=value.", "($self, value, /)"),
  ("__get__", "Return an attribute of instance, which is of type owner.",
    "($self, instance, owner=None, /)"),
  ("__getattribute__", "Return getattr(self, name).", "($self, name, /)"),
  ("__getitem__", "Return self[key].", "($self, key, /)"),
  ("__gt__", "Return self>value.", "($self, value, /)"),
  ("__hash__", "Return hash(self).", "($self, /)"),
  ("__index__", "Return self converted to an integer, if self is suitable for use as an index " ++
    "into a list.", "($self, /)"),
  ("__init__", "Initialize self.  See help(type(self)) for accurate signature.",
    "($self, /, *args, **kwargs)"),
  ("__int__", "int(self)", "($self, /)"), ("__invert__", "~self", "($self, /)"),
  ("__ior__", "Return self|=value.", "($self, value, /)"),
  ("__iter__", "Implement iter(self).", "($self, /)"),
  ("__le__", "Return self<=value.", "($self, value, /)"),
  ("__len__", "Return len(self).", "($self, /)"),
  ("__lshift__", "Return self<<value.", "($self, value, /)"),
  ("__lt__", "Return self<value.", "($self, value, /)"),
  ("__mod__", "Return self%value.", "($self, value, /)"),
  ("__mul__", "Return self*value.", "($self, value, /)"),
  ("__ne__", "Return self!=value.", "($self, value, /)"), ("__neg__", "-self", "($self, /)"),
  ("__or__", "Return self|value.", "($self, value, /)"), ("__pos__", "+self", "($self, /)"),
  ("__pow__", "Return pow(self, value, mod).", "($self, value, mod=None, /)"),
  ("__radd__", "Return value+self.", "($self, value, /)"),
  ("__rand__", "Return value&self.", "($self, value, /)"),
  ("__rdivmod__", "Return divmod(value, self).", "($self, value, /)"),
  ("__repr__", "Return repr(self).", "($self, /)"),
  ("__rfloordiv__", "Return value//self.", "($self, value, /)"),
  ("__rlshift__", "Return value<<self.", "($self, value, /)"),
  ("__rmod__", "Return value%self.", "($self, value, /)"),
  ("__rmul__", "Return value*self.", "($self, value, /)"),
  ("__ror__", "Return value|self.", "($self, value, /)"),
  ("__rpow__", "Return pow(value, self, mod).", "($self, value, mod=None, /)"),
  ("__rrshift__", "Return value>>self.", "($self, value, /)"),
  ("__rshift__", "Return self>>value.", "($self, value, /)"),
  ("__rsub__", "Return value-self.", "($self, value, /)"),
  ("__rtruediv__", "Return value/self.", "($self, value, /)"),
  ("__rxor__", "Return value^self.", "($self, value, /)"),
  ("__set__", "Set an attribute of instance to value.", "($self, instance, value, /)"),
  ("__setattr__", "Implement setattr(self, name, value).", "($self, name, value, /)"),
  ("__setitem__", "Set self[key] to value.", "($self, key, value, /)"),
  ("__str__", "Return str(self).", "($self, /)"),
  ("__sub__", "Return self-value.", "($self, value, /)"),
  ("__truediv__", "Return self/value.", "($self, value, /)"),
  ("__xor__", "Return self^value.", "($self, value, /)")]

/-- The special operations of these names. -/
def specials (names : List String) : List Member :=
  names.filterMap fun name =>
    (specialOperations.lookup name).map fun (description, signature) =>
      { name, role := .special, description, signature }

/-- The members that a kind has of its own (`__dict__`). -/
def Kind.members : Kind → List Member
  | .object =>
    makers ++
    specials ["__repr__", "__hash__", "__str__", "__getattribute__", "__setattr__",
      "__delattr__", "__lt__", "__le__", "__eq__", "__ne__", "__gt__", "__ge__", "__init__"] ++
    membersOf .method [
      ("__reduce_ex__", "Helper for pickle.", "($self, protocol, /)"),
      ("__reduce__", "Helper for pickle.", "($self, /)"),
      ("__getstate__", "Helper for pickle.", "($self, /)")] ++
    membersOf .classMethod [
      ("__subclasshook__", "Abstract classes can override this to customize issubclass().\n\n" ++
        "This is invoked early on by abc.ABCMeta.__subclasscheck__().\nIt should return True, " ++
        "False or NotImplemented.  If it returns\nNotImplemented, the normal algorithm is " ++
        "used.  Otherwise, it\noverrides the normal algorithm (and the outcome is cached).\n", ""),
      ("__init_subclass__", "This method is called when a class is subclassed.\n\nThe default " ++
        "implementation does nothing. It may be\noverridden to extend subclasses.\n", "")] ++
    membersOf .method [
      ("__format__", "Default object formatter.", "($self, format_spec, /)"),
      ("__sizeof__", "Size of object in memory, in bytes.", "($self, /)"),
      ("__dir__", "Default dir() implementation.", "($self, /)")] ++
    membersOf .property [
      ("__class__", "the object's class", "")] ++
    membersOf .constant [
      ("__doc__", "The base class of the class hierarchy.\n\nWhen called, it accepts no " ++
        "arguments and returns a new featureless\ninstance that has no instance attributes and " ++
        "cannot be given any.\n", "")]
  | .kind =>
    makers ++
    specials ["__repr__", "__call__", "__getattribute__", "__setattr__", "__delattr__",
      "__init__", "__or__", "__ror__"] ++
    membersOf .method [
      ("mro", "Return a type's method resolution order.", "($self, /)"),
      ("__subclasses__", "Return a list of immediate subclasses.", "($self, /)")] ++
    membersOf .classMethod [
      ("__prepare__", "__prepare__() -> dict\nused to create the namespace for the class statement",
        "")] ++
    membersOf .method [
      ("__instancecheck__", "Check if an object is an instance.", "($self, instance, /)"),
      ("__subclasscheck__", "Check if a class is a subclass.", "($self, subclass, /)"),
      ("__dir__", "Specialized __dir__ implementation for types.", "($self, /)"),
      ("__sizeof__", "Return memory consumption of the type object.", "($self, /)")] ++
    plainMembers .field ["__basicsize__", "__itemsize__", "__flags__", "__weakrefoffset__",
      "__base__", "__dictoffset__", "__mro__"] ++
    plainMembers .property ["__name__", "__qualname__", "__bases__", "__module__",
      "__abstractmethods__", "__dict__", "__doc__", "__text_signature__", "__annotations__"]
  | .text =>
    makers ++
    specials ["__repr__", "__hash__", "__str__", "__getattribute__", "__lt__", "__le__",
      "__eq__", "__ne__", "__gt__", "__ge__", "__iter__", "__mod__", "__rmod__", "__len__",
      "__getitem__", "__add__", "__mul__", "__rmul__", "__contains__"] ++
    membersOf .method [
      ("encode", "Encode the string using the codec registered for encoding.\n\n  encoding\n    " ++
        "The encoding in which to encode the string.\n  errors\n    The error handling scheme " ++
        "to use for encoding errors.\n    The default is 'strict' meaning that encoding errors " ++
        "raise a\n    UnicodeEncodeError.  Other possible values are 'ignore', 'replace' " ++
        "and\n    'xmlcharrefreplace' as well as any other name registered with\n    " ++
        "codecs.register_error that can handle UnicodeEncodeErrors.",
        "($self, /, encoding='utf-8', errors='strict')"),
      ("replace", "Return a copy with all occurrences of substring old replaced by new.\n\n  " ++
        "count\n    Maximum number of occurrences to replace.\n    -1 (the default value) means " ++
        "replace all occurrences.\n\nIf the optional argument count is given, only the first " ++
        "count occurrences are\nreplaced.", "($self, old, new, count=-1, /)"),
      ("split", "Return a list of the substrings in the string, using sep as the separator " ++
        "string.\n\n  sep\n    The separator used to split the string.\n\n    When set to None " ++
        "(the default value), will split on any whitespace\n    character (including \\n \\r " ++
        "\\t \\f and spaces) and will discard\n    empty strings from the result.\n  " ++
        "maxsplit\n    Maximum number of splits.\n    -1 (the default value) means no limit.\n\n" ++
        "Splitting starts at the front of the string and works to the end.\n\nNote, str.split() " ++
        "is mainly useful for data that has been intentionally\ndelimited.  With natural text " ++
        "that includes punctuation, consider using\nthe regular expression module.",
        "($self, /, sep=None, maxsplit=-1)"),
      ("rsplit", "Return a list of the substrings in the string, using sep as the separator " ++
        "string.\n\n  sep\n    The separator used to split the string.\n\n    When set to None " ++
        "(the default value), will split on any whitespace\n    character (including \\n \\r " ++
        "\\t \\f and spaces) and will discard\n    empty strings from the result.\n  " ++
        "maxsplit\n    Maximum number of splits.\n    -1 (the default value) means no limit.\n\n" ++
        "Splitting starts at the end of the string and works to the front.",
        "($self, /, sep=None, maxsplit=-1)"),
      ("join", "Concatenate any number of strings.\n\nThe string whose method is called is " ++
        "inserted in between each given string.\nThe result is returned as a new string.\n\n" ++
        "Example: '.'.join(['ab', 'pq', 'rs']) -> 'ab.pq.rs'", "($self, iterable, /)"),
      ("capitalize", "Return a capitalized version of the string.\n\nMore specifically, make " ++
        "the first character have upper case and the rest lower\ncase.", "($self, /)"),
      ("casefold", "Return a version of the string suitable for caseless comparisons.",
        "($self, /)"),
      ("title", "Return a version of the string where each word is titlecased.\n\nMore " ++
        "specifically, words start with uppercased characters and all remaining\ncased " ++
        "characters have lower case.", "($self, /)"),
      ("center", "Return a centered string of length width.\n\nPadding is done using the " ++
        "specified fill character (default is a space).", "($self, width, fillchar=' ', /)"),
      ("count", "S.count(sub[, start[, end]]) -> int\n\nReturn the number of non-overlapping " ++
        "occurrences of substring sub in\nstring S[start:end].  Optional arguments start and " ++
        "end are\ninterpreted as in slice notation.", ""),
      ("expandtabs", "Return a copy where all tab characters are expanded using spaces.\n\nIf " ++
        "tabsize is not given, a tab size of 8 characters is assumed.", "($self, /, tabsize=8)"),
      ("find", "S.find(sub[, start[, end]]) -> int\n\nReturn the lowest index in S where " ++
        "substring sub is found,\nsuch that sub is contained within S[start:end].  Optional\n" ++
        "arguments start and end are interpreted as in slice notation.\n\nReturn -1 on failure.",
        ""),
      ("partition", "Partition the string into three parts using the given separator.\n\nThis " ++
        "will search for the separator in the string.  If the separator is found,\nreturns a " ++
        "3-tuple containing the part before the separator, the separator\nitself, and the part " ++
        "after it.\n\nIf the separator is not found, returns a 3-tuple containing the original " ++
        "string\nand two empty strings.", "($self, sep, /)"),
      ("index", "S.index(sub[, start[, end]]) -> int\n\nReturn the lowest index in S where " ++
        "substring sub is found,\nsuch that sub is contained within S[start:end].  Optional\n" ++
        "arguments start and end are interpreted as in slice notation.\n\nRaises ValueError " ++
        "when the substring is not found.", ""),
      ("ljust", "Return a left-justified string of length width.\n\nPadding is done using the " ++
        "specified fill character (default is a space).", "($self, width, fillchar=' ', /)"),
      ("lower", "Return a copy of the string converted to lowercase.", "($self, /)"),
      ("lstrip", "Return a copy of the string with leading whitespace removed.\n\nIf chars is " ++
        "given and not None, remove characters in chars instead.", "($self, chars=None, /)"),
      ("rfind", "S.rfind(sub[, start[, end]]) -> int\n\nReturn the highest index in S where " ++
        "substring sub is found,\nsuch that sub is contained within S[start:end].  Optional\n" ++
        "arguments start and end are interpreted as in slice notation.\n\nReturn -1 on failure.",
        ""),
      ("rindex", "S.rindex(sub[, start[, end]]) -> int\n\nReturn the highest index in S where " ++
        "substring sub is found,\nsuch that sub is contained within S[start:end].  Optional\n" ++
        "arguments start and end are interpreted as in slice notation.\n\nRaises ValueError " ++
        "when the substring is not found.", ""),
      ("rjust", "Return a right-justified string of length width.\n\nPadding is done using the " ++
        "specified fill character (default is a space).", "($self, width, fillchar=' ', /)"),
      ("rstrip", "Return a copy of the string with trailing whitespace removed.\n\nIf chars is " ++
        "given and not None, remove characters in chars instead.", "($self, chars=None, /)"),
      ("rpartition", "Partition the string into three parts using the given separator.\n\nThis " ++
        "will search for the separator in the string, starting at the end. If\nthe separator is " ++
        "found, returns a 3-tuple containing the part before the\nseparator, the separator " ++
        "itself, and the part after it.\n\nIf the separator is not found, returns a 3-tuple " ++
        "containing two empty strings\nand the original string.", "($self, sep, /)"),
      ("splitlines", "Return a list of the lines in the string, breaking at line boundaries.\n\n" ++
        "Line breaks are not included in the resulting list unless keepends is given and\ntrue.",
        "($self, /, keepends=False)"),
      ("strip", "Return a copy of the string with leading and trailing whitespace removed.\n\n" ++
        "If chars is given and not None, remove characters in chars instead.",
        "($self, chars=None, /)"),
      ("swapcase", "Convert uppercase characters to lowercase and lowercase characters to " ++
        "uppercase.", "($self, /)"),
      ("translate", "Replace each character in the string using the given translation " ++
        "table.\n\n  table\n    Translation table, which must be a mapping of Unicode ordinals " ++
        "to\n    Unicode ordinals, strings, or None.\n\nThe table must implement " ++
        "lookup/indexing via __getitem__, for instance a\ndictionary or list.  If this " ++
        "operation raises LookupError, the character is\nleft untouched.  Characters mapped to " ++
        "None are deleted.", "($self, table, /)"),
      ("upper", "Return a copy of the string converted to uppercase.", "($self, /)"),
      ("startswith", "S.startswith(prefix[, start[, end]]) -> bool\n\nReturn True if S starts " ++
        "with the specified prefix, False otherwise.\nWith optional start, test S beginning at " ++
        "that position.\nWith optional end, stop comparing S at that position.\nprefix can also " ++
        "be a tuple of strings to try.", ""),
      ("endswith", "S.endswith(suffix[, start[, end]]) -> bool\n\nReturn True if S ends with " ++
        "the specified suffix, False otherwise.\nWith optional start, test S beginning at that " ++
        "position.\nWith optional end, stop comparing S at that position.\nsuffix can also be a " ++
        "tuple of strings to try.", ""),
      ("removeprefix", "Return a str with the given prefix string removed if present.\n\nIf the " ++
        "string starts with the prefix string, return string[len(prefix):].\nOtherwise, return " ++
        "a copy of the original string.", "($self, prefix, /)"),
      ("removesuffix", "Return a str with the given suffix string removed if present.\n\nIf the " ++
        "string ends with the suffix string and that suffix is not empty,\nreturn " ++
        "string[:-len(suffix)]. Otherwise, return a copy of the original\nstring.",
        "($self, suffix, /)"),
      ("isascii", "Return True if all characters in the string are ASCII, False otherwise.\n\n" ++
        "ASCII characters have code points in the range U+0000-U+007F.\nEmpty string is ASCII " ++
        "too.", "($self, /)"),
      ("islower", "Return True if the string is a lowercase string, False otherwise.\n\nA " ++
        "string is lowercase if all cased characters in the string are lowercase and\nthere is " ++
        "at least one cased character in the string.", "($self, /)"),
      ("isupper", "Return True if the string is an uppercase string, False otherwise.\n\nA " ++
        "string is uppercase if all cased characters in the string are uppercase and\nthere is " ++
        "at least one cased character in the string.", "($self, /)"),
      ("istitle", "Return True if the string is a title-cased string, False otherwise.\n\nIn a " ++
        "title-cased string, upper- and title-case characters may only\nfollow uncased " ++
        "characters and lowercase characters only cased ones.", "($self, /)"),
      ("isspace", "Return True if the string is a whitespace string, False otherwise.\n\nA " ++
        "string is whitespace if all characters in the string are whitespace and there\nis at " ++
        "least one character in the string.", "($self, /)"),
      ("isdecimal", "Return True if the string is a decimal string, False otherwise.\n\nA " ++
        "string is a decimal string if all characters in the string are decimal and\nthere is " ++
        "at least one character in the string.", "($self, /)"),
      ("isdigit", "Return True if the string is a digit string, False otherwise.\n\nA string is " ++
        "a digit string if all characters in the string are digits and there\nis at least one " ++
        "character in the string.", "($self, /)"),
      ("isnumeric", "Return True if the string is a numeric string, False otherwise.\n\nA " ++
        "string is numeric if all characters in the string are numeric and there is at\nleast " ++
        "one character in the string.", "($self, /)"),
      ("isalpha", "Return True if the string is an alphabetic string, False otherwise.\n\nA " ++
        "string is alphabetic if all characters in the string are alphabetic and there\nis at " ++
        "least one character in the string.", "($self, /)"),
      ("isalnum", "Return True if the string is an alpha-numeric string, False otherwise.\n\nA " ++
        "string is alpha-numeric if all characters in the string are alpha-numeric and\nthere " ++
        "is at least one character in the string.", "($self, /)"),
      ("isidentifier", "Return True if the string is a valid P\x79thon identifier, False " ++
        "otherwise.\n\nCall keyword.iskeyword(s) to test whether string s is a reserved " ++
        "identifier,\nsuch as \"def\" or \"class\".", "($self, /)"),
      ("isprintable", "Return True if the string is printable, False otherwise.\n\nA string is " ++
        "printable if all of its characters are considered printable in\nrepr() or if it is " ++
        "empty.", "($self, /)"),
      ("zfill", "Pad a numeric string with zeros on the left, to fill a field of the given " ++
        "width.\n\nThe string is never truncated.", "($self, width, /)"),
      ("format", "S.format(*args, **kwargs) -> str\n\nReturn a formatted version of S, using " ++
        "substitutions from args and kwargs.\nThe substitutions are identified by braces " ++
        "('\x7b' and '\x7d').", ""),
      ("format_map", "S.format_map(mapping) -> str\n\nReturn a formatted version of S, using " ++
        "substitutions from mapping.\nThe substitutions are identified by braces ('\x7b' and " ++
        "'\x7d').", ""),
      ("__format__", "Return a formatted version of the string as described by format_spec.",
        "($self, format_spec, /)")] ++
    membersOf .static [
      ("maketrans", "Return a translation table usable for str.translate().\n\nIf there is only " ++
        "one argument, it must be a dictionary mapping Unicode\nordinals (integers) or " ++
        "characters to Unicode ordinals, strings or None.\nCharacter keys will be then " ++
        "converted to ordinals.\nIf there are two arguments, they must be strings of equal " ++
        "length, and\nin the resulting dictionary, each character in x will be mapped to the\n" ++
        "character at the same position in y. If there is a third argument, it\nmust be a " ++
        "string, whose characters will be mapped to None in the result.",
        "(x, y=<unrepresentable>, z=<unrepresentable>, /)")] ++
    membersOf .method [
      ("__sizeof__", "Return the size of the string in memory, in bytes.", "($self, /)"),
      ("__getnewargs__", "", "")] ++
    membersOf .constant [
      ("__doc__", "str(object='') -> str\nstr(bytes_or_buffer[, encoding[, errors]]) -> str\n\n" ++
        "Create a new string object from the given object. If encoding or\nerrors is specified, " ++
        "then the object must expose a data buffer\nthat will be decoded using the given " ++
        "encoding and error handler.\nOtherwise, returns the result of object.__str__() (if " ++
        "defined)\nor repr(object).\nencoding defaults to sys.getdefaultencoding().\nerrors " ++
        "defaults to 'strict'.", "")]
  | .number =>
    makers ++
    specials ["__repr__", "__hash__", "__getattribute__", "__lt__", "__le__", "__eq__",
      "__ne__", "__gt__", "__ge__", "__add__", "__radd__", "__sub__", "__rsub__", "__mul__",
      "__rmul__", "__mod__", "__rmod__", "__divmod__", "__rdivmod__", "__pow__", "__rpow__",
      "__neg__", "__pos__", "__abs__", "__bool__", "__invert__", "__lshift__", "__rlshift__",
      "__rshift__", "__rrshift__", "__and__", "__rand__", "__xor__", "__rxor__", "__or__",
      "__ror__", "__int__", "__float__", "__floordiv__", "__rfloordiv__", "__truediv__",
      "__rtruediv__", "__index__"] ++
    membersOf .method [
      ("conjugate", "Returns self, the complex conjugate of any int.", ""),
      ("bit_length", "Number of bits necessary to represent self in binary.\n\n>>> bin(37)\n" ++
        "'0b100101'\n>>> (37).bit_length()\n6", "($self, /)"),
      ("bit_count", "Number of ones in the binary representation of the absolute value of " ++
        "self.\n\nAlso known as the population count.\n\n>>> bin(13)\n'0b1101'\n>>> " ++
        "(13).bit_count()\n3", "($self, /)"),
      ("to_bytes", "Return an array of bytes representing an integer.\n\n  length\n    Length " ++
        "of bytes object to use.  An OverflowError is raised if the\n    integer is not " ++
        "representable with the given number of bytes.  Default\n    is length 1.\n  " ++
        "byteorder\n    The byte order used to represent the integer.  If byteorder is " ++
        "'big',\n    the most significant byte is at the beginning of the byte array.  If\n    " ++
        "byteorder is 'little', the most significant byte is at the end of the\n    byte " ++
        "array.  To request the native byte order of the host system, use\n    `sys.byteorder' " ++
        "as the byte order value.  Default is to use 'big'.\n  signed\n    Determines whether " ++
        "two's complement is used to represent the integer.\n    If signed is False and a " ++
        "negative integer is given, an OverflowError\n    is raised.",
        "($self, /, length=1, byteorder='big', *, signed=False)")] ++
    membersOf .classMethod [
      ("from_bytes", "Return the integer represented by the given array of bytes.\n\n  " ++
        "bytes\n    Holds the array of bytes to convert.  The argument must either\n    support " ++
        "the buffer protocol or be an iterable object producing bytes.\n    Bytes and bytearray " ++
        "are examples of built-in objects that support the\n    buffer protocol.\n  " ++
        "byteorder\n    The byte order used to represent the integer.  If byteorder is " ++
        "'big',\n    the most significant byte is at the beginning of the byte array.  If\n    " ++
        "byteorder is 'little', the most significant byte is at the end of the\n    byte " ++
        "array.  To request the native byte order of the host system, use\n    `sys.byteorder' " ++
        "as the byte order value.  Default is to use 'big'.\n  signed\n    Indicates whether " ++
        "two's complement is used to represent the integer.",
        "($type, /, bytes, byteorder='big', *, signed=False)")] ++
    membersOf .method [
      ("as_integer_ratio", "Return integer ratio.\n\nReturn a pair of integers, whose ratio is " ++
        "exactly equal to the original int\nand with a positive denominator.\n\n>>> " ++
        "(10).as_integer_ratio()\n(10, 1)\n>>> (-10).as_integer_ratio()\n(-10, 1)\n>>> " ++
        "(0).as_integer_ratio()\n(0, 1)", "($self, /)"),
      ("__trunc__", "Truncating an Integral returns itself.", ""),
      ("__floor__", "Flooring an Integral returns itself.", ""),
      ("__ceil__", "Ceiling of an Integral returns itself.", ""),
      ("__round__", "Rounding an Integral returns itself.\n\nRounding with an ndigits argument " ++
        "also returns an integer.", "($self, ndigits=<unrepresentable>, /)"),
      ("__getnewargs__", "", "($self, /)"), ("__format__", "", "($self, format_spec, /)"),
      ("__sizeof__", "Returns size in memory, in bytes.", "($self, /)")] ++
    membersOf .property [
      ("real", "the real part of a complex number", ""),
      ("imag", "the imaginary part of a complex number", ""),
      ("numerator", "the numerator of a rational number in lowest terms", ""),
      ("denominator", "the denominator of a rational number in lowest terms", "")] ++
    membersOf .constant [
      ("__doc__", "int([x]) -> integer\nint(x, base=10) -> integer\n\nConvert a number or " ++
        "string to an integer, or return 0 if no arguments\nare given.  If x is a number, " ++
        "return x.__int__().  For floating point\nnumbers, this truncates towards zero.\n\nIf x " ++
        "is not a number or if base is given, then x must be a string,\nbytes, or bytearray " ++
        "instance representing an integer literal in the\ngiven base.  The literal can be " ++
        "preceded by '+' or '-' and be surrounded\nby whitespace.  The base defaults to 10.  " ++
        "Valid bases are 0 and 2-36.\nBase 0 means to interpret the base from the string as an " ++
        "integer literal.\n>>> int('0b100', base=0)\n4", "")]
  | .truth =>
    makers ++
    specials ["__repr__", "__and__", "__rand__", "__xor__", "__rxor__", "__or__", "__ror__"] ++
    membersOf .constant [
      ("__doc__", "bool(x) -> bool\n\nReturns True when the argument x is true, False " ++
        "otherwise.\nThe builtins True and False are the only two instances of the class bool.\n" ++
        "The class bool is a subclass of the class int, and cannot be subclassed.", "")]
  | .nothing =>
    makers ++
    specials ["__repr__", "__bool__"] ++
    plainMembers .constant ["__doc__"]
  | .sequence =>
    makers ++
    specials ["__repr__", "__hash__", "__getattribute__", "__lt__", "__le__", "__eq__",
      "__ne__", "__gt__", "__ge__", "__iter__", "__len__", "__getitem__", "__add__", "__mul__",
      "__rmul__", "__contains__"] ++
    membersOf .method [
      ("__getnewargs__", "", "($self, /)"),
      ("index", "Return first index of value.\n\nRaises ValueError if the value is not present.",
        "($self, value, start=0, stop=sys.maxsize, /)"),
      ("count", "Return number of occurrences of value.", "($self, value, /)")] ++
    membersOf .classMethod [
      ("__class_getitem__", "See PEP 585", "")] ++
    membersOf .constant [
      ("__doc__", "Built-in immutable sequence.\n\nIf no argument is given, the constructor " ++
        "returns an empty tuple.\nIf iterable is specified the tuple is initialized from " ++
        "iterable's items.\n\nIf the argument is a tuple, the return value is the same object.",
        "")]
  | .table =>
    makers ++
    specials ["__repr__", "__str__", "__getattribute__", "__lt__", "__le__", "__eq__", "__ne__",
      "__gt__", "__ge__", "__iter__", "__or__", "__ror__", "__ior__", "__len__", "__getitem__",
      "__contains__"] ++
    membersOf .method [
      ("get", "D.get(k[,d]) -> D[k] if k in D, else d.  d defaults to None.", ""),
      ("keys", "D.keys() -> a set-like object providing a view on D's keys", ""),
      ("values", "D.values() -> an object providing a view on D's values", ""),
      ("items", "D.items() -> a set-like object providing a view on D's items", ""),
      ("copy", "D.copy() -> a shallow copy of D", "")] ++
    membersOf .classMethod [
      ("__class_getitem__", "See PEP 585", "")] ++
    membersOf .method [
      ("__reversed__", "D.__reversed__() -> reverse iterator", "")] ++
    plainMembers .constant ["__doc__", "__hash__"]
  | .dictionary =>
    makers ++
    specials ["__repr__"] ++
    plainMembers .constant ["__hash__"] ++
    specials ["__getattribute__", "__lt__", "__le__", "__eq__", "__ne__", "__gt__", "__ge__",
      "__iter__", "__init__", "__or__", "__ror__", "__ior__", "__len__"] ++
    membersOf .method [
      ("__getitem__", "x.__getitem__(y) <==> x[y]", "")] ++
    specials ["__setitem__", "__delitem__"] ++
    membersOf .method [
      ("__contains__", "True if the dictionary has the specified key, else False.",
        "($self, key, /)"),
      ("__sizeof__", "D.__sizeof__() -> size of D in memory, in bytes", ""),
      ("get", "Return the value for key if key is in the dictionary, else default.",
        "($self, key, default=None, /)"),
      ("setdefault", "Insert key with a value of default if key is not in the dictionary.\n\n" ++
        "Return the value for key if key is in the dictionary, else default.",
        "($self, key, default=None, /)"),
      ("pop", "D.pop(k[,d]) -> v, remove specified key and return the corresponding value.\n\n" ++
        "If the key is not found, return the default if given; otherwise,\nraise a KeyError.",
        "($self, key, default=<unrepresentable>, /)"),
      ("popitem", "Remove and return a (key, value) pair as a 2-tuple.\n\nPairs are returned in " ++
        "LIFO (last-in, first-out) order.\nRaises KeyError if the dict is empty.", "($self, /)"),
      ("keys", "D.keys() -> a set-like object providing a view on D's keys", ""),
      ("items", "D.items() -> a set-like object providing a view on D's items", ""),
      ("values", "D.values() -> an object providing a view on D's values", ""),
      ("update", "D.update([E, ]**F) -> None.  Update D from dict/iterable E and F.\nIf E is " ++
        "present and has a .keys() method, then does:  for k in E: D[k] = E[k]\nIf E is present " ++
        "and lacks a .keys() method, then does:  for k, v in E: D[k] = v\nIn either case, this " ++
        "is followed by: for k in F:  D[k] = F[k]", "")] ++
    membersOf .classMethod [
      ("fromkeys", "Create a new dictionary with keys from iterable and values set to value.",
        "($type, iterable, value=None, /)")] ++
    membersOf .method [
      ("clear", "D.clear() -> None.  Remove all items from D.", ""),
      ("copy", "D.copy() -> a shallow copy of D", ""),
      ("__reversed__", "Return a reverse iterator over the dict keys.", "($self, /)")] ++
    membersOf .classMethod [
      ("__class_getitem__", "See PEP 585", "")] ++
    membersOf .constant [
      ("__doc__", "dict() -> new empty dictionary\ndict(mapping) -> new dictionary initialized " ++
        "from a mapping object's\n    (key, value) pairs\ndict(iterable) -> new dictionary " ++
        "initialized as if via:\n    d = \x7b\x7d\n    for k, v in iterable:\n        d[k] = v\n" ++
        "dict(**kwargs) -> new dictionary initialized with the name=value pairs\n    in the " ++
        "keyword argument list.  For example:  dict(one=1, two=2)", "")]
  | .operation =>
    specials ["__repr__", "__hash__", "__call__", "__getattribute__", "__lt__", "__le__",
      "__eq__", "__ne__", "__gt__", "__ge__"] ++
    plainMembers .method ["__reduce__"] ++
    plainMembers .field ["__module__"] ++
    plainMembers .property ["__doc__", "__name__", "__qualname__", "__self__",
      "__text_signature__"]
  | .special =>
    specials ["__repr__", "__hash__", "__call__", "__getattribute__", "__lt__", "__le__",
      "__eq__", "__ne__", "__gt__", "__ge__"] ++
    plainMembers .method ["__reduce__"] ++
    plainMembers .field ["__self__"] ++
    plainMembers .property ["__objclass__", "__name__", "__qualname__", "__doc__",
      "__text_signature__"]
  | .methodMember =>
    specials ["__repr__", "__call__", "__getattribute__", "__get__"] ++
    plainMembers .method ["__reduce__"] ++
    plainMembers .field ["__objclass__", "__name__"] ++
    plainMembers .property ["__doc__", "__qualname__", "__text_signature__"]
  | .specialMember =>
    specials ["__repr__", "__call__", "__getattribute__", "__get__"] ++
    plainMembers .method ["__reduce__"] ++
    plainMembers .field ["__objclass__", "__name__"] ++
    plainMembers .property ["__doc__", "__qualname__", "__text_signature__"]
  | .classMember =>
    specials ["__repr__", "__call__", "__getattribute__", "__get__"] ++
    plainMembers .field ["__objclass__", "__name__"] ++
    plainMembers .property ["__doc__", "__qualname__", "__text_signature__"]
  | .staticMember =>
    makers ++
    specials ["__repr__", "__call__", "__get__", "__init__"] ++
    plainMembers .field ["__func__", "__wrapped__"] ++
    plainMembers .property ["__isabstractmethod__", "__dict__"] ++
    membersOf .constant [
      ("__doc__", "staticmethod(function) -> method\n\nConvert a function to be a static " ++
        "method.\n\nA static method does not receive an implicit first argument.\nTo declare a " ++
        "static method, use this idiom:\n\n     class C:\n         @staticmethod\n         def " ++
        "f(arg1, arg2, argN):\n             ...\n\nIt can be called either on the class (e.g. " ++
        "C.f()) or on an instance\n(e.g. C().f()). Both the class and the instance are ignored, " ++
        "and\nneither is passed implicitly as the first argument to the method.\n\nStatic " ++
        "methods in P\x79thon are similar to those found in Java or C++.\nFor a more advanced " ++
        "concept, see the classmethod builtin.", "")]
  | .property =>
    specials ["__repr__", "__getattribute__", "__get__", "__set__", "__delete__"] ++
    plainMembers .field ["__objclass__", "__name__"] ++
    plainMembers .property ["__doc__", "__qualname__"]
  | .field =>
    specials ["__repr__", "__getattribute__", "__get__", "__set__", "__delete__"] ++
    plainMembers .method ["__reduce__"] ++
    plainMembers .field ["__objclass__", "__name__"] ++
    plainMembers .property ["__doc__", "__qualname__"]
  | .application =>
    makers ++
    specials ["__repr__", "__hash__", "__call__", "__getattribute__", "__lt__", "__le__",
      "__eq__", "__ne__", "__gt__", "__ge__", "__iter__", "__or__", "__ror__", "__getitem__"] ++
    plainMembers .method ["__mro_entries__", "__instancecheck__", "__subclasscheck__",
      "__reduce__", "__dir__"] ++
    plainMembers .field ["__origin__", "__args__", "__unpacked__"] ++
    membersOf .property [
      ("__parameters__", "Type variables in the GenericAlias.", ""),
      ("__typing_unpacked_tuple_args__", "", "")] ++
    membersOf .constant [
      ("__doc__", "Represent a PEP 585 generic type\n\nE.g. for t = list[int], t.__origin__ is " ++
        "list and t.__args__ is (int,).", "")]

/-- The member of a name that a kind has of its own. -/
def Kind.ownMember? (k : Kind) (name : String) : Option Member :=
  k.members.find? fun m => m.name = name

/-- The kinds that a kind extends, the nearest first (`__mro__`). -/
def Kind.ancestors : Kind → List Kind
  | .object => []
  | .truth => [.number, .object]
  | _ => [.object]

/-- The member of a name, with the kind that it comes from: the first that has it. -/
def Kind.member? (k : Kind) (name : String) : Option (Kind × Member) :=
  (k :: k.ancestors).findSome? fun home => (home.ownMember? name).map fun m => (home, m)

/-- The name of a kind (`__name__`). -/
def Kind.name : Kind → String
  | .object => "object"
  | .kind => "type"
  | .text => "str"
  | .number => "int"
  | .truth => "bool"
  | .nothing => "NoneType"
  | .sequence => "tuple"
  | .table => "mappingproxy"
  | .dictionary => "dict"
  | .operation => "builtin_function_or_method"
  | .special => "method-wrapper"
  | .methodMember => "method_descriptor"
  | .specialMember => "wrapper_descriptor"
  | .classMember => "classmethod_descriptor"
  | .staticMember => "staticmethod"
  | .property => "getset_descriptor"
  | .field => "member_descriptor"
  | .application => "GenericAlias"

/-- The module that a kind is defined in (`__module__`). -/
def Kind.module : Kind → String
  | .application => "types"
  | _ => "builtins"

/-- The name of a kind with that of its module, unless that is the usual one. -/
def Kind.fullName (k : Kind) : String :=
  if k.module = "builtins" then k.name else k.module ++ "." ++ k.name

/-- How the values of a kind are stored. -/
def Kind.storage : Kind → Storage
  | .object => ⟨16, 0, 529664, 0, 0⟩
  | .kind => ⟨904, 40, 2148031744, 264, 368⟩
  | .text => ⟨80, 0, 273159424, 0, 0⟩
  | .number => ⟨24, 4, 21501184, 0, 0⟩
  | .truth => ⟨32, 4, 21500160, 0, 0⟩
  | .nothing => ⟨16, 0, 528640, 0, 0⟩
  | .sequence => ⟨24, 8, 71849248, 0, 0⟩
  | .table => ⟨24, 0, 545088, 0, 0⟩
  | .dictionary => ⟨48, 0, 541611328, 0, 0⟩
  | .operation => ⟨56, 0, 547200, 0, 40⟩
  | .special => ⟨32, 0, 545152, 0, 0⟩
  | .methodMember => ⟨56, 0, 678272, 0, 0⟩
  | .specialMember => ⟨56, 0, 676224, 0, 0⟩
  | .classMember => ⟨56, 0, 545152, 0, 0⟩
  | .staticMember => ⟨32, 0, 546048, 24, 0⟩
  | .property => ⟨48, 0, 545152, 0, 0⟩
  | .field => ⟨48, 0, 545152, 0, 0⟩
  | .application => ⟨64, 0, 548096, 0, 40⟩

/-- The arguments that a kind takes to make a value (`__text_signature__`), empty if it does not say
so. -/
def Kind.signature : Kind → String
  | .object => "()"
  | .sequence => "(iterable=(), /)"
  | _ => ""

/-- The kinds that can be given a parameter: those with a `__class_getitem__`. -/
def Kind.isGeneric : Kind → Bool
  | .kind | .sequence | .table | .dictionary => true
  | _ => false

end ChapelServer.Template
