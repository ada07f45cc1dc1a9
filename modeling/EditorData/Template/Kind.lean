import EditorData.Text.Basic

/-!
# Kinds of values

The text that a template lays out is a value among others. Every value is of a kind, and
every kind has a name, a line of descent and a few numbers that describe its values.
-/

namespace EditorData.Template

/-- The kinds of values. -/
inductive Kind where
  /-- Whatever there is. -/
  | object
  | text
  | integer
  | truth
  | nothing
  | tuple
  | dictionary
  /-- A dictionary that can only be looked at. -/
  | view
  /-- The kind of kinds. -/
  | ofKinds
  /-- A kind with an argument. -/
  | generic
  /-- Members of kinds, by their forms. -/
  | method
  | slot
  | classMethod
  | staticMethod
  | property
  | field
  /-- Members applied to a value. -/
  | appliedMethod
  | appliedSlot
deriving DecidableEq, Repr

/-- The numbers that describe the values of a kind. -/
structure Extent where
  size : Nat
  itemSize : Nat
  flags : Nat
  /-- Where a value keeps members of its own, zero for nowhere. -/
  ownMembers : Nat
  /-- Where a value keeps what refers to it weakly, zero for nowhere. -/
  weakReferences : Nat
deriving DecidableEq, Repr

namespace Kind

/-- The name of a kind. -/
def name : Kind -> Text
  | .object => "object".toList
  | .text => "str".toList
  | .integer => "int".toList
  | .truth => "bool".toList
  | .nothing => "NoneType".toList
  | .tuple => "tuple".toList
  | .dictionary => "dict".toList
  | .view => "mappingproxy".toList
  | .ofKinds => "type".toList
  | .generic => "GenericAlias".toList
  | .method => "method_descriptor".toList
  | .slot => "wrapper_descriptor".toList
  | .classMethod => "classmethod_descriptor".toList
  | .staticMethod => "staticmethod".toList
  | .property => "getset_descriptor".toList
  | .field => "member_descriptor".toList
  | .appliedMethod => "builtin_function_or_method".toList
  | .appliedSlot => "method-wrapper".toList

/-- The collection that a kind belongs to. -/
def home : Kind -> Text
  | .generic => "types".toList
  | _ => "builtins".toList

/-- The name of a kind behind that of its collection, unless that is the usual one. -/
def fullName : Kind -> Text
  | .generic => Kind.generic.home ++ '.' :: Kind.generic.name
  | other => other.name

/-- The kinds that a kind descends from, itself first. -/
def descent : Kind -> List Kind
  | .object => [.object]
  | .truth => [.truth, .integer, .object]
  | other => [other, .object]

/-- The numbers that describe a kind. -/
def extent : Kind -> Extent
  | .object => ⟨16, 0, 529664, 0, 0⟩
  | .text => ⟨80, 0, 273159424, 0, 0⟩
  | .integer => ⟨24, 4, 21501184, 0, 0⟩
  | .truth => ⟨32, 4, 21500160, 0, 0⟩
  | .nothing => ⟨16, 0, 528640, 0, 0⟩
  | .tuple => ⟨24, 8, 71849248, 0, 0⟩
  | .dictionary => ⟨48, 0, 541611328, 0, 0⟩
  | .view => ⟨24, 0, 545088, 0, 0⟩
  | .ofKinds => ⟨904, 40, 2148031744, 264, 368⟩
  | .generic => ⟨64, 0, 548096, 0, 40⟩
  | .method => ⟨56, 0, 678272, 0, 0⟩
  | .slot => ⟨56, 0, 676224, 0, 0⟩
  | .classMethod => ⟨56, 0, 545152, 0, 0⟩
  | .staticMethod => ⟨32, 0, 546048, 24, 0⟩
  | .property => ⟨48, 0, 545152, 0, 0⟩
  | .field => ⟨48, 0, 545152, 0, 0⟩
  | .appliedMethod => ⟨56, 0, 547200, 0, 40⟩
  | .appliedSlot => ⟨32, 0, 545152, 0, 0⟩

/-- How a kind is called to make a value, if that is written down. -/
def signature? : Kind -> Option Text
  | .object => some "()".toList
  | .tuple => some "(iterable=(), /)".toList
  | _ => none

/-- The description of a kind, if it has one. -/
def description? : Kind -> Option Text
  | .object =>
      some ("The base class of the class hierarchy.\n\nWhen called, it accepts no arguments " ++
        "and returns a new featureless\ninstance that has no instance attributes and cannot " ++
        "be given any.\n").toList
  | .text =>
      some ("str(object='') -> str\nstr(bytes_or_buffer[, encoding[, errors]]) -> str\n\n" ++
        "Create a new string object from the given object. If encoding or\nerrors is " ++
        "specified, then the object must expose a data buffer\nthat will be decoded using " ++
        "the given encoding and error handler.\nOtherwise, returns the result of " ++
        "object.__str__() (if defined)\nor repr(object).\nencoding defaults to " ++
        "sys.getdefaultencoding().\nerrors defaults to 'strict'.").toList
  | .integer =>
      some ("int([x]) -> integer\nint(x, base=10) -> integer\n\nConvert a number or string to " ++
        "an integer, or return 0 if no arguments\nare given.  If x is a number, return " ++
        "x.__int__().  For floating point\nnumbers, this truncates towards zero.\n\nIf x is " ++
        "not a number or if base is given, then x must be a string,\nbytes, or bytearray " ++
        "instance representing an integer literal in the\ngiven base.  The literal can be " ++
        "preceded by '+' or '-' and be surrounded\nby whitespace.  The base defaults to 10.  " ++
        "Valid bases are 0 and 2-36.\nBase 0 means to interpret the base from the string as " ++
        "an integer literal.\n>>> int('0b100', base=0)\n4").toList
  | .truth =>
      some ("bool(x) -> bool\n\nReturns True when the argument x is true, False otherwise.\n" ++
        "The builtins True and False are the only two instances of the class bool.\n" ++
        "The class bool is a subclass of the class int, and cannot be subclassed.").toList
  | .tuple =>
      some ("Built-in immutable sequence.\n\nIf no argument is given, the constructor returns " ++
        "an empty tuple.\nIf iterable is specified the tuple is initialized from iterable's " ++
        "items.\n\nIf the argument is a tuple, the return value is the same object.").toList
  | .dictionary =>
      some ("dict() -> new empty dictionary\ndict(mapping) -> new dictionary initialized from " ++
        "a mapping object's\n    (key, value) pairs\ndict(iterable) -> new dictionary " ++
        "initialized as if via:\n    d = \x7b\x7d\n    for k, v in iterable:\n" ++
        "        d[k] = v\ndict(**kwargs) -> new dictionary initialized with the name=value " ++
        "pairs\n    in the keyword argument list.  For example:  dict(one=1, two=2)").toList
  | .ofKinds =>
      some ("type(object) -> the object's type\n" ++
        "type(name, bases, dict, **kwds) -> a new type").toList
  | .generic =>
      some ("Represent a PEP 585 generic type\n\nE.g. for t = list[int], t.__origin__ is list " ++
        "and t.__args__ is (int,).").toList
  | .staticMethod =>
      some ("staticmethod(function) -> method\n\nConvert a function to be a static method.\n\n" ++
        "A static method does not receive an implicit first argument.\nTo declare a static " ++
        "method, use this idiom:\n\n     class C:\n         @staticmethod\n         " ++
        "def f(arg1, arg2, argN):\n             ...\n\nIt can be called either on the class " ++
        "(e.g. C.f()) or on an instance\n(e.g. C().f()). Both the class and the instance " ++
        "are ignored, and\nneither is passed implicitly as the first argument to the " ++
        "method.\n\nStatic methods in Python are similar to those found in Java or C++.\n" ++
        "For a more advanced concept, see the classmethod builtin.").toList
  | _ => none

end Kind

end EditorData.Template
