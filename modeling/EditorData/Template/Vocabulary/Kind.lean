import EditorData.Template.Member

/-!
# Members of kinds

What everything offers, what kinds and their generic forms offer beyond that, and what nothing
does.
-/

namespace EditorData.Template.Vocabulary

open Member

/-- The members of whatever there is. -/
def objectMembers : List Member :=
  [constructor, slot "__repr__", slot "__hash__", slot "__str__", slot "__getattribute__",
    slot "__setattr__", slot "__delattr__", slot "__lt__", slot "__le__", slot "__eq__",
    slot "__ne__", slot "__gt__", slot "__ge__", slot "__init__",
    method "__reduce_ex__" (some "($self, protocol, /)") ["Helper for pickle."],
    method "__reduce__" (some "($self, /)") ["Helper for pickle."],
    method "__getstate__" (some "($self, /)") ["Helper for pickle."],
    classMethod "__subclasshook__" none
      ["Abstract classes can override this to customize issubclass().", "",
       "This is invoked early on by abc.ABCMeta.__subclasscheck__().",
       "It should return True, False or NotImplemented.  If it returns",
       "NotImplemented, the normal algorithm is used.  Otherwise, it",
       "overrides the normal algorithm (and the outcome is cached).", ""],
    classMethod "__init_subclass__" none
      ["This method is called when a class is subclassed.", "",
       "The default implementation does nothing. It may be", "overridden to extend subclasses.",
       ""],
    method "__format__" (some "($self, format_spec, /)") ["Default object formatter."],
    method "__sizeof__" (some "($self, /)") ["Size of object in memory, in bytes."],
    method "__dir__" (some "($self, /)") ["Default dir() implementation."],
    property "__class__" none ["the object's class"]]

/-- The members of kinds. -/
def kindMembers : List Member :=
  [constructor, slot "__repr__", slot "__call__", slot "__getattribute__", slot "__setattr__",
    slot "__delattr__", slot "__init__", slot "__or__", slot "__ror__",
    method "mro" (some "($self, /)") ["Return a type's method resolution order."],
    method "__subclasses__" (some "($self, /)") ["Return a list of immediate subclasses."],
    classMethod "__prepare__" none
      ["__prepare__() -> dict", "used to create the namespace for the class statement"],
    method "__instancecheck__" (some "($self, instance, /)") ["Check if an object is an instance."],
    method "__subclasscheck__" (some "($self, subclass, /)") ["Check if a class is a subclass."],
    method "__dir__" (some "($self, /)") ["Specialized __dir__ implementation for types."],
    method "__sizeof__" (some "($self, /)") ["Return memory consumption of the type object."],
    field "__basicsize__" none [], field "__itemsize__" none [], field "__flags__" none [],
    field "__weakrefoffset__" none [], field "__base__" none [], field "__dictoffset__" none [],
    field "__mro__" none [], property "__name__" none [], property "__qualname__" none [],
    property "__bases__" none [], property "__module__" none [],
    property "__abstractmethods__" none [], property "__dict__" none [],
    property "__doc__" none [], property "__text_signature__" none [],
    property "__annotations__" none []]

/-- The members of kinds with an argument. -/
def genericMembers : List Member :=
  [constructor, slot "__repr__", slot "__hash__", slot "__call__", slot "__getattribute__",
    slot "__lt__", slot "__le__", slot "__eq__", slot "__ne__", slot "__gt__", slot "__ge__",
    slot "__iter__", slot "__or__", slot "__ror__", slot "__getitem__",
    method "__mro_entries__" none [], method "__instancecheck__" none [],
    method "__subclasscheck__" none [], method "__reduce__" none [], method "__dir__" none [],
    field "__origin__" none [], field "__args__" none [], field "__unpacked__" none [],
    property "__parameters__" none ["Type variables in the GenericAlias."],
    property "__typing_unpacked_tuple_args__" none []]

/-- The members of nothing. -/
def nothingMembers : List Member :=
  [constructor, slot "__repr__", slot "__bool__"]

end EditorData.Template.Vocabulary
