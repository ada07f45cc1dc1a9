import EditorData.Template.Member

/-!
# Members of collections

What tuples, dictionaries and views of dictionaries offer.
-/

namespace EditorData.Template.Vocabulary

open Member

/-- The members of tuples. -/
def tupleMembers : List Member :=
  [constructor, slot "__repr__", slot "__hash__", slot "__getattribute__", slot "__lt__",
    slot "__le__", slot "__eq__", slot "__ne__", slot "__gt__", slot "__ge__", slot "__iter__",
    slot "__len__", slot "__getitem__", slot "__add__", slot "__mul__", slot "__rmul__",
    slot "__contains__", method "__getnewargs__" (some "($self, /)") [],
    method "index" (some "($self, value, start=0, stop=sys.maxsize, /)")
      ["Return first index of value.", "", "Raises ValueError if the value is not present."],
    method "count" (some "($self, value, /)") ["Return number of occurrences of value."],
    classMethod "__class_getitem__" none ["See PEP 585"]]

/-- The members of dictionaries. -/
def dictionaryMembers : List Member :=
  [constructor, slot "__repr__", slot "__getattribute__", slot "__lt__", slot "__le__",
    slot "__eq__", slot "__ne__", slot "__gt__", slot "__ge__", slot "__iter__", slot "__init__",
    slot "__or__", slot "__ror__", slot "__ior__", slot "__len__",
    method "__getitem__" none ["x.__getitem__(y) <==> x[y]"], slot "__setitem__",
    slot "__delitem__",
    method "__contains__" (some "($self, key, /)")
      ["True if the dictionary has the specified key, else False."],
    method "__sizeof__" none ["D.__sizeof__() -> size of D in memory, in bytes"],
    method "get" (some "($self, key, default=None, /)")
      ["Return the value for key if key is in the dictionary, else default."],
    method "setdefault" (some "($self, key, default=None, /)")
      ["Insert key with a value of default if key is not in the dictionary.", "",
       "Return the value for key if key is in the dictionary, else default."],
    method "pop" (some "($self, key, default=<unrepresentable>, /)")
      ["D.pop(k[,d]) -> v, remove specified key and return the corresponding value.", "",
       "If the key is not found, return the default if given; otherwise,", "raise a KeyError."],
    method "popitem" (some "($self, /)")
      ["Remove and return a (key, value) pair as a 2-tuple.", "",
       "Pairs are returned in LIFO (last-in, first-out) order.",
       "Raises KeyError if the dict is empty."],
    method "keys" none ["D.keys() -> a set-like object providing a view on D's keys"],
    method "items" none ["D.items() -> a set-like object providing a view on D's items"],
    method "values" none ["D.values() -> an object providing a view on D's values"],
    method "update" none
      ["D.update([E, ]**F) -> None.  Update D from dict/iterable E and F.",
       "If E is present and has a .keys() method, then does:  for k in E: D[k] = E[k]",
       "If E is present and lacks a .keys() method, then does:  for k, v in E: D[k] = v",
       "In either case, this is followed by: for k in F:  D[k] = F[k]"],
    classMethod "fromkeys" (some "($type, iterable, value=None, /)")
      ["Create a new dictionary with keys from iterable and values set to value."],
    method "clear" none ["D.clear() -> None.  Remove all items from D."],
    method "copy" none ["D.copy() -> a shallow copy of D"],
    method "__reversed__" (some "($self, /)") ["Return a reverse iterator over the dict keys."],
    classMethod "__class_getitem__" none ["See PEP 585"]]

/-- The members of views of dictionaries. -/
def viewMembers : List Member :=
  [constructor, slot "__repr__", slot "__str__", slot "__getattribute__", slot "__lt__",
    slot "__le__", slot "__eq__", slot "__ne__", slot "__gt__", slot "__ge__", slot "__iter__",
    slot "__or__", slot "__ror__", slot "__ior__", slot "__len__", slot "__getitem__",
    slot "__contains__",
    method "get" none ["D.get(k[,d]) -> D[k] if k in D, else d.  d defaults to None."],
    method "keys" none ["D.keys() -> a set-like object providing a view on D's keys"],
    method "values" none ["D.values() -> an object providing a view on D's values"],
    method "items" none ["D.items() -> a set-like object providing a view on D's items"],
    method "copy" none ["D.copy() -> a shallow copy of D"],
    classMethod "__class_getitem__" none ["See PEP 585"],
    method "__reversed__" none ["D.__reversed__() -> reverse iterator"]]

end EditorData.Template.Vocabulary
