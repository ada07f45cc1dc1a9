import EditorData.Dictionary
import EditorData.Text.Basic

/-!
# Members of kinds

A kind has members with names. They differ by the form in which the kind holds them; many
come with words about them: how they are called, and what they do. The words about a slot
depend on its name alone.
-/

namespace EditorData.Template

/-- How a kind holds a member. -/
inductive Form where
  | method
  /-- What operators and the like use. -/
  | slot
  /-- A method of the kind itself. -/
  | classMethod
  /-- A method of no value. -/
  | staticMethod
  /-- What makes a new value of the kind. -/
  | constructor
  /-- What is worked out for every value. -/
  | property
  /-- What every value holds. -/
  | field
deriving DecidableEq, Repr

/-- A member of a kind. -/
structure Member where
  name : Text
  form : Form
  /-- How it is called. -/
  signature : Option Text
  /-- What it does. -/
  description : Option Text
deriving DecidableEq, Repr

namespace Member

/-- The text of lines, none if there are no lines. -/
def words : List String -> Option Text
  | [] => none
  | lines => some (Text.joined ['\n'] (lines.map String.toList))

/-- A method. -/
def method (name : String) (signature : Option String) (lines : List String) : Member :=
  ⟨name.toList, .method, signature.map String.toList, words lines⟩

/-- A method of the kind itself. -/
def classMethod (name : String) (signature : Option String) (lines : List String) : Member :=
  ⟨name.toList, .classMethod, signature.map String.toList, words lines⟩

/-- A method of no value. -/
def staticMethod (name : String) (signature : Option String) (lines : List String) : Member :=
  ⟨name.toList, .staticMethod, signature.map String.toList, words lines⟩

/-- What makes a new value. -/
def constructor : Member :=
  ⟨"__new__".toList, .constructor, some "($type, *args, **kwargs)".toList,
    some "Create and return a new object.  See help(type) for accurate signature.".toList⟩

/-- A property. -/
def property (name : String) (signature : Option String) (lines : List String) : Member :=
  ⟨name.toList, .property, signature.map String.toList, words lines⟩

/-- A field. -/
def field (name : String) (signature : Option String) (lines : List String) : Member :=
  ⟨name.toList, .field, signature.map String.toList, words lines⟩

/-- What is said about slots: their names, how they are called, and what they do. -/
def slotWords : List (String × String × String) :=
  [("__repr__", "($self, /)", "Return repr(self)."),
   ("__hash__", "($self, /)", "Return hash(self)."),
   ("__str__", "($self, /)", "Return str(self)."),
   ("__getattribute__", "($self, name, /)", "Return getattr(self, name)."),
   ("__setattr__", "($self, name, value, /)", "Implement setattr(self, name, value)."),
   ("__delattr__", "($self, name, /)", "Implement delattr(self, name)."),
   ("__lt__", "($self, value, /)", "Return self<value."),
   ("__le__", "($self, value, /)", "Return self<=value."),
   ("__eq__", "($self, value, /)", "Return self==value."),
   ("__ne__", "($self, value, /)", "Return self!=value."),
   ("__gt__", "($self, value, /)", "Return self>value."),
   ("__ge__", "($self, value, /)", "Return self>=value."),
   ("__init__", "($self, /, *args, **kwargs)",
     "Initialize self.  See help(type(self)) for accurate signature."),
   ("__iter__", "($self, /)", "Implement iter(self)."),
   ("__mod__", "($self, value, /)", "Return self%value."),
   ("__rmod__", "($self, value, /)", "Return value%self."),
   ("__len__", "($self, /)", "Return len(self)."),
   ("__getitem__", "($self, key, /)", "Return self[key]."),
   ("__add__", "($self, value, /)", "Return self+value."),
   ("__mul__", "($self, value, /)", "Return self*value."),
   ("__rmul__", "($self, value, /)", "Return value*self."),
   ("__contains__", "($self, key, /)", "Return key in self."),
   ("__call__", "($self, /, *args, **kwargs)", "Call self as a function."),
   ("__or__", "($self, value, /)", "Return self|value."),
   ("__ror__", "($self, value, /)", "Return value|self."),
   ("__bool__", "($self, /)", "True if self else False"),
   ("__radd__", "($self, value, /)", "Return value+self."),
   ("__sub__", "($self, value, /)", "Return self-value."),
   ("__rsub__", "($self, value, /)", "Return value-self."),
   ("__divmod__", "($self, value, /)", "Return divmod(self, value)."),
   ("__rdivmod__", "($self, value, /)", "Return divmod(value, self)."),
   ("__pow__", "($self, value, mod=None, /)", "Return pow(self, value, mod)."),
   ("__rpow__", "($self, value, mod=None, /)", "Return pow(value, self, mod)."),
   ("__neg__", "($self, /)", "-self"),
   ("__pos__", "($self, /)", "+self"),
   ("__abs__", "($self, /)", "abs(self)"),
   ("__invert__", "($self, /)", "~self"),
   ("__lshift__", "($self, value, /)", "Return self<<value."),
   ("__rlshift__", "($self, value, /)", "Return value<<self."),
   ("__rshift__", "($self, value, /)", "Return self>>value."),
   ("__rrshift__", "($self, value, /)", "Return value>>self."),
   ("__and__", "($self, value, /)", "Return self&value."),
   ("__rand__", "($self, value, /)", "Return value&self."),
   ("__xor__", "($self, value, /)", "Return self^value."),
   ("__rxor__", "($self, value, /)", "Return value^self."),
   ("__int__", "($self, /)", "int(self)"),
   ("__float__", "($self, /)", "float(self)"),
   ("__floordiv__", "($self, value, /)", "Return self//value."),
   ("__rfloordiv__", "($self, value, /)", "Return value//self."),
   ("__truediv__", "($self, value, /)", "Return self/value."),
   ("__rtruediv__", "($self, value, /)", "Return value/self."),
   ("__index__", "($self, /)",
     "Return self converted to an integer, if self is suitable for use as an index into a list."),
   ("__ior__", "($self, value, /)", "Return self|=value."),
   ("__setitem__", "($self, key, value, /)", "Set self[key] to value."),
   ("__delitem__", "($self, key, /)", "Delete self[key]."),
   ("__get__", "($self, instance, owner=None, /)",
     "Return an attribute of instance, which is of type owner."),
   ("__set__", "($self, instance, value, /)", "Set an attribute of instance to value."),
   ("__delete__", "($self, instance, /)", "Delete an attribute of instance.")]

/-- A slot. -/
def slot (name : String) : Member :=
  let known := Dictionary.find? name slotWords
  ⟨name.toList, .slot, known.map fun (signature, _) => signature.toList,
    known.map fun (_, description) => description.toList⟩

end Member

end EditorData.Template
