import EditorData.Template.Member

/-!
# Members of members

What the members of a kind offer themselves, and what they do once applied to a value.
-/

namespace EditorData.Template.Vocabulary

open Member

/-- The members of methods. -/
def methodMembers : List Member :=
  [slot "__repr__", slot "__call__", slot "__getattribute__", slot "__get__",
    method "__reduce__" none [], field "__objclass__" none [], field "__name__" none [],
    property "__doc__" none [], property "__qualname__" none [],
    property "__text_signature__" none []]

/-- The members of slots. -/
def slotMembers : List Member :=
  [slot "__repr__", slot "__call__", slot "__getattribute__", slot "__get__",
    method "__reduce__" none [], field "__objclass__" none [], field "__name__" none [],
    property "__doc__" none [], property "__qualname__" none [],
    property "__text_signature__" none []]

/-- The members of applied methods. -/
def appliedMethodMembers : List Member :=
  [slot "__repr__", slot "__hash__", slot "__call__", slot "__getattribute__", slot "__lt__",
    slot "__le__", slot "__eq__", slot "__ne__", slot "__gt__", slot "__ge__",
    method "__reduce__" none [], field "__module__" none [], property "__doc__" none [],
    property "__name__" none [], property "__qualname__" none [], property "__self__" none [],
    property "__text_signature__" none []]

/-- The members of applied slots. -/
def appliedSlotMembers : List Member :=
  [slot "__repr__", slot "__hash__", slot "__call__", slot "__getattribute__", slot "__lt__",
    slot "__le__", slot "__eq__", slot "__ne__", slot "__gt__", slot "__ge__",
    method "__reduce__" none [], field "__self__" none [], property "__objclass__" none [],
    property "__name__" none [], property "__qualname__" none [], property "__doc__" none [],
    property "__text_signature__" none []]

/-- The members of methods of a kind itself. -/
def classMethodMembers : List Member :=
  [slot "__repr__", slot "__call__", slot "__getattribute__", slot "__get__",
    field "__objclass__" none [], field "__name__" none [], property "__doc__" none [],
    property "__qualname__" none [], property "__text_signature__" none []]

/-- The members of methods of no value. -/
def staticMethodMembers : List Member :=
  [constructor, slot "__repr__", slot "__call__", slot "__get__", slot "__init__",
    field "__func__" none [], field "__wrapped__" none [], property "__isabstractmethod__" none [],
    property "__dict__" none []]

/-- The members of properties. -/
def propertyMembers : List Member :=
  [slot "__repr__", slot "__getattribute__", slot "__get__", slot "__set__", slot "__delete__",
    field "__objclass__" none [], field "__name__" none [], property "__doc__" none [],
    property "__qualname__" none []]

/-- The members of fields. -/
def fieldMembers : List Member :=
  [slot "__repr__", slot "__getattribute__", slot "__get__", slot "__set__", slot "__delete__",
    method "__reduce__" none [], field "__objclass__" none [], field "__name__" none [],
    property "__doc__" none [], property "__qualname__" none []]

end EditorData.Template.Vocabulary
