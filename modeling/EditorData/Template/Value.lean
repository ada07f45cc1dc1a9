import EditorData.Template.Vocabulary
import EditorData.Text.Quoted

/-!
# Values with members

A field of a template reaches members of its value by their names, members of those again,
and parts by number or key; it shows the value at which it ends. A kind takes a member that
it does not hold from the kinds it descends from. What a member gives depends on its form:
properties and fields are looked at, methods and slots are applied to the value. They can be
named and described, but not carried out.
-/

namespace EditorData.Template

/-- A member with the kind that holds it. -/
structure Definition where
  owner : Kind
  member : Member
deriving DecidableEq, Repr

/-- The name of a member behind that of a kind. -/
def Definition.qualified (definition : Definition) (owner : Kind) : Text :=
  owner.name ++ '.' :: definition.member.name

/-- An item of a tuple, or an argument of a kind. -/
inductive Item where
  | text (content : Text)
  | integer (number : Nat)
  | kind (itself : Kind)
deriving DecidableEq, Repr

/-- What a field of a template can show. -/
inductive Value where
  | text (content : Text)
  | integer (number : Nat)
  | truth (holds : Bool)
  | nothing
  | kind (itself : Kind)
  | tuple (items : List Item)
  | emptyDictionary
  /-- The members that a kind holds. -/
  | view (owner : Kind)
  /-- A kind with an argument. -/
  | generic (origin : Kind) (argument : Item)
  | definition (itself : Definition)
  /-- A member applied to a value. -/
  | applied (itself : Definition) (subject : Value)
deriving DecidableEq, Repr

/-- An item as a value. -/
def Item.value : Item -> Value
  | .text content => .text content
  | .integer number => .integer number
  | .kind itself => .kind itself

/-- The kind of a member of a form. What makes new values is applied at once. -/
def Form.kind : Form -> Kind
  | .method => .method
  | .slot => .slot
  | .classMethod => .classMethod
  | .staticMethod => .staticMethod
  | .constructor => .appliedMethod
  | .property => .property
  | .field => .field

namespace Value

/-- The kind of a value. -/
def kindOf : Value -> Kind
  | .text _ => .text
  | .integer _ => .integer
  | .truth _ => .truth
  | .nothing => .nothing
  | .kind _ => .ofKinds
  | .tuple _ => .tuple
  | .emptyDictionary => .dictionary
  | .view _ => .view
  | .generic .. => .generic
  | .definition itself => itself.member.form.kind
  | .applied itself _ => if itself.member.form = .slot then .appliedSlot else .appliedMethod

/-- A text that may be missing, as a value. -/
def ofText? : Option Text -> Value
  | some content => .text content
  | none => .nothing

end Value

namespace Kind

/-- What a kind holds besides its members: its description unless that is a property, and that
its values have no hash if so. -/
def remarks (kind : Kind) : List (Text × Value) :=
  (if kind.members.any (·.name = "__doc__".toList) then []
    else [("__doc__".toList, Value.ofText? kind.description?)]) ++
  (if kind = .dictionary ∨ kind = .view then [("__hash__".toList, Value.nothing)] else [])

/-- What a kind holds, by names. -/
def entries (kind : Kind) : List (Text × Value) :=
  (kind.members.map fun member =>
    (member.name,
      if member.form = .constructor then Value.applied ⟨kind, member⟩ (.kind kind)
      else Value.definition ⟨kind, member⟩)) ++ kind.remarks

/-- What a kind holds under a name, itself or by its descent. -/
def find? (kind : Kind) (name : Text) : Option Value :=
  kind.descent.findSome? fun owner => Dictionary.find? name owner.entries

/-- The description of a kind as it is looked up: in words if it has any, or else what it holds
in their place. -/
def described (kind : Kind) : Value :=
  match kind.description? with
  | some words => .text words
  | none => (Dictionary.find? "__doc__".toList kind.entries).getD .nothing

/-- Whether a kind can be given an argument. -/
def takesArgument (kind : Kind) : Bool :=
  kind = .ofKinds || (kind.find? "__class_getitem__".toList).isSome

end Kind

namespace Value

/-- What a property or a field of a kind gives. -/
def ofKind? (itself : Kind) (name : Text) : Option Value :=
  match String.ofList name with
  | "__name__" | "__qualname__" => some (.text itself.name)
  | "__module__" => some (.text itself.home)
  | "__mro__" => some (.tuple (itself.descent.map .kind))
  | "__bases__" => some (.tuple ((itself.descent.drop 1).take 1 |>.map .kind))
  | "__base__" => some (((itself.descent.drop 1).head?.map .kind).getD .nothing)
  | "__dict__" => some (.view itself)
  | "__doc__" => some itself.described
  | "__text_signature__" => some (ofText? itself.signature?)
  | "__basicsize__" => some (.integer itself.extent.size)
  | "__itemsize__" => some (.integer itself.extent.itemSize)
  | "__flags__" => some (.integer itself.extent.flags)
  | "__dictoffset__" => some (.integer itself.extent.ownMembers)
  | "__weakrefoffset__" => some (.integer itself.extent.weakReferences)
  | _ => none

/-- What a property or a field of a member gives, applied or not. -/
def ofDefinition? (itself : Definition) (name : Text) : Option Value :=
  match String.ofList name with
  | "__name__" => some (.text itself.member.name)
  | "__objclass__" => some (.kind itself.owner)
  | "__doc__" => some (ofText? itself.member.description)
  | "__text_signature__" => some (ofText? itself.member.signature)
  | "__func__" | "__wrapped__" => some (.applied itself (.kind itself.owner))
  | "__isabstractmethod__" => some (.truth false)
  | "__dict__" => some .emptyDictionary
  | _ => none

/-- What a property of a number gives. -/
def ofNumber? (number : Nat) (name : Text) : Option Value :=
  match String.ofList name with
  | "real" | "numerator" => some (.integer number)
  | "imag" => some (.integer 0)
  | "denominator" => some (.integer 1)
  | _ => none

/-- What a property or a field of a kind with an argument gives. -/
def ofGeneric? (origin : Kind) (argument : Item) (name : Text) : Option Value :=
  match String.ofList name with
  | "__origin__" => some (.kind origin)
  | "__args__" => some (.tuple [argument])
  | "__parameters__" => some (.tuple [])
  | "__unpacked__" => some (.truth false)
  | "__typing_unpacked_tuple_args__" => some .nothing
  | _ => none

/-- The kind under whose name an applied member is known: the one that holds a slot, and
otherwise what it is applied to, or the kind of that. -/
def knownUnder (itself : Definition) (subject : Value) : Kind :=
  if itself.member.form = .slot then itself.owner
  else
    match subject with
    | .kind named => named
    | other => other.kindOf

/-- What a property or a field of an applied member gives. -/
def ofApplied? (itself : Definition) (subject : Value) (name : Text) : Option Value :=
  match String.ofList name with
  | "__qualname__" => some (.text (itself.qualified (knownUnder itself subject)))
  | "__module__" => some .nothing
  | "__self__" =>
      some (if itself.member.form = .staticMethod then .nothing else subject)
  | _ => ofDefinition? itself name

/-- What a property or a field with a name gives for a value. -/
def given? (value : Value) (name : Text) : Option Value :=
  if name = "__class__".toList then some (.kind value.kindOf)
  else
    match value with
    | .kind itself => ofKind? itself name
    | .integer number => ofNumber? number name
    | .truth holds => ofNumber? holds.toNat name
    | .generic origin argument => ofGeneric? origin argument name
    | .definition itself =>
        if name = "__qualname__".toList then some (.text (itself.qualified itself.owner))
        else ofDefinition? itself name
    | .applied itself subject => ofApplied? itself subject name
    | _ => none

/-- Whether what a kind holds is a property or a field of its values. -/
def isGiven : Value -> Bool
  | .definition itself => itself.member.form = .property || itself.member.form = .field
  | _ => false

/-- What a kind holds, as a member of a value of the kind. -/
def boundTo (subject : Value) : Value -> Option Value
  | .definition itself =>
      match itself.member.form with
      | .property | .field => subject.given? itself.member.name
      | .classMethod => some (.applied itself (.kind subject.kindOf))
      | .staticMethod => some (.applied itself (.kind itself.owner))
      | .method | .slot | .constructor => some (.applied itself subject)
  | other => some other

/-- What a kind holds, as a member of the kind or of one that descends from it. -/
def boundToKind (subject : Kind) : Value -> Value
  | .definition itself =>
      match itself.member.form with
      | .classMethod => .applied itself (.kind subject)
      | .staticMethod => .applied itself (.kind itself.owner)
      | _ => .definition itself
  | other => other

/-- The member of a value that has a name. A kind has the properties and fields of its kind
first, then what it holds, and then what else its kind has. -/
def ownMember? (value : Value) (name : Text) : Option Value :=
  let held := match value with
    | .kind itself => (itself.find? name).map (boundToKind itself)
    | _ => none
  match value.kindOf.find? name with
  | none => held
  | some found => if found.isGiven then value.boundTo found else held.or (value.boundTo found)

/-- The names that a kind with an argument looks up for itself; all others it looks up for the
kind alone. -/
def genericNames : List String :=
  ["__class__", "__origin__", "__args__", "__unpacked__", "__parameters__",
    "__typing_unpacked_tuple_args__", "__mro_entries__", "__reduce_ex__", "__reduce__",
    "__copy__", "__deepcopy__"]

/-- The member of a value that has a name. -/
def member? (value : Value) (name : Text) : Option Value :=
  match value with
  | .generic origin _ =>
      if genericNames.contains (String.ofList name) then value.ownMember? name
      else (kind origin).ownMember? name
  | _ => value.ownMember? name

/-- The parts of a value that can be counted off. -/
def items? : Value -> Option (List Value)
  | .text content => some (content.map fun c => text [c])
  | .tuple items => some (items.map Item.value)
  | _ => none

/-- A kind as it is shown. -/
def shownKind (named : Kind) : Text :=
  "<class '".toList ++ named.fullName ++ "'>".toList

/-- A member applied to a value of a kind, as it is shown. -/
def shownApplied (itself : Definition) (subject : Kind) : Text :=
  (if itself.member.form = .slot then "<method-wrapper '".toList ++ itself.member.name ++ ['\'']
    else "<built-in method ".toList ++ itself.member.name) ++
    " of ".toList ++ subject.fullName ++ " object>".toList

/-- A member as it is shown. -/
def shownDefinition (itself : Definition) : Text :=
  let described (form : String) : Text :=
    '<' :: form.toList ++ " '".toList ++ itself.member.name ++ "' of '".toList ++
      itself.owner.fullName ++ "' objects>".toList
  match itself.member.form with
  | .method | .classMethod | .constructor => described "method"
  | .slot => described "slot wrapper"
  | .property => described "attribute"
  | .field => described "member"
  | .staticMethod => "<staticmethod(".toList ++ shownApplied itself .ofKinds ++ ")>".toList

/-- An item as it is shown among others. -/
def shownItem : Item -> Text
  | .text content => Text.quoted content
  | .integer number => Text.ofNat number
  | .kind named => shownKind named

/-- A value as it is shown, without what it holds. -/
def shownAlone : Value -> Text
  | .text content => Text.quoted content
  | .integer number => Text.ofNat number
  | .truth true => "True".toList
  | .truth false => "False".toList
  | .nothing => "None".toList
  | .kind itself => shownKind itself
  | .tuple [only] => '(' :: shownItem only ++ ",)".toList
  | .tuple items => '(' :: Text.joined ", ".toList (items.map shownItem) ++ [')']
  | .emptyDictionary | .view _ => ['{', '}']
  | .generic origin argument => origin.name ++ '[' :: shownItem argument ++ [']']
  | .definition itself => shownDefinition itself
  | .applied itself subject => shownApplied itself subject.kindOf

/-- What a kind holds, as it is shown. -/
def shownEntries (owner : Kind) : Text :=
  '{' :: Text.joined ", ".toList (owner.entries.map fun (name, value) =>
    Text.quoted name ++ ": ".toList ++ value.shownAlone) ++ ['}']

/-- A value as it is shown; a text as it is. -/
def shown : Value -> Text
  | .text content => content
  | .view owner => shownEntries owner
  | value => value.shownAlone

/-- A value as it is shown between quotes if it is a text. -/
def quoted : Value -> Text
  | .view owner => "mappingproxy(".toList ++ shownEntries owner ++ [')']
  | value => value.shownAlone

/-- A value quoted in ASCII. -/
def quotedAscii (value : Value) : Text :=
  Text.asciiOnly value.quoted

end Value

end EditorData.Template
