import EditorData.Template.NumberLayout
import EditorData.Template.Value

/-!
# Templates with one field

A template is a text with fields in braces; a brace that belongs to the text is doubled.
The only field with a value is `version`. A field may pick members of its value by name and
parts of it by number or key, have it quoted, and describe its layout, which may hold fields
again, once.
Parsing and filling go from left to right, so the first fault counts, of either kind.
-/

namespace EditorData.Template

/-- Why a template cannot be filled. -/
inductive Fault where
  | loneOpening
  | loneClosing
  | unclosedField
  | nestedField
  | unclosedLayout
  | missingConversion
  | conversionTail
  | unknownField (name : Text)
  | positionalField (index : Nat)
  | emptyAccess
  | accessTail
  | unknownMember (kind : Kind) (name : Text)
  /-- A part asked for by something other than a number, or of a value without parts. -/
  | notIndexed (kind : Kind) (key : Text)
  | indexOutOfRange (kind : Kind)
  /-- A key that a dictionary does not have. -/
  | unknownKey (key : Item)
  | unknownConversion (conversion : Char)
  | tooDeep
  /-- A layout for a value that is no text. -/
  | notLaidOut (kind : Kind)
  | tooWide (width : Nat)
  | layout (fault : LayoutFault)
deriving DecidableEq, Repr

/-- The wording of a fault. -/
def Fault.message : Fault -> Text
  | .loneOpening => "Single '\x7b' encountered in format string".toList
  | .loneClosing => "Single '\x7d' encountered in format string".toList
  | .unclosedField => "expected '\x7d' before end of string".toList
  | .nestedField => "unexpected '\x7b' in field name".toList
  | .unclosedLayout => "unmatched '\x7b' in format spec".toList
  | .missingConversion => "end of string while looking for conversion specifier".toList
  | .conversionTail => "expected ':' after conversion specifier".toList
  | .unknownField name => Text.quoted name
  | .positionalField index =>
      "Replacement index ".toList ++ Text.ofNat index ++
        " out of range for positional args tuple".toList
  | .emptyAccess => "Empty attribute in format string".toList
  | .accessTail => "Only '.' or '[' may follow ']' in format field specifier".toList
  | .unknownMember kind name =>
      Text.quoted kind.name ++ " object has no attribute ".toList ++ Text.quoted name
  | .notIndexed kind key => kind.name ++ " has no part ".toList ++ Text.quoted key
  | .indexOutOfRange kind =>
      (if kind = .text then "string".toList else kind.name) ++ " index out of range".toList
  | .unknownKey key => Value.shownItem key
  | .unknownConversion conversion =>
      "Unknown conversion specifier ".toList ++
        if 32 < conversion.toNat ∧ conversion.toNat < 127 then [conversion]
        else '\\' :: 'x' :: Nat.toDigits 16 conversion.toNat
  | .tooDeep => "Max string recursion exceeded".toList
  | .notLaidOut kind =>
      "unsupported format string passed to ".toList ++ kind.name ++ ".__format__".toList
  | .tooWide width => "no room for a width of ".toList ++ Text.ofNat width
  | .layout fault => fault.message

/-- A field as it is written. -/
structure Field where
  name : Text
  conversion : Option Char
  layout : Text
deriving DecidableEq, Repr

/-- A part of a template. -/
inductive Part where
  | char (c : Char)
  | field (field : Field)
deriving DecidableEq, Repr

/-- The name of a field, the mark that ends it, and what follows that mark. Between square
brackets every character belongs to the name. -/
def splitFieldName (bracketed : Bool) : Text -> Except Fault (Text × Char × Text)
  | [] => .error .unclosedField
  | c :: rest =>
      if bracketed then
        (splitFieldName (c != ']') rest).map (Prod.map (c :: ·) id)
      else if c = '{' then .error .nestedField
      else if c = '}' ∨ c = ':' ∨ c = '!' then .ok ([], c, rest)
      else (splitFieldName (c == '[') rest).map (Prod.map (c :: ·) id)

/-- The layout of a field up to the brace that closes it, and what follows that brace. The
number counts the braces opened inside. -/
def splitLayout : (opened : Nat) -> Text -> Except Fault (Text × Text)
  | _, [] => .error .unclosedLayout
  | opened, '{' :: rest => (splitLayout (opened + 1) rest).map (Prod.map ('{' :: ·) id)
  | 0, '}' :: rest => .ok ([], rest)
  | opened + 1, '}' :: rest => (splitLayout opened rest).map (Prod.map ('}' :: ·) id)
  | opened, c :: rest => (splitLayout opened rest).map (Prod.map (c :: ·) id)

/-- The field behind an opening brace, and what follows its closing brace. -/
def splitField (text : Text) : Except Fault (Field × Text) :=
  match splitFieldName false text with
  | .error fault => .error fault
  | .ok (name, '!', rest) =>
      match rest with
      | [] => .error .missingConversion
      | [_] => .error .unclosedLayout
      | conversion :: '}' :: after => .ok (⟨name, some conversion, []⟩, after)
      | conversion :: ':' :: after =>
          (splitLayout 0 after).map (Prod.map (⟨name, some conversion, ·⟩) id)
      | _ => .error .conversionTail
  | .ok (name, ':', rest) => (splitLayout 0 rest).map (Prod.map (⟨name, none, ·⟩) id)
  | .ok (name, _, rest) => .ok (⟨name, none, []⟩, rest)

/-- What follows the name of a field is shorter than the text. -/
theorem length_of_splitFieldName {bracketed : Bool} {text name rest : Text} {mark : Char}
    (split : splitFieldName bracketed text = .ok (name, mark, rest)) :
    rest.length < text.length := by
  induction text generalizing bracketed name with
  | nil => simp [splitFieldName] at split
  | cons c tail inductionHypothesis =>
      have deeper {inside : Bool}
          (mapped : (splitFieldName inside tail).map (Prod.map (c :: ·) id) =
            .ok (name, mark, rest)) : rest.length < (c :: tail).length := by
        cases found : splitFieldName inside tail with
        | error fault => simp [found, Except.map] at mapped
        | ok result =>
            obtain ⟨name', mark', rest'⟩ := result
            simp only [found, Except.map, Except.ok.injEq, Prod.map, id_eq, Prod.mk.injEq] at mapped
            obtain ⟨_, rfl, rfl⟩ := mapped
            have shorter := inductionHypothesis found
            simp only [List.length_cons]
            omega
      unfold splitFieldName at split
      split at split
      · exact deeper split
      · split at split
        · cases split
        · split at split
          · obtain ⟨_, _, rfl⟩ := split
            simp
          · exact deeper split

/-- What follows a layout is shorter than the text. -/
theorem length_of_splitLayout {opened : Nat} {text spec rest : Text}
    (split : splitLayout opened text = .ok (spec, rest)) : rest.length < text.length := by
  have deeper {tail : Text} {c : Char} {inside : Nat} {spec rest : Text}
      (inductionHypothesis : ∀ {spec}, splitLayout inside tail = .ok (spec, rest) ->
        rest.length < tail.length)
      (mapped : (splitLayout inside tail).map (Prod.map (c :: ·) id) = .ok (spec, rest)) :
      rest.length < (c :: tail).length := by
    cases found : splitLayout inside tail with
    | error fault => simp [found, Except.map] at mapped
    | ok result =>
        obtain ⟨spec', rest'⟩ := result
        simp only [found, Except.map, Except.ok.injEq, Prod.map, id_eq, Prod.mk.injEq] at mapped
        obtain ⟨_, rfl⟩ := mapped
        have shorter := inductionHypothesis found
        simp only [List.length_cons]
        omega
  fun_induction splitLayout opened text generalizing spec with
  | case1 => cases split
  | case2 opened rest' inductionHypothesis => exact deeper inductionHypothesis split
  | case3 rest' => cases split; simp
  | case4 opened rest' inductionHypothesis => exact deeper inductionHypothesis split
  | case5 opened c rest' _ _ _ inductionHypothesis => exact deeper inductionHypothesis split

/-- What follows a field is shorter than the text. -/
theorem length_of_splitField {text rest : Text} {field : Field}
    (split : splitField text = .ok (field, rest)) : rest.length < text.length := by
  have layoutShorter {after : Text} {build : Text -> Field}
      (mapped : (splitLayout 0 after).map (Prod.map build id) = .ok (field, rest)) :
      rest.length < after.length := by
    cases found : splitLayout 0 after with
    | error fault => simp [found, Except.map] at mapped
    | ok result =>
        obtain ⟨spec', rest'⟩ := result
        simp only [found, Except.map, Except.ok.injEq, Prod.map, id_eq, Prod.mk.injEq] at mapped
        obtain ⟨_, rfl⟩ := mapped
        exact length_of_splitLayout found
  unfold splitField at split
  split at split
  · cases split
  · next named =>
      have shorter := length_of_splitFieldName named
      split at split
      · cases split
      · cases split
      · cases split
        simp only [List.length_cons] at shorter
        omega
      · have inner := layoutShorter split
        simp only [List.length_cons] at shorter
        omega
      · cases split
  · next named =>
      have shorter := length_of_splitFieldName named
      have inner := layoutShorter split
      omega
  · next named =>
      cases split
      exact length_of_splitFieldName named

/-- The parts of a template in order, up to the first fault of its form. -/
def parse (template : Text) : List Part × Option Fault :=
  match template with
  | [] => ([], none)
  | '{' :: '{' :: rest => (parse rest).map (.char '{' :: ·) id
  | '}' :: '}' :: rest => (parse rest).map (.char '}' :: ·) id
  | ['{'] => ([], some .loneOpening)
  | '}' :: _ => ([], some .loneClosing)
  | '{' :: rest =>
      match _found : splitField rest with
      | .error fault => ([], some fault)
      | .ok (field, after) => (parse after).map (.field field :: ·) id
  | c :: rest => (parse rest).map (.char c :: ·) id
termination_by template.length
decreasing_by
  · simp only [List.length_cons]
    omega
  · simp only [List.length_cons]
    omega
  · have shorter := length_of_splitField _found
    simp only [List.length_cons]
    omega
  · simp only [List.length_cons]
    omega

/-- The number that a name is, if it is one. A name which begins with more digits than any
number has is refused, whatever follows. -/
def nameNumber? (name : Text) : Except Fault (Option Nat) :=
  match splitDigits name with
  | .error fault => .error (.layout fault)
  | .ok (some number, []) => .ok (some number)
  | .ok _ => .ok none

/-- The part of a value that has a number. -/
def numberedPart (value : Value) (key : Text) : Option Nat -> Except Fault Value
  | none => .error (.notIndexed value.kindOf key)
  | some index =>
      match value.items? with
      | none => .error (.notIndexed value.kindOf key)
      | some items =>
          match items[index]? with
          | none => .error (.indexOutOfRange value.kindOf)
          | some item => .ok item

/-- The part of a value that has a key, which may be a number. A kind takes the key as an
argument. -/
def part (value : Value) (key : Text) (number : Option Nat) : Except Fault Value :=
  let item := match number with
    | some index => Item.integer index
    | none => Item.text key
  match value with
  | .view owner =>
      match (if number.isSome then none else Dictionary.find? key owner.entries) with
      | some found => .ok found
      | none => .error (.unknownKey item)
  | .emptyDictionary => .error (.unknownKey item)
  | .kind itself =>
      if itself.takesArgument then .ok (.generic itself item)
      else .error (.notIndexed .ofKinds key)
  | _ => numberedPart value key number

/-- The accesses behind the first part of a field's name, applied to its value: a name behind
a point picks a member, a number in square brackets a part. -/
def access : (fuel : Nat) -> Value -> Text -> Except Fault Value
  | 0, value, _ => .ok value
  | _, value, [] => .ok value
  | fuel + 1, value, '[' :: rest => do
      let key := rest.takeWhile (· != ']')
      let number <- nameNumber? key
      if key.isEmpty then throw .emptyAccess
      access fuel (<- part value key number) (rest.drop (key.length + 1))
  | fuel + 1, value, '.' :: rest =>
      let name := rest.takeWhile fun c => c != '.' && c != '['
      if name.isEmpty then .error .emptyAccess
      else
        match value.member? name with
        | none => .error (.unknownMember value.kindOf name)
        | some member => access fuel member (rest.drop name.length)
  | _, _, _ => .error .accessTail

/-- The value of a field's name. -/
def resolve (version name : Text) : Except Fault Value :=
  let first := name.takeWhile fun c => c != '.' && c != '['
  match nameNumber? first with
  | .error fault => .error fault
  | .ok (some index) => .error (.positionalField index)
  | .ok none =>
      if first.isEmpty then .error (.positionalField 0)
      else if first = "version".toList then
        access name.length (.text version) (name.drop first.length)
      else .error (.unknownField first)

/-- The value after a conversion. The null character stands for none. -/
def convert (value : Value) : Option Char -> Except Fault Value
  | none | some '\x00' => .ok value
  | some 's' => .ok (.text value.shown)
  | some 'r' => .ok (.text value.quoted)
  | some 'a' => .ok (.text value.quotedAscii)
  | some conversion => .error (.unknownConversion conversion)

/-- The greatest width there is room for. -/
def greatestWidth : Nat :=
  Nat.pow 2 36

/-- Refuse a width for which there is no room. -/
def checkWidth (width : Nat) : Except Fault Unit :=
  if greatestWidth < width then .error (.tooWide width) else .ok ()

/-- Lay out a number of a kind by a specification that is not empty. -/
def layOutNumber (kind : Kind) (spec : Text) (number : Nat) : Except Fault Text := do
  let specification <- (Specification.parse kind.name 'd' spec).mapError .layout
  let parts <- (NumberLayout.parts kind.name specification number).mapError .layout
  checkWidth specification.width
  return NumberLayout.assemble specification parts

/-- Lay out a value. Only texts and numbers have layouts other than the empty one. -/
def layOut (spec : Text) (value : Value) : Except Fault Text :=
  match value with
  | .text content => do
      let layout <- (Layout.parse spec).mapError .layout
      checkWidth layout.width
      return layout.apply content
  | _ =>
      if spec.isEmpty then .ok value.shown
      else
        match value with
        | .integer number => layOutNumber .integer spec number
        | .truth holds => layOutNumber .truth spec holds.toNat
        | _ => .error (.notLaidOut value.kindOf)

/-- Fill the parts of a template one after the other. Layouts with fields are filled
first, by the function given for them. -/
def fillParts (version : Text) (fillLayout : Text -> Except Fault Text) :
    List Part -> Except Fault Text
  | [] => .ok []
  | .char c :: rest => (fillParts version fillLayout rest).map (c :: ·)
  | .field field :: rest => do
      let value <- resolve version field.name
      let converted <- convert value field.conversion
      let spec <- if field.layout.contains '{' then fillLayout field.layout else .ok field.layout
      return (<- layOut spec converted) ++ (<- fillParts version fillLayout rest)

/-- Fill a template whose layouts may hold fields to the given depth. -/
def fillAt (version : Text) : (depth : Nat) -> Text -> Except Fault Text
  | 0, _ => .error .tooDeep
  | depth + 1, template => do
      let (parts, fault) := parse template
      let filled <- fillParts version (fillAt version depth) parts
      match fault with
      | none => return filled
      | some fault => throw fault

/-- Fill a template with a version. -/
def fill (template version : Text) : Except Fault Text :=
  fillAt version 2 template

end EditorData.Template
