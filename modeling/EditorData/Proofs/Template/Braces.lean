import EditorData.Proofs.Template.Places

/-!
# Braces of a template

A template has at least two braces for each of its fields and for each brace that belongs to its
text (`weight_le_of_parse`). Filled with the empty version and with one of a single character, a
field shows no brace, and at most one character more for the longer version (`Direct.shown`). If the
template were filled by putting the version in its places, it would have as many fields as places at
least, and as many braces of its text as there are braces around them, so there can be none of these
(`plain_of_fill_eq`). This holds of all templates whose fields show the version itself, quoted or
laid out; fields that show a member of it may show braces.
-/

namespace EditorData.Template

open Settings (versionField)

/-- How many braces a text has. -/
def braces (text : Text) : Nat :=
  text.count '{' + text.count '}'

section Counting

variable {text rest : Text}

/-- The braces of two texts. -/
theorem braces_append (left right : Text) :
    braces (left ++ right) = braces left + braces right := by
  simp only [braces, List.count_append]
  omega

/-- The braces of a text with a character in front. -/
theorem braces_cons (c : Char) (text : Text) : braces (c :: text) = braces [c] + braces text :=
  braces_append [c] text

/-- A text has no braces exactly if neither is in it. -/
theorem braces_eq_zero_iff : braces text = 0 ↔ Unbraced text := by
  rw [braces, Nat.add_eq_zero_iff, List.count_eq_zero, List.count_eq_zero, Unbraced]

/-- Behind a closing brace there is one brace less at least. -/
theorem braces_behind (front rest : Text) : braces rest + 1 ≤ braces (front ++ '}' :: rest) := by
  have one : braces ['}'] = 1 := rfl
  rw [braces_append, braces_cons, one]
  omega

/-- A field's name ends at the mark behind it. -/
theorem splitFieldName_eq {bracketed : Bool} {name : Text} {mark : Char}
    (split : splitFieldName bracketed text = .ok (name, mark, rest)) :
    text = name ++ mark :: rest ∧ (mark = '}' ∨ mark = ':' ∨ mark = '!') := by
  induction text generalizing bracketed name with
  | nil => cases split
  | cons c tail inductionHypothesis =>
      have deeper {inside : Bool}
          (mapped : (splitFieldName inside tail).map (Prod.map (c :: ·) id) =
            .ok (name, mark, rest)) :
          c :: tail = name ++ mark :: rest ∧ (mark = '}' ∨ mark = ':' ∨ mark = '!') := by
        obtain ⟨⟨inner, other, behind⟩, found, same⟩ := ok_of_map mapped
        obtain ⟨rfl, rest⟩ := Prod.mk.inj same
        obtain ⟨rfl, rfl⟩ := Prod.mk.inj rest
        obtain ⟨rfl, ends⟩ := inductionHypothesis found
        exact ⟨rfl, ends⟩
      unfold splitFieldName at split
      split at split
      · exact deeper split
      split at split
      · cases split
      split at split
      · next ends =>
          obtain ⟨rfl, rest⟩ := Prod.mk.inj (Except.ok.inj split)
          obtain ⟨rfl, rfl⟩ := Prod.mk.inj rest
          exact ⟨rfl, ends⟩
      · exact deeper split

/-- A layout ends at the brace that closes its field. -/
theorem splitLayout_eq {opened : Nat} {layout : Text}
    (split : splitLayout opened text = .ok (layout, rest)) : text = layout ++ '}' :: rest := by
  fun_induction splitLayout opened text generalizing layout with
  | case1 => cases split
  | case2 opened tail inductionHypothesis =>
      obtain ⟨⟨inner, behind⟩, found, same⟩ := ok_of_map split
      obtain ⟨rfl, rfl⟩ := Prod.mk.inj same
      exact congrArg ('{' :: ·) (inductionHypothesis found)
  | case3 tail =>
      obtain ⟨rfl, rfl⟩ := Prod.mk.inj (Except.ok.inj split)
      rfl
  | case4 opened tail inductionHypothesis =>
      obtain ⟨⟨inner, behind⟩, found, same⟩ := ok_of_map split
      obtain ⟨rfl, rfl⟩ := Prod.mk.inj same
      exact congrArg ('}' :: ·) (inductionHypothesis found)
  | case5 opened c tail _ _ _ inductionHypothesis =>
      obtain ⟨⟨inner, behind⟩, found, same⟩ := ok_of_map split
      obtain ⟨rfl, rfl⟩ := Prod.mk.inj same
      exact congrArg (c :: ·) (inductionHypothesis found)

/-- A field ends with a closing brace. -/
theorem exists_splitField_eq {field : Field} (split : splitField text = .ok (field, rest)) :
    ∃ front, text = front ++ '}' :: rest := by
  have laidOut {after lead : Text} {build : Text -> Field} (whole : text = lead ++ after)
      (mapped : (splitLayout 0 after).map (Prod.map build id) = .ok (field, rest)) :
      ∃ front, text = front ++ '}' :: rest := by
    obtain ⟨⟨layout, behind⟩, found, same⟩ := ok_of_map mapped
    obtain ⟨-, rfl⟩ := Prod.mk.inj same
    exact ⟨lead ++ layout, by rw [whole, splitLayout_eq found, List.append_assoc]; rfl⟩
  unfold splitField at split
  split at split
  · cases split
  · next name behind named =>
      have whole := (splitFieldName_eq named).1
      split at split
      · cases split
      · cases split
      · next conversion after =>
          obtain ⟨-, rfl⟩ := Prod.mk.inj (Except.ok.inj split)
          exact ⟨name ++ ['!', conversion], by simp [whole]⟩
      · next conversion after =>
          exact @laidOut after (name ++ ['!', conversion, ':']) _ (by simp [whole]) split
      · cases split
  · next name behind named =>
      exact @laidOut behind (name ++ [':']) _ (by simp [(splitFieldName_eq named).1]) split
  · next name mark behind noConversion noLayout named =>
      obtain ⟨whole, closing | layout | conversion⟩ := splitFieldName_eq named
      · obtain ⟨-, rfl⟩ := Prod.mk.inj (Except.ok.inj split)
        exact ⟨name, closing ▸ whole⟩
      · exact absurd layout noLayout
      · exact absurd conversion noConversion

/-- The braces that the parts of a template take: two for a brace of the text, which is doubled, and
two at least for a field. -/
def weight : List Part -> Nat
  | [] => 0
  | .char c :: parts => 2 * braces [c] + weight parts
  | .field _ :: parts => 2 + weight parts

/-- A template has the braces that its parts take. -/
theorem weight_le_of_parse {template : Text} (faultless : (parse template).2 = none) :
    weight (parse template).1 ≤ braces template := by
  have opening : braces ['{'] = 1 := rfl
  have closing : braces ['}'] = 1 := rfl
  fun_induction parse template with
  | case1 => exact Nat.zero_le _
  | case2 rest inductionHypothesis =>
      have later := inductionHypothesis faultless
      rw [braces_cons, braces_cons '{' rest]
      simp only [Prod.map_fst, weight]
      omega
  | case3 rest inductionHypothesis =>
      have later := inductionHypothesis faultless
      rw [braces_cons, braces_cons '}' rest]
      simp only [Prod.map_fst, weight]
      omega
  | case4 => cases faultless
  | case5 => cases faultless
  | case6 => cases faultless
  | case7 rest _ _ field after found inductionHypothesis =>
      have later := inductionHypothesis faultless
      obtain ⟨front, whole⟩ := exists_splitField_eq found
      have behind := braces_behind front after
      rw [← whole] at behind
      rw [braces_cons]
      simp only [Prod.map_fst, weight]
      omega
  | case8 c rest _ _ _ noClosing noOpening inductionHypothesis =>
      have later := inductionHypothesis faultless
      have plain : braces [c] = 0 := braces_eq_zero_iff.2
        ⟨fun held => noOpening (List.mem_singleton.1 held).symm,
          fun held => noClosing (List.mem_singleton.1 held).symm⟩
      rw [braces_cons]
      simp only [Prod.map_fst, weight]
      omega

end Counting

/-- A field that shows the version, or a part of it: it picks no member by a point, and no brace
stands in its layout. -/
structure Field.Direct (field : Field) : Prop where
  noMember : '.' ∉ field.name
  layout : Unbraced field.layout

/-- A template of which all fields are direct. -/
def Direct (template : Text) : Prop :=
  ∀ field, .field field ∈ (parse template).1 → field.Direct

section Layouts

variable {layout : Layout} {spec text : Text}

/-- A fill in front of an alignment is written in the layout. -/
theorem fill_mem_of_splitAlignment {fill : Char} (written : (splitAlignment spec).1 = some fill) :
    fill ∈ spec := by
  unfold splitAlignment at written
  split at written
  · next first mark rest =>
      split at written
      · exact Option.some.inj written ▸ List.mem_cons_self
      · split at written <;> cases written
  · split at written <;> cases written
  · cases written

/-- A specification has the fill in front of its alignment, if there is one. -/
theorem fill_eq_of_parse {kind : Text} {usualType : Char} {specification : Specification}
    (parsed : Specification.parse kind usualType spec = .ok specification) :
    specification.fill = (splitAlignment spec).1 := by
  unfold Specification.parse at parsed
  dsimp only at parsed
  obtain ⟨width, -, behindWidth⟩ := ok_of_bind parsed
  obtain ⟨separator, -, behindSeparator⟩ := ok_of_bind behindWidth
  obtain ⟨precision, -, behindPrecision⟩ := ok_of_bind behindSeparator
  split at behindPrecision
  all_goals
    obtain ⟨type, -, finished⟩ := ok_of_bind behindPrecision
    split at finished
    · split at finished
      · cases finished
        rfl
      · cases finished
    · cases finished
      rfl

/-- The padding of a layout is written in it, unless it is one of zeros or of spaces. -/
theorem fill_mem_of_parse (parsed : Layout.parse spec = .ok layout) :
    layout.fill ∈ ' ' :: '0' :: spec := by
  unfold Layout.parse at parsed
  obtain ⟨specification, read, finished⟩ := ok_of_bind parsed
  have padding : layout.fill = specification.padding := by
    -- only the last of the checks leads to a layout
    repeat' split at finished
    all_goals cases finished
    all_goals rfl
  rw [padding, Specification.padding]
  cases written : specification.fill with
  | none =>
      rw [Option.getD_none]
      split
      · exact List.mem_cons_of_mem _ List.mem_cons_self
      · exact List.mem_cons_self
  | some fill =>
      rw [fill_eq_of_parse read] at written
      exact List.mem_cons_of_mem _ (List.mem_cons_of_mem _ (fill_mem_of_splitAlignment written))

/-- Without braces in a layout, its padding is none. -/
theorem unbraced_fill (parsed : Layout.parse spec = .ok layout) (unbraced : Unbraced spec) :
    Unbraced [layout.fill] := by
  have member := fill_mem_of_parse parsed
  have written : Unbraced (' ' :: '0' :: spec) :=
    ⟨by simp [unbraced.1], by simp [unbraced.2]⟩
  exact ⟨fun held => written.1 (List.mem_singleton.1 held ▸ member),
    fun held => written.2 (List.mem_singleton.1 held ▸ member)⟩

/-- A text that is laid out takes the width of the layout, or more if more is kept of it. -/
theorem length_apply (layout : Layout) (text : Text) :
    (layout.apply text).length =
      max layout.width (min (layout.precision.getD text.length) text.length) := by
  obtain ⟨fill, alignment, width, precision⟩ := layout
  cases precision
  all_goals
    simp only [Layout.apply, List.length_append, List.length_replicate, List.length_take,
      Option.getD_none, Option.getD_some]
    split <;> omega

/-- A text is laid out with padding around what is kept of it. -/
theorem exists_apply_eq (layout : Layout) (text : Text) : ∃ count before behind,
    layout.apply text = List.replicate before layout.fill ++ text.take count ++
      List.replicate behind layout.fill := by
  obtain ⟨fill, alignment, width, precision⟩ := layout
  cases precision with
  | none => exact ⟨text.length, _, _, by rw [List.take_length]; rfl⟩
  | some count => exact ⟨count, _, _, rfl⟩

/-- A text is laid out with its own characters and the padding. -/
theorem mem_apply {c : Char} (member : c ∈ layout.apply text) : c = layout.fill ∨ c ∈ text := by
  obtain ⟨count, before, behind, whole⟩ := exists_apply_eq layout text
  simp only [whole, List.mem_append, List.mem_replicate] at member
  rcases member with (⟨-, padded⟩ | shown) | ⟨-, padded⟩
  · exact .inl padded
  · exact .inr (List.mem_of_mem_take shown)
  · exact .inl padded

/-- A text without braces is laid out without braces by a layout without braces. -/
theorem unbraced_apply (parsed : Layout.parse spec = .ok layout) (written : Unbraced spec)
    (unbraced : Unbraced text) : Unbraced (layout.apply text) := by
  have fill := unbraced_fill parsed written
  constructor
  · intro held
    rcases mem_apply held with padded | own
    · exact fill.1 (List.mem_singleton.2 padded)
    · exact unbraced.1 own
  · intro held
    rcases mem_apply held with padded | own
    · exact fill.2 (List.mem_singleton.2 padded)
    · exact unbraced.2 own

/-- A text that is one character longer is laid out with one character more at most. -/
theorem length_apply_le (layout : Layout) {longer : Text}
    (close : longer.length ≤ text.length + 1) :
    (layout.apply longer).length ≤ (layout.apply text).length + 1 := by
  rw [length_apply, length_apply]
  cases layout.precision <;> simp only [Option.getD_none, Option.getD_some] <;> omega

/-- A text that is laid out has a layout that can be read. -/
theorem layOut_text_ok {shown : Text} (laidOut : layOut spec (.text text) = .ok shown) :
    ∃ layout, Layout.parse spec = .ok layout ∧ shown = layout.apply text := by
  obtain ⟨layout, read, behindRead⟩ := ok_of_bind laidOut
  obtain ⟨-, -, same⟩ := ok_of_bind behindRead
  refine ⟨layout, ?_, (Except.ok.inj same).symm⟩
  cases parsed : Layout.parse spec with
  | error fault =>
      rw [parsed] at read
      cases read
  | ok found =>
      rw [parsed] at read
      exact congrArg Except.ok (Except.ok.inj read)

end Layouts

section Fields

variable {field : Field}

/-- A direct field in front of other parts that are filled lays out its value. -/
theorem Field.Direct.laidOut (direct : field.Direct) {version text : Text}
    {fillLayout : Text -> Except Fault Text} {parts : List Part}
    (filled : fillParts version fillLayout (.field field :: parts) = .ok text) :
    ∃ value converted front rest, resolve version field.name = .ok value ∧
      convert value field.conversion = .ok converted ∧
      layOut field.layout converted = .ok front ∧
      fillParts version fillLayout parts = .ok rest ∧ text = front ++ rest := by
  have noField : field.layout.contains '{' = false :=
    Bool.eq_false_iff.2 fun held => direct.layout.1 (List.contains_iff_mem.1 held)
  rw [fillParts, noField] at filled
  obtain ⟨value, resolved, behindValue⟩ := ok_of_bind filled
  obtain ⟨converted, conversion, behindConversion⟩ := ok_of_bind behindValue
  obtain ⟨spec, written, behindLayout⟩ := ok_of_bind behindConversion
  obtain rfl := Except.ok.inj written
  obtain ⟨front, shown, behindShown⟩ := ok_of_bind behindLayout
  obtain ⟨rest, others, same⟩ := ok_of_bind behindShown
  exact ⟨value, converted, front, rest, resolved, conversion, shown, others,
    (Except.ok.inj same).symm⟩

/-- The empty version has no parts. -/
theorem part_empty_ne_ok (key : Text) (number : Option Nat) (value : Value) :
    part (.text []) key number ≠ .ok value := by
  intro picked
  cases number <;> cases picked

/-- No part of the empty version can be picked. -/
theorem access_empty_ne_ok (fuel : Nat) (rest : Text) (value : Value) :
    access (fuel + 1) (.text []) ('[' :: rest) ≠ .ok value := by
  intro accessed
  rw [access] at accessed
  obtain ⟨number, -, behindNumber⟩ := ok_of_bind accessed
  split at behindNumber
  · cases behindNumber
  · obtain ⟨picked, found, -⟩ := ok_of_bind behindNumber
    exact part_empty_ne_ok _ number picked found

/-- A name without point that has a value for the empty version is the version. -/
theorem name_eq_of_resolve {name : Text} {value : Value} (noMember : '.' ∉ name)
    (resolved : resolve [] name = .ok value) : name = "version".toList := by
  have whole : name.takeWhile (fun c => c != '.' && c != '[') ++
      name.dropWhile (fun c => c != '.' && c != '[') = name := List.takeWhile_append_dropWhile
  unfold resolve at resolved
  dsimp only at resolved
  split at resolved
  · cases resolved
  · cases resolved
  split at resolved
  · cases resolved
  split at resolved
  · next first =>
      rw [first] at resolved whole
      cases behind : name.dropWhile (fun c => c != '.' && c != '[') with
      | nil => rw [← whole, behind, List.append_nil]
      | cons c rest =>
          -- behind the name there is a bracket, so a part would have to be picked
          rw [behind] at whole
          have stops := List.head?_dropWhile_not (fun c => c != '.' && c != '[') name
          have member : c ∈ name := whole ▸ List.mem_append_right _ List.mem_cons_self
          have noPoint : c ≠ '.' := fun point => noMember (point ▸ member)
          simp only [behind, List.head?_cons] at stops
          have bracket : c = '[' := by simpa [noPoint] using stops
          have long : name.length = 7 + rest.length + 1 := by
            rw [← whole, List.length_append]
            rfl
          rw [long, ← whole, List.drop_left, bracket] at resolved
          exact absurd resolved (access_empty_ne_ok _ rest value)
  · cases resolved

/-- A value is converted to a text without braces for the empty version, and to one of one character
more at most for a version of one. -/
theorem convert_ok {conversion : Option Char} {empty single : Value}
    (first : convert (.text []) conversion = .ok empty)
    (second : convert (.text ['a']) conversion = .ok single) :
    ∃ short long, empty = .text short ∧ single = .text long ∧ Unbraced short ∧
      long.length ≤ short.length + 1 := by
  unfold convert at first second
  split at first
  all_goals cases first
  all_goals cases second
  all_goals exact ⟨_, _, rfl, rfl, by decide, by decide⟩

/-- A direct field that is filled for the empty version and for a version of one character shows no
brace for the one, and one character more at most for the other. -/
theorem Field.Direct.shown (direct : field.Direct) {parts : List Part} {short long : Text}
    {fillLayout fillOther : Text -> Except Fault Text}
    (first : fillParts [] fillLayout (.field field :: parts) = .ok short)
    (second : fillParts ['a'] fillOther (.field field :: parts) = .ok long) :
    ∃ front further rest others, short = front ++ rest ∧ long = further ++ others ∧
      fillParts [] fillLayout parts = .ok rest ∧ fillParts ['a'] fillOther parts = .ok others ∧
      Unbraced front ∧ further.length ≤ front.length + 1 := by
  obtain ⟨empty, emptyText, front, rest, resolved, converted, shown, filled, same⟩ :=
    direct.laidOut first
  obtain ⟨single, singleText, further, others, resolvedToo, convertedToo, shownToo, filledToo,
    sameToo⟩ := direct.laidOut second
  have name := name_eq_of_resolve direct.noMember resolved
  rw [name] at resolved resolvedToo
  cases resolved
  cases resolvedToo
  obtain ⟨emptyContent, singleContent, rfl, rfl, unbraced, close⟩ :=
    convert_ok converted convertedToo
  obtain ⟨layout, parsed, rfl⟩ := layOut_text_ok shown
  obtain ⟨otherLayout, parsedToo, rfl⟩ := layOut_text_ok shownToo
  obtain rfl := Except.ok.inj (parsed.symm.trans parsedToo)
  exact ⟨_, _, rest, others, same, sameToo, filled, filledToo,
    unbraced_apply parsed direct.layout unbraced, length_apply_le layout close⟩

end Fields

/-- Direct parts that are filled for the empty version and for a version of one character take two
braces for each brace that is shown for the one, and two for each character more for the other. -/
theorem counts_of_fillParts {parts : List Part}
    (direct : ∀ field, .field field ∈ parts → field.Direct) {short long : Text}
    {fillLayout fillOther : Text -> Except Fault Text}
    (first : fillParts [] fillLayout parts = .ok short)
    (second : fillParts ['a'] fillOther parts = .ok long) :
    2 * braces short + 2 * long.length ≤ weight parts + 2 * short.length := by
  induction parts generalizing short long with
  | nil =>
      cases first
      cases second
      exact Nat.le_refl _
  | cons part parts inductionHypothesis =>
      have later := @inductionHypothesis fun field member =>
        direct field (List.mem_cons_of_mem part member)
      cases part with
      | char c =>
          obtain ⟨rest, filled, rfl⟩ := ok_of_map first
          obtain ⟨others, filledToo, rfl⟩ := ok_of_map second
          have counted := later filled filledToo
          rw [braces_cons, List.length_cons, List.length_cons, weight]
          omega
      | field field =>
          obtain ⟨front, further, rest, others, rfl, rfl, filled, filledToo, unbraced, close⟩ :=
            (direct field List.mem_cons_self).shown first second
          have counted := later filled filledToo
          have none := braces_eq_zero_iff.2 unbraced
          rw [braces_append, List.length_append, List.length_append, weight]
          omega

/-- A template with direct fields that is filled by putting the version in its places has no braces
elsewhere. -/
theorem plain_of_fill_eq {template : Text} (direct : Direct template)
    (filled : ∀ version, fill template version = .ok (replaced template version)) :
    Plain template := by
  obtain ⟨faultless, short⟩ := fill_eq_ok_iff.1 (filled [])
  obtain ⟨-, long⟩ := fill_eq_ok_iff.1 (filled ['a'])
  have counted := counts_of_fillParts direct short long
  have taken := weight_le_of_parse faultless
  have whole := congrArg braces (joined_pieces template)
  have around : braces versionField = 2 := rfl
  have present := pieces_ne_nil template
  -- The empty version shows the braces of the pieces, and the other one has a character more for
  -- each place. So the fields are as many as the places, and take all the braces there are.
  simp only [replaced, @Text.measure_joined braces braces_append _ _ present,
    @Text.measure_joined List.length (fun _ _ => List.length_append) _ _ present, around,
    List.length_nil, List.length_singleton] at counted whole
  have empty : braces [] = 0 := rfl
  have none : braces (pieces template).flatten = 0 := by omega
  have unbraced := braces_eq_zero_iff.1 none
  exact fun piece member =>
    ⟨fun opening => unbraced.1 (List.mem_flatten_of_mem member opening),
      fun closing => unbraced.2 (List.mem_flatten_of_mem member closing)⟩

/-- A plain template has no fields but its places. -/
theorem Plain.direct {template : Text} (plain : Plain template) : Direct template := by
  have parsed := parse_joined plain
  rw [joined_pieces] at parsed
  have fields (list : List Text) : ∀ field, .field field ∈ plainParts list → field = place := by
    fun_induction plainParts list with
    | case1 => simp
    | case2 piece => simp
    | case3 piece next others inductionHypothesis =>
        intro field member
        rcases List.mem_append.1 member with char | later
        · simp at char
        · rcases List.mem_cons.1 later with same | further
          · exact Part.field.inj same
          · exact inductionHypothesis field further
  intro field member
  rw [parsed] at member
  rw [fields _ field member]
  exact ⟨by decide, by decide⟩

end EditorData.Template
