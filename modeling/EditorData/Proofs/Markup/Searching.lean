import EditorData.Proofs.Markup.Printing

/-!
# Searching printed markup

The end of an element is found by a search for its closing tag that skips over one element
of the same name. `Avoids` says that no marker begins within a text, whatever stands behind
it, and `Passed` that the search for the end of an element goes past a text as a whole. Both
are kept by putting texts one behind the other, so a printed forest avoids the tags of a
kind that is not in it, and is passed if that kind is nested once at most.
-/

namespace EditorData.Markup

/-- No occurrence of the marker begins within the text, whatever follows. -/
def Avoids (marker : Text) : Text -> Prop
  | [] => True
  | c :: text => (∀ rest, Text.after? marker (c :: (text ++ rest)) = none) ∧ Avoids marker text

/-- Texts that avoid a marker avoid it one behind the other. -/
theorem Avoids.append {marker left right : Text} (first : Avoids marker left)
    (second : Avoids marker right) : Avoids marker (left ++ right) := by
  induction left with
  | nil => exact second
  | cons c left inductionHypothesis =>
      obtain ⟨here, later⟩ := first
      refine ⟨fun rest => ?_, inductionHypothesis later⟩
      rw [List.append_eq, List.append_assoc]
      exact here (right ++ rest)

/-- A text without the first character of a marker avoids that marker. -/
theorem Avoids.of_not_mem {first : Char} {marker text : Text} (absent : first ∉ text) :
    Avoids (first :: marker) text := by
  induction text with
  | nil => trivial
  | cons c text inductionHypothesis =>
      obtain ⟨differs, later⟩ := not_or.1 fun either => absent (List.mem_cons.2 either)
      exact ⟨fun rest => if_neg (Ne.symm differs), inductionHypothesis later⟩

/-- Cutting at a marker goes past a text that avoids it. -/
theorem cut?_of_avoids {marker text : Text} (avoided : Avoids marker text) (rest : Text) :
    Text.cut? marker (text ++ rest) = (Text.cut? marker rest).map (Prod.map (text ++ ·) id) := by
  induction text with
  | nil =>
      rw [List.nil_append]
      cases Text.cut? marker rest <;> rfl
  | cons c text inductionHypothesis =>
      rw [List.cons_append, Text.cut?, avoided.1 rest, inductionHypothesis avoided.2]
      cases Text.cut? marker rest <;> rfl

/-- A text that avoids a marker is cut at the marker behind it. -/
theorem cut?_append_marker {first : Char} {marker text : Text}
    (avoided : Avoids (first :: marker) text) (rest : Text) :
    Text.cut? (first :: marker) (text ++ (first :: marker ++ rest)) = some (text, rest) := by
  have found : Text.cut? (first :: marker) (first :: (marker ++ rest)) = some ([], rest) := by
    rw [Text.cut?, ← List.cons_append, Text.after?_append]
  rw [cut?_of_avoids avoided, List.cons_append, found]
  simp

/-- A text is cut at a character exactly if it has the character. -/
theorem cut?_eq_none_iff {c : Char} {text : Text} : Text.cut? [c] text = none ↔ c ∉ text := by
  constructor
  · intro missing member
    obtain ⟨before, after, rfl, first⟩ := List.eq_append_cons_of_mem member
    have found := cut?_append_marker (@Avoids.of_not_mem c [] before first) after
    rw [List.singleton_append, missing] at found
    cases found
  · intro absent
    cases found : Text.cut? [c] text with
    | none => rfl
    | some sides =>
        obtain ⟨before, after⟩ := sides
        simp [Text.eq_append_of_cut? found] at absent

/-- A text up to its only closing angle bracket avoids a tag that none of its opening angle
brackets begins. -/
theorem Avoids.of_angle {name text : Text} (nameOpen : '>' ∉ name) (textOpen : '>' ∉ text)
    (differs : ∀ before after, text = before ++ '<' :: after -> after ≠ name) :
    Avoids ('<' :: (name ++ ['>'])) (text ++ ['>']) := by
  induction text with
  | nil => exact ⟨fun rest => if_neg (by decide), trivial⟩
  | cons c text inductionHypothesis =>
      have laterOpen : '>' ∉ text := fun member => textOpen (List.mem_cons_of_mem c member)
      refine ⟨fun rest => ?_, inductionHypothesis laterOpen fun before after split =>
        differs (c :: before) after (congrArg (c :: ·) split)⟩
      by_cases bracket : c = '<'
      · subst bracket
        rw [List.append_eq, List.append_assoc]
        cases found : Text.after? ('<' :: (name ++ ['>'])) ('<' :: (text ++ (['>'] ++ rest))) with
        | none => rfl
        | some after =>
            have whole := (List.cons.inj (Text.eq_append_of_after? found)).2
            have textCut := cut?_append_marker (@Avoids.of_not_mem '>' [] text laterOpen) rest
            have nameCut := cut?_append_marker (@Avoids.of_not_mem '>' [] name nameOpen) after
            rw [whole, List.append_eq, List.append_assoc, nameCut] at textCut
            have named := (Prod.mk.inj (Option.some.inj textCut)).1
            exact absurd named.symm (differs [] text rfl)
      · exact if_neg bracket

namespace Tag

variable (tag : Tag)

/-- A name has none of the characters that tags are made up with. -/
theorem name_unmarked : '<' ∉ tag.name ∧ '>' ∉ tag.name ∧ '/' ∉ tag.name ∧ '"' ∉ tag.name := by
  cases tag with
  | block kind => cases kind <;> decide
  | _ => decide

/-- The opening tag is the name between angle brackets. -/
theorem opening_eq : tag.opening = '<' :: (tag.name ++ ['>']) := rfl

/-- The closing tag is a slash and the name between angle brackets. -/
theorem closing_eq : tag.closing = '<' :: ('/' :: tag.name ++ ['>']) := rfl

/-- An opening tag is no closing tag. -/
theorem after?_closing_opening (rest : Text) :
    Text.after? tag.closing (tag.opening ++ rest) = none := by
  cases tag with
  | block kind => cases kind <;> rfl
  | _ => rfl

/-- Tags of the same name are the same. -/
theorem name_injective {tag other : Tag} (same : tag.name = other.name) : tag = other := by
  have found := ofName?_name tag
  rw [same, ofName?_name other] at found
  exact (Option.some.inj found).symm

end Tag

/-- The search for the end of an element stops at the closing tag. -/
theorem splitContent_closing (tag : Tag) (contentStart offset : Nat) (rest : Text) :
    splitContent tag contentStart offset (tag.closing ++ rest) = .ok ([], rest) := by
  rw [Tag.closing_eq, List.cons_append, splitContent, ← List.cons_append, ← Tag.closing_eq,
    Text.after?_append]

/-- The search for the end of an element goes past a character where neither tag begins. -/
theorem splitContent_skip {tag : Tag} {contentStart offset : Nat} {c : Char} {text : Text}
    (opened : Text.after? tag.opening (c :: text) = none)
    (closed : Text.after? tag.closing (c :: text) = none) :
    splitContent tag contentStart offset (c :: text) =
      (splitContent tag contentStart (offset + 1) text).map (Prod.map (c :: ·) id) := by
  rw [splitContent]
  simp only [closed]
  split
  · next nested found =>
      rw [opened] at found
      cases found
  · rfl

/-- The search for the end of an element goes past an element of the same name up to the first
closing tag. -/
theorem splitContent_nested {tag : Tag} {contentStart offset : Nat} {content rest : Text}
    (found : Text.cut? tag.closing (content ++ (tag.closing ++ rest)) = some (content, rest)) :
    splitContent tag contentStart offset (tag.enclose content ++ rest) =
      (splitContent tag contentStart (offset + (tag.enclose content).length) rest).map
        (Prod.map (tag.enclose content ++ ·) id) := by
  have whole : tag.enclose content ++ rest =
      tag.opening ++ (content ++ (tag.closing ++ rest)) := by
    simp [Tag.enclose]
  have opened := Text.after?_append tag.opening (content ++ (tag.closing ++ rest))
  have closed := Tag.after?_closing_opening tag (content ++ (tag.closing ++ rest))
  rw [whole]
  rw [Tag.opening_eq, List.cons_append] at opened closed ⊢
  rw [← Tag.opening_eq] at opened
  rw [splitContent]
  simp only [closed]
  split
  · next inner found' =>
      obtain rfl := Option.some.inj (opened.symm.trans found')
      split
      · next nested after cutting =>
          obtain ⟨rfl, rfl⟩ := Prod.mk.inj (Option.some.inj (cutting.symm.trans found))
          rfl
      · next absent =>
          rw [found] at absent
          cases absent
  · next absent =>
      rw [opened] at absent
      cases absent

/-- No attributes of a plain node end its opening tag. -/
theorem Node.attributes_open {node : Node} (plain : node.Plain) : '>' ∉ node.attributes := by
  cases node with
  | link label target =>
      intro member
      rcases List.mem_append.1 member with lead | quote
      · rcases List.mem_append.1 lead with key | value
        · revert key
          decide
        · exact plain.2.2 value
      · revert quote
        decide
  | _ => exact List.not_mem_nil

/-- Attributes have a quotation mark at their end. -/
theorem Node.attributes_quoted {node : Node} (present : node.attributes ≠ []) :
    node.attributes.getLast? = some '"' := by
  cases node with
  | link label target => exact List.getLast?_concat
  | _ => exact absurd rfl present

/-- A tag without attributes avoids a tag of another label. -/
theorem avoids_bareTag {label name : Text} (unopened : '<' ∉ label) (labelOpen : '>' ∉ label)
    (nameOpen : '>' ∉ name) (differs : label ≠ name) :
    Avoids ('<' :: (name ++ ['>'])) ('<' :: label ++ ['>']) := by
  have textOpen : '>' ∉ '<' :: label := by simpa using labelOpen
  refine Avoids.of_angle nameOpen textOpen fun before after split same => ?_
  cases before with
  | nil => exact differs ((List.cons.inj split).2.trans same)
  | cons c before =>
      have another : '<' ∈ label := by
        rw [(List.cons.inj split).2]
        exact List.mem_append_right before List.mem_cons_self
      exact unopened another

/-- A tag that ends with a quotation mark avoids a tag without one. -/
theorem avoids_quotedTag {label name : Text} (quoted : label.getLast? = some '"')
    (labelOpen : '>' ∉ label) (nameOpen : '>' ∉ name) (unquoted : '"' ∉ name) :
    Avoids ('<' :: (name ++ ['>'])) ('<' :: label ++ ['>']) := by
  have textOpen : '>' ∉ '<' :: label := by simpa using labelOpen
  refine Avoids.of_angle nameOpen textOpen fun before after split same => ?_
  -- whatever follows an angle bracket of the tag has the quotation mark at its end
  have last : ('<' :: after).getLast? = some '"' := by
    have whole := congrArg List.getLast? split
    rw [List.getLast?_append, List.getLast?_cons, quoted, List.getLast?_cons] at whole
    rw [List.getLast?_cons]
    exact whole.symm
  rcases List.mem_cons.1 (List.mem_of_getLast? last) with bracket | mark
  · cases bracket
  · exact unquoted (same ▸ mark)

/-- The opening tag of a node, with its attributes, avoids a tag of another name. -/
theorem avoids_openingTag {node : Node} (plain : node.Plain) (tag : Tag) {name : Text}
    (unquoted : '"' ∉ name) (nameOpen : '>' ∉ name) (differs : tag.name ≠ name) :
    Avoids ('<' :: (name ++ ['>'])) ('<' :: (tag.name ++ node.attributes) ++ ['>']) := by
  obtain ⟨unopened, unclosed, -, -⟩ := tag.name_unmarked
  by_cases bare : node.attributes = []
  · rw [bare, List.append_nil]
    exact avoids_bareTag unopened unclosed nameOpen differs
  · have labelOpen : '>' ∉ tag.name ++ node.attributes := fun member =>
      (List.mem_append.1 member).elim unclosed (Node.attributes_open plain)
    have quoted : (tag.name ++ node.attributes).getLast? = some '"' := by
      rw [List.getLast?_append, Node.attributes_quoted bare]
      rfl
    exact avoids_quotedTag quoted labelOpen nameOpen unquoted

/-- A closing tag avoids a tag of another name. -/
theorem avoids_closingTag (tag : Tag) {name : Text} (nameOpen : '>' ∉ name)
    (differs : '/' :: tag.name ≠ name) : Avoids ('<' :: (name ++ ['>'])) tag.closing := by
  obtain ⟨unopened, unclosed, -, -⟩ := tag.name_unmarked
  exact avoids_bareTag (by simpa using unopened) (by simpa using unclosed) nameOpen differs

/-- A text avoids both tags of an element. -/
structure Clear (tag : Tag) (text : Text) : Prop where
  opened : Avoids tag.opening text
  closed : Avoids tag.closing text

namespace Clear

variable {tag : Tag}

/-- No text avoids every tag. -/
theorem nil : Clear tag [] :=
  ⟨trivial, trivial⟩

/-- Texts that avoid the tags of an element avoid them one behind the other. -/
theorem append {left right : Text} (first : Clear tag left) (second : Clear tag right) :
    Clear tag (left ++ right) :=
  ⟨first.opened.append second.opened, first.closed.append second.closed⟩

/-- A text without an angle bracket avoids every tag. -/
theorem of_plain {content : Text} (plain : '<' ∉ content) : Clear tag content :=
  ⟨Avoids.of_not_mem plain, Avoids.of_not_mem plain⟩

/-- The opening tag of another element avoids the tags of an element. -/
theorem openingTag {node : Node} (plain : node.Plain) {other : Tag} (differs : other ≠ tag) :
    Clear tag ('<' :: (other.name ++ node.attributes) ++ ['>']) := by
  obtain ⟨-, unclosed, -, unquoted⟩ := tag.name_unmarked
  obtain ⟨-, -, unslashed, -⟩ := other.name_unmarked
  constructor
  · exact avoids_openingTag plain other unquoted unclosed fun same =>
      differs (Tag.name_injective same)
  · refine avoids_openingTag plain other (by simpa using unquoted) (by simpa using unclosed)
      fun same => ?_
    exact unslashed (same ▸ List.mem_cons_self)

/-- The closing tag of another element avoids the tags of an element. -/
theorem closingTag {other : Tag} (differs : other ≠ tag) : Clear tag other.closing := by
  obtain ⟨-, unclosed, unslashed, -⟩ := tag.name_unmarked
  constructor
  · refine avoids_closingTag other unclosed fun same => ?_
    exact unslashed (same ▸ List.mem_cons_self)
  · refine avoids_closingTag other (by simpa using unclosed) fun same => ?_
    exact differs (Tag.name_injective (List.cons.inj same).2)

/-- A printed element avoids the tags of another one if what lies between its tags does. -/
theorem element (node : Node) {other : Tag} (named : node.tag? = some other)
    (plain : node.Plain) (differs : other ≠ tag) (inner : Clear tag node.inner) :
    Clear tag node.print := by
  rw [Node.print_of_tag? named]
  simpa using (openingTag plain differs).append (inner.append (closingTag differs))

end Clear

/-- The search for the end of an element goes past the text as a whole. -/
def Passed (tag : Tag) (text : Text) : Prop :=
  ∀ contentStart offset rest,
    splitContent tag contentStart offset (text ++ rest) =
      (splitContent tag contentStart (offset + text.length) rest).map (Prod.map (text ++ ·) id)

namespace Passed

variable {tag : Tag}

/-- The search goes past no text. -/
theorem nil : Passed tag [] := by
  intro contentStart offset rest
  rw [List.nil_append, List.length_nil, Nat.add_zero]
  cases splitContent tag contentStart offset rest <;> rfl

/-- The search goes past texts one behind the other. -/
theorem append {left right : Text} (first : Passed tag left) (second : Passed tag right) :
    Passed tag (left ++ right) := by
  intro contentStart offset rest
  rw [List.append_assoc, first, second, List.length_append, Nat.add_assoc]
  cases splitContent tag contentStart (offset + (left.length + right.length)) rest with
  | error fault => rfl
  | ok split => simp [Except.map, Prod.map]

/-- The search goes past a text with neither tag of the element. -/
theorem of_clear {text : Text} (clear : Clear tag text) : Passed tag text := by
  induction text with
  | nil => exact nil
  | cons c text inductionHypothesis =>
      obtain ⟨⟨openedHere, openedLater⟩, closedHere, closedLater⟩ := clear
      have later := inductionHypothesis ⟨openedLater, closedLater⟩
      intro contentStart offset rest
      rw [List.cons_append, splitContent_skip (openedHere rest) (closedHere rest), later,
        List.length_cons, Nat.add_assoc, Nat.add_comm 1]
      cases splitContent tag contentStart (offset + (text.length + 1)) rest with
      | error fault => rfl
      | ok split => rfl

/-- The search goes past an element without attributes whose content avoids its closing tag. -/
theorem enclose {content : Text} (closed : Avoids tag.closing content) :
    Passed tag (tag.enclose content) := by
  intro contentStart offset rest
  exact splitContent_nested (cut?_append_marker closed rest)

/-- The search goes past another element if it goes past what lies between its tags. -/
theorem element (node : Node) {other : Tag} (named : node.tag? = some other)
    (plain : node.Plain) (differs : other ≠ tag) (inner : Passed tag node.inner) :
    Passed tag node.print := by
  have first := of_clear (Clear.openingTag plain differs)
  have last := of_clear (Clear.closingTag differs)
  rw [Node.print_of_tag? named]
  simpa using first.append (inner.append last)

end Passed

mutual

/-- A printed node in which a kind does not occur avoids the tags of that kind. -/
theorem Clear.node {kind : Block} {node : Node} (plain : node.Plain)
    (absent : node.nesting kind = 0) : Clear (.block kind) node.print := by
  cases node with
  | text content => exact Clear.of_plain plain
  | block other children =>
      have apart : nestingAll kind children = 0 ∧ other ≠ kind := by
        simpa [Node.nesting] using absent
      have differs : Tag.block other ≠ .block kind := by simpa using apart.2
      exact Clear.element (.block other children) rfl plain differs (Clear.nodes plain apart.1)
  | emphasis content =>
      exact Clear.element (.emphasis content) rfl plain (by simp) (Clear.of_plain plain)
  | link label target =>
      exact Clear.element (.link label target) rfl plain (by simp) (Clear.of_plain plain.1)
  | code content =>
      exact Clear.element (.code content) rfl plain (by simp) (Clear.of_plain plain)

/-- A printed forest in which a kind does not occur avoids the tags of that kind. -/
theorem Clear.nodes {kind : Block} {nodes : List Node} (plain : PlainAll nodes)
    (absent : nestingAll kind nodes = 0) : Clear (.block kind) (printAll nodes) := by
  cases nodes with
  | nil => exact Clear.nil
  | cons node rest =>
      have both : node.nesting kind = 0 ∧ nestingAll kind rest = 0 := by
        simpa [nestingAll] using absent
      exact (Clear.node plain.1 both.1).append (Clear.nodes plain.2.1 both.2)

end

mutual

/-- The search for the end of a kind goes past a printed node in which it is nested once at
most. -/
theorem Passed.node {kind : Block} {node : Node} (plain : node.Plain)
    (shallow : node.nesting kind ≤ 1) : Passed (.block kind) node.print := by
  by_cases absent : node.nesting kind = 0
  · exact Passed.of_clear (Clear.node plain absent)
  · cases node with
    | block other children =>
        by_cases same : other = kind
        · subst same
          have inner : nestingAll other children = 0 := by
            simpa [Node.nesting] using shallow
          exact Passed.enclose (Clear.nodes plain inner).closed
        · have inner : nestingAll kind children ≤ 1 := by
            simpa [Node.nesting, same] using shallow
          have differs : Tag.block other ≠ .block kind := by simpa using same
          exact Passed.element (.block other children) rfl plain differs (Passed.nodes plain inner)
    | _ => exact absurd rfl absent

/-- The search for the end of a kind goes past a printed forest in which it is nested once at
most. -/
theorem Passed.nodes {kind : Block} {nodes : List Node} (plain : PlainAll nodes)
    (shallow : nestingAll kind nodes ≤ 1) : Passed (.block kind) (printAll nodes) := by
  cases nodes with
  | nil => exact Passed.nil
  | cons node rest =>
      have both : node.nesting kind ≤ 1 ∧ nestingAll kind rest ≤ 1 := by
        simpa [nestingAll, Nat.max_le] using shallow
      exact (Passed.node plain.1 both.1).append (Passed.nodes plain.2.1 both.2)

end

/-- The search for the end of an element finds the element's own closing tag. -/
theorem splitContent_inner {node : Node} {tag : Tag} (named : node.tag? = some tag)
    (sound : WellFormed [node]) (contentStart offset : Nat) (rest : Text) :
    splitContent tag contentStart offset (node.inner ++ tag.closing ++ rest) =
      .ok (node.inner, rest) := by
  have passed : Passed tag node.inner := by
    cases node with
    | text content => cases named
    | block kind children =>
        cases named
        have twice := sound.shallow kind
        have inner : nestingAll kind children ≤ 1 := by
          simp [nestingAll, Node.nesting] at twice
          omega
        exact Passed.nodes sound.plain.1 inner
    | emphasis content =>
        cases named
        exact Passed.of_clear (Clear.of_plain sound.plain.1)
    | link label target =>
        cases named
        exact Passed.of_clear (Clear.of_plain sound.plain.1.1)
    | code content =>
        cases named
        exact Passed.of_clear (Clear.of_plain sound.plain.1)
  rw [List.append_assoc, passed, splitContent_closing]
  simp [Except.map]

end EditorData.Markup
