import EditorData.Proofs.Markup.Searching

/-!
# Reading printed markup

A well-formed forest is read back from its text, without its empty texts. The reader holds
the text in front of the next tag, so the induction is on what is still to be printed, with
such a text in front of it.
-/

namespace EditorData.Markup

namespace WellFormed

/-- The first node of a well-formed forest is well-formed. -/
theorem head {node : Node} {rest : List Node} (sound : WellFormed (node :: rest)) :
    WellFormed [node] where
  plain := ⟨sound.plain.1, trivial, fun _ => rfl⟩
  shallow kind := by
    have both := sound.shallow kind
    simp only [nestingAll, Nat.max_le] at both ⊢
    exact ⟨both.1, Nat.zero_le 2⟩

/-- What follows the first node of a well-formed forest is well-formed. -/
theorem tail {node : Node} {rest : List Node} (sound : WellFormed (node :: rest)) :
    WellFormed rest where
  plain := sound.plain.2.1
  shallow kind := by
    have both := sound.shallow kind
    simp only [nestingAll, Nat.max_le] at both
    exact both.2

/-- The nodes of a well-formed forest are well-formed. -/
theorem of_mem {node : Node} {nodes : List Node} (sound : WellFormed nodes)
    (member : node ∈ nodes) : WellFormed [node] := by
  induction nodes with
  | nil => cases member
  | cons first rest inductionHypothesis =>
      rcases List.mem_cons.1 member with rfl | later
      · exact sound.head
      · exact inductionHypothesis sound.tail later

/-- The children of a well-formed block are well-formed. -/
theorem children {kind : Block} {children : List Node} (sound : WellFormed [.block kind children]) :
    WellFormed children where
  plain := sound.plain.1
  shallow other := by
    have nested := sound.shallow other
    simp only [nestingAll, Node.nesting, Nat.max_le] at nested
    omega

/-- Every node that stands somewhere in a well-formed forest is well-formed. -/
theorem within {node : Node} {nodes : List Node} (sound : WellFormed nodes)
    (inside : Within node nodes) : WellFormed [node] := by
  induction inside with
  | here member => exact sound.of_mem member
  | deeper member _ inductionHypothesis =>
      exact inductionHypothesis (sound.of_mem member).children

end WellFormed

/-- A text without an angle bracket lies in front of the first tag. -/
theorem splitTag_of_plain {before : Text} (plain : '<' ∉ before) (text : Text) :
    splitTag (before ++ text) = (splitTag text).map (before ++ ·) id := by
  induction before with
  | nil => rfl
  | cons c before inductionHypothesis =>
      have differs : c ≠ '<' := fun same => plain (same ▸ List.mem_cons_self)
      have later : '<' ∉ before := fun member => plain (List.mem_cons_of_mem c member)
      rw [List.cons_append, splitTag, if_neg differs, inductionHypothesis later]
      rfl

/-- The names of tags are made up of letters, of which there is one at least. -/
theorem Tag.name_letters (tag : Tag) :
    (∃ first others, tag.name = first :: others ∧ Text.isLetter first = true) ∧
      tag.name.all Text.isAlphanumeric = true := by
  cases tag with
  | block kind => cases kind <;> exact ⟨⟨_, _, rfl, by decide⟩, by decide⟩
  | _ => exact ⟨⟨_, _, rfl, by decide⟩, by decide⟩

/-- The name of a tag ends where its attributes or its angle bracket begin. -/
theorem splitTag_name (tag : Tag) {c : Char} (stops : Text.isAlphanumeric c = false)
    (after : Text) :
    splitTag ('<' :: (tag.name ++ c :: after)) = ([], some (tag.name, c :: after)) := by
  obtain ⟨⟨first, others, split, letter⟩, letters⟩ := tag.name_letters
  have alphanumeric := List.all_eq_true.1 letters
  have taken : (tag.name ++ c :: after).takeWhile Text.isAlphanumeric = tag.name := by
    rw [List.takeWhile_append_of_pos alphanumeric, List.takeWhile_cons_of_neg (by simp [stops]),
      List.append_nil]
  have dropped : (tag.name ++ c :: after).dropWhile Text.isAlphanumeric = c :: after := by
    rw [List.dropWhile_append_of_pos alphanumeric, List.dropWhile_cons_of_neg (by simp [stops])]
  have found : splitName? (tag.name ++ c :: after) =
      some ((tag.name ++ c :: after).takeWhile Text.isAlphanumeric,
        (tag.name ++ c :: after).dropWhile Text.isAlphanumeric) := by
    rw [split]
    exact if_pos letter
  rw [splitTag, if_pos rfl, found, taken, dropped]

/-- The target of a link is found in its attributes. -/
theorem target?_linkAttributes (target : Text) : target? (linkAttributes target) = some target := by
  have value : Text.after? "href=\"".toList ((linkAttributes target).dropWhile (· == ' ')) =
      some (target ++ ['"']) :=
    Text.after?_append ['h', 'r', 'e', 'f', '=', '"'] (target ++ ['"'])
  simp only [target?, value]
  simp

/-- A text without an angle bracket is read as a text. -/
theorem readFrom_plain {before : Text} (plain : '<' ∉ before) (offset : Nat) :
    readFrom offset before = .ok (textNodes before) := by
  have untagged : splitTag before = (before, none) := by
    have whole := splitTag_of_plain plain []
    rw [List.append_nil] at whole
    simpa [splitTag] using whole
  rw [readFrom]
  split
  · next found =>
      rw [untagged] at found
      cases found
      rfl
  · next found =>
      rw [untagged] at found
      cases found

/-- Behind a tag with an end, the element is read, and then what follows it. -/
theorem readFrom_tag {tag : Tag} {text before afterName attributes inner content rest : Text}
    (tagged : splitTag text = (before, some (tag.name, afterName)))
    (bracketed : Text.cut? ['>'] afterName = some (attributes, inner))
    (ended : ∀ contentStart, splitContent tag contentStart contentStart inner = .ok (content, rest))
    (offset : Nat) :
    ∃ later, readFrom offset text = do
      let node <- match tag with
        | .block kind => (readFrom 0 content).map (Node.block kind)
        | .emphasis => pure (.emphasis content)
        | .code => pure (.code content)
        | .link =>
            match target? attributes with
            | some target => pure (.link content target)
            | none => throw (.missingTarget attributes)
      let others <- readFrom later rest
      return textNodes before ++ node :: others := by
  rw [readFrom]
  split
  · next absent =>
      rw [tagged] at absent
      cases absent
  · next found =>
      rw [tagged] at found
      cases found
      simp only [Tag.ofName?_name]
      split
      · next absent =>
          rw [bracketed] at absent
          cases absent
      · next found =>
          rw [bracketed] at found
          cases found
          split
          · next failed =>
              rw [ended] at failed
              cases failed
          · next found =>
              rw [ended] at found
              cases found
              exact ⟨_, rfl⟩

/-- The attributes of a node and the bracket behind them do not continue the name. -/
theorem Node.attributes_stop (node : Node) (after : Text) :
    ∃ c following, node.attributes ++ '>' :: after = c :: following ∧
      Text.isAlphanumeric c = false := by
  cases node with
  | link label target => exact ⟨' ', _, rfl, by decide⟩
  | _ => exact ⟨'>', after, rfl, by decide⟩

/-- An element is read from its text, and what follows it on its own. -/
theorem readFrom_element {node : Node} {tag : Tag} (named : node.tag? = some tag)
    (sound : WellFormed [node]) {before : Text} (plain : '<' ∉ before) {rest : Text}
    {others : List Node}
    (content : ∀ kind children, node = .block kind children ->
      readFrom 0 (printAll children) = .ok (condenseAll children))
    (later : ∀ offset, readFrom offset rest = .ok others) (offset : Nat) :
    readFrom offset (before ++ (node.print ++ rest)) =
      .ok (textNodes before ++ (node.condense ++ others)) := by
  have whole : node.print ++ rest = '<' :: (tag.name ++
      (node.attributes ++ '>' :: (node.inner ++ tag.closing ++ rest))) := by
    rw [Node.print_of_tag? named]
    simp
  have tagged : splitTag (before ++ (node.print ++ rest)) =
      (before, some (tag.name, node.attributes ++ '>' :: (node.inner ++ tag.closing ++ rest))) := by
    obtain ⟨c, following, split, stops⟩ :=
      node.attributes_stop (node.inner ++ tag.closing ++ rest)
    rw [splitTag_of_plain plain, whole, split, splitTag_name tag stops]
    simp
  have bracketed : Text.cut? ['>'] (node.attributes ++ '>' :: (node.inner ++ tag.closing ++ rest)) =
      some (node.attributes, node.inner ++ tag.closing ++ rest) :=
    cut?_append_marker (Avoids.of_not_mem (Node.attributes_open sound.plain.1)) _
  have ended := fun contentStart => splitContent_inner named sound contentStart contentStart rest
  obtain ⟨next, read⟩ := readFrom_tag tagged bracketed ended offset
  rw [read, later next]
  cases node with
  | text content => cases named
  | block kind children =>
      cases named
      have inner := content kind children rfl
      simp only [Node.inner, inner]
      rfl
  | link label target =>
      cases named
      simp only [Node.attributes, target?_linkAttributes]
      rfl
  | emphasis content =>
      cases named
      rfl
  | code content =>
      cases named
      rfl

/-- A well-formed forest is read from its text behind a text without an angle bracket, unless
that text would run into a text of the forest. -/
theorem readFrom_printAll (nodes : List Node) (sound : WellFormed nodes) {before : Text}
    (plain : '<' ∉ before) (apart : before = [] ∨ startsWithText nodes = false) (offset : Nat) :
    readFrom offset (before ++ printAll nodes) = .ok (textNodes before ++ condenseAll nodes) := by
  have nothing : '<' ∉ ([] : Text) := List.not_mem_nil
  cases nodes with
  | nil =>
      rw [printAll, condenseAll, List.append_nil, List.append_nil]
      exact readFrom_plain plain offset
  | cons node rest =>
      cases named : node.tag? with
      | none =>
          -- a text becomes the text in front of what follows it
          cases node with
          | text content =>
              rcases apart with rfl | marked
              · exact readFrom_printAll rest sound.tail sound.plain.1
                  (.inr (sound.plain.2.2 rfl)) offset
              · cases marked
          | _ => cases named
      | some tag =>
          refine readFrom_element named sound.head plain (fun kind children same => ?_)
            (fun later => ?_) offset
          · subst same
            exact readFrom_printAll children sound.head.children nothing (.inl rfl) 0
          · exact readFrom_printAll rest sound.tail nothing (.inl rfl) later

/-- Reading a well-formed forest from its text gives it back without its empty texts. -/
theorem read_printAll {nodes : List Node} (sound : WellFormed nodes) :
    read (printAll nodes) = .ok (condenseAll nodes) :=
  readFrom_printAll nodes sound List.not_mem_nil (.inl rfl) 0

end EditorData.Markup
