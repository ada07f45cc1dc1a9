import EditorData.Markup.Node
import EditorData.Text.Letter

/-!
# Reading documentation markup

A tag is an angle bracket followed by a name that begins with a letter; every other
angle bracket, also that of a stray closing tag, is text. The closing tag of an element is
found by searching forward: an opening tag of the same name without attributes hides the
next closing tag, and no other nesting is considered. The content of a block is read as a
document of its own, so faults are reported in document order, innermost offsets first.

Each splitting function comes with the equation that puts its input together again; the
equations bound the recursion of `readFrom`.
-/

namespace EditorData.Markup

/-- The name at the front of a text, if it begins with a letter, and what follows it. -/
def splitName? (text : Text) : Option (Text × Text) :=
  match text with
  | [] => none
  | c :: _ =>
      if Text.isLetter c then
        some (text.takeWhile Text.isAlphanumeric, text.dropWhile Text.isAlphanumeric)
      else none

/-- The text in front of the first tag, and that tag's name with what follows the name. -/
def splitTag : Text -> Text × Option (Text × Text)
  | [] => ([], none)
  | c :: rest =>
      match if c = '<' then splitName? rest else none with
      | some named => ([], some named)
      | none => (splitTag rest).map (c :: ·) id

/-- A name and what follows it make up the text. -/
theorem eq_append_of_splitName? {text name after : Text}
    (found : splitName? text = some (name, after)) : text = name ++ after := by
  unfold splitName? at found
  split at found
  · simp at found
  · split at found
    · obtain ⟨rfl, rfl⟩ := Prod.mk.inj (Option.some.inj found)
      exact (List.takeWhile_append_dropWhile).symm
    · simp at found

/-- Without a tag, all of the text lies in front. -/
theorem fst_splitTag {text before : Text} (split : splitTag text = (before, none)) :
    before = text := by
  fun_induction splitTag text generalizing before with
  | case1 => simpa using split
  | case2 => simp at split
  | case3 c rest _ inductionHypothesis =>
      obtain ⟨rfl, absent⟩ := Prod.mk.inj split
      exact congrArg (c :: ·) (inductionHypothesis (Prod.ext rfl absent))

/-- The text in front, the bracket, the name and what follows make up the text. -/
theorem eq_append_of_splitTag {text before name after : Text}
    (split : splitTag text = (before, some (name, after))) :
    text = before ++ '<' :: (name ++ after) := by
  fun_induction splitTag text generalizing before with
  | case1 => simp at split
  | case2 c rest named found =>
      obtain ⟨rfl, same⟩ := Prod.mk.inj split
      obtain rfl := Option.some.inj same
      by_cases bracket : c = '<'
      · simp only [bracket, if_true] at found
        simp [bracket, eq_append_of_splitName? found]
      · simp [bracket] at found
  | case3 c rest _ inductionHypothesis =>
      obtain ⟨rfl, present⟩ := Prod.mk.inj split
      exact congrArg (c :: ·) (inductionHypothesis (Prod.ext rfl present))

/-- The raw content in front of an element's closing tag, and what follows that tag. The
offset is that of the text, `contentStart` that of the element's content. -/
def splitContent (tag : Tag) (contentStart : Nat) (offset : Nat) (text : Text) :
    Except Fault (Text × Text) :=
  match text with
  | [] => .error (.missingEnd tag contentStart)
  | c :: rest =>
      match Text.after? tag.closing (c :: rest) with
      | some after => .ok ([], after)
      | none =>
          match _opened : Text.after? tag.opening (c :: rest) with
          | some inner =>
              match _closed : Text.cut? tag.closing inner with
              | some (nested, after) =>
                  (splitContent tag contentStart (offset + (tag.enclose nested).length) after).map
                    (Prod.map (tag.enclose nested ++ ·) id)
              | none => .error (.missingNestedEnd tag offset)
          | none => (splitContent tag contentStart (offset + 1) rest).map (Prod.map (c :: ·) id)
termination_by text.length
decreasing_by
  · have opened := congrArg List.length (Text.eq_append_of_after? _opened)
    have closed := Text.length_of_cut? _closed
    simp [Tag.opening, Tag.closing] at opened closed
    simp
    omega
  · simp

/-- The content, the closing tag and what follows make up the text. -/
theorem eq_append_of_splitContent {tag : Tag} {contentStart offset : Nat}
    {text content after : Text}
    (split : splitContent tag contentStart offset text = .ok (content, after)) :
    text = content ++ tag.closing ++ after := by
  fun_induction splitContent tag contentStart offset text generalizing content with
  | case1 => cases split
  | case2 _ c rest after' found =>
      cases split
      simpa using Text.eq_append_of_after? found
  | case3 offset' c rest _ inner opened nested after' closed inductionHypothesis =>
      cases tail : splitContent tag contentStart (offset' + (tag.enclose nested).length) after' with
      | error fault => simp [tail, Except.map] at split
      | ok pair =>
          simp only [tail, Except.map, Except.ok.injEq] at split
          obtain ⟨rfl, rfl⟩ := Prod.mk.inj split
          have whole := @inductionHypothesis pair.1 tail
          rw [Text.eq_append_of_after? opened, Text.eq_append_of_cut? closed, whole]
          simp [Tag.enclose]
  | case4 => cases split
  | case5 offset' c rest _ _ inductionHypothesis =>
      cases tail : splitContent tag contentStart (offset' + 1) rest with
      | error fault => simp [tail, Except.map] at split
      | ok pair =>
          simp only [tail, Except.map, Except.ok.injEq] at split
          obtain ⟨rfl, rfl⟩ := Prod.mk.inj split
          have whole := @inductionHypothesis pair.1 tail
          simp [whole]

/-- The target of a link, from the text between its name and its angle bracket. -/
def target? (attributes : Text) : Option Text :=
  match Text.after? "href=\"".toList (attributes.dropWhile (· == ' ')) with
  | some value => if value.getLast? = some '"' then some value.dropLast else none
  | none => none

/-- The text node of a stretch of text, which is none if the stretch is empty. -/
def textNodes (content : Text) : List Node :=
  if content = [] then [] else [.text content]

/-- Read a text that begins at the given offset of its document. -/
def readFrom (offset : Nat) (text : Text) : Except Fault (List Node) :=
  match _tagged : splitTag text with
  | (before, none) => .ok (textNodes before)
  | (before, some (name, afterName)) =>
      let tagStart := offset + before.length
      match Tag.ofName? name with
      | none => .error (.unsupportedTag name tagStart)
      | some tag =>
          match _bracketed : Text.cut? ['>'] afterName with
          | none => .error (.unclosedTag tag tagStart)
          | some (attributes, inner) =>
              let contentStart := tagStart + name.length + attributes.length + 2
              match _ended : splitContent tag contentStart contentStart inner with
              | .error fault => .error fault
              | .ok (content, rest) => do
                  let node <- match tag with
                    | .block kind => (readFrom 0 content).map (Node.block kind)
                    | .emphasis => pure (.emphasis content)
                    | .code => pure (.code content)
                    | .link =>
                        match target? attributes with
                        | some target => pure (.link content target)
                        | none => throw (.missingTarget attributes)
                  let others <- readFrom (contentStart + content.length + tag.closing.length) rest
                  return textNodes before ++ node :: others
termination_by text.length
decreasing_by
  all_goals
    have tagged := congrArg List.length (eq_append_of_splitTag _tagged)
    have bracketed := Text.length_of_cut? _bracketed
    have ended := congrArg List.length (eq_append_of_splitContent _ended)
    simp [Tag.closing] at tagged bracketed ended
    omega

/-- Read a document. -/
def read (text : Text) : Except Fault (List Node) :=
  readFrom 0 text

end EditorData.Markup
