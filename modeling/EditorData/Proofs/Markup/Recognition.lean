import EditorData.Proofs.Markup.RoundTrip
import EditorData.Proofs.Results

/-!
# What is recognised in markup

Reading as a relation between a text and its nodes (`Reads`): a text without tag, or an element
that is recognised in the text (`Recognizes`) with what is read behind it. Offsets, which only
tell where a fault lies, do not occur in it. It is what `readFrom` computes
(`read_eq_ok_iff`), so a fact about a text that is read is shown by induction on `Reads`.

`withoutTags` is the text that is left without the tags of the elements recognised in it, and it
is what the nodes keep of the text (`Reads.keptAll_eq`).
-/

namespace EditorData.Markup

/-- The text in front of the first occurrence of a character does not have the character. -/
theorem not_mem_of_cut? {c : Char} {text before rest : Text}
    (found : Text.cut? [c] text = some (before, rest)) : c ∉ before := by
  intro member
  obtain ⟨first, later, rfl, absent⟩ := List.eq_append_cons_of_mem member
  have whole : text = first ++ ([c] ++ (later ++ [c] ++ rest)) := by
    simpa using Text.eq_append_of_cut? found
  rw [whole, cut?_append_marker (Avoids.of_not_mem absent)] at found
  have sameFront := (Prod.mk.inj (Option.some.inj found)).1
  have sameLength := congrArg List.length sameFront
  simp at sameLength

/-- What the search for the end of an element finds does not depend on where the text stands. -/
theorem splitContent_anywhere {tag : Tag} {contentStart offset : Nat} {text : Text}
    {split : Text × Text} (found : splitContent tag contentStart offset text = .ok split)
    (contentStart' offset' : Nat) : splitContent tag contentStart' offset' text = .ok split := by
  fun_induction splitContent tag contentStart offset text generalizing split offset' with
  | case1 => cases found
  | case2 _ c rest after closed =>
      rw [splitContent, closed]
      exact found
  | case3 offset c rest notClosed inner opened nested after closed inductionHypothesis =>
      cases tail : splitContent tag contentStart (offset + (tag.enclose nested).length) after with
      | error fault => simp [tail, Except.map] at found
      | ok later =>
          rw [tail] at found
          have whole : c :: rest = tag.enclose nested ++ after := by
            rw [Text.eq_append_of_after? opened, Text.eq_append_of_cut? closed]
            simp [Tag.enclose]
          have cutting : Text.cut? tag.closing (nested ++ (tag.closing ++ after)) =
              some (nested, after) := by
            rw [← List.append_assoc, ← Text.eq_append_of_cut? closed, closed]
          rw [whole, splitContent_nested cutting, inductionHypothesis tail]
          exact found
  | case4 => cases found
  | case5 offset c rest notClosed notOpened inductionHypothesis =>
      cases tail : splitContent tag contentStart (offset + 1) rest with
      | error fault => simp [tail, Except.map] at found
      | ok later =>
          rw [tail] at found
          rw [splitContent_skip notOpened notClosed, inductionHypothesis tail]
          exact found

/-- The first tag of the text opens an element with an end. -/
structure Recognizes (html before : Text) (tag : Tag) (attributes content rest : Text) : Prop where
  tagged : splitTag html =
    (before, some (tag.name, attributes ++ '>' :: (content ++ tag.closing ++ rest)))
  bracketed : '>' ∉ attributes
  ended : ∀ contentStart offset,
    splitContent tag contentStart offset (content ++ tag.closing ++ rest) = .ok (content, rest)

/-- The node of an element whose content is kept as raw text. -/
def rawNode? (tag : Tag) (attributes content : Text) : Option Node :=
  match tag with
  | .block _ => none
  | .emphasis => some (.emphasis content)
  | .code => some (.code content)
  | .link => (target? attributes).map (Node.link content)

/-- The text is read as the nodes. -/
inductive Reads : Text -> List Node -> Prop
  /-- A text without tag. -/
  | plain {html : Text} (untagged : splitTag html = (html, none)) : Reads html (textNodes html)
  /-- A block, whose content is read on its own. -/
  | block {html before attributes content rest : Text} {kind : Block} {children others : List Node}
      (recognized : Recognizes html before (.block kind) attributes content rest)
      (inner : Reads content children) (later : Reads rest others) :
      Reads html (textNodes before ++ .block kind children :: others)
  /-- An element whose content is kept as raw text. -/
  | raw {html before attributes content rest : Text} {tag : Tag} {node : Node}
      {others : List Node} (recognized : Recognizes html before tag attributes content rest)
      (kept : rawNode? tag attributes content = some node) (later : Reads rest others) :
      Reads html (textNodes before ++ node :: others)

namespace Recognizes

variable {html before attributes content rest : Text} {tag : Tag}

/-- The text of a recognised element between what stands around it. -/
theorem eq_append (recognized : Recognizes html before tag attributes content rest) :
    html = before ++ ('<' :: (tag.name ++ attributes) ++ ['>'] ++ content ++ tag.closing) ++
      rest := by
  rw [eq_append_of_splitTag recognized.tagged]
  simp

/-- The bracket behind the attributes is found. -/
theorem cut_eq (recognized : Recognizes html before tag attributes content rest) :
    Text.cut? ['>'] (attributes ++ '>' :: (content ++ tag.closing ++ rest)) =
      some (attributes, content ++ tag.closing ++ rest) :=
  cut?_append_marker (Avoids.of_not_mem recognized.bracketed) _

end Recognizes

/-- What the splitting functions find is a recognised element. -/
theorem recognizes_of_found {html before name afterName attributes inner content rest : Text}
    {tag : Tag} {contentStart : Nat} (tagged : splitTag html = (before, some (name, afterName)))
    (named : Tag.ofName? name = some tag)
    (bracketed : Text.cut? ['>'] afterName = some (attributes, inner))
    (ended : splitContent tag contentStart contentStart inner = .ok (content, rest)) :
    Recognizes html before tag attributes content rest := by
  have sameName : tag.name = name := by simpa using List.find?_some named
  have sameAfter : afterName = attributes ++ '>' :: inner := by
    simpa using Text.eq_append_of_cut? bracketed
  have sameInner := eq_append_of_splitContent ended
  subst sameName sameAfter sameInner
  exact ⟨tagged, not_mem_of_cut? bracketed, splitContent_anywhere ended⟩

/-- The node of an element and what is read behind it make up what is read. -/
theorem ok_of_join {node : Node} {before : List Node} {later : Except Fault (List Node)}
    {nodes : List Node}
    (read : (do let others <- later; return before ++ node :: others) = Except.ok nodes) :
    ∃ others, later = .ok others ∧ before ++ node :: others = nodes := by
  obtain ⟨others, read, same⟩ := ok_of_bind read
  exact ⟨others, read, Except.ok.inj same⟩

/-- What a text has been read as is a reading of it. -/
theorem reads_of_readFrom {offset : Nat} {html : Text} {nodes : List Node}
    (read : readFrom offset html = .ok nodes) : Reads html nodes := by
  fun_induction readFrom offset html generalizing nodes with
  | case1 offset html before untagged =>
      cases read
      obtain rfl := fst_splitTag untagged
      exact .plain untagged
  | case2 => cases read
  | case3 => cases read
  | case4 => cases read
  | case5 offset html before name afterName tagged tagStart attributes inner bracketed
      contentStart content rest kind named ended join laterReads =>
      rename_i innerReads
      obtain ⟨node, made, joined⟩ := ok_of_bind read
      obtain ⟨children, readInner, rfl⟩ := ok_of_map made
      obtain ⟨others, readLater, rfl⟩ := ok_of_join joined
      exact .block (recognizes_of_found tagged named bracketed ended) (innerReads readInner)
        (laterReads readLater)
  | case6 offset html before name afterName tagged tagStart attributes inner bracketed
      contentStart content rest named ended join =>
      rename_i laterReads
      obtain ⟨others, readLater, rfl⟩ := ok_of_join read
      exact .raw (recognizes_of_found tagged named bracketed ended) rfl (laterReads readLater)
  | case7 offset html before name afterName tagged tagStart attributes inner bracketed
      contentStart content rest named ended join =>
      rename_i laterReads
      obtain ⟨others, readLater, rfl⟩ := ok_of_join read
      exact .raw (recognizes_of_found tagged named bracketed ended) rfl (laterReads readLater)
  | case8 offset html before name afterName tagged tagStart attributes inner bracketed
      contentStart content rest target targeted named ended join =>
      rename_i laterReads
      obtain ⟨others, readLater, rfl⟩ := ok_of_join read
      have kept : rawNode? .link attributes content = some (.link content target) := by
        rw [rawNode?, targeted]
        rfl
      exact .raw (recognizes_of_found tagged named bracketed ended) kept (laterReads readLater)
  | case9 => cases read

/-- A reading of a text is what the text is read as, whatever its offset. -/
theorem Reads.readFrom_eq {html : Text} {nodes : List Node} (reads : Reads html nodes)
    (offset : Nat) : readFrom offset html = .ok nodes := by
  induction reads generalizing offset with
  | plain untagged =>
      rw [readFrom]
      split
      · next found =>
          rw [untagged] at found
          cases found
          rfl
      · next found =>
          rw [untagged] at found
          cases found
  | block recognized inner later innerReads laterReads =>
      obtain ⟨next, read⟩ := readFrom_tag recognized.tagged recognized.cut_eq
        (fun contentStart => recognized.ended contentStart contentStart) offset
      rw [read, laterReads]
      simp only [innerReads]
      rfl
  | @raw html before attributes content rest tag node others recognized kept later laterReads =>
      obtain ⟨next, read⟩ := readFrom_tag recognized.tagged recognized.cut_eq
        (fun contentStart => recognized.ended contentStart contentStart) offset
      rw [read, laterReads]
      cases tag with
      | block kind => cases kept
      | emphasis =>
          cases kept
          rfl
      | code =>
          cases kept
          rfl
      | link =>
          obtain ⟨target, targeted, rfl⟩ := Option.map_eq_some_iff.1 kept
          simp only [targeted]
          rfl

/-- The readings of a text are what it is read as. -/
theorem read_eq_ok_iff {html : Text} {nodes : List Node} :
    read html = .ok nodes ↔ Reads html nodes :=
  ⟨reads_of_readFrom, fun reads => reads.readFrom_eq 0⟩

/-- Whether the content of an element is markup again. -/
def Tag.nests : Tag -> Bool
  | .block _ => true
  | _ => false

/-- The text without the tags of the elements that are recognised in it. The content of a block
is markup again, any other content stays as it is. -/
def withoutTags (html : Text) : Text :=
  match _tagged : splitTag html with
  | (before, none) => before
  | (before, some (name, afterName)) =>
      match Tag.ofName? name with
      | none => html
      | some tag =>
          match _bracketed : Text.cut? ['>'] afterName with
          | none => html
          | some (_, inner) =>
              match _ended : splitContent tag 0 0 inner with
              | .error _ => html
              | .ok (content, rest) =>
                  before ++ (if tag.nests then withoutTags content else content) ++
                    withoutTags rest
termination_by html.length
decreasing_by
  all_goals
    have tagged := congrArg List.length (eq_append_of_splitTag _tagged)
    have bracketed := Text.length_of_cut? _bracketed
    have ended := congrArg List.length (eq_append_of_splitContent _ended)
    simp [Tag.closing] at tagged bracketed ended
    omega

/-- A text without tag is left as it is. -/
theorem withoutTags_of_plain {html : Text} (untagged : splitTag html = (html, none)) :
    withoutTags html = html := by
  rw [withoutTags]
  split
  · next found =>
      rw [untagged] at found
      exact (Prod.mk.inj found).1.symm
  · next found =>
      rw [untagged] at found
      cases found

/-- Of a recognised element the content is left, in between what stands around it. -/
theorem Recognizes.withoutTags_eq {html before attributes content rest : Text} {tag : Tag}
    (recognized : Recognizes html before tag attributes content rest) :
    withoutTags html =
      before ++ (if tag.nests then withoutTags content else content) ++ withoutTags rest := by
  rw [withoutTags]
  split
  · next absent =>
      rw [recognized.tagged] at absent
      cases absent
  · next found =>
      rw [recognized.tagged] at found
      cases found
      simp only [Tag.ofName?_name]
      split
      · next absent =>
          rw [recognized.cut_eq] at absent
          cases absent
      · next found =>
          rw [recognized.cut_eq] at found
          cases found
          split
          · next failed =>
              rw [recognized.ended] at failed
              cases failed
          · next found =>
              rw [recognized.ended] at found
              cases found
              rfl

mutual

/-- What a node keeps of the text that it has been read from. -/
def Node.kept : Node -> Text
  | .text content => content
  | .block _ children => keptAll children
  | .emphasis content => content
  | .link label _ => label
  | .code content => content

/-- What nodes keep of the text that they have been read from. -/
def keptAll : List Node -> Text
  | [] => []
  | node :: rest => node.kept ++ keptAll rest

end

/-- Nodes one behind the other keep what each of them keeps. -/
theorem keptAll_append (left right : List Node) :
    keptAll (left ++ right) = keptAll left ++ keptAll right := by
  induction left with
  | nil => rfl
  | cons node left inductionHypothesis =>
      rw [List.cons_append, keptAll, keptAll, inductionHypothesis, List.append_assoc]

/-- A stretch of text is kept. -/
theorem keptAll_textNodes (content : Text) : keptAll (textNodes content) = content := by
  unfold textNodes
  split
  · next empty => exact empty.symm
  · exact List.append_nil content

/-- A node of raw content keeps the content. -/
theorem kept_of_rawNode? {tag : Tag} {attributes content : Text} {node : Node}
    (raw : rawNode? tag attributes content = some node) :
    node.kept = content ∧ tag.nests = false := by
  cases tag with
  | block kind => cases raw
  | emphasis =>
      cases raw
      exact ⟨rfl, rfl⟩
  | code =>
      cases raw
      exact ⟨rfl, rfl⟩
  | link =>
      obtain ⟨target, -, rfl⟩ := Option.map_eq_some_iff.1 raw
      exact ⟨rfl, rfl⟩

/-- The nodes that a text is read as keep all of it but the tags. -/
theorem Reads.keptAll_eq {html : Text} {nodes : List Node} (reads : Reads html nodes) :
    keptAll nodes = withoutTags html := by
  induction reads with
  | plain untagged => rw [keptAll_textNodes, withoutTags_of_plain untagged]
  | block recognized inner later innerKept laterKept =>
      rw [recognized.withoutTags_eq, keptAll_append, keptAll_textNodes, keptAll, Node.kept,
        innerKept, laterKept, Tag.nests, if_pos rfl, List.append_assoc]
  | @raw html before attributes content rest tag node others recognized raw later laterKept =>
      obtain ⟨sameContent, noMarkup⟩ := kept_of_rawNode? raw
      rw [recognized.withoutTags_eq, keptAll_append, keptAll_textNodes, keptAll, sameContent,
        laterKept, noMarkup, if_neg Bool.false_ne_true, List.append_assoc]

end EditorData.Markup
