import EditorData.Proofs.Markup.Recognition
import EditorData.Proofs.Text.Cutting

/-!
# Markup one behind the other

What is recognised in a text is recognised as well when more text stands behind it
(`Recognizes.append`): a marker that is found in front of an end lies in front of it as a whole.
So a text that can be read on its own is read in the same way in front of another one, and only
the stretches of text at the border run together (`Reads.append`).
-/

namespace EditorData

namespace Markup

variable {text before name after more : Text}

/-- A name that ends within the text is the same with more text behind. -/
theorem splitName?_append (found : splitName? text = some (name, after)) (ends : after ≠ [])
    (more : Text) : splitName? (text ++ more) = some (name, after ++ more) := by
  cases text with
  | nil => cases found
  | cons c text =>
      simp only [splitName?] at found
      split at found
      · next letter =>
          obtain ⟨rfl, rfl⟩ := Prod.mk.inj (Option.some.inj found)
          rw [List.cons_append, splitName?, if_pos letter, ← List.cons_append,
            List.dropWhile_append, List.takeWhile_append]
          have stops : ((c :: text).takeWhile Text.isAlphanumeric).length ≠ (c :: text).length := by
            intro all
            have parts := congrArg List.length
              (List.takeWhile_append_dropWhile (p := Text.isAlphanumeric) (l := c :: text))
            rw [List.length_append, all] at parts
            exact ends (List.length_eq_zero_iff.1 (by omega))
          rw [if_neg stops, if_neg (by simpa using ends)]
      · cases found

/-- A text that does not begin with a letter has no name in front, whatever is put behind. -/
theorem splitName?_append_of_none (unnamed : splitName? text = none) (present : text ≠ [])
    (more : Text) : splitName? (text ++ more) = none := by
  cases text with
  | nil => exact absurd rfl present
  | cons c text =>
      simp only [splitName?] at unnamed
      split at unnamed
      · cases unnamed
      · next letter => exact if_neg letter

/-- The first tag, if its name ends within the text, is the same with more text behind. -/
theorem splitTag_append_of_some (tagged : splitTag text = (before, some (name, after)))
    (ends : after ≠ []) (more : Text) :
    splitTag (text ++ more) = (before, some (name, after ++ more)) := by
  fun_induction splitTag text generalizing before with
  | case1 => cases tagged
  | case2 c rest named found =>
      obtain ⟨rfl, same⟩ := Prod.mk.inj tagged
      obtain rfl := Option.some.inj same
      by_cases bracket : c = '<'
      · rw [if_pos bracket] at found
        rw [List.cons_append, splitTag, if_pos bracket, splitName?_append found ends]
      · rw [if_neg bracket] at found
        cases found
  | case3 c rest absent inductionHypothesis =>
      obtain ⟨rfl, present⟩ := Prod.mk.inj tagged
      have later := inductionHypothesis (Prod.ext rfl present)
      have unnamed : (if c = '<' then splitName? (rest ++ more) else none) = none := by
        by_cases bracket : c = '<'
        · rw [if_pos bracket] at absent ⊢
          refine splitName?_append_of_none absent (fun empty => ?_) more
          subst empty
          cases present
        · exact if_neg bracket
      rw [List.cons_append, splitTag, unnamed, later]
      rfl

/-- A text without tag lies in front of the first tag of what is put behind, unless that begins
with a name. -/
theorem splitTag_append_of_none (untagged : splitTag text = (text, none))
    (unnamed : splitName? more = none) :
    splitTag (text ++ more) = (splitTag more).map (text ++ ·) id := by
  induction text with
  | nil => rfl
  | cons c text inductionHypothesis =>
      rw [splitTag] at untagged
      split at untagged
      · cases untagged
      · next absent =>
          obtain ⟨front, back⟩ := Prod.mk.inj untagged
          have later := inductionHypothesis (Prod.ext (List.cons.inj front).2 back)
          have stillAbsent : (if c = '<' then splitName? (text ++ more) else none) = none := by
            by_cases bracket : c = '<'
            · rw [if_pos bracket] at absent ⊢
              by_cases empty : text = []
              · rwa [empty]
              · exact splitName?_append_of_none absent empty more
            · exact if_neg bracket
          rw [List.cons_append, splitTag, stillAbsent, later]
          rfl

/-- The end of an element is the same with more text behind. -/
theorem splitContent_append {tag : Tag} {contentStart offset : Nat} {content rest : Text}
    (found : splitContent tag contentStart offset text = .ok (content, rest)) (more : Text) :
    splitContent tag contentStart offset (text ++ more) = .ok (content, rest ++ more) := by
  fun_induction splitContent tag contentStart offset text generalizing content with
  | case1 => cases found
  | case2 _ c rest' after closed =>
      obtain ⟨rfl, rfl⟩ := Prod.mk.inj (Except.ok.inj found)
      rw [Text.eq_append_of_after? closed, List.append_assoc]
      exact splitContent_closing tag contentStart _ _
  | case3 offset c rest' notClosed inner opened nested after closed inductionHypothesis =>
      obtain ⟨⟨content', after'⟩, later, same⟩ := ok_of_map found
      obtain ⟨rfl, rfl⟩ := Prod.mk.inj same
      have whole : c :: rest' ++ more = tag.enclose nested ++ (after ++ more) := by
        rw [Text.eq_append_of_after? opened, Text.eq_append_of_cut? closed]
        simp [Tag.enclose]
      have cutting : Text.cut? tag.closing (nested ++ (tag.closing ++ (after ++ more))) =
          some (nested, after ++ more) := by
        have appended := Text.cut?_append closed more
        rw [Text.eq_append_of_cut? closed] at appended
        simpa using appended
      rw [whole, splitContent_nested cutting, inductionHypothesis later]
      rfl
  | case4 => cases found
  | case5 offset c rest' notClosed notOpened inductionHypothesis =>
      obtain ⟨⟨content', after'⟩, later, same⟩ := ok_of_map found
      obtain ⟨rfl, rfl⟩ := Prod.mk.inj same
      -- the closing tag that is found lies in what is left, so neither tag reaches beyond it
      have split := congrArg List.length (eq_append_of_splitContent later)
      simp only [List.length_append] at split
      have closingFits : tag.closing.length ≤ (c :: rest').length := by
        rw [List.length_cons]
        omega
      have openingFits : tag.opening.length ≤ (c :: rest').length := by
        simp only [Tag.opening_eq, Tag.closing_eq, List.length_cons, List.length_append,
          List.cons_append] at split ⊢
        omega
      rw [List.cons_append, splitContent_skip, inductionHypothesis later]
      · rfl
      · exact Text.after?_append_of_none notOpened openingFits more
      · exact Text.after?_append_of_none notClosed closingFits more

/-- A recognised element is recognised with more text behind. -/
theorem Recognizes.append {html attributes content rest : Text} {tag : Tag}
    (recognized : Recognizes html before tag attributes content rest) (more : Text) :
    Recognizes (html ++ more) before tag attributes content (rest ++ more) where
  tagged := by
    rw [splitTag_append_of_some recognized.tagged (by simp)]
    simp
  bracketed := recognized.bracketed
  ended := fun contentStart offset => by
    rw [← List.append_assoc]
    exact splitContent_append (recognized.ended contentStart offset) more

/-- An element is recognised with text in front of which nothing opens it. -/
theorem Recognizes.prepend {html attributes content rest front : Text} {tag : Tag}
    (recognized : Recognizes html before tag attributes content rest)
    (joins : splitTag (front ++ html) = (splitTag html).map (front ++ ·) id) :
    Recognizes (front ++ html) (front ++ before) tag attributes content rest where
  tagged := by
    rw [joins, recognized.tagged]
    rfl
  bracketed := recognized.bracketed
  ended := recognized.ended

/-- The nodes with a stretch of text in front, which runs into a text at their front. -/
def prependText (content : Text) : List Node -> List Node
  | .text first :: rest => .text (content ++ first) :: rest
  | nodes => textNodes content ++ nodes

/-- A stretch of text in front of another one runs into it. -/
theorem prependText_textNodes (content first : Text) {rest : List Node}
    (marked : startsWithText rest = false) :
    prependText content (textNodes first ++ rest) = textNodes (content ++ first) ++ rest := by
  by_cases empty : first = []
  · subst empty
    rw [List.append_nil]
    cases rest with
    | nil => rfl
    | cons node rest =>
        cases node with
        | text _ => cases marked
        | _ => rfl
  · have present : content ++ first ≠ [] := fun nothing =>
      empty (List.append_eq_nil_iff.1 nothing).2
    rw [textNodes, if_neg empty, textNodes, if_neg present]
    rfl

/-- A node of raw content is no text. -/
theorem startsWithText_of_rawNode? {tag : Tag} {attributes content : Text} {node : Node}
    (raw : rawNode? tag attributes content = some node) (rest : List Node) :
    startsWithText (node :: rest) = false := by
  cases tag with
  | block kind => cases raw
  | emphasis =>
      cases raw
      rfl
  | code =>
      cases raw
      rfl
  | link =>
      obtain ⟨target, -, rfl⟩ := Option.map_eq_some_iff.1 raw
      rfl

namespace Reads

/-- A text is read with text in front of which nothing opens an element. -/
theorem prepend {html front : Text} {nodes : List Node} (reads : Reads html nodes)
    (joins : splitTag (front ++ html) = (splitTag html).map (front ++ ·) id) :
    Reads (front ++ html) (prependText front nodes) := by
  cases reads with
  | plain untagged =>
      rw [untagged] at joins
      have joined := @prependText_textNodes front html [] rfl
      rw [List.append_nil, List.append_nil] at joined
      rw [joined]
      exact .plain joins
  | block recognized inner later =>
      rw [prependText_textNodes front _ rfl]
      exact .block (recognized.prepend joins) inner later
  | raw recognized kept later =>
      rw [prependText_textNodes front _ (startsWithText_of_rawNode? kept _)]
      exact .raw (recognized.prepend joins) kept later

/-- What is read with text in front of which nothing opens an element can be read on its own. -/
theorem of_prepend {html front : Text} {nodes : List Node} (reads : Reads (front ++ html) nodes)
    (joins : splitTag (front ++ html) = (splitTag html).map (front ++ ·) id) :
    ∃ others, Reads html others := by
  cases split : splitTag html with
  | mk before opened =>
      rw [split] at joins
      cases reads with
      | plain untagged =>
          rw [untagged] at joins
          obtain rfl : none = opened := (Prod.mk.inj joins).2
          obtain rfl := fst_splitTag split
          exact ⟨_, .plain split⟩
      | block recognized inner later =>
          rw [recognized.tagged] at joins
          obtain rfl : some _ = opened := (Prod.mk.inj joins).2
          exact ⟨_, .block ⟨split, recognized.bracketed, recognized.ended⟩ inner later⟩
      | raw recognized kept later =>
          rw [recognized.tagged] at joins
          obtain rfl : some _ = opened := (Prod.mk.inj joins).2
          exact ⟨_, .raw ⟨split, recognized.bracketed, recognized.ended⟩ kept later⟩

/-- Texts that are read on their own are read one behind the other, unless a name stands at the
border: the nodes of the second one run into a stretch of text of the first one. -/
theorem append {left right : Text} {leftNodes rightNodes : List Node}
    (first : Reads left leftNodes) (second : Reads right rightNodes)
    (unnamed : splitName? right = none) :
    ∃ earlier between, Reads (left ++ right) (earlier ++ prependText between rightNodes) := by
  induction first with
  | @plain html untagged =>
      exact ⟨[], html, second.prepend (splitTag_append_of_none untagged unnamed)⟩
  | @block html before attributes content rest kind children others recognized inner later
      innerJoins laterJoins =>
      obtain ⟨earlier, between, reads⟩ := laterJoins
      refine ⟨textNodes before ++ .block kind children :: earlier, between, ?_⟩
      rw [List.append_assoc, List.cons_append]
      exact .block (recognized.append right) inner reads
  | @raw html before attributes content rest tag node others recognized kept later laterJoins =>
      obtain ⟨earlier, between, reads⟩ := laterJoins
      refine ⟨textNodes before ++ node :: earlier, between, ?_⟩
      rw [List.append_assoc, List.cons_append]
      exact .raw (recognized.append right) kept reads

end Reads

end Markup

end EditorData
