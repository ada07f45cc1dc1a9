import EditorData.Proofs.Markdown.Shown
import EditorData.Proofs.Markup.Opening

/-!
# Tags cost more than their marks

The markdown of an element shows fewer characters than the element: the two tags take more room
than the marks that markdown puts in their place. So markdown shows no more than the markup does,
and less if a tag opens in the markup (`shown_render_lt`).
-/

namespace EditorData.Markdown

open EditorData.Markup

/-- What a recognised element shows, and what stands around it. -/
theorem shown_of_recognizes {html before attributes content rest : Text} {tag : Tag}
    (recognized : Recognizes html before tag attributes content rest) :
    Text.shown html = Text.shown before + (2 * Text.shown tag.name + 5 + Text.shown attributes) +
      Text.shown content + Text.shown rest := by
  have opening : Text.shown ('<' :: (tag.name ++ attributes) ++ ['>']) =
      2 + Text.shown tag.name + Text.shown attributes := by
    have bracket : Text.shown ['<'] = 1 := rfl
    have closing : Text.shown ['>'] = 1 := rfl
    rw [← List.singleton_append, Text.shown_append, Text.shown_append, Text.shown_append, bracket,
      closing]
    omega
  have closing : Text.shown tag.closing = 3 + Text.shown tag.name := by
    have bracket : Text.shown ['<', '/'] = 2 := rfl
    have closing : Text.shown ['>'] = 1 := rfl
    have whole : tag.closing = ['<', '/'] ++ tag.name ++ ['>'] := rfl
    rw [whole, Text.shown_append, Text.shown_append, bracket, closing]
    omega
  rw [recognized.eq_append]
  simp only [Text.shown_append, opening, closing]
  omega

/-- The target of a link shows less than the attributes that it is taken from. -/
theorem shown_target {attributes target : Text} (found : target? attributes = some target) :
    Text.shown target + 7 ≤ Text.shown attributes := by
  unfold target? at found
  split at found
  · next value lead =>
      split at found
      · next quoted =>
          obtain ⟨front, rfl⟩ := List.getLast?_eq_some_iff.1 quoted
          rw [List.dropLast_concat] at found
          obtain rfl := Option.some.inj found
          have blanks : ∀ c : Char, (c == ' ') = true -> Text.isBlank c = true := by
            intro c space
            rw [eq_of_beq space]
            rfl
          have trimmed := congrArg List.length (Text.visible_trimStart blanks attributes)
          have key : Text.shown "href=\"".toList = 6 := rfl
          have quote : Text.shown ['"'] = 1 := rfl
          rw [Text.trimStart, Text.eq_append_of_after? lead, ← Text.shown, ← Text.shown] at trimmed
          simp only [Text.shown_append, key, quote] at trimmed
          omega
      · cases found
  · cases found

/-- An element of raw content is written with fewer marks than its tags have characters. -/
theorem shown_rawNode {tag : Tag} {attributes content : Text} {node : Node}
    (raw : rawNode? tag attributes content = some node) (flow : Flow) (depth : Nat)
    (written : Text) :
    Text.shown (writeNode codeLanguage flow depth node written) <
      Text.shown written + (2 * Text.shown tag.name + 5 + Text.shown attributes) +
        Text.shown content := by
  cases tag with
  | block kind => cases raw
  | emphasis =>
      cases raw
      have marks : Text.shown "**".toList = 2 ∧ Text.shown "** ".toList = 2 := ⟨rfl, rfl⟩
      have name : Text.shown Tag.emphasis.name = 2 := rfl
      simp only [writeNode, Text.shown_append, marks, name]
      omega
  | code =>
      cases raw
      obtain ⟨front, back, shows, few⟩ := visible_code content codeLanguage
      have name : Text.shown Tag.code.name = 4 := rfl
      have language : codeLanguage.length = 3 := rfl
      have lengths := congrArg List.length shows
      simp only [List.length_append] at lengths
      simp only [writeNode, Text.shown_append, name]
      simp only [Text.shown, lengths]
      omega
  | link =>
      obtain ⟨target, found, rfl⟩ := Option.map_eq_some_iff.1 raw
      have name : Text.shown Tag.link.name = 1 := rfl
      have marks : Text.shown "[".toList = 1 ∧ Text.shown "](".toList = 2 ∧
        Text.shown ")".toList = 1 := ⟨rfl, rfl, rfl⟩
      have smaller := shown_target found
      have within := Text.shown_le (List.dropWhile_sublist (p := (· == '@')) (l := target))
      simp only [writeNode, Text.shown_append, marks, name]
      omega

/-- Ending a line shows nothing more. -/
theorem shown_endLine (written : Text) : Text.shown (endLine written) = Text.shown written :=
  congrArg List.length (visible_endLine written)

/-- A block shows one character more than its children at most. -/
theorem shown_block {children : List Node} {room : Nat}
    (inner : ∀ flow depth written,
      Text.shown (writeNodes codeLanguage flow depth children written) ≤
        Text.shown written + room)
    (kind : Block) (flow : Flow) (depth : Nat) (written : Text) :
    Text.shown (writeNode codeLanguage flow depth (.block kind children) written) ≤
      Text.shown written + room + 1 := by
  cases kind with
  | paragraph =>
      have bound := inner .line depth (leaveBlankLine written)
      have same : Text.shown (leaveBlankLine written) = Text.shown written :=
        congrArg List.length (visible_leaveBlankLine written)
      rw [writeNode, shown_endLine]
      omega
  | preformatted => exact Nat.le_succ_of_le (inner .block depth written)
  | list =>
      have bound := inner .block (depth + 1) (endLine written)
      rw [shown_endLine] at bound
      exact Nat.le_succ_of_le bound
  | item =>
      have bound := inner .line depth
        (endLine written ++ List.replicate (1 + 2 * (depth - 1)) ' ' ++ "- ".toList)
      have mark : Text.shown "- ".toList = 1 := rfl
      have indent : Text.shown (List.replicate (1 + 2 * (depth - 1)) ' ') = 0 := by
        have none : Text.visible (List.replicate (1 + 2 * (depth - 1)) ' ') = [] := by
          rw [Text.visible, List.filter_replicate]
          rfl
        rw [Text.shown, none]
        rfl
      rw [Text.shown_append, Text.shown_append, shown_endLine, mark, indent] at bound
      rw [writeNode, shown_endLine]
      omega

/-- A stretch of text in front of other nodes shows what it shows. -/
theorem shown_textNodes (content : Text) (flow : Flow) (depth : Nat) (written : Text) :
    Text.shown (writeNodes codeLanguage flow depth (textNodes content) written) =
      Text.shown written + Text.shown content := by
  unfold textNodes
  split
  · next empty =>
      rw [empty]
      rfl
  · rw [writeNodes, writeNodes, writeNode, Text.shown_append]
    exact congrArg (_ + List.length ·) (visible_lay flow content)

/-- The nodes of a text show no more than the text, and less if a tag opens in it. -/
theorem shown_writeNodes {html : Text} {nodes : List Node} (reads : Reads html nodes)
    (flow : Flow) (depth : Nat) (written : Text) :
    Text.shown (writeNodes codeLanguage flow depth nodes written) ≤
        Text.shown written + Text.shown html ∧
      (opensTag html = true ->
        Text.shown (writeNodes codeLanguage flow depth nodes written) <
          Text.shown written + Text.shown html) := by
  induction reads generalizing flow depth written with
  | @plain html untagged =>
      rw [shown_textNodes]
      refine ⟨Nat.le_refl _, fun tagged => ?_⟩
      rw [splitTag_eq_iff.1 untagged] at tagged
      cases tagged
  | @block html before attributes content rest kind children others recognized inner later
      innerBound laterBound =>
      have front := shown_textNodes before flow depth written
      have element := shown_block (fun flow depth written => (innerBound flow depth written).1) kind
        flow depth (writeNodes codeLanguage flow depth (textNodes before) written)
      have behind := (laterBound flow depth
        (writeNode codeLanguage flow depth (.block kind children)
          (writeNodes codeLanguage flow depth (textNodes before) written))).1
      have whole := shown_of_recognizes recognized
      rw [writeNodes_append, writeNodes]
      exact ⟨by omega, fun _ => by omega⟩
  | @raw html before attributes content rest tag node others recognized kept later laterBound =>
      have front := shown_textNodes before flow depth written
      have element := shown_rawNode kept flow depth
        (writeNodes codeLanguage flow depth (textNodes before) written)
      have behind := (laterBound flow depth (writeNode codeLanguage flow depth node
        (writeNodes codeLanguage flow depth (textNodes before) written))).1
      have whole := shown_of_recognizes recognized
      rw [writeNodes_append, writeNodes]
      exact ⟨by omega, fun _ => by omega⟩

/-- The markdown of a text in which a tag opens shows less than the text. -/
theorem shown_render_lt {html markdown : Text} (rendered : render codeLanguage html = .ok markdown)
    (tagged : opensTag html = true) : Text.shown markdown < Text.shown html := by
  obtain ⟨nodes, read, rfl⟩ := ok_of_map rendered
  rw [ofNodes_eq]
  have less := (shown_writeNodes (read_eq_ok_iff.1 read) .block 0 []).2 tagged
  rwa [Text.shown_nil, Nat.zero_add] at less

end EditorData.Markdown
