import EditorData.Proofs.Markdown.Shown
import EditorData.Proofs.Markup.Recognition
import Mathlib.Data.List.Basic

/-!
# No text is lost

Whatever a text in documentation markup shows between its tags is shown by its markdown, in the
same order (`visible_withoutTags_sublist`). Each way to write a node only adds to what has been
written and to the characters of the node, so a subsequence of what has been written, with what
shows of the node behind it, is a subsequence of what is written then.
-/

namespace EditorData.Markdown

open EditorData.Markup
open scoped List

/-- A stretch of text shows what it shows also when it is laid out. -/
theorem visible_sublist_lay (flow : Flow) (content : Text) :
    Text.visible content <+ flow.lay content := by
  rw [← visible_lay flow]
  exact Text.visible_sublist _

/-- Code in markdown shows what the code shows. -/
theorem visible_sublist_code (content language : Text) :
    Text.visible content <+ code content language := by
  obtain ⟨front, back, shows, -⟩ := visible_code content language
  have within : Text.visible content <+ Text.visible (code content language) := by
    rw [shows]
    exact (List.sublist_append_right front _).trans (List.sublist_append_left _ back)
  exact within.trans (Text.visible_sublist _)

/-- Ending a line only adds to the text. -/
theorem prefix_endLine (written : Text) : written <+: endLine written := by
  unfold endLine
  split
  · exact List.prefix_rfl
  · exact List.prefix_append written ['\n']

/-- Leaving a blank line only adds to the text. -/
theorem prefix_leaveBlankLine (written : Text) : written <+: leaveBlankLine written := by
  unfold leaveBlankLine
  split
  · exact List.prefix_rfl
  · exact (prefix_endLine written).trans (List.prefix_append _ ['\n'])

mutual

/-- What shows of a node shows behind what has been shown. -/
theorem visible_kept_sublist {early written : Text} (present : early <+ written)
    (language : Text) (flow : Flow) (depth : Nat) (node : Node) :
    early ++ Text.visible node.kept <+ writeNode language flow depth node written := by
  cases node with
  | text content => exact present.append (visible_sublist_lay flow content)
  | block kind children =>
      cases kind with
      | paragraph =>
          have separated := present.trans (prefix_leaveBlankLine written).sublist
          have inner := visible_keptAll_sublist separated language .line depth children
          exact inner.trans (prefix_endLine _).sublist
      | preformatted => exact visible_keptAll_sublist present language .block depth children
      | list =>
          have separated := present.trans (prefix_endLine written).sublist
          exact visible_keptAll_sublist separated language .block (depth + 1) children
      | item =>
          have separated := present.trans (prefix_endLine written).sublist
          have marked := (separated.trans (List.sublist_append_left _
            (List.replicate (1 + 2 * (depth - 1)) ' '))).trans
            (List.sublist_append_left _ "- ".toList)
          have inner := visible_keptAll_sublist marked language .line depth children
          exact inner.trans (prefix_endLine _).sublist
  | emphasis content =>
      have marked := present.trans (List.sublist_append_left written "**".toList)
      exact (marked.append (Text.visible_sublist content)).trans (List.sublist_append_left _ _)
  | link label target =>
      have marked := present.trans (List.sublist_append_left written "[".toList)
      have labelled := marked.append (Text.visible_sublist label)
      exact ((labelled.trans (List.sublist_append_left _ _)).trans
        (List.sublist_append_left _ _)).trans (List.sublist_append_left _ _)
  | code content => exact present.append (visible_sublist_code content language)

/-- What shows of nodes shows behind what has been shown. -/
theorem visible_keptAll_sublist {early written : Text} (present : early <+ written)
    (language : Text) (flow : Flow) (depth : Nat) (nodes : List Node) :
    early ++ Text.visible (keptAll nodes) <+ writeNodes language flow depth nodes written := by
  cases nodes with
  | nil =>
      rw [keptAll, Text.visible_nil, List.append_nil]
      exact present
  | cons node rest =>
      rw [keptAll, Text.visible_append, ← List.append_assoc]
      have first := visible_kept_sublist present language flow depth node
      exact visible_keptAll_sublist first language flow depth rest

end

/-- No text is lost: the characters of a text in documentation markup that are no blanks, without
the tags of the elements that are recognised in it, stand in its markdown in the same order. -/
theorem visible_withoutTags_sublist {language html markdown : Text}
    (rendered : render language html = .ok markdown) :
    Text.visible (withoutTags html) <+ markdown := by
  obtain ⟨nodes, read, rfl⟩ := ok_of_map rendered
  rw [ofNodes_eq, ← (read_eq_ok_iff.1 read).keptAll_eq]
  exact visible_keptAll_sublist (List.nil_sublist []) language .block 0 nodes

/-- A stray closing tag, an angle bracket in front of a space and a tag inside of emphasis. -/
def strayTags : Text :=
  "a < b</p><p class=x>c <em>d<code>e</em></p>".toList

/-- The stray tags and brackets are among what shows of the text, and stand in its markdown. -/
theorem visible_strayTags_sublist :
    render codeLanguage strayTags = .ok "a < b</p>\n\nc **d<code>e** \n".toList ∧
      Text.visible (withoutTags strayTags) = "a<b</p>cd<code>e".toList ∧
      Text.visible (withoutTags strayTags) <+ "a < b</p>\n\nc **d<code>e** \n".toList := by
  have emphasisEnds : splitContent .emphasis 0 0 "d<code>e</em>".toList =
      .ok ("d<code>e".toList, []) := by decide +kernel
  have paragraphEnds : splitContent (.block .paragraph) 0 0 "c <em>d<code>e</em></p>".toList =
      .ok ("c <em>d<code>e</em>".toList, []) := by decide +kernel
  have emphasis : Recognizes "c <em>d<code>e</em>".toList "c ".toList .emphasis []
      "d<code>e".toList [] := ⟨by decide, by decide, splitContent_anywhere emphasisEnds⟩
  have paragraph : Recognizes strayTags "a < b</p>".toList (.block .paragraph) " class=x".toList
      "c <em>d<code>e</em>".toList [] := ⟨by decide, by decide, splitContent_anywhere paragraphEnds⟩
  have rest : Reads [] [] := .plain rfl
  have reads := Reads.block paragraph (.raw emphasis rfl rest) rest
  have rendered : render codeLanguage strayTags =
      .ok "a < b</p>\n\nc **d<code>e** \n".toList := by
    rw [render, read_eq_ok_iff.2 reads, Except.map, ofNodes_eq]
    exact congrArg Except.ok (by decide)
  have visible : Text.visible (withoutTags strayTags) = "a<b</p>cd<code>e".toList := by
    rw [← reads.keptAll_eq]
    decide
  exact ⟨rendered, visible, visible_withoutTags_sublist rendered⟩

end EditorData.Markdown
