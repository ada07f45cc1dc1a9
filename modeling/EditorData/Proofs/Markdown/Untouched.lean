import EditorData.Proofs.Markdown.CodeText
import EditorData.Proofs.Markdown.Preservation

/-!
# Text that is left alone

A stretch of text in which no tag opens, and which does not run into a tag in front of it or behind
it, stands in the markdown as it is, as long as what stands around it can be read on its own
(`code_infix_render`). Nodes only add to what has been written (`prefix_writeNodes`).
-/

namespace EditorData.Markup

/-- A character that is no part of a tag keeps the tags in front of it from those behind it. -/
theorem splitTag_append_stop {c : Char} {text : Text} (differs : c ≠ '<')
    (apart : Text.isLetter c = false) (untagged : opensTag (text ++ [c]) = false) (more : Text) :
    splitTag (text ++ [c] ++ more) = (splitTag more).map (text ++ [c] ++ ·) id := by
  rw [opensTag_append_cons differs apart, Bool.or_eq_false_iff] at untagged
  have unnamed : splitName? (c :: more) = none := splitName?_eq_none_iff.2 apart
  have front := splitTag_append_of_none (splitTag_eq_iff.2 untagged.1) unnamed
  have behind : splitTag (c :: more) = (splitTag more).map (c :: ·) id := by
    rw [splitTag, if_neg differs]
  rw [List.append_assoc, List.singleton_append, front, behind]
  simp [Prod.map]

/-- A stretch of text in front of nodes is part of a text at their front. -/
theorem exists_prependText {content : Text} (present : content ≠ []) (nodes : List Node) :
    ∃ after later, prependText content nodes = .text (content ++ after) :: later := by
  have alone : textNodes content = [.text (content ++ [])] := by
    rw [textNodes, if_neg present, List.append_nil]
  cases nodes with
  | nil => exact ⟨[], [], congrArg (· ++ []) alone⟩
  | cons node rest =>
      cases node with
      | text first => exact ⟨first, rest, rfl⟩
      | _ => exact ⟨[], _, congrArg (· ++ _) alone⟩

end EditorData.Markup

namespace EditorData.Markdown

open EditorData.Markup

mutual

/-- A node only adds to what has been written. -/
theorem prefix_writeNode (language : Text) (flow : Flow) (depth : Nat) (node : Node)
    (written : Text) : written <+: writeNode language flow depth node written := by
  cases node with
  | text content => exact List.prefix_append written _
  | block kind children =>
      cases kind with
      | paragraph =>
          have inner := prefix_writeNodes language .line depth children (leaveBlankLine written)
          exact ((prefix_leaveBlankLine written).trans inner).trans (prefix_endLine _)
      | preformatted => exact prefix_writeNodes language .block depth children written
      | list =>
          have inner := prefix_writeNodes language .block (depth + 1) children (endLine written)
          exact (prefix_endLine written).trans inner
      | item =>
          have inner := prefix_writeNodes language .line depth children
            (endLine written ++ List.replicate (1 + 2 * (depth - 1)) ' ' ++ "- ".toList)
          have marked := (List.prefix_append (endLine written)
            (List.replicate (1 + 2 * (depth - 1)) ' ')).trans (List.prefix_append _ "- ".toList)
          exact (((prefix_endLine written).trans marked).trans inner).trans (prefix_endLine _)
  | emphasis content =>
      rw [writeNode, List.append_assoc, List.append_assoc]
      exact List.prefix_append written _
  | link label target =>
      rw [writeNode, List.append_assoc, List.append_assoc, List.append_assoc, List.append_assoc]
      exact List.prefix_append written _
  | code content => exact List.prefix_append written _

/-- Nodes only add to what has been written. -/
theorem prefix_writeNodes (language : Text) (flow : Flow) (depth : Nat) (nodes : List Node)
    (written : Text) : written <+: writeNodes language flow depth nodes written := by
  cases nodes with
  | nil => exact List.prefix_rfl
  | cons node rest =>
      have first := prefix_writeNode language flow depth node written
      exact first.trans (prefix_writeNodes language flow depth rest _)

end

/-- A stretch of a text that begins and ends with a character that shows stands in the markdown
of the text among other nodes. -/
theorem infix_ofNodes {c : Char} (shows : Text.isBlank c = false) (language : Text)
    (earlier later : List Node) (before inner after : Text) :
    c :: inner ++ [c] <:+:
      ofNodes language (earlier ++ .text (before ++ (c :: inner ++ [c]) ++ after) :: later) := by
  have trimmed := Text.trim_append Text.isBlank shows shows before inner after
  have within : c :: inner ++ [c] <:+: Flow.block.lay (before ++ (c :: inner ++ [c]) ++ after) := by
    have present : Text.trimmed (before ++ (c :: inner ++ [c]) ++ after) ≠ [] := by
      rw [Text.trimmed, trimmed]
      simp
    rw [Flow.lay, if_neg present, Text.trimmed, trimmed]
    exact ⟨_, _, (List.append_assoc _ _ _).symm⟩
  rw [ofNodes_eq, writeNodes_append, writeNodes, writeNode]
  have laid := within.trans (List.suffix_append (writeNodes language .block 0 earlier []) _).isInfix
  exact laid.trans (prefix_writeNodes language .block 0 later _).isInfix

/-- Code in which no tag opens stands in the markdown of a text that has it as markdown, if what
stands in front of it and behind it can be read on its own. -/
theorem code_infix_render {content front back : Text} {frontNodes backNodes : List Node}
    (untagged : opensTag content = false) (frontReads : Reads front frontNodes)
    (backReads : Reads back backNodes) :
    ∃ markdown lead inner,
      render codeLanguage (front ++ (code content codeLanguage ++ back)) = .ok markdown ∧
      code content codeLanguage = lead ++ ('\x60' :: inner ++ ['\x60']) ∧
      Text.trimStart (· == '\n') lead = [] ∧
      '\x60' :: inner ++ ['\x60'] <:+: markdown := by
  obtain ⟨lead, inner, whole, feeds⟩ := code_eq content codeLanguage
  have last : code content codeLanguage = lead ++ '\x60' :: inner ++ ['\x60'] := by
    rw [whole]
    simp
  have present : code content codeLanguage ≠ [] := by
    rw [last]
    simp
  have unnamed : splitName? (code content codeLanguage ++ back) = none := by
    rw [splitName?_eq_none_iff, whole]
    have marks : Text.isLetter '\x60' = false ∧ Text.isLetter '\n' = false := by decide
    rcases feeds with rfl | rfl
    · exact marks.1
    · exact marks.2
  have joins : splitTag (code content codeLanguage ++ back) =
      (splitTag back).map (code content codeLanguage ++ ·) id := by
    have noTag := opensTag_code content
    rw [untagged, last] at noTag
    rw [last]
    exact splitTag_append_stop (by decide) (by decide) noTag back
  -- the code runs into the text around it, if there is any, and stays in one piece
  obtain ⟨after, later, behind⟩ := exists_prependText present backNodes
  obtain ⟨earlier, before, reads⟩ := frontReads.append (backReads.prepend joins) unnamed
  rw [behind, prependText, ← List.append_assoc before] at reads
  have rendered := congrArg (Except.map (ofNodes codeLanguage)) (read_eq_ok_iff.2 reads)
  refine ⟨_, lead, inner, rendered, whole, ?_, ?_⟩
  · rcases feeds with rfl | rfl <;> rfl
  · rw [whole, ← List.append_assoc]
    exact infix_ofNodes (by decide) codeLanguage earlier later (before ++ lead) inner after

end EditorData.Markdown
