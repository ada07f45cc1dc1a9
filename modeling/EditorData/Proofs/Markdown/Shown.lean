import EditorData.Proofs.Markdown.Rendering
import EditorData.Proofs.Text.Visible

/-!
# What shows of markdown

Layout moves blanks about and leaves everything else of a text alone (`visible_lay`). Around code
it puts marks (`visible_code`), and the ends of lines show nothing.
-/

namespace EditorData.Markdown

/-- Laid out or not, a stretch of text shows the same. -/
theorem visible_lay (flow : Flow) (content : Text) :
    Text.visible (flow.lay content) = Text.visible content := by
  rw [← Text.visible_trimmed content]
  unfold Flow.lay
  split
  · next empty => rw [empty]
  · cases flow with
    | block =>
        rw [Text.visible_append]
        exact List.append_nil _
    | line =>
        rw [← Text.visible_lines (Text.trimmed content)]
        refine Text.visible_flatMap (fun line => ?_) _
        rw [Text.visible_append, Text.visible_trimmed]
        exact List.append_nil _

/-- Trimmed code shows what the code shows. -/
theorem visible_trimmedCode (content : Text) :
    Text.visible (trimmedCode content) = Text.visible content := by
  refine Text.visible_trim (fun c trimmed => ?_) content
  rcases Bool.or_eq_true_iff.1 trimmed with space | feed
  · rw [eq_of_beq space]
    rfl
  · rw [eq_of_beq feed]
    rfl

/-- The lines of code show together what the code shows. -/
theorem visible_codeLines (content : Text) :
    (codeLines content).flatMap Text.visible = Text.visible content := by
  rw [← Text.visible_lines, codeLines]
  induction Text.lines content with
  | nil => rfl
  | cons line lines inductionHypothesis =>
      cases line with
      | nil => exact inductionHypothesis
      | cons c line => exact congrArg (Text.visible (c :: line) ++ ·) inductionHypothesis

/-- Code in markdown shows what the code shows, between marks. -/
theorem visible_code (content language : Text) :
    ∃ front back, Text.visible (code content language) = front ++ Text.visible content ++ back ∧
      front.length + back.length ≤ 6 + language.length := by
  rw [← visible_trimmedCode content, code]
  split
  · have feed : ∀ line, Text.visible ('\n' :: line) = Text.visible line :=
      Text.visible_cons_blank rfl
    have lines := Text.visible_flatMap feed (codeLines (trimmedCode content))
    refine ⟨Text.visible ("\n```".toList ++ language), Text.visible "\n```".toList, ?_, ?_⟩
    · rw [fence, Text.visible_append, Text.visible_append, lines, visible_codeLines]
    · have few := (Text.visible_sublist language).length_le
      have mark : (Text.visible "\n```".toList).length = 3 := rfl
      rw [Text.visible_append, List.length_append, mark]
      omega
  · refine ⟨['\x60'], ['\x60'], ?_, ?_⟩
    · rw [List.cons_append, ← List.singleton_append, Text.visible_append, Text.visible_append,
        List.append_assoc]
      rfl
    · simp only [List.length_singleton]
      omega

/-- Ending a line shows nothing more. -/
theorem visible_endLine (written : Text) :
    Text.visible (endLine written) = Text.visible written := by
  unfold endLine
  split
  · rfl
  · rw [Text.visible_append]
    exact List.append_nil _

/-- Leaving a blank line shows nothing more. -/
theorem visible_leaveBlankLine (written : Text) :
    Text.visible (leaveBlankLine written) = Text.visible written := by
  unfold leaveBlankLine
  split
  · rfl
  · rw [Text.visible_append, visible_endLine]
    exact List.append_nil _

end EditorData.Markdown
