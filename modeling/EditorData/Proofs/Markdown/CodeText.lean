import EditorData.Markdown.Code
import EditorData.Proofs.Markup.Opening

/-!
# The text of code in markdown

Code in markdown begins and ends with a backtick, but for a line feed in front of a fence, and it
has the tags that open in the code.
-/

namespace EditorData.Markdown

open EditorData.Markup

/-- A tag opens in code without blanks at its ends exactly if it opens in the code. -/
theorem opensTag_trimmedCode (content : Text) :
    opensTag (trimmedCode content) = opensTag content := by
  refine opensTag_trim (fun c trimmed => ?_) content
  rcases Bool.or_eq_true_iff.1 trimmed with space | feed
  · rw [eq_of_beq space]
    decide
  · rw [eq_of_beq feed]
    decide

/-- A tag opens in the lines of code exactly if it opens in the code. -/
theorem any_opensTag_codeLines (content : Text) :
    (codeLines content).any opensTag = opensTag content := by
  rw [← any_opensTag_lines, codeLines]
  induction Text.lines content with
  | nil => rfl
  | cons line lines inductionHypothesis =>
      cases line with
      | nil => exact inductionHypothesis
      | cons c line => exact congrArg (opensTag (c :: line) || ·) inductionHypothesis

/-- A tag opens in lines behind a text exactly if it opens in that or in one of the lines. -/
theorem opensTag_append_flatMap (lead : Text) (body : List Text) :
    opensTag (lead ++ body.flatMap ('\n' :: ·)) = (opensTag lead || body.any opensTag) := by
  induction body generalizing lead with
  | nil => simp
  | cons line body inductionHypothesis =>
      rw [List.flatMap_cons, List.cons_append, opensTag_append_cons (by decide) (by decide),
        inductionHypothesis, List.any_cons]

/-- A tag opens in a fence exactly if it opens in one of its lines. -/
theorem opensTag_fence (body : List Text) :
    opensTag (fence codeLanguage body) = body.any opensTag := by
  have foot : "\n```".toList = '\n' :: "```".toList := rfl
  have noTag : opensTag ("\n```".toList ++ codeLanguage) = false := by decide
  have noTagBehind : opensTag "```".toList = false := by decide
  rw [fence, foot, opensTag_append_cons (by decide) (by decide), ← foot, opensTag_append_flatMap,
    noTag, noTagBehind, Bool.false_or, Bool.or_false]

/-- A tag opens in code in markdown exactly if it opens in the code. -/
theorem opensTag_code (content : Text) :
    opensTag (code content codeLanguage) = opensTag content := by
  rw [code]
  split
  · rw [opensTag_fence, any_opensTag_codeLines, opensTag_trimmedCode]
  · rw [List.cons_append, opensTag_cons (by decide), opensTag_append_cons (by decide) (by decide),
      opensTag_trimmedCode]
    exact Bool.or_false _

/-- Code in markdown begins and ends with a backtick, but for a line feed in front. -/
theorem code_eq (content language : Text) :
    ∃ lead inner, code content language = lead ++ ('\x60' :: inner ++ ['\x60']) ∧
      (lead = [] ∨ lead = ['\n']) := by
  rw [code]
  split
  · refine ⟨['\n'], "``".toList ++ language ++
      (codeLines (trimmedCode content)).flatMap ('\n' :: ·) ++ "\n``".toList, ?_, .inr rfl⟩
    simp [fence]
  · exact ⟨[], trimmedCode content, rfl, .inl rfl⟩

end EditorData.Markdown
