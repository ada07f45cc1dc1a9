import EditorData.Proofs.Markdown.Paragraphs
import EditorData.Proofs.Markdown.Stepwise

/-!
# How the output ends

A step writes one fragment at most, and never an empty one. So in every state of rendering the last
fragments tell how the whole output ends, also where the text turns out to be no document, and what
is written of a paragraph stands behind a blank line if anything stands in front of it
(`render_endings`).
-/

namespace EditorData.Markdown

open EditorData.Markup

/-- The end of a line in progress is a fragment of its own, or nothing at all. -/
theorem Output.exists_ensureNewline (output : Output) :
    ∃ fragment, output.ensureNewline = output.write fragment := by
  unfold Output.ensureNewline
  split
  · exact ⟨['\n'], rfl⟩
  · exact ⟨[], rfl⟩

/-- Behind a text that is not empty a blank line is left. -/
theorem leaveBlankLine_blank {written : Text} (present : written ≠ []) :
    ['\n', '\n'] <:+ leaveBlankLine written := by
  unfold leaveBlankLine
  split
  · next left => exact left.resolve_left present
  · rcases endLine_ends written with nothing | ⟨front, ended⟩
    · have kept := (prefix_endLine written).length_le
      rw [nothing] at kept
      exact absurd (List.length_eq_zero_iff.mp (Nat.le_zero.mp kept)) present
    · exact ⟨front, by rw [← ended, List.append_assoc]; rfl⟩

namespace Work

variable {language html : Text} {first next work : Work}

/-- A step writes one fragment at most. -/
theorem output_of_step (stepped : work.step language = some next) :
    ∃ fragment, next.output = work.output.write fragment := by
  obtain ⟨output, tasks⟩ := work
  cases tasks with
  | nil => cases stepped
  | cons task rest =>
      cases task with
      | write fragment =>
          cases stepped
          exact ⟨fragment, rfl⟩
      | endLine =>
          cases stepped
          exact output.exists_ensureNewline
      | leaveBlankLine =>
          rw [step] at stepped
          split at stepped <;>
          · cases stepped
            exact ⟨[], rfl⟩
      | stop fault => cases stepped
      | text | element | read =>
          cases stepped
          exact ⟨[], rfl⟩

/-- Steps leave no empty fragment. -/
theorem nonempty_of_steps (steps : Steps language first next)
    (nonempty : ∀ fragment ∈ first.output.fragments, fragment ≠ []) :
    ∀ fragment ∈ next.output.fragments, fragment ≠ [] := by
  induction steps with
  | refl => exact nonempty
  | tail _ stepped inductionHypothesis =>
      obtain ⟨fragment, written⟩ := output_of_step stepped
      rw [written]
      exact Output.write_nonempty inductionHypothesis fragment

/-- Steps only add to what has been written. -/
theorem prefix_of_steps (steps : Steps language first next) :
    first.output.text <+: next.output.text := by
  induction steps with
  | refl => exact List.prefix_rfl
  | tail _ stepped inductionHypothesis =>
      obtain ⟨fragment, written⟩ := output_of_step stepped
      rw [written, Output.text_write]
      exact inductionHypothesis.trans (List.prefix_append _ fragment)

/-- A paragraph is begun behind a blank line. -/
theorem steps_paragraph (depth : Nat) (attributes content : Text) (output : Output)
    (rest : List Task) :
    Steps language ⟨output, .element depth (.block .paragraph) attributes content :: rest⟩
      ⟨output.ensureBlankLine, .read .line depth 0 content :: .endLine :: rest⟩ :=
  .head rfl (steps_leaveBlankLine output _)

/-- The state after a number of steps, or the last one. -/
def run (language : Text) : (count : Nat) -> Work -> Work
  | 0, work => work
  | count + 1, work =>
      match work.step language with
      | some next => run language count next
      | none => work

/-- A run takes steps. -/
theorem steps_run (language : Text) (count : Nat) (work : Work) :
    Steps language work (run language count work) := by
  induction count generalizing work with
  | zero => exact .refl
  | succ count inductionHypothesis =>
      unfold run
      split
      · next next stepped => exact .head stepped (inductionHypothesis next)
      · exact .refl

/-- The work on a text ends as its rendering does. -/
theorem steps_render (language html : Text) :
    ∃ last, Steps language (start html) last ∧ last.step language = none ∧
      last.outcome = render language html := by
  have leads := renders language 0 html .block 0 .empty []
  unfold render Markup.read
  cases found : readFrom 0 html with
  | ok nodes =>
      rw [found] at leads
      exact ⟨_, leads, rfl, rfl⟩
  | error fault =>
      rw [found] at leads
      obtain ⟨output, behind, steps⟩ := leads
      exact ⟨_, steps, rfl, rfl⟩

/-- Rendering goes from state to state until it ends, and in every state no fragment is empty, so
that the last fragments, as many as a text has characters, end with it exactly if the whole output
does. A line in progress is ended exactly where one is. A paragraph behind any output is begun
behind a blank line, and all that is written later stands behind that. -/
theorem render_endings (language html : Text) :
    (∃ last, Steps language (start html) last ∧ last.step language = none ∧
      last.outcome = render language html) ∧
    ∀ work, Steps language (start html) work →
      (∀ fragment ∈ work.output.fragments, fragment ≠ []) ∧
      (∀ suffix, work.output.endsWith suffix = true ↔ suffix <:+ work.output.text) ∧
      work.output.ensureNewline =
        (if work.output.text ≠ [] ∧ ¬['\n'] <:+ work.output.text then work.output.write ['\n']
        else work.output) ∧
      ∀ depth attributes content rest,
        work.tasks = .element depth (.block .paragraph) attributes content :: rest →
        work.output.text ≠ [] →
        ∃ opened : Work, Steps language work opened ∧
          opened.tasks = .read .line depth 0 content :: .endLine :: rest ∧
          opened.output.text = leaveBlankLine work.output.text ∧
          ['\n', '\n'] <:+ opened.output.text ∧
          ∀ later, Steps language opened later → opened.output.text <+: later.output.text := by
  refine ⟨steps_render language html, fun work steps => ?_⟩
  have nonempty := nonempty_of_steps steps nofun
  have holds : Output.Holds work.output work.output.text := ⟨nonempty, rfl⟩
  refine ⟨nonempty, holds.endsWith_iff, ?_, ?_⟩
  · exact if_congr ((holds.lacks_iff ['\n']).trans not_or) rfl rfl
  · intro depth attributes content rest paragraph present
    obtain ⟨output, tasks⟩ := work
    cases paragraph
    have blank := holds.ensureBlankLine.text_eq
    refine ⟨_, steps_paragraph depth attributes content output rest, rfl, blank, ?_,
      fun later => prefix_of_steps⟩
    rw [blank]
    exact leaveBlankLine_blank present

/-- A paragraph in an item whose text is blank. -/
def itemParagraph : Text :=
  "<ul><li> \n<p>one</p></li></ul>".toList

/-- The paragraph is reached behind the mark of the item, and begun behind a blank line. -/
theorem render_endings_itemParagraph :
    Steps codeLanguage (start itemParagraph)
        ⟨⟨["- ".toList, [' ']]⟩, [.element 1 (.block .paragraph) [] "one".toList,
          .read .line 1 12 [], .endLine, .read .block 1 21 [], .read .block 0 30 []]⟩ ∧
      ∃ opened : Work,
        opened.output.text = " - \n\n".toList ∧
          opened.tasks = [.read .line 1 0 "one".toList, .endLine, .read .line 1 12 [], .endLine,
            .read .block 1 21 [], .read .block 0 30 []] ∧
          Steps codeLanguage (start itemParagraph) opened := by
  have reached : run codeLanguage 12 (start itemParagraph) =
      ⟨⟨["- ".toList, [' ']]⟩, [.element 1 (.block .paragraph) [] "one".toList,
        .read .line 1 12 [], .endLine, .read .block 1 21 [], .read .block 0 30 []]⟩ := by
    decide +kernel
  have steps := steps_run codeLanguage 12 (start itemParagraph)
  rw [reached] at steps
  obtain ⟨-, -, -, begun⟩ := (render_endings codeLanguage itemParagraph).2 _ steps
  obtain ⟨opened, later, tasks, text, -⟩ := begun 1 [] "one".toList _ rfl (by decide)
  refine ⟨steps, opened, ?_, tasks, steps.trans later⟩
  rw [text]
  decide

end Work

end EditorData.Markdown
