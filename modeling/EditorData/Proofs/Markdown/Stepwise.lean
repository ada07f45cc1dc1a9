import EditorData.Markdown.Layout
import EditorData.Proofs.Markdown.Rendering
import Mathlib.Logic.Relation

/-!
# Rendering step by step

Rendering reads a text and writes its markdown as it goes, also the text of which it finds out later
that it is no document. A state of it (`Work`) is the output with the tasks that are left, and a
step writes one fragment at most or replaces the first task by smaller ones. The run from a text
ends with the markdown that the forest of the text is laid out as, or stops at the fault that
reading the forest ends in (`renders`).
-/

namespace EditorData.Markdown

open EditorData.Markup

/-- A piece of the work that is left. -/
inductive Task where
  | write (fragment : Text)
  /-- End the line in progress, if there is one. -/
  | endLine
  /-- Leave a blank line in front of a paragraph, if anything has been written. -/
  | leaveBlankLine
  /-- Lay out the text between two tags. -/
  | text (flow : Flow) (content : Text)
  /-- Render an element that has been recognised. -/
  | element (depth : Nat) (tag : Tag) (attributes content : Text)
  /-- Render the rest of a text that begins at an offset. -/
  | read (flow : Flow) (depth offset : Nat) (html : Text)
  /-- Give up. -/
  | stop (fault : Fault)
deriving DecidableEq, Repr

/-- Rendering in progress. -/
structure Work where
  output : Output
  tasks : List Task
deriving DecidableEq, Repr

/-- What a stretch of text is written as; one of blanks alone leaves no trace. -/
def textTasks (flow : Flow) (content : Text) : List Task :=
  match Text.trimmed content with
  | [] => []
  | trimmed =>
      match flow with
      | .block => [.write trimmed, .write ['\n']]
      | .line => (Text.lines trimmed).map fun line => .write (Text.trimmed line ++ [' '])

/-- What is done for an element. -/
def elementTasks (language : Text) (depth : Nat) (tag : Tag) (attributes content : Text) :
    List Task :=
  match tag with
  | .block .paragraph => [.leaveBlankLine, .read .line depth 0 content, .endLine]
  | .block .preformatted => [.read .block depth 0 content]
  | .block .list => [.endLine, .read .block (depth + 1) 0 content]
  | .block .item =>
      [.endLine, .write (itemMark depth), .write "- ".toList, .read .line depth 0 content, .endLine]
  | .emphasis => [.write ("**".toList ++ content ++ "** ".toList)]
  | .link =>
      match target? attributes with
      | some target => [.write (linkText content target)]
      | none => [.stop (.missingTarget attributes)]
  | .code => [.write (code content language)]

/-- What is done for a text: its front up to the first tag, the element, and what follows that. The
front is written before the end of the element is looked for. -/
def readTasks (flow : Flow) (depth offset : Nat) (html : Text) : List Task :=
  match splitTag html with
  | (before, none) => [.text flow before]
  | (before, some (name, afterName)) =>
      let tagStart := offset + before.length
      match Tag.ofName? name with
      | none => [.stop (.unsupportedTag name tagStart)]
      | some tag =>
          .text flow before ::
            match Text.cut? ['>'] afterName with
            | none => [.stop (.unclosedTag tag tagStart)]
            | some (attributes, inner) =>
                let contentStart := tagStart + name.length + attributes.length + 2
                match splitContent tag contentStart contentStart inner with
                | .error fault => [.stop fault]
                | .ok (content, rest) =>
                    [.element depth tag attributes content,
                      .read flow depth (contentStart + content.length + tag.closing.length) rest]

namespace Work

/-- Rendering at its start. -/
def start (html : Text) : Work :=
  ⟨.empty, [.read .block 0 0 html]⟩

/-- One step. There is none when all is done, or after a fault. -/
def step (language : Text) : Work -> Option Work
  | ⟨_, []⟩ => none
  | ⟨_, .stop _ :: _⟩ => none
  | ⟨output, .write fragment :: rest⟩ => some ⟨output.write fragment, rest⟩
  | ⟨output, .endLine :: rest⟩ => some ⟨output.ensureNewline, rest⟩
  | ⟨output, .leaveBlankLine :: rest⟩ =>
      if output.fragments ≠ [] ∧ output.endsWith ['\n', '\n'] = false then
        some ⟨output, .endLine :: .write ['\n'] :: rest⟩
      else some ⟨output, rest⟩
  | ⟨output, .text flow content :: rest⟩ => some ⟨output, textTasks flow content ++ rest⟩
  | ⟨output, .element depth tag attributes content :: rest⟩ =>
      some ⟨output, elementTasks language depth tag attributes content ++ rest⟩
  | ⟨output, .read flow depth offset html :: rest⟩ =>
      some ⟨output, readTasks flow depth offset html ++ rest⟩

/-- Any number of steps. -/
abbrev Steps (language : Text) : Work -> Work -> Prop :=
  Relation.ReflTransGen fun work next => work.step language = some next

/-- What has come of the work when there is no further step. -/
def outcome (work : Work) : Except Fault Text :=
  match work.tasks with
  | .stop fault :: _ => .error fault
  | _ => .ok work.output.text

variable {language html content attributes before : Text} {flow : Flow} {depth offset : Nat}
  {output : Output} {rest : List Task} {first work : Work}

/-- A text is replaced by what is done for it. -/
theorem step_read {tasks : List Task} (found : readTasks flow depth offset html = tasks)
    (output : Output) (rest : List Task) :
    step language ⟨output, .read flow depth offset html :: rest⟩ =
      some ⟨output, tasks ++ rest⟩ := by
  rw [step, found]

/-- Fragments are written in their order. -/
theorem steps_writes (fragments : List Text) (output : Output) (rest : List Task) :
    Steps language ⟨output, fragments.map .write ++ rest⟩
      ⟨fragments.foldl Output.write output, rest⟩ := by
  induction fragments generalizing output with
  | nil => exact .refl
  | cons fragment fragments inductionHypothesis =>
      exact .head rfl (inductionHypothesis (output.write fragment))

/-- A stretch of text is written. -/
theorem steps_text (flow : Flow) (content : Text) (output : Output) (rest : List Task) :
    Steps language ⟨output, .text flow content :: rest⟩
      ⟨output.writeText flow content, rest⟩ := by
  refine .head rfl ?_
  unfold textTasks Output.writeText
  cases Text.trimmed content with
  | nil => exact .refl
  | cons c trimmed =>
      cases flow with
      | block => exact steps_writes [c :: trimmed, ['\n']] output rest
      | line =>
          have written := @steps_writes language
            ((Text.lines (c :: trimmed)).map fun line => Text.trimmed line ++ [' ']) output rest
          rw [List.map_map, List.foldl_map] at written
          exact written

/-- A blank line is left behind what has been written. -/
theorem steps_leaveBlankLine (output : Output) (rest : List Task) :
    Steps language ⟨output, .leaveBlankLine :: rest⟩ ⟨output.ensureBlankLine, rest⟩ := by
  unfold Output.ensureBlankLine
  by_cases lacks : output.fragments ≠ [] ∧ output.endsWith ['\n', '\n'] = false
  · rw [if_pos lacks]
    have ending : step language ⟨output, .leaveBlankLine :: rest⟩ =
        some ⟨output, .endLine :: .write ['\n'] :: rest⟩ := if_pos lacks
    exact .head ending (.head rfl (.head rfl .refl))
  · rw [if_neg lacks]
    have leaving : step language ⟨output, .leaveBlankLine :: rest⟩ = some ⟨output, rest⟩ :=
      if_neg lacks
    exact .head leaving .refl

/-- The work gets as far as the tasks that are left, with a certain output, or stops at a fault in
front of them. -/
def Leads (language : Text) (work : Work) (rest : List Task) : Except Fault Output -> Prop
  | .ok output => Steps language work ⟨output, rest⟩
  | .error fault => ∃ output behind, Steps language work ⟨output, .stop fault :: behind⟩

namespace Leads

variable {result : Except Fault Output} {middle : List Task}

/-- Steps in front of the work. -/
theorem of_steps (steps : Steps language first work) (leads : Leads language work rest result) :
    Leads language first rest result := by
  cases result with
  | ok output => exact steps.trans leads
  | error fault =>
      obtain ⟨output, behind, later⟩ := leads
      exact ⟨output, behind, steps.trans later⟩

/-- One piece of work behind the other. -/
theorem bind {next : Output -> Except Fault Output} (leads : Leads language work middle result)
    (later : ∀ output, Leads language ⟨output, middle⟩ rest (next output)) :
    Leads language work rest (result >>= next) := by
  cases result with
  | ok output => exact (later output).of_steps leads
  | error fault => exact leads

/-- Steps behind the work. -/
theorem map {α : Type} {value : Except Fault α} {made : α -> Output} {change : Output -> Output}
    (leads : Leads language work middle (value.map made))
    (later : ∀ output, Steps language ⟨output, middle⟩ ⟨change output, rest⟩) :
    Leads language work rest (value.map fun content => change (made content)) := by
  cases value with
  | ok content => exact leads.trans (later (made content))
  | error fault => exact leads

end Leads

/-- The work on a text leads to what its nodes are laid out as. -/
def Renders (language : Text) (offset : Nat) (html : Text) : Prop :=
  ∀ flow depth output rest,
    Leads language ⟨output, .read flow depth offset html :: rest⟩ rest
      ((readFrom offset html).map fun nodes => layout language flow depth nodes output)

/-- The node of an element that has been recognised. -/
def readElement (tag : Tag) (attributes content : Text) : Except Fault Node :=
  match tag with
  | .block kind => (readFrom 0 content).map (Node.block kind)
  | .emphasis => pure (.emphasis content)
  | .code => pure (.code content)
  | .link =>
      match target? attributes with
      | some target => pure (.link content target)
      | none => throw (.missingTarget attributes)

/-- A block is rendered with its content. -/
theorem leads_block (kind : Block) (attributes : Text) (renders : Renders language 0 content)
    (flow : Flow) (depth : Nat) (output : Output) (rest : List Task) :
    Leads language ⟨output, .element depth (.block kind) attributes content :: rest⟩ rest
      ((readFrom 0 content).map fun children =>
        layoutNode language flow depth (.block kind children) output) := by
  have ends (output : Output) :
      Steps language ⟨output, .endLine :: rest⟩ ⟨output.ensureNewline, rest⟩ :=
    .head rfl .refl
  cases kind with
  | paragraph =>
      have lines := (renders .line depth output.ensureBlankLine (.endLine :: rest)).map ends
      exact .of_steps (.head rfl (steps_leaveBlankLine output _)) lines
  | preformatted => exact .of_steps (.head rfl .refl) (renders .block depth output rest)
  | list =>
      exact .of_steps (.head rfl (.head rfl .refl))
        (renders .block (depth + 1) output.ensureNewline rest)
  | item =>
      have lines := (renders .line depth
        ((output.ensureNewline.write (itemMark depth)).write "- ".toList) (.endLine :: rest)).map ends
      exact .of_steps (.head rfl (.head rfl (.head rfl (.head rfl .refl)))) lines

/-- An element is rendered as its node is laid out. -/
theorem leads_element {tag : Tag} (inner : ∀ kind, tag = .block kind → Renders language 0 content)
    (attributes : Text) (flow : Flow) (depth : Nat) (output : Output) (rest : List Task) :
    Leads language ⟨output, .element depth tag attributes content :: rest⟩ rest
      ((readElement tag attributes content).map fun node =>
        layoutNode language flow depth node output) := by
  cases tag with
  | block kind =>
      have block := leads_block kind attributes (inner kind rfl) flow depth output rest
      rw [readElement]
      cases found : readFrom 0 content <;>
      · rw [found] at block
        exact block
  | emphasis => exact .head rfl (.head rfl .refl)
  | code => exact .head rfl (.head rfl .refl)
  | link =>
      unfold readElement
      have stepped : step language ⟨output, .element depth .link attributes content :: rest⟩ =
          some ⟨output, elementTasks language depth .link attributes content ++ rest⟩ := rfl
      rw [elementTasks] at stepped
      cases targeted : target? attributes with
      | some target =>
          rw [targeted] at stepped
          exact .head stepped (.head rfl .refl)
      | none =>
          rw [targeted] at stepped
          exact ⟨output, rest, .head stepped .refl⟩

/-- A text in front of other nodes is written first, and an empty one leaves no trace. -/
theorem layout_textNodes (language : Text) (flow : Flow) (depth : Nat) (before : Text)
    (nodes : List Node) (output : Output) :
    layout language flow depth (textNodes before ++ nodes) output =
      layout language flow depth nodes (output.writeText flow before) := by
  unfold textNodes
  split
  · next nothing =>
      subst nothing
      rfl
  · rfl

section Found

variable {tag : Tag} {name afterName inner following : Text} {contentStart : Nat}

/-- Where a tag and its end are found, the text in front is written, then the element, and then
what follows. -/
theorem leads_found (tagged : splitTag html = (before, some (name, afterName)))
    (named : Tag.ofName? name = some tag)
    (bracketed : Text.cut? ['>'] afterName = some (attributes, inner))
    (starts : offset + before.length + name.length + attributes.length + 2 = contentStart)
    (ended : splitContent tag contentStart contentStart inner = .ok (content, following))
    (within : ∀ kind, tag = .block kind → Renders language 0 content)
    (later : Renders language (contentStart + content.length + tag.closing.length) following)
    (flow : Flow) (depth : Nat) (output : Output) (rest : List Task) :
    Leads language ⟨output, .read flow depth offset html :: rest⟩ rest
      ((do
        let node <- readElement tag attributes content
        let others <- readFrom (contentStart + content.length + tag.closing.length) following
        return textNodes before ++ node :: others).map fun nodes =>
          layout language flow depth nodes output) := by
  have tasks : readTasks flow depth offset html =
      [.text flow before, .element depth tag attributes content,
        .read flow depth (contentStart + content.length + tag.closing.length) following] := by
    subst starts
    unfold readTasks
    simp only [tagged, named, bracketed, ended]
  have fused : ((do
      let node <- readElement tag attributes content
      let others <- readFrom (contentStart + content.length + tag.closing.length) following
      return textNodes before ++ node :: others).map fun nodes =>
        layout language flow depth nodes output) =
      ((readElement tag attributes content).map fun node =>
        layoutNode language flow depth node (output.writeText flow before)) >>= fun written =>
          (readFrom (contentStart + content.length + tag.closing.length) following).map fun others =>
            layout language flow depth others written := by
    cases readElement tag attributes content with
    | error fault => rfl
    | ok node =>
        cases readFrom (contentStart + content.length + tag.closing.length) following with
        | error fault => rfl
        | ok others =>
            exact congrArg Except.ok (layout_textNodes language flow depth before _ output)
  rw [fused]
  refine .of_steps (.head (step_read tasks output rest) (steps_text flow before output _)) ?_
  refine (leads_element within attributes flow depth (output.writeText flow before) _).bind ?_
  exact fun written => later flow depth written rest

end Found

/-- The work on every text leads to what its nodes are laid out as. -/
theorem renders (language : Text) (offset : Nat) (html : Text) :
    Renders language offset html := by
  -- The cases are those of reading: without a tag, three faults of a tag, and one for each kind of
  -- element, where only a block has content that is read.
  unfold Renders
  fun_induction readFrom offset html with
  | case1 offset html before untagged =>
      intro flow depth output rest
      have tasks : readTasks flow depth offset html = [.text flow before] := by
        unfold readTasks
        rw [untagged]
      refine .of_steps (.head (step_read tasks output rest) (steps_text flow before output rest)) ?_
      have laid := layout_textNodes language flow depth before [] output
      rw [List.append_nil] at laid
      rw [Except.map, laid]
      exact .refl
  | case2 offset html before name afterName tagged tagStart unnamed =>
      intro flow depth output rest
      have tasks : readTasks flow depth offset html = [.stop (.unsupportedTag name tagStart)] := by
        unfold readTasks
        simp only [tagged, unnamed]
        rfl
      exact ⟨output, rest, .head (step_read tasks output rest) .refl⟩
  | case3 offset html before name afterName tagged tagStart tag named unclosed =>
      intro flow depth output rest
      have tasks : readTasks flow depth offset html =
          [.text flow before, .stop (.unclosedTag tag tagStart)] := by
        unfold readTasks
        simp only [tagged, named, unclosed]
        rfl
      exact ⟨_, rest, .head (step_read tasks output rest) (steps_text flow before output _)⟩
  | case4 offset html before name afterName tagged tagStart tag named attributes inner bracketed
      contentStart fault unended =>
      intro flow depth output rest
      have tasks : readTasks flow depth offset html = [.text flow before, .stop fault] := by
        unfold readTasks
        simp only [tagged, named, bracketed]
        rw [unended]
      exact ⟨_, rest, .head (step_read tasks output rest) (steps_text flow before output _)⟩
  | case5 offset html before name afterName tagged tagStart attributes inner bracketed contentStart
      content following kind named ended join laterRenders innerRenders =>
      refine leads_found tagged named bracketed rfl ended (fun other same => ?_) laterRenders
      exact innerRenders
  | case6 offset html before name afterName tagged tagStart attributes inner bracketed contentStart
      content following named ended join laterRenders =>
      exact leads_found tagged named bracketed rfl ended nofun laterRenders
  | case7 offset html before name afterName tagged tagStart attributes inner bracketed contentStart
      content following named ended join laterRenders =>
      exact leads_found tagged named bracketed rfl ended nofun laterRenders
  | case8 offset html before name afterName tagged tagStart attributes inner bracketed contentStart
      content following target targeted named ended join laterRenders =>
      intro flow depth output rest
      have leads :=
        leads_found tagged named bracketed rfl ended nofun laterRenders flow depth output rest
      rw [readElement, targeted] at leads
      exact leads
  | case9 offset html before name afterName tagged tagStart attributes inner bracketed contentStart
      content following untargeted named ended join laterRenders =>
      intro flow depth output rest
      have leads :=
        leads_found tagged named bracketed rfl ended nofun laterRenders flow depth output rest
      rw [readElement, untargeted] at leads
      exact leads

end Work

end EditorData.Markdown
