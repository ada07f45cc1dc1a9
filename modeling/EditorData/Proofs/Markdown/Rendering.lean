import EditorData.Markdown.Layout
import EditorData.Proofs.Markdown.Written
import EditorData.Proofs.Markup.RoundTrip

/-!
# Rendering printed markup

The markdown of a forest as a function of its nodes and of the text in front of it
(`writeNode`, `writeNodes`): a walk over the tree that knows neither tags nor offsets nor
fragments. Rendering the text of a well-formed forest gives the same markdown
(`render_printAll`).
-/

namespace EditorData.Markdown

open EditorData.Markup

/-- A stretch of text as it is laid out; one of blanks alone leaves no trace. -/
def Flow.lay (flow : Flow) (content : Text) : Text :=
  if Text.trimmed content = [] then []
  else
    match flow with
    | .block => Text.trimmed content ++ ['\n']
    | .line => (Text.lines (Text.trimmed content)).flatMap fun line => Text.trimmed line ++ [' ']

mutual

/-- The text with the markdown of a node behind it. -/
def writeNode (language : Text) (flow : Flow) (depth : Nat) : Node -> Text -> Text
  | .text content, written => written ++ flow.lay content
  | .block .paragraph children, written =>
      endLine (writeNodes language .line depth children (leaveBlankLine written))
  | .block .preformatted children, written => writeNodes language .block depth children written
  | .block .list children, written =>
      writeNodes language .block (depth + 1) children (endLine written)
  | .block .item children, written =>
      endLine (writeNodes language .line depth children
        (endLine written ++ List.replicate (1 + 2 * (depth - 1)) ' ' ++ "- ".toList))
  | .emphasis content, written => written ++ "**".toList ++ content ++ "** ".toList
  | .link label target, written =>
      written ++ "[".toList ++ label ++ "](".toList ++ target.dropWhile (· == '@') ++ ")".toList
  | .code content, written => written ++ code content language

/-- The text with the markdown of nodes behind it, one after the other. -/
def writeNodes (language : Text) (flow : Flow) (depth : Nat) : List Node -> Text -> Text
  | [], written => written
  | node :: rest, written =>
      writeNodes language flow depth rest (writeNode language flow depth node written)

end

/-- Nodes one behind the other are written one behind the other. -/
theorem writeNodes_append (language : Text) (flow : Flow) (depth : Nat) (left right : List Node)
    (written : Text) :
    writeNodes language flow depth (left ++ right) written =
      writeNodes language flow depth right (writeNodes language flow depth left written) := by
  induction left generalizing written with
  | nil => rfl
  | cons node left inductionHypothesis =>
      exact inductionHypothesis (writeNode language flow depth node written)

mutual

/-- Empty texts in a node leave no trace. -/
theorem writeNodes_condense (language : Text) (flow : Flow) (depth : Nat) (node : Node)
    (written : Text) :
    writeNodes language flow depth node.condense written =
      writeNode language flow depth node written := by
  cases node with
  | text content =>
      by_cases empty : content = []
      · subst empty
        exact (List.append_nil written).symm
      · rw [Node.condense, textNodes, if_neg empty]
        rfl
  | block kind children =>
      cases kind <;> simp only [Node.condense, writeNodes, writeNode, writeNodes_condenseAll]
  | _ => rfl

/-- Empty texts in a forest leave no trace. -/
theorem writeNodes_condenseAll (language : Text) (flow : Flow) (depth : Nat) (nodes : List Node)
    (written : Text) :
    writeNodes language flow depth (condenseAll nodes) written =
      writeNodes language flow depth nodes written := by
  cases nodes with
  | nil => rfl
  | cons node rest =>
      rw [condenseAll, writeNodes_append, writeNodes_condense, writeNodes_condenseAll, writeNodes]

end

namespace Output.Holds

variable {output : Output} {written : Text}

/-- Lines are written without blanks at their ends and with a space behind each. -/
theorem writeLines (holds : Holds output written) (lines : List Text) :
    Holds (lines.foldl (fun output line => output.write (Text.trimmed line ++ [' '])) output)
      (written ++ lines.flatMap fun line => Text.trimmed line ++ [' ']) := by
  induction lines generalizing output written with
  | nil =>
      rw [List.flatMap_nil, List.append_nil]
      exact holds
  | cons line lines inductionHypothesis =>
      rw [List.flatMap_cons, ← List.append_assoc]
      exact inductionHypothesis (holds.write (Text.trimmed line ++ [' ']))

/-- A stretch of text is written as it is laid out. -/
theorem writeText (holds : Holds output written) (flow : Flow) (content : Text) :
    Holds (output.writeText flow content) (written ++ flow.lay content) := by
  unfold Output.writeText Flow.lay
  cases Text.trimmed content with
  | nil =>
      rw [if_pos rfl, List.append_nil]
      exact holds
  | cons c trimmed =>
      rw [if_neg (List.cons_ne_nil c trimmed)]
      cases flow with
      | block =>
          rw [← List.append_assoc]
          exact (holds.write (c :: trimmed)).write ['\n']
      | line => exact holds.writeLines (Text.lines (c :: trimmed))

mutual

/-- A node is written as the walk over the tree writes it. -/
theorem layoutNode {output : Output} {written : Text} (holds : Holds output written)
    (language : Text) (flow : Flow) (depth : Nat) (node : Node) :
    Holds (layoutNode language flow depth node output)
      (writeNode language flow depth node written) := by
  cases node with
  | text content => exact holds.writeText flow content
  | block kind children =>
      cases kind with
      | paragraph =>
          exact (holds.ensureBlankLine.layout language .line depth children).ensureNewline
      | preformatted => exact holds.layout language .block depth children
      | list => exact holds.ensureNewline.layout language .block (depth + 1) children
      | item =>
          have mark : itemMark depth = List.replicate (1 + 2 * (depth - 1)) ' ' := by
            rw [itemMark, Nat.mul_comm]
          have marked := (holds.ensureNewline.write (itemMark depth)).write "- ".toList
          rw [writeNode, ← mark]
          exact (marked.layout language .line depth children).ensureNewline
  | emphasis content =>
      have bold := holds.write ("**".toList ++ content ++ "** ".toList)
      rw [writeNode, List.append_assoc, List.append_assoc, ← List.append_assoc "**".toList]
      exact bold
  | link label target =>
      have linked := holds.write (linkText label target)
      rw [Markdown.layoutNode, writeNode]
      simpa [linkText] using linked
  | code content => exact holds.write (code content language)

/-- A forest is written as the walk over the tree writes it. -/
theorem layout {output : Output} {written : Text} (holds : Holds output written)
    (language : Text) (flow : Flow) (depth : Nat) (nodes : List Node) :
    Holds (layout language flow depth nodes output)
      (writeNodes language flow depth nodes written) := by
  cases nodes with
  | nil => exact holds
  | cons node rest =>
      have first := holds.layoutNode language flow depth node
      exact first.layout language flow depth rest

end

end Output.Holds

/-- The markdown of a forest is what the walk over the tree writes behind no text. -/
theorem ofNodes_eq (language : Text) (nodes : List Node) :
    ofNodes language nodes = writeNodes language .block 0 nodes [] :=
  (Output.Holds.empty.layout language .block 0 nodes).text_eq

/-- Rendering the text of a well-formed forest succeeds with the markdown that a walk over the
forest writes, and the search for the end of an element finds the element's own closing tag. -/
theorem render_printAll {nodes : List Node} (sound : WellFormed nodes) (language : Text) :
    render language (printAll nodes) = .ok (writeNodes language .block 0 nodes []) ∧
      ∀ node tag, Within node nodes -> node.tag? = some tag ->
        ∀ contentStart offset rest,
          splitContent tag contentStart offset (node.inner ++ tag.closing ++ rest) =
            .ok (node.inner, rest) := by
  constructor
  · -- what is read back lacks the empty texts, which are not written either
    rw [render, read_printAll sound, Except.map, ofNodes_eq, writeNodes_condenseAll]
  · intro node tag inside named contentStart offset rest
    exact splitContent_inner named (sound.within inside) contentStart offset rest

/-- A list in an item of a list, with a paragraph and a link whose target has an angle
bracket. -/
def nestedList : List Node :=
  [.block .list [.block .item [.text "outer".toList, .block .list [.block .item
    [.block .paragraph [.text "see ".toList, .link "inner".toList "@a<b".toList]]]]]]

/-- Two lists within one another are told apart. -/
theorem render_nestedList :
    WellFormed nestedList ∧
      render codeLanguage (printAll nestedList) =
        .ok " - outer \n   - \n\nsee [inner](a<b)\n".toList := by
  have sound : WellFormed nestedList :=
    { plain := by simp [nestedList, PlainAll, Node.Plain, startsWithText]
      shallow := fun kind => by cases kind <;> decide }
  exact ⟨sound, (render_printAll sound codeLanguage).1⟩

end EditorData.Markdown
