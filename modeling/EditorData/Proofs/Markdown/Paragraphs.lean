import EditorData.Proofs.Markdown.Fences
import EditorData.Proofs.Markdown.Framing
import EditorData.Proofs.Markdown.Untouched
import EditorData.Proofs.Markup.Inline

/-!
# Paragraphs

A node in a document stands at a place (`Place`), and what is written of the document is what is
written in front of the place, then the node, then what is written behind it
(`writeNodes_fill`). At every place the inline content of a paragraph or of an item is one line with
a single line feed behind (`render_paragraph`).
-/

namespace EditorData.Markdown

open EditorData.Markup

/-- What is written before the content of a block. -/
def opening (depth : Nat) (kind : Block) (written : Text) : Text :=
  match kind with
  | .paragraph => leaveBlankLine written
  | .preformatted => written
  | .list => endLine written
  | .item => endLine written ++ List.replicate (1 + 2 * (depth - 1)) ' ' ++ "- ".toList

/-- How the content of a block is laid out. -/
def contentFlow : Block -> Flow
  | .paragraph | .item => .line
  | .preformatted | .list => .block

/-- The depth of lists inside a block. -/
def contentDepth (depth : Nat) : Block -> Nat
  | .list => depth + 1
  | _ => depth

/-- What has been written when the content of a block is at its end. -/
def closing (kind : Block) (written : Text) : Text :=
  match kind with
  | .paragraph | .item => endLine written
  | .preformatted | .list => written

/-- A place in a forest, with all that stands around it. -/
inductive Place where
  | among (before after : List Node)
  | inside (before : List Node) (kind : Block) (place : Place) (after : List Node)

namespace Place

/-- The forest with a node at the place. -/
def fill (node : Node) : Place -> List Node
  | among before after => before ++ node :: after
  | inside before kind place after => before ++ .block kind (place.fill node) :: after

/-- How a node at the place is laid out. -/
def flow (outer : Flow) : Place -> Flow
  | among _ _ => outer
  | inside _ kind place _ => place.flow (contentFlow kind)

/-- The depth of lists at the place. -/
def depth (outer : Nat) : Place -> Nat
  | among _ _ => outer
  | inside _ kind place _ => place.depth (contentDepth outer kind)

/-- What has been written when the place is reached. -/
def front (language : Text) (flow : Flow) (depth : Nat) : Place -> Text -> Text
  | among before _, written => writeNodes language flow depth before written
  | inside before kind place _, written =>
      place.front language (contentFlow kind) (contentDepth depth kind)
        (opening depth kind (writeNodes language flow depth before written))

/-- What has been written at the end, of what has been written behind the place. -/
def back (language : Text) (flow : Flow) (depth : Nat) : Place -> Text -> Text
  | among _ after, written => writeNodes language flow depth after written
  | inside _ kind place after, written =>
      writeNodes language flow depth after
        (closing kind
          (place.back language (contentFlow kind) (contentDepth depth kind) written))

end Place

variable {language line written : Text} {flow : Flow} {depth : Nat} {kind : Block} {node : Node}
  {inline children : List Node}

/-- A block is opened, its content written, and the block closed. -/
theorem writeNode_block (language : Text) (flow : Flow) (depth : Nat) (kind : Block)
    (children : List Node) (written : Text) :
    writeNode language flow depth (.block kind children) written =
      closing kind (writeNodes language (contentFlow kind) (contentDepth depth kind) children
        (opening depth kind written)) := by
  cases kind <;> rfl

/-- A forest is written up to a place, then the node at the place, and then all that is behind. -/
theorem writeNodes_fill (language : Text) (flow : Flow) (depth : Nat) (place : Place) (node : Node)
    (written : Text) :
    writeNodes language flow depth (place.fill node) written =
      place.back language flow depth
        (writeNode language (place.flow flow) (place.depth depth) node
          (place.front language flow depth written)) := by
  induction place generalizing flow depth written with
  | among before after => exact writeNodes_append language flow depth before (node :: after) written
  | inside before kind place after inductionHypothesis =>
      rw [Place.fill, writeNodes_append, writeNodes, writeNode_block, inductionHypothesis]
      rfl

/-- Closing a block only adds to what has been written. -/
theorem prefix_closing (kind : Block) (written : Text) : written <+: closing kind written := by
  cases kind with
  | paragraph | item => exact prefix_endLine written
  | preformatted | list => exact List.prefix_rfl

/-- What is behind a place only adds to what has been written. -/
theorem prefix_back (language : Text) (flow : Flow) (depth : Nat) (place : Place) (written : Text) :
    written <+: place.back language flow depth written := by
  induction place generalizing flow depth with
  | among before after => exact prefix_writeNodes language flow depth after written
  | inside before kind place after inductionHypothesis =>
      have inner := inductionHypothesis (contentFlow kind) (contentDepth depth kind)
      exact (inner.trans (prefix_closing kind _)).trans
        (prefix_writeNodes language flow depth after _)

/-- A text of which the last line has been ended is empty or ends with a line feed. -/
theorem endLine_ends (written : Text) : endLine written = [] ∨ ['\n'] <:+ endLine written := by
  unfold endLine
  split
  · next ended => exact ended
  · exact .inr (List.suffix_append written ['\n'])

/-- So does a text behind which a blank line has been left. -/
theorem leaveBlankLine_ends (written : Text) :
    leaveBlankLine written = [] ∨ ['\n'] <:+ leaveBlankLine written := by
  unfold leaveBlankLine
  split
  · next left => exact left.imp_right fun blank => .trans ⟨['\n'], rfl⟩ blank
  · exact .inr (List.suffix_append (endLine written) ['\n'])

/-- The content of a paragraph or of an item begins a line, behind the mark of the item. -/
theorem exists_opening (lined : kind = .paragraph ∨ kind = .item) (depth : Nat) (written : Text) :
    ∃ lead mark, opening depth kind written = lead ++ mark ∧ (lead = [] ∨ ['\n'] <:+ lead) ∧
      '\n' ∉ mark := by
  rcases lined with rfl | rfl
  · exact ⟨leaveBlankLine written, [], (List.append_nil _).symm, leaveBlankLine_ends written,
      List.not_mem_nil⟩
  · refine ⟨endLine written, List.replicate (1 + 2 * (depth - 1)) ' ' ++ "- ".toList,
      List.append_assoc .., endLine_ends written, ?_⟩
    simp

/-- A line of its own is ended by one line feed. -/
theorem endLine_append (present : line ≠ []) (oneLine : '\n' ∉ line) (written : Text) :
    endLine (written ++ line) = written ++ line ++ ['\n'] := by
  refine if_neg ?_
  rintro (nothing | ends)
  · exact present (List.append_eq_nil_iff.mp nothing).2
  · obtain ⟨front, spelled⟩ := ends
    have last := congrArg List.getLast? spelled
    rw [List.getLast?_concat, List.getLast?_append_of_ne_nil written present] at last
    exact oneLine (List.mem_of_getLast? last.symm)

/-- What a node of a line of text is written as. -/
def lineText : Node -> Text
  | .text content => Flow.line.lay content
  | .emphasis content => "**".toList ++ content ++ "** ".toList
  | .link label target =>
      "[".toList ++ label ++ "](".toList ++ target.dropWhile (· == '@') ++ ")".toList
  | .code content => '\x60' :: trimmedCode content ++ ['\x60']
  | .block .. => []

/-- Code in one line is stripped to a text in one line. -/
theorem feed_not_mem_trimmedCode {content : Text} (oneLine : '\n' ∉ content) :
    '\n' ∉ trimmedCode content := by
  obtain ⟨leading, trailing, whole, -⟩ := (strips_trimmedCode content).around
  rw [whole] at oneLine
  exact fun held => oneLine (List.mem_append_left _ (List.mem_append_right _ held))

/-- A node of a line is written behind what has been written. -/
theorem writeNode_inline (isInline : node.IsInline) (language : Text) (depth : Nat)
    (written : Text) : writeNode language .line depth node written = written ++ lineText node := by
  cases node with
  | text content => rfl
  | block kind children => exact isInline.elim
  | emphasis content => simp only [writeNode, lineText, List.append_assoc]
  | link label target => simp only [writeNode, lineText, List.append_assoc]
  | code content =>
      rw [writeNode, code_of_oneLine (feed_not_mem_trimmedCode isInline.2)]
      rfl

/-- Nodes of a line are written one behind the other. -/
theorem writeNodes_inline (allInline : ∀ node ∈ inline, node.IsInline) (language : Text)
    (depth : Nat) (written : Text) :
    writeNodes language .line depth inline written = written ++ inline.flatMap lineText := by
  induction inline generalizing written with
  | nil => exact (List.append_nil written).symm
  | cons node rest inductionHypothesis =>
      obtain ⟨first, others⟩ := List.forall_mem_cons.mp allInline
      rw [writeNodes, inductionHypothesis others, writeNode_inline first, List.flatMap_cons,
        List.append_assoc]

/-- A node of a line is written without line feeds. -/
theorem feed_not_mem_lineText (isInline : node.IsInline) : '\n' ∉ lineText node := by
  cases node with
  | text content => exact Framed.feed_not_mem_lay_line content
  | block kind children => exact isInline.elim
  | emphasis content => simp [lineText, isInline.2]
  | link label target =>
      have free : '\n' ∉ target.dropWhile (· == '@') := fun held =>
        isInline.2.2.2 ((List.dropWhile_sublist (· == '@')).subset held)
      simp [lineText, isInline.1.2, free]
  | code content => simp [lineText, feed_not_mem_trimmedCode isInline.2]

/-- A node of a line that shows something is written. -/
theorem lineText_ne_nil (isInline : node.IsInline) (shows : ¬node.IsBlank) :
    lineText node ≠ [] := by
  cases node with
  | text content =>
      intro nothing
      have hidden : Text.visible content = [] := by
        rw [← visible_lay .line content]
        exact congrArg Text.visible nothing
      exact shows fun c member => by simpa using List.filter_eq_nil_iff.mp hidden c member
  | block kind children => exact isInline.elim
  | emphasis content | code content => exact List.cons_ne_nil _ _
  | link label target => exact List.cons_ne_nil _ _

/-- Inline markup that is more than blanks is read, and written as one line, the same one in every
language and at every depth of lists. As the content of a paragraph or of an item at any place of a
document it stands at the front of a line, behind the mark of the item if it is one. When the block
is at its end, the line and one line feed have been written, and all else is written behind them. -/
theorem render_paragraph (allInline : ∀ node ∈ inline, node.IsInline)
    (shows : ¬∀ node ∈ inline, node.IsBlank) :
    ∃ children line, Markup.read (printAll inline) = .ok children ∧ line ≠ [] ∧ '\n' ∉ line ∧
      (∀ language depth written,
        writeNodes language .line depth children written = written ++ line) ∧
      ∀ language html place kind, (kind = .paragraph ∨ kind = .item) →
        Markup.read html = .ok (Place.fill (.block kind children) place) →
        ∃ lead mark rest, (lead = [] ∨ ['\n'] <:+ lead) ∧ '\n' ∉ mark ∧
          writeNode language (place.flow .block) (place.depth 0) (.block kind children)
              (place.front language .block 0 []) = lead ++ mark ++ line ++ ['\n'] ∧
          render language html = .ok (lead ++ mark ++ line ++ '\n' :: rest) := by
  have joinedInline := isInline_joinTexts_iff.mpr allInline
  have joinedShows := mt isBlank_joinTexts_iff.mp shows
  let line := (joinTexts inline).flatMap lineText
  have present : line ≠ [] := by
    intro nothing
    refine joinedShows fun node member => ?_
    refine Decidable.byContradiction fun shown => ?_
    exact lineText_ne_nil (joinedInline node member) shown
      (List.flatMap_eq_nil_iff.mp nothing node member)
  have oneLine : '\n' ∉ line := by
    intro held
    obtain ⟨node, member, within⟩ := List.mem_flatMap.mp held
    exact feed_not_mem_lineText (joinedInline node member) within
  have writes (language : Text) (depth : Nat) (written : Text) :
      writeNodes language .line depth (condenseAll (joinTexts inline)) written =
        written ++ line := by
    rw [writeNodes_condenseAll, writeNodes_inline joinedInline]
  refine ⟨_, line, read_printAll_inline allInline, present, oneLine, writes, ?_⟩
  intro language html place kind lined reads
  obtain ⟨lead, mark, opens, begins, unbroken⟩ :=
    exists_opening lined (place.depth 0) (place.front language .block 0 [])
  have block : writeNode language (place.flow .block) (place.depth 0)
      (.block kind (condenseAll (joinTexts inline))) (place.front language .block 0 []) =
        lead ++ mark ++ line ++ ['\n'] := by
    rw [writeNode_block, opens]
    rcases lined with rfl | rfl <;>
    · rw [contentFlow, writes]
      exact endLine_append present oneLine (lead ++ mark)
  obtain ⟨rest, whole⟩ := prefix_back language .block 0 place (lead ++ mark ++ line ++ ['\n'])
  refine ⟨lead, mark, rest, begins, unbroken, block, ?_⟩
  rw [render, reads, Except.map, ofNodes_eq, writeNodes_fill, block, ← whole]
  simp only [List.append_assoc, List.singleton_append]

/-- Text over several lines, with emphasis, code and a link in between. -/
def wrappedText : List Node :=
  [.text "one\n  two".toList, .text "\n".toList, .emphasis "three".toList, .text "\n\n".toList,
    .code " four ".toList, .link "five".toList "@six".toList]

/-- An item of a list in a list, between a text and a paragraph. -/
def innerItem : Place :=
  .inside [] .list (.inside [] .item (.inside [.text "zero".toList] .list (.among [] []) []) [])
    [.block .paragraph [.text "seven".toList]]

/-- Text over several lines is one line of markdown in an item of a list in a list. -/
theorem render_wrappedText :
    (∀ node ∈ wrappedText, node.IsInline) ∧ (¬∀ node ∈ wrappedText, node.IsBlank) ∧
      ∃ rest, render codeLanguage (printAll (innerItem.fill (.block .item wrappedText))) =
        .ok (" - zero \n   - one two **three** `four`[five](six)\n".toList ++ rest) := by
  have allInline : ∀ node ∈ wrappedText, node.IsInline := by decide
  have shows : ¬∀ node ∈ wrappedText, node.IsBlank := by decide
  have printed : printAll (innerItem.fill (.block .item wrappedText)) =
      printAll (innerItem.fill (.block .item (joinTexts wrappedText))) := by decide
  have sound : WellFormed (innerItem.fill (.block .item (joinTexts wrappedText))) :=
    { plain := by
        simp [wrappedText, innerItem, Place.fill, joinTexts, prependText, textNodes, PlainAll,
          Node.Plain, startsWithText]
      shallow := fun kind => by cases kind <;> decide }
  obtain ⟨children, line, reads, -, -, -, lined⟩ := render_paragraph allInline shows
  obtain rfl := Except.ok.inj ((read_printAll_inline allInline).symm.trans reads)
  obtain ⟨lead, mark, rest, -, -, block, whole⟩ :=
    lined codeLanguage _ innerItem .item (.inr rfl) (read_printAll sound)
  have written : writeNode codeLanguage (innerItem.flow .block) (innerItem.depth 0)
      (.block .item (condenseAll (joinTexts wrappedText)))
      (innerItem.front codeLanguage .block 0 []) =
        " - zero \n   - one two **three** `four`[five](six)\n".toList := by decide
  refine ⟨allInline, shows, rest, ?_⟩
  rw [printed, whole, ← written, block, List.append_cons]

end EditorData.Markdown
