import EditorData.Proofs.Markdown.CodeText
import EditorData.Proofs.Markdown.Rendering
import EditorData.Proofs.Markdown.Shown
import EditorData.Proofs.Text.Trimming

/-!
# The ends of markdown

Line feeds apart, markdown begins and ends with a line that has more than spaces (`Framed`). Every
piece of markdown is of this kind, and texts of this kind stay so one behind the other, whatever
they begin and end with. So the walk over a tree, which may put an item without content or a text of
several lines at either end, never leaves a line of spaces there (`framed_ofNodes`).
-/

namespace EditorData.Markdown

open EditorData.Markup

/-- Behind the line feeds in front, a text is at its end or has a line with more than spaces. -/
inductive Begins : Text -> Prop
  | feeds {feeds : Text} (feedsOnly : ∀ c ∈ feeds, c = '\n') : Begins feeds
  | line {feeds indent : Text} {c : Char} (feedsOnly : ∀ d ∈ feeds, d = '\n')
      (spacesOnly : ∀ d ∈ indent, d = ' ') (noSpace : c ≠ ' ') (noFeed : c ≠ '\n') (rest : Text) :
      Begins (feeds ++ (indent ++ c :: rest))

/-- A text that begins and ends, line feeds apart, with a line that has more than spaces. -/
structure Framed (text : Text) : Prop where
  front : Begins text
  back : Begins text.reverse

namespace Begins

variable {left right text : Text} {c : Char}

/-- What stands behind has no say once a line has more than spaces. -/
theorem append (first : Begins left) (second : Begins right) : Begins (left ++ right) := by
  cases first with
  | feeds feedsOnly =>
      cases second with
      | feeds others => exact .feeds (List.forall_mem_append.2 ⟨feedsOnly, others⟩)
      | line others spacesOnly noSpace noFeed rest =>
          rw [← List.append_assoc]
          exact .line (List.forall_mem_append.2 ⟨feedsOnly, others⟩) spacesOnly noSpace noFeed rest
  | line feedsOnly spacesOnly noSpace noFeed rest =>
      rw [List.append_assoc, List.append_assoc, List.cons_append]
      exact .line feedsOnly spacesOnly noSpace noFeed (rest ++ right)

/-- A text may be indented in front of its first character. -/
theorem indented {indent : Text} (spacesOnly : ∀ d ∈ indent, d = ' ') (noSpace : c ≠ ' ')
    (noFeed : c ≠ '\n') (rest : Text) : Begins (indent ++ c :: rest) :=
  @line [] indent c nofun spacesOnly noSpace noFeed rest

/-- A text that begins with another character than a space or a line feed. -/
theorem shown (noSpace : c ≠ ' ') (noFeed : c ≠ '\n') (rest : Text) : Begins (c :: rest) :=
  @indented c [] nofun noSpace noFeed rest

/-- A text of one line that has more than spaces. -/
theorem of_oneLine (oneLine : '\n' ∉ text) (shown : ∃ c ∈ text, c ≠ ' ') : Begins text := by
  obtain ⟨d, member, different⟩ := shown
  have whole := List.takeWhile_append_dropWhile (p := (· == ' ')) (l := text)
  have stops := List.head?_dropWhile_not (· == ' ') text
  have spacesOnly : ∀ d ∈ text.takeWhile (· == ' '), d = ' ' := fun d member =>
    eq_of_beq (List.all_eq_true.1 List.all_takeWhile d member)
  cases behind : text.dropWhile (· == ' ') with
  | nil =>
      rw [behind, List.append_nil] at whole
      rw [whole] at spacesOnly
      exact absurd (spacesOnly d member) different
  | cons c rest =>
      rw [behind] at whole stops
      have within : c ∈ text := whole ▸ List.mem_append_right _ List.mem_cons_self
      have noFeed : c ≠ '\n' := fun same => oneLine (same ▸ within)
      rw [← whole]
      exact indented spacesOnly (by simpa using stops) noFeed rest

end Begins

namespace Framed

variable {left right written text : Text}

/-- Nothing has no lines. -/
theorem nil : Framed [] :=
  ⟨.feeds nofun, .feeds nofun⟩

/-- A line feed is no line. -/
theorem feed : Framed ['\n'] :=
  ⟨.feeds (by simp), .feeds (by simp)⟩

/-- Texts may stand one behind the other. -/
theorem append (first : Framed left) (second : Framed right) : Framed (left ++ right) where
  front := first.front.append second.front
  back := by
    rw [List.reverse_append]
    exact second.back.append first.back

/-- A text of one line that has more than spaces. -/
theorem of_oneLine (oneLine : '\n' ∉ text) (shown : ∃ c ∈ text, c ≠ ' ') : Framed text where
  front := .of_oneLine oneLine shown
  back := by
    refine .of_oneLine (fun held => oneLine (List.mem_reverse.1 held)) ?_
    obtain ⟨c, member, noSpace⟩ := shown
    exact ⟨c, List.mem_reverse.2 member, noSpace⟩

/-- A text between two marks, behind which there may be spaces. -/
theorem between {first last : Char} {trail : Text} (firstShown : first ≠ ' ' ∧ first ≠ '\n')
    (lastShown : last ≠ ' ' ∧ last ≠ '\n') (spacesOnly : ∀ c ∈ trail, c = ' ') (inner : Text) :
    Framed (first :: inner ++ last :: trail) where
  front := .shown firstShown.1 firstShown.2 _
  back := by
    have turned : (first :: inner ++ last :: trail).reverse =
        trail.reverse ++ last :: (first :: inner).reverse := by simp
    rw [turned]
    exact .indented (fun c member => spacesOnly c (List.mem_reverse.1 member)) lastShown.1
      lastShown.2 _

/-- A text without blanks at its ends. -/
theorem of_isTrimmed (trimmed : Text.IsTrimmed Text.isBlank text) : Framed text := by
  have shown : ∀ {c : Char}, Text.isBlank c = false -> c ≠ ' ' ∧ c ≠ '\n' := by
    intro c kept
    constructor <;>
    · rintro rfl
      cases kept
  have begins : ∀ {text : Text}, (∀ c ∈ text.head?, Text.isBlank c = false) -> Begins text := by
    intro text first
    cases text with
    | nil => exact .feeds nofun
    | cons c rest =>
        obtain ⟨noSpace, noFeed⟩ := shown (first c rfl)
        exact .shown noSpace noFeed rest
  refine ⟨begins trimmed.first, begins ?_⟩
  rw [List.head?_reverse]
  exact trimmed.last

/-- Lines are laid out without line feeds. -/
theorem feed_not_mem_lay_line (content : Text) : '\n' ∉ Flow.line.lay content := by
  unfold Flow.lay
  split
  · exact List.not_mem_nil
  · intro held
    obtain ⟨line, member, within⟩ := List.mem_flatMap.1 held
    rcases List.mem_append.1 within with inside | behind
    · obtain ⟨leading, trailing, whole, -⟩ := Text.exists_trimmedEnds Text.isBlank line
      have free := Text.separator_not_mem_part member
      rw [whole] at free
      exact free (List.mem_append_left _ (List.mem_append_right _ inside))
    · simp at behind

/-- A stretch of text as it is laid out. -/
theorem of_lay (flow : Flow) (content : Text) : Framed (flow.lay content) := by
  have trimmed := Text.isTrimmed_trim Text.isBlank content
  cases flow with
  | block =>
      unfold Flow.lay
      split
      · exact .nil
      · exact (of_isTrimmed trimmed).append .feed
  | line =>
      cases found : Text.trimmed content with
      | nil =>
          rw [Flow.lay.eq_def, if_pos found]
          exact .nil
      | cons c rest =>
          -- an empty line inside is laid out as a space, so the lines are taken as one
          have first : Text.isBlank c = false :=
            trimmed.first c (by rw [← Text.trimmed, found]; rfl)
          have shows : c ∈ Text.visible (Flow.line.lay content) := by
            rw [visible_lay, ← Text.visible_trimmed, found]
            exact List.mem_filter.2 ⟨List.mem_cons_self, by simp [first]⟩
          refine of_oneLine (feed_not_mem_lay_line content) ⟨c, ?_, ?_⟩
          · exact (Text.visible_sublist _).subset shows
          · rintro rfl
            cases first

/-- Code. -/
theorem of_code (content language : Text) : Framed (code content language) := by
  obtain ⟨lead, inner, whole, nothing | feed⟩ := code_eq content language
  · rw [whole, nothing]
    exact between (by decide) (by decide) (by simp) inner
  · rw [whole, feed]
    exact Framed.feed.append (between (by decide) (by decide) (by simp) inner)

/-- A text of which the last line has been ended. -/
theorem endLine (framed : Framed written) : Framed (endLine written) := by
  rw [Markdown.endLine]
  split
  · exact framed
  · exact framed.append .feed

/-- A text behind which a blank line has been left. -/
theorem leaveBlankLine (framed : Framed written) : Framed (leaveBlankLine written) := by
  rw [Markdown.leaveBlankLine]
  split
  · exact framed
  · exact framed.endLine.append .feed

/-- The mark of an item is no line of spaces, even without content behind it. -/
theorem of_itemMark (count : Nat) : Framed (List.replicate count ' ' ++ "- ".toList) := by
  refine of_oneLine ?_ ⟨'-', by simp⟩
  intro held
  rcases List.mem_append.1 held with space | mark
  · cases (List.mem_replicate.1 space).2
  · simp at mark

mutual

/-- A node is written behind a text. -/
theorem writeNode {written : Text} (framed : Framed written) (language : Text) (flow : Flow)
    (depth : Nat) (node : Node) : Framed (writeNode language flow depth node written) := by
  cases node with
  | text content => exact framed.append (of_lay flow content)
  | block kind children =>
      cases kind with
      | paragraph => exact (framed.leaveBlankLine.writeNodes language .line depth children).endLine
      | preformatted => exact framed.writeNodes language .block depth children
      | list => exact framed.endLine.writeNodes language .block (depth + 1) children
      | item =>
          have marked := framed.endLine.append (of_itemMark (1 + 2 * (depth - 1)))
          rw [← List.append_assoc] at marked
          exact (marked.writeNodes language .line depth children).endLine
  | emphasis content =>
      have bold : Framed ('*' :: ('*' :: content ++ ['*']) ++ '*' :: [' ']) :=
        between (by decide) (by decide) (by simp) _
      simpa [Markdown.writeNode] using framed.append bold
  | link label target =>
      have linked :
          Framed ('[' :: (label ++ "](".toList ++ target.dropWhile (· == '@')) ++ [')']) :=
        between (by decide) (by decide) (by simp) _
      simpa [Markdown.writeNode] using framed.append linked
  | code content => exact framed.append (of_code content language)

/-- Nodes are written behind a text. -/
theorem writeNodes {written : Text} (framed : Framed written) (language : Text) (flow : Flow)
    (depth : Nat) (nodes : List Node) : Framed (writeNodes language flow depth nodes written) := by
  cases nodes with
  | nil => exact framed
  | cons node rest =>
      have first := framed.writeNode language flow depth node
      exact first.writeNodes language flow depth rest

end

end Framed

/-- Line feeds apart, the markdown of a forest begins and ends with a line that has more than
spaces. -/
theorem framed_ofNodes (language : Text) (nodes : List Node) : Framed (ofNodes language nodes) := by
  rw [ofNodes_eq]
  exact Framed.nil.writeNodes language .block 0 nodes

end EditorData.Markdown
