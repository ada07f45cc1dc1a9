import EditorData.Proofs.Markup.Joining
import EditorData.Proofs.Markup.RoundTrip
import EditorData.Text.Blank

/-!
# Inline markup

Text, emphasis, code and links one behind the other, in any order. Neighbouring texts are one text
when they are read (`joinTexts`), and apart from that inline nodes are read back from what they are
printed as (`read_printAll_inline`).
-/

namespace EditorData.Markup

/-- A node that may stand in a line of text: it is no block, and only in a text there are line
feeds. -/
def Node.IsInline : Node -> Prop
  | .text content => '<' ∉ content
  | .emphasis content | .code content => '<' ∉ content ∧ '\n' ∉ content
  | .link label target =>
      ('<' ∉ label ∧ '\n' ∉ label) ∧ target ≠ [] ∧ '>' ∉ target ∧ '\n' ∉ target
  | .block .. => False

/-- A node that shows nothing: a text of blanks. -/
def Node.IsBlank : Node -> Prop
  | .text content => ∀ c ∈ content, Text.isBlank c = true
  | _ => False

instance : DecidablePred Node.IsInline := fun node => by
  cases node <;> unfold Node.IsInline <;> infer_instance

instance : DecidablePred Node.IsBlank
  | .text content => decidable_of_iff (content.all Text.isBlank = true) List.all_eq_true
  | .block .. | .emphasis _ | .link .. | .code _ => isFalse id

/-- The nodes with neighbouring texts joined to one, and without empty texts. -/
def joinTexts : List Node -> List Node
  | [] => []
  | .text content :: rest => prependText content (joinTexts rest)
  | node :: rest => node :: joinTexts rest

variable {nodes inline : List Node} {node : Node} {content : Text}

/-- A stretch of text in front of nodes is printed in front of them. -/
theorem printAll_prependText (content : Text) (nodes : List Node) :
    printAll (prependText content nodes) = content ++ printAll nodes := by
  have alone : printAll (textNodes content ++ nodes) = content ++ printAll nodes := by
    unfold textNodes
    split
    · next empty => rw [empty]; rfl
    · rfl
  cases nodes with
  | nil => exact alone
  | cons node rest =>
      cases node with
      | text first =>
          simp only [prependText, printAll, Node.print, List.append_assoc]
      | _ => exact alone

/-- Joined texts are printed as they were. -/
theorem printAll_joinTexts (nodes : List Node) : printAll (joinTexts nodes) = printAll nodes := by
  induction nodes with
  | nil => rfl
  | cons node rest inductionHypothesis =>
      cases node with
      | text content =>
          rw [joinTexts, printAll_prependText, inductionHypothesis]
          rfl
      | _ => simp only [joinTexts, printAll, inductionHypothesis]

/-- What is said of a text by its characters, and of other nodes in any way, is said of nodes with a
text in front exactly if it is said of that text and of the nodes. -/
theorem forall_mem_prependText_iff {property : Node -> Prop} {allowed : Char -> Prop}
    (byCharacter : ∀ content, property (.text content) ↔ ∀ c ∈ content, allowed c) :
    (∀ node ∈ prependText content nodes, property node) ↔
      (∀ c ∈ content, allowed c) ∧ ∀ node ∈ nodes, property node := by
  have alone : (∀ node ∈ textNodes content ++ nodes, property node) ↔
      (∀ c ∈ content, allowed c) ∧ ∀ node ∈ nodes, property node := by
    rw [List.forall_mem_append, and_congr_left_iff]
    intro _
    unfold textNodes
    split
    · next empty => simp [empty]
    · rw [List.forall_mem_singleton, byCharacter]
  cases nodes with
  | nil => exact alone
  | cons node rest =>
      cases node with
      | text first =>
          rw [prependText, List.forall_mem_cons, List.forall_mem_cons, byCharacter, byCharacter,
            List.forall_mem_append, and_assoc]
      | _ => exact alone

/-- So it is said of joined texts exactly if it is said of all texts. -/
theorem forall_mem_joinTexts_iff {property : Node -> Prop} {allowed : Char -> Prop}
    (byCharacter : ∀ content, property (.text content) ↔ ∀ c ∈ content, allowed c) :
    (∀ node ∈ joinTexts nodes, property node) ↔ ∀ node ∈ nodes, property node := by
  induction nodes with
  | nil => rfl
  | cons node rest inductionHypothesis =>
      cases node with
      | text content =>
          rw [joinTexts, forall_mem_prependText_iff byCharacter, inductionHypothesis,
            List.forall_mem_cons, byCharacter]
      | _ => simp only [joinTexts, List.forall_mem_cons, inductionHypothesis]

/-- Joined texts are inline exactly if all texts are. -/
theorem isInline_joinTexts_iff :
    (∀ node ∈ joinTexts nodes, node.IsInline) ↔ ∀ node ∈ nodes, node.IsInline :=
  @forall_mem_joinTexts_iff nodes Node.IsInline (· ≠ '<') fun _ =>
    ⟨fun free _ member same => free (same ▸ member), fun free member => free '<' member rfl⟩

/-- Joined texts show nothing exactly if no text shows anything. -/
theorem isBlank_joinTexts_iff :
    (∀ node ∈ joinTexts nodes, node.IsBlank) ↔ ∀ node ∈ nodes, node.IsBlank :=
  forall_mem_joinTexts_iff fun _ => Iff.rfl

/-- An inline node can be told apart from the tags around it, and no block is in it. -/
theorem Node.IsInline.plain (inline : node.IsInline) :
    node.Plain ∧ ∀ kind, node.nesting kind = 0 := by
  cases node with
  | text content => exact ⟨inline, fun _ => rfl⟩
  | emphasis content | code content => exact ⟨inline.1, fun _ => rfl⟩
  | link label target => exact ⟨⟨inline.1.1, inline.2.1, inline.2.2.1⟩, fun _ => rfl⟩
  | block kind children => exact inline.elim

/-- No two texts are neighbours behind a text that has been joined with the one behind it. -/
theorem plainAll_prependText (plain : PlainAll nodes) (free : '<' ∉ content) :
    PlainAll (prependText content nodes) := by
  have alone (apart : startsWithText nodes = false) : PlainAll (textNodes content ++ nodes) := by
    unfold textNodes
    split
    · exact plain
    · exact ⟨free, plain, fun _ => apart⟩
  cases nodes with
  | nil => exact alone rfl
  | cons node rest =>
      cases node with
      | text first =>
          exact ⟨fun held => (List.mem_append.mp held).elim free plain.1, plain.2⟩
      | _ => exact alone rfl

/-- Inline nodes with joined texts can be told apart from one another. -/
theorem plainAll_joinTexts (allInline : ∀ node ∈ nodes, node.IsInline) :
    PlainAll (joinTexts nodes) := by
  induction nodes with
  | nil => trivial
  | cons node rest inductionHypothesis =>
      obtain ⟨first, others⟩ := List.forall_mem_cons.mp allInline
      have later := inductionHypothesis others
      cases node with
      | text content => exact plainAll_prependText later first
      | _ => exact ⟨first.plain.1, later, nofun⟩

/-- There is no block in inline nodes. -/
theorem nestingAll_inline (allInline : ∀ node ∈ nodes, node.IsInline) (kind : Block) :
    nestingAll kind nodes = 0 := by
  induction nodes with
  | nil => rfl
  | cons node rest inductionHypothesis =>
      obtain ⟨first, others⟩ := List.forall_mem_cons.mp allInline
      rw [nestingAll, first.plain.2 kind, inductionHypothesis others]
      rfl

/-- Inline nodes are read back from what they are printed as, with their texts joined. -/
theorem read_printAll_inline (allInline : ∀ node ∈ inline, node.IsInline) :
    read (printAll inline) = .ok (condenseAll (joinTexts inline)) := by
  rw [← printAll_joinTexts]
  refine read_printAll ⟨plainAll_joinTexts allInline, fun kind => ?_⟩
  rw [nestingAll_inline (isInline_joinTexts_iff.mpr allInline)]
  exact Nat.zero_le 2

end EditorData.Markup
