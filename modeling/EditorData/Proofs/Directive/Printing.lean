import EditorData.Proofs.Directive.FirstToken
import Mathlib.Data.List.Chain

/-!
# Tokens of a printed document

A document is written as stretches of running text and directives of segments. Its lexemes
are known before it is read: one for each stretch, and for each directive its brackets, its
bars and those of its segments that have characters. Tokenizing the printed document gives
exactly these, one behind the other (`tokens_print`). The lexemes of a text are found
backwards (`Lexes`): each lemma puts one more piece in front of a text whose lexemes are
known, and what follows the piece shows that the lexer stops at its end.
-/

namespace EditorData.Directive

/-- A stretch of running text between directives. -/
abbrev Content :=
  {text : Text // text ≠ [] ∧ Prose text}

/-- The tag of a directive or one of its arguments, which may be empty. -/
abbrev Segment :=
  {text : Text // Argument text}

/-- What a document is written with. -/
inductive Item where
  | content (text : Content)
  | directive (segments : List Segment)

/-- A kind of token with the characters of one. -/
abbrev Lexeme :=
  TokenKind × Text

/-- A segment is a lexeme if it has characters. -/
def Segment.lexemes (segment : Segment) : List Lexeme :=
  if segment.val = [] then [] else [(.segment, segment.val)]

/-- The lexemes of segments with bars between them. -/
def segmentLexemes : List Segment -> List Lexeme
  | [] => []
  | [segment] => segment.lexemes
  | segment :: next :: rest =>
      segment.lexemes ++ (.separator, ['|']) :: segmentLexemes (next :: rest)

namespace Item

/-- Two neighbours of which at most one is running text. -/
def Divided : Item -> Item -> Prop
  | .content _, .content _ => False
  | _, _ => True

/-- The item as the document has it. -/
def print : Item -> Text
  | .content text => text.val
  | .directive segments =>
      ['{', '#'] ++ Text.joined ['|'] (segments.map Subtype.val) ++ ['#', '}']

/-- The lexemes of the item. -/
def lexemes : Item -> List Lexeme
  | .content text => [(.content, text.val)]
  | .directive segments =>
      (.opening, ['{', '#']) :: segmentLexemes segments ++ [(.closing, ['#', '}'])]

end Item

/-- A document by its items. Running text that nothing divides is one stretch. -/
structure Markup where
  items : List Item
  divided : items.IsChain Item.Divided

namespace Markup

/-- The document as a text. -/
def print (markup : Markup) : Text :=
  markup.items.flatMap Item.print

/-- The lexemes of the document, and its end. -/
def lexemes (markup : Markup) : List Lexeme :=
  markup.items.flatMap Item.lexemes ++ [(.finish, [])]

end Markup

/-- Lexemes as tokens that follow each other from an offset on. -/
def placed (offset : Nat) : List Lexeme -> List Token
  | [] => []
  | (kind, text) :: rest => ⟨kind, offset, text⟩ :: placed (offset + text.length) rest

/-- The tokens of the text in the given mode have these lexemes, wherever it begins. -/
def Lexes (mode : Mode) (text : Text) (lexemes : List Lexeme) : Prop :=
  ∀ offset, tokensFrom mode offset text = placed offset lexemes

section Lexes

variable {mode next : Mode} {text rest : Text} {lexemes : List Lexeme}

/-- A final token is the only lexeme. -/
theorem Lexes.last {kind : TokenKind} {lexeme : Text}
    (first : FirstToken mode text ⟨kind, lexeme, rest, next⟩) (final : kind.isFinal = true) :
    Lexes mode text [(kind, lexeme)] :=
  fun offset => tokensFrom_of_final offset first final

/-- One more token in front of the text. -/
theorem Lexes.cons {kind : TokenKind} {lexeme : Text} (lexes : Lexes next rest lexemes)
    (first : FirstToken mode text ⟨kind, lexeme, rest, next⟩) (more : kind.isFinal = false) :
    Lexes mode text ((kind, lexeme) :: lexemes) := by
  intro offset
  rw [tokensFrom_of_more offset first more, placed]
  exact congrArg (List.cons _) (lexes (offset + lexeme.length))

/-- A segment in front of a place where segments end. -/
theorem Lexes.segment (lexes : Lexes .inside rest lexemes) (stops : EndsSegment rest)
    (segment : Segment) : Lexes .inside (segment.val ++ rest) (segment.lexemes ++ lexemes) := by
  by_cases empty : segment.val = []
  · simpa [Segment.lexemes, empty] using lexes
  · have first := FirstToken.segment segment.property empty stops
    simpa [Segment.lexemes, empty] using lexes.cons first rfl

/-- The segments of a directive in front of its closing bracket. -/
theorem Lexes.segments (closed : Lexes .inside ('#' :: '}' :: rest) lexemes) :
    ∀ segments : List Segment,
      Lexes .inside (Text.joined ['|'] (segments.map Subtype.val) ++ '#' :: '}' :: rest)
        (segmentLexemes segments ++ lexemes)
  | [] => closed
  | [segment] => closed.segment (.inr ⟨rest, rfl⟩) segment
  | segment :: next :: others => by
      have behind := Lexes.segments closed (next :: others)
      have barred := behind.cons (.separator _) rfl
      have whole := barred.segment (.inl ⟨_, rfl⟩) segment
      simpa [Text.joined, segmentLexemes] using whole

/-- A directive outside of every other one. -/
theorem Lexes.directive (lexes : Lexes .outside rest lexemes) (segments : List Segment) :
    Lexes .outside ((Item.directive segments).print ++ rest)
      ((Item.directive segments).lexemes ++ lexemes) := by
  have closed := lexes.cons (.closing rest) rfl
  have opened := (closed.segments segments).cons (.opening _) rfl
  simpa [Item.print, Item.lexemes] using opened

/-- Running text in front of a directive. -/
theorem Lexes.content (lexes : Lexes .outside ('{' :: '#' :: rest) lexemes) (text : Content) :
    Lexes .outside (text.val ++ '{' :: '#' :: rest) ((.content, text.val) :: lexemes) :=
  lexes.cons (.content text.property.2 text.property.1 rest) rfl

/-- Running text at the end of the document. -/
theorem Lexes.lastContent (text : Content) :
    Lexes .outside text.val [(.content, text.val), (.finish, [])] := by
  have ended : Lexes .finished [] [(.finish, [])] := Lexes.last (.ended []) rfl
  exact ended.cons (.lastContent (.inl text.property.2) text.property.1) rfl

/-- The items of a document up to its end. -/
theorem Lexes.items {items : List Item} (divided : items.IsChain Item.Divided) :
    Lexes .outside (items.flatMap Item.print) (items.flatMap Item.lexemes ++ [(.finish, [])]) := by
  induction items with
  | nil => exact Lexes.last .finish rfl
  | cons item others inductionHypothesis =>
      have behind := inductionHypothesis divided.tail
      cases item with
      | directive segments => simpa using behind.directive segments
      | content text =>
          cases others with
          | nil => simpa [Item.print, Item.lexemes] using Lexes.lastContent text
          | cons following others =>
              cases following with
              | content => exact divided.rel.elim
              | directive segments =>
                  -- what follows the running text opens a directive, where it ends
                  obtain ⟨rest, opens⟩ : ∃ rest,
                      (Item.directive segments :: others).flatMap Item.print =
                        '{' :: '#' :: rest := ⟨_, rfl⟩
                  rw [opens] at behind
                  rw [List.flatMap_cons, opens]
                  exact behind.content text

end Lexes

/-- Tokenizing a printed document gives back what it was written with: one token for each
stretch of running text, for each directive its brackets, its bars and one token for each
segment that is not empty, all with the characters that were printed and one behind the
other from the front of the document on, and at last the end. -/
theorem tokens_print (markup : Markup) : tokens markup.print = placed 0 markup.lexemes :=
  Lexes.items markup.divided 0

end EditorData.Directive
