import EditorData.Proofs.Directive.Borders
import EditorData.Proofs.Directive.Printing

/-!
# Documents one behind the other

The lexer looks at what follows running text, so running text at the end of a document may go
on in a document behind it, and so may a directive that is not closed. A directive that is
closed is over whatever follows. So the tokens of two documents one behind the other are those
of the first and those of the second exactly if the first one is closed in this sense, or empty
(`tokens_append_iff`).
-/

namespace EditorData.Directive

/-- The document is empty, or its last token in front of its end closes a directive. -/
def IsClosed (text : Text) : Prop :=
  text = [] ∨ ∃ front closing last, tokens text = front ++ [closing, last] ∧
    closing.kind = .closing ∧ last.kind = .finish

/-- Behind a document that is closed every document begins as it does by itself. -/
theorem IsClosed.tokens_append {text : Text} (closed : IsClosed text) (rest : Text) :
    tokens (text ++ rest) =
      (tokens text).dropLast ++ (tokens rest).map (Token.shift text.length) := by
  rcases closed with rfl | ⟨front, closing, last, all, closes, finish⟩
  · have unmoved : Token.shift 0 = id := by
      funext token
      rfl
    simp [tokens_nil, unmoved]
  · have split : tokens text = (front ++ [closing]) ++ [last] := by simp [all]
    have ends : ∀ token ∈ (front ++ [closing]).getLast?,
        EndsBefore token.kind token.lexeme rest := by
      simp [EndsBefore, closes]
    have stands : modeBehind .outside (front ++ [closing]) = .outside := by
      rw [modeBehind_append, closes]
      rfl
    rw [tokens_append_of_ends split finish ends stands, split, List.dropLast_concat]

/-- A document that ends in running text goes on in running text behind it. -/
theorem tokens_append_ne_of_content {text : Text} {front : List Token} {token : Token}
    (content : token.kind = .content) :
    tokens (text ++ ['x']) ≠ front ++ token :: (tokens ['x']).map (Token.shift text.length) := by
  intro apart
  have chain := (tokenizes_tokens (text ++ ['x'])).isChain
  have single : tokens ['x'] = [⟨.content, 0, ['x']⟩, ⟨.finish, 1, []⟩] :=
    Lexes.lastContent ⟨['x'], by simp, .of_not_mem (by decide)⟩ 0
  rw [apart, single, List.map_append] at chain
  obtain ⟨_, neighbours, _⟩ := List.isChain_append.1 chain
  have different := (List.isChain_cons_cons.1 neighbours).1 content
  exact different.1 content

/-- Tokenizing is compositional at the ends of directives, and only there: the tokens of a
document in front of every other one are its own without its end, and behind these come the
tokens of the other one, further behind by the length of the first and with the end of the
second, exactly if the first document is empty or ends with a directive that is closed. -/
theorem tokens_append_iff (text : Text) :
    (∀ rest, tokens (text ++ rest) =
      (tokens text).dropLast ++ (tokens rest).map (Token.shift text.length)) ↔
      IsClosed text := by
  refine ⟨fun apart => ?_, IsClosed.tokens_append⟩
  have tokenizes := tokenizes_tokens text
  obtain ⟨front, last, all, _⟩ := (tiling_tokens text).split
  -- nothing behind the document leaves its end, anything else would lengthen what it ends with
  have finish : last.kind = .finish := by
    have same := apart []
    rw [List.append_nil, all, tokens_nil, List.dropLast_concat] at same
    obtain ⟨_, same⟩ := List.append_inj' same rfl
    rw [List.head_eq_of_cons_eq same]
    rfl
  rw [all] at tokenizes
  cases front using List.reverseRecOn with
  | nil => exact .inl (textOf_of_finish all finish).symm
  | append_singleton earlier token =>
      have walk := tokenizes.walk
      simp only [List.map_append, List.map_cons, List.map_nil, finish, List.append_assoc,
        List.cons_append, List.nil_append] at walk
      rcases walk.before_finish with content | closes
      · have longer := apart ['x']
        rw [all, List.dropLast_concat, List.append_assoc] at longer
        exact (tokens_append_ne_of_content content longer).elim
      · exact .inr ⟨earlier, token, last, by simp [all], closes, finish⟩

end EditorData.Directive
