import EditorData.Proofs.Directive.Spelling

/-!
# The first token, declaratively

What the lexer may split off a text is a relation between a mode, a text and a token with
what follows it: one constructor for each kind of token, with the spelling of its
characters and with where it has to stop. The lexer does exactly this (`firstToken_iff`), so
properties of its tokens are read off the constructors, and the tokens of a printed text are
found by giving them. `Tokenizes` repeats it up to the first final token; what a run of the
lexer keeps is proved by induction on it.
-/

namespace EditorData.Directive

/-- A segment can end in front of the text: at a bar, or where its directive closes. -/
def EndsSegment (text : Text) : Prop :=
  (∃ others, text = '|' :: others) ∨ ∃ others, text = '#' :: '}' :: others

/-- `lexed` is the first token of `text` in the given mode, with what follows it. -/
inductive FirstToken : Mode -> Text -> Lexed -> Prop where
  | finish : FirstToken .outside [] ⟨.finish, [], [], .finished⟩
  | opening (rest : Text) :
      FirstToken .outside ('{' :: '#' :: rest) ⟨.opening, ['{', '#'], rest, .inside⟩
  | content {text : Text} (prose : Prose text) (notEmpty : text ≠ []) (rest : Text) :
      FirstToken .outside (text ++ '{' :: '#' :: rest)
        ⟨.content, text, '{' :: '#' :: rest, .outside⟩
  /-- Running text up to the end of the document. -/
  | lastContent {text : Text}
      (spelled : Prose text ∨ ∃ front, Prose front ∧ text = front ++ ['{'])
      (notEmpty : text ≠ []) : FirstToken .outside text ⟨.content, text, [], .finished⟩
  | separator (rest : Text) : FirstToken .inside ('|' :: rest) ⟨.separator, ['|'], rest, .inside⟩
  | closing (rest : Text) :
      FirstToken .inside ('#' :: '}' :: rest) ⟨.closing, ['#', '}'], rest, .outside⟩
  | segment {text rest : Text} (argument : Argument text) (notEmpty : text ≠ [])
      (stops : EndsSegment rest) :
      FirstToken .inside (text ++ rest) ⟨.segment, text, rest, .inside⟩
  /-- A directive that the document does not close. -/
  | unterminated {text : Text}
      (spelled : Argument text ∨ ∃ front, Argument front ∧ text = front ++ ['#']) :
      FirstToken .inside text ⟨.unterminated, text, [], .finished⟩
  /-- Behind the final token nothing is read any more. -/
  | ended (text : Text) : FirstToken .finished text ⟨.finish, [], text, .finished⟩

/-- The lexer splits off a first token. -/
theorem firstToken_next (mode : Mode) (text : Text) : FirstToken mode text (next mode text) := by
  fun_cases next mode text with
  | case1 => exact .finish
  | case2 rest => exact .opening rest
  | case3 _ notEmpty notOpening =>
      have whole := contentRun_append text
      have taken := contentRun_ne_nil notEmpty notOpening
      rcases contentRun_stops text with ended | ⟨rest, opens⟩
      · rw [ended, List.append_nil] at whole
        rw [ended, if_pos rfl, whole]
        refine .lastContent ?_ notEmpty
        rcases contentRun_spelled text with prose | ⟨_, front, prose, split⟩
        · exact .inl (whole ▸ prose)
        · exact .inr ⟨front, prose, whole ▸ split⟩
      · rcases contentRun_spelled text with prose | ⟨ended, _⟩
        · have read := FirstToken.content prose taken rest
          rw [← opens, whole] at read
          rw [if_neg (by simp [opens])]
          exact read
        · simp [ended] at opens
  | case4 rest => exact .separator rest
  | case5 rest => exact .closing rest
  | case6 _ notBar notClosing ended =>
      have whole := segmentRun_append text
      rw [ended, List.append_nil] at whole
      rw [whole]
      refine .unterminated ?_
      rcases segmentRun_spelled text with argument | ⟨_, front, argument, split⟩
      · exact .inl (whole ▸ argument)
      · exact .inr ⟨front, argument, whole ▸ split⟩
  | case7 _ notBar notClosing going =>
      have whole := segmentRun_append text
      have notEmpty : text ≠ [] := by
        rintro rfl
        exact going rfl
      have taken := segmentRun_ne_nil notEmpty notBar notClosing
      rcases segmentRun_spelled text with argument | ⟨ended, _⟩
      · have read := FirstToken.segment argument taken ((segmentRun_stops text).resolve_left going)
        rwa [whole] at read
      · exact absurd ended going
  | case8 => exact .ended text

/-- A stretch of running text is the first token. -/
theorem next_of_contentRun {text taken behind : Text} (run : contentRun text = (taken, behind))
    (notEmpty : taken ≠ []) :
    next .outside text =
      ⟨.content, taken, behind, if behind = [] then .finished else .outside⟩ := by
  rw [next, run]
  · rintro rfl
    simp only [contentRun, Prod.mk.injEq] at run
    exact notEmpty run.1.symm
  · rintro rest rfl
    simp only [contentRun, Prod.mk.injEq] at run
    exact notEmpty run.1.symm

/-- A segment is the first token, and so is what the document leaves of one. -/
theorem next_of_segmentRun {text taken behind : Text} (run : segmentRun text = (taken, behind))
    (some : taken ≠ [] ∨ behind = []) :
    next .inside text =
      if behind = [] then ⟨.unterminated, taken, [], .finished⟩
      else ⟨.segment, taken, behind, .inside⟩ := by
  rw [next, run]
  · rintro rest rfl
    simp only [segmentRun, Prod.mk.injEq] at run
    rcases some with notEmpty | ended
    · exact notEmpty run.1.symm
    · exact absurd (run.2.trans ended) (by simp)
  · rintro rest rfl
    simp only [segmentRun, Prod.mk.injEq] at run
    rcases some with notEmpty | ended
    · exact notEmpty run.1.symm
    · exact absurd (run.2.trans ended) (by simp)

/-- What may be split off is what the lexer splits off. -/
theorem next_of_firstToken {mode : Mode} {text : Text} {lexed : Lexed}
    (first : FirstToken mode text lexed) : next mode text = lexed := by
  cases first with
  | finish => rfl
  | opening => rfl
  | @content taken prose notEmpty rest =>
      have run : contentRun (taken ++ '{' :: '#' :: rest) = (taken, '{' :: '#' :: rest) := by
        simp [prose.contentRun_append, contentRun]
      simp [next_of_contentRun run notEmpty]
  | lastContent spelled notEmpty =>
      have run : contentRun text = (text, []) := by
        rcases spelled with prose | ⟨front, prose, rfl⟩
        · simpa [contentRun] using prose.contentRun_append []
        · simp [prose.contentRun_append, contentRun]
      simp [next_of_contentRun run notEmpty]
  | separator => rfl
  | closing => rfl
  | @segment taken rest argument notEmpty stops =>
      have going : rest ≠ [] := by
        rcases stops with ⟨_, rfl⟩ | ⟨_, rfl⟩ <;> simp
      have run : segmentRun (taken ++ rest) = (taken, rest) := by
        rcases stops with ⟨others, rfl⟩ | ⟨others, rfl⟩ <;>
          simp [argument.segmentRun_append, segmentRun]
      simp [next_of_segmentRun run (.inl notEmpty), going]
  | unterminated spelled =>
      have run : segmentRun text = (text, []) := by
        rcases spelled with argument | ⟨front, argument, rfl⟩
        · simpa [segmentRun] using argument.segmentRun_append []
        · simp [argument.segmentRun_append, segmentRun]
      simp [next_of_segmentRun run (.inr rfl)]
  | ended => rfl

/-- The lexer splits off exactly the first token. -/
theorem firstToken_iff {mode : Mode} {text : Text} {lexed : Lexed} :
    FirstToken mode text lexed ↔ next mode text = lexed :=
  ⟨next_of_firstToken, fun same => same ▸ firstToken_next mode text⟩

section FirstToken

variable {mode : Mode} {text : Text} {lexed : Lexed}

/-- A first token and what follows it make up the text. -/
theorem FirstToken.lexeme_append_rest (first : FirstToken mode text lexed) :
    lexed.lexeme ++ lexed.rest = text :=
  next_of_firstToken first ▸ Lexed.lexeme_append_rest mode text

/-- A first token that is not final has characters. -/
theorem FirstToken.lexeme_ne_nil (first : FirstToken mode text lexed)
    (more : lexed.kind.isFinal = false) : lexed.lexeme ≠ [] := by
  obtain rfl := next_of_firstToken first
  exact next_lexeme_ne_nil more

/-- A first token that is not final is followed by the tokens of what follows it. -/
theorem tokensFrom_of_more (offset : Nat)
    (first : FirstToken mode text lexed) (more : lexed.kind.isFinal = false) :
    tokensFrom mode offset text =
      ⟨lexed.kind, offset, lexed.lexeme⟩ ::
        tokensFrom lexed.mode (offset + lexed.lexeme.length) lexed.rest := by
  obtain rfl := next_of_firstToken first
  rw [tokensFrom]
  simp [more, Token.stop]

/-- A first token that is final is the only one. -/
theorem tokensFrom_of_final (offset : Nat)
    (first : FirstToken mode text lexed) (final : lexed.kind.isFinal = true) :
    tokensFrom mode offset text = [⟨lexed.kind, offset, lexed.lexeme⟩] := by
  obtain rfl := next_of_firstToken first
  rw [tokensFrom]
  simp [final]

end FirstToken

/-- The tokens that are split off a text from an offset on, up to the first final one. -/
inductive Tokenizes : Mode -> Nat -> Text -> List Token -> Prop where
  | final {mode : Mode} {offset : Nat} {text : Text} {lexed : Lexed}
      (first : FirstToken mode text lexed) (final : lexed.kind.isFinal = true) :
      Tokenizes mode offset text [⟨lexed.kind, offset, lexed.lexeme⟩]
  | more {mode : Mode} {offset : Nat} {text : Text} {lexed : Lexed} {tokens : List Token}
      (first : FirstToken mode text lexed) (more : lexed.kind.isFinal = false)
      (others : Tokenizes lexed.mode (offset + lexed.lexeme.length) lexed.rest tokens) :
      Tokenizes mode offset text (⟨lexed.kind, offset, lexed.lexeme⟩ :: tokens)

/-- A text is split into the tokens that the lexer computes. -/
theorem tokenizes_tokensFrom (mode : Mode) (offset : Nat) (text : Text) :
    Tokenizes mode offset text (tokensFrom mode offset text) := by
  have first := firstToken_next mode text
  by_cases final : (next mode text).kind.isFinal = true
  · rw [tokensFrom_of_final offset first final]
    exact .final first final
  · have more : (next mode text).kind.isFinal = false := by simpa using final
    rw [tokensFrom_of_more offset first more]
    exact .more first more (tokenizes_tokensFrom _ _ _)
termination_by text.length
decreasing_by exact next_rest_length more

/-- A document is split into its tokens. -/
theorem tokenizes_tokens (document : Text) : Tokenizes .outside 0 document (tokens document) :=
  tokenizes_tokensFrom .outside 0 document

/-- An empty document has nothing but its end. -/
theorem tokens_nil : tokens [] = [⟨.finish, 0, []⟩] :=
  tokensFrom_of_final 0 .finish rfl

end EditorData.Directive
