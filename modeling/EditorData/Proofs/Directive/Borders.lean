import EditorData.Proofs.Directive.Grammar

/-!
# Borders between tokens

A token is split off a text because of its own characters and of what follows it: running
text ends where a directive opens, a segment at a bar or where its directive closes, and
every other token by itself (`EndsBefore`). So the tokens in front of a border of a document
stay what they are when the text behind the border is replaced, as long as the last of them
still ends there, and the lexer goes on behind them with that text (`tokensFrom_replace`).
Where the text begins in its document only moves its tokens (`tokensFrom_shift`).
-/

namespace EditorData.Directive

/-- Where the lexer stands behind a token of the kind if the document goes on there. -/
def TokenKind.modeBehind : TokenKind -> Mode
  | .content | .closing => .outside
  | .opening | .segment | .separator => .inside
  | .unterminated | .finish => .finished

/-- Where a lexer that begins in the given mode stands behind tokens. -/
def modeBehind (mode : Mode) (front : List Token) : Mode :=
  (front.getLast?.map fun token => token.kind.modeBehind).getD mode

/-- The characters of tokens, one behind the other. -/
def textOf (tokens : List Token) : Text :=
  (tokens.map Token.lexeme).flatten

/-- A token with these characters ends where the given text follows it. -/
def EndsBefore (kind : TokenKind) (lexeme rest : Text) : Prop :=
  match kind with
  | .content => Prose lexeme ∧ ∃ others, rest = '{' :: '#' :: others
  | .segment => EndsSegment rest
  | _ => True

/-- The token at a place further behind. -/
def Token.shift (distance : Nat) (token : Token) : Token :=
  { token with start := token.start + distance }

@[simp] theorem textOf_nil : textOf [] = [] := rfl

@[simp] theorem textOf_cons (token : Token) (tokens : List Token) :
    textOf (token :: tokens) = token.lexeme ++ textOf tokens := rfl

@[simp] theorem textOf_append (front rest : List Token) :
    textOf (front ++ rest) = textOf front ++ textOf rest := by
  simp [textOf]

@[simp] theorem modeBehind_append (mode : Mode) (front : List Token) (token : Token) :
    modeBehind mode (front ++ [token]) = token.kind.modeBehind := by
  simp [modeBehind]

/-- The mode behind the first token is that which the others begin in. -/
theorem modeBehind_cons (mode : Mode) (token : Token) (tokens : List Token) :
    modeBehind mode (token :: tokens) = modeBehind token.kind.modeBehind tokens := by
  cases tokens with
  | nil => rfl
  | cons next others => simp [modeBehind, List.getLast?_cons]

section Tiling

variable {offset : Nat} {front rest : List Token} {token : Token} {text : Text}

/-- Tokens that tile a text have its characters. -/
theorem Tiling.textOf_eq (tiling : Tiling offset front text) : textOf front = text :=
  tiling.flatten

/-- A token begins behind the characters of the tokens in front of it. -/
theorem Tiling.start_eq (tiling : Tiling offset (front ++ token :: rest) text) :
    token.start = offset + (textOf front).length := by
  induction front generalizing offset text with
  | nil => exact Option.some.inj tiling.head
  | cons first others inductionHypothesis =>
      generalize all : first :: others ++ token :: rest = tokens at tiling
      cases tiling with
      | last => simp at all
      | more _ _ behind =>
          obtain ⟨rfl, rfl⟩ := List.cons.inj all
          rw [inductionHypothesis behind, Token.stop, textOf_cons, List.length_append,
            Nat.add_assoc]

/-- A token is final exactly if it is the last one. -/
theorem Tiling.isFinal_iff (tiling : Tiling offset (front ++ token :: rest) text) :
    token.kind.isFinal = true ↔ rest = [] := by
  obtain ⟨others, last, all, final, _, going⟩ := tiling.split
  cases rest using List.reverseRecOn with
  | nil =>
      obtain ⟨_, same⟩ := List.append_inj' all rfl
      obtain rfl := List.head_eq_of_cons_eq same
      exact iff_of_true final rfl
  | append_singleton more final =>
      rw [← List.cons_append, ← List.append_assoc] at all
      obtain ⟨rfl, _⟩ := List.append_inj' all rfl
      simp [going token (by simp)]

end Tiling

section FirstToken

variable {mode : Mode} {text rest : Text} {lexed following : Lexed}

/-- A token is split off in front of every text which it ends before. -/
theorem FirstToken.replace (first : FirstToken mode text lexed)
    (more : lexed.kind.isFinal = false) (ends : EndsBefore lexed.kind lexed.lexeme rest) :
    FirstToken mode (lexed.lexeme ++ rest)
      ⟨lexed.kind, lexed.lexeme, rest, lexed.kind.modeBehind⟩ := by
  cases first with
  | opening => exact .opening rest
  | content prose notEmpty =>
      obtain ⟨_, others, rfl⟩ := ends
      exact .content prose notEmpty others
  | lastContent _ notEmpty =>
      obtain ⟨prose, others, rfl⟩ := ends
      exact .content prose notEmpty others
  | separator => exact .separator rest
  | closing => exact .closing rest
  | segment argument notEmpty => exact .segment argument notEmpty ends
  | _ => cases more

/-- A token ends before the token that follows it, whatever follows that one. -/
theorem FirstToken.endsBefore (first : FirstToken mode text lexed)
    (next : FirstToken lexed.mode lexed.rest following)
    (more : following.kind.isFinal = false) (rest : Text) :
    EndsBefore lexed.kind lexed.lexeme (following.lexeme ++ rest) ∧
      lexed.mode = lexed.kind.modeBehind := by
  obtain rfl := next_of_firstToken next
  cases first with
  | content prose _ others => exact ⟨⟨prose, rest, rfl⟩, rfl⟩
  | segment _ _ stops =>
      refine ⟨?_, rfl⟩
      rcases stops with ⟨others, rfl⟩ | ⟨others, rfl⟩
      · exact .inl ⟨rest, rfl⟩
      · exact .inr ⟨rest, rfl⟩
  | opening => exact ⟨trivial, rfl⟩
  | separator => exact ⟨trivial, rfl⟩
  | closing => exact ⟨trivial, rfl⟩
  | _ => cases more

end FirstToken

section Tokenizes

variable {mode : Mode} {offset : Nat} {text : Text} {token following : Token}
  {front rest : List Token}

/-- A token that others follow is a first token, and these are the tokens of what follows it. -/
theorem Tokenizes.of_cons (tokenizes : Tokenizes mode offset text (token :: rest))
    (going : rest ≠ []) :
    ∃ lexed, FirstToken mode text lexed ∧ lexed.kind.isFinal = false ∧
      token = ⟨lexed.kind, offset, lexed.lexeme⟩ ∧
      Tokenizes lexed.mode (offset + lexed.lexeme.length) lexed.rest rest := by
  cases tokenizes with
  | final => exact absurd rfl going
  | more first more others => exact ⟨_, first, more, rfl, others⟩

/-- The tokens in front of a border do not depend on what follows it, as long as the last of
them ends there, and behind them the lexer goes on with what follows. -/
theorem tokensFrom_replace {behind : Text}
    (tokenizes : Tokenizes mode offset text (front ++ rest)) (going : rest ≠ [])
    (ends : ∀ last ∈ front.getLast?, EndsBefore last.kind last.lexeme behind) :
    tokensFrom mode offset (textOf front ++ behind) =
      front ++
        tokensFrom (modeBehind mode front) (offset + (textOf front).length) behind := by
  induction front generalizing mode offset text with
  | nil => rfl
  | cons token others inductionHypothesis =>
      obtain ⟨lexed, first, more, rfl, later⟩ := tokenizes.of_cons (by simp [going])
      have continued : EndsBefore lexed.kind lexed.lexeme (textOf others ++ behind) ∧
          tokensFrom lexed.kind.modeBehind (offset + lexed.lexeme.length)
              (textOf others ++ behind) =
            others ++ tokensFrom (modeBehind lexed.kind.modeBehind others)
              (offset + lexed.lexeme.length + (textOf others).length) behind := by
        cases others with
        | nil => exact ⟨ends _ rfl, rfl⟩
        | cons following others =>
            -- the next token is still there, so it ends this one as before
            have continued := inductionHypothesis later fun last member =>
              ends last (by rwa [List.getLast?_cons_cons])
            obtain ⟨next, second, further, rfl, _⟩ := later.of_cons (by simp [going])
            obtain ⟨stops, stands⟩ := first.endsBefore second further (textOf others ++ behind)
            rw [stands] at continued
            exact ⟨by simpa using stops, continued⟩
      obtain ⟨stops, continued⟩ := continued
      have replaced := first.replace more stops
      rw [textOf_cons, List.append_assoc, tokensFrom_of_more offset replaced more, modeBehind_cons]
      simp [continued, Nat.add_assoc]

/-- The first of the tokens that a text is split into is its first token. -/
theorem Tokenizes.exists_first (tokenizes : Tokenizes mode offset text (token :: rest)) :
    ∃ lexed, FirstToken mode text lexed ∧ token = ⟨lexed.kind, offset, lexed.lexeme⟩ := by
  cases tokenizes with
  | final first => exact ⟨_, first, rfl⟩
  | more first => exact ⟨_, first, rfl⟩

/-- The tokens that a text is split into are those that the lexer computes. -/
theorem Tokenizes.tokensFrom_eq {tokens : List Token}
    (tokenizes : Tokenizes mode offset text tokens) :
    tokensFrom mode offset text = tokens := by
  induction tokenizes with
  | final first final => exact tokensFrom_of_final _ first final
  | more first more _ inductionHypothesis =>
      rw [tokensFrom_of_more _ first more, inductionHypothesis]

/-- Behind tokens of a text the others are those of the text behind them, and the last of them ends
in front of every text that begins with the characters of the next one. -/
theorem Tokenizes.exists_behind (tokenizes : Tokenizes mode offset text (front ++ token :: rest))
    (more : token.kind.isFinal = false) :
    ∃ behind, text = textOf front ++ behind ∧
      Tokenizes (modeBehind mode front) (offset + (textOf front).length) behind (token :: rest) ∧
      ∀ last ∈ front.getLast?, ∀ others,
        EndsBefore last.kind last.lexeme (token.lexeme ++ others) := by
  induction front generalizing mode offset text with
  | nil => exact ⟨text, rfl, tokenizes, nofun⟩
  | cons first front inductionHypothesis =>
      obtain ⟨lexed, begins, _, rfl, later⟩ := tokenizes.of_cons (by simp)
      obtain ⟨behind, split, continued, ends⟩ := inductionHypothesis later
      have following : ∃ next, FirstToken lexed.mode lexed.rest next ∧ next.kind.isFinal = false ∧
          (front = [] -> next.lexeme = token.lexeme) := by
        cases front with
        | nil =>
            obtain ⟨next, second, rfl⟩ := later.exists_first
            exact ⟨next, second, more, fun _ => rfl⟩
        | cons second others =>
            obtain ⟨next, second, going, _⟩ := later.of_cons (by simp)
            exact ⟨next, second, going, nofun⟩
      obtain ⟨next, second, going, single⟩ := following
      refine ⟨behind, ?_, ?_, ?_⟩
      · rw [textOf_cons, List.append_assoc, ← split, begins.lexeme_append_rest]
      · rw [modeBehind_cons, ← (begins.endsBefore second going []).2]
        simpa [Nat.add_assoc] using continued
      · intro last member others
        cases front with
        | nil =>
            cases member
            rw [← single rfl]
            exact (begins.endsBefore second going others).1
        | cons => exact ends last (by rwa [List.getLast?_cons_cons] at member) others

/-- Running text that another token follows ends where a directive opens. -/
theorem Tokenizes.of_content
    (tokenizes : Tokenizes .outside offset text (token :: following :: rest))
    (content : token.kind = .content) (more : following.kind.isFinal = false) :
    ∃ others, token.start = offset ∧ text = token.lexeme ++ '{' :: '#' :: others ∧
      Prose token.lexeme ∧
      Tokenizes .outside token.stop ('{' :: '#' :: others) (following :: rest) := by
  obtain ⟨lexed, first, _, rfl, later⟩ := tokenizes.of_cons (by simp)
  cases first with
  | content prose _ others => exact ⟨others, rfl, rfl, prose, later⟩
  | lastContent =>
      obtain ⟨_, second, rfl⟩ := later.exists_first
      cases second
      cases more
  | _ => cases content

/-- Tokens of a text that begins further behind are those of the text, further behind. -/
theorem tokensFrom_shift (mode : Mode) (offset distance : Nat) (text : Text) :
    tokensFrom mode (offset + distance) text =
      (tokensFrom mode offset text).map (Token.shift distance) := by
  have tokenizes := tokenizes_tokensFrom mode offset text
  generalize tokensFrom mode offset text = tokens at tokenizes ⊢
  induction tokenizes with
  | final first final => exact tokensFrom_of_final _ first final
  | more first more _ inductionHypothesis =>
      rw [tokensFrom_of_more _ first more, Nat.add_right_comm, inductionHypothesis]
      rfl

/-- At the end of a document the lexer stands outside of every directive, and whatever brace
has its character, a directive may follow. -/
theorem endsBefore_finish (finish : token.kind = .finish)
    (tokenizes : Tokenizes .outside offset text (front ++ [token]))
    (paired : ∀ last ∈ front, last.kind = .content -> Prose last.lexeme) (others : Text) :
    (∀ last ∈ front.getLast?, EndsBefore last.kind last.lexeme ('{' :: '#' :: others)) ∧
      modeBehind .outside front = .outside := by
  cases front using List.reverseRecOn with
  | nil => exact ⟨nofun, rfl⟩
  | append_singleton earlier last =>
      have walk := tokenizes.walk
      simp only [List.map_append, List.map_cons, List.map_nil, finish, List.append_assoc,
        List.cons_append, List.nil_append] at walk
      rw [modeBehind_append]
      rcases walk.before_finish with content | closing
      · have prose := paired last (by simp) content
        exact ⟨by simpa [EndsBefore, content] using prose, by rw [content]; rfl⟩
      · exact ⟨by simp [EndsBefore, closing], by rw [closing]; rfl⟩

end Tokenizes

/-- The end of a document has no characters, so the tokens in front of it have them all. -/
theorem textOf_of_finish {text : Text} {front : List Token} {last : Token}
    (all : tokens text = front ++ [last]) (finish : last.kind = .finish) :
    textOf front = text := by
  have tiling := tiling_tokens text
  have tokenizes := tokenizes_tokens text
  rw [all] at tiling tokenizes
  have spelled := tokenizes.wellSpelled last (by simp)
  simp only [Token.WellSpelled, finish] at spelled
  simpa [spelled] using tiling.textOf_eq

/-- Behind the end of a document that stands outside of every directive, and at which its last
token ends, a document begins as it does by itself. -/
theorem tokens_append_of_ends {text : Text} {front : List Token} {last : Token} {rest : Text}
    (all : tokens text = front ++ [last]) (finish : last.kind = .finish)
    (ends : ∀ token ∈ front.getLast?, EndsBefore token.kind token.lexeme rest)
    (stands : modeBehind .outside front = .outside) :
    tokens (text ++ rest) = front ++ (tokens rest).map (Token.shift text.length) := by
  have tokenizes := tokenizes_tokens text
  rw [all] at tokenizes
  have replaced := tokensFrom_replace tokenizes (by simp) ends
  rwa [textOf_of_finish all finish, stands, tokensFrom_shift] at replaced

/-- Behind the end of a document in which every brace has its character, a directive begins
as it does at the front of a document. -/
theorem tokens_append_directive {text : Text} {front : List Token} {last : Token}
    (all : tokens text = front ++ [last]) (finish : last.kind = .finish)
    (paired : ∀ token ∈ front, token.kind = .content -> Prose token.lexeme) (rest : Text) :
    tokens (text ++ '{' :: '#' :: rest) =
      front ++ (tokens ('{' :: '#' :: rest)).map (Token.shift text.length) := by
  have tokenizes := tokenizes_tokens text
  rw [all] at tokenizes
  obtain ⟨ends, stands⟩ := endsBefore_finish finish tokenizes paired rest
  exact tokens_append_of_ends all finish ends stands

end EditorData.Directive
