import EditorData.Proofs.Directive.Iteration
import Mathlib.Computability.RegularExpressions

/-!
# The grammar of the token stream

Whatever the document, its tokens come in the order of a regular expression over their
kinds (`documentKinds`), no two stretches of running text and no two segments are
neighbours, and the characters of each token are spelled as its kind demands. The kinds are
first shown to be a walk between the inside and the outside of a directive (`Walk`), from
which the regular expression and the balance of the brackets both follow.
-/

namespace EditorData.Directive

open RegularExpression

/-- Segments and bars in any order. -/
def argumentKinds : RegularExpression TokenKind :=
  .star (.char .segment + .char .separator)

/-- A stretch of running text, or a directive that is closed. -/
def itemKinds : RegularExpression TokenKind :=
  .char .content + .char .opening * argumentKinds * .char .closing

/-- The end of the document, or a directive that is not closed. -/
def endKinds : RegularExpression TokenKind :=
  .char .finish + .char .opening * argumentKinds * .char .unterminated

/-- The kinds of the tokens of a document. -/
def documentKinds : RegularExpression TokenKind :=
  .star itemKinds * endKinds

/-- The kinds of the tokens of a document from the outside or from the inside of a directive
on. -/
inductive Walk : (inside : Bool) -> List TokenKind -> Prop where
  | finish : Walk false [.finish]
  | content {rest : List TokenKind} (others : Walk false rest) : Walk false (.content :: rest)
  | opening {rest : List TokenKind} (others : Walk true rest) : Walk false (.opening :: rest)
  | segment {rest : List TokenKind} (others : Walk true rest) : Walk true (.segment :: rest)
  | separator {rest : List TokenKind} (others : Walk true rest) : Walk true (.separator :: rest)
  | closing {rest : List TokenKind} (others : Walk false rest) : Walk true (.closing :: rest)
  | unterminated : Walk true [.unterminated]

/-- The tokens of a text walk between the inside and the outside of directives. -/
theorem Tokenizes.walk {mode : Mode} {offset : Nat} {text : Text} {tokens : List Token}
    (tokenizes : Tokenizes mode offset text tokens) :
    Walk (mode = .inside) (tokens.map Token.kind) := by
  induction tokenizes with
  | final first final =>
      cases first with
      | finish => exact .finish
      | unterminated => exact .unterminated
      | ended => exact .finish
      | _ => cases final
  | more first more _ inductionHypothesis =>
      cases first with
      | opening => exact .opening inductionHypothesis
      | content => exact .content inductionHypothesis
      | lastContent => exact .content inductionHypothesis
      | separator => exact .separator inductionHypothesis
      | closing => exact .closing inductionHypothesis
      | segment => exact .segment inductionHypothesis
      | _ => cases more

section Matching

variable {left right : RegularExpression TokenKind} {word rest : List TokenKind}

/-- Words that match can be put one behind the other. -/
theorem append_mem_mul (first : word ∈ left.matches') (second : rest ∈ right.matches') :
    word ++ rest ∈ (left * right).matches' :=
  Language.append_mem_mul first second

/-- One of two ways to match is the first. -/
theorem mem_add_left (matched : word ∈ left.matches') : word ∈ (left + right).matches' :=
  .inl matched

/-- One of two ways to match is the second. -/
theorem mem_add_right (matched : word ∈ right.matches') : word ∈ (left + right).matches' :=
  .inr matched

/-- A kind matches itself. -/
theorem mem_char (kind : TokenKind) : [kind] ∈ (char kind).matches' :=
  Set.mem_singleton [kind]

/-- Nothing may be repeated. -/
theorem mem_star_mul (last : word ∈ right.matches') : word ∈ (left.star * right).matches' := by
  have nothing : [] ∈ left.star.matches' := Language.nil_mem_kstar left.matches'
  exact append_mem_mul nothing last

/-- A word in front of repetitions is one more repetition. -/
theorem append_mem_star_mul (first : word ∈ left.matches')
    (others : rest ∈ (left.star * right).matches') :
    word ++ rest ∈ (left.star * right).matches' := by
  obtain ⟨repeated, repeats, last, ends, rfl⟩ := Language.mem_mul.1 others
  obtain ⟨words, rfl, all⟩ := Language.mem_kstar.1 repeats
  have more : (word :: words).flatten ∈ left.star.matches' := by
    refine Language.join_mem_kstar fun part member => ?_
    rcases List.mem_cons.1 member with rfl | later
    · exact first
    · exact all part later
  rw [← List.append_assoc]
  exact append_mem_mul more ends

end Matching

/-- What the kinds from the inside of a directive on match. -/
def restKinds : RegularExpression TokenKind :=
  argumentKinds * (.char .closing * documentKinds + .char .unterminated)

/-- An opening bracket makes the rest of a directive a document. -/
theorem opening_mem {rest : List TokenKind} (others : rest ∈ restKinds.matches') :
    TokenKind.opening :: rest ∈ documentKinds.matches' := by
  obtain ⟨arguments, repeats, ends, final, rfl⟩ := Language.mem_mul.1 others
  have begun : [TokenKind.opening] ++ arguments ∈
      (char TokenKind.opening * argumentKinds).matches' :=
    append_mem_mul (mem_char .opening) repeats
  rcases final with closed | unclosed
  · obtain ⟨bracket, rfl, behind, document, rfl⟩ := Language.mem_mul.1 closed
    have directive : [TokenKind.opening] ++ arguments ++ [.closing] ∈ itemKinds.matches' :=
      mem_add_right (append_mem_mul begun (mem_char .closing))
    have whole := append_mem_star_mul directive document
    rwa [List.append_assoc, List.append_assoc] at whole
  · obtain rfl := Set.mem_singleton_iff.1 unclosed
    exact mem_star_mul (mem_add_right (append_mem_mul begun (mem_char .unterminated)))

/-- A walk from the outside matches the kinds of a document, one from the inside those of
the rest of a directive. -/
theorem Walk.matched {inside : Bool} {kinds : List TokenKind} (walk : Walk inside kinds) :
    kinds ∈ (if inside then restKinds else documentKinds).matches' := by
  induction walk with
  | finish => exact mem_star_mul (mem_add_left (mem_char .finish))
  | content _ inductionHypothesis =>
      exact append_mem_star_mul (mem_add_left (mem_char .content)) inductionHypothesis
  | opening _ inductionHypothesis => exact opening_mem inductionHypothesis
  | segment _ inductionHypothesis =>
      exact append_mem_star_mul (mem_add_left (mem_char .segment)) inductionHypothesis
  | separator _ inductionHypothesis =>
      exact append_mem_star_mul (mem_add_right (mem_char .separator)) inductionHypothesis
  | closing _ inductionHypothesis =>
      exact mem_star_mul (mem_add_left (append_mem_mul (mem_char .closing) inductionHypothesis))
  | unterminated => exact mem_star_mul (mem_add_right (mem_char .unterminated))

/-- Along a walk every directive that is entered is left. -/
theorem Walk.balanced {inside : Bool} {kinds : List TokenKind} (walk : Walk inside kinds) :
    kinds.count .opening + inside.toNat = kinds.count .closing + kinds.count .unterminated := by
  induction walk with
  | finish => rfl
  | content _ inductionHypothesis => simpa using inductionHypothesis
  | opening _ inductionHypothesis => simpa using inductionHypothesis
  | segment _ inductionHypothesis => simpa using inductionHypothesis
  | separator _ inductionHypothesis => simpa using inductionHypothesis
  | closing _ inductionHypothesis =>
      simp only [Bool.toNat_false, Nat.add_zero] at inductionHypothesis
      simp [inductionHypothesis, Nat.add_right_comm]
  | unterminated => rfl

/-- The end of a document comes behind running text or behind a directive that is closed. -/
theorem Walk.before_finish {inside : Bool} {kinds : List TokenKind} {kind : TokenKind}
    (walk : Walk inside (kinds ++ [kind, .finish])) : kind = .content ∨ kind = .closing := by
  induction kinds generalizing inside with
  | nil =>
      cases walk with
      | content => exact .inl rfl
      | closing => exact .inr rfl
      | opening others => cases others
      | segment others => cases others
      | separator others => cases others
  | cons first others inductionHypothesis =>
      generalize behind : others ++ [kind, .finish] = rest at inductionHypothesis
      rw [List.cons_append, behind] at walk
      cases walk with
      | finish => simp at behind
      | unterminated => simp at behind
      | content others => exact inductionHypothesis others
      | opening others => exact inductionHypothesis others
      | segment others => exact inductionHypothesis others
      | separator others => exact inductionHypothesis others
      | closing others => exact inductionHypothesis others

/-- Neither running text nor a segment is followed by another one. -/
theorem FirstToken.kind_ne {mode : Mode} {text : Text} {lexed following : Lexed}
    (first : FirstToken mode text lexed) (second : FirstToken lexed.mode lexed.rest following)
    (same : lexed.kind = following.kind) : lexed.kind ≠ .content ∧ lexed.kind ≠ .segment := by
  cases first with
  | content =>
      obtain rfl := next_of_firstToken second
      cases same
  | lastContent =>
      cases second
      cases same
  | segment _ _ stops =>
      obtain rfl := next_of_firstToken second
      rcases stops with ⟨others, rfl⟩ | ⟨others, rfl⟩ <;> cases same
  | _ => exact ⟨nofun, nofun⟩

/-- No two stretches of running text and no two segments are neighbours. -/
theorem Tokenizes.isChain {mode : Mode} {offset : Nat} {text : Text} {tokens : List Token}
    (tokenizes : Tokenizes mode offset text tokens) :
    (tokens.map Token.kind).IsChain fun kind following =>
      kind = following -> kind ≠ .content ∧ kind ≠ .segment := by
  induction tokenizes with
  | final => exact .singleton _
  | more first _ others inductionHypothesis =>
      cases others with
      | final second => exact .cons_cons (first.kind_ne second) inductionHypothesis
      | more second => exact .cons_cons (first.kind_ne second) inductionHypothesis

/-- The characters of a token of a document of the given length are those of its kind. -/
def Token.WellSpelled (length : Nat) (token : Token) : Prop :=
  match token.kind with
  | .content =>
      Prose token.lexeme ∨
        token.stop = length ∧ ∃ front, Prose front ∧ token.lexeme = front ++ ['{']
  | .opening => token.lexeme = ['{', '#']
  | .segment => Argument token.lexeme
  | .separator => token.lexeme = ['|']
  | .closing => token.lexeme = ['#', '}']
  | .unterminated =>
      Argument token.lexeme ∨ ∃ front, Argument front ∧ token.lexeme = front ++ ['#']
  | .finish => token.lexeme = []

/-- The tokens of a text are spelled as their kinds demand. -/
theorem Tokenizes.wellSpelled {mode : Mode} {offset : Nat} {text : Text} {tokens : List Token}
    (tokenizes : Tokenizes mode offset text tokens) :
    ∀ token ∈ tokens, token.WellSpelled (offset + text.length) := by
  have spelled : ∀ {mode : Mode} (offset : Nat) {text : Text} {lexed : Lexed},
      FirstToken mode text lexed ->
        Token.WellSpelled (offset + text.length) ⟨lexed.kind, offset, lexed.lexeme⟩ := by
    intro mode offset text lexed first
    cases first with
    | content prose => exact .inl prose
    | lastContent spelled => exact spelled.imp_right fun dangling => ⟨rfl, dangling⟩
    | segment argument => exact argument
    | unterminated spelled => exact spelled
    | _ => exact rfl
  induction tokenizes with
  | final first => simpa using spelled _ first
  | @more _ offset text lexed _ first _ _ inductionHypothesis =>
      have whole := congrArg List.length first.lexeme_append_rest
      rw [List.length_append] at whole
      rw [Nat.add_assoc, whole] at inductionHypothesis
      intro token member
      rcases List.mem_cons.1 member with rfl | later
      · exact spelled offset first
      · exact inductionHypothesis token later

/-- Whatever the document, its tokens form a word of the grammar: stretches of running text
and closed directives, and at last the end or a directive that is not closed. No two
stretches of running text and no two segments are neighbours, there are as many opening
brackets as closing ones and unterminated directives together, and every token is spelled
as its kind demands. -/
theorem tokens_grammatical (document : Text) :
    (tokens document).map Token.kind ∈ documentKinds.matches' ∧
      ((tokens document).map Token.kind).IsChain (fun kind following =>
        kind = following -> kind ≠ .content ∧ kind ≠ .segment) ∧
      ((tokens document).map Token.kind).count .opening =
        ((tokens document).map Token.kind).count .closing +
          ((tokens document).map Token.kind).count .unterminated ∧
      ∀ token ∈ tokens document, token.WellSpelled document.length := by
  have tokenizes : Tokenizes .outside 0 document (tokens document) :=
    tokenizes_tokensFrom .outside 0 document
  refine ⟨tokenizes.walk.matched, tokenizes.isChain, tokenizes.walk.balanced, ?_⟩
  simpa only [Nat.zero_add] using tokenizes.wellSpelled

end EditorData.Directive
