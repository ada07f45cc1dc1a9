import EditorData.Directive.Token

/-!
# Lexer of the directive markup

The lexer stands outside a directive, inside one, or behind the last token, and splits
the first token off the remaining text. Outside, a brace that no hash follows belongs to
the running text together with the character behind it; inside, so does a hash that no
closing brace follows. No character is lost (`Lexed.lexeme_append_rest`), and a token
which is not the last one is not empty, which bounds the run (`next_rest_length`).
-/

namespace EditorData.Directive

/-- Where the lexer stands between two tokens. -/
inductive Mode where
  | outside
  | inside
  | finished
deriving DecidableEq, Repr

/-- The longest stretch of running text in front, and what follows it: nothing, or an
opening bracket. -/
def contentRun : Text -> Text × Text
  | [] => ([], [])
  | '{' :: '#' :: rest => ([], '{' :: '#' :: rest)
  | '{' :: c :: rest => (contentRun rest).map (['{', c] ++ ·) id
  | c :: rest => (contentRun rest).map (c :: ·) id

/-- The longest segment in front, and what follows it: nothing, a bar, or a closing
bracket. -/
def segmentRun : Text -> Text × Text
  | [] => ([], [])
  | '|' :: rest => ([], '|' :: rest)
  | '#' :: '}' :: rest => ([], '#' :: '}' :: rest)
  | '#' :: c :: rest => (segmentRun rest).map (['#', c] ++ ·) id
  | c :: rest => (segmentRun rest).map (c :: ·) id

/-- Running text and what follows it make up the text. -/
theorem contentRun_append (text : Text) : (contentRun text).1 ++ (contentRun text).2 = text := by
  fun_induction contentRun text <;> simp_all

/-- A segment and what follows it make up the text. -/
theorem segmentRun_append (text : Text) : (segmentRun text).1 ++ (segmentRun text).2 = text := by
  fun_induction segmentRun text <;> simp_all

/-- A token's kind and characters, with the text behind it and the mode to go on in. -/
structure Lexed where
  kind : TokenKind
  lexeme : Text
  rest : Text
  mode : Mode
deriving DecidableEq, Repr

/-- Split the first token off the text. -/
def next : Mode -> Text -> Lexed
  | .outside, [] => ⟨.finish, [], [], .finished⟩
  | .outside, '{' :: '#' :: rest => ⟨.opening, ['{', '#'], rest, .inside⟩
  | .outside, text =>
      ⟨.content, (contentRun text).1, (contentRun text).2,
        if (contentRun text).2 = [] then .finished else .outside⟩
  | .inside, '|' :: rest => ⟨.separator, ['|'], rest, .inside⟩
  | .inside, '#' :: '}' :: rest => ⟨.closing, ['#', '}'], rest, .outside⟩
  | .inside, text =>
      if (segmentRun text).2 = [] then ⟨.unterminated, (segmentRun text).1, [], .finished⟩
      else ⟨.segment, (segmentRun text).1, (segmentRun text).2, .inside⟩
  | .finished, text => ⟨.finish, [], text, .finished⟩

/-- The token and the text behind it make up the text. -/
theorem Lexed.lexeme_append_rest (mode : Mode) (text : Text) :
    (next mode text).lexeme ++ (next mode text).rest = text := by
  fun_cases next mode text with
  | case3 => exact contentRun_append text
  | case6 _ _ _ ended =>
      have whole := segmentRun_append text
      simpa [ended] using whole
  | case7 => exact segmentRun_append text
  | _ => simp

/-- Running text that is not empty and begins with no opening bracket has a first stretch. -/
theorem contentRun_ne_nil {text : Text} (notEmpty : text ≠ [])
    (notOpening : ∀ rest, text ≠ '{' :: '#' :: rest) : (contentRun text).1 ≠ [] := by
  fun_cases contentRun text <;> simp_all

/-- A segment that is not empty and begins with no bar and no closing bracket has a first
stretch. -/
theorem segmentRun_ne_nil {text : Text} (notEmpty : text ≠ [])
    (notBar : ∀ rest, text ≠ '|' :: rest) (notClosing : ∀ rest, text ≠ '#' :: '}' :: rest) :
    (segmentRun text).1 ≠ [] := by
  fun_cases segmentRun text <;> simp_all

/-- A token that is not final is not empty. -/
theorem next_lexeme_ne_nil {mode : Mode} {text : Text}
    (more : (next mode text).kind.isFinal = false) : (next mode text).lexeme ≠ [] := by
  fun_cases next mode text with
  | case3 _ notEmpty notOpening => exact contentRun_ne_nil notEmpty notOpening
  | case7 _ notBar notClosing going =>
      refine segmentRun_ne_nil ?_ notBar notClosing
      rintro rfl
      exact going rfl
  | case6 _ _ _ ended => simp [next, ended, TokenKind.isFinal] at more
  | _ => simp_all [next, TokenKind.isFinal]

/-- What follows a token that is not final is shorter than the text. -/
theorem next_rest_length {mode : Mode} {text : Text}
    (more : (next mode text).kind.isFinal = false) :
    (next mode text).rest.length < text.length := by
  have whole := congrArg List.length (Lexed.lexeme_append_rest mode text)
  have positive := List.length_pos_iff.2 (next_lexeme_ne_nil more)
  simp only [List.length_append] at whole
  omega

/-- The tokens of a text that begins at the given offset, up to and including the final
one. -/
def tokensFrom (mode : Mode) (offset : Nat) (text : Text) : List Token :=
  let token : Token := ⟨(next mode text).kind, offset, (next mode text).lexeme⟩
  if _more : (next mode text).kind.isFinal = false then
    token :: tokensFrom (next mode text).mode token.stop (next mode text).rest
  else [token]
termination_by text.length
decreasing_by exact next_rest_length _more

/-- The tokens of a document, up to and including the final one. -/
def tokens (document : Text) : List Token :=
  tokensFrom .outside 0 document

end EditorData.Directive
