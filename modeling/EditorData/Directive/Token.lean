import EditorData.Text.Basic

/-!
# Tokens of the directive markup

The language reference mixes running text with directives such as
`{#header_open|Builtin Functions|2col#}`. A token is a stretch of the document: it carries
the offset where it begins and the characters it covers.
-/

namespace EditorData.Directive

/-- What a stretch of the document is. -/
inductive TokenKind where
  /-- Running text outside every directive. -/
  | content
  /-- The bracket `{#` that opens a directive. -/
  | opening
  /-- A non-empty segment of a directive: its tag or an argument. -/
  | segment
  /-- The bar between two segments. -/
  | separator
  /-- The bracket `#}` that closes a directive. -/
  | closing
  /-- The rest of a document that ends inside a directive. -/
  | unterminated
  /-- The end of the document. -/
  | finish
deriving DecidableEq, Repr

namespace TokenKind

/-- Whether nothing follows a token of this kind. -/
def isFinal : TokenKind -> Bool
  | .unterminated | .finish => true
  | _ => false

/-- The name of the kind in messages. -/
def label : TokenKind -> Text
  | .content => "Content".toList
  | .opening => "BracketOpen".toList
  | .segment => "TagContent".toList
  | .separator => "Separator".toList
  | .closing => "BracketClose".toList
  | .unterminated => "Invalid".toList
  | .finish => "Eof".toList

end TokenKind

/-- A stretch of the document, by the offset of its first character and its characters. -/
structure Token where
  kind : TokenKind
  start : Nat
  lexeme : Text
deriving DecidableEq, Repr

/-- The offset just behind the token. -/
def Token.stop (token : Token) : Nat :=
  token.start + token.lexeme.length

end EditorData.Directive
