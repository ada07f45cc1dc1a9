import EditorData.Text.Basic

/-!
# UTF-8

The encoding form of text in files and responses. Reading goes byte by byte: a character
in progress knows how many bytes are still to come and which values the next one may
take, so overlong forms, surrogates and values beyond the last plane end the attempt at
the first byte that rules them out. An attempt that ends too early is one malformed part,
and the byte that ended it starts anew.
-/

namespace EditorData.Text

/-- The bytes of a text. -/
def utf8 (text : Text) : List UInt8 :=
  text.flatMap String.utf8EncodeChar

namespace Utf8

/-- What the bytes say: a character, or a longest part that begins no character. -/
inductive Piece where
  | char (value : Char)
  | malformed
deriving DecidableEq, Repr

/-- A character of which `missing` bytes are still to come. The next one lies between
`low` and `high`, and `bits` holds what has been read. -/
structure Pending where
  missing : Nat
  low : Nat
  high : Nat
  bits : Nat
deriving DecidableEq, Repr

/-- What a byte means where a character may begin. -/
def begin (byte : Nat) : Piece ⊕ Pending :=
  if byte < 0x80 then .inl (.char (Char.ofNat byte))
  else if byte < 0xc2 then .inl .malformed
  else if byte < 0xe0 then .inr ⟨1, 0x80, 0xbf, byte - 0xc0⟩
  else if byte = 0xe0 then .inr ⟨2, 0xa0, 0xbf, 0⟩
  else if byte = 0xed then .inr ⟨2, 0x80, 0x9f, 0xd⟩
  else if byte < 0xf0 then .inr ⟨2, 0x80, 0xbf, byte - 0xe0⟩
  else if byte = 0xf0 then .inr ⟨3, 0x90, 0xbf, 0⟩
  else if byte < 0xf4 then .inr ⟨3, 0x80, 0xbf, byte - 0xf0⟩
  else if byte = 0xf4 then .inr ⟨3, 0x80, 0x8f, 4⟩
  else .inl .malformed

/-- The pieces of a byte sequence, given the character in progress. -/
def piecesFrom : Option Pending -> List UInt8 -> List Piece
  | none, [] => []
  | some _, [] => [.malformed]
  | none, byte :: rest =>
      match begin byte.toNat with
      | .inl piece => piece :: piecesFrom none rest
      | .inr pending => piecesFrom (some pending) rest
  | some pending, byte :: rest =>
      if pending.low ≤ byte.toNat ∧ byte.toNat ≤ pending.high then
        let bits := pending.bits * 64 + (byte.toNat - 0x80)
        if pending.missing = 1 then .char (Char.ofNat bits) :: piecesFrom none rest
        else piecesFrom (some ⟨pending.missing - 1, 0x80, 0xbf, bits⟩) rest
      else
        .malformed ::
          match begin byte.toNat with
          | .inl piece => piece :: piecesFrom none rest
          | .inr restarted => piecesFrom (some restarted) rest

/-- The pieces of a byte sequence. -/
def pieces (bytes : List UInt8) : List Piece :=
  piecesFrom none bytes

/-- The character of a piece which has one. -/
def Piece.char? : Piece -> Option Char
  | .char value => some value
  | .malformed => none

/-- The character of a piece, U+FFFD for a malformed part. -/
def Piece.repaired : Piece -> Char
  | .char value => value
  | .malformed => '\uFFFD'

end Utf8

/-- The text whose bytes these are, if there is one. -/
def ofUtf8? (bytes : List UInt8) : Option Text :=
  (Utf8.pieces bytes).mapM Utf8.Piece.char?

/-- The text of the bytes with U+FFFD in the place of every malformed part. -/
def ofUtf8Repaired (bytes : List UInt8) : Text :=
  (Utf8.pieces bytes).map Utf8.Piece.repaired

/-- Where reading succeeds, there is nothing to repair. -/
theorem ofUtf8Repaired_eq_of_ofUtf8? {bytes : List UInt8} {text : Text}
    (read : ofUtf8? bytes = some text) : ofUtf8Repaired bytes = text := by
  unfold ofUtf8? at read
  unfold ofUtf8Repaired
  generalize Utf8.pieces bytes = pieces at read ⊢
  induction pieces generalizing text with
  | nil => simpa using read
  | cons piece pieces inductionHypothesis =>
      rw [List.mapM_cons] at read
      cases piece with
      | malformed => simp [Utf8.Piece.char?] at read
      | char value =>
          cases others : pieces.mapM Utf8.Piece.char? with
          | none => simp [others] at read
          | some rest =>
              simp [Utf8.Piece.char?, others] at read
              simp [Utf8.Piece.repaired, inductionHypothesis others, read]

end EditorData.Text
