import EditorData.Text.Utf8

/-!
# Reading UTF-8 back

The bytes of a text are read back as that text (`ofUtf8?_utf8`). Reading is driven by bytes, so
the proof follows a character in progress through its continuation bytes: `piecesFrom_more` for
those in the middle, `piecesFrom_last` for the last one.
-/

namespace EditorData.Text

namespace Utf8

variable {pending : Pending} {value bits : Nat} {rest : List UInt8}

/-- The value of a byte that is given by a small number. -/
theorem toNat_byte (small : value < 256) : (UInt8.ofNat value).toNat = value := by
  simp
  omega

/-- A byte that begins a character of several bytes. -/
theorem piecesFrom_begin (small : value < 256) (begins : begin value = .inr pending) :
    piecesFrom none (UInt8.ofNat value :: rest) = piecesFrom (some pending) rest := by
  rw [piecesFrom, toNat_byte small, begins]

/-- A continuation byte that is not the last one of its character. -/
theorem piecesFrom_more (few : bits < 64) (low : pending.low ≤ bits + 128)
    (high : bits + 128 ≤ pending.high) (more : pending.missing ≠ 1) :
    piecesFrom (some pending) (UInt8.ofNat (bits + 128) :: rest) =
      piecesFrom (some ⟨pending.missing - 1, 0x80, 0xbf, pending.bits * 64 + bits⟩) rest := by
  rw [piecesFrom, toNat_byte (by omega), if_pos ⟨low, high⟩]
  simp only [more, if_false, Nat.add_sub_cancel]

/-- The last continuation byte of a character. -/
theorem piecesFrom_last {c : Char} (few : bits < 64) (low : pending.low ≤ bits + 128)
    (high : bits + 128 ≤ pending.high) (last : pending.missing = 1)
    (same : pending.bits * 64 + bits = c.toNat) :
    piecesFrom (some pending) (UInt8.ofNat (bits + 128) :: rest) =
      .char c :: piecesFrom none rest := by
  rw [piecesFrom, toNat_byte (by omega), if_pos ⟨low, high⟩]
  simp only [last, if_true, Nat.add_sub_cancel, same, Char.ofNat_toNat]

/-- What a byte means that begins a character of two bytes. -/
theorem begin_two (low : 0xc2 ≤ value) (high : value < 0xe0) :
    begin value = .inr ⟨1, 0x80, 0xbf, value - 0xc0⟩ := by
  unfold begin
  rw [if_neg (by omega), if_neg (by omega), if_pos high]

/-- What a byte means that begins a character of three bytes. The bounds of the next byte keep
overlong forms and surrogates out. -/
theorem begin_three (low : 0xe0 ≤ value) (high : value < 0xf0) :
    begin value = .inr ⟨2, if value = 0xe0 then 0xa0 else 0x80,
      if value = 0xed then 0x9f else 0xbf, value - 0xe0⟩ := by
  unfold begin
  rw [if_neg (by omega), if_neg (by omega), if_neg (by omega)]
  by_cases first : value = 0xe0
  · simp [first]
  · by_cases surrogate : value = 0xed
    · simp [surrogate]
    · simp [first, surrogate, high]

/-- What a byte means that begins a character of four bytes. The bounds of the next byte keep
overlong forms and values beyond the last plane out. -/
theorem begin_four (low : 0xf0 ≤ value) (high : value < 0xf5) :
    begin value = .inr ⟨3, if value = 0xf0 then 0x90 else 0x80,
      if value = 0xf4 then 0x8f else 0xbf, value - 0xf0⟩ := by
  unfold begin
  rw [if_neg (by omega), if_neg (by omega), if_neg (by omega), if_neg (by omega),
    if_neg (by omega), if_neg (by omega)]
  by_cases first : value = 0xf0
  · simp [first]
  · by_cases final : value = 0xf4
    · simp [final]
    · have middle : value < 0xf4 := by omega
      simp [first, final, middle]

/-- The bytes of a character are read as that character. -/
theorem piecesFrom_encode (c : Char) (rest : List UInt8) :
    piecesFrom none (String.utf8EncodeChar c ++ rest) = .char c :: piecesFrom none rest := by
  have valid : c.toNat < 0xd800 ∨ 0xdfff < c.toNat ∧ c.toNat < 0x110000 := c.valid
  have value : c.val.toNat = c.toNat := rfl
  simp only [String.utf8EncodeChar, value]
  -- one case for each length of a character; the bits of its code are put together again
  by_cases one : c.toNat ≤ 0x7f
  · rw [if_pos one, List.singleton_append, piecesFrom, toNat_byte (by omega), begin,
      if_pos (by omega), Char.ofNat_toNat]
  by_cases two : c.toNat ≤ 0x7ff
  · rw [if_neg one, if_pos two, List.cons_append,
      piecesFrom_begin (by omega) (begin_two (by omega) (by omega)), List.singleton_append]
    refine piecesFrom_last (by omega) ?_ ?_ rfl ?_
    all_goals dsimp only; omega
  by_cases three : c.toNat ≤ 0xffff
  · rw [if_neg one, if_neg two, if_pos three, List.cons_append,
      piecesFrom_begin (by omega) (begin_three (by omega) (by omega)), List.cons_append,
      piecesFrom_more (by omega) ?_ ?_ (by simp), List.singleton_append]
    · refine piecesFrom_last (by omega) ?_ ?_ rfl ?_
      all_goals dsimp only; omega
    · dsimp only
      split <;> omega
    · dsimp only
      split <;> omega
  · rw [if_neg one, if_neg two, if_neg three, List.cons_append,
      piecesFrom_begin (by omega) (begin_four (by omega) (by omega)), List.cons_append,
      piecesFrom_more (by omega) ?_ ?_ (by simp), List.cons_append,
      piecesFrom_more (by omega) ?_ ?_ (by simp), List.singleton_append]
    · refine piecesFrom_last (by omega) ?_ ?_ rfl ?_
      all_goals dsimp only; omega
    · dsimp only
      omega
    · dsimp only
      omega
    · dsimp only
      split <;> omega
    · dsimp only
      split <;> omega

/-- The bytes of a text are the pieces that its characters are. -/
theorem pieces_utf8 (text : Text) : pieces (utf8 text) = text.map Piece.char := by
  induction text with
  | nil => rfl
  | cons c text inductionHypothesis =>
      rw [utf8, List.flatMap_cons, pieces, piecesFrom_encode]
      exact congrArg (Piece.char c :: ·) inductionHypothesis

end Utf8

/-- The bytes of a text are read back as the text. -/
theorem ofUtf8?_utf8 (text : Text) : ofUtf8? (utf8 text) = some text := by
  rw [ofUtf8?, Utf8.pieces_utf8]
  induction text with
  | nil => rfl
  | cons c text inductionHypothesis =>
      rw [List.map_cons, List.mapM_cons, inductionHypothesis]
      rfl

/-- Texts with the same bytes are the same. -/
theorem utf8_inj {first second : Text} : utf8 first = utf8 second ↔ first = second := by
  refine ⟨fun same => ?_, congrArg utf8⟩
  have read := congrArg ofUtf8? same
  rw [ofUtf8?_utf8, ofUtf8?_utf8] at read
  exact Option.some.inj read

end EditorData.Text
