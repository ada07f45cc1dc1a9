import EditorData.Proofs.Text.Decoding
import EditorData.Proofs.ZigSource.Scanner

/-!
# Escaped texts

The body of a string literal by itself, outside of a source: a decoder of the escapes that `escape`
writes (`unescape`), which takes neither a quote nor a backslash for itself. What it reads is put
together from characters and escapes (`Encodes`), so a body that it reads has no quote but behind
the backslash of an escape (`Encodes.quote`), does not end in the middle of an escape
(`Encodes.not_endsInEscape`), and is read in the same way in front of any other body. Decoding what
has been encoded is then a matter of single bytes.
-/

namespace EditorData.ZigSource

/-- The value of a digit in base sixteen, in lower case. -/
def lowerHexValue? (c : Char) : Option Nat :=
  if '0' ≤ c ∧ c ≤ '9' then some (c.toNat - 48)
  else if 'a' ≤ c ∧ c ≤ 'f' then some (c.toNat - 87)
  else none

/-- The byte with two digits in base sixteen. -/
def byteOfDigits? (high low : Char) : Option UInt8 := do
  let high <- lowerHexValue? high
  let low <- lowerHexValue? low
  return UInt8.ofNat (16 * high + low)

/-- The bytes that the body of a string literal stands for. -/
def unescape : Text -> Option (List UInt8)
  | [] => some []
  | '\\' :: 'x' :: high :: low :: rest =>
      (byteOfDigits? high low).bind fun byte => (unescape rest).map (byte :: ·)
  | '\\' :: c :: rest =>
      (escapedByte? c).bind fun byte => (unescape rest).map (byte :: ·)
  | ['\\'] => none
  | '"' :: _ => none
  | c :: rest => (unescape rest).map (String.utf8EncodeChar c ++ ·)

/-- Behind complete characters and escapes, a text ends before an escape does: behind its backslash,
or with no or one of the digits behind its letter. -/
def EndsInEscape (text : Text) : Prop :=
  ∃ whole begun, text = whole ++ begun ∧ (unescape whole).isSome ∧
    (begun = ['\\'] ∨ begun = ['\\', 'x'] ∨ ∃ digit, begun = ['\\', 'x', digit])

/-- A text made up of characters and escapes, and the bytes that it stands for. -/
inductive Encodes : Text -> List UInt8 -> Prop where
  | nil : Encodes [] []
  | plain {c : Char} {text : Text} {bytes : List UInt8} (noQuote : c ≠ '"')
      (noBackslash : c ≠ '\\') (later : Encodes text bytes) :
      Encodes (c :: text) (String.utf8EncodeChar c ++ bytes)
  | short {c : Char} {text : Text} {byte : UInt8} {bytes : List UInt8}
      (known : escapedByte? c = some byte) (later : Encodes text bytes) :
      Encodes ('\\' :: c :: text) (byte :: bytes)
  | digits {high low : Char} {text : Text} {byte : UInt8} {bytes : List UInt8}
      (known : byteOfDigits? high low = some byte) (later : Encodes text bytes) :
      Encodes ('\\' :: 'x' :: high :: low :: text) (byte :: bytes)

section Decoding

variable {c high low : Char} {byte : UInt8} {text front rest : Text} {bytes : List UInt8}

/-- A character that is no quote and no backslash stands for itself. -/
theorem unescape_plain (noQuote : c ≠ '"') (noBackslash : c ≠ '\\') (text : Text) :
    unescape (c :: text) = (unescape text).map (String.utf8EncodeChar c ++ ·) :=
  unescape.eq_6 c text (fun _ _ _ same => absurd same noBackslash)
    (fun _ _ same => absurd same noBackslash) (fun same => absurd same noBackslash) noQuote

/-- A short escape stands for its byte. -/
theorem unescape_short (known : escapedByte? c = some byte) (text : Text) :
    unescape ('\\' :: c :: text) = (unescape text).map (byte :: ·) := by
  have noDigits : c ≠ 'x' := by
    rintro rfl
    cases known
  rw [unescape.eq_3 c text fun _ _ _ same => absurd same noDigits, known, Option.bind_some]

/-- An escape with digits stands for the byte with these digits. -/
theorem unescape_digits (known : byteOfDigits? high low = some byte) (text : Text) :
    unescape ('\\' :: 'x' :: high :: low :: text) = (unescape text).map (byte :: ·) := by
  rw [unescape, known, Option.bind_some]

/-- What is decoded is made up of characters and escapes. -/
theorem encodes_of_unescape (decoded : unescape text = some bytes) : Encodes text bytes := by
  fun_induction unescape text generalizing bytes with
  | case1 =>
      obtain rfl := Option.some.inj decoded
      exact .nil
  | case2 high low text inductionHypothesis =>
      obtain ⟨byte, known, mapped⟩ := Option.bind_eq_some_iff.1 decoded
      obtain ⟨others, later, rfl⟩ := Option.map_eq_some_iff.1 mapped
      exact .digits known (inductionHypothesis later)
  | case3 c text _ inductionHypothesis =>
      obtain ⟨byte, known, mapped⟩ := Option.bind_eq_some_iff.1 decoded
      obtain ⟨others, later, rfl⟩ := Option.map_eq_some_iff.1 mapped
      exact .short known (inductionHypothesis later)
  | case4 => cases decoded
  | case5 => cases decoded
  | case6 c text _ behind alone noQuote inductionHypothesis =>
      obtain ⟨others, later, rfl⟩ := Option.map_eq_some_iff.1 decoded
      have noBackslash : c ≠ '\\' := fun same => by
        cases text with
        | nil => exact alone same rfl
        | cons d text => exact behind d text same rfl
      exact .plain noQuote noBackslash (inductionHypothesis later)

/-- A quote is no digit. -/
theorem digits_ne_quote (known : byteOfDigits? high low = some byte) : high ≠ '"' ∧ low ≠ '"' := by
  have noDigit : lowerHexValue? '"' = none := by decide
  refine ⟨?_, ?_⟩
  · rintro rfl
    simp [byteOfDigits?, noDigit] at known
  · rintro rfl
    simp [byteOfDigits?, noDigit] at known

/-- What has no quote ends in front of the quotes of a text. -/
theorem ahead_of_quote {unit : Text} (free : '"' ∉ unit)
    (split : unit ++ text = front ++ '"' :: rest) :
    ∃ further, front = unit ++ further ∧ text = further ++ '"' :: rest := by
  induction unit generalizing front with
  | nil => exact ⟨front, rfl, split⟩
  | cons c unit inductionHypothesis =>
      obtain ⟨differs, free⟩ := not_or.1 fun either => free (List.mem_cons.2 either)
      cases front with
      | nil => exact absurd (List.cons.inj split).1.symm differs
      | cons d front =>
          obtain ⟨rfl, tail⟩ := List.cons.inj split
          obtain ⟨further, rfl, behind⟩ := inductionHypothesis free tail
          exact ⟨further, rfl, behind⟩

namespace Encodes

/-- Behind characters and escapes, a text is decoded as it is by itself. -/
theorem unescape_append (encodes : Encodes front bytes) (rest : Text) :
    unescape (front ++ rest) = (unescape rest).map (bytes ++ ·) := by
  induction encodes with
  | nil => simp
  | plain noQuote noBackslash later inductionHypothesis =>
      rw [List.cons_append, unescape_plain noQuote noBackslash, inductionHypothesis]
      simp [Function.comp_def]
  | short known later inductionHypothesis =>
      rw [List.cons_append, List.cons_append, unescape_short known, inductionHypothesis]
      simp [Function.comp_def]
  | digits known later inductionHypothesis =>
      rw [List.cons_append, List.cons_append, List.cons_append, List.cons_append,
        unescape_digits known, inductionHypothesis]
      simp [Function.comp_def]

/-- Characters and escapes are decoded. -/
theorem unescape_eq (encodes : Encodes text bytes) : unescape text = some bytes := by
  have alone := encodes.unescape_append []
  simpa [unescape] using alone

/-- A body does not end in the middle of an escape. -/
theorem not_endsInEscape (encodes : Encodes text bytes) : ¬ EndsInEscape text := by
  rintro ⟨whole, begun, rfl, complete, unfinished⟩
  obtain ⟨others, decoded⟩ := Option.isSome_iff_exists.1 complete
  have fails : unescape begun = none := by
    rcases unfinished with rfl | rfl | ⟨digit, rfl⟩ <;> rfl
  have whole := (encodes_of_unescape decoded).unescape_append begun
  rw [encodes.unescape_eq, fails] at whole
  cases whole

/-- A quote in a body stands behind the backslash of an escape. -/
theorem quote (encodes : Encodes text bytes) (split : text = front ++ '"' :: rest) :
    ∃ whole others, front = whole ++ ['\\'] ∧ Encodes whole others := by
  induction encodes generalizing front with
  | nil => simp at split
  | @plain c text bytes noQuote noBackslash later inductionHypothesis =>
      have free : '"' ∉ [c] := fun held => noQuote (List.mem_singleton.1 held).symm
      obtain ⟨further, rfl, behind⟩ := ahead_of_quote free split
      obtain ⟨whole, others, rfl, encodes⟩ := inductionHypothesis behind
      exact ⟨c :: whole, _, rfl, .plain noQuote noBackslash encodes⟩
  | @short c text byte bytes known later inductionHypothesis =>
      have free : '"' ∉ ['\\'] := by decide
      obtain ⟨further, rfl, behind⟩ := ahead_of_quote free split
      cases further with
      | nil => exact ⟨[], [], rfl, .nil⟩
      | cons d further =>
          obtain ⟨rfl, tail⟩ := List.cons.inj behind
          obtain ⟨whole, others, rfl, encodes⟩ := inductionHypothesis tail
          exact ⟨'\\' :: c :: whole, _, rfl, .short known encodes⟩
  | @digits high low text byte bytes known later inductionHypothesis =>
      obtain ⟨highDiffers, lowDiffers⟩ := digits_ne_quote known
      have free : '"' ∉ ['\\', 'x', high, low] := by
        simp [highDiffers.symm, lowDiffers.symm]
      obtain ⟨further, rfl, behind⟩ := ahead_of_quote free split
      obtain ⟨whole, others, rfl, encodes⟩ := inductionHypothesis behind
      exact ⟨'\\' :: 'x' :: high :: low :: whole, _, rfl, .digits known encodes⟩

end Encodes

end Decoding

section Encoding

/-- The bytes of a digit in base sixteen. -/
theorem lowerHexValue?_hexDigit {value : Nat} (small : value < 16) :
    lowerHexValue? (Text.hexDigit value) = some value := by
  have all : ∀ value < 16, lowerHexValue? (Text.hexDigit value) = some value := by decide
  exact all value small

/-- The digits of a byte are those of the byte. -/
theorem byteOfDigits?_hex (byte : UInt8) :
    byteOfDigits? (Text.hexDigit (byte.toNat / 16)) (Text.hexDigit (byte.toNat % 16)) =
      some byte := by
  have small := byte.toNat_lt
  have high := @lowerHexValue?_hexDigit (byte.toNat / 16) (by omega)
  have low := @lowerHexValue?_hexDigit (byte.toNat % 16) (by omega)
  simp only [byteOfDigits?, high, low, Option.bind_eq_bind, Option.bind_some, Option.pure_def,
    Nat.div_add_mod, UInt8.ofNat_toNat]

/-- An escaped byte stands for the byte. -/
theorem encodes_escapeByte (byte : UInt8) : Encodes (escapeByte byte) [byte] := by
  rcases escapeByte_cases byte with
    ⟨c, short, known⟩ | ⟨c, plain, encoded, -, noQuote, noBackslash⟩ | digits
  · rw [short]
    exact .short known .nil
  · have encodes := Encodes.plain noQuote noBackslash .nil
    rwa [plain, ← List.append_nil [byte], ← encoded]
  · rw [digits, hex_byte]
    exact .digits (byteOfDigits?_hex byte) .nil

/-- Escaped bytes are decoded as these bytes. -/
theorem unescape_flatMap (bytes : List UInt8) :
    unescape (bytes.flatMap escapeByte) = some bytes := by
  induction bytes with
  | nil => rfl
  | cons byte bytes inductionHypothesis =>
      rw [List.flatMap_cons, (encodes_escapeByte byte).unescape_append, inductionHypothesis]
      rfl

/-- The character of a short escape is printable. -/
theorem printable_of_escapedByte? {c : Char} {byte : UInt8} (known : escapedByte? c = some byte) :
    0x20 ≤ c.toNat ∧ c.toNat ≤ 0x7e := by
  have visible : ∀ d ∈ ['n', 'r', 't', '\\', '"', '\''], 0x20 ≤ d.toNat ∧ d.toNat ≤ 0x7e := by
    simp
  have among : c ∈ ['n', 'r', 't', '\\', '"', '\''] := by grind [escapedByte?]
  exact visible c among

/-- An escaped byte is made up of printable characters. -/
theorem printable_escapeByte {byte : UInt8} :
    ∀ c ∈ escapeByte byte, 0x20 ≤ c.toNat ∧ c.toNat ≤ 0x7e := by
  have small := byte.toNat_lt
  rcases escapeByte_cases byte with ⟨c, short, known⟩ | ⟨c, plain, -, visible, -⟩ | digits
  · simp [short, printable_of_escapedByte? known]
  · simp [plain, visible]
  · have high := @Text.printable_hexDigit (byte.toNat / 16) (by omega)
    have low := @Text.printable_hexDigit (byte.toNat % 16) (by omega)
    simp [digits, hex_byte, high, low]

end Encoding

/-- Escaping a text is faithful, whatever the text. It gives printable characters of ASCII, has no
quote but behind the backslash of an escape, and does not end in an escape. Decoding gives back the
bytes of the text, so different texts are written differently, and texts one behind the other are
escaped one by one. -/
theorem escape_faithful :
    (∀ text, ∀ c ∈ escape text, 0x20 ≤ c.toNat ∧ c.toNat ≤ 0x7e) ∧
    (∀ text front rest, escape text = front ++ '"' :: rest →
      ∃ whole, front = whole ++ ['\\'] ∧ (unescape whole).isSome) ∧
    (∀ text, ¬ EndsInEscape (escape text)) ∧
    (∀ text, unescape (escape text) = some (Text.utf8 text)) ∧
    Function.Injective escape ∧
    ∀ left right, escape (left ++ right) = escape left ++ escape right := by
  have decoded : ∀ text, unescape (escape text) = some (Text.utf8 text) :=
    fun text => unescape_flatMap (Text.utf8 text)
  refine ⟨fun text c member => ?_, fun text front rest split => ?_, fun text => ?_, decoded, ?_,
    escape_append⟩
  · obtain ⟨byte, -, inside⟩ := List.mem_flatMap.1 member
    exact printable_escapeByte c inside
  · obtain ⟨whole, others, before, encodes⟩ := (encodes_of_unescape (decoded text)).quote split
    exact ⟨whole, before, Option.isSome_iff_exists.2 ⟨others, encodes.unescape_eq⟩⟩
  · exact (encodes_of_unescape (decoded text)).not_endsInEscape
  · intro first second same
    have bytes := congrArg unescape same
    rw [decoded, decoded] at bytes
    exact Text.utf8_inj.1 (Option.some.inj bytes)

/-- A quote behind a backslash: both are escaped, and the backslash in front of the quote begins its
escape. -/
theorem escape_faithful_quote :
    escape "\\\"".toList = ['\\', '\\', '\\'] ++ '"' :: [] ∧
      ∃ whole, ['\\', '\\', '\\'] = whole ++ ['\\'] ∧ (unescape whole).isSome := by
  have split : escape "\\\"".toList = ['\\', '\\', '\\'] ++ '"' :: [] := by decide
  exact ⟨split, escape_faithful.2.1 _ _ _ split⟩

end EditorData.ZigSource
