import EditorData.Proofs.Text.Digits
import EditorData.Proofs.Text.Lines
import EditorData.ZigSource.VersionData

/-!
# Scanning Zig source

The part of Zig that version data is written in, from characters to tokens: words, marks,
string literals with escapes, and the lines of multiline strings; blanks and comments stand
for nothing. The scanner goes from character to character, so what matters of a text is where
it leads the scanner (`Scans`), and a text that leads from between two tokens to between two
tokens spells the tokens in between (`Spells`), whatever stands around it.

A string literal ends at its first quote that is not escaped, and a line of a multiline string
at its line feed. What `literal` writes spells one token, and what `multiline` writes one for
each line, whatever the content.
-/

namespace EditorData.ZigSource

/-- A token of the source. -/
inductive Token where
  | word (name : Text)
  | mark (character : Char)
  /-- A string literal, by the bytes that it stands for. -/
  | literal (bytes : List UInt8)
  /-- A line of a multiline string, without its two backslashes. -/
  | line (content : Text)
deriving DecidableEq, Repr

/-- What the scanner is in the middle of. What has been read of it is kept with the last
character or byte first. -/
inductive Scanning where
  | nothing
  | word (begun : Text)
  /-- Behind a slash that begins a comment. -/
  | slash
  | comment
  /-- Behind the first backslash of a line. -/
  | backslash
  | line (begun : Text)
  | literal (begun : List UInt8)
  /-- Behind the backslash of an escape. -/
  | escape (begun : List UInt8)
  | firstDigit (begun : List UInt8)
  | secondDigit (begun : List UInt8) (high : Nat)
deriving DecidableEq, Repr

/-- The scanner between two characters, with the tokens read so far, the last one first. -/
structure Scanner where
  scanning : Scanning
  tokens : List Token
deriving DecidableEq, Repr

/-- Whether a character is blank. -/
def isBlank (c : Char) : Bool :=
  c == ' ' || c == '\n' || c == '\t' || c == '\r'

/-- Whether a character may stand in a word. -/
def isWordChar (c : Char) : Bool :=
  c.isAlphanum || c == '_'

/-- The byte that a character stands for behind a backslash. -/
def escapedByte? (c : Char) : Option UInt8 :=
  if c = 'n' then some 10
  else if c = 'r' then some 13
  else if c = 't' then some 9
  else if c = '\\' then some 92
  else if c = '"' then some 34
  else if c = '\'' then some 39
  else none

namespace Scanner

/-- In front of the source. -/
def start : Scanner :=
  ⟨.nothing, []⟩

/-- Read a character that does not continue a token. -/
def turn (tokens : List Token) (c : Char) : Option Scanner :=
  if isBlank c then some ⟨.nothing, tokens⟩
  else if c = '"' then some ⟨.literal [], tokens⟩
  else if c = '\\' then some ⟨.backslash, tokens⟩
  else if c = '/' then some ⟨.slash, tokens⟩
  else if isWordChar c then some ⟨.word [c], tokens⟩
  else some ⟨.nothing, .mark c :: tokens⟩

/-- Read a character. -/
def step (scanner : Scanner) (c : Char) : Option Scanner :=
  let tokens := scanner.tokens
  match scanner.scanning with
  | .nothing => turn tokens c
  | .word begun =>
      if isWordChar c then some ⟨.word (c :: begun), tokens⟩
      else turn (.word begun.reverse :: tokens) c
  | .slash => if c = '/' then some ⟨.comment, tokens⟩ else none
  | .comment => some ⟨if c = '\n' then .nothing else .comment, tokens⟩
  | .backslash => if c = '\\' then some ⟨.line [], tokens⟩ else none
  | .line begun =>
      if c = '\n' then some ⟨.nothing, .line begun.reverse :: tokens⟩
      else some ⟨.line (c :: begun), tokens⟩
  | .literal begun =>
      if c = '"' then some ⟨.nothing, .literal begun.reverse :: tokens⟩
      else if c = '\\' then some ⟨.escape begun, tokens⟩
      else if c = '\n' then none
      else some ⟨.literal ((String.utf8EncodeChar c).reverse ++ begun), tokens⟩
  | .escape begun =>
      if c = 'x' then some ⟨.firstDigit begun, tokens⟩
      else (escapedByte? c).map fun byte => ⟨.literal (byte :: begun), tokens⟩
  | .firstDigit begun =>
      (Text.hexValue? c).map fun high => ⟨.secondDigit begun high, tokens⟩
  | .secondDigit begun high =>
      (Text.hexValue? c).map fun low => ⟨.literal (UInt8.ofNat (16 * high + low) :: begun), tokens⟩

/-- The tokens at the end of the source. Neither a literal nor an escape may be open there. -/
def finish (scanner : Scanner) : Option (List Token) :=
  match scanner.scanning with
  | .nothing | .comment => some scanner.tokens.reverse
  | .word begun => some (.word begun.reverse :: scanner.tokens).reverse
  | .line begun => some (.line begun.reverse :: scanner.tokens).reverse
  | _ => none

/-- The text leads the scanner from one state to another. -/
def Scans (before : Scanner) (text : Text) (after : Scanner) : Prop :=
  text.foldlM step before = some after

end Scanner

/-- The tokens of a source. -/
def scan (text : Text) : Option (List Token) :=
  (text.foldlM Scanner.step .start).bind Scanner.finish

open Scanner (Scans)

namespace Scanner.Scans

variable {before middle after : Scanner} {tokens : List Token} {begun : List UInt8}

/-- No text leads nowhere. -/
theorem nil : Scans before [] before := rfl

/-- A first character, and the text behind it. -/
theorem cons {c : Char} {text : Text} (stepped : before.step c = some middle)
    (later : Scans middle text after) : Scans before (c :: text) after := by
  rw [Scans, List.foldlM_cons, stepped]
  exact later

/-- Texts one behind the other. -/
theorem append {left right : Text} (first : Scans before left middle)
    (second : Scans middle right after) : Scans before (left ++ right) after := by
  rw [Scans, List.foldlM_append, first]
  exact second

/-- A comment goes on to the end of its line. -/
theorem comment {text : Text} (oneLine : '\n' ∉ text) :
    Scans ⟨.comment, tokens⟩ text ⟨.comment, tokens⟩ := by
  induction text with
  | nil => exact nil
  | cons c text inductionHypothesis =>
      obtain ⟨differs, later⟩ := not_or.1 fun either => oneLine (List.mem_cons.2 either)
      refine cons ?_ (inductionHypothesis later)
      simp [Scanner.step, Ne.symm differs]

/-- A line of a multiline string goes on to the end of its line. -/
theorem lineText {text begun : Text} (oneLine : '\n' ∉ text) :
    Scans ⟨.line begun, tokens⟩ text ⟨.line (text.reverse ++ begun), tokens⟩ := by
  induction text generalizing begun with
  | nil => exact nil
  | cons c text inductionHypothesis =>
      obtain ⟨differs, later⟩ := not_or.1 fun either => oneLine (List.mem_cons.2 either)
      rw [List.reverse_cons, List.append_assoc]
      exact cons (if_neg (Ne.symm differs)) (inductionHypothesis later)

end Scanner.Scans

/-- The digits of a byte in base sixteen. -/
theorem hex_byte (byte : UInt8) :
    Text.hex 2 byte.toNat = [Text.hexDigit (byte.toNat / 16), Text.hexDigit (byte.toNat % 16)] := by
  have small := byte.toNat_lt
  have high : byte.toNat / 16 % 16 = byte.toNat / 16 := by omega
  simp [Text.hex, high]

/-- The character with the code of a printable byte. -/
theorem printable_ofNat {byte : UInt8} (visible : 0x20 ≤ byte.toNat ∧ byte.toNat ≤ 0x7e) :
    (Char.ofNat byte.toNat).toNat = byte.toNat ∧
      String.utf8EncodeChar (Char.ofNat byte.toNat) = [byte] := by
  have value : (Char.ofNat byte.toNat).toNat = byte.toNat :=
    Text.toNat_ofNat (by omega)
  refine ⟨value, ?_⟩
  rw [String.utf8EncodeChar, Char.toNat_val, value, if_pos (by omega), UInt8.ofNat_toNat]

/-- How a byte is written in a literal: with a short escape, as the printable character that it is,
or by its digits. -/
theorem escapeByte_cases (byte : UInt8) :
    (∃ c, escapeByte byte = ['\\', c] ∧ escapedByte? c = some byte) ∨
      (∃ c, escapeByte byte = [c] ∧ String.utf8EncodeChar c = [byte] ∧
        (0x20 ≤ c.toNat ∧ c.toNat ≤ 0x7e) ∧ c ≠ '"' ∧ c ≠ '\\') ∨
      escapeByte byte = '\\' :: 'x' :: Text.hex 2 byte.toNat := by
  have known : ∀ {value : Nat}, byte.toNat = value → some (UInt8.ofNat value) = some byte :=
    fun same => congrArg some (same ▸ UInt8.ofNat_toNat)
  unfold escapeByte
  dsimp only
  split
  · next code => exact .inl ⟨_, rfl, known code⟩
  split
  · next code => exact .inl ⟨_, rfl, known code⟩
  split
  · next code => exact .inl ⟨_, rfl, known code⟩
  split
  · next noBackslash code => exact .inl ⟨_, rfl, known code⟩
  split
  · next code => exact .inl ⟨_, rfl, known code⟩
  split
  · next code => exact .inl ⟨_, rfl, known code⟩
  split
  · next noBackslash noQuote _ visible =>
      obtain ⟨value, encoded⟩ := printable_ofNat visible
      have shown : 0x20 ≤ (Char.ofNat byte.toNat).toNat ∧ (Char.ofNat byte.toNat).toNat ≤ 0x7e := by
        rwa [value]
      refine .inr (.inl ⟨_, rfl, encoded, shown, fun same => noQuote ?_,
        fun same => noBackslash ?_⟩)
      all_goals
        rw [same] at value
        exact value.symm
  · exact .inr (.inr rfl)

namespace Scanner.Scans

variable {before middle after : Scanner} {tokens : List Token} {begun : List UInt8}

/-- A short escape in a literal is scanned as its byte. -/
theorem shortEscape {c : Char} {byte : UInt8} (known : escapedByte? c = some byte) :
    Scans ⟨.literal begun, tokens⟩ ['\\', c] ⟨.literal (byte :: begun), tokens⟩ := by
  have short : c ≠ 'x' := by
    rintro rfl
    cases known
  refine cons rfl (cons ?_ nil)
  simp [Scanner.step, short, known]

/-- An escape by digits in a literal is scanned as the byte with that value. -/
theorem digitEscape (byte : UInt8) :
    Scans ⟨.literal begun, tokens⟩ ('\\' :: 'x' :: Text.hex 2 byte.toNat)
      ⟨.literal (byte :: begun), tokens⟩ := by
  have small := byte.toNat_lt
  have value : UInt8.ofNat (16 * (byte.toNat / 16) + byte.toNat % 16) = byte := by
    rw [Nat.div_add_mod]
    exact UInt8.ofNat_toNat
  have first : Scanner.step ⟨.firstDigit begun, tokens⟩ (Text.hexDigit (byte.toNat / 16)) =
      some ⟨.secondDigit begun (byte.toNat / 16), tokens⟩ := by
    have half : byte.toNat / 16 < 16 := by omega
    have read := Text.hexValue?_hexDigit half
    simp [Scanner.step, read]
  have second : Scanner.step ⟨.secondDigit begun (byte.toNat / 16), tokens⟩
      (Text.hexDigit (byte.toNat % 16)) = some ⟨.literal (byte :: begun), tokens⟩ := by
    have half : byte.toNat % 16 < 16 := by omega
    have read := Text.hexValue?_hexDigit half
    simp only [Scanner.step, read, Option.map_some, value]
  rw [hex_byte]
  exact cons rfl (cons rfl (cons first (cons second nil)))

/-- A character in a literal is scanned as its bytes, unless it ends the literal or its line, or
begins an escape. -/
theorem character {c : Char} (noQuote : c ≠ '"') (noBackslash : c ≠ '\\') (noFeed : c ≠ '\n') :
    Scans ⟨.literal begun, tokens⟩ [c]
      ⟨.literal ((String.utf8EncodeChar c).reverse ++ begun), tokens⟩ := by
  refine cons ?_ nil
  simp [Scanner.step, noQuote, noBackslash, noFeed]

/-- A byte in a literal is scanned as that byte. -/
theorem escapeByte (byte : UInt8) :
    Scans ⟨.literal begun, tokens⟩ (escapeByte byte) ⟨.literal (byte :: begun), tokens⟩ := by
  rcases escapeByte_cases byte with
    ⟨c, short, known⟩ | ⟨c, plain, encoded, visible, noQuote, noBackslash⟩ | digits
  · rw [short]
    exact shortEscape known
  · have noFeed : c ≠ '\n' := by
      rintro rfl
      exact absurd visible.1 (by decide)
    have scans := @character tokens begun c noQuote noBackslash noFeed
    rw [encoded] at scans
    rw [plain]
    exact scans
  · rw [digits]
    exact digitEscape byte

/-- The bytes of a text in a literal are scanned as those bytes. -/
theorem escape (text : Text) :
    Scans ⟨.literal begun, tokens⟩ (escape text)
      ⟨.literal ((Text.utf8 text).reverse ++ begun), tokens⟩ := by
  unfold ZigSource.escape
  generalize Text.utf8 text = bytes
  induction bytes generalizing begun with
  | nil => exact nil
  | cons byte bytes inductionHypothesis =>
      have whole := (escapeByte byte).append (@inductionHypothesis (byte :: begun))
      simpa using whole

end Scanner.Scans

/-- The text stands for the tokens, whatever has been read in front of it. -/
def Spells (text : Text) (found : List Token) : Prop :=
  ∀ tokens, Scans ⟨.nothing, tokens⟩ text ⟨.nothing, found.reverse ++ tokens⟩

namespace Spells

variable {text left right : Text} {found first second : List Token}

/-- No text stands for no tokens. -/
theorem nil : Spells [] [] := fun _ => .nil

/-- Texts one behind the other stand for their tokens in this order. -/
theorem append (front : Spells left first) (back : Spells right second) :
    Spells (left ++ right) (first ++ second) := by
  intro tokens
  rw [List.reverse_append, List.append_assoc]
  exact (front tokens).append (back (first.reverse ++ tokens))

/-- Spaces stand for nothing. -/
theorem spaces (count : Nat) : Spells (List.replicate count ' ') [] := by
  intro tokens
  induction count with
  | zero => exact .nil
  | succ count inductionHypothesis => exact .cons rfl inductionHypothesis

/-- A line of the source stands for the tokens of its content. -/
theorem inLine (indent : Nat) (content : Spells text found) : Spells (line indent text) found := by
  have feed : Spells ['\n'] [] := fun _ => .cons rfl .nil
  have whole := ((spaces indent).append content).append feed
  rwa [List.nil_append, List.append_nil] at whole

/-- A comment stands for nothing. -/
theorem comment (oneLine : '\n' ∉ text) : Spells ("//".toList ++ text ++ ['\n']) [] := by
  intro tokens
  have slashes : Scans ⟨.nothing, tokens⟩ "//".toList ⟨.comment, tokens⟩ := rfl
  exact (slashes.append (.comment oneLine)).append (.cons rfl .nil)

/-- A literal stands for one token, with the bytes of its text. -/
theorem literal (text : Text) : Spells (literal text) [.literal (Text.utf8 text)] := by
  intro tokens
  have inside := @Scans.escape tokens [] text
  rw [List.append_nil] at inside
  refine .cons rfl (inside.append (.cons ?_ .nil))
  simp [Scanner.step]

/-- A line of a multiline string stands for one token, whatever stands in it. -/
theorem stringLine (indent : Nat) (oneLine : '\n' ∉ text) :
    Spells (line indent ('\\' :: '\\' :: text)) [.line text] := by
  intro tokens
  have inside := @Scans.lineText tokens text [] oneLine
  have ended : Scanner.step ⟨.line text.reverse, tokens⟩ '\n' =
      some ⟨.nothing, .line text.reverse.reverse :: tokens⟩ := rfl
  rw [List.append_nil] at inside
  rw [List.reverse_reverse] at ended
  rw [line, List.append_assoc]
  exact (spaces indent tokens).append
    (.cons rfl (.cons rfl (inside.append (.cons ended .nil))))

/-- A multiline string stands for its lines, without the spaces at their ends. -/
theorem multiline (indent : Nat) (text : Text) :
    Spells (multiline indent text)
      (((Text.lines text).map (Text.trimEnd (· == ' '))).map .line) := by
  have oneLine : ∀ part ∈ Text.lines text, '\n' ∉ Text.trimEnd (· == ' ') part := by
    intro part member inside
    exact Text.separator_not_mem_part member ((Text.trimEnd_prefix _ part).mem inside)
  unfold ZigSource.multiline
  generalize Text.lines text = parts at oneLine
  induction parts with
  | nil => exact nil
  | cons part parts inductionHypothesis =>
      have first := stringLine indent (oneLine part List.mem_cons_self)
      exact first.append (inductionHypothesis fun other member =>
        oneLine other (List.mem_cons_of_mem part member))

/-- The tokens of a source are those that it spells. -/
theorem scan_eq (spells : Spells text found) : scan text = some found := by
  have whole : text.foldlM Scanner.step .start = some ⟨.nothing, found.reverse ++ []⟩ := spells []
  rw [scan, whole]
  simp [Scanner.finish]

end Spells

end EditorData.ZigSource
