import EditorData.Directive.Lexer

/-!
# A lexer with a movable cursor

A cursor reads tokens from any position of a document and may be placed anywhere between
two readings, also behind the end of the document. A negative position counts from the end;
what is read from there goes on with the whole document. Once the cursor has read the final
token it reads nothing more from within the document.
-/

namespace EditorData.Directive

/-- A document, the position to read from, and where the lexer stands there. -/
structure Cursor where
  document : Text
  index : Int
  mode : Mode
deriving DecidableEq, Repr

/-- A token by its kind, the positions between which it has been read, and the text there. -/
structure Stretch where
  kind : TokenKind
  start : Int
  stop : Int
  text : Text
deriving DecidableEq, Repr

namespace Cursor

/-- Why a cursor reads nothing. -/
inductive Fault where
  /-- The final token has been read, and the cursor was moved back into the document. -/
  | spent
  /-- The position is farther from the end than the document is long. -/
  | outside
deriving DecidableEq, Repr

/-- The wording of a fault. -/
def Fault.message : Fault -> Text
  | .spent => "tokenizer advanced past end of buffer".toList
  | .outside => "string index out of range".toList

/-- The cursor in front of a document. -/
def start (document : Text) : Cursor :=
  ⟨document, 0, .outside⟩

/-- The cursor placed at a position. -/
def moveTo (cursor : Cursor) (index : Int) : Cursor :=
  { cursor with index }

/-- Whether the position counts from the end by more than the document has. -/
def isOutside (cursor : Cursor) : Bool :=
  cursor.index < 0 && cursor.index + cursor.document.length < 0

/-- Whether the final token has been read and the cursor was moved back into the
document, where it cannot go on. -/
def isSpent (cursor : Cursor) : Bool :=
  cursor.mode = .finished && cursor.index < cursor.document.length

/-- Why the cursor reads nothing, if so. -/
def fault? (cursor : Cursor) : Option Fault :=
  if cursor.isOutside then some .outside
  else if cursor.isSpent then some .spent
  else none

/-- The offset that a position stands for, counted from the front. -/
def offset (cursor : Cursor) (position : Int) : Nat :=
  (if position < 0 then position + cursor.document.length else position).toNat

/-- The text from the cursor on. -/
def remaining (cursor : Cursor) : Text :=
  cursor.document.drop (cursor.offset cursor.index) ++
    if cursor.index < 0 then cursor.document else []

/-- The text between two positions of the document. -/
def slice (cursor : Cursor) (start stop : Int) : Text :=
  (cursor.document.drop (cursor.offset start)).take (cursor.offset stop - cursor.offset start)

/-- A token of the remaining text as it lies in the document. From a negative position on, its
text is what lies between the offsets of its two positions. -/
def stretch (cursor : Cursor) (token : Token) : Stretch :=
  let start := cursor.index + token.start
  let stop := cursor.index + token.stop
  ⟨token.kind, start, stop, if start < 0 then cursor.slice start stop else token.lexeme⟩

/-- Read one token. -/
def next (cursor : Cursor) : Except Fault (Stretch × Cursor) :=
  match cursor.fault? with
  | some fault => .error fault
  | none =>
      let lexed := Directive.next cursor.mode cursor.remaining
      let read := cursor.stretch ⟨lexed.kind, 0, lexed.lexeme⟩
      .ok (read, { cursor with index := read.stop, mode := lexed.mode })

/-- Read the tokens up to and including the final one. -/
def drain (cursor : Cursor) : Except Fault (List Stretch × Cursor) :=
  match cursor.fault? with
  | some fault => .error fault
  | none =>
      .ok ((tokensFrom cursor.mode 0 cursor.remaining).map cursor.stretch,
        { cursor with
          index := cursor.index + cursor.remaining.length
          mode := .finished })

/-- A position from the front of a document on is not outside. -/
theorem isOutside_eq_false {cursor : Cursor} (inFront : 0 ≤ cursor.index) :
    cursor.isOutside = false := by
  simp only [isOutside, Bool.and_eq_false_iff, decide_eq_false_iff_not]
  omega

/-- From the front of a document on, the cursor reads nothing exactly when it is spent. -/
theorem next_eq_error_iff {cursor : Cursor} (inFront : 0 ≤ cursor.index) {fault : Fault} :
    cursor.next = .error fault ↔ fault = .spent ∧ cursor.isSpent = true := by
  unfold next fault?
  rw [isOutside_eq_false inFront]
  by_cases spent : cursor.isSpent = true
  · simp [spent, eq_comm]
  · simp [spent]

end Cursor

end EditorData.Directive
