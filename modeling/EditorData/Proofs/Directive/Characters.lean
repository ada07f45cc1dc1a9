import EditorData.Proofs.Directive.Iteration

/-!
# The lexer, one character at a time

A lexer that sees one character at a time has to remember more than one that sees the text ahead:
whether it stands behind a brace that may open a directive, or behind a hash that may close one
(`Stand`). It learns that a token is over from a character which no longer belongs to it, or from
the one behind that, and then goes back to the border. Such a scanner does what the cursor does,
token by token and from every position (`Scanner.next_on`). So between two tokens it is never
behind a brace or a hash, and it never goes back past the start of a token, wherever it is placed
between them (`scanner_orderly`).
-/

namespace EditorData.Directive

/-- Where the lexer stands between two characters. -/
inductive Stand where
  | outside
  /-- Outside of a directive, behind a brace that may open one. -/
  | brace
  | inside
  /-- Inside of a directive, behind a hash that may close it. -/
  | hash
  | finished
deriving DecidableEq, Repr

/-- Where the lexer stands between two tokens. -/
@[simp] def Mode.stand : Mode -> Stand
  | .outside => .outside
  | .inside => .inside
  | .finished => .finished

/-- What a character does to the token in progress. -/
inductive Turn where
  /-- It belongs to the token, or may do so. -/
  | goesOn (kind : TokenKind) (stand : Stand)
  /-- It shows that the token ends, as far from its position as given. -/
  | ends (kind : TokenKind) (stand : Stand) (distance : Int)
  /-- No character may follow the final token. -/
  | refuses
deriving DecidableEq, Repr

/-- Look at one character. The pending kind is that of the characters in front of it, and the end
of the document if there are none. -/
def Stand.turn (pending : TokenKind) (c : Char) : Stand -> Turn
  | .outside => if c = '{' then .goesOn pending .brace else .goesOn .content .outside
  | .brace =>
      if c = '#' then
        if pending = .finish then .ends .opening .inside 1 else .ends pending .outside (-1)
      else .goesOn .content .outside
  | .inside =>
      if c = '|' then
        if pending = .finish then .ends .separator .inside 1 else .ends pending .inside 0
      else if c = '#' then .goesOn pending .hash
      else .goesOn .segment .inside
  | .hash =>
      if c = '}' then
        if pending = .finish then .ends .closing .outside 1 else .ends pending .inside (-1)
      else .goesOn .segment .inside
  | .finished => .refuses

/-- The kind of a token that goes up to the end of the document. -/
@[simp] def Stand.last (pending : TokenKind) : Stand -> TokenKind
  | .inside | .hash => .unterminated
  | .brace => .content
  | .outside | .finished => pending

/-- A lexer in a document, in front of the character at a position. -/
structure Scanner where
  document : Text
  index : Int
  stand : Stand
deriving DecidableEq, Repr

/-- A token by its kind and the positions between which it has been read. -/
structure Span where
  kind : TokenKind
  start : Int
  stop : Int
deriving DecidableEq, Repr

/-- The positions of what a cursor gives. -/
def Stretch.span (stretch : Stretch) : Span :=
  ⟨stretch.kind, stretch.start, stretch.stop⟩

namespace Scanner

/-- The scanner in front of a document. -/
def start (document : Text) : Scanner :=
  ⟨document, 0, .outside⟩

/-- The scanner that stands at the position of a cursor. -/
def on (cursor : Cursor) (stand : Stand) : Scanner :=
  ⟨cursor.document, cursor.index, stand⟩

/-- The character at the position. A negative position counts from the end. -/
def char? (scanner : Scanner) : Option Char :=
  let index :=
    if scanner.index < 0 then scanner.index + scanner.document.length else scanner.index
  if index < 0 then none else scanner.document[index.toNat]?

/-- Read characters up to the end of a token. -/
def scan (pending : TokenKind) (scanner : Scanner) : Except Cursor.Fault TokenKind × Scanner :=
  if _before : scanner.index < scanner.document.length then
    match scanner.char? with
    | none => (.error .outside, scanner)
    | some c =>
        match scanner.stand.turn pending c with
        | .goesOn kind stand =>
            scan kind { scanner with index := scanner.index + 1, stand }
        | .ends kind stand distance =>
            (.ok kind, { scanner with index := scanner.index + distance, stand })
        | .refuses => (.error .spent, scanner)
  else (.ok (scanner.stand.last pending), { scanner with stand := .finished })
termination_by (scanner.document.length - scanner.index).toNat

/-- Read one token. -/
def next (scanner : Scanner) : Except Cursor.Fault Span × Scanner :=
  let (read, after) := scanner.scan .finish
  (read.map fun kind => ⟨kind, scanner.index, after.index⟩, after)

end Scanner

/-- What is done with a lexer whose position can be moved. -/
inductive Action where
  | read
  | place (index : Nat)
deriving DecidableEq, Repr

/-- The scanner behind an action. -/
def Scanner.perform (scanner : Scanner) : Action -> Scanner
  | .read => scanner.next.2
  | .place index => { scanner with index }

/-- The cursor behind an action. -/
def Cursor.perform (cursor : Cursor) : Action -> Cursor
  | .read =>
      match cursor.next with
      | .error _ => cursor
      | .ok (_, after) => after
  | .place index => cursor.moveTo index

/-- The scanner behind actions that begin in front of a document. -/
def Scanner.behind (document : Text) (actions : List Action) : Scanner :=
  actions.foldl Scanner.perform (.start document)

/-- The cursor behind actions that begin in front of a document. -/
def Cursor.behind (document : Text) (actions : List Action) : Cursor :=
  actions.foldl Cursor.perform (.start document)

/-- The final token has been read, and there is text ahead nevertheless. -/
def Scanner.IsSpent (scanner : Scanner) : Prop :=
  scanner.stand = .finished ∧ scanner.index < scanner.document.length

/-- What a reading gives, and the scanner behind it. A scanner that is spent reads nothing and
stays where it is. Any other reads from its position up to where it goes on, and only a final
token can be empty, which takes it to the end. -/
def Scanner.Reads (scanner : Scanner) : Except Cursor.Fault Span -> Scanner -> Prop
  | .error fault, after => scanner.IsSpent ∧ fault = .spent ∧ after = scanner
  | .ok span, after =>
      ¬ scanner.IsSpent ∧ span.start = scanner.index ∧ span.stop = after.index ∧
        span.start ≤ span.stop ∧ (span.kind.isFinal = false -> span.start < span.stop) ∧
        (span.kind.isFinal = true ->
          scanner.document.length ≤ after.index ∧ after.stand = .finished)

/-- The cursor has this text in front of it. -/
structure Cursor.Faces (cursor : Cursor) (text : Text) : Prop where
  within : cursor.isOutside = false
  ahead : cursor.remaining = text

namespace Cursor

variable {cursor : Cursor} {c : Char} {text rest : Text}

/-- The cursor further on. -/
def onward (cursor : Cursor) (distance : Int) : Cursor :=
  cursor.moveTo (cursor.index + distance)

@[simp] theorem onward_onward (first second : Int) :
    (cursor.onward first).onward second = cursor.onward (first + second) := by
  simp [onward, moveTo, Int.add_assoc]

@[simp] theorem onward_zero : cursor.onward 0 = cursor := by
  simp [onward, moveTo]

/-- A position is within the document unless it counts from the end by more than there is. -/
theorem isOutside_eq_false_iff :
    cursor.isOutside = false ↔ 0 ≤ cursor.index + cursor.document.length := by
  simp only [isOutside, Bool.and_eq_false_iff, decide_eq_false_iff_not]
  omega

/-- From a position of the document a cursor reads on. -/
theorem remaining_of_nonneg (forward : 0 ≤ cursor.index) :
    cursor.remaining = cursor.document.drop cursor.index.toNat := by
  simp [remaining, offset, Int.not_lt.2 forward]

/-- From a position that counts from the end a cursor reads on with the whole document. -/
theorem remaining_of_neg (backward : cursor.index < 0) :
    cursor.remaining =
      cursor.document.drop (cursor.index + cursor.document.length).toNat ++ cursor.document := by
  simp [remaining, offset, backward]

/-- In front of the end of its document a cursor that is within it sees a character, and faces the
rest behind it. -/
theorem exists_char (within : cursor.isOutside = false)
    (before : cursor.index < cursor.document.length) (stand : Stand) :
    ∃ c rest, (Scanner.on cursor stand).char? = some c ∧ cursor.remaining = c :: rest ∧
      (cursor.onward 1).Faces rest := by
  have bound := isOutside_eq_false_iff.1 within
  have further : (cursor.onward 1).isOutside = false := by
    refine isOutside_eq_false_iff.2 ?_
    simp only [onward, moveTo]
    omega
  obtain ⟨document, index, mode⟩ := cursor
  simp only at bound before
  simp only [onward, moveTo] at further ⊢
  by_cases backward : index < 0
  · obtain ⟨place, same⟩ := Int.eq_ofNat_of_zero_le (show 0 ≤ index + document.length by omega)
    have inside : place < document.length := by omega
    refine ⟨document[place], document.drop (place + 1) ++ document, ?_, ?_, further, ?_⟩
    · simp [Scanner.char?, Scanner.on, backward, same, inside]
    · rw [remaining_of_neg backward, same, Int.toNat_natCast, List.drop_eq_getElem_cons inside,
        List.cons_append]
    · by_cases last : index + 1 < 0
      · have next : index + 1 + document.length = (place + 1 : Nat) := by omega
        rw [remaining_of_neg last, next, Int.toNat_natCast]
      · have ended : document.length ≤ place + 1 := by omega
        rw [remaining_of_nonneg (Int.not_lt.1 last), List.drop_eq_nil_of_le ended]
        simp [show index + 1 = 0 by omega]
  · obtain ⟨place, rfl⟩ := Int.eq_ofNat_of_zero_le (Int.not_lt.1 backward)
    have inside : place < document.length := by omega
    refine ⟨document[place], document.drop (place + 1), ?_, ?_, further, ?_⟩
    · simp [Scanner.char?, Scanner.on, backward, inside]
    · rw [remaining_of_nonneg (Int.not_lt.1 backward), Int.toNat_natCast,
        List.drop_eq_getElem_cons inside]
    · exact remaining_of_nonneg (by simp; omega)

/-- At the end of its document, or behind it, a cursor faces nothing. -/
theorem remaining_of_le (behind : cursor.document.length ≤ cursor.index) :
    cursor.remaining = [] := by
  rw [remaining_of_nonneg (by omega), List.drop_eq_nil_of_le (by omega)]

/-- A cursor whose lexer is not spent is ready for what remains of its document. -/
theorem ready_of_unspent (unspent : cursor.isSpent = false) :
    Ready cursor.mode cursor.remaining := by
  intro finished
  refine remaining_of_le ?_
  simpa [isSpent, finished] using unspent

end Cursor

namespace Scanner

variable {cursor : Cursor} {stand : Stand} {pending : TokenKind} {c : Char} {text rest : Text}

/-- What a character that is ahead does to the scan. -/
theorem scan_cons (stand : Stand) (pending : TokenKind) (faces : cursor.Faces (c :: rest)) :
    (on cursor stand).scan pending =
        (match stand.turn pending c with
          | .goesOn kind next => (on (cursor.onward 1) next).scan kind
          | .ends kind next distance => (.ok kind, on (cursor.onward distance) next)
          | .refuses => (.error .spent, on cursor stand)) ∧
      (cursor.onward 1).Faces rest := by
  have before : (on cursor stand).index < (on cursor stand).document.length := by
    by_contra behind
    have nothing := Cursor.remaining_of_le (Int.not_lt.1 behind)
    rw [faces.ahead] at nothing
    cases nothing
  obtain ⟨_, _, seen, ahead, further⟩ := Cursor.exists_char faces.within before stand
  obtain ⟨rfl, rfl⟩ := List.cons.inj (faces.ahead.symm.trans ahead)
  refine ⟨?_, further⟩
  rw [scan, dif_pos before, seen]
  rfl

/-- At the end of the document the token ends. -/
theorem scan_nil (faces : cursor.Faces []) :
    (on cursor stand).scan pending = (.ok (stand.last pending), on cursor .finished) := by
  have behind : ¬ (on cursor stand).index < (on cursor stand).document.length := by
    intro before
    obtain ⟨_, _, _, ahead, _⟩ := Cursor.exists_char faces.within before stand
    rw [faces.ahead] at ahead
    cases ahead
  rw [scan, dif_neg behind]
  rfl

/-- A character that may belong to the token is passed over. -/
theorem scan_goesOn {kind : TokenKind} {next : Stand} (stand : Stand)
    (faces : cursor.Faces (c :: rest)) (turn : stand.turn pending c = .goesOn kind next) :
    (on cursor stand).scan pending = (on (cursor.onward 1) next).scan kind ∧
      (cursor.onward 1).Faces rest := by
  obtain ⟨scanned, further⟩ := scan_cons stand pending faces
  rw [turn] at scanned
  exact ⟨scanned, further⟩

/-- A character may show that the token ends. -/
theorem scan_ends {kind : TokenKind} {next : Stand} {distance : Int}
    (faces : cursor.Faces (c :: rest)) (turn : stand.turn pending c = .ends kind next distance) :
    (on cursor stand).scan pending = (.ok kind, on (cursor.onward distance) next) := by
  rw [(scan_cons stand pending faces).1, turn]

/-- Running text and the text of a segment are passed over, and so is what of them can only be
told behind a further character. -/
theorem scan_spelled {alone paired : Char -> Prop} {mark : Char} {kind : TokenKind} (held : Stand)
    (single : ∀ pending c, alone c -> stand.turn pending c = .goesOn kind stand)
    (marked : ∀ pending, stand.turn pending mark = .goesOn pending held)
    (joined : ∀ pending c, paired c -> held.turn pending c = .goesOn kind stand)
    (spelled : Spelled alone mark paired text) (faces : cursor.Faces (text ++ rest)) :
    (on cursor stand).scan pending =
        (on (cursor.onward text.length) stand).scan (if text = [] then pending else kind) ∧
      (cursor.onward text.length).Faces rest := by
  induction spelled generalizing cursor pending with
  | nil => simpa using faces
  | @single c text stands _ inductionHypothesis =>
      obtain ⟨begun, further⟩ := scan_goesOn stand faces (single pending c stands)
      obtain ⟨scanned, behind⟩ := @inductionHypothesis _ kind further
      have passed : 1 + (text.length : Int) = (c :: text).length := by grind
      rw [Cursor.onward_onward, passed] at scanned behind
      refine ⟨?_, behind⟩
      rw [begun, scanned]
      simp
  | @pair c text joins _ inductionHypothesis =>
      obtain ⟨begun, further⟩ := scan_goesOn stand faces (marked pending)
      obtain ⟨continued, further⟩ := scan_goesOn held further (joined pending c joins)
      obtain ⟨scanned, behind⟩ := @inductionHypothesis _ kind further
      have passed : 1 + 1 + (text.length : Int) = (mark :: c :: text).length := by grind
      simp only [Cursor.onward_onward, passed] at scanned behind
      refine ⟨?_, behind⟩
      rw [begun, continued, Cursor.onward_onward, scanned]
      simp

/-- Running text is passed over outside of a directive. -/
theorem scan_prose (pending : TokenKind) (prose : Prose text)
    (faces : cursor.Faces (text ++ rest)) :
    (on cursor .outside).scan pending =
        (on (cursor.onward text.length) .outside).scan (if text = [] then pending else .content) ∧
      (cursor.onward text.length).Faces rest :=
  scan_spelled .brace
    (fun _ _ (stands : _ ≠ '{') => if_neg stands) (fun _ => rfl)
    (fun _ _ (joins : _ ≠ '#') => if_neg joins) prose faces

/-- The text of a segment is passed over inside of a directive. -/
theorem scan_argument (pending : TokenKind) (argument : Argument text)
    (faces : cursor.Faces (text ++ rest)) :
    (on cursor .inside).scan pending =
        (on (cursor.onward text.length) .inside).scan (if text = [] then pending else .segment) ∧
      (cursor.onward text.length).Faces rest :=
  scan_spelled .hash
    (fun _ _ stands => (if_neg stands.1).trans (if_neg stands.2)) (fun _ => rfl)
    (fun _ _ (joins : _ ≠ '}') => if_neg joins) argument faces

/-- The scanner reads the first token of the text that is ahead. -/
theorem scan_of_firstToken {mode : Mode} {lexed : Lexed} (first : FirstToken mode text lexed)
    (ready : Ready mode text) (faces : cursor.Faces text) :
    (on cursor mode.stand).scan .finish =
      (.ok lexed.kind, on (cursor.onward lexed.lexeme.length) lexed.mode.stand) := by
  cases first with simp only [Mode.stand]
  | finish =>
      rw [scan_nil faces]
      simp
  | opening rest =>
      obtain ⟨begun, further⟩ := scan_goesOn .outside faces rfl
      rw [begun, scan_ends further rfl]
      simp
  | content prose notEmpty rest =>
      -- the brace and the hash behind it show where the text ends
      obtain ⟨passed, further⟩ := scan_prose .finish prose faces
      obtain ⟨held, behind⟩ := scan_goesOn .outside further rfl
      rw [if_neg notEmpty] at passed
      rw [passed, held, scan_ends behind rfl, Cursor.onward_onward, Cursor.onward_onward]
      rfl
  | lastContent spelled notEmpty =>
      rcases spelled with prose | ⟨front, prose, rfl⟩
      · rw [← List.append_nil text] at faces
        obtain ⟨passed, ended⟩ := scan_prose .finish prose faces
        rw [if_neg notEmpty] at passed
        rw [passed, scan_nil ended]
        simp
      · obtain ⟨passed, further⟩ := scan_prose .finish prose faces
        obtain ⟨held, ended⟩ := scan_goesOn .outside further rfl
        rw [passed, held, scan_nil ended]
        simp
  | separator =>
      rw [scan_ends faces rfl]
      simp
  | closing =>
      obtain ⟨begun, further⟩ := scan_goesOn .inside faces rfl
      rw [begun, scan_ends further rfl]
      simp
  | segment argument notEmpty stops =>
      obtain ⟨passed, further⟩ := scan_argument .finish argument faces
      rw [if_neg notEmpty] at passed
      rcases stops with ⟨others, rfl⟩ | ⟨others, rfl⟩
      · rw [passed, scan_ends further rfl]
        simp
      · obtain ⟨held, behind⟩ := scan_goesOn .inside further rfl
        rw [passed, held, scan_ends behind rfl, Cursor.onward_onward, Cursor.onward_onward]
        rfl
  | unterminated spelled =>
      rcases spelled with argument | ⟨front, argument, rfl⟩
      · rw [← List.append_nil text] at faces
        obtain ⟨passed, ended⟩ := scan_argument .finish argument faces
        rw [passed, scan_nil ended]
        simp
      · obtain ⟨passed, further⟩ := scan_argument .finish argument faces
        obtain ⟨held, ended⟩ := scan_goesOn .inside further rfl
        rw [passed, held, scan_nil ended]
        simp
  | ended =>
      obtain rfl := ready rfl
      rw [scan_nil faces]
      simp

/-- The scanner that stands where a cursor stands reads what the cursor reads, and stands where
the cursor stands then. -/
theorem next_on (cursor : Cursor) :
    (on cursor cursor.mode.stand).next =
      match cursor.next with
      | .error fault => (.error fault, on cursor cursor.mode.stand)
      | .ok (read, after) => (.ok read.span, on after after.mode.stand) := by
  unfold Cursor.next Cursor.fault?
  by_cases outside : cursor.isOutside = true
  · have before : (on cursor cursor.mode.stand).index <
        (on cursor cursor.mode.stand).document.length := by
      simp only [Cursor.isOutside, Bool.and_eq_true, decide_eq_true_eq] at outside
      simp only [on]
      omega
    have unseen : (on cursor cursor.mode.stand).char? = none := by
      simp_all [Cursor.isOutside, char?, on]
    rw [next, scan, dif_pos before, unseen]
    simp [outside, Except.map]
  rw [Bool.not_eq_true] at outside
  by_cases spent : cursor.isSpent = true
  · simp only [Cursor.isSpent, Bool.and_eq_true, decide_eq_true_eq] at spent
    obtain ⟨c, rest, _, ahead, _⟩ := Cursor.exists_char outside spent.2 cursor.mode.stand
    have refused := (scan_cons cursor.mode.stand .finish ⟨outside, ahead⟩).1
    rw [next, refused]
    simp [outside, Cursor.isSpent, spent, Mode.stand, Stand.turn, Except.map]
  · have scanned := scan_of_firstToken (firstToken_next cursor.mode cursor.remaining)
      (Cursor.ready_of_unspent (by simpa using spent)) ⟨outside, rfl⟩
    rw [next, scanned]
    simp [outside, spent, Except.map, Cursor.stretch, Stretch.span, Token.stop, Cursor.onward,
      Cursor.moveTo, on]

/-- An action takes a scanner along with the cursor that it stands on. -/
theorem perform_on (cursor : Cursor) (action : Action) :
    (on cursor cursor.mode.stand).perform action =
      on (cursor.perform action) (cursor.perform action).mode.stand := by
  cases action with
  | place => rfl
  | read =>
      rw [perform, next_on, Cursor.perform]
      cases cursor.next with
      | error => rfl
      | ok => rfl

end Scanner

namespace Cursor

variable {cursor after : Cursor} {read : Stretch}

/-- What a cursor reads from the front of its document on begins at its position and ends where
it goes on. Only a final token can be empty, and it takes the cursor to the end. -/
theorem next_ok (inFront : 0 ≤ cursor.index) (succeeds : cursor.next = .ok (read, after)) :
    read.start = cursor.index ∧ read.stop = after.index ∧ read.start ≤ read.stop ∧
      (read.kind.isFinal = false -> read.start < read.stop) ∧
      (read.kind.isFinal = true ->
        cursor.document.length ≤ after.index ∧ after.mode = .finished) := by
  have unspent : cursor.isSpent = false := by
    by_contra spent
    rw [(next_eq_error_iff inFront).2 ⟨rfl, by simpa using spent⟩] at succeeds
    cases succeeds
  have ready := ready_of_unspent unspent
  have first := firstToken_next cursor.mode cursor.remaining
  have whole := first.lexeme_append_rest
  simp only [next, fault?, isOutside_eq_false inFront, unspent, Bool.false_eq_true, if_false,
    Except.ok.injEq, Prod.mk.injEq] at succeeds
  obtain ⟨rfl, rfl⟩ := succeeds
  simp only [stretch, Token.stop]
  refine ⟨by simp, trivial, by omega, ?_, ?_⟩
  · intro more
    have positive := List.length_pos_iff.2 (first.lexeme_ne_nil more)
    omega
  · intro final
    obtain ⟨finished, nothing⟩ := first.ends ready final
    rw [nothing, List.append_nil] at whole
    refine ⟨?_, finished⟩
    rw [whole, remaining_of_nonneg inFront, List.length_drop]
    omega

/-- No action takes a cursor in front of its document. -/
theorem perform_inFront (inFront : 0 ≤ cursor.index) (action : Action) :
    0 ≤ (cursor.perform action).index := by
  cases action with
  | place index => exact Int.natCast_nonneg index
  | read =>
      rw [perform]
      cases found : cursor.next with
      | error => exact inFront
      | ok pair =>
          obtain ⟨begins, ends, ordered, _⟩ := next_ok inFront found
          show 0 ≤ pair.2.index
          omega

/-- Behind any actions a cursor is not in front of its document. -/
theorem behind_inFront (document : Text) (actions : List Action) :
    0 ≤ (behind document actions).index := by
  suffices kept : ∀ cursor : Cursor, 0 ≤ cursor.index ->
      0 ≤ (actions.foldl perform cursor).index from kept (start document) (Int.le_refl 0)
  intro cursor inFront
  induction actions generalizing cursor with
  | nil => exact inFront
  | cons action _ inductionHypothesis =>
      exact inductionHypothesis (cursor.perform action) (perform_inFront inFront action)

end Cursor

namespace Scanner

/-- The scanner goes where the cursor goes. -/
theorem behind_eq (document : Text) (actions : List Action) :
    behind document actions =
      on (.behind document actions) (Cursor.behind document actions).mode.stand := by
  suffices kept : ∀ cursor : Cursor, actions.foldl perform (on cursor cursor.mode.stand) =
      on (actions.foldl Cursor.perform cursor) (actions.foldl Cursor.perform cursor).mode.stand from
    kept (.start document)
  intro cursor
  induction actions generalizing cursor with
  | nil => rfl
  | cons action _ inductionHypothesis =>
      rw [List.foldl_cons, perform_on, inductionHypothesis, List.foldl_cons]

/-- Where a cursor stands, a scanner is spent if the cursor is. -/
theorem isSpent_on (cursor : Cursor) :
    (on cursor cursor.mode.stand).IsSpent ↔ cursor.isSpent = true := by
  cases mode : cursor.mode <;> simp [IsSpent, on, Cursor.isSpent, mode, Mode.stand]

/-- How a scanner reads that stands where a cursor stands, if that is not in front of the
document. -/
theorem reads_on {cursor : Cursor} (inFront : 0 ≤ cursor.index) :
    (on cursor cursor.mode.stand).Reads (on cursor cursor.mode.stand).next.1
      (on cursor cursor.mode.stand).next.2 := by
  rw [next_on]
  cases found : cursor.next with
  | error fault =>
      obtain ⟨rfl, spent⟩ := (Cursor.next_eq_error_iff inFront).1 found
      exact ⟨(isSpent_on cursor).2 spent, rfl, rfl⟩
  | ok pair =>
      obtain ⟨begins, ends, ordered, some, final⟩ := Cursor.next_ok inFront found
      refine ⟨?_, begins, ends, ordered, some, fun last => ?_⟩
      · intro spent
        have failing := (Cursor.next_eq_error_iff inFront).2 ⟨rfl, (isSpent_on cursor).1 spent⟩
        rw [failing] at found
        cases found
      · obtain ⟨reached, finished⟩ := final last
        exact ⟨reached, congrArg Mode.stand finished⟩

end Scanner

/-- Wherever the lexer of a document is placed, and however often it reads in between, it stands
outside of a directive, inside of one, or behind the final token, and never behind a brace or a
hash that is still to be decided. It reads nothing exactly if it is spent, and stays where it is
then. What it reads begins at its position and ends where it goes on; every token but a final one
has characters, and a final one takes it to the end of the document or stands behind it. In all
of this it does what the cursor does. -/
theorem scanner_orderly (document : Text) (actions : List Action) :
    let scanner := Scanner.behind document actions
    let cursor := Cursor.behind document actions
    (scanner.stand = .outside ∨ scanner.stand = .inside ∨ scanner.stand = .finished) ∧
      scanner.Reads scanner.next.1 scanner.next.2 ∧
      scanner = .on cursor cursor.mode.stand ∧
      scanner.next.1 = cursor.next.map fun (read, _) => read.span := by
  intro scanner cursor
  have same : scanner = .on cursor cursor.mode.stand := Scanner.behind_eq document actions
  have inFront : 0 ≤ cursor.index := Cursor.behind_inFront document actions
  rw [same]
  refine ⟨?_, Scanner.reads_on inFront, rfl, ?_⟩
  · cases mode : cursor.mode <;> simp [Scanner.on, Mode.stand]
  · rw [Scanner.next_on]
    cases cursor.next with
    | error => rfl
    | ok => rfl

end EditorData.Directive
