import EditorData.Directive.Cursor
import EditorData.Proofs.Directive.FirstToken
import Mathlib.Data.List.Chain

/-!
# Reading a document to its end

A cursor that is read again and again gives the tokens of its document and then the end of
the document for ever. What one reading keeps is that a finished lexer has nothing left in
front of it (`Ready`), and that the cursor stands behind the characters it has read
(`Cursor.next_between`). The tokens tile the document: each begins where the one before it
ended, and none but the last is final or empty (`Tokenizes.tiling`).
-/

namespace EditorData.Directive

/-- A finished lexer has nothing left in front of it. -/
def Ready (mode : Mode) (text : Text) : Prop :=
  mode = .finished -> text = []

/-- A lexer that is ready stays so when it splits off a token. -/
theorem FirstToken.ready {mode : Mode} {text : Text} {lexed : Lexed}
    (first : FirstToken mode text lexed) (ready : Ready mode text) :
    Ready lexed.mode lexed.rest := by
  intro finished
  cases first with
  | finish => rfl
  | lastContent => rfl
  | unterminated => rfl
  | ended => exact ready rfl
  | _ => cases finished

/-- The final token takes a lexer that is ready to the end of its text. -/
theorem FirstToken.ends {mode : Mode} {text : Text} {lexed : Lexed}
    (first : FirstToken mode text lexed) (ready : Ready mode text)
    (final : lexed.kind.isFinal = true) : lexed.mode = .finished ∧ lexed.rest = [] := by
  cases first with
  | finish => exact ⟨rfl, rfl⟩
  | unterminated => exact ⟨rfl, rfl⟩
  | ended => exact ⟨rfl, ready rfl⟩
  | _ => cases final

/-- Tokens that follow each other from an offset on, cover a text, and end with the first
final one among them. -/
inductive Tiling : Nat -> List Token -> Text -> Prop where
  | last {token : Token} (final : token.kind.isFinal = true) :
      Tiling token.start [token] token.lexeme
  | more {token : Token} {tokens : List Token} {text : Text}
      (more : token.kind.isFinal = false) (notEmpty : token.lexeme ≠ [])
      (others : Tiling token.stop tokens text) :
      Tiling token.start (token :: tokens) (token.lexeme ++ text)

/-- The tokens that are split off a text by a lexer which is ready tile that text. -/
theorem Tokenizes.tiling {mode : Mode} {offset : Nat} {text : Text} {tokens : List Token}
    (tokenizes : Tokenizes mode offset text tokens) (ready : Ready mode text) :
    Tiling offset tokens text := by
  induction tokenizes with
  | @final _ offset _ lexed first final =>
      have tiling := @Tiling.last ⟨lexed.kind, offset, lexed.lexeme⟩ final
      have whole := first.lexeme_append_rest
      rw [(first.ends ready final).2, List.append_nil] at whole
      exact whole ▸ tiling
  | @more _ offset _ lexed _ first more _ inductionHypothesis =>
      have tiling := @Tiling.more ⟨lexed.kind, offset, lexed.lexeme⟩ _ _ more
        (first.lexeme_ne_nil more) (inductionHypothesis (first.ready ready))
      rwa [first.lexeme_append_rest] at tiling

/-- The tokens of a document tile it. -/
theorem tiling_tokens (document : Text) : Tiling 0 (tokens document) document :=
  (tokenizes_tokens document).tiling nofun

namespace Tiling

variable {offset : Nat} {tokens : List Token} {text : Text}

/-- The first token begins at the offset. -/
theorem head (tiling : Tiling offset tokens text) :
    tokens.head?.map Token.start = some offset := by
  cases tiling with
  | last => rfl
  | more => rfl

/-- Every token begins where the one before it ended. -/
theorem contiguous (tiling : Tiling offset tokens text) :
    tokens.IsChain fun token following => following.start = token.stop := by
  induction tiling with
  | last => exact .singleton _
  | @more token tokens _ _ _ others inductionHypothesis =>
      generalize begins : token.stop = offset at others
      cases others with
      | last => exact .cons_cons begins.symm inductionHypothesis
      | more => exact .cons_cons begins.symm inductionHypothesis

/-- The tokens one behind the other are the text. -/
theorem flatten (tiling : Tiling offset tokens text) :
    (tokens.map Token.lexeme).flatten = text := by
  induction tiling with
  | last => simp
  | more _ _ _ inductionHypothesis => simp [inductionHypothesis]

/-- There are no more tokens than characters, but for the last one. -/
theorem length_le (tiling : Tiling offset tokens text) : tokens.length ≤ text.length + 1 := by
  induction tiling with
  | last => simp
  | more _ notEmpty _ inductionHypothesis =>
      have positive := List.length_pos_iff.2 notEmpty
      simp only [List.length_cons, List.length_append]
      omega

/-- The last token is the only final one and ends where the text ends; all others have
characters. -/
theorem split (tiling : Tiling offset tokens text) :
    ∃ front last, tokens = front ++ [last] ∧ last.kind.isFinal = true ∧
      last.stop = offset + text.length ∧
      ∀ token ∈ front, token.kind.isFinal = false ∧ token.lexeme ≠ [] := by
  induction tiling with
  | @last token final => exact ⟨[], token, rfl, final, rfl, by simp⟩
  | @more token _ _ more notEmpty _ inductionHypothesis =>
      obtain ⟨front, last, rfl, final, stops, others⟩ := inductionHypothesis
      refine ⟨token :: front, last, rfl, final, ?_, ?_⟩
      · rw [stops, Token.stop, List.length_append, Nat.add_assoc]
      · intro other member
        rcases List.mem_cons.1 member with rfl | member
        · exact ⟨more, notEmpty⟩
        · exact others other member

/-- A token has the characters that the text has between its two offsets. -/
theorem lexeme_eq (tiling : Tiling offset tokens text) {token : Token} (member : token ∈ tokens) :
    offset ≤ token.start ∧
      (text.drop (token.start - offset)).take token.lexeme.length = token.lexeme := by
  induction tiling with
  | last =>
      obtain rfl := List.mem_singleton.1 member
      simp
  | @more first _ _ _ _ _ inductionHypothesis =>
      rcases List.mem_cons.1 member with rfl | later
      · simp
      · obtain ⟨behind, taken⟩ := inductionHypothesis later
        rw [Token.stop] at behind taken
        have shift : token.start - first.start =
            first.lexeme.length + (token.start - (first.start + first.lexeme.length)) := by
          omega
        refine ⟨by omega, ?_⟩
        rwa [shift, List.drop_length_add_append]

end Tiling

/-- A token as a cursor gives it. -/
def Token.toStretch (token : Token) : Stretch :=
  ⟨token.kind, token.start, token.stop, token.lexeme⟩

/-- What a cursor gives, as a token. -/
def Stretch.toToken (stretch : Stretch) : Token :=
  ⟨stretch.kind, stretch.start.toNat, stretch.text⟩

@[simp] theorem Token.toToken_toStretch (token : Token) : token.toStretch.toToken = token :=
  rfl

namespace Cursor

/-- Read a number of tokens, one after the other. -/
def reads : Nat -> Cursor -> Except Fault (List Stretch × Cursor)
  | 0, cursor => .ok ([], cursor)
  | count + 1, cursor =>
      match cursor.next with
      | .error fault => .error fault
      | .ok (token, after) => (reads count after).map (Prod.map (token :: ·) id)

/-- The cursor with one text behind it and another in front of it. -/
def between (before rest : Text) (mode : Mode) : Cursor :=
  ⟨before ++ rest, before.length, mode⟩

/-- The cursor behind everything. -/
def ended (document : Text) : Cursor :=
  between document [] .finished

/-- What a cursor gives at the end of the document. -/
def ending (document : Text) : Stretch :=
  ⟨.finish, document.length, document.length, []⟩

variable {before rest : Text} {mode : Mode}

/-- A cursor whose lexer is ready has no fault. -/
theorem fault?_between (ready : Ready mode rest) : (between before rest mode).fault? = none := by
  have inside : (between before rest mode).isOutside = false :=
    isOutside_eq_false (Int.natCast_nonneg before.length)
  have unspent : (between before rest mode).isSpent = false := by
    by_cases finished : mode = .finished
    · simp [isSpent, between, ready finished]
    · simp [isSpent, between, finished]
  simp [fault?, inside, unspent]

/-- What lies in front of a cursor is what it reads. -/
theorem remaining_between : (between before rest mode).remaining = rest := by
  have forward : ¬ (before.length : Int) < 0 := by omega
  simp [remaining, offset, between, forward]

/-- A reading gives the first token of what lies in front of the cursor and puts the cursor
behind it. -/
theorem next_between (ready : Ready mode rest) :
    (between before rest mode).next =
      .ok (Token.toStretch ⟨(Directive.next mode rest).kind, before.length,
          (Directive.next mode rest).lexeme⟩,
        between (before ++ (Directive.next mode rest).lexeme) (Directive.next mode rest).rest
          (Directive.next mode rest).mode) := by
  have forward : ¬ (before.length : Int) < 0 := by omega
  have whole := Lexed.lexeme_append_rest mode rest
  rw [next, fault?_between ready, remaining_between]
  simp [stretch, between, Token.toStretch, Token.stop, forward, whole]

/-- Read as often as there are tokens in front of it, a cursor gives these and stands at the
end of the document. -/
theorem reads_between {offset : Nat} {tokens : List Token}
    (tokenizes : Tokenizes mode offset rest tokens) (ready : Ready mode rest)
    (begins : before.length = offset) :
    (between before rest mode).reads tokens.length =
      .ok (tokens.map Token.toStretch, ended (before ++ rest)) := by
  induction tokenizes generalizing before with
  | final first final =>
      obtain ⟨finished, nothing⟩ := first.ends ready final
      have whole := first.lexeme_append_rest
      rw [nothing, List.append_nil] at whole
      rw [List.length_singleton, reads, next_between ready, next_of_firstToken first]
      simp [reads, Except.map, finished, nothing, whole, ended, begins]
  | @more _ _ _ lexed _ first _ _ inductionHypothesis =>
      have others := @inductionHypothesis (before ++ lexed.lexeme) (first.ready ready)
        (by rw [List.length_append, begins])
      rw [List.append_assoc, first.lexeme_append_rest] at others
      rw [List.length_cons, reads, next_between ready, next_of_firstToken first]
      simp [others, Except.map, begins]

/-- Readings can be put one behind the other. -/
theorem reads_add (cursor : Cursor) (first second : Nat) :
    cursor.reads (first + second) =
      (cursor.reads first).bind fun (front, middle) =>
        (middle.reads second).map (Prod.map (front ++ ·) id) := by
  induction first generalizing cursor with
  | zero =>
      rw [Nat.zero_add, reads]
      cases only : cursor.reads second with
      | error => simp [only, Except.bind, Except.map]
      | ok => simp [only, Except.bind, Except.map, Prod.map]
  | succ first inductionHypothesis =>
      rw [Nat.add_right_comm, reads, reads]
      cases cursor.next with
      | error => rfl
      | ok found =>
          obtain ⟨token, after⟩ := found
          simp only [inductionHypothesis]
          cases after.reads first with
          | error => rfl
          | ok found =>
              cases continued : found.2.reads second with
              | error => simp [continued, Except.bind, Except.map]
              | ok => simp [continued, Except.bind, Except.map, Prod.map]

/-- What fewer readings give comes first in what more of them give. -/
theorem exists_reads_of_le {cursor last : Cursor} {first count : Nat} {all : List Stretch}
    (fewer : first ≤ count) (read : cursor.reads count = .ok (all, last)) :
    ∃ front middle, cursor.reads first = .ok (front, middle) ∧ front <+: all := by
  obtain ⟨second, rfl⟩ := Nat.exists_eq_add_of_le fewer
  rw [reads_add] at read
  cases begun : cursor.reads first with
  | error => simp [begun, Except.bind] at read
  | ok found =>
      obtain ⟨front, middle⟩ := found
      simp only [begun, Except.bind] at read
      cases continued : middle.reads second with
      | error => simp [continued, Except.map] at read
      | ok found =>
          simp only [continued, Except.map, Except.ok.injEq] at read
          obtain ⟨rfl, rfl⟩ := Prod.mk.inj read
          exact ⟨front, middle, rfl, List.prefix_append front found.1⟩

/-- At the end of the document every further reading gives the end once more. -/
theorem reads_ended (document : Text) (count : Nat) :
    (ended document).reads count =
      .ok (List.replicate count (ending document), ended document) := by
  have read : (ended document).next = .ok (ending document, ended document) := by
    rw [ended, next_between fun _ => rfl]
    simp [Directive.next, Token.toStretch, Token.stop, ending]
  induction count with
  | zero => rfl
  | succ count inductionHypothesis =>
      rw [reads, read]
      simp [inductionHypothesis, Except.map, List.replicate_succ]

/-- A fresh cursor gives the tokens of its document and then, for ever, its end. -/
theorem reads_start (document : Text) (count : Nat) :
    (start document).reads ((tokens document).length + count) =
      .ok ((tokens document).map Token.toStretch ++ List.replicate count (ending document),
        ended document) := by
  have read : (start document).reads (tokens document).length =
      .ok ((tokens document).map Token.toStretch, ended document) :=
    reads_between (tokenizes_tokens document) nofun (@List.length_nil Char)
  rw [reads_add, read]
  simp [Except.bind, reads_ended, Except.map]

/-- Draining a fresh cursor gives the tokens of its document. -/
theorem drain_start (document : Text) :
    (start document).drain =
      .ok ((tokens document).map Token.toStretch, ended document) := by
  have sound : (start document).fault? = none :=
    @fault?_between [] document .outside nofun
  have all : (start document).remaining = document :=
    @remaining_between [] document .outside
  have whole : (start document).stretch = Token.toStretch := by
    funext token
    have forward : ¬ (token.start : Int) < 0 := by omega
    simp [stretch, start, Token.toStretch, forward]
  rw [drain, sound, all, whole]
  simp [start, ended, between, tokens]

end Cursor

/-- Reading a document loses nothing. A fresh cursor, read token after token, comes to an end:
of the tokens it gives the last one and no other is final, the first begins at the front,
each begins where the one before it ended, the last ends where the document ends, and those
before it are not empty, so that their characters one behind the other are the document.
From then on every reading gives the end of the document, and however often the cursor is
read, an unterminated directive is reported at most once. -/
theorem reads_lossless (document : Text) :
    (Cursor.start document).reads (tokens document).length =
        .ok ((tokens document).map Token.toStretch, Cursor.ended document) ∧
      (Cursor.start document).drain =
        .ok ((tokens document).map Token.toStretch, Cursor.ended document) ∧
      (∃ front last, tokens document = front ++ [last] ∧ last.kind.isFinal = true ∧
        last.stop = document.length ∧
        ∀ token ∈ front, token.kind.isFinal = false ∧ token.lexeme ≠ []) ∧
      (tokens document).head?.map Token.start = some 0 ∧
      (tokens document).IsChain (fun token following => following.start = token.stop) ∧
      (∀ token ∈ tokens document,
        (document.drop token.start).take (token.stop - token.start) = token.lexeme) ∧
      ((tokens document).map Token.lexeme).flatten = document ∧
      (∀ count, (Cursor.ended document).reads count =
        .ok (List.replicate count (Cursor.ending document), Cursor.ended document)) ∧
      ∀ count, ∃ read after, (Cursor.start document).reads count = .ok (read, after) ∧
        (read.map Stretch.kind).count .unterminated ≤ 1 := by
  have tiling : Tiling 0 (tokens document) document :=
    (tokenizes_tokensFrom .outside 0 document).tiling nofun
  obtain ⟨front, last, all, final, stops, others⟩ := tiling.split
  refine ⟨by simpa using Cursor.reads_start document 0, Cursor.drain_start document,
    ⟨front, last, all, final, by simpa using stops, others⟩, tiling.head, tiling.contiguous, ?_,
    tiling.flatten, Cursor.reads_ended document, ?_⟩
  · intro token member
    simpa [Token.stop] using (tiling.lexeme_eq member).2
  · intro count
    obtain ⟨read, after, begun, first⟩ := Cursor.exists_reads_of_le
      (Nat.le_add_left count (tokens document).length) (Cursor.reads_start document count)
    refine ⟨read, after, begun, ?_⟩
    have bound := (first.sublist.map Stretch.kind).count_le .unterminated
    have none : (front.map fun token => token.toStretch.kind).count .unterminated = 0 := by
      rw [List.count_eq_zero]
      intro member
      obtain ⟨token, inFront, same⟩ := List.mem_map.1 member
      have more := (others token inFront).1
      rw [show token.kind = .unterminated from same] at more
      cases more
    have once : ([last].map fun token => token.toStretch.kind).count .unterminated ≤ 1 :=
      List.count_le_length
    have afterwards : (List.replicate count (Cursor.ending document).kind).count
        .unterminated = 0 := by
      rw [List.count_replicate]
      rfl
    simp only [all, List.map_append, List.map_map, Function.comp_def, List.count_append,
      List.map_replicate] at bound
    omega

end EditorData.Directive
