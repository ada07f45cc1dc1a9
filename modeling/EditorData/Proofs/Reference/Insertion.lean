import EditorData.Proofs.Reference.Consumption
import EditorData.Proofs.Reference.Displacement
import EditorData.Proofs.Reference.Pairing

/-!
# Directives without a trace

A directive whose tag means nothing in the section is skipped wherever the machine waits for
running text or a directive, and it waits for the same behind it. So such a directive may be put
into a document at any place where the extraction waits for these, or into running text that it
reads there, as long as no brace loses its character (`Gap`). The extraction of the document comes
to the gap and reads the directive, and then it goes on as it did without it, further behind by
the length of the directive. Running text that has been divided is two fragments of a body and not
one, so the bodies are the same one behind the other only (`extract_insert`).
-/

namespace EditorData.Reference

open EditorData.Directive

/-- A place of a document where the extraction may be interrupted. -/
inductive Gap (scope : Scope) (document : Text) : Nat -> Prop where
  /-- In front of a token, where the extraction waits for running text or a directive. -/
  | between {front : List Token} {state : State} (reached : Reached scope document front state)
      (waits : state.awaiting = .item) : Gap scope document state.cursor
  /-- Within running text that the extraction reads there, but not behind a brace whose character
  is still to come. -/
  | within {front : List Token} {token : Token} {state next : State} {left right : Text}
      (reached : Reached scope document front state) (waits : state.awaiting = .item)
      (reads : Reached scope document (front ++ [token]) next) (content : token.kind = .content)
      (split : token.lexeme = left ++ right) (prose : Prose left) :
      Gap scope document (state.cursor + left.length)

/-- What an entry shows: its name, its signature, and its body, however that is divided. -/
def RawBuiltin.shown (builtin : RawBuiltin) : Text × Text × Text :=
  (builtin.name, builtin.signature, builtin.html)

/-- Two documentations with the same text. -/
def SameText (first second : List Text) : Prop :=
  second.flatten = first.flatten

/-- A scope goes together with itself if the documentations have the same text. -/
theorem pairing_sameText (scope : Scope) : Pairing scope scope SameText where
  anchor := rfl
  empty := rfl
  text fragment same := by
    rw [SameText] at same ⊢
    simp [same]
  link name target same := by
    rw [SameText] at same ⊢
    simp [same]

/-- An entry shows the same as another one whose documentation has the same text. -/
theorem RawBuiltin.Paired.shown_eq {first second : RawBuiltin}
    (paired : first.Paired SameText second) : second.shown = first.shown :=
  Prod.ext paired.name (Prod.ext paired.signature paired.documentation)

/-- Entries show the same as others whose documentations have the same text. -/
theorem shown_of_paired {first second : List RawBuiltin}
    (paired : List.Forall₂ (RawBuiltin.Paired SameText) first second) :
    second.map RawBuiltin.shown = first.map RawBuiltin.shown := by
  induction paired with
  | nil => rfl
  | cons both _ inductionHypothesis =>
      rw [List.map_cons, List.map_cons, both.shown_eq, inductionHypothesis]

section Steps

variable {scope : Scope} {state next : State} {token : Token}

/-- Behind a token the machine waits for running text or a directive only if the lexer stands
outside of every directive. -/
theorem State.modeBehind_of_item (advanced : state.advance scope token = .ok next)
    (waits : next.awaiting = .item) : token.kind.modeBehind = .outside := by
  obtain ⟨accepted, found, rfl⟩ := accepted_of_advance advanced
  unfold accept? at found
  split at found
  all_goals simp_all [TokenKind.modeBehind]
  case h_3 =>
    have inside := state.mode_enter token.lexeme
    rw [found, waits] at inside
    cases inside
  all_goals
    rw [← found] at waits
    cases waits

/-- In search of the end of a directive other tokens are passed over. -/
theorem State.advance_skip (waits : state.awaiting = .skip) (more : token.kind.isFinal = false)
    (other : token.kind ≠ .closing) :
    state.advance scope token = .ok (state.placed token.stop state.log) := by
  obtain ⟨kind, start, lexeme⟩ := token
  cases kind <;> simp_all [advance, misfit?, accept?, TokenKind.isFinal, placed]

end Steps

section Skipping

variable {scope : Scope} {state next : State} {mode : Mode} {offset : Nat} {text : Text}
  {lexed : Lexed}

/-- A run reads the first token of the text that is ahead. -/
theorem run_of_firstToken (first : FirstToken mode text lexed)
    (advanced : state.advance scope ⟨lexed.kind, offset, lexed.lexeme⟩ = .ok next)
    (going : next.awaiting ≠ .nothing) :
    run scope state (tokensFrom mode offset text) =
      run scope next (tokensFrom lexed.mode (offset + lexed.lexeme.length) lexed.rest) := by
  rw [tokensFrom_of_more offset first (State.isFinal_of_advance advanced), run, advanced]
  simp [going]

/-- In search of the end of a directive a run passes over the first token. -/
theorem run_skip (waits : state.awaiting = .skip) (first : FirstToken mode text lexed)
    (more : lexed.kind.isFinal = false) (other : lexed.kind ≠ .closing) :
    run scope state (tokensFrom mode offset text) =
      run scope (state.placed (offset + lexed.lexeme.length) state.log)
        (tokensFrom lexed.mode (offset + lexed.lexeme.length) lexed.rest) :=
  run_of_firstToken first (State.advance_skip waits more other) (by simp [waits])

/-- The arguments of a directive that is skipped are passed over, and then it ends. -/
theorem run_arguments (waits : state.awaiting = .skip) (arguments : List Word) (rest : Text)
    {stop : Nat} (length : stop = offset + (printArguments arguments).length + 2) :
    run scope state (tokensFrom .inside offset (printArguments arguments ++ '#' :: '}' :: rest)) =
      run scope ((state.await .item).placed stop state.log) (tokensFrom .outside stop rest) := by
  induction arguments generalizing state offset with
  | nil =>
      have advanced : state.advance scope ⟨.closing, offset, ['#', '}']⟩ =
          .ok ((state.await .item).placed stop state.log) := by
        simp [State.advance, State.misfit?, State.accept?, waits, State.placed, State.await,
          Token.stop, length, printArguments]
      rw [length] at advanced ⊢
      exact run_of_firstToken (.closing rest) advanced (by simp)
  | cons argument others inductionHypothesis =>
      obtain ⟨written, notEmpty, noBar, noHash⟩ := argument
      have bar := FirstToken.separator (written ++ (printArguments others ++ '#' :: '}' :: rest))
      have named := FirstToken.segment (.of_not_mem noBar noHash) notEmpty
        (endsSegment_arguments others rest)
      have whole :
          printArguments (⟨written, notEmpty, noBar, noHash⟩ :: others) ++ '#' :: '}' :: rest =
            '|' :: (written ++ (printArguments others ++ '#' :: '}' :: rest)) := by
        simp [printArguments]
      rw [whole, run_skip waits bar rfl (by simp), run_skip (by exact waits) named rfl (by simp),
        inductionHypothesis (by exact waits)]
      · rfl
      · rw [length]
        simp [printArguments]
        omega

/-- A directive whose tag means nothing moves the machine behind it, and does nothing else. -/
theorem run_unhandled (waits : state.awaiting = .item) {tag : Word}
    (unhandled : tag.val ∉ handledTags) (arguments : List Word) (rest : Text) {stop : Nat}
    (length : stop = offset + (printDirective tag.val arguments).length) :
    run scope state (tokensFrom .outside offset (printDirective tag.val arguments ++ rest)) =
      run scope (state.placed stop state.log) (tokensFrom .outside stop rest) := by
  obtain ⟨name, notEmpty, noBar, noHash⟩ := tag
  have whole : printDirective name arguments ++ rest =
      '{' :: '#' :: (name ++ (printArguments arguments ++ '#' :: '}' :: rest)) := by
    simp [printDirective]
  have opened : state.advance scope ⟨.opening, offset, ['{', '#']⟩ =
      .ok ((state.await .tag).placed (offset + 2) state.log) := by
    simp only [State.advance, State.misfit?, State.accept?, waits]
    rfl
  have entered : ((state.await .tag).placed (offset + 2) state.log).advance scope
      ⟨.segment, offset + 2, name⟩ =
      .ok ((state.await .skip).placed (offset + 2 + name.length) state.log) := by
    simp only [State.advance, State.misfit?, State.accept?, State.placed_awaiting,
      State.await_awaiting, State.enter_of_unhandled _ unhandled]
    rfl
  have named := FirstToken.segment (.of_not_mem noBar noHash) notEmpty
    (endsSegment_arguments arguments rest)
  have stops : stop = offset + 2 + name.length + (printArguments arguments).length + 2 := by
    rw [length]
    simp [printDirective]
    omega
  have still : state.await .item = state := by
    rw [← waits]
    rfl
  calc run scope state (tokensFrom .outside offset (printDirective name arguments ++ rest))
      = run scope ((state.await .tag).placed (offset + 2) state.log)
          (tokensFrom .inside (offset + 2)
            (name ++ (printArguments arguments ++ '#' :: '}' :: rest))) := by
        rw [whole]
        exact run_of_firstToken (.opening _) opened (by simp)
    _ = run scope ((state.await .skip).placed (offset + 2 + name.length) state.log)
          (tokensFrom .inside (offset + 2 + name.length)
            (printArguments arguments ++ '#' :: '}' :: rest)) :=
        run_of_firstToken named entered (by simp)
    _ = run scope ((state.await .item).placed stop state.log) (tokensFrom .outside stop rest) :=
        run_arguments rfl arguments rest stops
    _ = run scope (state.placed stop state.log) (tokensFrom .outside stop rest) := by rw [still]

end Skipping

/-- The machine behind running text that it reads between two directives. -/
def State.readProse (state : State) (text : Text) : State :=
  { (if state.phase = .body then state.write text else state) with
    cursor := state.cursor + text.length }

section Prose

variable {scope : Scope} {state : State}

@[simp] theorem State.readProse_awaiting (text : Text) :
    (state.readProse text).awaiting = state.awaiting := by
  obtain ⟨phase, depth, ledger, awaiting, cursor, log⟩ := state
  cases phase <;> rfl

@[simp] theorem State.readProse_phase (text : Text) :
    (state.readProse text).phase = state.phase := by
  obtain ⟨phase, depth, ledger, awaiting, cursor, log⟩ := state
  cases phase <;> rfl

/-- Running text goes to the last entry if the machine is in its body. -/
theorem State.readProse_records (text : Text) :
    (state.readProse text).records =
      if state.phase = .body then state.records.modifyHead (·.append text) else state.records := by
  rw [← records_write]
  obtain ⟨phase, depth, ledger, awaiting, cursor, log⟩ := state
  cases phase <;> rfl

/-- Running text between two directives is read. -/
theorem State.advance_prose (waits : state.awaiting = .item) (text : Text) :
    state.advance scope ⟨.content, state.cursor, text⟩ = .ok (state.readProse text) := by
  simp [advance, misfit?, accept?, waits, Token.stop, readProse]

/-- Behind running text between two directives the machine waits for running text or a directive
again. -/
theorem State.waits_of_prose {token : Token} {next : State} (waits : state.awaiting = .item)
    (content : token.kind = .content) (advanced : state.advance scope token = .ok next) :
    next.awaiting = .item := by
  obtain ⟨accepted, found, rfl⟩ := accepted_of_advance advanced
  simp only [accept?, waits, content, Option.some.injEq] at found
  rw [← found]
  exact (state.readProse_awaiting token.lexeme).trans waits

/-- Entries go together with themselves. -/
theorem paired_refl (records : List RawBuiltin) :
    List.Forall₂ (RawBuiltin.Paired SameText) records records :=
  List.forall₂_same.2 fun _ _ => ⟨rfl, rfl, rfl⟩

/-- A machine is at the same point as itself. -/
theorem State.Paired.refl (state : State) : state.Paired SameText state :=
  ⟨rfl, rfl, rfl, rfl, rfl, paired_refl state.records⟩

/-- Running text may be read in two pieces. -/
theorem State.readProse_paired (state : State) (left right : Text) :
    (state.readProse (left ++ right)).Paired SameText
      ((state.readProse left).readProse right) := by
  have further : state.cursor + left.length + right.length =
      state.cursor + (left ++ right).length := by
    rw [List.length_append, Nat.add_assoc]
  have same : List.Forall₂ (RawBuiltin.Paired SameText) (state.readProse (left ++ right)).records
      ((state.readProse left).readProse right).records := by
    rw [readProse_records, readProse_records, readProse_records, readProse_phase]
    split
    · cases state.records with
      | nil => exact .nil
      | cons current earlier =>
          exact .cons ⟨rfl, rfl, by simp [SameText, RawBuiltin.append]⟩ (paired_refl earlier)
    · exact paired_refl state.records
  obtain ⟨phase, depth, ledger, awaiting, cursor, log⟩ := state
  cases phase <;> exact ⟨rfl, rfl, rfl, further, rfl, same⟩

end Prose

section Reached

variable {scope : Scope} {document : Text} {front rest : List Token} {state final : State}
  {token : Token}

/-- An extraction that returns goes on behind what it has reached. -/
theorem Reached.exists_next (reached : Reached scope document front state)
    (waits : state.awaiting ≠ .nothing) (returns : extract scope document = ⟨final, none⟩) :
    ∃ token rest next, tokens document = front ++ token :: rest ∧
      state.advance scope token = .ok next ∧ Reached scope document (front ++ [token]) next := by
  obtain ⟨rest, all⟩ := reached.begins
  rw [extract, ← all, run_append reached.read waits] at returns
  cases rest with
  | nil => simp [run] at returns
  | cons token rest =>
      cases advanced : state.advance scope token with
      | error fault => simp [run, advanced] at returns
      | ok next =>
          refine ⟨token, rest, next, all.symm, advanced, ⟨rest, by simp [← all]⟩, ?_⟩
          exact State.read_append.2 ⟨state, reached.read, State.read_singleton.2 advanced⟩

/-- Where the machine waits for running text or a directive, the lexer stands outside of every
directive. -/
theorem Reached.modeBehind_eq (reached : Reached scope document front state)
    (waits : state.awaiting = .item) : modeBehind .outside front = .outside := by
  cases front using List.reverseRecOn with
  | nil => rfl
  | append_singleton earlier last =>
      obtain ⟨before, upTo, read⟩ := reached.of_append
      rw [modeBehind_append]
      exact State.modeBehind_of_item (State.read_singleton.1 read) waits

/-- There the last token closes a directive, or it is running text that a directive follows. -/
theorem Reached.exists_behind (reached : Reached scope document front state)
    (waits : state.awaiting = .item) (all : tokens document = front ++ token :: rest)
    (more : token.kind.isFinal = false) :
    ∃ behind, document = textOf front ++ behind ∧
      Tokenizes .outside state.cursor behind (token :: rest) ∧
      ∀ last ∈ front.getLast?, last.kind = .closing ∨
        last.kind = .content ∧ Prose last.lexeme ∧ ¬ Prose token.lexeme := by
  have tokenizes := tokenizes_tokens document
  rw [all] at tokenizes
  obtain ⟨behind, whole, continued, ends⟩ := tokenizes.exists_behind more
  rw [reached.modeBehind_eq waits, Nat.zero_add, ← reached.cursor_eq] at continued
  refine ⟨behind, whole, continued, fun last member => ?_⟩
  have outside : last.kind.modeBehind = .outside := by
    have stands := reached.modeBehind_eq waits
    rwa [modeBehind, Option.mem_def.1 member] at stands
  have stops := ends last member []
  cases kind : last.kind with
  | closing => exact .inl rfl
  | content =>
      rw [kind, List.append_nil] at stops
      obtain ⟨prose, others, opens⟩ := stops
      refine .inr ⟨rfl, prose, ?_⟩
      rw [opens]
      rintro (_ | ⟨stands, _⟩ | ⟨joins, _⟩)
      · exact stands rfl
      · exact joins rfl
  | _ => simp [kind, TokenKind.modeBehind] at outside

end Reached

/-- The extraction of a document stands at a place of it and waits for running text or a directive.
It has come there with tokens that stay as they are in front of any directive, and if it goes on
from there with the text behind the place, it ends as it does with the whole document. -/
structure Pauses (scope : Scope) (document : Text) (place : Nat) (front : List Token)
    (state : State) : Prop where
  waits : state.awaiting = .item
  cursor : state.cursor = place
  read : State.initial.read scope front = .ok state
  stays : ∀ rest, tokens (document.take place ++ '{' :: '#' :: rest) =
    front ++ tokensFrom .outside place ('{' :: '#' :: rest)
  goesOn : (extract scope document).Paired SameText
    (run scope state (tokensFrom .outside place (document.drop place)))

section Gap

variable {scope : Scope} {document : Text} {front : List Token} {state next final : State}
  {token : Token} {place : Nat}

/-- The extraction pauses between two tokens where it waits for running text or a directive. -/
theorem Reached.pauses (reached : Reached scope document front state)
    (waits : state.awaiting = .item) (returns : extract scope document = ⟨final, none⟩) :
    Pauses scope document state.cursor front state := by
  obtain ⟨token, rest, next, all, advanced, _⟩ := reached.exists_next (by simp [waits]) returns
  obtain ⟨behind, whole, continued, ends⟩ :=
    reached.exists_behind waits all (State.isFinal_of_advance advanced)
  have tokenizes := tokenizes_tokens document
  rw [all] at tokenizes
  refine ⟨waits, rfl, reached.read, fun others => ?_, ?_⟩
  · have directive : ∀ last ∈ front.getLast?,
        EndsBefore last.kind last.lexeme ('{' :: '#' :: others) := by
      intro last member
      rcases ends last member with closes | ⟨content, prose, _⟩
      · simp [EndsBefore, closes]
      · simpa [EndsBefore, content] using prose
    have replaced := tokensFrom_replace tokenizes (by simp) directive
    rw [reached.modeBehind_eq waits, Nat.zero_add, ← reached.cursor_eq] at replaced
    rw [reached.take_cursor]
    exact replaced
  · have split : document.drop state.cursor = behind := by
      rw [whole, reached.cursor_eq, List.drop_left]
    rw [split, continued.tokensFrom_eq, extract, all, run_append reached.read (by simp [waits])]
    exact run_paired (pairing_sameText scope) (.refl state) (token :: rest)

/-- Running text that the extraction reads between two directives stands behind the end of a
directive, or in front of the whole document, and ends where another one opens. -/
theorem Reached.exists_directive (reached : Reached scope document front state)
    (waits : state.awaiting = .item) (reads : Reached scope document (front ++ [token]) next)
    (content : token.kind = .content) (returns : extract scope document = ⟨final, none⟩) :
    ∃ rest following, token.start = state.cursor ∧ Prose token.lexeme ∧
      document = textOf front ++ token.lexeme ++ '{' :: '#' :: rest ∧
      tokens document = front ++ token :: following ∧ following ≠ [] ∧
      tokensFrom .outside token.stop ('{' :: '#' :: rest) = following ∧
      ∀ last ∈ front.getLast?, last.kind = .closing := by
  have still := State.waits_of_prose waits content (reached.advance reads)
  obtain ⟨opening, others, _, all, onward, _⟩ := reads.exists_next (by simp [still]) returns
  have split : tokens document = front ++ token :: opening :: others := by simp [all]
  obtain ⟨behind, whole, continued, ends⟩ :=
    reached.exists_behind waits split (State.isFinal_of_advance (reached.advance reads))
  obtain ⟨rest, begins, same, legal, later⟩ :=
    continued.of_content content (State.isFinal_of_advance onward)
  refine ⟨rest, opening :: others, begins, legal, by simp [whole, same], split, by simp,
    later.tokensFrom_eq, fun last member => ?_⟩
  rcases ends last member with closes | ⟨_, _, illegal⟩
  · exact closes
  · exact absurd legal illegal

/-- The extraction pauses within running text that it reads there. -/
theorem Reached.pauses_within {left right : Text} (reached : Reached scope document front state)
    (waits : state.awaiting = .item) (reads : Reached scope document (front ++ [token]) next)
    (content : token.kind = .content) (split : token.lexeme = left ++ right) (prose : Prose left)
    (notEmpty : left ≠ []) (going : right ≠ []) (returns : extract scope document = ⟨final, none⟩) :
    Pauses scope document (state.cursor + left.length)
      (front ++ [⟨.content, state.cursor, left⟩]) (state.readProse left) := by
  have still := State.waits_of_prose waits content (reached.advance reads)
  obtain ⟨rest, following, begins, legal, whole, all, more, later, closes⟩ :=
    reached.exists_directive waits reads content returns
  obtain rfl : token = ⟨.content, state.cursor, left ++ right⟩ := by
    rw [← content, ← split, ← begins]
  have place : (textOf front ++ left).length = state.cursor + left.length := by
    rw [List.length_append, reached.cursor_eq]
  have cut : document = (textOf front ++ left) ++ (right ++ '{' :: '#' :: rest) := by
    simpa using whole
  have waitsWithin := (state.readProse_awaiting left).trans waits
  refine ⟨waitsWithin, rfl, State.read_append.2 ⟨state, reached.read,
    State.read_singleton.2 (State.advance_prose waits left)⟩, fun others => ?_, ?_⟩
  · have tokenizes := tokenizes_tokens document
    rw [all] at tokenizes
    have stops : ∀ last ∈ front.getLast?,
        EndsBefore last.kind last.lexeme (left ++ '{' :: '#' :: others) := by
      intro last member
      simp [EndsBefore, closes last member]
    have replaced := tokensFrom_replace tokenizes (by simp) stops
    rw [reached.modeBehind_eq waits, Nat.zero_add, ← reached.cursor_eq,
      tokensFrom_of_more _ (.content prose notEmpty others) rfl] at replaced
    rw [cut, ← place, List.take_left, List.append_assoc, tokens, replaced, place]
    simp
  · have readBoth : next = state.readProse (left ++ right) :=
      Except.ok.inj ((reached.advance reads).symm.trans (State.advance_prose waits (left ++ right)))
    have divided : Prose right := prose.of_append (by simp) legal
    have readRight : run scope (state.readProse left)
        (tokensFrom .outside (state.cursor + left.length) (right ++ '{' :: '#' :: rest)) =
          run scope ((state.readProse left).readProse right) following := by
      rw [← later, Token.stop, List.length_append, ← Nat.add_assoc]
      exact run_of_firstToken (.content divided going rest)
        (State.advance_prose waitsWithin right) (by simp [waits])
    have extracted : extract scope document = run scope next following := by
      rw [extract, all, List.append_cons, run_append reads.read (by simp [still])]
    rw [extracted, readBoth, cut, ← place, List.drop_left, place, readRight]
    exact run_paired (pairing_sameText scope) (state.readProse_paired left right) following

/-- The extraction pauses at every gap. -/
theorem Gap.exists_pauses (gap : Gap scope document place)
    (returns : extract scope document = ⟨final, none⟩) :
    ∃ front state, Pauses scope document place front state := by
  cases gap with
  | between reached waits => exact ⟨_, _, reached.pauses waits returns⟩
  | @within _ token state next left right reached waits reads content split prose =>
      by_cases atStart : left = []
      · subst atStart
        exact ⟨_, _, reached.pauses waits returns⟩
      by_cases atEnd : right = []
      · have still := State.waits_of_prose waits content (reached.advance reads)
        have stands : next.cursor = state.cursor + left.length := by
          rw [reads.cursor_eq, textOf_append, List.length_append, ← reached.cursor_eq]
          simp [split, atEnd]
        exact ⟨_, _, stands ▸ reads.pauses still returns⟩
      · exact ⟨_, _, reached.pauses_within waits reads content split prose atStart atEnd returns⟩

end Gap

/-- A directive whose tag means nothing in the section leaves no trace. If the extraction of a
document returns, it also returns when such a directive is put in at a gap, in the same part of the
document, with the same headers open, further behind by the length of the directive, and with
entries of the same names, signatures and bodies. -/
theorem extract_insert {scope : Scope} {document : Text} {state : State} {place : Nat} {tag : Word}
    (returns : extract scope document = ⟨state, none⟩) (unhandled : tag.val ∉ handledTags)
    (arguments : List Word) (gap : Gap scope document place) :
    ∃ after, extract scope
        (document.take place ++ printDirective tag.val arguments ++ document.drop place) =
          ⟨after, none⟩ ∧
      after.entries.map RawBuiltin.shown = state.entries.map RawBuiltin.shown ∧
      after.phase = state.phase ∧ after.depth = state.depth ∧
      after.cursor = state.cursor + (printDirective tag.val arguments).length := by
  obtain ⟨front, paused, pauses⟩ := gap.exists_pauses returns
  obtain ⟨rest, opens⟩ := opensDirective_print tag.val arguments (document.drop place)
  have onward : extract scope
      (document.take place ++ printDirective tag.val arguments ++ document.drop place) =
        run scope (paused.placed (place + (printDirective tag.val arguments).length) paused.log)
          (tokensFrom .outside (place + (printDirective tag.val arguments).length)
            (document.drop place)) := by
    rw [List.append_assoc, opens, extract, pauses.stays, run_append pauses.read (by
      simp [pauses.waits]), ← opens]
    exact run_unhandled pauses.waits unhandled arguments (document.drop place) rfl
  have behind : paused.MovedBy (printDirective tag.val arguments).length
      (paused.placed (place + (printDirective tag.val arguments).length) paused.log) :=
    ⟨rfl, rfl, rfl, rfl, by rw [pauses.cursor]; rfl⟩
  have moved := @run_movedBy scope _ _ _ behind (tokensFrom .outside place (document.drop place))
  have paired := pauses.goesOn
  -- what the extraction comes to without the directive stands between the two
  generalize run scope paused (tokensFrom .outside place (document.drop place)) = between
    at moved paired
  rw [← tokensFrom_shift, ← onward] at moved
  rw [returns] at paired
  generalize extract scope
    (document.take place ++ printDirective tag.val arguments ++ document.drop place) = outcome
    at moved ⊢
  obtain ⟨after, fault⟩ := outcome
  have succeeds : fault = none := moved.fault.trans (by rw [paired.fault]; rfl)
  refine ⟨after, by rw [succeeds], ?_, moved.state.phase.trans paired.state.phase,
    moved.state.depth.trans paired.state.depth, ?_⟩
  · have records : after.records = between.state.records := moved.state.records
    rw [State.entries, State.entries, List.map_reverse, List.map_reverse, records,
      shown_of_paired paired.state.records]
  · have cursor : after.cursor = between.state.cursor + _ := moved.state.cursor
    rw [cursor, paired.state.cursor]

/-- A section with one entry, the body of which is running text. -/
def proseBody : Markup where
  items := sectionItems
    (entryItems [.content ⟨"one two".toList, by decide, .of_not_mem (by decide)⟩])
  divided := by simp [sectionItems, entryItems, directiveOf, Item.Divided]

/-- The tokens of this section. -/
theorem tokens_proseBody : tokens proseBody.print = placed 0 proseBody.lexemes :=
  Lexes.items proseBody.divided 0

/-- The machine in this section, the title of which it has found. -/
def inProseBody (phase : Phase) (depth : Nat) (documentation : List Text) (awaiting : Awaiting)
    (cursor : Nat) : State :=
  ⟨phase, depth, .ofRecords [⟨"@a".toList, "@a()".toList, documentation⟩], awaiting, cursor,
    [⟨.debug, "Found 'Builtin Functions' section at offset 31".toList⟩]⟩

/-- The running text may be interrupted behind its first word. -/
theorem gap_proseBody : Gap firstScope proseBody.print 81 := by
  have begins (count : Nat) :
      (placed 0 proseBody.lexemes).take count <+: tokens proseBody.print := by
    rw [tokens_proseBody]
    exact List.take_prefix count _
  have reached : Reached firstScope proseBody.print ((placed 0 proseBody.lexemes).take 17)
      (inProseBody .body 2 [] .item 78) := ⟨begins 17, rfl⟩
  have reads : Reached firstScope proseBody.print
      ((placed 0 proseBody.lexemes).take 17 ++ [⟨.content, 78, "one two".toList⟩])
      (inProseBody .body 2 ["one two".toList] .item 85) := ⟨begins 18, rfl⟩
  have prose : Prose "one".toList := .of_not_mem (by decide)
  exact .within reached rfl reads rfl (show _ = "one".toList ++ " two".toList from rfl) prose

/-- A directive that interrupts the running text leaves no trace in its entry. -/
theorem proseBody_interrupted :
    extract firstScope proseBody.print =
        ⟨inProseBody .heading 0 ["one two".toList] .nothing 117, none⟩ ∧
      (word "see_also").val ∉ handledTags ∧ Gap firstScope proseBody.print 81 ∧
      ∃ after, extract firstScope
          (proseBody.print.take 81 ++ printDirective "see_also".toList [word "x"] ++
            proseBody.print.drop 81) = ⟨after, none⟩ ∧
        after.entries.map RawBuiltin.shown =
          [("@a".toList, "@a()".toList, "one two".toList)] ∧
        after.phase = .heading ∧ after.depth = 0 ∧ after.cursor = 131 := by
  have returns : extract firstScope proseBody.print =
      ⟨inProseBody .heading 0 ["one two".toList] .nothing 117, none⟩ := by
    rw [extract, tokens_proseBody]
    rfl
  have unhandled : (word "see_also").val ∉ handledTags := by decide
  exact ⟨returns, unhandled, gap_proseBody,
    extract_insert returns unhandled [word "x"] gap_proseBody⟩

end EditorData.Reference
