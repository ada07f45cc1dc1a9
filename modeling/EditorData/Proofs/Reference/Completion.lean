import EditorData.Proofs.Directive.FirstToken
import EditorData.Proofs.Reference.Dialect

/-!
# Extractions that succeed

What the machine makes of a text is found backwards: `Completes` says that the extraction
succeeds from a state on with a text still to come, and each lemma puts one more piece of a
directive in front of that text. Cursor and log do not decide what is found, so they are
arbitrary there (`State.placed`). Between two tokens the lexer stands where the machine
expects it to stand (`Awaiting.mode`).
-/

namespace EditorData.Reference

open EditorData.Directive

/-- Where the lexer stands while the machine waits for something. -/
def Awaiting.mode : Awaiting -> Mode
  | .item | .fragmentText | .blockText _ | .codeText | .codeOpening _ | .endOpening _ | .nothing =>
      .outside
  | _ => .inside

/-- Whether the machine still waits for something. -/
def Awaiting.goesOn : Awaiting -> Bool
  | .nothing => false
  | _ => true

/-- Inside a directive the machine still waits for something. -/
theorem Awaiting.goesOn_of_inside {awaiting : Awaiting} (inside : awaiting.mode = .inside) :
    awaiting.goesOn = true := by
  cases awaiting with
  | nothing => cases inside
  | _ => rfl

namespace State

variable (state : State) (cursor : Nat) (log : List Logging.Entry)

/-- The state at another place of the document and with another log. -/
def placed : State :=
  { state with cursor, log }

@[simp] theorem placed_phase : (state.placed cursor log).phase = state.phase := rfl

@[simp] theorem placed_awaiting : (state.placed cursor log).awaiting = state.awaiting := rfl

@[simp] theorem await_awaiting (awaiting : Awaiting) :
    (state.await awaiting).awaiting = awaiting := rfl

@[simp] theorem await_phase (awaiting : Awaiting) :
    (state.await awaiting).phase = state.phase := rfl

@[simp] theorem await_await (first second : Awaiting) :
    (state.await first).await second = state.await second := rfl

@[simp] theorem placed_await (awaiting : Awaiting) :
    (state.placed cursor log).await awaiting = (state.await awaiting).placed cursor log := rfl

@[simp] theorem placed_write (fragment : Text) :
    (state.placed cursor log).write fragment = (state.write fragment).placed cursor log := rfl

@[simp] theorem placed_sign (signature : Text) :
    (state.placed cursor log).sign signature = (state.sign signature).placed cursor log := rfl

@[simp] theorem placed_enter (tag : Text) :
    (state.placed cursor log).enter tag = (state.enter tag).placed cursor log := by
  simp only [enter, placed_await, apply_ite fun state : State => state.placed cursor log]
  rfl

@[simp] theorem await_enter (awaiting : Awaiting) (tag : Text) :
    (state.await awaiting).enter tag = state.enter tag := rfl

@[simp] theorem placed_conclude (scope : Scope) (argument : Text) (option : Option Text)
    (form : Form) :
    (state.placed cursor log).conclude scope argument option form =
      (state.conclude scope argument option form).placed cursor log := by
  cases form <;> simp [conclude]

@[simp] theorem placed_finishCode (ending : Ending) :
    (state.placed cursor log).finishCode ending = (state.finishCode ending).placed cursor log := by
  obtain ⟨phase, depth, ledger, awaiting, cursor, log⟩ := state
  cases ending <;> cases phase <;> rfl

@[simp] theorem await_write (awaiting : Awaiting) (fragment : Text) :
    (state.await awaiting).write fragment = (state.write fragment).await awaiting := rfl

@[simp] theorem await_conclude (awaiting : Awaiting) (scope : Scope) (argument : Text)
    (option : Option Text) (form : Form) :
    (state.await awaiting).conclude scope argument option form =
      state.conclude scope argument option form := by
  cases form <;> simp [conclude]

@[simp] theorem await_finishCode (awaiting : Awaiting) (ending : Ending) :
    (state.await awaiting).finishCode ending = state.finishCode ending := by
  obtain ⟨phase, depth, ledger, before, cursor, log⟩ := state
  cases ending <;> cases phase <;> rfl

/-- A title is taken in the same way whatever the machine waits for. -/
theorem openHeader_await (scope : Scope) (awaiting : Awaiting) (title : Text) (stop : Nat) :
    (state.await awaiting).openHeader scope title stop =
      (state.openHeader scope title stop).await awaiting := by
  obtain ⟨phase, depth, ledger, before, cursor, log⟩ := state
  cases phase with
  | searching =>
      by_cases same : title = scope.anchor
      · simp [openHeader, await, report, same]
      · simp [openHeader, await, same]
  | _ => rfl

end State

/-- From the state on, whatever its cursor and its log, the extraction of the text succeeds
with the given entries. -/
def Completes (scope : Scope) (state : State) (text : Text) (found : List RawBuiltin) : Prop :=
  ∀ offset cursor log,
    (run scope (state.placed cursor log)
      (tokensFrom state.awaiting.mode offset text)).result = .ok found

/-- A token takes one state to another, whatever their cursors and logs. -/
def Moves (scope : Scope) (state : State) (kind : TokenKind) (lexeme : Text)
    (next : State) : Prop :=
  ∀ offset cursor log, ∃ stop entries,
    (state.placed cursor log).advance scope ⟨kind, offset, lexeme⟩ =
      .ok (next.placed stop entries)

/-- A final token is never accepted. -/
theorem State.accept?_of_isFinal (scope : Scope) (state : State) {token : Token}
    (final : token.kind.isFinal = true) : state.accept? scope token = none := by
  obtain ⟨kind, start, lexeme⟩ := token
  obtain ⟨phase, depth, ledger, awaiting, cursor, log⟩ := state
  cases kind with
  | finish => cases awaiting with
    | codeRest code last => cases last <;> rfl
    | _ => rfl
  | unterminated => cases awaiting with
    | codeRest code last => cases last <;> rfl
    | _ => rfl
  | _ => cases final

/-- A token that moves the machine is not final. -/
theorem Moves.isFinal {scope : Scope} {state next : State} {kind : TokenKind} {lexeme : Text}
    (moves : Moves scope state kind lexeme next) : kind.isFinal = false := by
  obtain ⟨stop, entries, advanced⟩ := moves 0 0 []
  cases final : kind.isFinal with
  | false => rfl
  | true =>
      unfold State.advance at advanced
      rw [State.accept?_of_isFinal scope _ final] at advanced
      split at advanced <;> cases advanced

/-- Behind its tag a directive goes on. -/
theorem State.mode_enter (state : State) (tag : Text) :
    (state.enter tag).awaiting.mode = .inside := by
  unfold State.enter
  repeat' split
  all_goals rfl

/-- Behind a tag that means nothing the machine looks for the end of the directive. -/
theorem State.enter_of_unhandled (state : State) {tag : Text} (unhandled : tag ∉ handledTags) :
    state.enter tag = state.await .skip := by
  simp only [handledTags, List.mem_cons, List.not_mem_nil, not_or, or_false] at unhandled
  obtain ⟨notOpen, notClose, notSyntax, notBlock, notLink, notCode⟩ := unhandled
  rw [enter, if_neg notOpen, if_neg notClose, if_neg notSyntax, if_neg notBlock, if_neg notLink,
    if_neg notCode, ite_self]

section Completes

variable {scope : Scope} {state next : State} {text rest : Text} {found : List RawBuiltin}

/-- A token that the machine accepts in the same way wherever it stands moves it. -/
theorem moves_of_accept? {kind : TokenKind} {lexeme : Text}
    (fits : ∀ offset cursor log, (state.placed cursor log).misfit? ⟨kind, offset, lexeme⟩ = none)
    (accepted : ∀ offset cursor log,
      (state.placed cursor log).accept? scope ⟨kind, offset, lexeme⟩ =
        some (next.placed cursor log)) : Moves scope state kind lexeme next := by
  intro offset cursor log
  refine ⟨offset + lexeme.length, log, ?_⟩
  rw [State.advance, fits, accepted]
  rfl

/-- One more token in front of the text. -/
theorem Completes.of_moves {kind : TokenKind} {lexeme : Text} {mode : Mode}
    (completes : Completes scope next rest found)
    (first : FirstToken state.awaiting.mode text ⟨kind, lexeme, rest, mode⟩)
    (moves : Moves scope state kind lexeme next)
    (stands : next.awaiting.mode = mode) (going : next.awaiting.goesOn = true) :
    Completes scope state text found := by
  intro offset cursor log
  obtain ⟨stop, entries, advanced⟩ := moves offset cursor log
  have more : next.awaiting ≠ .nothing := by
    intro ended
    rw [ended] at going
    cases going
  rw [tokensFrom_of_more offset first moves.isFinal, run, advanced]
  simp only [State.placed, more, if_false]
  rw [← stands]
  exact completes _ _ _

/-- A word in front of the end of a segment is a segment. -/
theorem Completes.word (word : Word) (completes : Completes scope next rest found)
    (stops : EndsSegment rest) (inside : state.awaiting.mode = .inside)
    (moves : Moves scope state .segment word.val next)
    (stands : next.awaiting.mode = .inside) : Completes scope state (word.val ++ rest) found := by
  have argument := Argument.of_not_mem word.property.2.1 word.property.2.2
  have first := FirstToken.segment argument word.property.1 stops
  rw [← inside] at first
  exact completes.of_moves first moves (stands.trans inside.symm) (Awaiting.goesOn_of_inside stands)

/-- A bar inside a directive. -/
theorem Completes.bar (completes : Completes scope next rest found)
    (inside : state.awaiting.mode = .inside) (moves : Moves scope state .separator ['|'] next)
    (stands : next.awaiting.mode = .inside) : Completes scope state ('|' :: rest) found := by
  have first := FirstToken.separator rest
  rw [← inside] at first
  exact completes.of_moves first moves (stands.trans inside.symm) (Awaiting.goesOn_of_inside stands)

/-- The arguments of a directive end a segment in front of them. -/
theorem endsSegment_arguments (arguments : List Word) (rest : Text) :
    EndsSegment (printArguments arguments ++ '#' :: '}' :: rest) := by
  cases arguments with
  | nil => exact .inr ⟨rest, rfl⟩
  | cons argument others => exact .inl ⟨_, rfl⟩

/-- A directive between two items, up to its tag. -/
theorem Completes.directive (tag : Word) (arguments : List Word)
    (completes : Completes scope (state.enter tag.val)
      (printArguments arguments ++ '#' :: '}' :: rest) found) :
    Completes scope (state.await .item) (printDirective tag.val arguments ++ rest) found := by
  have behind : Completes scope (state.await .tag)
      (tag.val ++ (printArguments arguments ++ '#' :: '}' :: rest)) found :=
    completes.word tag (endsSegment_arguments arguments rest) rfl
      (moves_of_accept? (fun _ _ _ => rfl) fun _ _ _ => by simp [State.accept?])
      (state.mode_enter tag.val)
  have whole : Completes scope (state.await .item)
      ('{' :: '#' :: (tag.val ++ (printArguments arguments ++ '#' :: '}' :: rest))) found :=
    behind.of_moves (.opening _)
      (moves_of_accept? (fun _ _ _ => rfl) fun _ _ _ => rfl) rfl rfl
  simpa [printDirective] using whole

/-- Arguments that leave the machine where it is. -/
theorem Completes.arguments {awaiting : Awaiting} (inside : awaiting.mode = .inside)
    (stays : ∀ kind lexeme, kind = .separator ∨ kind = .segment ->
      Moves scope (state.await awaiting) kind lexeme (state.await awaiting))
    (arguments : List Word)
    (completes : Completes scope (state.await awaiting) ('#' :: '}' :: rest) found) :
    Completes scope (state.await awaiting) (printArguments arguments ++ '#' :: '}' :: rest)
      found := by
  induction arguments with
  | nil => exact completes
  | cons argument others inductionHypothesis =>
      have named := inductionHypothesis.word argument (endsSegment_arguments others rest) inside
        (stays .segment argument.val (.inr rfl)) inside
      have barred := named.bar inside (stays .separator ['|'] (.inl rfl)) inside
      simpa [printArguments] using barred

/-- The optional argument of a directive, and its end. -/
theorem Completes.option {form : Form} {argument : Text} (option : Option Word)
    (completes : Completes scope
      (state.conclude scope argument (option.map Subtype.val) form) rest found) :
    Completes scope (state.await (.option form argument))
      (printArguments option.toList ++ '#' :: '}' :: rest) found := by
  have outside : (state.conclude scope argument (option.map Subtype.val) form).awaiting.mode =
      .outside := by
    cases form <;> rfl
  have going : (state.conclude scope argument (option.map Subtype.val) form).awaiting.goesOn =
      true := by
    cases form <;> rfl
  cases option with
  | none =>
      exact completes.of_moves (.closing _)
        (moves_of_accept? (fun _ _ _ => rfl) fun _ _ _ => by simp [State.accept?]) outside going
  | some name =>
      have ended : Completes scope (state.await (.optionEnd form argument name.val))
          ('#' :: '}' :: rest) found :=
        completes.of_moves (.closing _)
          (moves_of_accept? (fun _ _ _ => rfl) fun _ _ _ => by simp [State.accept?]) outside going
      have named : Completes scope (state.await (.optionText form argument))
          (name.val ++ '#' :: '}' :: rest) found :=
        ended.word name (.inr ⟨rest, rfl⟩) rfl
          (moves_of_accept? (fun _ _ _ => rfl) fun _ _ _ => rfl) rfl
      have barred : Completes scope (state.await (.option form argument))
          ('|' :: (name.val ++ '#' :: '}' :: rest)) found :=
        named.bar rfl (moves_of_accept? (fun _ _ _ => rfl) fun _ _ _ => rfl) rfl
      simpa [printArguments] using barred

/-- The arguments of a directive that takes one and an optional second one. -/
theorem Completes.argument {form : Form} (name : Word) (option : Option Word)
    (completes : Completes scope
      (state.conclude scope name.val (option.map Subtype.val) form) rest found) :
    Completes scope (state.await (.argumentBar form))
      (printArguments (name :: option.toList) ++ '#' :: '}' :: rest) found := by
  have named : Completes scope (state.await (.argument form))
      (name.val ++ (printArguments option.toList ++ '#' :: '}' :: rest)) found :=
    completes.option.word name (endsSegment_arguments option.toList rest) rfl
      (moves_of_accept? (fun _ _ _ => rfl) fun _ _ _ => rfl) rfl
  have barred : Completes scope (state.await (.argumentBar form))
      ('|' :: (name.val ++ (printArguments option.toList ++ '#' :: '}' :: rest))) found :=
    named.bar rfl (moves_of_accept? (fun _ _ _ => rfl) fun _ _ _ => rfl) rfl
  simpa [printArguments] using barred

/-- The text goes on with a directive. -/
def OpensDirective (text : Text) : Prop :=
  ∃ rest, text = '{' :: '#' :: rest

/-- A printed directive does. -/
theorem opensDirective_print (tag : Text) (arguments : List Word) (rest : Text) :
    OpensDirective (printDirective tag arguments ++ rest) :=
  ⟨_, rfl⟩

/-- Running text that the machine waits for, in front of a directive. -/
theorem Completes.prose {text : Text} (notEmpty : text ≠ []) (legal : Prose text)
    (opens : OpensDirective rest) (completes : Completes scope next rest found)
    (outside : state.awaiting.mode = .outside)
    (moves : Moves scope state .content text next) (stands : next.awaiting.mode = .outside)
    (going : next.awaiting.goesOn = true) : Completes scope state (text ++ rest) found := by
  obtain ⟨others, rfl⟩ := opens
  have first := FirstToken.content legal notEmpty others
  rw [← outside] at first
  exact completes.of_moves first moves (stands.trans outside.symm) going

/-- The directive that ends a fragment of code. -/
theorem Completes.ending (ending : Ending)
    (completes : Completes scope (state.finishCode ending) rest found) :
    Completes scope (state.await (.endOpening ending)) (printDirective ending.tag [] ++ rest)
      found := by
  have outside : (state.finishCode ending).awaiting = .item := by
    obtain ⟨phase, depth, ledger, awaiting, cursor, log⟩ := state
    cases ending <;> cases phase <;> rfl
  obtain ⟨tag, same⟩ : ∃ tag : Word, tag.val = ending.tag := by
    cases ending with
    | fragment code => exact ⟨⟨"endsyntax".toList, by decide⟩, rfl⟩
    | block => exact ⟨⟨"end_syntax_block".toList, by decide⟩, rfl⟩
  have closed : Completes scope (state.await (.endClosing ending)) ('#' :: '}' :: rest) found :=
    completes.of_moves (.closing rest)
      (moves_of_accept? (fun _ _ _ => rfl) fun _ _ _ => by simp [State.accept?])
      (by rw [outside]; rfl) (by rw [outside]; rfl)
  have tagged : Completes scope (state.await (.endTag ending)) (tag.val ++ '#' :: '}' :: rest)
      found :=
    closed.word tag (.inr ⟨rest, rfl⟩) rfl
      (moves_of_accept? (fun _ _ _ => by simp [State.misfit?, same]) fun _ _ _ => rfl) rfl
  have opened : Completes scope (state.await (.endOpening ending))
      ('{' :: '#' :: (tag.val ++ '#' :: '}' :: rest)) found :=
    tagged.of_moves (.opening _) (moves_of_accept? (fun _ _ _ => rfl) fun _ _ _ => rfl) rfl rfl
  simpa [printDirective, printArguments, same] using opened

end Completes

end EditorData.Reference
