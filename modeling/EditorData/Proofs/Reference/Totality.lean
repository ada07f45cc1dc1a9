import EditorData.Generation.Failure
import EditorData.Proofs.Markup.Searching
import EditorData.Proofs.Reference.Balance
import EditorData.Proofs.Results

/-!
# Totality of the collection

The machine and the finishing of an entry are total functions: where there is no entry, nothing
is written, and the tokens of a document are a list. A program with the same steps takes the
entry for granted, and so the parenthesis in a signature; it reads the document with a cursor,
for as long as the section is not closed. Here the steps are taken in this way: what is taken
for granted can be missing, and the number of readings is limited (`collectStrictly`). None of
these accidents happens (`collectStrictly_eq`), so the collection ends with builtins or with a
fault in the material. Which one it is, is decided by the extraction, and behind that by the
first entry that cannot be finished (`finished_eq_iff`). The recursions that finish an entry are
on ever shorter texts, which is a part of their definitions.
-/

namespace EditorData.Reference

open EditorData.Directive

/-- What can go wrong besides the material. -/
inductive Accident where
  /-- An entry is used where there is none. -/
  | noEntry
  | unreadable (fault : Cursor.Fault)
  /-- There are more readings than are allowed. -/
  | endless
  /-- A signature is cut at a parenthesis that it does not have. -/
  | noParenthesis
deriving DecidableEq, Repr

/-- Whether reading the token uses the entry that is being written without asking whether there is
one, as it does for text in a body, for the report on a header in a body, and for a signature. -/
def State.usesEntry (state : State) (token : Token) : Bool :=
  match state.awaiting, token.kind with
  | .item, .content | .headerTitle, .segment => state.phase = .body
  | .endClosing (.fragment _), .closing => state.phase = .heading
  | _, _ => false

/-- Read one token, where an entry that is used has to be there. -/
def State.advanceStrictly (scope : Scope) (state : State) (token : Token) :
    Except Accident (Except Unexpected State) :=
  if state.usesEntry token ∧ state.current? = none then .error .noEntry
  else .ok (state.advance scope token)

/-- Read tokens with a cursor until the section is closed or a fault stops the machine, with no
more readings than are allowed. -/
def runStrictly (scope : Scope) : (readings : Nat) -> State -> Cursor -> Except Accident Outcome
  | 0, _, _ => .error .endless
  | readings + 1, state, cursor =>
      match cursor.next with
      | .error fault => .error (.unreadable fault)
      | .ok (stretch, after) =>
          match state.advanceStrictly scope stretch.toToken with
          | .error accident => .error accident
          | .ok (.error fault) =>
              .ok ⟨{ state with cursor := stretch.toToken.stop }, some fault⟩
          | .ok (.ok next) =>
              if next.awaiting = .nothing then .ok ⟨next, none⟩
              else runStrictly scope readings next after

/-- Finish one entry: its signature is cut once for the snippet, which may fail, and once more
for the arguments, which then may not. -/
def finishStrictly (raw : RawBuiltin) : Except Accident (Except Fault Builtin) :=
  let signature := Text.withoutLineFeeds raw.signature
  match Markdown.render Markdown.codeLanguage (bodyMarkup raw.html) with
  | .error fault => .ok (.error (.markup fault))
  | .ok markdown =>
      match Signature.snippet signature with
      | .error fault => .ok (.error (.signature fault))
      | .ok snippet =>
          match Text.cut? ['('] signature with
          | none => .error .noParenthesis
          | some (_, parameters) =>
              .ok (.ok {
                name := raw.name
                signature
                snippet
                documentation := tidy markdown
                arguments := Signature.arguments parameters })

/-- Finish entries in order, up to the first one with a fault. -/
def finishAllStrictly : List RawBuiltin -> Except Accident (Except Fault (List Builtin))
  | [] => .ok (.ok [])
  | raw :: rest =>
      match finishStrictly raw with
      | .error accident => .error accident
      | .ok (.error fault) => .ok (.error fault)
      | .ok (.ok builtin) => (finishAllStrictly rest).map (Except.map (builtin :: ·))

/-- The builtins that a document describes, with no more readings than are allowed. -/
def collectStrictly (readings : Nat) (version documentationRoot document : Text) :
    Except Accident (Except Fault (List Builtin)) :=
  match runStrictly ⟨version, documentationRoot, sectionAnchor⟩ readings .initial
      (.start document) with
  | .error accident => .error accident
  | .ok outcome =>
      match outcome.result with
      | .error fault => .ok (.error (.structure fault))
      | .ok records => finishAllStrictly records

section Extraction

variable {scope : Scope} {document : Text} {front : List Token} {state : State}

/-- Entries are used behind the introduction only. -/
theorem State.behind_of_usesEntry {token : Token} (uses : state.usesEntry token = true) :
    state.phase = .heading ∨ state.phase = .body := by
  unfold State.usesEntry at uses
  split at uses <;> simp_all

/-- Wherever an extraction gets to, an entry that is used is there. -/
theorem Reached.advanceStrictly_eq (reached : Reached scope document front state)
    (waits : state.awaiting ≠ .nothing) (token : Token) :
    state.advanceStrictly scope token = .ok (state.advance scope token) := by
  refine if_neg fun ⟨uses, missing⟩ => ?_
  rw [State.current?_eq_head?, List.head?_eq_none_iff] at missing
  have inFront := (reached.coherent waits).empty.1 missing
  rcases State.behind_of_usesEntry uses with heading | body
  · simp [State.progress, heading] at inFront
  · simp [State.progress, body] at inFront

/-- A body without an entry, which no extraction gets to, would be such an accident. -/
example (scope : Scope) :
    { State.initial with phase := .body }.advanceStrictly scope ⟨.content, 0, ['x']⟩ =
      .error .noEntry := rfl

/-- One reading gives the machine the first token of what lies in front of the cursor. -/
theorem runStrictly_succ {mode : Mode} {before rest : Text} {lexed : Lexed}
    (first : FirstToken mode rest lexed) (ready : Ready mode rest)
    (reached : Reached scope document front state) (waits : state.awaiting ≠ .nothing)
    (readings : Nat) :
    let token : Token := ⟨lexed.kind, before.length, lexed.lexeme⟩
    runStrictly scope (readings + 1) state (.between before rest mode) =
      match state.advance scope token with
      | .error fault => .ok ⟨{ state with cursor := token.stop }, some fault⟩
      | .ok next =>
          if next.awaiting = .nothing then .ok ⟨next, none⟩
          else runStrictly scope readings next
            (.between (before ++ lexed.lexeme) lexed.rest lexed.mode) := by
  intro token
  rw [runStrictly, Cursor.next_between ready, next_of_firstToken first]
  simp only [Token.toToken_toStretch, reached.advanceStrictly_eq waits]
  cases state.advance scope token <;> rfl

/-- A run with a cursor that stands behind tokens of the document is a run over the tokens that
are left, if it may read each of them. -/
theorem runStrictly_between {mode : Mode} {before rest : Text} {others : List Token}
    {offset readings : Nat} (tokenizes : Tokenizes mode offset rest others)
    (ready : Ready mode rest) (begins : before.length = offset)
    (all : tokens document = front ++ others) (reached : Reached scope document front state)
    (waits : state.awaiting ≠ .nothing) (enough : others.length ≤ readings) :
    runStrictly scope readings state (.between before rest mode) =
      .ok (run scope state others) := by
  induction tokenizes generalizing front before state readings with
  | @final _ offset _ lexed first final =>
      obtain ⟨readings, rfl⟩ := Nat.exists_eq_add_of_le' enough
      rw [List.length_singleton, runStrictly_succ first ready reached waits, begins, run]
      cases advanced : state.advance scope ⟨lexed.kind, offset, lexed.lexeme⟩ with
      | error fault => rfl
      | ok next =>
          have more := State.isFinal_of_advance advanced
          rw [final] at more
          cases more
  | @more _ offset _ lexed others first more _ inductionHypothesis =>
      obtain ⟨readings, rfl⟩ := Nat.exists_eq_add_of_le' enough
      rw [List.length_cons, ← Nat.add_assoc, runStrictly_succ first ready reached waits, begins,
        run]
      let token : Token := ⟨lexed.kind, offset, lexed.lexeme⟩
      cases advanced : state.advance scope token with
      | error fault => rfl
      | ok next =>
          by_cases ended : next.awaiting = .nothing
          · simp [ended]
          · simp only [ended, if_false]
            have further : Reached scope document (front ++ [token]) next :=
              ⟨⟨others, by simp [all, token]⟩, State.read_append.2
                ⟨state, reached.read, State.read_singleton.2 advanced⟩⟩
            refine inductionHypothesis (first.ready ready) ?_ ?_ further ended ?_
            · simp [begins]
            · simp [all, token]
            · omega

/-- Strictly or not, a document is extracted in the same way, with no more readings than it has
characters, but for one. -/
theorem runStrictly_start (scope : Scope) (document : Text) {readings : Nat}
    (enough : document.length < readings) :
    runStrictly scope readings .initial (.start document) = .ok (extract scope document) := by
  have tokenizes := tokenizes_tokens document
  have count : (tokens document).length ≤ readings :=
    (tiling_tokens document).length_le.trans enough
  have reached : Reached scope document [] .initial := ⟨List.nil_prefix, rfl⟩
  exact @runStrictly_between _ _ _ _ _ [] _ _ _ _ tokenizes nofun rfl rfl reached nofun count

end Extraction

section Finishing

variable {raw : RawBuiltin}

/-- A signature that has a snippet has a parenthesis. -/
theorem finishStrictly_eq (raw : RawBuiltin) : finishStrictly raw = .ok (finish raw) := by
  rw [finishStrictly, finish]
  cases Markdown.render Markdown.codeLanguage (bodyMarkup raw.html) with
  | error fault => rfl
  | ok markdown =>
      simp only [Signature.snippet, Signature.parse]
      cases Text.cut? ['('] (Text.withoutLineFeeds raw.signature) <;> rfl

/-- Strictly or not, entries are finished in the same way. -/
theorem finishAllStrictly_eq (raws : List RawBuiltin) :
    finishAllStrictly raws = .ok (finishAll raws) := by
  induction raws with
  | nil => rfl
  | cons raw rest inductionHypothesis =>
      rw [finishAllStrictly, finishAll, finishStrictly_eq, inductionHypothesis]
      cases finish raw <;> rfl

/-- Why an entry cannot be finished. Its body is read first, its signature only behind that. -/
inductive Unfinishable (raw : RawBuiltin) : Fault -> Prop where
  | markup {fault : Markup.Fault}
      (unreadable : Markdown.render Markdown.codeLanguage (bodyMarkup raw.html) = .error fault) :
      Unfinishable raw (.markup fault)
  | signature {markdown : Text}
      (readable : Markdown.render Markdown.codeLanguage (bodyMarkup raw.html) = .ok markdown)
      (bare : '(' ∉ Text.withoutLineFeeds raw.signature) :
      Unfinishable raw (.signature ⟨Text.withoutLineFeeds raw.signature⟩)

/-- An entry is finished unless its body is unreadable or its signature has no parenthesis. -/
theorem finish_eq_error_iff {fault : Fault} :
    finish raw = .error fault ↔ Unfinishable raw fault := by
  rw [finish]
  constructor
  · intro fails
    cases body : Markdown.render Markdown.codeLanguage (bodyMarkup raw.html) with
    | error unreadable =>
        simp only [body, Except.error.injEq] at fails
        subst fails
        exact .markup body
    | ok markdown =>
        simp only [body, Signature.parse] at fails
        cases cut : Text.cut? ['('] (Text.withoutLineFeeds raw.signature) with
        | none =>
            simp only [cut, Except.error.injEq] at fails
            subst fails
            exact .signature body (Markup.cut?_eq_none_iff.1 cut)
        | some sides => simp [cut] at fails
  · rintro (unreadable | ⟨readable, bare⟩)
    · rw [unreadable]
    · rw [readable, Signature.parse, Markup.cut?_eq_none_iff.2 bare]

/-- The fault of an entry, if it cannot be finished. -/
def RawBuiltin.fault? (raw : RawBuiltin) : Option Fault :=
  match finish raw with
  | .error fault => some fault
  | .ok _ => none

/-- An entry has a fault exactly if it cannot be finished. -/
theorem fault?_eq_some_iff {fault : Fault} : raw.fault? = some fault ↔ Unfinishable raw fault := by
  rw [← finish_eq_error_iff, RawBuiltin.fault?]
  cases finish raw <;> simp

/-- An entry has no fault exactly if it can be finished. -/
theorem fault?_eq_none_iff : raw.fault? = none ↔ ∀ fault, ¬ Unfinishable raw fault := by
  simp only [Option.eq_none_iff_forall_ne_some, ne_eq, fault?_eq_some_iff]

variable {raws : List RawBuiltin}

/-- Finishing entries fails with the first of their faults. -/
theorem finishAll_eq_findSome? {fault : Fault} :
    finishAll raws = .error fault ↔ raws.findSome? RawBuiltin.fault? = some fault := by
  induction raws with
  | nil => simp [finishAll]
  | cons first rest inductionHypothesis =>
      rw [finishAll, List.findSome?_cons, RawBuiltin.fault?]
      cases finish first with
      | error other => simp
      | ok builtin =>
          rw [← inductionHypothesis]
          cases finishAll rest <;> simp [Except.map]

/-- So it fails with the fault of the first entry that cannot be finished. -/
theorem finishAll_eq_error_iff {fault : Fault} :
    finishAll raws = .error fault ↔
      ∃ earlier raw later, raws = earlier ++ raw :: later ∧ Unfinishable raw fault ∧
        ∀ other ∈ earlier, ∀ fault, ¬ Unfinishable other fault := by
  simp only [finishAll_eq_findSome?, List.findSome?_eq_some_iff, fault?_eq_some_iff,
    fault?_eq_none_iff]

/-- Entries are finished one after the other. -/
theorem finishAll_eq (raws : List RawBuiltin) : finishAll raws = raws.mapM finish := by
  have next (raw : RawBuiltin) (rest : List RawBuiltin) : finishAll (raw :: rest) =
      finish raw >>= fun builtin => (finishAll rest).map (builtin :: ·) := by
    rw [finishAll]
    cases finish raw <;> rfl
  have none : finishAll [] = .ok [] := rfl
  exact eq_mapM none next raws

/-- Finishing entries gives builtins if each of them is finished. -/
theorem finishAll_eq_ok_iff {builtins : List Builtin} :
    finishAll raws = .ok builtins ↔
      List.Forall₂ (fun raw builtin => finish raw = .ok builtin) raws builtins := by
  rw [finishAll_eq, mapM_eq_ok_iff]

end Finishing

/-- The result of a collection by the outcome of its extraction: a fault in the structure of the
document comes first, then the fault of the first entry that cannot be finished. -/
inductive Settled (outcome : Outcome) : Except Fault (List Builtin) -> Prop where
  | stopped {fault : Unexpected} (stops : outcome.fault = some fault) :
      Settled outcome (.error (.structure fault))
  | unfinished {earlier later : List RawBuiltin} {raw : RawBuiltin} {fault : Fault}
      (returns : outcome.fault = none) (split : outcome.builtins = earlier ++ raw :: later)
      (fails : Unfinishable raw fault)
      (sound : ∀ other ∈ earlier, ∀ fault, ¬ Unfinishable other fault) :
      Settled outcome (.error fault)
  | finished {builtins : List Builtin} (returns : outcome.fault = none)
      (all : List.Forall₂ (fun raw builtin => finish raw = .ok builtin) outcome.builtins builtins) :
      Settled outcome (.ok builtins)

/-- The outcome of an extraction settles the result. -/
theorem finished_eq_iff {outcome : Outcome} {result : Except Fault (List Builtin)} :
    outcome.finished = result ↔ Settled outcome result := by
  rw [Outcome.finished, Outcome.result]
  cases ends : outcome.fault with
  | some fault =>
      constructor
      · rintro rfl
        exact .stopped ends
      · rintro (same | ⟨returns, -, -, -⟩ | ⟨returns, -⟩)
        · rw [ends] at same
          cases same
          rfl
        · rw [ends] at returns
          cases returns
        · rw [ends] at returns
          cases returns
  | none =>
      show finishAll outcome.builtins = result ↔ _
      constructor
      · intro finished
        cases result with
        | error fault =>
            obtain ⟨earlier, raw, later, split, fails, sound⟩ := finishAll_eq_error_iff.1 finished
            exact .unfinished ends split fails sound
        | ok builtins => exact .finished ends (finishAll_eq_ok_iff.1 finished)
      · rintro (same | ⟨-, split, fails, sound⟩ | ⟨-, all⟩)
        · rw [ends] at same
          cases same
        · exact finishAll_eq_error_iff.2 ⟨_, _, _, split, fails, sound⟩
        · exact finishAll_eq_ok_iff.2 all

/-- The kinds of faults that a reference can have. -/
def faultKinds : List String :=
  ["DocumentStructureError", "UnsupportedTagError", "InvalidTagError", "MissingEndTagError",
    "MalformedSignatureError"]

/-- Every fault has one of these kinds. -/
theorem exists_faultKind (fault : Fault) :
    ∃ kind ∈ faultKinds, (Generation.Failure.reference fault).kind? = some kind.toList := by
  obtain unexpected | unreadable | bare := fault
  · exact ⟨"DocumentStructureError", by simp [faultKinds], rfl⟩
  · cases unreadable with
    | unsupportedTag => exact ⟨"UnsupportedTagError", by simp [faultKinds], rfl⟩
    | unclosedTag => exact ⟨"InvalidTagError", by simp [faultKinds], rfl⟩
    | missingTarget => exact ⟨"InvalidTagError", by simp [faultKinds], rfl⟩
    | missingEnd => exact ⟨"MissingEndTagError", by simp [faultKinds], rfl⟩
    | missingNestedEnd => exact ⟨"MissingEndTagError", by simp [faultKinds], rfl⟩
  · exact ⟨"MalformedSignatureError", by simp [faultKinds], rfl⟩

/-- With one reading more than the document has characters, there are no accidents. -/
theorem collectStrictly_eq {readings : Nat} (version documentationRoot : Text) {document : Text}
    (enough : document.length < readings) :
    collectStrictly readings version documentationRoot document =
      .ok (collect version documentationRoot document) := by
  rw [collectStrictly, runStrictly_start _ document enough, collect, Outcome.finished]
  dsimp only
  cases (extract ⟨version, documentationRoot, sectionAnchor⟩ document).result with
  | error fault => rfl
  | ok records => exact finishAllStrictly_eq records

/-- A collection ends without accident, with the builtins or with a fault of one of five kinds.
A document with a fault in its structure has no other fault, and the fault of any other document
is the one of the first entry that cannot be finished: of its body, if this is unreadable, and of
its signature, if only this has no parenthesis. -/
theorem collect_total (version documentationRoot document : Text) :
    (∀ more, collectStrictly (document.length + 1 + more) version documentationRoot document =
      .ok (collect version documentationRoot document)) ∧
    (∀ result, collect version documentationRoot document = result ↔
      Settled (extract ⟨version, documentationRoot, sectionAnchor⟩ document) result) ∧
    ∀ fault : Fault, ∃ kind ∈ faultKinds,
      (Generation.Failure.reference fault).kind? = some kind.toList := by
  refine ⟨fun more => ?_, fun result => finished_eq_iff, exists_faultKind⟩
  exact collectStrictly_eq version documentationRoot (by omega)

end EditorData.Reference
