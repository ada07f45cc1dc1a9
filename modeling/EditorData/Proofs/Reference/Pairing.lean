import EditorData.Proofs.Reference.Reading

/-!
# Two extractions side by side

What the machine does next depends on nothing that it has written. So two machines at the same
point of a document stay together when they read the same tokens, whatever their documentations
have in common, as long as this is kept when both are given the same text, and when each is given
its own link (`Pairing`). They read the same tokens and stop at the same one for the same reason
(`run_paired`), and what their steps show of anything but their documentations is the same
(`State.trace_paired`).
-/

namespace EditorData.Reference

open EditorData.Directive

/-- Two documentations go together if they do so before anything is written, and keep doing so when
the same text, or a link with the same name and target, is written to both. -/
structure Pairing (scope other : Scope) (Fits : List Text -> List Text -> Prop) : Prop where
  anchor : other.anchor = scope.anchor
  empty : Fits [] []
  text : ∀ {first second : List Text} (fragment : Text), Fits first second ->
    Fits (first ++ [fragment]) (second ++ [fragment])
  link : ∀ {first second : List Text} (name target : Text), Fits first second ->
    Fits (first ++ [scope.link name target]) (second ++ [other.link name target])

/-- Two entries with one name and one signature, and documentations that go together. -/
structure RawBuiltin.Paired (Fits : List Text -> List Text -> Prop) (first second : RawBuiltin) :
    Prop where
  name : second.name = first.name
  signature : second.signature = first.signature
  documentation : Fits first.documentation second.documentation

section Entries

variable {Fits : List Text -> List Text -> Prop} {records partners : List RawBuiltin}

/-- Entries stay together when their last ones do. -/
theorem modifyHead_paired {alter alterPartner : RawBuiltin -> RawBuiltin}
    (all : List.Forall₂ (RawBuiltin.Paired Fits) records partners)
    (kept : ∀ {last partner : RawBuiltin}, last.Paired Fits partner ->
      (alter last).Paired Fits (alterPartner partner)) :
    List.Forall₂ (RawBuiltin.Paired Fits) (records.modifyHead alter)
      (partners.modifyHead alterPartner) := by
  cases all with
  | nil => exact .nil
  | cons last earlier => exact .cons (kept last) earlier

/-- The last entries have one name. -/
theorem map_name_head? (all : List.Forall₂ (RawBuiltin.Paired Fits) records partners) :
    partners.head?.map RawBuiltin.name = records.head?.map RawBuiltin.name := by
  cases all with
  | nil => rfl
  | cons last _ => exact congrArg some last.name

end Entries

/-- Two machines that are at the same point of a document, with entries that go together. -/
structure State.Paired (Fits : List Text -> List Text -> Prop) (first second : State) : Prop where
  phase : second.phase = first.phase
  depth : second.depth = first.depth
  awaiting : second.awaiting = first.awaiting
  cursor : second.cursor = first.cursor
  log : second.log = first.log
  records : List.Forall₂ (RawBuiltin.Paired Fits) first.records second.records

namespace State

variable {Fits : List Text -> List Text -> Prop} {scope other : Scope} {first second : State}
  {token : Token}

namespace Paired

/-- Both machines wait for the same. -/
theorem await (paired : first.Paired Fits second) (awaiting : Awaiting) :
    (first.await awaiting).Paired Fits (second.await awaiting) :=
  { paired with awaiting := rfl }

/-- Fragments that keep documentations together are written to both machines. -/
theorem write {fragment partner : Text}
    (kept : ∀ {written further : List Text}, Fits written further ->
      Fits (written ++ [fragment]) (further ++ [partner]))
    (paired : first.Paired Fits second) :
    (first.write fragment).Paired Fits (second.write partner) := by
  refine { paired with records := ?_ }
  rw [records_write, records_write]
  exact modifyHead_paired paired.records fun last =>
    ⟨last.name, last.signature, kept last.documentation⟩

/-- The same signature is given to both machines. -/
theorem sign (paired : first.Paired Fits second) (signature : Text) :
    (first.sign signature).Paired Fits (second.sign signature) := by
  refine { paired with records := ?_ }
  rw [records_sign, records_sign]
  exact modifyHead_paired paired.records fun last => ⟨last.name, rfl, last.documentation⟩

/-- The title of a header is read by both machines. -/
theorem openHeader (pairing : Pairing scope other Fits) (paired : first.Paired Fits second)
    (title : Text) (stop : Nat) :
    (first.openHeader scope title stop).Paired Fits (second.openHeader other title stop) := by
  obtain ⟨_, _, ledger, _, _, _⟩ := first
  obtain ⟨phase, depth, partner, awaiting, cursor, log⟩ := second
  obtain ⟨rfl, rfl, rfl, rfl, rfl, all⟩ := paired
  cases phase with
  | searching =>
      by_cases found : title = scope.anchor
      · simp only [State.openHeader, pairing.anchor, found, if_true]
        exact ⟨rfl, rfl, rfl, rfl, rfl, all⟩
      · simp only [State.openHeader, pairing.anchor, found, if_false]
        exact ⟨rfl, rfl, rfl, rfl, rfl, all⟩
  | introduction => exact ⟨rfl, rfl, rfl, rfl, rfl, .cons ⟨rfl, rfl, pairing.empty⟩ all⟩
  | heading => exact ⟨rfl, rfl, rfl, rfl, rfl, .cons ⟨rfl, rfl, pairing.empty⟩ all⟩
  | body =>
      -- the report gives the name of the entry that is being written
      have named : partner.current?.map RawBuiltin.name = ledger.current?.map RawBuiltin.name := by
        rw [partner.current?_eq_head?, ledger.current?_eq_head?]
        exact map_name_head? all
      refine ⟨rfl, rfl, rfl, rfl, ?_, all⟩
      simp [State.openHeader, report, State.current?, named]

/-- A header is closed by both machines. -/
theorem closeHeader (paired : first.Paired Fits second) :
    first.closeHeader.Paired Fits second.closeHeader := by
  obtain ⟨_, _, _, _, _, _⟩ := first
  obtain ⟨phase, depth, ledger, awaiting, cursor, log⟩ := second
  obtain ⟨rfl, rfl, rfl, rfl, rfl, all⟩ := paired
  cases phase <;> exact ⟨rfl, rfl, rfl, rfl, rfl, all⟩

/-- The tag of a directive is read by both machines. -/
theorem enter (paired : first.Paired Fits second) (tag : Text) :
    (first.enter tag).Paired Fits (second.enter tag) := by
  unfold State.enter
  rw [paired.phase]
  repeat' split
  all_goals exact paired.await _

/-- A directive with arguments is ended by both machines, and each writes its own link. -/
theorem conclude (pairing : Pairing scope other Fits) (paired : first.Paired Fits second)
    (argument : Text) (option : Option Text) (form : Form) :
    (first.conclude scope argument option form).Paired Fits
      (second.conclude other argument option form) := by
  cases form with
  | block => exact paired.await _
  | link => exact (paired.write (pairing.link argument (option.getD argument))).await _
  | code => exact paired.await _

/-- A fragment of code is ended by both machines. -/
theorem finishCode (pairing : Pairing scope other Fits) (paired : first.Paired Fits second)
    (ending : Ending) : (first.finishCode ending).Paired Fits (second.finishCode ending) := by
  cases ending with
  | block => exact paired.await _
  | fragment code =>
      have written := paired.write (pairing.text (Markdown.code code Markdown.codeLanguage))
      simp only [State.finishCode, paired.phase]
      cases first.phase with
      | heading => exact { (paired.sign code).await .item with phase := rfl }
      | body => exact written.await .item
      | searching => exact paired.await .item
      | introduction => exact paired.await .item

/-- Running text between two directives. -/
theorem prose (pairing : Pairing scope other Fits) (paired : first.Paired Fits second)
    (text : Text) :
    (if first.phase = .body then first.write text else first).Paired Fits
      (if second.phase = .body then second.write text else second) := by
  rw [paired.phase]
  split
  · exact paired.write (pairing.text text)
  · exact paired

end Paired

/-- Two machines that are at the same point of a document accept the same tokens, and are at the
same point behind them. -/
theorem accept?_paired (pairing : Pairing scope other Fits) (paired : first.Paired Fits second)
    (token : Token) :
    Option.Rel (State.Paired Fits) (first.accept? scope token) (second.accept? other token) := by
  have written (fragment : Text) := paired.write (pairing.text fragment)
  unfold accept?
  rw [paired.awaiting]
  split
  case h_1 => exact .some (paired.prose pairing token.lexeme)
  all_goals try split
  all_goals simp [paired.await, paired.enter, paired.closeHeader, paired.conclude pairing,
    paired.finishCode pairing, (paired.openHeader pairing _ _).await, (written _).await, paired]

/-- Two machines that are at the same point of a document refuse a token for the same reason, or
both read it and are at the same point behind it. -/
theorem advance_paired (pairing : Pairing scope other Fits) (paired : first.Paired Fits second)
    (token : Token) :
    (∃ fault, first.advance scope token = .error fault ∧
        second.advance other token = .error fault) ∨
      ∃ next following, first.advance scope token = .ok next ∧
        second.advance other token = .ok following ∧ next.Paired Fits following := by
  have accepts := accept?_paired pairing paired token
  have misfit : second.misfit? token = first.misfit? token := by
    rw [misfit?, paired.awaiting, ← misfit?]
  unfold advance
  rw [misfit, paired.awaiting]
  cases first.misfit? token with
  | some expected => exact .inl ⟨⟨expected, token⟩, rfl, rfl⟩
  | none =>
      generalize first.accept? scope token = accepted at accepts
      generalize second.accept? other token = likewise at accepts
      cases accepts with
      | none => exact .inl ⟨⟨first.awaiting.expectation, token⟩, rfl, rfl⟩
      | some both => exact .inr ⟨_, _, rfl, rfl, { both with cursor := rfl }⟩

/-- What the steps of two machines show is the same if it is the same wherever they are at the
same point. -/
theorem trace_paired {α : Type} {view : State -> Token -> State -> Option α}
    (pairing : Pairing scope other Fits) (paired : first.Paired Fits second)
    (same : ∀ {first second next following : State} {token : Token}, first.Paired Fits second ->
      next.Paired Fits following -> view first token next = view second token following)
    (tokens : List Token) : first.trace scope view tokens = second.trace other view tokens := by
  induction tokens generalizing first second with
  | nil => rfl
  | cons token others inductionHypothesis =>
      rw [trace, trace]
      rcases advance_paired pairing paired token with
        ⟨fault, stopped, likewise⟩ | ⟨next, following, advanced, likewise, behind⟩
      · rw [stopped, likewise]
      · rw [advanced, likewise]
        simp only [same paired behind, inductionHypothesis behind]

end State

/-- Two extractions that end at the same point of a document, and for the same reason. -/
structure Outcome.Paired (Fits : List Text -> List Text -> Prop) (first second : Outcome) :
    Prop where
  state : first.state.Paired Fits second.state
  fault : second.fault = first.fault

section Run

variable {Fits : List Text -> List Text -> Prop} {scope other : Scope} {first second : State}

/-- Two machines that are at the same point stop at the same point. -/
theorem run_paired (pairing : Pairing scope other Fits) (paired : first.Paired Fits second)
    (tokens : List Token) : (run scope first tokens).Paired Fits (run other second tokens) := by
  induction tokens generalizing first second with
  | nil => exact ⟨paired, by simp only [run, paired.awaiting, paired.cursor]⟩
  | cons token others inductionHypothesis =>
      rw [run, run]
      rcases State.advance_paired pairing paired token with
        ⟨fault, stopped, likewise⟩ | ⟨next, following, advanced, likewise, behind⟩
      · rw [stopped, likewise]
        exact ⟨{ paired with cursor := rfl }, rfl⟩
      · rw [advanced, likewise]
        by_cases ended : next.awaiting = .nothing
        · simp only [behind.awaiting, ended, if_true]
          exact ⟨behind, rfl⟩
        · simp only [behind.awaiting, ended, if_false]
          exact inductionHypothesis behind

/-- In front of a document any two machines are at the same point. -/
theorem State.initial_paired : State.initial.Paired Fits State.initial :=
  ⟨rfl, rfl, rfl, rfl, rfl, .nil⟩

end Run

end EditorData.Reference
