import EditorData.Proofs.Directive.Iteration
import EditorData.Proofs.Reference.Marks

/-!
# Readings

An extraction reads the tokens of its document one after the other. A reading is such a run
up to some token (`State.read`), and its trace is what the single steps show of themselves
(`State.trace`), such as the marks they meet (`State.marks`). `Reached` says that the
extraction of a document gets as far as a reading. An extraction either reaches a state that
waits for nothing and returns it, or reaches one that does not accept the next token and
stops there (`extract_ends`). What is kept by one token together with what it shows is kept
by a reading (`State.read_induction`).
-/

namespace EditorData.Reference

open EditorData.Directive

namespace State

/-- Read tokens one after the other. -/
def read (scope : Scope) (state : State) : List Token -> Except Unexpected State
  | [] => .ok state
  | token :: rest =>
      match state.advance scope token with
      | .error fault => .error fault
      | .ok next => next.read scope rest

/-- What the steps of a reading show, each of its state, its token and its next state. -/
def trace {α : Type} (scope : Scope) (view : State -> Token -> State -> Option α) (state : State) :
    List Token -> List α
  | [] => []
  | token :: rest =>
      match state.advance scope token with
      | .error _ => []
      | .ok next => (view state token next).toList ++ next.trace scope view rest

/-- The marks of tokens that are read one after the other. -/
def marks (scope : Scope) : State -> List Token -> List Mark :=
  trace scope fun state token _ => state.mark? scope token

variable {α : Type} {view : State -> Token -> State -> Option α} {scope : Scope}
  {state middle next : State} {front rest : List Token} {token : Token}

/-- A reading of a token and others reads the token first. -/
theorem read_cons :
    state.read scope (token :: rest) = .ok next ↔
      ∃ first, state.advance scope token = .ok first ∧ first.read scope rest = .ok next := by
  rw [read]
  cases state.advance scope token <;> simp

/-- Readings can be put one behind the other. -/
theorem read_append :
    state.read scope (front ++ rest) = .ok next ↔
      ∃ middle, state.read scope front = .ok middle ∧ middle.read scope rest = .ok next := by
  induction front generalizing state with
  | nil => simp [read]
  | cons token others inductionHypothesis =>
      simp only [List.cons_append, read_cons, inductionHypothesis]
      constructor
      · rintro ⟨first, advanced, middle, begun, continued⟩
        exact ⟨middle, ⟨first, advanced, begun⟩, continued⟩
      · rintro ⟨middle, ⟨first, advanced, begun⟩, continued⟩
        exact ⟨first, advanced, middle, begun, continued⟩

/-- A reading of one token. -/
theorem read_singleton :
    state.read scope [token] = .ok next ↔ state.advance scope token = .ok next := by
  cases advanced : state.advance scope token <;> simp [read, advanced]

/-- The traces of two readings, one behind the other. -/
theorem trace_append (begun : state.read scope front = .ok middle) :
    state.trace scope view (front ++ rest) =
      state.trace scope view front ++ middle.trace scope view rest := by
  induction front generalizing state with
  | nil =>
      cases begun
      rfl
  | cons token others inductionHypothesis =>
      obtain ⟨first, advanced, begun⟩ := read_cons.1 begun
      simp [trace, advanced, inductionHypothesis begun]

/-- The trace of one token. -/
theorem trace_singleton (advanced : state.advance scope token = .ok next) :
    state.trace scope view [token] = (view state token next).toList := by
  simp [trace, advanced]

/-- What every token keeps, together with what has been shown so far, is kept by a reading. -/
theorem read_induction {motive : List α -> State -> Prop}
    (kept : ∀ {history state token next}, motive history state ->
      state.advance scope token = .ok next ->
      motive (history ++ (view state token next).toList) next)
    {history : List α} (holds : motive history state)
    (read : state.read scope front = .ok next) :
    motive (history ++ state.trace scope view front) next := by
  induction front generalizing state history with
  | nil =>
      cases read
      simpa [trace] using holds
  | cons token others inductionHypothesis =>
      obtain ⟨first, advanced, continued⟩ := read_cons.1 read
      have behind := inductionHypothesis (kept holds advanced) continued
      simpa [trace, advanced] using behind

/-- A machine that waits for nothing reads nothing. -/
theorem waits_of_advance (advanced : state.advance scope token = .ok next) :
    state.awaiting ≠ .nothing := by
  intro ended
  obtain ⟨accepted, found, _⟩ := accepted_of_advance advanced
  simp [accept?, ended] at found

/-- Behind a token that is not read there is nothing to show. -/
theorem trace_of_stopped {fault : Unexpected} (stopped : state.advance scope token = .error fault) :
    state.trace scope view (token :: rest) = [] := by
  simp [trace, stopped]

/-- A machine that waits for nothing has nothing to show. -/
theorem trace_of_ended (ended : state.awaiting = .nothing) : state.trace scope view rest = [] := by
  cases rest with
  | nil => rfl
  | cons token others =>
      cases advanced : state.advance scope token with
      | error fault => exact trace_of_stopped advanced
      | ok next => exact absurd ended (waits_of_advance advanced)

/-- What a reading shows is shown by one of its steps. -/
theorem step_of_mem_trace {shown : α} (mem : shown ∈ state.trace scope view front) :
    ∃ before token after middle next, front = before ++ token :: after ∧
      state.read scope before = .ok middle ∧ middle.advance scope token = .ok next ∧
      view middle token next = some shown := by
  induction front generalizing state with
  | nil => cases mem
  | cons token others inductionHypothesis =>
      cases advanced : state.advance scope token with
      | error fault => simp [trace, advanced] at mem
      | ok first =>
          simp only [trace, advanced, List.mem_append, Option.mem_toList] at mem
          rcases mem with here | later
          · exact ⟨[], token, others, state, first, rfl, rfl, advanced, here⟩
          · obtain ⟨before, found, after, middle, next, split, read, step, view⟩ :=
              inductionHypothesis later
            exact ⟨token :: before, found, after, middle, next, by simp [split],
              read_cons.2 ⟨first, advanced, read⟩, step, view⟩

/-- A reading begins in a state that waits for something if it ends in one. -/
theorem waits_of_read (read : state.read scope front = .ok next) (going : next.awaiting ≠ .nothing) :
    state.awaiting ≠ .nothing := by
  cases front with
  | nil =>
      cases read
      exact going
  | cons token others =>
      obtain ⟨_, advanced, _⟩ := read_cons.1 read
      exact waits_of_advance advanced

/-- A token that is read is not final. -/
theorem isFinal_of_advance (advanced : state.advance scope token = .ok next) :
    token.kind.isFinal = false := by
  obtain ⟨accepted, found, _⟩ := accepted_of_advance advanced
  cases final : token.kind.isFinal with
  | false => rfl
  | true =>
      rw [accept?_of_isFinal scope state final] at found
      cases found

end State

section Run

variable {scope : Scope} {state next : State} {front rest : List Token} {token : Token}

/-- As long as the machine waits for something, the run goes on behind a reading. -/
theorem run_append (read : state.read scope front = .ok next) (going : next.awaiting ≠ .nothing) :
    run scope state (front ++ rest) = run scope next rest := by
  induction front generalizing state with
  | nil =>
      cases read
      rfl
  | cons token others inductionHypothesis =>
      obtain ⟨first, advanced, continued⟩ := State.read_cons.1 read
      have waits := State.waits_of_read continued going
      rw [List.cons_append, run, advanced]
      simp only [waits, if_false]
      exact inductionHypothesis continued

/-- A run returns behind the first token that leaves nothing to wait for. -/
theorem run_of_ended (read : state.read scope (front ++ [token]) = .ok next)
    (ended : next.awaiting = .nothing) : run scope state (front ++ token :: rest) = ⟨next, none⟩ := by
  obtain ⟨current, begun, last⟩ := State.read_append.1 read
  have advanced := State.read_singleton.1 last
  rw [run_append begun (State.waits_of_advance advanced), run, advanced]
  simp [ended]

/-- A run stops at the first token that is not read. -/
theorem run_of_stopped {fault : Unexpected} (read : state.read scope front = .ok next)
    (waits : next.awaiting ≠ .nothing) (stopped : next.advance scope token = .error fault) :
    run scope state (front ++ token :: rest) =
      ⟨{ next with cursor := token.stop }, some fault⟩ := by
  rw [run_append read waits, run, stopped]

/-- Tokens that end with a final one are read up to a token that leaves nothing to wait for
or that is not read. -/
theorem exists_reading (waits : state.awaiting ≠ .nothing) {last : Token}
    (final : last.kind.isFinal = true) :
    ∃ before token after current, front ++ [last] = before ++ token :: after ∧
      state.read scope before = .ok current ∧ current.awaiting ≠ .nothing ∧
      ((∃ next, current.advance scope token = .ok next ∧ next.awaiting = .nothing) ∨
        ∃ fault, current.advance scope token = .error fault) := by
  induction front generalizing state with
  | nil =>
      refine ⟨[], last, [], state, rfl, rfl, waits, .inr ?_⟩
      cases advanced : state.advance scope last with
      | error fault => exact ⟨fault, rfl⟩
      | ok next =>
          rw [State.isFinal_of_advance advanced] at final
          cases final
  | cons token others inductionHypothesis =>
      cases advanced : state.advance scope token with
      | error fault =>
          exact ⟨[], token, others ++ [last], state, rfl, rfl, waits, .inr ⟨fault, advanced⟩⟩
      | ok next =>
          by_cases ended : next.awaiting = .nothing
          · exact ⟨[], token, others ++ [last], state, rfl, rfl, waits,
              .inl ⟨next, advanced, ended⟩⟩
          · obtain ⟨before, further, after, current, split, read, going, outcome⟩ :=
              inductionHypothesis ended
            refine ⟨token :: before, further, after, current, by simp [split], ?_, going, outcome⟩
            exact State.read_cons.2 ⟨next, advanced, read⟩

end Run

/-- The extraction of the document reads these tokens and is then in this state. -/
structure Reached (scope : Scope) (document : Text) (front : List Token) (state : State) :
    Prop where
  begins : front <+: tokens document
  read : State.initial.read scope front = .ok state

section Reached

variable {scope : Scope} {document : Text} {front more : List Token} {state next : State}
  {token : Token}

/-- What is reached goes through what is reached before. -/
theorem Reached.of_append (reached : Reached scope document (front ++ more) next) :
    ∃ state, Reached scope document front state ∧ state.read scope more = .ok next := by
  obtain ⟨state, begun, continued⟩ := State.read_append.1 reached.read
  exact ⟨state, ⟨(List.prefix_append front more).trans reached.begins, begun⟩, continued⟩

/-- Tokens lead to one state only. -/
theorem Reached.unique {other : State} (reached : Reached scope document front state)
    (likewise : Reached scope document front other) : state = other :=
  Except.ok.inj (reached.read.symm.trans likewise.read)

/-- One more token is read from the state in front of it. -/
theorem Reached.advance (reached : Reached scope document front state)
    (further : Reached scope document (front ++ [token]) next) :
    state.advance scope token = .ok next := by
  obtain ⟨same, upTo, last⟩ := further.of_append
  cases reached.unique upTo
  exact State.read_singleton.1 last

/-- A state that waits for nothing is what the extraction returns. -/
theorem Reached.extract_eq (reached : Reached scope document front state)
    (ended : state.awaiting = .nothing) : extract scope document = ⟨state, none⟩ := by
  obtain ⟨⟨rest, all⟩, read⟩ := reached
  cases front using List.reverseRecOn with
  | nil =>
      cases read
      cases ended
  | append_singleton earlier token =>
      rw [extract, ← all, List.append_assoc]
      exact run_of_ended read ended

end Reached

/-- An extraction returns behind a token that leaves nothing to wait for, or it stops at a
token that is not read. -/
theorem extract_ends (scope : Scope) (document : Text) :
    ∃ front token rest state, tokens document = front ++ token :: rest ∧
      Reached scope document front state ∧ state.awaiting ≠ .nothing ∧
      ((∃ next, state.advance scope token = .ok next ∧ next.awaiting = .nothing ∧
          extract scope document = ⟨next, none⟩) ∨
        ∃ fault, state.advance scope token = .error fault ∧
          extract scope document = ⟨{ state with cursor := token.stop }, some fault⟩) := by
  obtain ⟨others, last, all, final, _⟩ := (tiling_tokens document).split
  obtain ⟨front, token, rest, state, split, read, waits, outcome⟩ :=
    @exists_reading scope .initial others nofun last final
  rw [← all] at split
  refine ⟨front, token, rest, state, split, ⟨⟨_, split.symm⟩, read⟩, waits, ?_⟩
  rcases outcome with ⟨next, advanced, ended⟩ | ⟨fault, stopped⟩
  · refine .inl ⟨next, advanced, ended, ?_⟩
    rw [extract, split]
    exact run_of_ended (State.read_append.2 ⟨state, read, State.read_singleton.2 advanced⟩) ended
  · refine .inr ⟨fault, stopped, ?_⟩
    rw [extract, split]
    exact run_of_stopped read waits stopped

/-- Where an extraction ends it is as far as a reading, and the whole document shows no more
than that reading. -/
theorem extract_reached {α : Type} (view : State -> Token -> State -> Option α) (scope : Scope)
    (document : Text) :
    ∃ front state, Reached scope document front state ∧
      (extract scope document).state.progress = state.progress ∧
      State.initial.trace scope view (tokens document) = State.initial.trace scope view front := by
  obtain ⟨front, token, rest, state, all, reached, _, ends⟩ := extract_ends scope document
  rcases ends with ⟨next, advanced, ended, same⟩ | ⟨fault, stopped, same⟩
  · have read := State.read_append.2 ⟨state, reached.read, State.read_singleton.2 advanced⟩
    have split : tokens document = (front ++ [token]) ++ rest := by simp [all]
    refine ⟨front ++ [token], next, ⟨⟨rest, split.symm⟩, read⟩, by rw [same], ?_⟩
    rw [split, State.trace_append read, State.trace_of_ended ended, List.append_nil]
  · refine ⟨front, state, reached, by rw [same]; rfl, ?_⟩
    rw [all, State.trace_append reached.read, State.trace_of_stopped stopped, List.append_nil]

end EditorData.Reference
