import EditorData.Proofs.Directive.Borders
import EditorData.Proofs.Reference.Reading

/-!
# Runs at another place

Where a token stands in its document decides nothing but the offsets that the machine gives:
its cursor, the place of a fault, and the report that the section has been found. So a run
that begins further behind, with the tokens moved by as much, goes through the same states
further behind (`run_movedBy`).
-/

namespace EditorData.Reference

open EditorData.Directive

/-- The fault at a place further behind. -/
def Unexpected.shift (distance : Nat) (fault : Unexpected) : Unexpected :=
  { fault with found := fault.found.shift distance }

/-- The second machine is where the first one is, further behind in its document. What they
have reported may name different offsets. -/
structure State.MovedBy (distance : Nat) (near far : State) : Prop where
  phase : far.phase = near.phase
  depth : far.depth = near.depth
  records : far.records = near.records
  awaiting : far.awaiting = near.awaiting
  cursor : far.cursor = near.cursor + distance

/-- The second extraction ends where the first one does, further behind in its document: in
the same state, and with the same fault if there is one. -/
structure Outcome.MovedBy (distance : Nat) (near far : Outcome) : Prop where
  state : near.state.MovedBy distance far.state
  fault : far.fault = near.fault.map (Unexpected.shift distance)

namespace State

variable {scope : Scope} {distance : Nat} {near far state : State} {token : Token}

/-- The machine further behind is the other one with a cursor and a log of its own. -/
theorem MovedBy.eq_placed (moved : near.MovedBy distance far) :
    far = near.placed (near.cursor + distance) far.log := by
  have ledger : far.ledger = near.ledger := Ledger.ext_records moved.records
  obtain ⟨_, _, _, _, _, _⟩ := far
  obtain ⟨rfl, rfl, _, rfl, rfl⟩ := moved
  obtain rfl : _ = near.ledger := ledger
  rfl

/-- A title is taken in the same way at another place, but for the report. -/
theorem exists_openHeader_placed (title : Text) (cursor stop later : Nat)
    (log : List Logging.Entry) :
    ∃ entries, (state.placed cursor log).openHeader scope title later =
      (state.openHeader scope title stop).placed cursor entries := by
  obtain ⟨phase, depth, ledger, awaiting, before, reported⟩ := state
  cases phase with
  | searching =>
      by_cases same : title = scope.anchor
      · exact ⟨_, by simp only [openHeader, placed, same, if_true]; rfl⟩
      · exact ⟨_, by simp only [openHeader, placed, same, if_false]; rfl⟩
  | introduction => exact ⟨_, rfl⟩
  | heading => exact ⟨_, rfl⟩
  | body => exact ⟨_, rfl⟩

/-- The end of a header is taken in the same way at another place. -/
@[simp] theorem placed_closeHeader (cursor : Nat) (log : List Logging.Entry) :
    (state.placed cursor log).closeHeader = state.closeHeader.placed cursor log := by
  obtain ⟨phase, depth, ledger, awaiting, before, reported⟩ := state
  cases phase <;> rfl

/-- A token is accepted in the same way at another place. -/
theorem exists_accept?_placed (cursor : Nat) (log : List Logging.Entry) :
    ∃ entries, (state.placed cursor log).accept? scope (token.shift distance) =
      (state.accept? scope token).map fun next => next.placed cursor entries := by
  obtain ⟨kind, start, lexeme⟩ := token
  by_cases titled : state.awaiting = .headerTitle ∧ kind = .segment
  · obtain ⟨waits, rfl⟩ := titled
    obtain ⟨entries, same⟩ := @exists_openHeader_placed scope state lexeme cursor
      (start + lexeme.length) (start + distance + lexeme.length) log
    refine ⟨entries, ?_⟩
    simp only [accept?, placed_awaiting, waits, Token.shift, Token.stop, same]
    rfl
  · refine ⟨log, ?_⟩
    unfold accept?
    simp only [placed_awaiting, Token.shift]
    split <;> simp_all
    case h_1 => exact (apply_ite (fun state : State => state.placed cursor log) ..).symm
    case h_21 => rfl
    case h_24 => split <;> rfl
    case h_29 => split <;> rfl

/-- A token is read in the same way at another place, and so is it refused. -/
theorem exists_advance_placed (cursor : Nat) (log : List Logging.Entry) :
    ∃ entries, (state.placed cursor log).advance scope (token.shift distance) =
      match state.advance scope token with
      | .ok next => .ok (next.placed (next.cursor + distance) entries)
      | .error fault => .error (fault.shift distance) := by
  obtain ⟨entries, accepted⟩ := @exists_accept?_placed scope distance state token cursor log
  have misfit : (state.placed cursor log).misfit? (token.shift distance) = state.misfit? token :=
    rfl
  refine ⟨entries, ?_⟩
  unfold advance
  rw [misfit, accepted]
  cases state.misfit? token with
  | some expected => rfl
  | none =>
      cases state.accept? scope token with
      | none => rfl
      | some next => simp [placed, Token.shift, Token.stop, Nat.add_right_comm]

end State

/-- A run further behind goes through the same states. -/
theorem run_movedBy {scope : Scope} {distance : Nat} {near far : State}
    (moved : near.MovedBy distance far) (tokens : List Token) :
    (run scope near tokens).MovedBy distance
      (run scope far (tokens.map (Token.shift distance))) := by
  induction tokens generalizing near far with
  | nil =>
      refine ⟨moved, ?_⟩
      simp [run, Unexpected.shift, Token.shift, moved.awaiting, moved.cursor]
  | cons token others inductionHypothesis =>
      obtain ⟨entries, same⟩ := @State.exists_advance_placed scope distance near token
        (near.cursor + distance) far.log
      rw [← moved.eq_placed] at same
      rw [List.map_cons, run, run, same]
      cases near.advance scope token with
      | error fault =>
          obtain ⟨phase, depth, records, awaiting, _⟩ := moved
          exact ⟨⟨phase, depth, records, awaiting, Nat.add_right_comm _ _ _⟩, rfl⟩
      | ok next =>
          have moved : next.MovedBy distance (next.placed (next.cursor + distance) entries) :=
            ⟨rfl, rfl, rfl, rfl, rfl⟩
          by_cases ended : next.awaiting = .nothing
          · simp only [State.placed_awaiting, ended, if_true]
            exact ⟨moved, rfl⟩
          · simp only [State.placed_awaiting, ended, if_false]
            exact inductionHypothesis moved

end EditorData.Reference
