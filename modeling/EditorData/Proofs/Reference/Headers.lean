import EditorData.Proofs.Reference.Reading

/-!
# Headers of a document

The machine marks a header where it waits for the title of one, and the end of a header
where it waits for the end of the directive that closes it. It waits for these only behind
the tokens that lead there from a place between two items (`Awaiting.CameBy`), so the marks
can be read off the document: a header is marked at the first argument of a directive that
opens one, and its end at the bracket of a directive that closes one (`Reached.opened_iff`,
`Reached.closed_iff`).
-/

namespace EditorData.Reference

open EditorData.Directive

/-- Whether this is waited for on the way to the title of a header or to the end of one. -/
def Awaiting.onWay : Awaiting -> Bool
  | .tag | .headerBar | .headerTitle | .headerEnd => true
  | _ => false

/-- On that way, this is waited for behind the token if that was waited for in front of it. -/
def Awaiting.CameBy (before : Awaiting) (token : Token) : Awaiting -> Prop
  | .tag => before = .item ∧ token.kind = .opening
  | .headerBar => before = .tag ∧ token.kind = .segment ∧ token.lexeme = "header_open".toList
  | .headerTitle => before = .headerBar ∧ token.kind = .separator
  | .headerEnd => before = .tag ∧ token.kind = .segment ∧ token.lexeme = "header_close".toList
  | _ => False

namespace State

section CameBy

variable {scope : Scope} {state next : State} {token : Token}

/-- Behind the tag of a directive the machine is on the way only for a header or its end. -/
theorem cameBy_enter (kind : token.kind = .segment)
    (onWay : (state.enter token.lexeme).awaiting.onWay = true) :
    Awaiting.CameBy .tag token (state.enter token.lexeme).awaiting := by
  unfold enter at onWay ⊢
  split at onWay
  · next tag => simpa [tag] using ⟨rfl, kind, tag⟩
  · split at onWay
    · next tag => simpa [tag] using ⟨rfl, kind, tag⟩
    · repeat' split at onWay
      all_goals cases onWay

/-- A fragment leads nowhere. -/
theorem onWay_write (fragment : Text) :
    (state.write fragment).awaiting.onWay = state.awaiting.onWay := rfl

/-- The end of a header leads back between two items, or to the end. -/
theorem onWay_closeHeader : state.closeHeader.awaiting.onWay = false := by
  obtain ⟨phase, depth, ledger, awaiting, cursor, log⟩ := state
  by_cases last : depth = 1 <;> cases phase <;> simp [closeHeader, last] <;> rfl

/-- The arguments of a directive lead to its text or back between two items. -/
theorem onWay_conclude (argument : Text) (option : Option Text) (form : Form) :
    (state.conclude scope argument option form).awaiting.onWay = false := by
  cases form <;> rfl

/-- The end of a fragment of code leads back between two items. -/
theorem onWay_finishCode (ending : Ending) : (state.finishCode ending).awaiting.onWay = false := by
  obtain ⟨phase, depth, ledger, awaiting, cursor, log⟩ := state
  cases ending <;> cases phase <;> rfl

/-- The machine is on the way only behind the tokens that lead along it. -/
theorem cameBy_of_accept? (accepted : state.accept? scope token = some next)
    (onWay : next.awaiting.onWay = true) :
    Awaiting.CameBy state.awaiting token next.awaiting := by
  unfold accept? at accepted
  split at accepted
  case h_2 waits kind =>
    cases accepted
    exact ⟨waits, kind⟩
  case h_3 waits kind =>
    cases accepted
    rw [waits]
    exact cameBy_enter kind onWay
  case h_4 waits kind =>
    cases accepted
    exact ⟨waits, kind⟩
  -- behind every other token the machine is back between two items or inside of a directive
  all_goals
    refine absurd onWay (Bool.eq_false_iff.1 ?_)
    clear onWay
    try split at accepted
    all_goals cases accepted
    all_goals
      simp only [onWay_write, onWay_closeHeader, onWay_conclude, onWay_finishCode,
        await_awaiting, *]
    all_goals rfl

/-- The machine gets on the way only by the tokens that lead along it. -/
theorem cameBy_of_advance (advanced : state.advance scope token = .ok next)
    (onWay : next.awaiting.onWay = true) :
    Awaiting.CameBy state.awaiting token next.awaiting := by
  obtain ⟨accepted, found, rfl⟩ := accepted_of_advance advanced
  have cameBy : Awaiting.CameBy state.awaiting token accepted.awaiting :=
    cameBy_of_accept? found onWay
  exact cameBy

/-- These tokens do lead along the way. -/
theorem awaiting_of_cameBy {awaiting : Awaiting} (advanced : state.advance scope token = .ok next)
    (cameBy : Awaiting.CameBy state.awaiting token awaiting) : next.awaiting = awaiting := by
  obtain ⟨accepted, found, rfl⟩ := accepted_of_advance advanced
  unfold Awaiting.CameBy at cameBy
  split at cameBy
  case h_5 => exact cameBy.elim
  all_goals
    simp [accept?, enter, cameBy] at found
    rw [← found]
    rfl

/-- The title of a header is marked where the machine waits for one. -/
theorem mark?_eq_opened {title : Text} :
    state.mark? scope token = some (.opened title) ↔
      state.awaiting = .headerTitle ∧ token.kind = .segment ∧ token.lexeme = title := by
  unfold mark?
  split
  case h_4 form _ waits _ => cases form <;> simp [Form.mark?, waits]
  case h_5 form _ _ waits _ => cases form <;> simp [Form.mark?, waits]
  case h_8 ending waits _ => cases ending <;> simp [Ending.mark?, waits]
  all_goals simp_all

/-- The end of a header is marked where the machine waits for one. -/
theorem mark?_eq_closed :
    state.mark? scope token = some .closed ↔
      state.awaiting = .headerEnd ∧ token.kind = .closing := by
  unfold mark?
  split
  case h_4 form _ waits _ => cases form <;> simp [Form.mark?, waits]
  case h_5 form _ _ waits _ => cases form <;> simp [Form.mark?, waits]
  case h_8 ending waits _ => cases ending <;> simp [Ending.mark?, waits]
  all_goals simp_all

end CameBy

end State

/-- These tokens end with the tag of a directive that stands between two items. -/
def BehindTag (scope : Scope) (document : Text) (tag : Text) (front : List Token) : Prop :=
  ∃ earlier before bracket name, front = earlier ++ [bracket, name] ∧
    Reached scope document earlier before ∧ before.awaiting = .item ∧
    bracket.kind = .opening ∧ name.kind = .segment ∧ name.lexeme = tag

/-- Behind these tokens the token is the title of a header: the first argument of a directive
that opens one. -/
def OpensHeader (scope : Scope) (document : Text) (front : List Token) (token : Token)
    (title : Text) : Prop :=
  token.kind = .segment ∧ token.lexeme = title ∧
    ∃ earlier bar, front = earlier ++ [bar] ∧ bar.kind = .separator ∧
      BehindTag scope document "header_open".toList earlier

/-- Behind these tokens the token ends a directive that closes a header. -/
def ClosesHeader (scope : Scope) (document : Text) (front : List Token) (token : Token) : Prop :=
  token.kind = .closing ∧ BehindTag scope document "header_close".toList front

section Reached

variable {scope : Scope} {document : Text} {front : List Token} {state : State} {token : Token}

/-- On the way, the last token has led along it. -/
theorem Reached.cameBy (reached : Reached scope document front state)
    (onWay : state.awaiting.onWay = true) :
    ∃ earlier before token, front = earlier ++ [token] ∧ Reached scope document earlier before ∧
      Awaiting.CameBy before.awaiting token state.awaiting := by
  cases front using List.reverseRecOn with
  | nil =>
      cases reached.read
      cases onWay
  | append_singleton earlier token =>
      obtain ⟨before, upTo, last⟩ := reached.of_append
      have advanced := State.read_singleton.1 last
      exact ⟨earlier, before, token, rfl, upTo, State.cameBy_of_advance advanced onWay⟩

/-- A token that leads along the way does so wherever it is read. -/
theorem Reached.awaiting_of_cameBy {before : State} {awaiting : Awaiting}
    (upTo : Reached scope document front before)
    (reached : Reached scope document (front ++ [token]) state)
    (cameBy : Awaiting.CameBy before.awaiting token awaiting) : state.awaiting = awaiting :=
  State.awaiting_of_cameBy (upTo.advance reached) cameBy

/-- What only the given tag leads to is waited for exactly behind that tag. -/
theorem Reached.behindTag_iff (reached : Reached scope document front state)
    {tag : Text} {awaiting : Awaiting} (onWay : awaiting.onWay = true)
    (turns : ∀ before token, Awaiting.CameBy before token awaiting ↔
      before = .tag ∧ token.kind = .segment ∧ token.lexeme = tag) :
    state.awaiting = awaiting ↔ BehindTag scope document tag front := by
  constructor
  · rintro rfl
    obtain ⟨front, inside, name, rfl, upToName, cameBy⟩ := reached.cameBy onWay
    obtain ⟨waits, segment, spelled⟩ := (turns _ _).1 cameBy
    obtain ⟨earlier, before, bracket, rfl, upTo, opened⟩ := upToName.cameBy (by rw [waits]; rfl)
    rw [waits] at opened
    exact ⟨earlier, before, bracket, name, by simp, upTo, opened.1, opened.2, segment, spelled⟩
  · rintro ⟨earlier, before, bracket, name, rfl, upTo, waits, opening, segment, spelled⟩
    rw [List.append_cons] at reached
    obtain ⟨inside, upToName, _⟩ := reached.of_append
    have tagged : inside.awaiting = .tag := upTo.awaiting_of_cameBy upToName ⟨waits, opening⟩
    exact upToName.awaiting_of_cameBy reached ((turns _ _).2 ⟨tagged, segment, spelled⟩)

/-- A token marks a header exactly if it is the title of one. -/
theorem Reached.opened_iff (reached : Reached scope document front state) (title : Text) :
    state.mark? scope token = some (.opened title) ↔
      OpensHeader scope document front token title := by
  rw [State.mark?_eq_opened]
  constructor
  · rintro ⟨waits, segment, spelled⟩
    obtain ⟨earlier, before, bar, rfl, upTo, cameBy⟩ := reached.cameBy (by rw [waits]; rfl)
    rw [waits] at cameBy
    have behind := (upTo.behindTag_iff rfl fun _ _ => Iff.rfl).1 cameBy.1
    exact ⟨segment, spelled, earlier, bar, rfl, cameBy.2, behind⟩
  · rintro ⟨segment, spelled, earlier, bar, rfl, separates, behind⟩
    obtain ⟨before, upTo, _⟩ := reached.of_append
    have waits : before.awaiting = .headerBar :=
      (upTo.behindTag_iff rfl fun _ _ => Iff.rfl).2 behind
    have title : state.awaiting = .headerTitle :=
      upTo.awaiting_of_cameBy reached ⟨waits, separates⟩
    exact ⟨title, segment, spelled⟩

/-- A token marks the end of a header exactly if it ends a directive that closes one. -/
theorem Reached.closed_iff (reached : Reached scope document front state) :
    state.mark? scope token = some .closed ↔ ClosesHeader scope document front token := by
  have behind : state.awaiting = .headerEnd ↔
      BehindTag scope document "header_close".toList front :=
    reached.behindTag_iff rfl fun _ _ => Iff.rfl
  rw [State.mark?_eq_closed, behind, ClosesHeader, and_comm]

end Reached

end EditorData.Reference
