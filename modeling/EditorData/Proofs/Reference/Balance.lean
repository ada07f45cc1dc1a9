import EditorData.Proofs.Reference.Headers

/-!
# Balance of the headers

The machine counts the headers of the section that are open. Whatever it has read, as long
as it waits for something, its count is the number of headers that its marks open from the
header of the section on, less those that they close (`Progress.Coherent`); the part of the
document that it is in says whether there are such headers and whether there is an entry.
This is kept by every mark but the one that closes the header of the section
(`Progress.Coherent.append`), so it holds wherever an extraction gets to, and an extraction
returns exactly when the balance first comes to nothing (`extract_coherent`).
-/

namespace EditorData.Reference

open EditorData.Directive

/-- Whether the mark is the title of a header. -/
def Mark.isOpened : Mark -> Bool
  | .opened _ => true
  | _ => false

/-- The marks from the header of the section on. -/
def sectionMarks (scope : Scope) (marks : List Mark) : List Mark :=
  marks.dropWhile (· ≠ .opened scope.anchor)

/-- How many more headers are opened than closed. -/
def headerBalance (marks : List Mark) : Int :=
  marks.countP Mark.isOpened - marks.count .closed

/-- The marks open the section and from there on close as many headers as they open. -/
def SectionClosed (scope : Scope) (marks : List Mark) : Prop :=
  sectionMarks scope marks ≠ [] ∧ headerBalance (sectionMarks scope marks) = 0

section Marks

variable {scope : Scope} {marks : List Mark}

/-- One more mark behind the header of the section. -/
theorem sectionMarks_append_of_ne_nil (found : sectionMarks scope marks ≠ []) (mark : Mark) :
    sectionMarks scope (marks ++ [mark]) = sectionMarks scope marks ++ [mark] := by
  unfold sectionMarks at found ⊢
  rw [List.dropWhile_append, if_neg (by simpa using found)]

/-- One more mark in front of the header of the section. -/
theorem sectionMarks_append_of_nil (none : sectionMarks scope marks = []) (mark : Mark) :
    sectionMarks scope (marks ++ [mark]) =
      if mark = .opened scope.anchor then [mark] else [] := by
  unfold sectionMarks at none ⊢
  rw [List.dropWhile_append, none]
  by_cases same : mark = .opened scope.anchor <;> simp [same]

/-- The balance changes with the last mark. -/
theorem headerBalance_append (marks : List Mark) (mark : Mark) :
    headerBalance (marks ++ [mark]) = headerBalance marks + headerBalance [mark] := by
  simp only [headerBalance, List.countP_append, List.count_append]
  omega

@[simp] theorem headerBalance_nil : headerBalance [] = 0 := rfl

@[simp] theorem headerBalance_opened (title : Text) : headerBalance [.opened title] = 1 := rfl

@[simp] theorem headerBalance_closed : headerBalance [.closed] = -1 := rfl

@[simp] theorem headerBalance_prose (text : Text) : headerBalance [.prose text] = 0 := rfl

@[simp] theorem headerBalance_inline (code : Text) : headerBalance [.inline code] = 0 := rfl

@[simp] theorem headerBalance_fragment (text : Text) : headerBalance [.fragment text] = 0 := rfl

/-- Only the end of a header lowers the balance. -/
theorem headerBalance_singleton (mark : Mark) :
    mark = .closed ∧ headerBalance [mark] = -1 ∨ 0 ≤ headerBalance [mark] := by
  cases mark <;> simp

end Marks

namespace Progress

/-- What the progress says about the marks that led to it, as long as the section is not
closed. -/
structure Coherent (scope : Scope) (marks : List Mark) (progress : Progress) : Prop where
  /-- Headers are open exactly inside the section. -/
  searching : progress.phase = .searching ↔ progress.depth = 0
  /-- The section begins with the first header that has its title. -/
  found : progress.phase = .searching ↔ sectionMarks scope marks = []
  balance : progress.depth = headerBalance (sectionMarks scope marks)
  /-- The introduction is directly in the section. -/
  introduction : progress.phase = .introduction -> progress.depth = 1
  /-- Entries are there exactly behind the introduction. -/
  empty : progress.records = [] ↔ progress.phase = .searching ∨ progress.phase = .introduction

section Components

variable (scope : Scope) (progress : Progress) (text : Text) (mark : Mark)

@[simp] theorem phase_write : (progress.write text).phase = progress.phase := by
  obtain ⟨phase, depth, records⟩ := progress
  cases records <;> rfl

@[simp] theorem depth_write : (progress.write text).depth = progress.depth := by
  obtain ⟨phase, depth, records⟩ := progress
  cases records <;> rfl

@[simp] theorem records_write_eq_nil :
    (progress.write text).records = [] ↔ progress.records = [] := by
  obtain ⟨phase, depth, records⟩ := progress
  cases records <;> simp [write]

@[simp] theorem depth_sign : (progress.sign text).depth = progress.depth := by
  obtain ⟨phase, depth, records⟩ := progress
  cases records <;> rfl

@[simp] theorem records_sign_eq_nil :
    (progress.sign text).records = [] ↔ progress.records = [] := by
  obtain ⟨phase, depth, records⟩ := progress
  cases records <;> simp [sign]

variable {progress}

/-- The machine does not go back in front of the section. -/
theorem phase_absorb_ne (inside : progress.phase ≠ .searching) :
    (progress.absorb scope mark).phase ≠ .searching := by
  obtain ⟨phase, depth, records⟩ := progress
  cases phase <;> cases mark <;> simp_all [absorb, openHeader, closeHeader, finishInline]

/-- In the section every header is counted. -/
theorem depth_absorb (inside : progress.phase ≠ .searching) (positive : progress.depth ≠ 0) :
    ((progress.absorb scope mark).depth : Int) = progress.depth + headerBalance [mark] := by
  obtain ⟨phase, depth, records⟩ := progress
  cases phase <;> cases mark <;>
    simp_all [absorb, openHeader, closeHeader, finishInline] <;> omega

/-- Behind the introduction there is an entry, and only there. -/
theorem records_absorb_eq_nil (inside : progress.phase ≠ .searching)
    (empty : progress.records = [] ↔ progress.phase = .introduction) :
    (progress.absorb scope mark).records = [] ↔
      (progress.absorb scope mark).phase = .introduction := by
  obtain ⟨phase, depth, records⟩ := progress
  cases phase <;> cases mark <;> simp_all [absorb, openHeader, closeHeader, finishInline]

/-- The first header in the introduction ends it. -/
theorem introduction_of_absorb (inside : progress.phase ≠ .searching)
    (introduction : (progress.absorb scope mark).phase = .introduction) :
    progress.phase = .introduction ∧ (mark = .closed ∨ headerBalance [mark] = 0) := by
  obtain ⟨phase, depth, records⟩ := progress
  cases phase <;> cases mark <;> simp_all [absorb, openHeader, closeHeader, finishInline]

end Components

section Kept

variable {scope : Scope} {marks : List Mark} {progress : Progress}

/-- In front of the section only its header matters. -/
theorem Coherent.of_searching (coherent : progress.Coherent scope marks)
    (outside : progress.phase = .searching) (mark : Mark) :
    (progress.absorb scope mark).Coherent scope (marks ++ [mark]) := by
  have behind := sectionMarks_append_of_nil (coherent.found.1 outside) mark
  have closed := coherent.searching.1 outside
  have none := coherent.empty.2 (.inl outside)
  obtain ⟨phase, depth, records⟩ := progress
  cases outside
  cases closed
  cases none
  cases mark with
  | opened title =>
      by_cases same : title = scope.anchor
      · subst same
        constructor <;> simp [Progress.absorb, openHeader, behind]
      · constructor <;> simp [Progress.absorb, openHeader, same, behind]
  | _ => constructor <;> simp [Progress.absorb, closeHeader, finishInline, write, behind]

/-- In the section headers are counted, as long as one of them is open. -/
theorem Coherent.of_inside (coherent : progress.Coherent scope marks)
    (inside : progress.phase ≠ .searching) {mark : Mark}
    (going : ¬ (mark = .closed ∧ progress.depth = 1)) :
    (progress.absorb scope mark).Coherent scope (marks ++ [mark]) := by
  have behind := sectionMarks_append_of_ne_nil (fun none => inside (coherent.found.2 none)) mark
  have positive : progress.depth ≠ 0 := fun zero => inside (coherent.searching.2 zero)
  have within := phase_absorb_ne scope mark inside
  have counted := depth_absorb scope mark inside positive
  have empty := records_absorb_eq_nil scope mark inside (by simpa [inside] using coherent.empty)
  constructor
  case searching =>
    refine iff_of_false within fun zero => ?_
    rcases headerBalance_singleton mark with ⟨closed, less⟩ | more
    · exact going ⟨closed, by omega⟩
    · omega
  case found => simp [within, behind]
  case balance => rw [counted, behind, headerBalance_append, coherent.balance]
  case introduction =>
    intro introduction
    obtain ⟨before, kept⟩ := introduction_of_absorb scope mark inside introduction
    have one := coherent.introduction before
    have notClosed : mark ≠ .closed := fun closed => going ⟨closed, one⟩
    have same := kept.resolve_left notClosed
    omega
  case empty => simpa [within] using empty

/-- Every mark that does not close the section keeps the progress coherent. -/
theorem Coherent.append (coherent : progress.Coherent scope marks) {mark : Mark}
    (going : ¬ (mark = .closed ∧ progress.phase ≠ .searching ∧ progress.depth = 1)) :
    (progress.absorb scope mark).Coherent scope (marks ++ [mark]) := by
  by_cases outside : progress.phase = .searching
  · exact coherent.of_searching outside mark
  · exact coherent.of_inside outside fun ⟨closed, one⟩ => going ⟨closed, outside, one⟩

/-- The mark that closes the section does so with the last of its open headers. -/
theorem Coherent.sectionClosed (coherent : progress.Coherent scope marks)
    (inside : progress.phase ≠ .searching) (last : progress.depth = 1) :
    SectionClosed scope (marks ++ [.closed]) := by
  have behind := sectionMarks_append_of_ne_nil (fun none => inside (coherent.found.2 none)) .closed
  have balance := coherent.balance
  refine ⟨by simp [behind], ?_⟩
  rw [behind, headerBalance_append, ← balance, last]
  rfl

/-- As long as the progress is coherent, the section is not closed. -/
theorem Coherent.not_sectionClosed (coherent : progress.Coherent scope marks) :
    ¬ SectionClosed scope marks := by
  rintro ⟨found, closed⟩
  have zero : progress.depth = 0 := by
    have balance := coherent.balance
    omega
  exact found (coherent.found.1 (coherent.searching.2 zero))

end Kept

end Progress

/-- What a reading leaves behind: a coherent progress, or a section that is closed. -/
def State.Consistent (scope : Scope) (marks : List Mark) (state : State) : Prop :=
  if state.awaiting = .nothing then SectionClosed scope marks
  else state.progress.Coherent scope marks

/-- Reading one token keeps the machine consistent. -/
theorem State.Consistent.advance {scope : Scope} {state next : State} {token : Token}
    {history : List Mark} (consistent : state.Consistent scope history)
    (advanced : state.advance scope token = .ok next) :
    next.Consistent scope (history ++ (state.mark? scope token).toList) := by
  obtain ⟨progress, ends⟩ := State.follows_of_advance advanced
  simp only [State.Consistent, State.waits_of_advance advanced, if_false] at consistent
  by_cases ended : next.awaiting = .nothing
  · obtain ⟨closed, inside, last⟩ := ends.1 ended
    rw [State.Consistent, if_pos ended, closed]
    exact consistent.sectionClosed inside last
  · rw [State.Consistent, if_neg ended, progress]
    cases marked : state.mark? scope token with
    | none => simpa [Progress.after] using consistent
    | some mark =>
        refine consistent.append fun ⟨closed, inside, last⟩ => ended (ends.2 ⟨?_, inside, last⟩)
        rw [marked, closed]

/-- The entries found so far, in document order. -/
def State.entries (state : State) : List RawBuiltin :=
  state.records.reverse

/-- Behind the introduction there is an entry that is being written, the last one, and fragments
and signatures go to it. Up to there none is being written, and they go nowhere. -/
def State.WritesToLast (state : State) : Prop :=
  match state.phase with
  | .searching | .introduction =>
      state.entries = [] ∧ state.ledger.current = none ∧ state.current? = none ∧
        ∀ text, state.write text = state ∧ state.sign text = state
  | .heading | .body =>
      ∃ earlier current, state.entries = earlier ++ [current] ∧
        state.ledger.current = some earlier.length ∧ state.current? = some current ∧
        ∀ text, (state.write text).entries =
            earlier ++ [{ current with documentation := current.documentation ++ [text] }] ∧
          (state.sign text).entries = earlier ++ [{ current with signature := text }]

/-- Without an entry none is being written. -/
theorem State.writes_of_nil {state : State} (none : state.records = []) :
    state.entries = [] ∧ state.ledger.current = Option.none ∧ state.current? = Option.none ∧
      ∀ text, state.write text = state ∧ state.sign text = state := by
  refine ⟨?_, Ledger.current_eq_none_iff.mpr none, ?_, fun text => ⟨?_, ?_⟩⟩
  · rw [entries, none, List.reverse_nil]
  · rw [current?_eq_head?, none, List.head?_nil]
  · rw [write, Ledger.change_of_nil none]
  · rw [sign, Ledger.change_of_nil none]

/-- The last entry is the one that is being written. -/
theorem State.writes_of_cons {state : State} {current : RawBuiltin} {earlier : List RawBuiltin}
    (found : state.records = current :: earlier) :
    ∃ earlier current, state.entries = earlier ++ [current] ∧
      state.ledger.current = some earlier.length ∧ state.current? = some current ∧
      ∀ text, (state.write text).entries =
          earlier ++ [{ current with documentation := current.documentation ++ [text] }] ∧
        (state.sign text).entries = earlier ++ [{ current with signature := text }] := by
  refine ⟨earlier.reverse, current, ?_, ?_, ?_, fun text => ⟨?_, ?_⟩⟩
  · rw [entries, found, List.reverse_cons]
  · rw [List.length_reverse]
    exact Ledger.current_of_cons found
  · rw [current?_eq_head?, found, List.head?_cons]
  · rw [entries, records_write, found, List.modifyHead_cons, List.reverse_cons, RawBuiltin.append]
  · rw [entries, records_sign, found, List.modifyHead_cons, List.reverse_cons]

/-- A coherent progress decides where fragments and signatures go. -/
theorem State.writesToLast_of_coherent {scope : Scope} {marks : List Mark} {state : State}
    (coherent : state.progress.Coherent scope marks) : state.WritesToLast := by
  have empty : state.records = [] ↔ state.phase = .searching ∨ state.phase = .introduction :=
    coherent.empty
  unfold WritesToLast
  cases phase : state.phase <;> rw [phase] at empty
  case searching => exact writes_of_nil (empty.mpr (.inl rfl))
  case introduction => exact writes_of_nil (empty.mpr (.inr rfl))
  all_goals
    obtain ⟨current, earlier, found⟩ := List.exists_cons_of_ne_nil (mt empty.mp (by simp))
    exact writes_of_cons found

section Reached

variable {scope : Scope} {document : Text} {front : List Token} {state : State}

/-- Wherever an extraction gets to, the machine is consistent. -/
theorem Reached.consistent (reached : Reached scope document front state) :
    state.Consistent scope (State.initial.marks scope front) := by
  have initial : State.initial.Consistent scope [] := by
    constructor <;> simp [State.progress, State.initial, Ledger.empty, sectionMarks]
  exact State.read_induction State.Consistent.advance initial reached.read

/-- As long as it waits for something, its progress is coherent. -/
theorem Reached.coherent (reached : Reached scope document front state)
    (waits : state.awaiting ≠ .nothing) :
    state.progress.Coherent scope (State.initial.marks scope front) := by
  have consistent := reached.consistent
  rwa [State.Consistent, if_neg waits] at consistent

/-- It waits for nothing exactly where the section is closed. -/
theorem Reached.ended_iff (reached : Reached scope document front state) :
    state.awaiting = .nothing ↔ SectionClosed scope (State.initial.marks scope front) := by
  have consistent := reached.consistent
  constructor
  · intro ended
    rwa [State.Consistent, if_pos ended] at consistent
  · intro closed
    by_contra waits
    exact (reached.coherent waits).not_sectionClosed closed

end Reached

/-- An extraction returns a state exactly if reading to it closes the section. -/
theorem Reached.returns_iff {scope : Scope} {document : Text} {front : List Token} {state : State}
    (reached : Reached scope document front state) :
    extract scope document = ⟨state, none⟩ ↔
      SectionClosed scope (State.initial.marks scope front) := by
  rw [← reached.ended_iff]
  constructor
  · intro returns
    obtain ⟨_, _, _, _, _, _, _, ends⟩ := extract_ends scope document
    rcases ends with ⟨next, _, ended, same⟩ | ⟨fault, _, same⟩
    · cases returns.symm.trans same
      exact ended
    · cases returns.symm.trans same
  · exact reached.extract_eq

/-- An extraction that returns has read the end of a header which closes the section, and
nothing before it does. -/
theorem returns_behind_closing {scope : Scope} {document : Text} {state : State}
    (returns : extract scope document = ⟨state, none⟩) :
    ∃ front token, Reached scope document (front ++ [token]) state ∧
      State.initial.marks scope (front ++ [token]) =
        State.initial.marks scope front ++ [.closed] ∧
      token.kind = .closing ∧ state.cursor = token.stop ∧
      ∀ earlier, earlier <+: front ->
        ¬ SectionClosed scope (State.initial.marks scope earlier) := by
  obtain ⟨front, token, rest, before, all, reached, waits, ends⟩ := extract_ends scope document
  rcases ends with ⟨next, advanced, ended, same⟩ | ⟨fault, _, same⟩
  · cases returns.symm.trans same
    obtain ⟨closed, _, _⟩ := (State.follows_of_advance advanced).ends.1 ended
    have read := State.read_append.2 ⟨before, reached.read, State.read_singleton.2 advanced⟩
    have begins : front ++ [token] <+: tokens document := ⟨rest, by simp [all]⟩
    refine ⟨front, token, ⟨begins, read⟩, ?_, (State.mark?_eq_closed.1 closed).2, ?_, ?_⟩
    · rw [State.marks, State.trace_append reached.read, State.trace_singleton advanced, closed]
      rfl
    · obtain ⟨accepted, _, rfl⟩ := State.accepted_of_advance advanced
      rfl
    · rintro earlier ⟨others, rfl⟩
      obtain ⟨middle, through, continued⟩ := reached.of_append
      exact (through.coherent (State.waits_of_read continued waits)).not_sectionClosed
  · cases returns.symm.trans same

/-- An extraction that stops has read the tokens up to the one that it reports, with the cursor
behind that one. -/
theorem stops_at_found {scope : Scope} {document : Text} {state : State} {fault : Unexpected}
    (stops : extract scope document = ⟨state, some fault⟩) :
    ∃ front rest before, tokens document = front ++ fault.found :: rest ∧
      Reached scope document front before ∧ before.awaiting ≠ .nothing ∧
      state = { before with cursor := fault.found.stop } := by
  obtain ⟨front, token, rest, before, all, reached, waits, ends⟩ := extract_ends scope document
  rcases ends with ⟨next, _, _, same⟩ | ⟨fault, stopped, same⟩
  · cases stops.symm.trans same
  · cases stops.symm.trans same
    rw [State.found_of_advance stopped]
    exact ⟨front, rest, before, all, reached, waits, rfl⟩

/-- Wherever the extraction of a document waits for a token, and also where it stops, the
number of open headers is that of the headers opened from the header of the section on, less
those closed, where a header counts once its title has been read and its end once the bracket
behind the tag for it has been; no header is open exactly in front of the section, one is in
its introduction, and behind that there is an entry, the last of which takes up fragments and
signatures. The extraction returns exactly when as many headers have been closed as opened
for the first time, with the cursor just behind the bracket that closes the last of them.
Otherwise it stops at a token of the document, and the fault names the offset where that
token starts while the cursor is where it stops. -/
theorem extract_coherent (scope : Scope) (document : Text) :
    (∀ front state, Reached scope document front state -> state.awaiting ≠ .nothing ->
      state.progress.Coherent scope (State.initial.marks scope front) ∧ state.WritesToLast) ∧
    (∀ front state token, Reached scope document front state ->
      (∀ title, state.mark? scope token = some (.opened title) ↔
        OpensHeader scope document front token title) ∧
      (state.mark? scope token = some .closed ↔ ClosesHeader scope document front token)) ∧
    (∀ front state, Reached scope document front state ->
      (extract scope document = ⟨state, none⟩ ↔
        SectionClosed scope (State.initial.marks scope front))) ∧
    (∀ state, extract scope document = ⟨state, none⟩ ->
      ∃ front token, Reached scope document (front ++ [token]) state ∧
        State.initial.marks scope (front ++ [token]) =
          State.initial.marks scope front ++ [.closed] ∧
        token.kind = .closing ∧ state.cursor = token.stop ∧
        ∀ earlier, earlier <+: front ->
          ¬ SectionClosed scope (State.initial.marks scope earlier)) ∧
    ∀ state fault, extract scope document = ⟨state, some fault⟩ ->
      ∃ front rest before, tokens document = front ++ fault.found :: rest ∧
        Reached scope document front before ∧ before.awaiting ≠ .nothing ∧
        state = { before with cursor := fault.found.stop } ∧
        state.progress.Coherent scope (State.initial.marks scope front) ∧ state.WritesToLast ∧
        ∃ expected found, fault.message =
          "expected ".toList ++ expected ++ " at offset ".toList ++
            Text.ofNat fault.found.start ++ ", found ".toList ++ found := by
  refine ⟨?_, ?_, fun _ _ reached => reached.returns_iff, fun _ => returns_behind_closing, ?_⟩
  · intro front state reached waits
    have coherent := reached.coherent waits
    exact ⟨coherent, State.writesToLast_of_coherent coherent⟩
  · intro front state token reached
    exact ⟨reached.opened_iff, reached.closed_iff⟩
  · intro state fault stops
    obtain ⟨front, rest, before, all, reached, waits, rfl⟩ := stops_at_found stops
    have coherent := reached.coherent waits
    exact ⟨front, rest, before, all, reached, waits, rfl, coherent,
      State.writesToLast_of_coherent coherent, _, _, rfl⟩

end EditorData.Reference
