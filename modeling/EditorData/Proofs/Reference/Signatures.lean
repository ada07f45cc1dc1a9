import EditorData.Proofs.Reference.Consumption
import EditorData.Proofs.Reference.Freezing

/-!
# Signatures of entries

The machine does not remember whether an entry has a signature, only the part of the document:
in front of a body it takes inline code as the signature of the last entry, in a body as a part
of that (`BegunEntry.inline_cases`). The end of every header puts it in front of a body again,
so inline code behind a header inside of an entry overwrites the signature. An entry takes the
first inline code inside of it for its signature, and all that follows for its body, exactly if
no other entry begins inside of it in front of inline code and all but the first is read in its
body (`signature_capturedOnce_iff`).
-/

namespace EditorData.Reference

open EditorData.Directive

/-- Whether the mark is inline code. -/
def Mark.isInline : Mark -> Bool
  | .inline _ => true
  | _ => false

/-- Inline code that the machine has taken up has characters. -/
def Awaiting.Filled : Awaiting -> Prop
  | .endOpening (.fragment code) | .endTag (.fragment code) | .endClosing (.fragment code) =>
      code ≠ []
  | _ => True

namespace Progress

variable {scope : Scope} {progress : Progress} {current : RawBuiltin} {earlier : List RawBuiltin}

/-- Only inline code gives a signature. -/
theorem signatures_absorb {mark : Mark} (other : mark.isInline = false) :
    progress.records.map RawBuiltin.signature <:+
      (progress.absorb scope mark).records.map RawBuiltin.signature := by
  obtain ⟨phase, depth, records⟩ := progress
  cases mark with
  | opened title =>
      by_cases same : title = scope.anchor <;>
        cases phase <;> simp [absorb, openHeader, same]
  | inline code => cases other
  | _ =>
      cases phase <;> cases records <;> simp [absorb, closeHeader, write, RawBuiltin.append]

/-- Only inline code leads from the front of a body into it. -/
theorem heading_absorb {mark : Mark} (heading : progress.phase = .heading)
    (other : mark.isInline = false) : (progress.absorb scope mark).phase = .heading := by
  obtain ⟨phase, depth, records⟩ := progress
  cases heading
  cases mark with
  | inline code => cases other
  | _ => cases records <;> rfl

/-- A mark that begins an entry puts the machine in front of its body. -/
theorem absorb_of_begun {mark : Mark} {title : Text} (begun : progress.begun? mark = some title) :
    progress.absorb scope mark =
      ⟨.heading, progress.depth + 1, .titled title :: progress.records⟩ := by
  obtain ⟨phase, depth, records⟩ := progress
  cases mark with
  | opened name => cases phase <;> simp_all [begun?, absorb, openHeader]
  | _ => simp [begun?] at begun

/-- In front of a body, inline code is the signature of the last entry. -/
theorem records_inline_heading (records : progress.records = current :: earlier)
    (heading : progress.phase = .heading) (code : Text) :
    (progress.absorb scope (.inline code)).records =
      { current with signature := code } :: earlier := by
  simp [absorb, finishInline, heading, sign, records]

/-- In a body, inline code is a part of it. -/
theorem records_inline_body (records : progress.records = current :: earlier)
    (body : progress.phase = .body) (code : Text) :
    (progress.absorb scope (.inline code)).records =
      current.append (Markdown.code code Markdown.codeLanguage) :: earlier := by
  simp [absorb, finishInline, body, write, records]

end Progress

namespace State

variable {scope : Scope} {state next : State} {token : Token}

/-- A fragment does not change what the machine waits for. -/
@[simp] theorem filled_write (fragment : Text) :
    (state.write fragment).awaiting.Filled ↔ state.awaiting.Filled := Iff.rfl

@[simp] theorem filled_enter (tag : Text) : (state.enter tag).awaiting.Filled := by
  unfold enter
  repeat' split
  all_goals trivial

@[simp] theorem filled_closeHeader : state.closeHeader.awaiting.Filled := by
  obtain ⟨phase, depth, ledger, awaiting, cursor, log⟩ := state
  by_cases last : depth = 1 <;> cases phase <;> simp [closeHeader, last] <;> trivial

@[simp] theorem filled_conclude (argument : Text) (option : Option Text) (form : Form) :
    (state.conclude scope argument option form).awaiting.Filled := by
  cases form <;> trivial

@[simp] theorem filled_finishCode (ending : Ending) :
    (state.finishCode ending).awaiting.Filled := by
  obtain ⟨phase, depth, ledger, awaiting, cursor, log⟩ := state
  cases ending <;> cases phase <;> trivial

/-- Inline code is taken up with the characters of a token, and then kept. -/
theorem filled_of_accept? (accepted : state.accept? scope token = some next)
    (notEmpty : token.lexeme ≠ []) (filled : state.awaiting.Filled) : next.awaiting.Filled := by
  unfold accept? at accepted
  split at accepted
  all_goals try split at accepted
  all_goals cases accepted
  case h_25 ending waits _ => cases ending <;> simp_all [Awaiting.Filled]
  case h_26 ending waits _ => cases ending <;> simp_all [Awaiting.Filled]
  all_goals first | trivial | simp_all

/-- Inline code is complete where the machine waits for the end of its last directive. -/
theorem mark?_eq_inline {code : Text} :
    state.mark? scope token = some (.inline code) ↔
      state.awaiting = .endClosing (.fragment code) ∧ token.kind = .closing := by
  unfold mark?
  split
  case h_4 form _ waits _ => cases form <;> simp [Form.mark?, waits]
  case h_5 form _ _ waits _ => cases form <;> simp [Form.mark?, waits]
  case h_8 ending waits _ => cases ending <;> simp_all [Ending.mark?]
  all_goals simp_all

/-- A token that completes no inline code leaves the signatures of the entries as they are. -/
theorem signatures_of_advance (advanced : state.advance scope token = .ok next)
    (other : ∀ code, state.mark? scope token ≠ some (.inline code)) :
    state.entries.map RawBuiltin.signature <+: next.entries.map RawBuiltin.signature := by
  have progress := (follows_of_advance advanced).progress
  have records : state.records.map RawBuiltin.signature <:+
      next.records.map RawBuiltin.signature := by
    rw [show next.records = next.progress.records from rfl, progress]
    cases marked : state.mark? scope token with
    | none => exact List.suffix_rfl
    | some mark =>
        have isOther : mark.isInline = false := by
          cases mark with
          | inline code => exact absurd marked (other code)
          | _ => rfl
        exact @Progress.signatures_absorb scope state.progress mark isOther
  simpa [entries, ← List.map_reverse] using List.reverse_prefix.2 records

/-- The signature of an entry by its place. -/
def signature? (state : State) (place : Nat) : Option Text :=
  state.entries[place]?.map RawBuiltin.signature

/-- So the signature of an entry stays the same up to the next inline code. -/
theorem signature?_of_advance (advanced : state.advance scope token = .ok next)
    (other : ∀ code, state.mark? scope token ≠ some (.inline code)) {place : Nat}
    (there : place < state.entries.length) : next.signature? place = state.signature? place := by
  obtain ⟨begun, all⟩ := signatures_of_advance advanced other
  rw [signature?, signature?, ← List.getElem?_map, ← List.getElem?_map, ← all]
  exact List.getElem?_append_left (by simpa using there)

/-- Unless there is inline code among the marks, the machine is in front of a body and the entry
at the place has no signature. -/
def Unsigned (place : Nat) (marks : List Mark) (state : State) : Prop :=
  (∀ mark ∈ marks, mark.isInline = false) ->
    state.phase = .heading ∧ state.signature? place = some []

/-- Reading one token keeps the entry unsigned. -/
theorem Unsigned.advance {place : Nat} {history : List Mark}
    (unsigned : state.Unsigned place history) (advanced : state.advance scope token = .ok next) :
    next.Unsigned place (history ++ (state.mark? scope token).toList) := by
  intro others
  obtain ⟨heading, signature⟩ := unsigned fun mark member => others mark (by simp [member])
  have there : place < state.entries.length := by
    by_contra outside
    simp [signature?, List.getElem?_eq_none (not_lt.1 outside)] at signature
  have other : ∀ code, state.mark? scope token ≠ some (.inline code) := by
    intro code marked
    have inline := others (.inline code) (by simp [marked])
    cases inline
  refine ⟨?_, by rw [signature?_of_advance advanced other there, signature]⟩
  rw [show next.phase = next.progress.phase from rfl, (follows_of_advance advanced).progress]
  cases marked : state.mark? scope token with
  | none => exact heading
  | some mark =>
      have isOther := others mark (by simp [marked])
      exact @Progress.heading_absorb scope state.progress mark heading isOther

end State

section Reached

variable {scope : Scope} {document : Text} {front : List Token} {state : State} {token : Token}

/-- A token that the extraction reads has characters. -/
theorem Reached.lexeme_ne_nil (reached : Reached scope document (front ++ [token]) state) :
    token.lexeme ≠ [] := by
  obtain ⟨before, _, last⟩ := reached.of_append
  have more := State.isFinal_of_advance (State.read_singleton.1 last)
  obtain ⟨others, final, all, ends, _, going⟩ := (tiling_tokens document).split
  have member : token ∈ others ++ [final] := all ▸ reached.begins.subset (by simp)
  rcases List.mem_append.1 member with other | same
  · exact (going token other).2
  · rw [List.mem_singleton.1 same, ends] at more
    cases more

/-- Wherever an extraction gets to, the inline code that it has taken up has characters. -/
theorem Reached.filled (reached : Reached scope document front state) :
    state.awaiting.Filled := by
  induction front using List.reverseRecOn generalizing state with
  | nil =>
      cases reached.read
      trivial
  | append_singleton earlier token inductionHypothesis =>
      obtain ⟨before, upTo, last⟩ := reached.of_append
      obtain ⟨accepted, found, rfl⟩ := State.accepted_of_advance (State.read_singleton.1 last)
      have filled : accepted.awaiting.Filled :=
        State.filled_of_accept? found reached.lexeme_ne_nil (inductionHypothesis upTo)
      exact filled

end Reached

/-- An entry of a document from its title on: the tokens in front of that, and the states of
the machine in front of and behind it. -/
structure BegunEntry (scope : Scope) (document : Text) where
  front : List Token
  title : Token
  outer : State
  begun : State
  outside : Reached scope document front outer
  begins : outer.advance scope title = .ok begun
  longer : outer.entries.length < begun.entries.length

namespace BegunEntry

variable {scope : Scope} {document : Text} (entry : BegunEntry scope document)

/-- The tokens up to the title of the entry. -/
def tokens : List Token :=
  entry.front ++ [entry.title]

/-- The place of the entry among all entries. -/
def place : Nat :=
  entry.outer.entries.length

/-- While these tokens are read behind the title, the header of the entry stays open. -/
def Open (later : List Token) : Prop :=
  ∀ depth ∈ entry.begun.trace scope (fun _ _ next => some next.depth) later,
    entry.outer.depth < depth

/-- These tokens behind the title complete inline code. -/
def HasCode (later : List Token) : Prop :=
  ∃ mark ∈ entry.begun.marks scope later, mark.isInline = true

/-- Behind the title and these tokens the token completes inline code, and takes the machine
from one state to the other. -/
structure Inline (later : List Token) (token : Token) (code : Text) (state next : State) :
    Prop where
  upTo : Reached scope document (entry.tokens ++ later) state
  reached : Reached scope document (entry.tokens ++ later ++ [token]) next
  marks : state.mark? scope token = some (.inline code)

/-- The first inline code inside of the entry becomes its signature. Whatever follows, the
signature stays, and further inline code inside of the entry becomes a part of its body. -/
structure CapturedOnce : Prop where
  captured : ∀ {first token code state next}, entry.Inline first token code state next ->
    ¬ entry.HasCode first -> entry.Open first ->
    next.entries[entry.place]? =
      state.entries[entry.place]?.map fun record => { record with signature := code }
  kept : ∀ {first token code state next}, entry.Inline first token code state next ->
    ¬ entry.HasCode first ->
    ∀ later last, Reached scope document (entry.tokens ++ (first ++ token :: later)) last ->
      last.signature? entry.place = next.signature? entry.place
  appended : ∀ {later token code state next}, entry.Inline later token code state next ->
    entry.HasCode later -> entry.Open later ->
    next.entries[entry.place]? = state.entries[entry.place]?.map
      fun record => record.append (Markdown.code code Markdown.codeLanguage)

/-- Inline code inside of the entry is read while no other entry has begun, and all but the first
is read in a body. What follows the entry while no other has begun is read in a body too, unless
it repeats the signature. -/
structure Undisturbed : Prop where
  last : ∀ {later token code state next}, entry.Inline later token code state next ->
    entry.Open later -> state.entries.length = entry.place + 1
  body : ∀ {later token code state next}, entry.Inline later token code state next ->
    entry.HasCode later -> state.entries.length = entry.place + 1 ->
    state.phase = .body ∨ ¬ entry.Open later ∧ state.signature? entry.place = some code

section Reading

variable {entry} {later : List Token} {state : State}

/-- The tokens up to the title lead behind it. -/
theorem reached_begun (begins : entry.tokens <+: Directive.tokens document) :
    Reached scope document entry.tokens entry.begun := by
  refine ⟨begins, State.read_append.2 ⟨entry.outer, entry.outside.read, ?_⟩⟩
  exact State.read_singleton.2 entry.begins

/-- What is read behind the title is read from there. -/
theorem read_later (reached : Reached scope document (entry.tokens ++ later) state) :
    entry.begun.read scope later = .ok state := by
  obtain ⟨middle, upTo, behind⟩ := reached.of_append
  cases upTo.unique (reached_begun upTo.begins)
  exact behind

/-- The entry stays where it is. -/
theorem place_lt_length (reached : Reached scope document (entry.tokens ++ later) state) :
    entry.place < state.entries.length :=
  lt_of_lt_of_le entry.longer (State.entries_le_of_read (read_later reached))

/-- The title of an entry is one of a header in front of a body, and leaves the entry without a
signature. -/
theorem begun_eq : ∃ title, entry.begun.progress =
    ⟨.heading, entry.outer.depth + 1, .titled title :: entry.outer.records⟩ := by
  have progress := (State.follows_of_advance entry.begins).progress
  have longer := entry.longer
  simp only [State.entries, List.length_reverse] at longer
  obtain ⟨title, begun⟩ := Option.isSome_iff_exists.1 ((State.longer_iff entry.begins).1 longer)
  obtain ⟨mark, marked, same⟩ := Option.bind_eq_some_iff.1 begun
  rw [marked, Progress.after, Progress.absorb_of_begun same] at progress
  exact ⟨title, progress⟩

/-- As long as no inline code is read behind its title, the entry has no signature, and the
machine stays in front of a body. -/
theorem heading_of_not_hasCode (reached : Reached scope document (entry.tokens ++ later) state)
    (none : ¬ entry.HasCode later) :
    state.phase = .heading ∧ state.signature? entry.place = some [] := by
  obtain ⟨title, progress⟩ := entry.begun_eq
  have phase : entry.begun.phase = .heading := congrArg Progress.phase progress
  have records : entry.begun.records = .titled title :: entry.outer.records :=
    congrArg Progress.records progress
  have begun : entry.begun.signature? entry.place = some [] := by
    simp [State.signature?, place, State.entries, records, RawBuiltin.titled]
  have initial : entry.begun.Unsigned entry.place [] := fun _ => ⟨phase, begun⟩
  have unsigned := State.read_induction State.Unsigned.advance initial (read_later reached)
  refine unsigned fun mark member => ?_
  by_contra inline
  exact none ⟨mark, member, by simpa using inline⟩

variable {token : Token} {code : Text} {next : State}

/-- Inline code has characters. -/
theorem Inline.code_ne_nil (inline : entry.Inline later token code state next) : code ≠ [] := by
  have filled := inline.upTo.filled
  rw [(State.mark?_eq_inline.1 inline.marks).1] at filled
  exact filled

/-- What inline code makes of the entry: nothing if another one has begun, its signature in front
of a body, and a part of its body otherwise. -/
theorem inline_cases (inline : entry.Inline later token code state next) :
    ∃ record, state.entries[entry.place]? = some record ∧
      (state.entries.length ≠ entry.place + 1 ∧ next.entries[entry.place]? = some record ∨
      state.entries.length = entry.place + 1 ∧ state.phase = .heading ∧
        next.entries[entry.place]? = some { record with signature := code } ∨
      state.entries.length = entry.place + 1 ∧ state.phase = .body ∧
        next.entries[entry.place]? =
          some (record.append (Markdown.code code Markdown.codeLanguage))) := by
  have there := place_lt_length inline.upTo
  have advanced := inline.upTo.advance inline.reached
  have coherent := inline.upTo.coherent (State.waits_of_advance advanced)
  have progress := (State.follows_of_advance advanced).progress
  rw [inline.marks] at progress
  have records : next.records = (state.progress.absorb scope (.inline code)).records :=
    congrArg Progress.records progress
  refine ⟨_, List.getElem?_eq_getElem there, ?_⟩
  by_cases last : state.entries.length = entry.place + 1
  · cases listed : state.records with
    | nil => simp [State.entries, listed] at there
    | cons current earlier =>
        have size : entry.place = earlier.length := by
          simpa [State.entries, listed] using last.symm
        have same : state.entries[entry.place] = current := by
          simp [State.entries, listed, size]
        have behind : state.phase = .heading ∨ state.phase = .body := by
          have empty := coherent.empty
          cases phase : state.phase <;> simp_all [State.progress]
        rw [same, State.entries.eq_1 next, records]
        rcases behind with heading | body
        · rw [@Progress.records_inline_heading scope state.progress _ _ listed heading]
          exact .inr (.inl ⟨last, heading, by simp [size]⟩)
        · rw [@Progress.records_inline_body scope state.progress _ _ listed body]
          exact .inr (.inr ⟨last, body, by simp [size]⟩)
  · have earlier : entry.place + 1 < state.progress.records.length := by
      simp only [State.entries, List.length_reverse] at there last
      simp only [State.progress]
      omega
    have kept := @Progress.earlier_after scope _ _ earlier (some (.inline code))
    refine .inl ⟨last, ?_⟩
    rw [State.entries, records]
    exact kept.trans (List.getElem?_eq_getElem there)

/-- Inline code leaves the signature of the entry as it is unless the entry is the last one, the
machine is in front of a body, and the signature is another. -/
theorem Inline.signature_eq_iff (inline : entry.Inline later token code state next) :
    next.signature? entry.place = state.signature? entry.place ↔
      (state.entries.length = entry.place + 1 ->
        state.phase = .body ∨ state.signature? entry.place = some code) := by
  obtain ⟨record, before, effect⟩ := inline_cases inline
  simp only [State.signature?, before, Option.map_some, Option.some.injEq]
  rcases effect with ⟨other, unchanged⟩ | ⟨last, heading, signed⟩ | ⟨last, body, appended⟩
  · simp [unchanged, other]
  · simp [signed, last, heading, eq_comm]
  · simp [appended, last, body, RawBuiltin.append]

/-- Inline code becomes a part of the body of the entry exactly if the entry is the last one and
the machine is in a body. -/
theorem Inline.appended_iff (inline : entry.Inline later token code state next) :
    (next.entries[entry.place]? = state.entries[entry.place]?.map
      fun record => record.append (Markdown.code code Markdown.codeLanguage)) ↔
        state.entries.length = entry.place + 1 ∧ state.phase = .body := by
  obtain ⟨record, before, effect⟩ := inline_cases inline
  have longer : record.documentation ≠
      (record.append (Markdown.code code Markdown.codeLanguage)).documentation := by
    simp [RawBuiltin.append]
  rw [before, Option.map_some]
  rcases effect with ⟨other, unchanged⟩ | ⟨last, heading, signed⟩ | ⟨last, body, appended⟩
  · simp only [unchanged, other, false_and, iff_false, Option.some.injEq]
    intro same
    exact longer (congrArg RawBuiltin.documentation same)
  · simp only [signed, heading, reduceCtorEq, and_false, iff_false, Option.some.injEq]
    intro same
    have documentation := congrArg RawBuiltin.documentation same
    exact longer documentation
  · simp [appended, last, body]

/-- The first inline code behind the title becomes the signature of the entry exactly if no other
entry has begun in front of it. -/
theorem Inline.signed_iff (inline : entry.Inline later token code state next)
    (none : ¬ entry.HasCode later) :
    (next.entries[entry.place]? =
      state.entries[entry.place]?.map fun record => { record with signature := code }) ↔
        state.entries.length = entry.place + 1 := by
  obtain ⟨heading, unsigned⟩ := heading_of_not_hasCode inline.upTo none
  obtain ⟨record, before, effect⟩ := inline_cases inline
  rw [before, Option.map_some]
  rcases effect with ⟨other, unchanged⟩ | ⟨last, _, signed⟩ | ⟨_, body, _⟩
  · simp only [State.signature?, before, Option.map_some, Option.some.injEq] at unsigned
    simp only [unchanged, other, iff_false, Option.some.injEq]
    intro same
    have signature : record.signature = code := congrArg RawBuiltin.signature same
    exact inline.code_ne_nil (signature.symm.trans unsigned)
  · simp [signed, last]
  · rw [heading] at body
    cases body

/-- One more token behind the title. -/
theorem hasCode_append
    (reached : Reached scope document (entry.tokens ++ (later ++ [token])) next) :
    ∃ state, Reached scope document (entry.tokens ++ later) state ∧
      (entry.HasCode (later ++ [token]) ↔
        entry.HasCode later ∨ ∃ code, entry.Inline later token code state next) := by
  rw [← List.append_assoc] at reached
  obtain ⟨state, upTo, last⟩ := reached.of_append
  have advanced := State.read_singleton.1 last
  refine ⟨state, upTo, ?_⟩
  have marks : entry.begun.marks scope (later ++ [token]) =
      entry.begun.marks scope later ++ (state.mark? scope token).toList := by
    rw [State.marks, State.trace_append (read_later upTo), State.trace_singleton advanced]
  simp only [HasCode, marks, List.mem_append, or_and_right, exists_or, Option.mem_toList]
  refine or_congr_right ⟨?_, ?_⟩
  · rintro ⟨mark, marked, isInline⟩
    cases mark with
    | inline code => exact ⟨code, upTo, reached, marked⟩
    | _ => cases isInline
  · rintro ⟨code, inline⟩
    exact ⟨.inline code, inline.marks, rfl⟩

/-- Behind inline code there has been some. -/
theorem Inline.hasCode {first : List Token} (inline : entry.Inline first token code state next)
    (later : List Token) : entry.HasCode (first ++ token :: later) := by
  refine ⟨.inline code, ?_, rfl⟩
  have advanced := inline.upTo.advance inline.reached
  rw [State.marks, State.trace_append (read_later inline.upTo)]
  simp [State.trace, advanced, inline.marks]

/-- Inline code behind the title is preceded by the first one. -/
theorem exists_first (reached : Reached scope document (entry.tokens ++ later) state)
    (some : entry.HasCode later) :
    ∃ first token between code before next, later = first ++ token :: between ∧
      entry.Inline first token code before next ∧ ¬ entry.HasCode first := by
  induction later using List.reverseRecOn generalizing state with
  | nil => simp [HasCode, State.marks, State.trace] at some
  | append_singleton earlier token inductionHypothesis =>
      obtain ⟨before, upTo, codes⟩ := hasCode_append reached
      by_cases already : entry.HasCode earlier
      · obtain ⟨first, found, between, code, outer, next, rfl, inline, none⟩ :=
          inductionHypothesis upTo already
        exact ⟨first, found, between ++ [token], code, outer, next, by simp, inline, none⟩
      · obtain ⟨code, inline⟩ := (codes.1 some).resolve_left already
        exact ⟨earlier, token, [], code, before, state, rfl, inline, already⟩

end Reading

/-- Behind its first inline code nothing changes the signature of an undisturbed entry. -/
theorem Undisturbed.kept {entry : BegunEntry scope document} (undisturbed : entry.Undisturbed)
    {first later : List Token} {token : Token} {code : Text} {state next last : State}
    (inline : entry.Inline first token code state next)
    (reached : Reached scope document (entry.tokens ++ (first ++ token :: later)) last) :
    last.signature? entry.place = next.signature? entry.place := by
  induction later using List.reverseRecOn generalizing last with
  | nil => rw [reached.unique (by simpa using inline.reached)]
  | append_singleton earlier further inductionHypothesis =>
      rw [← List.cons_append, ← List.append_assoc first] at reached
      obtain ⟨before, upTo, codes⟩ := hasCode_append reached
      have same := inductionHypothesis upTo
      rw [← List.append_assoc] at reached
      by_cases another : ∃ code, entry.Inline (first ++ token :: earlier) further code before last
      · obtain ⟨code, again⟩ := another
        refine (again.signature_eq_iff.2 fun alone => ?_).trans same
        exact (undisturbed.body again (inline.hasCode earlier) alone).imp_right And.right
      · refine (State.signature?_of_advance (upTo.advance reached) ?_ (place_lt_length upTo)).trans
          same
        exact fun code marked => another ⟨code, upTo, reached, marked⟩

end BegunEntry

/-- An entry takes its first inline code for its signature and further inline code for parts of
its body exactly if nothing disturbs it. -/
theorem signature_capturedOnce_iff {scope : Scope} {document : Text}
    (entry : BegunEntry scope document) : entry.CapturedOnce ↔ entry.Undisturbed := by
  constructor
  · intro once
    refine ⟨fun {later token code state next} inline inside => ?_,
      fun {later token code state next} inline more alone => ?_⟩
    · by_cases more : entry.HasCode later
      · exact (inline.appended_iff.1 (once.appended inline more inside)).1
      · exact (inline.signed_iff more).1 (once.captured inline more inside)
    · obtain ⟨first, found, between, signature, outer, behind, rfl, captured, none⟩ :=
        BegunEntry.exists_first inline.upTo more
      have before := once.kept captured none between state inline.upTo
      have after := once.kept captured none (between ++ [token]) next
        (by simpa using inline.reached)
      rcases inline.signature_eq_iff.1 (after.trans before.symm) alone with body | same
      · exact .inl body
      · by_cases inside : entry.Open (first ++ found :: between)
        · exact .inl (inline.appended_iff.1 (once.appended inline more inside)).2
        · exact .inr ⟨inside, same⟩
  · intro undisturbed
    refine ⟨fun inline none inside => (inline.signed_iff none).2 (undisturbed.last inline inside),
      fun inline _ later last reached => undisturbed.kept inline reached,
      fun inline more inside => inline.appended_iff.2 ?_⟩
    have alone := undisturbed.last inline inside
    exact ⟨alone, (undisturbed.body inline more alone).resolve_right fun other => other.1 inside⟩

/-- A section with one entry, in which a header and inline code follow the signature. -/
def codeBehindSubsection : Markup where
  items := sectionItems <| entryItems <| emptyHeader (word "Notes") ++
    inlineItems ⟨"x".toList, by decide, .of_not_mem (by decide)⟩
  divided := by
    simp [sectionItems, entryItems, emptyHeader, inlineItems, directiveOf, Item.Divided]

/-- The tokens of this section. -/
theorem tokens_codeBehindSubsection :
    Directive.tokens codeBehindSubsection.print = placed 0 codeBehindSubsection.lexemes :=
  Lexes.items codeBehindSubsection.divided 0

/-- The entry of this section, which begins as the one in front of a link does. -/
def entryAroundSubsection : BegunEntry firstScope codeBehindSubsection.print where
  front := (placed 0 codeBehindSubsection.lexemes).take 8
  title := entryBeforeLink.title
  outer := entryBeforeLink.outer
  begun := entryBeforeLink.begun
  outside := ⟨⟨(placed 0 codeBehindSubsection.lexemes).drop 8,
    tokens_codeBehindSubsection.symm⟩, rfl⟩
  begins := entryBeforeLink.begins
  longer := entryBeforeLink.longer

/-- The end of the header inside of the entry puts the machine in front of a body again, so the
inline code behind that overwrites the signature, although the section is read to its end. -/
theorem entryAroundSubsection_not_capturedOnce :
    (extract firstScope codeBehindSubsection.print).fault = none ∧
      ¬ entryAroundSubsection.CapturedOnce := by
  let all := placed 0 codeBehindSubsection.lexemes
  -- the seven tokens between the title and the end of the signature
  let first := (all.drop 9).take 7
  have signature : entryAroundSubsection.Inline first ⟨.closing, 76, ['#', '}']⟩ "@a()".toList
      (atLink .heading 2 [⟨"@a".toList, [], []⟩] (.endClosing (.fragment "@a()".toList)) 76)
      (atLink .body 2 [⟨"@a".toList, "@a()".toList, []⟩] .item 78) :=
    ⟨⟨⟨all.drop 16, tokens_codeBehindSubsection.symm⟩, rfl⟩,
      ⟨⟨all.drop 17, tokens_codeBehindSubsection.symm⟩, rfl⟩, rfl⟩
  -- the fifteen tokens from there to the end of the other inline code
  let later := (all.drop 17).take 15
  have overwritten : Reached firstScope codeBehindSubsection.print
      (entryAroundSubsection.tokens ++ (first ++ ⟨.closing, 76, ['#', '}']⟩ :: later))
      ⟨.body, 2, .ofRecords [⟨"@a".toList, "x".toList, []⟩], .item, 139,
        [⟨.debug, "Nested header 'Notes' inside @a".toList⟩,
          ⟨.debug, "Found 'Builtin Functions' section at offset 31".toList⟩]⟩ :=
    ⟨⟨all.drop 32, tokens_codeBehindSubsection.symm⟩, rfl⟩
  have none : ¬ entryAroundSubsection.HasCode first := by
    rintro ⟨mark, member, _⟩
    cases member
  constructor
  · rw [extract, tokens_codeBehindSubsection]
    rfl
  · intro once
    have same := once.kept signature none later _ overwritten
    cases same

end EditorData.Reference
