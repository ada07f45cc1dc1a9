import EditorData.Proofs.Reference.Completion

/-!
# What a token marks

Of the tokens that the machine accepts only some decide what it finds: running text between
directives, the title of a header, the end of a header, and the token that completes inline
code or another fragment of markup. Each of these is a mark of the document (`State.mark?`).
How far the extraction has come (`Progress`: the part of the document, the open headers and
the entries) changes with the marks only, and as `Progress.absorb` says, and the machine
stops reading only at the end of a header, the one that balances the header of the section
(`State.follows_of_advance`). So what is proved for one mark holds for one token.
-/

namespace EditorData.Reference

open EditorData.Directive

/-- What a token completes, as far as the entries of the section depend on it. -/
inductive Mark where
  /-- Running text between two directives. -/
  | prose (text : Text)
  /-- A header whose title has been read. -/
  | opened (title : Text)
  /-- The directive that closes a header. -/
  | closed
  /-- Inline code, with the directive that ends it. -/
  | inline (code : Text)
  /-- A link, a block of code or an example, as the markup that it stands for. -/
  | fragment (text : Text)
deriving DecidableEq, Repr

/-- What the end of a directive with arguments marks: only links are complete there. -/
def Form.mark? (scope : Scope) (argument : Text) (option : Option Text) : Form -> Option Mark
  | .link => some (.fragment (scope.link argument (option.getD argument)))
  | .block | .code => none

/-- What the end of a fragment of code marks: a block has been taken with its text. -/
def Ending.mark? : Ending -> Option Mark
  | .fragment code => some (.inline code)
  | .block => none

/-- The mark that a token makes if the machine accepts it. -/
def State.mark? (scope : Scope) (state : State) (token : Token) : Option Mark :=
  match state.awaiting, token.kind with
  | .item, .content => some (.prose token.lexeme)
  | .headerTitle, .segment => some (.opened token.lexeme)
  | .headerEnd, .closing => some .closed
  | .option form argument, .closing => form.mark? scope argument none
  | .optionEnd form argument option, .closing => form.mark? scope argument (some option)
  | .blockText language, .content => some (.fragment (Markdown.code token.lexeme language))
  | .codeRest code true, .closing =>
      some (.fragment (Markdown.code code Markdown.codeLanguage))
  | .endClosing ending, .closing => ending.mark?
  | _, _ => none

/-- How far the extraction has come: the part of the document, the number of open headers of
the section, and the entries, the last one first. -/
structure Progress where
  phase : Phase
  depth : Nat
  records : List RawBuiltin
deriving DecidableEq, Repr

/-- The progress of the machine, whatever it waits for. -/
def State.progress (state : State) : Progress :=
  ⟨state.phase, state.depth, state.records⟩

namespace Progress

/-- Add a fragment to the last entry, if there is one. -/
def write (progress : Progress) (fragment : Text) : Progress :=
  match progress.records with
  | [] => progress
  | current :: earlier => { progress with records := current.append fragment :: earlier }

/-- Make a text the signature of the last entry, if there is one. -/
def sign (progress : Progress) (signature : Text) : Progress :=
  match progress.records with
  | [] => progress
  | current :: earlier => { progress with records := { current with signature } :: earlier }

/-- Find the section, begin an entry, or nest. -/
def openHeader (scope : Scope) (progress : Progress) (title : Text) : Progress :=
  match progress.phase with
  | .searching =>
      if title = scope.anchor then { progress with phase := .introduction, depth := 1 }
      else progress
  | .introduction | .heading =>
      ⟨.heading, progress.depth + 1, .titled title :: progress.records⟩
  | .body => { progress with depth := progress.depth + 1 }

/-- Close a header of the section. -/
def closeHeader (progress : Progress) : Progress :=
  match progress.phase with
  | .searching => progress
  | phase =>
      { progress with
        phase := if phase = .body then .heading else phase
        depth := progress.depth - 1 }

/-- Take inline code as a signature or as a part of a body. -/
def finishInline (progress : Progress) (code : Text) : Progress :=
  match progress.phase with
  | .heading => { progress.sign code with phase := .body }
  | .body => progress.write (Markdown.code code Markdown.codeLanguage)
  | _ => progress

/-- What a mark makes of the progress. -/
def absorb (scope : Scope) (progress : Progress) : Mark -> Progress
  | .prose text => if progress.phase = .body then progress.write text else progress
  | .opened title => progress.openHeader scope title
  | .closed => progress.closeHeader
  | .inline code => progress.finishInline code
  | .fragment text => progress.write text

/-- What a token makes of the progress: nothing, unless it makes a mark. -/
def after (scope : Scope) (progress : Progress) : Option Mark -> Progress
  | some mark => progress.absorb scope mark
  | none => progress

end Progress

namespace State

section Progress

variable (scope : Scope) (state : State)

@[simp] theorem progress_write (fragment : Text) :
    (state.write fragment).progress = state.progress.write fragment := by
  rw [progress, records_write, Progress.write]
  cases records : state.records <;> simp [progress, write, records]

@[simp] theorem progress_sign (signature : Text) :
    (state.sign signature).progress = state.progress.sign signature := by
  rw [progress, records_sign, Progress.sign]
  cases records : state.records <;> simp [progress, sign, records]

@[simp] theorem progress_openHeader (title : Text) (stop : Nat) :
    (state.openHeader scope title stop).progress = state.progress.openHeader scope title := by
  obtain ⟨phase, depth, ledger, awaiting, cursor, log⟩ := state
  cases phase with
  | searching =>
      by_cases same : title = scope.anchor
      · simp [openHeader, Progress.openHeader, progress, report, same]
      · simp [openHeader, Progress.openHeader, progress, same]
  | _ => rfl

@[simp] theorem progress_enter (tag : Text) : (state.enter tag).progress = state.progress := by
  unfold enter
  repeat' split
  all_goals rfl

end Progress

/-- What a mark makes of the machine: it changes the progress, and only the end of the header
of the section leaves nothing to wait for. -/
structure Follows (scope : Scope) (state : State) (mark : Option Mark) (next : State) : Prop where
  progress : next.progress = state.progress.after scope mark
  ends : next.awaiting = .nothing ↔
    mark = some .closed ∧ state.phase ≠ .searching ∧ state.depth = 1

section Follows

variable {scope : Scope} {state next : State}

/-- Without a mark the progress stays as it is. -/
theorem follows_none (same : next.progress = state.progress) (going : next.awaiting ≠ .nothing) :
    state.Follows scope none next :=
  ⟨same, by simp [going]⟩

/-- Behind every other mark than the end of a header the machine waits for something. -/
theorem follows_some {mark : Mark} (other : mark ≠ .closed)
    (progress : next.progress = state.progress.absorb scope mark)
    (going : next.awaiting ≠ .nothing) : state.Follows scope (some mark) next :=
  ⟨progress, by simp [going, other]⟩

/-- A token may leave the machine as it is. -/
@[simp] theorem follows_self (going : state.awaiting ≠ .nothing) : state.Follows scope none state :=
  follows_none rfl going

/-- A token may only change what the machine waits for. -/
@[simp] theorem follows_await {awaiting : Awaiting} (going : awaiting ≠ .nothing) :
    state.Follows scope none (state.await awaiting) :=
  follows_none rfl going

/-- The tag of a directive makes no mark. -/
@[simp] theorem follows_enter (tag : Text) : state.Follows scope none (state.enter tag) := by
  refine follows_none (state.progress_enter tag) fun ended => ?_
  have inside := state.mode_enter tag
  rw [ended] at inside
  cases inside

/-- Running text between two directives. -/
@[simp] theorem follows_prose (waits : state.awaiting ≠ .nothing) (text : Text) :
    state.Follows scope (some (.prose text))
      (if state.phase = .body then state.write text else state) := by
  refine follows_some nofun ?_ ?_
  · rw [apply_ite State.progress, progress_write]
    rfl
  · split <;> exact waits

/-- The title of a header. -/
@[simp] theorem follows_openHeader (title : Text) (stop : Nat) {awaiting : Awaiting}
    (going : awaiting ≠ .nothing) :
    state.Follows scope (some (.opened title))
      ((state.openHeader scope title stop).await awaiting) :=
  follows_some nofun (state.progress_openHeader scope title stop) going

/-- The end of a header may leave nothing to wait for. -/
@[simp] theorem follows_closeHeader : state.Follows scope (some .closed) state.closeHeader := by
  obtain ⟨phase, depth, ledger, awaiting, cursor, log⟩ := state
  constructor
  · cases phase <;> rfl
  · cases phase <;> simp [closeHeader]

/-- The token that completes a fragment of markup. -/
@[simp] theorem follows_write (fragment : Text) {awaiting : Awaiting}
    (going : awaiting ≠ .nothing) :
    state.Follows scope (some (.fragment fragment)) ((state.write fragment).await awaiting) :=
  follows_some nofun (state.progress_write fragment) going

/-- The end of a directive with arguments. -/
@[simp] theorem follows_conclude (argument : Text) (option : Option Text) (form : Form) :
    state.Follows scope (form.mark? scope argument option)
      (state.conclude scope argument option form) := by
  cases form with
  | link => exact follows_write _ nofun
  | _ => exact follows_await nofun

/-- The end of a fragment of code. -/
@[simp] theorem follows_finishCode (ending : Ending) :
    state.Follows scope ending.mark? (state.finishCode ending) := by
  cases ending with
  | block => exact follows_await nofun
  | fragment code =>
      obtain ⟨phase, depth, ledger, awaiting, cursor, log⟩ := state
      refine follows_some nofun ?_ ?_
      · cases phase with
        | heading =>
            exact congrArg ({ · with phase := .body })
              (progress_sign ⟨.heading, depth, ledger, awaiting, cursor, log⟩ code)
        | body => exact progress_write ⟨.body, depth, ledger, awaiting, cursor, log⟩ _
        | _ => rfl
      · cases phase <;> exact nofun

end Follows

section Advance

variable {scope : Scope} {state next : State} {token : Token}

/-- A token that is read is accepted, and the cursor goes behind it. -/
theorem accepted_of_advance (advanced : state.advance scope token = .ok next) :
    ∃ accepted, state.accept? scope token = some accepted ∧
      next = { accepted with cursor := token.stop } := by
  unfold advance at advanced
  split at advanced
  · cases advanced
  · split at advanced
    · next accepted found => exact ⟨accepted, found, by cases advanced; rfl⟩
    · cases advanced

/-- A token that is not read is what the fault has found. -/
theorem found_of_advance {fault : Unexpected} (stopped : state.advance scope token = .error fault) :
    fault.found = token := by
  unfold advance at stopped
  split at stopped
  · cases stopped
    rfl
  · split at stopped <;> cases stopped
    rfl

/-- In search of the end of a directive the machine passes over other tokens. -/
theorem passes_over (ends : state.awaiting.expectation = .kind .closing)
    (other : token.kind ≠ .closing) (accepted : state.accept? scope token = some next) :
    next = state ∧ state.mark? scope token = none := by
  constructor
  · unfold accept? at accepted
    split at accepted <;> simp_all [Awaiting.expectation]
  · unfold mark?
    split <;> simp_all [Awaiting.expectation]

/-- The machine follows the marks of the tokens that it accepts. -/
theorem follows_of_accept? (accepted : state.accept? scope token = some next) :
    state.Follows scope (state.mark? scope token) next := by
  by_cases passed : state.awaiting.expectation = .kind .closing ∧ token.kind ≠ .closing
  · obtain ⟨rfl, none⟩ := passes_over passed.1 passed.2 accepted
    rw [none]
    refine follows_none rfl fun ended => ?_
    simp [ended, Awaiting.expectation] at passed
  · unfold accept? at accepted
    split at accepted
    all_goals try cases accepted
    all_goals simp [mark?, *]
    -- the tokens that are passed over are none of these
    · next last _ _ _ => cases last <;> simp_all [Awaiting.expectation]
    · simp_all [Awaiting.expectation]

/-- The machine follows the marks of the tokens that it reads. -/
theorem follows_of_advance (advanced : state.advance scope token = .ok next) :
    state.Follows scope (state.mark? scope token) next := by
  obtain ⟨accepted, found, rfl⟩ := accepted_of_advance advanced
  obtain ⟨progress, ends⟩ := follows_of_accept? found
  exact ⟨progress, ends⟩

end Advance

end State

end EditorData.Reference
