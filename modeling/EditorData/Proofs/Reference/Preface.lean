import EditorData.Proofs.Reference.Consumption
import EditorData.Proofs.Reference.Displacement

/-!
# Text in front of the section

In front of the section the machine only looks for its header. A text in which it does not
find that header, and at the end of which nothing is pending, is a preface: the machine gets
to its end in the state in which it began (`Preface.split`), and a directive behind it begins
as it does at the front of a document. So a preface only moves what follows it
(`extract_behind_preface`).
-/

namespace EditorData.Reference

open EditorData.Directive

/-- A text that the extraction reads to its end without finding the section, and at the end of
which no brace waits for its character. -/
structure Preface (scope : Scope) (text : Text) : Prop where
  /-- The extraction has only found the end of the text in place of an item. -/
  ends : ∃ fault, (extract scope text).fault = some fault ∧ fault.expected = .item ∧
    fault.found.kind = .finish
  searching : (extract scope text).state.phase = .searching
  paired : ∀ token ∈ tokens text, token.kind = .content -> Prose token.lexeme

section Preface

variable {scope : Scope} {text : Text} {state : State} {token : Token}

/-- At the end of a document a fault says what the machine waits for. -/
theorem State.expected_of_finish {fault : Unexpected} (finish : token.kind = .finish)
    (stopped : state.advance scope token = .error fault) :
    fault.expected = state.awaiting.expectation := by
  have fits : state.misfit? token = none := by
    unfold misfit?
    simp [finish]
  unfold advance at stopped
  rw [fits] at stopped
  cases taken : state.accept? scope token with
  | some next => simp [taken] at stopped
  | none =>
      simp only [taken, Except.error.injEq] at stopped
      rw [← stopped]

/-- Where the machine searches it has counted no header and found no entry. -/
theorem Reached.movedBy_initial {front : List Token} (reached : Reached scope text front state)
    (waits : state.awaiting = .item) (searching : state.phase = .searching) :
    State.initial.MovedBy (textOf front).length state := by
  have coherent := reached.coherent (by simp [waits])
  constructor
  case phase => exact searching
  case depth => exact coherent.searching.1 searching
  case records => exact coherent.empty.2 (.inl searching)
  case awaiting => exact waits
  case cursor => rw [reached.cursor_eq, State.initial, Nat.zero_add]

/-- The machine gets to the end of a preface in the state in which it began. -/
theorem Preface.split (preface : Preface scope text) :
    ∃ front last before, tokens text = front ++ [last] ∧ last.kind = .finish ∧
      Reached scope text front before ∧ State.initial.MovedBy (textOf front).length before := by
  obtain ⟨fault, stops, expected, finish⟩ := preface.ends
  obtain ⟨front, token, rest, before, all, reached, waits, ends⟩ := extract_ends scope text
  rcases ends with ⟨next, _, _, same⟩ | ⟨_, stopped, same⟩
  · rw [same] at stops
    cases stops
  · have searching := preface.searching
    rw [same] at stops searching
    cases stops
    rw [State.found_of_advance stopped] at finish
    have waiting : before.awaiting = .item := by
      have item := (State.expected_of_finish finish stopped).symm.trans expected
      cases awaits : before.awaiting <;> simp_all [Awaiting.expectation]
    have last : rest = [] := by
      have tiling := tiling_tokens text
      rw [all] at tiling
      exact tiling.isFinal_iff.1 (by rw [finish]; rfl)
    subst last
    exact ⟨front, token, before, all, finish, reached,
      reached.movedBy_initial waiting searching⟩

end Preface

/-- Behind a preface an extraction goes as it does without it: it ends with the same entries
in the same part of the document and at the same depth, or with the same fault at the same
token, and all offsets are larger by the length of the preface. -/
theorem extract_behind_preface {scope : Scope} {text : Text} (preface : Preface scope text)
    (rest : Text) :
    (extract scope ('{' :: '#' :: rest)).MovedBy text.length
      (extract scope (text ++ '{' :: '#' :: rest)) := by
  obtain ⟨front, last, before, all, finish, reached, moved⟩ := preface.split
  have paired : ∀ token ∈ front, token.kind = .content -> Prose token.lexeme := by
    intro token member
    exact preface.paired token (by simp [all, member])
  rw [textOf_of_finish all finish] at moved
  have going : before.awaiting ≠ .nothing := by simp [moved.awaiting, State.initial]
  have behind := tokens_append_directive all finish paired rest
  rw [extract, extract, behind, run_append reached.read going]
  exact run_movedBy moved _

/-- An entry that no section surrounds, and text behind it. -/
def unrelatedMarkup : Markup where
  items := entryItems [] ++ [.content ⟨"text".toList, by decide, .of_not_mem (by decide)⟩]
  divided := by simp [entryItems, directiveOf, Item.Divided]

/-- This is a preface of a section, which only moves the section. -/
theorem continuedSection_behind_preface :
    Preface firstScope unrelatedMarkup.print ∧
      (extract firstScope continuedSection.print).MovedBy 65
        (extract firstScope (unrelatedMarkup.print ++ continuedSection.print)) := by
  have all : tokens unrelatedMarkup.print = placed 0 unrelatedMarkup.lexemes :=
    Lexes.items unrelatedMarkup.divided 0
  have braceless : ∀ token ∈ placed 0 unrelatedMarkup.lexemes,
      token.kind = .content -> '{' ∉ token.lexeme := by decide
  have preface : Preface firstScope unrelatedMarkup.print := by
    constructor
    case ends =>
      rw [extract, all]
      exact ⟨_, rfl, rfl, rfl⟩
    case searching =>
      rw [extract, all]
      rfl
    case paired =>
      intro token member content
      exact .of_not_mem (braceless token (all ▸ member) content)
  exact ⟨preface, extract_behind_preface preface _⟩

end EditorData.Reference
