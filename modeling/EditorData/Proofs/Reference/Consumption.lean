import EditorData.Proofs.Directive.Borders
import EditorData.Proofs.Reference.Entries

/-!
# What an extraction consumes

The cursor stands behind the characters of the tokens that have been read
(`Reached.take_cursor`), and behind the end of a directive those tokens are the same whatever
follows (`Reached.replace`). An extraction returns behind such an end, so what it has consumed
decides what it returns: it returns the same in front of any other text, and it does not
return from a document that is cut in front of its cursor (`extract_consumed`).
-/

namespace EditorData.Reference

open EditorData.Directive

section Reached

variable {scope : Scope} {document : Text} {front : List Token} {state : State} {token : Token}

/-- The cursor stands behind the characters that have been read. -/
theorem Reached.cursor_eq (reached : Reached scope document front state) :
    state.cursor = (textOf front).length := by
  cases front using List.reverseRecOn with
  | nil =>
      cases reached.read
      rfl
  | append_singleton earlier token =>
      obtain ⟨before, upTo, last⟩ := reached.of_append
      obtain ⟨accepted, _, rfl⟩ := State.accepted_of_advance (State.read_singleton.1 last)
      obtain ⟨rest, all⟩ := reached.begins
      have tiling := tiling_tokens document
      rw [← all, List.append_assoc] at tiling
      have begins := tiling.start_eq
      simp [Token.stop, begins]

/-- These characters are what the document has in front of the cursor. -/
theorem Reached.take_cursor (reached : Reached scope document front state) :
    document.take state.cursor = textOf front := by
  obtain ⟨rest, all⟩ := reached.begins
  have whole := (tiling_tokens document).textOf_eq
  rw [← all, textOf_append] at whole
  rw [reached.cursor_eq, ← whole, List.take_left']
  rfl

/-- Behind a directive that ends another text may follow. -/
theorem Reached.replace (reached : Reached scope document (front ++ [token]) state)
    (closes : token.kind = .closing) (rest : Text) :
    Reached scope (document.take state.cursor ++ rest) (front ++ [token]) state := by
  obtain ⟨more, all⟩ := reached.begins
  have tokenizes := tokenizes_tokens document
  rw [← all] at tokenizes
  have going : more ≠ [] := by
    have tiling := tiling_tokens document
    rw [← all, List.append_assoc] at tiling
    exact (not_congr tiling.isFinal_iff).1 (by simp [closes, TokenKind.isFinal])
  have replaced := @tokensFrom_replace _ _ _ _ _ rest tokenizes going (by simp [EndsBefore, closes])
  rw [reached.take_cursor]
  exact ⟨⟨_, replaced.symm⟩, reached.read⟩

end Reached

/-- What an extraction has consumed when it returns decides what it returns, whatever follows. -/
theorem extract_take_append {scope : Scope} {document : Text} {state : State}
    (returns : extract scope document = ⟨state, none⟩) (rest : Text) :
    extract scope (document.take state.cursor ++ rest) = ⟨state, none⟩ := by
  obtain ⟨front, token, reached, _, closes, _⟩ := returns_behind_closing returns
  have ended := reached.ended_iff.2 (reached.returns_iff.1 returns)
  exact (reached.replace closes rest).extract_eq ended

/-- An extraction returns from what it has consumed, and it returns the same whatever follows
that; from a document that is cut in front of its cursor it does not return. -/
theorem extract_consumed {scope : Scope} {document : Text} {state : State}
    (returns : extract scope document = ⟨state, none⟩) :
    state.cursor ≤ document.length ∧
      (∀ rest, extract scope (document.take state.cursor ++ rest) = ⟨state, none⟩) ∧
      ∀ stop < state.cursor, ∃ fault,
        (extract scope (document.take stop)).result = .error fault := by
  obtain ⟨front, token, reached, _⟩ := returns_behind_closing returns
  have inside : state.cursor ≤ document.length := by
    have taken := congrArg List.length reached.take_cursor
    rw [List.length_take, ← reached.cursor_eq] at taken
    omega
  refine ⟨inside, extract_take_append returns, ?_⟩
  intro stop cut
  obtain ⟨earlier, fault, ends⟩ : ∃ earlier fault,
      extract scope (document.take stop) = ⟨earlier, fault⟩ := ⟨_, _, rfl⟩
  cases fault with
  | some fault => exact ⟨fault, by rw [ends]; rfl⟩
  | none =>
      -- the cut document would decide what the whole one returns, with a cursor in front of it
      obtain ⟨_, _, short, _⟩ := returns_behind_closing ends
      have within : earlier.cursor ≤ stop := by
        have taken := congrArg List.length short.take_cursor
        rw [List.length_take, List.length_take, ← short.cursor_eq] at taken
        omega
      have same := extract_take_append ends (document.drop earlier.cursor)
      rw [List.take_take, Nat.min_eq_left within, List.take_append_drop, returns] at same
      cases same
      omega

/-- A section with one entry, behind which the document goes on. -/
def continuedSection : Markup where
  items := sectionItems (entryItems []) ++
    .content ⟨['{', ' ', '}'], by decide, .pair (by decide) (.single (by decide) .nil)⟩ ::
    emptyHeader (word "@b")
  divided := by simp [sectionItems, entryItems, emptyHeader, directiveOf, Item.Divided]

/-- Where the extraction of this document ends. -/
def behindSection : State :=
  ⟨.heading, 0, .ofRecords [⟨"@a".toList, "@a()".toList, []⟩], .nothing, 110,
    [⟨.debug, "Found 'Builtin Functions' section at offset 31".toList⟩]⟩

/-- A directive that is not closed may stand behind the section, but not one character of the
section may be missing. -/
theorem continuedSection_consumed :
    extract firstScope continuedSection.print = ⟨behindSection, none⟩ ∧
      extract firstScope (continuedSection.print.take 110 ++ '{' :: '#' :: "broken".toList) =
        ⟨behindSection, none⟩ ∧
      ∃ fault, (extract firstScope (continuedSection.print.take 109)).result = .error fault := by
  have returns : extract firstScope continuedSection.print = ⟨behindSection, none⟩ := by
    rw [extract, show tokens continuedSection.print = placed 0 continuedSection.lexemes from
      Lexes.items continuedSection.divided 0]
    rfl
  obtain ⟨_, behind, cut⟩ := extract_consumed returns
  exact ⟨returns, behind ('{' :: '#' :: "broken".toList), cut 109 (by decide)⟩

end EditorData.Reference
