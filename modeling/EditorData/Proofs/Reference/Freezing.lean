import EditorData.Proofs.Reference.Entries

/-!
# Closed entries

An entry is closed by the directive that balances its header. The machine does not know the
entry that is open but only the last one, so what follows a closed entry goes to it until
the next one begins: links, blocks and examples as parts of its body, and inline code as
its signature. From then on nothing changes it (`Progress.earlier_after`). An entry stays as
it was when it was closed exactly if every mark that follows it in front of the next one
spares it (`closedEntry_frozen_iff`).
-/

namespace EditorData.Reference

open EditorData.Directive

namespace Progress

variable {scope : Scope} {progress : Progress}

/-- All entries but the last are left as they are. -/
theorem earlier_after {place : Nat} (earlier : place + 1 < progress.records.length)
    (mark : Option Mark) :
    (progress.after scope mark).records.reverse[place]? = progress.records.reverse[place]? := by
  cases mark with
  | none => rfl
  | some mark =>
      obtain ⟨kept, records, names, others⟩ := progress.records_absorb scope mark
      have count := congrArg List.length names
      rw [after, records]
      obtain ⟨phase, depth, before⟩ := progress
      cases before with
      | nil => simp at earlier
      | cons current rest =>
          cases kept with
          | nil => simp at count
          | cons changed same =>
              cases others
              have inside : place < rest.reverse.length := by simpa using earlier
              simp only [List.reverse_append, List.reverse_cons, List.append_assoc]
              rw [List.getElem?_append_left inside, List.getElem?_append_left inside]

/-- The mark leaves the last entry as it is: it adds nothing to it, and the signature that it
gives is the one it has. -/
def Spares (progress : Progress) : Mark -> Prop
  | .prose _ => progress.phase ≠ .body
  | .opened _ | .closed => True
  | .inline code =>
      progress.phase = .heading ∧ ∀ current ∈ progress.records.head?, code = current.signature
  | .fragment _ => False

/-- Behind the introduction a mark leaves the last entry as it is exactly if it spares it. -/
theorem spares_iff {current : RawBuiltin} {earlier : List RawBuiltin}
    (records : progress.records = current :: earlier)
    (behind : progress.phase = .heading ∨ progress.phase = .body) (mark : Mark) :
    (progress.absorb scope mark).records.reverse[earlier.length]? = some current ↔
      progress.Spares mark := by
  obtain ⟨phase, depth, before⟩ := progress
  cases records
  obtain ⟨name, signature, documentation⟩ := current
  cases phase <;> cases mark <;>
    simp_all [absorb, openHeader, closeHeader, finishInline, write, sign, Spares,
      RawBuiltin.append]

/-- A mark leaves an entry as it is, unless this is the last one and is not spared. -/
theorem entry_after_iff {marks : List Mark} (coherent : progress.Coherent scope marks)
    {place : Nat} (there : place < progress.records.length) (mark : Option Mark) :
    (progress.after scope mark).records.reverse[place]? = progress.records.reverse[place]? ↔
      (progress.records.length = place + 1 -> ∀ found ∈ mark, progress.Spares found) := by
  by_cases last : progress.records.length = place + 1
  · cases records : progress.records with
    | nil => simp [records] at there
    | cons current earlier =>
        have behind : progress.phase = .heading ∨ progress.phase = .body := by
          have empty := coherent.empty
          cases phase : progress.phase <;> simp_all
        obtain rfl : place = earlier.length := by simpa [records] using last.symm
        cases mark with
        | none => simp [after, records]
        | some mark => simpa [after] using spares_iff records behind mark
  · have earlier : place + 1 < progress.records.length := by omega
    simp [earlier_after earlier mark, last]

end Progress

namespace State

variable {scope : Scope} {state next : State} {token : Token}

/-- Entries are not taken back. -/
theorem entries_le_of_advance (advanced : state.advance scope token = .ok next) :
    state.entries.length ≤ next.entries.length := by
  have count := congrArg List.length (names_of_advance advanced)
  simp only [List.length_append, List.length_map] at count
  simp only [entries, List.length_reverse]
  omega

/-- A reading does not take entries back. -/
theorem entries_le_of_read {front : List Token} (read : state.read scope front = .ok next) :
    state.entries.length ≤ next.entries.length := by
  induction front generalizing state with
  | nil =>
      cases read
      exact le_rfl
  | cons token others inductionHypothesis =>
      obtain ⟨first, advanced, continued⟩ := read_cons.1 read
      exact (entries_le_of_advance advanced).trans (inductionHypothesis continued)

end State

/-- An entry of a document that has been closed: the tokens in front of its title, the title,
the tokens behind it during which more headers are open than in front of it, and the token
that brings their number back, with the states of the machine between them. -/
structure ClosedEntry (scope : Scope) (document : Text) where
  front : List Token
  title : Token
  inside : List Token
  closing : Token
  outer : State
  begun : State
  last : State
  closed : State
  outside : Reached scope document front outer
  begins : outer.advance scope title = .ok begun
  longer : outer.entries.length < begun.entries.length
  within : begun.read scope inside = .ok last
  nested : ∀ depth ∈ begun.trace scope (fun _ _ next => some next.depth) inside,
    outer.depth < depth
  ends : last.advance scope closing = .ok closed
  balanced : closed.depth = outer.depth

namespace ClosedEntry

variable {scope : Scope} {document : Text} (entry : ClosedEntry scope document)

/-- The tokens up to the end of the entry. -/
def tokens : List Token :=
  entry.front ++ entry.title :: entry.inside ++ [entry.closing]

/-- The place of the entry among all entries. -/
def place : Nat :=
  entry.outer.entries.length

/-- Whatever the extraction reads behind the entry, the entry stays as it was when it was
closed. -/
def Frozen : Prop :=
  ∀ later state, Reached scope document (entry.tokens ++ later) state ->
    state.entries[entry.place]? = entry.closed.entries[entry.place]?

/-- As long as no other entry has begun, what is read behind the entry spares it. -/
def Spared : Prop :=
  ∀ later token state next, Reached scope document (entry.tokens ++ later) state ->
    Reached scope document (entry.tokens ++ later ++ [token]) next ->
    state.entries.length = entry.place + 1 ->
    ∀ mark ∈ state.mark? scope token, state.progress.Spares mark

/-- The tokens of the entry are read up to its end. -/
theorem read_tokens : State.initial.read scope entry.tokens = .ok entry.closed := by
  rw [tokens, List.append_assoc, State.read_append]
  refine ⟨entry.outer, entry.outside.read, ?_⟩
  rw [List.cons_append, State.read_cons]
  refine ⟨entry.begun, entry.begins, ?_⟩
  rw [State.read_append]
  exact ⟨entry.last, entry.within, State.read_singleton.2 entry.ends⟩

/-- The entry is there when it is closed. -/
theorem place_lt : entry.place < entry.closed.entries.length := by
  have within := State.entries_le_of_read entry.within
  have ends := State.entries_le_of_advance entry.ends
  exact lt_of_lt_of_le entry.longer (within.trans ends)

variable {entry}

/-- One more token behind the entry. -/
theorem kept_iff {later : List Token} {token : Token} {state next : State}
    (reached : Reached scope document (entry.tokens ++ later) state)
    (reachedNext : Reached scope document (entry.tokens ++ later ++ [token]) next) :
    next.entries[entry.place]? = state.entries[entry.place]? ↔
      (state.entries.length = entry.place + 1 ->
        ∀ mark ∈ state.mark? scope token, state.progress.Spares mark) := by
  have advanced := reached.advance reachedNext
  have coherent := reached.coherent (State.waits_of_advance advanced)
  have there : entry.place < state.entries.length := by
    obtain ⟨closed, upTo, behind⟩ := reached.of_append
    cases upTo.unique ⟨upTo.begins, entry.read_tokens⟩
    exact lt_of_lt_of_le entry.place_lt (State.entries_le_of_read behind)
  rw [State.entries, List.length_reverse] at there
  have kept := Progress.entry_after_iff coherent there (state.mark? scope token)
  rw [← (State.follows_of_advance advanced).progress] at kept
  rw [State.entries, State.entries, List.length_reverse]
  exact kept

end ClosedEntry

/-- A closed entry stays as it is exactly if everything that the extraction reads in front of
the next entry spares it. -/
theorem closedEntry_frozen_iff {scope : Scope} {document : Text}
    (entry : ClosedEntry scope document) : entry.Frozen ↔ entry.Spared := by
  constructor
  · intro frozen later token state next reached reachedNext
    have before := frozen later state reached
    have behind := frozen (later ++ [token]) next (by simpa using reachedNext)
    exact (ClosedEntry.kept_iff reached reachedNext).1 (behind.trans before.symm)
  · intro spared later
    induction later using List.reverseRecOn with
    | nil =>
        intro state reached
        rw [List.append_nil] at reached
        cases reached.unique ⟨reached.begins, entry.read_tokens⟩
        rfl
    | append_singleton earlier token inductionHypothesis =>
        intro next reachedNext
        rw [← List.append_assoc] at reachedNext
        obtain ⟨state, reached, _⟩ := reachedNext.of_append
        have kept := (ClosedEntry.kept_iff reached reachedNext).2
          (spared earlier token state next reached reachedNext)
        exact kept.trans (inductionHypothesis state reached)

/-- A section with one entry, behind which there is a link. -/
def linkBehindEntry : Markup where
  items := sectionItems (entryItems [] ++ [directiveOf [word "link", word "x"]])
  divided := by simp [sectionItems, entryItems, directiveOf, Item.Divided]

/-- The tokens of this section. -/
theorem tokens_linkBehindEntry :
    Directive.tokens linkBehindEntry.print = placed 0 linkBehindEntry.lexemes :=
  Lexes.items linkBehindEntry.divided 0

/-- The machine in this section, the title of which it has found. -/
def atLink (phase : Phase) (depth : Nat) (records : List RawBuiltin) (awaiting : Awaiting)
    (cursor : Nat) : State :=
  ⟨phase, depth, .ofRecords records, awaiting, cursor,
    [⟨.debug, "Found 'Builtin Functions' section at offset 31".toList⟩]⟩

/-- The entry of this section: eight tokens stand in front of its title, and ten between the
title and the bracket that closes the entry. -/
def entryBeforeLink : ClosedEntry firstScope linkBehindEntry.print where
  front := (placed 0 linkBehindEntry.lexemes).take 8
  title := ⟨.segment, 47, "@a".toList⟩
  inside := ((placed 0 linkBehindEntry.lexemes).drop 9).take 10
  closing := ⟨.closing, 92, ['#', '}']⟩
  outer := atLink .introduction 1 [] .headerTitle 47
  begun := atLink .heading 2 [⟨"@a".toList, [], []⟩] .headerRest 49
  last := atLink .body 2 [⟨"@a".toList, "@a()".toList, []⟩] .headerEnd 92
  closed := atLink .heading 1 [⟨"@a".toList, "@a()".toList, []⟩] .item 94
  outside := ⟨⟨(placed 0 linkBehindEntry.lexemes).drop 8, tokens_linkBehindEntry.symm⟩, rfl⟩
  begins := rfl
  longer := by decide
  within := rfl
  nested := by decide
  ends := rfl
  balanced := rfl

/-- The link goes to the entry although this has been closed in front of it. -/
theorem entryBeforeLink_not_frozen : ¬ entryBeforeLink.Frozen := by
  intro frozen
  -- the link is the five tokens behind the end of the entry
  let link := ((placed 0 linkBehindEntry.lexemes).drop 20).take 5
  have linked : Reached firstScope linkBehindEntry.print (entryBeforeLink.tokens ++ link)
      (atLink .heading 1
        [⟨"@a".toList, "@a()".toList, ["[x](https://ziglang.org/documentation/1/#x)".toList]⟩]
        .item 104) :=
    ⟨⟨(placed 0 linkBehindEntry.lexemes).drop 25, tokens_linkBehindEntry.symm⟩, rfl⟩
  have same := frozen link _ linked
  cases same

end EditorData.Reference
