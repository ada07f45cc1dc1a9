import EditorData.Proofs.Directive.Printing
import EditorData.Proofs.Reference.Balance
import EditorData.Proofs.Reference.Dialect

/-!
# Entries and headers

An entry begins with the title of a header. Which headers begin one depends on the part of
the document, not on the headers that are open: every header inside of the section does,
unless the machine is behind the signature of an entry (`State.opening?_eq`). The entries of
an extraction are the headers that begin one, in their order (`names_eq_openings`), and these
are the headers directly in the section exactly if all of those, and no others, are in front
of a signature (`oneEntryPerHeader_iff`).
-/

namespace EditorData.Reference

open EditorData.Directive

namespace Progress

/-- The title of the entry that a mark begins, if it begins one. -/
def begun? (progress : Progress) : Mark -> Option Text
  | .opened title =>
      if progress.phase = .introduction ∨ progress.phase = .heading then some title else none
  | _ => none

/-- What a mark makes of the entries: it may begin one, the others keep their names, and all
but the last of them are left as they are. -/
theorem records_absorb (scope : Scope) (progress : Progress) (mark : Mark) :
    ∃ kept, (progress.absorb scope mark).records =
        (progress.begun? mark).toList.map .titled ++ kept ∧
      kept.map RawBuiltin.name = progress.records.map RawBuiltin.name ∧
      kept.tail = progress.records.tail := by
  refine ⟨(progress.absorb scope mark).records.drop (progress.begun? mark).toList.length, ?_⟩
  obtain ⟨phase, depth, records⟩ := progress
  cases mark with
  | opened title =>
      cases phase <;> simp [absorb, openHeader, begun?]
      by_cases same : title = scope.anchor <;> simp [same]
  | _ =>
      cases phase <;> cases records <;>
        simp [absorb, begun?, closeHeader, finishInline, write, sign, RawBuiltin.append]

/-- The names of the entries change with the entry that begins. -/
theorem names_after (scope : Scope) (progress : Progress) (mark : Option Mark) :
    (progress.after scope mark).records.map RawBuiltin.name =
      (mark.bind progress.begun?).toList ++ progress.records.map RawBuiltin.name := by
  cases mark with
  | none => rfl
  | some mark =>
      obtain ⟨kept, records, names, _⟩ := records_absorb scope progress mark
      simp [after, records, names, RawBuiltin.titled, Function.comp_def]

end Progress

/-- The title of the entry that a token begins, if it begins one. -/
def State.begun? (scope : Scope) (state : State) (token : Token) : Option Text :=
  (state.mark? scope token).bind state.progress.begun?

/-- A header that is opened inside of the section, and whether an entry begins with it. -/
structure Opening where
  title : Text
  /-- The number of headers of the section that are open in front of it. -/
  depth : Nat
  /-- The part of the document that its title is in. -/
  phase : Phase
  begins : Bool
deriving DecidableEq, Repr

/-- The header that has its title with a token inside of the section. -/
def State.opening? (scope : Scope) (state : State) (token : Token) (next : State) :
    Option Opening :=
  match state.mark? scope token with
  | some (.opened title) =>
      if state.phase = .searching then none
      else some ⟨title, state.depth, state.phase, state.records.length < next.records.length⟩
  | _ => none

/-- The headers that the extraction of a document opens inside of the section. -/
def openings (scope : Scope) (document : Text) : List Opening :=
  State.initial.trace scope (State.opening? scope) (tokens document)

/-- The titles of the headers that begin entries. -/
def begunTitles (openings : List Opening) : List Text :=
  (openings.filter Opening.begins).map Opening.title

/-- The entries are the headers opened directly in the section, one for each, and no other
header begins an entry. -/
def OneEntryPerHeader (scope : Scope) (document : Text) : Prop :=
  (extract scope document).builtins.map RawBuiltin.name =
      ((openings scope document).filter (·.depth = 1)).map Opening.title ∧
    ∀ opening ∈ openings scope document, opening.begins = decide (opening.depth = 1)

section Step

variable {scope : Scope} {state next : State} {token : Token} {history : List Opening}

/-- The names of the entries behind a token: that of the entry that it begins, and the names
of the others. -/
theorem State.names_of_advance (advanced : state.advance scope token = .ok next) :
    next.records.map RawBuiltin.name =
      (state.begun? scope token).toList ++ state.records.map RawBuiltin.name := by
  have names := Progress.names_after scope state.progress (state.mark? scope token)
  rwa [← (follows_of_advance advanced).progress] at names

/-- There is one more entry exactly behind the title of one. -/
theorem State.longer_iff (advanced : state.advance scope token = .ok next) :
    state.records.length < next.records.length ↔ (state.begun? scope token).isSome := by
  have count := congrArg List.length (names_of_advance advanced)
  cases begun : state.begun? scope token <;> simp_all

/-- Inside of the section headers begin entries, except behind the signature of one. -/
theorem State.opening?_eq (advanced : state.advance scope token = .ok next) :
    state.opening? scope token next =
      match state.mark? scope token with
      | some (.opened title) =>
          if state.phase = .searching then none
          else some ⟨title, state.depth, state.phase, state.phase ≠ .body⟩
      | _ => none := by
  have begins := longer_iff advanced
  unfold begun? at begins
  unfold opening?
  split
  · next title marked =>
      rw [marked] at begins
      cases phase : state.phase <;> simp_all [Progress.begun?, progress]
  · rfl

/-- The headers that begin entries are the entries that tokens begin. -/
theorem State.begunTitles_opening? (advanced : state.advance scope token = .ok next) :
    begunTitles (state.opening? scope token next).toList = (state.begun? scope token).toList := by
  rw [opening?_eq advanced, begun?]
  cases marked : state.mark? scope token with
  | none => rfl
  | some mark =>
      cases mark with
      | opened title =>
          cases phase : state.phase <;> simp [begunTitles, Progress.begun?, progress, phase]
      | _ => rfl

/-- The entries are named by the headers that have begun them. -/
def State.NamedBy (history : List Opening) (state : State) : Prop :=
  state.records.map RawBuiltin.name = (begunTitles history).reverse

/-- Reading one token keeps the names. -/
theorem State.NamedBy.advance (named : state.NamedBy history)
    (advanced : state.advance scope token = .ok next) :
    next.NamedBy (history ++ (state.opening? scope token next).toList) := by
  have titles : begunTitles (history ++ (state.opening? scope token next).toList) =
      begunTitles history ++ (state.begun? scope token).toList := by
    rw [← begunTitles_opening? advanced]
    simp [begunTitles]
  rw [NamedBy, names_of_advance advanced, titles, List.reverse_append, named]
  cases state.begun? scope token <;> rfl

end Step

section Extraction

variable {scope : Scope} {document : Text}

/-- The entries of an extraction are the headers that begin one. -/
theorem names_eq_openings (scope : Scope) (document : Text) :
    (extract scope document).builtins.map RawBuiltin.name =
      begunTitles (openings scope document) := by
  obtain ⟨front, state, reached, ends, shown⟩ :=
    extract_reached (State.opening? scope) scope document
  have named : state.NamedBy (openings scope document) := by
    have initial : State.initial.NamedBy [] := rfl
    rw [openings, shown]
    exact State.read_induction State.NamedBy.advance initial reached.read
  have records : (extract scope document).state.records = state.records :=
    congrArg Progress.records ends
  rw [Outcome.builtins, records, List.map_reverse, named, List.reverse_reverse]

/-- A header that an extraction opens inside of the section is in it, and it begins an entry
unless it is behind the signature of one. -/
theorem begins_of_mem_openings {opening : Opening} (mem : opening ∈ openings scope document) :
    1 ≤ opening.depth ∧ opening.begins = decide (opening.phase ≠ .body) := by
  obtain ⟨before, token, after, state, next, split, read, advanced, shown⟩ :=
    State.step_of_mem_trace mem
  have reached : Reached scope document before state := ⟨⟨_, split.symm⟩, read⟩
  have coherent := reached.coherent (State.waits_of_advance advanced)
  rw [State.opening?_eq advanced] at shown
  split at shown
  · split at shown
    · cases shown
    · next inside =>
        cases shown
        exact ⟨Nat.pos_of_ne_zero fun zero => inside (coherent.searching.2 zero), rfl⟩
  · cases shown

/-- The entries of a document are the headers opened directly in its section, and only these,
exactly if none of them is behind the signature of an entry and all the others are. -/
theorem oneEntryPerHeader_iff (scope : Scope) (document : Text) :
    OneEntryPerHeader scope document ↔
      ∀ opening ∈ openings scope document, (opening.phase = .body ↔ 1 < opening.depth) := by
  have begins : ∀ opening ∈ openings scope document,
      (opening.begins = decide (opening.depth = 1) ↔
        (opening.phase = .body ↔ 1 < opening.depth)) := by
    intro opening mem
    obtain ⟨inside, behind⟩ := begins_of_mem_openings mem
    have nested : 1 < opening.depth ↔ ¬ opening.depth = 1 := by omega
    rw [behind, decide_eq_decide, nested]
    tauto
  rw [← forall₂_congr begins]
  constructor
  · exact fun ⟨_, direct⟩ => direct
  · intro direct
    refine ⟨?_, direct⟩
    rw [names_eq_openings, begunTitles, List.filter_congr direct]

end Extraction

/-- The reference of the first version, with the builtin section under its own title. -/
def firstScope : Scope :=
  ⟨"1".toList, "https://ziglang.org/documentation".toList, sectionAnchor⟩

/-- A word by its characters. -/
def word (text : String)
    (valid : text.toList ≠ [] ∧ '|' ∉ text.toList ∧ '#' ∉ text.toList := by decide) : Word :=
  ⟨text.toList, valid⟩

/-- A directive by its words. -/
def directiveOf (words : List Word) : Item :=
  .directive (words.map fun word => ⟨word.val, .of_not_mem word.property.2.1 word.property.2.2⟩)

/-- The builtin section with these items. -/
def sectionItems (items : List Item) : List Item :=
  directiveOf [word "header_open", word "Builtin Functions"] ::
    (items ++ [directiveOf [word "header_close"]])

/-- An entry with these items behind its signature. -/
def entryItems (items : List Item) : List Item :=
  [directiveOf [word "header_open", word "@a"], directiveOf [word "syntax"],
      .content ⟨"@a()".toList, by decide, .of_not_mem (by decide)⟩,
      directiveOf [word "endsyntax"]] ++
    items ++ [directiveOf [word "header_close"]]

/-- A header with nothing behind it. -/
def emptyHeader (title : Word) : List Item :=
  [directiveOf [word "header_open", title], directiveOf [word "header_close"]]

/-- Inline code with its directives. -/
def inlineItems (code : Content) : List Item :=
  [directiveOf [word "syntax"], .content code, directiveOf [word "endsyntax"]]

/-- A section with one entry, in which two headers follow the signature one after the other. -/
def twoSubsections : Markup where
  items := sectionItems (entryItems (emptyHeader (word "S") ++ emptyHeader (word "T")))
  divided := by simp [sectionItems, entryItems, emptyHeader, directiveOf, Item.Divided]

/-- The tokens of this section. -/
theorem tokens_twoSubsections : tokens twoSubsections.print = placed 0 twoSubsections.lexemes :=
  Lexes.items twoSubsections.divided 0

/-- The end of the first header puts the machine in front of a signature again, so the second
one begins an entry although it is inside of one. -/
theorem not_oneEntryPerHeader :
    (extract firstScope twoSubsections.print).fault = none ∧
      ¬ OneEntryPerHeader firstScope twoSubsections.print := by
  have shown : openings firstScope twoSubsections.print =
      [⟨"@a".toList, 1, .introduction, true⟩, ⟨"S".toList, 2, .body, false⟩,
        ⟨"T".toList, 2, .heading, true⟩] := by
    rw [openings, tokens_twoSubsections]
    rfl
  constructor
  · rw [extract, tokens_twoSubsections]
    rfl
  · rintro ⟨_, begins⟩
    rw [shown] at begins
    have nested := begins ⟨"T".toList, 2, .heading, true⟩ (by decide)
    cases nested

end EditorData.Reference
