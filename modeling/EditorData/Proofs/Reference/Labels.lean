import EditorData.Proofs.Reference.Pairing
import EditorData.Proofs.Text.Lines

/-!
# The labels of an extraction

The version and the root of the online reference are labels that an extraction prints into its
links, and into nothing else. The outline of a section has its entries with their links still
apart, each as a name and an anchor (`Part`), as the directives of the document contribute them
(`State.contribution?`). It depends on the document and on the title of the section only. Whatever
the labels, the entries that an extraction finds are its outline with the labels printed into it,
and all else that two extractions with different labels come to is the same (`extract_labels`).
-/

namespace EditorData.Reference

open EditorData.Directive

/-- A fragment of a body before the labels are known. -/
inductive Part where
  | text (written : Text)
  /-- The link of a link directive. -/
  | link (name anchor : Text)
deriving DecidableEq, Repr

/-- The fragment with its labels, the root without the slashes at its end. -/
def Part.print (version root : Text) : Part -> Text
  | .text written => written
  | .link name anchor =>
      '[' :: name ++ "](".toList ++ Text.trimEnd (· == '/') root ++ '/' :: version ++
        "/#".toList ++ anchor ++ [')']

/-- An entry of the section before the labels are known. -/
structure Draft where
  name : Text
  signature : Text
  parts : List Part
deriving DecidableEq, Repr

/-- The entry with its labels. -/
def Draft.print (version root : Text) (draft : Draft) : RawBuiltin :=
  ⟨draft.name, draft.signature, draft.parts.map (Part.print version root)⟩

/-- What a token contributes to the entries. -/
inductive Contribution where
  /-- A header under which an entry begins. -/
  | entry (title : Text)
  | signature (code : Text)
  | part (added : Part)
deriving DecidableEq, Repr

/-- What inline code contributes: behind a header a signature, and to a body its markup. -/
def Phase.inline? (code : Text) : Phase -> Option Contribution
  | .heading => some (.signature code)
  | .body => some (.part (.text (Markdown.code code Markdown.codeLanguage)))
  | .searching | .introduction => none

/-- What a token contributes that the machine accepts. Only the end of a link directive contributes
a link. -/
def State.contribution? (state : State) (token : Token) : Option Contribution :=
  match state.awaiting, token.kind with
  | .item, .content => if state.phase = .body then some (.part (.text token.lexeme)) else none
  | .headerTitle, .segment =>
      if state.phase = .introduction ∨ state.phase = .heading then some (.entry token.lexeme)
      else none
  | .option .link name, .closing => some (.part (.link name (linkAnchor name)))
  | .optionEnd .link name target, .closing => some (.part (.link name (linkAnchor target)))
  | .blockText language, .content => some (.part (.text (Markdown.code token.lexeme language)))
  | .codeRest code true, .closing =>
      some (.part (.text (Markdown.code code Markdown.codeLanguage)))
  | .endClosing (.fragment code), .closing => state.phase.inline? code
  | _, _ => none

/-- The entries with a contribution, the last one first. In front of the first one all else than a
header is dropped. -/
def Contribution.addTo (drafts : List Draft) : Contribution -> List Draft
  | .entry title => ⟨title, [], []⟩ :: drafts
  | .signature code =>
      match drafts with
      | [] => []
      | current :: earlier => { current with signature := code } :: earlier
  | .part added =>
      match drafts with
      | [] => []
      | current :: earlier => { current with parts := current.parts ++ [added] } :: earlier

/-- The contributions of tokens that are read one after the other. -/
def State.contributions (scope : Scope) : State -> List Token -> List Contribution :=
  State.trace scope fun state token _ => state.contribution? token

/-- The entries that contributions make up, the last one first. -/
def drafts (contributions : List Contribution) : List Draft :=
  contributions.foldl Contribution.addTo []

/-- The entries of the section with this title, in document order and without any labels. -/
def outline (anchor document : Text) : List Draft :=
  (drafts (State.initial.contributions ⟨[], [], anchor⟩ (tokens document))).reverse

/-- The mark makes of printed entries what the contribution makes of their drafts. -/
def Contributes (scope : Scope) (phase : Phase) (mark : Option Mark)
    (contribution : Option Contribution) : Prop :=
  ∀ (progress : Progress) (found : List Draft), progress.phase = phase ->
    progress.records = found.map (Draft.print scope.version scope.documentationRoot) ->
    (progress.after scope mark).records =
      (contribution.toList.foldl Contribution.addTo found).map
        (Draft.print scope.version scope.documentationRoot)

section Contributes

variable {scope : Scope} {phase : Phase}

/-- Without a mark the entries stay as they are. -/
theorem contributes_none : Contributes scope phase none none :=
  fun _ _ _ printed => printed

/-- The end of a header leaves the entries as they are. -/
theorem contributes_closed : Contributes scope phase (some .closed) none := by
  rintro ⟨phase, depth, records⟩ found rfl printed
  cases phase <;> exact printed

/-- A fragment of markup is added to the last entry. -/
theorem contributes_fragment (part : Part) :
    Contributes scope phase (some (.fragment (part.print scope.version scope.documentationRoot)))
      (some (.part part)) := by
  rintro ⟨phase, depth, records⟩ found rfl rfl
  cases found <;>
    simp [Progress.after, Progress.absorb, Progress.write, Contribution.addTo, Draft.print,
      RawBuiltin.append]

/-- Running text is added to the last entry in its body. -/
theorem contributes_prose (text : Text) :
    Contributes scope phase (some (.prose text))
      (if phase = .body then some (.part (.text text)) else none) := by
  rintro progress found rfl printed
  by_cases body : progress.phase = .body
  · rw [if_pos body, Progress.after, Progress.absorb, if_pos body]
    exact contributes_fragment (.text text) progress found rfl printed
  · rw [if_neg body, Progress.after, Progress.absorb, if_neg body]
    exact printed

/-- A title begins an entry within the section, but not within an entry. -/
theorem contributes_opened (title : Text) :
    Contributes scope phase (some (.opened title))
      (if phase = .introduction ∨ phase = .heading then some (.entry title) else none) := by
  rintro ⟨phase, depth, records⟩ found rfl rfl
  cases phase with
  | searching =>
      by_cases same : title = scope.anchor <;>
        simp [Progress.after, Progress.absorb, Progress.openHeader, same]
  | introduction => rfl
  | heading => rfl
  | body => rfl

/-- Inline code is a signature, or it is added to the last entry. -/
theorem contributes_inline (code : Text) :
    Contributes scope phase (some (.inline code)) (phase.inline? code) := by
  rintro progress found rfl printed
  obtain ⟨phase, depth, records⟩ := progress
  cases phase with
  | searching => exact printed
  | introduction => exact printed
  | heading =>
      cases printed
      cases found <;> rfl
  | body =>
      exact contributes_fragment (.text (Markdown.code code Markdown.codeLanguage))
        ⟨.body, depth, records⟩ found rfl printed

end Contributes

/-- What the mark of a token makes of printed entries, its contribution makes of their drafts. -/
theorem State.contributes (scope : Scope) (state : State) (token : Token) :
    Contributes scope state.phase (state.mark? scope token) (state.contribution? token) := by
  unfold mark?
  split <;> rename_i waits found
  case h_1 =>
    simp only [contribution?, waits, found]
    exact contributes_prose token.lexeme
  case h_2 =>
    simp only [contribution?, waits, found]
    exact contributes_opened token.lexeme
  case h_3 =>
    simp only [contribution?, waits, found]
    exact contributes_closed
  case h_4 form name =>
    cases form <;> simp only [contribution?, waits, found]
    · exact contributes_none
    · exact contributes_fragment (.link name (linkAnchor name))
    · exact contributes_none
  case h_5 form name target =>
    cases form <;> simp only [contribution?, waits, found]
    · exact contributes_none
    · exact contributes_fragment (.link name (linkAnchor target))
    · exact contributes_none
  case h_6 language =>
    simp only [contribution?, waits, found]
    exact contributes_fragment (.text (Markdown.code token.lexeme language))
  case h_7 code =>
    simp only [contribution?, waits, found]
    exact contributes_fragment (.text (Markdown.code code Markdown.codeLanguage))
  case h_8 ending =>
    cases ending <;> simp only [contribution?, waits, found]
    · exact contributes_inline _
    · exact contributes_none
  case h_9 =>
    have nothing : state.contribution? token = none := by
      unfold contribution?
      split <;> simp_all
    rw [nothing]
    exact contributes_none

/-- The entries that a reading finds are the drafts of what its tokens contribute, printed with the
labels. -/
theorem State.records_of_read {scope : Scope} {state : State} {front : List Token}
    (read : State.initial.read scope front = .ok state) :
    state.records =
      (drafts (State.initial.contributions scope front)).map
        (Draft.print scope.version scope.documentationRoot) := by
  have begins : State.initial.records =
      (drafts []).map (Draft.print scope.version scope.documentationRoot) := rfl
  refine State.read_induction (motive := fun history state => state.records =
    (drafts history).map (Draft.print scope.version scope.documentationRoot)) ?_ begins read
  intro history state token next printed advanced
  have added := state.contributes scope token state.progress (drafts history) rfl printed
  rw [← (State.follows_of_advance advanced).progress] at added
  rw [drafts, List.foldl_append]
  exact added

/-- The entries that an extraction finds are the drafts of what the tokens of its document
contribute, printed with the labels. -/
theorem builtins_extract (scope : Scope) (document : Text) :
    (extract scope document).builtins =
      (drafts (State.initial.contributions scope (tokens document))).reverse.map
        (Draft.print scope.version scope.documentationRoot) := by
  obtain ⟨front, state, reached, progress, shown⟩ :=
    extract_reached (fun state token _ => state.contribution? token) scope document
  have records : (extract scope document).state.records = state.records :=
    congrArg Progress.records progress
  rw [Outcome.builtins, records, State.records_of_read reached.read, List.map_reverse,
    State.contributions, shown]

/-- Two scopes with the same title of the section go together, if nothing is asked of the
documentations. -/
theorem pairing_of_anchor {scope other : Scope} (anchor : other.anchor = scope.anchor) :
    Pairing scope other fun _ _ => True :=
  ⟨anchor, trivial, fun _ _ => trivial, fun _ _ _ => trivial⟩

/-- What the tokens of a document contribute does not depend on the labels. -/
theorem contributions_eq (scope other : Scope) (anchor : other.anchor = scope.anchor)
    (tokens : List Token) :
    State.initial.contributions other tokens = State.initial.contributions scope tokens := by
  refine (State.trace_paired (pairing_of_anchor anchor) State.initial_paired ?_ tokens).symm
  intro first second _ _ token paired _
  rw [State.contribution?, State.contribution?, paired.awaiting, paired.phase]

/-- The entries that an extraction finds are the outline of the section with the labels. -/
theorem builtins_eq_outline (scope : Scope) (document : Text) :
    (extract scope document).builtins =
      (outline scope.anchor document).map
        (Draft.print scope.version scope.documentationRoot) := by
  rw [builtins_extract, outline, contributions_eq scope ⟨[], [], scope.anchor⟩ rfl]

/-- Two scopes with the same title of the section and the same links go together, and keep
documentations equal. -/
theorem pairing_of_link {scope other : Scope} (anchor : other.anchor = scope.anchor)
    (link : other.link = scope.link) : Pairing scope other Eq :=
  ⟨anchor, rfl, fun _ same => by rw [same], fun _ _ same => by rw [same, link]⟩

/-- Machines at the same point with equal documentations are equal. -/
theorem State.Paired.eq {first second : State} (paired : first.Paired Eq second) :
    second = first := by
  have same : second.records = first.records := by
    refine (List.forall₂_eq_eq_eq ▸ paired.records.imp ?_ : first.records = second.records).symm
    rintro ⟨_, _, _⟩ ⟨_, _, _⟩ ⟨name, signature, documentation⟩
    simp_all
  have ledger : second.ledger = first.ledger := Ledger.ext_records same
  obtain ⟨phase, depth, _, awaiting, cursor, log⟩ := second
  obtain ⟨rfl, rfl, rfl, rfl, rfl, _⟩ := paired
  obtain rfl : _ = first.ledger := ledger
  rfl

/-- An extraction depends on its labels only through its links. -/
theorem extract_eq_of_link {scope other : Scope} (link : other.link = scope.link)
    (anchor : other.anchor = scope.anchor) (document : Text) :
    extract other document = extract scope document := by
  have paired := run_paired (pairing_of_link anchor link) State.initial_paired (tokens document)
  have state : (extract other document).state = (extract scope document).state := paired.state.eq
  have fault : (extract other document).fault = (extract scope document).fault := paired.fault
  generalize extract other document = second at state fault
  generalize extract scope document = first at state fault
  cases first
  cases second
  cases state
  cases fault
  rfl

/-- The version and the root of the online reference reach nothing but the links. Two extractions
of a document that differ in them only stop for the same reason, if any, at the same place, in the
same part of the document and with the same headers open. The entries that they find are the same
outline, printed each with its own labels, so these have the same names, the same signatures and as
many fragments, and only the fragments that links have written differ, in the labels. And slashes
at the end of the root change nothing. -/
theorem extract_labels (document anchor version root otherVersion otherRoot : Text) :
    let first := extract ⟨version, root, anchor⟩ document
    let second := extract ⟨otherVersion, otherRoot, anchor⟩ document
    second.fault = first.fault ∧ second.state.phase = first.state.phase ∧
      second.state.depth = first.state.depth ∧ second.state.cursor = first.state.cursor ∧
      first.builtins = (outline anchor document).map (Draft.print version root) ∧
      second.builtins = (outline anchor document).map (Draft.print otherVersion otherRoot) ∧
      ∀ slashes,
        extract ⟨version, root ++ List.replicate slashes '/', anchor⟩ document = first := by
  intro first second
  have pairing : Pairing ⟨version, root, anchor⟩ ⟨otherVersion, otherRoot, anchor⟩
      fun _ _ => True := pairing_of_anchor rfl
  have paired : first.Paired (fun _ _ => True) second :=
    run_paired pairing State.initial_paired (tokens document)
  refine ⟨paired.fault, paired.state.phase, paired.state.depth, paired.state.cursor,
    builtins_eq_outline _ document, builtins_eq_outline _ document, fun slashes => ?_⟩
  have trimmed : ∀ c ∈ List.replicate slashes '/', (c == '/') = true := by
    intro c member
    rw [List.eq_of_mem_replicate member]
    rfl
  have link : Scope.link ⟨version, root ++ List.replicate slashes '/', anchor⟩ =
      Scope.link ⟨version, root, anchor⟩ := by
    funext name target
    simp only [Scope.link, Text.trimEnd_append_blanks trimmed]
  exact extract_eq_of_link link rfl document

end EditorData.Reference
