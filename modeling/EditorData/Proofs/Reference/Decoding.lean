import EditorData.Proofs.Reference.Completion

/-!
# Decoding the dialect

Extracting a printed section gives back its entries (`extract_print`). The pieces of an
introduction or of a body only add fragments to the entry in progress, and an introduction
has none (`State.Inner`, `Completes.pieces`); an entry adds one record (`Completes.entry`).
-/

namespace EditorData.Reference

open EditorData.Directive

/-- Where the pieces of an introduction or of a body may stand. -/
def State.Inner (state : State) : Prop :=
  state.phase = .body ∨ state.phase = .introduction ∧ state.records = []

/-- The state with fragments added to its last entry. -/
def State.writeAll (state : State) (fragments : List Text) : State :=
  fragments.foldl State.write state

namespace State

variable {state : State}

/-- Writing changes no phase. -/
@[simp] theorem write_phase (fragment : Text) : (state.write fragment).phase = state.phase := rfl

/-- Writing keeps the pieces going. -/
theorem Inner.write (inner : state.Inner) (fragment : Text) : (state.write fragment).Inner := by
  rcases inner with body | ⟨introduction, none⟩
  · exact .inl (by simp [body])
  · exact .inr ⟨introduction, by rw [records_write, none]; rfl⟩

/-- Writing several fragments keeps the pieces going. -/
theorem Inner.writeAll (inner : state.Inner) (fragments : List Text) :
    (state.writeAll fragments).Inner := by
  induction fragments generalizing state with
  | nil => exact inner
  | cons fragment others inductionHypothesis => exact inductionHypothesis (inner.write fragment)

/-- Fragments can be written in two goes. -/
theorem writeAll_append (first second : List Text) :
    state.writeAll (first ++ second) = (state.writeAll first).writeAll second :=
  List.foldl_append

/-- Pieces stand inside the section. -/
theorem Inner.phase_ne (inner : state.Inner) : state.phase ≠ .searching := by
  rcases inner with body | ⟨introduction, _⟩
  · rw [body]
    nofun
  · rw [introduction]
    nofun

/-- Without an entry there is nothing to write to. -/
theorem write_of_nil (none : state.records = []) (fragment : Text) :
    state.write fragment = state := by
  rw [write, Ledger.change_of_nil none]

/-- Inline code among pieces is written to the entry in progress. -/
theorem Inner.finishCode (inner : state.Inner) (code : Text) :
    state.finishCode (.fragment code) =
      (state.write (Markdown.code code Markdown.codeLanguage)).await .item := by
  rcases inner with body | ⟨introduction, none⟩
  · simp [State.finishCode, body]
  · simp [State.finishCode, introduction, write_of_nil none]

end State

section Completes

variable {scope : Scope} {state : State} {rest : Text} {found : List RawBuiltin}

/-- A piece of an example with the directive behind it. -/
theorem Completes.examplePiece (text : Fragment) (tag : Word) (arguments : List Word)
    (completes : Completes scope
      (if tag.val = "code_end".toList then
        (state.write (Markdown.code text.val Markdown.codeLanguage)).await .item
      else state.await .codeText) rest found) :
    Completes scope (state.await .codeText)
      (text.val ++ (printDirective tag.val arguments ++ rest)) found := by
  have ended : Completes scope
      (state.await (.codeRest text.val (tag.val = "code_end".toList))) ('#' :: '}' :: rest)
      found := by
    by_cases last : tag.val = "code_end".toList
    · rw [if_pos last] at completes
      simp only [last, decide_true]
      exact completes.of_moves (.closing rest)
        (moves_of_accept? (fun _ _ _ => rfl) fun _ _ _ => by simp [State.accept?]) rfl rfl
    · rw [if_neg last] at completes
      simp only [last, decide_false]
      exact completes.of_moves (.closing rest)
        (moves_of_accept? (fun _ _ _ => rfl) fun _ _ _ => rfl) rfl rfl
  have stays : ∀ last kind lexeme, kind = .separator ∨ kind = .segment ->
      Moves scope (state.await (.codeRest text.val last)) kind lexeme
        (state.await (.codeRest text.val last)) := by
    rintro last kind lexeme (rfl | rfl) <;> cases last <;>
      exact moves_of_accept? (fun _ _ _ => rfl) fun _ _ _ => rfl
  have tagged : Completes scope (state.await (.codeTag text.val))
      (tag.val ++ (printArguments arguments ++ '#' :: '}' :: rest)) found :=
    (Completes.arguments rfl (stays _) arguments ended).word tag
      (endsSegment_arguments arguments rest) rfl
      (moves_of_accept? (fun _ _ _ => rfl) fun _ _ _ => rfl) rfl
  have opened : Completes scope (state.await (.codeOpening text.val))
      ('{' :: '#' :: (tag.val ++ (printArguments arguments ++ '#' :: '}' :: rest))) found :=
    tagged.of_moves (.opening _) (moves_of_accept? (fun _ _ _ => rfl) fun _ _ _ => rfl) rfl rfl
  have whole : Completes scope (state.await .codeText)
      (text.val ++ '{' :: '#' :: (tag.val ++ (printArguments arguments ++ '#' :: '}' :: rest)))
      found :=
    opened.prose text.property.1 text.property.2 ⟨_, rfl⟩ rfl
      (moves_of_accept? (fun _ _ _ => rfl) fun _ _ _ => rfl) rfl rfl
  simpa [printDirective] using whole

/-- The pieces of an example, of which only the last one is kept. -/
theorem Completes.example (preparations : List Preparation) (code : Fragment)
    (completes : Completes scope
      ((state.write (Markdown.code code.val Markdown.codeLanguage)).await .item) rest found) :
    Completes scope (state.await .codeText)
      (preparations.flatMap Preparation.print ++
        (code.val ++ (printDirective "code_end".toList [] ++ rest))) found := by
  induction preparations with
  | nil => exact Completes.examplePiece code ⟨"code_end".toList, by decide⟩ [] completes
  | cons preparation others inductionHypothesis =>
      have piece := Completes.examplePiece preparation.text preparation.tag preparation.arguments
        (by rwa [if_neg preparation.going])
      simpa [Preparation.print] using piece

/-- A directive that takes one argument and an optional second one. -/
theorem Completes.call {form : Form} (tag name : Word) (option : Option Word)
    (entered : state.enter tag.val = state.await (.argumentBar form))
    (completes : Completes scope
      (state.conclude scope name.val (option.map Subtype.val) form) rest found) :
    Completes scope (state.await .item)
      (printDirective tag.val (name :: option.toList) ++ rest) found := by
  refine Completes.directive tag (name :: option.toList) ?_
  rw [entered]
  exact completes.argument name option

/-- A directive that is skipped. -/
theorem Completes.skipped (tag : Word) (arguments : List Word)
    (entered : state.enter tag.val = state.await .skip)
    (completes : Completes scope (state.await .item) rest found) :
    Completes scope (state.await .item) (printDirective tag.val arguments ++ rest) found := by
  refine Completes.directive tag arguments ?_
  rw [entered]
  refine Completes.arguments rfl ?_ arguments ?_
  · rintro kind lexeme (rfl | rfl) <;>
      exact moves_of_accept? (fun _ _ _ => rfl) fun _ _ _ => rfl
  · exact completes.of_moves (.closing rest)
      (moves_of_accept? (fun _ _ _ => rfl) fun _ _ _ => rfl) rfl rfl

/-- Inline code, up to the directive that ends it. -/
theorem Completes.inline (inside : state.phase ≠ .searching) (code : Fragment)
    (completes : Completes scope (state.finishCode (.fragment code.val)) rest found) :
    Completes scope (state.await .item) ((Element.fragment code).print ++ rest) found := by
  have read : Completes scope (state.await .fragmentText)
      (code.val ++ (printDirective "endsyntax".toList [] ++ rest)) found :=
    (completes.ending (.fragment code.val)).prose code.property.1 code.property.2
      (opensDirective_print _ _ _) rfl
      (moves_of_accept? (fun _ _ _ => rfl) fun _ _ _ => rfl) rfl rfl
  have begun : Completes scope (state.enter "syntax".toList)
      ('#' :: '}' :: (code.val ++ (printDirective "endsyntax".toList [] ++ rest))) found := by
    rw [show state.enter "syntax".toList = state.await .fragmentStart by simp [State.enter, inside]]
    exact read.of_moves (.closing _) (moves_of_accept? (fun _ _ _ => rfl) fun _ _ _ => rfl)
      rfl rfl
  have whole := Completes.directive ⟨"syntax".toList, by decide⟩ [] begun
  simpa [Element.print] using whole

/-- A directive of an introduction or of a body. -/
theorem Completes.element (inner : state.Inner) (element : Element)
    (completes : Completes scope ((state.writeAll (element.fragments scope)).await .item) rest
      found) :
    Completes scope (state.await .item) (element.print ++ rest) found := by
  have inside := inner.phase_ne
  cases element with
  | fragment code =>
      refine Completes.inline inside code ?_
      rwa [inner.finishCode]
  | block language name code =>
      have read : Completes scope (state.await (.blockText language.val))
          (code.val ++ (printDirective "end_syntax_block".toList [] ++ rest)) found :=
        (Completes.ending .block completes).prose code.property.1 code.property.2
          (opensDirective_print _ _ _) rfl
          (moves_of_accept? (fun _ _ _ => rfl) fun _ _ _ => by
            simp [State.accept?, State.writeAll, Element.fragments]) rfl rfl
      have whole := Completes.call ⟨"syntax_block".toList, by decide⟩ language name
        (show state.enter _ = state.await (.argumentBar .block) by simp [State.enter, inside]) read
      simpa [Element.print] using whole
  | link name target =>
      have written : state.conclude scope name.val (target.map Subtype.val) .link =
          (state.writeAll ((Element.link name target).fragments scope)).await .item := by
        cases target <;>
          simp [State.conclude, State.writeAll, Element.fragments, Scope.link_eq_printLink]
      exact Completes.call ⟨"link".toList, by decide⟩ name target
        (show state.enter _ = state.await (.argumentBar .link) by simp [State.enter, inside])
        (written ▸ completes)
  | sample kind name preparations code =>
      have read := Completes.example preparations code completes
      have whole := Completes.call ⟨"code_begin".toList, by decide⟩ kind name
        (show state.enter _ = state.await (.argumentBar .code) by simp [State.enter, inside]) read
      simpa [Element.print] using whole
  | other tag unhandled arguments =>
      exact Completes.skipped tag arguments (state.enter_of_unhandled unhandled) completes

/-- An element begins with a directive. -/
theorem opensDirective_element (element : Element) (rest : Text) :
    OpensDirective (element.print ++ rest) := by
  cases element <;> exact ⟨_, rfl⟩

/-- A stretch of running text among pieces. -/
theorem Completes.stretch (inner : state.Inner) {pending : Text} (legal : Prose pending)
    (opens : OpensDirective rest)
    (completes : Completes scope ((state.writeAll (fragmentOf pending)).await .item) rest found) :
    Completes scope (state.await .item) (pending ++ rest) found := by
  by_cases empty : pending = []
  · subst empty
    exact completes
  · simp only [fragmentOf, empty, if_false] at completes
    refine completes.prose empty legal opens rfl ?_ rfl rfl
    refine moves_of_accept? (fun _ _ _ => rfl) fun _ cursor log => ?_
    rcases inner with body | ⟨introduction, none⟩
    · simp [State.accept?, State.writeAll, body]
    · simp [State.accept?, State.writeAll, introduction, State.write_of_nil none]

/-- The pieces of an introduction or of a body, behind a stretch of running text. -/
theorem Completes.pieces (inner : state.Inner) {pending : Text} (legal : Prose pending)
    (opens : OpensDirective rest) (pieces : List Piece)
    (completes : Completes scope
      ((state.writeAll (bodyFragments scope pending pieces)).await .item) rest found) :
    Completes scope (state.await .item) (pending ++ (pieces.flatMap Piece.print ++ rest))
      found := by
  induction pieces generalizing state pending with
  | nil => exact completes.stretch inner legal opens
  | cons piece others inductionHypothesis =>
      cases piece with
      | text content =>
          have joined := inductionHypothesis inner (legal.append content.property) completes
          simpa [Piece.print] using joined
      | directive element =>
          rw [bodyFragments, State.writeAll_append, State.writeAll_append] at completes
          have written := inner.writeAll (fragmentOf pending)
          have behind := inductionHypothesis (written.writeAll (element.fragments scope)) .nil
            completes
          have directive := (behind.element written element).stretch inner legal
            (opensDirective_element element _)
          simpa [Piece.print] using directive

/-- Running text behind a header or behind an entry leaves no trace. -/
theorem Completes.passage (heading : state.phase = .heading) (passage : Passage)
    (opens : OpensDirective rest) (completes : Completes scope (state.await .item) rest found) :
    Completes scope (state.await .item) (passage.val ++ rest) found := by
  by_cases empty : passage.val = []
  · rwa [empty]
  · refine completes.prose empty passage.property opens rfl ?_ rfl rfl
    exact moves_of_accept? (fun _ _ _ => rfl) fun _ _ _ => by
      simp [State.accept?, heading]

/-- A header whose title the machine takes to a next state. -/
theorem Completes.header {next : State} (title : Word) (arguments : List Word)
    (opened : ∀ cursor log stop, ∃ entries,
      (state.placed cursor log).openHeader scope title.val stop = next.placed cursor entries)
    (completes : Completes scope (next.await .item) rest found) :
    Completes scope (state.await .item)
      (printDirective "header_open".toList (title :: arguments) ++ rest) found := by
  have closed : Completes scope (next.await .headerRest) ('#' :: '}' :: rest) found :=
    completes.of_moves (.closing rest) (moves_of_accept? (fun _ _ _ => rfl) fun _ _ _ => rfl)
      rfl rfl
  have read : Completes scope (next.await .headerRest)
      (printArguments arguments ++ '#' :: '}' :: rest) found := by
    refine Completes.arguments rfl ?_ arguments closed
    rintro kind lexeme (rfl | rfl) <;>
      exact moves_of_accept? (fun _ _ _ => rfl) fun _ _ _ => rfl
  have titled : Completes scope (state.await .headerTitle)
      (title.val ++ (printArguments arguments ++ '#' :: '}' :: rest)) found := by
    refine read.word title (endsSegment_arguments arguments rest) rfl ?_ rfl
    intro offset cursor log
    obtain ⟨entries, same⟩ := opened cursor log (offset + title.val.length)
    refine ⟨offset + title.val.length, entries, ?_⟩
    have advanced : ((state.await .headerTitle).placed cursor log).openHeader scope title.val
        (offset + title.val.length) = (next.placed cursor entries).await .headerTitle := by
      rw [← same, ← State.openHeader_await]
      rfl
    simp [State.advance, State.misfit?, State.accept?, advanced, Token.stop]
    rfl
  have barred : Completes scope (state.await .headerBar)
      (printArguments (title :: arguments) ++ '#' :: '}' :: rest) found := by
    have bar : Completes scope (state.await .headerBar)
        ('|' :: (title.val ++ (printArguments arguments ++ '#' :: '}' :: rest))) found :=
      titled.bar rfl (moves_of_accept? (fun _ _ _ => rfl) fun _ _ _ => rfl) rfl
    simpa [printArguments] using bar
  exact Completes.directive ⟨"header_open".toList, by decide⟩ (title :: arguments) barred

/-- The directive that closes a header inside the section. -/
theorem Completes.close (body : state.phase = .body) {depth : Nat} (deep : state.depth = depth + 2)
    (completes : Completes scope
      { state.await .item with phase := .heading, depth := depth + 1 } rest found) :
    Completes scope (state.await .item) (printDirective "header_close".toList [] ++ rest)
      found := by
  refine Completes.directive ⟨"header_close".toList, by decide⟩ [] ?_
  refine completes.of_moves (.closing rest) (moves_of_accept? (fun _ _ _ => rfl) ?_) rfl rfl
  intro offset cursor log
  obtain ⟨phase, level, ledger, awaiting, place, entries⟩ := state
  cases body
  cases deep
  rfl

/-- The directive that closes the section ends the extraction. -/
theorem Completes.last (inside : state.phase ≠ .searching) (outermost : state.depth = 1) :
    Completes scope (state.await .item) (printDirective "header_close".toList [] ++ rest)
      state.records.reverse := by
  refine Completes.directive ⟨"header_close".toList, by decide⟩ [] ?_
  intro offset cursor log
  obtain ⟨phase, level, ledger, awaiting, place, entries⟩ := state
  cases outermost
  have closed : (State.enter ⟨phase, 1, ledger, awaiting, place, entries⟩
      "header_close".toList).awaiting.mode = .inside := rfl
  rw [closed, show printArguments [] ++ '#' :: '}' :: rest = '#' :: '}' :: rest from rfl,
    tokensFrom_of_more offset (.closing rest) rfl]
  cases phase with
  | searching => exact absurd rfl inside
  | _ => rfl

end Completes

/-- Fragments are written to the last entry. -/
theorem State.writeAll_of_cons {state : State} {current : RawBuiltin} {earlier : List RawBuiltin}
    (some : state.records = current :: earlier) (fragments : List Text) :
    state.writeAll fragments =
      { state with
        ledger := .ofRecords
          ({ current with documentation := current.documentation ++ fragments } :: earlier) } := by
  induction fragments generalizing state current with
  | nil =>
      have same : state.ledger = .ofRecords (current :: earlier) := Ledger.ext_records some
      simp [State.writeAll, ← same]
  | cons fragment others inductionHypothesis =>
      have written : (state.write fragment).records = current.append fragment :: earlier := by
        rw [records_write, some]
        rfl
      have all := inductionHypothesis written
      simpa [State.writeAll, State.write, RawBuiltin.append] using all

/-- Without an entry nothing is written. -/
theorem State.writeAll_of_nil {state : State} (none : state.records = []) (fragments : List Text) :
    state.writeAll fragments = state := by
  induction fragments with
  | nil => rfl
  | cons fragment others inductionHypothesis =>
      rw [State.writeAll, List.foldl_cons, State.write_of_nil none]
      exact inductionHypothesis

/-- The machine between two items of the section. -/
def inSection (phase : Phase) (depth : Nat) (records : List RawBuiltin) : State :=
  ⟨phase, depth, .ofRecords records, .item, 0, []⟩

/-- Inline code behind the header of an entry is its signature. -/
theorem finishCode_inSection (depth : Nat) (record : RawBuiltin) (earlier : List RawBuiltin)
    (code : Text) :
    (inSection .heading depth (record :: earlier)).finishCode (.fragment code) =
      inSection .body depth ({ record with signature := code } :: earlier) := by
  rw [inSection, State.finishCode, State.sign, Ledger.change_ofRecords]
  rfl

section Completes

variable {scope : Scope} {rest : Text} {found earlier : List RawBuiltin}

/-- An entry of the section adds its record. -/
theorem Completes.entry {phase : Phase} (outer : phase = .introduction ∨ phase = .heading)
    (entry : Entry) (opens : OpensDirective rest)
    (completes : Completes scope (inSection .heading 1 (entry.decoded scope :: earlier)) rest
      found) :
    Completes scope (inSection phase 1 earlier) (entry.print ++ rest) found := by
  -- backwards from the text behind the entry to its header
  have behind : Completes scope (inSection .heading 1 (entry.decoded scope :: earlier))
      (entry.trail.val ++ rest) found :=
    @Completes.passage scope (inSection .heading 1 _) _ _ rfl entry.trail opens completes
  have closed : Completes scope (inSection .body 2 (entry.decoded scope :: earlier))
      (printDirective "header_close".toList [] ++ (entry.trail.val ++ rest)) found :=
    @Completes.close scope (inSection .body 2 _) _ _ rfl 0 rfl behind
  have body : Completes scope
      (inSection .body 2 (⟨entry.title.val, entry.signature.val, []⟩ :: earlier))
      (entry.body.flatMap Piece.print ++
        (printDirective "header_close".toList [] ++ (entry.trail.val ++ rest))) found := by
    refine @Completes.pieces scope (inSection .body 2 _) _ _ (.inl rfl) [] .nil
      (opensDirective_print _ _ _) entry.body ?_
    rw [State.writeAll_of_cons rfl]
    exact closed
  have signed := @Completes.inline scope (inSection .heading 2 (.titled entry.title.val :: earlier))
    _ _ nofun entry.signature (by rwa [finishCode_inSection])
  have lead := @Completes.passage scope (inSection .heading 2 _) _ _ rfl entry.lead
    (opensDirective_element (.fragment entry.signature) _) signed
  have whole : Completes scope (inSection phase 1 earlier) _ found :=
    @Completes.header scope (inSection phase 1 earlier) _ _ (inSection .heading 2 _) entry.title
      entry.arguments (fun cursor log stop => ⟨log, by rcases outer with rfl | rfl <;> rfl⟩) lead
  simpa [Entry.print] using whole

/-- The entries of the section add their records, the last one in front. -/
theorem Completes.entries {phase : Phase} (outer : phase = .introduction ∨ phase = .heading)
    (entries : List Entry) :
    Completes scope (inSection phase 1 earlier)
      (entries.flatMap Entry.print ++ (printDirective "header_close".toList [] ++ rest))
      (earlier.reverse ++ entries.map (Entry.decoded scope)) := by
  induction entries generalizing phase earlier with
  | nil =>
      have inside : (inSection phase 1 earlier).phase ≠ .searching := by
        rcases outer with rfl | rfl <;> nofun
      have closed : Completes scope (inSection phase 1 earlier)
          (printDirective "header_close".toList [] ++ rest) earlier.reverse :=
        @Completes.last scope (inSection phase 1 earlier) rest inside rfl
      simpa using closed
  | cons entry others inductionHypothesis =>
      have behind := @inductionHypothesis (entry.decoded scope :: earlier) .heading (.inr rfl)
      have opens : OpensDirective
          (others.flatMap Entry.print ++ (printDirective "header_close".toList [] ++ rest)) := by
        cases others with
        | nil => exact ⟨_, rfl⟩
        | cons => exact ⟨_, rfl⟩
      have whole := Completes.entry outer entry opens behind
      simpa using whole

end Completes

/-- The extraction of a printed section, whatever follows it, succeeds with its entries. -/
theorem Completes.chapter {scope : Scope} (chapter : Chapter)
    (anchored : scope.anchor = chapter.title.val) (behind : Text) :
    Completes scope .initial (chapter.print ++ behind)
      (chapter.entries.map (Entry.decoded scope)) := by
  have entries : Completes scope (inSection .introduction 1 [])
      (chapter.entries.flatMap Entry.print ++
        (printDirective "header_close".toList [] ++ behind))
      (chapter.entries.map (Entry.decoded scope)) :=
    Completes.entries (.inl rfl) chapter.entries
  have opens : OpensDirective (chapter.entries.flatMap Entry.print ++
      (printDirective "header_close".toList [] ++ behind)) := by
    cases chapter.entries with
    | nil => exact ⟨_, rfl⟩
    | cons => exact ⟨_, rfl⟩
  have introduction : Completes scope (inSection .introduction 1 [])
      (chapter.introduction.flatMap Piece.print ++ (chapter.entries.flatMap Entry.print ++
        (printDirective "header_close".toList [] ++ behind)))
      (chapter.entries.map (Entry.decoded scope)) := by
    refine @Completes.pieces scope (inSection .introduction 1 []) _ _ (.inr ⟨rfl, rfl⟩) [] .nil
      opens chapter.introduction ?_
    rw [State.writeAll_of_nil rfl]
    exact entries
  have found : ∀ cursor log stop, ∃ reported,
      (State.initial.placed cursor log).openHeader scope chapter.title.val stop =
        (inSection .introduction 1 []).placed cursor reported :=
    fun cursor log stop => ⟨_, by simp [State.openHeader, anchored]; rfl⟩
  have whole : Completes scope .initial _ _ := @Completes.header scope .initial _ _
    (inSection .introduction 1 []) chapter.title chapter.arguments found introduction
  simpa [Chapter.print] using whole

/-- The result of extracting a printed section. -/
theorem result_extract {scope : Scope} (chapter : Chapter)
    (anchored : scope.anchor = chapter.title.val) (behind : Text) :
    (extract scope (chapter.print ++ behind)).result =
      .ok (chapter.entries.map (Entry.decoded scope)) :=
  Completes.chapter chapter anchored behind 0 0 []

/-- Extracting a printed section gives back its entries. Whatever follows the section, the
extraction succeeds with one record for each entry, in order, with its title as name and the
text of its first inline code as signature. The fragments of its documentation are the
stretches of running text of its body and what its directives stand for, so that their markup
is that of the pieces one behind the other. -/
theorem extract_print (version documentationRoot : Text) (chapter : Chapter) (behind : Text) :
    let scope : Scope := ⟨version, documentationRoot, chapter.title.val⟩
    (extract scope (chapter.print ++ behind)).result =
        .ok (chapter.entries.map (Entry.decoded scope)) ∧
      ∀ entry : Entry, (entry.decoded scope).html = entry.body.flatMap (Piece.html scope) := by
  intro scope
  exact ⟨result_extract chapter rfl behind, fun entry => flatten_bodyFragments scope [] entry.body⟩

/-- A section with one entry, whose body has a link without a target and one with a target, a block
of code, an example with a preparation, and inline code. -/
def variedChapter : Chapter where
  title := ⟨"Builtin Functions".toList, by decide⟩
  arguments := []
  introduction := [.text ⟨"Here.".toList, .of_not_mem (by decide)⟩]
  entries := [{
    title := ⟨"@link".toList, by decide⟩
    arguments := []
    lead := ⟨" ".toList, .of_not_mem (by decide)⟩
    signature := ⟨"@link() T".toList, by decide, .of_not_mem (by decide)⟩
    body := [
      .text ⟨"See ".toList, .of_not_mem (by decide)⟩,
      .directive (.link ⟨"@b c".toList, by decide⟩ none),
      .text ⟨" or ".toList, .of_not_mem (by decide)⟩,
      .directive (.link ⟨"this".toList, by decide⟩ (some ⟨"@@d e".toList, by decide⟩)),
      .directive (.block ⟨"sh".toList, by decide⟩ none
        ⟨" ls\n\npwd\n".toList, by decide, .of_not_mem (by decide)⟩),
      .directive (.sample ⟨"test".toList, by decide⟩ (some ⟨"name".toList, by decide⟩)
        [⟨⟨"once".toList, by decide, .of_not_mem (by decide)⟩, ⟨"code_skip".toList, by decide⟩,
          by decide, []⟩]
        ⟨"f();\ng();".toList, by decide, .of_not_mem (by decide)⟩),
      .directive (.fragment ⟨" y ".toList, by decide, .of_not_mem (by decide)⟩)]
    trail := ⟨"\n".toList, .of_not_mem (by decide)⟩ }]

/-- The document that the chapter is printed as, and what comes behind it. -/
def variedDocument : Text :=
  ("\x7b#header_open|Builtin Functions#\x7dHere." ++
    "\x7b#header_open|@link#\x7d \x7b#syntax#\x7d@link() T\x7b#endsyntax#\x7d" ++
    "See \x7b#link|@b c#\x7d or \x7b#link|this|@@d e#\x7d" ++
    "\x7b#syntax_block|sh#\x7d ls\n\npwd\n\x7b#end_syntax_block#\x7d" ++
    "\x7b#code_begin|test|name#\x7donce\x7b#code_skip#\x7df();\ng();\x7b#code_end#\x7d" ++
    "\x7b#syntax#\x7d y \x7b#endsyntax#\x7d" ++
    "\x7b#header_close#\x7d\n\x7b#header_close#\x7d rest").toList

/-- The links of that entry lead to their places in the reference of the version, and of its code
nothing but the preparation is left out. -/
theorem extract_variedChapter :
    (extract ⟨"0.13.0".toList, "https://o.org/ref//".toList, "Builtin Functions".toList⟩
        variedDocument).result =
      .ok [⟨"@link".toList, "@link() T".toList,
        ["See ".toList, "[@b c](https://o.org/ref/0.13.0/#b-c)".toList, " or ".toList,
          "[this](https://o.org/ref/0.13.0/#d-e)".toList,
          "\n\x60\x60\x60sh\nls\npwd\n\x60\x60\x60".toList,
          "\n\x60\x60\x60zig\nf();\ng();\n\x60\x60\x60".toList, "\x60y\x60".toList]⟩] := by
  have printed : variedChapter.print ++ " rest".toList = variedDocument := by decide +kernel
  rw [← printed]
  exact (extract_print "0.13.0".toList "https://o.org/ref//".toList variedChapter
    " rest".toList).1.trans (by decide +kernel)

end EditorData.Reference
