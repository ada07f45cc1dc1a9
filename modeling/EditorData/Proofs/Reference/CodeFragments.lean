import EditorData.Proofs.Markdown.Shrinking
import EditorData.Proofs.Markdown.Untouched
import EditorData.Proofs.Reference.Decoding
import EditorData.Proofs.Reference.Tidying
import EditorData.Proofs.Reference.Totality

/-!
# Code in documentation

The code of a directive is markdown before the markup around it is read, and is then read as a part
of that markup. So it reaches the documentation as it is exactly if no tag opens in it
(`keepsCode_iff`): a tag that opens there is read as an element, or as a fault.
-/

namespace EditorData.Reference

open EditorData.Markup
open EditorData.Markdown (codeLanguage)

/-- The element shows the code. -/
inductive Shows (code : Fragment) : Element -> Prop
  | fragment : Shows code (.fragment code)
  | block (language : Word) (zig : language.val = codeLanguage) (name : Option Word) :
      Shows code (.block language name code)
  | sample (kind : Word) (name : Option Word) (preparations : List Preparation) :
      Shows code (.sample kind name preparations code)

/-- An element that shows code adds it as markdown. -/
theorem Shows.html_eq {code : Fragment} {element : Element} (shows : Shows code element)
    (scope : Scope) :
    (Piece.directive element).html scope = Markdown.code code.val codeLanguage := by
  cases shows with
  | fragment => exact List.append_nil _
  | block language zig name =>
      rw [← zig]
      exact List.append_nil _
  | sample kind name preparations => exact List.append_nil _

/-- The word for the title of the builtin section. -/
def sectionTitle : Word :=
  ⟨sectionAnchor, by decide⟩

/-- A reference with a place for an element in the body of one of its entries. -/
structure Page where
  version : Text
  documentationRoot : Text
  /-- What stands behind the title of the section. -/
  arguments : List Word
  introduction : List Piece
  earlier : List Entry
  title : Word
  titleArguments : List Word
  lead : Passage
  signature : Fragment
  /-- The body in front of the place. -/
  front : List Piece
  /-- The body behind the place. -/
  back : List Piece
  trail : Passage
  later : List Entry
  /-- What stands behind the section. -/
  behind : Text

namespace Page

variable (page : Page)

/-- What the extraction is told about the page. -/
def scope : Scope :=
  ⟨page.version, page.documentationRoot, sectionAnchor⟩

/-- The entry with an element at the place. -/
def entry (element : Element) : Entry :=
  ⟨page.title, page.titleArguments, page.lead, page.signature,
    page.front ++ .directive element :: page.back, page.trail⟩

/-- The section with an element at the place. -/
def chapter (element : Element) : Chapter :=
  ⟨sectionTitle, page.arguments, page.introduction,
    page.earlier ++ page.entry element :: page.later⟩

/-- The document with an element at the place. -/
def print (element : Element) : Text :=
  (page.chapter element).print ++ page.behind

/-- The builtins of the document with an element at the place. -/
def collected (element : Element) : Except Fault (List Builtin) :=
  collect page.version page.documentationRoot (page.print element)

/-- Apart from the element, the page is a reference without faults, and the place lies outside of
every element of the markup. -/
structure Sound : Prop where
  frontReads : ∃ nodes, Markup.read (page.front.flatMap (Piece.html page.scope)) = .ok nodes
  backReads : ∃ nodes, Markup.read (page.back.flatMap (Piece.html page.scope)) = .ok nodes
  callable : '(' ∈ page.signature.val
  others : ∀ entry ∈ page.earlier ++ page.later, ∃ builtin,
    finish (entry.decoded page.scope) = .ok builtin

/-- With the element at the place, the document is collected and the builtin of the entry has the
code in its documentation. -/
def Keeps (code : Fragment) (element : Element) : Prop :=
  ∃ earlier builtin later, page.collected element = .ok (earlier ++ builtin :: later) ∧
    earlier.length = page.earlier.length ∧ builtin.name = page.title.val ∧
    tidy (Markdown.code code.val codeLanguage) <:+: builtin.documentation

variable {page} {code : Fragment} {element : Element}

/-- The builtins of the document are its entries, finished one by one. -/
theorem collected_eq (page : Page) (element : Element) :
    page.collected element =
      finishAll ((page.earlier ++ page.entry element :: page.later).map
        (Entry.decoded page.scope)) := by
  have extracted : (extract page.scope (page.print element)).result = .ok _ :=
    result_extract (page.chapter element) rfl page.behind
  show (extract page.scope (page.print element)).finished = _
  rw [Outcome.finished, extracted]
  rfl

/-- The markup of the entry is what stands around the place, with the code in between. -/
theorem html_entry (page : Page) (shows : Shows code element) :
    ((page.entry element).decoded page.scope).html =
      page.front.flatMap (Piece.html page.scope) ++
        (Markdown.code code.val codeLanguage ++
          page.back.flatMap (Piece.html page.scope)) := by
  have flat := flatten_bodyFragments page.scope [] (page.entry element).body
  rw [List.nil_append] at flat
  refine flat.trans ?_
  rw [entry, List.flatMap_append, List.flatMap_cons, shows.html_eq]

end Page

/-- An entry is finished with the tidied markdown of its body. -/
theorem documentation_of_finish {raw : RawBuiltin} {builtin : Builtin}
    (finished : finish raw = .ok builtin) :
    ∃ markdown, Markdown.render codeLanguage (bodyMarkup raw.html) = .ok markdown ∧
      builtin.documentation = tidy markdown := by
  rw [finish] at finished
  split at finished
  · cases finished
  · next markdown rendered =>
      split at finished
      · cases finished
      · obtain rfl := Except.ok.inj finished
        exact ⟨markdown, rendered, rfl⟩

/-- An entry with a readable body and a parenthesis in its signature is finished. -/
theorem exists_finish {raw : RawBuiltin} {markdown : Text}
    (rendered : Markdown.render codeLanguage (bodyMarkup raw.html) = .ok markdown)
    (callable : '(' ∈ raw.signature) :
    ∃ builtin, finish raw = .ok builtin ∧ builtin.name = raw.name ∧
      builtin.documentation = tidy markdown := by
  have present : '(' ∈ Text.withoutLineFeeds raw.signature :=
    List.mem_filter.2 ⟨callable, by decide⟩
  rw [finish, rendered]
  simp only
  cases parsed : Signature.parse (Text.withoutLineFeeds raw.signature) with
  | ok call => exact ⟨_, rfl, rfl, rfl⟩
  | error fault =>
      rw [Signature.parse] at parsed
      split at parsed
      · cases parsed
      · next missing => exact absurd present (cut?_eq_none_iff.1 missing)

/-- A marker is not made by putting a character behind a text that is no part of it. -/
theorem after?_append_cons {marker text : Text} {c : Char} (apart : c ∉ marker)
    (absent : Text.after? marker text = none) (rest : Text) :
    Text.after? marker (text ++ c :: rest) = none := by
  induction marker generalizing text with
  | nil => cases absent
  | cons expected marker inductionHypothesis =>
      obtain ⟨differs, later⟩ := not_or.1 fun either => apart (List.mem_cons.2 either)
      cases text with
      | nil => exact if_neg differs
      | cons d text =>
          rw [List.cons_append, Text.after?]
          rw [Text.after?] at absent
          split
          · next same =>
              rw [if_pos same] at absent
              exact inductionHypothesis later absent
          · rfl

/-- Code in front of a body is no closing tag that is left over. -/
theorem bodyMarkup_code (content : Text) :
    bodyMarkup (Markdown.code content codeLanguage) = Markdown.code content codeLanguage := by
  obtain ⟨lead, inner, whole, feeds⟩ := Markdown.code_eq content codeLanguage
  rw [whole]
  rcases feeds with rfl | rfl <;> rfl

/-- The closing tag that is left over at the front of a body stands in front of the code, and
without it the front can still be read. -/
theorem exists_bodyMarkup {front : Text} {nodes : List Node} (reads : Reads front nodes)
    (content back : Text) :
    ∃ front' nodes', Reads front' nodes' ∧
      bodyMarkup (front ++ (Markdown.code content codeLanguage ++ back)) =
        front' ++ (Markdown.code content codeLanguage ++ back) := by
  cases leftOver : Text.after? "</pre>".toList front with
  | some html =>
      have joins : splitTag ("</pre>".toList ++ html) =
          (splitTag html).map ("</pre>".toList ++ ·) id :=
        @splitTag_append_stop '>' "</pre".toList (by decide) (by decide) (by decide) html
      have whole := Text.eq_append_of_after? leftOver
      subst whole
      obtain ⟨others, htmlReads⟩ := reads.of_prepend joins
      refine ⟨html, others, htmlReads, ?_⟩
      rw [bodyMarkup, List.append_assoc, Text.after?_append]
      rfl
  | none =>
      obtain ⟨lead, inner, whole, feeds⟩ := Markdown.code_eq content codeLanguage
      refine ⟨front, nodes, reads, ?_⟩
      have absent : Text.after? "</pre>".toList
          (front ++ (Markdown.code content codeLanguage ++ back)) = none := by
        rw [whole]
        rcases feeds with rfl | rfl
        · exact after?_append_cons (by decide) leftOver _
        · exact after?_append_cons (by decide) leftOver _
      rw [bodyMarkup, absent]
      rfl

/-- Entries one behind the other are finished one behind the other. -/
theorem finishAll_append {left right : List RawBuiltin} {leftBuiltins rightBuiltins : List Builtin}
    (first : finishAll left = .ok leftBuiltins) (second : finishAll right = .ok rightBuiltins) :
    finishAll (left ++ right) = .ok (leftBuiltins ++ rightBuiltins) := by
  induction left generalizing leftBuiltins with
  | nil =>
      cases first
      exact second
  | cons raw left inductionHypothesis =>
      rw [finishAll] at first
      split at first
      · cases first
      · next builtin finished =>
          obtain ⟨others, rest, rfl⟩ := ok_of_map first
          rw [List.cons_append, finishAll, finished, inductionHypothesis rest]
          rfl

/-- Entries that can be finished one by one are finished together. -/
theorem exists_finishAll {scope : Scope} {entries : List Entry}
    (finishable : ∀ entry ∈ entries, ∃ builtin, finish (entry.decoded scope) = .ok builtin) :
    ∃ builtins, finishAll (entries.map (Entry.decoded scope)) = .ok builtins ∧
      builtins.length = entries.length := by
  induction entries with
  | nil => exact ⟨[], rfl, rfl⟩
  | cons entry entries inductionHypothesis =>
      obtain ⟨first, finished⟩ := finishable entry List.mem_cons_self
      obtain ⟨others, rest, sameLength⟩ := inductionHypothesis fun other member =>
        finishable other (List.mem_cons_of_mem entry member)
      refine ⟨first :: others, ?_, congrArg (· + 1) sameLength⟩
      rw [List.map_cons, finishAll, finished, rest]
      rfl

section Keeping

variable {code : Fragment} {element : Element} {page : Page}

/-- Code in which no tag opens is kept wherever a sound page has it. -/
theorem Page.Sound.keeps (sound : page.Sound) (shows : Shows code element)
    (untagged : opensTag code.val = false) : page.Keeps code element := by
  obtain ⟨frontNodes, frontRead⟩ := sound.frontReads
  obtain ⟨backNodes, backRead⟩ := sound.backReads
  obtain ⟨front, nodes, frontReads, markup⟩ := exists_bodyMarkup (read_eq_ok_iff.1 frontRead)
    code.val (page.back.flatMap (Piece.html page.scope))
  obtain ⟨markdown, lead, inner, rendered, whole, feeds, within⟩ :=
    Markdown.code_infix_render untagged frontReads (read_eq_ok_iff.1 backRead)
  rw [← markup, ← page.html_entry shows] at rendered
  obtain ⟨builtin, finished, named, documented⟩ := exists_finish rendered sound.callable
  obtain ⟨left, right, split⟩ := within
  have tidied : tidy (Markdown.code code.val codeLanguage) <:+: builtin.documentation := by
    rw [documented, whole, tidy_of_feeds (by decide) (by decide) feeds, ← split]
    exact trimLines_infix_tidy (by decide) (by decide) (by decide) left inner right
  obtain ⟨earlier, earlierFinished, sameLength⟩ :=
    exists_finishAll fun entry member => sound.others entry (List.mem_append_left _ member)
  obtain ⟨later, laterFinished, -⟩ :=
    exists_finishAll fun entry member => sound.others entry (List.mem_append_right _ member)
  refine ⟨earlier, builtin, later, ?_, sameLength, named, tidied⟩
  rw [page.collected_eq, List.map_append, List.map_cons]
  refine finishAll_append earlierFinished ?_
  rw [finishAll, finished, laterFinished]
  rfl

/-- A page with nothing around the place but a signature. -/
def barePage : Page where
  version := []
  documentationRoot := []
  arguments := []
  introduction := []
  earlier := []
  title := ⟨"@a".toList, by decide⟩
  titleArguments := []
  lead := ⟨[], .nil⟩
  signature := ⟨['@', 'a', '(', ')'], by decide, .of_not_mem (by decide)⟩
  front := []
  back := []
  trail := ⟨[], .nil⟩
  later := []
  behind := []

/-- The bare page is sound. -/
theorem barePage_sound : barePage.Sound where
  frontReads := ⟨[], read_eq_ok_iff.2 (.plain rfl)⟩
  backReads := ⟨[], read_eq_ok_iff.2 (.plain rfl)⟩
  callable := by decide
  others := by
    intro entry member
    cases member

/-- The bare page does not keep code in which a tag opens: the documentation shows too little. -/
theorem barePage_not_keeps (shows : Shows code element) (tagged : opensTag code.val = true) :
    ¬ barePage.Keeps code element := by
  rintro ⟨earlier, builtin, later, collected, sameLength, -, within⟩
  obtain rfl := List.length_eq_zero_iff.1 sameLength
  rw [barePage.collected_eq, finishAll_eq_ok_iff] at collected
  obtain ⟨finished, -⟩ := List.forall₂_cons.1 collected
  obtain ⟨markdown, rendered, documented⟩ := documentation_of_finish finished
  have markup : bodyMarkup ((barePage.entry element).decoded barePage.scope).html =
      Markdown.code code.val codeLanguage := by
    rw [barePage.html_entry shows]
    show bodyMarkup (Markdown.code code.val codeLanguage ++ []) = _
    rw [List.append_nil]
    exact bodyMarkup_code code.val
  rw [markup] at rendered
  have fewer := Markdown.shown_render_lt rendered ((Markdown.opensTag_code code.val).trans tagged)
  have most := Text.shown_le within.sublist
  rw [documented, Text.shown, Text.shown, visible_tidy, visible_tidy] at most
  exact absurd most (Nat.not_le_of_lt fewer)

/-- Code of a directive reaches the documentation on every sound page exactly if no angle bracket
in it stands directly in front of a letter: then the document is collected, and the builtin of
the entry has the code as markdown in its documentation. -/
theorem keepsCode_iff (code : Fragment) (element : Element) (shows : Shows code element) :
    (∀ page : Page, page.Sound -> page.Keeps code element) ↔
      ∀ c, Text.isLetter c = true -> ¬ ['<', c] <:+: code.val := by
  constructor
  · intro kept c letter opens
    have tagged := opensTag_iff.2 ⟨c, letter, opens⟩
    exact barePage_not_keeps shows tagged (kept barePage barePage_sound)
  · intro apart page sound
    refine sound.keeps shows (Bool.eq_false_iff.2 fun tagged => ?_)
    obtain ⟨c, letter, opens⟩ := opensTag_iff.1 tagged
    exact apart c letter opens

end Keeping

/-- A comparison with spaces around its bracket. -/
def spacedComparison : Fragment :=
  ⟨"a < b".toList, by decide, .of_not_mem (by decide)⟩

/-- The bare page keeps the comparison with spaces. -/
theorem barePage_keeps_spacedComparison :
    Shows spacedComparison (.fragment spacedComparison) ∧ barePage.Sound ∧
      barePage.Keeps spacedComparison (.fragment spacedComparison) := by
  have apart : ∀ c, Text.isLetter c = true -> ¬ ['<', c] <:+: spacedComparison.val := by
    intro c letter opens
    have untagged : opensTag spacedComparison.val = false := by decide
    rw [opensTag_iff.2 ⟨c, letter, opens⟩] at untagged
    cases untagged
  exact ⟨.fragment, barePage_sound, (keepsCode_iff _ _ .fragment).2 apart barePage barePage_sound⟩

/-- A comparison without spaces. -/
def tightComparison : Fragment :=
  ⟨"a<b".toList, by decide, .of_not_mem (by decide)⟩

/-- With the comparison without spaces, the bare page is not collected: the bracket is taken for
that of a tag. -/
theorem barePage_tightComparison_unsupported :
    Shows tightComparison (.fragment tightComparison) ∧
      (∃ c ∈ tightComparison.val, Text.isBlank c = false) ∧ barePage.Sound ∧
      barePage.collected (.fragment tightComparison) =
        .error (.markup (.unsupportedTag "b".toList 2)) ∧
      ¬ barePage.Keeps tightComparison (.fragment tightComparison) := by
  have unreadable : Markdown.render codeLanguage "`a<b`".toList =
      .error (.unsupportedTag "b".toList 2) := by
    decide +kernel
  have collected : barePage.collected (.fragment tightComparison) =
      .error (.markup (.unsupportedTag "b".toList 2)) := by
    have markup : bodyMarkup
        ((barePage.entry (.fragment tightComparison)).decoded barePage.scope).html =
          "\x60a<b\x60".toList := rfl
    rw [barePage.collected_eq]
    show finishAll [(barePage.entry (.fragment tightComparison)).decoded barePage.scope] = _
    rw [finishAll, finish, markup, unreadable]
  refine ⟨.fragment, ⟨'a', by decide⟩, barePage_sound, collected, ?_⟩
  rintro ⟨earlier, builtin, later, succeeds, -⟩
  rw [collected] at succeeds
  cases succeeds

end EditorData.Reference
