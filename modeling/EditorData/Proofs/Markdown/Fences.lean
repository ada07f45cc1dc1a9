import EditorData.Markdown.Code
import EditorData.Proofs.Text.FilledLines

/-!
# Code as it is formatted

Code of one line stands between backticks without the spaces and line feeds at its ends. Code of
several lines is a fence around its lines that are not empty, of which there are at least two
(`two_le_length_codeLines`), so no fence is empty or has a single line. The lines of a fence one
below the other are code without anything to strip or to leave out, which is why formatting what
has been formatted changes nothing (`code_exact`).
-/

namespace EditorData.Markdown

/-- Whether a character is stripped off the ends of code. -/
def isMargin (c : Char) : Bool :=
  c == ' ' || c == '\n'

/-- The code without the spaces and line feeds at its ends. -/
structure Strips (content inner : Text) : Prop where
  around : ∃ leading trailing, content = leading ++ inner ++ trailing ∧
    ∀ c ∈ leading ++ trailing, c = ' ' ∨ c = '\n'
  first : ∀ c ∈ inner.head?, c ≠ ' ' ∧ c ≠ '\n'
  last : ∀ c ∈ inner.getLast?, c ≠ ' ' ∧ c ≠ '\n'

/-- Markdown is a fence with the tag of a language around lines. -/
def IsFence (language : Text) (body : List Text) (markdown : Text) : Prop :=
  Text.lines markdown = [] :: ("```".toList ++ language) :: (body ++ ["```".toList])

variable {content language : Text} {body : List Text}

/-- The characters that are stripped off are spaces and line feeds. -/
theorem isMargin_eq_true_iff {c : Char} : isMargin c = true ↔ c = ' ' ∨ c = '\n' := by
  simp [isMargin]

/-- All other characters are kept. -/
theorem isMargin_eq_false_iff {c : Char} : isMargin c = false ↔ c ≠ ' ' ∧ c ≠ '\n' := by
  simp [isMargin]

/-- Stripped code begins and ends with characters that are kept. -/
theorem isTrimmed_trimmedCode (content : Text) :
    Text.IsTrimmed isMargin (trimmedCode content) :=
  Text.isTrimmed_trim isMargin content

/-- Stripping takes spaces and line feeds off the ends of code, and all of them. -/
theorem strips_trimmedCode (content : Text) : Strips content (trimmedCode content) where
  around := by
    obtain ⟨leading, trailing, whole, front, back⟩ := Text.exists_trimmedEnds isMargin content
    refine ⟨leading, trailing, whole, List.forall_mem_append.mpr ⟨?_, ?_⟩⟩
    · exact fun c held => isMargin_eq_true_iff.mp (front c held)
    · exact fun c held => isMargin_eq_true_iff.mp (back c held)
  first c found := isMargin_eq_false_iff.mp ((isTrimmed_trimmedCode content).first c found)
  last c found := isMargin_eq_false_iff.mp ((isTrimmed_trimmedCode content).last c found)

/-- Stripping twice is stripping once. -/
theorem trimmedCode_trimmedCode (content : Text) :
    trimmedCode (trimmedCode content) = trimmedCode content :=
  Text.trim_trim isMargin content

/-- Formatting strips code first, so it makes no difference if this has been done. -/
theorem code_trimmedCode (content language : Text) :
    code (trimmedCode content) language = code content language := by
  rw [code, code, trimmedCode_trimmedCode]

/-- Code of one line stands between backticks. -/
theorem code_of_oneLine (oneLine : '\n' ∉ trimmedCode content) (language : Text) :
    code content language = '\x60' :: trimmedCode content ++ ['\x60'] := by
  rw [code, if_neg (by simpa using oneLine)]

/-- Code of several lines is put into a fence. -/
theorem code_of_several (several : '\n' ∈ trimmedCode content) (language : Text) :
    code content language = fence language (codeLines (trimmedCode content)) := by
  rw [code, if_pos (by simpa using several)]

/-- A fence has no other lines than those that it is put around and its marks, if the tag of the
language is in one line. -/
theorem isFence_fence (oneLine : '\n' ∉ language) (free : ∀ line ∈ body, '\n' ∉ line) :
    IsFence language body (fence language body) := by
  have behind (first : Text) (others : List Text) :
      first ++ others.flatMap ('\n' :: ·) = Text.joined ['\n'] (first :: others) := by
    induction others generalizing first with
    | nil => exact List.append_nil first
    | cons next others inductionHypothesis =>
        rw [List.flatMap_cons, Text.joined, ← inductionHypothesis next, List.append_assoc]
        rfl
  have whole : fence language body =
      Text.joined ['\n'] ([] :: ("```".toList ++ language) :: (body ++ ["```".toList])) := by
    have opening : "\n```".toList = '\n' :: "```".toList := rfl
    rw [← behind, fence, opening]
    simp
  have mark : '\n' ∉ "```".toList := by decide
  have each : ∀ line ∈ [] :: ("```".toList ++ language) :: (body ++ ["```".toList]),
      '\n' ∉ line := by
    refine List.forall_mem_cons.mpr ⟨List.not_mem_nil, List.forall_mem_cons.mpr ⟨?_, ?_⟩⟩
    · exact fun held => (List.mem_append.mp held).elim mark oneLine
    · exact List.forall_mem_append.mpr ⟨free, List.forall_mem_singleton.mpr mark⟩
  rw [IsFence, whole, Text.lines]
  exact Text.parts_joined (List.cons_ne_nil [] _) each

/-- Code of one line between backticks is no fence. -/
theorem not_isFence_span (oneLine : '\n' ∉ content) (language : Text) (body : List Text) :
    ¬ IsFence language body ('\x60' :: content ++ ['\x60']) := by
  have alone : '\n' ∉ '\x60' :: content ++ ['\x60'] := by
    simpa using oneLine
  rw [IsFence, Text.lines, Text.parts_of_not_mem alone]
  intro spelled
  exact List.cons_ne_nil _ _ (List.cons.inj spelled).2.symm

/-- A fence is put around the lines that are found between its marks. -/
theorem IsFence.eq_body {other : List Text} {markdown : Text}
    (fence : IsFence language body markdown) (again : IsFence language other markdown) :
    other = body := by
  have same := again.symm.trans fence
  exact List.append_cancel_right (List.cons.inj (List.cons.inj same).2).2

/-- Code of several lines, stripped, begins with its first line that is not empty and ends with its
last one, and these are two. -/
theorem exists_codeLines_eq (several : '\n' ∈ trimmedCode content) :
    ∃ first between last, codeLines (trimmedCode content) = first :: (between ++ [last]) ∧
      first.head? = (trimmedCode content).head? ∧
      last.getLast? = (trimmedCode content).getLast? := by
  have stripped := isTrimmed_trimmedCode content
  have noFeed {c : Char} (kept : isMargin c = false) : (c == '\n') = false :=
    beq_eq_false_iff_ne.mpr (isMargin_eq_false_iff.mp kept).2
  exact Text.exists_filled_ends
    ⟨fun c found => noFeed (stripped.first c found), fun c found => noFeed (stripped.last c found)⟩
    several

/-- So at least two lines of such code are not empty. -/
theorem two_le_length_codeLines (several : '\n' ∈ trimmedCode content) :
    2 ≤ (codeLines (trimmedCode content)).length := by
  obtain ⟨first, between, last, whole, -⟩ := exists_codeLines_eq several
  rw [whole, List.length_cons, List.length_append, List.length_singleton]
  omega

/-- The lines of code that are not empty are lines, and not empty. -/
theorem mem_codeLines {line : Text} (member : line ∈ codeLines content) :
    line ≠ [] ∧ '\n' ∉ line := by
  obtain ⟨held, filled⟩ := List.mem_filter.mp member
  exact ⟨by simpa using filled, Text.separator_not_mem_part held⟩

/-- The lines of a fence, one below the other, are put into the same fence again. -/
theorem code_joined_codeLines (several : '\n' ∈ trimmedCode content) (language : Text) :
    code (Text.joined ['\n'] (codeLines (trimmedCode content))) language =
      code content language := by
  have stripped := isTrimmed_trimmedCode content
  have free : ∀ line ∈ codeLines (trimmedCode content), '\n' ∉ line :=
    fun line member => (mem_codeLines member).2
  have kept : (codeLines (trimmedCode content)).filter (!·.isEmpty) =
      codeLines (trimmedCode content) := by
    rw [List.filter_eq_self]
    exact fun line member => by simpa using (mem_codeLines member).1
  obtain ⟨first, between, last, whole, begins, ends⟩ := exists_codeLines_eq several
  have present : ∀ line ∈ first :: (between ++ [last]), line ≠ [] := by
    rw [← whole]
    exact fun line member => (mem_codeLines member).1
  have again : Text.lines (Text.joined ['\n'] (codeLines (trimmedCode content))) =
      codeLines (trimmedCode content) := by
    refine Text.parts_joined ?_ free
    rw [whole]
    exact List.cons_ne_nil first _
  -- Nothing is stripped, since the joined lines begin and end as the code does.
  have unstripped : trimmedCode (Text.joined ['\n'] (codeLines (trimmedCode content))) =
      Text.joined ['\n'] (codeLines (trimmedCode content)) := by
    refine @Text.IsTrimmed.trim_eq isMargin _ ⟨fun c found => ?_, fun c found => ?_⟩
    · rw [whole, Text.head?_joined (present first List.mem_cons_self), begins] at found
      exact stripped.first c found
    · rw [whole, ← List.cons_append, Text.getLast?_joined (present last (by simp)), ends] at found
      exact stripped.last c found
  have severalAgain :
      '\n' ∈ trimmedCode (Text.joined ['\n'] (codeLines (trimmedCode content))) := by
    rw [unstripped, whole, Text.joined_cons_of_ne_nil
      (List.append_ne_nil_of_right_ne_nil between (List.cons_ne_nil last []))]
    simp
  rw [code_of_several severalAgain, code_of_several several, unstripped, codeLines, again, kept]

/-- Formatting code is exact, and formatting again what has been formatted changes nothing. Code
without a line feed, once its spaces and line feeds at both ends are stripped, stands between
backticks. All other code becomes a fence around its lines that are not empty, in order, and there
are at least two of them, of which the first one does not begin and the last one does not end with a
space. No fence is empty or has a single line. -/
theorem code_exact (content : Text) {language : Text} (oneLine : '\n' ∉ language) :
    Strips content (trimmedCode content) ∧
      ('\n' ∉ trimmedCode content →
        code content language = '\x60' :: trimmedCode content ++ ['\x60'] ∧
        code (trimmedCode content) language = code content language) ∧
      ('\n' ∈ trimmedCode content → ∃ body,
        body = (Text.lines (trimmedCode content)).filter (!·.isEmpty) ∧
        IsFence language body (code content language) ∧ 2 ≤ body.length ∧
        (∀ first ∈ body.head?, first.head? ≠ some ' ') ∧
        (∀ last ∈ body.getLast?, last.getLast? ≠ some ' ') ∧
        code (Text.joined ['\n'] body) language = code content language) ∧
      ∀ body, IsFence language body (code content language) → 2 ≤ body.length := by
  have strips := strips_trimmedCode content
  have free : ∀ line ∈ codeLines (trimmedCode content), '\n' ∉ line :=
    fun line member => (mem_codeLines member).2
  refine ⟨strips, fun span => ?_, fun several => ?_, fun body fence => ?_⟩
  · exact ⟨code_of_oneLine span language, code_trimmedCode content language⟩
  · have fence : IsFence language (codeLines (trimmedCode content)) (code content language) := by
      rw [code_of_several several]
      exact isFence_fence oneLine free
    obtain ⟨first, between, last, whole, begins, ends⟩ := exists_codeLines_eq several
    refine ⟨codeLines (trimmedCode content), rfl, fence, two_le_length_codeLines several, ?_, ?_,
      code_joined_codeLines several language⟩
    · rw [whole]
      rintro line ⟨⟩ space
      exact (strips.first ' ' (begins.symm.trans space)).1 rfl
    · rw [whole, ← List.cons_append, List.getLast?_concat]
      rintro line ⟨⟩ space
      exact (strips.last ' ' (ends.symm.trans space)).1 rfl
  · by_cases several : '\n' ∈ trimmedCode content
    · rw [code_of_several several] at fence
      rw [(isFence_fence oneLine free).eq_body fence]
      exact two_le_length_codeLines several
    · rw [code_of_oneLine several] at fence
      exact absurd fence (not_isFence_span several language body)

/-- Code with spaces in a line of their own, an empty line, and blanks in front and behind. -/
def looseCode : Text :=
  " \n a();\n\n   \n  b();  \n \n".toList

/-- A line of spaces stays inside the fence, and an empty one does not. -/
theorem code_looseCode :
    '\n' ∉ codeLanguage ∧ trimmedCode looseCode = "a();\n\n   \n  b();".toList ∧
      code looseCode codeLanguage = "\n```zig\na();\n   \n  b();\n```".toList ∧
      IsFence codeLanguage ["a();".toList, "   ".toList, "  b();".toList]
        (code looseCode codeLanguage) ∧
      code "a();\n   \n  b();".toList codeLanguage = code looseCode codeLanguage := by
  have feed : '\n' ∈ trimmedCode looseCode := by decide
  obtain ⟨-, -, several, -⟩ := code_exact looseCode (by decide : '\n' ∉ codeLanguage)
  obtain ⟨body, rfl, fence, -, -, -, again⟩ := several feed
  exact ⟨by decide, by decide, by decide, fence, again⟩

end EditorData.Markdown
