import EditorData.Proofs.Markdown.Framing
import EditorData.Proofs.Reference.CodeFragments

/-!
# Clean documentation

Tidied markdown has no line feed at its ends and no space at the end of a line. The line feeds at
its ends are dropped before the spaces at the ends of its lines, so a line of spaces at either end
would become a line feed there. Markdown has no such line (`Framed`), and so the documentation of a
finished builtin is clean (`isClean_documentation`).
-/

namespace EditorData.Reference

open EditorData.Markdown (Begins Framed)

/-- A text that has no line feed at its ends and no space at the end of a line. -/
structure IsClean (text : Text) : Prop where
  front : text.head? ≠ some '\n'
  back : text.getLast? ≠ some '\n'
  lines : ∀ line ∈ Text.lines text, line.getLast? ≠ some ' '

/-- The lines of a clean text have no spaces to trim. -/
theorem IsClean.trimEnd_line {text line : Text} (clean : IsClean text)
    (member : line ∈ Text.lines text) : Text.trimEnd (· == ' ') line = line := by
  refine Text.trimEnd_eq_self fun c last => beq_eq_false_iff_ne.2 ?_
  rintro rfl
  exact clean.lines line member last

/-- Trimming the ends of the lines of a clean text changes nothing. -/
theorem IsClean.trimLines_eq {text : Text} (clean : IsClean text) : trimLines text = text := by
  rw [← joined_map_trimEnd, List.map_congr_left fun line member => clean.trimEnd_line member,
    List.map_id', Text.joined_lines]

section Tidying

variable {markdown indent rest front : Text} {c : Char}

/-- The lines of tidied markdown are trimmed. -/
theorem lines_tidy (markdown : Text) :
    Text.lines (tidy markdown) =
      (Text.lines (Text.trim (· == '\n') markdown)).map (Text.trimEnd (· == ' ')) := by
  refine Text.parts_joined ?_ fun line member => ?_
  · simp [Text.lines, Text.parts_ne_nil]
  · obtain ⟨whole, within, rfl⟩ := List.mem_map.1 member
    have oneLine := Text.separator_not_mem_part within
    exact fun held => oneLine ((Text.trimEnd_prefix _ whole).subset held)

/-- An indented line with more than spaces keeps its front. -/
theorem trimLines_indented (spacesOnly : ∀ d ∈ indent, d = ' ') (noSpace : c ≠ ' ')
    (noFeed : c ≠ '\n') (rest : Text) :
    trimLines (indent ++ c :: rest) = indent ++ c :: trimLines rest := by
  induction indent with
  | nil => exact keepInFront_of_ne noSpace _
  | cons d indent inductionHypothesis =>
      obtain ⟨-, later⟩ := List.forall_mem_cons.1 spacesOnly
      have goesOn : keepInFront d (indent ++ c :: trimLines rest) =
          d :: (indent ++ c :: trimLines rest) := by
        refine if_neg ?_
        rintro ⟨-, nothing | feed⟩
        · simp at nothing
        · cases indent with
          | nil => exact noFeed (Option.some.inj feed)
          | cons e indent =>
              rw [(List.forall_mem_cons.1 later).1] at feed
              cases feed
      rw [List.cons_append, trimLines, List.foldr_cons, ← trimLines, inductionHypothesis later,
        goesOn, List.cons_append]

/-- Spaces at the end of a text are dropped behind a character that is kept. -/
theorem getLast?_trimLines (spacesOnly : ∀ d ∈ rest, d = ' ') (noSpace : c ≠ ' ')
    (front : Text) : (trimLines (front ++ c :: rest)).getLast? = some c := by
  have nothing : trimLines rest = [] := by
    induction rest with
    | nil => rfl
    | cons d rest inductionHypothesis =>
        obtain ⟨space, later⟩ := List.forall_mem_cons.1 spacesOnly
        rw [trimLines, List.foldr_cons, ← trimLines, inductionHypothesis later]
        exact if_pos ⟨space, .inl rfl⟩
  have kept : trimLines (front ++ c :: rest) = front.foldr keepInFront [c] := by
    rw [trimLines, List.foldr_append, List.foldr_cons, ← trimLines, nothing,
      keepInFront_of_ne noSpace]
  rw [kept]
  obtain ⟨before, whole⟩ := suffix_foldr_keepInFront front [c]
  rw [← whole, List.getLast?_concat]

/-- Line feeds in front are dropped. -/
theorem trimStart_feeds {feeds : Text} (feedsOnly : ∀ d ∈ feeds, d = '\n') (behind : Text) :
    Text.trimStart (· == '\n') (feeds ++ behind) = Text.trimStart (· == '\n') behind :=
  List.dropWhile_append_of_pos fun d member => beq_iff_eq.2 (feedsOnly d member)

/-- Behind line feeds in front of a line with more than spaces, nothing is dropped. -/
theorem head?_tidy (begins : Begins markdown) : (tidy markdown).head? ≠ some '\n' := by
  rw [tidy_eq, Text.trim]
  cases begins with
  | feeds feedsOnly =>
      have nothing := trimStart_feeds feedsOnly []
      rw [List.append_nil] at nothing
      rw [nothing]
      intro feed
      cases feed
  | @line feeds indent c feedsOnly spacesOnly noSpace noFeed rest =>
      have kept : (c == '\n') = false := beq_eq_false_iff_ne.2 noFeed
      have dropped : Text.trimStart (· == '\n') (feeds ++ indent) = indent := by
        rw [trimStart_feeds feedsOnly]
        cases indent with
        | nil => rfl
        | cons d indent =>
            obtain ⟨rfl, -⟩ := List.forall_mem_cons.1 spacesOnly
            rfl
      rw [← List.append_assoc, @Text.trimStart_append_cons (· == '\n') c kept, dropped,
        @Text.trimEnd_append_cons (· == '\n') c kept, trimLines_indented spacesOnly noSpace noFeed]
      intro feed
      cases indent with
      | nil => exact noFeed (Option.some.inj feed)
      | cons d indent =>
          rw [(List.forall_mem_cons.1 spacesOnly).1] at feed
          cases feed

/-- Behind the last line with more than spaces, line feeds and spaces are dropped. -/
theorem getLast?_tidy (ends : Begins markdown.reverse) : (tidy markdown).getLast? ≠ some '\n' := by
  rw [tidy_eq, Text.trim]
  generalize turned : markdown.reverse = backwards at ends
  obtain rfl := List.reverse_eq_iff.1 turned
  clear turned
  cases ends with
  | feeds feedsOnly =>
      have nothing := trimStart_feeds (fun d member => feedsOnly d (List.mem_reverse.1 member)) []
      rw [List.append_nil] at nothing
      rw [nothing]
      intro feed
      cases feed
  | @line feeds indent c feedsOnly spacesOnly noSpace noFeed rest =>
      have kept : (c == '\n') = false := beq_eq_false_iff_ne.2 noFeed
      have whole : (feeds ++ (indent ++ c :: rest)).reverse =
          rest.reverse ++ c :: (indent.reverse ++ feeds.reverse) := by simp
      have dropped : Text.trimEnd (· == '\n') (indent.reverse ++ feeds.reverse) =
          indent.reverse := by
        rw [Text.trimEnd_append_blanks fun d member =>
          beq_iff_eq.2 (feedsOnly d (List.mem_reverse.1 member))]
        refine Text.trimEnd_eq_self fun d last => beq_eq_false_iff_ne.2 ?_
        rw [spacesOnly d (List.mem_reverse.1 (List.mem_of_getLast? last))]
        decide
      rw [whole, @Text.trimStart_append_cons (· == '\n') c kept,
        @Text.trimEnd_append_cons (· == '\n') c kept, dropped,
        getLast?_trimLines (fun d member => spacesOnly d (List.mem_reverse.1 member)) noSpace]
      exact fun feed => noFeed (Option.some.inj feed)

/-- Tidied markdown is clean. -/
theorem isClean_tidy (framed : Framed markdown) : IsClean (tidy markdown) where
  front := head?_tidy framed.front
  back := getLast?_tidy framed.back
  lines line member := by
    rw [lines_tidy] at member
    obtain ⟨whole, -, rfl⟩ := List.mem_map.1 member
    exact Text.getLast?_trimEnd_ne _ whole rfl

end Tidying

/-- The documentation of a finished builtin is clean. -/
theorem isClean_documentation {raw : RawBuiltin} {builtin : Builtin}
    (finished : finish raw = .ok builtin) : IsClean builtin.documentation := by
  obtain ⟨markdown, rendered, documented⟩ := documentation_of_finish finished
  obtain ⟨nodes, -, rfl⟩ := ok_of_map rendered
  rw [documented]
  exact isClean_tidy (Markdown.framed_ofNodes _ nodes)

/-- Collected builtins are finished entries. -/
theorem exists_finish_of_collect {version documentationRoot document : Text}
    {builtins : List Builtin}
    (collected : collect version documentationRoot document = .ok builtins) :
    ∀ builtin ∈ builtins, ∃ raw, finish raw = .ok builtin := by
  rw [collect, Outcome.finished] at collected
  split at collected
  · cases collected
  · next records _ =>
      have finished := finishAll_eq_ok_iff.1 collected
      clear * - finished
      induction finished with
      | nil => simp
      | cons first _ inductionHypothesis =>
          exact List.forall_mem_cons.2 ⟨⟨_, first⟩, inductionHypothesis⟩

end EditorData.Reference
