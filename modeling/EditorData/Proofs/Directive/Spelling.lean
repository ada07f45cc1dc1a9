import EditorData.Directive.Lexer

/-!
# Spelling of running text and of segments

Running text is spelled with characters other than a brace, and with braces that each carry
the character behind them, which is no hash. A segment of a directive is spelled likewise
with hashes, and without bars. `contentRun` and `segmentRun` take exactly such texts off the
front: they pass over one that stands in front (`Prose.contentRun_append`,
`Argument.segmentRun_append`), and what they take is one, but for a mark that the end of the
document leaves without its character (`contentRun_spelled`, `segmentRun_spelled`).
-/

namespace EditorData.Directive

/-- Texts of characters that stand alone and of marks with the character behind each. -/
inductive Spelled (alone : Char -> Prop) (mark : Char) (paired : Char -> Prop) : Text -> Prop where
  | nil : Spelled alone mark paired []
  | single {c : Char} {rest : Text} (stands : alone c)
      (others : Spelled alone mark paired rest) : Spelled alone mark paired (c :: rest)
  | pair {c : Char} {rest : Text} (joins : paired c)
      (others : Spelled alone mark paired rest) : Spelled alone mark paired (mark :: c :: rest)

/-- Running text, which opens no directive and leaves no brace at its end. -/
abbrev Prose : Text -> Prop :=
  Spelled (· ≠ '{') '{' (· ≠ '#')

/-- The text of a segment, which has no bar of its own and does not close its directive. -/
abbrev Argument : Text -> Prop :=
  Spelled (fun c => c ≠ '|' ∧ c ≠ '#') '#' (· ≠ '}')

section Spelled

variable {alone paired : Char -> Prop} {mark : Char} {text other : Text}

/-- A text all of whose characters stand alone is spelled without marks. -/
theorem Spelled.of_forall (stands : ∀ c ∈ text, alone c) : Spelled alone mark paired text := by
  induction text with
  | nil => exact .nil
  | cons c rest inductionHypothesis =>
      have others := inductionHypothesis fun d member => stands d (List.mem_cons_of_mem c member)
      exact .single (stands c List.mem_cons_self) others

/-- Spelled texts can be put one behind the other. -/
theorem Spelled.append (first : Spelled alone mark paired text)
    (second : Spelled alone mark paired other) : Spelled alone mark paired (text ++ other) := by
  induction first with
  | nil => exact second
  | single stands _ inductionHypothesis => exact .single stands inductionHypothesis
  | pair joins _ inductionHypothesis => exact .pair joins inductionHypothesis

/-- What is spelled behind a spelled text is spelled, if no mark stands alone. -/
theorem Spelled.of_append (marked : ¬ alone mark) (first : Spelled alone mark paired text)
    (whole : Spelled alone mark paired (text ++ other)) : Spelled alone mark paired other := by
  induction first with
  | nil => exact whole
  | @single _ text stands _ inductionHypothesis =>
      generalize behind : text ++ other = rest at inductionHypothesis
      rw [List.cons_append, behind] at whole
      cases whole with
      | single _ others => exact inductionHypothesis others
      | pair => exact absurd stands marked
  | pair _ _ inductionHypothesis =>
      cases whole with
      | single stands => exact absurd stands marked
      | pair _ others => exact inductionHypothesis others

end Spelled

/-- A text without braces is running text. -/
theorem Prose.of_not_mem {text : Text} (absent : '{' ∉ text) : Prose text := by
  apply Spelled.of_forall
  rintro c member rfl
  exact absent member

/-- A text without bars and hashes can be a segment. -/
theorem Argument.of_not_mem {text : Text} (noBar : '|' ∉ text) (noHash : '#' ∉ text) :
    Argument text := by
  apply Spelled.of_forall
  intro c member
  constructor
  · rintro rfl
    exact noBar member
  · rintro rfl
    exact noHash member

/-- A character other than a brace is part of running text. -/
theorem contentRun_cons {c : Char} (stands : c ≠ '{') (rest : Text) :
    contentRun (c :: rest) = (contentRun rest).map (c :: ·) id := by
  rw [contentRun]
  · rintro _ rfl
    exact absurd rfl stands
  · rintro _ _ rfl
    exact absurd rfl stands

/-- A brace is part of running text together with a character that is no hash. -/
theorem contentRun_pair {c : Char} (joins : c ≠ '#') (rest : Text) :
    contentRun ('{' :: c :: rest) = (contentRun rest).map (['{', c] ++ ·) id := by
  rw [contentRun]
  exact joins

/-- A character other than a bar and a hash is part of a segment. -/
theorem segmentRun_cons {c : Char} (stands : c ≠ '|' ∧ c ≠ '#') (rest : Text) :
    segmentRun (c :: rest) = (segmentRun rest).map (c :: ·) id := by
  rw [segmentRun]
  · exact stands.1
  · rintro _ rfl
    exact absurd rfl stands.2
  · rintro _ _ rfl
    exact absurd rfl stands.2

/-- A hash is part of a segment together with a character that is no closing brace. -/
theorem segmentRun_pair {c : Char} (joins : c ≠ '}') (rest : Text) :
    segmentRun ('#' :: c :: rest) = (segmentRun rest).map (['#', c] ++ ·) id := by
  rw [segmentRun]
  exact joins

/-- The run of running text goes past running text in front of it. -/
theorem Prose.contentRun_append {text : Text} (prose : Prose text) (rest : Text) :
    contentRun (text ++ rest) = (contentRun rest).map (text ++ ·) id := by
  induction prose with
  | nil => rfl
  | single stands _ inductionHypothesis =>
      rw [List.cons_append, contentRun_cons stands, inductionHypothesis]
      rfl
  | pair joins _ inductionHypothesis =>
      rw [List.cons_append, List.cons_append, contentRun_pair joins, inductionHypothesis]
      rfl

/-- The run of a segment goes past a text that can be a segment. -/
theorem Argument.segmentRun_append {text : Text} (argument : Argument text) (rest : Text) :
    segmentRun (text ++ rest) = (segmentRun rest).map (text ++ ·) id := by
  induction argument with
  | nil => rfl
  | single stands _ inductionHypothesis =>
      rw [List.cons_append, segmentRun_cons stands, inductionHypothesis]
      rfl
  | pair joins _ inductionHypothesis =>
      rw [List.cons_append, List.cons_append, segmentRun_pair joins, inductionHypothesis]
      rfl

/-- The stretch of running text in front is running text, but for a brace that ends the
document. -/
theorem contentRun_spelled (text : Text) :
    Prose (contentRun text).1 ∨
      (contentRun text).2 = [] ∧
        ∃ front, Prose front ∧ (contentRun text).1 = front ++ ['{'] := by
  fun_induction contentRun text with
  | case1 => exact .inl .nil
  | case2 => exact .inl .nil
  | case3 c rest joins inductionHypothesis =>
      rcases inductionHypothesis with prose | ⟨ended, front, prose, split⟩
      · exact .inl (.pair joins prose)
      · exact .inr ⟨ended, '{' :: c :: front, .pair joins prose, by simp [split]⟩
  | case4 c rest notOpening notPair inductionHypothesis =>
      by_cases stands : c = '{'
      · -- a brace with nothing behind it
        subst stands
        cases rest with
        | nil => exact .inr ⟨rfl, [], .nil, rfl⟩
        | cons d others => exact (notPair d others rfl rfl).elim
      · rcases inductionHypothesis with prose | ⟨ended, front, prose, split⟩
        · exact .inl (.single stands prose)
        · exact .inr ⟨ended, c :: front, .single stands prose, by simp [split]⟩

/-- The segment in front can be a segment, but for a hash that ends the document. -/
theorem segmentRun_spelled (text : Text) :
    Argument (segmentRun text).1 ∨
      (segmentRun text).2 = [] ∧
        ∃ front, Argument front ∧ (segmentRun text).1 = front ++ ['#'] := by
  fun_induction segmentRun text with
  | case1 => exact .inl .nil
  | case2 => exact .inl .nil
  | case3 => exact .inl .nil
  | case4 c rest joins inductionHypothesis =>
      rcases inductionHypothesis with argument | ⟨ended, front, argument, split⟩
      · exact .inl (.pair joins argument)
      · exact .inr ⟨ended, '#' :: c :: front, .pair joins argument, by simp [split]⟩
  | case5 c rest notBar notClosing notPair inductionHypothesis =>
      by_cases hash : c = '#'
      · -- a hash with nothing behind it
        subst hash
        cases rest with
        | nil => exact .inr ⟨rfl, [], .nil, rfl⟩
        | cons d others => exact (notPair d others rfl rfl).elim
      · rcases inductionHypothesis with argument | ⟨ended, front, argument, split⟩
        · exact .inl (.single ⟨notBar, hash⟩ argument)
        · exact .inr ⟨ended, c :: front, .single ⟨notBar, hash⟩ argument, by simp [split]⟩

/-- Running text ends where the document ends or a directive opens. -/
theorem contentRun_stops (text : Text) :
    (contentRun text).2 = [] ∨ ∃ rest, (contentRun text).2 = '{' :: '#' :: rest := by
  fun_induction contentRun text with
  | case1 => exact .inl rfl
  | case2 rest => exact .inr ⟨rest, rfl⟩
  | case3 _ _ _ inductionHypothesis => exact inductionHypothesis
  | case4 _ _ _ _ inductionHypothesis => exact inductionHypothesis

/-- A segment ends where the document ends, at a bar, or where its directive closes. -/
theorem segmentRun_stops (text : Text) :
    (segmentRun text).2 = [] ∨ (∃ rest, (segmentRun text).2 = '|' :: rest) ∨
      ∃ rest, (segmentRun text).2 = '#' :: '}' :: rest := by
  fun_induction segmentRun text with
  | case1 => exact .inl rfl
  | case2 rest => exact .inr (.inl ⟨rest, rfl⟩)
  | case3 rest => exact .inr (.inr ⟨rest, rfl⟩)
  | case4 _ _ _ inductionHypothesis => exact inductionHypothesis
  | case5 _ _ _ _ _ inductionHypothesis => exact inductionHypothesis

end EditorData.Directive
