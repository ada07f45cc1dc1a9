import EditorData.Proofs.Signature.Counting
import EditorData.Proofs.Text.Trimming

/-!
# Splitting and joining arguments

What is in front of a comma, a closing parenthesis or the end of the text gives its argument on its
own (`arguments_comma`, `arguments_closed`, `arguments_enclosed`), and a blank in front of a list
changes nothing. So arguments put together with commas are split again, as long as each of them is
balanced but for the last one, which alone may leave a group open; and splitting gives no others.
-/

namespace EditorData.Signature

/-- The argument of a piece, if it is more than white space. -/
def argumentOf (piece : Text) : List Text :=
  [Text.stripped piece].filter fun argument => !argument.isEmpty

/-- A text that can be an argument: not empty, trimmed, and balanced, with no comma outside of
parentheses. -/
structure IsArgument (text : Text) : Prop where
  nonempty : text ≠ []
  trimmed : Text.IsTrimmed Text.isSpace text
  balanced : Balanced text

instance (text : Text) : Decidable (IsArgument text) :=
  decidable_of_iff (text ≠ [] ∧ Text.IsTrimmed Text.isSpace text ∧ Balanced text)
    ⟨fun ⟨nonempty, trimmed, balanced⟩ => { nonempty, trimmed, balanced },
      fun sound => ⟨sound.nonempty, sound.trimmed, sound.balanced⟩⟩

section Splitting

variable {piece text : Text} {pieces : List Text}

/-- The arguments of a list are those of its pieces. -/
theorem CutInto.arguments_eq (cut : CutInto text pieces) :
    arguments text = pieces.flatMap argumentOf := by
  rw [arguments, cut.piecesFrom_eq]
  clear cut
  induction pieces with
  | nil => rfl
  | cons piece pieces inductionHypothesis =>
      rw [List.map_cons, List.filter_cons, List.flatMap_cons, ← inductionHypothesis, argumentOf,
        List.filter_cons, List.filter_nil]
      split <;> rfl

/-- The arguments of an enclosed text. -/
theorem arguments_enclosed (enclosed : Enclosed piece) : arguments piece = argumentOf piece := by
  rw [(CutInto.unclosed enclosed).arguments_eq, List.flatMap_singleton]

/-- The arguments of a list that is closed behind its first piece. -/
theorem arguments_closed (balanced : Balanced piece) (tail : Text) :
    arguments (piece ++ ')' :: tail) = argumentOf piece := by
  rw [(CutInto.closed balanced tail).arguments_eq, List.flatMap_singleton]

/-- The arguments of a list that goes on behind its first piece. -/
theorem arguments_comma (balanced : Balanced piece) (rest : Text) :
    arguments (piece ++ ',' :: rest) = argumentOf piece ++ arguments rest := by
  have cut := cutInto_pieces rest
  rw [(CutInto.comma balanced cut).arguments_eq, List.flatMap_cons, cut.arguments_eq]

/-- A space in front of a piece is trimmed off. -/
theorem argumentOf_space (piece : Text) : argumentOf (' ' :: piece) = argumentOf piece := by
  have blank : Text.isSpace ' ' = true := by decide
  rw [argumentOf, Text.stripped, Text.trim, Text.trimStart, List.dropWhile_cons_of_pos blank]
  rfl

/-- A space in front of a list changes nothing. -/
theorem arguments_space (text : Text) : arguments (' ' :: text) = arguments text := by
  have space : Balanced [' '] := .singleton (by decide) (by decide) (by decide)
  have cut := cutInto_pieces text
  rw [cut.arguments_eq]
  generalize piecesFrom [] text = pieces at cut
  cases cut with
  | unclosed enclosed =>
      have further : Enclosed (' ' :: text) := .append space enclosed
      rw [arguments_enclosed further, List.flatMap_singleton, argumentOf_space]
  | @closed piece balanced tail =>
      have further : Balanced (' ' :: piece) := space.append balanced
      have closed := arguments_closed further tail
      rwa [List.flatMap_singleton, ← argumentOf_space]
  | @comma piece rest pieces balanced later =>
      have further : Balanced (' ' :: piece) := space.append balanced
      have goesOn := arguments_comma further rest
      rwa [List.flatMap_cons, ← argumentOf_space, ← later.arguments_eq]

end Splitting

section Trimming

variable {piece : Text}

/-- White space is on one level. -/
theorem depth_of_spaces {text : Text} (spaces : ∀ c ∈ text, Text.isSpace c = true) :
    depth text = 0 := by
  have opening : '(' ∉ text := fun held => absurd (spaces _ held) (by decide)
  have closing : ')' ∉ text := fun held => absurd (spaces _ held) (by decide)
  rw [depth, List.count_eq_zero_of_not_mem opening, List.count_eq_zero_of_not_mem closing]
  rfl

/-- A piece that is enclosed is so without the white space at its ends. -/
theorem Enclosed.stripped (enclosed : Enclosed piece) : Enclosed (Text.stripped piece) := by
  obtain ⟨leading, trailing, whole, before, -⟩ := Text.exists_trimmedEnds Text.isSpace piece
  rw [whole] at enclosed
  exact enclosed.stretch (depth_of_spaces before)

/-- A piece that is balanced is so without the white space at its ends. -/
theorem Balanced.stripped (balanced : Balanced piece) : Balanced (Text.stripped piece) := by
  obtain ⟨leading, trailing, whole, before, behind⟩ := Text.exists_trimmedEnds Text.isSpace piece
  rw [whole] at balanced
  exact balanced.stretch (depth_of_spaces before) (depth_of_spaces behind)

/-- The argument of a piece, if there is one, is the argument of itself. -/
theorem argumentOf_cases (piece : Text) :
    argumentOf piece = [] ∨
      argumentOf piece = [Text.stripped piece] ∧
        argumentOf (Text.stripped piece) = [Text.stripped piece] := by
  have again : argumentOf (Text.stripped piece) = argumentOf piece := by
    simp only [argumentOf, Text.stripped, Text.trim_trim]
  rw [again, and_self, argumentOf, List.filter_cons, List.filter_nil]
  split
  · exact .inr rfl
  · exact .inl rfl

/-- An argument is the argument of itself. -/
theorem IsArgument.argumentOf_eq {argument : Text} (sound : IsArgument argument) :
    argumentOf argument = [argument] := by
  rw [argumentOf, Text.stripped, sound.trimmed.trim_eq]
  simp [sound.nonempty]

end Trimming

/-- An argument in front of others is split off again. -/
theorem arguments_joined_cons {argument : Text} (balanced : Balanced argument)
    (alone : argumentOf argument = [argument]) (next : Text) (others : List Text)
    (ending : Text) :
    arguments (Text.joined ", ".toList (argument :: next :: others) ++ ending) =
      argument :: arguments (Text.joined ", ".toList (next :: others) ++ ending) := by
  have whole : Text.joined ", ".toList (argument :: next :: others) ++ ending =
      argument ++ ',' :: ' ' :: (Text.joined ", ".toList (next :: others) ++ ending) := by
    simp [Text.joined]
  rw [whole, arguments_comma balanced, arguments_space, alone, List.singleton_append]

/-- Joined arguments are split into the same arguments again, whatever stands behind the
parenthesis that closes the list. -/
theorem arguments_joined_closed {list : List Text} (sound : ∀ argument ∈ list, IsArgument argument)
    (tail : Text) : arguments (Text.joined ", ".toList list ++ ')' :: tail) = list := by
  induction list with
  | nil => exact arguments_closed .nil tail
  | cons argument others inductionHypothesis =>
      obtain ⟨first, later⟩ := List.forall_mem_cons.1 sound
      cases others with
      | nil => exact (arguments_closed first.balanced tail).trans first.argumentOf_eq
      | cons next others =>
          rw [arguments_joined_cons first.balanced first.argumentOf_eq, inductionHypothesis later]

/-- The arguments of the pieces of a list are split again when they have been joined. Only the last
piece may leave a group open, and it stays the last one. -/
theorem CutInto.arguments_rejoined {text : Text} {pieces : List Text} (cut : CutInto text pieces) :
    arguments (Text.joined ", ".toList (pieces.flatMap argumentOf)) =
      pieces.flatMap argumentOf := by
  have last : ∀ {piece : Text}, Enclosed piece →
      arguments (Text.joined ", ".toList (argumentOf piece)) = argumentOf piece := by
    intro piece enclosed
    rcases argumentOf_cases piece with none | ⟨one, alone⟩
    · rw [none]
      exact arguments_enclosed Balanced.nil.toEnclosed
    · rw [one]
      exact (arguments_enclosed enclosed.stripped).trans alone
  induction cut with
  | unclosed enclosed =>
      rw [List.flatMap_singleton]
      exact last enclosed
  | closed balanced tail =>
      rw [List.flatMap_singleton]
      exact last balanced.toEnclosed
  | @comma piece rest pieces balanced later inductionHypothesis =>
      rw [List.flatMap_cons]
      rcases argumentOf_cases piece with none | ⟨one, alone⟩
      · rwa [none, List.nil_append]
      · cases others : pieces.flatMap argumentOf with
        | nil =>
            rw [List.append_nil]
            exact last balanced.toEnclosed
        | cons next others' =>
            have further := arguments_joined_cons balanced.stripped alone next others' []
            rw [List.append_nil, List.append_nil, ← others, inductionHypothesis] at further
            rwa [one, List.singleton_append, ← others]

/-- Splitting undoes joining, for every list of arguments and whatever stands behind it, and joining
what a text has been split into keeps it, for every text. -/
theorem arguments_joined :
    (∀ (list : List Text) (tail : Text), (∀ argument ∈ list, IsArgument argument) →
      arguments (Text.joined ", ".toList list ++ ')' :: tail) = list) ∧
    ∀ text, arguments (Text.joined ", ".toList (arguments text)) = arguments text := by
  refine ⟨fun list tail sound => arguments_joined_closed sound tail, fun text => ?_⟩
  have cut := cutInto_pieces text
  rw [cut.arguments_eq]
  exact cut.arguments_rejoined

/-- An argument with commas in its parentheses stays whole, and a return type with parentheses is no
part of the list. -/
theorem arguments_joined_callback :
    (∀ argument ∈ ["f: fn (a: u8, b: u8) void".toList, "x: T".toList], IsArgument argument) ∧
      arguments (Text.joined ", ".toList ["f: fn (a: u8, b: u8) void".toList, "x: T".toList] ++
          ')' :: " fn (u8) void".toList) =
        ["f: fn (a: u8, b: u8) void".toList, "x: T".toList] := by
  have sound : ∀ argument ∈ ["f: fn (a: u8, b: u8) void".toList, "x: T".toList],
      IsArgument argument := by decide
  exact ⟨sound, arguments_joined.1 _ " fn (u8) void".toList sound⟩

end EditorData.Signature
