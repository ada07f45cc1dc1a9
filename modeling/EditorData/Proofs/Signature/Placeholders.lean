import EditorData.Proofs.Signature.Scanning

/-!
# Reading snippets

An editor takes the list of a snippet apart by its marks: a placeholder begins with a dollar sign,
an opening brace, a number and a colon, and ends at the first closing brace that no backslash
escapes. Arguments are put into a snippet as they are, so an editor finds them again only if none of
them ends its placeholder early or keeps it from ending (`Contained`). Nor does it find others
instead: what is read as the first argument would have fewer closing braces than the argument, or
more.
-/

namespace EditorData.Signature

/-- A placeholder that has been read. -/
structure Placeholder where
  number : Nat
  text : Text
deriving DecidableEq, Repr

/-- A placeholder with its text as it is shown. -/
def Placeholder.shownBy (shown : Text -> Text) (placeholder : Placeholder) : Placeholder :=
  { placeholder with text := shown placeholder.text }

/-- The text up to the first closing brace that is not escaped, and what follows that brace. A
backslash escapes the character behind it. -/
def splitPlaceholder : Text -> Option (Text × Text)
  | [] => none
  | '}' :: rest => some ([], rest)
  | '\\' :: c :: rest => (splitPlaceholder rest).map (Prod.map ('\\' :: c :: ·) id)
  | c :: rest => (splitPlaceholder rest).map (Prod.map (c :: ·) id)

/-- The decimal number at the front of a text, and what follows it. -/
def readNumber (text : Text) : Option (Nat × Text) :=
  match text.takeWhile Char.isDigit with
  | [] => none
  | digits => some (Nat.ofDigitChars 10 digits 0, text.dropWhile Char.isDigit)

/-- The placeholder at the front of a text, and what follows it. -/
def readPlaceholder (text : Text) : Option (Placeholder × Text) := do
  let behindBrace <- Text.after? "$\x7b".toList text
  let (number, behindNumber) <- readNumber behindBrace
  let behindColon <- Text.after? [':'] behindNumber
  let (content, rest) <- splitPlaceholder behindColon
  return (⟨number, content⟩, rest)

/-- A text that stays whole as the content of a placeholder: a closing brace in it is escaped, and
no backslash at its end escapes the brace behind it. -/
inductive Contained : Text -> Prop
  | nil : Contained []
  | escape (c : Char) {rest : Text} (contained : Contained rest) : Contained ('\\' :: c :: rest)
  | plain {c : Char} {rest : Text} (noBrace : c ≠ '}') (noEscape : c ≠ '\\')
      (contained : Contained rest) : Contained (c :: rest)

section Splitting

variable {text content rest : Text}

/-- A contained text in front of a closing brace is split off. -/
theorem Contained.splitPlaceholder_append (contained : Contained content) (rest : Text) :
    splitPlaceholder (content ++ '}' :: rest) = some (content, rest) := by
  induction contained with
  | nil => rfl
  | escape c contained inductionHypothesis =>
      rw [List.cons_append, List.cons_append, splitPlaceholder, inductionHypothesis]
      rfl
  | @plain c inner noBrace noEscape contained inductionHypothesis =>
      have here : splitPlaceholder (c :: (inner ++ '}' :: rest)) =
          (splitPlaceholder (inner ++ '}' :: rest)).map (Prod.map (c :: ·) id) := by
        rw [splitPlaceholder]
        · exact fun same => noBrace same
        · exact fun _ _ same => absurd same noEscape
      rw [List.cons_append, here, inductionHypothesis]
      rfl

/-- What is split off is contained, and stands in front of a closing brace. -/
theorem splitPlaceholder_eq_some_iff :
    splitPlaceholder text = some (content, rest) ↔
      text = content ++ '}' :: rest ∧ Contained content := by
  constructor
  · intro split
    fun_induction splitPlaceholder text generalizing content with
    | case1 => cases split
    | case2 behind =>
        cases split
        exact ⟨rfl, .nil⟩
    | case3 c behind inductionHypothesis =>
        obtain ⟨⟨inner, after⟩, found, same⟩ := Option.map_eq_some_iff.1 split
        obtain ⟨rfl, rfl⟩ := Prod.mk.inj same
        obtain ⟨rfl, contained⟩ := inductionHypothesis found
        exact ⟨rfl, .escape c contained⟩
    | case4 c behind noBrace noEscape inductionHypothesis =>
        obtain ⟨⟨inner, after⟩, found, same⟩ := Option.map_eq_some_iff.1 split
        obtain ⟨rfl, rfl⟩ := Prod.mk.inj same
        obtain ⟨rfl, contained⟩ := inductionHypothesis found
        refine ⟨rfl, .plain noBrace ?_ contained⟩
        -- a backslash would be the last character, and nothing would end the placeholder
        rintro rfl
        cases behindAll : inner ++ '}' :: after with
        | nil => simp at behindAll
        | cons d tail => exact noEscape d tail rfl behindAll
  · rintro ⟨rfl, contained⟩
    exact contained.splitPlaceholder_append rest

end Splitting

instance (text : Text) : Decidable (Contained text) :=
  decidable_of_iff (splitPlaceholder (text ++ ['}']) = some (text, [])) <| by
    rw [splitPlaceholder_eq_some_iff]
    exact and_iff_right rfl

/-- Behind a placeholder there are fewer characters. -/
theorem length_of_readPlaceholder {text rest : Text} {placeholder : Placeholder}
    (found : readPlaceholder text = some (placeholder, rest)) : rest.length < text.length := by
  simp only [readPlaceholder, Option.bind_eq_bind, Option.bind_eq_some_iff, Prod.exists,
    Option.pure_def, Option.some.injEq, Prod.mk.injEq] at found
  obtain ⟨behindBrace, opened, number, behindNumber, numbered, behindColon, colon, content, rest,
    split, -, rfl⟩ := found
  have first := congrArg List.length (Text.eq_append_of_after? opened)
  have second : behindNumber.length ≤ behindBrace.length := by
    unfold readNumber at numbered
    split at numbered
    · cases numbered
    · obtain ⟨-, rfl⟩ := Prod.mk.inj (Option.some.inj numbered)
      exact (List.dropWhile_sublist _).length_le
  have third := congrArg List.length (Text.eq_append_of_after? colon)
  have fourth := congrArg List.length (splitPlaceholder_eq_some_iff.1 split).1
  simp only [List.length_append, List.length_cons] at first third fourth
  omega

/-- The placeholders of a list, of which there is one at least: a comma and a space stand between
two of them, and a closing parenthesis behind the last one. -/
def readPlaceholders (text : Text) : Option (List Placeholder) :=
  match _read : readPlaceholder text with
  | none => none
  | some (placeholder, rest) =>
      if rest = [')'] then some [placeholder]
      else
        match _separated : Text.after? ", ".toList rest with
        | none => none
        | some others => (readPlaceholders others).map (placeholder :: ·)
termination_by text.length
decreasing_by
  have shorter := length_of_readPlaceholder _read
  have whole := congrArg List.length (Text.eq_append_of_after? _separated)
  simp only [List.length_append] at whole
  omega

/-- The placeholders of what stands behind the opening parenthesis of a snippet. -/
def readSnippetList (text : Text) : Option (List Placeholder) :=
  if text = [')'] then some [] else readPlaceholders text

/-- What an editor shows of a text: a backslash in front of a mark is dropped. -/
def unescaped : Text -> Text
  | [] => []
  | '\\' :: c :: rest =>
      if c = '$' ∨ c = '}' ∨ c = '\\' then c :: unescaped rest else '\\' :: c :: unescaped rest
  | c :: rest => c :: unescaped rest

/-- The placeholders of arguments, from a number on. -/
def listedFrom (number : Nat) : List Text -> List Placeholder
  | [] => []
  | argument :: others => ⟨number, argument⟩ :: listedFrom (number + 1) others

/-- Numbers in front of a colon are read. -/
theorem readNumber_ofNat (number : Nat) (rest : Text) :
    readNumber (Text.ofNat number ++ ':' :: rest) = some (number, ':' :: rest) := by
  have digits : ∀ c ∈ Text.ofNat number, c.isDigit = true := fun c member =>
    Nat.isDigit_of_mem_toDigits (by decide) (by decide) member
  have taken : (Text.ofNat number ++ ':' :: rest).takeWhile Char.isDigit = Text.ofNat number := by
    rw [List.takeWhile_append_of_pos digits]
    exact List.append_nil _
  have left : (Text.ofNat number ++ ':' :: rest).dropWhile Char.isDigit = ':' :: rest := by
    rw [List.dropWhile_append_of_pos digits]
    rfl
  unfold readNumber
  rw [taken, left]
  split
  · next nothing => exact absurd nothing Nat.toDigits_ne_nil
  · rw [Text.ofNat, Nat.ofDigitChars_toDigits (by decide) (by decide)]

/-- The number of a placeholder is read, and its text up to where it ends. -/
theorem readPlaceholder_append (number : Nat) (argument rest : Text) :
    readPlaceholder (placeholder number argument ++ rest) =
      (splitPlaceholder (argument ++ '}' :: rest)).map fun (content, behind) =>
        (⟨number, content⟩, behind) := by
  have opened : Text.after? "$\x7b".toList (placeholder number argument ++ rest) =
      some (Text.ofNat number ++ ':' :: (argument ++ '}' :: rest)) := by
    rw [Text.after?_eq_some_iff]
    simp [placeholder]
  have colon (text : Text) : Text.after? [':'] (':' :: text) = some text :=
    Text.after?_append [':'] text
  simp only [readPlaceholder, opened, readNumber_ofNat, colon, Option.bind_eq_bind,
    Option.bind_some]
  cases splitPlaceholder (argument ++ '}' :: rest) <;> rfl

section Reading

variable {argument : Text}

/-- Texts with equally many marks in front of a mark are the same if they begin the same text. -/
theorem eq_of_append_cons_eq {mark : Char} {front other behind rest : Text}
    (same : front ++ mark :: behind = other ++ mark :: rest)
    (counts : front.count mark = other.count mark) : front = other := by
  rcases List.append_eq_append_iff.1 same with ⟨between, rfl, ends⟩ | ⟨between, rfl, ends⟩
  all_goals
    cases between with
    | nil => simp
    | cons c between =>
        obtain ⟨rfl, -⟩ := List.cons.inj ends
        simp at counts

/-- Dropping backslashes keeps the braces. -/
theorem count_unescaped (text : Text) : (unescaped text).count '}' = text.count '}' := by
  fun_induction unescaped text with
  | case1 => rfl
  | case2 c rest mark inductionHypothesis =>
      simp [List.count_cons, inductionHypothesis]
  | case3 c rest noMark inductionHypothesis =>
      simp [List.count_cons, inductionHypothesis]
  | case4 c rest noEscape inductionHypothesis =>
      simp [List.count_cons, inductionHypothesis]

/-- A list goes on behind its first placeholder, or ends there. -/
theorem readPlaceholders_eq {text : Text} :
    readPlaceholders text =
      (readPlaceholder text).bind fun (placeholder, rest) =>
        if rest = [')'] then some [placeholder]
        else
          (Text.after? ", ".toList rest).bind fun others =>
            (readPlaceholders others).map (placeholder :: ·) := by
  rw [readPlaceholders]
  split
  · next found => rw [found]; rfl
  · next placeholder rest found =>
      simp only [found, Option.bind_some]
      split
      · rfl
      · split
        · next separated => rw [separated]; rfl
        · next others separated => rw [separated]; rfl

/-- A placeholder whose argument stays whole is read with its argument. -/
theorem readPlaceholders_of_contained (contained : Contained argument) (number : Nat)
    (rest : Text) :
    readPlaceholders (placeholder number argument ++ rest) =
      if rest = [')'] then some [⟨number, argument⟩]
      else
        (Text.after? ", ".toList rest).bind fun others =>
          (readPlaceholders others).map (⟨number, argument⟩ :: ·) := by
  rw [readPlaceholders_eq, readPlaceholder_append, contained.splitPlaceholder_append]
  rfl

variable {shown : Text -> Text} {number : Nat} {rest : Text} {later : List Placeholder}

/-- An argument that is read as the first one stays whole, and is shown as it is. -/
theorem contained_of_readPlaceholders
    (braces : ∀ text, (shown text).count '}' = text.count '}')
    (read : (readPlaceholders (placeholder number argument ++ rest)).map
      (List.map (Placeholder.shownBy shown)) = some (⟨number, argument⟩ :: later)) :
    Contained argument ∧ shown argument = argument := by
  rw [readPlaceholders_eq, readPlaceholder_append] at read
  obtain ⟨list, found, same⟩ := Option.map_eq_some_iff.1 read
  obtain ⟨⟨first, behind⟩, split, found⟩ := Option.bind_eq_some_iff.1 found
  obtain ⟨⟨content, after⟩, parted, pair⟩ := Option.map_eq_some_iff.1 split
  obtain ⟨rfl, rfl⟩ := Prod.mk.inj pair
  have shownSame : shown content = argument := by
    dsimp only at found
    split at found
    · obtain rfl := Option.some.inj found
      exact congrArg Placeholder.text (List.cons.inj same).1
    · obtain ⟨others, -, found⟩ := Option.bind_eq_some_iff.1 found
      obtain ⟨behindFirst, -, rfl⟩ := Option.map_eq_some_iff.1 found
      exact congrArg Placeholder.text (List.cons.inj same).1
  obtain ⟨whole, contained⟩ := splitPlaceholder_eq_some_iff.1 parted
  -- what was read has as many closing braces as the argument, so it ends where the argument does
  have counts : content.count '}' = argument.count '}' := by rw [← braces content, shownSame]
  obtain rfl := eq_of_append_cons_eq whole counts.symm
  exact ⟨contained, shownSame⟩

/-- The list of placeholders that stand together is read as the list of their arguments exactly if
each argument stays whole and is shown as it is. -/
theorem readPlaceholders_eq_some_iff (braces : ∀ text, (shown text).count '}' = text.count '}')
    (number : Nat) (argument : Text) (others : List Text) :
    (readPlaceholders
          (Text.joined ", ".toList (placeholders number (argument :: others)) ++ [')'])).map
        (List.map (Placeholder.shownBy shown)) = some (listedFrom number (argument :: others)) ↔
      ∀ one ∈ argument :: others, Contained one ∧ shown one = one := by
  induction others generalizing number argument with
  | nil =>
      rw [List.forall_mem_singleton]
      refine ⟨contained_of_readPlaceholders braces, fun ⟨contained, shownSame⟩ => ?_⟩
      have read := readPlaceholders_of_contained contained number [')']
      rw [if_pos rfl] at read
      simp only [placeholders, Text.joined, read, Option.map_some, List.map_cons, List.map_nil,
        Placeholder.shownBy, shownSame, listedFrom]
  | cons next others inductionHypothesis =>
      have whole :
          Text.joined ", ".toList (placeholders number (argument :: next :: others)) ++ [')'] =
            placeholder number argument ++ (", ".toList ++
              (Text.joined ", ".toList (placeholders (number + 1) (next :: others)) ++ [')'])) := by
        simp only [placeholders, Text.joined, List.append_assoc]
      have goesOn (text : Text) : ", ".toList ++ text ≠ [')'] := by simp
      have read (contained : Contained argument) :=
        readPlaceholders_of_contained contained number (", ".toList ++
          (Text.joined ", ".toList (placeholders (number + 1) (next :: others)) ++ [')']))
      simp only [if_neg (goesOn _), Text.after?_append, Option.bind_some] at read
      rw [List.forall_mem_cons, ← inductionHypothesis, whole]
      constructor
      · intro found
        have first := contained_of_readPlaceholders braces found
        refine ⟨first, ?_⟩
        rw [read first.1, Option.map_map] at found
        obtain ⟨list, listed, same⟩ := Option.map_eq_some_iff.1 found
        rw [listed]
        exact congrArg some (List.cons.inj same).2
      · rintro ⟨⟨contained, shownSame⟩, found⟩
        obtain ⟨list, listed, same⟩ := Option.map_eq_some_iff.1 found
        rw [read contained, listed]
        simp only [Option.map_some, List.map_cons, same, Placeholder.shownBy, shownSame, listedFrom]

/-- The list of a snippet is read as the list of its arguments exactly if each argument stays whole
and is shown as it is. -/
theorem readSnippetList_eq_some_iff (braces : ∀ text, (shown text).count '}' = text.count '}')
    (list : List Text) :
    (readSnippetList (Text.joined ", ".toList (numbered list) ++ [')'])).map
        (List.map (Placeholder.shownBy shown)) = some (listedFrom 1 list) ↔
      ∀ one ∈ list, Contained one ∧ shown one = one := by
  rw [← placeholders_one]
  cases list with
  | nil => simp [placeholders, Text.joined, readSnippetList, listedFrom]
  | cons argument others =>
      rw [readSnippetList, if_neg, readPlaceholders_eq_some_iff braces]
      cases others <;> simp [placeholders, Text.joined, placeholder]

end Reading

/-- What an editor reads behind the first parenthesis of a snippet. If it takes the texts of the
placeholders as they stand, it finds the arguments of the signature, numbered from one on, in order
and nothing else, exactly if each of them stays whole. If it drops the backslashes of escapes, it
finds them exactly if they also have no escapes. -/
theorem snippet_readable_iff {signature : Text} (opened : '(' ∈ signature) :
    ∃ callee parameters list, Opens signature callee parameters ∧
      snippet signature = .ok (callee ++ '(' :: list) ∧
      (readSnippetList list = some (listedFrom 1 (arguments parameters)) ↔
        ∀ argument ∈ arguments parameters, Contained argument) ∧
      ((readSnippetList list).map (List.map (Placeholder.shownBy unescaped)) =
          some (listedFrom 1 (arguments parameters)) ↔
        ∀ argument ∈ arguments parameters, Contained argument ∧ unescaped argument = argument) := by
  obtain ⟨callee, parameters, opens⟩ := exists_opens opened
  refine ⟨callee, parameters, _, opens, ?_, ?_, readSnippetList_eq_some_iff count_unescaped _⟩
  · rw [opens.snippet_eq, callSnippet, List.append_assoc, List.cons_append]
  · have asTheyStand : List.map (Placeholder.shownBy id) = id := by
      funext list
      exact List.map_id list
    have read := @readSnippetList_eq_some_iff id (fun _ => rfl) (arguments parameters)
    rw [asTheyStand, Option.map_id] at read
    simpa using read

/-- Arguments without braces and backslashes are read back either way. -/
theorem snippet_readable_cast :
    '(' ∈ "@as(comptime T: type, value: T) T".toList ∧
      ∃ callee parameters list,
        Opens "@as(comptime T: type, value: T) T".toList callee parameters ∧
        snippet "@as(comptime T: type, value: T) T".toList = .ok (callee ++ '(' :: list) ∧
        arguments parameters = ["comptime T: type".toList, "value: T".toList] ∧
        readSnippetList list = some (listedFrom 1 (arguments parameters)) ∧
        (readSnippetList list).map (List.map (Placeholder.shownBy unescaped)) =
          some (listedFrom 1 (arguments parameters)) := by
  have opened : '(' ∈ "@as(comptime T: type, value: T) T".toList := by decide
  obtain ⟨callee, parameters, list, opens, whole, read, shown⟩ := snippet_readable_iff opened
  have known : Opens "@as(comptime T: type, value: T) T".toList "@as".toList
      "comptime T: type, value: T) T".toList := ⟨by decide, rfl⟩
  have same := (Call.mk.inj (Except.ok.inj (opens.parse_eq.symm.trans known.parse_eq))).2
  have listed : arguments parameters = ["comptime T: type".toList, "value: T".toList] := by
    rw [same, arguments, ← (cutInto_pieces _).countedPieces_eq]
    decide
  refine ⟨opened, callee, parameters, list, opens, whole, listed, read.2 ?_, shown.2 ?_⟩
  all_goals
    rw [listed]
    decide

/-- The braces of a default value end a placeholder early, and what is left of it is neither a
further placeholder nor the end of the list. -/
theorem snippet_unreadable_emptyDefault :
    snippet "@f(x: T = .\x7b\x7d) void".toList = .ok "@f($\x7b1:x: T = .\x7b\x7d\x7d)".toList ∧
      arguments "x: T = .\x7b\x7d) void".toList = ["x: T = .\x7b\x7d".toList] ∧
      readPlaceholder "$\x7b1:x: T = .\x7b\x7d\x7d)".toList =
        some (⟨1, "x: T = .\x7b".toList⟩, "\x7d)".toList) ∧
      readSnippetList "$\x7b1:x: T = .\x7b\x7d\x7d)".toList = none := by
  have first : readPlaceholder "$\x7b1:x: T = .\x7b\x7d\x7d)".toList =
      some (⟨1, "x: T = .\x7b".toList⟩, "\x7d)".toList) := by decide
  have listed : arguments "x: T = .\x7b\x7d) void".toList = ["x: T = .\x7b\x7d".toList] := by
    rw [arguments, ← (cutInto_pieces _).countedPieces_eq]
    decide
  have opens : Opens "@f(x: T = .\x7b\x7d) void".toList "@f".toList
      "x: T = .\x7b\x7d) void".toList := ⟨by decide, rfl⟩
  refine ⟨?_, listed, first, ?_⟩
  · rw [opens.snippet_eq, listed]
    rfl
  · rw [readSnippetList, if_neg (by decide), readPlaceholders_eq, first]
    decide

end EditorData.Signature
