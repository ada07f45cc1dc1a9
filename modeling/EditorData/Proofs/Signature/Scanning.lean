import EditorData.Proofs.Markup.Searching
import EditorData.Proofs.Signature.Joining
import EditorData.Reference.Builtin

/-!
# Snippets and arguments

A signature is cut once, and its snippet is made of the arguments that the cut gives. A program that
does not cut it makes the snippet where the signature stands: it goes on from index to index behind
the first parenthesis, over groups at once (`groupEnd`), and takes the arguments out of the whole
signature (`argumentsFrom`), while the arguments themselves are split off the text behind the
parenthesis. What stands in front of a list does not matter to such a scan (`argumentsFrom_append`),
so both ways give the same snippets and the same arguments, one placeholder for each argument.
-/

namespace EditorData.Signature

/-- The index behind the parenthesis that closes a group, with the parentheses that are open at an
index, or the end of the signature if nothing closes it. -/
def groupEnd (signature : Text) (opened : Int) (index : Nat) : Nat :=
  if inside : index < signature.length then
    if signature[index] = '(' then groupEnd signature (opened + 1) (index + 1)
    else if signature[index] = ')' then
      if opened - 1 = 0 then index + 1 else groupEnd signature (opened - 1) (index + 1)
    else groupEnd signature opened (index + 1)
  else signature.length
termination_by signature.length - index

/-- A group has a character at least. -/
theorem min_le_groupEnd (signature : Text) (opened : Int) (index : Nat) :
    min (index + 1) signature.length ≤ groupEnd signature opened index := by
  fun_induction groupEnd signature opened index <;> omega

/-- The arguments of a list in a signature, from an index on. The argument at the index begins in
front of it. -/
def argumentsFrom (signature : Text) (begins index : Nat) : List Text :=
  if inside : index < signature.length then
    match signature[index] with
    | '(' => argumentsFrom signature begins (groupEnd signature 0 index)
    | ')' => argumentOf ((signature.take index).drop begins)
    | ',' =>
        argumentOf ((signature.take index).drop begins) ++
          argumentsFrom signature (index + 1) (index + 1)
    | _ => argumentsFrom signature begins (index + 1)
  else argumentOf (signature.drop begins)
termination_by signature.length - index
decreasing_by
  · have further := min_le_groupEnd signature 0 index
    omega
  all_goals omega

/-- The snippet of a signature, made without cutting the signature. -/
def snippetInPlace (signature : Text) : Except Malformed Text :=
  match signature.idxOf? '(' with
  | none => .error ⟨signature⟩
  | some index =>
      let listed := argumentsFrom signature (index + 1) (index + 1)
      .ok (signature.take (index + 1) ++ Text.joined ", ".toList (placeholders 1 listed) ++ [')'])

section InPlace

/-- A group of no parentheses is empty. -/
theorem takeGroup_zero (text : Text) : takeGroup 0 text = ([], text) := by
  cases text <;> rfl

/-- A group in place ends behind the group that is taken off what stands there. -/
theorem groupEnd_append (front text : Text) (opened : Nat) :
    groupEnd (front ++ text) (opened + 1) front.length =
      front.length + (takeGroup (opened + 1) text).1.length := by
  induction text generalizing front opened with
  | nil =>
      rw [groupEnd, dif_neg (by simp), takeGroup]
      simp
  | cons c text inductionHypothesis =>
      have inside : front.length < (front ++ c :: text).length := by simp
      have here : (front ++ c :: text)[front.length] = c := by simp
      have behind : ∀ opened : Nat,
          groupEnd (front ++ c :: text) (opened + 1) (front.length + 1) =
            front.length + ((takeGroup (opened + 1) text).1.length + 1) := by
        intro opened
        have further := inductionHypothesis (front ++ [c]) opened
        rw [← List.append_cons, List.length_append, List.length_singleton] at further
        rw [further]
        omega
      rw [groupEnd, dif_pos inside, here, takeGroup, Prod.map_fst, List.length_cons]
      by_cases opening : c = '('
      · rw [if_pos opening, if_pos opening]
        exact behind (opened + 1)
      rw [if_neg opening, if_neg opening]
      by_cases closing : c = ')'
      · rw [if_pos closing, if_pos closing, Int.add_sub_cancel]
        cases opened with
        | zero => rw [if_pos Int.natCast_zero, takeGroup_zero]; rfl
        | succ opened => exact (if_neg (by omega)).trans (behind opened)
      · rw [if_neg closing, if_neg closing]
        exact behind opened

/-- A group in a signature ends where it does in the text that begins with it. -/
theorem groupEnd_opening (lead rest : Text) :
    groupEnd (lead ++ '(' :: rest) 0 lead.length =
      (lead ++ '(' :: (takeGroup 1 rest).1).length := by
  have inside : lead.length < (lead ++ '(' :: rest).length := by simp
  have here : (lead ++ '(' :: rest)[lead.length] = '(' := by simp
  have behind := groupEnd_append (lead ++ ['(']) rest 0
  rw [← List.append_cons, List.length_append, List.length_singleton] at behind
  rw [groupEnd, dif_pos inside, here, if_pos rfl]
  refine behind.trans ?_
  rw [List.length_append, List.length_cons, Nat.add_assoc, Nat.add_comm 1]

/-- Scanning in place finds the arguments of the pieces, of which the first one has begun behind
what stands in front of the list. -/
theorem argumentsFrom_pieces (front begun text : Text) :
    argumentsFrom (front ++ begun.reverse ++ text) front.length (front ++ begun.reverse).length =
      (piecesFrom begun text).flatMap argumentOf := by
  have inside : ∀ (lead rest : Text) (c : Char), lead.length < (lead ++ c :: rest).length := by
    simp
  have here : ∀ (lead rest : Text) (c : Char), (lead ++ c :: rest)[lead.length] = c := by simp
  fun_induction piecesFrom begun text generalizing front with
  | case1 begun =>
      rw [argumentsFrom, dif_neg (by simp)]
      simp
  | case2 begun rest inductionHypothesis =>
      have further := inductionHypothesis front
      have lead : front ++ ((takeGroup 1 rest).1.reverse ++ '(' :: begun).reverse =
          front ++ begun.reverse ++ '(' :: (takeGroup 1 rest).1 := by simp
      have whole : front ++ begun.reverse ++ '(' :: (takeGroup 1 rest).1 ++ (takeGroup 1 rest).2 =
          front ++ begun.reverse ++ '(' :: rest := by
        simp [takeGroup_append]
      rw [lead, whole] at further
      rw [argumentsFrom, dif_pos (inside _ _ _)]
      simp only [here, groupEnd_opening]
      exact further
  | case3 begun tail =>
      rw [argumentsFrom, dif_pos (inside _ _ _)]
      simp only [here, List.take_left, List.drop_left, List.flatMap_singleton]
  | case4 begun rest inductionHypothesis =>
      have further := inductionHypothesis (front ++ begun.reverse ++ [','])
      rw [List.reverse_nil, List.append_nil, ← List.append_cons, List.length_append,
        List.length_singleton] at further
      rw [argumentsFrom, dif_pos (inside _ _ _)]
      simp only [here, List.take_left, List.drop_left, List.flatMap_cons]
      rw [further]
  | case5 begun c rest noOpening noClosing noComma inductionHypothesis =>
      have further := inductionHypothesis front
      rw [List.reverse_cons, ← List.append_assoc, ← List.append_cons, List.length_append,
        List.length_singleton] at further
      rw [argumentsFrom, dif_pos (inside _ _ _)]
      simp only [here]
      exact further

/-- What stands in front of a list in a signature does not matter to its arguments. -/
theorem argumentsFrom_append (front text : Text) :
    argumentsFrom (front ++ text) front.length front.length = arguments text := by
  have cut := cutInto_pieces text
  have scanned := argumentsFrom_pieces front [] text
  rwa [List.reverse_nil, List.append_nil, ← cut.arguments_eq] at scanned

end InPlace

/-- Placeholders of arguments, numbered from one on. -/
def numbered (list : List Text) : List Text :=
  list.mapIdx fun index argument => placeholder (index + 1) argument

/-- Placeholders have the numbers of their arguments, without gaps. -/
theorem placeholders_eq (number : Nat) (list : List Text) :
    placeholders number list = list.mapIdx fun index => placeholder (number + index) := by
  induction list generalizing number with
  | nil => rfl
  | cons argument rest inductionHypothesis =>
      rw [placeholders, inductionHypothesis, List.mapIdx_cons]
      simp only [Nat.add_zero, Nat.add_assoc, Nat.add_comm 1]

/-- The placeholders of a snippet. -/
theorem placeholders_one (list : List Text) : placeholders 1 list = numbered list := by
  rw [placeholders_eq, numbered]
  simp only [Nat.add_comm 1]

/-- A signature with a parenthesis, and its text in front of the first one and behind it. -/
structure Opens (signature callee parameters : Text) : Prop where
  bare : '(' ∉ callee
  whole : signature = callee ++ '(' :: parameters

/-- The snippet of a call, with one placeholder for each argument. -/
def callSnippet (callee : Text) (list : List Text) : Text :=
  callee ++ '(' :: Text.joined ", ".toList (numbered list) ++ [')']

section Snippets

variable {signature callee parameters : Text}

/-- A signature opens a list if it has a parenthesis. -/
theorem exists_opens (member : '(' ∈ signature) :
    ∃ callee parameters, Opens signature callee parameters := by
  obtain ⟨callee, parameters, whole, bare⟩ := List.eq_append_cons_of_mem member
  exact ⟨callee, parameters, bare, whole⟩

/-- A signature without parenthesis is not taken apart. -/
theorem parse_bare (bare : '(' ∉ signature) : parse signature = .error ⟨signature⟩ := by
  rw [parse, Markup.cut?_eq_none_iff.2 bare]

/-- A signature is taken apart at its first parenthesis. -/
theorem Opens.parse_eq (opens : Opens signature callee parameters) :
    parse signature = .ok ⟨callee, arguments parameters⟩ := by
  have cut := Markup.cut?_append_marker (@Markup.Avoids.of_not_mem '(' [] callee opens.bare)
    parameters
  rw [List.singleton_append, ← opens.whole] at cut
  rw [parse, cut]

/-- The snippet of a signature that opens a list. -/
theorem Opens.snippet_eq (opens : Opens signature callee parameters) :
    snippet signature = .ok (callSnippet callee (arguments parameters)) := by
  rw [snippet, opens.parse_eq]
  simp only [Except.map, Call.snippet, placeholders_one, callSnippet]

/-- Made in place, the snippet of a signature that opens a list is the same. -/
theorem Opens.snippetInPlace_eq (opens : Opens signature callee parameters) :
    snippetInPlace signature = .ok (callSnippet callee (arguments parameters)) := by
  have index : signature.idxOf? '(' = some callee.length := by
    rw [opens.whole]
    refine List.idxOf?_eq_some_iff.2 ⟨by simp, by simp, fun earlier before same => ?_⟩
    rw [List.getElem_append_left before] at same
    exact opens.bare (same ▸ List.getElem_mem before)
  have listed := argumentsFrom_append (callee ++ ['(']) parameters
  rw [← List.append_cons, ← opens.whole, List.length_append, List.length_singleton] at listed
  have front : signature.take (callee.length + 1) = callee ++ ['('] := by
    simp [opens.whole, List.take_length_add_append]
  simp only [snippetInPlace, index, listed, front, placeholders_one, callSnippet]
  simp

/-- With or without cutting the signature, the snippet is the same. -/
theorem snippetInPlace_eq (signature : Text) : snippetInPlace signature = snippet signature := by
  by_cases member : '(' ∈ signature
  · obtain ⟨callee, parameters, opens⟩ := exists_opens member
    rw [opens.snippetInPlace_eq, opens.snippet_eq]
  · have index : signature.idxOf? '(' = none := List.idxOf?_eq_none_iff.2 member
    rw [snippetInPlace, index, snippet, parse_bare member]
    rfl

/-- A snippet is missing exactly if there is no parenthesis. -/
theorem snippet_eq_error_iff {fault : Malformed} :
    snippet signature = .error fault ↔ '(' ∉ signature ∧ fault = ⟨signature⟩ := by
  by_cases member : '(' ∈ signature
  · obtain ⟨callee, parameters, opens⟩ := exists_opens member
    simp [opens.snippet_eq, member]
  · simp [snippet, parse_bare member, Except.map, member, eq_comm]

/-- A snippet is made of the arguments of the list that the signature opens. -/
theorem snippet_eq_ok_iff {text : Text} :
    snippet signature = .ok text ↔ ∃ callee parameters, Opens signature callee parameters ∧
      text = callSnippet callee (arguments parameters) := by
  constructor
  · intro made
    by_cases member : '(' ∈ signature
    · obtain ⟨callee, parameters, opens⟩ := exists_opens member
      rw [opens.snippet_eq] at made
      exact ⟨callee, parameters, opens, (Except.ok.inj made).symm⟩
    · rw [snippet_eq_error_iff.2 ⟨member, rfl⟩] at made
      cases made
  · rintro ⟨callee, parameters, opens, rfl⟩
    exact opens.snippet_eq

open Reference (RawBuiltin Builtin finish)

/-- A finished builtin has the snippet and the arguments of its signature. -/
theorem parse_of_finish {raw : RawBuiltin} {builtin : Builtin}
    (finished : finish raw = .ok builtin) :
    ∃ call, parse builtin.signature = .ok call ∧ builtin.snippet = call.snippet ∧
      builtin.arguments = call.arguments := by
  rw [finish] at finished
  split at finished
  · cases finished
  · split at finished
    · cases finished
    · next call parsed =>
        obtain rfl := Except.ok.inj finished
        exact ⟨call, parsed, rfl, rfl⟩

/-- A signature has a snippet unless it has no parenthesis. The snippet is what stands up to the
first parenthesis, one placeholder for each argument of the text behind it, numbered from one on
without gaps, and a closing parenthesis. It makes no difference whether the arguments are taken from
the whole signature or from the text behind the parenthesis, so the snippet and the arguments of a
finished builtin are about the same parameters. -/
theorem snippet_lists_arguments :
    (∀ signature fault,
      snippet signature = .error fault ↔ '(' ∉ signature ∧ fault = ⟨signature⟩) ∧
    (∀ signature text,
      snippet signature = .ok text ↔ ∃ callee parameters, Opens signature callee parameters ∧
        text = callSnippet callee (arguments parameters)) ∧
    (∀ signature, snippetInPlace signature = snippet signature) ∧
    ∀ raw builtin, finish raw = .ok builtin →
      ∃ callee parameters, Opens builtin.signature callee parameters ∧
        builtin.arguments = arguments parameters ∧
        snippetInPlace builtin.signature = .ok builtin.snippet ∧
        builtin.snippet = callSnippet callee builtin.arguments := by
  refine ⟨fun _ _ => snippet_eq_error_iff, fun _ _ => snippet_eq_ok_iff, snippetInPlace_eq, ?_⟩
  intro raw builtin finished
  obtain ⟨call, parsed, made, listed⟩ := parse_of_finish finished
  have whole : snippet builtin.signature = .ok builtin.snippet := by
    rw [snippet, parsed, made]
    rfl
  obtain ⟨callee, parameters, opens, text⟩ := snippet_eq_ok_iff.1 whole
  rw [opens.parse_eq] at parsed
  obtain rfl := Except.ok.inj parsed
  refine ⟨callee, parameters, opens, listed, (snippetInPlace_eq _).trans whole, ?_⟩
  rw [text, listed]

/-- A signature on two lines with a group and an empty argument, which has no placeholder. -/
theorem snippet_lists_arguments_group :
    ∃ builtin, finish ⟨"@f".toList, "@f(a: u8, , g(b, c)\n) T".toList, []⟩ = .ok builtin ∧
      builtin.snippet = "@f($\x7b1:a: u8\x7d, $\x7b2:g(b, c)\x7d)".toList ∧
      ∃ callee parameters, Opens builtin.signature callee parameters ∧
        builtin.arguments = arguments parameters ∧
        snippetInPlace builtin.signature = .ok builtin.snippet ∧
        builtin.snippet = callSnippet callee builtin.arguments := by
  have opens : Opens "@f(a: u8, , g(b, c)) T".toList "@f".toList "a: u8, , g(b, c)) T".toList :=
    ⟨by decide, rfl⟩
  have listed : arguments "a: u8, , g(b, c)) T".toList = ["a: u8".toList, "g(b, c)".toList] := by
    rw [arguments, ← (cutInto_pieces _).countedPieces_eq]
    decide
  have joined : Text.withoutLineFeeds "@f(a: u8, , g(b, c)\n) T".toList =
      "@f(a: u8, , g(b, c)) T".toList := by decide
  have rendered : Markdown.render Markdown.codeLanguage (Reference.bodyMarkup []) = .ok [] := by
    have read : Markup.read [] = .ok [] := by
      rw [Markup.read, Markup.readFrom]
      rfl
    exact congrArg (Except.map (Markdown.ofNodes Markdown.codeLanguage)) read
  have finished : finish ⟨"@f".toList, "@f(a: u8, , g(b, c)\n) T".toList, []⟩ =
      .ok ⟨"@f".toList, "@f(a: u8, , g(b, c)) T".toList,
        "@f($\x7b1:a: u8\x7d, $\x7b2:g(b, c)\x7d)".toList, [],
        ["a: u8".toList, "g(b, c)".toList]⟩ := by
    simp only [finish, RawBuiltin.html, List.flatten_nil, joined, rendered, opens.parse_eq, listed]
    rfl
  exact ⟨_, finished, rfl, snippet_lists_arguments.2.2.2 _ _ finished⟩

end Snippets

end EditorData.Signature
