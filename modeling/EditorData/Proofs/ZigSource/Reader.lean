import EditorData.Proofs.Text.Decoding
import EditorData.Proofs.ZigSource.Scanner

/-!
# Reading version data back

A reader of the file that holds the builtins of a version: the declarations at its head, and
then one initializer behind the other, each with its five fields in order. It looks at tokens
alone, so it cannot take the content of a literal or of a line for layout. What has been
written is read back in full (`read_renderVersionData`): no text in a builtin ends its literal
early, begins another field or another builtin, or is skipped.
-/

namespace EditorData.ZigSource

open EditorData.Reference

/-- What version data holds of a builtin. -/
structure Stored where
  name : List UInt8
  signature : List UInt8
  snippet : List UInt8
  documentation : Text
  arguments : List (List UInt8)
deriving DecidableEq, Repr

/-- What follows the expected tokens. -/
def expect : (expected tokens : List Token) -> Option (List Token)
  | [], tokens => some tokens
  | _ :: _, [] => none
  | next :: expected, token :: tokens => if token = next then expect expected tokens else none

/-- The tokens in front of the value of a field. -/
def fieldHead (name : Text) : List Token :=
  [.mark '.', .word name, .mark '=']

/-- A type of constant slices. -/
def sliceType (element : List Token) : List Token :=
  .mark '[' :: .mark ']' :: .word "const".toList :: element

/-- The type of texts. -/
def textType : List Token :=
  sliceType [.word "u8".toList]

/-- The declaration of a field. -/
def declared (name : Text) (type : List Token) : List Token :=
  .word name :: .mark ':' :: type ++ [.mark ',']

/-- The beginning of the type of the entries. -/
def typeHead : List Token :=
  [.word "const".toList, .word "Builtin".toList, .mark '=', .word "struct".toList, .mark '{']

/-- The end of the type of the entries, and the beginning of their list. -/
def listHead : List Token :=
  [.mark '}', .mark ';', .word "pub".toList, .word "const".toList, .word "builtins".toList,
    .mark '=', .mark '[', .word "_".toList, .mark ']', .word "Builtin".toList, .mark '{']

/-- The tokens at the head of version data. -/
def headTokens : List Token :=
  typeHead ++ declared "name".toList textType ++ declared "signature".toList textType ++
    declared "snippet".toList textType ++ declared "documentation".toList textType ++
    declared "arguments".toList (sliceType textType) ++ listHead

/-- The tokens at the foot of version data. -/
def footTokens : List Token :=
  [.mark '}', .mark ';']

/-- The bytes of a literal, and what follows it. -/
def readLiteral : List Token -> Option (List UInt8 × List Token)
  | .literal bytes :: rest => some (bytes, rest)
  | _ => none

/-- The lines in front, and what follows them. -/
def splitLines : List Token -> List Text × List Token
  | .line content :: rest => (splitLines rest).map (content :: ·) id
  | rest => ([], rest)

/-- The text of a multiline string, and what follows it. -/
def readMultiline (tokens : List Token) : Option (Text × List Token) :=
  match splitLines tokens with
  | ([], _) => none
  | (lines, rest) => some (Text.joined ['\n'] lines, rest)

/-- The literals of a list up to its closing brace, and what follows that. -/
def readList : List Token -> Option (List (List UInt8) × List Token)
  | .literal bytes :: .mark ',' :: rest => (readList rest).map (Prod.map (bytes :: ·) id)
  | .mark '}' :: rest => some ([], rest)
  | _ => none

/-- The builtin of an initializer, and what follows that. -/
def readBuiltin (tokens : List Token) : Option (Stored × List Token) := do
  let rest <- expect (.mark '.' :: .mark '{' :: fieldHead "name".toList) tokens
  let (name, rest) <- readLiteral rest
  let rest <- expect (.mark ',' :: fieldHead "signature".toList) rest
  let (signature, rest) <- readLiteral rest
  let rest <- expect (.mark ',' :: fieldHead "snippet".toList) rest
  let (snippet, rest) <- readLiteral rest
  let rest <- expect (.mark ',' :: fieldHead "documentation".toList) rest
  let (documentation, rest) <- readMultiline rest
  let rest <- expect (.mark ',' :: fieldHead "arguments".toList ++
    [.mark '&', .mark '.', .mark '{']) rest
  let (arguments, rest) <- readList rest
  let rest <- expect [.mark ',', .mark '}', .mark ','] rest
  return (⟨name, signature, snippet, documentation, arguments⟩, rest)

section Lengths

variable {tokens rest : List Token}

/-- Behind the expected tokens there are fewer by as many. -/
theorem length_of_expect {expected : List Token} (found : expect expected tokens = some rest) :
    expected.length + rest.length = tokens.length := by
  induction expected generalizing tokens with
  | nil =>
      obtain rfl := Option.some.inj found
      exact Nat.zero_add _
  | cons next expected inductionHypothesis =>
      cases tokens with
      | nil => cases found
      | cons token tokens =>
          rw [expect] at found
          split at found
          · have shorter := inductionHypothesis found
            simp only [List.length_cons]
            omega
          · cases found

/-- Behind a literal there are fewer tokens. -/
theorem length_of_readLiteral {bytes : List UInt8}
    (found : readLiteral tokens = some (bytes, rest)) : rest.length ≤ tokens.length := by
  unfold readLiteral at found
  split at found
  · cases found
    exact Nat.le_succ _
  · cases found

/-- Behind lines there are no more tokens. -/
theorem length_splitLines (tokens : List Token) :
    (splitLines tokens).2.length ≤ tokens.length := by
  fun_induction splitLines tokens with
  | case1 content rest inductionHypothesis => exact Nat.le_succ_of_le inductionHypothesis
  | case2 => exact Nat.le_refl _

/-- Behind a multiline string there are no more tokens. -/
theorem length_of_readMultiline {text : Text}
    (found : readMultiline tokens = some (text, rest)) : rest.length ≤ tokens.length := by
  have shorter := length_splitLines tokens
  unfold readMultiline at found
  split at found
  · cases found
  · next split =>
      cases found
      rwa [split] at shorter

/-- Behind a list there are no more tokens. -/
theorem length_of_readList {values : List (List UInt8)}
    (found : readList tokens = some (values, rest)) : rest.length ≤ tokens.length := by
  fun_induction readList tokens generalizing values with
  | case1 bytes others inductionHypothesis =>
      obtain ⟨⟨later, behind⟩, read, same⟩ := Option.map_eq_some_iff.1 found
      obtain ⟨-, rfl⟩ := Prod.mk.inj same
      have shorter := inductionHypothesis read
      simp only [List.length_cons]
      omega
  | case2 =>
      cases found
      exact Nat.le_succ _
  | case3 => cases found

/-- Behind a builtin there are fewer tokens. -/
theorem length_of_readBuiltin {stored : Stored}
    (found : readBuiltin tokens = some (stored, rest)) : rest.length < tokens.length := by
  simp only [readBuiltin, Option.bind_eq_bind, Option.bind_eq_some_iff, Prod.exists,
    Option.pure_def, Option.some.injEq, Prod.mk.injEq] at found
  obtain ⟨_, first, _, _, name, _, second, _, _, signature, _, third, _, _, snippet, _, fourth, _,
    _, documentation, _, fifth, _, _, arguments, _, last, -, rfl⟩ := found
  have := length_of_expect first
  have := length_of_readLiteral name
  have := length_of_expect second
  have := length_of_readLiteral signature
  have := length_of_expect third
  have := length_of_readLiteral snippet
  have := length_of_expect fourth
  have := length_of_readMultiline documentation
  have := length_of_expect fifth
  have := length_of_readList arguments
  have := length_of_expect last
  simp only [List.length_cons] at *
  omega

end Lengths

/-- The builtins up to the foot of the file, behind which nothing may follow. -/
def readBuiltins (tokens : List Token) : Option (List Stored) :=
  if tokens = footTokens then some []
  else
    match _read : readBuiltin tokens with
    | some (stored, rest) => (readBuiltins rest).map (stored :: ·)
    | none => none
termination_by tokens.length
decreasing_by exact length_of_readBuiltin _read

/-- The builtins of version data. -/
def readVersionData (source : Text) : Option (List Stored) := do
  let tokens <- scan source
  let entries <- expect headTokens tokens
  readBuiltins entries

/-- What version data holds of a builtin: the bytes of its texts, and the lines of its
documentation without the spaces at their ends. -/
def Stored.ofBuiltin (builtin : Builtin) : Stored :=
  ⟨Text.utf8 builtin.name, Text.utf8 builtin.signature, Text.utf8 builtin.snippet,
    Text.joined ['\n'] ((Text.lines builtin.documentation).map (Text.trimEnd (· == ' '))),
    builtin.arguments.map Text.utf8⟩

/-- The tokens of a field with a text. -/
def textField (name text : Text) : List Token :=
  fieldHead name ++ [.literal (Text.utf8 text), .mark ',']

/-- The tokens of the arguments of a builtin. -/
def listField (name : Text) (texts : List Text) : List Token :=
  fieldHead name ++ [.mark '&', .mark '.', .mark '{'] ++
    (texts.flatMap fun text => [.literal (Text.utf8 text), .mark ',']) ++ [.mark '}', .mark ',']

/-- The tokens of the documentation of a builtin. -/
def documentationField (name text : Text) : List Token :=
  fieldHead name ++ ((Text.lines text).map (Text.trimEnd (· == ' '))).map .line ++ [.mark ',']

/-- The tokens of the initializer of a builtin. -/
def builtinTokens (builtin : Builtin) : List Token :=
  [.mark '.', .mark '{'] ++ textField "name".toList builtin.name ++
    textField "signature".toList builtin.signature ++
    textField "snippet".toList builtin.snippet ++
    documentationField "documentation".toList builtin.documentation ++
    listField "arguments".toList builtin.arguments ++ [.mark '}', .mark ',']

section Reading

variable {rest : List Token}

/-- The expected tokens are taken from in front of the others. -/
theorem expect_append (expected rest : List Token) :
    expect expected (expected ++ rest) = some rest := by
  induction expected with
  | nil => rfl
  | cons next expected inductionHypothesis =>
      rw [List.cons_append, expect, if_pos rfl]
      exact inductionHypothesis

/-- Lines are split off in front of a mark. -/
theorem splitLines_append (lines : List Text) (c : Char) :
    splitLines (lines.map .line ++ .mark c :: rest) = (lines, .mark c :: rest) := by
  induction lines with
  | nil => rfl
  | cons content lines inductionHypothesis =>
      rw [List.map_cons, List.cons_append, splitLines, inductionHypothesis]
      rfl

/-- Lines, of which there is one at least, are read as one text. -/
theorem readMultiline_append {lines : List Text} (some : lines ≠ []) (c : Char) :
    readMultiline (lines.map .line ++ .mark c :: rest) =
      .some (Text.joined ['\n'] lines, .mark c :: rest) := by
  rw [readMultiline, splitLines_append]
  cases lines with
  | nil => exact absurd rfl some
  | cons content lines => rfl

/-- The literals of a list are read in order. -/
theorem readList_append (texts : List Text) :
    readList ((texts.flatMap fun text => [.literal (Text.utf8 text), .mark ',']) ++
      .mark '}' :: rest) = some (texts.map Text.utf8, rest) := by
  induction texts with
  | nil => rfl
  | cons text texts inductionHypothesis =>
      rw [List.flatMap_cons, List.append_assoc]
      exact congrArg (Option.map _) inductionHypothesis

/-- A builtin is read back from its tokens. -/
theorem readBuiltin_append (builtin : Builtin) :
    readBuiltin (builtinTokens builtin ++ rest) = some (.ofBuiltin builtin, rest) := by
  have present : (Text.lines builtin.documentation).map (Text.trimEnd (· == ' ')) ≠ [] := by
    simp [Text.lines, Text.parts_ne_nil]
  have documentation := fun rest => @readMultiline_append rest _ present ','
  have arguments := fun rest => @readList_append rest builtin.arguments
  simp only [builtinTokens, textField, documentationField, listField, readBuiltin,
    List.append_assoc, List.cons_append, List.nil_append, fieldHead, expect, if_true, readLiteral,
    Option.bind_eq_bind, Option.bind_some, documentation, arguments, Stored.ofBuiltin,
    Option.pure_def]

/-- An initializer is no foot of the file. -/
theorem builtinTokens_append_ne (builtin : Builtin) :
    builtinTokens builtin ++ rest ≠ footTokens := by
  intro same
  have first := (List.cons.inj same).1
  cases first

/-- Builtins are read back from their tokens. -/
theorem readBuiltins_append (builtins : List Builtin) :
    readBuiltins (builtins.flatMap builtinTokens ++ footTokens) =
      some (builtins.map Stored.ofBuiltin) := by
  induction builtins with
  | nil => rw [List.flatMap_nil, List.nil_append, readBuiltins, if_pos rfl, List.map_nil]
  | cons builtin builtins inductionHypothesis =>
      rw [List.flatMap_cons, List.append_assoc, readBuiltins,
        if_neg (builtinTokens_append_ne builtin)]
      split
      · next stored rest read =>
          rw [readBuiltin_append] at read
          obtain ⟨rfl, rfl⟩ := Prod.mk.inj (Option.some.inj read)
          rw [inductionHypothesis]
          rfl
      · next failed =>
          rw [readBuiltin_append] at failed
          cases failed

end Reading

section Spelling

/-- A comma is a mark. -/
theorem spells_comma : Spells [','] [.mark ','] := fun _ => rfl

/-- A line with a field that has a text stands for the tokens of the field. -/
theorem spells_textField {name lead : Text} (head : Spells lead (fieldHead name)) (text : Text) :
    Spells (line 8 (lead ++ literal text ++ [','])) (textField name text) := by
  have whole := (head.append (.literal text)).append spells_comma
  rw [List.append_assoc (fieldHead name)] at whole
  exact .inLine 8 whole

/-- The lines with the documentation of a builtin stand for the tokens of the field. -/
theorem spells_documentationField (text : Text) :
    Spells (line 8 ".documentation =".toList ++ multiline 8 text ++ line 8 [','])
      (documentationField "documentation".toList text) := by
  have head : Spells ".documentation =".toList (fieldHead "documentation".toList) := fun _ => rfl
  have lines : Spells (multiline 8 text) _ := .multiline 8 text
  exact ((Spells.inLine 8 head).append lines).append (.inLine 8 spells_comma)

/-- The lines with items of a list stand for the items. -/
theorem spells_items (texts : List Text) :
    Spells (texts.flatMap fun text => line 12 (literal text ++ [',']))
      (texts.flatMap fun text => [.literal (Text.utf8 text), .mark ',']) := by
  induction texts with
  | nil => exact .nil
  | cons text texts inductionHypothesis =>
      have item := (Spells.literal text).append spells_comma
      exact (Spells.inLine 12 item).append inductionHypothesis

/-- The lines with the arguments of a builtin stand for the tokens of the field, also when there
are none. -/
theorem spells_listField (texts : List Text) :
    Spells
      (if texts.isEmpty then line 8 ".arguments = &.\x7b\x7d,".toList
       else
        line 8 ".arguments = &.\x7b".toList ++
        (texts.flatMap fun text => line 12 (literal text ++ [','])) ++
        line 8 "\x7d,".toList)
      (listField "arguments".toList texts) := by
  cases texts with
  | nil =>
      have nothing : Spells ".arguments = &.\x7b\x7d,".toList (listField "arguments".toList []) :=
        fun _ => rfl
      exact .inLine 8 nothing
  | cons text texts =>
      have head : Spells ".arguments = &.\x7b".toList
          (fieldHead "arguments".toList ++ [.mark '&', .mark '.', .mark '{']) := fun _ => rfl
      have foot : Spells "\x7d,".toList [.mark '}', .mark ','] := fun _ => rfl
      exact ((Spells.inLine 8 head).append (spells_items (text :: texts))).append (.inLine 8 foot)

/-- The initializer of a builtin stands for its tokens. -/
theorem spells_renderBuiltin (builtin : Builtin) :
    Spells (renderBuiltin builtin) (builtinTokens builtin) := by
  have opening : Spells ".\x7b".toList [.mark '.', .mark '{'] := fun _ => rfl
  have closing : Spells "\x7d,".toList [.mark '}', .mark ','] := fun _ => rfl
  have name : Spells ".name = ".toList (fieldHead "name".toList) := fun _ => rfl
  have signature : Spells ".signature = ".toList (fieldHead "signature".toList) := fun _ => rfl
  have snippet : Spells ".snippet = ".toList (fieldHead "snippet".toList) := fun _ => rfl
  have texts := (((Spells.inLine 4 opening).append (spells_textField name builtin.name)).append
    (spells_textField signature builtin.signature)).append
    (spells_textField snippet builtin.snippet)
  have whole := ((texts.append (spells_documentationField builtin.documentation)).append
    (spells_listField builtin.arguments)).append (.inLine 4 closing)
  simpa only [renderBuiltin, builtinTokens, List.append_assoc] using whole

/-- The initializers of builtins stand for their tokens. -/
theorem spells_renderBuiltins (builtins : List Builtin) :
    Spells (builtins.flatMap renderBuiltin) (builtins.flatMap builtinTokens) := by
  induction builtins with
  | nil => exact .nil
  | cons builtin builtins inductionHypothesis =>
      exact (spells_renderBuiltin builtin).append inductionHypothesis

/-- The comment that names the version stands for nothing, as long as the version is one line. -/
theorem spells_command {version : Text} (oneLine : '\n' ∉ version) :
    Spells ("//! `zig build gen -- --generate-version-data ".toList ++ version ++
      "` (requires an internet connection)\n".toList) [] := by
  have inside : '\n' ∉ "! `zig build gen -- --generate-version-data ".toList ++ version ++
      "` (requires an internet connection)".toList := by
    intro member
    rcases List.mem_append.1 member with early | late
    · rcases List.mem_append.1 early with lead | within
      · simp at lead
      · exact oneLine within
    · simp at late
  have whole := Spells.comment inside
  simpa using whole

/-- The lines with the fields of the type of the entries stand for their declarations. -/
theorem spells_declarations :
    Spells ("const Builtin = struct \x7b\n".toList ++ "    name: []const u8,\n".toList ++
        "    signature: []const u8,\n".toList ++ "    snippet: []const u8,\n".toList ++
        "    documentation: []const u8,\n".toList ++
        "    arguments: []const []const u8,\n".toList)
      (typeHead ++ declared "name".toList textType ++ declared "signature".toList textType ++
        declared "snippet".toList textType ++ declared "documentation".toList textType ++
        declared "arguments".toList (sliceType textType)) := by
  have opening : Spells "const Builtin = struct \x7b\n".toList typeHead := fun _ => rfl
  have name : Spells "    name: []const u8,\n".toList (declared "name".toList textType) :=
    fun _ => rfl
  have signature : Spells "    signature: []const u8,\n".toList
      (declared "signature".toList textType) := fun _ => rfl
  have snippet : Spells "    snippet: []const u8,\n".toList
      (declared "snippet".toList textType) := fun _ => rfl
  have documentation : Spells "    documentation: []const u8,\n".toList
      (declared "documentation".toList textType) := fun _ => rfl
  have arguments : Spells "    arguments: []const []const u8,\n".toList
      (declared "arguments".toList (sliceType textType)) := fun _ => rfl
  exact ((((opening.append name).append signature).append snippet).append
    documentation).append arguments

/-- The head of the file stands for the declarations: whatever the version, as long as it is one
line, it is part of a comment. -/
theorem spells_versionDataHeader {version : Text} (oneLine : '\n' ∉ version) :
    Spells (versionDataHeader version) headTokens := by
  have first : Spells "//! DO NOT EDIT\n".toList [] := fun _ => rfl
  have second : Spells "//! If you want to update this file run:\n".toList [] := fun _ => rfl
  have last : Spells "//! GENERATED BY zls_gen\n".toList [] := fun _ => rfl
  have blank : Spells "\n".toList [] := fun _ => rfl
  have closing : Spells "\x7d;\n".toList [.mark '}', .mark ';'] := fun _ => rfl
  have list : Spells "pub const builtins = [_]Builtin\x7b\n".toList
      [.word "pub".toList, .word "const".toList, .word "builtins".toList, .mark '=', .mark '[',
        .word "_".toList, .mark ']', .word "Builtin".toList, .mark '{'] := fun _ => rfl
  have comments := (((first.append second).append (spells_command oneLine)).append last).append
    blank
  have whole := (((comments.append spells_declarations).append closing).append blank).append list
  unfold versionDataHeader
  simpa only [headTokens, listHead, List.append_assoc, List.nil_append, List.cons_append]
    using whole

/-- The foot of the file stands for the end of the list of builtins. -/
theorem spells_versionDataFooter : Spells versionDataFooter footTokens := fun _ => rfl

end Spelling

/-- Version data is read back in full, whatever stands in its builtins: one entry for each of
them, in order, with the bytes of its name, its signature and its snippet, its documentation
without the spaces at the ends of lines, and the bytes of its arguments, of which the texts can
be had back. -/
theorem read_renderVersionData (builtins : List Builtin) {version : Text}
    (oneLine : '\n' ∉ version) :
    readVersionData (renderVersionData builtins version) = some (builtins.map Stored.ofBuiltin) ∧
      ∀ builtin ∈ builtins,
        (Stored.ofBuiltin builtin).arguments.mapM Text.ofUtf8? = some builtin.arguments := by
  constructor
  · have whole := ((spells_versionDataHeader oneLine).append
      (spells_renderBuiltins builtins)).append spells_versionDataFooter
    have scanned : scan (renderVersionData builtins version) = some _ := whole.scan_eq
    rw [readVersionData, scanned, Option.bind_eq_bind, Option.bind_some, List.append_assoc,
      expect_append, Option.bind_some]
    exact readBuiltins_append builtins
  · intro builtin _
    show (builtin.arguments.map Text.utf8).mapM Text.ofUtf8? = some builtin.arguments
    induction builtin.arguments with
    | nil => rfl
    | cons argument arguments inductionHypothesis =>
        rw [List.map_cons, List.mapM_cons, Text.ofUtf8?_utf8, inductionHypothesis]
        rfl

/-- A name with a quote behind a backslash, a signature with a line feed and a documentation
with a line that ends a builtin are read back as they are. -/
theorem read_renderVersionData_disguised :
    '\n' ∉ "1".toList ∧
      readVersionData (renderVersionData
          [⟨"\\\"".toList, "(\n)".toList, [], "\x7d, \n//".toList, [[], "a".toList]⟩] "1".toList) =
        some [⟨[92, 34], [40, 10, 41], [], "\x7d,\n//".toList, [[], [97]]⟩] := by
  have oneLine : '\n' ∉ "1".toList := by decide
  exact ⟨oneLine, (read_renderVersionData _ oneLine).1⟩

end EditorData.ZigSource
