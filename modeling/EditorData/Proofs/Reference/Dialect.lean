import EditorData.Proofs.Directive.Spelling
import EditorData.Proofs.Text.Lines
import EditorData.Reference.Extraction

/-!
# The dialect of the builtin section

The builtin section as its authors write it: an introduction, and entries of a title, a
signature and a body of running text and directives. Printing a section gives the document,
and `Entry.decoded` is the record that an entry stands for. The words and texts of a section
carry their well-formedness, so that every value of these types can be printed.
-/

namespace EditorData.Reference

open EditorData.Directive

/-- A title, a tag or an argument of a directive. -/
abbrev Word :=
  {text : Text // text ≠ [] ∧ '|' ∉ text ∧ '#' ∉ text}

/-- Running text, which may be empty. -/
abbrev Passage :=
  {text : Text // Prose text}

/-- Running text that is not empty. -/
abbrev Fragment :=
  {text : Text // text ≠ [] ∧ Prose text}

/-- The arguments of a directive, each behind a bar. -/
def printArguments (arguments : List Word) : Text :=
  arguments.flatMap fun argument => '|' :: argument.val

/-- A directive with its arguments. -/
def printDirective (tag : Text) (arguments : List Word) : Text :=
  '{' :: '#' :: tag ++ printArguments arguments ++ ['#', '}']

/-- The tags that mean something in the section. -/
def handledTags : List Text :=
  ["header_open".toList, "header_close".toList, "syntax".toList, "syntax_block".toList,
    "link".toList, "code_begin".toList]

/-- A piece of an example in front of its code, with a directive that does not end the
example. -/
structure Preparation where
  text : Fragment
  tag : Word
  going : tag.val ≠ "code_end".toList
  arguments : List Word

/-- The piece with its directive. -/
def Preparation.print (preparation : Preparation) : Text :=
  preparation.text.val ++ printDirective preparation.tag.val preparation.arguments

/-- A directive of a body, with the text that belongs to it. -/
inductive Element where
  /-- Inline code. -/
  | fragment (code : Fragment)
  /-- A block of code in the given language. -/
  | block (language : Word) (name : Option Word) (code : Fragment)
  | link (name : Word) (target : Option Word)
  /-- An example: its last piece is the code. -/
  | sample (kind : Word) (name : Option Word) (preparations : List Preparation)
      (code : Fragment)
  /-- A directive whose tag means nothing in the section. -/
  | other (tag : Word) (unhandled : tag.val ∉ handledTags) (arguments : List Word)

/-- The place in the online reference that a link with this target leads to. -/
def linkAnchor (target : Text) : Text :=
  (target.map fun c => if c = ' ' then '-' else c).dropWhile (· == '@')

/-- A link into the online reference of a version, whose root loses the slashes at its end. -/
def printLink (version root name target : Text) : Text :=
  "[".toList ++ name ++ "](".toList ++ root.rdropWhile (· == '/') ++ "/".toList ++ version ++
    "/#".toList ++ linkAnchor target ++ ")".toList

/-- Link directives are written as links into the online reference. -/
theorem Scope.link_eq_printLink (scope : Scope) (name target : Text) :
    scope.link name target = printLink scope.version scope.documentationRoot name target := by
  simp [Scope.link, printLink, linkAnchor, Text.trimEnd_eq_rdropWhile]

namespace Element

/-- The element as the document has it. -/
def print : Element -> Text
  | .fragment code =>
      printDirective "syntax".toList [] ++ code.val ++ printDirective "endsyntax".toList []
  | .block language name code =>
      printDirective "syntax_block".toList (language :: name.toList) ++ code.val ++
        printDirective "end_syntax_block".toList []
  | .link name target => printDirective "link".toList (name :: target.toList)
  | .sample kind name preparations code =>
      printDirective "code_begin".toList (kind :: name.toList) ++
        preparations.flatMap Preparation.print ++ code.val ++
        printDirective "code_end".toList []
  | .other tag _ arguments => printDirective tag.val arguments

/-- What the element adds to the body of its entry. -/
def fragments (scope : Scope) : Element -> List Text
  | .fragment code => [Markdown.code code.val Markdown.codeLanguage]
  | .block language _ code => [Markdown.code code.val language.val]
  | .link name target =>
      [printLink scope.version scope.documentationRoot name.val (target.getD name).val]
  | .sample _ _ _ code => [Markdown.code code.val Markdown.codeLanguage]
  | .other .. => []

end Element

/-- A piece of an introduction or of a body. -/
inductive Piece where
  | text (content : Passage)
  | directive (element : Element)

namespace Piece

/-- The piece as the document has it. -/
def print : Piece -> Text
  | .text content => content.val
  | .directive element => element.print

/-- What the piece adds to the markup of its entry. -/
def html (scope : Scope) : Piece -> Text
  | .text content => content.val
  | .directive element => (element.fragments scope).flatten

end Piece

/-- A stretch of running text as a fragment of a body, which it is if it has characters. -/
def fragmentOf (text : Text) : List Text :=
  if text = [] then [] else [text]

/-- The fragments of a body behind a stretch of running text. Texts with nothing between
them are one stretch. -/
def bodyFragments (scope : Scope) : Text -> List Piece -> List Text
  | pending, [] => fragmentOf pending
  | pending, .text content :: rest => bodyFragments scope (pending ++ content.val) rest
  | pending, .directive element :: rest =>
      fragmentOf pending ++ element.fragments scope ++ bodyFragments scope [] rest

/-- An entry of the section, with the running text behind its header and behind its end. -/
structure Entry where
  title : Word
  arguments : List Word
  lead : Passage
  signature : Fragment
  body : List Piece
  trail : Passage

namespace Entry

/-- The entry as the document has it. -/
def print (entry : Entry) : Text :=
  printDirective "header_open".toList (entry.title :: entry.arguments) ++ entry.lead.val ++
    (Element.fragment entry.signature).print ++ entry.body.flatMap Piece.print ++
    printDirective "header_close".toList [] ++ entry.trail.val

/-- The record that the entry stands for. -/
def decoded (scope : Scope) (entry : Entry) : RawBuiltin :=
  ⟨entry.title.val, entry.signature.val, bodyFragments scope [] entry.body⟩

end Entry

/-- The builtin section under its title. -/
structure Chapter where
  title : Word
  arguments : List Word
  introduction : List Piece
  entries : List Entry

/-- The section as the document has it. -/
def Chapter.print (chapter : Chapter) : Text :=
  printDirective "header_open".toList (chapter.title :: chapter.arguments) ++
    chapter.introduction.flatMap Piece.print ++ chapter.entries.flatMap Entry.print ++
    printDirective "header_close".toList []

/-- The markup of a body is that of its pieces one behind the other. -/
theorem flatten_bodyFragments (scope : Scope) (pending : Text) (pieces : List Piece) :
    (bodyFragments scope pending pieces).flatten =
      pending ++ pieces.flatMap (Piece.html scope) := by
  have flatten_fragmentOf : ∀ text : Text, (fragmentOf text).flatten = text := by
    intro text
    unfold fragmentOf
    split <;> simp_all
  induction pieces generalizing pending with
  | nil => simp [bodyFragments, flatten_fragmentOf]
  | cons piece rest inductionHypothesis =>
      cases piece with
      | text content => simp [bodyFragments, inductionHypothesis, Piece.html]
      | directive element =>
          simp [bodyFragments, inductionHypothesis, Piece.html, flatten_fragmentOf]

end EditorData.Reference
