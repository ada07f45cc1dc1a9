import EditorData.Text.Quoted

/-!
# Documentation markup

The bodies of the reference are written in a small part of HTML: paragraphs, preformatted
text, lists and their items, emphasis, links and code. A document is a forest of nodes.
The content of emphasis, links and code is kept as raw text.
-/

namespace EditorData.Markup

/-- The elements whose content is markup again. -/
inductive Block where
  | paragraph
  | preformatted
  | list
  | item
deriving DecidableEq, Repr

/-- A piece of a document. -/
inductive Node where
  | text (content : Text)
  | block (kind : Block) (children : List Node)
  | emphasis (content : Text)
  | link (label target : Text)
  | code (content : Text)
deriving Repr

/-- A tag of the supported part of HTML. -/
inductive Tag where
  | block (kind : Block)
  | emphasis
  | link
  | code
deriving DecidableEq, Repr

namespace Tag

/-- The name of a tag inside its angle brackets. -/
def name : Tag -> Text
  | .block .preformatted => "pre".toList
  | .block .paragraph => "p".toList
  | .block .list => "ul".toList
  | .block .item => "li".toList
  | .emphasis => "em".toList
  | .link => "a".toList
  | .code => "code".toList

/-- Every supported tag. -/
def all : List Tag :=
  [.block .preformatted, .block .paragraph, .emphasis, .block .list, .block .item, .link, .code]

/-- The supported tag of a name. -/
def ofName? (name : Text) : Option Tag :=
  all.find? fun tag => tag.name = name

/-- A tag is found by its name. -/
@[simp] theorem ofName?_name (tag : Tag) : ofName? tag.name = some tag := by
  cases tag with
  | block kind => cases kind <;> decide
  | _ => decide

/-- The tag that opens an element without attributes. -/
def opening (tag : Tag) : Text :=
  '<' :: tag.name ++ ['>']

/-- The tag that closes an element. -/
def closing (tag : Tag) : Text :=
  '<' :: '/' :: tag.name ++ ['>']

/-- An element without attributes around its raw content. -/
def enclose (tag : Tag) (content : Text) : Text :=
  tag.opening ++ content ++ tag.closing

end Tag

/-- Why a text is no document. Offsets count from the start of the innermost element's
content in which the fault lies. -/
inductive Fault where
  /-- A tag outside the supported set. -/
  | unsupportedTag (name : Text) (offset : Nat)
  /-- A tag without its closing angle bracket. -/
  | unclosedTag (tag : Tag) (offset : Nat)
  /-- An element without closing tag, by the offset of its content. -/
  | missingEnd (tag : Tag) (contentStart : Nat)
  /-- An element nested in one of the same name, without a closing tag of its own. -/
  | missingNestedEnd (tag : Tag) (offset : Nat)
  /-- A link whose attributes are no target. -/
  | missingTarget (attributes : Text)
deriving DecidableEq, Repr

/-- The wording of a fault. -/
def Fault.message : Fault -> Text
  | .unsupportedTag name offset =>
      "unsupported tag <".toList ++ name ++ "> at offset ".toList ++ Text.ofNat offset
  | .unclosedTag tag offset =>
      '<' :: tag.name ++ " at offset ".toList ++ Text.ofNat offset ++ " is missing '>'".toList
  | .missingEnd tag contentStart =>
      "missing ".toList ++ tag.closing ++ " for tag opened before offset ".toList ++
        Text.ofNat contentStart
  | .missingNestedEnd tag offset =>
      "missing ".toList ++ tag.closing ++ " for nested tag at offset ".toList ++ Text.ofNat offset
  | .missingTarget attributes =>
      "<a> tag without href attribute: ".toList ++ Text.quoted attributes

end EditorData.Markup
