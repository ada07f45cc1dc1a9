import EditorData.Markup.Reader

/-!
# Printing documentation markup

A forest of nodes as the text it is written as. Printing is undone by reading for forests
that are well-formed: their texts have no angle bracket, no two texts are neighbours, and no
element has more than two of the same name nested in one another, itself included
(`WellFormed`). What is read is the forest without its empty texts (`condense`).
-/

namespace EditorData.Markup

/-- The attributes of a link. -/
def linkAttributes (target : Text) : Text :=
  " href=\"".toList ++ target ++ ['"']

mutual

/-- The node as text. -/
def Node.print : Node -> Text
  | .text content => content
  | .block kind children => (Tag.block kind).enclose (printAll children)
  | .emphasis content => Tag.emphasis.enclose content
  | .link label target =>
      '<' :: Tag.link.name ++ linkAttributes target ++ '>' :: label ++ Tag.link.closing
  | .code content => Tag.code.enclose content

/-- Nodes one behind the other. -/
def printAll : List Node -> Text
  | [] => []
  | node :: rest => node.print ++ printAll rest

end

/-- Whether the first node is a text. -/
def startsWithText : List Node -> Bool
  | .text _ :: _ => true
  | _ => false

mutual

/-- The node can be told apart from the tags around it. -/
def Node.Plain : Node -> Prop
  | .text content | .emphasis content | .code content => '<' ∉ content
  | .block _ children => PlainAll children
  | .link label target => '<' ∉ label ∧ target ≠ [] ∧ '>' ∉ target

/-- All nodes are plain, and no two texts are neighbours. -/
def PlainAll : List Node -> Prop
  | [] => True
  | node :: rest =>
      node.Plain ∧ PlainAll rest ∧ (startsWithText [node] = true -> startsWithText rest = false)

end

mutual

/-- How many blocks of a kind are nested in one another. -/
def Node.nesting (kind : Block) : Node -> Nat
  | .block other children => nestingAll kind children + if other = kind then 1 else 0
  | _ => 0

/-- The deepest nesting among the nodes. -/
def nestingAll (kind : Block) : List Node -> Nat
  | [] => 0
  | node :: rest => max (node.nesting kind) (nestingAll kind rest)

end

/-- A forest that can be read back from its text. -/
structure WellFormed (nodes : List Node) : Prop where
  plain : PlainAll nodes
  /-- No three elements of the same name are nested in one another. -/
  shallow : ∀ kind, nestingAll kind nodes ≤ 2

mutual

/-- The node without empty texts. -/
def Node.condense : Node -> List Node
  | .text content => textNodes content
  | .block kind children => [.block kind (condenseAll children)]
  | node => [node]

/-- The nodes without empty texts. -/
def condenseAll : List Node -> List Node
  | [] => []
  | node :: rest => node.condense ++ condenseAll rest

end

/-- The tag of an element, of which a text has none. -/
def Node.tag? : Node -> Option Tag
  | .text _ => none
  | .block kind _ => some (.block kind)
  | .emphasis _ => some .emphasis
  | .link .. => some .link
  | .code _ => some .code

/-- What an element has between its tags. -/
def Node.inner : Node -> Text
  | .text content | .emphasis content | .link content _ | .code content => content
  | .block _ children => printAll children

/-- What an element has in its opening tag behind its name. -/
def Node.attributes : Node -> Text
  | .link _ target => linkAttributes target
  | _ => []

/-- An element is printed as its opening tag, what lies between its tags, and its closing
tag. -/
theorem Node.print_of_tag? {node : Node} {tag : Tag} (element : node.tag? = some tag) :
    node.print =
      '<' :: (tag.name ++ (node.attributes ++ '>' :: (node.inner ++ tag.closing))) := by
  cases node with
  | text => cases element
  | _ =>
      cases element
      simp [Node.print, Node.attributes, Node.inner, Tag.enclose, Tag.opening]

/-- A node stands somewhere in a forest. -/
inductive Within : Node -> List Node -> Prop where
  | here {node : Node} {nodes : List Node} (member : node ∈ nodes) : Within node nodes
  | deeper {node : Node} {kind : Block} {children nodes : List Node}
      (member : .block kind children ∈ nodes) (inside : Within node children) :
      Within node nodes

end EditorData.Markup
