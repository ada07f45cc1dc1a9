import EditorData.Markdown.Code
import EditorData.Markdown.Output
import EditorData.Markup.Reader
import EditorData.Text.Blank

/-!
# Markdown from documentation markup

Text is laid out in one of two ways. In block layout it keeps its own line breaks and ends
its line; in line layout, used inside paragraphs and list items, wrapped lines are folded
into one, with a single space behind each. A paragraph leaves a blank line between itself
and what came before, a list item is indented by the depth of its list.
-/

namespace EditorData.Markdown

open EditorData.Markup

/-- How the text of a block is laid out. -/
inductive Flow where
  | block
  | line
deriving DecidableEq, Repr

/-- Write a stretch of text; one of blanks alone leaves no trace. -/
def Output.writeText (output : Output) (flow : Flow) (content : Text) : Output :=
  match Text.trimmed content with
  | [] => output
  | trimmed =>
      match flow with
      | .block => (output.write trimmed).write ['\n']
      | .line =>
          (Text.lines trimmed).foldl
            (fun written line => written.write (Text.trimmed line ++ [' '])) output

/-- The mark of a list item at the given depth of lists. -/
def itemMark (depth : Nat) : Text :=
  List.replicate (1 + (depth - 1) * 2) ' '

/-- A link in markdown; the leading at signs of its target are dropped. -/
def linkText (label target : Text) : Text :=
  '[' :: label ++ "](".toList ++ target.dropWhile (· == '@') ++ [')']

mutual

/-- Write one node, with the language of its code fragments, at a depth of lists. -/
def layoutNode (language : Text) (flow : Flow) (depth : Nat) : Node -> Output -> Output
  | .text content, output => output.writeText flow content
  | .block .paragraph children, output =>
      (layout language .line depth children output.ensureBlankLine).ensureNewline
  | .block .preformatted children, output => layout language .block depth children output
  | .block .list children, output =>
      layout language .block (depth + 1) children output.ensureNewline
  | .block .item children, output =>
      (layout language .line depth children
        ((output.ensureNewline.write (itemMark depth)).write "- ".toList)).ensureNewline
  | .emphasis content, output => output.write ("**".toList ++ content ++ "** ".toList)
  | .link label target, output => output.write (linkText label target)
  | .code content, output => output.write (code content language)

/-- Write nodes one after the other. -/
def layout (language : Text) (flow : Flow) (depth : Nat) : List Node -> Output -> Output
  | [], output => output
  | node :: rest, output =>
      layout language flow depth rest (layoutNode language flow depth node output)

end

/-- The markdown of a document. -/
def ofNodes (language : Text) (nodes : List Node) : Text :=
  (layout language .block 0 nodes .empty).text

/-- The markdown of a text in documentation markup. -/
def render (language html : Text) : Except Fault Text :=
  (Markup.read html).map (ofNodes language)

end EditorData.Markdown
