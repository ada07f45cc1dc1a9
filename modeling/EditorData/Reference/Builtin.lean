import EditorData.Markdown.Layout
import EditorData.Reference.Extraction
import EditorData.Signature.Snippet

/-!
# Finished builtins

A builtin as the editor sees it: its signature on one line, the snippet and the arguments
derived from it, and its documentation in markdown. The markup of the body is read before
the signature, so a builtin with faults in both is reported by its markup.
-/

namespace EditorData.Reference

/-- A builtin function as the editor sees it. -/
structure Builtin where
  name : Text
  signature : Text
  snippet : Text
  documentation : Text
  arguments : List Text
deriving DecidableEq, Repr

/-- Why a reference yields no builtins. -/
inductive Fault where
  | structure (fault : Unexpected)
  | markup (fault : Markup.Fault)
  | signature (fault : Signature.Malformed)
deriving DecidableEq, Repr

/-- The wording of a fault. -/
def Fault.message : Fault -> Text
  | .structure fault => fault.message
  | .markup fault => fault.message
  | .signature fault => fault.message

/-- The body of an entry without the closing tag that its signature block left over. -/
def bodyMarkup (html : Text) : Text :=
  (Text.after? "</pre>".toList html).getD html

/-- Markdown without line feeds at its ends and without spaces at the ends of its lines. -/
def tidy (markdown : Text) : Text :=
  Text.joined ['\n']
    ((Text.lines (Text.trim (· == '\n') markdown)).map (Text.trimEnd (· == ' ')))

/-- Finish one entry. -/
def finish (raw : RawBuiltin) : Except Fault Builtin :=
  let signature := Text.withoutLineFeeds raw.signature
  match Markdown.render Markdown.codeLanguage (bodyMarkup raw.html) with
  | .error fault => .error (.markup fault)
  | .ok markdown =>
      match Signature.parse signature with
      | .error fault => .error (.signature fault)
      | .ok call =>
          .ok {
            name := raw.name
            signature
            snippet := call.snippet
            documentation := tidy markdown
            arguments := call.arguments }

/-- Finish entries in order, up to the first one with a fault. -/
def finishAll : List RawBuiltin -> Except Fault (List Builtin)
  | [] => .ok []
  | raw :: rest =>
      match finish raw with
      | .error fault => .error fault
      | .ok builtin => (finishAll rest).map (builtin :: ·)

/-- The builtins of an extraction. -/
def Outcome.finished (outcome : Outcome) : Except Fault (List Builtin) :=
  match outcome.result with
  | .error fault => .error (.structure fault)
  | .ok records => finishAll records

/-- The builtins that a document describes. -/
def collect (version documentationRoot document : Text) : Except Fault (List Builtin) :=
  (extract ⟨version, documentationRoot, sectionAnchor⟩ document).finished

end EditorData.Reference
