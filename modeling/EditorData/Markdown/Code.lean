import EditorData.Text.Basic

/-!
# Code in markdown

A fragment of one line is a code span; a fragment of several lines is a fenced block with a
language tag, without its empty lines.
-/

namespace EditorData.Markdown

/-- The language of code fragments. -/
def codeLanguage : Text :=
  "zig".toList

/-- The code without spaces and line feeds at its ends. -/
def trimmedCode (content : Text) : Text :=
  Text.trim (fun c => c == ' ' || c == '\n') content

/-- The lines of the code that have characters. -/
def codeLines (content : Text) : List Text :=
  (Text.lines content).filter fun line => !line.isEmpty

/-- The code as a fenced block. -/
def fence (language : Text) (body : List Text) : Text :=
  "\n```".toList ++ language ++ body.flatMap ('\n' :: ·) ++ "\n```".toList

/-- The code as markdown: a span if its trimmed text is one line, otherwise a fence. -/
def code (content language : Text) : Text :=
  let trimmed := trimmedCode content
  if trimmed.contains '\n' then fence language (codeLines trimmed)
  else '\x60' :: trimmed ++ ['\x60']

end EditorData.Markdown
