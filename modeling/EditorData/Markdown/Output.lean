import EditorData.Text.Basic

/-!
# Markdown under construction

What has been written is kept as fragments, the last one first, none of them empty. Since
a fragment has at least one character, a suffix of `n` characters lies within the last `n`
fragments, so the question whether the output ends with it needs only those.
-/

namespace EditorData.Markdown

/-- The fragments written so far, the last one first. -/
structure Output where
  fragments : List Text
deriving DecidableEq, Repr

namespace Output

/-- Nothing written. -/
def empty : Output :=
  ⟨[]⟩

/-- Everything written, in order. -/
def text (output : Output) : Text :=
  output.fragments.reverse.flatten

/-- Write a fragment; an empty one leaves no trace. -/
def write (output : Output) (fragment : Text) : Output :=
  if fragment = [] then output else ⟨fragment :: output.fragments⟩

/-- Whether the last fragments, as many as the suffix has characters, end with it. -/
def endsWith (output : Output) (suffix : Text) : Bool :=
  Text.endsWith suffix (output.fragments.take suffix.length).reverse.flatten

/-- End the line in progress, if there is one. -/
def ensureNewline (output : Output) : Output :=
  if output.fragments ≠ [] ∧ output.endsWith ['\n'] = false then output.write ['\n'] else output

/-- Leave a blank line behind what has been written, if anything has. -/
def ensureBlankLine (output : Output) : Output :=
  if output.fragments ≠ [] ∧ output.endsWith ['\n', '\n'] = false then
    output.ensureNewline.write ['\n']
  else output

/-- Writing appends to the text. -/
@[simp] theorem text_write (output : Output) (fragment : Text) :
    (output.write fragment).text = output.text ++ fragment := by
  unfold write
  split <;> simp_all [text]

/-- Writing keeps every fragment non-empty. -/
theorem write_nonempty {output : Output} (nonempty : ∀ fragment ∈ output.fragments, fragment ≠ [])
    (fragment : Text) : ∀ other ∈ (output.write fragment).fragments, other ≠ [] := by
  unfold write
  split
  · exact nonempty
  · intro other member
    rcases List.mem_cons.1 member with rfl | earlier
    · assumption
    · exact nonempty other earlier

end Output

end EditorData.Markdown
