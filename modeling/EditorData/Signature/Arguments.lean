import EditorData.Text.Blank

/-!
# Arguments of a signature

A parameter list is cut at its top-level commas and ends at the first closing parenthesis
that belongs to it. Groups in parentheses are kept whole; one that is never closed reaches
to the end of the text. The pieces are trimmed of white space and empty ones are dropped.
-/

namespace EditorData.Signature

/-- The rest of a group of which `open` parentheses are still to be closed, with its last
parenthesis, and what follows it. -/
def takeGroup : (opened : Nat) -> Text -> Text × Text
  | _, [] => ([], [])
  | 0, text => ([], text)
  | opened + 1, c :: rest =>
      let opened' := if c = '(' then opened + 2 else if c = ')' then opened else opened + 1
      (takeGroup opened' rest).map (c :: ·) id

/-- The group and what follows it make up the text. -/
theorem takeGroup_append (opened : Nat) (text : Text) :
    (takeGroup opened text).1 ++ (takeGroup opened text).2 = text := by
  fun_induction takeGroup opened text <;> simp_all

/-- What follows a group is no longer than the text. -/
theorem length_takeGroup (opened : Nat) (text : Text) :
    (takeGroup opened text).2.length ≤ text.length := by
  have whole := congrArg List.length (takeGroup_append opened text)
  simp only [List.length_append] at whole
  omega

/-- The pieces of a parameter list between its top-level commas, the first one begun with
the characters read so far in reverse. -/
def piecesFrom (begun : Text) (text : Text) : List Text :=
  match text with
  | [] => [begun.reverse]
  | '(' :: rest =>
      piecesFrom ((takeGroup 1 rest).1.reverse ++ '(' :: begun) (takeGroup 1 rest).2
  | ')' :: _ => [begun.reverse]
  | ',' :: rest => begun.reverse :: piecesFrom [] rest
  | c :: rest => piecesFrom (c :: begun) rest
termination_by text.length
decreasing_by
  · have shorter := length_takeGroup 1 rest
    simp
    omega
  all_goals simp

/-- The arguments of the parameter list behind the opening parenthesis of a signature. -/
def arguments (text : Text) : List Text :=
  ((piecesFrom [] text).map Text.stripped).filter fun argument => !argument.isEmpty

end EditorData.Signature
