import EditorData.Signature.Arguments

/-!
# Nesting of parentheses

The depth of a text is what it opens less what it closes. A piece of a parameter list has no comma
outside of its parentheses and closes none that it has not opened (`Enclosed`); in front of a comma
or of the end of the list it closes all that it has opened, too (`Balanced`). `CutInto` says which
pieces a text has, without saying how they are found. The splitter finds them
(`cutInto_piecesFrom`): it takes a group at once, and either the group is closed or the text ends in
it.
-/

namespace EditorData.Signature

/-- The parentheses that a text opens less those that it closes. -/
def depth (text : Text) : Int :=
  text.count '(' - text.count ')'

@[simp] theorem depth_nil : depth [] = 0 := rfl

@[simp] theorem depth_append (left right : Text) :
    depth (left ++ right) = depth left + depth right := by
  simp only [depth, List.count_append]
  omega

@[simp] theorem depth_opening (text : Text) : depth ('(' :: text) = depth text + 1 := by
  simp [depth]
  omega

@[simp] theorem depth_closing (text : Text) : depth (')' :: text) = depth text - 1 := by
  simp [depth]
  omega

/-- Other characters are on the level of what stands around them. -/
theorem depth_cons {c : Char} (noOpening : c ≠ '(') (noClosing : c ≠ ')') (text : Text) :
    depth (c :: text) = depth text := by
  simp [depth, noOpening, noClosing]

@[simp] theorem depth_comma (text : Text) : depth (',' :: text) = depth text :=
  depth_cons (by decide) (by decide) text

/-- No front of the text closes more than it opens. -/
def Nested (text : Text) : Prop :=
  ∀ front, front <+: text → 0 ≤ depth front

instance (text : Text) : Decidable (Nested text) :=
  decidable_of_iff (∀ position < text.length + 1, 0 ≤ depth (text.take position)) <| by
    refine ⟨fun levels front part => ?_, fun nested position _ => nested _ (List.take_prefix _ _)⟩
    rw [List.prefix_iff_eq_take.1 part]
    exact levels front.length (Nat.lt_succ_of_le part.length_le)

/-- A text that closes no parenthesis that it has not opened, and has no comma outside of
parentheses. -/
structure Enclosed (text : Text) : Prop where
  nested : Nested text
  covered : ∀ front rest, text = front ++ ',' :: rest → depth front ≠ 0

/-- A text that also closes all parentheses that it has opened. -/
structure Balanced (text : Text) : Prop extends Enclosed text where
  closed : depth text = 0

section Pieces

variable {left middle right : Text} {c : Char}

/-- No text is balanced. -/
theorem Balanced.nil : Balanced [] where
  nested front within := by
    obtain rfl := List.prefix_nil.1 within
    exact Int.le_refl 0
  covered front rest whole := by simp at whole
  closed := rfl

/-- What stands behind a balanced text is on the same level. -/
theorem Enclosed.append (front : Balanced left) (behind : Enclosed right) :
    Enclosed (left ++ right) where
  nested text within := by
    obtain ⟨rest, whole⟩ := within
    rcases List.append_eq_append_iff.1 whole with ⟨inner, early, -⟩ | ⟨later, rfl, tail⟩
    · exact front.nested text ⟨inner, early.symm⟩
    · have level := behind.nested later ⟨rest, tail.symm⟩
      rw [depth_append, front.closed]
      omega
  covered text rest whole := by
    rcases List.append_eq_append_iff.1 whole.symm with ⟨inner, early, tail⟩ | ⟨later, rfl, tail⟩
    · cases inner with
      | nil =>
          have none := behind.covered [] rest (by simpa using tail.symm)
          exact absurd rfl none
      | cons d inner =>
          obtain ⟨rfl, -⟩ := List.cons.inj tail
          exact front.covered text inner early
    · have level := behind.covered later rest tail
      rw [depth_append, front.closed]
      omega

/-- Balanced texts one behind the other are balanced. -/
theorem Balanced.append (front : Balanced left) (behind : Balanced right) :
    Balanced (left ++ right) where
  toEnclosed := .append front behind.toEnclosed
  closed := by rw [depth_append, front.closed, behind.closed, Int.add_zero]

/-- A character that is no comma and no parenthesis is balanced. -/
theorem Balanced.singleton (noComma : c ≠ ',') (noOpening : c ≠ '(') (noClosing : c ≠ ')') :
    Balanced [c] where
  nested front within := by
    rcases List.prefix_cons_iff.1 within with rfl | ⟨front, rfl, inner⟩
    · exact Int.le_refl 0
    · obtain rfl := List.prefix_nil.1 inner
      rw [depth_cons noOpening noClosing]
      exact Int.le_refl 0
  covered front rest whole := by
    have within : ',' ∈ [c] := whole ▸ by simp
    exact absurd (List.mem_singleton.1 within).symm noComma
  closed := depth_cons noOpening noClosing []

/-- A stretch of a text that begins on the level of the text. -/
theorem Enclosed.stretch (whole : Enclosed (left ++ middle ++ right)) (level : depth left = 0) :
    Enclosed middle where
  nested front within := by
    have further : left ++ front <+: left ++ middle ++ right :=
      ((List.prefix_append_right_inj left).2 within).trans (List.prefix_append _ right)
    have result := whole.nested (left ++ front) further
    rwa [depth_append, level, Int.zero_add] at result
  covered front rest split := by
    have further := whole.covered (left ++ front) (rest ++ right) (by simp [split])
    rwa [depth_append, level, Int.zero_add] at further

/-- A stretch of a balanced text between stretches on one level. -/
theorem Balanced.stretch (whole : Balanced (left ++ middle ++ right)) (before : depth left = 0)
    (behind : depth right = 0) : Balanced middle where
  toEnclosed := whole.toEnclosed.stretch before
  closed := by
    have level := whole.closed
    rwa [depth_append, depth_append, before, behind, Int.zero_add, Int.add_zero] at level

end Pieces

/-- A text and the pieces of the parameter list in front of it: the list is cut at each comma
outside of parentheses, and ends at the first closing parenthesis that belongs to no group, or at
the end of the text. -/
inductive CutInto : Text -> List Text -> Prop where
  | unclosed {piece : Text} (enclosed : Enclosed piece) : CutInto piece [piece]
  | closed {piece : Text} (balanced : Balanced piece) (tail : Text) :
      CutInto (piece ++ ')' :: tail) [piece]
  | comma {piece rest : Text} {pieces : List Text} (balanced : Balanced piece)
      (later : CutInto rest pieces) : CutInto (piece ++ ',' :: rest) (piece :: pieces)

/-- Inside of a group that is being taken, parentheses are open. It ends with the parenthesis that
closes the last one, or with the text. -/
theorem takeGroup_level (opened : Nat) (text : Text) :
    (∀ front c rest, (takeGroup opened text).1 = front ++ c :: rest → 0 < opened + depth front) ∧
      (opened + depth (takeGroup opened text).1 = 0 ∨
        0 < opened + depth (takeGroup opened text).1 ∧ (takeGroup opened text).2 = []) := by
  fun_induction takeGroup opened text with
  | case1 opened =>
      refine ⟨fun front c rest whole => by simp at whole, ?_⟩
      simp only [depth_nil, and_true]
      omega
  | case2 text => exact ⟨fun front c rest whole => by simp at whole, .inl rfl⟩
  | case3 opened c rest opened' inductionHypothesis =>
      obtain ⟨within, ends⟩ := inductionHypothesis
      -- what the first character adds to the depth of everything behind it
      have counted : ∀ behind, (opened' : Int) + depth behind =
          (opened + 1 : Nat) + depth (c :: behind) := by
        intro behind
        by_cases opening : c = '('
        · subst opening
          simp only [opened', reduceIte, depth_opening]
          omega
        by_cases closing : c = ')'
        · subst closing
          simp only [opened', Char.reduceEq, reduceIte, depth_closing]
          omega
        · simp [opened', opening, closing, depth_cons opening closing]
      refine ⟨fun front d behind whole => ?_, ?_⟩
      · cases front with
        | nil =>
            rw [depth_nil]
            omega
        | cons e front =>
            obtain ⟨rfl, tail⟩ := List.cons.inj whole
            rw [← counted]
            exact within front d behind tail
      · simp only [Prod.map_fst, Prod.map_snd, id_eq]
        rw [← counted]
        exact ends

/-- A group in parentheses is balanced, unless the text ends in it. -/
theorem balanced_takeGroup (text : Text) :
    Balanced ('(' :: (takeGroup 1 text).1) ∨
      Enclosed ('(' :: (takeGroup 1 text).1) ∧ (takeGroup 1 text).2 = [] := by
  obtain ⟨within, ends⟩ := takeGroup_level 1 text
  have enclosed : Enclosed ('(' :: (takeGroup 1 text).1) := by
    refine ⟨fun front part => ?_, fun front rest whole => ?_⟩
    · rcases List.prefix_cons_iff.1 part with rfl | ⟨front, rfl, inner⟩
      · exact Int.le_refl 0
      · obtain ⟨rest, whole⟩ := inner
        rw [depth_opening]
        cases rest with
        | nil =>
            rw [List.append_nil] at whole
            rw [whole]
            omega
        | cons c rest =>
            have level := within front c rest whole.symm
            omega
    · cases front with
      | nil => cases (List.cons.inj whole).1
      | cons c front =>
          obtain ⟨rfl, tail⟩ := List.cons.inj whole
          have level := within front ',' rest tail
          rw [depth_opening]
          omega
  rcases ends with closed | ⟨-, ended⟩
  · refine .inl { toEnclosed := enclosed, closed := ?_ }
    rw [depth_opening]
    omega
  · exact .inr ⟨enclosed, ended⟩

/-- The splitter cuts the text into its pieces, if what it has begun with is balanced. -/
theorem cutInto_piecesFrom {begun : Text} (balanced : Balanced begun.reverse) (text : Text) :
    CutInto (begun.reverse ++ text) (piecesFrom begun text) := by
  fun_induction piecesFrom begun text with
  | case1 begun =>
      rw [List.append_nil]
      exact .unclosed balanced.toEnclosed
  | case2 begun rest inductionHypothesis =>
      have whole : begun.reverse ++ '(' :: rest =
          ((takeGroup 1 rest).1.reverse ++ '(' :: begun).reverse ++ (takeGroup 1 rest).2 := by
        simp [takeGroup_append]
      have front : ((takeGroup 1 rest).1.reverse ++ '(' :: begun).reverse =
          begun.reverse ++ '(' :: (takeGroup 1 rest).1 := by simp
      rw [whole]
      rcases balanced_takeGroup rest with group | ⟨group, ended⟩
      · exact inductionHypothesis (front ▸ balanced.append group)
      · rw [ended, List.append_nil, piecesFrom]
        exact .unclosed (front ▸ .append balanced group)
  | case3 begun tail => exact .closed balanced tail
  | case4 begun rest inductionHypothesis => exact .comma balanced (inductionHypothesis .nil)
  | case5 begun c rest noOpening noClosing noComma inductionHypothesis =>
      have single : Balanced [c] := .singleton noComma noOpening noClosing
      have further := inductionHypothesis (by simpa using balanced.append single)
      simpa using further

/-- A text is cut into the pieces that the splitter finds. -/
theorem cutInto_pieces (text : Text) : CutInto text (piecesFrom [] text) :=
  @cutInto_piecesFrom [] .nil text

end EditorData.Signature
