import EditorData.Proofs.Text.Lines

/-!
# Where a text is cut

A text is cut at the first place where the marker stands (`cut?_eq_some_iff`). So a cut stays as it
is when something else stands behind the marker, and goes to a marker put behind a text without one.
Whether a marker stands in a text is decided piece by piece: by what is between characters that it
does not have, without the characters that it neither begins nor ends with, and whatever the ends of
the lines are.
-/

namespace EditorData.Text

/-- Recognition fails on what does not begin that way. -/
theorem after?_eq_none_iff {lead text : Text} : after? lead text = none ↔ ¬ lead <+: text := by
  rw [Option.eq_none_iff_forall_ne_some]
  refine ⟨fun fails held => ?_, fun free rest found => ?_⟩
  · obtain ⟨rest, whole⟩ := held
    exact fails rest (after?_eq_some_iff.mpr whole.symm)
  · exact free ⟨rest, (after?_eq_some_iff.mp found).symm⟩

/-- A lead that a text is long enough for is not made by putting text behind. -/
theorem after?_append_of_none {lead text : Text} (absent : after? lead text = none)
    (long : lead.length ≤ text.length) (more : Text) : after? lead (text ++ more) = none :=
  after?_eq_none_iff.mpr fun held => after?_eq_none_iff.mp absent
    (List.prefix_of_prefix_length_le held (List.prefix_append text more) long)

/-- A text with the marker in it can be cut. -/
theorem exists_cut? {marker text : Text} (held : marker <:+: text) :
    ∃ before rest, cut? marker text = some (before, rest) := by
  induction text with
  | nil =>
      obtain rfl := List.infix_nil.mp held
      exact ⟨[], [], rfl⟩
  | cons c text inductionHypothesis =>
      unfold cut?
      cases hit : after? marker (c :: text) with
      | some rest => exact ⟨[], rest, rfl⟩
      | none =>
          rcases List.infix_cons_iff.mp held with front | behind
          · exact absurd front (after?_eq_none_iff.mp hit)
          · obtain ⟨before, rest, cut⟩ := inductionHypothesis behind
            exact ⟨c :: before, rest, by simp [cut]⟩

/-- A text is not cut exactly if the marker does not stand in it. -/
theorem cut?_eq_none_iff {marker text : Text} :
    cut? marker text = none ↔ ¬ marker <:+: text := by
  refine ⟨fun fails held => ?_, fun free => ?_⟩
  · obtain ⟨before, rest, found⟩ := exists_cut? held
    rw [fails] at found
    cases found
  · cases found : cut? marker text with
    | none => rfl
    | some sides =>
        exact absurd ⟨sides.1, sides.2, (eq_append_of_cut? found).symm⟩ free

/-- The marker stands nowhere in front of the place where a text is cut. -/
theorem length_le_of_cut? {marker text before rest : Text}
    (found : cut? marker text = some (before, rest)) {left right : Text}
    (other : text = left ++ marker ++ right) : before.length ≤ left.length := by
  induction text generalizing before left with
  | nil =>
      obtain ⟨rest', -, pair⟩ := Option.map_eq_some_iff.mp found
      obtain ⟨rfl, -⟩ := Prod.mk.inj pair
      exact Nat.zero_le _
  | cons c text inductionHypothesis =>
      unfold cut? at found
      split at found
      · obtain ⟨rfl, -⟩ := Prod.mk.inj (Option.some.inj found)
        exact Nat.zero_le _
      · next miss =>
          obtain ⟨⟨before', rest'⟩, hit, pair⟩ := Option.map_eq_some_iff.mp found
          obtain ⟨rfl, rfl⟩ := Prod.mk.inj pair
          cases left with
          | nil => exact absurd ⟨right, other.symm⟩ (after?_eq_none_iff.mp miss)
          | cons d left =>
              obtain ⟨-, behind⟩ := List.cons.inj other
              exact Nat.succ_le_succ (inductionHypothesis hit behind)

/-- A text is cut at the first place where the marker stands. -/
theorem cut?_eq_some_iff {marker text before rest : Text} :
    cut? marker text = some (before, rest) ↔
      text = before ++ marker ++ rest ∧
        ∀ left right, text = left ++ marker ++ right → before.length ≤ left.length := by
  refine ⟨fun found => ⟨eq_append_of_cut? found, fun _ _ => length_le_of_cut? found⟩, ?_⟩
  rintro ⟨whole, first⟩
  have held : marker <:+: text := ⟨before, rest, whole.symm⟩
  obtain ⟨before', rest', found⟩ := exists_cut? held
  have wholeThen := eq_append_of_cut? found
  have same : before'.length = before.length :=
    Nat.le_antisymm (length_le_of_cut? found whole) (first before' rest' wholeThen)
  rw [wholeThen, List.append_assoc, List.append_assoc] at whole
  obtain ⟨rfl, behind⟩ := List.append_inj whole same
  obtain rfl := List.append_cancel_left behind
  exact found

/-- What stands behind the marker has no say in where a text is cut. -/
theorem cut?_of_cut? {marker text before rest : Text}
    (found : cut? marker text = some (before, rest)) (other : Text) :
    cut? marker (before ++ marker ++ other) = some (before, other) := by
  refine cut?_eq_some_iff.mpr ⟨rfl, fun left right whole => ?_⟩
  -- A marker that stood further in front would stand there in the text that has been cut, too.
  refine Nat.le_of_not_lt fun shorter => Nat.not_le.mpr shorter ?_
  have front : left ++ marker <+: before ++ marker :=
    List.prefix_of_prefix_length_le ⟨right, whole.symm⟩ (List.prefix_append _ _)
      (by simp only [List.length_append]; omega)
  obtain ⟨between, same⟩ := front
  have further : text = left ++ marker ++ (between ++ rest) := by
    rw [eq_append_of_cut? found, ← same, List.append_assoc]
  exact length_le_of_cut? found further

/-- A cut is the same with more text behind. -/
theorem cut?_append {marker text before rest : Text}
    (found : cut? marker text = some (before, rest)) (more : Text) :
    cut? marker (text ++ more) = some (before, rest ++ more) := by
  rw [eq_append_of_cut? found, List.append_assoc]
  exact cut?_of_cut? found (rest ++ more)

/-- A marker stands on one side or on the other of a character that it does not have. -/
theorem infix_append_cons_iff {marker left right : Text} {c : Char} (absent : c ∉ marker) :
    marker <:+: left ++ c :: right ↔ marker <:+: left ∨ marker <:+: right := by
  refine ⟨?_, fun held => ?_⟩
  · rintro ⟨before, after, whole⟩
    rw [List.append_assoc] at whole
    rcases List.append_eq_append_iff.mp whole with ⟨more, front, behind⟩ | ⟨more, front, behind⟩
    · -- The marker begins on the left, so it ends there.
      rcases List.append_eq_append_iff.mp behind with ⟨rest, inner, -⟩ | ⟨rest, inner, outer⟩
      · exact .inl ⟨before, rest, by rw [front, inner, List.append_assoc]⟩
      · cases rest with
        | nil => exact .inl ⟨before, [], by simp [front, inner]⟩
        | cons d rest =>
            obtain ⟨rfl, -⟩ := List.cons.inj outer
            exact absurd (inner ▸ List.mem_append_right more List.mem_cons_self) absent
    · cases more with
      | nil =>
          cases marker with
          | nil => exact .inl (List.nil_infix)
          | cons d marker =>
              obtain ⟨rfl, -⟩ := List.cons.inj behind
              exact absurd List.mem_cons_self absent
      | cons d more =>
          obtain ⟨-, behind⟩ := List.cons.inj behind
          exact .inr ⟨more, after, (List.append_assoc ..).trans behind.symm⟩
  · rcases held with front | behind
    · exact front.trans (List.prefix_append left (c :: right)).isInfix
    · exact behind.trans ((List.suffix_cons c right).trans (List.suffix_append left _)).isInfix

/-- A marker stands in front of the end of a piece or behind it, if the piece ends in a character
that the marker does not have. -/
theorem infix_concat_append_iff {marker left right : Text} {c : Char} (absent : c ∉ marker) :
    marker <:+: left ++ [c] ++ right ↔ marker <:+: left ++ [c] ∨ marker <:+: right := by
  rw [List.append_assoc, List.singleton_append, infix_append_cons_iff absent,
    infix_append_cons_iff absent, or_assoc]
  have empty : marker <:+: [] → marker <:+: right := fun held => held.trans List.nil_infix
  rw [or_iff_right_of_imp empty]

/-- A marker put behind a text without one is where the text is cut, unless characters of the marker
are in front of it. -/
theorem cut?_append_of_free {marker front : Text} {c : Char} (absent : c ∉ marker)
    (free : ¬ marker <:+: front ++ [c]) (rest : Text) :
    cut? marker (front ++ [c] ++ marker ++ rest) = some (front ++ [c], rest) := by
  refine cut?_eq_some_iff.mpr ⟨rfl, fun left right whole => ?_⟩
  refine Nat.le_of_not_lt fun shorter => free ?_
  rw [List.append_assoc, List.append_assoc left] at whole
  obtain ⟨between, same, behind⟩ : ∃ between, front ++ [c] = left ++ between ∧
      between ++ (marker ++ rest) = marker ++ right := by
    rcases List.append_eq_append_iff.mp whole with ⟨more, same, -⟩ | ⟨more, same, behind⟩
    · rw [same, List.length_append] at shorter
      omega
    · exact ⟨more, same, behind.symm⟩
  -- The text in between ends in the character that the marker does not have.
  have ends : ∃ inner, between = inner ++ [c] := by
    rcases List.eq_nil_or_concat between with empty | ⟨inner, last, spelled⟩
    · rw [same, empty, List.append_nil] at shorter
      exact absurd shorter (Nat.lt_irrefl _)
    · refine ⟨inner, ?_⟩
      rw [spelled, List.concat_eq_append, ← List.append_assoc] at same
      obtain ⟨-, equal⟩ := List.append_inj' same rfl
      rw [spelled, List.concat_eq_append, List.cons.inj equal |>.1]
  obtain ⟨inner, rfl⟩ := ends
  rw [same]
  refine List.IsInfix.trans ?_ (List.suffix_append left _).isInfix
  rcases List.append_eq_append_iff.mp behind with ⟨more, longer, -⟩ | ⟨more, shown, -⟩
  · exact absurd (longer ▸ List.mem_append_left more (List.mem_append_right inner
      List.mem_cons_self)) absent
  · exact ⟨[], more, by rw [shown, List.nil_append]⟩

/-- A marker does not stand on characters in front of a text that it does not begin with. -/
theorem infix_append_left_iff {marker lead text : Text}
    (different : ∀ first ∈ marker.head?, first ∉ lead) :
    marker <:+: lead ++ text ↔ marker <:+: text := by
  induction lead with
  | nil => exact Iff.rfl
  | cons c lead inductionHypothesis =>
      rw [List.cons_append, List.infix_cons_iff,
        inductionHypothesis fun first begins held =>
          different first begins (List.mem_cons_of_mem c held),
        or_iff_right_of_imp]
      rintro ⟨rest, whole⟩
      cases marker with
      | nil => exact List.nil_infix
      | cons d marker =>
          obtain ⟨rfl, -⟩ := List.cons.inj whole
          exact absurd List.mem_cons_self (different d rfl)

/-- A marker does not stand on characters behind a text that it does not end with. -/
theorem infix_append_right_iff {marker text trail : Text}
    (different : ∀ last ∈ marker.getLast?, last ∉ trail) :
    marker <:+: text ++ trail ↔ marker <:+: text := by
  rw [← List.reverse_infix, List.reverse_append]
  refine Iff.trans (infix_append_left_iff (by simpa using different)) ?_
  exact List.reverse_infix

/-- A marker stands in a text that has been trimmed if it stands in the text, unless its ends are
trimmed off. -/
theorem infix_trim_iff {blank : Char -> Bool} {marker : Text}
    (keptFirst : ∀ c ∈ marker.head?, blank c = false)
    (keptLast : ∀ c ∈ marker.getLast?, blank c = false) (text : Text) :
    marker <:+: trim blank text ↔ marker <:+: text := by
  obtain ⟨trailing, whole, blanks⟩ := exists_trimmedOff blank (trimStart blank text)
  have front : text.takeWhile blank ++ trimStart blank text = text :=
    List.takeWhile_append_dropWhile
  have noFirst : ∀ first ∈ marker.head?, first ∉ text.takeWhile blank := fun c begins held => by
    have trimmed := List.all_eq_true.mp List.all_takeWhile c held
    rw [keptFirst c begins] at trimmed
    cases trimmed
  have noLast : ∀ last ∈ marker.getLast?, last ∉ trailing := fun c ends held => by
    have trimmed := blanks c held
    rw [keptLast c ends] at trimmed
    cases trimmed
  calc marker <:+: trim blank text
      _ ↔ marker <:+: trimEnd blank (trimStart blank text) ++ trailing :=
        (infix_append_right_iff noLast).symm
      _ ↔ marker <:+: text.takeWhile blank ++ trimStart blank text := by
        rw [← whole, infix_append_left_iff noFirst]
      _ ↔ marker <:+: text := by rw [front]

/-- The ends of lines are made equal on either side of a place that is not inside of one. -/
theorem normalizeNewlines_append (left : Text) {right : Text} (border : right.head? ≠ some '\n') :
    normalizeNewlines (left ++ right) = normalizeNewlines left ++ normalizeNewlines right := by
  fun_induction normalizeNewlines left with
  | case1 => rfl
  | case2 left inductionHypothesis => exact congrArg ('\n' :: ·) inductionHypothesis
  | case3 left notPaired inductionHypothesis =>
      rw [List.cons_append, List.cons_append, ← inductionHypothesis]
      refine normalizeNewlines.eq_3 _ fun text paired => ?_
      cases left with
      | nil => exact border (by rw [← List.nil_append right, paired]; rfl)
      | cons c left =>
          obtain ⟨rfl, -⟩ := List.cons.inj paired
          exact notPaired left rfl
  | case4 c left notPaired notReturn inductionHypothesis =>
      rw [List.cons_append, List.cons_append, ← inductionHypothesis]
      exact normalizeNewlines.eq_4 _ _ (fun _ same => absurd same notReturn) notReturn

/-- A text without carriage return keeps its line ends in front of anything. -/
theorem normalizeNewlines_append_of_not_mem {left : Text} (free : '\r' ∉ left) (right : Text) :
    normalizeNewlines (left ++ right) = left ++ normalizeNewlines right := by
  induction left with
  | nil => rfl
  | cons c left inductionHypothesis =>
      have notReturn := List.ne_of_not_mem_cons free
      rw [List.cons_append, List.cons_append,
        ← inductionHypothesis (List.not_mem_of_not_mem_cons free)]
      exact normalizeNewlines.eq_4 _ _ (fun _ same => absurd same.symm notReturn)
        (fun same => notReturn same.symm)

/-- Only the empty marker begins a text that begins with a character that it does not have. -/
theorem prefix_cons_iff_of_absent {marker text : Text} {c : Char} (absent : c ∉ marker) :
    marker <+: c :: text ↔ marker = [] := by
  cases marker with
  | nil => exact iff_of_true List.nil_prefix rfl
  | cons d marker =>
      refine iff_of_false (fun front => ?_) (List.cons_ne_nil d marker)
      exact List.ne_of_not_mem_cons absent (List.cons_prefix_cons.mp front).1.symm

/-- A marker does not begin with a character that it does not have. -/
theorem infix_cons_iff_of_absent {marker text : Text} {c : Char} (absent : c ∉ marker) :
    marker <:+: c :: text ↔ marker <:+: text := by
  rw [List.infix_cons_iff, prefix_cons_iff_of_absent absent, or_iff_right_of_imp]
  rintro rfl
  exact List.nil_infix

/-- A marker without an end of line begins a text whatever the ends of the lines are. -/
theorem prefix_normalizeNewlines_iff {marker : Text} (noReturn : '\r' ∉ marker)
    (noNewline : '\n' ∉ marker) (text : Text) :
    marker <+: normalizeNewlines text ↔ marker <+: text := by
  fun_induction normalizeNewlines text generalizing marker with
  | case1 => exact Iff.rfl
  | case2 text =>
      rw [prefix_cons_iff_of_absent noNewline, prefix_cons_iff_of_absent noReturn]
  | case3 text =>
      rw [prefix_cons_iff_of_absent noNewline, prefix_cons_iff_of_absent noReturn]
  | case4 c text _ _ inductionHypothesis =>
      cases marker with
      | nil => exact iff_of_true List.nil_prefix List.nil_prefix
      | cons d marker =>
          rw [List.cons_prefix_cons, List.cons_prefix_cons, inductionHypothesis
            (List.not_mem_of_not_mem_cons noReturn) (List.not_mem_of_not_mem_cons noNewline)]

/-- A marker without an end of line stands in a text whatever the ends of the lines are. -/
theorem infix_normalizeNewlines_iff {marker : Text} (noReturn : '\r' ∉ marker)
    (noNewline : '\n' ∉ marker) (text : Text) :
    marker <:+: normalizeNewlines text ↔ marker <:+: text := by
  fun_induction normalizeNewlines text with
  | case1 => exact Iff.rfl
  | case2 text inductionHypothesis =>
      rw [infix_cons_iff_of_absent noNewline, infix_cons_iff_of_absent noReturn,
        infix_cons_iff_of_absent noNewline, inductionHypothesis]
  | case3 text _ inductionHypothesis =>
      rw [infix_cons_iff_of_absent noNewline, infix_cons_iff_of_absent noReturn,
        inductionHypothesis]
  | case4 c text notPaired notReturn inductionHypothesis =>
      have front := prefix_normalizeNewlines_iff noReturn noNewline (c :: text)
      rw [normalizeNewlines.eq_4 _ _ (fun _ same => absurd same notReturn) notReturn] at front
      rw [List.infix_cons_iff, List.infix_cons_iff, front, inductionHypothesis]

end EditorData.Text
