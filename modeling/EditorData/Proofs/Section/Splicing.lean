import EditorData.Proofs.Text.Cutting
import EditorData.Section

/-!
# Splicing a section

Replacing a section keeps the document up to the end of its first start marker and from the first
end marker behind that on. The start marker is found at the same place whatever stands behind it, so
a document that has been edited can be edited again. The end marker is found behind the new section
exactly if the section neither holds it nor makes one together with the marker's first characters;
then the next replacement is as good as the first one (`replace_splices`).
-/

namespace EditorData

/-- A text has the marker between two stretches, and nowhere further in front. -/
structure Text.FirstCut (marker text before after : Text) : Prop where
  whole : text = before ++ marker ++ after
  first : ∀ left right, text = left ++ marker ++ right → before.length ≤ left.length

/-- A text is cut where the marker stands first. -/
theorem Text.firstCut_iff {marker text before after : Text} :
    FirstCut marker text before after ↔ cut? marker text = some (before, after) :=
  ⟨fun held => cut?_eq_some_iff.mpr ⟨held.whole, held.first⟩,
    fun found => ⟨(cut?_eq_some_iff.mp found).1, (cut?_eq_some_iff.mp found).2⟩⟩

namespace Section

variable {start stop replacement document edited before after : Text}

/-- A document in which a section has been replaced has kept what is around it, and its start marker
stands at the same place whatever is behind it. -/
theorem replace_ok (done : replace start stop replacement document = .ok edited) :
    ∃ before between after, document = before ++ start ++ between ++ stop ++ after ∧
      edited = before ++ start ++ replacement ++ stop ++ after ∧
      ∀ rest, Text.cut? start (before ++ start ++ rest) = some (before, rest) := by
  unfold replace at done
  split at done
  · cases done
  · next before rest starting =>
      split at done
      · cases done
      · next between after stopping =>
          cases done
          refine ⟨before, between, after, ?_, rfl, Text.cut?_of_cut? starting⟩
          rw [Text.eq_append_of_cut? starting, Text.eq_append_of_cut? stopping]
          simp only [List.append_assoc]

/-- A section that is found at its markers is replaced. -/
theorem replace_of_cut? {rest between : Text}
    (starts : ∀ rest, Text.cut? start (before ++ start ++ rest) = some (before, rest))
    (stops : Text.cut? stop rest = some (between, after)) :
    replace start stop replacement (before ++ start ++ rest) =
      .ok (before ++ start ++ replacement ++ stop ++ after) := by
  unfold replace
  simp only [starts, stops]

/-- A section that ends in a character that the end marker does not have is replaced again, whatever
it holds. The document comes out the same if the end marker is not in the section, and longer if it
is. -/
theorem replace_again {middle : Text} {c : Char}
    (starts : ∀ rest, Text.cut? start (before ++ start ++ rest) = some (before, rest))
    (absent : c ∉ stop) (marked : stop ≠ []) :
    ∃ again,
      replace start stop replacement (before ++ start ++ (middle ++ [c]) ++ stop ++ after) =
        .ok again ∧
      (again = before ++ start ++ replacement ++ stop ++ after ↔ ¬ stop <:+: middle ++ [c]) := by
  have split : before ++ start ++ (middle ++ [c]) ++ stop ++ after =
      before ++ start ++ (middle ++ [c] ++ stop ++ after) := by
    simp only [List.append_assoc]
  rw [split]
  by_cases held : stop <:+: middle ++ [c]
  · obtain ⟨front, more, found⟩ := Text.exists_cut? held
    have stops := Text.cut?_append found (stop ++ after)
    rw [← List.append_assoc] at stops
    refine ⟨_, replace_of_cut? starts stops, iff_of_false (fun same => ?_) (not_not_intro held)⟩
    have lengths := congrArg List.length same
    have longer : 0 < stop.length := List.length_pos_iff.mpr marked
    simp only [List.length_append] at lengths
    omega
  · exact ⟨_, replace_of_cut? starts (Text.cut?_append_of_free absent held after),
      iff_of_true rfl held⟩

/-- The start marker is missed exactly if it does not stand in the document. -/
theorem replace_eq_missingStart_iff :
    replace start stop replacement document = .error (.missingStart start) ↔
      ¬ start <:+: document := by
  rw [← Text.cut?_eq_none_iff]
  unfold replace
  cases starting : Text.cut? start document with
  | none => exact iff_of_true rfl rfl
  | some sides =>
      cases stopping : Text.cut? stop sides.2 with
      | none => simp [stopping]
      | some inner => simp [stopping]

/-- The end marker is missed exactly if it does not stand behind the first start marker. -/
theorem replace_eq_missingEnd_iff :
    replace start stop replacement document = .error (.missingEnd stop) ↔
      ∃ before behind, Text.FirstCut start document before behind ∧ ¬ stop <:+: behind := by
  simp only [Text.firstCut_iff, ← Text.cut?_eq_none_iff]
  unfold replace
  cases starting : Text.cut? start document with
  | none => simp
  | some sides =>
      cases stopping : Text.cut? stop sides.2 with
      | none => exact iff_of_true (by simp [stopping]) ⟨sides.1, sides.2, rfl, stopping⟩
      | some inner =>
          refine iff_of_false (by simp [stopping]) ?_
          rintro ⟨_, _, ⟨⟩, fails⟩
          rw [stopping] at fails
          cases fails

/-- A document comes out with the replacement between its first start marker and the first end
marker behind that. -/
theorem replace_eq_ok_iff :
    replace start stop replacement document = .ok edited ↔
      ∃ before behind between after, Text.FirstCut start document before behind ∧
        Text.FirstCut stop behind between after ∧
        edited = (before ++ start) ++ replacement ++ (stop ++ after) := by
  simp only [Text.firstCut_iff]
  unfold replace
  constructor
  · intro done
    split at done
    · cases done
    · next before behind starting =>
        split at done
        · cases done
        · next between after stopping =>
            cases done
            exact ⟨before, behind, between, after, starting, stopping, by simp⟩
  · rintro ⟨before, behind, between, after, starting, stopping, rfl⟩
    simp [starting, stopping]

/-- A section is replaced again as it was the first time, if the end marker behind the new one is
the first one there. -/
theorem replace_replace (found : Text.FirstCut stop (replacement ++ stop) replacement [])
    (done : replace start stop replacement document = .ok edited) (second : Text) :
    replace start stop second edited = replace start stop second document := by
  obtain ⟨before, behind, between, after, starting, stopping, rfl⟩ := replace_eq_ok_iff.mp done
  have starts := Text.cut?_of_cut? (Text.firstCut_iff.mp starting)
  have stops := Text.cut?_append (Text.firstCut_iff.mp found) after
  rw [List.append_assoc, List.nil_append] at stops
  rw [List.append_assoc (before ++ start), replace_of_cut? starts stops, starting.whole,
    replace_of_cut? starts (Text.firstCut_iff.mp stopping)]

/-- Replacing a section is a clean splice. A marker is missed exactly if it does not stand where it
is looked for. Otherwise the document stays as it is up to the end of the first start marker and
from the first end marker behind that on. If the end marker first stands behind the replacement in
front of which it is put, any further replacement comes out as if it were the first one. -/
theorem replace_splices (start stop replacement document : Text) :
    (replace start stop replacement document = .error (.missingStart start) ↔
      ¬ start <:+: document) ∧
    (replace start stop replacement document = .error (.missingEnd stop) ↔
      ∃ before behind, Text.FirstCut start document before behind ∧ ¬ stop <:+: behind) ∧
    (∀ fault, replace start stop replacement document = .error fault →
      fault = .missingStart start ∨ fault = .missingEnd stop) ∧
    (∀ edited, replace start stop replacement document = .ok edited ↔
      ∃ before behind between after, Text.FirstCut start document before behind ∧
        Text.FirstCut stop behind between after ∧
        edited = (before ++ start) ++ replacement ++ (stop ++ after)) ∧
    (Text.FirstCut stop (replacement ++ stop) replacement [] →
      ∀ edited second, replace start stop replacement document = .ok edited →
        replace start stop second edited = replace start stop second document) := by
  refine ⟨replace_eq_missingStart_iff, replace_eq_missingEnd_iff, fun fault failed => ?_,
    fun edited => replace_eq_ok_iff, fun found edited second done =>
      replace_replace found done second⟩
  unfold replace at failed
  split at failed
  · exact .inl (Except.error.inj failed).symm
  · split at failed
    · exact .inr (Except.error.inj failed).symm
    · cases failed

/-- Markers that overlap with themselves, and a replacement that ends like the end marker: the next
replacement comes out as in the document itself. -/
theorem replace_splices_overlapping :
    replace "aa".toList "bcb".toList "cb".toList "aaabcbcb".toList = .ok "aacbbcbcb".toList ∧
      Text.FirstCut "bcb".toList ("cb".toList ++ "bcb".toList) "cb".toList [] ∧
      replace "aa".toList "bcb".toList "x".toList "aacbbcbcb".toList =
        replace "aa".toList "bcb".toList "x".toList "aaabcbcb".toList := by
  have done : replace "aa".toList "bcb".toList "cb".toList "aaabcbcb".toList =
      .ok "aacbbcbcb".toList := rfl
  have found : Text.FirstCut "bcb".toList ("cb".toList ++ "bcb".toList) "cb".toList [] :=
    Text.firstCut_iff.mpr (by decide)
  obtain ⟨-, -, -, -, again⟩ :=
    replace_splices "aa".toList "bcb".toList "cb".toList "aaabcbcb".toList
  exact ⟨done, found, again found _ _ done⟩

end Section

end EditorData
