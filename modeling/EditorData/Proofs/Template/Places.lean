import EditorData.Proofs.Markup.Searching
import EditorData.Proofs.Results
import EditorData.Proofs.Text.Cutting
import EditorData.Settings.Basic
import EditorData.Template.Basic

/-!
# Places for the version

A template is taken apart at its places for the version (`pieces`), and the version put in their
stead (`replaced`). If no brace stands anywhere else (`Plain`), that is what filling the template
gives, whatever the version is (`Plain.fill_eq`). What is put between two pieces at least can be
told from the whole (`replaced_injective`).
-/

namespace EditorData.Template

open Settings (versionField)

/-- What stands in front of, between and behind the places for the version. -/
def pieces (template : Text) : List Text :=
  match _found : Text.cut? versionField template with
  | none => [template]
  | some (front, rest) => front :: pieces rest
termination_by template.length
decreasing_by
  have lengths := Text.length_of_cut? _found
  have long : versionField.length = 9 := rfl
  omega

/-- A template with a version in the places for it. -/
def replaced (template version : Text) : Text :=
  Text.joined version (pieces template)

/-- A text without braces. -/
def Unbraced (text : Text) : Prop :=
  '{' ∉ text ∧ '}' ∉ text

instance (text : Text) : Decidable (Unbraced text) :=
  inferInstanceAs (Decidable (_ ∧ _))

/-- A template without braces other than those around its places for the version. -/
def Plain (template : Text) : Prop :=
  ∀ piece ∈ pieces template, Unbraced piece

section Pieces

variable {template front : Text}

/-- A template without place is one piece. -/
theorem pieces_of_uncut (uncut : Text.cut? versionField template = none) :
    pieces template = [template] := by
  rw [pieces]
  split
  · rfl
  · next found =>
      rw [uncut] at found
      cases found

/-- A template has the pieces on both sides of its first place. -/
theorem pieces_of_cut {rest : Text} (cut : Text.cut? versionField template = some (front, rest)) :
    pieces template = front :: pieces rest := by
  rw [pieces]
  split
  · next found =>
      rw [cut] at found
      cases found
  · next found =>
      rw [cut] at found
      obtain ⟨rfl, rfl⟩ := Prod.mk.inj (Option.some.inj found)
      rfl

/-- A text without braces in front of a place is a piece. -/
theorem pieces_append (unbraced : Unbraced front) (rest : Text) :
    pieces (front ++ (versionField ++ rest)) = front :: pieces rest :=
  pieces_of_cut (Markup.cut?_append_marker (Markup.Avoids.of_not_mem unbraced.1) rest)

/-- A text without braces is a piece. -/
theorem pieces_of_unbraced (unbraced : Unbraced template) : pieces template = [template] := by
  refine pieces_of_uncut (Option.eq_none_iff_forall_ne_some.2 fun ⟨front, rest⟩ cut => ?_)
  have whole := Text.eq_append_of_cut? cut
  exact unbraced.1 (whole ▸ List.mem_append_left rest (List.mem_append_right front (by decide)))

/-- There is a piece. -/
theorem pieces_ne_nil (template : Text) : pieces template ≠ [] := by
  rw [pieces]
  split <;> exact List.cons_ne_nil _ _

/-- The pieces with the places between them are the template. -/
theorem joined_pieces (template : Text) :
    Text.joined versionField (pieces template) = template := by
  fun_induction pieces template with
  | case1 template uncut => rfl
  | case2 template front rest cut inductionHypothesis =>
      rw [Text.joined_cons_of_ne_nil (pieces_ne_nil rest), inductionHypothesis,
        ← Text.eq_append_of_cut? cut]

/-- A template with a place has two pieces at least. -/
theorem exists_pieces (place : ∃ front back, template = front ++ versionField ++ back) :
    ∃ first second others, pieces template = first :: second :: others := by
  obtain ⟨front, back, rfl⟩ := place
  obtain ⟨before, rest, cut⟩ := Text.exists_cut? ⟨front, back, rfl⟩
  obtain ⟨second, others, further⟩ := List.exists_cons_of_ne_nil (pieces_ne_nil rest)
  exact ⟨before, second, others, by rw [pieces_of_cut cut, further]⟩

/-- In a template with a place, different versions give different texts. -/
theorem replaced_injective (place : ∃ front back, template = front ++ versionField ++ back)
    {version other : Text} (same : replaced template version = replaced template other) :
    version = other := by
  obtain ⟨first, second, others, pieces⟩ := exists_pieces place
  have lengths := congrArg List.length same
  have measured (separator : Text) := @Text.measure_joined List.length
    (fun _ _ => List.length_append) separator (first :: second :: others) (List.cons_ne_nil _ _)
  rw [replaced, replaced, pieces] at same
  rw [replaced, replaced, pieces, measured, measured, Nat.add_left_cancel_iff] at lengths
  have equal : version.length = other.length :=
    Nat.eq_of_mul_eq_mul_left (by simp) lengths
  rw [Text.joined, Text.joined, List.append_assoc, List.append_assoc] at same
  exact (List.append_inj (List.append_cancel_left same) equal).1

end Pieces

section Parsing

variable {front : Text}

/-- The field that a place is. -/
def place : Field :=
  ⟨"version".toList, none, []⟩

/-- The parts of pieces with places between them. -/
def plainParts : List Text -> List Part
  | [] => []
  | [piece] => piece.map .char
  | piece :: next :: others => piece.map .char ++ .field place :: plainParts (next :: others)

/-- A character that is no brace is a part of a template. -/
theorem parse_cons {c : Char} (noOpening : c ≠ '{') (noClosing : c ≠ '}') (rest : Text) :
    parse (c :: rest) = (parse rest).map (.char c :: ·) id := by
  rw [parse]
  · exact fun _ same => absurd same noOpening
  · exact fun _ same => absurd same noClosing
  · exact fun same => absurd same noOpening
  · exact noClosing
  · exact noOpening

/-- The characters of a text without braces are parts of a template. -/
theorem parse_append (unbraced : Unbraced front) (rest : Text) :
    parse (front ++ rest) = (parse rest).map (front.map .char ++ ·) id := by
  induction front with
  | nil => rfl
  | cons c front inductionHypothesis =>
      obtain ⟨noOpening, noClosing⟩ := unbraced
      have later := inductionHypothesis
        ⟨List.not_mem_of_not_mem_cons noOpening, List.not_mem_of_not_mem_cons noClosing⟩
      rw [List.cons_append, parse_cons (List.ne_of_not_mem_cons noOpening).symm
        (List.ne_of_not_mem_cons noClosing).symm, later]
      rfl

/-- A place is a part of a template. -/
theorem parse_place (rest : Text) :
    parse (versionField ++ rest) = (parse rest).map (.field place :: ·) id := by
  have found : splitField ("version\x7d".toList ++ rest) = .ok (place, rest) := rfl
  have whole : versionField ++ rest = '{' :: ("version\x7d".toList ++ rest) := rfl
  rw [whole, parse]
  · split
    · next other =>
        rw [found] at other
        cases other
    · next other =>
        rw [found] at other
        obtain ⟨rfl, rfl⟩ := Prod.mk.inj (Except.ok.inj other)
        rfl
  · exact fun _ same => absurd (List.cons.inj same).1 (by decide)
  · exact fun same => List.cons_ne_nil _ _ same

/-- Pieces without braces and the places between them are the parts of a template. -/
theorem parse_joined {list : List Text} (unbraced : ∀ piece ∈ list, Unbraced piece) :
    parse (Text.joined versionField list) = (plainParts list, none) := by
  fun_induction plainParts list with
  | case1 => rw [Text.joined, parse]
  | case2 piece =>
      have alone := parse_append (unbraced piece List.mem_cons_self) []
      rw [List.append_nil, parse] at alone
      rw [Text.joined, alone]
      simp
  | case3 piece next others inductionHypothesis =>
      obtain ⟨first, later⟩ := List.forall_mem_cons.1 unbraced
      rw [Text.joined, List.append_assoc, parse_append first, parse_place,
        inductionHypothesis later]
      rfl

end Parsing

section Filling

variable {version : Text} {fillLayout : Text -> Except Fault Text}

/-- A template is filled if it has no fault and its parts are filled. -/
theorem fill_eq_ok_iff {template text : Text} :
    fill template version = .ok text ↔
      (parse template).2 = none ∧
        fillParts version (fillAt version 1) (parse template).1 = .ok text := by
  rw [fill, fillAt]
  obtain ⟨parts, fault⟩ := parse template
  dsimp only
  constructor
  · intro filled
    obtain ⟨result, made, checked⟩ := ok_of_bind filled
    cases fault with
    | none =>
        cases checked
        exact ⟨rfl, made⟩
    | some found => cases checked
  · rintro ⟨rfl, made⟩
    rw [made]
    rfl

/-- Characters are filled as they are. -/
theorem fillParts_chars (piece : Text) (parts : List Part) :
    fillParts version fillLayout (piece.map .char ++ parts) =
      (fillParts version fillLayout parts).map (piece ++ ·) := by
  induction piece with
  | nil =>
      rw [List.map_nil, List.nil_append]
      cases fillParts version fillLayout parts <;> rfl
  | cons c piece inductionHypothesis =>
      rw [List.map_cons, List.cons_append, fillParts, inductionHypothesis]
      cases fillParts version fillLayout parts <;> rfl

/-- A place is filled with the version. -/
theorem fillParts_place (parts : List Part) :
    fillParts version fillLayout (.field place :: parts) =
      (fillParts version fillLayout parts).map (version ++ ·) := by
  have resolved : resolve version place.name = .ok (.text version) := rfl
  have laidOut : layOut [] (.text version) = .ok version := by
    show Except.ok (Layout.apply ⟨' ', .left, 0, none⟩ version) = .ok version
    simp [Layout.apply]
  rw [fillParts, resolved]
  show (layOut [] (.text version) >>= fun out =>
    fillParts version fillLayout parts >>= fun rest => .ok (out ++ rest)) = _
  rw [laidOut]
  cases fillParts version fillLayout parts <;> rfl

/-- Pieces are filled with the version between them. -/
theorem fillParts_plainParts (list : List Text) :
    fillParts version fillLayout (plainParts list) = .ok (Text.joined version list) := by
  fun_induction plainParts list with
  | case1 => rfl
  | case2 piece =>
      have alone := @fillParts_chars version fillLayout piece []
      rw [List.append_nil] at alone
      rw [alone]
      simp [fillParts, Except.map, Text.joined]
  | case3 piece next others inductionHypothesis =>
      rw [fillParts_chars, fillParts_place, inductionHypothesis, Text.joined, List.append_assoc]
      rfl

/-- A plain template is filled by putting the version in the places for it. -/
theorem Plain.fill_eq {template : Text} (plain : Plain template) (version : Text) :
    fill template version = .ok (replaced template version) := by
  have parsed := parse_joined plain
  rw [joined_pieces] at parsed
  rw [fill_eq_ok_iff, parsed]
  exact ⟨rfl, fillParts_plainParts (pieces template)⟩

end Filling

end EditorData.Template
