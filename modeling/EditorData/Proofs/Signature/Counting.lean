import EditorData.Proofs.Signature.Nesting
import EditorData.Proofs.Text.Trimming
import Mathlib.Data.List.Forall2

/-!
# Arguments by counting parentheses

The splitter jumps over groups. The same arguments are found by counting (`IsCounted`): the
list ends at the first closing parenthesis on level zero, and is cut at the commas on that level.
The pieces of a text are unique (`CutInto.countedPieces_eq`), and both find them. In front of a
balanced text positions only move (`outside_append`), so one cut goes to the next.
-/

namespace EditorData.Signature

/-- Whether a mark stands at a position with as many parentheses opened as closed in front of it. -/
def standsOutside (mark : Char) (text : Text) (position : Nat) : Bool :=
  text[position]? == some mark && depth (text.take position) == 0

/-- The positions of a mark outside of parentheses. -/
def outside (mark : Char) (text : Text) : List Nat :=
  (List.range text.length).filter (standsOutside mark text)

/-- Where a parameter list ends: at the first closing parenthesis that closes none of its groups,
or at the end of the text. -/
def listEnd (text : Text) : Nat :=
  (outside ')' text).headD text.length

/-- What stands in a text between cuts, from a position on. -/
def cutAt (text : Text) : (begins : Nat) -> (cuts : List Nat) -> List Text
  | begins, [] => [text.drop begins]
  | begins, cut :: cuts => (text.take cut).drop begins :: cutAt text (cut + 1) cuts

/-- The pieces of a parameter list by counting. -/
def countedPieces (text : Text) : List Text :=
  let list := text.take (listEnd text)
  cutAt list 0 (outside ',' list)

/-- The code points of white space in any script, the four information separators included. -/
def whiteSpace : List Nat :=
  [0x09, 0x0a, 0x0b, 0x0c, 0x0d, 0x1c, 0x1d, 0x1e, 0x1f, 0x20, 0x85, 0xa0, 0x1680, 0x2000, 0x2001,
    0x2002, 0x2003, 0x2004, 0x2005, 0x2006, 0x2007, 0x2008, 0x2009, 0x200a, 0x2028, 0x2029, 0x202f,
    0x205f, 0x3000]

/-- The piece without the white space at its ends. -/
structure Strips (piece inner : Text) : Prop where
  around : ∃ leading trailing, piece = leading ++ inner ++ trailing ∧
    ∀ c ∈ leading ++ trailing, c.toNat ∈ whiteSpace
  first : ∀ c ∈ inner.head?, c.toNat ∉ whiteSpace
  last : ∀ c ∈ inner.getLast?, c.toNat ∉ whiteSpace

/-- The arguments of a parameter list by counting: its pieces, stripped, without the empty ones. -/
def IsCounted (text : Text) (found : List Text) : Prop :=
  ∃ inner, List.Forall₂ Strips (countedPieces text) inner ∧ found = inner.filter (!·.isEmpty)

section Positions

variable {mark : Char} {front text : Text}

/-- Behind a text that closes what it opens, marks stand outside of parentheses where they do
without the text. -/
theorem outside_append (level : depth front = 0) (text : Text) :
    outside mark (front ++ text) =
      outside mark front ++ (outside mark text).map (front.length + ·) := by
  have early : ∀ position ∈ List.range front.length,
      standsOutside mark (front ++ text) position = standsOutside mark front position := by
    intro position within
    have small := List.mem_range.1 within
    rw [standsOutside, List.getElem?_append_left small,
      List.take_append_of_le_length (Nat.le_of_lt small)]
    rfl
  have late : standsOutside mark (front ++ text) ∘ (front.length + ·) =
      standsOutside mark text := by
    funext position
    simp only [Function.comp, standsOutside, List.take_length_add_append, depth_append, level,
      Int.zero_add, List.getElem?_append_right (Nat.le_add_right front.length position),
      Nat.add_sub_cancel_left]
  rw [outside, List.length_append, List.range_add, List.filter_append, List.filter_congr early,
    List.filter_map, late]
  rfl

/-- In an enclosed text there is neither a comma nor a closing parenthesis outside of
parentheses. -/
theorem Enclosed.outside_eq_nil (enclosed : Enclosed text) (border : mark = ',' ∨ mark = ')') :
    outside mark text = [] := by
  refine List.filter_eq_nil_iff.2 fun position _ stands => ?_
  simp only [standsOutside, Bool.and_eq_true, beq_iff_eq] at stands
  obtain ⟨here, level⟩ := stands
  obtain ⟨small, rfl⟩ := List.getElem?_eq_some_iff.1 here
  have whole : text = text.take position ++ text[position] :: text.drop (position + 1) := by
    rw [List.getElem_cons_drop, List.take_append_drop]
  rcases border with comma | closing
  · rw [comma] at whole
    exact enclosed.covered _ _ whole level
  · rw [closing] at whole
    have further : text.take position ++ [')'] <+: text :=
      ⟨text.drop (position + 1), by simpa using whole.symm⟩
    have nested := enclosed.nested _ further
    simp [level] at nested

/-- A nested text without a comma outside of parentheses is enclosed. -/
theorem enclosed_iff : Enclosed text ↔ Nested text ∧ outside ',' text = [] := by
  refine ⟨fun enclosed => ⟨enclosed.nested, enclosed.outside_eq_nil (.inl rfl)⟩, ?_⟩
  rintro ⟨nested, commas⟩
  refine ⟨nested, fun front rest whole level => ?_⟩
  have small : front.length < text.length := by simp [whole]
  have stands : standsOutside ',' text front.length = true := by simp [standsOutside, whole, level]
  exact List.filter_eq_nil_iff.1 commas front.length (List.mem_range.2 small) stands

instance (text : Text) : Decidable (Enclosed text) :=
  decidable_of_iff _ enclosed_iff.symm

instance (text : Text) : Decidable (Balanced text) :=
  decidable_of_iff (Enclosed text ∧ depth text = 0)
    ⟨fun ⟨enclosed, closed⟩ => { toEnclosed := enclosed, closed },
      fun balanced => ⟨balanced.toEnclosed, balanced.closed⟩⟩

/-- A mark stands at the beginning of what it begins. -/
theorem head?_outside (mark : Char) (text : Text) :
    (outside mark (mark :: text)).head? = some 0 := by
  have stands : standsOutside mark (mark :: text) 0 = true := by simp [standsOutside]
  rw [outside, List.length_cons, List.range_succ_eq_map, List.filter_cons_of_pos stands,
    List.head?_cons]

/-- Cuts behind a text are made where they are made without the text. -/
theorem cutAt_append (front text : Text) (begins : Nat) (cuts : List Nat) :
    cutAt (front ++ text) (front.length + begins) (cuts.map (front.length + ·)) =
      cutAt text begins cuts := by
  induction cuts generalizing begins with
  | nil => simp [cutAt]
  | cons cut cuts inductionHypothesis =>
      rw [List.map_cons, cutAt, cutAt, Nat.add_assoc, inductionHypothesis]
      simp [List.take_length_add_append]

end Positions

section Pieces

variable {piece : Text}

/-- An enclosed text is one piece. -/
theorem countedPieces_enclosed (enclosed : Enclosed piece) : countedPieces piece = [piece] := by
  have ends : listEnd piece = piece.length := by
    rw [listEnd, enclosed.outside_eq_nil (.inr rfl), List.headD_nil]
  rw [countedPieces, ends, List.take_length, enclosed.outside_eq_nil (.inl rfl), cutAt,
    List.drop_zero]

/-- A closing parenthesis behind a balanced text ends the list. -/
theorem countedPieces_closed (balanced : Balanced piece) (tail : Text) :
    countedPieces (piece ++ ')' :: tail) = [piece] := by
  have ends : listEnd (piece ++ ')' :: tail) = piece.length := by
    rw [listEnd, outside_append balanced.closed, balanced.outside_eq_nil (.inr rfl),
      List.nil_append, List.headD_eq_head?_getD, List.head?_map, head?_outside]
    rfl
  rw [countedPieces, ends, List.take_left, balanced.outside_eq_nil (.inl rfl), cutAt,
    List.drop_zero]

/-- A comma behind a balanced text ends the first piece. -/
theorem countedPieces_comma (balanced : Balanced piece) (rest : Text) :
    countedPieces (piece ++ ',' :: rest) = piece :: countedPieces rest := by
  -- the text up to the comma and what stands behind it are counted apart
  have level : depth (piece ++ [',']) = 0 := by simp [balanced.closed]
  have length : (piece ++ [',']).length = piece.length + 1 := by simp
  have closings : outside ')' (piece ++ [',']) = [] := by
    rw [outside_append balanced.closed, balanced.outside_eq_nil (.inr rfl)]
    rfl
  have commas : outside ',' (piece ++ [',']) = [piece.length] := by
    rw [outside_append balanced.closed, balanced.outside_eq_nil (.inl rfl)]
    rfl
  have ends : listEnd (piece ++ [','] ++ rest) = (piece ++ [',']).length + listEnd rest := by
    rw [listEnd, outside_append level, closings, List.nil_append, List.headD_eq_head?_getD,
      List.head?_map, listEnd, List.headD_eq_head?_getD]
    cases (outside ')' rest).head? with
    | none => exact List.length_append
    | some position => rfl
  have later := cutAt_append (piece ++ [',']) (rest.take (listEnd rest)) 0
    (outside ',' (rest.take (listEnd rest)))
  rw [Nat.add_zero, length] at later
  rw [List.append_cons, countedPieces, ends, List.take_length_add_append, outside_append level,
    commas, List.singleton_append, cutAt, length, later, List.append_assoc, List.take_left,
    List.drop_zero]
  rfl

/-- In front of a parenthesis that is never closed, a balanced text ends with any other
character. -/
theorem Balanced.ahead_of_unclosed {front behind tail : Text} {c : Char}
    (balanced : Balanced piece) (other : c ≠ '(') (inside : Nested front)
    (unclosed : Nested behind) (same : piece ++ c :: tail = front ++ '(' :: behind) :
    ∃ further, front = piece ++ c :: further ∧ tail = further ++ '(' :: behind := by
  rcases List.append_eq_append_iff.1 same with ⟨between, split, ends⟩ | ⟨between, split, ends⟩
  · cases between with
    | nil => exact absurd (List.cons.inj ends).1 other
    | cons d further =>
        obtain ⟨rfl, tail⟩ := List.cons.inj ends
        exact ⟨further, split, tail⟩
  · cases between with
    | nil => exact absurd (List.cons.inj ends).1.symm other
    | cons d between =>
        -- the parenthesis would be closed inside of the piece
        obtain ⟨rfl, later⟩ := List.cons.inj ends
        have closed := balanced.closed
        have before := inside front (List.prefix_refl front)
        have within := unclosed between ⟨c :: tail, later.symm⟩
        rw [split, depth_append, depth_opening] at closed
        omega

end Pieces

namespace CutInto

variable {text : Text} {pieces : List Text}

/-- The pieces of a parameter list are the ones found by counting. -/
theorem countedPieces_eq (cut : CutInto text pieces) : countedPieces text = pieces := by
  induction cut with
  | unclosed enclosed => exact countedPieces_enclosed enclosed
  | closed balanced tail => exact countedPieces_closed balanced tail
  | comma balanced later inductionHypothesis =>
      rw [countedPieces_comma balanced, inductionHypothesis]

/-- So they are the ones that the splitter finds. -/
theorem piecesFrom_eq (cut : CutInto text pieces) : piecesFrom [] text = pieces := by
  rw [← (cutInto_pieces text).countedPieces_eq, cut.countedPieces_eq]

/-- A parenthesis inside of the list that is never closed belongs to the last piece, with all that
stands behind it. -/
theorem last_of_unclosed {front behind : Text} (cut : CutInto text pieces)
    (whole : text = front ++ '(' :: behind) (inside : Nested front) (unclosed : Nested behind) :
    ∃ earlier begun, begun <:+ front ∧ pieces = earlier ++ [begun ++ '(' :: behind] := by
  induction cut generalizing front with
  | unclosed enclosed =>
      exact ⟨[], front, List.suffix_refl front, congrArg (fun piece => [piece]) whole⟩
  | @closed piece balanced tail =>
      obtain ⟨further, rfl, -⟩ := balanced.ahead_of_unclosed (by decide) inside unclosed whole
      have level := inside (piece ++ [')']) ⟨further, by simp⟩
      simp [balanced.closed] at level
  | @comma piece rest pieces balanced later inductionHypothesis =>
      obtain ⟨further, rfl, split⟩ := balanced.ahead_of_unclosed (by decide) inside unclosed whole
      have nested : Nested further := fun lead within => by
        have level := inside (piece ++ ',' :: lead)
          ((List.prefix_append_right_inj piece).2 ((List.prefix_cons_inj ',').2 within))
        rwa [depth_append, balanced.closed, depth_comma, Int.zero_add] at level
      obtain ⟨earlier, begun, part, result⟩ := inductionHypothesis split nested
      refine ⟨piece :: earlier, begun, part.trans ?_, congrArg (piece :: ·) result⟩
      exact (List.suffix_cons ',' further).trans (List.suffix_append piece _)

end CutInto

section Stripping

variable {piece inner : Text}

/-- The arguments of a signature are trimmed of white space. -/
theorem isSpace_eq_true_iff {c : Char} : Text.isSpace c = true ↔ c.toNat ∈ whiteSpace := by
  simp only [Text.isSpace, whiteSpace, Bool.or_eq_true, Bool.and_eq_true, beq_iff_eq,
    decide_eq_true_eq, List.mem_cons, List.not_mem_nil, or_false]
  omega

/-- They are not trimmed of anything else. -/
theorem isSpace_eq_false_iff {c : Char} : Text.isSpace c = false ↔ c.toNat ∉ whiteSpace := by
  rw [← isSpace_eq_true_iff, Bool.not_eq_true]

/-- Trimming strips a piece of its white space. -/
theorem strips_stripped (piece : Text) : Strips piece (Text.stripped piece) where
  around := by
    obtain ⟨leading, trailing, whole, front, back⟩ :=
      Text.exists_trimmedEnds Text.isSpace piece
    refine ⟨leading, trailing, whole, List.forall_mem_append.mpr ⟨?_, ?_⟩⟩
    · exact fun c held => isSpace_eq_true_iff.mp (front c held)
    · exact fun c held => isSpace_eq_true_iff.mp (back c held)
  first c found := isSpace_eq_false_iff.mp ((Text.isTrimmed_trim Text.isSpace piece).first c found)
  last c found := isSpace_eq_false_iff.mp ((Text.isTrimmed_trim Text.isSpace piece).last c found)

/-- Nothing else is the piece without its white space. -/
theorem Strips.eq_stripped (strips : Strips piece inner) : inner = Text.stripped piece := by
  obtain ⟨leading, trailing, whole, blanks⟩ := strips.around
  obtain ⟨front, back⟩ := List.forall_mem_append.mp blanks
  have surrounded : Text.Surrounded Text.isSpace inner piece :=
    ⟨leading, trailing, whole, fun c held => isSpace_eq_true_iff.mpr (front c held),
      fun c held => isSpace_eq_true_iff.mpr (back c held)⟩
  have trimmed : Text.IsTrimmed Text.isSpace inner :=
    { first := fun c found => isSpace_eq_false_iff.mpr (strips.first c found)
      last := fun c found => isSpace_eq_false_iff.mpr (strips.last c found) }
  rw [Text.stripped, surrounded.trim_eq, trimmed.trim_eq]

/-- The pieces of a parameter list are stripped one by one. -/
theorem forall₂_strips_iff {pieces found : List Text} :
    List.Forall₂ Strips pieces found ↔ found = pieces.map Text.stripped := by
  constructor
  · intro each
    induction each with
    | nil => rfl
    | cons strips _ inductionHypothesis =>
        rw [List.map_cons, ← strips.eq_stripped, ← inductionHypothesis]
  · rintro rfl
    exact List.forall₂_map_right_iff.mpr
      (List.forall₂_same.mpr fun piece _ => strips_stripped piece)

/-- Stripping keeps a parenthesis. -/
theorem stripped_ne_nil (front behind : Text) : Text.stripped (front ++ '(' :: behind) ≠ [] := by
  have visible : Text.isSpace '(' = false := by decide
  rw [Text.stripped, Text.trim, Text.trimStart_append_cons visible,
    Text.trimEnd_append_cons visible]
  simp

end Stripping

/-- The arguments of a parameter list are those found by counting parentheses, whatever the text. A
parenthesis in the list that is never closed makes all that stands behind it a part of the last
argument. -/
theorem arguments_counted (text : Text) :
    (∀ found, IsCounted text found ↔ found = arguments text) ∧
      ∀ front behind, text = front ++ '(' :: behind → Nested front → Nested behind →
        ∃ earlier begun last, begun <:+ front ∧ Strips (begun ++ '(' :: behind) last ∧
          arguments text = earlier ++ [last] := by
  have cut := cutInto_pieces text
  refine ⟨fun found => ?_, fun front behind whole inside unclosed => ?_⟩
  · simp only [IsCounted, cut.countedPieces_eq, forall₂_strips_iff, exists_eq_left]
    rfl
  · obtain ⟨earlier, begun, part, spelled⟩ := cut.last_of_unclosed whole inside unclosed
    have kept := stripped_ne_nil begun behind
    refine ⟨(earlier.map Text.stripped).filter fun argument => !argument.isEmpty, begun,
      Text.stripped (begun ++ '(' :: behind), part, strips_stripped _, ?_⟩
    rw [arguments, spelled]
    simp [kept]

/-- In a list with a group that is never closed, the comma behind its parenthesis cuts nothing. -/
theorem arguments_counted_unclosed :
    IsCounted " a ,, \u2003f(b, c ".toList ["a".toList, "f(b, c".toList] ∧
      arguments " a ,, \u2003f(b, c ".toList = ["a".toList, "f(b, c".toList] ∧
      Nested " a ,, \u2003f".toList ∧ Nested "b, c ".toList ∧
        ∃ earlier begun last, begun <:+ " a ,, \u2003f".toList ∧
          Strips (begun ++ '(' :: "b, c ".toList) last ∧
          arguments " a ,, \u2003f(b, c ".toList = earlier ++ [last] := by
  have inside : Nested " a ,, \u2003f".toList := by decide
  have unclosed : Nested "b, c ".toList := by decide
  have found : arguments " a ,, \u2003f(b, c ".toList = ["a".toList, "f(b, c".toList] := by
    decide +kernel
  obtain ⟨counted, last⟩ := arguments_counted " a ,, \u2003f(b, c ".toList
  exact ⟨(counted _).mpr found.symm, found, inside, unclosed, last _ _ rfl inside unclosed⟩

end EditorData.Signature
