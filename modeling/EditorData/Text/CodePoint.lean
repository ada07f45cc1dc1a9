import EditorData.Text.Utf8

/-!
# Code points

A text holds characters of Unicode. A string that is written by its code units may also hold
surrogates that are no half of a pair; it is then no text and has no bytes in UTF-8. Such
strings are lists of code points: `ofCodes?_eq_some_iff` says which of them are texts.
-/

namespace EditorData

/-- A code point: a character of Unicode, or a surrogate, counted from the first one. -/
inductive CodePoint where
  | char (value : Char)
  | surrogate (index : Fin 0x800)
deriving DecidableEq, Repr

/-- Code points one after the other. -/
abbrev Codes := List CodePoint

namespace CodePoint

/-- The character of a code point, unless it is a surrogate. -/
def char? : CodePoint -> Option Char
  | .char value => some value
  | .surrogate _ => none

/-- Whether a code point is a surrogate of the first half, which begin pairs. -/
def isHigh : CodePoint -> Bool
  | .char _ => false
  | .surrogate index => index.val < 0x400

/-- Whether a code point is a surrogate of the second half, which end pairs. -/
def isLow : CodePoint -> Bool
  | .char _ => false
  | .surrogate index => 0x400 ≤ index.val

/-- The surrogates of the first half are the first ones. -/
@[simp] theorem isHigh_surrogate_iff {index : Fin 0x800} :
    (surrogate index).isHigh = true ↔ index.val < 0x400 :=
  decide_eq_true_iff

/-- The surrogates of the second half are the other ones. -/
@[simp] theorem isLow_surrogate_iff {index : Fin 0x800} :
    (surrogate index).isLow = true ↔ 0x400 ≤ index.val :=
  decide_eq_true_iff

end CodePoint

namespace Text

/-- The code points of a text. -/
def codes (text : Text) : Codes :=
  text.map .char

/-- The text of code points, unless there is a surrogate among them. -/
def ofCodes? (codes : Codes) : Option Text :=
  codes.mapM CodePoint.char?

/-- The bytes of code points, unless there is a surrogate among them. -/
def utf8OfCodes? (codes : Codes) : Option (List UInt8) :=
  (ofCodes? codes).map utf8

@[simp] theorem codes_nil : codes [] = [] := rfl

@[simp] theorem codes_cons (c : Char) (text : Text) : codes (c :: text) = .char c :: codes text :=
  rfl

@[simp] theorem codes_append (text rest : Text) : codes (text ++ rest) = codes text ++ codes rest :=
  List.map_append

/-- A text is made up of its code points. -/
@[simp] theorem ofCodes?_codes (text : Text) : ofCodes? (codes text) = some text := by
  induction text with
  | nil => rfl
  | cons c text inductionHypothesis =>
      rw [ofCodes?] at inductionHypothesis
      rw [codes_cons, ofCodes?, List.mapM_cons, inductionHypothesis]
      rfl

/-- Code points are those of a text exactly if there is no surrogate among them. -/
theorem ofCodes?_eq_some_iff {points : Codes} {text : Text} :
    ofCodes? points = some text ↔ points = codes text := by
  refine ⟨fun made => ?_, fun same => same ▸ ofCodes?_codes text⟩
  induction points generalizing text with
  | nil =>
      obtain rfl : [] = text := Option.some.inj made
      rfl
  | cons point points inductionHypothesis =>
      rw [ofCodes?, List.mapM_cons] at made
      cases point with
      | surrogate index => cases made
      | char c =>
          cases others : points.mapM CodePoint.char? with
          | none => rw [others] at made; cases made
          | some rest =>
              rw [others] at made
              obtain rfl : c :: rest = text := Option.some.inj made
              rw [codes_cons, inductionHypothesis others]

/-- Texts with the same code points are the same. -/
theorem codes_injective : Function.Injective codes := fun _ _ same =>
  Option.some.inj
    ((ofCodes?_codes _).symm.trans ((congrArg ofCodes? same).trans (ofCodes?_codes _)))

/-- The bytes of a text are those of its code points. -/
@[simp] theorem utf8OfCodes?_codes (text : Text) :
    utf8OfCodes? (codes text) = some (utf8 text) := by
  rw [utf8OfCodes?, ofCodes?_codes, Option.map_some]

/-- Code points without bytes are those of no text. -/
theorem utf8OfCodes?_eq_none_iff {points : Codes} :
    utf8OfCodes? points = none ↔ ofCodes? points = none := by
  rw [utf8OfCodes?, Option.map_eq_none_iff]

end Text

end EditorData
