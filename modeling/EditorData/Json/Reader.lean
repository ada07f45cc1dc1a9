import EditorData.Json.Token

/-!
# Reading JSON

The reader takes the tokens one by one. It keeps the arrays and objects that are still
open, innermost first, with what has been read of them in reverse, and knows which token
may come next. A text is a JSON text when its tokens lead the reader from its beginning to
a complete value. The first fault counts: a token that may not come, an integer that is too
long, or an array or object inside too many others. Where a key occurs twice in an object,
the last value counts, at the place of the first.
-/

namespace EditorData.Json

/-- Why a text is not read as a JSON text. -/
inductive Fault where
  | malformed
  /-- An integer with more digits than an integer may have. -/
  | tooManyDigits (count : Nat)
  /-- Too many arrays and objects in one another. -/
  | tooDeep
deriving DecidableEq, Repr

/-- An array or object that is still open. -/
inductive Frame where
  | array (items : List Json)
  | object (members : List (Codes × Json)) (key : Codes)
deriving Repr

/-- What the reader waits for. -/
inductive Reading where
  /-- A value; where an array has just been opened, also its end. -/
  | value (frames : List Frame) (fresh : Bool)
  /-- A key; where an object has just been opened, also its end. -/
  | key (frames : List Frame) (members : List (Codes × Json)) (fresh : Bool)
  /-- The colon behind a key. -/
  | colon (frames : List Frame) (members : List (Codes × Json)) (key : Codes)
  /-- A comma or the end of the innermost array, behind an item. -/
  | arrayNext (frames : List Frame) (items : List Json)
  /-- A comma or the end of the innermost object, behind a member. -/
  | objectNext (frames : List Frame) (members : List (Codes × Json))
  /-- Nothing more. -/
  | complete (value : Json)
deriving Repr

/-- The object of members read in reverse. -/
def ofMembers (members : List (Codes × Json)) : Json :=
  .object (Dictionary.ofList members.reverse)

/-- Put a complete value into the innermost open array or object. -/
def place : List Frame -> Json -> Reading
  | [], json => .complete json
  | .array items :: frames, json => .arrayNext frames (json :: items)
  | .object members key :: frames, json => .objectNext frames ((key, json) :: members)

/-- Read one token in the place of a value, with so much room for arrays and objects. -/
def Reading.stepValue (room : Nat) (frames : List Frame) (fresh : Bool) :
    Token -> Except Fault Reading
  | .scalar json => .ok (place frames json)
  | .named number =>
      if frames.length < room then .ok (place frames (.real number)) else .error .tooDeep
  | .longInteger digits => .error (.tooManyDigits digits)
  | .openArray =>
      if frames.length < room then .ok (.value (.array [] :: frames) true)
      else .error .tooDeep
  | .openObject =>
      if frames.length < room then .ok (.key frames [] true) else .error .tooDeep
  | .closeArray =>
      match fresh, frames with
      | true, .array [] :: outer => .ok (place outer (.array []))
      | _, _ => .error .malformed
  | _ => .error .malformed

/-- Read one token. -/
def Reading.step (room : Nat) : Reading -> Token -> Except Fault Reading
  | .value frames fresh, token => stepValue room frames fresh token
  | .key frames members _, .scalar (.string name) => .ok (.colon frames members name)
  | .key frames _ true, .closeObject => .ok (place frames (.object []))
  | .colon frames members name, .colon => .ok (.value (.object members name :: frames) false)
  | .arrayNext frames items, .comma => .ok (.value (.array items :: frames) false)
  | .arrayNext frames items, .closeArray => .ok (place frames (.array items.reverse))
  | .objectNext frames members, .comma => .ok (.key frames members false)
  | .objectNext frames members, .closeObject => .ok (place frames (ofMembers members))
  | _, _ => .error .malformed

/-- What follows a string is shorter than the text behind its opening quote. -/
theorem length_of_splitString? {text rest : Text} {units : List Nat}
    (split : splitString? text = some (units, rest)) : rest.length < text.length := by
  fun_induction splitString? text generalizing units with
  | case1 => simp at split
  | case2 => simp at split; simp [split]
  | case3 a b c d text unit _ inductionHypothesis =>
      obtain ⟨⟨units', rest'⟩, found, pair⟩ := Option.map_eq_some_iff.1 split
      obtain ⟨rfl, rfl⟩ := Prod.mk.inj pair
      have shorter := inductionHypothesis found
      simp only [id_eq, List.length_cons] at shorter ⊢
      omega
  | case4 => simp at split
  | case5 c text _ escaped _ inductionHypothesis =>
      obtain ⟨⟨units', rest'⟩, found, pair⟩ := Option.map_eq_some_iff.1 split
      obtain ⟨rfl, rfl⟩ := Prod.mk.inj pair
      have shorter := inductionHypothesis found
      simp only [id_eq, List.length_cons] at shorter ⊢
      omega
  | case6 => simp at split
  | case7 => simp at split
  | case8 c text _ _ _ _ inductionHypothesis =>
      obtain ⟨⟨units', rest'⟩, found, pair⟩ := Option.map_eq_some_iff.1 split
      obtain ⟨rfl, rfl⟩ := Prod.mk.inj pair
      have shorter := inductionHypothesis found
      simp only [id_eq, List.length_cons] at shorter ⊢
      omega

/-- Dropping characters makes no text longer. -/
theorem length_dropWhile_le (keep : Char -> Bool) (text : Text) :
    (text.dropWhile keep).length ≤ text.length :=
  (List.dropWhile_sublist keep).length_le

/-- What follows a fraction is no longer than the text. -/
theorem length_splitFraction (text : Text) : (splitFraction text).2.length ≤ text.length := by
  unfold splitFraction
  split
  · split
    · next c rest _ =>
        have shorter := length_dropWhile_le isDecimal rest
        simp
        omega
    · simp
  · simp

/-- What follows an exponent is no longer than the text. -/
theorem length_splitExponent (text : Text) : (splitExponent text).2.length ≤ text.length := by
  have shorter (digits : Text) := length_dropWhile_le isDecimal digits
  unfold splitExponent
  dsimp only
  split
  · next e rest =>
      split
      · split
        all_goals
          split
          · simp
          · next digits _ =>
              first
              | exact Nat.le_succ_of_le (Nat.le_succ_of_le (shorter _))
              | exact Nat.le_succ_of_le (shorter _)
      · simp
  · simp

/-- What follows the integer part of a number is shorter than the text. -/
theorem length_of_splitInteger? {text whole rest : Text}
    (split : splitInteger? text = some (whole, rest)) : rest.length < text.length := by
  unfold splitInteger? at split
  split at split
  · obtain ⟨rfl, rfl⟩ := Prod.mk.inj (Option.some.inj split)
    simp
  · next c tail _ =>
      split at split
      · next decimal =>
          obtain ⟨rfl, rfl⟩ := Prod.mk.inj (Option.some.inj split)
          have shorter := length_dropWhile_le isDecimal tail
          simp [decimal]
          omega
      · simp at split
  · simp at split

/-- What follows a number is shorter than the text. -/
theorem length_of_splitNumber? {negative : Bool} {text rest : Text} {token : Token}
    (split : splitNumber? negative text = some (token, rest)) : rest.length < text.length := by
  obtain ⟨⟨whole, behind⟩, found, pair⟩ := Option.map_eq_some_iff.1 split
  have integer := length_of_splitInteger? found
  have fraction := length_splitFraction behind
  have exponent := length_splitExponent (splitFraction behind).2
  dsimp only at pair
  split at pair
  · split at pair <;> obtain ⟨_, rfl⟩ := Prod.mk.inj pair <;> omega
  · obtain ⟨_, rfl⟩ := Prod.mk.inj pair
    omega

/-- What follows a word is shorter than the text. -/
theorem length_of_splitWord? {text rest : Text} {token : Token}
    (split : splitWord? text = some (token, rest)) : rest.length < text.length := by
  obtain ⟨⟨word, named⟩, member, found⟩ := List.exists_of_findSome?_eq_some split
  obtain ⟨rest', hit, pair⟩ := Option.map_eq_some_iff.1 found
  obtain ⟨rfl, rfl⟩ := Prod.mk.inj pair
  rw [Text.eq_append_of_after? hit, List.length_append]
  have positive : 0 < word.length := by
    simp [words] at member
    rcases member with same | same | same | same | same | same <;> simp [same.1]
  omega

/-- What follows a token is shorter than the text. -/
theorem length_of_splitToken? {text rest : Text} {token : Token}
    (split : splitToken? text = some (token, rest)) : rest.length < text.length := by
  unfold splitToken? at split
  split at split
  case h_7 behind =>
      obtain ⟨⟨units, after⟩, found, pair⟩ := Option.map_eq_some_iff.1 split
      obtain ⟨rfl, rfl⟩ := Prod.mk.inj pair
      have shorter := length_of_splitString? found
      simp
      omega
  case h_8 =>
      split at split
      · next found =>
          obtain rfl := Option.some.inj split
          exact length_of_splitWord? found
      · split at split
        · have shorter := length_of_splitNumber? split
          simp
          omega
        · exact length_of_splitNumber? split
  all_goals
    obtain ⟨rfl, rfl⟩ := Prod.mk.inj (Option.some.inj split)
    simp

/-- Read the tokens of a text from a place on, up to the first one that may not come. -/
def Reading.run (room : Nat) (reading : Reading) (text : Text) : Except Fault Json :=
  match _gap : text.dropWhile isGap with
  | [] =>
      match reading with
      | .complete json => .ok json
      | _ => .error .malformed
  | c :: rest =>
      match _found : splitToken? (c :: rest) with
      | none => .error .malformed
      | some (token, after) =>
          match reading.step room token with
          | .error fault => .error fault
          | .ok next => next.run room after
termination_by text.length
decreasing_by
  have shorter := length_of_splitToken? _found
  have gapless := length_dropWhile_le isGap text
  rw [_gap] at gapless
  omega

/-- The value that a text writes, read with so much room for arrays and objects. -/
def read (room : Nat) (text : Text) : Except Fault Json :=
  (Reading.value [] false).run room text

end EditorData.Json
