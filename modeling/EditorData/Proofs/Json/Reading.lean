import EditorData.Proofs.Dictionary
import EditorData.Proofs.Json.Tokens
import EditorData.Proofs.Json.Values

/-!
# What is read

A value that has been read is regular, and has no more arrays and objects in one another than may be
open at once. This holds of what the reader has put into the arrays and objects that are still open
(`FramesFit`), and every token that it takes keeps it (`Fit.step`).
-/

namespace EditorData.Json

/-- The values that have been read of an array or object. -/
def Frame.values : Frame -> List Json
  | .array items => items
  | .object members _ => members.map Prod.snd

/-- The keys that have been read of an object. -/
def Frame.keys : Frame -> List Codes
  | .array _ => []
  | .object members key => key :: members.map Prod.fst

/-- A value that has been read is regular, and has no more arrays and objects in it than there is
room for. Other values count for nothing. -/
abbrev FitsInside (room around : Nat) (value : Json) : Prop :=
  Fits (fun _ => 0) room around value

variable {room : Nat}

/-- What has been read of the open arrays and objects fits into them. -/
inductive FramesFit (room : Nat) : List Frame -> Prop
  | nil : FramesFit room []
  | cons {frame : Frame} {outer : List Frame} (below : outer.length < room)
      (keys : ∀ key ∈ frame.keys, isJoined key = true)
      (values : ∀ value ∈ frame.values, FitsInside room (outer.length + 1) value)
      (behind : FramesFit room outer) : FramesFit room (frame :: outer)

/-- What has been read fits, wherever the reader stands. -/
def Reading.Fit (room : Nat) : Reading -> Prop
  | .value frames _ => FramesFit room frames
  | .key frames members _ => FramesFit room (.object members [] :: frames)
  | .colon frames members name => FramesFit room (.object members name :: frames)
  | .arrayNext frames items => FramesFit room (.array items :: frames)
  | .objectNext frames members => FramesFit room (.object members [] :: frames)
  | .complete json => FitsInside room 0 json

section Fitting

variable {frames : List Frame} {value : Json}

/-- The key that comes next is regular if it is that of a string that has been read. -/
theorem FramesFit.rekey {members : List (Codes × Json)} {key : Codes}
    (fit : FramesFit room (.object members key :: frames)) {other : Codes}
    (joined : isJoined other = true) : FramesFit room (.object members other :: frames) := by
  cases fit with
  | cons below keys values behind =>
      have others := (List.forall_mem_cons.mp keys).2
      exact .cons below (List.forall_mem_cons.mpr ⟨joined, others⟩) values behind

/-- No more arrays and objects are open than may be. -/
theorem FramesFit.length_le (fit : FramesFit room frames) : frames.length ≤ room := by
  cases fit with
  | nil => exact Nat.zero_le _
  | cons below => exact below

/-- A complete value that fits is put where it belongs. -/
theorem FramesFit.place (fit : FramesFit room frames)
    (fits : FitsInside room frames.length value) : (place frames value).Fit room := by
  cases fit with
  | nil => exact fits
  | @cons frame outer below keys values behind =>
      have inside : FitsInside room (outer.length + 1) value := fits
      cases frame with
      | array items => exact .cons below nofun (List.forall_mem_cons.mpr ⟨inside, values⟩) behind
      | object members key =>
          exact .cons below (List.forall_mem_cons.mpr ⟨rfl, keys⟩)
            (List.forall_mem_cons.mpr ⟨inside, values⟩) behind

/-- A regular value that is no array and no object is put where it belongs. -/
theorem FramesFit.place_flat (fit : FramesFit room frames) (regular : value.all isRegular = true)
    (flat : value.depth (fun _ => 0) = 0) : (Json.place frames value).Fit room :=
  fit.place ⟨regular, by rw [flat]; exact fit.length_le⟩

end Fitting

/-- A token that is a value is regular, and no array and no object. -/
def Token.Flat (token : Token) : Prop :=
  ∀ value, token = .scalar value → value.all isRegular = true ∧ value.depth (fun _ => 0) = 0

section Tokens

variable {text rest : Text} {token : Token}

/-- Decimal digits write a number with no more digits. -/
theorem length_ofNat_decimalValue_le {digits : Text} (decimal : ∀ c ∈ digits, isDecimal c = true)
    (present : digits ≠ []) : (Text.ofNat (decimalValue digits)).length ≤ digits.length := by
  have below (start : Nat) : digits.foldl (fun value c => value * 10 + (c.toNat - 48)) start <
      (start + 1) * 10 ^ digits.length := by
    clear present
    induction digits generalizing start with
    | nil => simp
    | cons c digits inductionHypothesis =>
        obtain ⟨first, later⟩ := List.forall_mem_cons.mp decimal
        have digit : c.toNat ≤ 57 := of_decide_eq_true (Bool.and_eq_true_iff.mp first).2
        have step : start * 10 + (c.toNat - 48) + 1 ≤ (start + 1) * 10 := by omega
        calc (c :: digits).foldl (fun value c => value * 10 + (c.toNat - 48)) start
            _ < (start * 10 + (c.toNat - 48) + 1) * 10 ^ digits.length :=
              inductionHypothesis later _
            _ ≤ (start + 1) * 10 * 10 ^ digits.length := Nat.mul_le_mul_right _ step
            _ = (start + 1) * 10 ^ (c :: digits).length := by
              rw [List.length_cons, Nat.pow_succ', Nat.mul_assoc]
  have bound := below 0
  rw [Nat.zero_add, Nat.one_mul] at bound
  exact (Nat.length_toDigits_le_iff (by decide) (List.length_pos_iff.mpr present)).mpr bound

/-- The integer part of a number is made up of digits. -/
theorem digits_of_splitInteger? {whole : Text} (split : splitInteger? text = some (whole, rest)) :
    (∀ c ∈ whole, isDecimal c = true) ∧ whole ≠ [] := by
  unfold splitInteger? at split
  split at split
  · obtain ⟨rfl, -⟩ := Prod.mk.inj (Option.some.inj split)
    exact ⟨List.forall_mem_singleton.mpr rfl, List.cons_ne_nil '0' []⟩
  · next c tail _ =>
      split at split
      · next decimal =>
          obtain ⟨rfl, -⟩ := Prod.mk.inj (Option.some.inj split)
          refine ⟨fun d member => List.all_eq_true.mp List.all_takeWhile d member, ?_⟩
          simp [decimal]
      · cases split
  · cases split

/-- A number is a token with a regular value, or without value if it is too long. -/
theorem flat_of_splitNumber? {negative : Bool}
    (split : splitNumber? negative text = some (token, rest)) : token.Flat := by
  obtain ⟨⟨whole, behind⟩, found, pair⟩ := Option.map_eq_some_iff.mp split
  obtain ⟨decimal, present⟩ := digits_of_splitInteger? found
  have short := length_ofNat_decimalValue_le decimal present
  dsimp only at pair
  split at pair
  · split at pair
    · obtain ⟨rfl, -⟩ := Prod.mk.inj pair
      exact nofun
    · next few =>
        obtain ⟨rfl, -⟩ := Prod.mk.inj pair
        rintro value ⟨⟩
        refine ⟨decide_eq_true ?_, rfl⟩
        have magnitude : (if negative = true then -(decimalValue whole : Int)
            else (decimalValue whole : Int)).natAbs = decimalValue whole := by
          split <;> simp
        rw [magnitude]
        exact Nat.le_trans short (Nat.not_lt.mp few)
  · obtain ⟨rfl, -⟩ := Prod.mk.inj pair
    rintro value ⟨⟩
    exact ⟨rfl, rfl⟩

/-- A word is a token with a regular value. -/
theorem flat_of_splitWord? (split : splitWord? text = some (token, rest)) : token.Flat := by
  obtain ⟨⟨word, named⟩, member, found⟩ := List.exists_of_findSome?_eq_some split
  obtain ⟨rest', -, pair⟩ := Option.map_eq_some_iff.mp found
  obtain ⟨rfl, -⟩ := Prod.mk.inj pair
  simp only [words, List.mem_cons, List.not_mem_nil, or_false, Prod.mk.injEq] at member
  rcases member with ⟨-, rfl⟩ | ⟨-, rfl⟩ | ⟨-, rfl⟩ | ⟨-, rfl⟩ | ⟨-, rfl⟩ | ⟨-, rfl⟩ <;>
    rintro value ⟨⟩ <;> exact ⟨rfl, rfl⟩

/-- A token that is a value is regular, and no array and no object. -/
theorem flat_of_splitToken? (split : splitToken? text = some (token, rest)) : token.Flat := by
  unfold splitToken? at split
  split at split
  case h_7 =>
    obtain ⟨⟨units, after⟩, -, pair⟩ := Option.map_eq_some_iff.mp split
    obtain ⟨rfl, -⟩ := Prod.mk.inj pair
    rintro value ⟨⟩
    exact ⟨isJoined_ofUnits units, rfl⟩
  case h_8 =>
    split at split
    · next found =>
        obtain rfl := Option.some.inj split
        exact flat_of_splitWord? found
    · split at split
      · exact flat_of_splitNumber? split
      · exact flat_of_splitNumber? split
  all_goals
    obtain ⟨rfl, -⟩ := Prod.mk.inj (Option.some.inj split)
    exact nofun

end Tokens

namespace Reading

variable {reading next : Reading} {token : Token} {value : Json}

/-- A token in the place of a value keeps what has been read fitting. -/
theorem fit_of_stepValue {frames : List Frame} {fresh : Bool} (fit : FramesFit room frames)
    (flat : token.Flat) (steps : stepValue room frames fresh token = .ok next) :
    next.Fit room := by
  unfold stepValue at steps
  split at steps
  case h_1 json =>
    cases steps
    exact fit.place_flat (flat json rfl).1 (flat json rfl).2
  case h_2 number =>
    split at steps
    · cases steps
      exact fit.place_flat rfl rfl
    · cases steps
  case h_3 => cases steps
  case h_4 =>
    split at steps
    · next below =>
        cases steps
        exact .cons below nofun nofun fit
    · cases steps
  case h_5 =>
    split at steps
    · next below =>
        cases steps
        exact .cons below (List.forall_mem_singleton.mpr rfl) nofun fit
    · cases steps
  case h_6 =>
    split at steps
    · cases steps
      cases fit with
      | cons below keys values behind => exact behind.place (.array below nofun)
    · cases steps
  case h_7 => cases steps

/-- Every token that is taken keeps what has been read fitting. -/
theorem Fit.step (fit : reading.Fit room) (flat : token.Flat)
    (steps : reading.step room token = .ok next) : next.Fit room := by
  unfold Reading.step at steps
  split at steps
  case h_1 => exact fit_of_stepValue fit flat steps
  case h_2 name =>
    cases steps
    exact fit.rekey (flat _ rfl).1
  case h_3 =>
    cases steps
    cases fit with
    | cons below keys values behind =>
        exact behind.place (.object below List.nodup_nil nofun nofun)
  case h_4 =>
    cases steps
    exact fit
  case h_5 =>
    cases steps
    exact fit
  case h_6 =>
    cases steps
    cases fit with
    | cons below keys values behind =>
        exact behind.place (.array below fun item member =>
          values item (List.mem_reverse.mp member))
  case h_7 =>
    cases steps
    exact fit
  case h_8 frames members =>
    cases steps
    cases fit with
    | cons below keys values behind =>
        have read {member : Codes × Json} (held : member ∈ Dictionary.ofList members.reverse) :
            member ∈ members :=
          List.mem_reverse.mp (Dictionary.mem_of_mem_ofList held)
        exact behind.place (.object below (Dictionary.nodup_keys_ofList _)
          (fun member held => keys _ (List.mem_cons_of_mem _ (List.mem_map_of_mem (read held))))
          fun member held => values _ (List.mem_map_of_mem (read held)))
  case h_9 => cases steps

/-- A value that is read to its end fits. -/
theorem Fit.run {text : Text} (fit : reading.Fit room)
    (done : reading.run room text = .ok value) : FitsInside room 0 value := by
  fun_induction Reading.run room reading text with
  | case1 text gap json =>
      cases done
      exact fit
  | case2 => cases done
  | case3 => cases done
  | case4 => cases done
  | case5 reading text c rest gap token after found next steps inductionHypothesis =>
      exact inductionHypothesis (fit.step (flat_of_splitToken? found) steps) done

end Reading

/-- A value that has been read is regular, and its arrays and objects have had room. -/
theorem fits_of_read {text : Text} {value : Json} (done : read room text = .ok value) :
    FitsInside room 0 value :=
  Reading.Fit.run (show (Reading.value [] false).Fit room from FramesFit.nil) done

end EditorData.Json
