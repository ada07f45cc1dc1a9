import EditorData.Proofs.Json.RoundTrip

/-!
# Where reading stops

Not every text that is printed is read again. An integer may have too many digits
(`read_print_integer`), and an array or object may be inside too many others
(`read_print_nested`).
-/

namespace EditorData.Json

/-- A one with as many zeros. -/
def powerOfTen (exponent : Nat) : Json :=
  .integer (Int.ofNat (Nat.pow 10 exponent))

/-- An array inside as many others. -/
def nested : Nat -> Json
  | 0 => .array []
  | count + 1 => .array [nested count]

/-- The arrays are all in one another. -/
theorem depth_nested (leaf : Json -> Nat) (count : Nat) :
    (nested count).depth leaf = count + 1 := by
  induction count with
  | zero => rfl
  | succ count inductionHypothesis =>
      show max ((nested count).depth leaf) 0 + 1 = _
      rw [inductionHypothesis, Nat.max_zero]

/-- Arrays in one another have nothing else in them. -/
theorem all_nested {check : Json -> Bool} (arrays : ∀ items, check (.array items) = true)
    (count : Nat) : (nested count).all check = true := by
  induction count with
  | zero => exact all_array_iff.mpr ⟨arrays [], nofun⟩
  | succ count inductionHypothesis =>
      exact all_array_iff.mpr ⟨arrays _, List.forall_mem_singleton.mpr inductionHypothesis⟩

variable {room : Nat}

/-- Arrays in one another fit if there is room for all of them. -/
theorem fits_nested {leaf : Json -> Nat} {around count : Nat} (within : around + count < room) :
    Fits leaf room around (nested count) :=
  ⟨all_nested (fun _ => rfl) count, by rw [depth_nested]; exact within⟩

namespace Reading

variable {reading : Reading} {token : Token} {text after : Text} {fault : Fault}

/-- A token that may not come ends the reading, whatever follows it. -/
theorem run_fault (found : splitToken? text = some (token, after))
    (fails : reading.step room token = .error fault) : reading.run room text = .error fault := by
  cases text with
  | nil => cases found
  | cons c rest =>
      rw [run_eq, dropWhile_of_splitToken? found, runToken, found]
      dsimp only
      rw [fails]

/-- The first array for which there is no room ends the reading. -/
theorem run_nested (count depth : Nat) (frames : List Frame) (fresh : Bool) (rest : Text)
    (few : frames.length ≤ room) (many : room ≤ frames.length + count) :
    (Reading.value frames fresh).run room (printAt depth (nested count) ++ rest) =
      .error .tooDeep := by
  have opening : ∃ behind, splitToken? (printAt depth (nested count) ++ rest) =
      some (.openArray, behind) := by
    cases count <;> exact ⟨_, rfl⟩
  obtain ⟨behind, found⟩ := opening
  rcases Nat.lt_or_eq_of_le few with below | full
  · cases count with
    | zero => omega
    | succ count =>
        have opened : splitToken? (printAt depth (nested (count + 1)) ++ rest) = some (.openArray,
            newLine (depth + 1) ++ (printAt (depth + 1) (nested count) ++
              (newLine depth ++ ']' :: rest))) := by
          rw [nested, printAt]
          simp only [printItems, List.cons_append, List.append_assoc, List.nil_append]
          rfl
        have opens : (Reading.value frames fresh).step room .openArray =
            .ok (.value (.array [] :: frames) true) := if_pos below
        rw [run_token opened opens, run_gap isGap_of_mem_newLine]
        exact run_nested count (depth + 1) (.array [] :: frames) true _ below
          (by rw [List.length_cons]; omega)
  · exact run_fault found (if_neg (by rw [full]; exact Nat.lt_irrefl _))

end Reading

/-- A printed integer is read again exactly if it does not have too many digits. -/
theorem read_print_integer (value : Int) :
    read room (print (.integer value)) =
      if Text.digitLimit < (Text.ofNat value.natAbs).length then
        .error (.tooManyDigits (Text.ofNat value.natAbs).length)
      else .ok (.integer value) := by
  have ends : EndsNumber [] := nofun
  have found := splitToken?_ofInt ends value
  rw [List.append_nil] at found
  split at found
  · next long =>
      rw [if_pos long]
      exact Reading.run_fault found rfl
  · next short =>
      rw [if_neg short, read, print, printAt, Reading.run_token found rfl]
      exact Reading.run_complete (List.forall_mem_nil _) _

/-- A power of ten has too many digits from the limit on. -/
theorem read_print_powerOfTen {exponent : Nat} (many : Text.digitLimit ≤ exponent) :
    read room (print (powerOfTen exponent)) = .error (.tooManyDigits (exponent + 1)) := by
  rw [powerOfTen, read_print_integer, Int.natAbs_ofNat', Text.length_ofNat_pow]
  exact if_pos (Nat.lt_succ_of_le many)

/-- Arrays in one another are read again exactly if they are not too many. -/
theorem read_print_nested (count : Nat) :
    read room (print (nested count)) =
      if room ≤ count then .error .tooDeep else .ok (nested count) := by
  split
  · next many =>
      have stopped := Reading.run_nested count 0 [] false [] (Nat.zero_le _) (by simpa using many)
      rw [List.append_nil] at stopped
      exact stopped
  · next few =>
      have fits : Fits namedDepth room 0 (nested count) := fits_nested (by omega)
      have exact : (nested count).all isExact = true := all_nested (fun _ => rfl) count
      have complete : read room (print (nested count) ++ []) = .ok (nested count) :=
        read_print fits exact nofun
      rw [List.append_nil] at complete
      exact complete

end EditorData.Json
