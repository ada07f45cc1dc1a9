import EditorData.Json.Printer
import EditorData.Proofs.Dictionary
import EditorData.Proofs.Json.Tokens
import EditorData.Proofs.Json.Values

/-!
# Printing and reading back

The reader passes over blank space (`run_gap`) and takes one token after the other (`run_token`). So
it passes over a printed value as over one token with that value, in front of any text that does not
go on with a number (`RunsOver`): for arrays and objects by what is in them, if there is room for
them inside those that are open. A value is read back from its text if it is regular, has no finite
binary number and does not go deeper than there is room (`read_print`).
-/

namespace EditorData.Json

namespace Reading

variable {room : Nat} {reading next : Reading} {token : Token} {text after gap : Text}

/-- No token begins with blank space. -/
theorem splitToken?_of_isGap {c : Char} (gap : isGap c = true) (rest : Text) :
    splitToken? (c :: rest) = none := by
  simp only [isGap, Bool.or_eq_true, beq_iff_eq] at gap
  rcases gap with ((rfl | rfl) | rfl) | rfl <;> rfl

/-- Read on from the first character that is no blank space. -/
def runToken (room : Nat) (reading : Reading) (text : Text) : Except Fault Json :=
  match text with
  | [] =>
      match reading with
      | .complete json => .ok json
      | _ => .error .malformed
  | c :: rest =>
      match splitToken? (c :: rest) with
      | none => .error .malformed
      | some (token, after) =>
          match reading.step room token with
          | .error fault => .error fault
          | .ok next => next.run room after

/-- Reading goes on behind the blank space. -/
theorem run_eq (reading : Reading) (text : Text) :
    reading.run room text = reading.runToken room (text.dropWhile isGap) := by
  rw [run.eq_def]
  split
  · next nothing =>
      rw [nothing]
      rfl
  · next c rest begins =>
      rw [begins, runToken]
      split
      · next failed => simp only [failed]
      · next token after found =>
          cases steps : reading.step room token <;> simp only [found, steps]

/-- Blank space is passed over. -/
theorem run_gap (blank : ∀ c ∈ gap, isGap c = true) (reading : Reading) (text : Text) :
    reading.run room (gap ++ text) = reading.run room text := by
  rw [run_eq, run_eq, List.dropWhile_append_of_pos blank]

/-- There is no blank space in front of a token. -/
theorem dropWhile_of_splitToken? (found : splitToken? text = some (token, after)) :
    text.dropWhile isGap = text := by
  cases text with
  | nil => rfl
  | cons c rest =>
      refine List.dropWhile_cons_of_neg fun gap => ?_
      rw [splitToken?_of_isGap gap] at found
      cases found

/-- A token that may come next is taken, whatever follows it. -/
theorem run_token (found : splitToken? text = some (token, after))
    (steps : reading.step room token = .ok next) :
    reading.run room text = next.run room after := by
  cases text with
  | nil => cases found
  | cons c rest =>
      rw [run_eq, dropWhile_of_splitToken? found, runToken, found]
      dsimp only
      rw [steps]

/-- Behind a complete value there is nothing but blank space. -/
theorem run_complete (blank : ∀ c ∈ gap, isGap c = true) (value : Json) :
    (complete value).run room gap = .ok value := by
  have passed : (complete value).run room (gap ++ []) = (complete value).run room [] :=
    run_gap blank (complete value) []
  rw [List.append_nil] at passed
  rw [passed, run_eq]
  rfl

end Reading

/-- The beginning of a line is blank space. -/
theorem isGap_of_mem_newLine {depth : Nat} : ∀ c ∈ newLine depth, isGap c = true := by
  intro c member
  rcases List.mem_cons.mp member with rfl | spaces
  · rfl
  · rw [List.eq_of_mem_replicate spaces]
    rfl

/-- A number ends in front of a comma or of the end of a line. -/
theorem endsNumber_cons {c : Char} (border : c = ',' ∨ c = '\n') (rest : Text) :
    EndsNumber (c :: rest) := by
  rintro d ⟨⟩
  rcases border with rfl | rfl <;> decide

/-- A number ends in front of the beginning of a line. -/
theorem endsNumber_newLine (depth : Nat) (rest : Text) : EndsNumber (newLine depth ++ rest) :=
  endsNumber_cons (.inr rfl) _

/-- A number ends in front of further items. -/
theorem endsNumber_printItems (depth : Nat) (items : List Json) {rest : Text}
    (ends : EndsNumber rest) : EndsNumber (printItems depth items ++ rest) := by
  cases items with
  | nil => exact ends
  | cons item items =>
      rw [printItems]
      exact endsNumber_cons (.inl rfl) _

/-- A number ends in front of further members. -/
theorem endsNumber_printMembers (depth : Nat) (members : List (Codes × Json)) {rest : Text}
    (ends : EndsNumber rest) : EndsNumber (printMembers depth members ++ rest) := by
  cases members with
  | nil => exact ends
  | cons member members =>
      rw [printMembers]
      exact endsNumber_cons (.inl rfl) _

/-- The reader passes over the printed value as over one token with that value, wherever there is
room for the value. -/
def RunsOver (room : Nat) (value : Json) : Prop :=
  ∀ (depth : Nat) (frames : List Frame) (fresh : Bool) (rest : Text),
    frames.length + value.depth namedDepth ≤ room → EndsNumber rest →
      (Reading.value frames fresh).run room (printAt depth value ++ rest) =
        (place frames value).run room rest

variable {room : Nat}

/-- A value that is read as one token is passed over. -/
theorem RunsOver.of_token {value : Json}
    (found : ∀ depth rest, EndsNumber rest →
      splitToken? (printAt depth value ++ rest) = some (.scalar value, rest)) :
    RunsOver room value :=
  fun depth _ _ rest _ ends => Reading.run_token (found depth rest ends) rfl

/-- A value that is read by its name is passed over. -/
theorem RunsOver.of_name {number : Number.Binary64} (counts : namedDepth (.real number) = 1)
    (found : ∀ depth rest, splitToken? (printAt depth (.real number) ++ rest) =
      some (.named number, rest)) : RunsOver room (.real number) := by
  intro depth frames fresh rest within _
  rw [show (real number).depth namedDepth = 1 from counts] at within
  exact Reading.run_token (found depth rest) (if_pos within)

/-- Further items are read behind those that have been read. -/
theorem run_printItems {items : List Json} (passed : ∀ item ∈ items, RunsOver room item)
    (depth : Nat) (frames : List Frame) (before : List Json) {rest : Text}
    (within : ∀ item ∈ items, frames.length + 1 + item.depth namedDepth ≤ room)
    (ends : EndsNumber rest) :
    (Reading.arrayNext frames before).run room (printItems depth items ++ rest) =
      (Reading.arrayNext frames (items.reverse ++ before)).run room rest := by
  induction items generalizing before with
  | nil => rfl
  | cons item items inductionHypothesis =>
      obtain ⟨passedFirst, passedLater⟩ := List.forall_mem_cons.mp passed
      obtain ⟨withinFirst, withinLater⟩ := List.forall_mem_cons.mp within
      have behind := endsNumber_printItems depth items ends
      have comma : splitToken? (printItems depth (item :: items) ++ rest) = some (.comma,
          newLine depth ++ (printAt depth item ++ (printItems depth items ++ rest))) := by
        rw [printItems]
        simp only [List.cons_append, List.append_assoc]
        rfl
      rw [Reading.run_token comma rfl, Reading.run_gap isGap_of_mem_newLine,
        passedFirst depth (.array before :: frames) false _ withinFirst behind]
      show (Reading.arrayNext frames (item :: before)).run room _ = _
      rw [inductionHypothesis passedLater (item :: before) withinLater]
      simp

/-- A member is read behind those that have been read. -/
theorem run_member {key : Codes} {value : Json}
    (joined : isJoined key = true) (passed : RunsOver room value) (depth : Nat)
    (frames : List Frame) (before : List (Codes × Json)) (fresh : Bool) {rest : Text}
    (within : frames.length + 1 + value.depth namedDepth ≤ room) (ends : EndsNumber rest) :
    (Reading.key frames before fresh).run room
        (stringText key ++ ": ".toList ++ printAt depth value ++ rest) =
      (Reading.objectNext frames ((key, value) :: before)).run room rest := by
  have name := splitToken?_string joined (": ".toList ++ (printAt depth value ++ rest))
  have colon : splitToken? (": ".toList ++ (printAt depth value ++ rest)) =
      some (.colon, [' '] ++ (printAt depth value ++ rest)) := rfl
  rw [List.append_assoc, List.append_assoc, Reading.run_token name rfl,
    Reading.run_token colon rfl, Reading.run_gap (List.forall_mem_singleton.mpr rfl),
    passed depth (.object before key :: frames) false _ within ends]
  rfl

/-- Further members are read behind those that have been read. -/
theorem run_printMembers {members : List (Codes × Json)}
    (joined : ∀ member ∈ members, isJoined member.1 = true)
    (passed : ∀ member ∈ members, RunsOver room member.2) (depth : Nat) (frames : List Frame)
    (before : List (Codes × Json)) {rest : Text}
    (within : ∀ member ∈ members, frames.length + 1 + member.2.depth namedDepth ≤ room)
    (ends : EndsNumber rest) :
    (Reading.objectNext frames before).run room (printMembers depth members ++ rest) =
      (Reading.objectNext frames (members.reverse ++ before)).run room rest := by
  induction members generalizing before with
  | nil => rfl
  | cons member members inductionHypothesis =>
      obtain ⟨joinedFirst, joinedLater⟩ := List.forall_mem_cons.mp joined
      obtain ⟨passedFirst, passedLater⟩ := List.forall_mem_cons.mp passed
      obtain ⟨withinFirst, withinLater⟩ := List.forall_mem_cons.mp within
      have behind := endsNumber_printMembers depth members ends
      have comma : splitToken? (printMembers depth (member :: members) ++ rest) = some (.comma,
          newLine depth ++ (stringText member.1 ++ ": ".toList ++ printAt depth member.2 ++
            (printMembers depth members ++ rest))) := by
        rw [printMembers]
        simp only [List.cons_append, List.append_assoc]
        rfl
      rw [Reading.run_token comma rfl, Reading.run_gap isGap_of_mem_newLine,
        run_member joinedFirst passedFirst depth frames before false withinFirst behind,
        inductionHypothesis joinedLater passedLater (member :: before) withinLater]
      simp

/-- An array is passed over if its items are. -/
theorem RunsOver.array {items : List Json} (passed : ∀ item ∈ items, RunsOver room item) :
    RunsOver room (.array items) := by
  intro depth frames fresh rest within ends
  have bound := depth_array_le_iff.mp (show (Json.array items).depth namedDepth ≤
    room - frames.length by omega)
  have below : frames.length < room := by omega
  have opens : (Reading.value frames fresh).step room .openArray =
      .ok (.value (.array [] :: frames) true) := if_pos below
  cases items with
  | nil =>
      rw [printAt, Reading.run_token (show splitToken? ("[]".toList ++ rest) =
        some (.openArray, "]".toList ++ rest) from rfl) opens]
      exact Reading.run_token rfl rfl
  | cons item items =>
      obtain ⟨passedFirst, passedLater⟩ := List.forall_mem_cons.mp passed
      obtain ⟨withinFirst, withinLater⟩ := List.forall_mem_cons.mp bound.2
      have closing := endsNumber_newLine depth (']' :: rest)
      have opening : splitToken? (printAt depth (.array (item :: items)) ++ rest) =
          some (.openArray, newLine (depth + 1) ++ (printAt (depth + 1) item ++
            (printItems (depth + 1) items ++ (newLine depth ++ ']' :: rest)))) := by
        rw [printAt]
        simp only [List.cons_append, List.append_assoc, List.nil_append]
        rfl
      rw [Reading.run_token opening opens, Reading.run_gap isGap_of_mem_newLine,
        passedFirst (depth + 1) (.array [] :: frames) true _
          (by rw [List.length_cons]; omega) (endsNumber_printItems _ _ closing)]
      show (Reading.arrayNext frames [item]).run room _ = _
      rw [run_printItems passedLater (depth + 1) frames [item]
        (fun item member => by have := withinLater item member; omega) closing,
        Reading.run_gap isGap_of_mem_newLine]
      refine Reading.run_token
        (show splitToken? (']' :: rest) = some (.closeArray, rest) from rfl) ?_
      simp [Reading.step]

/-- An object is passed over if its members are and its keys are distinct and regular. -/
theorem RunsOver.object {members : List (Codes × Json)} (distinct : (members.map Prod.fst).Nodup)
    (joined : ∀ member ∈ members, isJoined member.1 = true)
    (passed : ∀ member ∈ members, RunsOver room member.2) : RunsOver room (.object members) := by
  intro depth frames fresh rest within ends
  have bound := depth_object_le_iff.mp (show (Json.object members).depth namedDepth ≤
    room - frames.length by omega)
  have below : frames.length < room := by omega
  have opens : (Reading.value frames fresh).step room .openObject = .ok (.key frames [] true) :=
    if_pos below
  cases members with
  | nil =>
      rw [printAt, Reading.run_token (show splitToken? (['\x7b', '\x7d'] ++ rest) =
        some (.openObject, ['\x7d'] ++ rest) from rfl) opens]
      exact Reading.run_token rfl rfl
  | cons member members =>
      obtain ⟨joinedFirst, joinedLater⟩ := List.forall_mem_cons.mp joined
      obtain ⟨passedFirst, passedLater⟩ := List.forall_mem_cons.mp passed
      obtain ⟨withinFirst, withinLater⟩ := List.forall_mem_cons.mp bound.2
      have closing := endsNumber_newLine depth ('\x7d' :: rest)
      have opening : splitToken? (printAt depth (.object (member :: members)) ++ rest) =
          some (.openObject, newLine (depth + 1) ++ (stringText member.1 ++ ": ".toList ++
            printAt (depth + 1) member.2 ++
              (printMembers (depth + 1) members ++ (newLine depth ++ '\x7d' :: rest)))) := by
        rw [printAt]
        simp only [List.cons_append, List.append_assoc, List.nil_append]
        rfl
      rw [Reading.run_token opening opens, Reading.run_gap isGap_of_mem_newLine,
        run_member joinedFirst passedFirst (depth + 1) frames [] true (by omega)
          (endsNumber_printMembers _ _ closing),
        run_printMembers joinedLater passedLater (depth + 1) frames [member]
          (fun other held => by have := withinLater other held; omega) closing,
        Reading.run_gap isGap_of_mem_newLine]
      have whole : ofMembers (members.reverse ++ [member]) = .object (member :: members) := by
        rw [ofMembers, ← List.reverse_cons, List.reverse_reverse,
          Dictionary.ofList_of_nodup distinct]
      refine Reading.run_token
        (show splitToken? ('\x7d' :: rest) = some (.closeObject, rest) from rfl) ?_
      rw [Reading.step, whole]

/-- A value is passed over if it is regular and has no finite binary number. -/
theorem runsOver {value : Json} (regular : value.all isRegular = true)
    (exact : value.all isExact = true) : RunsOver room value := by
  induction value using Json.induct with
  | null => exact .of_token fun _ _ _ => rfl
  | boolean value => cases value <;> exact .of_token fun _ _ _ => rfl
  | integer value =>
      refine .of_token fun depth rest ends => ?_
      have short : ¬ Text.digitLimit < (Text.ofNat value.natAbs).length :=
        Nat.not_lt.mpr (of_decide_eq_true regular)
      rw [printAt, splitToken?_ofInt ends, if_neg short]
  | real value =>
      cases value with
      | finite negative mantissa exponent => cases exact
      | infinite negative => cases negative <;> exact .of_name rfl fun _ _ => rfl
      | undefined => exact .of_name rfl fun _ _ => rfl
  | string value => exact .of_token fun _ rest _ => splitToken?_string regular rest
  | array items inductionHypothesis =>
      have regularItems := (all_array_iff.mp regular).2
      have exactItems := (all_array_iff.mp exact).2
      exact .array fun item member =>
        inductionHypothesis item member (regularItems item member) (exactItems item member)
  | object members inductionHypothesis =>
      obtain ⟨regularKeys, regularMembers⟩ := all_object_iff.mp regular
      obtain ⟨distinct, joined⟩ := isRegular_object_iff.mp regularKeys
      have exactMembers := (all_object_iff.mp exact).2
      exact .object distinct joined fun member held =>
        inductionHypothesis member held (regularMembers member held) (exactMembers member held)

/-- A printed value is read back, also in front of blank space. -/
theorem read_print {value : Json} (fits : Fits namedDepth room 0 value)
    (exact : value.all isExact = true) {gap : Text} (blank : ∀ c ∈ gap, isGap c = true) :
    read room (print value ++ gap) = .ok value := by
  have ends : EndsNumber gap := by
    intro c first
    have gapped := blank c (List.mem_of_mem_head? first)
    simp only [isGap, Bool.or_eq_true, beq_iff_eq] at gapped
    rcases gapped with ((rfl | rfl) | rfl) | rfl <;> decide
  rw [read, print, runsOver fits.regular exact 0 [] false gap fits.low ends]
  exact Reading.run_complete blank value

end EditorData.Json
