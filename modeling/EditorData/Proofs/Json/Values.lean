import EditorData.Json.Depth
import EditorData.Json.Reader
import EditorData.Proofs.Json.Strings
import Mathlib.Data.List.Nodup

/-!
# What is inside a value

A value is a tree, so a statement about all values is shown for arrays and objects from what is in
them (`induct`). A check of single values is made of everything inside a value by `all`. A value
fits (`Fits`) if a reader could have read it inside the arrays and objects around it: its integers
are not too long, its keys are distinct, no surrogates in its strings make a pair, and there is room
for it.
-/

namespace EditorData.Json

/-- What holds of arrays and objects whenever it holds of everything in them holds of all values. -/
@[elab_as_elim] theorem induct {motive : Json -> Prop} (value : Json) (null : motive .null)
    (boolean : ∀ value, motive (.boolean value)) (integer : ∀ value, motive (.integer value))
    (real : ∀ value, motive (.real value)) (string : ∀ value, motive (.string value))
    (array : ∀ items, (∀ item ∈ items, motive item) → motive (.array items))
    (object : ∀ members, (∀ member ∈ members, motive member.2) → motive (.object members)) :
    motive value :=
  @Json.rec motive (fun items => ∀ item ∈ items, motive item)
    (fun members => ∀ member ∈ members, motive member.2) (fun member => motive member.2)
    null boolean integer real string array object nofun
    (fun _ _ first later => List.forall_mem_cons.mpr ⟨first, later⟩) nofun
    (fun _ _ first later => List.forall_mem_cons.mpr ⟨first, later⟩) (fun _ _ second => second)
    value

mutual

/-- Whether a check succeeds for a value and for everything inside of it. -/
def all (check : Json -> Bool) : Json -> Bool
  | .array items => check (.array items) && allItems check items
  | .object members => check (.object members) && allMembers check members
  | value => check value

/-- Whether a check succeeds for the items of an array and for everything inside of them. -/
def allItems (check : Json -> Bool) : List Json -> Bool
  | [] => true
  | item :: rest => all check item && allItems check rest

/-- Whether a check succeeds for the members of an object and for everything inside of them. -/
def allMembers (check : Json -> Bool) : List (Codes × Json) -> Bool
  | [] => true
  | (_, value) :: rest => all check value && allMembers check rest

end

/-- Whether a value is no finite binary number. -/
def isExact : Json -> Bool
  | .real (.finite ..) => false
  | _ => true

/-- Whether an integer is not too long, a string has no two surrogates that make a pair, or the keys
of an object are distinct and such strings. -/
def isRegular : Json -> Bool
  | .integer value => decide ((Text.ofNat value.natAbs).length ≤ Text.digitLimit)
  | .string value => isJoined value
  | .object members =>
      decide (members.map Prod.fst).Nodup && members.all fun member => isJoined member.1
  | _ => true

/-- An object is regular if its keys are distinct and regular strings. -/
theorem isRegular_object_iff {members : List (Codes × Json)} :
    isRegular (.object members) = true ↔
      (members.map Prod.fst).Nodup ∧ ∀ member ∈ members, isJoined member.1 = true := by
  rw [isRegular, Bool.and_eq_true, decide_eq_true_iff, List.all_eq_true]

section All

variable {check : Json -> Bool}

/-- A check succeeds inside a list of items if it does inside each of them. -/
theorem allItems_iff {items : List Json} :
    allItems check items = true ↔ ∀ item ∈ items, all check item = true := by
  induction items with
  | nil => exact iff_of_true rfl nofun
  | cons item rest inductionHypothesis =>
      rw [allItems, Bool.and_eq_true, inductionHypothesis, List.forall_mem_cons]

/-- A check succeeds inside a list of members if it does inside each of them. -/
theorem allMembers_iff {members : List (Codes × Json)} :
    allMembers check members = true ↔ ∀ member ∈ members, all check member.2 = true := by
  induction members with
  | nil => exact iff_of_true rfl nofun
  | cons member rest inductionHypothesis =>
      rw [allMembers, Bool.and_eq_true, inductionHypothesis, List.forall_mem_cons]

/-- A check succeeds inside an array if it does for the array and inside each item. -/
theorem all_array_iff {items : List Json} : all check (.array items) = true ↔
    check (.array items) = true ∧ ∀ item ∈ items, all check item = true := by
  rw [all, Bool.and_eq_true, allItems_iff]

/-- A check succeeds inside an object if it does for the object and inside each member. -/
theorem all_object_iff {members : List (Codes × Json)} : all check (.object members) = true ↔
    check (.object members) = true ∧ ∀ member ∈ members, all check member.2 = true := by
  rw [all, Bool.and_eq_true, allMembers_iff]

end All

section Depth

variable {leaf : Json -> Nat} {bound : Nat}

/-- Items go no deeper than a bound if none of them does. -/
theorem depthOfItems_le_iff {items : List Json} :
    depthOfItems leaf items ≤ bound ↔ ∀ item ∈ items, item.depth leaf ≤ bound := by
  induction items with
  | nil => exact iff_of_true (Nat.zero_le bound) nofun
  | cons item rest inductionHypothesis =>
      rw [depthOfItems, Nat.max_le, inductionHypothesis, List.forall_mem_cons]

/-- Members go no deeper than a bound if none of them does. -/
theorem depthOfMembers_le_iff {members : List (Codes × Json)} :
    depthOfMembers leaf members ≤ bound ↔ ∀ member ∈ members, member.2.depth leaf ≤ bound := by
  induction members with
  | nil => exact iff_of_true (Nat.zero_le bound) nofun
  | cons member rest inductionHypothesis =>
      rw [depthOfMembers, Nat.max_le, inductionHypothesis, List.forall_mem_cons]

/-- An array goes one deeper than its items. -/
theorem depth_array_le_iff {items : List Json} : (Json.array items).depth leaf ≤ bound ↔
    0 < bound ∧ ∀ item ∈ items, item.depth leaf < bound := by
  cases bound with
  | zero => simp [depth]
  | succ bound =>
      rw [depth, Nat.succ_le_succ_iff, depthOfItems_le_iff]
      simp only [Nat.lt_succ_iff, Nat.zero_le, true_and]

/-- An object goes one deeper than its members. -/
theorem depth_object_le_iff {members : List (Codes × Json)} :
    (Json.object members).depth leaf ≤ bound ↔
      0 < bound ∧ ∀ member ∈ members, member.2.depth leaf < bound := by
  cases bound with
  | zero => simp [depth]
  | succ bound =>
      rw [depth, Nat.succ_le_succ_iff, depthOfMembers_le_iff]
      simp only [Nat.lt_succ_iff, Nat.zero_le, true_and]

/-- An object of which the keys are texts goes one deeper than its members. -/
theorem depth_record_le_iff {members : List (Text × Json)} :
    (Json.record members).depth leaf ≤ bound ↔
      0 < bound ∧ ∀ member ∈ members, member.2.depth leaf < bound := by
  rw [Json.record, depth_object_le_iff, List.forall_mem_map]
  rfl

end Depth

/-- A value is regular, and there is room for it inside the arrays and objects around it. -/
structure Fits (leaf : Json -> Nat) (room around : Nat) (value : Json) : Prop where
  regular : value.all isRegular = true
  low : around + value.depth leaf ≤ room

section Fitting

variable {leaf : Json -> Nat} {room around : Nat}

/-- A text fits wherever arrays and objects may be open, unless it counts for more. -/
theorem Fits.text (value : Text) (below : around + leaf (.text value) ≤ room) :
    Fits leaf room around (.text value) :=
  ⟨isJoined_codes value, below⟩

/-- An array fits if there is room for it and its items fit inside. -/
theorem Fits.array {items : List Json} (below : around < room)
    (inside : ∀ item ∈ items, Fits leaf room (around + 1) item) :
    Fits leaf room around (.array items) where
  regular := all_array_iff.mpr ⟨rfl, fun item member => (inside item member).regular⟩
  low := by
    have bound := depth_array_le_iff.mpr ⟨Nat.sub_pos_of_lt below, fun item member => by
      have := (inside item member).low
      show item.depth leaf < room - around
      omega⟩
    omega

/-- An object fits if there is room for it, its keys are distinct and regular, and its members fit
inside. -/
theorem Fits.object {members : List (Codes × Json)} (below : around < room)
    (distinct : (members.map Prod.fst).Nodup)
    (joined : ∀ member ∈ members, isJoined member.1 = true)
    (inside : ∀ member ∈ members, Fits leaf room (around + 1) member.2) :
    Fits leaf room around (.object members) where
  regular := all_object_iff.mpr
    ⟨isRegular_object_iff.mpr ⟨distinct, joined⟩, fun member held => (inside member held).regular⟩
  low := by
    have bound := depth_object_le_iff.mpr ⟨Nat.sub_pos_of_lt below, fun member held => by
      have := (inside member held).low
      show member.2.depth leaf < room - around
      omega⟩
    omega

/-- An object of which the keys are texts fits if there is room for it, its keys are distinct and
its members fit inside. -/
theorem Fits.record {members : List (Text × Json)} (below : around < room)
    (distinct : (members.map Prod.fst).Nodup)
    (inside : ∀ member ∈ members, Fits leaf room (around + 1) member.2) :
    Fits leaf room around (.record members) := by
  refine .object below ?_ (List.forall_mem_map.mpr fun member _ => isJoined_codes member.1)
    (List.forall_mem_map.mpr inside)
  have keys : (members.map (Prod.map Text.codes id)).map Prod.fst =
      (members.map Prod.fst).map Text.codes := by
    rw [List.map_map, List.map_map]
    rfl
  rw [keys]
  exact List.Nodup.map Text.codes_injective distinct

end Fitting

end EditorData.Json
