/-!
# Dictionaries

A dictionary is a list of keys with their values in the order in which the keys were first
assigned. A later assignment replaces the value and keeps the place.
-/

namespace EditorData

/-- Keys with their values, in the order of first assignment. -/
abbrev Dictionary (κ ν : Type) := List (κ × ν)

namespace Dictionary

variable {κ ν : Type} [DecidableEq κ]

/-- Assign a value to a key. -/
def assign (key : κ) (value : ν) : Dictionary κ ν -> Dictionary κ ν
  | [] => [(key, value)]
  | (other, old) :: rest =>
      if other = key then (key, value) :: rest else (other, old) :: assign key value rest

/-- The value of a key. -/
def find? (key : κ) : Dictionary κ ν -> Option ν
  | [] => none
  | (other, value) :: rest => if other = key then some value else find? key rest

/-- Drop a key. -/
def remove (key : κ) (dictionary : Dictionary κ ν) : Dictionary κ ν :=
  dictionary.filter fun entry => entry.1 ≠ key

/-- Assign the entries of a list in its order. -/
def assignAll (entries : List (κ × ν)) (dictionary : Dictionary κ ν) : Dictionary κ ν :=
  entries.foldl (fun assigned entry => assign entry.1 entry.2 assigned) dictionary

/-- The dictionary that a list of assignments builds. -/
def ofList (entries : List (κ × ν)) : Dictionary κ ν :=
  assignAll entries []

/-- A key has the value assigned to it. -/
@[simp] theorem find?_assign_self (key : κ) (value : ν) (dictionary : Dictionary κ ν) :
    find? key (assign key value dictionary) = some value := by
  induction dictionary with
  | nil => simp [assign, find?]
  | cons entry rest inductionHypothesis =>
      obtain ⟨other, old⟩ := entry
      by_cases same : other = key
      · simp [assign, find?, same]
      · simp [assign, find?, same, inductionHypothesis]

/-- An assignment leaves the values of other keys alone. -/
@[simp] theorem find?_assign_of_ne {key other : κ} (different : other ≠ key) (value : ν)
    (dictionary : Dictionary κ ν) : find? other (assign key value dictionary) =
      find? other dictionary := by
  induction dictionary with
  | nil => simp [assign, find?, different.symm]
  | cons entry rest inductionHypothesis =>
      obtain ⟨present, old⟩ := entry
      by_cases same : present = key
      · subst same
        simp [assign, find?, different.symm]
      · by_cases sought : present = other
        · subst sought
          simp [assign, find?, different]
        · simp [assign, find?, same, sought, inductionHypothesis]

end Dictionary

end EditorData
