import EditorData.Reference.RawBuiltin

/-!
# Entries in the making

The entries that have been begun, with the number of the one that is being written. An entry keeps
its number when others are begun behind it, so what is being written is changed wherever it stands
(`change`). It is the last entry (`current?_eq_head?`, `records_change`).
-/

namespace EditorData.Reference

/-- Entries, of which one is being written as soon as there are any. -/
structure Ledger where
  /-- The entries, the last one first. -/
  records : List RawBuiltin
  /-- The number of the entry that is being written, counted from the first one on. -/
  current : Option Nat
  isLast : records.length = (current.map (· + 1)).getD 0
deriving DecidableEq, Repr

namespace Ledger

/-- No entries. -/
def empty : Ledger :=
  ⟨[], none, rfl⟩

/-- Begin an entry, which is written from then on. -/
def add (ledger : Ledger) (entry : RawBuiltin) : Ledger :=
  ⟨entry :: ledger.records, some ledger.records.length, rfl⟩

/-- Entries of which the last one, listed first, is being written. -/
def ofRecords (records : List RawBuiltin) : Ledger where
  records
  current := if records = [] then none else some (records.length - 1)
  isLast := by cases records <;> rfl

/-- Where the entry with a number stands among the entries, which are listed from the last one
on. -/
def place (ledger : Ledger) (number : Nat) : Nat :=
  ledger.records.length - 1 - number

/-- The entry that is being written. -/
def current? (ledger : Ledger) : Option RawBuiltin :=
  ledger.current.bind fun number => ledger.records[ledger.place number]?

/-- Change the entry that is being written, if there is one. -/
def change (alter : RawBuiltin -> RawBuiltin) (ledger : Ledger) : Ledger where
  records :=
    match ledger.current with
    | none => ledger.records
    | some number => ledger.records.modify (ledger.place number) alter
  current := ledger.current
  isLast := by
    rw [← ledger.isLast]
    split
    · rfl
    · exact List.length_modify ..

variable {ledger : Ledger}

/-- No entry is being written as long as there is none. -/
theorem current_eq_none_iff : ledger.current = none ↔ ledger.records = [] := by
  rw [← List.length_eq_zero_iff, ledger.isLast]
  cases ledger.current <;> simp

/-- The number of the last entry is that of the entries before it. -/
theorem current_of_cons {current : RawBuiltin} {earlier : List RawBuiltin}
    (found : ledger.records = current :: earlier) : ledger.current = some earlier.length := by
  have isLast := ledger.isLast
  rw [found, List.length_cons] at isLast
  cases number : ledger.current with
  | none => simp [number] at isLast
  | some number => simp_all

/-- The entry that is being written stands in front of all others. -/
theorem place_of_current {number : Nat} (current : ledger.current = some number) :
    ledger.place number = 0 := by
  have isLast := ledger.isLast
  rw [current, Option.map_some, Option.getD_some] at isLast
  rw [place, isLast, Nat.add_sub_cancel, Nat.sub_self]

/-- The entry that is being written is the last one. -/
theorem current?_eq_head? (ledger : Ledger) : ledger.current? = ledger.records.head? := by
  unfold current?
  cases current : ledger.current with
  | none => rw [current_eq_none_iff.mp current]; rfl
  | some number =>
      rw [Option.bind_some, place_of_current current, List.head?_eq_getElem?]

/-- A change is one of the last entry. -/
@[simp] theorem records_change (alter : RawBuiltin -> RawBuiltin) (ledger : Ledger) :
    (ledger.change alter).records = ledger.records.modifyHead alter := by
  unfold change
  dsimp only
  split
  · next none =>
      rw [current_eq_none_iff.mp none]
      rfl
  · next number current =>
      rw [place_of_current current]
      cases ledger.records <;> rfl

/-- The entries determine which of them is being written. -/
@[ext] theorem ext_records {first second : Ledger} (same : first.records = second.records) :
    first = second := by
  obtain ⟨records, current, isLast⟩ := first
  obtain ⟨_, other, isLastThen⟩ := second
  obtain rfl : records = _ := same
  rw [isLast] at isLastThen
  cases current <;> cases other <;> simp_all

/-- Without an entry there is nothing to change. -/
theorem change_of_nil (none : ledger.records = []) (alter : RawBuiltin -> RawBuiltin) :
    ledger.change alter = ledger := by
  ext1
  rw [records_change, none]
  rfl

/-- A change is one of the entry in front. -/
@[simp] theorem change_ofRecords (alter : RawBuiltin -> RawBuiltin) (entry : RawBuiltin)
    (earlier : List RawBuiltin) :
    (ofRecords (entry :: earlier)).change alter = ofRecords (alter entry :: earlier) := by
  ext1
  rw [records_change]
  rfl

end Ledger

end EditorData.Reference
