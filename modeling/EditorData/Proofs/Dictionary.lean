import EditorData.Dictionary
import Mathlib.Data.List.Induction

/-!
# What a list of assignments builds

A dictionary that is built from a list of assignments has the keys of the list in the order in which
they first occur (`keys_ofList`), each with the value that it is assigned last (`find?_ofList`).
Assignments to other keys leave the entries in front as they are (`assignAll_append`), so a list of
distinct keys is the dictionary that it builds.
-/

namespace EditorData.Dictionary

variable {κ ν : Type}

/-- The keys of a dictionary in their order. -/
def keys (dictionary : Dictionary κ ν) : List κ :=
  dictionary.map Prod.fst

/-- The keys with another entry in front. -/
@[simp] theorem keys_cons (entry : κ × ν) (rest : Dictionary κ ν) :
    keys (entry :: rest) = entry.1 :: keys rest :=
  rfl

variable [DecidableEq κ]

/-- Assigning to a key that is there keeps the keys, and assigning to another puts it behind. -/
theorem keys_assign (key : κ) (value : ν) (dictionary : Dictionary κ ν) :
    keys (assign key value dictionary) =
      if key ∈ keys dictionary then keys dictionary else keys dictionary ++ [key] := by
  induction dictionary with
  | nil => rfl
  | cons entry rest inductionHypothesis =>
      obtain ⟨other, old⟩ := entry
      by_cases same : other = key
      · simp [assign, same]
      · simp only [assign, if_neg same, keys_cons, inductionHypothesis, List.mem_cons,
          or_iff_right (Ne.symm same)]
        split <;> rfl

/-- Assigning to a key that is not in front leaves the front as it is. -/
theorem assign_append {key : κ} {front : Dictionary κ ν} (absent : key ∉ keys front) (value : ν)
    (dictionary : Dictionary κ ν) :
    assign key value (front ++ dictionary) = front ++ assign key value dictionary := by
  induction front with
  | nil => rfl
  | cons entry rest inductionHypothesis =>
      rw [List.cons_append, assign, if_neg (Ne.symm (List.ne_of_not_mem_cons absent)),
        inductionHypothesis (List.not_mem_of_not_mem_cons absent), List.cons_append]

/-- Assignments to keys that are not in front leave the front as it is. -/
theorem assignAll_append {entries front : Dictionary κ ν}
    (disjoint : ∀ key ∈ keys entries, key ∉ keys front) (dictionary : Dictionary κ ν) :
    assignAll entries (front ++ dictionary) = front ++ assignAll entries dictionary := by
  induction entries generalizing dictionary with
  | nil => rfl
  | cons entry rest inductionHypothesis =>
      obtain ⟨first, later⟩ := List.forall_mem_cons.mp disjoint
      show assignAll rest (assign entry.1 entry.2 (front ++ dictionary)) = _
      rw [assign_append first, inductionHypothesis later]
      rfl

/-- Assignments to distinct keys are the dictionary that they build. -/
theorem ofList_of_nodup {entries : Dictionary κ ν} (distinct : (keys entries).Nodup) :
    ofList entries = entries := by
  induction entries with
  | nil => rfl
  | cons entry rest inductionHypothesis =>
      obtain ⟨fresh, later⟩ := List.nodup_cons.mp distinct
      have behind : ∀ key ∈ keys rest, key ∉ keys [entry] := fun key member same =>
        fresh (List.mem_singleton.mp same ▸ member)
      show assignAll rest ([entry] ++ []) = _
      rw [assignAll_append behind]
      exact congrArg (entry :: ·) (inductionHypothesis later)

/-- Assignments behind those to distinct other keys build a dictionary of their own. -/
theorem ofList_append {front entries : Dictionary κ ν} (distinct : (keys front).Nodup)
    (disjoint : ∀ key ∈ keys entries, key ∉ keys front) :
    ofList (front ++ entries) = front ++ ofList entries := by
  have split : ofList (front ++ entries) = assignAll entries (ofList front ++ []) := by
    rw [List.append_nil]
    exact List.foldl_append
  rw [split, ofList_of_nodup distinct, assignAll_append disjoint]
  rfl

/-- The last assignment is made to what the others have built. -/
theorem ofList_concat (entries : Dictionary κ ν) (key : κ) (value : ν) :
    ofList (entries ++ [(key, value)]) = assign key value (ofList entries) :=
  List.foldl_append

/-- The keys of a dictionary are those that are assigned to, in the order in which they first
occur. -/
theorem keys_ofList [BEq κ] [LawfulBEq κ] (entries : Dictionary κ ν) :
    keys (ofList entries) = (keys entries).eraseDups := by
  induction entries using List.reverseRecOn with
  | nil => rfl
  | append_singleton entries entry inductionHypothesis =>
      have split : keys (entries ++ [entry]) = keys entries ++ [entry.1] := List.map_append
      rw [ofList_concat, keys_assign, inductionHypothesis, split, List.eraseDups_append]
      simp only [List.mem_eraseDups, List.removeAll, List.filter_cons, List.filter_nil,
        List.elem_eq_mem]
      by_cases held : entry.1 ∈ keys entries
      · simp [held]
      · simp [held, List.eraseDups_cons]

/-- The keys of a dictionary are distinct. -/
theorem nodup_keys_ofList (entries : Dictionary κ ν) : (keys (ofList entries)).Nodup := by
  induction entries using List.reverseRecOn with
  | nil => exact List.nodup_nil
  | append_singleton entries entry inductionHypothesis =>
      rw [ofList_concat, keys_assign]
      split
      · exact inductionHypothesis
      · next fresh =>
          refine List.nodup_append.mpr ⟨inductionHypothesis, List.pairwise_singleton _ _, ?_⟩
          rintro key held other new rfl
          exact fresh (List.mem_singleton.mp new ▸ held)

/-- Assignments to other keys leave the value of a key alone. -/
theorem find?_assignAll_of_not_mem {key : κ} {entries : Dictionary κ ν} (other : key ∉ keys entries)
    (dictionary : Dictionary κ ν) :
    find? key (assignAll entries dictionary) = find? key dictionary := by
  induction entries generalizing dictionary with
  | nil => rfl
  | cons entry rest inductionHypothesis =>
      show find? key (assignAll rest (assign entry.1 entry.2 dictionary)) = _
      rw [inductionHypothesis (List.not_mem_of_not_mem_cons other),
        find?_assign_of_ne (List.ne_of_not_mem_cons other)]

/-- A key has the value that it is assigned last. -/
theorem find?_ofList {key : κ} {value : ν} {before after : Dictionary κ ν}
    (last : key ∉ keys after) :
    find? key (ofList (before ++ (key, value) :: after)) = some value := by
  have split : ofList (before ++ (key, value) :: after) =
      assignAll after (assign key value (ofList before)) := by
    rw [← ofList_concat, List.append_cons]
    exact List.foldl_append
  rw [split, find?_assignAll_of_not_mem last, find?_assign_self]

/-- A value in a dictionary has been assigned to its key. -/
theorem mem_of_mem_ofList {entry : κ × ν} {entries : Dictionary κ ν}
    (member : entry ∈ ofList entries) : entry ∈ entries := by
  have assigned (key : κ) (value : ν) (dictionary : Dictionary κ ν)
      (held : entry ∈ assign key value dictionary) : entry ∈ dictionary ∨ entry = (key, value) := by
    induction dictionary with
    | nil => exact .inr (List.mem_singleton.mp held)
    | cons present rest inductionHypothesis =>
        rw [assign] at held
        split at held
        · rcases List.mem_cons.mp held with here | later
          · exact .inr here
          · exact .inl (List.mem_cons_of_mem present later)
        · rcases List.mem_cons.mp held with here | later
          · exact .inl (here ▸ List.mem_cons_self)
          · exact (inductionHypothesis later).imp_left (List.mem_cons_of_mem present)
  induction entries using List.reverseRecOn with
  | nil => exact member
  | append_singleton entries last inductionHypothesis =>
      rw [ofList_concat] at member
      rcases assigned _ _ _ member with earlier | here
      · exact List.mem_append_left _ (inductionHypothesis earlier)
      · exact List.mem_append_right _ (List.mem_singleton.mpr here)

/-- A key has a value if it is one of the keys. -/
theorem isSome_find?_iff {key : κ} {dictionary : Dictionary κ ν} :
    (find? key dictionary).isSome ↔ key ∈ keys dictionary := by
  induction dictionary with
  | nil => exact iff_of_false nofun nofun
  | cons entry rest inductionHypothesis =>
      obtain ⟨other, value⟩ := entry
      rw [keys_cons, List.mem_cons, find?]
      by_cases same : other = key
      · rw [if_pos same]
        exact iff_of_true rfl (.inl same.symm)
      · rw [if_neg same, inductionHypothesis, or_iff_right (Ne.symm same)]

/-- A value that is found is in the dictionary. -/
theorem mem_of_find? {key : κ} {value : ν} {dictionary : Dictionary κ ν}
    (found : find? key dictionary = some value) : (key, value) ∈ dictionary := by
  induction dictionary with
  | nil => cases found
  | cons entry rest inductionHypothesis =>
      rw [find?] at found
      split at found
      · next same =>
          cases found
          exact same ▸ List.mem_cons_self
      · exact List.mem_cons_of_mem entry (inductionHypothesis found)

/-- A key is looked for in front first. -/
theorem find?_append (key : κ) (front behind : Dictionary κ ν) :
    find? key (front ++ behind) = (find? key front).or (find? key behind) := by
  induction front with
  | nil => rfl
  | cons entry rest inductionHypothesis =>
      obtain ⟨other, value⟩ := entry
      rw [List.cons_append, find?, find?, inductionHypothesis]
      split <;> rfl

/-- A key that is not in front is looked for behind. -/
theorem find?_append_of_not_mem {key : κ} {front : Dictionary κ ν} (absent : key ∉ keys front)
    (behind : Dictionary κ ν) : find? key (front ++ behind) = find? key behind := by
  have nothing : find? key front = none := by
    rw [← Option.not_isSome_iff_eq_none, isSome_find?_iff]
    exact absent
  rw [find?_append, nothing, Option.none_or]

end EditorData.Dictionary
