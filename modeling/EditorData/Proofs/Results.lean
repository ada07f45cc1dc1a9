import Mathlib.Data.List.Forall2

/-!
# Results that depend on others

A computation that succeeds is taken apart into its first part, which succeeds too, and what is
made of that. Computations for a list succeed if each of them does, and otherwise end in the fault
of the first one that fails, in front of which all items are accepted (`First`).
-/

namespace EditorData

/-- A result is had behind another one. -/
theorem ok_of_bind {ε α β : Type} {first : Except ε α} {next : α -> Except ε β} {result : β}
    (bound : (first >>= next) = .ok result) :
    ∃ value, first = .ok value ∧ next value = .ok result := by
  cases first with
  | error fault => cases bound
  | ok value => exact ⟨value, rfl, bound⟩

/-- A result that has been changed is had from the one in front of the change. -/
theorem ok_of_map {ε α β : Type} {first : Except ε α} {change : α -> β} {result : β}
    (mapped : first.map change = .ok result) :
    ∃ value, first = .ok value ∧ change value = result := by
  cases first with
  | error fault => cases mapped
  | ok value => exact ⟨value, rfl, Except.ok.inj mapped⟩

/-- A change neither makes nor mends a fault. -/
theorem map_eq_error_iff {ε α β : Type} {first : Except ε α} {change : α -> β} {fault : ε} :
    first.map change = .error fault ↔ first = .error fault := by
  cases first with
  | error other => exact ⟨fun failed => congrArg _ (Except.error.inj failed),
      fun failed => congrArg _ (Except.error.inj failed)⟩
  | ok value => exact iff_of_false nofun nofun

/-- There is a result behind a change exactly if there is one in front of it. -/
theorem map_isOk_iff {ε α β : Type} {first : Except ε α} {change : α -> β} :
    (∃ result, first.map change = .ok result) ↔ ∃ value, first = .ok value := by
  cases first with
  | error fault => exact iff_of_false nofun nofun
  | ok value => exact iff_of_true ⟨_, rfl⟩ ⟨_, rfl⟩

/-- The result of an item stands where the item does. -/
theorem exists_split_of_forall₂ {α β : Type} {relation : α -> β -> Prop} {before after : List α}
    {item : α} {results : List β}
    (each : List.Forall₂ relation (before ++ item :: after) results) :
    ∃ earlier result later, results = earlier ++ result :: later ∧ relation item result ∧
      List.Forall₂ relation after later := by
  induction before generalizing results with
  | nil =>
      obtain ⟨result, later, here, following, rfl⟩ := List.forall₂_cons_left_iff.mp each
      exact ⟨[], result, later, rfl, here, following⟩
  | cons first before inductionHypothesis =>
      obtain ⟨front, behind, -, following, rfl⟩ := List.forall₂_cons_left_iff.mp each
      obtain ⟨earlier, result, later, rfl, found⟩ := inductionHypothesis following
      exact ⟨front :: earlier, result, later, rfl, found⟩

/-- A result is the result of an item. -/
theorem exists_of_mem_forall₂ {α β : Type} {relation : α -> β -> Prop} {list : List α}
    {results : List β} (each : List.Forall₂ relation list results) {result : β}
    (member : result ∈ results) : ∃ item ∈ list, relation item result := by
  induction each with
  | nil => cases member
  | cons first later inductionHypothesis =>
      rcases List.mem_cons.mp member with rfl | behind
      · exact ⟨_, List.mem_cons_self, first⟩
      · obtain ⟨item, held, related⟩ := inductionHypothesis behind
        exact ⟨item, List.mem_cons_of_mem _ held, related⟩

/-- Something holds of an item of a list, and all items in front of it are accepted. -/
def First {α : Type} (accepted holds : α -> Prop) (list : List α) : Prop :=
  ∃ before item after, list = before ++ item :: after ∧
    (∀ earlier ∈ before, accepted earlier) ∧ holds item

/-- It holds of the first item, or that is accepted and it holds behind it. -/
theorem first_cons_iff {α : Type} {accepted holds : α -> Prop} {item : α} {rest : List α} :
    First accepted holds (item :: rest) ↔
      holds item ∨ accepted item ∧ First accepted holds rest := by
  constructor
  · rintro ⟨before, other, after, whole, earlier, here⟩
    cases before with
    | nil =>
        cases whole
        exact .inl here
    | cons front before =>
        cases whole
        obtain ⟨first, others⟩ := List.forall_mem_cons.mp earlier
        exact .inr ⟨first, before, other, after, rfl, others, here⟩
  · rintro (here | ⟨first, before, other, after, rfl, earlier, there⟩)
    · exact ⟨[], item, rest, rfl, nofun, here⟩
    · exact ⟨item :: before, other, after, rfl, List.forall_mem_cons.mpr ⟨first, earlier⟩, there⟩

section Lists

variable {ε α β : Type} {compute : α -> Except ε β}

/-- Computations one after the other, up to the first fault. -/
theorem eq_mapM {computeAll : List α -> Except ε (List β)} (none : computeAll [] = .ok [])
    (next : ∀ item rest, computeAll (item :: rest) =
      compute item >>= fun result => (computeAll rest).map (result :: ·)) (list : List α) :
    computeAll list = list.mapM compute := by
  induction list with
  | nil => exact none
  | cons item rest inductionHypothesis =>
      rw [next, List.mapM_cons, inductionHypothesis]
      rfl

/-- Computations for a list succeed with a result for each item. -/
theorem mapM_eq_ok_iff {list : List α} {results : List β} :
    list.mapM compute = .ok results ↔
      List.Forall₂ (fun item result => compute item = .ok result) list results := by
  induction list generalizing results with
  | nil =>
      rw [List.mapM_nil, List.forall₂_nil_left_iff]
      exact ⟨fun done => (Except.ok.inj done).symm, fun nothing => nothing ▸ rfl⟩
  | cons item rest inductionHypothesis =>
      rw [List.mapM_cons, List.forall₂_cons_left_iff]
      constructor
      · intro done
        obtain ⟨result, first, behind⟩ := ok_of_bind done
        obtain ⟨others, later, whole⟩ := ok_of_bind behind
        exact ⟨result, others, first, inductionHypothesis.mp later, (Except.ok.inj whole).symm⟩
      · rintro ⟨result, others, first, later, rfl⟩
        rw [first, inductionHypothesis.mpr later]
        rfl

/-- Computations for a list all succeed if each of them does. -/
theorem mapM_isOk_iff {list : List α} :
    (∃ results, list.mapM compute = .ok results) ↔
      ∀ item ∈ list, ∃ result, compute item = .ok result := by
  simp only [mapM_eq_ok_iff]
  induction list with
  | nil => exact iff_of_true ⟨[], .nil⟩ nofun
  | cons item rest inductionHypothesis =>
      rw [List.forall_mem_cons, ← inductionHypothesis]
      constructor
      · rintro ⟨_, _ | ⟨first, later⟩⟩
        exact ⟨⟨_, first⟩, ⟨_, later⟩⟩
      · rintro ⟨⟨result, first⟩, ⟨results, later⟩⟩
        exact ⟨result :: results, .cons first later⟩

/-- Computations for a list fail with the first one, or behind it. -/
theorem mapM_cons_eq_error_iff {item : α} {rest : List α} {fault : ε} :
    (item :: rest).mapM compute = .error fault ↔
      compute item = .error fault ∨
        (∃ result, compute item = .ok result) ∧ rest.mapM compute = .error fault := by
  rw [List.mapM_cons]
  cases first : compute item with
  | error other =>
      refine ⟨fun failed => .inl ?_, ?_⟩
      · cases failed
        rfl
      · rintro (failed | ⟨⟨_, ⟨⟩⟩, _⟩)
        cases failed
        rfl
  | ok result =>
      cases later : rest.mapM compute with
      | error other =>
          refine ⟨fun failed => .inr ⟨⟨result, rfl⟩, ?_⟩, ?_⟩
          · cases failed
            rfl
          · rintro (⟨⟨⟩⟩ | ⟨-, failed⟩)
            cases failed
            rfl
      | ok others => exact iff_of_false nofun (by simp)

/-- Computations for a list end in the fault of the first one that fails. -/
theorem mapM_eq_error_iff {list : List α} {fault : ε} :
    list.mapM compute = .error fault ↔
      ∃ before item after, list = before ++ item :: after ∧
        (∀ earlier ∈ before, ∃ result, compute earlier = .ok result) ∧
        compute item = .error fault := by
  induction list with
  | nil =>
      refine iff_of_false nofun ?_
      rintro ⟨before, item, after, whole, -⟩
      exact absurd whole (by simp)
  | cons item rest inductionHypothesis =>
      rw [mapM_cons_eq_error_iff, inductionHypothesis]
      constructor
      · rintro (failing | ⟨done, before, culprit, after, rfl, earlier, failing⟩)
        · exact ⟨[], item, rest, rfl, nofun, failing⟩
        · exact ⟨item :: before, culprit, after, rfl,
            List.forall_mem_cons.mpr ⟨done, earlier⟩, failing⟩
      · rintro ⟨before, culprit, after, whole, earlier, failing⟩
        cases before with
        | nil =>
            obtain ⟨rfl, -⟩ := List.cons.inj whole
            exact .inl failing
        | cons head before =>
            obtain ⟨rfl, behind⟩ := List.cons.inj whole
            obtain ⟨done, others⟩ := List.forall_mem_cons.mp earlier
            exact .inr ⟨done, before, culprit, after, behind, others, failing⟩

end Lists

end EditorData
