import Mathlib.Data.List.Induction

/-!
Owns reading a list entry by entry, where the first failure ends the reading:
what was read comes from the entries, and the reading succeeds exactly when each
entry does. Where an entry's failure depends on the entries before it, a list is
either clear of failures or has a first one.
-/

namespace TradingStrands.Foundation

section Reading

variable {ε α β : Type} {read : α → Except ε β}

/-- Two readings in sequence succeed exactly when both do. -/
theorem bind_ok_iff {γ : Type} {first : Except ε β} {second : β → Except ε γ} {value : γ} :
    (first >>= second) = .ok value ↔ ∃ between, first = .ok between ∧ second between = .ok value := by
  cases first with
  | error error => exact ⟨nofun, nofun⟩
  | ok between =>
      constructor
      · exact fun done => ⟨between, rfl, done⟩
      · rintro ⟨_, ⟨⟩, done⟩
        exact done

/-- A result that is kept only if it succeeded. -/
theorem toOption_eq_some_iff {result : Except ε β} {value : β} :
    result.toOption = some value ↔ result = .ok value := by
  cases result with
  | error error => exact ⟨nofun, nofun⟩
  | ok other =>
      exact ⟨fun same => congrArg Except.ok (Option.some.inj same),
        fun same => congrArg some (Except.ok.inj same)⟩

theorem mapM_cons_ok_iff {entry : α} {rest : List α} {values : List β} :
    (entry :: rest).mapM read = .ok values ↔
      ∃ value later, read entry = .ok value ∧ rest.mapM read = .ok later ∧
        values = value :: later := by
  rw [List.mapM_cons]
  cases read entry with
  | error error => exact ⟨nofun, nofun⟩
  | ok value =>
      cases rest.mapM read with
      | error error => exact ⟨nofun, nofun⟩
      | ok later =>
          constructor
          · rintro ⟨⟩
            exact ⟨value, later, rfl, rfl, rfl⟩
          · rintro ⟨_, _, ⟨⟩, ⟨⟩, rfl⟩
            rfl

/-- Each value was read from an entry. -/
theorem exists_of_mapM_ok {entries : List α} {values : List β}
    (done : entries.mapM read = .ok values) {value : β} (member : value ∈ values) :
    ∃ entry ∈ entries, read entry = .ok value := by
  induction entries generalizing values with
  | nil =>
      cases done
      cases member
  | cons entry rest inductionHypothesis =>
      obtain ⟨first, later, here, more, rfl⟩ := mapM_cons_ok_iff.mp done
      rcases List.mem_cons.mp member with rfl | further
      · exact ⟨entry, List.mem_cons_self, here⟩
      · obtain ⟨found, inside, reads⟩ := inductionHypothesis more further
        exact ⟨found, List.mem_cons_of_mem _ inside, reads⟩

/-- Each entry gave a value. -/
theorem mapM_ok_mem {entries : List α} {values : List β} (done : entries.mapM read = .ok values)
    {entry : α} (member : entry ∈ entries) : ∃ value ∈ values, read entry = .ok value := by
  induction entries generalizing values with
  | nil => cases member
  | cons head rest inductionHypothesis =>
      obtain ⟨first, later, here, more, rfl⟩ := mapM_cons_ok_iff.mp done
      rcases List.mem_cons.mp member with rfl | further
      · exact ⟨first, List.mem_cons_self, here⟩
      · obtain ⟨value, inside, reads⟩ := inductionHypothesis more further
        exact ⟨value, List.mem_cons_of_mem _ inside, reads⟩

/-- Where each entry reads as a value of its own, so does the list. -/
theorem mapM_ok_of_forall {value : α → β} {entries : List α}
    (each : ∀ entry ∈ entries, read entry = .ok (value entry)) :
    entries.mapM read = .ok (entries.map value) := by
  induction entries with
  | nil => rfl
  | cons entry rest inductionHypothesis =>
      rw [List.map_cons, mapM_cons_ok_iff]
      exact ⟨value entry, rest.map value, each entry List.mem_cons_self,
        inductionHypothesis fun other member => each other (List.mem_cons_of_mem entry member), rfl⟩

/-- Entries that were written from values read back as these. -/
theorem mapM_map_ok {write : β → α} (inverse : ∀ value, read (write value) = .ok value)
    (values : List β) : (values.map write).mapM read = .ok values := by
  induction values with
  | nil => rfl
  | cons value rest inductionHypothesis =>
      rw [List.map_cons, mapM_cons_ok_iff]
      exact ⟨value, rest, inverse value, inductionHypothesis, rfl⟩

/-- The reading succeeds exactly when each entry does. -/
theorem mapM_isOk_iff {entries : List α} :
    (∃ values, entries.mapM read = .ok values) ↔
      ∀ entry ∈ entries, ∃ value, read entry = .ok value := by
  constructor
  · rintro ⟨values, done⟩ entry member
    obtain ⟨value, -, reads⟩ := mapM_ok_mem done member
    exact ⟨value, reads⟩
  · intro each
    induction entries with
    | nil => exact ⟨[], rfl⟩
    | cons entry rest inductionHypothesis =>
        obtain ⟨value, here⟩ := each entry List.mem_cons_self
        obtain ⟨later, more⟩ := inductionHypothesis fun other member =>
          each other (List.mem_cons_of_mem _ member)
        exact ⟨value :: later, mapM_cons_ok_iff.mpr ⟨value, later, here, more, rfl⟩⟩

end Reading

section Clear

variable {α : Type} {fails : List α → α → Prop}

/-- No entry fails after the entries before it. -/
def Clear (fails : List α → α → Prop) (entries : List α) : Prop :=
  ∀ before entry after, entries = before ++ entry :: after → ¬ fails before entry

theorem clear_nil : Clear fails [] := by
  intro before entry after cut
  exact absurd cut.symm (by simp)

/-- A list with one more entry is cut at that entry or before it. -/
theorem cut_concat {entries before after : List α} {last entry : α}
    (cut : entries ++ [last] = before ++ entry :: after) :
    (after = [] ∧ before = entries ∧ entry = last) ∨
      ∃ init, after = init ++ [last] ∧ entries = before ++ entry :: init := by
  rcases List.eq_nil_or_concat after with rfl | ⟨init, final, rfl⟩
  · obtain ⟨same, final⟩ := List.append_inj' cut rfl
    exact Or.inl ⟨rfl, same.symm, (List.cons.inj final).1.symm⟩
  · rw [List.concat_eq_append, ← List.cons_append, ← List.append_assoc] at cut
    obtain ⟨same, final⟩ := List.append_inj' cut rfl
    rw [(List.cons.inj final).1]
    exact Or.inr ⟨init, List.concat_eq_append, same⟩

theorem clear_concat_iff {entries : List α} {last : α} :
    Clear fails (entries ++ [last]) ↔ Clear fails entries ∧ ¬ fails entries last := by
  constructor
  · intro clear
    refine ⟨fun before entry after cut => clear before entry (after ++ [last]) ?_,
      clear entries last [] rfl⟩
    rw [cut, List.append_assoc, List.cons_append]
  · rintro ⟨clear, succeeds⟩ before entry after cut
    rcases cut_concat cut with ⟨rfl, rfl, rfl⟩ | ⟨init, rfl, earlier⟩
    · exact succeeds
    · exact clear before entry init earlier

/-- A list that is not clear has a first failure. -/
theorem exists_first_of_not_clear {entries : List α} (dirty : ¬ Clear fails entries) :
    ∃ before entry after, entries = before ++ entry :: after ∧ Clear fails before ∧
      fails before entry := by
  induction entries using List.reverseRecOn with
  | nil => exact absurd clear_nil dirty
  | append_singleton init last inductionHypothesis =>
      by_cases clear : Clear fails init
      · rw [clear_concat_iff, not_and, not_not] at dirty
        exact ⟨init, last, [], rfl, clear, dirty clear⟩
      · obtain ⟨before, entry, after, rfl, first, failed⟩ := inductionHypothesis clear
        refine ⟨before, entry, after ++ [last], ?_, first, failed⟩
        rw [List.append_assoc, List.cons_append]

end Clear

end TradingStrands.Foundation
