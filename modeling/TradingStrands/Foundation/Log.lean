import Mathlib.Data.List.Perm.Subperm
import TradingStrands.Foundation.Dict

/-!
Owns logs that are kept in a dictionary, each entry under a key of its own making.
Entries that are written one after the other are all there in the end exactly if
their keys are different; where two keys are the same, the first entry is gone.

Does not own: how keys are made.
-/

namespace TradingStrands.Foundation

namespace Dict

variable {κ α : Type} [DecidableEq κ]

/-- The entries that belong to a log. -/
def log (dict : Dict κ α) (belongs : κ × α → Bool) : List (κ × α) := dict.entries.filter belongs

variable {dict : Dict κ α} {entries : List (κ × α)} {belongs : κ × α → Bool}

/-- What is found was written, or there before. -/
theorem mem_of_get?_setAll {key : κ} {value : α}
    (found : (dict.setAll entries).get? key = some value) :
    (key, value) ∈ entries ∨ dict.get? key = some value := by
  induction entries generalizing dict with
  | nil => exact .inr found
  | cons entry rest inductionHypothesis =>
      rcases inductionHypothesis found with later | before
      · exact .inl (List.mem_cons_of_mem _ later)
      · rcases set_or_get?_of_get?_set before with ⟨rfl, rfl⟩ | earlier
        · exact .inl List.mem_cons_self
        · exact .inr earlier

omit [DecidableEq κ] in
theorem nodup_log (dict : Dict κ α) (belongs : κ × α → Bool) :
    ((dict.log belongs).map Prod.fst).Nodup :=
  dict.nodup.sublist (List.Sublist.map _ List.filter_sublist)

/-- A log that starts empty has nothing but what was written to it. -/
theorem log_setAll_subset (fresh : dict.log belongs = []) :
    (dict.setAll entries).log belongs ⊆ entries.filter belongs := by
  rintro ⟨key, value⟩ logged
  obtain ⟨stored, inside⟩ := List.mem_filter.mp logged
  rcases mem_of_get?_setAll (get?_of_mem_entries stored) with written | before
  · exact List.mem_filter.mpr ⟨written, inside⟩
  · have early : (key, value) ∈ dict.log belongs :=
      List.mem_filter.mpr ⟨mem_entries_of_get? before, inside⟩
    rw [fresh] at early
    cases early

/-- Entries with keys of their own are all kept. -/
theorem mem_setAll_of_nodup (apart : (entries.map Prod.fst).Nodup) {entry : κ × α}
    (written : entry ∈ entries) : entry ∈ (dict.setAll entries).entries := by
  refine mem_entries_of_get? (get?_setAll_of_mem written fun other member same => ?_)
  rw [List.inj_on_of_nodup_map apart member written same]

theorem log_setAll_perm (fresh : dict.log belongs = []) (apart : (entries.map Prod.fst).Nodup) :
    ((dict.setAll entries).log belongs).Perm (entries.filter belongs) := by
  refine (List.perm_ext_iff_of_nodup (nodup_log _ belongs).of_map
    (apart.of_map.sublist List.filter_sublist)).mpr fun entry => ?_
  constructor
  · intro logged
    exact log_setAll_subset fresh logged
  · intro written
    obtain ⟨written, inside⟩ := List.mem_filter.mp written
    exact List.mem_filter.mpr ⟨mem_setAll_of_nodup apart written, inside⟩

/-- A log that has as many entries as were written to it was written under
different keys. -/
theorem nodup_of_length_log (fresh : dict.log belongs = [])
    (complete : (entries.filter belongs).length ≤ ((dict.setAll entries).log belongs).length) :
    ((entries.filter belongs).map Prod.fst).Nodup := by
  have inside : ((dict.setAll entries).log belongs).Subperm (entries.filter belongs) :=
    (nodup_log _ belongs).of_map.subperm (log_setAll_subset fresh)
  have same := inside.perm_of_length_le complete
  exact (same.map Prod.fst).nodup_iff.mp (nodup_log _ belongs)

/-- Several logs in one dictionary are complete, with each entry there, exactly if
the keys of all entries are different. -/
theorem logs_complete_iff {ι : Type} {logs : ι → κ × α → Bool}
    (fresh : ∀ index, dict.log (logs index) = [])
    (covered : ∀ entry ∈ entries, ∃ index, logs index entry = true) :
    ((∀ index, ((dict.setAll entries).log (logs index)).length =
        (entries.filter (logs index)).length) ∧
      ∀ entry ∈ entries, entry ∈ (dict.setAll entries).entries) ↔
        (entries.map Prod.fst).Nodup := by
  constructor
  · rintro ⟨counts, contents⟩
    rw [List.Nodup, List.pairwise_map, List.pairwise_iff_forall_sublist]
    intro first second sublist same
    -- Two entries with one key are one row, which its log has only once.
    have one : first = second := List.inj_on_of_nodup_map (dict.setAll entries).nodup
      (contents first (sublist.subset List.mem_cons_self))
      (contents second (sublist.subset (List.mem_cons_of_mem _ List.mem_cons_self))) same
    subst one
    obtain ⟨index, inside⟩ := covered first (sublist.subset List.mem_cons_self)
    have once := nodup_of_length_log (fresh index) (counts index).ge
    have twice := (sublist.filter (logs index)).map Prod.fst
    rw [List.filter_cons_of_pos inside, List.filter_cons_of_pos inside] at twice
    exact (List.nodup_cons.mp (once.sublist twice)).1 List.mem_cons_self
  · intro apart
    refine ⟨fun index => (log_setAll_perm (fresh index) apart).length_eq, ?_⟩
    exact fun entry written => mem_setAll_of_nodup apart written

end Dict

/-- The entries of a log are as many as the calls that write to it. -/
theorem length_filter_filterMap {γ ρ : Type} {write : γ → Option ρ} {inLog : ρ → Bool}
    {toLog : γ → Bool} (agree : ∀ call row, write call = some row → inLog row = toLog call)
    (writes : ∀ call, toLog call = true → (write call).isSome = true) (calls : List γ) :
    ((calls.filterMap write).filter inLog).length = (calls.filter toLog).length := by
  induction calls with
  | nil => rfl
  | cons call rest inductionHypothesis =>
      cases written : write call with
      | none =>
          have silent : ¬ toLog call = true := by
            intro chosen
            have some_ := writes call chosen
            rw [written] at some_
            cases some_
          rw [List.filterMap_cons_none written, List.filter_cons_of_neg silent]
          exact inductionHypothesis
      | some row =>
          rw [List.filterMap_cons_some written]
          by_cases chosen : toLog call = true
          · have inside : inLog row = true := (agree call row written).trans chosen
            rw [List.filter_cons_of_pos inside, List.filter_cons_of_pos chosen, List.length_cons,
              List.length_cons, inductionHypothesis]
          · have outside : ¬ inLog row = true := by
              rw [agree call row written]
              exact chosen
            rw [List.filter_cons_of_neg outside, List.filter_cons_of_neg chosen]
            exact inductionHypothesis

end TradingStrands.Foundation
