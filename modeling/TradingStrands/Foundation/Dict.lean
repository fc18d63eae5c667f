import Mathlib.Data.List.Nodup
import Mathlib.Algebra.BigOperators.Group.Finset.Basic
import Mathlib.Algebra.Group.Basic

/-!
Owns insertion-ordered finite maps with at most one entry a key: lookup, update
in place or at the end, removal, and the sum of a measure over the values. The
uniqueness of keys is a field, so a map with two entries for one key cannot be
built and no lemma below has to assume it.
-/

namespace TradingStrands.Foundation

/-- A finite map that remembers the order in which its keys were first set. -/
structure Dict (κ α : Type) where
  entries : List (κ × α)
  nodup : (entries.map Prod.fst).Nodup

namespace Dict

variable {κ α : Type}

instance [DecidableEq κ] [DecidableEq α] : DecidableEq (Dict κ α) := fun left right =>
  decidable_of_iff (left.entries = right.entries) (by
    cases left
    cases right
    simp)

def empty : Dict κ α := ⟨[], List.nodup_nil⟩

def keys (dict : Dict κ α) : List κ := dict.entries.map Prod.fst

def values (dict : Dict κ α) : List α := dict.entries.map Prod.snd

theorem ext {left right : Dict κ α} (same : left.entries = right.entries) : left = right := by
  cases left
  cases right
  exact (Dict.mk.injEq _ _ _ _).mpr same

/-- The entries whose keys are kept. -/
def restrict (keep : κ → Bool) (dict : Dict κ α) : Dict κ α :=
  ⟨dict.entries.filter fun entry => keep entry.1,
    dict.nodup.sublist (List.Sublist.map _ List.filter_sublist)⟩

theorem mem_keys_restrict_iff {keep : κ → Bool} {dict : Dict κ α} {key : κ} :
    key ∈ (dict.restrict keep).keys ↔ key ∈ dict.keys ∧ keep key = true := by
  unfold keys restrict
  simp only [List.mem_map, List.mem_filter]
  constructor
  · rintro ⟨entry, ⟨member, kept⟩, rfl⟩
    exact ⟨⟨entry, member, rfl⟩, kept⟩
  · rintro ⟨⟨entry, member, rfl⟩, kept⟩
    exact ⟨entry, ⟨member, kept⟩, rfl⟩

variable [DecidableEq κ]

def get? (dict : Dict κ α) (key : κ) : Option α :=
  (dict.entries.find? fun entry => entry.1 = key).map Prod.snd

private theorem map_replace_fst (entries : List (κ × α)) (key : κ) (value : α) :
    (entries.map fun entry => if entry.1 = key then (key, value) else entry).map Prod.fst =
      entries.map Prod.fst := by
  rw [List.map_map]
  refine List.map_congr_left fun entry _ => ?_
  by_cases same : entry.1 = key
  · simp [same]
  · simp [same]

/-- Update the entry of `key` in place, or append one. -/
def set (dict : Dict κ α) (key : κ) (value : α) : Dict κ α :=
  if present : key ∈ dict.entries.map Prod.fst then
    ⟨dict.entries.map fun entry => if entry.1 = key then (key, value) else entry, by
      rw [map_replace_fst]
      exact dict.nodup⟩
  else
    ⟨dict.entries ++ [(key, value)], by
      rw [List.map_append, List.nodup_append]
      refine ⟨dict.nodup, by simp, ?_⟩
      intro old member new last same
      rw [List.map_singleton, List.mem_singleton] at last
      rw [same, last] at member
      exact present member⟩

/-- Remove the entry of `key`, if there is one. -/
def erase (dict : Dict κ α) (key : κ) : Dict κ α :=
  ⟨dict.entries.filter fun entry => entry.1 ≠ key,
    dict.nodup.sublist (List.Sublist.map _ List.filter_sublist)⟩

@[simp] theorem get?_empty (key : κ) : (empty : Dict κ α).get? key = none := rfl

/-! ### Lookup -/

theorem mem_entries_of_get? {dict : Dict κ α} {key : κ} {value : α}
    (found : dict.get? key = some value) : (key, value) ∈ dict.entries := by
  unfold get? at found
  obtain ⟨⟨other, stored⟩, at_, rfl⟩ := Option.map_eq_some_iff.mp found
  have same : other = key := by simpa using List.find?_some at_
  exact same ▸ List.mem_of_find?_eq_some at_

theorem get?_eq_none_iff {dict : Dict κ α} {key : κ} :
    dict.get? key = none ↔ key ∉ dict.entries.map Prod.fst := by
  unfold get?
  rw [Option.map_eq_none_iff, List.find?_eq_none, List.mem_map]
  constructor
  · rintro absent ⟨entry, member, same⟩
    exact absent entry member (by simpa using same)
  · intro absent entry member same
    exact absent ⟨entry, member, by simpa using same⟩

theorem get?_of_mem_entries {dict : Dict κ α} {key : κ} {value : α}
    (member : (key, value) ∈ dict.entries) : dict.get? key = some value := by
  cases found : dict.get? key with
  | none =>
      exact absurd (List.mem_map.mpr ⟨(key, value), member, rfl⟩) (get?_eq_none_iff.mp found)
  | some other =>
      have other_member := mem_entries_of_get? found
      have same := List.inj_on_of_nodup_map dict.nodup other_member member rfl
      rw [(Prod.mk.inj same).2]

theorem get?_eq_some_iff {dict : Dict κ α} {key : κ} {value : α} :
    dict.get? key = some value ↔ (key, value) ∈ dict.entries :=
  ⟨mem_entries_of_get?, get?_of_mem_entries⟩

theorem mem_keys_iff {dict : Dict κ α} {key : κ} :
    key ∈ dict.keys ↔ ∃ value, dict.get? key = some value := by
  rw [← Option.isSome_iff_exists, ← Option.ne_none_iff_isSome]
  unfold keys
  rw [Ne, get?_eq_none_iff, not_not]

theorem mem_values_iff {dict : Dict κ α} {value : α} :
    value ∈ dict.values ↔ ∃ key, dict.get? key = some value := by
  unfold values
  rw [List.mem_map]
  constructor
  · rintro ⟨⟨key, _⟩, member, rfl⟩
    exact ⟨key, get?_of_mem_entries member⟩
  · rintro ⟨key, held⟩
    exact ⟨_, mem_entries_of_get? held, rfl⟩

/-! ### Update -/

private theorem mem_entries_set {dict : Dict κ α} {key other : κ} {value stored : α} :
    (other, stored) ∈ (dict.set key value).entries ↔
      (other = key ∧ stored = value) ∨ (other ≠ key ∧ (other, stored) ∈ dict.entries) := by
  unfold set
  split
  next present =>
    obtain ⟨entry, member, same⟩ := List.mem_map.mp present
    simp only [List.mem_map]
    constructor
    · rintro ⟨old, oldMember, image⟩
      by_cases hit : old.1 = key
      · rw [if_pos hit, Prod.mk.injEq] at image
        exact Or.inl ⟨image.1.symm, image.2.symm⟩
      · rw [if_neg hit] at image
        subst image
        exact Or.inr ⟨hit, oldMember⟩
    · rintro (⟨rfl, rfl⟩ | ⟨different, oldMember⟩)
      · exact ⟨entry, member, by rw [if_pos same]⟩
      · exact ⟨(other, stored), oldMember, by rw [if_neg different]⟩
  next absent =>
    rw [List.mem_append, List.mem_singleton, Prod.mk.injEq]
    constructor
    · rintro (member | both)
      · refine Or.inr ⟨?_, member⟩
        rintro rfl
        exact absent (List.mem_map.mpr ⟨_, member, rfl⟩)
      · exact Or.inl both
    · rintro (both | ⟨-, member⟩)
      · exact Or.inr both
      · exact Or.inl member

@[simp] theorem get?_set_self (dict : Dict κ α) (key : κ) (value : α) :
    (dict.set key value).get? key = some value :=
  get?_of_mem_entries (mem_entries_set.mpr (Or.inl ⟨rfl, rfl⟩))

theorem get?_set_of_ne (dict : Dict κ α) {key other : κ} (value : α) (different : other ≠ key) :
    (dict.set key value).get? other = dict.get? other := by
  apply Option.ext
  intro stored
  rw [get?_eq_some_iff, get?_eq_some_iff, mem_entries_set]
  simp [different]

theorem get?_set (dict : Dict κ α) (key other : κ) (value : α) :
    (dict.set key value).get? other = if other = key then some value else dict.get? other := by
  by_cases same : other = key
  · rw [if_pos same, same, get?_set_self]
  · rw [if_neg same, get?_set_of_ne dict value same]

/-- What is found after a set was set, or was there before. -/
theorem set_or_get?_of_get?_set {dict : Dict κ α} {key other : κ} {value stored : α}
    (found : (dict.set key value).get? other = some stored) :
    (other = key ∧ stored = value) ∨ dict.get? other = some stored := by
  rw [get?_set] at found
  split at found
  next same => exact Or.inl ⟨same, (Option.some.inj found).symm⟩
  next => exact Or.inr found

theorem entries_set_of_mem {dict : Dict κ α} {key : κ} (value : α) (present : key ∈ dict.keys) :
    (dict.set key value).entries =
      dict.entries.map fun entry => if entry.1 = key then (key, value) else entry := by
  unfold set
  exact congrArg entries (dif_pos present)

theorem keys_set_of_mem {dict : Dict κ α} {key : κ} (value : α) (present : key ∈ dict.keys) :
    (dict.set key value).keys = dict.keys := by
  unfold keys
  rw [entries_set_of_mem value present, map_replace_fst]

theorem entries_set_of_notMem {dict : Dict κ α} {key : κ} (value : α) (absent : key ∉ dict.keys) :
    (dict.set key value).entries = dict.entries ++ [(key, value)] := by
  unfold set
  exact congrArg entries (dif_neg absent)

@[simp] theorem get?_erase_self (dict : Dict κ α) (key : κ) : (dict.erase key).get? key = none := by
  rw [get?_eq_none_iff, erase, List.mem_map]
  rintro ⟨entry, member, same⟩
  simp [same] at member

theorem get?_erase_of_ne (dict : Dict κ α) {key other : κ} (different : other ≠ key) :
    (dict.erase key).get? other = dict.get? other := by
  apply Option.ext
  intro stored
  rw [get?_eq_some_iff, get?_eq_some_iff, erase, List.mem_filter]
  simp [different]

theorem erase_of_notMem {dict : Dict κ α} {key : κ} (absent : key ∉ dict.keys) :
    dict.erase key = dict := by
  refine ext (List.filter_eq_self.mpr fun entry member => ?_)
  simp only [decide_eq_true_eq]
  rintro rfl
  exact absent (List.mem_map_of_mem member)

/-- Removing an entry that was just added undoes the addition. -/
theorem erase_set_of_notMem {dict : Dict κ α} {key : κ} (value : α) (absent : key ∉ dict.keys) :
    (dict.set key value).erase key = dict := by
  have entries : ((dict.set key value).erase key).entries = dict.entries := by
    change (dict.set key value).entries.filter (fun entry => entry.1 ≠ key) = dict.entries
    have kept : dict.entries.filter (fun entry => entry.1 ≠ key) = dict.entries :=
      congrArg Dict.entries (erase_of_notMem absent)
    rw [entries_set_of_notMem value absent, List.filter_append, List.filter_singleton, kept]
    simp
  exact ext entries

theorem mem_keys_set_iff {dict : Dict κ α} {key other : κ} {value : α} :
    other ∈ (dict.set key value).keys ↔ other = key ∨ other ∈ dict.keys := by
  rw [mem_keys_iff, mem_keys_iff, get?_set]
  by_cases same : other = key
  · simp [same]
  · simp [same]

theorem mem_keys_erase_iff {dict : Dict κ α} {key other : κ} :
    other ∈ (dict.erase key).keys ↔ other ≠ key ∧ other ∈ dict.keys := by
  rw [mem_keys_iff, mem_keys_iff]
  by_cases same : other = key
  · simp [same]
  · simp [same, get?_erase_of_ne dict same]

/-! ### Some of the keys -/

theorem restrict_set_of_kept {keep : κ → Bool} (dict : Dict κ α) {key : κ} (value : α)
    (kept : keep key = true) :
    (dict.set key value).restrict keep = (dict.restrict keep).set key value := by
  apply ext
  by_cases present : key ∈ dict.keys
  · have inside : key ∈ (dict.restrict keep).keys := mem_keys_restrict_iff.mpr ⟨present, kept⟩
    rw [entries_set_of_mem value inside]
    change (dict.set key value).entries.filter _ = (dict.entries.filter _).map _
    rw [entries_set_of_mem value present, List.filter_map]
    refine congrArg (List.map _) (List.filter_congr fun entry _ => ?_)
    dsimp only [Function.comp]
    split
    next here => rw [here]
    next => rfl
  · have outside : key ∉ (dict.restrict keep).keys := fun inside =>
      present (mem_keys_restrict_iff.mp inside).1
    rw [entries_set_of_notMem value outside]
    change (dict.set key value).entries.filter _ = _
    rw [entries_set_of_notMem value present, List.filter_append, List.filter_singleton, kept]
    rfl

theorem restrict_set_of_dropped {keep : κ → Bool} (dict : Dict κ α) {key : κ} (value : α)
    (dropped : keep key = false) : (dict.set key value).restrict keep = dict.restrict keep := by
  apply ext
  change (dict.set key value).entries.filter _ = dict.entries.filter _
  by_cases present : key ∈ dict.keys
  · rw [entries_set_of_mem value present, List.filter_map]
    have same : ((fun entry : κ × α => keep entry.1) ∘
        fun entry => if entry.1 = key then (key, value) else entry) = fun entry => keep entry.1 := by
      funext entry
      dsimp only [Function.comp]
      split
      next here => rw [here]
      next => rfl
    rw [same]
    conv_rhs => rw [← List.map_id (List.filter _ dict.entries)]
    refine List.map_congr_left fun entry member => if_neg ?_
    rintro rfl
    exact absurd (List.mem_filter.mp member).2 (by simp [dropped])
  · rw [entries_set_of_notMem value present, List.filter_append, List.filter_singleton, dropped]
    exact List.append_nil _

theorem restrict_erase (keep : κ → Bool) (dict : Dict κ α) (key : κ) :
    (dict.erase key).restrict keep = (dict.restrict keep).erase key := by
  apply ext
  change (dict.entries.filter _).filter _ = (dict.entries.filter _).filter _
  rw [List.filter_filter, List.filter_filter]
  refine List.filter_congr fun entry _ => Bool.and_comm _ _

theorem entries_foldl_erase (keys : List κ) (dict : Dict κ α) :
    (keys.foldl erase dict).entries = dict.entries.filter fun entry => entry.1 ∉ keys := by
  induction keys generalizing dict with
  | nil => simp
  | cons key rest inductionHypothesis =>
      rw [List.foldl_cons, inductionHypothesis]
      change (dict.entries.filter _).filter _ = _
      rw [List.filter_filter]
      refine List.filter_congr fun entry _ => ?_
      rw [Bool.eq_iff_iff]
      simp [and_comm]

/-! ### Setting many entries -/

/-- Set the entries one after the other. -/
def setAll (dict : Dict κ α) (entries : List (κ × α)) : Dict κ α :=
  entries.foldl (fun dict entry => dict.set entry.1 entry.2) dict

theorem get?_setAll_of_notMem {dict : Dict κ α} {entries : List (κ × α)} {key : κ}
    (absent : key ∉ entries.map Prod.fst) : (dict.setAll entries).get? key = dict.get? key := by
  induction entries generalizing dict with
  | nil => rfl
  | cons head tail inductionHypothesis =>
      rw [List.map_cons, List.mem_cons, not_or] at absent
      have later : ((dict.set head.1 head.2).setAll tail).get? key =
          (dict.set head.1 head.2).get? key := inductionHypothesis absent.2
      rw [get?_set_of_ne dict head.2 absent.1] at later
      exact later

/-- Entries under keys of their own are added at the end. -/
theorem entries_setAll_of_nodup {dict : Dict κ α} {entries : List (κ × α)}
    (nodup : ((dict.entries ++ entries).map Prod.fst).Nodup) :
    (dict.setAll entries).entries = dict.entries ++ entries := by
  induction entries generalizing dict with
  | nil => exact (List.append_nil _).symm
  | cons head tail inductionHypothesis =>
      have absent : head.1 ∉ dict.keys := by
        rw [List.map_append, List.map_cons] at nodup
        intro present
        exact (List.nodup_append.mp nodup).2.2 head.1 present head.1 List.mem_cons_self rfl
      have added := entries_set_of_notMem head.2 absent
      have later : (((dict.set head.1 head.2).entries ++ tail).map Prod.fst).Nodup := by
        rw [added, List.append_assoc]
        exact nodup
      show ((dict.set head.1 head.2).setAll tail).entries = _
      rw [inductionHypothesis later, added, List.append_assoc]
      rfl

/-- A map is rebuilt from its entries. -/
theorem empty_setAll_entries (dict : Dict κ α) : (empty : Dict κ α).setAll dict.entries = dict :=
  ext (entries_setAll_of_nodup dict.nodup)

/-- A key that the entries give one value has it in the end. -/
theorem get?_setAll_of_mem {dict : Dict κ α} {entries : List (κ × α)} {key : κ} {value : α}
    (member : (key, value) ∈ entries)
    (single : ∀ entry ∈ entries, entry.1 = key → entry.2 = value) :
    (dict.setAll entries).get? key = some value := by
  induction entries generalizing dict with
  | nil => simp at member
  | cons head tail inductionHypothesis =>
      by_cases inTail : key ∈ tail.map Prod.fst
      · obtain ⟨entry, entryMember, same⟩ := List.mem_map.mp inTail
        have held : entry.2 = value := single entry (List.mem_cons_of_mem head entryMember) same
        have tailMember : (key, value) ∈ tail := by
          rw [← same, ← held]
          exact entryMember
        exact inductionHypothesis tailMember fun entry later =>
          single entry (List.mem_cons_of_mem head later)
      · have headKey : (key, value) = head := by
          rcases List.mem_cons.mp member with here | later
          · exact here
          · exact absurd (List.mem_map.mpr ⟨_, later, rfl⟩) inTail
        have later : ((dict.set head.1 head.2).setAll tail).get? key =
            (dict.set head.1 head.2).get? key := get?_setAll_of_notMem inTail
        rw [← headKey, get?_set_self] at later
        exact headKey ▸ later

/-- Set each key to what a lookup finds for it; a key without a value stays. -/
def setFound (dict : Dict κ α) (lookup : κ → Option α) (keys : List κ) : Dict κ α :=
  dict.setAll (keys.filterMap fun key => (lookup key).map fun value => (key, value))

theorem setFound_cons (dict : Dict κ α) (lookup : κ → Option α) (key : κ) (keys : List κ) :
    dict.setFound lookup (key :: keys) =
      ((lookup key).elim dict (dict.set key)).setFound lookup keys := by
  unfold setFound
  rw [List.filterMap_cons]
  cases lookup key with
  | none => rfl
  | some value => rfl

theorem get?_setFound (dict : Dict κ α) (lookup : κ → Option α) (keys : List κ) (key : κ) :
    (dict.setFound lookup keys).get? key =
      (if key ∈ keys then lookup key else none).or (dict.get? key) := by
  induction keys generalizing dict with
  | nil => rfl
  | cons head tail inductionHypothesis =>
      rw [setFound_cons, inductionHypothesis]
      by_cases same : key = head
      · subst same
        rw [if_pos List.mem_cons_self]
        cases found : lookup key with
        | none => rw [ite_self]; rfl
        | some value =>
            show Option.or _ ((dict.set key value).get? key) = _
            rw [get?_set_self]
            split <;> rfl
      · have kept : ((lookup head).elim dict (dict.set head)).get? key = dict.get? key := by
          cases lookup head with
          | none => rfl
          | some value => exact get?_set_of_ne dict value same
        rw [kept]
        simp [same]

/-! ### Mapping the values -/

/-- Apply a function to every value. -/
def mapValues (f : α → α) (dict : Dict κ α) : Dict κ α :=
  ⟨dict.entries.map fun entry => (entry.1, f entry.2), by
    rw [List.map_map]
    exact dict.nodup⟩

@[simp] theorem get?_mapValues (f : α → α) (dict : Dict κ α) (key : κ) :
    (dict.mapValues f).get? key = (dict.get? key).map f := by
  unfold get? mapValues
  rw [List.find?_map, Option.map_map, Option.map_map]
  rfl

/-! ### Sums over the values -/

section Sum

variable {M : Type} [AddCommMonoid M] (measure : α → M)

/-- The sum of `measure` over all values. -/
def sumBy (dict : Dict κ α) : M := (dict.values.map measure).sum

private theorem sum_replace {entries : List (κ × α)} (nodup : (entries.map Prod.fst).Nodup)
    {key : κ} {old : α} (value : α) (member : (key, old) ∈ entries) :
    ((entries.map fun entry => if entry.1 = key then (key, value) else entry).map
        fun entry => measure entry.2).sum + measure old =
      (entries.map fun entry => measure entry.2).sum + measure value := by
  induction entries with
  | nil => simp at member
  | cons head tail inductionHypothesis =>
      rw [List.map_cons, List.nodup_cons] at nodup
      rcases List.mem_cons.mp member with rfl | inTail
      · have untouched : (tail.map fun entry => if entry.1 = key then (key, value) else entry) =
            tail := by
          conv_rhs => rw [← List.map_id tail]
          refine List.map_congr_left fun entry inTail => if_neg ?_
          rintro rfl
          exact nodup.1 (List.mem_map.mpr ⟨entry, inTail, rfl⟩)
        simp only [List.map_cons, ite_true, untouched, List.sum_cons]
        rw [add_right_comm, add_comm (measure value), add_right_comm, add_comm (measure old),
          add_right_comm]
      · have headOther : head.1 ≠ key := by
          rintro rfl
          exact nodup.1 (List.mem_map.mpr ⟨_, inTail, rfl⟩)
        simp only [List.map_cons, if_neg headOther, List.sum_cons]
        rw [add_assoc, inductionHypothesis nodup.2 inTail, add_assoc]

/-- Replacing a value changes the sum by the new measure less the old one. -/
theorem sumBy_set {dict : Dict κ α} {key : κ} {old : α} (value : α)
    (found : dict.get? key = some old) :
    (dict.set key value).sumBy measure + measure old = dict.sumBy measure + measure value := by
  have member := mem_entries_of_get? found
  have present : key ∈ dict.keys := List.mem_map.mpr ⟨_, member, rfl⟩
  unfold sumBy values
  rw [List.map_map, List.map_map, entries_set_of_mem value present]
  exact sum_replace measure dict.nodup value member

theorem sumBy_eq_zero {dict : Dict κ α} (zero : ∀ key value, dict.get? key = some value →
    measure value = 0) : dict.sumBy measure = 0 := by
  unfold sumBy values
  refine List.sum_eq_zero fun term member => ?_
  rw [List.map_map, List.mem_map] at member
  obtain ⟨⟨key, value⟩, entryMember, rfl⟩ := member
  exact zero key value (get?_of_mem_entries entryMember)

/-- The sum over the values is a sum over any finite set that holds the keys. -/
theorem sumBy_eq_sum {dict : Dict κ α} {support : Finset κ}
    (covers : ∀ key value, dict.get? key = some value → key ∈ support) :
    dict.sumBy measure = ∑ key ∈ support, ((dict.get? key).map measure).getD 0 := by
  have nodup : dict.keys.Nodup := dict.nodup
  have listed : dict.sumBy measure =
      (dict.keys.map fun key => ((dict.get? key).map measure).getD 0).sum := by
    unfold sumBy values keys
    rw [List.map_map, List.map_map]
    refine congrArg List.sum (List.map_congr_left fun entry member => ?_)
    have found : dict.get? entry.1 = some entry.2 := get?_of_mem_entries member
    simp [found]
  rw [listed, ← List.sum_toFinset _ nodup]
  refine Finset.sum_subset (fun key member => ?_) fun key _ absent => ?_
  · obtain ⟨value, found⟩ := mem_keys_iff.mp (List.mem_toFinset.mp member)
    exact covers key value found
  · have none : dict.get? key = none := by
      rw [get?_eq_none_iff]
      exact fun present => absent (List.mem_toFinset.mpr present)
    rw [none]
    rfl

end Sum

end Dict

end TradingStrands.Foundation
