import TradingStrands.Foundation.DelimitedKey
import TradingStrands.Foundation.Dict
import TradingStrands.Foundation.Newest
import TradingStrands.Foundation.Reading

/-!
Owns flat maps from text to items that hold the rows of several families. The key
of a row is the name of its family, an owner and a rest. Such a map represents one
map a family, from owners and rests to rows: writing and removing a row is writing
and removing it in the map of its family, and a scan for the prefix of an owner
finds the rows of the owner in this family. Keys of other families may be in the
flat map too, and nothing here sees them.

Does not own: any particular family or item.
-/

namespace TradingStrands.Foundation

/-- How the families of `φ` are laid out in a map from text to `β`: a name a
family, without the delimiter, and what its rows are written as. -/
structure Layout (φ : Type) (delimiter : Char) (β : Type) where
  mark : String
  isMark : mark.toList = [delimiter]
  name : φ → String
  free : ∀ family, FreeOf delimiter (name family)
  distinct : ∀ left right, name left = name right → left = right
  Row : φ → Type
  item : (family : φ) → Row family → β

namespace Layout

variable {φ : Type} {delimiter : Char} {β : Type} (layout : Layout φ delimiter β)

/-- What a key has behind its family: an owner and a rest. -/
abbrev Suffix (delimiter : Char) : Type := PlainId delimiter × String

def key (family : φ) (suffix : Suffix delimiter) : String :=
  layout.name family ++ layout.mark ++ (suffix.1.text ++ layout.mark ++ suffix.2)

/-- The prefix of an owner's keys. -/
def lead (family : φ) (owner : PlainId delimiter) : String :=
  layout.name family ++ layout.mark ++ (owner.text ++ layout.mark)

def inFamily (family : φ) (text : String) : Bool :=
  familyOf delimiter text = (layout.name family).toList

/-- The keys of none of the families. -/
def Elsewhere (text : String) : Prop := ∀ family, layout.inFamily family text = false

/-- The rows of each family. -/
abbrev Contents : Type := (family : φ) → Dict (Suffix delimiter) (layout.Row family)

def noRows : layout.Contents := fun _ => Dict.empty

section Keys

variable {layout} {family other : φ} {suffix : Suffix delimiter}

theorem familyOf_key (family : φ) (suffix : Suffix delimiter) :
    familyOf delimiter (layout.key family suffix) = (layout.name family).toList :=
  familyOf_append layout.isMark (layout.free family)

theorem inFamily_key : layout.inFamily other (layout.key family suffix) = true ↔ other = family := by
  unfold inFamily
  rw [familyOf_key, decide_eq_true_eq, String.toList_inj]
  constructor
  · exact fun same => (layout.distinct _ _ same).symm
  · rintro rfl
    rfl

/-- A key begins with the prefix of its owner, and with no other. -/
theorem key_begins_iff {owner : PlainId delimiter} :
    beginsWith (layout.key family suffix) (layout.lead family owner) = true ↔ suffix.1 = owner := by
  have delimited := @beginsWith_delimited (layout.name family ++ layout.mark) owner.text
    suffix.1.text suffix.2 layout.mark delimiter layout.isMark owner.free suffix.1.free
  unfold key lead
  rw [← String.append_assoc, ← String.append_assoc, ← String.append_assoc, delimited,
    PlainId.text_inj]
  exact eq_comm

theorem key_inj {left right : Suffix delimiter}
    (same : layout.key family left = layout.key family right) : left = right := by
  have begins : beginsWith (layout.key family left) (layout.lead family right.1) = true := by
    rw [same]
    exact key_begins_iff.mpr rfl
  have owners := key_begins_iff.mp begins
  unfold key at same
  rw [owners, String.append_right_inj, String.append_right_inj] at same
  exact Prod.ext owners same

/-- Only keys of the family begin with the prefix of one of its owners. -/
theorem inFamily_of_begins {text : String} {owner : PlainId delimiter}
    (begins : beginsWith text (layout.lead family owner) = true) :
    layout.inFamily family text = true :=
  decide_eq_true (familyOf_of_beginsWith layout.isMark (layout.free family) begins)

end Keys

/-! ### Representation -/

def encode (family : φ) (entry : Suffix delimiter × layout.Row family) : String × β :=
  (layout.key family entry.1, layout.item family entry.2)

/-- In each family the flat map has the rows of the contents, in their order. -/
def Represents (flat : Dict String β) (contents : layout.Contents) : Prop :=
  ∀ family, (flat.restrict (layout.inFamily family)).entries =
    (contents family).entries.map (layout.encode family)

/-- The rows of an owner. -/
def ownedBy {layout : Layout φ delimiter β} (contents : layout.Contents) (family : φ)
    (owner : PlainId delimiter) : List (Suffix delimiter × layout.Row family) :=
  (contents family).entries.filter fun entry => entry.1.1 = owner

section Writing

variable [DecidableEq φ] {layout} {flat : Dict String β} {contents : layout.Contents}

/-- Write a row. -/
def file (contents : layout.Contents) (family : φ) (suffix : Suffix delimiter)
    (row : layout.Row family) : layout.Contents :=
  Function.update contents family ((contents family).set suffix row)

def remove (contents : layout.Contents) (family : φ) (suffix : Suffix delimiter) :
    layout.Contents :=
  Function.update contents family ((contents family).erase suffix)

/-- Remove the rows of an owner. -/
def removeOwned (contents : layout.Contents) (family : φ) (owner : PlainId delimiter) :
    layout.Contents :=
  Function.update contents family
    ((contents family).restrict fun suffix => decide (suffix.1 ≠ owner))

omit [DecidableEq φ] in
theorem represents_noRows : layout.Represents Dict.empty layout.noRows := fun _ => rfl

omit [DecidableEq φ] in
theorem keys_of_represents (represents : layout.Represents flat contents) (family : φ) :
    (flat.restrict (layout.inFamily family)).keys =
      (contents family).keys.map (layout.key family) := by
  unfold Dict.keys
  rw [represents family, List.map_map, List.map_map]
  rfl

omit [DecidableEq φ] in
theorem mem_keys_iff (represents : layout.Represents flat contents) {family : φ}
    {suffix : Suffix delimiter} :
    layout.key family suffix ∈ (flat.restrict (layout.inFamily family)).keys ↔
      suffix ∈ (contents family).keys := by
  rw [keys_of_represents represents]
  constructor
  · intro member
    obtain ⟨other, inside, same⟩ := List.mem_map.mp member
    exact key_inj same ▸ inside
  · exact List.mem_map_of_mem

theorem Represents.file (represents : layout.Represents flat contents) (family : φ)
    (suffix : Suffix delimiter) (row : layout.Row family) :
    layout.Represents (flat.set (layout.key family suffix) (layout.item family row))
      (Layout.file contents family suffix row) := by
  intro other
  unfold Layout.file
  by_cases same : other = family
  · subst same
    rw [Function.update_self, Dict.restrict_set_of_kept _ _ (inFamily_key.mpr rfl)]
    by_cases present : suffix ∈ (contents other).keys
    · rw [Dict.entries_set_of_mem _ ((mem_keys_iff represents).mpr present),
        Dict.entries_set_of_mem _ present, represents other, List.map_map, List.map_map]
      refine List.map_congr_left fun entry _ => ?_
      unfold encode
      dsimp only [Function.comp]
      by_cases here : entry.1 = suffix
      · rw [if_pos here, if_pos (by rw [here])]
      · rw [if_neg here, if_neg fun keys => here (key_inj keys)]
    · rw [Dict.entries_set_of_notMem _ fun member => present ((mem_keys_iff represents).mp member),
        Dict.entries_set_of_notMem _ present, represents other, List.map_append]
      rfl
  · rw [Function.update_of_ne same, Dict.restrict_set_of_dropped, represents other]
    rw [Bool.eq_false_iff]
    exact fun inside => same (inFamily_key.mp inside)

theorem Represents.remove (represents : layout.Represents flat contents) (family : φ)
    (suffix : Suffix delimiter) :
    layout.Represents (flat.erase (layout.key family suffix))
      (Layout.remove contents family suffix) := by
  intro other
  unfold Layout.remove
  rw [Dict.restrict_erase]
  change (flat.restrict (layout.inFamily other)).entries.filter _ = _
  rw [represents other, List.filter_map]
  by_cases same : other = family
  · cases same
    rw [Function.update_self]
    refine congrArg (List.map _) (List.filter_congr fun entry _ => ?_)
    unfold encode
    dsimp only [Function.comp]
    rw [decide_eq_decide, not_iff_not]
    exact ⟨key_inj, fun same => by rw [same]⟩
  · rw [Function.update_of_ne same]
    refine congrArg (List.map _) (List.filter_eq_self.mpr fun entry _ => ?_)
    refine decide_eq_true fun keys => ?_
    have inside : layout.inFamily other (layout.key other entry.1) = true := inFamily_key.mpr rfl
    unfold encode at keys
    dsimp only at keys
    rw [keys] at inside
    exact same (inFamily_key.mp inside)

omit [DecidableEq φ] in
theorem Represents.setElsewhere (represents : layout.Represents flat contents) {text : String}
    (elsewhere : layout.Elsewhere text) (value : β) :
    layout.Represents (flat.set text value) contents := by
  intro family
  rw [Dict.restrict_set_of_dropped _ _ (elsewhere family), represents family]

omit [DecidableEq φ] in
theorem Represents.eraseElsewhere (represents : layout.Represents flat contents) {text : String}
    (elsewhere : layout.Elsewhere text) : layout.Represents (flat.erase text) contents := by
  intro family
  rw [Dict.restrict_erase]
  have absent : text ∉ (flat.restrict (layout.inFamily family)).keys := by
    intro member
    have inside := (Dict.mem_keys_restrict_iff.mp member).2
    rw [elsewhere family] at inside
    cases inside
  rw [Dict.erase_of_notMem absent, represents family]

end Writing

/-! ### Reading -/

section Reading

variable {layout} {flat : Dict String β} {contents : layout.Contents}

/-- A scan for the prefix of an owner finds the owner's rows in the family, and
nothing else. -/
theorem Represents.scan (represents : layout.Represents flat contents) (family : φ)
    (owner : PlainId delimiter) :
    flat.entries.filter (fun entry => beginsWith entry.1 (layout.lead family owner)) =
      (ownedBy contents family owner).map (layout.encode family) := by
  have narrowed : flat.entries.filter (fun entry => beginsWith entry.1 (layout.lead family owner)) =
      (flat.restrict (layout.inFamily family)).entries.filter
        (fun entry => beginsWith entry.1 (layout.lead family owner)) := by
    change _ = (flat.entries.filter _).filter _
    rw [List.filter_filter]
    refine List.filter_congr fun entry _ => ?_
    rw [Bool.eq_iff_iff, Bool.and_eq_true]
    exact ⟨fun begins => ⟨begins, inFamily_of_begins begins⟩, And.left⟩
  rw [narrowed, represents family, List.filter_map]
  unfold ownedBy
  refine congrArg (List.map _) (List.filter_congr fun entry _ => ?_)
  rw [Bool.eq_iff_iff, decide_eq_true_eq]
  exact key_begins_iff

/-- Removing what a scan for an owner finds removes the owner's rows. -/
theorem Represents.removeOwned [DecidableEq φ] (represents : layout.Represents flat contents)
    (family : φ) (owner : PlainId delimiter) :
    layout.Represents
      (((flat.entries.filter fun entry =>
        beginsWith entry.1 (layout.lead family owner)).map Prod.fst).foldl Dict.erase flat)
      (Layout.removeOwned contents family owner) := by
  intro other
  have kept : ∀ entry ∈ flat.entries,
      decide (entry.1 ∉ (flat.entries.filter fun entry =>
        beginsWith entry.1 (layout.lead family owner)).map Prod.fst) =
      !beginsWith entry.1 (layout.lead family owner) := by
    intro entry member
    rw [Bool.eq_iff_iff, decide_eq_true_eq, Bool.not_eq_true', ← Bool.not_eq_true]
    refine not_congr ⟨fun found => ?_, fun begins => ?_⟩
    · obtain ⟨row, inside, same⟩ := List.mem_map.mp found
      rw [← same]
      exact (List.mem_filter.mp inside).2
    · exact List.mem_map_of_mem (List.mem_filter.mpr ⟨member, begins⟩)
  unfold Layout.removeOwned
  change (Dict.entries _).filter _ = _
  rw [Dict.entries_foldl_erase, List.filter_congr kept, List.filter_filter]
  have first : flat.entries.filter (fun entry => layout.inFamily other entry.1 &&
      !beginsWith entry.1 (layout.lead family owner)) =
        (flat.restrict (layout.inFamily other)).entries.filter
          (fun entry => !beginsWith entry.1 (layout.lead family owner)) := by
    change _ = (flat.entries.filter _).filter _
    rw [List.filter_filter]
    exact List.filter_congr fun entry _ => Bool.and_comm _ _
  rw [first, represents other, List.filter_map]
  by_cases same : other = family
  · subst same
    rw [Function.update_self]
    refine congrArg (List.map _) (List.filter_congr fun entry _ => ?_)
    rw [Bool.eq_iff_iff, decide_eq_true_eq]
    unfold encode
    dsimp only [Function.comp]
    rw [Bool.not_eq_true', ← Bool.not_eq_true, key_begins_iff]
  · rw [Function.update_of_ne same]
    refine congrArg (List.map _) (List.filter_eq_self.mpr fun entry _ => ?_)
    unfold encode
    dsimp only [Function.comp]
    rw [Bool.not_eq_true', ← Bool.not_eq_true]
    exact fun begins => same (inFamily_key.mp (inFamily_of_begins begins)).symm

theorem Represents.lookup (represents : layout.Represents flat contents) (family : φ)
    (suffix : Suffix delimiter) :
    flat.get? (layout.key family suffix) =
      ((contents family).get? suffix).map (layout.item family) := by
  have inside : layout.inFamily family (layout.key family suffix) = true := inFamily_key.mpr rfl
  apply Option.ext
  intro value
  rw [Dict.get?_eq_some_iff, Option.map_eq_some_iff]
  have narrowed : (layout.key family suffix, value) ∈ flat.entries ↔
      (layout.key family suffix, value) ∈ (flat.restrict (layout.inFamily family)).entries := by
    unfold Dict.restrict
    rw [List.mem_filter, and_iff_left inside]
  rw [narrowed, represents family, List.mem_map]
  constructor
  · rintro ⟨entry, member, same⟩
    obtain ⟨keys, rfl⟩ := Prod.ext_iff.mp same
    exact ⟨entry.2, Dict.get?_eq_some_iff.mpr (key_inj keys ▸ member), rfl⟩
  · rintro ⟨row, found, rfl⟩
    exact ⟨(suffix, row), Dict.get?_eq_some_iff.mp found, rfl⟩

/-- The records of an owner, without their keys. -/
def records {layout : Layout φ delimiter β} (contents : layout.Contents) (family : φ)
    (owner : PlainId delimiter) : List (layout.Row family) :=
  (ownedBy contents family owner).map Prod.snd

variable {ε : Type} {family : φ} {read : β → Except ε (layout.Row family)}

/-- Rows that read back what was written are read as the records in them. -/
theorem mapM_encode (inverse : ∀ row, read (layout.item family row) = .ok row)
    (entries : List (Suffix delimiter × layout.Row family)) :
    (entries.map (layout.encode family)).mapM (fun entry => read entry.2) =
      .ok (entries.map Prod.snd) := by
  induction entries with
  | nil => rfl
  | cons entry rest inductionHypothesis =>
      rw [List.map_cons, mapM_cons_ok_iff]
      exact ⟨entry.2, _, inverse entry.2, inductionHypothesis, rfl⟩

theorem Represents.read_scan (represents : layout.Represents flat contents)
    (inverse : ∀ row, read (layout.item family row) = .ok row) (owner : PlainId delimiter) :
    (flat.entries.filter fun entry => beginsWith entry.1 (layout.lead family owner)).mapM
      (fun entry => read entry.2) = .ok (records contents family owner) := by
  rw [represents.scan]
  exact mapM_encode inverse _

/-- The same where the rows are sorted first, by something the record tells. -/
theorem Represents.read_sorted {κ : Type} [LinearOrder κ] {rowKey : β → κ}
    {recordKey : layout.Row family → κ} (represents : layout.Represents flat contents)
    (inverse : ∀ row, read (layout.item family row) = .ok row)
    (named : ∀ row, rowKey (layout.item family row) = recordKey row) (owner : PlainId delimiter) :
    ((flat.entries.filter fun entry => beginsWith entry.1 (layout.lead family owner)).insertionSort
      fun left right => rowKey left.2 ≤ rowKey right.2).mapM (fun entry => read entry.2) =
      .ok (oldestFirst recordKey (records contents family owner)) := by
  have sorted : (oldestFirst (fun entry => recordKey entry.2) (ownedBy contents family owner)).map
      (layout.encode family) = ((ownedBy contents family owner).map
        (layout.encode family)).insertionSort fun left right => rowKey left.2 ≤ rowKey right.2 := by
    refine List.map_insertionSort _ _ _ _ fun left _ right _ => ?_
    unfold encode
    dsimp only
    rw [named, named]
  have values : (oldestFirst (fun entry => recordKey entry.2) (ownedBy contents family owner)).map
      Prod.snd = oldestFirst recordKey (records contents family owner) :=
    List.map_insertionSort _ _ _ _ fun _ _ _ _ => Iff.rfl
  rw [represents.scan, ← sorted, mapM_encode inverse, values]

end Reading

end Layout

end TradingStrands.Foundation
