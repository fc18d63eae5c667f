import TradingStrands.Foundation.Alternation
import TradingStrands.Foundation.Runs
import TradingStrands.Halt.Store

/-!
Owns the halt audit log as a second account of the flags. Each flag is set
exactly if an odd number of its transitions is recorded, so a log whose
transitions alternate replays to the flags. The log is sorted by the second of
the clock alone: transitions of one second come in the order of the scan, and
the log alternates exactly if each such group does.

Does not own: the metric a transition emits. A row carries a key that no
earlier row has; the scan returns the rows that are there in any order.
-/

namespace TradingStrands.HaltStore

open TradingStrands.Foundation

/-- A call that writes a flag, with its clock reads and its random suffix. -/
structure HaltCall where
  target : HaltTarget
  halted : Bool
  reason : String := ""
  stamp : Stamp := {}

def setHaltFlag (table : Table) (call : HaltCall) : Table :=
  match call.target with
  | .system => setSystemHalt table call.stamp call.halted call.reason
  | .org orgId => setOrgHalt table call.stamp orgId call.halted call.reason

def flagOf (table : Table) : HaltTarget → Bool
  | .system => isSystemHalted table
  | .org orgId => isOrgHalted table orgId

/-- Whose flag an event is about. -/
def HaltEvent.target (event : HaltEvent) : HaltTarget :=
  if event.scope = "system" then .system else .org (event.orgId.getD "")

/-- The flags after the events, oldest first; before them no flag is set. -/
def replay (events : List HaltEvent) : HaltTarget → Bool :=
  events.foldl (fun flags event => Function.update flags event.target event.halted)
    fun _ => false

/-- The events of one flag. -/
def eventsOf (target : HaltTarget) (events : List HaltEvent) : List HaltEvent :=
  events.filter fun event => event.target = target

/-- A log, newest first, replays to the flags, and each flag's events alternate
between halted and not halted, the oldest halted. -/
structure Replays (table : Table) (events : List HaltEvent) : Prop where
  flags : ∀ target, replay events.reverse target = flagOf table target
  alternates : ∀ target,
    AlternatesFrom true ((eventsOf target events.reverse).map (·.halted))

theorem eventsOf_perm {left right : List HaltEvent} (permutation : left.Perm right)
    (target : HaltTarget) : (eventsOf target left).Perm (eventsOf target right) :=
  permutation.filter _

/-- No flag is set and no transition is recorded. -/
structure Unrecorded (table : Table) : Prop where
  flags : ∀ target, flagOf table target = false
  rows : table.scanPrefix haltEventPkPrefix = []

def eventPk (stamp : Stamp) : String :=
  haltEventPkPrefix ++ (toString stamp.eventAt ++ "-" ++ stamp.suffix)

/-- The key of a row that is about to be recorded is new. -/
def FreshKey (table : Table) (call : HaltCall) : Prop :=
  flagOf table call.target ≠ call.halted → table.getItem (eventPk call.stamp) = none

instance (table : Table) (call : HaltCall) : Decidable (FreshKey table call) :=
  inferInstanceAs (Decidable (_ → _))

/-- In every second the events of a flag alternate when they are taken from the
back of the scan. The first is halted if an even number of the flag's events
carries an earlier second. -/
def TiesInOrder (scanned : List HaltEvent) : Prop :=
  ∀ target second,
    AlternatesFrom (groupStart HaltEvent.ts true (eventsOf target scanned) second)
      (((eventsOf target scanned).filter fun event => event.ts = second).reverse.map (·.halted))

/-! ### What a call does to the flags and the log -/

theorem flagOf_setHaltFlag (table : Table) (call : HaltCall) (target : HaltTarget) :
    flagOf (setHaltFlag table call) target =
      if target = call.target then call.halted else flagOf table target := by
  obtain ⟨written, halted, reason, stamp⟩ := call
  cases written with
  | system =>
      cases target with
      | system => exact isSystemHalted_setSystemHalt table stamp halted reason
      | org orgId => exact congrArg HaltState.halted (getOrgState_setSystemHalt table stamp orgId
          halted reason)
  | org orgId =>
      cases target with
      | system => exact congrArg HaltState.halted (getSystemState_setOrgHalt table stamp orgId
          halted reason)
      | org other =>
          by_cases same : other = orgId
          · subst same
            rw [if_pos rfl]
            exact isOrgHalted_setOrgHalt_self table stamp other halted reason
          · rw [if_neg (by simpa using same)]
            exact congrArg HaltState.halted
              (getOrgState_setOrgHalt_of_ne table stamp halted reason same)

/-- The event a call records if it changes its flag. -/
def HaltCall.event (call : HaltCall) : HaltEvent :=
  { ts := call.stamp.eventAt
    scope := match call.target with
      | .system => "system"
      | .org _ => "org"
    halted := call.halted
    reason := if call.reason = "" then none else some call.reason
    orgId := match call.target with
      | .system => none
      | .org orgId => if orgId = "" then none else some orgId }

@[simp] theorem target_event (call : HaltCall) : call.event.target = call.target := by
  obtain ⟨target, halted, reason, stamp⟩ := call
  cases target with
  | system => rfl
  | org orgId =>
      by_cases unnamed : orgId = ""
      · subst unnamed
        rfl
      · unfold HaltCall.event HaltEvent.target
        simp [unnamed]

/-- The events of the table in the order of its rows. -/
def recorded (table : Table) : List HaltEvent :=
  (table.scanPrefix haltEventPkPrefix).map fun row => eventOf row.2

private theorem recorded_putItem_of_not (table : Table) {pk : String} (item : Item)
    (outside : beginsWith pk haltEventPkPrefix = false) :
    recorded (table.putItem pk item) = recorded table := by
  unfold recorded
  rw [Table.scanPrefix_putItem_of_not table item outside]

private theorem orgHaltPk_outside (orgId : OrgId) :
    beginsWith (orgHaltPk orgId) haltEventPkPrefix = false := by
  have leads : haltEventPkPrefix.toList[0]? = some 'H' := rfl
  have other : (orgHaltPk orgId).toList[0]? = some 'C' := by simp [orgHaltPk, orgHaltPkPrefix]
  exact not_beginsWith_of_get leads other (by decide)

/-- A transition after the write of its control row appends one event. -/
private theorem recorded_recordTransition (table : Table) {pk : String} (item : Item)
    (outside : beginsWith pk haltEventPkPrefix = false)
    (apart : ∀ rest, pk ≠ haltEventPkPrefix ++ rest) (stamp : Stamp) (scope : String)
    (halted : Bool) (orgId : Option OrgId) (reason : String)
    (fresh : table.getItem (eventPk stamp) = none) :
    recorded (recordTransition (table.putItem pk item) stamp scope halted orgId reason) =
      recorded table ++
        [{ ts := stamp.eventAt, scope := scope, halted := halted
           reason := if reason = "" then none else some reason
           orgId := orgId.bind fun org => if org = "" then none else some org }] := by
  have inside : beginsWith (eventPk stamp) haltEventPkPrefix = true := by
    rw [beginsWith_iff]
    unfold eventPk
    rw [String.toList_append]
    exact List.prefix_append _ _
  have absent : (table.putItem pk item).getItem (eventPk stamp) = none := by
    have different : eventPk stamp ≠ pk := (apart _).symm
    rw [Table.getItem_putItem_of_ne table item different]
    exact fresh
  rw [← recorded_putItem_of_not table item outside]
  unfold recordTransition
  refine (congrArg (List.map fun row => eventOf row.2)
    (Table.scanPrefix_putItem_fresh _ _ inside absent)).trans ?_
  rw [List.map_append]
  refine congrArg (recorded (table.putItem pk item) ++ ·) (congrArg (fun event => [event]) ?_)
  cases orgId with
  | none => rfl
  | some org =>
      by_cases unnamed : org = ""
      · subst unnamed
        rfl
      · simp [eventOf, textOrNone, Item.attr?, Attr.toText, unnamed, Attr.toInt, Attr.truthy]

/-- A call records its event exactly if it changes its flag. -/
theorem recorded_setHaltFlag (table : Table) (call : HaltCall) (fresh : FreshKey table call) :
    recorded (setHaltFlag table call) =
      recorded table ++ if flagOf table call.target = call.halted then [] else [call.event] := by
  obtain ⟨target, halted, reason, stamp⟩ := call
  cases target with
  | system =>
      have control : beginsWith systemHaltPk haltEventPkPrefix = false := by decide
      unfold setHaltFlag setSystemHalt
      by_cases kept : flagOf table .system = halted
      · have same : (getSystemState table).halted = halted := kept
        rw [if_pos kept, List.append_nil]
        simp only [same, ne_eq, not_true_eq_false, if_false]
        exact recorded_putItem_of_not table _ control
      · have changed : (getSystemState table).halted ≠ halted := kept
        rw [if_neg kept]
        simp only [changed, ne_eq, not_false_eq_true, if_true]
        exact recorded_recordTransition table _ control systemHaltPk_ne_event stamp "system" halted
          none reason (fresh kept)
  | org orgId =>
      unfold setHaltFlag setOrgHalt
      by_cases kept : flagOf table (.org orgId) = halted
      · have same : (getOrgState table orgId).halted = halted := kept
        rw [if_pos kept, List.append_nil]
        simp only [same, ne_eq, not_true_eq_false, if_false]
        exact recorded_putItem_of_not table _ (orgHaltPk_outside orgId)
      · have changed : (getOrgState table orgId).halted ≠ halted := kept
        rw [if_neg kept]
        simp only [changed, ne_eq, not_false_eq_true, if_true]
        exact recorded_recordTransition table _ (orgHaltPk_outside orgId)
          (orgHaltPk_ne_event orgId) stamp "org" halted (some orgId) reason (fresh kept)

/-! ### Along a sequence of calls -/

/-- The recorded events of each flag alternate, and the flag is set exactly if
their number is odd. -/
structure Accounts (table : Table) : Prop where
  alternates : ∀ target,
    AlternatesFrom true ((eventsOf target (recorded table)).map (·.halted))
  parity : ∀ target, flagOf table target = (eventsOf target (recorded table)).length.bodd

theorem Unrecorded.accounts {table : Table} (unrecorded : Unrecorded table) : Accounts table := by
  have none_recorded : recorded table = [] := by
    unfold recorded
    rw [unrecorded.rows]
    rfl
  constructor
  · intro target
    rw [none_recorded]
    exact trivial
  · intro target
    rw [none_recorded, unrecorded.flags target]
    exact Nat.bodd_zero.symm

theorem Accounts.setHaltFlag {table : Table} (accounts : Accounts table) {call : HaltCall}
    (fresh : FreshKey table call) : Accounts (setHaltFlag table call) := by
  have grows := recorded_setHaltFlag table call fresh
  by_cases kept : flagOf table call.target = call.halted
  · rw [if_pos kept, List.append_nil] at grows
    constructor
    · rw [grows]
      exact accounts.alternates
    · intro target
      rw [grows, flagOf_setHaltFlag, ← accounts.parity target]
      split
      · next same => rw [same, kept]
      · rfl
  · rw [if_neg kept] at grows
    have own : eventsOf call.target (recorded table ++ [call.event]) =
        eventsOf call.target (recorded table) ++ [call.event] := by
      simp [eventsOf]
    have others : ∀ target, target ≠ call.target →
        eventsOf target (recorded table ++ [call.event]) = eventsOf target (recorded table) := by
      intro target different
      simp [eventsOf, different.symm]
    have turned : call.halted = !(eventsOf call.target (recorded table)).length.bodd := by
      rw [← accounts.parity call.target]
      exact (Bool.not_eq.mpr kept).symm
    constructor
    · intro target
      rw [grows]
      by_cases same : target = call.target
      · subst same
        rw [own, List.map_append]
        refine alternatesFrom_concat.mpr ⟨accounts.alternates _, ?_⟩
        rw [List.length_map, Bool.true_xor]
        exact turned
      · rw [others target same]
        exact accounts.alternates target
    · intro target
      rw [grows, flagOf_setHaltFlag]
      by_cases same : target = call.target
      · subst same
        rw [if_pos rfl, own, List.length_append, List.length_singleton, Nat.bodd_succ]
        exact turned
      · rw [if_neg same, others target same]
        exact accounts.parity target

theorem accounts_run {table : Table} {calls : List HaltCall} (unrecorded : Unrecorded table)
    (fresh : EachStep setHaltFlag FreshKey table calls) :
    Accounts (run setHaltFlag table calls) :=
  (always_of_eachStep setHaltFlag (fun _ _ accounts fresh => accounts.setHaltFlag fresh)
    unrecorded.accounts fresh).final

/-! ### Replaying the log -/

/-- After a replay a flag is the last one of its events. -/
theorem replay_eq_getLastD (events : List HaltEvent) (target : HaltTarget) :
    replay events target = ((eventsOf target events).map (·.halted)).getLastD false := by
  have general : ∀ flags : HaltTarget → Bool,
      events.foldl (fun flags event => Function.update flags event.target event.halted) flags
          target = ((eventsOf target events).map (·.halted)).getLastD (flags target) := by
    induction events with
    | nil => exact fun flags => rfl
    | cons event rest inductionHypothesis =>
        intro flags
        rw [List.foldl_cons, inductionHypothesis]
        unfold eventsOf
        by_cases mine : event.target = target
        · rw [List.filter_cons_of_pos (by simpa using mine), List.map_cons, List.getLastD_cons,
            ← mine, Function.update_self]
        · rw [List.filter_cons_of_neg (by simpa using mine),
            Function.update_of_ne (Ne.symm mine)]
  exact general fun _ => false

/-- If the log holds what is recorded, it replays as soon as it alternates. -/
theorem replays_iff_alternates {table : Table} (accounts : Accounts table)
    {events : List HaltEvent} (holds : events.Perm (recorded table)) :
    Replays table events ↔
      ∀ target, AlternatesFrom true ((eventsOf target events.reverse).map (·.halted)) := by
  constructor
  · exact Replays.alternates
  · intro alternates
    refine ⟨fun target => ?_, alternates⟩
    have count : (eventsOf target events.reverse).length =
        (eventsOf target (recorded table)).length :=
      (eventsOf_perm (events.reverse_perm.trans holds) target).length_eq
    have last := (alternates target).getLastD
    rw [List.length_map, count, ← accounts.parity target] at last
    rw [replay_eq_getLastD]
    simpa using last

/-- What `listEvents` shows of rows that all fit. -/
theorem listEvents_of_length_le {limit : Nat} {rows : List (String × Item)}
    (fits : rows.length ≤ limit) :
    listEvents limit rows = newestFirst HaltEvent.ts (rows.map fun row => eventOf row.2) := by
  unfold listEvents
  rw [map_newest HaltEvent.ts (fun row : String × Item => eventOf row.2), newest_of_length_le]
  rw [List.length_map]
  exact fits

/-- A log sorted by the second alternates exactly if the ties do. -/
theorem alternates_newestFirst_iff (scanned : List HaltEvent) (target : HaltTarget) :
    AlternatesFrom true
        ((eventsOf target (newestFirst HaltEvent.ts scanned).reverse).map (·.halted)) ↔
      ∀ second, AlternatesFrom (groupStart HaltEvent.ts true (eventsOf target scanned) second)
        (((eventsOf target scanned).filter fun event => event.ts = second).reverse.map
          (·.halted)) := by
  have mine : eventsOf target (newestFirst HaltEvent.ts scanned).reverse =
      (newestFirst HaltEvent.ts (eventsOf target scanned)).reverse := by
    unfold eventsOf
    rw [List.filter_reverse, filter_newestFirst]
  rw [mine, alternatesFrom_sorted_iff HaltEvent.ts HaltEvent.halted
    (pairwise_reverse_newestFirst HaltEvent.ts _)]
  refine forall_congr' fun second => ?_
  rw [groupStart_perm HaltEvent.ts ((List.reverse_perm _).trans (perm_newestFirst _ _)),
    List.filter_reverse, filter_newestFirst_key]

/-- With a clock that does not go back, the ties are in order exactly if the scan
returns the transitions of each second in the reverse of the order in which they
were made, as far as their values show it. -/
theorem tiesInOrder_iff_recorded {table : Table} (accounts : Accounts table)
    (forward : (recorded table).Pairwise fun left right => left.ts ≤ right.ts)
    {scanned : List HaltEvent} (holds : scanned.Perm (recorded table)) :
    TiesInOrder scanned ↔ ∀ target second,
      ((eventsOf target scanned).filter fun event => event.ts = second).reverse.map (·.halted) =
        ((eventsOf target (recorded table)).filter fun event => event.ts = second).map
          (·.halted) := by
  have inOrder : ∀ target second,
      AlternatesFrom (groupStart HaltEvent.ts true (eventsOf target scanned) second)
        (((eventsOf target (recorded table)).filter fun event => event.ts = second).map
          (·.halted)) := by
    intro target second
    rw [groupStart_perm HaltEvent.ts (eventsOf_perm holds target)]
    exact (alternatesFrom_sorted_iff HaltEvent.ts HaltEvent.halted
      (forward.sublist List.filter_sublist) true).mp (accounts.alternates target) second
  refine forall_congr' fun target => forall_congr' fun second => ?_
  constructor
  · intro alternates
    refine alternates.eq_of_length (inOrder target second) ?_
    rw [List.length_map, List.length_map, List.length_reverse]
    exact ((eventsOf_perm holds target).filter _).length_eq
  · intro same
    rw [same]
    exact inOrder target second

/-- The audit log replays to the flags exactly if its ties are in order. -/
theorem replays_iff_tiesInOrder {table : Table} {calls : List HaltCall}
    (unrecorded : Unrecorded table) (fresh : EachStep setHaltFlag FreshKey table calls)
    {rows : List (String × Item)}
    (scan : rows.Perm ((run setHaltFlag table calls).scanPrefix haltEventPkPrefix))
    {limit : Nat} (fits : rows.length ≤ limit) :
    Replays (run setHaltFlag table calls) (listEvents limit rows) ↔
      TiesInOrder (rows.map fun row => eventOf row.2) := by
  have accounts := accounts_run unrecorded fresh
  rw [listEvents_of_length_le fits]
  rw [replays_iff_alternates accounts ((perm_newestFirst _ _).trans (scan.map _))]
  exact forall_congr' (alternates_newestFirst_iff _)

/-- An organisation is halted and, as far as the clock can tell, at `second` set
running again. -/
private def haltUnhalt (second : Nat) : List HaltCall :=
  [⟨.org "org-a", true, "drift", ⟨5, 5, "9f2c01aa"⟩⟩,
    ⟨.org "org-a", false, "cleared", ⟨second, second, "03be77d4"⟩⟩]

private theorem unrecorded_empty : Unrecorded Dict.empty := by
  constructor
  · intro target
    cases target with
    | system => rfl
    | org orgId => rfl
  · rfl

theorem replays_iff_tiesInOrder_two_seconds :
    Replays (run setHaltFlag Dict.empty (haltUnhalt 7))
        (listEvents 50 ((run setHaltFlag Dict.empty (haltUnhalt 7)).scanPrefix
          haltEventPkPrefix)) ↔
      TiesInOrder (((run setHaltFlag Dict.empty (haltUnhalt 7)).scanPrefix haltEventPkPrefix).map
        fun row => eventOf row.2) :=
  replays_iff_tiesInOrder unrecorded_empty (by decide +kernel) (List.Perm.refl _)
    (by decide +kernel)

/-- Both transitions in one second, scanned in the order they were recorded: the
log shows the halt as the newer one. -/
theorem not_replays_same_second :
    ¬ Replays (run setHaltFlag Dict.empty (haltUnhalt 5))
      (listEvents 50 ((run setHaltFlag Dict.empty (haltUnhalt 5)).scanPrefix
        haltEventPkPrefix)) := by
  intro replays
  have shown := replays.flags (.org "org-a")
  revert shown
  decide +kernel

end TradingStrands.HaltStore
