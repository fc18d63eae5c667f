import TradingStrands.App.Registration

/-!
Owns one iteration of the strategy poll: it registers the bots of active rows
that have none, then unregisters the bots that no active row stands for. One
handler surrounds the iteration, so the first exception ends it.

Rows are given as the scan answers them, in any order. An iteration gives up
control only to write log lines; what the rest of the process does there touches
no registration.
-/

namespace TradingStrands

open TradingStrands.Foundation

variable {β : Type}

namespace PollEnv

variable (env : PollEnv)

/-- The bot of the row's strategy, whatever else the row holds. -/
def strategyBotId? (row : Item) : Option BotId :=
  (row.attr? "strategy_id").map fun sid => "strategy-" ++ env.str sid

end PollEnv

/-- `strat.get("status") == "active"`. -/
def Item.IsActive (row : Item) : Prop := row.attr? "status" = some (.text "active")

instance (row : Item) : Decidable row.IsActive := inferInstanceAs (Decidable (_ = _))

/-- The organisation of a row, if it has one. -/
def Item.orgId? (row : Item) : Option Attr :=
  (row.attr? "org_id").filter fun orgId => orgId.truthy

namespace Registry

/-- The bot of an active row with an organisation. -/
def activeBotId? (env : PollEnv) (row : Item) : Option BotId :=
  if row.IsActive ∧ row.orgId?.isSome = true then env.strategyBotId? row else none

/-- One row of the scan: the registry, the active ids, and the exception. -/
def visitRow (env : PollEnv) (registry : Registry β) (activeIds : List BotId) (row : Item) :
    Registry β × List BotId × Except PyError Unit :=
  if row.IsActive then
    match env.strategyBotId? row with
    | none => (registry, activeIds, .error (.keyError "strategy_id"))
    | some botId =>
        match row.orgId? with
        | none => (registry, activeIds, .ok ())
        | some orgId =>
            if botId ∈ registry.bots.keys then (registry, activeIds ++ [botId], .ok ())
            else
              let registered := registry.registerStrategy env botId orgId row
              (registered.1, activeIds ++ [botId], registered.2)
  else (registry, activeIds, .ok ())

/-- The rows of the scan, one after the other. -/
def visitRows (env : PollEnv) (registry : Registry β) (activeIds : List BotId) :
    List Item → Registry β × List BotId × Except PyError Unit
  | [] => (registry, activeIds, .ok ())
  | row :: rest =>
      match registry.visitRow env activeIds row with
      | (registry, activeIds, .error error) => (registry, activeIds, .error error)
      | (registry, activeIds, .ok ()) => registry.visitRows env activeIds rest

/-- The bot is one the poll unregisters when these are the active ids. -/
def Inactive (activeIds : List BotId) (botId : BotId) : Prop :=
  beginsWith botId "strategy-" = true ∧ botId ∉ activeIds

instance (activeIds : List BotId) (botId : BotId) : Decidable (Inactive activeIds botId) :=
  inferInstanceAs (Decidable (_ ∧ _))

/-- Unregister bots for strategies that are no longer active, one after the
other. -/
def unloadInactive (env : PollEnv) (activeIds : List BotId) (registry : Registry β) :
    List BotId → Registry β × Except PyError Unit
  | [] => (registry, .ok ())
  | botId :: rest =>
      if Inactive activeIds botId then
        match registry.unregisterBot env botId with
        | (registry, .error error) => (registry, .error error)
        | (registry, .ok ()) =>
            { registry with system := registry.system.unload botId }.unloadInactive env activeIds rest
      else registry.unloadInactive env activeIds rest

/-- One iteration of the poll on the rows it has read. -/
def pollStrategies (env : PollEnv) (registry : Registry β) (rows : List Item) : Registry β :=
  match registry.visitRows env [] rows with
  | (visited, _, .error _) => visited
  | (visited, activeIds, .ok ()) => (visited.unloadInactive env activeIds visited.bots.keys).1

/-! ### The rows -/

/-- Registering the row's bot gets as far as entering it. -/
def Enters (env : PollEnv) (registry : Registry β) (row : Item) (botId : BotId) : Prop :=
  (registry.prepare env botId (row.orgId?.getD .null) row).isOk = true

/-- All the symbols can be in a set. -/
def Watchable (env : PollEnv) (symbols : Attr) : Prop := watches env symbols = .ok ()

instance (env : PollEnv) (symbols : Attr) : Decidable (Watchable env symbols) :=
  inferInstanceAs (Decidable (_ = _))

/-- Registering the row's bot, on its own, completes. -/
def Completes (env : PollEnv) (registry : Registry β) (row : Item) (botId : BotId) : Prop :=
  registry.Enters env row botId ∧ Watchable env row.symbols

/-- The bot is there once the rows have been visited: from before, or from one of
them. -/
def Known (env : PollEnv) (registry : Registry β) (rows : List Item) (botId : BotId) : Prop :=
  botId ∈ registry.bots.keys ∨ ∃ row ∈ rows, activeBotId? env row = some botId

/-- The row ends the iteration when the rows before it have not: it is active
and has no strategy id, or its bot is new and cannot be registered. -/
def Fails (env : PollEnv) (registry : Registry β) (before : List Item) (row : Item) : Prop :=
  row.IsActive ∧
    (env.strategyBotId? row = none ∨
      ∃ botId, activeBotId? env row = some botId ∧ ¬ registry.Known env before botId ∧
        ¬ registry.Completes env row botId)

/-- The bots at the end are those at the start with others after them, each
entered from one of the rows. -/
structure Extends (env : PollEnv) (rows : List Item) (before after : Registry β) : Prop where
  stores : before.SameStores after
  entries : ∃ added, after.bots.entries = before.bots.entries ++ added ∧
    ∀ bot ∈ added, ∃ row ∈ rows, activeBotId? env row = some bot.1 ∧
      bot.2 = { symbols := row.symbols, fromRow := true }

theorem Extends.refl (env : PollEnv) (rows : List Item) (registry : Registry β) :
    Extends env rows registry registry :=
  ⟨SameStores.refl registry, [], (List.append_nil _).symm, nofun⟩

theorem Extends.trans {env : PollEnv} {rows later : List Item} {before middle after : Registry β}
    (first : Extends env rows before middle) (second : Extends env later middle after) :
    Extends env (rows ++ later) before after := by
  obtain ⟨added, entries, from_⟩ := first.entries
  obtain ⟨more, moreEntries, moreFrom⟩ := second.entries
  refine ⟨first.stores.trans second.stores, added ++ more, ?_, ?_⟩
  · rw [moreEntries, entries, List.append_assoc]
  · intro bot member
    rcases List.mem_append.mp member with early | late
    · obtain ⟨row, inside, entered⟩ := from_ bot early
      exact ⟨row, List.mem_append_left _ inside, entered⟩
    · obtain ⟨row, inside, entered⟩ := moreFrom bot late
      exact ⟨row, List.mem_append_right _ inside, entered⟩

/-- An extension keeps every bot. -/
theorem Extends.keeps {env : PollEnv} {rows : List Item} {before after : Registry β}
    (extension : Extends env rows before after) {botId : BotId}
    (present : botId ∈ before.bots.keys) : botId ∈ after.bots.keys := by
  obtain ⟨added, entries, -⟩ := extension.entries
  unfold Dict.keys
  rw [entries, List.map_append]
  exact List.mem_append_left _ present

/-- Rows visited without an exception: what the registry and the active ids are
then. -/
structure Visited (env : PollEnv) (rows : List Item) (before after : Registry β)
    (activeIds : List BotId) : Prop where
  extension : Extends env rows before after
  active : ∀ botId, botId ∈ activeIds ↔ ∃ row ∈ rows, activeBotId? env row = some botId
  present : ∀ botId ∈ activeIds, botId ∈ after.bots.keys
  watchable : ∀ bot ∈ after.bots.entries, bot ∈ before.bots.entries ∨ Watchable env bot.2.symbols

theorem Visited.start (env : PollEnv) (registry : Registry β) :
    Visited env [] registry registry [] :=
  ⟨Extends.refl env [] registry, by simp, nofun, fun _ => Or.inl⟩

theorem Visited.mem_keys_iff {env : PollEnv} {rows : List Item} {before after : Registry β}
    {activeIds : List BotId} (visited : Visited env rows before after activeIds) {botId : BotId} :
    botId ∈ after.bots.keys ↔ before.Known env rows botId := by
  constructor
  · intro member
    obtain ⟨added, entries, from_⟩ := visited.extension.entries
    unfold Dict.keys at member
    rw [entries, List.map_append] at member
    rcases List.mem_append.mp member with early | late
    · exact Or.inl early
    · obtain ⟨bot, inside, rfl⟩ := List.mem_map.mp late
      obtain ⟨row, visitedRow, entered, -⟩ := from_ bot inside
      exact Or.inr ⟨row, visitedRow, entered⟩
  · rintro (early | entered)
    · exact visited.extension.keeps early
    · exact visited.present botId ((visited.active botId).mpr entered)

/-- A row that changes nothing and fails nothing. -/
theorem Visited.skip {env : PollEnv} {rows : List Item} {before after : Registry β}
    {activeIds : List BotId} (visited : Visited env rows before after activeIds) {row : Item}
    (inactive : activeBotId? env row = none) :
    Visited env (rows ++ [row]) before after activeIds := by
  refine ⟨visited.extension.trans (Extends.refl env [row] after), ?_, visited.present,
    visited.watchable⟩
  intro botId
  rw [visited.active]
  simp [or_and_right, exists_or, inactive]

/-- A row whose bot is there already, or has been entered with symbols that can
be watched. -/
theorem Visited.enter {env : PollEnv} {rows : List Item} {before middle after : Registry β}
    {activeIds : List BotId} (visited : Visited env rows before middle activeIds) {row : Item}
    {botId : BotId} (active : activeBotId? env row = some botId)
    (extension : Extends env [row] middle after) (present : botId ∈ after.bots.keys)
    (watchable : ∀ bot ∈ after.bots.entries,
      bot ∈ middle.bots.entries ∨ Watchable env bot.2.symbols) :
    Visited env (rows ++ [row]) before after (activeIds ++ [botId]) := by
  refine ⟨visited.extension.trans extension, ?_, ?_, ?_⟩
  · intro other
    rw [List.mem_append, visited.active]
    simp [or_and_right, exists_or, active, eq_comm]
  · intro other member
    rcases List.mem_append.mp member with early | here
    · exact extension.keeps (visited.present other early)
    · rw [List.mem_singleton.mp here]
      exact present
  · intro bot member
    rcases watchable bot member with early | fine
    · exact visited.watchable bot early
    · exact Or.inr fine

/-! ### One row -/

theorem activeBotId?_eq_some_iff {env : PollEnv} {row : Item} {botId : BotId} :
    activeBotId? env row = some botId ↔
      row.IsActive ∧ row.orgId?.isSome = true ∧ env.strategyBotId? row = some botId := by
  unfold activeBotId?
  by_cases eligible : row.IsActive ∧ row.orgId?.isSome = true
  · simp [eligible]
  · rw [if_neg eligible]
    exact ⟨nofun, fun ⟨active, org, _⟩ => absurd ⟨active, org⟩ eligible⟩

theorem visitRow_of_active {env : PollEnv} {row : Item} {botId : BotId} (registry : Registry β)
    (activeIds : List BotId) (active : activeBotId? env row = some botId) :
    registry.visitRow env activeIds row =
      if botId ∈ registry.bots.keys then (registry, activeIds ++ [botId], .ok ())
      else
        let registered := registry.registerStrategy env botId (row.orgId?.getD .null) row
        (registered.1, activeIds ++ [botId], registered.2) := by
  obtain ⟨isActive, org, sid⟩ := activeBotId?_eq_some_iff.mp active
  obtain ⟨orgId, found⟩ := Option.isSome_iff_exists.mp org
  unfold visitRow
  rw [if_pos isActive, sid, found]
  rfl

theorem visitRow_of_missing {env : PollEnv} {row : Item} (registry : Registry β)
    (activeIds : List BotId) (active : row.IsActive) (missing : env.strategyBotId? row = none) :
    registry.visitRow env activeIds row =
      (registry, activeIds, .error (.keyError "strategy_id")) := by
  unfold visitRow
  rw [if_pos active, missing]

theorem visitRow_of_skipped {env : PollEnv} {row : Item} (registry : Registry β)
    (activeIds : List BotId) (inactive : activeBotId? env row = none)
    (named : row.IsActive → env.strategyBotId? row ≠ none) :
    registry.visitRow env activeIds row = (registry, activeIds, .ok ()) := by
  unfold visitRow
  by_cases active : row.IsActive
  · obtain ⟨botId, sid⟩ := Option.ne_none_iff_exists'.mp (named active)
    rw [if_pos active, sid]
    cases org : row.orgId? with
    | none => rfl
    | some orgId =>
        have entered := activeBotId?_eq_some_iff.mpr ⟨active, by rw [org]; rfl, sid⟩
        rw [inactive] at entered
        cases entered
  · rw [if_neg active]

/-- The registration of a new bot enters it at the end, or nowhere. -/
theorem extends_registerStrategy {env : PollEnv} {registry : Registry β} {row : Item}
    {botId : BotId} (active : activeBotId? env row = some botId)
    (new : botId ∉ registry.bots.keys) :
    Extends env [row] registry
      (registry.registerStrategy env botId (row.orgId?.getD .null) row).1 := by
  refine ⟨sameStores_registerStrategy env registry botId _ row, ?_⟩
  cases prepared : registry.prepare env botId (row.orgId?.getD .null) row with
  | error error =>
      refine ⟨[], ?_, nofun⟩
      rw [(registerStrategy_of_prepare_error prepared).1, List.append_nil]
  | ok bot =>
      refine ⟨[(botId, { symbols := row.symbols, fromRow := true })], ?_, ?_⟩
      · rw [(registerStrategy_of_prepare_ok prepared).1, Dict.entries_set_of_notMem _ new]
      · intro entry member
        rw [List.mem_singleton.mp member]
        exact ⟨row, List.mem_singleton_self row, active, rfl⟩

theorem mem_keys_registerStrategy_iff {env : PollEnv} {registry : Registry β} {row : Item}
    {botId other : BotId} :
    other ∈ (registry.registerStrategy env botId (row.orgId?.getD .null) row).1.bots.keys ↔
      (other = botId ∧ registry.Enters env row botId) ∨ other ∈ registry.bots.keys := by
  unfold Enters
  cases prepared : registry.prepare env botId (row.orgId?.getD .null) row with
  | error error =>
      rw [(registerStrategy_of_prepare_error prepared).1]
      simp [Except.isOk, Except.toBool]
  | ok bot =>
      rw [(registerStrategy_of_prepare_ok prepared).1, Dict.mem_keys_set_iff]
      simp [Except.isOk, Except.toBool]

theorem registerStrategy_ok_iff {env : PollEnv} {registry : Registry β} {row : Item}
    {botId : BotId} :
    (registry.registerStrategy env botId (row.orgId?.getD .null) row).2 = .ok () ↔
      registry.Completes env row botId := by
  unfold Completes Enters Watchable
  cases prepared : registry.prepare env botId (row.orgId?.getD .null) row with
  | error error =>
      rw [(registerStrategy_of_prepare_error prepared).2]
      simp [Except.isOk, Except.toBool]
  | ok bot =>
      rw [(registerStrategy_of_prepare_ok prepared).2]
      simp [Except.isOk, Except.toBool]

/-- Whether a bot can be entered, and registered, is the same before and after
other rows. -/
theorem SameStores.enters_iff {before after : Registry β} (same : before.SameStores after)
    {env : PollEnv} {row : Item} {botId : BotId} :
    after.Enters env row botId ↔ before.Enters env row botId := by
  unfold Enters
  rw [same.prepare]

theorem SameStores.completes_iff {before after : Registry β} (same : before.SameStores after)
    {env : PollEnv} {row : Item} {botId : BotId} :
    after.Completes env row botId ↔ before.Completes env row botId := by
  unfold Completes
  rw [same.enters_iff]

/-- A row that does not fail is visited without an exception. -/
theorem Visited.step {env : PollEnv} {rows : List Item} {before middle : Registry β}
    {activeIds : List BotId} (visited : Visited env rows before middle activeIds) {row : Item}
    (succeeds : ¬ before.Fails env rows row) :
    ∃ after laterIds, middle.visitRow env activeIds row = (after, laterIds, .ok ()) ∧
      Visited env (rows ++ [row]) before after laterIds := by
  unfold Fails at succeeds
  rw [not_and, not_or] at succeeds
  cases active : activeBotId? env row with
  | none =>
      exact ⟨middle, activeIds, visitRow_of_skipped middle activeIds active fun isActive =>
        (succeeds isActive).1, visited.skip active⟩
  | some botId =>
      rw [visitRow_of_active middle activeIds active]
      by_cases known : botId ∈ middle.bots.keys
      · rw [if_pos known]
        exact ⟨middle, activeIds ++ [botId], rfl,
          visited.enter active (Extends.refl env [row] middle) known fun _ => Or.inl⟩
      · rw [if_neg known]
        have completes : before.Completes env row botId := by
          by_contra fails
          exact (succeeds (activeBotId?_eq_some_iff.mp active).1).2
            ⟨botId, active, fun old => known (visited.mem_keys_iff.mpr old), fails⟩
        have here := visited.extension.stores.completes_iff.mpr completes
        have done := registerStrategy_ok_iff.mpr here
        refine ⟨_, activeIds ++ [botId], by dsimp only; rw [done], visited.enter active
          (extends_registerStrategy active known)
          (mem_keys_registerStrategy_iff.mpr (Or.inl ⟨rfl, here.1⟩)) ?_⟩
        intro bot member
        obtain ⟨added, entries, from_⟩ := (extends_registerStrategy active known).entries
        rw [entries] at member
        rcases List.mem_append.mp member with early | late
        · exact Or.inl early
        · obtain ⟨entered, inside, -, same⟩ := from_ bot late
          rw [same, List.mem_singleton.mp inside]
          exact Or.inr here.2

/-- A row that fails ends the iteration; its bot may have been entered. -/
theorem Visited.fail {env : PollEnv} {rows : List Item} {before middle : Registry β}
    {activeIds : List BotId} (visited : Visited env rows before middle activeIds) {row : Item}
    (fails : before.Fails env rows row) :
    ∃ after laterIds error, middle.visitRow env activeIds row = (after, laterIds, .error error) ∧
      ∀ botId, botId ∈ after.bots.keys ↔
        before.Known env rows botId ∨
          (activeBotId? env row = some botId ∧ before.Enters env row botId) := by
  obtain ⟨isActive, missing | ⟨botId, active, new, incomplete⟩⟩ := fails
  · refine ⟨middle, activeIds, _, visitRow_of_missing middle activeIds isActive missing, ?_⟩
    intro botId
    rw [visited.mem_keys_iff]
    refine ⟨Or.inl, ?_⟩
    rintro (known | ⟨active, -⟩)
    · exact known
    · have sid := (activeBotId?_eq_some_iff.mp active).2.2
      rw [missing] at sid
      cases sid
  · rw [visitRow_of_active middle activeIds active,
      if_neg fun old => new (visited.mem_keys_iff.mp old)]
    cases outcome : (middle.registerStrategy env botId (row.orgId?.getD .null) row).2 with
    | ok =>
        exact absurd (visited.extension.stores.completes_iff.mp
          (registerStrategy_ok_iff.mp outcome)) incomplete
    | error error =>
        refine ⟨_, activeIds ++ [botId], error, by dsimp only; rw [outcome], ?_⟩
        intro other
        rw [mem_keys_registerStrategy_iff, visited.mem_keys_iff,
          visited.extension.stores.enters_iff, active, Option.some.injEq, or_comm]
        refine or_congr_right ⟨?_, ?_⟩
        · rintro ⟨rfl, enters⟩
          exact ⟨rfl, enters⟩
        · rintro ⟨rfl, enters⟩
          exact ⟨rfl, enters⟩

/-! ### All rows -/

theorem visitRows_append {env : PollEnv} {registry middle : Registry β}
    {activeIds laterIds : List BotId} {rows : List Item}
    (visited : registry.visitRows env activeIds rows = (middle, laterIds, .ok ()))
    (later : List Item) :
    registry.visitRows env activeIds (rows ++ later) = middle.visitRows env laterIds later := by
  induction rows generalizing registry activeIds with
  | nil =>
      cases visited
      rfl
  | cons row rest inductionHypothesis =>
      rw [List.cons_append, visitRows]
      rw [visitRows] at visited
      rcases head : registry.visitRow env activeIds row with ⟨next, ids, error | ⟨⟩⟩
      · rw [head] at visited
        cases visited
      · rw [head] at visited
        exact inductionHypothesis visited

/-- Rows none of which fails are all visited. -/
theorem visitRows_of_clear {env : PollEnv} {registry : Registry β} {rows : List Item}
    (clear : Clear (registry.Fails env) rows) :
    ∃ after activeIds, registry.visitRows env [] rows = (after, activeIds, .ok ()) ∧
      Visited env rows registry after activeIds := by
  induction rows using List.reverseRecOn with
  | nil => exact ⟨registry, [], rfl, Visited.start env registry⟩
  | append_singleton init last inductionHypothesis =>
      obtain ⟨before, succeeds⟩ := clear_concat_iff.mp clear
      obtain ⟨middle, activeIds, done, visited⟩ := inductionHypothesis before
      obtain ⟨after, laterIds, next, later⟩ := visited.step succeeds
      refine ⟨after, laterIds, ?_, later⟩
      rw [visitRows_append done]
      unfold visitRows
      rw [next]
      rfl

/-- The first row that fails decides what the iteration leaves. -/
theorem mem_keys_pollStrategies_of_fails {env : PollEnv} {registry : Registry β}
    {before after : List Item} {bad : Item} (clear : Clear (registry.Fails env) before)
    (fails : registry.Fails env before bad) {botId : BotId} :
    botId ∈ (registry.pollStrategies env (before ++ bad :: after)).bots.keys ↔
      registry.Known env before botId ∨
        (activeBotId? env bad = some botId ∧ registry.Enters env bad botId) := by
  obtain ⟨middle, activeIds, done, visited⟩ := visitRows_of_clear clear
  obtain ⟨stopped, laterIds, error, raised, keys⟩ := visited.fail fails
  unfold pollStrategies
  rw [visitRows_append done]
  unfold visitRows
  rw [raised]
  exact keys botId

/-! ### Unregistering -/

theorem watchAll_ok_iff {env : PollEnv} {watched : List Attr} {registrations : List Registration} :
    (watchAll env watched registrations).2 = .ok () ↔
      ∀ registration ∈ registrations, Watchable env registration.symbols := by
  induction registrations generalizing watched with
  | nil => simp [watchAll]
  | cons registration rest inductionHypothesis =>
      rw [List.forall_mem_cons]
      unfold watchAll Watchable
      rw [← snd_updateWatched env watched]
      rcases updateWatched env watched registration.symbols with ⟨next, error | ⟨⟩⟩
      · simp
      · simp only [true_and]
        exact inductionHypothesis

/-- Unregistering a bot raises if another bot's symbols cannot be watched. -/
theorem unregisterBot_ok_iff {env : PollEnv} {registry : Registry β} {botId : BotId} :
    (registry.unregisterBot env botId).2 = .ok () ↔
      ∀ bot ∈ registry.bots.entries, bot.1 ≠ botId → Watchable env bot.2.symbols := by
  unfold unregisterBot
  rw [watchAll_ok_iff]
  unfold Dict.values Dict.erase
  simp only [List.mem_map, List.mem_filter, decide_not, Bool.not_eq_eq_eq_not, Bool.not_true,
    decide_eq_false_iff_not]
  constructor
  · exact fun fine bot member other => fine bot.2 ⟨bot, ⟨member, other⟩, rfl⟩
  · rintro fine registration ⟨bot, ⟨member, other⟩, rfl⟩
    exact fine bot member other

/-- Where all symbols can be watched, every inactive bot goes. -/
theorem mem_keys_unloadInactive_of_watchable {env : PollEnv} {activeIds : List BotId}
    {registry : Registry β} {botIds : List BotId}
    (watchable : ∀ bot ∈ registry.bots.entries, Watchable env bot.2.symbols) {botId : BotId} :
    botId ∈ (registry.unloadInactive env activeIds botIds).1.bots.keys ↔
      botId ∈ registry.bots.keys ∧ ¬ (botId ∈ botIds ∧ Inactive activeIds botId) := by
  induction botIds generalizing registry with
  | nil => simp [unloadInactive]
  | cons head rest inductionHypothesis =>
      unfold unloadInactive
      by_cases inactive : Inactive activeIds head
      · rw [if_pos inactive]
        have outcome : (registry.unregisterBot env head).2 = .ok () :=
          unregisterBot_ok_iff.mpr fun bot member _ => watchable bot member
        rw [← Prod.mk.eta (p := registry.unregisterBot env head), outcome]
        have remaining : ∀ bot ∈ (registry.bots.erase head).entries, Watchable env bot.2.symbols :=
          fun bot member => watchable bot (List.mem_filter.mp member).1
        refine (inductionHypothesis remaining).trans ?_
        show botId ∈ (registry.bots.erase head).keys ∧ _ ↔ _
        rw [Dict.mem_keys_erase_iff]
        by_cases here : botId = head
        · simp [here, inactive]
        · simp [here]
      · rw [if_neg inactive, inductionHypothesis watchable]
        by_cases here : botId = head
        · simp [here, inactive]
        · simp [here]

theorem unloadInactive_append_of_active {env : PollEnv} {activeIds : List BotId}
    (registry : Registry β) {botIds : List BotId}
    (active : ∀ botId ∈ botIds, ¬ Inactive activeIds botId) (later : List BotId) :
    registry.unloadInactive env activeIds (botIds ++ later) =
      registry.unloadInactive env activeIds later := by
  induction botIds with
  | nil => rfl
  | cons head rest inductionHypothesis =>
      rw [List.forall_mem_cons] at active
      rw [List.cons_append, unloadInactive, if_neg active.1]
      exact inductionHypothesis active.2

/-- The registered bots no active row stands for, in the order they were
registered. -/
def inactiveBots (env : PollEnv) (registry : Registry β) (rows : List Item) : List BotId :=
  registry.bots.keys.filter fun botId =>
    beginsWith botId "strategy-" = true ∧ ∀ row ∈ rows, activeBotId? env row ≠ some botId

/-- The bots a poll unregisters when no row fails: the inactive ones, but only
the first of them if the symbols of a bot that stays behind cannot be watched. -/
def dropped (env : PollEnv) (registry : Registry β) (rows : List Item) : List BotId :=
  match registry.inactiveBots env rows with
  | [] => []
  | first :: more =>
      if ∀ bot ∈ registry.bots.entries, bot.1 ≠ first → Watchable env bot.2.symbols then
        first :: more
      else [first]

theorem mem_inactiveBots_of_mem_dropped {env : PollEnv} {registry : Registry β} {rows : List Item}
    {botId : BotId} (member : botId ∈ registry.dropped env rows) :
    botId ∈ registry.inactiveBots env rows := by
  unfold dropped at member
  split at member
  next => cases member
  next first more inactive =>
    rw [inactive]
    split at member
    · exact member
    · rw [List.mem_singleton.mp member]
      exact List.mem_cons_self

/-- What is inactive once the rows are visited was so before. -/
theorem Visited.filter_inactive {env : PollEnv} {rows : List Item} {before after : Registry β}
    {activeIds : List BotId} (visited : Visited env rows before after activeIds) :
    after.bots.keys.filter (fun botId => Inactive activeIds botId) =
      before.inactiveBots env rows := by
  obtain ⟨added, entries, from_⟩ := visited.extension.entries
  have none_added : (added.map Prod.fst).filter (fun botId => Inactive activeIds botId) = [] := by
    rw [List.filter_eq_nil_iff]
    intro botId member inactive
    obtain ⟨bot, inside, rfl⟩ := List.mem_map.mp member
    obtain ⟨row, visitedRow, entered, -⟩ := from_ bot inside
    exact (of_decide_eq_true inactive).2 ((visited.active bot.1).mpr ⟨row, visitedRow, entered⟩)
  have keys : after.bots.keys = before.bots.keys ++ added.map Prod.fst := by
    unfold Dict.keys
    rw [entries, List.map_append]
  rw [keys, List.filter_append, none_added, List.append_nil]
  refine List.filter_congr fun botId _ => decide_eq_decide.mpr (and_congr_right fun _ => ?_)
  rw [visited.active, not_exists]
  exact forall_congr' fun row => not_and

/-- Visiting the rows leaves a bot whose symbols cannot be watched only where
there was one. -/
theorem Visited.watchable_iff {env : PollEnv} {rows : List Item} {before after : Registry β}
    {activeIds : List BotId} (visited : Visited env rows before after activeIds) {first : BotId} :
    (∀ bot ∈ after.bots.entries, bot.1 ≠ first → Watchable env bot.2.symbols) ↔
      ∀ bot ∈ before.bots.entries, bot.1 ≠ first → Watchable env bot.2.symbols := by
  constructor
  · intro fine bot member
    obtain ⟨added, entries, -⟩ := visited.extension.entries
    exact fine bot (entries ▸ List.mem_append_left added member)
  · intro fine bot member other
    rcases visited.watchable bot member with old | watchable
    · exact fine bot old other
    · exact watchable

/-- Where no row fails, exactly the dropped bots are gone. -/
theorem mem_keys_pollStrategies_of_clear {env : PollEnv} {registry : Registry β} {rows : List Item}
    (clear : Clear (registry.Fails env) rows) {botId : BotId} :
    botId ∈ (registry.pollStrategies env rows).bots.keys ↔
      registry.Known env rows botId ∧ botId ∉ registry.dropped env rows := by
  obtain ⟨after, activeIds, done, visited⟩ := visitRows_of_clear clear
  unfold pollStrategies
  rw [done]
  dsimp only
  rw [← visited.mem_keys_iff]
  have inactive := visited.filter_inactive
  unfold dropped
  cases stale : registry.inactiveBots env rows with
  | nil =>
      rw [stale, List.filter_eq_nil_iff] at inactive
      rw [← List.append_nil after.bots.keys, unloadInactive_append_of_active after fun botId
        member gone => inactive botId member (decide_eq_true gone)]
      simp [unloadInactive]
  | cons first more =>
      rw [stale, List.filter_eq_cons_iff] at inactive
      obtain ⟨active, rest, keys, stay, gone, later⟩ := inactive
      have firstGone : Inactive activeIds first := of_decide_eq_true gone
      have reached : after.unloadInactive env activeIds after.bots.keys =
          after.unloadInactive env activeIds (first :: rest) := by
        rw [keys, unloadInactive_append_of_active after fun botId member gone =>
          stay botId member (decide_eq_true gone)]
      rw [reached, unloadInactive, if_pos firstGone]
      dsimp only
      by_cases watchable : ∀ bot ∈ registry.bots.entries, bot.1 ≠ first →
          Watchable env bot.2.symbols
      · rw [if_pos watchable]
        have fine := visited.watchable_iff.mpr watchable
        rw [← Prod.mk.eta (p := after.unregisterBot env first), unregisterBot_ok_iff.mpr fine]
        have remaining : ∀ bot ∈ (after.bots.erase first).entries,
            Watchable env bot.2.symbols := by
          intro bot member
          obtain ⟨inside, other⟩ := List.mem_filter.mp member
          exact fine bot inside (of_decide_eq_true other)
        refine (mem_keys_unloadInactive_of_watchable remaining).trans ?_
        show botId ∈ (after.bots.erase first).keys ∧ _ ↔ _
        rw [Dict.mem_keys_erase_iff, List.mem_cons, ← later, List.mem_filter, decide_eq_true_eq]
        tauto
      · rw [if_neg watchable]
        cases outcome : (after.unregisterBot env first).2 with
        | ok => exact absurd (visited.watchable_iff.mp (unregisterBot_ok_iff.mp outcome)) watchable
        | error error =>
            rw [← Prod.mk.eta (p := after.unregisterBot env first), outcome]
            show botId ∈ (after.bots.erase first).keys ↔ _
            rw [Dict.mem_keys_erase_iff, List.mem_singleton, and_comm]

/-! ### Isolation -/

/-- After a poll that led from `before` to `after`: every active row whose
registration completes has its bot, every bot loaded from a row that is no longer
active is gone, and every other bot is still there. -/
structure Isolated (env : PollEnv) (rows : List Item) (before after : Registry β) : Prop where
  registered : ∀ row ∈ rows, ∀ botId, activeBotId? env row = some botId →
    before.Completes env row botId → botId ∈ after.bots.keys
  unloaded : ∀ botId registration, before.bots.get? botId = some registration →
    registration.fromRow = true →
    (∀ row ∈ rows, row.IsActive → env.strategyBotId? row ≠ some botId) → botId ∉ after.bots.keys
  kept : ∀ botId registration, before.bots.get? botId = some registration →
    registration.fromRow = false → botId ∈ after.bots.keys

/-- When a poll isolates its rows. -/
structure Isolates (env : PollEnv) (registry : Registry β) (rows : List Item) : Prop where
  /-- Where no row fails: the dropped bots came from rows, and those that came
  from rows that are not active are among them. -/
  clear : Clear (registry.Fails env) rows →
    ∀ botId registration, registry.bots.get? botId = some registration →
      if registration.fromRow = true then
        (∀ row ∈ rows, row.IsActive → env.strategyBotId? row ≠ some botId) →
          botId ∈ registry.dropped env rows
      else botId ∉ registry.dropped env rows
  /-- Where a row fails: no row after it has a bot still to be registered, and no
  bot waits to be unregistered. -/
  fails : ∀ before bad after, rows = before ++ bad :: after → Clear (registry.Fails env) before →
    registry.Fails env before bad →
      (∀ row ∈ after, ∀ botId, activeBotId? env row = some botId →
        registry.Completes env row botId →
          registry.Known env before botId ∨
            (activeBotId? env bad = some botId ∧ registry.Enters env bad botId)) ∧
      ∀ botId registration, registry.bots.get? botId = some registration →
        registration.fromRow = true → ∃ row ∈ rows, row.IsActive ∧
          env.strategyBotId? row = some botId

theorem isolated_iff_of_clear {env : PollEnv} {registry : Registry β} {rows : List Item}
    (clear : Clear (registry.Fails env) rows) :
    Isolated env rows registry (registry.pollStrategies env rows) ↔
      ∀ botId registration, registry.bots.get? botId = some registration →
        if registration.fromRow = true then
          (∀ row ∈ rows, row.IsActive → env.strategyBotId? row ≠ some botId) →
            botId ∈ registry.dropped env rows
        else botId ∉ registry.dropped env rows := by
  have known : ∀ {botId registration}, registry.bots.get? botId = some registration →
      registry.Known env rows botId := fun found => Or.inl (Dict.mem_keys_iff.mpr ⟨_, found⟩)
  constructor
  · intro isolated botId registration found
    by_cases loaded : registration.fromRow = true
    · rw [if_pos loaded]
      intro inactive
      have gone := isolated.unloaded botId registration found loaded inactive
      rw [mem_keys_pollStrategies_of_clear clear, not_and, not_not] at gone
      exact gone (known found)
    · rw [if_neg loaded]
      have there := isolated.kept botId registration found (Bool.not_eq_true _ ▸ loaded)
      exact ((mem_keys_pollStrategies_of_clear clear).mp there).2
  · intro condition
    refine ⟨?_, ?_, ?_⟩
    · intro row member botId active _
      rw [mem_keys_pollStrategies_of_clear clear]
      refine ⟨Or.inr ⟨row, member, active⟩, fun dropped => ?_⟩
      have inactive := (List.mem_filter.mp (mem_inactiveBots_of_mem_dropped dropped)).2
      exact (of_decide_eq_true inactive).2 row member active
    · intro botId registration found loaded inactive there
      have gone := condition botId registration found
      rw [if_pos loaded] at gone
      exact ((mem_keys_pollStrategies_of_clear clear).mp there).2 (gone inactive)
    · intro botId registration found foreign
      have stays := condition botId registration found
      rw [if_neg (by rw [foreign]; exact Bool.false_ne_true)] at stays
      exact (mem_keys_pollStrategies_of_clear clear).mpr ⟨known found, stays⟩

theorem isolated_iff_of_fails {env : PollEnv} {registry : Registry β}
    {before after : List Item} {bad : Item} (clear : Clear (registry.Fails env) before)
    (fails : registry.Fails env before bad) :
    Isolated env (before ++ bad :: after) registry
        (registry.pollStrategies env (before ++ bad :: after)) ↔
      (∀ row ∈ after, ∀ botId, activeBotId? env row = some botId →
        registry.Completes env row botId →
          registry.Known env before botId ∨
            (activeBotId? env bad = some botId ∧ registry.Enters env bad botId)) ∧
      ∀ botId registration, registry.bots.get? botId = some registration →
        registration.fromRow = true → ∃ row ∈ before ++ bad :: after, row.IsActive ∧
          env.strategyBotId? row = some botId := by
  have keys := fun botId => @mem_keys_pollStrategies_of_fails _ _ _ _ after _ clear
    fails botId
  have stays : ∀ {botId registration}, registry.bots.get? botId = some registration →
      botId ∈ (registry.pollStrategies env (before ++ bad :: after)).bots.keys := fun found =>
    (keys _).mpr (Or.inl (Or.inl (Dict.mem_keys_iff.mpr ⟨_, found⟩)))
  constructor
  · intro isolated
    refine ⟨?_, ?_⟩
    · intro row member botId active completes
      exact (keys botId).mp (isolated.registered row
        (List.mem_append_right _ (List.mem_cons_of_mem _ member)) botId active completes)
    · intro botId registration found loaded
      by_contra none
      refine isolated.unloaded botId registration found loaded ?_ (stays found)
      exact fun row member active sid => none ⟨row, member, active, sid⟩
  · rintro ⟨registered, waiting⟩
    refine ⟨?_, ?_, fun botId registration found _ => stays found⟩
    · intro row member botId active completes
      rw [keys]
      rcases List.mem_append.mp member with early | late
      · exact Or.inl (Or.inr ⟨row, early, active⟩)
      · rcases List.mem_cons.mp late with rfl | later
        · exact Or.inr ⟨active, completes.1⟩
        · exact registered row later botId active completes
    · intro botId registration found loaded inactive
      obtain ⟨row, member, active, sid⟩ := waiting botId registration found loaded
      exact absurd sid (inactive row member active)

/-- **Isolation.** A poll isolates its rows exactly when every bot that waits to
be unregistered is reached, with no bot of another origin among them, and no row
that fails stands before one whose bot waits to be registered. -/
theorem isolated_pollStrategies_iff (env : PollEnv) (registry : Registry β) (rows : List Item) :
    Isolated env rows registry (registry.pollStrategies env rows) ↔ registry.Isolates env rows := by
  constructor
  · intro isolated
    refine ⟨fun clear => (isolated_iff_of_clear clear).mp isolated, ?_⟩
    rintro before bad after rfl clear fails
    exact (isolated_iff_of_fails clear fails).mp isolated
  · intro isolates
    by_cases clear : Clear (registry.Fails env) rows
    · exact (isolated_iff_of_clear clear).mpr (isolates.clear clear)
    · obtain ⟨before, bad, after, rfl, early, fails⟩ := exists_first_of_not_clear clear
      exact (isolated_iff_of_fails early fails).mpr (isolates.fails before bad after rfl early fails)

/-! ### A paused strategy behind a row that is not accepted -/

/-- A strategy whose tools no longer parse, and one that has been paused. -/
def mixedRows : List Item :=
  [[("strategy_id", .text "a"), ("org_id", .text "acme"), ("status", .text "active"),
      ("capital", .text "1000"), ("markdown", .text "Buy the dip."),
      ("tools", .map [("news", .map [("enabled", .text "sometimes")])])],
    [("strategy_id", .text "b"), ("org_id", .text "acme"), ("status", .text "paused"),
      ("capital", .text "1000"), ("markdown", .text "Hold.")]]

/-- A process that trades the second of them. -/
def tradingRegistry : Registry Unit :=
  { system := { coordinator := {} }
    bots := Dict.empty.set "strategy-b" { symbols := .list [.text "AAPL"], fromRow := true } }

/-- The paused strategy keeps its bot. -/
theorem not_isolated_unacceptedTools :
    ¬ Isolated plainEnv mixedRows tradingRegistry
      (tradingRegistry.pollStrategies plainEnv mixedRows) := by
  intro isolated
  refine isolated.unloaded "strategy-b" { symbols := .list [.text "AAPL"], fromRow := true } ?_ rfl
    ?_ ?_
  · decide +kernel
  · decide +kernel
  · decide +kernel

/-- A bot that was loaded from a file goes with the first poll. -/
example : "strategy-0" ∉
    ((({ system := { coordinator := {} } : Registry Unit }.registerBot plainEnv "strategy-0"
      { symbols := .list [.text "AAPL"], fromRow := false }).1).pollStrategies plainEnv
        []).bots.keys := by
  decide +kernel

end Registry

end TradingStrands
