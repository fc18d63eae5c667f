import TradingStrands.Dashboard.Strategies

/-!
Owns which requests leave the stored strategies readable. Every row a request
writes is read as a strategy, and a request that ends in an error changes no
strategy, with one exception: an update stores the tools of its body as they
came, and only then finds that they are no configurations.

Requests run one after the other, and the table answers each of their
operations.
-/

namespace TradingStrands

open TradingStrands.Foundation TableProgram

/-- Every row of a proposal carries a status. -/
def StrategyProposalsStore.CarryStatus (table : Table) : Prop :=
  ∀ pk item, table.getItem pk = some item →
    familyOf '#' pk = "STRATEGYPROPOSAL".toList → item.attr? "status" ≠ none

namespace StrategyStore

variable {libraries : Libraries} {table : Table}

/-- Every row of a strategy is read as one. -/
def Readable (libraries : Libraries) (table : Table) : Prop :=
  ∀ pk item, table.getItem pk = some item → beginsWith pk strategyPrefix = true →
    ∃ strategy, Strategy.modelValidate libraries item = .ok strategy

/-- The whole listing succeeds exactly where every row is read. -/
theorem readable_iff_listAll :
    Readable libraries table ↔
      ∃ strategies, (runAlone (listAll libraries) table).1 = .ok strategies := by
  unfold listAll
  rw [runAlone_bind, runAlone_scanPrefix]
  dsimp only
  rw [runAlone_parsed]
  dsimp only
  rw [mapM_isOk_iff]
  constructor
  · intro readable row member
    obtain ⟨found, begins⟩ := Table.mem_scanPrefix_iff.mp member
    exact readable row.1 row.2 found begins
  · intro each pk item found begins
    exact each (pk, item) (Table.mem_scanPrefix_iff.mpr ⟨found, begins⟩)

theorem Readable.listForOrg (readable : Readable libraries table) (orgId : OrgId) :
    ∃ strategies, (runAlone (StrategyStore.listForOrg libraries orgId) table).1 = .ok strategies := by
  unfold StrategyStore.listForOrg
  rw [runAlone_bind, runAlone_scanPrefix]
  dsimp only
  rw [runAlone_parsed]
  dsimp only
  rw [mapM_isOk_iff]
  intro row member
  obtain ⟨found, begins⟩ := Table.mem_scanPrefix_iff.mp (List.mem_filter.mp member).1
  exact readable row.1 row.2 found begins

/-- A lookup raises only where there is no row. -/
theorem Readable.get (readable : Readable libraries table) {strategyId : String}
    {error : CallError}
    (raised : (runAlone (StrategyStore.get libraries strategyId) table).1 = .error error) :
    error = .notFound strategyId ∧ table.getItem (strategyPk strategyId) = none := by
  unfold StrategyStore.get at raised
  rw [runAlone_bind, runAlone_getItem] at raised
  dsimp only at raised
  cases found : table.getItem (strategyPk strategyId) with
  | none =>
      rw [found] at raised
      cases raised
      exact ⟨rfl, rfl⟩
  | some item =>
      obtain ⟨strategy, reads⟩ := readable _ item found (strategyPk_begins strategyId)
      rw [found] at raised
      dsimp only at raised
      rw [reads] at raised
      cases raised

theorem Readable.putItem (readable : Readable libraries table) (pk : String) {item : Item}
    (conforms : beginsWith pk strategyPrefix = true → (Strategy.schema libraries).Conforms item) :
    Readable libraries (table.putItem pk item) := by
  intro other stored found begins
  rw [Table.getItem_putItem] at found
  by_cases same : other = pk
  · rw [if_pos same] at found
    cases found
    exact Strategy.modelValidate_isOk_iff.mpr (conforms (same ▸ begins))
  · rw [if_neg same] at found
    exact readable other stored found begins

/-- What a request may come to: the strategies stay readable, and an error
leaves every row of a strategy as it was. -/
structure Safe {α : Type} (libraries : Libraries) (table : Table)
    (result : Except CallError α × Table) : Prop where
  readable : Readable libraries result.2
  unchanged : ∀ error, result.1 = .error error →
    ∀ strategyId, result.2.getItem (strategyPk strategyId) = table.getItem (strategyPk strategyId)

section Rules

variable {α β : Type}

theorem Safe.of_error (readable : Readable libraries table) (error : CallError) :
    Safe libraries table ((.error error : Except CallError α), table) :=
  ⟨readable, fun _ _ _ => rfl⟩

/-- Which error a request ends in does not matter. -/
theorem safe_error_iff {left right : CallError} {after : Table} :
    Safe libraries table ((.error left : Except CallError α), after) ↔
      Safe libraries table ((.error right : Except CallError β), after) :=
  ⟨fun safe => ⟨safe.readable, fun _ _ => safe.unchanged left rfl⟩,
    fun safe => ⟨safe.readable, fun _ _ => safe.unchanged right rfl⟩⟩

/-- Behind a program that writes nothing, the rest decides. -/
theorem safe_bind_of_reads (readable : Readable libraries table) {program : TableProgram α}
    (reads : ReadsOnly program) (rest : α → TableProgram β) :
    Safe libraries table (runAlone (program >>= rest) table) ↔
      ∀ value, (runAlone program table).1 = .ok value →
        Safe libraries table (runAlone (rest value) table) := by
  rw [reads.runAlone_bind]
  cases (runAlone program table).1 with
  | error error => exact iff_of_true (Safe.of_error readable error) nofun
  | ok value =>
      constructor
      · rintro safe _ ⟨⟩
        exact safe
      · exact fun all => all value rfl

/-- What is done with the result does not matter. -/
theorem safe_bind_pure {program : TableProgram α} (make : α → β) :
    Safe libraries table (runAlone (program >>= fun value => pure (make value)) table) ↔
      Safe libraries table (runAlone program table) := by
  rw [runAlone_bind]
  obtain ⟨error | value, after⟩ := runAlone program table
  · exact safe_error_iff
  · exact ⟨fun safe => ⟨safe.readable, nofun⟩, fun safe => ⟨safe.readable, nofun⟩⟩

theorem safe_orBadModel {program : TableProgram α} :
    Safe libraries table (runAlone (Dashboard.orBadModel program) table) ↔
      Safe libraries table (runAlone program table) := by
  unfold Dashboard.orBadModel
  rw [runAlone_tryCatch]
  obtain ⟨error | value, after⟩ := runAlone program table
  · cases error <;> exact safe_error_iff
  · exact Iff.rfl

end Rules

/-! ### Creation -/

theorem safe_create (readable : Readable libraries table) (new : NewStrategy) (draw : Draw) :
    Safe libraries table (runAlone (create libraries new draw) table) := by
  unfold create
  refine (safe_bind_of_reads readable (checkModel_reads _) _).mpr fun _ _ => ?_
  refine (safe_bind_of_reads readable (checkAccepted_reads libraries _) _).mpr fun _ _ => ?_
  rw [runAlone_bind]
  cases taken : table.getItem (strategyPk (new.strategy draw).strategyId) with
  | some stored =>
      rw [runAlone_putNew_taken _ taken]
      exact Safe.of_error readable _
  | none =>
      rw [runAlone_putNew_free _ taken]
      exact ⟨readable.putItem _ fun _ => Strategy.conforms_modelDump _, nofun⟩

/-! ### Updates -/

/-- Where an update is prepared, it writes its attributes and reads the row. -/
theorem runAlone_update {strategyId : String} {fields : List (String × JsonValue)} {now : Int} :
    runAlone (update libraries strategyId fields now) table =
      match (runAlone (prepareUpdate libraries fields now) table).1 with
      | .error error => (.error error, table)
      | .ok attrs =>
          match table.getItem (strategyPk strategyId) with
          | none => (.error .conditionalCheckFailed, table)
          | some item =>
              (Strategy.modelValidate libraries (item.update attrs),
                table.putItem (strategyPk strategyId) (item.update attrs)) := by
  unfold update
  rw [(prepareUpdate_reads libraries fields now).runAlone_bind]
  cases (runAlone (prepareUpdate libraries fields now) table).1 with
  | error error => rfl
  | ok attrs =>
      dsimp only
      rw [runAlone_bind]
      unfold updateItem
      rw [runAlone, Program.run_perform]
      dsimp only [TableOp.apply]
      cases table.getItem (strategyPk strategyId) <;> rfl

theorem exists_putItem_of_update_ok {strategyId : String} {fields : List (String × JsonValue)}
    {now : Int} {strategy : Strategy} {after : Table}
    (done : runAlone (update libraries strategyId fields now) table = (.ok strategy, after)) :
    ∃ row, after = table.putItem (strategyPk strategyId) row := by
  rw [runAlone_update] at done
  split at done
  · cases done
  · split at done
    · cases done
    · exact ⟨_, (congrArg Prod.snd done).symm⟩

/-- An update is safe exactly when the row it leaves is read. -/
theorem safe_update_iff (readable : Readable libraries table) {strategyId : String}
    {fields : List (String × JsonValue)} {now : Int} :
    Safe libraries table (runAlone (update libraries strategyId fields now) table) ↔
      ∀ attrs item, (runAlone (prepareUpdate libraries fields now) table).1 = .ok attrs →
        table.getItem (strategyPk strategyId) = some item →
          (Strategy.schema libraries).Conforms (item.update attrs) := by
  rw [runAlone_update]
  cases (runAlone (prepareUpdate libraries fields now) table).1 with
  | error error => exact iff_of_true (Safe.of_error readable error) nofun
  | ok attrs =>
      dsimp only
      cases found : table.getItem (strategyPk strategyId) with
      | none =>
          refine iff_of_true (Safe.of_error readable _) ?_
          rintro _ item - ⟨⟩
      | some item =>
          dsimp only
          constructor
          · rintro safe _ _ ⟨⟩ ⟨⟩
            have written := safe.readable (strategyPk strategyId) (item.update attrs)
              (Table.getItem_putItem_self _ _ _) (strategyPk_begins strategyId)
            exact Strategy.modelValidate_isOk_iff.mp written
          · intro conforms
            have reads := conforms attrs item rfl rfl
            refine ⟨readable.putItem _ fun _ => reads, fun error raised => ?_⟩
            obtain ⟨strategy, done⟩ := Strategy.modelValidate_isOk_iff.mpr reads
            rw [done] at raised
            cases raised

/-! ### What an update stores -/

/-- The fields an update can change. -/
def updatable (fields : List (String × JsonValue)) : List (String × JsonValue) :=
  fields.filter fun field => field.1 ∉ protectedFields

/-- An update is prepared when its model is known, every field has an attribute
and the table takes them. -/
theorem prepareUpdate_ok_iff {fields : List (String × JsonValue)} {now : Int}
    {attrs : List (String × Attr)} :
    (runAlone (prepareUpdate libraries fields now) table).1 = .ok attrs ↔
      (runAlone (checkModelField (updatable fields)) table).1 = .ok () ∧
        JsonValue.marshalFields (("updated_at", .int now) :: updatable fields) = some attrs ∧
          libraries.accepts attrs = true := by
  change (runAlone (checkModelField (updatable fields) >>= _) table).1 = _ ↔ _
  rw [(checkModelField_reads _).runAlone_bind]
  cases (runAlone (checkModelField (updatable fields)) table).1 with
  | error error => simp
  | ok =>
      dsimp only
      change (runAlone (stored (("updated_at", .int now) :: updatable fields) >>= _) table).1 = _ ↔ _
      rw [runAlone_bind]
      unfold stored checkAccepted
      cases JsonValue.marshalFields (("updated_at", .int now) :: updatable fields) with
      | none => simp
      | some stored =>
          dsimp only [runAlone_pure]
          rw [runAlone_bind]
          by_cases accepted : libraries.accepts stored = true
          · rw [if_pos accepted]
            simp only [runAlone_pure, Except.ok.injEq, true_and, Option.some.injEq]
            constructor
            · rintro rfl
              exact ⟨rfl, accepted⟩
            · exact fun both => both.1
          · rw [if_neg accepted]
            simp only [runAlone_throw, reduceCtorEq, true_and, Option.some.injEq, false_iff]
            rintro ⟨rfl, taken⟩
            exact accepted taken

/-- The schema accepts what a field is stored as. -/
def AcceptsField (libraries : Libraries) (field : String × JsonValue) : Prop :=
  ∀ attr, field.2.marshal = some attr → (Strategy.schema libraries).AcceptsSet (field.1, attr)

theorem acceptsField_updatedAt (now : Int) : AcceptsField libraries ("updated_at", .int now) := by
  rintro attr ⟨⟩
  simp [Schema.AcceptsSet, Strategy.schema, Attr.required, Strategy.acceptsInt,
    libraries.row_number]

theorem acceptsField_text {name : String} (field : name ∈ ["name", "markdown", "capital", "model_id"])
    (value : String) : AcceptsField libraries (name, .text value) := by
  rintro attr ⟨⟩
  simp only [List.mem_cons, List.not_mem_nil, or_false] at field
  obtain rfl | rfl | rfl | rfl := field <;>
    simp [Schema.AcceptsSet, Strategy.schema, Attr.required, Attr.optional, Attr.isText]

theorem acceptsField_texts {name : String} (field : name ∈ ["symbols", "skills"])
    (values : List String) : AcceptsField libraries (name, Dashboard.textItems values) := by
  intro attr stored
  unfold Dashboard.textItems at stored
  rw [JsonValue.marshal, JsonValue.marshalItems_text] at stored
  cases stored
  simp only [List.mem_cons, List.not_mem_nil, or_false] at field
  obtain rfl | rfl := field <;>
    simp [Schema.AcceptsSet, Strategy.schema, Attr.optional, Attr.isTextList, Attr.isText]

theorem acceptsField_status {status : String} (listed : status ∈ ["active", "paused", "stopped"]) :
    AcceptsField libraries ("status", .text status) := by
  rintro attr ⟨⟩
  simp only [List.mem_cons, List.not_mem_nil, or_false] at listed
  obtain rfl | rfl | rfl := listed <;>
    simp [Schema.AcceptsSet, Strategy.schema, Attr.optional, Strategy.acceptsStatus,
      StrategyStatus.ofValue?, StrategyStatus.value]

/-- A row that is read still is after an update, if what each field is stored as
is accepted. -/
theorem conforms_update (readable : Readable libraries table) {strategyId : String}
    {fields : List (String × JsonValue)} {now : Int} {attrs : List (String × Attr)} {item : Item}
    (prepared : (runAlone (prepareUpdate libraries fields now) table).1 = .ok attrs)
    (found : table.getItem (strategyPk strategyId) = some item)
    (accepts : ∀ field ∈ fields, ∀ attr, field.2.marshal = some attr → (field.1, attr) ∈ attrs →
      (Strategy.schema libraries).AcceptsSet (field.1, attr)) :
    (Strategy.schema libraries).Conforms (item.update attrs) := by
  have reads := readable _ item found (strategyPk_begins strategyId)
  refine (Strategy.modelValidate_isOk_iff.mp reads).update ?_
  rintro ⟨name, attr⟩ member
  obtain ⟨value, inside, image⟩ :=
    JsonValue.mem_of_marshalFields (prepareUpdate_ok_iff.mp prepared).2.1 member
  rcases List.mem_cons.mp inside with same | later
  · cases same
    exact acceptsField_updatedAt now _ image
  · exact accepts (name, value) (List.mem_filter.mp later).1 attr image member

/-- An update of accepted fields is safe. -/
theorem safe_update_of_accepts (readable : Readable libraries table) {strategyId : String}
    {fields : List (String × JsonValue)} {now : Int}
    (accepts : ∀ field ∈ fields, AcceptsField libraries field) :
    Safe libraries table (runAlone (update libraries strategyId fields now) table) := by
  rw [safe_update_iff readable]
  intro attrs item prepared found
  exact conforms_update readable prepared found fun field member attr image _ =>
    accepts field member attr image

end StrategyStore

/-! ### The body of an update -/

namespace Dashboard

variable {libraries : Libraries}

theorem mem_optionalField_iff {α : Type} {name : String} {value : α → JsonValue} {field : Option α}
    {entry : String × JsonValue} :
    entry ∈ optionalField name value field ↔
      ∃ content, field = some content ∧ entry = (name, value content) := by
  unfold optionalField
  cases field <;> simp

theorem sublist_optionalField {α : Type} (name : String) (value : α → JsonValue)
    (field : Option α) : ((optionalField name value field).map Prod.fst).Sublist [name] := by
  unfold optionalField
  cases field <;> simp

/-- The statuses a body may carry past the check. -/
def StrategyUpdate.StatusListed (body : StrategyUpdate) : Prop :=
  ∀ status, body.status = some status → status ∈ ["active", "paused", "stopped"]

instance (body : StrategyUpdate) : Decidable body.StatusListed :=
  match same : body.status with
  | none => isTrue fun status found => by rw [same] at found; cases found
  | some status =>
      decidable_of_iff (status ∈ ["active", "paused", "stopped"])
        ⟨fun listed other found => by rw [same] at found; cases found; exact listed,
          fun all => all status same⟩

/-- Every field of a body but the tools is accepted. -/
theorem StrategyUpdate.acceptsField {body : StrategyUpdate} (listed : body.StatusListed)
    {field : String × JsonValue} (member : field ∈ body.fields) (plain : field.1 ≠ "tools") :
    StrategyStore.AcceptsField libraries field := by
  unfold StrategyUpdate.fields at member
  simp only [List.mem_append, mem_optionalField_iff] at member
  obtain ⟨name, -, rfl⟩ | ⟨text, -, rfl⟩ | ⟨symbols, -, rfl⟩ | ⟨capital, -, rfl⟩ | ⟨status, set, rfl⟩ |
    ⟨tools, -, rfl⟩ | ⟨skills, -, rfl⟩ | ⟨model, -, rfl⟩ := member
  · exact StrategyStore.acceptsField_text (by simp) name
  · exact StrategyStore.acceptsField_text (by simp) text
  · exact StrategyStore.acceptsField_texts (by simp) symbols
  · exact StrategyStore.acceptsField_text (by simp) capital
  · exact StrategyStore.acceptsField_status (listed status set)
  · exact absurd rfl plain
  · exact StrategyStore.acceptsField_texts (by simp) skills
  · exact StrategyStore.acceptsField_text (by simp) model

/-- The fields of a body, each at most once and in this order. -/
theorem StrategyUpdate.sublist_fields (body : StrategyUpdate) :
    (body.fields.map Prod.fst).Sublist
      (["name"] ++ (["markdown"] ++ (["symbols"] ++ (["capital"] ++ (["status"] ++ (["tools"] ++
        (["skills"] ++ ["model_id"]))))))) := by
  unfold StrategyUpdate.fields
  simp only [List.map_append]
  exact (sublist_optionalField _ _ _).append ((sublist_optionalField _ _ _).append
    ((sublist_optionalField _ _ _).append ((sublist_optionalField _ _ _).append
      ((sublist_optionalField _ _ _).append ((sublist_optionalField _ _ _).append
        ((sublist_optionalField _ _ _).append (sublist_optionalField _ _ _)))))))

/-- A body sets nothing that is protected. -/
theorem StrategyUpdate.updatable_fields (body : StrategyUpdate) :
    StrategyStore.updatable body.fields = body.fields := by
  refine List.filter_eq_self.mpr fun field member => decide_eq_true ?_
  have named := body.sublist_fields.subset (List.mem_map_of_mem member)
  have free : ∀ name ∈ ["name"] ++ (["markdown"] ++ (["symbols"] ++ (["capital"] ++ (["status"] ++
      (["tools"] ++ (["skills"] ++ ["model_id"])))))), name ∉ StrategyStore.protectedFields := by
    decide
  exact free _ named

theorem find?_optionalField {α : Type} {name other : String} (different : name ≠ other)
    (value : α → JsonValue) (field : Option α) :
    (optionalField name value field).find? (fun entry => entry.1 = other) = none := by
  unfold optionalField
  cases field <;> simp [different]

theorem StrategyUpdate.find?_modelId (body : StrategyUpdate) :
    body.fields.find? (fun field => field.1 = "model_id") =
      body.modelId.map fun modelId => ("model_id", .text modelId) := by
  unfold StrategyUpdate.fields
  simp only [List.find?_append]
  rw [find?_optionalField (by decide), find?_optionalField (by decide),
    find?_optionalField (by decide), find?_optionalField (by decide),
    find?_optionalField (by decide), find?_optionalField (by decide),
    find?_optionalField (by decide)]
  simp only [Option.none_or]
  cases body.modelId <;> simp [optionalField]

theorem checkModelField_fields_iff {body : StrategyUpdate} {table : Table} :
    (runAlone (StrategyStore.checkModelField body.fields) table).1 = .ok () ↔
      ∀ modelId, body.modelId = some modelId → Models.validateModelId modelId = true := by
  unfold StrategyStore.checkModelField
  rw [body.find?_modelId]
  cases body.modelId with
  | none => simp
  | some modelId =>
      simp only [Option.map_some, StrategyStore.checkModel, Option.some.injEq, forall_eq']
      by_cases known : Models.validateModelId modelId = true
      · simp [known]
      · simp [known]

/-- The tools an update stores are those of its body. -/
theorem StrategyUpdate.tools_stored_iff {body : StrategyUpdate} {now : Int}
    {attrs : List (String × Attr)}
    (stored : JsonValue.marshalFields (("updated_at", .int now) :: body.fields) = some attrs)
    {value : Attr} :
    ("tools", value) ∈ attrs ↔
      ∃ tools, body.tools = some tools ∧ (toolItems tools).marshal = some value := by
  constructor
  · intro member
    obtain ⟨source, inside, image⟩ := JsonValue.mem_of_marshalFields stored member
    have field : ∃ tools, body.tools = some tools ∧ source = toolItems tools := by
      simpa [StrategyUpdate.fields, mem_optionalField_iff] using inside
    obtain ⟨tools, set, rfl⟩ := field
    exact ⟨tools, set, image⟩
  · rintro ⟨tools, set, image⟩
    have field : ("tools", toolItems tools) ∈ ("updated_at", .int now) :: body.fields := by
      unfold StrategyUpdate.fields
      simp only [List.mem_cons, List.mem_append, mem_optionalField_iff]
      exact Or.inr (Or.inr (Or.inr (Or.inr (Or.inr (Or.inr (Or.inl ⟨tools, set, rfl⟩))))))
    obtain ⟨attr, other, inside⟩ := JsonValue.marshalFields_mem stored field
    cases image.symm.trans other
    exact inside

end Dashboard

namespace StrategyStore

variable {libraries : Libraries} {table : Table}

/-- The update of a body is safe exactly when the tools it stores are read as
configurations. -/
theorem safe_update_body_iff (readable : Readable libraries table) {strategyId : String}
    {body : Dashboard.StrategyUpdate} {now : Int} (listed : body.StatusListed) :
    Safe libraries table (runAlone (update libraries strategyId body.fields now) table) ↔
      ∀ attrs item tools, (runAlone (prepareUpdate libraries body.fields now) table).1 = .ok attrs →
        table.getItem (strategyPk strategyId) = some item → ("tools", tools) ∈ attrs →
          Strategy.acceptsTools libraries tools = true := by
  rw [safe_update_iff readable]
  refine forall_congr' fun attrs => forall_congr' fun item => ?_
  constructor
  · intro conforms tools prepared found member
    have names : (attrs.map Prod.fst).Nodup := by
      rw [JsonValue.map_fst_of_marshalFields (prepareUpdate_ok_iff.mp prepared).2.1, List.map_cons]
      refine (((List.Sublist.map _ List.filter_sublist).trans body.sublist_fields).cons_cons
        _).nodup ?_
      simp
    have accepted := Schema.acceptsSet_of_conforms_update names (conforms prepared found) member
    exact accepted ("tools", Attr.optional (Strategy.acceptsTools libraries))
      (by simp [Strategy.schema]) rfl
  · intro tools prepared found
    refine conforms_update readable prepared found ?_
    rintro ⟨name, value⟩ inside attr image member
    by_cases plain : name = "tools"
    · subst plain
      simp [Schema.AcceptsSet, Strategy.schema, Attr.optional, tools attr prepared found member]
    · exact Dashboard.StrategyUpdate.acceptsField listed inside plain attr image

end StrategyStore

/-! ### The requests -/

namespace Dashboard

open StrategyStore

variable {deploy : Deploy} {libraries : Libraries} {table : Table} {session : Option Session}
  {strategyId : String}

theorem checkStatus_ok_iff {status : String} :
    (runAlone (checkStatus status) table).1 = .ok () ↔ status ∈ ["active", "paused", "stopped"] := by
  unfold checkStatus
  by_cases listed : status ∈ ["active", "paused", "stopped"]
  · rw [if_pos listed]
    exact iff_of_true rfl listed
  · rw [if_neg listed]
    exact iff_of_false nofun listed

theorem checkStatusField_ok_iff {body : StrategyUpdate} :
    (runAlone (checkStatusField body.status) table).1 = .ok () ↔ body.StatusListed := by
  unfold checkStatusField StrategyUpdate.StatusListed
  cases body.status with
  | none => simp
  | some status => simpa using checkStatus_ok_iff

/-- A caller who may change a strategy is about one that has a row. -/
theorem exists_row_of_requireUpdate {principal : Principal}
    (passed : (runAlone (requireUpdate deploy libraries session strategyId) table).1 =
      .ok principal) : ∃ item, table.getItem (strategyPk strategyId) = some item := by
  unfold requireUpdate at passed
  rw [(getPrincipal_reads session).runAlone_bind] at passed
  split at passed
  next =>
    rw [((StrategyStore.get_reads libraries strategyId).orNotFound _).runAlone_bind] at passed
    cases found : table.getItem (strategyPk strategyId) with
    | some item => exact ⟨item, rfl⟩
    | none =>
        have missing : runAlone (orNotFound (StrategyStore.get libraries strategyId)
            "Strategy not found") table = (.error (.http ⟨404, "Strategy not found"⟩), table) := by
          unfold orNotFound StrategyStore.get
          rw [runAlone_tryCatch, runAlone_bind, runAlone_getItem, found]
          rfl
        rw [missing] at passed
        cases passed
  next => cases passed

/-- The caller may make the update and nothing but its tools is wrong with its
body: they have attributes the table takes, but are no configurations. -/
structure StoresBadTools (deploy : Deploy) (libraries : Libraries) (table : Table)
    (session : Option Session) (strategyId : String) (body : StrategyUpdate) (now : Int) :
    Prop where
  authorized : ∃ principal,
    (runAlone (requireUpdate deploy libraries session strategyId) table).1 = .ok principal
  status : body.StatusListed
  model : ∀ modelId, body.modelId = some modelId → Models.validateModelId modelId = true
  tools : ∃ tools value, body.tools = some tools ∧ (toolItems tools).marshal = some value ∧
    Strategy.acceptsTools libraries value = false
  taken : ∃ attrs, JsonValue.marshalFields (("updated_at", .int now) :: body.fields) = some attrs ∧
    libraries.accepts attrs = true

theorem safe_createStrategy (readable : Readable libraries table) (claimed : Option OrgId)
    (body : StrategyCreate) (draw : Draw) :
    Safe libraries table
      (runAlone (createStrategy deploy libraries session claimed body draw) table) := by
  unfold createStrategy
  refine (safe_bind_of_reads readable (getPrincipal_reads session) _).mpr fun principal _ => ?_
  refine (safe_bind_of_reads readable (getActiveOrg_reads claimed principal) _).mpr fun _ _ => ?_
  refine (safe_bind_of_reads readable (require_reads deploy principal _ _) _).mpr fun _ _ => ?_
  refine (safe_bind_of_reads readable (writesIn_parsed _) _).mpr fun _ _ => ?_
  exact safe_orBadModel.mpr (safe_create readable _ draw)

theorem safe_updateStrategy_iff (readable : Readable libraries table) {body : StrategyUpdate}
    {now : Int} :
    Safe libraries table
        (runAlone (updateStrategy deploy libraries session strategyId body now) table) ↔
      ¬ StoresBadTools deploy libraries table session strategyId body now := by
  unfold updateStrategy
  rw [safe_bind_of_reads readable (requireUpdate_reads deploy libraries session strategyId)]
  constructor
  · rintro safe ⟨⟨principal, passed⟩, listed, known, ⟨tools, value, set, image, bad⟩, attrs, stored,
      taken⟩
    obtain ⟨item, found⟩ := exists_row_of_requireUpdate passed
    have update := (safe_bind_of_reads readable (checkStatusField_reads body.status) _).mp
      (safe principal passed) () (checkStatusField_ok_iff.mpr listed)
    have prepared : (runAlone (prepareUpdate libraries body.fields now) table).1 = .ok attrs := by
      rw [prepareUpdate_ok_iff, body.updatable_fields]
      exact ⟨checkModelField_fields_iff.mpr known, stored, taken⟩
    have good := (safe_update_body_iff readable listed).mp (safe_orBadModel.mp update) attrs item
      value prepared found ((StrategyUpdate.tools_stored_iff stored).mpr ⟨tools, set, image⟩)
    rw [bad] at good
    cases good
  · intro sound principal passed
    refine (safe_bind_of_reads readable (checkStatusField_reads body.status) _).mpr ?_
    intro _ checked
    have listed := checkStatusField_ok_iff.mp checked
    refine safe_orBadModel.mpr ((safe_update_body_iff readable listed).mpr ?_)
    intro attrs item value prepared found member
    rw [prepareUpdate_ok_iff, body.updatable_fields] at prepared
    obtain ⟨tools, set, image⟩ := (StrategyUpdate.tools_stored_iff prepared.2.1).mp member
    by_contra bad
    exact sound ⟨⟨principal, passed⟩, listed, checkModelField_fields_iff.mp prepared.1,
      ⟨tools, value, set, image, Bool.not_eq_true _ ▸ bad⟩, attrs, prepared.2⟩

theorem safe_updateStrategyStatus (readable : Readable libraries table) (status : String)
    (now : Int) :
    Safe libraries table
      (runAlone (updateStrategyStatus deploy libraries session strategyId status now) table) := by
  unfold updateStrategyStatus
  refine (safe_bind_of_reads readable (checkStatus_reads status) _).mpr fun _ checked => ?_
  refine (safe_bind_of_reads readable (requireUpdate_reads deploy libraries session strategyId)
    _).mpr fun _ _ => ?_
  refine (safe_bind_pure _).mpr (safe_update_of_accepts readable fun field member => ?_)
  rw [List.mem_singleton.mp member]
  exact acceptsField_status (checkStatus_ok_iff.mp checked)

/-! ### Applying a proposal -/

/-- A proposal that was found pending can still be decided after a write to a
strategy. -/
theorem decide_after_putItem {proposalId : String} {proposal : StrategyProposal}
    (found : (runAlone (StrategyProposalsStore.get libraries strategyId proposalId) table).1 =
      .ok proposal) (pending : proposal.status = .pending)
    (present : StrategyProposalsStore.CarryStatus table)
    (row : Item) (decidedBy : UserId) (now : Int) :
    ∃ pk item decided, familyOf '#' pk = "STRATEGYPROPOSAL".toList ∧
      runAlone (StrategyProposalsStore.decide libraries strategyId proposalId .applied decidedBy now)
          (table.putItem (strategyPk strategyId) row) =
        (.ok decided, (table.putItem (strategyPk strategyId) row).putItem pk item) := by
  have apart : familyOf '#' (strategyPk strategyId) ≠ "STRATEGYPROPOSAL".toList := by
    rw [familyOf_strategyPk]
    decide
  obtain ⟨first, rest, rows, stored, family, reads⟩ := StrategyProposalsStore.get_ok found
  have status := StrategyProposal.attr?_status_of_pending reads pending
    (present first.1 first.2 stored family)
  have scanned : StrategyProposalsStore.matching (table.putItem (strategyPk strategyId) row)
      strategyId proposalId = first :: rest := by
    unfold StrategyProposalsStore.matching at rows ⊢
    rw [Table.scanPrefix_putItem_of_not table row
      (StrategyProposalsStore.not_proposalPrefix apart)]
    exact rows
  have kept : (table.putItem (strategyPk strategyId) row).getItem first.1 = some first.2 := by
    rw [Table.getItem_putItem_of_family table row (by rw [family]; exact apart.symm)]
    exact stored
  obtain ⟨decided, done⟩ := StrategyProposal.modelValidate_decided reads .applied decidedBy now
  have decision := StrategyProposalsStore.runAlone_decide libraries scanned kept status .applied
    (by decide) decidedBy now
  rw [done] at decision
  exact ⟨first.1, _, decided, family, decision⟩

theorem safe_applyStrategyProposal (readable : Readable libraries table)
    (present : StrategyProposalsStore.CarryStatus table)
    (proposalId : String) (now : Int) :
    Safe libraries table
      (runAlone (applyStrategyProposal deploy libraries session strategyId proposalId now) table) := by
  unfold applyStrategyProposal
  refine (safe_bind_of_reads readable (requireUpdate_reads deploy libraries session strategyId)
    _).mpr fun principal _ => ?_
  refine (safe_bind_of_reads readable ((StrategyProposalsStore.get_reads libraries strategyId
    proposalId).orNotFound _) _).mpr fun proposal found => ?_
  dsimp only
  split
  next => exact Safe.of_error readable _
  next pending =>
    rw [not_not] at pending
    have update : Safe libraries table (runAlone (StrategyStore.update libraries strategyId
        [("markdown", .text proposal.proposedMarkdown)] now) table) := by
      refine safe_update_of_accepts readable fun field member => ?_
      rw [List.mem_singleton.mp member]
      exact acceptsField_text (by simp) _
    rw [runAlone_bind]
    cases done : runAlone (StrategyStore.update libraries strategyId
        [("markdown", .text proposal.proposedMarkdown)] now) table with
    | mk outcome after =>
        rw [done] at update
        cases outcome with
        | error error => exact safe_error_iff.mp update
        | ok strategy =>
            obtain ⟨row, rfl⟩ := exists_putItem_of_update_ok done
            have read := ok_of_orNotFound found
            obtain ⟨pk, item, decided, family, decision⟩ :=
              decide_after_putItem read pending present row principal.userId now
            dsimp only
            rw [decision]
            refine ⟨update.readable.putItem pk fun begins => ?_, nofun⟩
            have strategies : familyOf '#' pk = "STRATEGY".toList := by
              by_contra apart
              rw [show strategyPrefix = "STRATEGY" ++ "#" from rfl,
                Table.not_beginsWith_family (by decide) (by decide) apart] at begins
              cases begins
            rw [family] at strategies
            exact absurd strategies (by decide)

end Dashboard

/-! ### Runs -/

namespace StrategyStore

variable {deploy : Deploy} {libraries : Libraries} {table : Table}

/-- The rows are those their stores write: strategies are read, and a proposal
carries its status. -/
structure WellFormed (libraries : Libraries) (table : Table) : Prop where
  strategies : Readable libraries table
  proposals : StrategyProposalsStore.CarryStatus table

/-- An operation writes strategies, or decides a row that has a status. -/
def Settles (op : TableOp) : Prop :=
  op.WritesIn ["STRATEGY".toList] ∨
    ∃ pk value fields, op = .updateWhere pk "status" value fields

theorem settles_of_writesIn {α : Type} {program : TableProgram α}
    (writes : WritesIn ["STRATEGY".toList] program) : program.All TableOp.apply Settles :=
  Program.All.mono (fun _ => Or.inl) writes

theorem create_writesIn (new : NewStrategy) (draw : Draw) :
    WritesIn ["STRATEGY".toList] (create libraries new draw) := by
  refine Program.All.bind ((checkModel_reads _).writesIn _) fun _ => ?_
  refine Program.All.bind ((checkAccepted_reads libraries _).writesIn _) fun _ => ?_
  refine Program.All.bind (writesIn_putNew (by simp)) fun absent => ?_
  cases absent <;> trivial

theorem update_writesIn (strategyId : String) (fields : List (String × JsonValue)) (now : Int) :
    WritesIn ["STRATEGY".toList] (update libraries strategyId fields now) := by
  refine Program.All.bind ((prepareUpdate_reads libraries fields now).writesIn _) fun attrs => ?_
  refine Program.All.bind (Program.All.perform (writesIn_of_target rfl (by simp))) fun row => ?_
  cases row <;> trivial

theorem decide_settles (strategyId proposalId : String) (status : ProposalStatus)
    (decidedBy : UserId) (now : Int) :
    (StrategyProposalsStore.decide libraries strategyId proposalId status decidedBy now).All
      TableOp.apply Settles := by
  unfold StrategyProposalsStore.decide
  split
  · trivial
  refine Program.All.bind (settles_of_writesIn
    ((StrategyProposalsStore.findPk_reads _ _).writesIn _)) fun pk => ?_
  refine Program.All.bind (Program.All.perform (Or.inr ⟨pk, _, _, rfl⟩)) fun row => ?_
  cases row <;> trivial

theorem orBadModel_writesIn {α : Type} {program : TableProgram α} {families : List (List Char)}
    (writes : WritesIn families program) : WritesIn families (Dashboard.orBadModel program) := by
  refine Program.All.tryCatch writes fun error => ?_
  cases error <;> trivial

theorem program_settles (request : StrategyRequest) :
    (request.program deploy libraries).All TableOp.apply Settles := by
  cases request with
  | create session claimed body draw =>
      refine settles_of_writesIn (Program.All.bind ?_ fun _ => writesIn_pure _)
      refine Program.All.bind ((Dashboard.getPrincipal_reads session).writesIn _) fun principal => ?_
      refine Program.All.bind ((Dashboard.getActiveOrg_reads claimed principal).writesIn _)
        fun _ => ?_
      refine Program.All.bind ((Dashboard.require_reads deploy principal _ _).writesIn _)
        fun _ => ?_
      exact Program.All.bind (writesIn_parsed _) fun _ => orBadModel_writesIn (create_writesIn _ draw)
  | update session strategyId body now =>
      refine settles_of_writesIn (Program.All.bind ?_ fun _ => writesIn_pure _)
      refine Program.All.bind
        ((Dashboard.requireUpdate_reads deploy libraries session strategyId).writesIn _) fun _ => ?_
      refine Program.All.bind ((Dashboard.checkStatusField_reads body.status).writesIn _) fun _ => ?_
      exact orBadModel_writesIn (update_writesIn _ _ _)
  | updateStatus session strategyId status now =>
      refine settles_of_writesIn (Program.All.bind ?_ fun _ => writesIn_pure _)
      refine Program.All.bind ((Dashboard.checkStatus_reads status).writesIn _) fun _ => ?_
      refine Program.All.bind
        ((Dashboard.requireUpdate_reads deploy libraries session strategyId).writesIn _) fun _ => ?_
      exact Program.All.bind (update_writesIn _ _ _) fun _ => writesIn_pure _
  | applyProposal session strategyId proposalId now =>
      refine Program.All.bind ?_ fun _ => trivial
      refine Program.All.bind (settles_of_writesIn
        ((Dashboard.requireUpdate_reads deploy libraries session strategyId).writesIn _))
        fun principal => ?_
      refine Program.All.bind (settles_of_writesIn (((StrategyProposalsStore.get_reads libraries
        strategyId proposalId).orNotFound _).writesIn _)) fun proposal => ?_
      dsimp only
      split
      · trivial
      · exact Program.All.bind (settles_of_writesIn (update_writesIn _ _ _)) fun _ =>
          decide_settles _ _ _ _ _

theorem carryStatus_apply {op : TableOp} {state : Table} (settles : Settles op)
    (kept : StrategyProposalsStore.CarryStatus state) :
    StrategyProposalsStore.CarryStatus (op.apply state).2 := by
  intro pk item found family
  obtain writes | ⟨decided, value, fields, rfl⟩ := settles
  · rw [writes.getItem_apply (by rw [family]; decide)] at found
    exact kept pk item found family
  · unfold TableOp.apply at found
    dsimp only at found
    cases stored : state.getItem decided with
    | none =>
        rw [stored] at found
        exact kept pk item found family
    | some row =>
        rw [stored] at found
        dsimp only at found
        by_cases status : row.attr? "status" = some value
        · rw [if_pos status, Table.getItem_putItem] at found
          by_cases same : pk = decided
          · rw [if_pos same] at found
            cases found
            rcases row.attr?_update_cases fields "status" with unset | ⟨set, -, now⟩
            · rw [unset, status]
              exact Option.some_ne_none value
            · rw [now]
              exact Option.some_ne_none set
          · rw [if_neg same] at found
            exact kept pk item found family
        · rw [if_neg status] at found
          exact kept pk item found family

/-- No request takes the status of a proposal away. -/
theorem proposals_step (request : StrategyRequest)
    (present : StrategyProposalsStore.CarryStatus table) :
    StrategyProposalsStore.CarryStatus
      (runAlone (request.program deploy libraries) table).2 :=
  Program.All.run_keeps (fun _ _ => carryStatus_apply) (program_settles request) present

def step (deploy : Deploy) (libraries : Libraries) (table : Table) (request : StrategyRequest) :
    Table :=
  (runAlone (request.program deploy libraries) table).2

/-- The strategies stay readable, and the request changes none if it ends in an
error. -/
def StaysReadable (deploy : Deploy) (libraries : Libraries) (table : Table)
    (request : StrategyRequest) : Prop :=
  Safe libraries table (runAlone (request.program deploy libraries) table)

/-- The request is no update that stores tools which are no configurations. -/
def StoresGoodTools (deploy : Deploy) (libraries : Libraries) (table : Table) :
    StrategyRequest → Prop
  | .update session strategyId body now =>
      ¬ Dashboard.StoresBadTools deploy libraries table session strategyId body now
  | _ => True

theorem staysReadable_iff (wellFormed : WellFormed libraries table) (request : StrategyRequest) :
    StaysReadable deploy libraries table request ↔
      StoresGoodTools deploy libraries table request := by
  have readable := wellFormed.strategies
  unfold StaysReadable
  cases request with
  | create session claimed body draw =>
      exact iff_of_true ((safe_bind_pure _).mpr
        (Dashboard.safe_createStrategy readable claimed body draw)) trivial
  | update session strategyId body now =>
      exact (safe_bind_pure _).trans (Dashboard.safe_updateStrategy_iff readable)
  | updateStatus session strategyId status now =>
      exact iff_of_true ((safe_bind_pure _).mpr
        (Dashboard.safe_updateStrategyStatus readable status now)) trivial
  | applyProposal session strategyId proposalId now =>
      exact iff_of_true ((safe_bind_pure _).mpr
        (Dashboard.safe_applyStrategyProposal readable wellFormed.proposals proposalId now)) trivial

/-- In a run of requests the stored strategies stay readable, and no request that
ends in an error changes one, exactly when no update stores tools that are no
configurations. -/
theorem staysReadable_iff_storesGoodTools (deploy : Deploy) (libraries : Libraries)
    (wellFormed : WellFormed libraries table) (requests : List StrategyRequest) :
    EachStep (step deploy libraries) (StaysReadable deploy libraries) table requests ↔
      EachStep (step deploy libraries) (StoresGoodTools deploy libraries) table requests :=
  eachStep_congr_of_kept (step deploy libraries)
    (fun _ request wellFormed safe => ⟨safe.readable, proposals_step request wellFormed.proposals⟩)
    (fun _ request wellFormed => staysReadable_iff wellFormed request) wellFormed

theorem WellFormed.putItem_of_family (wellFormed : WellFormed libraries table) {pk : String}
    (strategies : familyOf '#' pk ≠ "STRATEGY".toList)
    (proposals : familyOf '#' pk ≠ "STRATEGYPROPOSAL".toList) (item : Item) :
    WellFormed libraries (table.putItem pk item) := by
  refine ⟨wellFormed.strategies.putItem pk fun begins => ?_, fun other stored found family => ?_⟩
  · obtain ⟨strategyId, rfl⟩ := exists_strategyPk begins
    exact absurd (familyOf_strategyPk strategyId) strategies
  · have apart : other ≠ pk := by
      rintro rfl
      exact proposals family
    rw [Table.getItem_putItem, if_neg apart] at found
    exact wellFormed.proposals other stored found family

/-- An organisation administrator and no strategy yet. -/
def acme : Table :=
  let user : Table := Table.putItem Dict.empty (TenancyStore.userPk "user")
    (User.modelDump { userId := "user", email := "u@acme", createdAt := 0, updatedAt := 0 })
  user.putItem (TenancyStore.userOrgPk "user" "acme")
    (TenancyStore.membershipItem "user" "acme" .orgadmin 0)

theorem wellFormed_acme : WellFormed plainLibraries acme := by
  have empty : WellFormed plainLibraries Dict.empty := ⟨nofun, nofun⟩
  refine (empty.putItem_of_family ?_ ?_ _).putItem_of_family ?_ ?_ _ <;> decide

/-- A strategy is created, and then its tools are updated. -/
def createThenUpdate (enabled : JsonValue) : List StrategyRequest :=
  [.create (some ⟨"user"⟩) (some "acme") { name := "Momentum", markdown := "# Buy" } ⟨"s", 1⟩,
    .update (some ⟨"user"⟩) "s" { tools := some [("news", [("enabled", enabled)])] } 2]

theorem staysReadable_iff_storesGoodTools_acme :
    EachStep (step { normalize := id } plainLibraries)
      (StaysReadable { normalize := id } plainLibraries) acme (createThenUpdate (.bool true)) := by
  refine (staysReadable_iff_storesGoodTools { normalize := id } plainLibraries wellFormed_acme
    (createThenUpdate (.bool true))).mpr ⟨trivial, ?_, trivial⟩
  rintro ⟨-, -, -, ⟨tools, value, set, image, bad⟩, -⟩
  cases set
  cases image
  revert bad
  decide

/-- The update ends in an error, and its tools stay in the row. -/
theorem not_staysReadable_unreadTools :
    WellFormed plainLibraries acme ∧
      ¬ EachStep (step { normalize := id } plainLibraries)
        (StaysReadable { normalize := id } plainLibraries) acme
        (createThenUpdate (.text "sometimes")) := by
  refine ⟨wellFormed_acme, fun each => ?_⟩
  have unread : ((Foundation.run (step { normalize := id } plainLibraries) acme
      (createThenUpdate (.text "sometimes"))).getItem (strategyPk "s")).map (fun item =>
        (Strategy.modelValidate plainLibraries item).toOption) = some none := by decide +kernel
  obtain ⟨item, found, unread⟩ := Option.map_eq_some_iff.mp unread
  obtain ⟨strategy, reads⟩ := each.2.1.readable (strategyPk "s") item found (strategyPk_begins "s")
  rw [reads] at unread
  cases unread

end StrategyStore

end TradingStrands
