import Mathlib.Logic.Function.Iterate
import ActaBoards.PostgresContent.CreateTables

/-!
# The plugin in its node: configuration, startup, and the blocks it sees

`postgres_content_plugin` is driven by the node through four entry points:

* `plugin_initialize` reads `postgres-content-url` and `postgres-content-start-block`; only
  with a URL does it connect `on_block` to the database's `applied_block` signal;
* `plugin_startup` does nothing without a URL; otherwise it connects to PostgreSQL and runs
  `create_tables`, and a failure of either is thrown, fatal to the node;
* every `applied_block` signal runs `on_block` once per connection, each statement going
  through `execute_sql` against the declared schema (`Db.runChecked createTables`);
* `plugin_shutdown` only logs.

Which of these the node calls, and in what order, is up to the node, so a run of the plugin
is any list of `Event`s (`PostgresContentPlugin.run`). What holds over every run:

* **a connected plugin is subscribed** (`Wf`, `run_new_handlers_of_pgConn`): a connection is
  opened only for a recorded URL, and a URL is recorded together with a connection to
  `applied_block`, so no block applied while connected is missed;
* **a plugin without a URL never writes** (`run_new_disabled`);
* **the life of a node** (`run_new_lifecycle`): blocks applied before `plugin_startup` (a node
  replaying its chain on start) find no connection and are never indexed; a failed connection
  or schema bootstrap ends the run with its message; after a successful startup the database
  is the checked projection of exactly the blocks applied since;
* **replay through the node** (`run_appliedBlocks_replay`): blocks applied a second time change
  nothing, under the replay law's condition on the statements PostgreSQL accepts;
* **a duplicate subscription is harmless** (`run_appliedBlocks_of_handlers`): each
  `plugin_initialize` with a URL connects `on_block` once more, and with any number of
  connections a run of blocks ends as with one, under the same condition block by block.

A step changes the database only by a block (`db_of_step_eq_ok`), and a property every step
keeps holds after every run (`run_invariant`); the invariant of the stored rows is proved from
these in `StoredRows`.

The connection and the DDL are external: whether each succeeded is an argument of the startup
event. `create_tables` creates no row, and the tables it declares are `createTables`.
-/

namespace ActaBoards.PostgresContent

open Postgres

/-- The options `plugin_initialize` reads. -/
structure Options where
  /-- `postgres-content-url`, if given. -/
  postgresContentUrl : Option String
  /-- `postgres-content-start-block`; declared with `default_value(0)`, so it always has one. -/
  postgresContentStartBlock : UInt32

/-- The plugin as the node holds it: the implementation's state read by `on_block`, its
`_postgres_url`, the number of connections of `on_block` to `applied_block`, and the
database it writes to. -/
structure PostgresContentPlugin where
  /-- `pg_conn` and `_start_block`. -/
  my : PostgresContentPluginImpl
  /-- `_postgres_url`. -/
  postgresUrl : String
  /-- How many times `plugin_initialize` connected `on_block` to `applied_block`. -/
  appliedBlockHandlers : ℕ
  /-- The PostgreSQL database. -/
  db : Db

/-- What the node does to the plugin. -/
inductive Event
  | pluginInitialize (options : Options)
  /-- `plugin_startup`, with whether PostgreSQL accepted the connection and the DDL. -/
  | pluginStartup (connectionOk tablesCreated : Bool)
  | appliedBlock (ab : AppliedBlock)
  | pluginShutdown

/-- Whether the event is a call of `plugin_initialize`. -/
def Event.isInitialize : Event → Bool
  | .pluginInitialize _ => true
  | _ => false

namespace PostgresContentPlugin

/-- The plugin as constructed: no connection, no URL, `_start_block` 0, no handler. -/
def new (db : Db) : PostgresContentPlugin := ⟨⟨false, 0⟩, "", 0, db⟩

/-- `plugin_initialize`: without a URL it returns at once; with one it records the URL and the
start block and connects `on_block` to `applied_block`. -/
def pluginInitialize (p : PostgresContentPlugin) (options : Options) : PostgresContentPlugin :=
  match options.postgresContentUrl with
  | none => p
  | some url =>
    { p with
      postgresUrl := url
      my := { p.my with startBlock := options.postgresContentStartBlock }
      appliedBlockHandlers := p.appliedBlockHandlers + 1 }

/-- `connect_to_postgres`, given whether `PQconnectdb` reached the server: `pg_conn` is kept on
success and reset to null on failure. -/
def connectToPostgres (p : PostgresContentPlugin) (connectionOk : Bool) :
    Bool × PostgresContentPlugin :=
  (connectionOk, { p with my := { p.my with pgConn := connectionOk } })

/-- `plugin_startup`: disabled without a URL; otherwise connect, then create the tables,
throwing if either fails. -/
def pluginStartup (p : PostgresContentPlugin) (connectionOk tablesCreated : Bool) :
    Except String PostgresContentPlugin :=
  if p.postgresUrl.isEmpty then .ok p
  else
    let (connected, p) := p.connectToPostgres connectionOk
    if !connected then .error ("Failed to connect to PostgreSQL at " ++ p.postgresUrl)
    else if !tablesCreated then .error "Failed to create PostgreSQL tables"
    else .ok p

/-- One `applied_block` signal: each connection of `on_block` projects the block once, every
statement through `execute_sql`. -/
def appliedBlock (p : PostgresContentPlugin) (ab : AppliedBlock) : PostgresContentPlugin :=
  { p with
    db := (fun db ↦ db.runChecked createTables (p.my.onBlock ab.block ab.appliedOperations))^[
      p.appliedBlockHandlers] p.db }

/-- One event. -/
def step (p : PostgresContentPlugin) : Event → Except String PostgresContentPlugin
  | .pluginInitialize options => .ok (p.pluginInitialize options)
  | .pluginStartup connectionOk tablesCreated => p.pluginStartup connectionOk tablesCreated
  | .appliedBlock ab => .ok (p.appliedBlock ab)
  | .pluginShutdown => .ok p

/-- A run of events; an exception ends it. -/
def run (p : PostgresContentPlugin) : List Event → Except String PostgresContentPlugin
  | [] => .ok p
  | e :: es => p.step e >>= fun q ↦ q.run es

/-- The plugin over an empty database after `plugin_initialize` with the URL `dbname=content`
and a successful `plugin_startup` (`startedPlugin_handlers`). -/
def startedPlugin : PostgresContentPlugin := ⟨⟨true, 0⟩, "dbname=content", 1, Db.empty⟩

@[simp] theorem run_nil (p : PostgresContentPlugin) : p.run [] = .ok p := rfl

theorem run_cons (p : PostgresContentPlugin) (e : Event) (es : List Event) :
    p.run (e :: es) = p.step e >>= fun q ↦ q.run es := rfl

theorem run_append (p : PostgresContentPlugin) (es fs : List Event) :
    p.run (es ++ fs) = p.run es >>= fun q ↦ q.run fs := by
  induction es generalizing p with
  | nil => rfl
  | cons e es ih =>
    simp only [List.cons_append, run_cons, ih]
    cases p.step e <;> rfl

/-- `plugin_startup` by cases: disabled without a URL, else the first failure, else
connected. -/
theorem pluginStartup_eq (p : PostgresContentPlugin) (connectionOk tablesCreated : Bool) :
    p.pluginStartup connectionOk tablesCreated =
      if p.postgresUrl = "" then .ok p
      else if !connectionOk then .error ("Failed to connect to PostgreSQL at " ++ p.postgresUrl)
      else if !tablesCreated then .error "Failed to create PostgreSQL tables"
      else .ok { p with my := { p.my with pgConn := true } } := by
  unfold pluginStartup connectToPostgres
  by_cases hu : p.postgresUrl = ""
  · simp only [hu, show ("" : String).isEmpty = true from rfl, if_true]
  · have he : p.postgresUrl.isEmpty = false :=
      Bool.eq_false_iff.2 fun h ↦ hu ((String.isEmpty_iff _).1 h)
    cases connectionOk <;> simp [hu, he]

/-- What one successful startup can do: nothing without a URL, else connect. -/
theorem pluginStartup_eq_ok {p q : PostgresContentPlugin} {connectionOk tablesCreated : Bool}
    (h : p.pluginStartup connectionOk tablesCreated = .ok q) :
    (p.postgresUrl = "" ∧ q = p) ∨
      (p.postgresUrl ≠ "" ∧ q = { p with my := { p.my with pgConn := true } }) := by
  rw [pluginStartup_eq] at h
  split_ifs at h with hu
  · exact .inl ⟨hu, (Except.ok.inj h).symm⟩
  · exact .inr ⟨hu, (Except.ok.inj h).symm⟩

/-! ### Blocks without a connection -/

/-- Without a connection a block changes nothing. -/
theorem appliedBlock_of_not_pgConn {p : PostgresContentPlugin} (hc : p.my.pgConn = false)
    (ab : AppliedBlock) : p.appliedBlock ab = p := by
  have hnil : p.my.onBlock ab.block ab.appliedOperations = [] := by
    simp [PostgresContentPluginImpl.onBlock, hc]
  simp only [appliedBlock, hnil]
  exact congrArg _ (Function.iterate_fixed rfl _)

theorem run_appliedBlocks_of_not_pgConn {p : PostgresContentPlugin} (hc : p.my.pgConn = false)
    (ws : List AppliedBlock) : p.run (ws.map .appliedBlock) = .ok p := by
  induction ws with
  | nil => rfl
  | cons ab ws ih =>
    rw [List.map_cons, run_cons, step, appliedBlock_of_not_pgConn hc]
    exact ih

/-- With one handler, a run of blocks is the checked projection of the blocks. -/
theorem run_appliedBlocks {p : PostgresContentPlugin} (h1 : p.appliedBlockHandlers = 1)
    (ws : List AppliedBlock) :
    p.run (ws.map .appliedBlock) =
      .ok { p with db := p.db.runChecked createTables (p.my.statements ws) } := by
  induction ws generalizing p with
  | nil => rfl
  | cons ab ws ih =>
    refine (ih (p := p.appliedBlock ab) h1).trans ?_
    simp only [appliedBlock, h1, Function.iterate_one, PostgresContentPluginImpl.statements,
      List.flatMap_cons, Db.runChecked, List.foldl_append]

/-- **Replaying blocks through the node changes nothing**: with one handler, blocks `v` applied
again after `u ++ v` leave the database as `u ++ v` left it, when among the statements
PostgreSQL accepts no row absent at the start is removed before it is first inserted. -/
theorem run_appliedBlocks_replay {p : PostgresContentPlugin} (h1 : p.appliedBlockHandlers = 1)
    (u v : List AppliedBlock)
    (h : ∀ t k, p.db t k = none →
      NoUpdateBeforeInsert t k ((p.my.statements (u ++ v)).filter (·.accepted createTables))) :
    p.run ((u ++ v).map .appliedBlock ++ v.map .appliedBlock) =
      p.run ((u ++ v).map .appliedBlock) := by
  have hk : ∀ s ∈ p.my.statements u ++ p.my.statements v, ' ' ∉ s.key.data := fun _ hs ↦
    space_not_mem_key_of_mem_statements ((PostgresContentPluginImpl.statements_append _ u v) ▸ hs)
  have hc : ∀ s ∈ p.my.statements v, (s.coerce createTables).Coherent := fun _ hs ↦
    (handlerStatement_of_mem_statements hs).coherent_coerce _
  rw [PostgresContentPluginImpl.statements_append] at h
  rw [run_append, run_appliedBlocks h1]
  refine (run_appliedBlocks
    (p := { p with db := p.db.runChecked createTables (p.my.statements (u ++ v)) }) h1 v).trans ?_
  simp only [PostgresContentPluginImpl.statements_append, Db.runChecked_run_suffix hk hc h]

/-- `run_appliedBlocks_replay` on a started node applying `staleTrxIdRun` twice. -/
theorem staleTrxIdRun_node_replay :
    startedPlugin.run (([] ++ staleTrxIdRun).map .appliedBlock ++ staleTrxIdRun.map .appliedBlock) =
      startedPlugin.run (([] ++ staleTrxIdRun).map .appliedBlock) :=
  run_appliedBlocks_replay rfl [] staleTrxIdRun fun _ _ _ ↦
    noUpdateBeforeInsert_of_forall_isInsert (by decide)

/-! ### More than one connection of `on_block` -/

/-- An idempotent map iterated a positive number of times is applied once. -/
theorem iterate_of_idem {α : Type} {f : α → α} (hf : ∀ x, f (f x) = f x) {n : ℕ} (hn : 0 < n)
    (x : α) : f^[n] x = f x := by
  induction n with
  | zero => cases hn
  | succ n ih =>
    rcases Nat.eq_zero_or_pos n with rfl | hn
    · rfl
    · rw [Function.iterate_succ_apply', ih hn, hf]

theorem mem_statements_of_mem_onBlock {self : PostgresContentPluginImpl} {ab : AppliedBlock}
    {s : Statement} (hs : s ∈ self.onBlock ab.block ab.appliedOperations) :
    s ∈ self.statements [ab] :=
  List.mem_flatMap.2 ⟨ab, List.mem_singleton_self _, hs⟩

theorem handlerStatement_of_mem_onBlock {self : PostgresContentPluginImpl} {ab : AppliedBlock}
    {s : Statement} (hs : s ∈ self.onBlock ab.block ab.appliedOperations) : HandlerStatement s :=
  handlerStatement_of_mem_statements (mem_statements_of_mem_onBlock hs)

/-- A block projected by every connection of `on_block` is projected once, when no statement of
the block that PostgreSQL accepts removes a row before the block inserts it. -/
theorem appliedBlock_eq_of_handlers {p : PostgresContentPlugin} (hn : 0 < p.appliedBlockHandlers)
    {ab : AppliedBlock} (h : ∀ t k, NoUpdateBeforeInsert t k
      ((p.my.onBlock ab.block ab.appliedOperations).filter (·.accepted createTables))) :
    p.appliedBlock ab = { p with
      db := p.db.runChecked createTables (p.my.onBlock ab.block ab.appliedOperations) } := by
  have hidem (db : Db) :
      (db.runChecked createTables (p.my.onBlock ab.block ab.appliedOperations)).runChecked
        createTables (p.my.onBlock ab.block ab.appliedOperations) =
      db.runChecked createTables (p.my.onBlock ab.block ab.appliedOperations) := by
    simpa using Db.runChecked_run_suffix (u := [])
      (fun s hs ↦ space_not_mem_key_of_mem_statements
        (mem_statements_of_mem_onBlock (List.nil_append _ ▸ hs)))
      (fun s hs ↦ (handlerStatement_of_mem_onBlock hs).coherent_coerce _) fun t k _ ↦ by
        simpa using h t k
  simp only [appliedBlock, iterate_of_idem (f := fun db : Db ↦
    db.runChecked createTables (p.my.onBlock ab.block ab.appliedOperations)) hidem hn]

/-- **A duplicate subscription is harmless under the replay law's condition.** Each
`plugin_initialize` with a URL connects `on_block` to `applied_block` once more, and every
connection projects every block. With any positive number of connections, a run of blocks leaves
the database as one connection does, when in no block does a statement PostgreSQL accepts remove
a row before the block inserts it. -/
theorem run_appliedBlocks_of_handlers {p : PostgresContentPlugin} (hn : 0 < p.appliedBlockHandlers)
    (ws : List AppliedBlock)
    (h : ∀ ab ∈ ws, ∀ t k, NoUpdateBeforeInsert t k
      ((p.my.onBlock ab.block ab.appliedOperations).filter (·.accepted createTables))) :
    p.run (ws.map .appliedBlock) =
      .ok { p with db := p.db.runChecked createTables (p.my.statements ws) } := by
  induction ws generalizing p with
  | nil => rfl
  | cons ab ws ih =>
    show (p.appliedBlock ab).run (ws.map .appliedBlock) = _
    rw [appliedBlock_eq_of_handlers hn (h ab (List.mem_cons_self _ _))]
    refine (ih (p := { p with
      db := p.db.runChecked createTables (p.my.onBlock ab.block ab.appliedOperations) }) hn
      fun ab' hab' ↦ h ab' (List.mem_cons_of_mem _ hab')).trans ?_
    simp only [PostgresContentPluginImpl.statements, List.flatMap_cons, Db.runChecked,
      List.foldl_append]

/-- `run_appliedBlocks_of_handlers` on a node whose `on_block` is connected twice, applying
`staleTrxIdRun`. -/
theorem staleTrxIdRun_twice_connected :
    (⟨⟨true, 0⟩, "dbname=content", 2, Db.empty⟩ : PostgresContentPlugin).run
        (staleTrxIdRun.map .appliedBlock) =
      .ok ⟨⟨true, 0⟩, "dbname=content", 2, Db.empty.runChecked createTables
        (PostgresContentPluginImpl.statements ⟨true, 0⟩ staleTrxIdRun)⟩ :=
  run_appliedBlocks_of_handlers (by decide) staleTrxIdRun fun ab hab _ _ ↦
    noUpdateBeforeInsert_of_forall_isInsert fun s hs ↦
      (by decide : ∀ ab ∈ staleTrxIdRun, ∀ s ∈ PostgresContentPluginImpl.onBlock ⟨true, 0⟩ ab.block
        ab.appliedOperations, s.isInsert = true) ab hab s (List.mem_filter.1 hs).1

/-! ### Over every run -/

/-- What every plugin reached from construction satisfies: `on_block` is connected to
`applied_block` once a URL is recorded, and so once the plugin is connected. -/
structure Wf (p : PostgresContentPlugin) : Prop where
  /-- A URL was recorded together with a connection of `on_block` to `applied_block`. -/
  handlers_of_url : p.postgresUrl ≠ "" → 0 < p.appliedBlockHandlers
  /-- A live connection was opened for a recorded URL. -/
  handlers_of_pgConn : p.my.pgConn = true → 0 < p.appliedBlockHandlers

theorem wf_new (db : Db) : (new db).Wf := ⟨fun h ↦ absurd rfl h, Bool.noConfusion⟩

theorem Wf.step {p q : PostgresContentPlugin} (hp : p.Wf) {e : Event} (h : p.step e = .ok q) :
    q.Wf := by
  cases e with
  | pluginInitialize options =>
    cases Except.ok.inj h
    unfold pluginInitialize
    split
    · exact hp
    · exact ⟨fun _ ↦ Nat.succ_pos _, fun _ ↦ Nat.succ_pos _⟩
  | pluginStartup c t =>
    rcases pluginStartup_eq_ok h with ⟨-, rfl⟩ | ⟨hu, rfl⟩
    exacts [hp, ⟨hp.handlers_of_url, fun _ ↦ hp.handlers_of_url hu⟩]
  | appliedBlock ab => cases Except.ok.inj h; exact ⟨hp.1, hp.2⟩
  | pluginShutdown => cases Except.ok.inj h; exact hp

theorem Wf.run {p q : PostgresContentPlugin} (hp : p.Wf) {es : List Event}
    (h : p.run es = .ok q) : q.Wf := by
  induction es generalizing p with
  | nil => cases h; exact hp
  | cons e es ih =>
    rw [run_cons] at h
    cases hs : p.step e with
    | error msg => rw [hs] at h; cases h
    | ok p' => rw [hs] at h; exact ih (hp.step hs) h

/-- What a step does to the database: nothing, but for a block. -/
theorem db_of_step_eq_ok {p q : PostgresContentPlugin} {e : Event} (h : p.step e = .ok q) :
    q.db = p.db ∨ ∃ ab, e = .appliedBlock ab ∧ q = p.appliedBlock ab := by
  cases e with
  | pluginInitialize options =>
    cases Except.ok.inj h
    unfold pluginInitialize
    left
    split <;> rfl
  | pluginStartup c t => rcases pluginStartup_eq_ok h with ⟨-, rfl⟩ | ⟨-, rfl⟩ <;> exact .inl rfl
  | appliedBlock ab => exact .inr ⟨ab, rfl, (Except.ok.inj h).symm⟩
  | pluginShutdown => exact .inl (congrArg db (Except.ok.inj h).symm)

/-- A property every step keeps holds after every run. -/
theorem run_invariant {I : PostgresContentPlugin → Prop}
    (hstep : ∀ {p q : PostgresContentPlugin} {e : Event}, I p → p.step e = .ok q → I q)
    {p q : PostgresContentPlugin} (hp : I p) {es : List Event} (h : p.run es = .ok q) : I q := by
  induction es generalizing p with
  | nil => cases h; exact hp
  | cons e es ih =>
    rw [run_cons] at h
    cases hs : p.step e with
    | error msg => rw [hs] at h; cases h
    | ok p' => rw [hs] at h; exact ih (hstep hp hs) h

/-- **A connected plugin is subscribed.** Whatever events the node delivers, in whatever order,
a plugin holding a live connection has `on_block` connected to `applied_block`, so every block
applied while it is connected is projected. -/
theorem run_new_handlers_of_pgConn (db : Db) (es : List Event) (q : PostgresContentPlugin)
    (h : (new db).run es = .ok q) (hc : q.my.pgConn = true) : 0 < q.appliedBlockHandlers :=
  ((wf_new db).run h).handlers_of_pgConn hc

/-- `run_new_handlers_of_pgConn` after a successful startup. -/
theorem startedPlugin_handlers :
    (new Db.empty).run [.pluginInitialize ⟨some "dbname=content", 0⟩, .pluginStartup true true] =
      .ok startedPlugin ∧ 0 < startedPlugin.appliedBlockHandlers :=
  ⟨rfl, run_new_handlers_of_pgConn Db.empty
    [.pluginInitialize ⟨some "dbname=content", 0⟩, .pluginStartup true true] _ rfl rfl⟩

/-- A plugin with neither URL nor connection stays as it is under every event but
`plugin_initialize`. -/
theorem run_of_disabled {p : PostgresContentPlugin} (hu : p.postgresUrl = "")
    (hc : p.my.pgConn = false) {es : List Event} (hes : ∀ e ∈ es, e.isInitialize = false) :
    p.run es = .ok p := by
  induction es with
  | nil => rfl
  | cons e es ih =>
    have ih := ih fun e' h ↦ hes e' (List.mem_cons_of_mem _ h)
    rw [run_cons]
    cases e with
    | pluginInitialize _ => exact absurd (hes _ (List.mem_cons_self _ _)) Bool.noConfusion
    | pluginStartup c t => rw [step, pluginStartup_eq, if_pos hu]; exact ih
    | appliedBlock ab => rw [step, appliedBlock_of_not_pgConn hc]; exact ih
    | pluginShutdown => exact ih

/-- **Without a URL the plugin never writes.** Initialized with no `postgres-content-url` (or
an empty one), the plugin survives every later event but a second initialization, and the
database is never touched. -/
theorem run_new_disabled (db : Db) (options : Options)
    (hurl : options.postgresContentUrl.getD "" = "") (es : List Event)
    (hes : ∀ e ∈ es, e.isInitialize = false) :
    ∃ q, (new db).run (.pluginInitialize options :: es) = .ok q ∧ q.db = db := by
  obtain ⟨url?, start⟩ := options
  have hu : ((new db).pluginInitialize ⟨url?, start⟩).postgresUrl = "" := by
    cases url? <;> first | rfl | exact hurl
  have hc : ((new db).pluginInitialize ⟨url?, start⟩).my.pgConn = false := by cases url? <;> rfl
  exact ⟨_, run_of_disabled hu hc hes, by cases url? <;> rfl⟩

/-- `run_new_disabled` on a node started without a URL that then applies `staleTrxIdRun`. -/
theorem unconfiguredNode_disabled :
    ∃ q, (new Db.empty).run (.pluginInitialize ⟨none, 0⟩ ::
        .pluginStartup true true :: staleTrxIdRun.map .appliedBlock) = .ok q ∧ q.db = Db.empty :=
  run_new_disabled Db.empty ⟨none, 0⟩ rfl _ (by decide)

/-- **The life of a node.** A plugin initialized with a URL sees blocks applied before its
startup (a node replaying its chain) without a connection, and indexes none of them. Startup
then fails with its message if PostgreSQL refuses the connection or the tables; otherwise the
database ends as the checked projection of exactly the blocks applied after startup, from the
start block on, with one handler. -/
theorem run_new_lifecycle (db : Db) {url : String} (hurl : url ≠ "") (start : UInt32)
    (pre : List AppliedBlock) (connectionOk tablesCreated : Bool) (ws : List AppliedBlock) :
    (new db).run (.pluginInitialize ⟨some url, start⟩ :: pre.map .appliedBlock ++
        .pluginStartup connectionOk tablesCreated :: ws.map .appliedBlock) =
      if !connectionOk then .error ("Failed to connect to PostgreSQL at " ++ url)
      else if !tablesCreated then .error "Failed to create PostgreSQL tables"
      else .ok ⟨⟨true, start⟩, url, 1,
        db.runChecked createTables (PostgresContentPluginImpl.statements ⟨true, start⟩ ws)⟩ := by
  have hpre : (new db).run (.pluginInitialize ⟨some url, start⟩ :: pre.map .appliedBlock) =
      .ok ⟨⟨false, start⟩, url, 1, db⟩ := run_appliedBlocks_of_not_pgConn rfl pre
  rw [run_append, hpre]
  show (pluginStartup ⟨⟨false, start⟩, url, 1, db⟩ connectionOk tablesCreated >>= _) = _
  rw [pluginStartup_eq]
  cases connectionOk <;> cases tablesCreated <;> simp only [hurl, if_false, Bool.not_false,
    Bool.not_true, if_true, Bool.false_eq_true]
  exacts [rfl, rfl, rfl, run_appliedBlocks rfl ws]

/-- `run_new_lifecycle` on a node that replays `staleTrxIdRun` before startup and applies it
again after. -/
theorem staleTrxIdRun_node :
    (new Db.empty).run (.pluginInitialize ⟨some "dbname=content", 0⟩ ::
        staleTrxIdRun.map .appliedBlock ++ .pluginStartup true true :: staleTrxIdRun.map .appliedBlock) =
      .ok ⟨⟨true, 0⟩, "dbname=content", 1,
        Db.empty.runChecked createTables (PostgresContentPluginImpl.statements ⟨true, 0⟩ staleTrxIdRun)⟩ :=
  run_new_lifecycle Db.empty (by decide) 0 staleTrxIdRun true true staleTrxIdRun

end PostgresContentPlugin

end ActaBoards.PostgresContent
