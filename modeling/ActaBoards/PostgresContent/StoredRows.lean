import ActaBoards.PostgresContent.Plugin

/-!
# What every run of the node leaves in the database

`create_tables` declares more than the column types `Db.runChecked` checks. The keys,
`subject_account`, a permission's `operator_account`, `block_num`, `block_time` and
`operation_type` are `NOT NULL`, and PostgreSQL would refuse a statement that left one of them
`NULL`; the key is `UNIQUE`, which a `Db`, a map from keys, keeps by construction. The sink does
not model the `NOT NULL` check, and this module shows that the plugin never meets it.

**Every row any run of the node leaves is one the DDL admits, under a key the plugin can
store** (`run_dbWf`): from a database holding only such rows, an empty one among them, after
every run of events each row has a key of at most 32 characters, every value fits its column's
declared type, no `NOT NULL` column is `NULL`, `operation_type` is one of the row's own table's
codes (41 to 43 for cards; 44, 45 and 64 for permissions), and `is_removed` holds a boolean,
never left to its default. The key is a printed object id, or the placeholder of an operation
outside every transaction of its block: a placeholder built from a transaction id is too long
for its column (`storedKey_of_accepted`), so the fallback keys never store a row for an
operation of a transaction. The layers:

* per handler statement: the row an insert creates and the patch a statement makes to an
  existing row, as the columns store them (`HandlerStatement.created_rowWf`,
  `HandlerStatement.patchWf`), from what fitting guarantees of any statement
  (`typed_of_created`, `typed_of_update`) and from each conflict clause agreeing with its own
  insert once stored (`HandlerStatement.coherent_coerce`), and the key of each insert of
  `on_block` (`key_cases`, which holds no space, so the sink keeps it);
* per statement through `execute_sql`, then per checked run (`DbWf.exec`, `DbWf.runChecked`);
* per event of the node, then per run (`DbWf.step`, `run_dbWf`).
-/

namespace ActaBoards.PostgresContent

open Postgres

/-! ### What the DDL admits -/

/-- The columns besides the key that `create_tables` declares `NOT NULL`. -/
def notNullColumns : TableName → List Column
  | .indexerContentCards => [.subjectAccount, .blockNum, .blockTime, .operationType]
  | .indexerPermissions =>
    [.subjectAccount, .operatorAccount, .blockNum, .blockTime, .operationType]

/-- The operation codes the handlers write into a table: a card's create, update and remove; a
permission's create, remove and bulk create. -/
def operationCodes : TableName → List ℕ
  | .indexerContentCards => [41, 42, 43]
  | .indexerPermissions => [44, 45, 64]

/-- A row of table `t` that the DDL admits, as the table's handlers write it. -/
structure RowWf (t : TableName) (r : Row) : Prop where
  /-- Every value fits its column's declared type; a column the table does not declare is
  `NULL`. -/
  typed : ∀ c, r c = .null ∨ (createTables t).admits c (r c) = true
  /-- No `NOT NULL` column is `NULL`. -/
  notNull : ∀ c ∈ notNullColumns t, r c ≠ .null
  /-- `operation_type` is one of the table's codes. -/
  operationType : ∃ n ∈ operationCodes t, r .operationType = .int n
  /-- `is_removed` holds a boolean. -/
  isRemoved : ∃ b, r .isRemoved = .bool b

/-- A key the plugin can store: a printed object id, or the placeholder of an operation outside
every transaction of its block, `pending-` for a single create and `pending--<i>` for the `i`-th
item of a bulk grant. -/
def StoredKey (k : String) : Prop :=
  (∃ x : ObjectIdType, k = x.toString) ∨ k = "pending-" ∨ ∃ i : ℕ, k = "pending--" ++ Nat.repr i

/-- Every row of the database is keyed within its `VARCHAR(32)` column, by an object id or by
the placeholder of an operation outside every transaction, and is admitted by the DDL. -/
def DbWf (db : Db) : Prop :=
  ∀ t k r, db t k = some r → k.length ≤ 32 ∧ StoredKey k ∧ RowWf t r

theorem dbWf_empty : DbWf Db.empty := fun _ _ _ h ↦ Option.noConfusion h

/-- A patch that keeps the rows of `t` admitted: it writes no `NULL`, only values that fit their
columns, a code of the table into `operation_type` and a boolean into `is_removed`. -/
structure PatchWf (t : TableName) (p : Patch) : Prop where
  typed : ∀ c v, p c = some v → v ≠ .null ∧ (createTables t).admits c v = true
  operationType : ∀ v, p .operationType = some v → ∃ n ∈ operationCodes t, v = .int n
  isRemoved : ∀ v, p .isRemoved = some v → ∃ b, v = .bool b

theorem RowWf.patch {t : TableName} {r : Row} {p : Patch} (hr : RowWf t r) (hp : PatchWf t p) :
    RowWf t (r.patch p) where
  typed c := by
    cases hc : p c with
    | none => simpa [hc] using hr.typed c
    | some v => exact .inr (by simpa [hc] using (hp.typed c v hc).2)
  notNull c hc := by
    cases hpc : p c with
    | none => simpa [hpc] using hr.notNull c hc
    | some v => simpa [hpc] using (hp.typed c v hpc).1
  operationType := by
    cases hpc : p .operationType with
    | none => simpa [hpc] using hr.operationType
    | some v =>
      obtain ⟨n, hn, rfl⟩ := hp.operationType v hpc
      exact ⟨n, hn, by simp [hpc]⟩
  isRemoved := by
    cases hpc : p .isRemoved with
    | none => simpa [hpc] using hr.isRemoved
    | some v =>
      obtain ⟨b, rfl⟩ := hp.isRemoved v hpc
      exact ⟨b, by simp [hpc]⟩

/-! ### What acceptance guarantees of any statement -/

theorem mem_of_lookup_eq_some {α : Type} {l : List (Column × α)} {c : Column} {a : α}
    (h : l.lookup c = some a) : (c, a) ∈ l := by
  obtain ⟨_, _, rfl, -⟩ := List.lookup_eq_some_iff.1 h
  exact List.mem_append_right _ (List.mem_cons_self _ _)

/-- A coherent insert's conflict clause writes the values the insert proposes. -/
theorem patch_eq_of_coherent {s : Statement} (hc : s.Coherent) {r : Row} (hr : s.created = some r)
    {c : Column} {v : Value} (hp : s.patch c = some v) : v = r c := by
  simpa [hp] using congrFun (hc r hr) c

section Fits

variable {s : Statement} (ha : s.fits createTables = true)
include ha

/-- An insert that fits has a key that fits the `VARCHAR(32)` key column. -/
theorem key_length_of_fits (hi : s.isInsert = true) : s.key.length ≤ 32 := by
  cases s with
  | insert t k values set =>
    simp only [Statement.fits, Bool.and_eq_true] at ha
    cases t <;> simpa [createTables, Value.fits, Statement.key] using ha.1.1
  | update => cases hi

/-- The row an insert that fits creates holds only values that fit their columns. -/
theorem typed_of_created {r : Row} (hr : s.created = some r) (c : Column) :
    r c = .null ∨ (createTables s.table).admits c (r c) = true := by
  cases s with
  | insert t k values set =>
    simp only [Statement.created, Option.some.injEq] at hr
    subst hr
    simp only [Statement.fits, Bool.and_eq_true, List.all_eq_true] at ha
    cases hl : values.lookup c with
    | none => exact .inl (by simp [Row.ofValues, hl])
    | some v => exact .inr (by simpa [Row.ofValues, hl] using ha.1.2 _ (mem_of_lookup_eq_some hl))
  | update => cases hr

/-- An update that fits sets only values that fit their columns. -/
theorem typed_of_update (hi : s.isInsert = false) {c : Column} {v : Value}
    (hp : s.patch c = some v) : (createTables s.table).admits c v = true := by
  cases s with
  | insert => cases hi
  | update t k set =>
    simp only [Statement.fits, List.all_eq_true] at ha
    exact ha _ (mem_of_lookup_eq_some hp)

end Fits

/-! ### What the handlers write -/

namespace HandlerStatement

variable {s : Statement} {r : Row}

/-- No handler statement assigns `NULL`. -/
theorem patch_ne_null (h : HandlerStatement s) (c : Column) : s.patch c ≠ some .null := by
  cases h <;> cases c <;> nofun

/-- An insert sets every `NOT NULL` column of the row it creates. -/
theorem created_notNull (h : HandlerStatement s) (hr : s.created = some r) :
    ∀ c ∈ notNullColumns s.table, r c ≠ .null := by
  cases h <;> cases hr <;> intro c hc <;> cases c <;>
    first | exact absurd hc (of_decide_eq_false rfl) | exact fun h ↦ Value.noConfusion h

/-- An insert writes one of its table's codes. -/
theorem created_operationType (h : HandlerStatement s) (hr : s.created = some r) :
    ∃ n ∈ operationCodes s.table, r .operationType = .int n := by
  cases h <;> cases hr <;> refine ⟨_, ?_, rfl⟩ <;> exact of_decide_eq_true rfl

/-- A statement writes one of its table's codes into `operation_type`, if anything. -/
theorem patch_operationType (h : HandlerStatement s) :
    ∀ v, s.patch .operationType = some v → ∃ n ∈ operationCodes s.table, v = .int n := by
  cases h <;> intro v hv <;> cases hv <;> refine ⟨_, ?_, rfl⟩ <;> exact of_decide_eq_true rfl

section Accepted

variable (ha : s.accepted createTables = true)
include ha

/-- The row an accepted handler insert creates, as the columns store it, is admitted. -/
theorem created_rowWf (h : HandlerStatement s) (hr : s.created = some r) :
    RowWf s.table ((createTables s.table).coerceRow r) where
  typed := by
    simpa using typed_of_created (s := s.coerce createTables) ha
      (by rw [Statement.created_coerce, hr]; rfl)
  notNull c hc := (createTables s.table).coerce_ne_null c (h.created_notNull hr c hc)
  operationType := by
    obtain ⟨n, hn, he⟩ := h.created_operationType hr
    exact ⟨n, hn, by simp [Schema.coerceRow, he]⟩
  isRemoved := ⟨false, by simp [Schema.coerceRow, h.created_isRemoved hr]⟩

/-- What an accepted handler statement does to an existing row, as the columns store it, keeps
the row admitted. -/
theorem patchWf (h : HandlerStatement s) :
    PatchWf s.table ((createTables s.table).coercePatch s.patch) where
  typed c v hp := by
    obtain ⟨v₀, hv₀, rfl⟩ := Option.map_eq_some'.1 hp
    have hv := (createTables s.table).coerce_ne_null c fun e ↦ h.patch_ne_null c (e ▸ hv₀)
    refine ⟨hv, ?_⟩
    have hp' : (s.coerce createTables).patch c = some ((createTables s.table).coerce c v₀) := by
      rw [h.patch_coerce]; exact hp
    cases hi : s.isInsert
    · simpa using typed_of_update ha (by rwa [Statement.isInsert_coerce]) hp'
    · obtain ⟨r, hr⟩ := Option.isSome_iff_exists.1
        ((Statement.created_isSome_iff (s := s.coerce createTables)).2
          (by rwa [Statement.isInsert_coerce]))
      have hvr := patch_eq_of_coherent (h.coherent_coerce createTables) hr hp'
      rcases typed_of_created ha hr c with hn | hadm
      · exact absurd (hvr.trans hn) hv
      · simpa [hvr] using hadm
  operationType v hp := by
    obtain ⟨v₀, hv₀, rfl⟩ := Option.map_eq_some'.1 hp
    obtain ⟨n, hn, rfl⟩ := h.patch_operationType v₀ hv₀
    exact ⟨n, hn, Schema.coerce_int _ _ _⟩
  isRemoved v hp := by
    obtain ⟨v₀, hv₀, rfl⟩ := Option.map_eq_some'.1 hp
    rw [h.patch_isRemoved] at hv₀
    split at hv₀
    · cases hv₀
    · cases hv₀
      exact ⟨true, Schema.coerce_bool _ _ _⟩

end Accepted

end HandlerStatement

/-! ### The keys of the inserts -/

/-- **An accepted insert is keyed by an object id, or by the placeholder of an operation outside
every transaction**: inside one, the transaction id makes the placeholder at least 48 characters
long, and PostgreSQL refuses it. -/
theorem storedKey_of_accepted {b : SignedBlock} {o : OperationHistoryObject} {s : Statement}
    (hs : s ∈ onOperation b o) (hins : s.isInsert = true) (ha : s.accepted createTables = true) :
    StoredKey s.key := by
  have hlen : s.key.length ≤ 32 := by
    have := key_length_of_fits (s := s.coerce createTables) ha (by rwa [Statement.isInsert_coerce])
    rwa [Statement.key_coerce (space_not_mem_key hs)] at this
  have h8 : "pending-".length = 8 := rfl
  have h1 : "-".length = 1 := rfl
  rcases key_cases hs with hx | hk | ⟨i, hk⟩
  · exact .inl hx
  all_goals rcases trxIdOf_length b o.trxInBlock with h40 | h0
  · simp only [hk, String.length_append, h8, h40] at hlen
    omega
  · exact .inr (.inl (by rw [hk, h0, String.append_empty]))
  · simp only [hk, String.length_append, h8, h1, h40] at hlen
    omega
  · exact .inr (.inr ⟨i, by rw [hk, h0, String.append_empty]; rfl⟩)

theorem storedKey_of_mem_onBlock {self : PostgresContentPluginImpl} {ab : AppliedBlock}
    {s : Statement} (hs : s ∈ self.onBlock ab.block ab.appliedOperations)
    (ha : s.accepted createTables = true) (hins : s.isInsert = true) : StoredKey s.key :=
  let ⟨_, _, _, hs⟩ := PostgresContentPluginImpl.exists_dispatched_of_mem_statements
    (PostgresContentPlugin.mem_statements_of_mem_onBlock hs)
  storedKey_of_accepted hs hins ha

/-! ### Over every run -/

/-- An accepted handler statement, keyed without a space and whose insert is keyed as the plugin
keys, keeps every row admitted through the sink. -/
theorem DbWf.exec {db : Db} (hdb : DbWf db) {s : Statement} (h : HandlerStatement s)
    (hsp : ' ' ∉ s.key.data) (hk : s.isInsert = true → StoredKey s.key)
    (ha : s.accepted createTables = true) : DbWf (db.exec (s.coerce createTables)) := by
  intro t k r hr
  rw [Db.exec_apply] at hr
  split_ifs at hr with hts
  · obtain ⟨rfl, rfl⟩ := Statement.targets_eq_true.1 hts
    rw [Statement.table_coerce, Statement.key_coerce hsp] at hr ⊢
    cases hx : db s.table s.key with
    | none =>
      rw [hx, Statement.apply_none, Statement.created_coerce] at hr
      obtain ⟨r₀, hr₀, rfl⟩ := Option.map_eq_some'.1 hr
      have hi : s.isInsert = true := Statement.created_isSome_iff.1 (by rw [hr₀]; rfl)
      have hlen := key_length_of_fits (s := s.coerce createTables) ha (by rwa [Statement.isInsert_coerce])
      rw [Statement.key_coerce hsp] at hlen
      exact ⟨hlen, hk hi, h.created_rowWf ha hr₀⟩
    | some r₀ =>
      rw [hx, Statement.apply_some, Option.some.injEq, h.patch_coerce] at hr
      subst hr
      obtain ⟨hlen, hkey, hrow⟩ := hdb _ _ _ hx
      exact ⟨hlen, hkey, hrow.patch (h.patchWf ha)⟩
  · exact hdb t k r hr

/-- A run through `execute_sql` of such statements keeps every row admitted. -/
theorem DbWf.runChecked {db : Db} (hdb : DbWf db) {ss : List Statement}
    (hss : ∀ s ∈ ss, HandlerStatement s ∧ ' ' ∉ s.key.data ∧
      (s.accepted createTables = true → s.isInsert = true → StoredKey s.key)) :
    DbWf (db.runChecked createTables ss) := by
  induction ss generalizing db with
  | nil => exact hdb
  | cons s ss ih =>
    refine ih ?_ fun s' hs' ↦ hss s' (List.mem_cons_of_mem _ hs')
    show DbWf (db.executeSql createTables s).2
    unfold Db.executeSql
    split
    · obtain ⟨h, hsp, hk⟩ := hss s (List.mem_cons_self _ _)
      exact hdb.exec h hsp (hk ‹_›) ‹_›
    · exact hdb

theorem DbWf.appliedBlock {p : PostgresContentPlugin} (hp : DbWf p.db) (ab : AppliedBlock) :
    DbWf (p.appliedBlock ab).db :=
  Function.Iterate.rec DbWf (fun _ hdb ↦ hdb.runChecked fun _ hs ↦
    ⟨PostgresContentPlugin.handlerStatement_of_mem_onBlock hs,
      space_not_mem_key_of_mem_statements (PostgresContentPlugin.mem_statements_of_mem_onBlock hs),
      storedKey_of_mem_onBlock hs⟩)
    hp _

theorem DbWf.step {p q : PostgresContentPlugin} (hp : DbWf p.db) {e : Event}
    (h : p.step e = .ok q) : DbWf q.db := by
  rcases PostgresContentPlugin.db_of_step_eq_ok h with hq | ⟨ab, -, rfl⟩
  · exact hq ▸ hp
  · exact hp.appliedBlock ab

/-- **Every row a run of the node leaves is one the DDL admits, under a key the plugin can
store.** From a database whose rows are such, an empty one among them, whatever events the node
delivers, every row of the database the run ends with has a key of at most 32 characters that
is a printed object id or the placeholder of an operation outside every transaction, values that
fit their columns' declared types, every `NOT NULL` column set, an `operation_type` among its own
table's codes, and a boolean in `is_removed`: no statement of the plugin ever meets a `NOT NULL`
constraint. -/
theorem run_dbWf {p q : PostgresContentPlugin} (hp : DbWf p.db) {es : List Event}
    (h : p.run es = .ok q) : DbWf q.db :=
  PostgresContentPlugin.run_invariant (I := fun p ↦ DbWf p.db) (fun hp h ↦ hp.step h) hp h

/-- `run_dbWf` from an empty database over the life of a node that applies `staleTrxIdRun`. -/
theorem staleTrxIdRun_dbWf :
    (PostgresContentPlugin.new Db.empty).run (.pluginInitialize ⟨some "dbname=content", 0⟩ ::
        .pluginStartup true true :: staleTrxIdRun.map .appliedBlock) =
      .ok (staleTrxIdRun.foldl PostgresContentPlugin.appliedBlock
        PostgresContentPlugin.startedPlugin) ∧
    DbWf (staleTrxIdRun.foldl PostgresContentPlugin.appliedBlock
      PostgresContentPlugin.startedPlugin).db := by
  have hrun : (PostgresContentPlugin.new Db.empty).run
      (.pluginInitialize ⟨some "dbname=content", 0⟩ :: .pluginStartup true true ::
        staleTrxIdRun.map .appliedBlock) =
      .ok (staleTrxIdRun.foldl PostgresContentPlugin.appliedBlock
        PostgresContentPlugin.startedPlugin) := rfl
  exact ⟨hrun, run_dbWf (p := PostgresContentPlugin.new Db.empty) dbWf_empty hrun⟩

end ActaBoards.PostgresContent
