import ActaBoards.PostgresContent.Handlers

/-!
# The block projector

`on_block` runs on every `applied_block` event. With no live connection, or below
`_start_block`, it returns at once; otherwise it walks the block's applied operations in
order, skips empty entries, resolves each operation's transaction id and created object id,
and dispatches on the operation's discriminant to at most one handler, skipping every other
kind. Nothing it computes depends on the database, so a block's projection is the list of
statements `onBlock` returns, executed in order; a run over many blocks is `project`, the
blocks' projections one after the other (`project_eq_run`).

Two id resolutions are made, and they differ: `getObjectIdFromResult` reads only a single
`object_id_type` result (for the single creates and the update), while the bulk branch reads
only a `generic_operation_result`'s `new_objects`.

`HandlerStatement` is all a run can execute (`handlerStatement_of_mem_statements`), so every
law of the store is proved from the six handlers' shapes. Every key a run writes is a printed
id, `pending-<trx_id>` or `pending-<trx_id>-<i>` (`key_cases`), so none holds a blank
(`space_not_mem_key_of_mem_statements`) and PostgreSQL's blank truncation never touches one.
-/

namespace ActaBoards.PostgresContent

open Postgres

/-- The state of `postgres_content_plugin_impl` that `on_block` reads. -/
structure PostgresContentPluginImpl where
  /-- `pg_conn` is a live connection. -/
  pgConn : Bool
  /-- `_start_block`: blocks below it are not projected. -/
  startBlock : UInt32

/-- `get_object_id_from_result`: the id of an `object_id_type` result (`which() == 1`), and the
empty string for every other variant. -/
def getObjectIdFromResult : OperationResult → String
  | .objectIdType id => id.toString
  | _ => ""

/-- The transaction id of an operation: the `trx_in_block`-th transaction's, or empty when the
index is out of range. -/
def trxIdOf (b : SignedBlock) (trxInBlock : UInt16) : String :=
  if h : trxInBlock.toNat < b.transactions.length then b.transactions[trxInBlock.toNat].str else ""

/-- The empty `flat_set`. -/
def FlatSet.empty : FlatSet := ⟨[], List.Pairwise.nil⟩

/-- The bulk branch's `new_objects`: a generic result's (`which() == 3`), empty otherwise. -/
def newObjectsOf : OperationResult → FlatSet
  | .genericOperationResult newObjects => newObjects
  | _ => FlatSet.empty

/-- The body of `on_block`'s loop for one applied operation: the statements its handler
executes, none for a kind the router does not handle. -/
def onOperation (b : SignedBlock) (o : OperationHistoryObject) : List Statement :=
  let trxId := trxIdOf b o.trxInBlock
  let createdObjectId := getObjectIdFromResult o.result
  match o.op with
  | .contentCardCreate op => [handleContentCardCreate op b.blockNum b.timestamp trxId createdObjectId]
  | .contentCardUpdate op => [handleContentCardUpdate op b.blockNum b.timestamp trxId createdObjectId]
  | .contentCardRemove op => [handleContentCardRemove op b.blockNum b.timestamp trxId]
  | .permissionCreate op =>
    [handlePermissionCreate op b.blockNum b.timestamp trxId createdObjectId]
  | .permissionRemove op => [handlePermissionRemove op b.blockNum b.timestamp trxId]
  | .permissionCreateMany op =>
    handlePermissionCreateMany op b.blockNum b.timestamp trxId (newObjectsOf o.result)
  | .other .. => []

namespace PostgresContentPluginImpl

/-- `on_block`: the statements a block's projection executes, in order. -/
def onBlock (self : PostgresContentPluginImpl) (b : SignedBlock)
    (hist : List (Option OperationHistoryObject)) : List Statement :=
  if !self.pgConn then []
  else if b.blockNum < self.startBlock then []
  else hist.flatMap fun
    | none => []
    | some o => onOperation b o

/-- The statements a run over blocks executes. -/
def statements (self : PostgresContentPluginImpl) (w : List AppliedBlock) : List Statement :=
  w.flatMap fun ab ↦ self.onBlock ab.block ab.appliedOperations

/-- Project blocks one after the other onto a database, every statement taking effect. -/
def project (self : PostgresContentPluginImpl) (w : List AppliedBlock) (db : Db) : Db :=
  w.foldl (fun db ab ↦ db.run (self.onBlock ab.block ab.appliedOperations)) db

theorem project_eq_run (self : PostgresContentPluginImpl) (w : List AppliedBlock) (db : Db) :
    self.project w db = db.run (self.statements w) := by
  induction w generalizing db with
  | nil => rfl
  | cons ab w ih =>
    simp only [project, statements, List.foldl_cons, List.flatMap_cons] at ih ⊢
    rw [ih, Db.run_append]

theorem statements_append (self : PostgresContentPluginImpl) (u v : List AppliedBlock) :
    self.statements (u ++ v) = self.statements u ++ self.statements v :=
  List.flatMap_append _ _ _

/-! ### What a run can execute -/

/-- An applied operation that `on_block` dispatches during a run: it is in a block the plugin
projects. -/
def Dispatched (self : PostgresContentPluginImpl) (w : List AppliedBlock) (b : SignedBlock)
    (o : OperationHistoryObject) : Prop :=
  ∃ ab ∈ w, ab.block = b ∧ self.pgConn = true ∧ self.startBlock ≤ b.blockNum ∧
    some o ∈ ab.appliedOperations

/-- Every statement of a run comes from one dispatched operation. -/
theorem exists_dispatched_of_mem_statements {self : PostgresContentPluginImpl}
    {w : List AppliedBlock} {s : Statement} (h : s ∈ self.statements w) :
    ∃ b o, self.Dispatched w b o ∧ s ∈ onOperation b o := by
  obtain ⟨ab, hab, hs⟩ := List.mem_flatMap.1 h
  simp only [onBlock] at hs
  split_ifs at hs with hc hlt
  · simp at hs
  · simp at hs
  · obtain ⟨o?, ho, hs⟩ := List.mem_flatMap.1 hs
    cases o? with
    | none => simp at hs
    | some o =>
      exact ⟨ab.block, o, ⟨ab, hab, rfl, by simpa using hc, UInt32.not_lt.1 hlt, ho⟩, hs⟩

end PostgresContentPluginImpl

theorem mem_createManyLoop {op : PermissionCreateManyOperation} {n t : UInt32} {trxId : String}
    {i : ℕ} {objs : List ObjectIdType} {perms : List PermissionItem} {s : Statement}
    (h : s ∈ createManyLoop op n t trxId i objs perms) :
    ∃ permissionId, ∃ perm ∈ perms, s = permissionUpsert 64 permissionId op.subjectAccount perm n t trxId := by
  induction perms generalizing i objs with
  | nil => simp [createManyLoop] at h
  | cons perm perms ih =>
    cases objs with
    | nil =>
      rcases List.mem_cons.1 h with rfl | h
      · exact ⟨_, perm, List.mem_cons_self _ _, rfl⟩
      · obtain ⟨k, p, hp, rfl⟩ := ih h
        exact ⟨k, p, List.mem_cons_of_mem _ hp, rfl⟩
    | cons o objs =>
      rcases List.mem_cons.1 h with rfl | h
      · exact ⟨_, perm, List.mem_cons_self _ _, rfl⟩
      · obtain ⟨k, p, hp, rfl⟩ := ih h
        exact ⟨k, p, List.mem_cons_of_mem _ hp, rfl⟩

/-! ### Which key each write gets -/

/-- The key of a single create's row, and of the update's: the id of an `object_id_type` result,
`pending-<trx_id>` for every other result. -/
def singleKey (trxId : String) : OperationResult → String
  | .objectIdType x => x.toString
  | _ => "pending-" ++ trxId

/-- The key the card handlers and `handle_permission_create` compute from the resolved id is
`singleKey`. -/
theorem contentCardId_eq_singleKey (trxId : String) (r : OperationResult) :
    (if (getObjectIdFromResult r).isEmpty then "pending-" ++ trxId else getObjectIdFromResult r) =
      singleKey trxId r := by
  cases r <;> simp [getObjectIdFromResult, singleKey, ObjectIdType.toString_isEmpty,
    show ("" : String).isEmpty = true from rfl]

/-- The key of the `i`-th item of a bulk grant whose result resolved `newObjects`. -/
def bulkPermissionId (trxId : String) (newObjects : List ObjectIdType) (i : ℕ) : String :=
  if h : i < newObjects.length then newObjects[i].toString else "pending-" ++ trxId ++ "-" ++ Nat.repr i

example : (List.range 3).map (bulkPermissionId "T" [⟨0x0108000000000001⟩]) =
    ["1.8.1", "pending-T-1", "pending-T-2"] := by decide

/-- The loop, from item `i` with the iterator `i` ids in, is the closed form. -/
theorem createManyLoop_drop (op : PermissionCreateManyOperation) (n t : UInt32) (trxId : String)
    (newObjects : List ObjectIdType) (perms : List PermissionItem) (i : ℕ) :
    createManyLoop op n t trxId i (newObjects.drop i) perms =
      perms.mapIdx fun j perm ↦
        permissionUpsert 64 (bulkPermissionId trxId newObjects (i + j)) op.subjectAccount perm n t trxId := by
  induction perms generalizing i with
  | nil => cases newObjects.drop i <;> rfl
  | cons perm perms ih =>
    rw [List.mapIdx_cons]
    by_cases hi : i < newObjects.length
    · rw [List.drop_eq_getElem_cons hi, createManyLoop, ih]
      simp only [bulkPermissionId, Nat.add_zero, dif_pos hi, Nat.add_right_comm _ 1, ← Nat.add_assoc]
    · have hd : ∀ m, i ≤ m → newObjects.drop m = [] := fun m hm ↦ List.drop_eq_nil_of_le (by omega)
      rw [hd i le_rfl, createManyLoop, ← hd (i + 1) (by omega), ih]
      simp only [bulkPermissionId, Nat.add_zero, dif_neg hi, Nat.add_right_comm _ 1, ← Nat.add_assoc]

/-- **The bulk loop in closed form**: item `i` is written with key `bulkPermissionId`. -/
theorem handlePermissionCreateMany_eq_mapIdx (op : PermissionCreateManyOperation) (n t : UInt32)
    (trxId : String) (newObjects : FlatSet) :
    handlePermissionCreateMany op n t trxId newObjects =
      op.permissions.mapIdx fun i perm ↦
        permissionUpsert 64 (bulkPermissionId trxId newObjects.elems i) op.subjectAccount perm n t trxId := by
  simpa using createManyLoop_drop op n t trxId newObjects.elems op.permissions 0

/-- What a statement of `on_block` is keyed by: a printed object id (a resolved id, or the id a
remove names), the placeholder of its transaction id, or that placeholder and a bulk item's
index. -/
theorem key_cases {b : SignedBlock} {o : OperationHistoryObject} {s : Statement}
    (hs : s ∈ onOperation b o) :
    (∃ x : ObjectIdType, s.key = x.toString) ∨ s.key = "pending-" ++ trxIdOf b o.trxInBlock ∨
      ∃ i : ℕ, s.key = "pending-" ++ trxIdOf b o.trxInBlock ++ "-" ++ Nat.repr i := by
  obtain ⟨op, result, trxInBlock⟩ := o
  cases op <;> simp only [onOperation, List.mem_singleton, List.not_mem_nil] at hs
  case permissionCreateMany op =>
    rw [handlePermissionCreateMany_eq_mapIdx] at hs
    obtain ⟨i, -, rfl⟩ := List.mem_mapIdx.1 hs
    unfold bulkPermissionId
    split
    · exact .inl ⟨_, rfl⟩
    · exact .inr (.inr ⟨i, rfl⟩)
  case contentCardRemove op | permissionRemove op => subst hs; exact .inl ⟨_, rfl⟩
  all_goals
    subst hs
    simp only [handleContentCardCreate, handleContentCardUpdate, handlePermissionCreate,
      contentCardUpsert, permissionUpsert, Statement.key, contentCardId_eq_singleKey]
    cases result with
    | objectIdType x => exact .inl ⟨x, rfl⟩
    | _ => exact .inr (.inl rfl)

theorem idChar_of_mem_trxIdOf {b : SignedBlock} {i : UInt16} {c : Char}
    (h : c ∈ (trxIdOf b i).data) : IdChar c := by
  unfold trxIdOf at h
  split at h
  · exact idChar_of_mem_toHex h
  · cases h

/-- **Every key `on_block` writes is made of id characters**, so it holds no space (and no NUL):
`PQescapeLiteral` keeps it whole and a `VARCHAR` column stores it as it is. -/
theorem idChar_of_mem_key {b : SignedBlock} {o : OperationHistoryObject} {s : Statement}
    (hs : s ∈ onOperation b o) {c : Char} (hc : c ∈ s.key.data) : IdChar c := by
  have hp : ∀ c ∈ "pending-".data, IdChar c := by decide
  rcases key_cases hs with ⟨x, hk⟩ | hk | ⟨i, hk⟩ <;> rw [hk] at hc
  · exact ObjectIdType.idChar_of_mem_toString hc
  · rcases List.mem_append.1 hc with hc | hc
    exacts [hp c hc, idChar_of_mem_trxIdOf hc]
  · simp only [String.data_append, List.mem_append] at hc
    rcases hc with ((hc | hc) | hc) | hc
    exacts [hp c hc, idChar_of_mem_trxIdOf hc, by simp_all, idChar_of_mem_repr hc]

theorem space_not_mem_key {b : SignedBlock} {o : OperationHistoryObject} {s : Statement}
    (hs : s ∈ onOperation b o) : ' ' ∉ s.key.data := fun h ↦
  absurd (idChar_of_mem_key hs h) (by decide)

theorem handlerStatement_of_mem_onOperation {b : SignedBlock} {o : OperationHistoryObject}
    {s : Statement} (h : s ∈ onOperation b o) : HandlerStatement s := by
  obtain ⟨op, result, trxInBlock⟩ := o
  cases op <;> simp only [onOperation, List.mem_singleton, List.not_mem_nil] at h
  all_goals first
    | (subst h; constructor)
    | (obtain ⟨_, _, -, rfl⟩ := mem_createManyLoop h; constructor)

/-- **A run executes only handler statements.** -/
theorem handlerStatement_of_mem_statements {self : PostgresContentPluginImpl}
    {w : List AppliedBlock} {s : Statement} (h : s ∈ self.statements w) : HandlerStatement s :=
  let ⟨_, _, _, hs⟩ := PostgresContentPluginImpl.exists_dispatched_of_mem_statements h
  handlerStatement_of_mem_onOperation hs

/-- The keys of a run hold no space. -/
theorem space_not_mem_key_of_mem_statements {self : PostgresContentPluginImpl}
    {w : List AppliedBlock} {s : Statement} (h : s ∈ self.statements w) : ' ' ∉ s.key.data :=
  let ⟨_, _, _, hs⟩ := PostgresContentPluginImpl.exists_dispatched_of_mem_statements h
  space_not_mem_key hs

end ActaBoards.PostgresContent
