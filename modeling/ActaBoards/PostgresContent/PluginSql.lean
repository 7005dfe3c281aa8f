import ActaBoards.PostgresContent.HandlerSql
import ActaBoards.PostgresContent.StoredRows

/-!
# The plugin as it runs: the handlers' texts through `execute_sql`

The handlers of `postgres_content_plugin_impl` do not hand PostgreSQL a statement: each builds
a text by concatenation and passes it to `execute_sql`, which runs it with `PQexec`. This module
is that node. `onOperationSql` is the body of `on_block`'s loop over the handlers' texts
(`HandlerSql`), and an `applied_block` signal sends a block's texts through `Db.runSqlText`,
which reads each one back and executes it against the declared schema; the other events are
`PostgresContentPlugin.step`'s.

**The node running the texts is the modelled node on payloads cut at NUL**
(`runSql_eq_run_cutNul`): from every plugin state, over every run of events, executing the texts
the handlers build ends exactly where `PostgresContentPlugin.run` ends on the same events with
each payload string cut at its first NUL, which is all of it `PQescapeLiteral` keeps. Three
layers meet in the proof:

* each handler's text is its statement's text (`onOperationSql_eq`);
* PostgreSQL reads a statement's text back as the statement, its strings cut at NUL
  (`Db.runSqlText_toSql`);
* cutting a statement's strings is cutting the payload it is built from, since printed ids,
  transaction ids and numbers hold no NUL (`onOperation_cutNul`).

So what is proved of `PostgresContentPlugin.run` holds of the node that runs the code's texts,
on the events with their payloads cut.

**What PostgreSQL refuses of a handler's text** (`handlersSql_accepted_iff`): a card's text is
accepted exactly when its key, its hash cut at NUL and its type cut at NUL each fit their
`VARCHAR` once trailing blanks past the limit are dropped, and a grant's exactly when its key
and its type do; the removes' texts are always accepted.
-/

namespace ActaBoards

open Postgres

/-! ### Payloads cut at NUL -/

/-- A card's texts, each cut at its first NUL. -/
def ContentCardOperation.cutNul (op : ContentCardOperation) : ContentCardOperation :=
  { op with
    hash := Postgres.cutNul op.hash, url := Postgres.cutNul op.url, type := Postgres.cutNul op.type
    description := Postgres.cutNul op.description, contentKey := Postgres.cutNul op.contentKey
    storageData := Postgres.cutNul op.storageData }

/-- A grant's texts, each cut at its first NUL. -/
def PermissionItem.cutNul (perm : PermissionItem) : PermissionItem :=
  { perm with
    permissionType := Postgres.cutNul perm.permissionType
    contentKey := Postgres.cutNul perm.contentKey }

def PermissionCreateOperation.cutNul (op : PermissionCreateOperation) : PermissionCreateOperation :=
  { op with
    permissionType := Postgres.cutNul op.permissionType
    contentKey := Postgres.cutNul op.contentKey }

def PermissionCreateManyOperation.cutNul (op : PermissionCreateManyOperation) :
    PermissionCreateManyOperation :=
  { op with permissions := op.permissions.map PermissionItem.cutNul }

/-- An operation with its payload's texts cut at NUL; a remove carries no text. -/
def Operation.cutNul : Operation → Operation
  | .contentCardCreate op => .contentCardCreate op.cutNul
  | .contentCardUpdate op => .contentCardUpdate op.cutNul
  | .permissionCreate op => .permissionCreate op.cutNul
  | .permissionCreateMany op => .permissionCreateMany op.cutNul
  | o => o

def OperationHistoryObject.cutNul (o : OperationHistoryObject) : OperationHistoryObject :=
  { o with op := o.op.cutNul }

def AppliedBlock.cutNul (ab : AppliedBlock) : AppliedBlock :=
  { ab with
    appliedOperations := ab.appliedOperations.map (Option.map OperationHistoryObject.cutNul) }

end ActaBoards

namespace ActaBoards.PostgresContent

open Postgres

/-! ### Printed ids, transaction ids and numbers hold no NUL -/

theorem nul_not_mem_repr (n : ℕ) : '\x00' ∉ (Nat.repr n).data := fun h ↦
  absurd (isDigit_of_mem_repr h) (by decide)

theorem nul_not_mem_toString (o : ObjectIdType) : '\x00' ∉ o.toString.data := by
  simp [ObjectIdType.toString_data, nul_not_mem_repr]

theorem digitChar_ne_nul {d : ℕ} (h : d < 16) : Nat.digitChar d ≠ '\x00' :=
  (by decide : ∀ d, d < 16 → Nat.digitChar d ≠ '\x00') d h

theorem nul_not_mem_toHex (bs : List UInt8) : '\x00' ∉ toHex bs := by
  induction bs with
  | nil => exact List.not_mem_nil _
  | cons b bs ih =>
    have hb := b.toNat_lt
    simp only [toHex, List.mem_cons, not_or]
    exact ⟨(digitChar_ne_nul (by omega)).symm, (digitChar_ne_nul (by omega)).symm, ih⟩

theorem nul_not_mem_trxIdOf (b : SignedBlock) (i : UInt16) : '\x00' ∉ (trxIdOf b i).data := by
  unfold trxIdOf
  split
  · exact nul_not_mem_toHex _
  · exact List.not_mem_nil _

theorem nul_not_mem_getObjectIdFromResult (r : OperationResult) :
    '\x00' ∉ (getObjectIdFromResult r).data := by
  cases r with
  | objectIdType id => exact nul_not_mem_toString id
  | _ => exact List.not_mem_nil _

theorem nul_not_mem_refObjectId (o : Option ObjectIdType) : '\x00' ∉ (refObjectId o).data := by
  cases o with
  | some o => exact nul_not_mem_toString o
  | none => exact List.not_mem_nil _

/-- A single create's key: the resolved id, or the placeholder of the transaction id. -/
theorem nul_not_mem_key {trxId objectId : String} (ht : '\x00' ∉ trxId.data)
    (ho : '\x00' ∉ objectId.data) :
    '\x00' ∉ (if objectId.isEmpty then "pending-" ++ trxId else objectId).data := by
  split
  · simp [String.data_append, ht]
  · exact ho

/-- The event with every applied operation's payload cut at NUL. -/
def Event.cutNul : Event → Event
  | .appliedBlock ab => .appliedBlock ab.cutNul
  | e => e

/-! ### Cutting a statement is cutting its payload -/

section Families

variable (blockNum blockTime : UInt32) {trxId : String} (htrx : '\x00' ∉ trxId.data)
include htrx

theorem contentCardUpsert_cutNul (operationType : ℕ) {onConflict : List (Column × Expr)}
    (hc : onConflict.map (fun cx ↦ (cx.1, cx.2.cutNul)) = onConflict) (op : ContentCardOperation)
    {objectId : String} (ho : '\x00' ∉ objectId.data) :
    (contentCardUpsert operationType onConflict op blockNum blockTime trxId objectId).cutNul =
      contentCardUpsert operationType onConflict op.cutNul blockNum blockTime trxId objectId := by
  simp only [contentCardUpsert, Statement.cutNul, List.map_cons, List.map_nil, Value.cutNul,
    blockTimeValue, hc, cutNul_eq_self (nul_not_mem_key htrx ho), cutNul_eq_self htrx,
    cutNul_eq_self (nul_not_mem_toString _)]
  rfl

theorem permissionUpsert_cutNul (operationType : ℕ) {permissionId : String}
    (hk : '\x00' ∉ permissionId.data) (subjectAccount : ObjectIdType) (perm : PermissionItem) :
    (permissionUpsert operationType permissionId subjectAccount perm blockNum blockTime
        trxId).cutNul =
      permissionUpsert operationType permissionId subjectAccount perm.cutNul blockNum blockTime
        trxId := by
  simp only [permissionUpsert, Statement.cutNul, List.map_cons, List.map_nil, Value.cutNul,
    blockTimeValue, cutNul_eq_self hk, cutNul_eq_self htrx, cutNul_eq_self (nul_not_mem_toString _),
    cutNul_eq_self (nul_not_mem_refObjectId _)]
  rfl

theorem createManyLoop_cutNul (op : PermissionCreateManyOperation) :
    ∀ (i : ℕ) (objs : List ObjectIdType) (perms : List PermissionItem),
      (createManyLoop op blockNum blockTime trxId i objs perms).map Statement.cutNul =
        createManyLoop op.cutNul blockNum blockTime trxId i objs (perms.map PermissionItem.cutNul)
  | _, [], [] | _, _ :: _, [] => rfl
  | i, o :: objs, perm :: perms => by
    rw [createManyLoop, List.map_cons, List.map_cons, createManyLoop,
      permissionUpsert_cutNul _ _ htrx _ (nul_not_mem_toString o), createManyLoop_cutNul]
    rfl
  | i, [], perm :: perms => by
    have hk : '\x00' ∉ ("pending-" ++ trxId ++ "-" ++ Nat.repr i).data := by
      simp [String.data_append, htrx, nul_not_mem_repr]
    rw [createManyLoop, List.map_cons, List.map_cons, createManyLoop,
      permissionUpsert_cutNul _ _ htrx _ hk, createManyLoop_cutNul]
    rfl

end Families

theorem markRemoved_cutNul (table : TableName) (operationType : ℕ) (id : ObjectIdType)
    (blockNum blockTime : UInt32) :
    (markRemoved table operationType id blockNum blockTime).cutNul =
      markRemoved table operationType id blockNum blockTime := by
  simp only [markRemoved, Statement.cutNul, cutNul_eq_self (nul_not_mem_toString _)]
  rfl

/-- **Cutting what a dispatched operation executes is cutting the operation's payload.** -/
theorem onOperation_cutNul (b : SignedBlock) (o : OperationHistoryObject) :
    (onOperation b o).map Statement.cutNul = onOperation b o.cutNul := by
  obtain ⟨op, result, trxInBlock⟩ := o
  have ht := nul_not_mem_trxIdOf b trxInBlock
  have ho := nul_not_mem_getObjectIdFromResult result
  cases op with
  | contentCardCreate op =>
    exact congrArg ([·]) (contentCardUpsert_cutNul _ _ ht 41 rfl op ho)
  | contentCardUpdate op =>
    exact congrArg ([·]) (contentCardUpsert_cutNul _ _ ht 42 rfl op ho)
  | contentCardRemove op => exact congrArg ([·]) (markRemoved_cutNul _ 43 _ _ _)
  | permissionCreate op =>
    exact congrArg ([·]) (permissionUpsert_cutNul _ _ ht 44 (nul_not_mem_key ht ho) _ _)
  | permissionRemove op => exact congrArg ([·]) (markRemoved_cutNul _ 45 _ _ _)
  | permissionCreateMany op => exact createManyLoop_cutNul _ _ ht op 0 _ op.permissions
  | other => rfl

/-! ### What PostgreSQL refuses of the handlers' texts -/

set_option maxRecDepth 2000 in
/-- **What PostgreSQL refuses of a handler's text.** For a transaction id of at most 64
characters, and a transaction id and key without NUL, the text of a content-card create or
update is refused exactly when its key, or the operation's hash or type cut at its first NUL, is
not taken by its `VARCHAR` column (it is longer, and past the column's length not all spaces); a
permission insert's, a create's or a bulk item's, exactly when its key or its permission type cut
at NUL is not; the removes' texts never are. The accounts, object ids, transaction id, block
numbers, times and codes always fit. -/
theorem handlersSql_accepted_iff :
    (∀ (db : Db) op n t trxId objectId, trxId.length ≤ 64 → '\x00' ∉ trxId.data →
      '\x00' ∉ objectId.data →
      ((db.executeSqlText createTables (handleContentCardCreateSql op n t trxId objectId)).1 =
          true ↔
        varcharAdmits 32 (if objectId.isEmpty then "pending-" ++ trxId else objectId) ∧
          varcharAdmits 256 (cutNul op.hash) ∧ varcharAdmits 64 (cutNul op.type))) ∧
    (∀ (db : Db) op n t trxId objectId, trxId.length ≤ 64 → '\x00' ∉ trxId.data →
      '\x00' ∉ objectId.data →
      ((db.executeSqlText createTables (handleContentCardUpdateSql op n t trxId objectId)).1 =
          true ↔
        varcharAdmits 32 (if objectId.isEmpty then "pending-" ++ trxId else objectId) ∧
          varcharAdmits 256 (cutNul op.hash) ∧ varcharAdmits 64 (cutNul op.type))) ∧
    (∀ (db : Db) c permissionId subjectAccount perm n t trxId, c < 2 ^ 15 → trxId.length ≤ 64 →
      '\x00' ∉ trxId.data → '\x00' ∉ permissionId.data →
      ((db.executeSqlText createTables
          (permissionUpsertSql c permissionId subjectAccount perm n t trxId)).1 = true ↔
        varcharAdmits 32 permissionId ∧ varcharAdmits 64 (cutNul perm.permissionType))) ∧
    (∀ (db : Db) op n t trxId,
      (db.executeSqlText createTables (handleContentCardRemoveSql op n t trxId)).1 = true) ∧
    (∀ (db : Db) op n t trxId,
      (db.executeSqlText createTables (handlePermissionRemoveSql op n t trxId)).1 = true) := by
  -- the bounds in the literal form `simp` leaves: `2 ^ 63` and `2 ^ 15`
  have hn (n : UInt32) : n.toNat < 9223372036854775808 := lt_of_lt_of_le n.toNat_lt_size (by decide)
  have hid (o : ObjectIdType) : varcharAdmits 32 o.toString = true :=
    varcharAdmits_of_length_le (by have := o.length_toString_le; omega)
  have href (o : Option ObjectIdType) : varcharAdmits 32 (refObjectId o) = true :=
    varcharAdmits_of_length_le (by have := refObjectId_length_le o; omega)
  refine ⟨fun db op n t trxId objectId hlen ht ho ↦ ?cardCreate,
    fun db op n t trxId objectId hlen ht ho ↦ ?cardUpdate,
    fun db c permissionId subjectAccount perm n t trxId (hc : c < 32768) hlen ht hk ↦ ?permission,
    fun db op n t trxId ↦ ?cardRemove, fun db op n t trxId ↦ ?permissionRemove⟩
  -- PostgreSQL reads each text back as its handler's statement, with its strings cut at NUL
  case' cardCreate =>
    rw [show handleContentCardCreateSql op n t trxId objectId =
        (handleContentCardCreate op n t trxId objectId).toSql from
        contentCardUpsertSql_eq n t trxId 41 (by decide) op objectId,
      Db.executeSqlText_toSql, handleContentCardCreate, contentCardUpsert_cutNul n t ht 41 rfl op ho]
  case' cardUpdate =>
    rw [show handleContentCardUpdateSql op n t trxId objectId =
        (handleContentCardUpdate op n t trxId objectId).toSql from
        contentCardUpsertSql_eq n t trxId 42 (by decide) op objectId,
      Db.executeSqlText_toSql, handleContentCardUpdate, contentCardUpsert_cutNul n t ht 42 rfl op ho]
  case' permission =>
    rw [permissionUpsertSql_eq, Db.executeSqlText_toSql, permissionUpsert_cutNul n t ht c hk]
  case' cardRemove =>
    rw [show handleContentCardRemoveSql op n t trxId = (handleContentCardRemove op n t trxId).toSql
        from markRemovedSql_eq n t .indexerContentCards 43 op.contentId,
      Db.executeSqlText_toSql, handleContentCardRemove, markRemoved_cutNul]
  case' permissionRemove =>
    rw [show handlePermissionRemoveSql op n t trxId = (handlePermissionRemove op n t trxId).toSql
        from markRemovedSql_eq n t .indexerPermissions 45 op.permissionId,
      Db.executeSqlText_toSql, handlePermissionRemove, markRemoved_cutNul]
  -- each column stores its value, a `VARCHAR` cutting the blanks past its length
  all_goals
    simp only [Db.executeSql_fst, Statement.accepted, Statement.coerce, Statement.fits,
      contentCardUpsert, permissionUpsert, markRemoved, createTables, Schema.coerce, Schema.admits,
      Value.coerce, ContentCardOperation.cutNul, PermissionItem.cutNul, blockTimeValue,
      List.map_cons, List.map_nil, List.all_cons, List.all_nil, fits_store_varchar,
      SqlType.store_text]
  -- and every other value fits as it stands
  case cardCreate | cardUpdate => simp [Value.fits, hn, hid, varcharAdmits_of_length_le hlen]
  case permission => simp [Value.fits, hn, hid, href, hc, varcharAdmits_of_length_le hlen]
  all_goals simp [Value.fits, hn]

/-- A card whose hash is 256 characters and two spaces. -/
def paddedCard : ContentCardOperation :=
  ⟨⟨0x0102000000000005⟩, ⟨List.replicate 256 'a' ++ [' ', ' ']⟩, "", "", "", "", ""⟩

set_option maxRecDepth 8000 in
/-- `handlersSql_accepted_iff` on a create of `paddedCard`: its 258-character hash is taken, cut
to 256 characters. -/
theorem paddedCard_accepted :
    ((Db.empty.executeSqlText createTables
        (handleContentCardCreateSql paddedCard 100 1000 trxOne.str "1.7.3")).1 = true ↔
      varcharAdmits 32 (if ("1.7.3" : String).isEmpty then "pending-" ++ trxOne.str else "1.7.3") ∧
        varcharAdmits 256 (cutNul paddedCard.hash) ∧ varcharAdmits 64 (cutNul paddedCard.type)) ∧
    paddedCard.hash.length = 258 ∧ varcharAdmits 256 (cutNul paddedCard.hash) = true :=
  ⟨handlersSql_accepted_iff.1 Db.empty paddedCard 100 1000 trxOne.str "1.7.3" (by decide)
    (by decide) (by decide), by decide, by decide⟩

/-! ### The node running the texts -/

/-- The body of `on_block`'s loop as the code runs it: the texts the operation's handler passes
to `execute_sql`, none for a kind the router does not handle. -/
def onOperationSql (b : SignedBlock) (o : OperationHistoryObject) : List String :=
  let trxId := trxIdOf b o.trxInBlock
  let createdObjectId := getObjectIdFromResult o.result
  match o.op with
  | .contentCardCreate op =>
    [handleContentCardCreateSql op b.blockNum b.timestamp trxId createdObjectId]
  | .contentCardUpdate op =>
    [handleContentCardUpdateSql op b.blockNum b.timestamp trxId createdObjectId]
  | .contentCardRemove op => [handleContentCardRemoveSql op b.blockNum b.timestamp trxId]
  | .permissionCreate op =>
    [handlePermissionCreateSql op b.blockNum b.timestamp trxId createdObjectId]
  | .permissionRemove op => [handlePermissionRemoveSql op b.blockNum b.timestamp trxId]
  | .permissionCreateMany op =>
    handlePermissionCreateManySql op b.blockNum b.timestamp trxId (newObjectsOf o.result)
  | .other .. => []

set_option maxRecDepth 2000 in
/-- **Each handler's text is its statement's text.** -/
theorem onOperationSql_eq (b : SignedBlock) (o : OperationHistoryObject) :
    onOperationSql b o = (onOperation b o).map Statement.toSql := by
  obtain ⟨op, result, trxInBlock⟩ := o
  cases op with
  | contentCardCreate op => exact congrArg ([·]) (contentCardUpsertSql_eq _ _ _ 41 (by decide) op _)
  | contentCardUpdate op => exact congrArg ([·]) (contentCardUpsertSql_eq _ _ _ 42 (by decide) op _)
  | contentCardRemove op =>
    exact congrArg ([·]) (markRemovedSql_eq _ _ .indexerContentCards 43 op.contentId)
  | permissionCreate op => exact congrArg ([·]) (permissionUpsertSql_eq _ _ _ 44 _ _ _)
  | permissionRemove op =>
    exact congrArg ([·]) (markRemovedSql_eq _ _ .indexerPermissions 45 op.permissionId)
  | permissionCreateMany op => exact createManyLoopSql_eq _ _ _ op 0 _ op.permissions
  | other => rfl

namespace PostgresContentPluginImpl

/-- `on_block` as the code runs it: the texts a block's projection executes, in order. -/
def onBlockSql (self : PostgresContentPluginImpl) (b : SignedBlock)
    (hist : List (Option OperationHistoryObject)) : List String :=
  if !self.pgConn then []
  else if b.blockNum < self.startBlock then []
  else hist.flatMap fun
    | none => []
    | some o => onOperationSql b o

variable (self : PostgresContentPluginImpl) (b : SignedBlock)
  (hist : List (Option OperationHistoryObject))

theorem onBlockSql_eq : self.onBlockSql b hist = (self.onBlock b hist).map Statement.toSql := by
  unfold onBlockSql onBlock
  split_ifs
  · rfl
  · rfl
  · rw [List.map_flatMap]
    congr 1
    funext o
    cases o with
    | none => rfl
    | some o => exact onOperationSql_eq b o

theorem onBlock_cutNul :
    (self.onBlock b hist).map Statement.cutNul =
      self.onBlock b (hist.map (Option.map OperationHistoryObject.cutNul)) := by
  unfold onBlock
  split_ifs
  · rfl
  · rfl
  · rw [List.map_flatMap, List.flatMap_map]
    congr 1
    funext o
    cases o with
    | none => rfl
    | some o => exact onOperation_cutNul b o

end PostgresContentPluginImpl

namespace PostgresContentPlugin

/-- One `applied_block` signal as the code runs it: each connection of `on_block` executes the
block's texts once, each through `execute_sql`. -/
def appliedBlockSql (p : PostgresContentPlugin) (ab : AppliedBlock) : PostgresContentPlugin :=
  { p with
    db := (fun db ↦ db.runSqlText createTables (p.my.onBlockSql ab.block ab.appliedOperations))^[
      p.appliedBlockHandlers] p.db }

/-- One event, a block's projection executing the texts. -/
def stepSql (p : PostgresContentPlugin) : Event → Except String PostgresContentPlugin
  | .appliedBlock ab => .ok (p.appliedBlockSql ab)
  | e => p.step e

/-- A run of events through `stepSql`; an exception ends it. -/
def runSql (p : PostgresContentPlugin) : List Event → Except String PostgresContentPlugin
  | [] => .ok p
  | e :: es => p.stepSql e >>= fun q ↦ q.runSql es

theorem appliedBlockSql_eq (p : PostgresContentPlugin) (ab : AppliedBlock) :
    p.appliedBlockSql ab = p.appliedBlock ab.cutNul := by
  have h : ∀ db : Db, db.runSqlText createTables (p.my.onBlockSql ab.block ab.appliedOperations) =
      db.runChecked createTables (p.my.onBlock ab.cutNul.block ab.cutNul.appliedOperations) :=
    fun db ↦ by rw [PostgresContentPluginImpl.onBlockSql_eq, Db.runSqlText_toSql,
      PostgresContentPluginImpl.onBlock_cutNul]; rfl
  simp only [appliedBlockSql, appliedBlock, h]

theorem stepSql_eq (p : PostgresContentPlugin) (e : Event) : p.stepSql e = p.step e.cutNul := by
  cases e with
  | appliedBlock ab => exact congrArg Except.ok (appliedBlockSql_eq p ab)
  | _ => rfl

/-- **The node running the handlers' texts is the modelled node on payloads cut at NUL.** From
every plugin state, over every run of events, executing the SQL texts the handlers build ends
where `run` ends on the same events with each applied operation's payload strings cut at their
first NUL: the same state and database, or the same exception. -/
theorem runSql_eq_run_cutNul (p : PostgresContentPlugin) (es : List Event) :
    p.runSql es = p.run (es.map Event.cutNul) := by
  induction es generalizing p with
  | nil => rfl
  | cons e es ih =>
    rw [runSql, stepSql_eq, List.map_cons, run_cons]
    exact congrArg (p.step e.cutNul >>= ·) (funext ih)

end PostgresContentPlugin

end ActaBoards.PostgresContent
