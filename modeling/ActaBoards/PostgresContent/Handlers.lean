import ActaBoards.Chain.Block
import ActaBoards.Postgres.Schema

/-!
# The six entity handlers

Each handler of `postgres_content_plugin_impl` builds one SQL statement (the bulk handler one
per item) and executes it; here a handler returns the statement it builds, and what the
statement does to the database is `Statement.apply`. Log lines and the success flag of
`execute_sql` change nothing the plugin later reads, and are not modelled.

The handlers come in three families, each one definition with parameters:

* `contentCardUpsert`: `handle_content_card_create` and `handle_content_card_update` insert
  the same row, differing in the operation code (41, 42) and in the conflict clause — the
  update's also refreshes `block_num`, `block_time` and `operation_type`;
* `permissionUpsert`: `handle_permission_create` and each item of
  `handle_permission_create_many` (codes 44, 64), with one conflict clause;
* `markRemoved`: the two removes (codes 43, 45), an `UPDATE` of the row the removed object's
  id names. Both receive the transaction id and do not use it.

A row key the result does not supply is the placeholder `pending-<trx_id>`, and the `i`-th
bulk item's is `pending-<trx_id>-<i>`. The bulk loop walks the resolved ids with an iterator
beside the item index; `createManyLoop` keeps both as explicit state.
-/

namespace ActaBoards.PostgresContent

open Postgres

/-- The `to_timestamp` cell of a block time. -/
def blockTimeValue (blockTime : UInt32) : Value := .timestamp blockTime.toNat

/-! ### Content cards -/

/-- The content-card insert shared by `handle_content_card_create` and
`handle_content_card_update`: the full row, keyed by the resolved object id or by
`pending-<trx_id>`. -/
def contentCardUpsert (operationType : ℕ) (onConflict : List (Column × Expr))
    (op : ContentCardOperation) (blockNum blockTime : UInt32) (trxId objectId : String) :
    Statement :=
  let subjectAccount := op.subjectAccount.toString
  let contentCardId := if objectId.isEmpty then "pending-" ++ trxId else objectId
  .insert .indexerContentCards contentCardId
    [(.subjectAccount, .text subjectAccount), (.hash, .text op.hash), (.url, .text op.url),
      (.type, .text op.type), (.description, .text op.description),
      (.contentKey, .text op.contentKey), (.storageData, .text op.storageData),
      (.blockNum, .int blockNum.toNat), (.blockTime, blockTimeValue blockTime),
      (.trxId, .text trxId), (.operationType, .int operationType), (.isRemoved, .bool false)]
    onConflict

/-- `handle_content_card_create`: on conflict, only the card's mutable fields. -/
def handleContentCardCreate (op : ContentCardOperation) (blockNum blockTime : UInt32)
    (trxId objectId : String) : Statement :=
  contentCardUpsert 41
    [(.hash, .excluded .hash), (.url, .excluded .url), (.type, .excluded .type),
      (.description, .excluded .description), (.contentKey, .excluded .contentKey),
      (.storageData, .excluded .storageData)]
    op blockNum blockTime trxId objectId

/-- `handle_content_card_update`: on conflict, the mutable fields, `block_num`, `block_time`
and `operation_type = 42`. -/
def handleContentCardUpdate (op : ContentCardOperation) (blockNum blockTime : UInt32)
    (trxId objectId : String) : Statement :=
  contentCardUpsert 42
    [(.hash, .excluded .hash), (.url, .excluded .url), (.type, .excluded .type),
      (.description, .excluded .description), (.contentKey, .excluded .contentKey),
      (.storageData, .excluded .storageData), (.blockNum, .excluded .blockNum),
      (.blockTime, .excluded .blockTime), (.operationType, .lit (.int 42))]
    op blockNum blockTime trxId objectId

/-! ### Removes -/

/-- The soft delete shared by the two removes: flag the row and refresh its block number, block
time and operation code, if the row exists. -/
def markRemoved (table : TableName) (operationType : ℕ) (id : ObjectIdType)
    (blockNum blockTime : UInt32) : Statement :=
  .update table id.toString
    [(.isRemoved, .bool true), (.blockNum, .int blockNum.toNat),
      (.blockTime, blockTimeValue blockTime), (.operationType, .int operationType)]

/-- `handle_content_card_remove`. -/
def handleContentCardRemove (op : ContentCardRemoveOperation) (blockNum blockTime : UInt32)
    (_trxId : String) : Statement :=
  markRemoved .indexerContentCards 43 op.contentId blockNum blockTime

/-- `handle_permission_remove`. -/
def handlePermissionRemove (op : PermissionRemoveOperation) (blockNum blockTime : UInt32)
    (_trxId : String) : Statement :=
  markRemoved .indexerPermissions 45 op.permissionId blockNum blockTime

/-! ### Permissions -/

/-- `ref_object_id`: the referenced object's id, or the empty string. -/
def refObjectId : Option ObjectIdType → String
  | some o => o.toString
  | none => ""

/-- The permission insert shared by `handle_permission_create` and each bulk item: on
conflict, only the permission type and the content key. -/
def permissionUpsert (operationType : ℕ) (permissionId : String) (subjectAccount : ObjectIdType)
    (perm : PermissionItem) (blockNum blockTime : UInt32) (trxId : String) : Statement :=
  .insert .indexerPermissions permissionId
    [(.subjectAccount, .text subjectAccount.toString),
      (.operatorAccount, .text perm.operatorAccount.toString),
      (.permissionType, .text perm.permissionType), (.objectId, .text (refObjectId perm.objectId)),
      (.contentKey, .text perm.contentKey), (.blockNum, .int blockNum.toNat),
      (.blockTime, blockTimeValue blockTime), (.trxId, .text trxId),
      (.operationType, .int operationType), (.isRemoved, .bool false)]
    [(.permissionType, .excluded .permissionType), (.contentKey, .excluded .contentKey)]

/-- `handle_permission_create`. -/
def handlePermissionCreate (op : PermissionCreateOperation) (blockNum blockTime : UInt32)
    (trxId newObjectId : String) : Statement :=
  permissionUpsert 44 (if newObjectId.isEmpty then "pending-" ++ trxId else newObjectId)
    op.subjectAccount ⟨op.operatorAccount, op.permissionType, op.objectId, op.contentKey⟩
    blockNum blockTime trxId

/-- The loop of `handle_permission_create_many` from item `i` on, `objs` being what the
iterator `obj_it` has still to visit: the next resolved id while one is left, the placeholder
`pending-<trx_id>-<i>` after. -/
def createManyLoop (op : PermissionCreateManyOperation) (blockNum blockTime : UInt32)
    (trxId : String) : ℕ → List ObjectIdType → List PermissionItem → List Statement
  | _, _, [] => []
  | i, o :: objs, perm :: perms =>
    permissionUpsert 64 o.toString op.subjectAccount perm blockNum blockTime trxId ::
      createManyLoop op blockNum blockTime trxId (i + 1) objs perms
  | i, [], perm :: perms =>
    permissionUpsert 64 ("pending-" ++ trxId ++ "-" ++ Nat.repr i) op.subjectAccount perm
        blockNum blockTime trxId ::
      createManyLoop op blockNum blockTime trxId (i + 1) [] perms

/-- `handle_permission_create_many`: one insert per item, in array order. -/
def handlePermissionCreateMany (op : PermissionCreateManyOperation) (blockNum blockTime : UInt32)
    (trxId : String) (newObjects : FlatSet) : List Statement :=
  createManyLoop op blockNum blockTime trxId 0 newObjects.elems op.permissions

end ActaBoards.PostgresContent

namespace ActaBoards.PostgresContent

open Postgres

/-! ### What every handler statement does to a row -/

/-- The statements the handlers build, one constructor per handler (a bulk grant's by item). -/
inductive HandlerStatement : Statement → Prop
  | contentCardCreate (op : ContentCardOperation) (n t : UInt32) (trxId objectId : String) :
      HandlerStatement (handleContentCardCreate op n t trxId objectId)
  | contentCardUpdate (op : ContentCardOperation) (n t : UInt32) (trxId objectId : String) :
      HandlerStatement (handleContentCardUpdate op n t trxId objectId)
  | contentCardRemove (op : ContentCardRemoveOperation) (n t : UInt32) (trxId : String) :
      HandlerStatement (handleContentCardRemove op n t trxId)
  | permissionCreate (op : PermissionCreateOperation) (n t : UInt32) (trxId newObjectId : String) :
      HandlerStatement (handlePermissionCreate op n t trxId newObjectId)
  | permissionCreateMany (permissionId : String) (subjectAccount : ObjectIdType)
      (perm : PermissionItem) (n t : UInt32) (trxId : String) :
      HandlerStatement (permissionUpsert 64 permissionId subjectAccount perm n t trxId)
  | permissionRemove (op : PermissionRemoveOperation) (n t : UInt32) (trxId : String) :
      HandlerStatement (handlePermissionRemove op n t trxId)

/-- The columns an insert into a table rewrites on conflict: a card's mutable fields, a
permission's type and content key. -/
def payloadColumns : TableName → List Column
  | .indexerContentCards => [.hash, .url, .type, .description, .contentKey, .storageData]
  | .indexerPermissions => [.permissionType, .contentKey]

/-- The columns of a row that only the insert creating it sets. -/
def identityColumns : TableName → List Column
  | .indexerContentCards => [.subjectAccount]
  | .indexerPermissions => [.subjectAccount, .operatorAccount, .objectId]

namespace HandlerStatement

variable {s : Statement} {r : Row} {c : Column}

/-- **Every conflict clause agrees with its own insert**: re-applying it to the proposed row
changes nothing (for the update, `operation_type = 42` is the code the row proposes). -/
theorem coherent (h : HandlerStatement s) : s.Coherent := fun r hr ↦ by
  cases h <;> cases hr <;> exact funext fun c ↦ by cases c <;> rfl

/-- Through the sink, a statement assigns an existing row what it assigns as written, each value
as its column stores it: a conflict clause assigns `EXCLUDED.c` only to `c`. -/
theorem patch_coerce (h : HandlerStatement s) (schema : TableName → Schema) :
    (s.coerce schema).patch = (schema s.table).coercePatch s.patch := by
  cases h <;> funext c <;> cases c <;> rfl

/-- The conflict clauses agree with their inserts through the sink as well. -/
theorem coherent_coerce (h : HandlerStatement s) (schema : TableName → Schema) :
    (s.coerce schema).Coherent := fun r hr ↦ by
  rw [Statement.created_coerce] at hr
  obtain ⟨r₀, hr₀, rfl⟩ := Option.map_eq_some'.1 hr
  rw [h.patch_coerce, Schema.coerceRow_patch, h.coherent r₀ hr₀]

/-- No statement rewrites the `trx_id` of an existing row. -/
theorem patch_trxId (h : HandlerStatement s) : s.patch .trxId = none := by
  cases h <;> rfl

/-- Inserts create rows that are not removed ... -/
theorem created_isRemoved (h : HandlerStatement s) (hr : s.created = some r) :
    r .isRemoved = .bool false := by
  cases h <;> cases hr <;> rfl

/-- ... and never touch the flag of an existing row, which every remove sets. -/
theorem patch_isRemoved (h : HandlerStatement s) :
    s.patch .isRemoved = if s.isInsert then none else some (.bool true) := by
  cases h <;> rfl

end HandlerStatement

end ActaBoards.PostgresContent
