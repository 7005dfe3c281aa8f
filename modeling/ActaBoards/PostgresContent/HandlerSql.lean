import ActaBoards.Postgres.Sql
import ActaBoards.PostgresContent.Handlers

/-!
# The SQL text each handler builds

The handlers of `postgres_content_plugin_impl` build their SQL by concatenation, and this module
transcribes that text, piece by piece as the source writes it, in the same three families as
the handlers (`contentCardUpsertSql`, `permissionUpsertSql`, `markRemovedSql`). The bulk loop
of `handle_permission_create_many` builds one text per item, with the same iterator and index
as `createManyLoop`.

**Each text is the text of the statement the handler is modelled by** (`handlers_sql`). With
`parseStatement_toSql`, PostgreSQL executes exactly the handler's modelled statement, each string
cut at its first NUL; so the statements as data, on which every other result of the
development is proved, are what the database runs.
-/

namespace ActaBoards.PostgresContent

open Postgres

/-! ### Content cards -/

/-- The text of `handle_content_card_create` and `handle_content_card_update`, which differ in
the operation code they write and in their conflict clause. -/
def contentCardUpsertSql (operationType : ℕ) (onConflict : String) (op : ContentCardOperation)
    (blockNum blockTime : UInt32) (trxId objectId : String) : String :=
  let subjectAccount := op.subjectAccount.toString
  let contentCardId := if objectId.isEmpty then "pending-" ++ trxId else objectId
  "INSERT INTO indexer_content_cards " ++
    "(content_card_id, subject_account, hash, url, type, description, content_key, storage_data, " ++
    "block_num, block_time, trx_id, operation_type, is_removed) VALUES (" ++
    escapeLiteral contentCardId ++ ", " ++
    escapeLiteral subjectAccount ++ ", " ++
    escapeLiteral op.hash ++ ", " ++
    escapeLiteral op.url ++ ", " ++
    escapeLiteral op.type ++ ", " ++
    escapeLiteral op.description ++ ", " ++
    escapeLiteral op.contentKey ++ ", " ++
    escapeLiteral op.storageData ++ ", " ++
    Nat.repr blockNum.toNat ++ ", " ++
    "to_timestamp(" ++ Nat.repr blockTime.toNat ++ "), " ++
    escapeLiteral trxId ++ ", " ++
    Nat.repr operationType ++ ", FALSE) " ++
    "ON CONFLICT (content_card_id) DO UPDATE SET " ++
    onConflict

/-- The text of `handle_content_card_create`. -/
def handleContentCardCreateSql (op : ContentCardOperation) (blockNum blockTime : UInt32)
    (trxId objectId : String) : String :=
  contentCardUpsertSql 41
    ("hash = EXCLUDED.hash, url = EXCLUDED.url, type = EXCLUDED.type, " ++
      "description = EXCLUDED.description, content_key = EXCLUDED.content_key, " ++
      "storage_data = EXCLUDED.storage_data")
    op blockNum blockTime trxId objectId

/-- The text of `handle_content_card_update`. -/
def handleContentCardUpdateSql (op : ContentCardOperation) (blockNum blockTime : UInt32)
    (trxId objectId : String) : String :=
  contentCardUpsertSql 42
    ("hash = EXCLUDED.hash, url = EXCLUDED.url, type = EXCLUDED.type, " ++
      "description = EXCLUDED.description, content_key = EXCLUDED.content_key, " ++
      "storage_data = EXCLUDED.storage_data, block_num = EXCLUDED.block_num, " ++
      "block_time = EXCLUDED.block_time, operation_type = 42")
    op blockNum blockTime trxId objectId

/-! ### Removes -/

/-- The text of the two removes: the table, its key column and the operation code are the
family's parameters. -/
def markRemovedSql (table keyColumn : String) (operationType : ℕ) (id : ObjectIdType)
    (blockNum blockTime : UInt32) : String :=
  "UPDATE " ++ table ++ " SET " ++
    "is_removed = TRUE, " ++
    "block_num = " ++ Nat.repr blockNum.toNat ++ ", " ++
    "block_time = to_timestamp(" ++ Nat.repr blockTime.toNat ++ "), " ++
    "operation_type = " ++ Nat.repr operationType ++ " " ++
    "WHERE " ++ keyColumn ++ " = " ++ escapeLiteral id.toString

/-- The text of `handle_content_card_remove`. -/
def handleContentCardRemoveSql (op : ContentCardRemoveOperation) (blockNum blockTime : UInt32)
    (_trxId : String) : String :=
  markRemovedSql "indexer_content_cards" "content_card_id" 43 op.contentId blockNum blockTime

/-- The text of `handle_permission_remove`. -/
def handlePermissionRemoveSql (op : PermissionRemoveOperation) (blockNum blockTime : UInt32)
    (_trxId : String) : String :=
  markRemovedSql "indexer_permissions" "permission_id" 45 op.permissionId blockNum blockTime

/-! ### Permissions -/

/-- The text of `handle_permission_create` and of each item of
`handle_permission_create_many`, which differ in the operation code. -/
def permissionUpsertSql (operationType : ℕ) (permissionId : String) (subjectAccount : ObjectIdType)
    (perm : PermissionItem) (blockNum blockTime : UInt32) (trxId : String) : String :=
  "INSERT INTO indexer_permissions " ++
    "(permission_id, subject_account, operator_account, permission_type, object_id, content_key, " ++
    "block_num, block_time, trx_id, operation_type, is_removed) VALUES (" ++
    escapeLiteral permissionId ++ ", " ++
    escapeLiteral subjectAccount.toString ++ ", " ++
    escapeLiteral perm.operatorAccount.toString ++ ", " ++
    escapeLiteral perm.permissionType ++ ", " ++
    escapeLiteral (refObjectId perm.objectId) ++ ", " ++
    escapeLiteral perm.contentKey ++ ", " ++
    Nat.repr blockNum.toNat ++ ", " ++
    "to_timestamp(" ++ Nat.repr blockTime.toNat ++ "), " ++
    escapeLiteral trxId ++ ", " ++
    Nat.repr operationType ++ ", FALSE) " ++
    "ON CONFLICT (permission_id) DO UPDATE SET " ++
    "permission_type = EXCLUDED.permission_type, content_key = EXCLUDED.content_key"

/-- The text of `handle_permission_create`. -/
def handlePermissionCreateSql (op : PermissionCreateOperation) (blockNum blockTime : UInt32)
    (trxId newObjectId : String) : String :=
  permissionUpsertSql 44 (if newObjectId.isEmpty then "pending-" ++ trxId else newObjectId)
    op.subjectAccount ⟨op.operatorAccount, op.permissionType, op.objectId, op.contentKey⟩
    blockNum blockTime trxId

/-- The texts of the loop of `handle_permission_create_many` from item `i` on, `objs` being
what `obj_it` has still to visit. -/
def createManyLoopSql (op : PermissionCreateManyOperation) (blockNum blockTime : UInt32)
    (trxId : String) : ℕ → List ObjectIdType → List PermissionItem → List String
  | _, _, [] => []
  | i, o :: objs, perm :: perms =>
    permissionUpsertSql 64 o.toString op.subjectAccount perm blockNum blockTime trxId ::
      createManyLoopSql op blockNum blockTime trxId (i + 1) objs perms
  | i, [], perm :: perms =>
    permissionUpsertSql 64 ("pending-" ++ trxId ++ "-" ++ Nat.repr i) op.subjectAccount perm
        blockNum blockTime trxId ::
      createManyLoopSql op blockNum blockTime trxId (i + 1) [] perms

/-- The texts of `handle_permission_create_many`, in array order. -/
def handlePermissionCreateManySql (op : PermissionCreateManyOperation)
    (blockNum blockTime : UInt32) (trxId : String) (newObjects : FlatSet) : List String :=
  createManyLoopSql op blockNum blockTime trxId 0 newObjects.elems op.permissions

/-! ### The texts are the statements' texts -/

section Families

variable (blockNum blockTime : UInt32) (trxId : String)

set_option maxRecDepth 2000 in
/-- The content-card text is its statement's text, given the statement's conflict clause as
text. -/
theorem contentCardUpsertSql_eq (operationType : ℕ) {onConflictSql : String}
    {onConflict : List (Column × Expr)}
    (h : onConflictSql = commaSep (assignSql Expr.toSql) onConflict)
    (op : ContentCardOperation) (objectId : String) :
    contentCardUpsertSql operationType onConflictSql op blockNum blockTime trxId objectId =
      (contentCardUpsert operationType onConflict op blockNum blockTime trxId objectId).toSql := by
  subst h
  simp -proj only [String.ext_iff, contentCardUpsertSql, contentCardUpsert, Statement.toSql, rowSql,
    onConflictSql, tailSql, Value.toSql, blockTimeValue, TableName.sqlName, TableName.keyColumn,
    Column.sqlName, String.data_append, List.append_assoc, String.append_empty, Bool.false_eq_true,
    ite_false]
  rfl

set_option maxRecDepth 2000 in
theorem permissionUpsertSql_eq (operationType : ℕ) (permissionId : String)
    (subjectAccount : ObjectIdType) (perm : PermissionItem) :
    permissionUpsertSql operationType permissionId subjectAccount perm blockNum blockTime trxId =
      (permissionUpsert operationType permissionId subjectAccount perm blockNum blockTime
        trxId).toSql := by
  simp -proj only [String.ext_iff, permissionUpsertSql, permissionUpsert, Statement.toSql, rowSql,
    onConflictSql, tailSql, commaSep, assignSql, Expr.toSql, Value.toSql, blockTimeValue,
    TableName.sqlName, TableName.keyColumn, Column.sqlName, String.data_append, List.append_assoc,
    String.append_empty, Bool.false_eq_true, ite_false]
  rfl

set_option maxRecDepth 2000 in
theorem markRemovedSql_eq (table : TableName) (operationType : ℕ) (id : ObjectIdType) :
    markRemovedSql table.sqlName table.keyColumn operationType id blockNum blockTime =
      (markRemoved table operationType id blockNum blockTime).toSql := by
  simp -proj only [String.ext_iff, markRemovedSql, markRemoved, Statement.toSql, commaSep, tailSql,
    assignSql, Value.toSql, blockTimeValue, Column.sqlName, String.data_append, List.append_assoc,
    String.append_empty, ite_true]
  rfl

theorem createManyLoopSql_eq (op : PermissionCreateManyOperation) :
    ∀ (i : ℕ) (objs : List ObjectIdType) (perms : List PermissionItem),
      createManyLoopSql op blockNum blockTime trxId i objs perms =
        (createManyLoop op blockNum blockTime trxId i objs perms).map Statement.toSql
  | _, [], [] | _, _ :: _, [] => rfl
  | i, o :: objs, perm :: perms => by
    rw [createManyLoopSql, createManyLoop, List.map_cons, ← permissionUpsertSql_eq,
      createManyLoopSql_eq]
  | i, [], perm :: perms => by
    rw [createManyLoopSql, createManyLoop, List.map_cons, ← permissionUpsertSql_eq,
      createManyLoopSql_eq]

end Families

example : handleContentCardRemoveSql ⟨⟨0x0102000000000005⟩⟩ 100 0 "" =
    "UPDATE indexer_content_cards SET is_removed = TRUE, block_num = 100, " ++
      "block_time = to_timestamp(0), operation_type = 43 WHERE content_card_id = '1.2.5'" := rfl

end ActaBoards.PostgresContent
