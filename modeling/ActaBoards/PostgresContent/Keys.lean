import Mathlib.Data.List.Nodup
import ActaBoards.PostgresContent.Lifecycle

/-!
# Row keys of the creates

Which key a create's row gets, by the result its path reads (`onOperation_keys`). A bulk
grant's keys never repeat (`bulkPermissionId_injective`): ids print injectively, a printed id
never starts like a placeholder, and the placeholders differ in their index. What becomes of
those keys in the tables, where `indexer_permissions.permission_id` is `VARCHAR(32)`, is in
`CreateTables`.
-/

namespace ActaBoards.PostgresContent

open Postgres

/-! ### Bulk grants -/

/-- Placeholders of one transaction differ in their index. -/
theorem pending_index_injective (trxId : String) :
    Function.Injective fun i : ℕ ↦ "pending-" ++ trxId ++ "-" ++ Nat.repr i := fun i j h ↦ by
  have := congrArg String.data h
  simp only [String.data_append, List.append_assoc, List.append_cancel_left_eq] at this
  exact repr_injective (String.ext this)

/-- **Bulk keys never repeat**, for any resolved ids without repeats and any transaction id. -/
theorem bulkPermissionId_injective (trxId : String) {newObjects : List ObjectIdType}
    (hnd : newObjects.Nodup) : Function.Injective (bulkPermissionId trxId newObjects) := by
  intro i j h
  unfold bulkPermissionId at h
  split_ifs at h with hi hj hj
  · exact (hnd.getElem_inj_iff).1 (ObjectIdType.toString_injective h)
  · exact absurd h (by rw [String.append_assoc, String.append_assoc]; exact ObjectIdType.toString_ne_pending _ _)
  · exact absurd h.symm (by rw [String.append_assoc, String.append_assoc]; exact ObjectIdType.toString_ne_pending _ _)
  · exact pending_index_injective trxId h

/-- The keys a bulk grant writes, in order. -/
theorem map_key_handlePermissionCreateMany (op : PermissionCreateManyOperation) (n t : UInt32)
    (trxId : String) (newObjects : FlatSet) :
    (handlePermissionCreateMany op n t trxId newObjects).map Statement.key =
      (List.range op.permissions.length).map (bulkPermissionId trxId newObjects.elems) := by
  rw [handlePermissionCreateMany_eq_mapIdx]
  exact List.ext_getElem (by simp) fun i _ _ ↦ by simp [permissionUpsert, Statement.key]

/-! ### Which result each path reads -/

/-- **Each write's key, by the result its path reads.** A content-card create, the update and
a permission create are keyed by an `object_id_type` result and by `pending-<trx_id>` for any
other result, a generic one included; bulk item `i` is keyed by the `i`-th of a generic
result's new ids and by `pending-<trx_id>-<i>` otherwise, an `object_id_type` result included;
a remove is keyed by the id it removes. -/
theorem onOperation_keys (b : SignedBlock) (o : OperationHistoryObject) :
    (onOperation b o).map Statement.key =
      match o.op with
      | .contentCardCreate _ | .contentCardUpdate _ | .permissionCreate _ =>
        [singleKey (trxIdOf b o.trxInBlock) o.result]
      | .contentCardRemove op => [op.contentId.toString]
      | .permissionRemove op => [op.permissionId.toString]
      | .permissionCreateMany op =>
        (List.range op.permissions.length).map
          (bulkPermissionId (trxIdOf b o.trxInBlock) (newObjectsOf o.result).elems)
      | .other .. => [] := by
  obtain ⟨op, result, trxInBlock⟩ := o
  cases op <;>
    simp only [onOperation, List.map_cons, List.map_nil, map_key_handlePermissionCreateMany,
      handleContentCardCreate, handleContentCardUpdate, handlePermissionCreate, contentCardUpsert,
      permissionUpsert, handleContentCardRemove, handlePermissionRemove, markRemoved, Statement.key,
      contentCardId_eq_singleKey]

/-- The Object-Result Resolver as the spec describes it: the single id, a generic result's new
ids in their order, nothing otherwise. -/
def specResolve : OperationResult → List ObjectIdType
  | .objectIdType x => [x]
  | .genericOperationResult newObjects => newObjects.elems
  | _ => []

/-- A card created with a generic result naming `1.7.3`, and a one-item grant whose result is
the single id `1.8.1`, both in `trxOne`. -/
def genericCardCreate : OperationHistoryObject :=
  ⟨.contentCardCreate cardOne, .genericOperationResult ⟨[⟨0x0107000000000003⟩], List.pairwise_singleton _ _⟩, 0⟩
def singleIdGrant : OperationHistoryObject :=
  ⟨.permissionCreateMany ⟨⟨0x0102000000000005⟩, [⟨⟨0x0102000000000006⟩, "read", none, "k"⟩]⟩,
    .objectIdType ⟨0x0108000000000001⟩, 0⟩

/-- Each path ignores the result the other reads: the spec's resolver finds an id for both
operations, yet both are written under placeholders. -/
theorem specResolve_counterexample :
    specResolve genericCardCreate.result = [⟨0x0107000000000003⟩] ∧
    (onOperation ⟨100, 1000, [trxOne]⟩ genericCardCreate).map Statement.key =
      ["pending-" ++ trxOne.str] ∧
    specResolve singleIdGrant.result = [⟨0x0108000000000001⟩] ∧
    (onOperation ⟨100, 1000, [trxOne]⟩ singleIdGrant).map Statement.key =
      ["pending-" ++ trxOne.str ++ "-0"] := by
  refine ⟨rfl, ?_, rfl, ?_⟩ <;> decide

end ActaBoards.PostgresContent
