import ActaBoards.Chain.ObjectId

/-!
# Blocks and applied operations, as the plugin reads them

`on_block` reads a finalized block's number, timestamp and transaction ids, and the chain
database's list of applied operations, each an optional `operation_history_object` carrying
the operation, its result and the index of its transaction in the block. The payload types
live in headers the sources do not include (`content_card.hpp`, `permission.hpp`, the
`operation` and `operation_result` variants); each is modelled by the fields the handlers read,
under the names the handlers use.

* `Operation` has one constructor for each kind the router dispatches, and one, `other`, for
  every other discriminant; `other` carries the proof that its discriminant is not one the
  router handles, so no operation can claim the number of a handled kind without being it.
* `OperationResult` keeps the four variants the source's comment lists, and `other` for the
  rest. An asset result's amount is never read and is not modelled.
* A transaction id is a twenty-byte digest printed as forty hexadecimal digits
  (`TransactionIdType.length_str`).
-/

namespace ActaBoards

/-! ### Transaction ids -/

/-- Two lowercase hexadecimal digits per byte, high nibble first. -/
def toHex : List UInt8 → List Char
  | [] => []
  | b :: bs => Nat.digitChar (b.toNat / 16) :: Nat.digitChar (b.toNat % 16) :: toHex bs

theorem length_toHex (bs : List UInt8) : (toHex bs).length = 2 * bs.length := by
  induction bs with
  | nil => rfl
  | cons b bs ih => simp only [toHex, List.length_cons, ih]; omega

theorem idChar_of_mem_toHex {bs : List UInt8} {c : Char} (h : c ∈ toHex bs) : IdChar c := by
  have hd : ∀ d < 16, IdChar (Nat.digitChar d) := by decide
  induction bs with
  | nil => cases h
  | cons b bs ih =>
    have hb := b.toNat_lt
    rcases List.mem_cons.1 h with rfl | h
    · exact hd _ (by omega)
    rcases List.mem_cons.1 h with rfl | h
    · exact hd _ (by omega)
    exact ih h

/-- Modelled from the spec: the transaction id, `transaction_id_type`, a `ripemd160` digest of
twenty bytes (the sources only print it). -/
structure TransactionIdType where
  /-- The digest. -/
  bytes : List UInt8
  /-- A `ripemd160` digest is 160 bits. -/
  length_bytes : bytes.length = 20

/-- `id().str()`: the digest in hexadecimal. -/
def TransactionIdType.str (t : TransactionIdType) : String := ⟨toHex t.bytes⟩

theorem TransactionIdType.length_str (t : TransactionIdType) : t.str.length = 40 := by
  simp [str, String.length, length_toHex, t.length_bytes]

/-! ### Blocks -/

/-- The parts of a `signed_block` that `on_block` reads. -/
structure SignedBlock where
  /-- `block_num()`. -/
  blockNum : UInt32
  /-- `timestamp.sec_since_epoch()`. -/
  timestamp : UInt32
  /-- The block's transactions, each by its id, the only part of one that `on_block` reads. -/
  transactions : List TransactionIdType

/-! ### Operation payloads -/

/-- Modelled from the spec: the fields of `content_card_create_operation` and
`content_card_update_operation` that the two handlers read, which are the spec's content-card
attributes. The subject account is kept as the `object_id_type` the handlers convert it to. -/
structure ContentCardOperation where
  subjectAccount : ObjectIdType
  hash : String
  url : String
  type : String
  description : String
  contentKey : String
  storageData : String

/-- Modelled from the spec: `content_card_remove_operation`, by the card it removes. -/
structure ContentCardRemoveOperation where
  contentId : ObjectIdType

/-- Modelled from the spec: the fields of `permission_create_operation` that its handler reads:
a grant from a subject account to an operator account over an optional referenced object. -/
structure PermissionCreateOperation where
  subjectAccount : ObjectIdType
  operatorAccount : ObjectIdType
  permissionType : String
  objectId : Option ObjectIdType
  contentKey : String

/-- Modelled from the spec: one element of `permission_create_many_operation::permissions`. -/
structure PermissionItem where
  operatorAccount : ObjectIdType
  permissionType : String
  objectId : Option ObjectIdType
  contentKey : String

/-- Modelled from the spec: `permission_create_many_operation`, one subject granting a batch. -/
structure PermissionCreateManyOperation where
  subjectAccount : ObjectIdType
  permissions : List PermissionItem

/-- Modelled from the spec: `permission_remove_operation`, by the permission it removes. -/
structure PermissionRemoveOperation where
  permissionId : ObjectIdType

/-! ### The `operation` and `operation_result` variants -/

/-- The discriminants the router dispatches on:
`41=create_cc, 42=update_cc, 43=remove_cc, 44=create_perm, 45=remove_perm`, and 64 for a bulk grant. -/
def handledKinds : List ℕ := [41, 42, 43, 44, 45, 64]

/-- An applied operation, by its kind. -/
inductive Operation
  | contentCardCreate (op : ContentCardOperation)
  | contentCardUpdate (op : ContentCardOperation)
  | contentCardRemove (op : ContentCardRemoveOperation)
  | permissionCreate (op : PermissionCreateOperation)
  | permissionRemove (op : PermissionRemoveOperation)
  | permissionCreateMany (op : PermissionCreateManyOperation)
  /-- Any other kind, by its discriminant; its payload is never read. -/
  | other (which : ℕ) (unhandled : which ∉ handledKinds)

/-- `op.which()`, the variant's discriminant. -/
def Operation.which : Operation → ℕ
  | contentCardCreate _ => 41
  | contentCardUpdate _ => 42
  | contentCardRemove _ => 43
  | permissionCreate _ => 44
  | permissionRemove _ => 45
  | permissionCreateMany _ => 64
  | other w _ => w

/-- The result of executing an operation. -/
inductive OperationResult
  | voidResult
  | objectIdType (id : ObjectIdType)
  | asset
  | genericOperationResult (newObjects : FlatSet)
  /-- Any later variant, by its discriminant. -/
  | other (which : ℕ) (later : 4 ≤ which)

/-- `result.which()`. -/
def OperationResult.which : OperationResult → ℕ
  | voidResult => 0
  | objectIdType _ => 1
  | asset => 2
  | genericOperationResult _ => 3
  | other w _ => w

/-- The parts of an `operation_history_object` that `on_block` reads. -/
structure OperationHistoryObject where
  op : Operation
  result : OperationResult
  /-- The index of the operation's transaction in its block. -/
  trxInBlock : UInt16

/-- An `applied_block` event: the block, and the database's `get_applied_operations()` for it,
in apply order; an entry may be empty. -/
structure AppliedBlock where
  block : SignedBlock
  appliedOperations : List (Option OperationHistoryObject)

end ActaBoards
