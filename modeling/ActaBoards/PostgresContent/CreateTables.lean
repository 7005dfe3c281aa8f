import ActaBoards.Postgres.Schema
import ActaBoards.PostgresContent.Keys

/-!
# The schema `create_tables` declares, against the rows the handlers write

`create_tables` declares both keys `VARCHAR(32)`, as well as `subject_account`,
`operator_account` and `object_id`, and `trx_id` `VARCHAR(64)`. PostgreSQL refuses a statement
one of whose values does not fit, and `execute_sql` then only logs. The plugin's keys hold no
space (`space_not_mem_key`), so none is ever cut to fit: a key longer than 32 characters is
refused (`accepted_eq_false_of_key`).

* **Every placeholder is too long** (`onOperation_placeholder_refused`): `pending-` and a
  forty-digit transaction id make 48 characters, and a bulk item's adds a dash and its index.
  So a write whose result names no id is refused whenever its transaction is in the block, and
  leaves no row (`unresolvedCardCreate_refused`); a bulk grant over fresh keys stores a row for
  exactly the items PostgreSQL accepts (`handlePermissionCreateMany_runChecked`), which inside a
  transaction are only those with a resolved id (`threeItemGrant_placeholders_refused`).
* **A content-card update refreshes a row's lifecycle but its transaction id**
  (`runChecked_contentCardUpdate_lifecycle`): through the sink, when the update is the last
  accepted write to its row, the row carries the update's block number, time and code, and
  keeps the transaction id it had, since the conflict clause does not set `trx_id`.
-/

namespace ActaBoards.PostgresContent

open Postgres PostgresContentPluginImpl

/-- `create_tables`: the declared types of the two tables' columns. -/
def createTables : TableName → Schema
  | .indexerContentCards =>
    ⟨.varchar 32, fun
      | .subjectAccount => some (.varchar 32)
      | .hash => some (.varchar 256)
      | .url => some .text
      | .type => some (.varchar 64)
      | .description => some .text
      | .contentKey => some .text
      | .storageData => some .text
      | .blockNum => some .bigint
      | .blockTime => some .timestamp
      | .trxId => some (.varchar 64)
      | .operationType => some .smallint
      | .isRemoved => some .boolean
      | _ => none⟩
  | .indexerPermissions =>
    ⟨.varchar 32, fun
      | .subjectAccount => some (.varchar 32)
      | .operatorAccount => some (.varchar 32)
      | .permissionType => some (.varchar 64)
      | .objectId => some (.varchar 32)
      | .contentKey => some .text
      | .blockNum => some .bigint
      | .blockTime => some .timestamp
      | .trxId => some (.varchar 64)
      | .operationType => some .smallint
      | .isRemoved => some .boolean
      | _ => none⟩

/-- A resolved transaction id is forty hexadecimal digits, or empty when the index is out of
range. -/
theorem trxIdOf_length (b : SignedBlock) (i : UInt16) :
    (trxIdOf b i).length = 40 ∨ trxIdOf b i = "" := by
  unfold trxIdOf
  split
  · exact .inl (TransactionIdType.length_str _)
  · exact .inr rfl

/-! ### What the schema refuses -/

theorem refObjectId_length_le (o : Option ObjectIdType) : (refObjectId o).length ≤ 23 := by
  cases o with
  | none => exact Nat.zero_le _
  | some o => exact o.length_toString_le

/-- An insert whose key holds no space and is longer than 32 characters is refused, in either
table: the key column keeps it as it is, and it does not fit. -/
theorem accepted_eq_false_of_key {s : Statement} (hins : s.isInsert = true)
    (hk : 32 < s.key.length) (hsp : ' ' ∉ s.key.data) : s.accepted createTables = false := by
  cases s with
  | insert t k values set =>
    have hfit : (Value.text ((createTables t).keyType.store k)).fits (createTables t).keyType =
        false := by
      rw [SqlType.store_eq_self _ (show ' ' ∉ k.data from hsp)]
      cases t <;> simpa [createTables, Value.fits, Statement.key] using hk
    simp [Statement.accepted, Statement.coerce, Statement.fits, hfit]
  | update => cases hins

/-- **Every placeholder is refused** while the transaction is in the block: an insert keyed
`pending-<trx_id>` (a single create or the update whose result names no object) or
`pending-<trx_id>-<i>` (a bulk item past the resolved ids) has a key of at least 48
characters, and PostgreSQL refuses it. -/
theorem onOperation_placeholder_refused {b : SignedBlock} {o : OperationHistoryObject}
    (hi : o.trxInBlock.toNat < b.transactions.length) {s : Statement} (hs : s ∈ onOperation b o)
    (hins : s.isInsert = true) (hpending : ∃ rest, s.key = "pending-" ++ rest) :
    48 ≤ s.key.length ∧ s.accepted createTables = false := by
  have hlen : (trxIdOf b o.trxInBlock).length = 40 := by
    simp only [trxIdOf, dif_pos hi, TransactionIdType.length_str]
  have h8 : "pending-".length = 8 := rfl
  obtain ⟨rest, hrest⟩ := hpending
  have hkey : 48 ≤ s.key.length := by
    rcases key_cases hs with ⟨x, hx⟩ | hx | ⟨i, hx⟩
    · exact absurd (hx.symm.trans hrest) (x.toString_ne_pending rest)
    all_goals simp only [hx, String.length_append, h8, hlen]; omega
  exact ⟨hkey, accepted_eq_false_of_key hins (by omega) (space_not_mem_key hs)⟩

/-- `onOperation_placeholder_refused` on the one-item grant `singleIdGrant`, whose item is keyed
`pending-<trx_id>-0`. -/
theorem singleIdGrant_refused :
    48 ≤ (permissionUpsert 64 ("pending-" ++ trxOne.str ++ "-0") ⟨0x0102000000000005⟩
        ⟨⟨0x0102000000000006⟩, "read", none, "k"⟩ 100 1000 trxOne.str).key.length ∧
      (permissionUpsert 64 ("pending-" ++ trxOne.str ++ "-0") ⟨0x0102000000000005⟩
        ⟨⟨0x0102000000000006⟩, "read", none, "k"⟩ 100 1000 trxOne.str).accepted createTables =
        false :=
  onOperation_placeholder_refused (b := ⟨100, 1000, [trxOne]⟩) (o := singleIdGrant) (by decide)
    (by decide) rfl ⟨trxOne.str ++ "-0", by rw [String.append_assoc]; rfl⟩

/-- The failing input: a content-card create with a `void_result`, in the only transaction of
block 100. The statement is refused and no row is written. -/
theorem unresolvedCardCreate_refused :
    onOperation ⟨100, 1000, [trxOne]⟩ ⟨.contentCardCreate cardOne, .voidResult, 0⟩ =
      [handleContentCardCreate cardOne 100 1000 trxOne.str ""] ∧
    (handleContentCardCreate cardOne 100 1000 trxOne.str "").key.length = 48 ∧
    (handleContentCardCreate cardOne 100 1000 trxOne.str "").accepted createTables = false ∧
    Db.empty.runChecked createTables
        (liveIndexer.statements [⟨⟨100, 1000, [trxOne]⟩, [some ⟨.contentCardCreate cardOne, .voidResult, 0⟩]⟩])
        .indexerContentCards ("pending-" ++ trxOne.str) = none :=
  ⟨rfl, by decide, by decide, rfl⟩

/-! ### A bulk grant through the sink -/

/-- **A bulk grant through `execute_sql`.** Over a store holding none of its keys, and for a
transaction id without a space, item `i` gets a row exactly when PostgreSQL accepts its insert,
and every row the grant does not key is left alone. -/
theorem handlePermissionCreateMany_runChecked (op : PermissionCreateManyOperation) (n t : UInt32)
    {trxId : String} (htrx : ' ' ∉ trxId.data) (newObjects : FlatSet) {db : Db}
    (hfresh : ∀ i < op.permissions.length,
      db .indexerPermissions (bulkPermissionId trxId newObjects.elems i) = none) :
    (∀ i (h : i < op.permissions.length),
      (db.runChecked createTables (handlePermissionCreateMany op n t trxId newObjects)
        .indexerPermissions (bulkPermissionId trxId newObjects.elems i)).isSome =
      (permissionUpsert 64 (bulkPermissionId trxId newObjects.elems i) op.subjectAccount
        op.permissions[i] n t trxId).accepted createTables) ∧
    ∀ tb k, (tb ≠ .indexerPermissions ∨
        ∀ i < op.permissions.length, k ≠ bulkPermissionId trxId newObjects.elems i) →
      db.runChecked createTables (handlePermissionCreateMany op n t trxId newObjects) tb k =
        db tb k := by
  set f : ℕ → PermissionItem → Statement := fun i perm ↦
    permissionUpsert 64 (bulkPermissionId trxId newObjects.elems i) op.subjectAccount perm n t trxId
  have hinj := bulkPermissionId_injective trxId newObjects.nodup
  have hsp (i : ℕ) : ' ' ∉ (bulkPermissionId trxId newObjects.elems i).data := by
    unfold bulkPermissionId
    split
    · exact fun h ↦ absurd (ObjectIdType.idChar_of_mem_toString h) (by decide)
    · simp only [String.data_append, List.mem_append, not_or]
      exact ⟨⟨⟨by decide, htrx⟩, by decide⟩, fun h ↦ absurd (idChar_of_mem_repr h) (by decide)⟩
  -- the statements PostgreSQL executes, item `j`'s keyed as item `j` is
  have hmem {s} (hs : s ∈ ((op.permissions.mapIdx f).filter (·.accepted createTables)).map
      (·.coerce createTables)) : ∃ j, ∃ h : j < op.permissions.length,
        (f j op.permissions[j]).accepted createTables ∧ s = (f j op.permissions[j]).coerce createTables := by
    obtain ⟨s', hs', rfl⟩ := List.mem_map.1 hs
    obtain ⟨hm, ha⟩ := List.mem_filter.1 hs'
    obtain ⟨j, hj, rfl⟩ := List.mem_mapIdx.1 hm
    exact ⟨j, hj, ha, rfl⟩
  have htargets (j perm tb k) : ((f j perm).coerce createTables).targets tb k =
      (.indexerPermissions == tb && bulkPermissionId trxId newObjects.elems j == k) := by
    rw [Statement.targets_coerce (show ' ' ∉ (f j perm).key.data from hsp j)]; rfl
  rw [handlePermissionCreateMany_eq_mapIdx, Db.runChecked_eq_run_filter]
  refine ⟨fun i h ↦ ?_, fun tb k hk ↦ Db.run_apply_of_not_targets fun s hs ↦ ?_⟩
  · rw [Bool.eq_iff_iff, Db.run_isSome_iff, hfresh i h]
    simp only [Option.isSome_none, Bool.false_eq_true, false_or]
    constructor
    · rintro ⟨s, hs, hst, -⟩
      obtain ⟨j, hj, haj, rfl⟩ := hmem hs
      rw [htargets] at hst
      obtain rfl : j = i := hinj (by simpa using hst)
      exact haj
    · intro ha
      refine ⟨_, List.mem_map_of_mem _ (List.mem_filter.2 ⟨List.mem_mapIdx.2 ⟨i, h, rfl⟩, ha⟩), ?_, rfl⟩
      simp [htargets]
  · obtain ⟨j, hj, -, rfl⟩ := hmem hs
    rw [htargets]
    rcases hk with hk | hk
    · simp [Ne.symm hk]
    · simp [Ne.symm (hk j hj)]

/-- Three grants by `1.2.5`, to `1.2.6`, `1.2.7` and `1.2.8`. -/
def threeGrants : PermissionCreateManyOperation :=
  ⟨⟨0x0102000000000005⟩, [⟨⟨0x0102000000000006⟩, "read", none, "k"⟩,
    ⟨⟨0x0102000000000007⟩, "read", none, "k"⟩, ⟨⟨0x0102000000000008⟩, "read", none, "k"⟩]⟩

/-- `threeGrants` in the first transaction of its block, the result naming one new object,
`1.8.1`. -/
def threeItemGrant : OperationHistoryObject :=
  ⟨.permissionCreateMany threeGrants,
    .genericOperationResult ⟨[⟨0x0108000000000001⟩], List.pairwise_singleton _ _⟩, 0⟩

/-- The failing input of a bulk grant: three items, one resolved id, inside a transaction. The
grant issues three inserts in item order, under the three distinct keys `1.8.1`,
`pending-<trx_id>-1` and `pending-<trx_id>-2`; PostgreSQL refuses both placeholders, so the run
adds one row where the grant meant three. -/
theorem threeItemGrant_placeholders_refused :
    (onOperation ⟨100, 1000, [trxOne]⟩ threeItemGrant).map Statement.key =
      ["1.8.1", "pending-" ++ trxOne.str ++ "-1", "pending-" ++ trxOne.str ++ "-2"] ∧
    (onOperation ⟨100, 1000, [trxOne]⟩ threeItemGrant).map (·.accepted createTables) =
      [true, false, false] ∧
    ∀ k, (Db.empty.runChecked createTables
      (liveIndexer.statements [⟨⟨100, 1000, [trxOne]⟩, [some threeItemGrant]⟩])
        .indexerPermissions k).isSome ↔ k = "1.8.1" := by
  refine ⟨by decide, by decide, fun k ↦ ?_⟩
  have hL : liveIndexer.statements [⟨⟨100, 1000, [trxOne]⟩, [some threeItemGrant]⟩] =
      handlePermissionCreateMany threeGrants 100 1000 trxOne.str
        (newObjectsOf threeItemGrant.result) := rfl
  obtain ⟨hrow, hother⟩ := @handlePermissionCreateMany_runChecked threeGrants 100 1000 trxOne.str
    (by decide) (newObjectsOf threeItemGrant.result) Db.empty fun _ _ ↦ rfl
  rw [hL]
  by_cases hk : ∃ i < 3, k = bulkPermissionId trxOne.str (newObjectsOf threeItemGrant.result).elems i
  · obtain ⟨i, hi, rfl⟩ := hk
    rw [hrow i hi]
    interval_cases i <;> revert hi <;> decide
  · push_neg at hk
    rw [hother _ _ (.inr hk)]
    exact iff_of_false (by simp [Db.empty]) fun h ↦ hk 0 (by decide) (h.trans (by decide))

/-! ### A content-card update through the sink -/

/-- **A content-card update refreshes all of a row's lifecycle but its transaction id.** When
the statement `handle_content_card_update` builds for an operation of block `b` is the last
write to its row that PostgreSQL accepts, the row carries the block's number and time and the
update's code, whatever it held before; its transaction id is the update's only if the row was
absent just before the update, and otherwise the one the row had, since the update's conflict
clause does not set `trx_id`. -/
theorem runChecked_contentCardUpdate_lifecycle (self : PostgresContentPluginImpl)
    (w : List AppliedBlock) (S : Db) {pre post : List Statement} {op : ContentCardOperation}
    {b : SignedBlock} {i : UInt16} {result : OperationResult} {K : String}
    (hw : self.statements w = pre ++ handleContentCardUpdate op b.blockNum b.timestamp
      (trxIdOf b i) (getObjectIdFromResult result) :: post)
    (hK : singleKey (trxIdOf b i) result = K)
    (ha : (handleContentCardUpdate op b.blockNum b.timestamp (trxIdOf b i)
      (getObjectIdFromResult result)).accepted createTables = true)
    (hlast : ∀ s ∈ post, s.targets .indexerContentCards K = true →
      s.accepted createTables = false) :
    ∃ r, S.runChecked createTables (self.statements w) .indexerContentCards K = some r ∧
      r .blockNum = .int b.blockNum.toNat ∧ r .blockTime = blockTimeValue b.timestamp ∧
      r .operationType = .int 42 ∧
      r .trxId = match S.runChecked createTables pre .indexerContentCards K with
        | none => .text (trxIdOf b i)
        | some r₀ => r₀ .trxId := by
  set u := handleContentCardUpdate op b.blockNum b.timestamp (trxIdOf b i)
    (getObjectIdFromResult result)
  have hu : HandlerStatement u := .contentCardUpdate _ _ _ _ _
  have hmem {s} (hs : s ∈ u :: post) : s ∈ self.statements w :=
    hw ▸ List.mem_append_right _ hs
  have ht : (u.coerce createTables).targets .indexerContentCards K := by
    rw [Statement.targets_coerce (space_not_mem_key_of_mem_statements (hmem (List.mem_cons_self _ _)))]
    exact Statement.targets_eq_true.2 ⟨rfl, (contentCardId_eq_singleKey _ _).trans hK⟩
  -- no later statement PostgreSQL accepts reaches the row
  have hpost : ∀ s ∈ (post.filter (·.accepted createTables)).map (·.coerce createTables),
      s.targets .indexerContentCards K = false := by
    intro s hs
    obtain ⟨s', hs', rfl⟩ := List.mem_map.1 hs
    obtain ⟨hm, ha'⟩ := List.mem_filter.1 hs'
    rw [Statement.targets_coerce
      (space_not_mem_key_of_mem_statements (hmem (List.mem_cons_of_mem _ hm)))]
    exact Bool.eq_false_iff.2 fun h ↦ absurd (hlast s' hm h) (by simp [ha'])
  -- the update's conflict clause leaves `trx_id` alone
  have htrx : (u.coerce createTables).patch .trxId = none := by
    rw [hu.patch_coerce, Schema.coercePatch, hu.patch_trxId]
    rfl
  simp only [Db.runChecked_eq_run_filter, hw, List.filter_append, List.filter_cons_of_pos ha,
    List.map_append, List.map_cons]
  rw [Db.run_apply_cut _ _ _ ht, List.filter_eq_nil_iff.2 fun s hs ↦ by simp [hpost s hs]]
  cases S.run ((pre.filter (·.accepted createTables)).map (·.coerce createTables))
    .indexerContentCards K with
  | none =>
    refine ⟨_, rfl, rfl, rfl, rfl, ?_⟩
    show Value.text ((SqlType.varchar 64).store (trxIdOf b i)) = _
    rw [SqlType.store_eq_self _ fun h ↦ absurd (idChar_of_mem_trxIdOf h) (by decide)]
  | some r₀ =>
    refine ⟨_, rfl, rfl, rfl, rfl, ?_⟩
    show ((u.coerce createTables).patch .trxId).getD (r₀ .trxId) = r₀ .trxId
    rw [htrx]
    rfl

/-- `runChecked_contentCardUpdate_lifecycle` on `staleTrxIdRun` from the empty database: the
update of `trxTwo` in block 101 is the last write to row `1.7.3`. -/
theorem staleTrxIdRun_lifecycle :
    ∃ r, Db.empty.runChecked createTables (liveIndexer.statements staleTrxIdRun)
        .indexerContentCards "1.7.3" = some r ∧
      r .blockNum = .int (⟨101, 1001, [trxTwo]⟩ : SignedBlock).blockNum.toNat ∧
      r .blockTime = blockTimeValue (⟨101, 1001, [trxTwo]⟩ : SignedBlock).timestamp ∧
      r .operationType = .int 42 ∧
      r .trxId = match Db.empty.runChecked createTables
          [handleContentCardCreate cardOne 100 1000 trxOne.str "1.7.3"] .indexerContentCards
          "1.7.3" with
        | none => .text (trxIdOf ⟨101, 1001, [trxTwo]⟩ 0)
        | some r₀ => r₀ .trxId :=
  @runChecked_contentCardUpdate_lifecycle liveIndexer staleTrxIdRun Db.empty
    [handleContentCardCreate cardOne 100 1000 trxOne.str "1.7.3"] [] cardOne ⟨101, 1001, [trxTwo]⟩
    0 (.objectIdType ⟨0x0107000000000003⟩) "1.7.3" (by decide) (by decide) (by decide) (by simp)

end ActaBoards.PostgresContent
