import ActaBoards.PostgresContent.OnBlock

/-!
# What the projection is for: one fact per entity

Said without SQL, the indexer keeps, for each table and key, a *fact* about one entity: whose
it is (its identity columns), what it currently holds (its payload columns), and whether it was
removed. `Fact.step` is that abstract machine: the first write to an entity creates it, every
later upsert replaces its contents and nothing else, a remove flags an existing entity and never
un-flags it, and a remove of an entity that does not exist is forgotten. `operationWrites` says
which writes an applied operation makes, to which entity, from the operation's own fields, and
`rowWrites` lists a run's writes to one row in the order the run makes them: the operations of
the blocks the plugin projects, in order, kinds it does not handle and empty entries making none
(`statements_writes`).

The machine's laws are stated once (`Fact.run_isSome_iff`, `Fact.run_payload_of_last`,
`Fact.run_identity_of_first`, `Fact.run_removed_iff`), and the projection refines the machine:
one statement is one step (`apply_refines`), and the fact read off each row a projection leaves
is the machine run over the run's writes to that row (`project_refines`). That is how the laws of
`Lifecycle` read in terms of the run's operations. Block numbers, times, operation codes and
transaction ids are bookkeeping the abstraction forgets.

This is the projection with every statement taking effect, the model of the laws that stipulate
it; what PostgreSQL refuses is `Db.runChecked`'s, in `Postgres.Schema`.
-/

namespace ActaBoards.PostgresContent

open Postgres PostgresContentPluginImpl

/-- What the indexer records of one entity. -/
structure Fact where
  /-- The subject, and for a permission its operator and object. -/
  identity : List Value
  /-- A card's contents, a permission's type and content key. -/
  payload : List Value
  removed : Bool
  deriving DecidableEq, Repr

/-- One write to an entity. -/
inductive Write
  /-- A create, an update or a bulk item: the identity it proposes, and the contents it sets. -/
  | upsert (identity payload : List Value)
  | remove
  deriving DecidableEq, Repr

/-- The abstract machine, one write at a time. -/
def Fact.step : Write → Option Fact → Option Fact
  | .upsert identity payload, none => some ⟨identity, payload, false⟩
  | .upsert _ payload, some f => some { f with payload := payload }
  | .remove, none => none
  | .remove, some f => some { f with removed := true }

/-- The machine over a list of writes, first to last. -/
def Fact.run (ws : List Write) (f : Option Fact) : Option Fact :=
  ws.foldl (fun f w ↦ Fact.step w f) f

namespace Fact

@[simp] theorem run_nil (f : Option Fact) : Fact.run [] f = f := rfl

@[simp] theorem run_cons (w : Write) (ws : List Write) (f : Option Fact) :
    Fact.run (w :: ws) f = Fact.run ws (Fact.step w f) := rfl

theorem run_append (ws ws' : List Write) (f : Option Fact) :
    Fact.run (ws ++ ws') f = Fact.run ws' (Fact.run ws f) :=
  List.foldl_append _ _ _ _

/-- **Existence.** An entity exists after the writes exactly when it existed before or one of
them is an upsert. -/
theorem run_isSome_iff (ws : List Write) (x : Option Fact) :
    (Fact.run ws x).isSome ↔ x.isSome ∨ ∃ i p, Write.upsert i p ∈ ws := by
  induction ws generalizing x with
  | nil => simp
  | cons w ws ih =>
    rw [run_cons, ih]
    cases w with
    | upsert i p =>
      cases x <;> simp [Fact.step]
      exact ⟨i, p, .inl ⟨rfl, rfl⟩⟩
    | remove => cases x <;> simp [Fact.step]

/-- **The removed flag.** An entity is flagged removed exactly when it was flagged before, or a
remove reached it at a point where it existed. -/
theorem run_removed_iff {ws : List Write} {x : Option Fact} {f : Fact}
    (h : Fact.run ws x = some f) :
    f.removed = true ↔ (∃ f₀, x = some f₀ ∧ f₀.removed = true) ∨
      ∃ pre post, ws = pre ++ .remove :: post ∧ (Fact.run pre x).isSome := by
  induction ws generalizing x with
  | nil =>
    cases h
    simp
  | cons w ws ih =>
    rw [ih h]
    constructor
    · rintro (⟨f₁, h₁, hr⟩ | ⟨pre, post, rfl, hex⟩)
      · cases w <;> cases x <;> cases h₁
        · cases hr
        · exact .inl ⟨_, rfl, hr⟩
        · exact .inr ⟨[], ws, rfl, rfl⟩
      · exact .inr ⟨w :: pre, post, rfl, hex⟩
    · rintro (⟨f₀, rfl, hr⟩ | ⟨_ | ⟨w', pre⟩, post, hws, hex⟩)
      · cases w
        exacts [.inl ⟨_, rfl, hr⟩, .inl ⟨_, rfl, rfl⟩]
      · obtain ⟨rfl, rfl⟩ := List.cons.inj hws
        obtain ⟨f₀, rfl⟩ := Option.isSome_iff_exists.1 hex
        exact .inl ⟨_, rfl, rfl⟩
      · obtain ⟨rfl, rfl⟩ := List.cons.inj hws
        exact .inr ⟨pre, post, rfl, hex⟩

end Fact

/-- The fact a row of a table records. -/
def absRow (t : TableName) (r : Row) : Fact :=
  ⟨(identityColumns t).map r, (payloadColumns t).map r, decide (r .isRemoved = .bool true)⟩

/-- The write a statement makes, in the abstract. -/
def writeOf : Statement → Write
  | .insert t _ values _ =>
    .upsert ((identityColumns t).map (Row.ofValues values)) ((payloadColumns t).map (Row.ofValues values))
  | .update .. => .remove

/-! ### Refinement, statement by statement -/

/-- **One step.** A handler statement acts on the fact of its row as its write does. -/
theorem apply_refines {s : Statement} (h : HandlerStatement s) (x : Option Row) :
    (s.apply x).map (absRow s.table) = Fact.step (writeOf s) (x.map (absRow s.table)) := by
  cases h <;> cases x <;> rfl

theorem applyAll_refines {ss : List Statement} {t : TableName}
    (hss : ∀ s ∈ ss, HandlerStatement s ∧ s.table = t) (x : Option Row) :
    (applyAll ss x).map (absRow t) = Fact.run (ss.map writeOf) (x.map (absRow t)) := by
  induction ss generalizing x with
  | nil => rfl
  | cons s ss ih =>
    obtain ⟨hs, rfl⟩ := hss s (List.mem_cons_self _ _)
    rw [applyAll_cons, ih (fun s' h ↦ hss s' (List.mem_cons_of_mem _ h)), apply_refines hs]
    rfl

/-- **A run.** The fact of a row after a run of handler statements is the machine run over the
writes of the statements that target the row. -/
theorem run_refines {S : Db} {ss : List Statement} (hss : ∀ s ∈ ss, HandlerStatement s)
    (t : TableName) (k : String) :
    (S.run ss t k).map (absRow t) =
      Fact.run ((ss.filter (·.targets t k)).map writeOf) ((S t k).map (absRow t)) := by
  rw [Db.run_apply]
  refine applyAll_refines (fun s hs ↦ ?_) _
  obtain ⟨hm, ht⟩ := List.mem_filter.1 hs
  exact ⟨hss s hm, (Statement.targets_eq_true.1 ht).1⟩

/-! ### The abstract writes of an operation -/

/-- A card's identity and contents. -/
def cardUpsert (op : ContentCardOperation) : Write :=
  .upsert [.text op.subjectAccount.toString]
    [.text op.hash, .text op.url, .text op.type, .text op.description, .text op.contentKey,
      .text op.storageData]

/-- A grant's identity and contents. -/
def permissionWrite (subjectAccount : ObjectIdType) (perm : PermissionItem) : Write :=
  .upsert [.text subjectAccount.toString, .text perm.operatorAccount.toString,
      .text (refObjectId perm.objectId)]
    [.text perm.permissionType, .text perm.contentKey]

/-- The writes an applied operation makes: to which table and key, and what. -/
def operationWrites (b : SignedBlock) (o : OperationHistoryObject) :
    List (TableName × String × Write) :=
  let trxId := trxIdOf b o.trxInBlock
  match o.op with
  | .contentCardCreate op | .contentCardUpdate op =>
    [(.indexerContentCards, singleKey trxId o.result, cardUpsert op)]
  | .contentCardRemove op => [(.indexerContentCards, op.contentId.toString, .remove)]
  | .permissionCreate op =>
    [(.indexerPermissions, singleKey trxId o.result,
      permissionWrite op.subjectAccount ⟨op.operatorAccount, op.permissionType, op.objectId,
        op.contentKey⟩)]
  | .permissionRemove op => [(.indexerPermissions, op.permissionId.toString, .remove)]
  | .permissionCreateMany op =>
    op.permissions.mapIdx fun i perm ↦
      (.indexerPermissions, bulkPermissionId trxId (newObjectsOf o.result).elems i,
        permissionWrite op.subjectAccount perm)
  | .other .. => []

/-- The abstract writes of a run: those of every operation of every block the plugin projects. -/
def runWrites (self : PostgresContentPluginImpl) (w : List AppliedBlock) :
    List (TableName × String × Write) :=
  w.flatMap fun ab ↦
    if !self.pgConn then []
    else if ab.block.blockNum < self.startBlock then []
    else ab.appliedOperations.flatMap fun
      | none => []
      | some o => operationWrites ab.block o

/-- A statement as an abstract write to its row. -/
def entry (s : Statement) : TableName × String × Write := (s.table, s.key, writeOf s)

theorem onOperation_writes (b : SignedBlock) (o : OperationHistoryObject) :
    (onOperation b o).map entry = operationWrites b o := by
  obtain ⟨op, result, trxInBlock⟩ := o
  cases op with
  | permissionCreateMany op =>
    show (handlePermissionCreateMany op _ _ _ _).map entry = _
    rw [handlePermissionCreateMany_eq_mapIdx]
    refine List.ext_getElem (by simp [operationWrites]) fun i _ _ ↦ ?_
    simp only [List.getElem_map, List.getElem_mapIdx, operationWrites]
    rfl
  | _ =>
    simp only [onOperation, operationWrites, List.map_cons, List.map_nil, entry,
      handleContentCardCreate, handleContentCardUpdate, handlePermissionCreate, contentCardUpsert,
      permissionUpsert, handleContentCardRemove, handlePermissionRemove, markRemoved,
      Statement.table, Statement.key, contentCardId_eq_singleKey] <;> rfl

/-- **The statements of a run are its abstract writes.** -/
theorem statements_writes (self : PostgresContentPluginImpl) (w : List AppliedBlock) :
    (self.statements w).map entry = runWrites self w := by
  simp only [statements, runWrites, List.map_flatMap, onBlock]
  congr 1
  funext ab
  split_ifs
  · rfl
  · rfl
  · rw [List.map_flatMap]
    congr 1
    funext o
    cases o with
    | none => rfl
    | some o => exact onOperation_writes ab.block o

/-- A run's writes to row `k` of table `t`, in the order the run makes them. -/
def rowWrites (self : PostgresContentPluginImpl) (w : List AppliedBlock) (t : TableName)
    (k : String) : List Write :=
  ((runWrites self w).filter fun e ↦ e.1 = t ∧ e.2.1 = k).map (·.2.2)

/-- **The projection refines the abstract machine.** For every run of blocks and every starting
store, the fact read off each row after projection is the machine run, from the fact it
recorded before, over the run's writes to that row. -/
theorem project_refines (self : PostgresContentPluginImpl) (w : List AppliedBlock) (S : Db)
    (t : TableName) (k : String) :
    (self.project w S t k).map (absRow t) =
      Fact.run (rowWrites self w t k) ((S t k).map (absRow t)) := by
  rw [project_eq_run, run_refines (fun _ ↦ handlerStatement_of_mem_statements), rowWrites,
    ← statements_writes, List.filter_map, List.map_map]
  congr 2
  exact List.filter_congr fun s _ ↦ Bool.eq_iff_iff.2 (by simp [entry, Statement.targets])

end ActaBoards.PostgresContent
