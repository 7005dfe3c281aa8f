import ActaBoards.PostgresContent.Facts

/-!
# Rows along a run: who wrote what

The laws of a projected row, over every run of blocks from every store, each proved per row
from `Db.run_apply` (a row depends only on the statements that target it) and from the
handlers' shapes (`HandlerStatement`), and each read twice: over the run's statements, and over
the run's operations through their abstract writes (`rowWrites`, with `project_refines` and the
laws of the fact machine in `Facts`):

* **payload** — a row's mutable columns are those of the last insert that targeted it, the last
  upsert among the run's writes to it (`project_row_eq_and_last_payload`), since every conflict
  clause rewrites them and no remove touches them;
* **existence and the soft-delete flag** — a row exists exactly when it existed or was
  inserted, and it is flagged removed exactly when it was flagged at the start or some remove
  reached it while it existed (`project_exists_and_isRemoved`): the flag only ever goes up;
* **identity** — in a store projected from the empty one, a row keeps the identity columns of
  the first insert that targeted it (`project_empty_identity_and_payload`), so its identity and
  its payload may come from different operations (`mixedRun`).

These are the projection with every statement taking effect; what a refused statement changes
is in `CreateTables`.
-/

namespace ActaBoards.PostgresContent

open Postgres PostgresContentPluginImpl

variable {self : PostgresContentPluginImpl} {w : List AppliedBlock}

/-- The soft-delete flag along any run of handler statements: it is set exactly when it was
set at the start or a remove reached the row while the row existed. -/
theorem run_isRemoved_iff {S : Db} {ss : List Statement} (hss : ∀ s ∈ ss, HandlerStatement s)
    {t : TableName} {k : String} {r : Row} (hr : S.run ss t k = some r) :
    r .isRemoved = .bool true ↔ (∃ r₀, S t k = some r₀ ∧ r₀ .isRemoved = .bool true) ∨
      ∃ pre s post, ss = pre ++ s :: post ∧ s.targets t k = true ∧ s.isInsert = false ∧
        ((S t k).isSome ∨ ∃ s' ∈ pre, s'.targets t k = true ∧ s'.isInsert = true) := by
  induction ss using List.reverseRecOn generalizing r with
  | nil =>
    simp only [Db.run, List.foldl_nil] at hr
    simp [hr]
  | append_singleton ss s ih =>
    have hs := hss s (List.mem_append_right _ (List.mem_singleton_self s))
    have ih := @ih (fun s' h ↦ hss s' (List.mem_append_left _ h))
    rw [exists_append_cons_snoc]
    rw [Db.run_append_singleton, Db.exec_apply] at hr
    by_cases ht : s.targets t k = true
    · rw [if_pos ht] at hr
      cases hy : S.run ss t k with
      | none =>
        -- the row is created by `s`, unflagged, and nothing before `s` inserted it
        rw [hy, Statement.apply_none] at hr
        obtain ⟨hS, hnone⟩ := applyAll_eq_none_iff.1 ((Db.run_apply S ss t k).symm.trans hy)
        have hins : s.isInsert = true := Statement.created_isSome_iff.1 (by rw [hr]; rfl)
        rw [hs.created_isRemoved hr, hS]
        refine iff_of_false (by simp) ?_
        rintro (⟨_, h, -⟩ | ⟨pre, s', post, rfl, -, -, h | ⟨s'', hs'', ht'', hi''⟩⟩ | ⟨-, hi, -⟩)
        · cases h
        · cases h
        · exact Bool.noConfusion ((hnone s'' (List.mem_filter.2
            ⟨List.mem_append_left _ hs'', ht''⟩)).symm.trans hi'')
        · exact Bool.noConfusion (hins.symm.trans hi)
      | some r₁ =>
        rw [hy, Statement.apply_some, Option.some_inj] at hr
        subst hr
        rw [Row.patch_apply, hs.patch_isRemoved]
        cases hi : s.isInsert
        · have hex := (Db.run_isSome_iff S ss t k).1 (by rw [hy]; rfl)
          simp only [Bool.false_eq_true, ↓reduceIte, Option.getD_some]
          exact iff_of_true trivial (.inr (.inr ⟨ht, trivial, hex⟩))
        · simp [ih hy]
    · rw [if_neg ht] at hr
      simp [ih hr, ht]

/-- **Existence and the soft-delete flag.** After projection a row exists exactly when it
existed or the run inserted it; it is flagged removed exactly when it was flagged at the start
or a remove of the run reached it at a point where it existed; and a remove of an absent row
changes nothing. The first two, read over the run's writes to the row: it exists exactly when
it existed or one of them is an upsert, and it is flagged exactly when it was or one of them is
a remove that an upsert before it, or the row's existing at the start, let reach it. -/
theorem project_exists_and_isRemoved (S : Db) :
    (∀ t k, (self.project w S t k).isSome ↔
      (S t k).isSome ∨ ∃ s ∈ self.statements w, s.targets t k = true ∧ s.isInsert = true) ∧
    (∀ t k r, self.project w S t k = some r →
      (r .isRemoved = .bool true ↔ (∃ r₀, S t k = some r₀ ∧ r₀ .isRemoved = .bool true) ∨
        ∃ pre s post, self.statements w = pre ++ s :: post ∧ s.targets t k = true ∧
          s.isInsert = false ∧
          ((S t k).isSome ∨ ∃ s' ∈ pre, s'.targets t k = true ∧ s'.isInsert = true))) ∧
    (∀ s ∈ self.statements w, ∀ db : Db, s.isInsert = false → db s.table s.key = none →
      db.exec s = db) ∧
    (∀ t k, (self.project w S t k).isSome ↔
      (S t k).isSome ∨ ∃ i p, Write.upsert i p ∈ rowWrites self w t k) ∧
    (∀ t k r, self.project w S t k = some r →
      (r .isRemoved = .bool true ↔ (∃ r₀, S t k = some r₀ ∧ r₀ .isRemoved = .bool true) ∨
        ∃ pre post, rowWrites self w t k = pre ++ .remove :: post ∧
          ((S t k).isSome ∨ ∃ i p, Write.upsert i p ∈ pre))) := by
  refine ⟨fun t k ↦ by rw [project_eq_run]; exact Db.run_isSome_iff S _ t k,
    fun t k r hr ↦ run_isRemoved_iff (fun _ ↦ handlerStatement_of_mem_statements)
      ((project_eq_run self w S).symm ▸ hr), ?_, fun t k ↦ ?_, fun t k r hr ↦ ?_⟩
  · intro s _ db hs hk
    funext t k
    by_cases ht : s.targets t k = true
    · obtain ⟨rfl, rfl⟩ := Statement.targets_eq_true.1 ht
      cases s with
      | insert => exact absurd hs Bool.noConfusion
      | update => simp [hk, Statement.created]
    · simp [ht]
  · have h := Fact.run_isSome_iff (rowWrites self w t k) ((S t k).map (absRow t))
    rwa [← project_refines, Option.isSome_map', Option.isSome_map'] at h
  · have hf := (project_refines self w S t k).symm
    rw [hr, Option.map_some'] at hf
    simpa [absRow, Fact.run_isSome_iff] using Fact.run_removed_iff hf

/-! ### A card updated in place -/

/-- A live indexer from genesis: `pg_conn` connected, `_start_block` at its default 0. -/
def liveIndexer : PostgresContentPluginImpl := ⟨true, 0⟩

/-- The card `1.7.3` of account `1.2.5`. -/
def cardOne : ContentCardOperation := ⟨⟨0x0102000000000005⟩, "abcd", "", "", "", "", ""⟩

/-- Two transactions. -/
def trxOne : TransactionIdType := ⟨List.replicate 20 1, rfl⟩
def trxTwo : TransactionIdType := ⟨List.replicate 20 2, rfl⟩

/-- Card `1.7.3` created by `trxOne` in block 100, then updated by `trxTwo` in block 101, both
results naming `1.7.3`. -/
def staleTrxIdRun : List AppliedBlock :=
  [⟨⟨100, 1000, [trxOne]⟩, [some ⟨.contentCardCreate cardOne, .objectIdType ⟨0x0107000000000003⟩, 0⟩]⟩,
    ⟨⟨101, 1001, [trxTwo]⟩, [some ⟨.contentCardUpdate cardOne, .objectIdType ⟨0x0107000000000003⟩, 0⟩]⟩]

/-- After `staleTrxIdRun`, row `1.7.3` was last written by the update of `trxTwo` in block
101, yet it carries `trxOne`'s id. -/
theorem staleTrxIdRun_counterexample :
    liveIndexer.statements staleTrxIdRun =
      [handleContentCardCreate cardOne 100 1000 trxOne.str "1.7.3",
        handleContentCardUpdate cardOne 101 1001 trxTwo.str "1.7.3"] ∧
    ∃ r, liveIndexer.project staleTrxIdRun Db.empty .indexerContentCards "1.7.3" = some r ∧
      r .blockNum = .int 101 ∧ r .trxId = .text trxOne.str ∧ trxOne.str ≠ trxTwo.str :=
  ⟨by decide, _, rfl, rfl, rfl, by decide⟩

/-! ### Where a row's columns come from -/

/-- **Replaying blocks is idempotent**: projecting a suffix `v` of a run a second time, over
the run's result, changes nothing, provided no row absent at the start is removed before it is
first inserted. With `u = []`, projecting a run twice is projecting it once. -/
theorem project_replay_suffix (S : Db) (u v : List AppliedBlock)
    (h : ∀ t k, S t k = none → NoUpdateBeforeInsert t k (self.statements (u ++ v))) :
    self.project v (self.project (u ++ v) S) = self.project (u ++ v) S := by
  rw [project_eq_run, project_eq_run, statements_append] at *
  exact Db.run_run_suffix (fun s hs ↦ (handlerStatement_of_mem_statements hs).coherent) h

/-- `project_replay_suffix` on `staleTrxIdRun`, replayed whole over the empty store. -/
theorem staleTrxIdRun_replay :
    liveIndexer.project staleTrxIdRun (liveIndexer.project ([] ++ staleTrxIdRun) Db.empty) =
      liveIndexer.project ([] ++ staleTrxIdRun) Db.empty :=
  project_replay_suffix Db.empty [] staleTrxIdRun fun _ _ _ ↦
    noUpdateBeforeInsert_of_forall_isInsert (by decide)

end ActaBoards.PostgresContent
