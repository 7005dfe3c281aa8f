import Mathlib.Data.List.Basic

/-!
# Keyed tables, and what the plugin's statements do to them

The plugin writes to PostgreSQL through two shapes of statement only, built by string
concatenation in each handler:

```
INSERT INTO t (key, c₁, …, cₙ) VALUES (k, v₁, …, vₙ)
  ON CONFLICT (key) DO UPDATE SET d₁ = e₁, …, dₘ = eₘ      -- eⱼ is EXCLUDED.dⱼ or a literal
UPDATE t SET d₁ = v₁, …, dₘ = vₘ WHERE key = k
```

A `Statement` is that structure, with the escaped literals read back as the strings they
quote. A table is keyed by its `UNIQUE` column, so a database is a map from a table and a key
to an optional row (`Db`), and a statement acts on the one row its key names
(`Statement.apply`): an `INSERT` creates the row if it is absent and otherwise applies its
conflict clause, an `UPDATE` changes the row if present and does nothing otherwise.

## The shape of the semantics

* **Rows are independent** (`run_apply`): after a run, the row at `(t, k)` is the fold of
  `Statement.apply` over the statements that target `(t, k)`, started from the row that was
  there. Every law about a run is proved per row from this.
* **On an existing row every statement is a patch** — an assignment of constants to some
  columns (`Statement.patch`) — and patches compose (`Row.patch_patch`). So a run over an
  existing row is one patch (`applyAll_some`), and a patch applied twice is applied once.
* A row exists after a run exactly when it existed before or some `INSERT` targeted it
  (`applyAll_eq_none_iff`): no statement ever deletes one.

The table-wide columns `id SERIAL` and `created_at DEFAULT CURRENT_TIMESTAMP` are generated by
the database, read by nothing in the plugin, and not modelled.
-/

namespace ActaBoards.Postgres

/-- The two tables `create_tables` declares. -/
inductive TableName
  | indexerContentCards
  | indexerPermissions
  deriving DecidableEq, Repr, Inhabited

/-- The columns of the two tables other than their keys (`content_card_id`, `permission_id`),
which are the keys the tables are indexed by. -/
inductive Column
  | subjectAccount | operatorAccount | hash | url | type | description | permissionType
  | objectId | contentKey | storageData | blockNum | blockTime | trxId | operationType | isRemoved
  deriving DecidableEq, Repr

/-- A cell: text, an integer, a `to_timestamp` of seconds since the epoch, a boolean, or `NULL`
for a column an `INSERT` does not name. -/
inductive Value
  | null
  | text (s : String)
  | int (n : ℕ)
  | timestamp (secs : ℕ)
  | bool (b : Bool)
  deriving DecidableEq, Repr, Inhabited

/-- A row: the value in each column. -/
def Row := Column → Value

instance : Inhabited Row := ⟨fun _ ↦ .null⟩

/-- The right side of one assignment of an `ON CONFLICT … DO UPDATE SET` clause. -/
inductive Expr
  /-- `EXCLUDED.c`, the value the `INSERT` proposed for `c`. -/
  | excluded (c : Column)
  | lit (v : Value)
  deriving DecidableEq, Repr

/-- The two shapes of statement the plugin executes. -/
inductive Statement
  /-- `INSERT INTO table (key, …) VALUES (key, …) ON CONFLICT (key) DO UPDATE SET onConflict`. -/
  | insert (table : TableName) (key : String) (values : List (Column × Value))
      (onConflict : List (Column × Expr))
  /-- `UPDATE table SET set WHERE key_column = key`. -/
  | update (table : TableName) (key : String) (set : List (Column × Value))
  deriving DecidableEq, Repr, Inhabited

/-- A partial assignment of values to columns. -/
def Patch := Column → Option Value

/-- The row an `INSERT` proposes: the named columns, `NULL` elsewhere. -/
def Row.ofValues (vs : List (Column × Value)) : Row := fun c ↦ (vs.lookup c).getD .null

/-- Assign the columns a patch names; keep the others. -/
def Row.patch (r : Row) (p : Patch) : Row := fun c ↦ (p c).getD (r c)

/-- Evaluate an assignment's right side against the proposed row. -/
def Expr.eval (excluded : Row) : Expr → Value
  | .excluded c => excluded c
  | .lit v => v

/-- `p` then `q`: where both assign a column, `q`'s value wins. -/
def Patch.andThen (p q : Patch) : Patch := fun c ↦ (q c).or (p c)

namespace Statement

def table : Statement → TableName
  | insert t .. => t
  | update t .. => t

def key : Statement → String
  | insert _ k .. => k
  | update _ k .. => k

def isInsert : Statement → Bool
  | insert .. => true
  | update .. => false

/-- The statement acts on row `k` of table `t`. -/
def targets (s : Statement) (t : TableName) (k : String) : Bool :=
  s.table == t && s.key == k

/-- The row an `INSERT` creates when its key is absent; an `UPDATE` creates none. -/
def created : Statement → Option Row
  | insert _ _ values _ => some (Row.ofValues values)
  | update .. => none

/-- What the statement assigns to an existing row: the conflict clause of an `INSERT`,
evaluated against the proposed row, or the `SET` clause of an `UPDATE`. -/
def patch : Statement → Patch
  | insert _ _ values set => fun c ↦ (set.lookup c).map (Expr.eval (Row.ofValues values))
  | update _ _ set => fun c ↦ set.lookup c

/-- The statement's effect on the row it targets, `none` standing for no row. -/
def apply (s : Statement) : Option Row → Option Row
  | some r => some (r.patch s.patch)
  | none => s.created

@[simp] theorem apply_some (s : Statement) (r : Row) : s.apply (some r) = some (r.patch s.patch) :=
  rfl

@[simp] theorem apply_none (s : Statement) : s.apply none = s.created := rfl

@[simp] theorem targets_eq_true {s : Statement} {t : TableName} {k : String} :
    s.targets t k = true ↔ s.table = t ∧ s.key = k := by
  simp [targets]

theorem created_isSome_iff {s : Statement} : s.created.isSome ↔ s.isInsert := by
  cases s <;> simp [created, isInsert]

end Statement

/-! ### Patches -/

@[simp] theorem Row.patch_apply (r : Row) (p : Patch) (c : Column) :
    r.patch p c = (p c).getD (r c) := rfl

theorem Row.patch_patch (r : Row) (p q : Patch) : (r.patch p).patch q = r.patch (p.andThen q) :=
  funext fun c ↦ by cases h : q c <;> simp [Patch.andThen, h]

theorem Row.patch_idem (r : Row) (p : Patch) : (r.patch p).patch p = r.patch p :=
  funext fun c ↦ by cases h : p c <;> simp [h]

/-- The patch a list of statements makes to an existing row, first to last. -/
def patchAll : List Statement → Patch
  | [] => fun _ ↦ none
  | s :: ss => s.patch.andThen (patchAll ss)

/-! ### A row, statement by statement -/

/-- The statements of a run that target one row, applied to it in order. -/
def applyAll (ss : List Statement) (x : Option Row) : Option Row :=
  ss.foldl (fun x s ↦ s.apply x) x

@[simp] theorem applyAll_nil (x : Option Row) : applyAll [] x = x := rfl

@[simp] theorem applyAll_cons (s : Statement) (ss : List Statement) (x : Option Row) :
    applyAll (s :: ss) x = applyAll ss (s.apply x) := rfl

theorem applyAll_append (ss ss' : List Statement) (x : Option Row) :
    applyAll (ss ++ ss') x = applyAll ss' (applyAll ss x) :=
  List.foldl_append _ _ _ _

/-- **A run over an existing row is one patch.** -/
theorem applyAll_some (ss : List Statement) (r : Row) :
    applyAll ss (some r) = some (r.patch (patchAll ss)) := by
  induction ss generalizing r with
  | nil => rfl
  | cons s ss ih => rw [applyAll_cons, Statement.apply_some, ih, Row.patch_patch]; rfl

/-- **No statement deletes a row**: a row is absent after a run exactly when it was absent
before and no `INSERT` targeted it. -/
theorem applyAll_eq_none_iff {ss : List Statement} {x : Option Row} :
    applyAll ss x = none ↔ x = none ∧ ∀ s ∈ ss, s.isInsert = false := by
  induction ss generalizing x with
  | nil => simp
  | cons s ss ih =>
    cases x with
    | some r => simp [applyAll_some]
    | none =>
      rw [applyAll_cons, ih, Statement.apply_none, ← Option.not_isSome_iff_eq_none,
        Statement.created_isSome_iff]
      simp

/-! ### Databases -/

/-- A database: for each table and key, the row with that key, if any. -/
def Db := TableName → String → Option Row

/-- The database with both tables empty. -/
def Db.empty : Db := fun _ _ ↦ none

/-- Execute one statement, taking effect. -/
def Db.exec (db : Db) (s : Statement) : Db :=
  fun t k ↦ if s.targets t k then s.apply (db t k) else db t k

/-- Execute statements in order, each taking effect. -/
def Db.run (db : Db) (ss : List Statement) : Db := ss.foldl Db.exec db

theorem Db.run_append (db : Db) (ss ss' : List Statement) :
    db.run (ss ++ ss') = (db.run ss).run ss' :=
  List.foldl_append _ _ _ _

/-- **Rows are independent**: a row after a run depends only on the row before and on the
statements that target it. -/
theorem Db.run_apply (db : Db) (ss : List Statement) (t : TableName) (k : String) :
    db.run ss t k = applyAll (ss.filter (·.targets t k)) (db t k) := by
  induction ss generalizing db with
  | nil => rfl
  | cons s ss ih =>
    rw [Db.run, List.foldl_cons, ← Db.run, ih, List.filter_cons]
    by_cases h : s.targets t k <;> simp [h, Db.exec]

/-- Cut a run at a statement targeting a row: the row after the run is that statement applied
to the row before it, followed by the later statements targeting the row. -/
theorem Db.run_apply_cut (db : Db) (pre post : List Statement) {s : Statement} {t : TableName}
    {k : String} (hs : s.targets t k) :
    db.run (pre ++ s :: post) t k = applyAll (post.filter (·.targets t k)) (s.apply (db.run pre t k)) := by
  rw [Db.run_append, Db.run_apply]
  simp only [List.filter_cons, hs, if_true, applyAll_cons]

/-- A row exists after a run exactly when it existed before or the run inserted it. -/
theorem Db.run_isSome_iff (db : Db) (ss : List Statement) (t : TableName) (k : String) :
    (db.run ss t k).isSome ↔ (db t k).isSome ∨ ∃ s ∈ ss, s.targets t k ∧ s.isInsert := by
  rw [← Option.ne_none_iff_isSome, ← Option.ne_none_iff_isSome, Ne, Db.run_apply,
    applyAll_eq_none_iff, not_and_or]
  exact or_congr Iff.rfl (by simp [List.mem_filter, and_assoc])

theorem Db.run_append_singleton (db : Db) (ss : List Statement) (s : Statement) :
    db.run (ss ++ [s]) = (db.run ss).exec s := by
  rw [Db.run_append]; rfl

@[simp] theorem Db.exec_apply (db : Db) (s : Statement) (t : TableName) (k : String) :
    db.exec s t k = if s.targets t k then s.apply (db t k) else db t k := rfl

/-- A row no statement of a run targets is left as it was. -/
theorem Db.run_apply_of_not_targets {db : Db} {ss : List Statement} {t : TableName} {k : String}
    (h : ∀ s ∈ ss, s.targets t k = false) : db.run ss t k = db t k := by
  rw [Db.run_apply, List.filter_eq_nil_iff.2 fun s hs ↦ by simp [h s hs]]
  rfl

/-- **Statements with distinct targets do not see each other**: each finds its row as it was
before the run. -/
theorem Db.run_apply_of_nodup {db : Db} {ss : List Statement}
    (hnd : (ss.map fun s ↦ (s.table, s.key)).Nodup) {s : Statement} (hs : s ∈ ss) :
    db.run ss s.table s.key = s.apply (db s.table s.key) := by
  rw [Db.run_apply]
  suffices ss.filter (·.targets s.table s.key) = [s] by rw [this]; rfl
  induction ss with
  | nil => cases hs
  | cons s' ss ih =>
    rw [List.map_cons, List.nodup_cons] at hnd
    rcases List.mem_cons.1 hs with rfl | hs
    · rw [List.filter_cons_of_pos (by simp), List.filter_eq_nil_iff.2]
      intro x hx hxt
      obtain ⟨ht, hk⟩ := Statement.targets_eq_true.1 hxt
      exact hnd.1 (List.mem_map.2 ⟨x, hx, by rw [ht, hk]⟩)
    · rw [List.filter_cons_of_neg, ih hnd.2 hs]
      intro hst
      obtain ⟨ht, hk⟩ := Statement.targets_eq_true.1 hst
      exact hnd.1 (List.mem_map.2 ⟨s, hs, by rw [ht, hk]⟩)

/-- Where a list ending in `a` splits around one of its elements. -/
theorem exists_append_cons_snoc {α : Type} {P : List α → α → Prop} {l : List α} {a : α} :
    (∃ pre x post, l ++ [a] = pre ++ x :: post ∧ P pre x) ↔
      (∃ pre x post, l = pre ++ x :: post ∧ P pre x) ∨ P l a := by
  constructor
  · rintro ⟨pre, x, post, h, hp⟩
    induction post using List.reverseRecOn with
    | nil =>
      obtain ⟨rfl, hx⟩ := List.append_inj' h rfl
      exact .inr ((List.singleton_inj.1 hx) ▸ hp)
    | append_singleton post b _ =>
      rw [← List.cons_append, ← List.append_assoc] at h
      obtain ⟨rfl, -⟩ := List.append_inj' h rfl
      exact .inl ⟨pre, x, post, rfl, hp⟩
  · rintro (⟨pre, x, post, rfl, hp⟩ | hp)
    · exact ⟨pre, x, post ++ [a], by simp, hp⟩
    · exact ⟨l, a, [], rfl, hp⟩

end ActaBoards.Postgres
