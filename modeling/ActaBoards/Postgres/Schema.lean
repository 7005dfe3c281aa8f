import Mathlib.Algebra.Group.Nat.Basic
import ActaBoards.Postgres.Replay

/-!
# Column types, and what PostgreSQL does with the values a statement assigns

`Db.run` lets every statement take effect as written. PostgreSQL first stores each value a
statement assigns as its column's declared type stores it, and refuses the whole statement if
one does not fit; `execute_sql` then returns `false`, the plugin logs the failure and moves on,
and the database is unchanged. For a `VARCHAR(n)` column SQL's rule is: a longer string is
refused, unless its characters past the `n`-th are all spaces, in which case it is cut to `n`
characters and stored.

* `Schema` is a table's declared types. `SqlType.store` is what a column stores of an assigned
  string (`VARCHAR(n)`'s cut), `Value.fits` whether a value fits a column as it stands, and
  `Statement.coerce` the statement as PostgreSQL executes it: every value it assigns stored as
  its column stores it, the key of an `INSERT` among them (the `WHERE` key of an `UPDATE` only
  compares). `Statement.accepted` checks that every value the coerced statement assigns fits.
* `Db.executeSql` is that sink, and a run through it is the run of the accepted statements as
  they are stored (`Db.runChecked_eq_run_filter`): refusal depends on the statement only, never
  on the data. So the replay law carries over to the real sink, stated of the accepted
  statements (`Db.runChecked_run_suffix`).
* A string without a space is stored as it is (`SqlType.store_eq_self`); the plugin's keys are
  such strings, so its statements keep their keys through the sink (`Statement.key_coerce`).

`EXCLUDED.d` assigned to a column `c` is stored as `d` stores it; the plugin assigns it only to
`d` itself, and a second cut of the same column changes nothing, so that is all that is modelled.
-/

namespace ActaBoards.Postgres

/-- The column types `create_tables` declares. -/
inductive SqlType
  | varchar (n : ℕ)
  | text
  | bigint
  | smallint
  | timestamp
  | boolean
  deriving DecidableEq, Repr

/-- A table's declared types: its key column's, and each other column's (`none` for a column
the table does not have). -/
structure Schema where
  keyType : SqlType
  columnType : Column → Option SqlType

/-- A string a `VARCHAR(n)` column takes: its characters past the `n`-th, if any, are all
spaces. -/
def varcharAdmits (n : ℕ) (s : String) : Bool := (s.data.drop n).all (· == ' ')

/-- What a column of the type stores of an assigned string: a `VARCHAR(n)` cuts a string it
takes to its first `n` characters, and keeps any other (which `Value.fits` then refuses). -/
def SqlType.store : SqlType → String → String
  | .varchar n, s => if varcharAdmits n s then ⟨s.data.take n⟩ else s
  | _, s => s

/-- The value a column of the type stores when assigned `v`. -/
def Value.coerce : Value → SqlType → Value
  | .text s, ty => .text (ty.store s)
  | v, _ => v

/-- Whether a value fits a column of a type as it stands. -/
def Value.fits : Value → SqlType → Bool
  | .null, _ => true
  | .text s, .varchar n => decide (s.length ≤ n)
  | .text _, .text => true
  | .int n, .bigint => decide (n < 2 ^ 63)
  | .int n, .smallint => decide (n < 2 ^ 15)
  | .timestamp _, .timestamp => true
  | .bool _, .boolean => true
  | _, _ => false

/-- Whether a value can be assigned to a column of the schema as it stands. -/
def Schema.admits (sch : Schema) (c : Column) (v : Value) : Bool :=
  match sch.columnType c with
  | some ty => v.fits ty
  | none => false

/-- The value column `c` of the schema stores when assigned `v`. -/
def Schema.coerce (sch : Schema) (c : Column) (v : Value) : Value :=
  match sch.columnType c with
  | some ty => v.coerce ty
  | none => v

/-- A row as the schema's columns store it. -/
def Schema.coerceRow (sch : Schema) (r : Row) : Row := fun c ↦ sch.coerce c (r c)

/-- A patch as the schema's columns store it. -/
def Schema.coercePatch (sch : Schema) (p : Patch) : Patch := fun c ↦ (p c).map (sch.coerce c)

/-- The statement as PostgreSQL executes it: every value it assigns, an `INSERT`'s key among
them, as its column stores it. -/
def Statement.coerce (schema : TableName → Schema) : Statement → Statement
  | .insert t k values set =>
    .insert t ((schema t).keyType.store k) (values.map fun cv ↦ (cv.1, (schema t).coerce cv.1 cv.2))
      (set.map fun
        | (c, .lit v) => (c, .lit ((schema t).coerce c v))
        | (c, .excluded d) => (c, .excluded d))
  | .update t k set => .update t k (set.map fun cv ↦ (cv.1, (schema t).coerce cv.1 cv.2))

/-- Every value the statement assigns fits its column as it stands. -/
def Statement.fits (schema : TableName → Schema) : Statement → Bool
  | .insert t k values set =>
    (Value.text k).fits (schema t).keyType &&
      values.all (fun cv ↦ (schema t).admits cv.1 cv.2) &&
      set.all fun
        | (c, .lit v) => (schema t).admits c v
        | (c, .excluded _) => ((schema t).columnType c).isSome
  | .update t _ set => set.all fun cv ↦ (schema t).admits cv.1 cv.2

/-- PostgreSQL accepts the statement: every value it assigns fits its column once the column
has stored it. -/
def Statement.accepted (schema : TableName → Schema) (s : Statement) : Bool :=
  (s.coerce schema).fits schema

/-- `execute_sql`: whether the statement succeeded, and the database after it. -/
def Db.executeSql (schema : TableName → Schema) (db : Db) (s : Statement) : Bool × Db :=
  if s.accepted schema then (true, db.exec (s.coerce schema)) else (false, db)

/-- A run through `execute_sql`: a refused statement is logged and skipped. -/
def Db.runChecked (schema : TableName → Schema) (db : Db) (ss : List Statement) : Db :=
  ss.foldl (fun db s ↦ (db.executeSql schema s).2) db

example : (Value.text "ab  ").coerce (.varchar 2) = .text "ab" ∧
    (Value.text "abc ").coerce (.varchar 2) = .text "abc " := by decide

/-! ### What a column stores -/

/-- A string without a space is stored as it is: it is cut only when its excess is spaces, and
it has no excess then. -/
theorem SqlType.store_eq_self (ty : SqlType) {s : String} (h : ' ' ∉ s.data) : ty.store s = s := by
  cases ty with
  | varchar n =>
    show (if varcharAdmits n s then ⟨s.data.take n⟩ else s) = s
    split
    · rename_i hv
      have hnil : s.data.drop n = [] := List.eq_nil_iff_forall_not_mem.2 fun c hc ↦ by
        have hc' : c = ' ' := by simpa using List.all_eq_true.1 hv c hc
        exact h (hc' ▸ List.mem_of_mem_drop hc)
      exact String.ext (List.take_of_length_le (List.drop_eq_nil_iff.1 hnil))
    · rfl
  | _ => rfl

/-- A `VARCHAR(n)` column takes a string exactly when the string, once stored, fits. -/
@[simp] theorem fits_store_varchar (n : ℕ) (s : String) :
    (Value.text ((SqlType.varchar n).store s)).fits (.varchar n) = varcharAdmits n s := by
  show decide ((if varcharAdmits n s then (⟨s.data.take n⟩ : String) else s).length ≤ n) = _
  split
  · rename_i hv
    rw [hv]
    exact decide_eq_true (List.length_take_le n s.data)
  · rename_i hv
    have hlt : n < s.length := by
      by_contra hle
      exact hv (by simp [varcharAdmits, List.drop_eq_nil_iff.2 (Nat.le_of_not_lt hle)])
    simp [hv, hlt]

theorem varcharAdmits_of_length_le {n : ℕ} {s : String} (h : s.length ≤ n) :
    varcharAdmits n s = true := by
  simp [varcharAdmits, List.drop_eq_nil_iff.2 h]

@[simp] theorem SqlType.store_text (s : String) : SqlType.text.store s = s := rfl

namespace Schema

variable (sch : Schema) (c : Column)

@[simp] theorem coerce_null : sch.coerce c .null = .null := by
  unfold Schema.coerce; split <;> rfl

@[simp] theorem coerce_int (n : ℕ) : sch.coerce c (.int n) = .int n := by
  unfold Schema.coerce; split <;> rfl

@[simp] theorem coerce_bool (b : Bool) : sch.coerce c (.bool b) = .bool b := by
  unfold Schema.coerce; split <;> rfl

theorem coerce_ne_null {v : Value} (h : v ≠ .null) : sch.coerce c v ≠ .null := by
  unfold Schema.coerce
  split
  · cases v <;> first | exact absurd rfl h | exact fun h' ↦ Value.noConfusion h'
  · exact h

/-- Patching commutes with storing. -/
theorem coerceRow_patch (r : Row) (p : Patch) :
    (sch.coerceRow r).patch (sch.coercePatch p) = sch.coerceRow (r.patch p) := funext fun c ↦ by
  simp only [Row.patch, coerceRow, coercePatch]
  cases p c <;> rfl

end Schema

namespace Statement

variable {schema : TableName → Schema} {s : Statement}

@[simp] theorem table_coerce : (s.coerce schema).table = s.table := by cases s <;> rfl

@[simp] theorem isInsert_coerce : (s.coerce schema).isInsert = s.isInsert := by cases s <;> rfl

/-- A statement whose key holds no space keeps it through the sink. -/
theorem key_coerce (h : ' ' ∉ s.key.data) : (s.coerce schema).key = s.key := by
  cases s with
  | insert t k values set => exact SqlType.store_eq_self _ h
  | update => rfl

theorem targets_coerce (h : ' ' ∉ s.key.data) (t : TableName) (k : String) :
    (s.coerce schema).targets t k = s.targets t k := by
  simp only [targets, table_coerce, key_coerce h]

/-- The row an insert creates, as the columns store it. -/
theorem created_coerce : (s.coerce schema).created = s.created.map (schema s.table).coerceRow := by
  cases s with
  | insert t k values set =>
    refine congrArg some (funext fun c ↦ ?_)
    show ((values.map fun cv ↦ (cv.1, (schema t).coerce cv.1 cv.2)).lookup c).getD .null =
      (schema t).coerce c ((values.lookup c).getD .null)
    induction values with
    | nil => simp
    | cons cv values ih =>
      obtain ⟨col, v⟩ := cv
      by_cases hc : c = col
      · subst hc; simp
      · have hb : (c == col) = false := beq_false_of_ne hc
        simpa only [List.lookup_cons, List.map_cons, hb] using ih
  | update => rfl

end Statement

/-! ### The sink -/

/-- `execute_sql` succeeds exactly on the statements PostgreSQL accepts. -/
theorem Db.executeSql_fst (schema : TableName → Schema) (db : Db) (s : Statement) :
    (db.executeSql schema s).1 = s.accepted schema := by
  unfold Db.executeSql
  split <;> simp_all

/-- **The real sink is the ideal one on the accepted statements, as stored.** -/
theorem Db.runChecked_eq_run_filter (schema : TableName → Schema) (db : Db) (ss : List Statement) :
    db.runChecked schema ss = db.run ((ss.filter (·.accepted schema)).map (·.coerce schema)) := by
  induction ss generalizing db with
  | nil => rfl
  | cons s ss ih =>
    by_cases h : s.accepted schema = true <;>
      simp [Db.runChecked, Db.executeSql, h, List.filter_cons, Db.run] at ih ⊢ <;> exact ih _

/-- **Replay through `execute_sql`**: replaying a suffix changes nothing when the statements keep
their keys through the sink, the suffix's conflict clauses agree with their own inserts once
stored, and the replay law's condition holds of the statements PostgreSQL accepts. -/
theorem Db.runChecked_run_suffix {schema : TableName → Schema} {db : Db} {u v : List Statement}
    (hk : ∀ s ∈ u ++ v, ' ' ∉ s.key.data) (hc : ∀ s ∈ v, (s.coerce schema).Coherent)
    (h : ∀ t k, db t k = none → NoUpdateBeforeInsert t k ((u ++ v).filter (·.accepted schema))) :
    (db.runChecked schema (u ++ v)).runChecked schema v = db.runChecked schema (u ++ v) := by
  have hmap (t k) (hn : db t k = none) :
      NoUpdateBeforeInsert t k (((u ++ v).filter (·.accepted schema)).map (·.coerce schema)) :=
    (h t k hn).map fun s hs ↦
      ⟨Statement.targets_coerce (hk s (List.mem_filter.1 hs).1) t k, Statement.isInsert_coerce⟩
  simp only [Db.runChecked_eq_run_filter, List.filter_append, List.map_append] at hmap ⊢
  refine Db.run_run_suffix (fun s hs ↦ ?_) hmap
  obtain ⟨s', hs', rfl⟩ := List.mem_map.1 hs
  exact hc s' (List.mem_filter.1 hs').1

end ActaBoards.Postgres
