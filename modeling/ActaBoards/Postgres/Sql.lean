import ActaBoards.Chain.ObjectId
import ActaBoards.Postgres.Schema

/-!
# The SQL text of a statement, and how PostgreSQL reads it back

The handlers do not hand PostgreSQL a `Statement`: they concatenate SQL text, each string
value passed through `escape_string`, which is libpq's `PQescapeLiteral`. This module says
what that text is and proves that it means the statement the rest of the development
executes as data.

* `Statement.toSql` writes a statement the way the handlers write theirs: keywords, table and
  column names, numbers and `to_timestamp(…)` as the code spells them, every string through
  `escapeLiteral`.
* `escapeLiteral` is `PQescapeLiteral` as libpq documents it: it stops at the first NUL
  character, doubles each quote and each backslash, and wraps the result in quotes; a string
  holding a backslash becomes an escape-string literal ` E'…'`, with a leading blank.
* `parseStatement` reads the two statement shapes back, as PostgreSQL reads this fragment of
  SQL: identifiers, numbers, keywords, and quoted literals in which `''` stands for a quote and,
  in an `E'…'` literal, `\c` for `c`.

**The text reads back as the statement** (`parseStatement_toSql`): whatever the strings hold,
the text of a statement parses to that statement, with each string cut at its first NUL. No
value can change which table, key, columns or clauses a statement has. So `execute_sql` on the
texts of a run is `Db.runChecked` on the statements cut at NUL (`Db.runSqlText_toSql`): the
statements as data, on which the rest of the development is proved, are what PostgreSQL runs.

`escape_string` returns its input unescaped when there is no connection, and `''` when
`PQescapeLiteral` fails; the handlers only run with a connection (`on_block` returns first
without one), and a Lean string is always well-formed UTF-8, the only input libpq refuses
besides running out of memory. Neither branch is modelled.
-/

namespace ActaBoards.Postgres

/-! ### Names -/

def TableName.sqlName : TableName → String
  | .indexerContentCards => "indexer_content_cards"
  | .indexerPermissions => "indexer_permissions"

/-- The `UNIQUE` column a table is keyed by. -/
def TableName.keyColumn : TableName → String
  | .indexerContentCards => "content_card_id"
  | .indexerPermissions => "permission_id"

def Column.sqlName : Column → String
  | .subjectAccount => "subject_account"
  | .operatorAccount => "operator_account"
  | .hash => "hash"
  | .url => "url"
  | .type => "type"
  | .description => "description"
  | .permissionType => "permission_type"
  | .objectId => "object_id"
  | .contentKey => "content_key"
  | .storageData => "storage_data"
  | .blockNum => "block_num"
  | .blockTime => "block_time"
  | .trxId => "trx_id"
  | .operationType => "operation_type"
  | .isRemoved => "is_removed"

/-- The characters of an unquoted identifier of this fragment: lower-case letters and `_`. -/
def isIdentChar (c : Char) : Bool := c.isLower || c = '_'

theorem TableName.sqlName_ident (t : TableName) :
    t.sqlName.data ≠ [] ∧ ∀ c ∈ t.sqlName.data, isIdentChar c := by
  cases t <;> decide

theorem Column.sqlName_ident (c : Column) :
    c.sqlName.data ≠ [] ∧ ∀ d ∈ c.sqlName.data, isIdentChar d := by
  cases c <;> decide

def TableName.ofSqlName (cs : List Char) : Option TableName :=
  [TableName.indexerContentCards, .indexerPermissions].find? (·.sqlName.data = cs)

def Column.ofSqlName (cs : List Char) : Option Column :=
  [Column.subjectAccount, .operatorAccount, .hash, .url, .type, .description, .permissionType,
    .objectId, .contentKey, .storageData, .blockNum, .blockTime, .trxId, .operationType,
    .isRemoved].find? (·.sqlName.data = cs)

@[simp] theorem TableName.ofSqlName_sqlName (t : TableName) :
    TableName.ofSqlName t.sqlName.data = some t := by
  cases t <;> rfl

@[simp] theorem Column.ofSqlName_sqlName (c : Column) :
    Column.ofSqlName c.sqlName.data = some c := by
  cases c <;> rfl

/-! ### Literals -/

/-- The characters of `s` before its first NUL. -/
def cutNul (s : String) : String := ⟨s.data.takeWhile (· != '\x00')⟩

/-- A character as `PQescapeLiteral` writes it inside the quotes: a quote or a backslash
doubled. -/
def escapeChar (c : Char) : List Char := if c = '\'' ∨ c = '\\' then [c, c] else [c]

/-- `escape_string`, that is `PQescapeLiteral`. -/
def escapeLiteral (s : String) : String :=
  let cs := (cutNul s).data
  ⟨(if '\\' ∈ cs then [' ', 'E'] else []) ++ '\'' :: (cs.flatMap escapeChar ++ ['\''])⟩

/-- The characters that stand for another character after a backslash in an escape-string
literal: `\b \f \n \r \t`, octal, hexadecimal and Unicode escapes. -/
def isSpecialEscape (c : Char) : Bool := c ∈ "bfnrtxuU01234567".data

/-- The body of a quoted literal up to its closing quote, and what follows it. `''` stands for
a quote; in an escape-string literal (`e`) `\c` stands for `c`. The special escapes never occur
in what the plugin writes; they are refused rather than modelled. -/
def readBody (e : Bool) : List Char → Option (List Char × List Char)
  | [] => none
  | c :: cs =>
    if c = '\'' then
      match cs with
      | '\'' :: ds => (readBody e ds).map (Prod.map ('\'' :: ·) id)
      | _ => some ([], cs)
    else if e ∧ c = '\\' then
      match cs with
      | d :: ds => if isSpecialEscape d then none else (readBody e ds).map (Prod.map (d :: ·) id)
      | [] => none
    else (readBody e cs).map (Prod.map (c :: ·) id)

/-- A string literal: ` E'…'` or `'…'`. -/
def readLiteral : List Char → Option (String × List Char)
  | ' ' :: 'E' :: '\'' :: cs => (readBody true cs).map (Prod.map String.mk id)
  | '\'' :: cs => (readBody false cs).map (Prod.map String.mk id)
  | _ => none

theorem readBody_quote_quote (e : Bool) (cs : List Char) :
    readBody e ('\'' :: '\'' :: cs) = (readBody e cs).map (Prod.map ('\'' :: ·) id) := by
  simp [readBody]

theorem readBody_backslash (d : Char) (cs : List Char) :
    readBody true ('\\' :: d :: cs) =
      if isSpecialEscape d then none else (readBody true cs).map (Prod.map (d :: ·) id) := by
  rw [readBody.eq_def]; simp

theorem readBody_cons_of_ne {e : Bool} {c : Char} (hq : c ≠ '\'') (hb : ¬(e ∧ c = '\\'))
    (cs : List Char) : readBody e (c :: cs) = (readBody e cs).map (Prod.map (c :: ·) id) := by
  rw [readBody.eq_def]; simp [hq, hb]

theorem readBody_escape {e : Bool} {rest : List Char} (hrest : ∀ c ∈ rest.head?, c ≠ '\'') :
    ∀ {cs : List Char}, ('\\' ∈ cs → e = true) →
      readBody e (cs.flatMap escapeChar ++ '\'' :: rest) = some (cs, rest)
  | [], _ => by
    cases rest with
    | nil => rfl
    | cons c rest => simp [readBody, hrest c rfl]
  | c :: cs, he => by
    have ih : readBody e (cs.flatMap escapeChar ++ '\'' :: rest) = some (cs, rest) :=
      readBody_escape hrest fun h ↦ he (List.mem_cons_of_mem c h)
    rw [List.flatMap_cons, List.append_assoc]
    by_cases hq : c = '\''
    · subst hq
      rw [show escapeChar '\'' = ['\'', '\''] from rfl, List.cons_append, List.cons_append,
        List.nil_append, readBody_quote_quote, ih]
      rfl
    by_cases hb : c = '\\'
    · subst hb
      obtain rfl := he (List.mem_cons_self _ _)
      rw [show escapeChar '\\' = ['\\', '\\'] from rfl, List.cons_append, List.cons_append,
        List.nil_append, readBody_backslash, if_neg (by decide), ih]
      rfl
    · rw [escapeChar, if_neg (by tauto), List.singleton_append, readBody_cons_of_ne hq (by tauto),
        ih]
      rfl

/-- **An escaped string reads back as itself, cut at its first NUL**, whatever follows the
closing quote except another quote. -/
theorem readLiteral_escapeLiteral (s : String) {rest : List Char}
    (hrest : ∀ c ∈ rest.head?, c ≠ '\'') :
    readLiteral ((escapeLiteral s).data ++ rest) = some (cutNul s, rest) := by
  by_cases hb : '\\' ∈ (cutNul s).data
  · simp [escapeLiteral, hb, readLiteral, readBody_escape hrest fun _ ↦ rfl]
  · simp [escapeLiteral, hb, readLiteral, readBody_escape hrest fun h ↦ absurd h hb]

example : escapeLiteral "it's\x00 gone" = "'it''s'" := by decide

example : escapeLiteral "a\\b" = " E'a\\\\b'" := by decide

theorem cutNul_eq_self {s : String} (h : '\x00' ∉ s.data) : cutNul s = s :=
  String.ext (List.takeWhile_eq_self_iff.2 fun c hc ↦ by
    simpa using fun e : c = '\x00' ↦ h (e ▸ hc))

/-! ### Reading the other pieces -/

/-- The longest nonempty prefix of characters satisfying `p`, and what follows it. -/
def readWhile (p : Char → Bool) (cs : List Char) : Option (List Char × List Char) :=
  if cs.takeWhile p = [] then none else some (cs.takeWhile p, cs.dropWhile p)

theorem readWhile_append {p : Char → Bool} {ds rest : List Char} (hne : ds ≠ [])
    (hds : ∀ c ∈ ds, p c) (hrest : ∀ c ∈ rest.head?, p c = false) :
    readWhile p (ds ++ rest) = some (ds, rest) := by
  have ht : (ds ++ rest).takeWhile p = ds := by
    rw [List.takeWhile_append_of_pos hds]
    cases rest with
    | nil => simp
    | cons c rest => simp [List.takeWhile_cons_of_neg, hrest c rfl]
  have hd : (ds ++ rest).dropWhile p = rest := by
    rw [List.dropWhile_append, if_pos (by simpa [List.dropWhile_eq_nil_iff] using hds)]
    cases rest with
    | nil => rfl
    | cons c rest => simp [List.dropWhile_cons_of_neg, hrest c rfl]
  simp [readWhile, ht, hd, hne]

theorem readWhile_of_head {p : Char → Bool} {cs : List Char} (h : ∀ c ∈ cs.head?, p c = false) :
    readWhile p cs = none := by
  cases cs with
  | nil => rfl
  | cons c cs => simp [readWhile, List.takeWhile_cons_of_neg, h c rfl]

/-- A decimal numeral. -/
def readNat (cs : List Char) : Option (ℕ × List Char) :=
  (readWhile Char.isDigit cs).map (Prod.map decimalValue id)

theorem readNat_repr (n : ℕ) {rest : List Char} (hrest : ∀ c ∈ rest.head?, c.isDigit = false) :
    readNat ((Nat.repr n).data ++ rest) = some (n, rest) := by
  obtain ⟨c, cs, hc⟩ := repr_data_eq_cons n
  rw [readNat, readWhile_append (by simp [hc]) (fun _ ↦ isDigit_of_mem_repr) hrest]
  simp

def readTable (cs : List Char) : Option (TableName × List Char) := do
  let (n, r) ← readWhile isIdentChar cs
  let t ← TableName.ofSqlName n
  pure (t, r)

def readColumn (cs : List Char) : Option (Column × List Char) := do
  let (n, r) ← readWhile isIdentChar cs
  let c ← Column.ofSqlName n
  pure (c, r)

/-- The fixed text `w`, and what follows it. -/
def expect (w : String) (cs : List Char) : Option (List Char) :=
  if w.data.isPrefixOf cs then some (cs.drop w.data.length) else none

theorem isPrefixOf_append_self (l r : List Char) : l.isPrefixOf (l ++ r) = true :=
  List.isPrefixOf_iff_prefix.2 (List.prefix_append _ _)

theorem expect_append (w : String) (rest : List Char) : expect w (w.data ++ rest) = some rest := by
  rw [expect, if_pos (isPrefixOf_append_self _ _), List.drop_left]

theorem expect_cons_of_ne {w : String} {d c : Char} {ds cs : List Char} (hw : w.data = d :: ds)
    (h : c ≠ d) : expect w (c :: cs) = none := by
  simp [expect, hw, List.isPrefixOf_cons₂, Ne.symm h]

/-- What may follow a piece of the fragment: nothing, a separating `,`, a closing bracket or a
blank. -/
def Stops (rest : List Char) : Prop := ∀ c ∈ rest.head?, c = ',' ∨ c = ')' ∨ c = ' '

/-- What may follow a list of the fragment: nothing, a closing bracket or a blank. -/
def Ends (rest : List Char) : Prop := ∀ c ∈ rest.head?, c = ')' ∨ c = ' '

theorem Ends.stops {rest : List Char} (h : Ends rest) : Stops rest := fun c hc ↦ by
  rcases h c hc with h | h <;> simp [h]

theorem Stops.not_ident {rest : List Char} (h : Stops rest) :
    ∀ c ∈ rest.head?, isIdentChar c = false :=
  fun c hc ↦ by rcases h c hc with rfl | rfl | rfl <;> rfl

theorem Stops.not_digit {rest : List Char} (h : Stops rest) : ∀ c ∈ rest.head?, c.isDigit = false :=
  fun c hc ↦ by rcases h c hc with rfl | rfl | rfl <;> rfl

theorem Stops.not_quote {rest : List Char} (h : Stops rest) : ∀ c ∈ rest.head?, c ≠ '\'' :=
  fun c hc ↦ by rcases h c hc with rfl | rfl | rfl <;> decide

theorem readTable_sqlName (t : TableName) {rest : List Char} (h : Stops rest) :
    readTable (t.sqlName.data ++ rest) = some (t, rest) := by
  simp [readTable, readWhile_append (t.sqlName_ident).1 (t.sqlName_ident).2 h.not_ident]

theorem readColumn_sqlName (c : Column) {rest : List Char} (h : Stops rest) :
    readColumn (c.sqlName.data ++ rest) = some (c, rest) := by
  simp [readColumn, readWhile_append (c.sqlName_ident).1 (c.sqlName_ident).2 h.not_ident]

/-! ### Values and assignments -/

def Value.toSql : Value → String
  | .null => "NULL"
  | .text s => escapeLiteral s
  | .int n => Nat.repr n
  | .timestamp secs => "to_timestamp(" ++ Nat.repr secs ++ ")"
  | .bool b => if b then "TRUE" else "FALSE"

def Expr.toSql : Expr → String
  | .excluded c => "EXCLUDED." ++ c.sqlName
  | .lit v => v.toSql

/-- `c = x`, as a `SET` clause writes it. -/
def assignSql {α : Type} (toSql : α → String) (cx : Column × α) : String :=
  cx.1.sqlName ++ " = " ++ toSql cx.2

/-- Strings are cut at their first NUL; everything else is as it was. -/
def Value.cutNul : Value → Value
  | .text s => .text (Postgres.cutNul s)
  | v => v

def Expr.cutNul : Expr → Expr
  | .lit v => .lit v.cutNul
  | x => x

/-- A value of the fragment: its first character says which kind it is. -/
def readValue : List Char → Option (Value × List Char)
  | [] => none
  | c :: cs =>
    if c.isDigit then (readNat (c :: cs)).map (Prod.map .int id)
    else if c = '\'' ∨ c = ' ' then (readLiteral (c :: cs)).map (Prod.map .text id)
    else if c = 't' then do
      let r ← expect "o_timestamp(" cs
      let (n, r) ← readNat r
      let r ← expect ")" r
      pure (.timestamp n, r)
    else if c = 'N' then (expect "ULL" cs).map (.null, ·)
    else if c = 'T' then (expect "RUE" cs).map (.bool true, ·)
    else if c = 'F' then (expect "ALSE" cs).map (.bool false, ·)
    else none

def readExpr (cs : List Char) : Option (Expr × List Char) :=
  match expect "EXCLUDED." cs with
  | some r => (readColumn r).map (Prod.map .excluded id)
  | none => (readValue cs).map (Prod.map .lit id)

def readAssign {α : Type} (read : List Char → Option (α × List Char)) (cs : List Char) :
    Option ((Column × α) × List Char) := do
  let (c, r) ← readColumn cs
  let r ← expect " = " r
  let (x, r) ← read r
  pure ((c, x), r)

theorem readValue_toSql (v : Value) {rest : List Char} (h : Stops rest) :
    readValue (v.toSql.data ++ rest) = some (v.cutNul, rest) := by
  cases v with
  | null => simp [readValue, expect, Value.toSql, Value.cutNul]
  | bool b => cases b <;> simp [readValue, expect, Value.toSql, Value.cutNul]
  | int n =>
    obtain ⟨c, cs, hc⟩ := repr_data_eq_cons n
    have hd : c.isDigit := isDigit_of_mem_repr (hc ▸ List.mem_cons_self c cs)
    have hr := readNat_repr n h.not_digit
    rw [hc, List.cons_append] at hr
    simp only [Value.toSql, hc, List.cons_append]
    simp [readValue, hd, hr, Value.cutNul]
  | timestamp secs =>
    have hr := readNat_repr secs (by simp : ∀ c ∈ (')' :: rest).head?, c.isDigit = false)
    simp [readValue, expect, Value.toSql, Value.cutNul, hr]
  | text s =>
    have hl := readLiteral_escapeLiteral s h.not_quote
    by_cases hb : '\\' ∈ (cutNul s).data <;>
      simp_all [readValue, Value.toSql, Value.cutNul, escapeLiteral]

/-- A value's text never starts with `E`, so it is never read as `EXCLUDED.`. -/
theorem Value.toSql_data_cons (v : Value) : ∃ c cs, v.toSql.data = c :: cs ∧ c ≠ 'E' := by
  cases v with
  | int n =>
    obtain ⟨c, cs, hc⟩ := repr_data_eq_cons n
    have hd : c.isDigit := isDigit_of_mem_repr (hc ▸ List.mem_cons_self c cs)
    exact ⟨c, cs, hc, fun e ↦ absurd (e ▸ hd) (by decide)⟩
  | text s =>
    by_cases hb : '\\' ∈ (Postgres.cutNul s).data <;> simp [Value.toSql, escapeLiteral, hb]
  | bool b => cases b <;> exact ⟨_, _, rfl, by decide⟩
  | _ => exact ⟨_, _, rfl, by decide⟩

theorem readExpr_toSql (x : Expr) {rest : List Char} (h : Stops rest) :
    readExpr (x.toSql.data ++ rest) = some (x.cutNul, rest) := by
  cases x with
  | excluded c => simp [readExpr, expect, Expr.toSql, Expr.cutNul, readColumn_sqlName c h]
  | lit v =>
    obtain ⟨c, cs, hc, hE⟩ := v.toSql_data_cons
    have hv := readValue_toSql v h
    rw [hc, List.cons_append] at hv
    simp [readExpr, Expr.toSql, Expr.cutNul, hc, expect_cons_of_ne rfl hE, hv]

theorem readAssign_assignSql {α : Type} {read : List Char → Option (α × List Char)}
    {toSql : α → String} {f : α → α}
    (hread : ∀ x rest, Stops rest → read ((toSql x).data ++ rest) = some (f x, rest))
    (cx : Column × α) {rest : List Char} (h : Stops rest) :
    readAssign read ((assignSql toSql cx).data ++ rest) = some ((cx.1, f cx.2), rest) := by
  simp [readAssign, assignSql, expect, isPrefixOf_append_self,
    readColumn_sqlName cx.1 (by simp [Stops] : Stops (' ' :: _)), hread _ _ h]

theorem readAssign_of_ends {α : Type} {read : List Char → Option (α × List Char)}
    {rest : List Char} (h : Ends rest) : readAssign read rest = none := by
  simp [readAssign, readColumn, readWhile_of_head h.stops.not_ident]

/-! ### Lists -/

/-- Items, each after a `, `. -/
def tailSql {α : Type} (toSql : α → String) : List α → String
  | [] => ""
  | a :: as => ", " ++ toSql a ++ tailSql toSql as

/-- Items separated by `, `. -/
def commaSep {α : Type} (toSql : α → String) : List α → String
  | [] => ""
  | a :: as => toSql a ++ tailSql toSql as

/-- Items, each after a `, `, for as long as one follows. Each item read leaves less to read. -/
def readTail {α : Type} (read : List Char → Option (α × List Char)) (cs : List Char) :
    Option (List α × List Char) :=
  match expect ", " cs with
  | none => some ([], cs)
  | some r =>
    match read r with
    | none => none
    | some (a, r) =>
      if r.length < cs.length then (readTail read r).map (Prod.map (a :: ·) id) else none
termination_by cs.length

/-- Items separated by `, `, none if the first cannot be read. -/
def readSep {α : Type} (read : List Char → Option (α × List Char)) (cs : List Char) :
    Option (List α × List Char) :=
  match read cs with
  | none => some ([], cs)
  | some (a, r) => (readTail read r).map (Prod.map (a :: ·) id)

section Lists

variable {α β : Type} {read : List Char → Option (β × List Char)} {toSql : α → String}
  {f : α → β}

theorem stops_tailSql_append (as : List α) {rest : List Char} (h : Ends rest) :
    Stops ((tailSql toSql as).data ++ rest) := by
  cases as with
  | nil => exact h.stops
  | cons a as => simp [Stops, tailSql]

/-- **Each item of a list reads back**, up to what ends the list. -/
theorem readTail_tailSql
    (hread : ∀ x rest, Stops rest → read ((toSql x).data ++ rest) = some (f x, rest))
    {rest : List Char} (h : Ends rest) :
    ∀ as : List α, readTail read ((tailSql toSql as).data ++ rest) = some (as.map f, rest)
  | [] => by
    rw [readTail]
    cases rest with
    | nil => rfl
    | cons c rest =>
      have hc : c ≠ ',' := by rcases h c rfl with rfl | rfl <;> decide
      simp [tailSql, expect_cons_of_ne (rfl : ", ".data = _) hc]
  | a :: as => by
    have hcs : (tailSql toSql (a :: as)).data ++ rest =
        ", ".data ++ ((toSql a).data ++ ((tailSql toSql as).data ++ rest)) := by
      simp [tailSql]
    rw [readTail, hcs, expect_append]
    simp [hread a _ (stops_tailSql_append as h), readTail_tailSql hread h as]
    omega

theorem readSep_commaSep
    (hread : ∀ x rest, Stops rest → read ((toSql x).data ++ rest) = some (f x, rest))
    {rest : List Char} (h : Ends rest) (hnone : read rest = none) (as : List α) :
    readSep read ((commaSep toSql as).data ++ rest) = some (as.map f, rest) := by
  cases as with
  | nil => simp [readSep, commaSep, hnone]
  | cons a as =>
    simp [readSep, commaSep, hread a _ (stops_tailSql_append as h), readTail_tailSql hread h as]

end Lists

/-! ### Statements -/

/-- ` (key, c₁, …, cₙ) VALUES (k, v₁, …, vₙ)`, the row an `INSERT` proposes. -/
def rowSql (t : TableName) (k : String) (values : List (Column × Value)) : String :=
  " (" ++ t.keyColumn ++ tailSql (·.1.sqlName) values ++ ") VALUES (" ++ escapeLiteral k ++
    tailSql (·.2.toSql) values ++ ")"

/-- ` ON CONFLICT (key) DO UPDATE SET d₁ = e₁, …, dₘ = eₘ`. -/
def onConflictSql (t : TableName) (onConflict : List (Column × Expr)) : String :=
  " ON CONFLICT (" ++ t.keyColumn ++ ") DO UPDATE SET " ++
    commaSep (assignSql Expr.toSql) onConflict

/-- The text of a statement, written as the handlers write theirs. -/
def Statement.toSql : Statement → String
  | .insert t k values onConflict =>
    "INSERT INTO " ++ t.sqlName ++ rowSql t k values ++ onConflictSql t onConflict
  | .update t k set =>
    "UPDATE " ++ t.sqlName ++ " SET " ++ commaSep (assignSql Value.toSql) set ++ " WHERE " ++
      t.keyColumn ++ " = " ++ escapeLiteral k

/-- The statement with every string cut at its first NUL: what `PQescapeLiteral` lets through. -/
def Statement.cutNul : Statement → Statement
  | .insert t k values onConflict =>
    .insert t (Postgres.cutNul k) (values.map fun cv ↦ (cv.1, cv.2.cutNul))
      (onConflict.map fun cx ↦ (cx.1, cx.2.cutNul))
  | .update t k set => .update t (Postgres.cutNul k) (set.map fun cv ↦ (cv.1, cv.2.cutNul))

/-- The row of an `INSERT` into `t`: its key, and its columns paired with their values. -/
def readRow (t : TableName) (cs : List Char) :
    Option ((String × List (Column × Value)) × List Char) := do
  let cs ← expect " (" cs
  let cs ← expect t.keyColumn cs
  let (columns, cs) ← readTail readColumn cs
  let cs ← expect ") VALUES (" cs
  let (k, cs) ← readLiteral cs
  let (values, cs) ← readTail readValue cs
  let cs ← expect ")" cs
  if columns.length = values.length then some ((k, columns.zip values), cs) else none

/-- The conflict clause of an `INSERT` into `t`, which ends the statement. -/
def readOnConflict (t : TableName) (cs : List Char) : Option (List (Column × Expr)) := do
  let cs ← expect " ON CONFLICT (" cs
  let cs ← expect t.keyColumn cs
  let cs ← expect ") DO UPDATE SET " cs
  let (onConflict, cs) ← readSep (readAssign readExpr) cs
  if cs = [] then some onConflict else none

/-- The body of an `INSERT` after `INSERT INTO `. -/
def parseInsert (cs : List Char) : Option Statement := do
  let (t, cs) ← readTable cs
  let ((k, values), cs) ← readRow t cs
  let onConflict ← readOnConflict t cs
  pure (.insert t k values onConflict)

/-- The body of an `UPDATE` after `UPDATE `. -/
def parseUpdate (cs : List Char) : Option Statement := do
  let (t, cs) ← readTable cs
  let cs ← expect " SET " cs
  let (set, cs) ← readSep (readAssign readValue) cs
  let cs ← expect " WHERE " cs
  let cs ← expect t.keyColumn cs
  let cs ← expect " = " cs
  let (k, cs) ← readLiteral cs
  if cs = [] then some (.update t k set) else none

/-- A statement of the fragment, or `none` for text outside it. -/
def parseStatement (sql : String) : Option Statement :=
  match expect "INSERT INTO " sql.data, expect "UPDATE " sql.data with
  | some cs, _ => parseInsert cs
  | none, some cs => parseUpdate cs
  | none, none => none

theorem readRow_rowSql (t : TableName) (k : String) (values : List (Column × Value))
    (rest : List Char) :
    readRow t ((rowSql t k values).data ++ rest) =
      some ((cutNul k, values.map fun cv ↦ (cv.1, cv.2.cutNul)), rest) := by
  simp [readRow, rowSql, expect, isPrefixOf_append_self,
    readTail_tailSql (fun (cv : Column × Value) _ h ↦ readColumn_sqlName cv.1 h)
      (by simp [Ends] : Ends (')' :: _)),
    readLiteral_escapeLiteral k (@stops_tailSql_append _ (fun cv : Column × Value ↦ cv.2.toSql)
      values _ (by simp [Ends] : Ends (')' :: _))).not_quote,
    readTail_tailSql (fun (cv : Column × Value) _ h ↦ readValue_toSql cv.2 h)
      (by simp [Ends] : Ends (')' :: _)), List.zip_map']

theorem readOnConflict_onConflictSql (t : TableName) (onConflict : List (Column × Expr)) :
    readOnConflict t (onConflictSql t onConflict).data =
      some (onConflict.map fun cx ↦ (cx.1, cx.2.cutNul)) := by
  have hset := readSep_commaSep
    (fun cx _ h ↦ readAssign_assignSql (fun x _ h ↦ readExpr_toSql x h) cx h)
    (by simp [Ends] : Ends [])
    (readAssign_of_ends (by simp [Ends])) onConflict
  rw [List.append_nil] at hset
  simp [readOnConflict, onConflictSql, expect, isPrefixOf_append_self, hset]

/-- **The text of every statement reads back as the statement**, its strings cut at their
first NUL: no value, whatever it holds, can change the statement's table, key column,
columns or clauses. -/
theorem parseStatement_toSql (s : Statement) : parseStatement s.toSql = some s.cutNul := by
  cases s with
  | insert t k values onConflict =>
    have hrow := readRow_rowSql t k values (onConflictSql t onConflict).data
    have ht := readTable_sqlName t
      (by simp [rowSql, Stops] :
        Stops ((rowSql t k values).data ++ (onConflictSql t onConflict).data))
    rw [parseStatement, Statement.toSql, String.data_append, String.data_append, String.data_append,
      List.append_assoc, List.append_assoc, expect_append]
    simp only [parseInsert, Option.bind_eq_bind, ht, Option.some_bind, hrow,
      readOnConflict_onConflictSql]
    rfl
  | update t k set =>
    have hk : readLiteral (escapeLiteral k).data = some (cutNul k, []) := by
      simpa using readLiteral_escapeLiteral k (by simp : ∀ c ∈ ([] : List Char).head?, c ≠ '\'')
    simp [parseStatement, parseUpdate, Statement.toSql, expect, isPrefixOf_append_self,
      readTable_sqlName t (by simp [Stops] : Stops (' ' :: _)),
      readSep_commaSep (fun cv _ h ↦ readAssign_assignSql (fun v _ h ↦ readValue_toSql v h) cv h)
        (by simp [Ends] : Ends (' ' :: _)) (readAssign_of_ends (by simp [Ends])), hk,
      Statement.cutNul]

/-! ### Executing the text -/

/-- `execute_sql` on the text a handler builds: PostgreSQL reads the statement and executes it
if every value fits its column; text it cannot read fails and changes nothing. -/
def Db.executeSqlText (schema : TableName → Schema) (db : Db) (sql : String) : Bool × Db :=
  match parseStatement sql with
  | some s => db.executeSql schema s
  | none => (false, db)

/-- Texts executed in order through `execute_sql`. -/
def Db.runSqlText (schema : TableName → Schema) (db : Db) (sqls : List String) : Db :=
  sqls.foldl (fun db sql ↦ (db.executeSqlText schema sql).2) db

/-- **Executing a statement's text executes the statement**, its strings cut at their first
NUL. -/
theorem Db.executeSqlText_toSql (schema : TableName → Schema) (db : Db) (s : Statement) :
    db.executeSqlText schema s.toSql = db.executeSql schema s.cutNul := by
  rw [Db.executeSqlText, parseStatement_toSql]

theorem Db.runSqlText_toSql (schema : TableName → Schema) (db : Db) (ss : List Statement) :
    db.runSqlText schema (ss.map Statement.toSql) =
      db.runChecked schema (ss.map Statement.cutNul) := by
  induction ss generalizing db with
  | nil => rfl
  | cons s ss ih =>
    simp only [List.map_cons, Db.runSqlText, List.foldl_cons, Db.executeSqlText_toSql] at ih ⊢
    exact ih _

end ActaBoards.Postgres
