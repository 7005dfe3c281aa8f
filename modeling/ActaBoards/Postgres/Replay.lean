import ActaBoards.Postgres.Table

/-!
# Replaying statements over their own result

When is executing the tail of a run a second time harmless? Per row (`Db.run_apply`) the
question is about one list of statements `L` and one start `x`:
`applyAll L (applyAll L x) = applyAll L x`.

* Over an existing row a run is one patch (`applyAll_some`), and a patch is idempotent, so
  replay is harmless outright.
* Over an absent row replay can go wrong in one way only: a remove that found no row the
  first time finds the row the second time, after a later insert of the run created it. So
  the row must be inserted before it is first removed (`NoUpdateBeforeInsert`).
* The first insert then proposes the row it creates, and replaying its conflict clause over
  the finished row must not move it: every conflict clause must agree with its own insert
  (`Coherent`), which is where `handle_content_card_update`'s literal `operation_type = 42`
  has to match the code it inserts.

`Db.run_run_suffix` puts the three together for a suffix of any run.
-/

namespace ActaBoards.Postgres

/-- In `ss`, no `UPDATE` of row `k` of table `t` comes before the first `INSERT` of it, when
there is one. -/
def NoUpdateBeforeInsert (t : TableName) (k : String) (ss : List Statement) : Prop :=
  ∀ pre post, ss = pre ++ post →
    (∀ s ∈ pre, ¬(s.targets t k = true ∧ s.isInsert = true)) →
    (∃ s ∈ post, s.targets t k = true ∧ s.isInsert = true) →
    ∀ s ∈ pre, ¬(s.targets t k = true ∧ s.isInsert = false)

/-- A run without removes meets the condition for every row. -/
theorem noUpdateBeforeInsert_of_forall_isInsert {t : TableName} {k : String} {ss : List Statement}
    (h : ∀ s ∈ ss, s.isInsert = true) : NoUpdateBeforeInsert t k ss :=
  fun _ _ hss _ _ s hs ⟨_, hi⟩ ↦ Bool.noConfusion ((h s (hss ▸ List.mem_append_left _ hs)).symm.trans hi)

/-- A statement's conflict clause agrees with its own insert: re-applying it to the row the
insert creates changes nothing. -/
def Statement.Coherent (s : Statement) : Prop :=
  ∀ r, s.created = some r → r.patch s.patch = r

/-- A patch that agrees with `r`, slipped between two copies of `q`, is absorbed. -/
theorem Row.patch_absorb {r : Row} {p : Patch} (h : r.patch p = r) (q : Patch) :
    ((r.patch q).patch p).patch q = r.patch q := funext fun c ↦ by
  cases hq : q c with
  | some v => simp [hq]
  | none => simpa [hq] using congrFun h c

/-- The condition survives cutting off a prefix that never inserted the row. -/
theorem NoUpdateBeforeInsert.of_append {t : TableName} {k : String} {u v : List Statement}
    (h : NoUpdateBeforeInsert t k (u ++ v))
    (hu : ∀ s ∈ u, ¬(s.targets t k = true ∧ s.isInsert = true)) : NoUpdateBeforeInsert t k v := by
  intro pre post hv hpre hpost s hs
  refine h (u ++ pre) post (by rw [hv, List.append_assoc]) (fun s hs ↦ ?_) hpost s
    (List.mem_append_right _ hs)
  rcases List.mem_append.1 hs with hs | hs
  exacts [hu s hs, hpre s hs]

/-- The condition survives a map that keeps which row each statement targets and whether it
inserts. -/
theorem NoUpdateBeforeInsert.map {t : TableName} {k : String} {ss : List Statement}
    {f : Statement → Statement} (h : NoUpdateBeforeInsert t k ss)
    (hf : ∀ s ∈ ss, (f s).targets t k = s.targets t k ∧ (f s).isInsert = s.isInsert) :
    NoUpdateBeforeInsert t k (ss.map f) := by
  intro pre post hss hpre hpost y hy
  obtain ⟨l₁, l₂, rfl, rfl, rfl⟩ := List.map_eq_append_iff.1 hss
  have hf₁ (x) (hx : x ∈ l₁) := hf x (List.mem_append_left _ hx)
  have hf₂ (x) (hx : x ∈ l₂) := hf x (List.mem_append_right _ hx)
  obtain ⟨x, hx, rfl⟩ := List.mem_map.1 hy
  rw [(hf₁ x hx).1, (hf₁ x hx).2]
  refine h l₁ l₂ rfl (fun x' hx' ↦ ?_) ?_ x hx
  · rw [← (hf₁ x' hx').1, ← (hf₁ x' hx').2]
    exact hpre _ (List.mem_map_of_mem _ hx')
  · obtain ⟨y', hy', hyt, hyi⟩ := hpost
    obtain ⟨x', hx', rfl⟩ := List.mem_map.1 hy'
    exact ⟨x', hx', (hf₂ x' hx').1 ▸ hyt, (hf₂ x' hx').2 ▸ hyi⟩

/-- Per row, the condition says: the statements targeting the row are all removes, or the
first of them is an insert. -/
theorem NoUpdateBeforeInsert.filter {t : TableName} {k : String} {ss : List Statement}
    (h : NoUpdateBeforeInsert t k ss) :
    (∀ s ∈ ss.filter (·.targets t k), s.isInsert = false) ∨
      ∃ s L, ss.filter (·.targets t k) = s :: L ∧ s.isInsert = true := by
  cases hL : ss.filter (·.targets t k) with
  | nil => exact .inl fun _ h ↦ absurd h (List.not_mem_nil _)
  | cons s L =>
    cases hs : s.isInsert
    case true => exact .inr ⟨s, L, rfl, hs⟩
    -- the first statement on the row is a remove: an insert after it would break `h`
    refine .inl fun x hx ↦ Bool.eq_false_iff.2 fun hxi ↦ ?_
    obtain ⟨l₁, l₂, rfl, hl₁, hst, rfl⟩ := List.filter_eq_cons_iff.1 hL
    rcases List.mem_cons.1 hx with rfl | hx
    · exact Bool.noConfusion (hs.symm.trans hxi)
    obtain ⟨hx₂, hxt⟩ := List.mem_filter.1 hx
    refine h (l₁ ++ [s]) l₂ (by simp) (fun y hy ⟨hyt, hyi⟩ ↦ ?_) ⟨x, hx₂, hxt, hxi⟩ s (by simp)
      ⟨hst, hs⟩
    rcases List.mem_append.1 hy with hy | hy
    · exact hl₁ y hy hyt
    · exact Bool.noConfusion (hs.symm.trans (List.mem_singleton.1 hy ▸ hyi))

/-- **Replay of one row.** -/
theorem applyAll_applyAll {L : List Statement} {x : Option Row} (hc : ∀ s ∈ L, s.Coherent)
    (h : x.isSome ∨ (∀ s ∈ L, s.isInsert = false) ∨ ∃ s L', L = s :: L' ∧ s.isInsert = true) :
    applyAll L (applyAll L x) = applyAll L x := by
  cases x with
  | some r => rw [applyAll_some, applyAll_some, Row.patch_idem]
  | none =>
    rcases h with h | h | ⟨s, L', rfl, hs⟩
    · simp at h
    · rw [applyAll_eq_none_iff.2 ⟨rfl, h⟩, applyAll_eq_none_iff.2 ⟨rfl, h⟩]
    · obtain ⟨r₀, hr₀⟩ := Option.isSome_iff_exists.1 (Statement.created_isSome_iff.2 hs)
      have hr := hc s (List.mem_cons_self _ _) r₀ hr₀
      have hrun : applyAll (s :: L') none = some (r₀.patch (patchAll L')) := by
        rw [applyAll_cons, Statement.apply_none, hr₀, applyAll_some]
      rw [hrun, applyAll_cons, Statement.apply_some, applyAll_some, Row.patch_absorb hr]

/-- **Replaying a suffix of a run changes nothing**, when every conflict clause of the suffix
agrees with its own insert and no row absent at the start is removed before it is first
inserted. -/
theorem Db.run_run_suffix {db : Db} {u v : List Statement} (hc : ∀ s ∈ v, s.Coherent)
    (h : ∀ t k, db t k = none → NoUpdateBeforeInsert t k (u ++ v)) :
    (db.run (u ++ v)).run v = db.run (u ++ v) := by
  funext t k
  rw [Db.run_append, Db.run_apply, Db.run_apply (db.run u)]
  refine applyAll_applyAll (fun s hs ↦ hc s (List.mem_filter.1 hs).1) ?_
  cases hy : db.run u t k with
  | some r => exact .inl rfl
  | none =>
    rw [Db.run_apply, applyAll_eq_none_iff] at hy
    refine .inr ((h t k hy.1).of_append fun s hs ⟨ht, hi⟩ ↦ ?_).filter
    exact Bool.noConfusion ((hy.2 s (List.mem_filter.2 ⟨hs, ht⟩)).symm.trans hi)

end ActaBoards.Postgres
