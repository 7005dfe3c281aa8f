import Mathlib.Data.Nat.Digits
import Mathlib.Data.String.Basic

/-!
# Object identifiers and their decimal string form

The plugin never looks inside an `object_id_type`: it prints one, with
`std::string(object_id_type)`, as `space.type.instance`, and it iterates a
`flat_set<object_id_type>` in ascending order. That is all this module models.

* An object id is graphene's packed 64-bit number; `space`, `type` and `instance` are its top
  byte, its next byte and its low 48 bits, and the string form joins the three decimal
  numerals with dots, as the spec writes ids (`1.2.5`, `1.7.3`).
* **The string form is injective** (`ObjectIdType.toString_injective`) and **starts with a
  decimal digit** (`ObjectIdType.toString_ne_pending`), so an id never collides with another
  id's string or with a `pending-` placeholder. Both rest on `Nat.repr` being read back by
  `decimalValue` (`decimalValue_repr`); Lean 4.14 has no `Nat.repr_injective`.
* **It is at most 23 characters long** (`ObjectIdType.length_toString_le`), which is what the
  `VARCHAR(32)` columns of the schema need.
-/

namespace ActaBoards

/-! ### Decimal numerals -/

/-- The value of a string of decimal digits, most significant first. -/
def decimalValue (cs : List Char) : ℕ :=
  cs.foldl (fun n c ↦ 10 * n + (c.toNat - '0'.toNat)) 0

theorem decimalValue_append_singleton (cs : List Char) (c : Char) :
    decimalValue (cs ++ [c]) = 10 * decimalValue cs + (c.toNat - '0'.toNat) := by
  simp [decimalValue]

theorem digitChar_toNat_sub {d : ℕ} (h : d < 10) : (Nat.digitChar d).toNat - '0'.toNat = d :=
  (by decide : ∀ d, d < 10 → (Nat.digitChar d).toNat - '0'.toNat = d) d h

theorem digitChar_isDigit {d : ℕ} (h : d < 10) : (Nat.digitChar d).isDigit :=
  (by decide : ∀ d, d < 10 → (Nat.digitChar d).isDigit) d h

/-- `toDigitsCore` writes the digits of its number in front of what it is given. -/
theorem toDigitsCore_eq_append (f n : ℕ) (acc : List Char) :
    Nat.toDigitsCore 10 f n acc = Nat.toDigitsCore 10 f n [] ++ acc := by
  induction f generalizing n acc with
  | zero => simp [Nat.toDigitsCore]
  | succ f ih =>
    simp only [Nat.toDigitsCore]
    split
    · rfl
    · rw [ih _ (_ :: acc), ih _ [_]]; simp

/-- With enough fuel, the digits `toDigitsCore` writes read back as the number. -/
theorem decimalValue_toDigitsCore {f n : ℕ} (h : n < f) :
    decimalValue (Nat.toDigitsCore 10 f n []) = n := by
  induction f generalizing n with
  | zero => omega
  | succ f ih =>
    simp only [Nat.toDigitsCore]
    split
    · show 10 * 0 + ((n % 10).digitChar.toNat - '0'.toNat) = n
      rw [digitChar_toNat_sub (Nat.mod_lt n (by norm_num))]
      omega
    · rw [toDigitsCore_eq_append, decimalValue_append_singleton, ih (by omega),
        digitChar_toNat_sub (Nat.mod_lt n (by norm_num))]
      omega

theorem isDigit_of_mem_toDigitsCore {f n : ℕ} {c : Char}
    (h : c ∈ Nat.toDigitsCore 10 f n []) : c.isDigit := by
  induction f generalizing n with
  | zero => simp [Nat.toDigitsCore] at h
  | succ f ih =>
    simp only [Nat.toDigitsCore] at h
    split at h
    · simp only [List.mem_singleton] at h
      exact h ▸ digitChar_isDigit (Nat.mod_lt n (by norm_num))
    · rw [toDigitsCore_eq_append, List.mem_append, List.mem_singleton] at h
      exact h.elim ih fun h ↦ h ▸ digitChar_isDigit (Nat.mod_lt n (by norm_num))

@[simp]
theorem decimalValue_repr (n : ℕ) : decimalValue (Nat.repr n).data = n :=
  decimalValue_toDigitsCore (Nat.lt_succ_self n)

theorem repr_injective : Function.Injective Nat.repr := fun m n h ↦ by
  rw [← decimalValue_repr m, ← decimalValue_repr n, h]

theorem isDigit_of_mem_repr {n : ℕ} {c : Char} (h : c ∈ (Nat.repr n).data) : c.isDigit :=
  isDigit_of_mem_toDigitsCore h

/-- A numeral has a first digit. -/
theorem repr_data_eq_cons (n : ℕ) : ∃ c cs, (Nat.repr n).data = c :: cs := by
  show ∃ c cs, Nat.toDigitsCore 10 (n + 1) n [] = c :: cs
  simp only [Nat.toDigitsCore]
  split
  · exact ⟨_, _, rfl⟩
  · rw [toDigitsCore_eq_append]
    cases h : Nat.toDigitsCore 10 n (n / 10) [] <;> exact ⟨_, _, rfl⟩

/-- Cutting two lists at their first `a`. -/
theorem append_cons_cancel {α : Type} [DecidableEq α] {a : α} {x₁ x₂ z₁ z₂ : List α}
    (h₁ : a ∉ x₁) (h₂ : a ∉ x₂) (h : x₁ ++ a :: z₁ = x₂ ++ a :: z₂) : x₁ = x₂ ∧ z₁ = z₂ := by
  have hl : x₁.length = x₂.length := by
    simpa [List.indexOf_append_of_not_mem h₁, List.indexOf_append_of_not_mem h₂] using
      congrArg (List.indexOf a) h
  obtain ⟨hx, hz⟩ := List.append_inj h hl
  exact ⟨hx, (List.cons.inj hz).2⟩

theorem dot_not_mem_repr (n : ℕ) : '.' ∉ (Nat.repr n).data := fun h ↦
  absurd (isDigit_of_mem_repr h) (by decide)

/-- The characters printed ids and the keys built from them are made of: letters, digits, `.`
and `-`. No space and no NUL is among them. -/
def IdChar (c : Char) : Bool := c.isAlphanum || c == '.' || c == '-'

theorem idChar_of_mem_repr {n : ℕ} {c : Char} (h : c ∈ (Nat.repr n).data) : IdChar c := by
  simp [IdChar, Char.isAlphanum, isDigit_of_mem_repr h]

/-! ### Object ids -/

/-- Modelled from the spec: graphene's `object_id_type`, which the sources use but do not
define. The spec shows ids in their string form `space.type.instance` and orders a result's
new ids "by identifier value": the packed 64-bit `number`. -/
structure ObjectIdType where
  /-- The packed value: space in the top byte, type in the next, instance in the low 48 bits. -/
  number : UInt64
  deriving DecidableEq, Repr

namespace ObjectIdType

/-- `space()`: `number >> 56`. -/
def space (o : ObjectIdType) : ℕ := o.number.toNat / 2 ^ 56

/-- `type()`: `number >> 48 & 0xff`. -/
def type (o : ObjectIdType) : ℕ := o.number.toNat / 2 ^ 48 % 2 ^ 8

/-- `instance()`: `number & GRAPHENE_DB_MAX_INSTANCE_ID`, the low 48 bits. -/
def «instance» (o : ObjectIdType) : ℕ := o.number.toNat % 2 ^ 48

/-- `std::string(object_id_type)`: the three parts in decimal, joined by dots. -/
def toString (o : ObjectIdType) : String :=
  Nat.repr o.space ++ "." ++ Nat.repr o.type ++ "." ++ Nat.repr o.«instance»

instance : ToString ObjectIdType := ⟨ObjectIdType.toString⟩

example : (⟨0x0107000000000003⟩ : ObjectIdType).toString = "1.7.3" := by decide

theorem toString_data (o : ObjectIdType) :
    o.toString.data =
      (Nat.repr o.space).data ++ '.' :: ((Nat.repr o.type).data ++ '.' :: (Nat.repr o.«instance»).data) := by
  simp [toString, String.data_append]

/-- The three parts determine the id. -/
theorem ext_parts {o o' : ObjectIdType} (hs : o.space = o'.space) (ht : o.type = o'.type)
    (hi : o.«instance» = o'.«instance») : o = o' := by
  obtain ⟨n⟩ := o
  obtain ⟨n'⟩ := o'
  have h := n.toNat_lt_size
  have h' := n'.toNat_lt_size
  simp only [space, type, «instance», UInt64.size, Nat.reducePow] at hs ht hi h h'
  exact congrArg _ (UInt64.toNat.inj (by omega))

theorem toString_injective : Function.Injective ObjectIdType.toString := fun o o' h ↦ by
  have hd := congrArg String.data h
  rw [toString_data, toString_data] at hd
  obtain ⟨hs, hd⟩ := append_cons_cancel (dot_not_mem_repr _) (dot_not_mem_repr _) hd
  obtain ⟨ht, hi⟩ := append_cons_cancel (dot_not_mem_repr _) (dot_not_mem_repr _) hd
  exact ext_parts (repr_injective (String.ext hs)) (repr_injective (String.ext ht))
    (repr_injective (String.ext hi))

/-- An id's string starts with a digit, so it is never a `pending-` placeholder. -/
theorem toString_ne_pending (o : ObjectIdType) (s : String) : o.toString ≠ "pending-" ++ s := by
  intro h
  have hd := congrArg String.data h
  obtain ⟨c, cs, hc⟩ := repr_data_eq_cons o.space
  rw [toString_data, hc, String.data_append] at hd
  have hp : c = 'p' := List.head_eq_of_cons_eq hd
  exact absurd (isDigit_of_mem_repr (hc ▸ List.mem_cons_self c cs)) (by rw [hp]; decide)

theorem idChar_of_mem_toString {o : ObjectIdType} {c : Char} (h : c ∈ o.toString.data) :
    IdChar c := by
  rw [toString_data] at h
  simp only [List.mem_append, List.mem_cons] at h
  rcases h with h | rfl | h | rfl | h <;> first | exact idChar_of_mem_repr h | rfl

theorem toString_isEmpty (o : ObjectIdType) : o.toString.isEmpty = false := by
  rw [Bool.eq_false_iff, Ne, String.isEmpty_iff]
  intro h
  have hd := congrArg String.data h
  rw [toString_data] at hd
  simp at hd

theorem length_toString_le (o : ObjectIdType) : o.toString.length ≤ 23 := by
  have h := o.number.toNat_lt_size
  simp only [UInt64.size] at h
  have hs := Nat.repr_length o.space 3 (by norm_num) (by simp only [space]; omega)
  have ht := Nat.repr_length o.type 3 (by norm_num) (by simp only [type]; omega)
  have hi := Nat.repr_length o.«instance» 15 (by norm_num) (by simp only [«instance»]; omega)
  simp only [toString, String.length_append]
  have : ".".length = 1 := rfl
  omega

end ObjectIdType

/-- A `flat_set<object_id_type>`, read in iteration order: strictly ascending by `number`. -/
structure FlatSet where
  /-- The elements, as `begin()` to `end()` visits them. -/
  elems : List ObjectIdType
  /-- A flat set is a sorted vector without repeats. -/
  sorted : elems.Pairwise (·.number.toNat < ·.number.toNat)

theorem FlatSet.nodup (s : FlatSet) : s.elems.Nodup :=
  s.sorted.imp fun h e ↦ by subst e; exact lt_irrefl _ h

end ActaBoards
