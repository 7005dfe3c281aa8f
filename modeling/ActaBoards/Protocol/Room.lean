import Mathlib.Data.String.Basic
import Mathlib.Data.Nat.Digits

/-!
# Room operations: `validate()` and `calculate_fee()`

`room.cpp` gives each room operation a `validate()`, a list of `FC_ASSERT`s of which the first
that fails throws, and a `calculate_fee()`. The assertions are one family (`fcAssertAll`,
instances `FcAssert`), and so are the four flat fees (`flatFee`); each operation keeps its own
definition under the source's name.

* **The name limit counts bytes.** `name.size()` is the name's UTF-8 length, so the check
  admits every name of at most 64 characters, refuses every name of more than 256, and refuses
  some names of 129 characters although its message reads "max 256 characters"
  (`nameNotTooLong_bounds`).
* **The rotation fee.** `room_rotate_key_operation::calculate_fee` adds to the flat fee the
  keys' bytes times `price_per_kbyte` over 1024, in `size_t` arithmetic, and the addition is
  `share_type`'s checked one. Below the wrap-around and overflow it is the plain formula
  (`RoomRotateKeyOperation.calculateFee_eq`).

`room_rotate_key_operation` is implemented in `room.cpp` but not declared in `room.hpp`; its
fields are modelled as the implementation reads them. The default fees of `room.hpp` are read by
no function of `room.cpp` and are not modelled.
-/

namespace ActaBoards.Protocol

/-- `asset` as `validate()` reads it: its amount. -/
structure Asset where
  amount : ℤ

/-- A failed `FC_ASSERT`: the asserted expression as the macro quotes it, and the message
(empty for an assertion that gives none). -/
structure AssertException where
  expr : String
  msg : String
  deriving DecidableEq, Repr

/-- One `FC_ASSERT( test, msg )`. -/
structure FcAssert where
  test : Bool
  expr : String
  msg : String

/-- A `validate()` body: its assertions in source order; the first that fails throws. -/
def fcAssertAll : List FcAssert → Except AssertException Unit
  | [] => .ok ()
  | a :: as => if a.test then fcAssertAll as else .error ⟨a.expr, a.msg⟩

/-! ### The assertions -/

/-- `FC_ASSERT( fee.amount >= 0 )`, first in every `validate()`. -/
def feeNonNegative (fee : Asset) : FcAssert := ⟨decide (0 ≤ fee.amount), "fee.amount >= 0", ""⟩

/-- `FC_ASSERT( !s.empty(), msg )` on a string field. -/
def notEmpty (s expr msg : String) : FcAssert := ⟨!s.isEmpty, expr, msg⟩

/-- `FC_ASSERT( name.size() <= 256, ... )`: `size()` counts the name's UTF-8 bytes. -/
def nameNotTooLong (name : String) : FcAssert :=
  ⟨decide (name.utf8ByteSize ≤ 256), "name.size() <= 256", "Room name too long (max 256 characters)"⟩

/-! ### The operations -/

structure RoomCreateOperation where
  fee : Asset
  name : String
  roomKey : String

structure RoomUpdateOperation where
  fee : Asset
  name : String

structure RoomAddParticipantOperation where
  fee : Asset
  contentKey : String

structure RoomRemoveParticipantOperation where
  fee : Asset

/-- `room_rotate_key_operation` as `room.cpp` reads it: the new key, and the values of
`participant_keys` in order (its keys are not read). -/
structure RoomRotateKeyOperation where
  fee : Asset
  newRoomKey : String
  participantKeys : List String

def RoomCreateOperation.validate (op : RoomCreateOperation) : Except AssertException Unit :=
  fcAssertAll [feeNonNegative op.fee,
    notEmpty op.name "!name.empty()" "Room name cannot be empty",
    nameNotTooLong op.name,
    notEmpty op.roomKey "!room_key.empty()" "Room key cannot be empty"]

def RoomUpdateOperation.validate (op : RoomUpdateOperation) : Except AssertException Unit :=
  fcAssertAll [feeNonNegative op.fee,
    notEmpty op.name "!name.empty()" "Room name cannot be empty",
    nameNotTooLong op.name]

def RoomAddParticipantOperation.validate (op : RoomAddParticipantOperation) :
    Except AssertException Unit :=
  fcAssertAll [feeNonNegative op.fee,
    notEmpty op.contentKey "!content_key.empty()" "Content key cannot be empty"]

def RoomRemoveParticipantOperation.validate (op : RoomRemoveParticipantOperation) :
    Except AssertException Unit :=
  fcAssertAll [feeNonNegative op.fee]

def RoomRotateKeyOperation.validate (op : RoomRotateKeyOperation) : Except AssertException Unit :=
  fcAssertAll [feeNonNegative op.fee,
    notEmpty op.newRoomKey "!new_room_key.empty()" "New room key cannot be empty",
    ⟨!op.participantKeys.isEmpty, "!participant_keys.empty()",
      "Participant keys cannot be empty (at least owner required)"⟩]

/-! ### The name limit counts bytes -/

theorem length_le_utf8ByteSize (s : String) : s.length ≤ s.utf8ByteSize := by
  obtain ⟨cs⟩ := s
  rw [String.utf8ByteSize_mk, String.length]
  induction cs with
  | nil => rfl
  | cons c cs ih => simpa [String.utf8Len_cons] using Nat.add_le_add ih (Char.utf8Size_pos c)

theorem utf8ByteSize_le_four_mul_length (s : String) : s.utf8ByteSize ≤ 4 * s.length := by
  obtain ⟨cs⟩ := s
  rw [String.utf8ByteSize_mk, String.length]
  induction cs with
  | nil => rfl
  | cons c cs ih =>
    simp only [String.utf8Len_cons, List.length_cons]
    have := Char.utf8Size_le_four c
    omega

/-- A name of `n` copies of `é`, two bytes each. -/
def wideName (n : ℕ) : String := ⟨List.replicate n 'é'⟩

theorem utf8ByteSize_wideName (n : ℕ) : (wideName n).utf8ByteSize = 2 * n := by
  rw [wideName, String.utf8ByteSize_mk]
  induction n with
  | zero => rfl
  | succ n ih => rw [List.replicate_succ, String.utf8Len_cons, ih]; rfl

/-- **The name limit counts bytes, not characters.** It admits every name of at most 64
characters and refuses every name of more than 256; between the two it depends on the
characters: 129 two-byte characters are refused. -/
theorem nameNotTooLong_bounds :
    (∀ name : String, name.length ≤ 64 → (nameNotTooLong name).test = true) ∧
    (∀ name : String, 256 < name.length → (nameNotTooLong name).test = false) ∧
    (wideName 129).length = 129 ∧ (nameNotTooLong (wideName 129)).test = false := by
  refine ⟨fun name h ↦ ?_, fun name h ↦ ?_, by simp [wideName, String.length], ?_⟩
  · have := utf8ByteSize_le_four_mul_length name
    simpa [nameNotTooLong] using by omega
  · have := length_le_utf8ByteSize name
    simpa [nameNotTooLong] using by omega
  · simp [nameNotTooLong, utf8ByteSize_wideName]

/-! ### Fees -/

/-- `share_type` from a `uint64_t`: the conversion to `int64_t`, modulo `2^64`. -/
def shareTypeOfUInt64 (x : UInt64) : ℤ :=
  if x.toNat < 2 ^ 63 then x.toNat else x.toNat - 2 ^ 64

/-- `fee_parameters_type` of the four flat-fee operations. -/
structure FlatFeeParameters where
  fee : UInt64

/-- `return k.fee;` -/
def flatFee (k : FlatFeeParameters) : ℤ := shareTypeOfUInt64 k.fee

def RoomCreateOperation.calculateFee (_ : RoomCreateOperation) (k : FlatFeeParameters) : ℤ :=
  flatFee k
def RoomUpdateOperation.calculateFee (_ : RoomUpdateOperation) (k : FlatFeeParameters) : ℤ :=
  flatFee k
def RoomAddParticipantOperation.calculateFee (_ : RoomAddParticipantOperation)
    (k : FlatFeeParameters) : ℤ :=
  flatFee k
def RoomRemoveParticipantOperation.calculateFee (_ : RoomRemoveParticipantOperation)
    (k : FlatFeeParameters) : ℤ :=
  flatFee k

/-- `fee_parameters_type` of `room_rotate_key_operation`, as `calculate_fee` reads it. -/
structure RotateKeyFeeParameters where
  fee : UInt64
  pricePerKbyte : UInt64

/-- `fc::safe<int64_t>::operator+=`: the sum, or an `overflow_exception`. -/
def safeAdd (a b : ℤ) : Except String ℤ :=
  if a + b < -2 ^ 63 ∨ 2 ^ 63 ≤ a + b then .error "overflow_exception" else .ok (a + b)

/-- `room_rotate_key_operation::calculate_fee`: `total_size` and the product are `size_t`. -/
def RoomRotateKeyOperation.calculateFee (op : RoomRotateKeyOperation)
    (k : RotateKeyFeeParameters) : Except String ℤ :=
  let coreFeeRequired := shareTypeOfUInt64 k.fee
  let totalSize := op.participantKeys.foldl (fun total p ↦ total + p.utf8ByteSize.toUInt64)
    op.newRoomKey.utf8ByteSize.toUInt64
  safeAdd coreFeeRequired (shareTypeOfUInt64 (totalSize * k.pricePerKbyte / 1024))

/-- The bytes of all the keys. -/
def RoomRotateKeyOperation.keyBytes (op : RoomRotateKeyOperation) : ℕ :=
  op.newRoomKey.utf8ByteSize + (op.participantKeys.map String.utf8ByteSize).sum

/-- `total_size`, in `size_t`, is the keys' bytes modulo `2^64`. -/
theorem toNat_totalSize (op : RoomRotateKeyOperation) :
    (op.participantKeys.foldl (fun total p ↦ total + p.utf8ByteSize.toUInt64)
      op.newRoomKey.utf8ByteSize.toUInt64).toNat = op.keyBytes % 2 ^ 64 := by
  suffices ∀ (ss : List String) (init : UInt64),
      (ss.foldl (fun total p ↦ total + p.utf8ByteSize.toUInt64) init).toNat =
        (init.toNat + (ss.map String.utf8ByteSize).sum) % 2 ^ 64 by
    rw [this, RoomRotateKeyOperation.keyBytes]
    show (op.newRoomKey.utf8ByteSize % 2 ^ 64 + _) % 2 ^ 64 = _
    omega
  intro ss
  induction ss with
  | nil => exact fun init ↦ (Nat.mod_eq_of_lt (UInt64.toNat_lt_size init)).symm
  | cons s ss ih =>
    intro init
    have hs : s.utf8ByteSize.toUInt64.toNat = s.utf8ByteSize % 2 ^ 64 := rfl
    rw [List.foldl_cons, ih, UInt64.toNat_add, hs, List.map_cons, List.sum_cons]
    simp only [UInt64.size]
    omega

/-- **The rotation fee, below wrap-around and overflow**: the flat fee plus the keys' bytes
times `price_per_kbyte`, over 1024. -/
theorem RoomRotateKeyOperation.calculateFee_eq (op : RoomRotateKeyOperation)
    (k : RotateKeyFeeParameters) (hfee : k.fee.toNat < 2 ^ 62)
    (hwrap : op.keyBytes * k.pricePerKbyte.toNat < 2 ^ 64) :
    op.calculateFee k = .ok (k.fee.toNat + (op.keyBytes * k.pricePerKbyte.toNat / 1024 : ℕ)) := by
  have hq : op.keyBytes * k.pricePerKbyte.toNat / 1024 < 2 ^ 54 :=
    Nat.div_lt_of_lt_mul (by omega)
  have hprod : ((op.participantKeys.foldl (fun total p ↦ total + p.utf8ByteSize.toUInt64)
      op.newRoomKey.utf8ByteSize.toUInt64) * k.pricePerKbyte / 1024).toNat =
      op.keyBytes * k.pricePerKbyte.toNat / 1024 := by
    rw [UInt64.toNat_div, UInt64.toNat_mul, toNat_totalSize, show UInt64.size = 2 ^ 64 from rfl,
      Nat.mod_mul_mod,
      Nat.mod_eq_of_lt hwrap]
    rfl
  simp only [calculateFee, shareTypeOfUInt64, hprod, if_pos (show k.fee.toNat < 2 ^ 63 by omega),
    if_pos (show op.keyBytes * k.pricePerKbyte.toNat / 1024 < 2 ^ 63 by omega), safeAdd]
  rw [if_neg (by omega)]

/-- A rotation to the key `k` for two participants, `a` and `b`: three bytes of keys. -/
def sampleRotation : RoomRotateKeyOperation := ⟨⟨0⟩, "k", ["a", "b"]⟩

/-- `RoomRotateKeyOperation.calculateFee_eq` on `sampleRotation`, at a flat fee of 100 and a
price of 1024 per kilobyte. -/
theorem sampleRotation_calculateFee :
    sampleRotation.calculateFee ⟨100, 1024⟩ =
      .ok ((100 : UInt64).toNat + (sampleRotation.keyBytes * (1024 : UInt64).toNat / 1024 : ℕ)) :=
  RoomRotateKeyOperation.calculateFee_eq sampleRotation ⟨100, 1024⟩ (by decide) (by decide)

end ActaBoards.Protocol
