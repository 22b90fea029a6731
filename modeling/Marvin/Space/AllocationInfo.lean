import Marvin.Space.Basic
import Mathlib.Data.Nat.Bitwise

namespace Marvin.Space

/-- `FreeListSpace::kAlignment`. -/
def kAlignment : Nat := kPageSize

@[simp] theorem kAlignment_pos : 0 < kAlignment := by decide

def kFlagFree : Nat := 0x80000000
def kFlagZygote : Nat := 0x40000000

/-- `~x` for a `uint32_t` x. -/
def uint32Not (x : Nat) : Nat := 2 ^ 32 - 1 - x

def kFlagsMask : Nat := uint32Not (kFlagFree ||| kFlagZygote)

theorem kFlagFree_eq : kFlagFree = 2 ^ 31 := by decide
theorem kFlagZygote_eq : kFlagZygote = 2 ^ 30 := by decide
theorem kFlagsMask_eq : kFlagsMask = 2 ^ 30 - 1 := by decide

/-- One side-table entry per page of a `FreeListSpace`; both fields are `uint32_t`.
The entry of a block's first page is its header. -/
structure AllocationInfo where
  prevFree : Nat
  allocSize : Nat
  deriving DecidableEq, Repr

namespace AllocationInfo

/-- Pages covered by the block. -/
def alignSize (a : AllocationInfo) : Nat := a.allocSize &&& kFlagsMask

def byteSize (a : AllocationInfo) : Nat := a.alignSize * kAlignment

def setByteSize (a : AllocationInfo) (size : Nat) (free : Bool) : Checked AllocationInfo := do
  dcheck (size &&& uint32Not kFlagsMask == 0)
  dcheck (size % kAlignment == 0)
  pure { a with allocSize := ((size / kAlignment) ||| (if free then kFlagFree else 0)) % 2 ^ 32 }

def isFree (a : AllocationInfo) : Bool := a.allocSize &&& kFlagFree != 0

def isZygoteObject (a : AllocationInfo) : Bool := a.allocSize &&& kFlagZygote != 0

def setZygoteObject (a : AllocationInfo) : AllocationInfo :=
  { a with allocSize := a.allocSize ||| kFlagZygote }

/-- `GetNextInfo` of the entry at slot `self`. -/
def getNextInfo (a : AllocationInfo) (self : Nat) : Nat := self + a.alignSize

/-- `GetPrevFreeInfo` of the entry at slot `self`. -/
def getPrevFreeInfo (a : AllocationInfo) (self : Nat) : Checked Nat := do
  dcheck (a.prevFree != 0)
  pure (self - a.prevFree)

def getPrevFree (a : AllocationInfo) : Nat := a.prevFree

def getPrevFreeBytes (a : AllocationInfo) : Nat := a.getPrevFree * kAlignment

def setPrevFreeBytes (a : AllocationInfo) (bytes : Nat) : Checked AllocationInfo := do
  dcheck (bytes % kAlignment == 0)
  pure { a with prevFree := bytes / kAlignment % 2 ^ 32 }

@[simp] theorem alignSize_mk_allocSize (a : AllocationInfo) (p : Nat) :
    (⟨p, a.allocSize⟩ : AllocationInfo).alignSize = a.alignSize := rfl
@[simp] theorem isFree_mk_allocSize (a : AllocationInfo) (p : Nat) :
    (⟨p, a.allocSize⟩ : AllocationInfo).isFree = a.isFree := rfl
@[simp] theorem isZygoteObject_mk_allocSize (a : AllocationInfo) (p : Nat) :
    (⟨p, a.allocSize⟩ : AllocationInfo).isZygoteObject = a.isZygoteObject := rfl

theorem testBit_allocSize_of_lt {w i : Nat} (h : w < 2 ^ i) (j : Nat) (hj : i ≤ j) :
    w.testBit j = false :=
  Nat.testBit_lt_two_pow (lt_of_lt_of_le h (Nat.pow_le_pow_right (by decide) hj))

theorem alignSize_eq (a : AllocationInfo) : a.alignSize = a.allocSize % 2 ^ 30 := by
  rw [alignSize, kFlagsMask_eq, Nat.and_pow_two_sub_one_eq_mod]

theorem isFree_eq (a : AllocationInfo) : a.isFree = a.allocSize.testBit 31 := by
  rw [isFree, kFlagFree_eq, Nat.and_two_pow]
  cases a.allocSize.testBit 31 <;> decide

theorem isZygoteObject_eq (a : AllocationInfo) :
    a.isZygoteObject = a.allocSize.testBit 30 := by
  rw [isZygoteObject, kFlagZygote_eq, Nat.and_two_pow]
  cases a.allocSize.testBit 30 <;> decide

/-- The word `SetByteSize` stores, read bit by bit. -/
theorem testBit_encode (p : Nat) (free : Bool) (i : Nat) :
    (((p ||| (if free then kFlagFree else 0)) % 2 ^ 32).testBit i) =
      (decide (i < 32) && (p.testBit i || (free && decide (i = 31)))) := by
  rw [Nat.testBit_mod_two_pow, Nat.testBit_or]
  cases free
  · simp
  · rw [if_pos rfl, kFlagFree_eq, Nat.testBit_two_pow]
    simp [eq_comm]

@[simp] theorem setByteSize_val_prevFree (a : AllocationInfo) (size : Nat) (free : Bool) :
    (a.setByteSize size free).val.prevFree = a.prevFree := rfl

@[simp] theorem setByteSize_val_alignSize (a : AllocationInfo) (size : Nat) (free : Bool) :
    (a.setByteSize size free).val.alignSize = size / kAlignment % 2 ^ 30 := by
  rw [alignSize_eq]
  apply Nat.eq_of_testBit_eq
  intro i
  show (((size / kAlignment ||| (if free then kFlagFree else 0)) % 2 ^ 32) % 2 ^ 30).testBit i = _
  rw [Nat.testBit_mod_two_pow, testBit_encode, Nat.testBit_mod_two_pow]
  by_cases hi : i < 30
  · simp [hi, show i < 32 by omega, show i ≠ 31 by omega]
  · simp [hi]

theorem setByteSize_val_isFree (a : AllocationInfo) (size : Nat) (free : Bool)
    (h : size / kAlignment < 2 ^ 30) : (a.setByteSize size free).val.isFree = free := by
  simp only [isFree_eq, setByteSize, Checked.val_bind, Checked.val_pure, testBit_encode,
    testBit_allocSize_of_lt h 31 (by omega)]
  cases free <;> decide

theorem setByteSize_val_isZygoteObject (a : AllocationInfo) (size : Nat) (free : Bool)
    (h : size / kAlignment < 2 ^ 30) : (a.setByteSize size free).val.isZygoteObject = false := by
  simp only [isZygoteObject_eq, setByteSize, Checked.val_bind, Checked.val_pure, testBit_encode,
    testBit_allocSize_of_lt h 30 le_rfl]
  cases free <;> decide

@[simp] theorem setByteSize_checks (a : AllocationInfo) (size : Nat) (free : Bool) :
    (a.setByteSize size free).checks = true := rfl

@[simp] theorem setByteSize_freed (a : AllocationInfo) (size : Nat) (free : Bool) :
    (a.setByteSize size free).freed = [] := rfl

theorem setByteSize_dchecks (a : AllocationInfo) (size : Nat) (free : Bool) :
    (a.setByteSize size free).dchecks =
      (size &&& uint32Not kFlagsMask == 0 && size % kAlignment == 0) := by
  simp [setByteSize]

/-- `SetByteSize`'s mask check passes on every size below 1 GiB. -/
theorem setByteSize_dchecks_of_lt (a : AllocationInfo) (size : Nat) (free : Bool)
    (h : size < 2 ^ 30) (ha : size % kAlignment = 0) : (a.setByteSize size free).dchecks = true := by
  have hm : size &&& uint32Not kFlagsMask = 0 := by
    apply Nat.eq_of_testBit_eq
    intro i
    rw [show uint32Not kFlagsMask = 2 ^ 31 ||| 2 ^ 30 by decide, Nat.testBit_and, Nat.testBit_or,
      Nat.testBit_two_pow, Nat.testBit_two_pow, Nat.zero_testBit]
    by_cases hi : i < 30
    · rw [decide_eq_false (by omega : ¬ 31 = i), decide_eq_false (by omega : ¬ 30 = i)]
      simp
    · rw [testBit_allocSize_of_lt h i (by omega)]
      rfl
  simp [setByteSize_dchecks, hm, ha]

@[simp] theorem setPrevFreeBytes_val_prevFree (a : AllocationInfo) (bytes : Nat) :
    (a.setPrevFreeBytes bytes).val.prevFree = bytes / kAlignment % 2 ^ 32 := rfl

@[simp] theorem setPrevFreeBytes_val_allocSize (a : AllocationInfo) (bytes : Nat) :
    (a.setPrevFreeBytes bytes).val.allocSize = a.allocSize := rfl

@[simp] theorem setPrevFreeBytes_checks (a : AllocationInfo) (bytes : Nat) :
    (a.setPrevFreeBytes bytes).checks = true := rfl

@[simp] theorem setPrevFreeBytes_freed (a : AllocationInfo) (bytes : Nat) :
    (a.setPrevFreeBytes bytes).freed = [] := rfl

theorem setPrevFreeBytes_dchecks (a : AllocationInfo) (bytes : Nat) :
    (a.setPrevFreeBytes bytes).dchecks = (bytes % kAlignment == 0) := by
  simp [setPrevFreeBytes]

@[simp] theorem setZygoteObject_prevFree (a : AllocationInfo) :
    a.setZygoteObject.prevFree = a.prevFree := rfl

@[simp] theorem setZygoteObject_alignSize (a : AllocationInfo) :
    a.setZygoteObject.alignSize = a.alignSize := by
  simp only [alignSize_eq, setZygoteObject]
  apply Nat.eq_of_testBit_eq
  intro i
  rw [Nat.testBit_mod_two_pow, Nat.testBit_mod_two_pow, Nat.testBit_or, kFlagZygote_eq,
    Nat.testBit_two_pow]
  by_cases hi : i < 30
  · simp [hi, show 30 ≠ i by omega]
  · simp [hi]

@[simp] theorem setZygoteObject_isFree (a : AllocationInfo) :
    a.setZygoteObject.isFree = a.isFree := by
  rw [isFree_eq, isFree_eq, setZygoteObject, Nat.testBit_or, kFlagZygote_eq, Nat.testBit_two_pow]
  simp

@[simp] theorem setZygoteObject_isZygoteObject (a : AllocationInfo) :
    a.setZygoteObject.isZygoteObject = true := by
  rw [isZygoteObject_eq, setZygoteObject, Nat.testBit_or, kFlagZygote_eq, Nat.testBit_two_pow]
  simp

@[simp] theorem getPrevFreeInfo_val (a : AllocationInfo) (self : Nat) :
    (a.getPrevFreeInfo self).val = self - a.prevFree := rfl

@[simp] theorem getPrevFreeInfo_checks (a : AllocationInfo) (self : Nat) :
    (a.getPrevFreeInfo self).checks = true := rfl

@[simp] theorem getPrevFreeInfo_freed (a : AllocationInfo) (self : Nat) :
    (a.getPrevFreeInfo self).freed = [] := rfl

theorem getPrevFreeInfo_dchecks (a : AllocationInfo) (self : Nat) :
    (a.getPrevFreeInfo self).dchecks = (a.prevFree != 0) := by
  simp [getPrevFreeInfo]

end AllocationInfo

end Marvin.Space
