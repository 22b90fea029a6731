import Mathlib.Data.UInt

namespace Marvin.Swap

def occupiedBitOffset : Nat := 0
def kernelLockBitOffset : Nat := 1
def residentBitOffset : Nat := 2

/-- One slot of the reclamation table. `bitFlags` and `appLockCounter` are the two
`std::atomic<uint8_t>` words; `objectAddress` is the 32-bit payload address. -/
structure TableEntry where
  bitFlags : UInt8
  appLockCounter : UInt8
  objectAddress : UInt32
  deriving DecidableEq, Repr

namespace TableEntry

def getBit (e : TableEntry) (offset : Nat) : Bool :=
  (e.bitFlags.toNat >>> offset) &&& 1 = 1

def setBit (e : TableEntry) (offset : Nat) : TableEntry :=
  { e with bitFlags := e.bitFlags ||| UInt8.ofNat (1 <<< offset) }

def clearBit (e : TableEntry) (offset : Nat) : TableEntry :=
  { e with bitFlags := e.bitFlags &&& ~~~UInt8.ofNat (1 <<< offset) }

theorem getBit_eq_getLsbD (e : TableEntry) (o : Nat) :
    e.getBit o = e.bitFlags.toBitVec.getLsbD o := by
  rw [getBit, Nat.and_one_is_mod, Nat.shiftRight_eq_div_pow, BitVec.getLsbD, Nat.testBit_to_div_mod]
  rfl

theorem getBit_setBit (e : TableEntry) {o : Nat} (ho : o < 8) (o' : Nat) :
    (e.setBit o).getBit o' = (decide (o' = o) || e.getBit o') := by
  rw [getBit_eq_getLsbD, getBit_eq_getLsbD]
  show (e.bitFlags.toBitVec ||| BitVec.ofNat 8 (1 <<< o)).getLsbD o' = _
  rw [BitVec.getLsbD_or, BitVec.getLsbD_ofNat, Nat.shiftLeft_eq, Nat.one_mul, Nat.testBit_two_pow]
  by_cases h : o' = o
  · simp [h, ho]
  · simp [h, Ne.symm h]

theorem getBit_clearBit (e : TableEntry) (o o' : Nat) :
    (e.clearBit o).getBit o' = (!decide (o' = o) && e.getBit o') := by
  rw [getBit_eq_getLsbD, getBit_eq_getLsbD]
  show (e.bitFlags.toBitVec &&& ~~~BitVec.ofNat 8 (1 <<< o)).getLsbD o' = _
  rw [BitVec.getLsbD_and, BitVec.getLsbD_not, BitVec.getLsbD_ofNat, Nat.shiftLeft_eq, Nat.one_mul,
    Nat.testBit_two_pow]
  by_cases h : o' = o
  · simp [h]
  · by_cases h8 : o' < 8
    · simp [h, Ne.symm h, h8]
    · simp [h, h8, BitVec.getLsbD_ge _ _ (by omega : 8 ≤ o')]

def getOccupiedBit (e : TableEntry) : Bool := e.getBit occupiedBitOffset
def setOccupiedBit (e : TableEntry) : TableEntry := e.setBit occupiedBitOffset
def clearOccupiedBit (e : TableEntry) : TableEntry := e.clearBit occupiedBitOffset
def getKernelLockBit (e : TableEntry) : Bool := e.getBit kernelLockBitOffset
def setKernelLockBit (e : TableEntry) : TableEntry := e.setBit kernelLockBitOffset
def clearKernelLockBit (e : TableEntry) : TableEntry := e.clearBit kernelLockBitOffset
def getResidentBit (e : TableEntry) : Bool := e.getBit residentBitOffset
def setResidentBit (e : TableEntry) : TableEntry := e.setBit residentBitOffset
def clearResidentBit (e : TableEntry) : TableEntry := e.clearBit residentBitOffset

def getAppLockCounter (e : TableEntry) : UInt8 := e.appLockCounter

def incrAppLockCounter (e : TableEntry) : TableEntry :=
  { e with appLockCounter := e.appLockCounter + 1 }

def decrAppLockCounter (e : TableEntry) : TableEntry :=
  { e with appLockCounter := e.appLockCounter - 1 }

def zeroAppLockCounter (e : TableEntry) : TableEntry :=
  { e with appLockCounter := 0 }

def getObjectAddress (e : TableEntry) : Nat := e.objectAddress.toNat

/-- `SetObjectAddress` keeps the low 32 bits of the pointer. -/
def setObjectAddress (e : TableEntry) (obj : Nat) : TableEntry :=
  { e with objectAddress := UInt32.ofNat obj }

/-- `LockFromAppThread` once both spin loops have seen the kernel-lock bit clear:
the counter is incremented twice. -/
def lockFromAppThread (e : TableEntry) : TableEntry :=
  e.incrAppLockCounter.incrAppLockCounter

def unlockFromAppThread (e : TableEntry) : TableEntry := e.decrAppLockCounter

@[simp] theorem incrAppLockCounter_toNat (e : TableEntry) :
    e.incrAppLockCounter.appLockCounter.toNat = (e.appLockCounter.toNat + 1) % 256 :=
  rfl

@[simp] theorem decrAppLockCounter_toNat (e : TableEntry) :
    e.decrAppLockCounter.appLockCounter.toNat = (e.appLockCounter.toNat + 255) % 256 := by
  have h : e.decrAppLockCounter.appLockCounter.toNat = (256 - 1 + e.appLockCounter.toNat) % 256 :=
    rfl
  omega

@[simp] theorem getKernelLockBit_incrAppLockCounter (e : TableEntry) :
    e.incrAppLockCounter.getKernelLockBit = e.getKernelLockBit := rfl

@[simp] theorem getKernelLockBit_decrAppLockCounter (e : TableEntry) :
    e.decrAppLockCounter.getKernelLockBit = e.getKernelLockBit := rfl

@[simp] theorem getResidentBit_lockFromAppThread (e : TableEntry) :
    e.lockFromAppThread.getResidentBit = e.getResidentBit := rfl

@[simp] theorem getObjectAddress_lockFromAppThread (e : TableEntry) :
    e.lockFromAppThread.getObjectAddress = e.getObjectAddress := rfl

@[simp] theorem setKernelLockBit_appLockCounter (e : TableEntry) :
    e.setKernelLockBit.appLockCounter = e.appLockCounter := rfl

@[simp] theorem clearKernelLockBit_appLockCounter (e : TableEntry) :
    e.clearKernelLockBit.appLockCounter = e.appLockCounter := rfl

/-- What the three flag bits of `bit_flags_` say. -/
structure Flags where
  occupied : Bool
  kernelLock : Bool
  resident : Bool
  deriving DecidableEq, Repr

def flags (e : TableEntry) : Flags := ⟨e.getOccupiedBit, e.getKernelLockBit, e.getResidentBit⟩

/-- The flag byte holds three independent booleans: each of the six setters and clearers sets
its own flag and leaves the other two as they were, whatever the byte held. -/
theorem flag_setters_update_one_flag (e : TableEntry) :
    e.setOccupiedBit.flags = { e.flags with occupied := true } ∧
      e.clearOccupiedBit.flags = { e.flags with occupied := false } ∧
      e.setKernelLockBit.flags = { e.flags with kernelLock := true } ∧
      e.clearKernelLockBit.flags = { e.flags with kernelLock := false } ∧
      e.setResidentBit.flags = { e.flags with resident := true } ∧
      e.clearResidentBit.flags = { e.flags with resident := false } := by
  simp only [flags, getOccupiedBit, setOccupiedBit, clearOccupiedBit, getKernelLockBit,
    setKernelLockBit, clearKernelLockBit, getResidentBit, setResidentBit, clearResidentBit,
    occupiedBitOffset, kernelLockBitOffset, residentBitOffset, getBit_setBit e (by decide : 0 < 8),
    getBit_setBit e (by decide : 1 < 8), getBit_setBit e (by decide : 2 < 8), getBit_clearBit]
  simp

end TableEntry

end Marvin.Swap
