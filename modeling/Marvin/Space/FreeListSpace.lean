import Marvin.Space.AllocationInfo
import Mathlib.Logic.Function.Basic

namespace Marvin.Space

def sizeofAllocationInfo : Nat := 8

/-- `FreeListSpace::SortByPrevFree` on two entries given with their addresses. -/
def sortByPrevFree (a b : AllocationInfo × Nat) : Bool :=
  if a.1.getPrevFree < b.1.getPrevFree then true
  else if a.1.getPrevFree > b.1.getPrevFree then false
  else if a.1.alignSize < b.1.alignSize then true
  else if a.1.alignSize > b.1.alignSize then false
  else a.2 < b.2

/-- `std::set::insert` on a set kept as the list of its elements in order: nothing is
inserted when an equivalent element is present. -/
def setInsert {α : Type} (lt : α → α → Bool) (x : α) : List α → List α
  | [] => [x]
  | y :: ys => if lt x y then x :: y :: ys else if lt y x then y :: setInsert lt x ys else y :: ys

/-- A `FreeListSpace`: `infos` is its side table of `AllocationInfo`s, at the address
`allocationInfo`, and `free_blocks_` is kept in set order. -/
structure FreeListSpace extends LargeObjectSpace where
  allocationInfo : Nat
  infos : Nat → AllocationInfo
  freeEnd : Nat
  freeBlocks : List Nat

/-- A line of `FreeListSpace::Dump`. -/
inductive DumpLine
  | header (begin end_ : Nat)
  | freeBlock (address length : Nat)
  | largeObject (address length : Nat)
  deriving DecidableEq, Repr

namespace FreeListSpace

def setInfo (s : FreeListSpace) (i : Nat) (a : AllocationInfo) : FreeListSpace :=
  { s with infos := Function.update s.infos i a }

/-- The entries of the table, `allocation_info_map_` being `numSlots` entries long. -/
def numSlots (s : FreeListSpace) : Nat := (s.end_ - s.begin_) / kAlignment

/-- The entry at a slot with its address, as `SortByPrevFree` sees it. -/
def key (s : FreeListSpace) (info : Nat) : AllocationInfo × Nat :=
  (s.infos info, s.allocationInfo + sizeofAllocationInfo * info)

def lt (s : FreeListSpace) (a b : Nat) : Bool := sortByPrevFree (s.key a) (s.key b)

/-- `free_blocks_.lower_bound(probe)`: the first element not ordered before the probe. -/
def lowerBound (s : FreeListSpace) (probe : AllocationInfo × Nat) : Option Nat :=
  s.freeBlocks.find? fun e => !sortByPrevFree (s.key e) probe

def insertFreeBlock (s : FreeListSpace) (info : Nat) : FreeListSpace :=
  { s with freeBlocks := setInsert s.lt info s.freeBlocks }

def getSlotIndexForAddress (s : FreeListSpace) (address : Nat) : Checked Nat := do
  dcheck (s.contains address)
  pure ((address - s.begin_) / kAlignment)

/-- `GetSlotIndexForAllocationInfo`; its lower-bound check holds for every slot. -/
def getSlotIndexForAllocationInfo (s : FreeListSpace) (info : Nat) : Checked Nat := do
  dcheck (info < s.numSlots)
  pure info

def getAllocationAddressForSlot (s : FreeListSpace) (slot : Nat) : Nat :=
  s.begin_ + slot * kAlignment

def getAddressForAllocationInfo (s : FreeListSpace) (info : Nat) : Checked Nat := do
  let slot ← s.getSlotIndexForAllocationInfo info
  pure (s.getAllocationAddressForSlot slot)

@[simp] theorem setInfo_infos (s : FreeListSpace) (i : Nat) (a : AllocationInfo) :
    (s.setInfo i a).infos = Function.update s.infos i a := rfl
@[simp] theorem setInfo_freeBlocks (s : FreeListSpace) (i : Nat) (a : AllocationInfo) :
    (s.setInfo i a).freeBlocks = s.freeBlocks := rfl
@[simp] theorem setInfo_freeEnd (s : FreeListSpace) (i : Nat) (a : AllocationInfo) :
    (s.setInfo i a).freeEnd = s.freeEnd := rfl
@[simp] theorem setInfo_allocationInfo (s : FreeListSpace) (i : Nat) (a : AllocationInfo) :
    (s.setInfo i a).allocationInfo = s.allocationInfo := rfl
@[simp] theorem setInfo_toLargeObjectSpace (s : FreeListSpace) (i : Nat) (a : AllocationInfo) :
    (s.setInfo i a).toLargeObjectSpace = s.toLargeObjectSpace := rfl
@[simp] theorem setInfo_setInfo (s : FreeListSpace) (i : Nat) (a b : AllocationInfo) :
    (s.setInfo i a).setInfo i b = s.setInfo i b := by
  simp [setInfo]
@[simp] theorem insertFreeBlock_infos (s : FreeListSpace) (i : Nat) :
    (s.insertFreeBlock i).infos = s.infos := rfl
@[simp] theorem insertFreeBlock_freeBlocks (s : FreeListSpace) (i : Nat) :
    (s.insertFreeBlock i).freeBlocks = setInsert s.lt i s.freeBlocks := rfl
@[simp] theorem insertFreeBlock_freeEnd (s : FreeListSpace) (i : Nat) :
    (s.insertFreeBlock i).freeEnd = s.freeEnd := rfl
@[simp] theorem insertFreeBlock_allocationInfo (s : FreeListSpace) (i : Nat) :
    (s.insertFreeBlock i).allocationInfo = s.allocationInfo := rfl
@[simp] theorem insertFreeBlock_toLargeObjectSpace (s : FreeListSpace) (i : Nat) :
    (s.insertFreeBlock i).toLargeObjectSpace = s.toLargeObjectSpace := rfl

@[simp] theorem getSlotIndexForAddress_val (s : FreeListSpace) (address : Nat) :
    (s.getSlotIndexForAddress address).val = (address - s.begin_) / kAlignment := rfl
@[simp] theorem getSlotIndexForAddress_checks (s : FreeListSpace) (address : Nat) :
    (s.getSlotIndexForAddress address).checks = true := rfl
@[simp] theorem getSlotIndexForAddress_freed (s : FreeListSpace) (address : Nat) :
    (s.getSlotIndexForAddress address).freed = [] := rfl
@[simp] theorem getSlotIndexForAddress_dchecks (s : FreeListSpace) (address : Nat) :
    (s.getSlotIndexForAddress address).dchecks = s.contains address := by
  simp [getSlotIndexForAddress]

@[simp] theorem getAddressForAllocationInfo_val (s : FreeListSpace) (info : Nat) :
    (s.getAddressForAllocationInfo info).val = s.begin_ + info * kAlignment := rfl
@[simp] theorem getAddressForAllocationInfo_checks (s : FreeListSpace) (info : Nat) :
    (s.getAddressForAllocationInfo info).checks = true := rfl
@[simp] theorem getAddressForAllocationInfo_freed (s : FreeListSpace) (info : Nat) :
    (s.getAddressForAllocationInfo info).freed = [] := rfl
@[simp] theorem getAddressForAllocationInfo_dchecks (s : FreeListSpace) (info : Nat) :
    (s.getAddressForAllocationInfo info).dchecks = decide (info < s.numSlots) := by
  simp [getAddressForAllocationInfo, getSlotIndexForAllocationInfo]

def removeFreePrev (s : FreeListSpace) (info : Nat) : Checked FreeListSpace := do
  check ((s.infos info).getPrevFree > 0)
  match s.lowerBound (s.key info) with
  | none => do
    check false
    pure s
  | some it => do
    check (it == info)
    pure { s with freeBlocks := s.freeBlocks.erase it }

/-- The merge with the previous block in `Free`: the new free block's header and size. -/
def coalescePrev (s : FreeListSpace) (info prevFreeBytes newFreeSize : Nat) :
    Checked (FreeListSpace × Nat × Nat) :=
  if prevFreeBytes ≠ 0 then do
    let s ← s.removeFreePrev info
    let info ← (s.infos info).getPrevFreeInfo info
    dcheck ((s.infos info).getPrevFreeBytes == 0)
    pure (s, info, newFreeSize + prevFreeBytes)
  else pure (s, info, newFreeSize)

/-- The end of `Free` when a block follows the freed one. -/
def coalesceNext (s : FreeListSpace) (info nextInfo newFreeSize : Nat) :
    Checked FreeListSpace := do
  let (s, newFreeInfo, newFreeSize) ←
    if (s.infos nextInfo).isFree then do
      let nextNextInfo := (s.infos nextInfo).getNextInfo nextInfo
      dcheck !(s.infos nextNextInfo).isFree
      dcheck ((s.infos nextNextInfo).byteSize % kAlignment == 0)
      let newFreeSize := newFreeSize + (s.infos nextNextInfo).getPrevFreeBytes
      let s ← s.removeFreePrev nextNextInfo
      pure (s, nextNextInfo, newFreeSize)
    else pure (s, nextInfo, newFreeSize)
  let x ← (s.infos newFreeInfo).setPrevFreeBytes newFreeSize
  let s := (s.setInfo newFreeInfo x).insertFreeBlock newFreeInfo
  let y ← (s.infos info).setByteSize newFreeSize true
  let s := s.setInfo info y
  dcheck ((s.infos info).getNextInfo info == newFreeInfo)
  pure s

/-- The part of `Free` after the merge with the previous block: the merge with the next block
or with the free-end region, which starts at `freeEndStart`, and the counters. -/
def freeTail (s : FreeListSpace) (info nextInfo freeEndStart newFreeSize allocationSize : Nat) :
    Checked (Nat × FreeListSpace) := do
  let nextAddr ← s.getAddressForAllocationInfo nextInfo
  let s ←
    if nextAddr ≥ freeEndStart then do
      check (nextAddr == freeEndStart)
      pure { s with freeEnd := s.freeEnd + newFreeSize }
    else s.coalesceNext info nextInfo newFreeSize
  dcheck (allocationSize ≤ s.numBytesAllocated)
  pure (allocationSize, { s with numObjectsAllocated := s.numObjectsAllocated - 1,
                                  numBytesAllocated := s.numBytesAllocated - allocationSize })

def free (s : FreeListSpace) (obj : Nat) : Checked (Nat × FreeListSpace) := do
  gcRecordFree obj
  dcheck (s.contains obj)
  dcheck (obj % kAlignment == 0)
  let info ← s.getSlotIndexForAddress obj
  dcheck !(s.infos info).isFree
  let allocationSize := (s.infos info).byteSize
  dcheck (allocationSize > 0)
  dcheck (allocationSize % kAlignment == 0)
  let i ← (s.infos info).setByteSize allocationSize true
  let s := s.setInfo info i
  let nextInfo := (s.infos info).getNextInfo info
  let freeEndStart := s.end_ - s.freeEnd
  let prevFreeBytes := (s.infos info).getPrevFreeBytes
  let (s, info, newFreeSize) ← s.coalescePrev info prevFreeBytes allocationSize
  s.freeTail info nextInfo freeEndStart newFreeSize allocationSize

theorem removeFreePrev_freed (s : FreeListSpace) (info : Nat) : (s.removeFreePrev info).freed = [] := by
  unfold removeFreePrev
  split <;> simp

theorem coalescePrev_freed (s : FreeListSpace) (info prevFreeBytes newFreeSize : Nat) :
    (s.coalescePrev info prevFreeBytes newFreeSize).freed = [] := by
  unfold coalescePrev
  split <;> simp [removeFreePrev_freed]

theorem coalesceNext_freed (s : FreeListSpace) (info nextInfo newFreeSize : Nat) :
    (s.coalesceNext info nextInfo newFreeSize).freed = [] := by
  unfold coalesceNext
  split <;> simp [removeFreePrev_freed]

theorem freeTail_freed (s : FreeListSpace) (info nextInfo freeEndStart newFreeSize allocationSize : Nat) :
    (s.freeTail info nextInfo freeEndStart newFreeSize allocationSize).freed = [] := by
  simp only [freeTail, Checked.freed_bind, getAddressForAllocationInfo_freed, List.nil_append]
  split <;> simp [coalesceNext_freed]

/-- `Free` passes the hook exactly the address it was given. -/
@[simp] theorem free_freed (s : FreeListSpace) (obj : Nat) : (s.free obj).freed = [obj] := by
  simp [free, coalescePrev_freed, freeTail_freed]

def allocationSize (s : FreeListSpace) (obj : Nat) : Checked Nat := do
  dcheck (s.contains obj)
  let info ← s.getSlotIndexForAddress obj
  dcheck !(s.infos info).isFree
  pure (s.infos info).byteSize

/-- What is left of the chosen free block stays free, in front of the new object. -/
def splitRemainder (s : FreeListSpace) (info : Nat) : Checked FreeListSpace :=
  if (s.infos info).getPrevFreeBytes > 0 then do
    let newFree := info - (s.infos info).getPrevFree
    let f ← (s.infos newFree).setPrevFreeBytes 0
    let s := s.setInfo newFree f
    let f ← (s.infos newFree).setByteSize (s.infos info).getPrevFreeBytes true
    let s := s.setInfo newFree f
    pure (s.insertFreeBlock info)
  else pure s

/-- The part of `Alloc` after the block is chosen. -/
def allocTail (s : FreeListSpace) (newInfo allocationSize : Nat) :
    Checked (Option Allocation × FreeListSpace) := do
  let s := { s with numObjectsAllocated := s.numObjectsAllocated + 1,
                    totalObjectsAllocated := s.totalObjectsAllocated + 1,
                    numBytesAllocated := s.numBytesAllocated + allocationSize,
                    totalBytesAllocated := s.totalBytesAllocated + allocationSize }
  let obj ← s.getAddressForAllocationInfo newInfo
  let i ← (s.infos newInfo).setPrevFreeBytes 0
  let s := s.setInfo newInfo i
  let i ← (s.infos newInfo).setByteSize allocationSize false
  pure (some ⟨obj, allocationSize, allocationSize, allocationSize⟩, s.setInfo newInfo i)

/-- `FreeListSpace::Alloc`; `tempInfo` is the address of the stack entry `temp_info`. -/
def alloc (s : FreeListSpace) (numBytes tempInfo : Nat) :
    Checked (Option Allocation × FreeListSpace) := do
  let allocationSize := roundUp numBytes kAlignment
  let temp ← (⟨0, 0⟩ : AllocationInfo).setPrevFreeBytes allocationSize
  let temp ← temp.setByteSize 0 false
  match s.lowerBound (temp, tempInfo) with
  | some info =>
    let s := { s with freeBlocks := s.freeBlocks.erase info }
    let newInfo ← (s.infos info).getPrevFreeInfo info
    let i ← (s.infos info).setPrevFreeBytes ((s.infos info).getPrevFreeBytes - allocationSize)
    let s := s.setInfo info i
    let s ← s.splitRemainder info
    s.allocTail newInfo allocationSize
  | none =>
    if s.freeEnd ≥ allocationSize then do
      let newInfo ← s.getSlotIndexForAddress (s.end_ - s.freeEnd)
      { s with freeEnd := s.freeEnd - allocationSize }.allocTail newInfo allocationSize
    else pure (none, s)

/-- The loop of `Walk` from `curInfo`, for at most `fuel` iterations: the callback's arguments and
the final `cur_info` (`none` if still running). -/
def walkLoop (s : FreeListSpace) (endInfo : Nat) :
    Nat → Nat → Checked (Option (List (Nat × Nat × Nat) × Nat))
  | 0, _ => pure none
  | fuel + 1, curInfo =>
    if curInfo < endInfo then do
      let calls ←
        if !(s.infos curInfo).isFree then do
          let allocSize := (s.infos curInfo).byteSize
          let byteStart ← s.getAddressForAllocationInfo curInfo
          pure [(byteStart, byteStart + allocSize, allocSize), (0, 0, 0)]
        else pure []
      let rest ← s.walkLoop endInfo fuel ((s.infos curInfo).getNextInfo curInfo)
      pure (rest.map fun r => (calls ++ r.1, r.2))
    else pure (some ([], curInfo))

def walk (s : FreeListSpace) (fuel : Nat) : Checked (Option (List (Nat × Nat × Nat))) := do
  let freeEndStart := s.end_ - s.freeEnd
  let endInfo ← s.getSlotIndexForAddress freeEndStart
  let r ← s.walkLoop endInfo fuel 0
  match r with
  | none => pure none
  | some (calls, curInfo) => do
    check (curInfo == endInfo)
    pure (some calls)

def dumpLoop (s : FreeListSpace) (endInfo : Nat) : Nat → Nat → Checked (Option (List DumpLine))
  | 0, _ => pure none
  | fuel + 1, curInfo =>
    if curInfo < endInfo then do
      let size := (s.infos curInfo).byteSize
      let address ← s.getAddressForAllocationInfo curInfo
      let line := if (s.infos curInfo).isFree then DumpLine.freeBlock address size
        else .largeObject address size
      let rest ← s.dumpLoop endInfo fuel ((s.infos curInfo).getNextInfo curInfo)
      pure (rest.map (line :: ·))
    else pure (some [])

def dump (s : FreeListSpace) (fuel : Nat) : Checked (Option (List DumpLine)) := do
  let freeEndStart := s.end_ - s.freeEnd
  let curInfo ← s.getSlotIndexForAddress s.begin_
  let endInfo ← s.getSlotIndexForAddress freeEndStart
  let r ← s.dumpLoop endInfo fuel curInfo
  pure (r.map fun lines => DumpLine.header s.begin_ s.end_ :: lines ++
    if s.freeEnd ≠ 0 then [.freeBlock freeEndStart s.freeEnd] else [])

def isZygoteLargeObject (s : FreeListSpace) (obj : Nat) : Checked Bool := do
  let info ← s.getSlotIndexForAddress obj
  pure (s.infos info).isZygoteObject

def setAllLoop (endInfo : Nat) : Nat → Nat → FreeListSpace → Option FreeListSpace
  | 0, _, _ => none
  | fuel + 1, curInfo, s =>
    if curInfo < endInfo then
      let s := if !(s.infos curInfo).isFree then s.setInfo curInfo (s.infos curInfo).setZygoteObject
        else s
      setAllLoop endInfo fuel ((s.infos curInfo).getNextInfo curInfo) s
    else some s

def setAllLargeObjectsAsZygoteObjects (s : FreeListSpace) (fuel : Nat) :
    Checked (Option FreeListSpace) := do
  let freeEndStart := s.end_ - s.freeEnd
  let curInfo ← s.getSlotIndexForAddress s.begin_
  let endInfo ← s.getSlotIndexForAddress freeEndStart
  pure (setAllLoop endInfo fuel curInfo s)

end FreeListSpace

/-- `FreeListSpace::Create` with the constructor, given where the anonymous mappings
landed: `begin` for the space and `allocationInfo` for the zero-filled side table. -/
def FreeListSpace.create (begin capacity allocationInfo : Nat) : Checked FreeListSpace := do
  check (capacity % kAlignment == 0)
  check (capacity % kAlignment == 0)
  pure { numBytesAllocated := 0, numObjectsAllocated := 0, totalBytesAllocated := 0,
         totalObjectsAllocated := 0, begin_ := begin, end_ := begin + capacity,
         allocationInfo := allocationInfo, infos := fun _ => ⟨0, 0⟩, freeEnd := capacity,
         freeBlocks := [] }

end Marvin.Space
