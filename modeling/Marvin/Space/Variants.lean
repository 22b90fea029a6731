import Marvin.Space.FreeListRuns
import Marvin.Space.MapSpace

namespace Marvin.Space

open LargeObjectMapSpace

/-- `FreeListSpace` and `LargeObjectMapSpace` pass `GcRecordFree` each address they free, once and
in order; `MemoryToolLargeObjectMapSpace` passes `ObjectWithRedzone`. -/
theorem gcRecordFree_addresses :
    (∀ (s : FreeListSpace) (obj : Nat) (ptrs : List Nat) (isEmpty : Bool) (batches : List (List Nat)),
      (s.free obj).freed = [obj] ∧
      (freeList FreeListSpace.free s ptrs).freed = ptrs ∧
      (sweep FreeListSpace.free isEmpty s batches).freed =
        if isEmpty then [] else batches.flatten) ∧
    (∀ (s : LargeObjectMapSpace) (obj : Nat) (ptrs : List Nat) (isEmpty : Bool) (batches : List (List Nat)),
      (s.free obj).freed = [obj] ∧
      (freeList LargeObjectMapSpace.free s ptrs).freed = ptrs ∧
      (sweep LargeObjectMapSpace.free isEmpty s batches).freed =
        if isEmpty then [] else batches.flatten) ∧
    (∀ (s : LargeObjectMapSpace) (obj : Nat) (ptrs : List Nat) (isEmpty : Bool) (batches : List (List Nat)),
      (s.memoryToolFree obj).freed = [objectWithRedzone obj] ∧
      (freeList memoryToolFree s ptrs).freed = ptrs.map objectWithRedzone ∧
      (sweep memoryToolFree isEmpty s batches).freed =
        if isEmpty then [] else batches.flatten.map objectWithRedzone) ∧
    ∀ (s : LargeObjectMapSpace) (numBytes m n : Nat),
      (s.memoryToolAlloc numBytes (some (m, n))).val.1 = m + kPageSize ∧
      ((s.memoryToolAlloc numBytes (some (m, n))).val.2.2.memoryToolFree
        (s.memoryToolAlloc numBytes (some (m, n))).val.1).freed = [m] := by
  have hfl : ∀ s p, (FreeListSpace.free s p).freed = [id p] := FreeListSpace.free_freed
  have hmap : ∀ s p, (LargeObjectMapSpace.free s p).freed = [id p] := free_freed
  refine ⟨fun s obj ptrs isEmpty batches => ⟨by simp, by simpa using freeList_freed hfl s ptrs,
      by simpa using sweep_freed hfl isEmpty s batches⟩,
    fun s obj ptrs isEmpty batches => ⟨by simp, by simpa using freeList_freed hmap s ptrs,
      by simpa using sweep_freed hmap isEmpty s batches⟩,
    fun s obj ptrs isEmpty batches => ⟨by simp, freeList_freed memoryToolFree_freed s ptrs,
      sweep_freed memoryToolFree_freed isEmpty s batches⟩, fun s numBytes m n => ?_⟩
  simp [objectWithRedzone, kMemoryToolRedZoneBytes]

/-- In every reachable state of both spaces the counters are exact, the free-list capacity is split
among live objects, free blocks and free end, and every free is accounted. -/
theorem large_object_counters_exact :
    (∀ s live, Reachable s live →
      Counted (fun s : FreeListSpace => s.numBytesAllocated) (·.numObjectsAllocated)
        (fun s obj => (s.allocationSize obj).val) s live ∧
      s.numBytesAllocated + (s.freeBlocks.map fun e => (s.infos e).getPrevFreeBytes).sum +
        s.freeEnd = s.end_ - s.begin_ ∧
      FreesAccounted FreeListSpace.free (·.numBytesAllocated) (·.numObjectsAllocated) Reachable
        (fun s obj => (s.allocationSize obj).val) s live) ∧
    ∀ s live, MapReachable s live →
      Counted (fun s : LargeObjectMapSpace => s.numBytesAllocated) (·.numObjectsAllocated)
        (fun s obj => (s.allocationSize obj).val) s live ∧
      FreesAccounted LargeObjectMapSpace.free (·.numBytesAllocated) (·.numObjectsAllocated)
        MapReachable (fun s obj => (s.allocationSize obj).val) s live := by
  refine ⟨fun s live h => ?_, fun s live h => ?_⟩
  · obtain ⟨hb, ho, hcap⟩ := h.accounting
    exact ⟨⟨hb, ho⟩, hcap, freesAccounted reachable_freesExactly h ⟨hb, ho⟩⟩
  · have hi := h.inv
    exact ⟨⟨hi.bytes, hi.objects⟩, freesAccounted mapReachable_freesExactly h ⟨hi.bytes, hi.objects⟩⟩

/-- One page allocated from a fresh free-list space, and one mapping in a fresh map space: the
counters are exact and every free is accounted. -/
theorem counters_exact_after_one_allocation :
    (Counted (fun s : FreeListSpace => s.numBytesAllocated) (·.numObjectsAllocated)
        (fun s obj => (s.allocationSize obj).val) ((FreeListSpace.create 0 8192 0).val.alloc 4096 0).val.2
        [0] ∧
      ((FreeListSpace.create 0 8192 0).val.alloc 4096 0).val.2.numBytesAllocated +
          (((FreeListSpace.create 0 8192 0).val.alloc 4096 0).val.2.freeBlocks.map fun e =>
            (((FreeListSpace.create 0 8192 0).val.alloc 4096 0).val.2.infos e).getPrevFreeBytes).sum +
          ((FreeListSpace.create 0 8192 0).val.alloc 4096 0).val.2.freeEnd =
        ((FreeListSpace.create 0 8192 0).val.alloc 4096 0).val.2.end_ -
          ((FreeListSpace.create 0 8192 0).val.alloc 4096 0).val.2.begin_ ∧
      FreesAccounted FreeListSpace.free (·.numBytesAllocated) (·.numObjectsAllocated) Reachable
        (fun s obj => (s.allocationSize obj).val) ((FreeListSpace.create 0 8192 0).val.alloc 4096 0).val.2
        [0]) ∧
    Counted (fun s : LargeObjectMapSpace => s.numBytesAllocated) (·.numObjectsAllocated)
        (fun s obj => (s.allocationSize obj).val) (create.alloc (some (4096, 8192))).val.2 [4096] ∧
      FreesAccounted LargeObjectMapSpace.free (·.numBytesAllocated) (·.numObjectsAllocated)
        MapReachable (fun s obj => (s.allocationSize obj).val) (create.alloc (some (4096, 8192))).val.2
        [4096] :=
  ⟨large_object_counters_exact.1 _ _ reachable_one_page,
    large_object_counters_exact.2 _ _ mapReachable_one_mapping⟩

end Marvin.Space
