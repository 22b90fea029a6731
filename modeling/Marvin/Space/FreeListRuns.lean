import Marvin.Space.FreeListFree
import Marvin.Space.Accounting
import Mathlib.Algebra.BigOperators.Ring.List
import Mathlib.Algebra.Order.BigOperators.Group.List
import Mathlib.Algebra.Order.Group.Nat

namespace Marvin.Space.FreeListSpace

@[simp] theorem splitRemainder_toLargeObjectSpace (s : FreeListSpace) (info : Nat) :
    (s.splitRemainder info).val.toLargeObjectSpace = s.toLargeObjectSpace := by
  unfold splitRemainder
  split <;> simp

theorem allocTail_bounds (s : FreeListSpace) (newInfo allocationSize : Nat) :
    (s.allocTail newInfo allocationSize).val.2.begin_ = s.begin_ ∧
      (s.allocTail newInfo allocationSize).val.2.end_ = s.end_ := by
  simp [allocTail]

theorem alloc_bounds (s : FreeListSpace) (numBytes t : Nat) :
    (s.alloc numBytes t).val.2.begin_ = s.begin_ ∧ (s.alloc numBytes t).val.2.end_ = s.end_ := by
  simp only [alloc, Checked.val_bind]
  split
  · simp [allocTail_bounds]
  · split <;> simp [allocTail_bounds]

@[simp] theorem removeFreePrev_toLargeObjectSpace (s : FreeListSpace) (x : Nat) :
    (s.removeFreePrev x).val.toLargeObjectSpace = s.toLargeObjectSpace := by
  simp only [removeFreePrev, Checked.val_bind]
  split <;> simp

@[simp] theorem coalescePrev_toLargeObjectSpace (s : FreeListSpace) (info p n : Nat) :
    (s.coalescePrev info p n).val.1.toLargeObjectSpace = s.toLargeObjectSpace := by
  unfold coalescePrev
  split <;> simp

@[simp] theorem coalesceNext_toLargeObjectSpace (s : FreeListSpace) (info next n : Nat) :
    (s.coalesceNext info next n).val.toLargeObjectSpace = s.toLargeObjectSpace := by
  simp only [coalesceNext, Checked.val_bind]
  split <;> simp

theorem freeTail_bounds (s : FreeListSpace) (info next e n size : Nat) :
    (s.freeTail info next e n size).val.2.begin_ = s.begin_ ∧
      (s.freeTail info next e n size).val.2.end_ = s.end_ := by
  simp only [freeTail, Checked.val_bind]
  split <;> simp

theorem free_bounds (s : FreeListSpace) (obj : Nat) :
    (s.free obj).val.2.begin_ = s.begin_ ∧ (s.free obj).val.2.end_ = s.end_ := by
  simp [FreeListSpace.free, freeTail_bounds]

theorem freeTail_counters (s : FreeListSpace) (info next e n size : Nat) :
    (s.freeTail info next e n size).val.1 = size ∧
    (s.freeTail info next e n size).val.2.numBytesAllocated = s.numBytesAllocated - size ∧
    (s.freeTail info next e n size).val.2.numObjectsAllocated = s.numObjectsAllocated - 1 := by
  simp only [freeTail, Checked.val_bind]
  split <;> simp

/-- `Free` returns `AllocationSize(obj)` and takes it, and one object, off the counters. -/
theorem free_counters (s : FreeListSpace) (obj : Nat) :
    (s.free obj).val.1 = (s.allocationSize obj).val ∧
    (s.free obj).val.2.numBytesAllocated = s.numBytesAllocated - (s.allocationSize obj).val ∧
    (s.free obj).val.2.numObjectsAllocated = s.numObjectsAllocated - 1 := by
  simp [FreeListSpace.free, freeTail_counters, allocationSize]

/-- Slot `j` as the address of the block that starts there. -/
def slotAddress (s : FreeListSpace) (j : Nat) : Nat := s.begin_ + j * kAlignment

theorem allocationSize_slotAddress (s : FreeListSpace) (j : Nat) :
    (s.allocationSize (s.slotAddress j)).val = (s.infos j).byteSize := by
  simp [allocationSize, slotAddress, free_slot]

theorem slotAddress_injective (s : FreeListSpace) : Function.Injective s.slotAddress := by
  intro i j h
  simp only [slotAddress, kAlignment, kPageSize] at h
  omega

@[simp] theorem alloc_slotAddress (s : FreeListSpace) (numBytes t : Nat) :
    (s.alloc numBytes t).val.2.slotAddress = s.slotAddress := by
  funext j
  simp [slotAddress, (alloc_bounds s numBytes t).1]

@[simp] theorem free_slotAddress (s : FreeListSpace) (obj : Nat) :
    (s.free obj).val.2.slotAddress = s.slotAddress := by
  funext j
  simp [slotAddress, (free_bounds s obj).1]

end Marvin.Space.FreeListSpace

namespace Marvin.Space

open Block FreeListSpace

theorem pagesFor_pos {numBytes : Nat} (h : 0 < numBytes) : 0 < pagesFor numBytes := by
  simp only [pagesFor, kAlignment, kPageSize]
  omega

theorem pagesFor_le {numBytes : Nat} (h : numBytes ≤ 2 ^ 32) : pagesFor numBytes ≤ 2 ^ 20 := by
  simp only [pagesFor, kAlignment, kPageSize]
  omega

theorem perm_liveSlots_liveMarks {bs bs' : List Block} {j : Nat} {z : Bool}
    (h : (liveMarks 0 bs').Perm ((j, z) :: liveMarks 0 bs)) :
    (liveSlots 0 bs').Perm (j :: liveSlots 0 bs) ∧ (liveMarks 0 bs').Perm ((j, z) :: liveMarks 0 bs) :=
  ⟨by simpa using h.map Prod.fst, h⟩

/-- `Alloc` in a well-formed space fails and changes nothing, or hands out a new live block of
`pagesFor numBytes` pages, zygote bit clear, and keeps the space well formed. -/
theorem Layout.alloc {s : FreeListSpace} {bs : List Block} {numBytes : Nat} (h : Layout s bs)
    (hn : 0 < numBytes) (hcap : numBytes ≤ s.end_ - s.begin_) (t : Nat) :
    (s.alloc numBytes t).val = (none, s) ∨
    ∃ j bs', (s.alloc numBytes t).val.1 = some ⟨s.slotAddress j,
        pagesFor numBytes * kAlignment, pagesFor numBytes * kAlignment,
        pagesFor numBytes * kAlignment⟩ ∧
      Layout (s.alloc numBytes t).val.2 bs' ∧ (liveSlots 0 bs').Perm (j :: liveSlots 0 bs) ∧
      (liveMarks 0 bs').Perm ((j, false) :: liveMarks 0 bs) := by
  have h32 := pagesFor_le (le_trans hcap (le_trans (Nat.sub_le _ _) h.low_4gb))
  rcases h.alloc_cases (pagesFor_pos hn) (lt_of_le_of_lt h32 (by decide)) t with
    ⟨pre, a, c, post, rfl, ha, hc, hfit, -, hv, hl⟩ | ⟨-, -, hv, hl⟩ | ⟨-, -, hv⟩
  · refine .inr ⟨size pre, _, hv, hl, perm_liveSlots_liveMarks ?_⟩
    have hrest : liveMarks (size pre + pagesFor numBytes)
        ((if pagesFor numBytes < a.pages then [⟨a.pages - pagesFor numBytes, true, false⟩]
          else []) ++ c :: post) = liveMarks (size pre + a.pages) (c :: post) := by
      split_ifs with hlt
      · simp only [List.singleton_append, liveMarks_cons, ite_true, List.nil_append]
        rw [show size pre + pagesFor numBytes + (a.pages - pagesFor numBytes) = size pre + a.pages by
          omega]
      · rw [show pagesFor numBytes = a.pages by omega]
        rfl
    have hold : liveMarks 0 (pre ++ a :: c :: post) =
        liveMarks 0 pre ++ liveMarks (size pre + a.pages) (c :: post) := by
      simp [liveMarks_append, ha]
    rw [show ∀ l : List Block, pre ++ (⟨pagesFor numBytes, false, false⟩ :: l ++ [c]) ++ post =
      pre ++ ⟨pagesFor numBytes, false, false⟩ :: (l ++ c :: post) by simp, liveMarks_append,
      liveMarks_cons, hold]
    simp only [Nat.zero_add, Bool.false_eq_true, ite_false, List.singleton_append, hrest]
    exact List.perm_middle
  · refine .inr ⟨size bs, _, hv, hl, perm_liveSlots_liveMarks ?_⟩
    simp [liveMarks_append]
  · exact .inl hv

/-- The live slots come in increasing order, each block ending before the next one starts and
before the end of the walk. -/
theorem Tiles.liveSlots_sorted {f : Nat → AllocationInfo} {i prev : Nat} {bs : List Block}
    (h : Tiles f i prev bs) : (liveSlots i bs).Pairwise (· < ·) := by
  induction bs generalizing i prev with
  | nil => simp
  | cons b bs ih =>
    have hp := h.2.2.2.2.1
    rw [liveSlots_cons, List.pairwise_append]
    refine ⟨by split <;> simp, ih h.2.2.2.2.2.2, fun x hx y hy => ?_⟩
    have := (liveSlots_bounds (h.2.2.2.2.2.2.pages_pos) hy).1
    split at hx <;> simp at hx
    omega

theorem Tiles.liveSlots_end {f : Nat → AllocationInfo} {i prev j : Nat} {bs : List Block}
    (h : Tiles f i prev bs) (hj : j ∈ liveSlots i bs) :
    j + (f j).alignSize ≤ i + size bs ∧
      ∀ j' ∈ liveSlots i bs, j < j' → j + (f j).alignSize ≤ j' := by
  induction bs generalizing i prev with
  | nil => simp at hj
  | cons b bs ih =>
    have hp := h.2.2.2.2.1
    have hbounds := fun {e} (he : e ∈ liveSlots (i + b.pages) bs) =>
      liveSlots_bounds h.2.2.2.2.2.2.pages_pos he
    simp only [liveSlots_cons, List.mem_append, size_cons] at hj ⊢
    rcases hj with hj | hj
    · split at hj <;> simp at hj
      subst hj
      refine ⟨by rw [h.2.1]; omega, fun j' hj' hlt => ?_⟩
      rcases hj' with hj' | hj'
      · split at hj' <;> simp at hj'
        omega
      · rw [h.2.1]
        exact (hbounds hj').1
    · obtain ⟨h1, h2⟩ := ih h.2.2.2.2.2.2 hj
      refine ⟨by omega, fun j' hj' hlt => ?_⟩
      rcases hj' with hj' | hj'
      · split at hj' <;> simp at hj'
        have := (hbounds hj).1
        omega
      · exact h2 j' hj' hlt

theorem Tiles.sum_alignSize {f : Nat → AllocationInfo} {i prev : Nat} {bs : List Block}
    (h : Tiles f i prev bs) : ((liveSlots i bs).map fun j => (f j).alignSize).sum = livePages bs := by
  induction bs generalizing i prev with
  | nil => rfl
  | cons b bs ih =>
    simp only [liveSlots_cons, livePages_cons, List.map_append, List.sum_append,
      ih h.2.2.2.2.2.2]
    split <;> simp [h.2.1]

/-- The headers in `free_blocks_` record the free pages: with the live pages they make up the
walk. -/
theorem Tiles.sum_prevFree {f : Nat → AllocationInfo} {i prev : Nat} {bs : List Block}
    (h : Tiles f i prev bs) :
    ((freeSuccessors i prev bs).map fun e => (f e).prevFree).sum + prevAfter prev bs +
      livePages bs = prev + size bs := by
  induction bs generalizing i prev with
  | nil => simp
  | cons b bs ih =>
    have := ih h.2.2.2.2.2.2
    simp only [freeSuccessors_cons, prevAfter_cons, livePages_cons, size_cons, List.map_append,
      List.sum_append, prevOf] at this ⊢
    split <;> split at this <;> simp_all <;> omega

/-- The states of a `FreeListSpace` from `Create` through `Alloc` of `0 < num_bytes ≤ capacity`
(the heap's bound) and `Free` of live objects, with its live objects. -/
inductive Reachable : FreeListSpace → List Nat → Prop where
  | create {begin capacity allocationInfo : Nat} (hbegin : begin % kAlignment = 0)
      (hcapacity : capacity % kAlignment = 0) (hlow : begin + capacity ≤ 2 ^ 32) :
      Reachable (FreeListSpace.create begin capacity allocationInfo).val []
  | alloc {s : FreeListSpace} {live : List Nat} {numBytes : Nat} (tempInfo : Nat)
      (h : Reachable s live) (hpos : 0 < numBytes) (hcap : numBytes ≤ s.end_ - s.begin_) :
      Reachable (s.alloc numBytes tempInfo).val.2
        (live ++ ((s.alloc numBytes tempInfo).val.1.map Allocation.obj).toList)
  | free {s : FreeListSpace} {live : List Nat} {obj : Nat} (h : Reachable s live)
      (hobj : obj ∈ live) : Reachable (s.free obj).val.2 (live.erase obj)

theorem liveSlots_erase {s : FreeListSpace} {pre post : List Block} {b : Block}
    (h : Layout s (pre ++ b :: post)) (hb : b.free = false) :
    (liveSlots 0 (pre ++ b :: post)).erase (size pre) =
      liveSlots 0 pre ++ liveSlots (size pre + b.pages) post := by
  have hnot : size pre ∉ liveSlots 0 pre := fun hm => by
    have := liveSlots_bounds (fun c hc => h.tiles.pages_pos c (by simp [hc])) hm
    omega
  simp [liveSlots_append, hb, List.erase_append_right _ hnot]

/-- Every reachable state is well formed, and its live objects are those of its blocks. -/
theorem Reachable.layout {s : FreeListSpace} {live : List Nat} (h : Reachable s live) :
    ∃ bs, Layout s bs ∧ live.Perm ((liveSlots 0 bs).map s.slotAddress) := by
  induction h with
  | create hbegin _ hlow => exact ⟨[], create_layout hbegin hlow, by simp⟩
  | @alloc s live numBytes t _ hpos hcap ih =>
    obtain ⟨bs, hl, hp⟩ := ih
    rcases hl.alloc hpos hcap t with hv | ⟨j, bs', hv, hl', hperm, -⟩
    · rw [hv]
      exact ⟨bs, hl, by simpa using hp⟩
    · refine ⟨bs', hl', ?_⟩
      rw [alloc_slotAddress, hv]
      simpa using (List.perm_append_singleton _ _).trans ((hp.cons _).trans (hperm.map _).symm)
  | @free s live obj _ hobj ih =>
    obtain ⟨bs, hl, hp⟩ := ih
    obtain ⟨j, hj, rfl⟩ := List.mem_map.mp (hp.subset hobj)
    obtain ⟨pre, b, post, rfl, rfl, hb⟩ := exists_of_mem_liveSlots hj
    rw [Nat.zero_add] at hj ⊢
    obtain ⟨-, -, bs', hl', hls, -⟩ := hl.free hb
    refine ⟨bs', hl', ?_⟩
    rw [free_slotAddress, hls, ← liveSlots_erase hl hb, List.map_erase (slotAddress_injective s)]
    exact hp.erase _

/-- In every reachable state the side table is laid out, the live objects are the live blocks,
inside the space and disjoint, and `Free` of each passes its `CHECK`s. -/
theorem reachable_representation_invariant {s : FreeListSpace} {live : List Nat}
    (h : Reachable s live) :
    ∃ bs, Layout s bs ∧ live.Perm ((liveSlots 0 bs).map s.slotAddress) ∧ live.Nodup ∧
      (∀ obj ∈ live, s.begin_ ≤ obj ∧ obj + (s.allocationSize obj).val ≤ s.end_) ∧
      (∀ obj ∈ live, ∀ obj' ∈ live, obj < obj' → obj + (s.allocationSize obj).val ≤ obj') ∧
      ∀ obj ∈ live, (s.free obj).checks = true := by
  obtain ⟨bs, hl, hp⟩ := h.layout
  have hmem : ∀ obj ∈ live, ∃ j ∈ liveSlots 0 bs, obj = s.slotAddress j := fun obj ho => by
    obtain ⟨j, hj, rfl⟩ := List.mem_map.mp (hp.subset ho)
    exact ⟨j, hj, rfl⟩
  have hfill := hl.fill
  have hle := hl.begin_le
  simp only [kAlignment, kPageSize] at hfill
  refine ⟨bs, hl, hp, hp.nodup_iff.mpr (List.Nodup.map (slotAddress_injective s)
    (hl.tiles.liveSlots_sorted.imp Nat.ne_of_lt)), fun obj ho => ?_, fun obj ho obj' ho' hlt => ?_, fun obj ho => ?_⟩
  · obtain ⟨j, hj, rfl⟩ := hmem obj ho
    have := (hl.tiles.liveSlots_end hj).1
    rw [allocationSize_slotAddress]
    simp only [AllocationInfo.byteSize, slotAddress, kAlignment, kPageSize] at this ⊢
    omega
  · obtain ⟨j, hj, rfl⟩ := hmem obj ho
    obtain ⟨j', hj', rfl⟩ := hmem obj' ho'
    rw [allocationSize_slotAddress]
    simp only [AllocationInfo.byteSize, slotAddress, kAlignment, kPageSize] at hlt ⊢
    have := (hl.tiles.liveSlots_end hj).2 j' hj' (by omega)
    omega
  · obtain ⟨j, hj, rfl⟩ := hmem obj ho
    obtain ⟨pre, b, post, hbs, hjs, hb⟩ := exists_of_mem_liveSlots hj
    subst hbs
    rw [hjs, Nat.zero_add]
    exact (hl.free hb).2.1

theorem reachable_one_page :
    Reachable ((FreeListSpace.create 0 8192 0).val.alloc 4096 0).val.2 [0] := by
  have := @Reachable.alloc _ _ 4096 0 (@Reachable.create 0 8192 0 (by decide) (by decide)
    (by decide)) (by decide) (by decide)
  rwa [show ([] : List Nat) ++ (((FreeListSpace.create 0 8192 0).val.alloc 4096 0).val.1.map
    Allocation.obj).toList = [0] by decide] at this

theorem reachable_full_page :
    Reachable ((FreeListSpace.create 0 4096 0).val.alloc 4096 0).val.2 [0] := by
  have := @Reachable.alloc _ _ 4096 0 (@Reachable.create 0 4096 0 (by decide) (by decide)
    (by decide)) (by decide) (by decide)
  rwa [show ([] : List Nat) ++ (((FreeListSpace.create 0 4096 0).val.alloc 4096 0).val.1.map
    Allocation.obj).toList = [0] by decide] at this

theorem representation_after_one_page :
    ∃ bs, Layout ((FreeListSpace.create 0 8192 0).val.alloc 4096 0).val.2 bs ∧
      (((FreeListSpace.create 0 8192 0).val.alloc 4096 0).val.2.free 0).checks = true := by
  obtain ⟨bs, hl, -, -, -, -, hfree⟩ := reachable_representation_invariant reachable_one_page
  exact ⟨bs, hl, hfree 0 (by simp)⟩

theorem Reachable.accounting {s : FreeListSpace} {live : List Nat} (h : Reachable s live) :
    s.numBytesAllocated = (live.map fun obj => (s.allocationSize obj).val).sum ∧
    s.numObjectsAllocated = live.length ∧
    s.numBytesAllocated + (s.freeBlocks.map fun e => (s.infos e).getPrevFreeBytes).sum +
      s.freeEnd = s.end_ - s.begin_ := by
  obtain ⟨bs, hl, hp⟩ := h.layout
  have hsum : (live.map fun obj => (s.allocationSize obj).val).sum = livePages bs * kAlignment := by
    rw [(hp.map _).sum_eq, List.map_map]
    simp only [Function.comp_def, allocationSize_slotAddress, AllocationInfo.byteSize,
      List.sum_map_mul_right, hl.tiles.sum_alignSize]
  have hfree := hl.tiles.sum_prevFree
  rw [hl.last_live] at hfree
  have hfb : (s.freeBlocks.map fun e => (s.infos e).getPrevFreeBytes).sum =
      ((freeSuccessors 0 0 bs).map fun e => (s.infos e).prevFree).sum * kAlignment := by
    rw [(hl.free_blocks.map _).sum_eq]
    simp only [AllocationInfo.getPrevFreeBytes, AllocationInfo.getPrevFree, List.sum_map_mul_right]
  refine ⟨hl.bytes.trans hsum.symm, hl.objects.trans (by simpa using hp.length_eq.symm), ?_⟩
  have hsize : livePages bs + ((freeSuccessors 0 0 bs).map fun e => (s.infos e).prevFree).sum =
      size bs := by omega
  rw [hfb, hl.bytes, ← hl.fill, ← Nat.add_mul, hsize]

/-- `Free` of a live object of a reachable state keeps it reachable and drops the counters by
exactly what it returns and by one. -/
theorem reachable_freesExactly :
    FreesExactly FreeListSpace.free (·.numBytesAllocated) (·.numObjectsAllocated) Reachable := by
  intro s live p h hp
  obtain ⟨hbytes, hobjects, -⟩ := h.accounting
  obtain ⟨h1, h2, h3⟩ := s.free_counters p
  have hle : (s.allocationSize p).val ≤ s.numBytesAllocated := by
    rw [hbytes]
    exact List.le_sum_of_mem (List.mem_map_of_mem _ hp)
  have hpos := List.length_pos_of_mem hp
  refine ⟨.free h hp, ?_, ?_⟩ <;> simp only [h1, h2, h3] <;> omega

theorem Layout.freeBlock_of_mem {s : FreeListSpace} {bs : List Block} (h : Layout s bs) {e : Nat}
    (he : e ∈ s.freeBlocks) :
    ∃ pre a post, bs = pre ++ a :: post ∧ a.free = true ∧ e = size pre + a.pages ∧
      (s.infos e).prevFree = a.pages := by
  obtain ⟨pre, a, c, post, rfl, rfl, ha, -, -, hp, -⟩ := h.mem_freeBlocks he
  exact ⟨pre, a, c :: post, rfl, ha, rfl, hp⟩

/-- When every free block has fewer than `n` pages, so does every size recorded in
`free_blocks_`. -/
theorem Layout.prevFree_lt {s : FreeListSpace} {bs : List Block} (h : Layout s bs) {n : Nat}
    (hsmall : ∀ pre a post, bs = pre ++ a :: post → a.free = true → a.pages < n) :
    ∀ e ∈ s.freeBlocks, (s.infos e).prevFree < n := fun e he => by
  obtain ⟨pre, a, post, hbs, ha, -, hp⟩ := h.freeBlock_of_mem he
  rw [hp]
  exact hsmall pre a post hbs ha

theorem mul_kAlignment_le_iff {m n : Nat} : m * kAlignment ≤ n * kAlignment ↔ m ≤ n :=
  ⟨fun h => Nat.le_of_mul_le_mul_right h kAlignment_pos, fun h => Nat.mul_le_mul_right _ h⟩

theorem mul_kAlignment_lt_iff {m n : Nat} : m * kAlignment < n * kAlignment ↔ m < n :=
  Nat.mul_lt_mul_right kAlignment_pos

/-- `Alloc` in a reachable state is best fit and complete. -/
theorem alloc_best_fit {s : FreeListSpace} {live : List Nat} {numBytes : Nat}
    (h : Reachable s live) (hn : 0 < numBytes) (hcap : numBytes ≤ s.end_ - s.begin_) (t : Nat) :
    ((s.alloc numBytes t).val.1 = none ↔
      (∀ e ∈ s.freeBlocks, (s.infos e).getPrevFreeBytes < roundUp numBytes kAlignment) ∧
        s.freeEnd < roundUp numBytes kAlignment) ∧
    ((s.alloc numBytes t).val.1 = none → (s.alloc numBytes t).val.2 = s) ∧
    ∀ a, (s.alloc numBytes t).val.1 = some a →
      a.bytesAllocated = roundUp numBytes kAlignment ∧ a.usableSize = roundUp numBytes kAlignment ∧
      ((s.alloc numBytes t).val.2.allocationSize a.obj).val = roundUp numBytes kAlignment ∧
      ((∃ e ∈ s.freeBlocks, roundUp numBytes kAlignment ≤ (s.infos e).getPrevFreeBytes) →
        ∃ e ∈ s.freeBlocks, a.obj = s.slotAddress (e - (s.infos e).prevFree) ∧
          roundUp numBytes kAlignment ≤ (s.infos e).getPrevFreeBytes ∧
          (∀ e' ∈ s.freeBlocks, roundUp numBytes kAlignment ≤ (s.infos e').getPrevFreeBytes →
            (s.infos e).getPrevFreeBytes ≤ (s.infos e').getPrevFreeBytes) ∧
          (roundUp numBytes kAlignment < (s.infos e).getPrevFreeBytes →
            e ∈ (s.alloc numBytes t).val.2.freeBlocks ∧
            ((s.alloc numBytes t).val.2.infos e).getPrevFreeBytes =
              (s.infos e).getPrevFreeBytes - roundUp numBytes kAlignment)) ∧
      ((∀ e ∈ s.freeBlocks, (s.infos e).getPrevFreeBytes < roundUp numBytes kAlignment) →
        a.obj = s.end_ - s.freeEnd) := by
  obtain ⟨bs, hl, -⟩ := h.layout
  have h32 := pagesFor_le (le_trans hcap (le_trans (Nat.sub_le _ _) hl.low_4gb))
  have hsa : (s.alloc numBytes t).val.2.slotAddress = s.slotAddress := by
    funext j
    simp [slotAddress, (alloc_bounds s numBytes t).1]
  have hsize : ∀ j, ((s.alloc numBytes t).val.2.infos j).alignSize = pagesFor numBytes →
      ((s.alloc numBytes t).val.2.allocationSize (s.slotAddress j)).val =
        pagesFor numBytes * kAlignment := fun j hj => by
    rw [← hsa, allocationSize_slotAddress, AllocationInfo.byteSize, hj]
  simp only [roundUp_eq, AllocationInfo.getPrevFreeBytes, AllocationInfo.getPrevFree,
    mul_kAlignment_le_iff, mul_kAlignment_lt_iff, ← Nat.sub_mul]
  rcases hl.alloc_cases (pagesFor_pos hn) (lt_of_le_of_lt h32 (by decide)) t with
    ⟨pre, a, c, post, rfl, ha, hc, hfit, hbest, hv, hl'⟩ | ⟨hsmall, hfe, hv, hl'⟩ |
      ⟨hsmall, hfe, hv⟩
  · obtain ⟨hmem, hprev⟩ := hl.exists_mem_freeBlocks rfl ha
    have hnot : ¬∀ e ∈ s.freeBlocks, (s.infos e).prevFree < pagesFor numBytes := fun hall =>
      absurd (hall _ hmem) (by omega)
    refine ⟨by simp [hv, hnot], by simp [hv], fun r hr => ?_⟩
    rw [hv, Option.some_inj] at hr
    subst hr
    have hN := (hl'.tiles_from (show _ = pre ++ ⟨pagesFor numBytes, false, false⟩ ::
      ((if pagesFor numBytes < a.pages then [⟨a.pages - pagesFor numBytes, true, false⟩]
        else []) ++ c :: post) by simp)).2.1
    refine ⟨rfl, rfl, hsize _ hN, fun _ => ⟨size pre + a.pages, hmem, by simp [hprev, slotAddress], by omega,
      fun e' he' hfit' => ?_, fun hlt => ?_⟩, fun hall => absurd (hall _ hmem) (by omega)⟩
    · obtain ⟨pre', a', post', hbs, ha', rfl, hp'⟩ := hl.freeBlock_of_mem he'
      rw [hprev, hp']
      exact hbest pre' a' post' hbs ha' (hp' ▸ hfit')
    · rw [hprev] at hlt
      rw [if_pos hlt] at hl'
      have := hl'.exists_mem_freeBlocks (show _ = (pre ++ [⟨pagesFor numBytes, false, false⟩]) ++
        ⟨a.pages - pagesFor numBytes, true, false⟩ :: c :: post by simp) rfl
      simp only [size_append, size_cons, size_nil, Nat.add_zero] at this
      rw [show size pre + pagesFor numBytes + (a.pages - pagesFor numBytes) = size pre + a.pages by
        omega] at this
      exact ⟨this.1, by rw [this.2, hprev]⟩
  · have hall := hl.prevFree_lt hsmall
    refine ⟨⟨fun hnone => by simp [hv] at hnone, fun hh => absurd hh.2 (by omega)⟩,
      fun hnone => by simp [hv] at hnone, fun r hr => ?_⟩
    rw [hv, Option.some_inj] at hr
    subst hr
    have hN := (hl'.tiles_from (show _ = bs ++ [⟨pagesFor numBytes, false, false⟩] from rfl)).2.1
    have hfill := hl.fill
    have hle := hl.begin_le
    exact ⟨rfl, rfl, hsize _ hN, fun ⟨e, he, hfit⟩ => absurd (hall e he) (by omega),
      fun _ => by dsimp only; omega⟩
  · have hall := hl.prevFree_lt hsmall
    exact ⟨⟨fun _ => ⟨hall, hfe⟩, fun _ => by simp [hv]⟩, fun _ => by simp [hv],
      fun r hr => by simp [hv] at hr⟩

theorem fresh_space_alloc_succeeds :
    ((FreeListSpace.create 0 8192 0).val.alloc 4096 0).val.1 ≠ none := fun hnone =>
  absurd ((alloc_best_fit (@Reachable.create 0 8192 0 (by decide) (by decide) (by decide))
    (by decide) (by decide) 0).1.mp hnone).2 (by decide)

namespace FreeListSpace

/-- The callback arguments `Walk` gives for the live block at slot `j`: its range, then the
end-of-object marker `(nullptr, nullptr, 0)`. -/
def walkCalls (s : FreeListSpace) (j : Nat) : List (Nat × Nat × Nat) :=
  [(s.slotAddress j, s.slotAddress j + (s.infos j).byteSize, (s.infos j).byteSize), (0, 0, 0)]

variable {s : FreeListSpace} {endInfo : Nat}

/-- The loop of `Walk` over blocks it tiles ends at `end_info` within one step per block and
gives the live blocks' ranges in order. -/
theorem walkLoop_of_tiles {i prev : Nat} {bs : List Block} (h : Tiles s.infos i prev bs)
    (hend : endInfo = i + size bs) {fuel : Nat} (hfuel : bs.length < fuel) :
    (s.walkLoop endInfo fuel i).val = some ((liveSlots i bs).flatMap s.walkCalls, endInfo) ∧
      (s.walkLoop endInfo fuel i).checks = true := by
  obtain ⟨f, rfl⟩ : ∃ f, fuel = f + 1 := ⟨fuel - 1, by omega⟩
  induction bs generalizing i prev f with
  | nil => simp [walkLoop, hend]
  | cons b bs ih =>
    obtain ⟨-, h2, h3, -, hp, -, ht⟩ := h
    simp only [List.length_cons] at hfuel
    obtain ⟨hv, hc⟩ := ih ht (by simp only [size_cons] at hend; omega) (f := f - 1) (by omega)
    rw [show f - 1 + 1 = f by omega] at hv hc
    simp only [walkLoop, if_pos (show i < endInfo by simp only [size_cons] at hend; omega),
      Checked.val_bind, Checked.checks_bind, AllocationInfo.getNextInfo, h2, h3, hv, hc,
      liveSlots_cons]
    cases b.free <;> simp [walkCalls, slotAddress, hv, hc]

theorem dumpLoop_of_tiles {i prev : Nat} {bs : List Block} (h : Tiles s.infos i prev bs)
    (hend : endInfo = i + size bs) {fuel : Nat} (hfuel : bs.length < fuel) :
    (s.dumpLoop endInfo fuel i).val.isSome := by
  obtain ⟨f, rfl⟩ : ∃ f, fuel = f + 1 := ⟨fuel - 1, by omega⟩
  induction bs generalizing i prev f with
  | nil => simp [dumpLoop, hend]
  | cons b bs ih =>
    obtain ⟨-, h2, -, -, hp, -, ht⟩ := h
    simp only [List.length_cons] at hfuel
    have := ih ht (by simp only [size_cons] at hend; omega) (f := f - 1) (by omega)
    rw [show f - 1 + 1 = f by omega] at this
    simp only [dumpLoop, if_pos (show i < endInfo by simp only [size_cons] at hend; omega),
      Checked.val_bind, AllocationInfo.getNextInfo, h2]
    simpa using this

theorem setAllLoop_of_tiles {i prev : Nat} {bs : List Block} (h : Tiles s.infos i prev bs)
    (hend : endInfo = i + size bs) {fuel : Nat} (hfuel : bs.length < fuel) :
    (setAllLoop endInfo fuel i s).isSome := by
  obtain ⟨f, rfl⟩ : ∃ f, fuel = f + 1 := ⟨fuel - 1, by omega⟩
  induction bs generalizing s i prev f with
  | nil => simp [setAllLoop, hend]
  | cons b bs ih =>
    obtain ⟨-, h2, -, -, hp, -, ht⟩ := h
    simp only [List.length_cons] at hfuel
    simp only [size_cons] at hend
    simp only [setAllLoop, if_pos (show i < endInfo by omega)]
    have hsuffix : ∀ t : FreeListSpace, (∀ j, i < j → t.infos j = s.infos j) →
        (t.infos i).alignSize = b.pages →
          (setAllLoop endInfo f ((t.infos i).getNextInfo i) t).isSome := fun t ht' hta => by
      have := ih (ht.congr fun j hj _ => ht' j (by omega)) (by omega) (f := f - 1) (by omega)
      rwa [show f - 1 + 1 = f by omega, ← hta] at this
    split
    · refine hsuffix _ (fun j hj => ?_) (by simp [h2])
      simp only [setInfo_infos]
      exact Function.update_noteq (by omega) _ _
    · exact hsuffix s (fun _ _ => rfl) h2

end FreeListSpace

theorem length_le_size {bs : List Block} (h : ∀ b ∈ bs, 0 < b.pages) : bs.length ≤ size bs := by
  induction bs with
  | nil => simp
  | cons b bs ih =>
    have := h b (.head _)
    have := ih fun c hc => h c (.tail _ hc)
    simp only [List.length_cons, size_cons]
    omega

/-- The walks over a well-formed space end at `end_info`, the slot of the free-end region. -/
theorem Layout.endInfo {s : FreeListSpace} {bs : List Block} (h : Layout s bs) :
    (s.end_ - s.freeEnd - s.begin_) / kAlignment = size bs ∧
      bs.length < (s.end_ - s.begin_) / kAlignment + 1 := by
  have hfill := h.fill
  have hlen := length_le_size (h.tiles.pages_pos)
  rw [show s.end_ - s.freeEnd - s.begin_ = size bs * kAlignment by omega, mul_kAlignment_div]
  refine ⟨rfl, Nat.lt_succ_of_le (hlen.trans ?_)⟩
  rw [Nat.le_div_iff_mul_le kAlignment_pos]
  omega

namespace FreeListSpace

/-- `Walk` looks up the header of the free-end region with `GetAllocationInfoForAddress`, whose
`DCHECK(Contains(address))` fails when the space is full, that address then being `End()`. -/
theorem walk_dcheck_fails_on_full_space {s : FreeListSpace} (hfull : s.freeEnd = 0)
    (fuel : Nat) : (s.walk fuel).dchecks = false := by
  simp [walk, hfull, LargeObjectSpace.contains]

end FreeListSpace

/-- A one-page space filled by `Alloc`: `Walk` and `Free` fail their `DCHECK`s; a 1 GiB space filled
by `Alloc` fails the mask `DCHECK` of `SetByteSize`. -/
theorem full_page_walk_dcheck_fails :
    Reachable ((FreeListSpace.create 0 4096 0).val.alloc 4096 0).val.2 [0] ∧
      (((FreeListSpace.create 0 4096 0).val.alloc 4096 0).val.2.walk 2).dchecks = false ∧
      (((FreeListSpace.create 0 4096 0).val.alloc 4096 0).val.2.free 0).dchecks = false ∧
      ((FreeListSpace.create 0 (2 ^ 30) 0).val.alloc (2 ^ 30) 0).dchecks = false :=
  ⟨reachable_full_page, FreeListSpace.walk_dcheck_fails_on_full_space (by decide) 2, by decide,
    by decide⟩

end Marvin.Space
