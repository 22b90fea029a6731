import Marvin.Space.FreeListAlloc

namespace Marvin.Space.FreeListSpace

open Block

theorem removeFreePrev_of_mem {s : FreeListSpace} {x : Nat}
    (hs : s.freeBlocks.Pairwise fun a b => s.lt a b) (hx : x ∈ s.freeBlocks)
    (hp : 0 < (s.infos x).prevFree) :
    s.removeFreePrev x = pure { s with freeBlocks := s.freeBlocks.erase x } := by
  unfold removeFreePrev
  rw [lowerBound_self hs hx]
  ext <;> simp [AllocationInfo.getPrevFree, hp]

theorem coalescePrev_of_zero (s : FreeListSpace) (info newFreeSize : Nat) :
    s.coalescePrev info 0 newFreeSize = pure (s, info, newFreeSize) := by
  simp [coalescePrev]

theorem coalescePrev_of_mem {s : FreeListSpace} {info p newFreeSize : Nat}
    (hs : s.freeBlocks.Pairwise fun a b => s.lt a b) (hx : info ∈ s.freeBlocks)
    (hp : (s.infos info).prevFree = p) (hp0 : 0 < p) (hprev : (s.infos (info - p)).prevFree = 0) :
    s.coalescePrev info (p * kAlignment) newFreeSize =
      pure ({ s with freeBlocks := s.freeBlocks.erase info }, info - p,
        newFreeSize + p * kAlignment) := by
  have hne : p * kAlignment ≠ 0 := by simp [kAlignment, kPageSize]; omega
  rw [coalescePrev, if_pos hne, removeFreePrev_of_mem hs hx (hp ▸ hp0)]
  ext <;> simp [AllocationInfo.getPrevFreeInfo, AllocationInfo.getPrevFreeBytes,
    AllocationInfo.getPrevFree, hp, hprev, Nat.pos_iff_ne_zero.mp hp0]

theorem coalesceNext_of_live {s : FreeListSpace} {info next m : Nat}
    (hnext : (s.infos next).isFree = false) (hne : info ≠ next) (hm : m < 2 ^ 32) :
    (s.coalesceNext info next (m * kAlignment)).val =
      ((s.setInfo next ⟨m, (s.infos next).allocSize⟩).insertFreeBlock next).setInfo info
        (header (s.infos info).prevFree m true) ∧
    (s.coalesceNext info next (m * kAlignment)).checks = true := by
  have hm' : m < 4294967296 := hm
  simp [coalesceNext, hnext, setByteSize_val_eq_header, Function.update_noteq hne,
    AllocationInfo.setPrevFreeBytes, mul_kAlignment_div, Nat.mod_eq_of_lt hm']

theorem coalesceNext_of_free {s : FreeListSpace} {info next m : Nat}
    (hnext : (s.infos next).isFree = true)
    (hs : s.freeBlocks.Pairwise fun a b => s.lt a b)
    (hx : next + (s.infos next).alignSize ∈ s.freeBlocks)
    (hp : 0 < (s.infos (next + (s.infos next).alignSize)).prevFree)
    (hne : info ≠ next + (s.infos next).alignSize)
    (hm : m + (s.infos (next + (s.infos next).alignSize)).prevFree < 2 ^ 32) :
    (s.coalesceNext info next (m * kAlignment)).val =
      (({ s with freeBlocks := s.freeBlocks.erase (next + (s.infos next).alignSize) }.setInfo
        (next + (s.infos next).alignSize)
        ⟨m + (s.infos (next + (s.infos next).alignSize)).prevFree,
          (s.infos (next + (s.infos next).alignSize)).allocSize⟩).insertFreeBlock
        (next + (s.infos next).alignSize)).setInfo info
        (header (s.infos info).prevFree
          (m + (s.infos (next + (s.infos next).alignSize)).prevFree) true) ∧
    (s.coalesceNext info next (m * kAlignment)).checks = true := by
  have hm' : m + (s.infos (next + (s.infos next).alignSize)).prevFree < 4294967296 := hm
  simp [coalesceNext, hnext, removeFreePrev_of_mem hs hx hp, setByteSize_val_eq_header,
    Function.update_noteq hne, AllocationInfo.setPrevFreeBytes, AllocationInfo.getPrevFreeBytes,
    AllocationInfo.getPrevFree, AllocationInfo.getNextInfo, mul_kAlignment_div, ← Nat.add_mul,
    Nat.mod_eq_of_lt hm']

theorem freeTail_of_end {s : FreeListSpace} {info next freeEndStart newFreeSize size : Nat}
    (h : s.begin_ + next * kAlignment = freeEndStart) :
    (s.freeTail info next freeEndStart newFreeSize size).val =
      (size, { s with freeEnd := s.freeEnd + newFreeSize,
                      numObjectsAllocated := s.numObjectsAllocated - 1,
                      numBytesAllocated := s.numBytesAllocated - size }) ∧
    (s.freeTail info next freeEndStart newFreeSize size).checks = true := by
  simp [freeTail, h]

theorem freeTail_of_lt {s : FreeListSpace} {info next freeEndStart newFreeSize size : Nat}
    (h : s.begin_ + next * kAlignment < freeEndStart) :
    (s.freeTail info next freeEndStart newFreeSize size).val =
      (size, { (s.coalesceNext info next newFreeSize).val with
        numObjectsAllocated := (s.coalesceNext info next newFreeSize).val.numObjectsAllocated - 1,
        numBytesAllocated := (s.coalesceNext info next newFreeSize).val.numBytesAllocated - size }) ∧
    (s.freeTail info next freeEndStart newFreeSize size).checks =
      (s.coalesceNext info next newFreeSize).checks := by
  simp [freeTail, Nat.not_le.mpr h]

end Marvin.Space.FreeListSpace


namespace Marvin.Space

open Block FreeListSpace

/-- Where `Free` stands once it has marked the block at `st` free, with `prev_free_ = p`
and `pages` pages, and taken `st` out of `free_blocks_`. -/
def FreeListSpace.freedAt (s : FreeListSpace) (st p pages : Nat) : FreeListSpace :=
  { s.setInfo st (header p pages true) with freeBlocks := s.freeBlocks.erase st }

namespace FreeListSpace

variable (s : FreeListSpace) (st p pages : Nat)

@[simp] theorem freedAt_infos :
    (s.freedAt st p pages).infos = Function.update s.infos st (header p pages true) := rfl
@[simp] theorem freedAt_freeBlocks : (s.freedAt st p pages).freeBlocks = s.freeBlocks.erase st :=
  rfl
@[simp] theorem freedAt_freeEnd : (s.freedAt st p pages).freeEnd = s.freeEnd := rfl
@[simp] theorem freedAt_allocationInfo :
    (s.freedAt st p pages).allocationInfo = s.allocationInfo := rfl
@[simp] theorem freedAt_toLargeObjectSpace :
    (s.freedAt st p pages).toLargeObjectSpace = s.toLargeObjectSpace := rfl

theorem freedAt_of_not_mem {s : FreeListSpace} {st : Nat} (h : st ∉ s.freeBlocks) (p pages : Nat) :
    s.freedAt st p pages = s.setInfo st (header p pages true) := by
  unfold freedAt
  rw [List.erase_of_not_mem h]
  rfl

end FreeListSpace

theorem free_slot (s : FreeListSpace) (j : Nat) :
    (s.begin_ + j * kAlignment - s.begin_) / kAlignment = j := by
  rw [Nat.add_sub_cancel_left, mul_kAlignment_div]

/-- A block in front of a freed one that `Free` merges with: none, or one free block. -/
def FreeFront (front : List Block) : Prop :=
  front = [] ∨ ∃ a, front = [a] ∧ a.free = true ∧ 0 < a.pages

namespace FreeFront

variable {front : List Block}

theorem livePages (h : FreeFront front) : Space.livePages front = 0 := by
  rcases h with rfl | ⟨a, rfl, ha, -⟩ <;> simp [*]

theorem liveSlots (h : FreeFront front) (i : Nat) : Space.liveSlots i front = [] := by
  rcases h with rfl | ⟨a, rfl, ha, -⟩ <;> simp [*]

theorem liveMarks (h : FreeFront front) (i : Nat) : Space.liveMarks i front = [] := by
  rcases h with rfl | ⟨a, rfl, ha, -⟩ <;> simp [*]

theorem freeSuccessors (h : FreeFront front) (i : Nat) : Space.freeSuccessors i 0 front = [] := by
  rcases h with rfl | ⟨a, rfl, ha, -⟩ <;> simp

theorem liveBlocks (h : FreeFront front) (i : Nat) : Space.liveBlocks i front = [] := by
  rcases h with rfl | ⟨a, rfl, ha, -⟩ <;> simp [*]

theorem prevAfter (h : FreeFront front) : Block.prevAfter 0 front = size front := by
  rcases h with rfl | ⟨a, rfl, ha, -⟩ <;> simp [prevOf, *]

end FreeFront

/-- `Free` once it has marked the `pages` pages at slot `i0 + f` free and merged them with the
`f` free pages before them: the merge with what follows, and the counters. -/
def FreeListSpace.freeFrom (s : FreeListSpace) (i0 f pages : Nat) : Checked (Nat × FreeListSpace) :=
  (s.freedAt (i0 + f) f pages).freeTail i0 (i0 + f + pages) (s.end_ - s.freeEnd)
    ((f + pages) * kAlignment) (pages * kAlignment)

theorem FreeListSpace.freeFrom_fst (s : FreeListSpace) (i0 f pages : Nat) :
    (s.freeFrom i0 f pages).val.1 = pages * kAlignment := by
  simp only [freeFrom, freeTail, Checked.val_bind]
  split <;> simp

/-- `Free` of the live block `b` up to its merge with the free block `front` before it,
if there is one. -/
theorem Layout.free_front {s : FreeListSpace} {pre post : List Block} {b : Block}
    (h : Layout s (pre ++ b :: post)) :
    ∃ pre' front, pre = pre' ++ front ∧ prevAfter 0 pre' = 0 ∧
      FreeFront front ∧
      (s.free (s.begin_ + size pre * kAlignment)).val = (s.freeFrom (size pre') (size front) b.pages).val ∧
      (s.free (s.begin_ + size pre * kAlignment)).checks =
        (s.freeFrom (size pre') (size front) b.pages).checks := by
  have ht := h.tiles
  rw [tiles_append] at ht
  have hw := ht.2
  simp only [Nat.zero_add, tiles_cons] at hw
  have hbp : b.pages < 2 ^ 30 := h.pages_lt_of_mem (by simp)
  have hinfo : (s.infos (size pre)).byteSize = b.pages * kAlignment := by
    rw [AllocationInfo.byteSize, hw.2.1]
  simp only [FreeListSpace.free, Checked.val_bind, Checked.checks_bind, getSlotIndexForAddress_val,
    free_slot, hinfo, setByteSize_val_eq_header, setInfo_infos, Function.update_same,
    AllocationInfo.getPrevFreeBytes, AllocationInfo.getPrevFree, header_prevFree, hw.1,
    AllocationInfo.getNextInfo, header_alignSize _ true hbp, gcRecordFree_checks, dcheck_checks,
    getSlotIndexForAddress_checks, AllocationInfo.setByteSize_checks, Bool.true_and,
    setInfo_toLargeObjectSpace, setInfo_freeEnd]
  by_cases hp : prevAfter 0 pre = 0
  · refine ⟨pre, [], by simp, hp, .inl rfl, ?_⟩
    have hnot : size pre ∉ s.freeBlocks := by
      obtain ⟨hL, hA, hB⟩ := h.freeBlocks_window (show pre ++ b :: post = pre ++ [b] ++ post by simp)
      intro hm
      rcases List.mem_append.mp (hL.subset hm) with hm | hm
      · rcases List.mem_append.mp hm with hm | hm
        · exact absurd (hA _ hm) (Nat.lt_irrefl _)
        · simp [hp] at hm
      · have := hB _ hm
        have := hw.2.2.2.2.1
        simp at *
        omega
    simp only [hp, Nat.zero_mul, coalescePrev_of_zero, Checked.val_pure, Checked.checks_pure,
      size_nil, Nat.zero_add, Nat.add_zero, freeFrom, freedAt_of_not_mem hnot, Bool.true_and,
      and_self]
  · obtain ⟨pre', a, rfl, ha, hpa⟩ := exists_free_last rfl hp
    have hta := ((tiles_append _ _ _ _ _).mp ht.1).2
    simp only [Nat.zero_add, tiles_cons, tiles_nil] at hta
    have hpre' : prevAfter 0 pre' = 0 := by
      by_contra hne
      simp [hta.2.2.2.2.2.1 hne] at ha
    have hap : 0 < a.pages := hta.2.2.2.2.1
    refine ⟨pre', [a], rfl, hpre', .inr ⟨a, rfl, ha, hap⟩, ?_⟩
    have hst : size (pre' ++ [a]) = size pre' + a.pages := by simp
    have hmem := (h.exists_mem_freeBlocks
      (show pre' ++ [a] ++ b :: post = pre' ++ a :: b :: post by simp) ha).1
    rw [← hst] at hmem
    rw [hpa, @coalescePrev_of_mem (s.setInfo (size (pre' ++ [a])) (header a.pages b.pages true))
      _ _ _ ?_ hmem (by simp) hap ?_]
    · simp only [Checked.val_pure, Checked.checks_pure, setInfo_freeBlocks, hst,
        Nat.add_sub_cancel, size_cons, size_nil, Nat.add_zero, ← Nat.add_mul, Nat.add_comm b.pages]
      exact ⟨rfl, rfl⟩
    · refine pairwise_lt_congr h.sorted (by simp) fun e _ => ?_
      by_cases he : e = size (pre' ++ [a])
      · subst he
        simp only [setInfo_infos, Function.update_same, header_prevFree,
          header_alignSize _ true hbp]
        exact ⟨(hw.1.trans hpa).symm, hw.2.1.symm⟩
      · simp only [setInfo_infos, Function.update_noteq he, and_self]
    · simp only [setInfo_infos, hst, Nat.add_sub_cancel]
      rw [Function.update_noteq (by omega), hta.1, hpre']

theorem perm_erase_of_window {L A M B : List Nat} {x : Nat} (hL : L.Perm (A ++ M ++ B))
    (hA : x ∉ A) (hB : x ∉ B) : (L.erase x).Perm (A ++ M.erase x ++ B) := by
  have := hL.erase x
  rw [List.append_assoc, List.erase_append_right _ hA, List.erase_append] at this
  split_ifs at this with hM
  · simpa using this
  · rw [List.erase_of_not_mem hB] at this
    simpa [List.erase_of_not_mem hM] using this


/-- After `Free` has erased one header from a sorted `free_blocks_` and changed only that
header, the rest stay sorted. -/
theorem Layout.sorted_erase {s s' : FreeListSpace} {bs : List Block} (h : Layout s bs) {x : Nat}
    (hai : s'.allocationInfo = s.allocationInfo) (hfb : s'.freeBlocks = s.freeBlocks.erase x)
    (hk : ∀ e, e ≠ x → s'.infos e = s.infos e) : s'.freeBlocks.Pairwise fun a b => s'.lt a b := by
  rw [hfb]
  refine pairwise_lt_congr (h.sorted.sublist (List.erase_sublist _ _)) hai fun e he => ?_
  rw [hk e ((h.nodup.mem_erase_iff.mp he).1)]
  exact ⟨rfl, rfl⟩

theorem Layout.tiles_from {s : FreeListSpace} {bs pre post : List Block} (h : Layout s bs)
    (hbs : bs = pre ++ post) : Tiles s.infos (size pre) (prevAfter 0 pre) post :=
  (hbs ▸ h.tiles).suffix

/-- `Free` of the last block: it and the free block before it, if any, join the free-end
region. -/
theorem Layout.free_end {s : FreeListSpace} {pre' front : List Block} {b : Block}
    (h : Layout s (pre' ++ front ++ [b])) (hfront : FreeFront front)
    (hpre' : prevAfter 0 pre' = 0) (hb : b.free = false) :
    (s.freeFrom (size pre') (size front) b.pages).checks = true ∧
    Layout (s.freeFrom (size pre') (size front) b.pages).val.2 pre' := by
  have hfill := h.fill
  have hle := h.begin_le
  have hbytes := h.bytes
  have hobjects := h.objects
  simp only [size_append, size_cons, size_nil, livePages_append, livePages_cons, livePages_nil,
    hfront.livePages, hb, liveSlots_append, hfront.liveSlots, liveSlots_cons, liveSlots_nil,
    List.length_append, List.length_cons, List.length_nil, Bool.false_eq_true, ite_false,
    List.nil_append, Nat.add_zero, Nat.zero_add, Nat.add_mul] at hfill hbytes hobjects
  obtain ⟨hv, hc⟩ := @freeTail_of_end (s.freedAt (size pre' + size front) (size front) b.pages)
    (size pre') (size pre' + size front + b.pages) (s.end_ - s.freeEnd)
    ((size front + b.pages) * kAlignment) (b.pages * kAlignment)
    (by simp only [freedAt_toLargeObjectSpace, Nat.add_mul]; omega)
  refine ⟨hc, ?_⟩
  rw [freeFrom, hv]
  rw [List.append_assoc] at h
  apply Layout.retail h (List.append_nil pre').symm
  · simp
  · simp
  · simp only [size_nil, Nat.zero_mul, Nat.zero_add, freedAt_freeEnd, size_append, size_cons,
      Nat.add_mul]
    omega
  · intro j hj
    simp only [freedAt_infos]
    rw [Function.update_noteq (by omega)]
  · simp
  · simpa using hpre'
  · obtain ⟨hL, hA, -⟩ := h.freeBlocks_window (List.append_nil _).symm
    have hM : (freeSuccessors (size pre') (prevAfter 0 pre') (front ++ [b])).erase
        (size pre' + size front) = [] := by
      simp only [freeSuccessors_append, hpre', hfront.freeSuccessors, freeSuccessors_cons,
        freeSuccessors_nil, hfront.prevAfter]
      split <;> simp
    have := perm_erase_of_window (x := size pre' + size front) hL
      (fun hx => absurd (hA _ hx) (by simp)) (by simp)
    rw [hM] at this
    simpa using this
  · exact h.sorted_erase (by simp) rfl fun e he => Function.update_noteq he _ _
  · simp only [livePages_append, livePages_cons, livePages_nil, hfront.livePages, hb]
    simp
    omega
  · simp only [liveSlots_append, hfront.liveSlots, liveSlots_cons, hb]
    simp
    omega

/-- Where `Free` leaves the table when a live block at `nst` follows the freed one: one free
block of `pages` pages at `i0`, recorded in the header at `nst`. -/
def FreeListSpace.mergedAt (s : FreeListSpace) (i0 nst pages : Nat) : FreeListSpace :=
  ((({ s with freeBlocks := s.freeBlocks.erase nst }).setInfo nst
    ⟨pages, (s.infos nst).allocSize⟩).insertFreeBlock nst).setInfo i0 (header 0 pages true)

namespace FreeListSpace

variable (s : FreeListSpace) (i0 nst pages : Nat)

@[simp] theorem mergedAt_infos : (s.mergedAt i0 nst pages).infos =
    Function.update (Function.update s.infos nst ⟨pages, (s.infos nst).allocSize⟩) i0
      (header 0 pages true) := rfl
@[simp] theorem mergedAt_freeBlocks : (s.mergedAt i0 nst pages).freeBlocks =
    (({ s with freeBlocks := s.freeBlocks.erase nst }.setInfo nst
      ⟨pages, (s.infos nst).allocSize⟩).insertFreeBlock nst).freeBlocks := rfl
@[simp] theorem mergedAt_freeEnd : (s.mergedAt i0 nst pages).freeEnd = s.freeEnd := rfl
@[simp] theorem mergedAt_allocationInfo :
    (s.mergedAt i0 nst pages).allocationInfo = s.allocationInfo := rfl
@[simp] theorem mergedAt_toLargeObjectSpace :
    (s.mergedAt i0 nst pages).toLargeObjectSpace = s.toLargeObjectSpace := rfl

end FreeListSpace

theorem FreeFront.erase_merge {front gap : List Block} {b n : Block}
    (hfront : FreeFront front) (hgap : FreeFront gap) (hb : b.free = false) (i : Nat) :
    ((Space.freeSuccessors i 0 (front ++ b :: gap ++ [n])).erase (i + size front)).erase
      (i + size front + b.pages + size gap) = [] := by
  rcases hfront with rfl | ⟨a, rfl, ha, hap⟩ <;> rcases hgap with rfl | ⟨c, rfl, hc, hcp⟩ <;>
    simp [prevOf, Nat.add_assoc, Nat.pos_iff_ne_zero.mp, *]

theorem Layout.coalesceNext_merge {s : FreeListSpace} {pre' front gap post : List Block}
    {b n : Block} (h : Layout s (pre' ++ (front ++ b :: gap ++ [n]) ++ post))
    (hfront : FreeFront front) (hgap : FreeFront gap) (hpre' : prevAfter 0 pre' = 0)
    (hb : b.free = false) (hn : n.free = false) :
    ((s.freedAt (size pre' + size front) (size front) b.pages).coalesceNext (size pre')
      (size pre' + size front + b.pages) ((size front + b.pages) * kAlignment)).val =
      (s.freedAt (size pre' + size front) (size front) b.pages).mergedAt (size pre')
        (size pre' + size front + b.pages + size gap) (size front + b.pages + size gap) ∧
    ((s.freedAt (size pre' + size front) (size front) b.pages).coalesceNext (size pre')
      (size pre' + size front + b.pages) ((size front + b.pages) * kAlignment)).checks = true := by
  have hi0 := (h.tiles_from (show _ = pre' ++ (front ++ b :: gap ++ [n] ++ post) by simp)).prevFree_head (by simp)
  have hbt := h.tiles_from (show _ = (pre' ++ front) ++ b :: (gap ++ n :: post) by simp)
  have hnt := h.tiles_from (show _ = (pre' ++ front ++ b :: gap) ++ n :: post by simp)
  have hpages : size front + b.pages + size gap ≤ 1048576 := by
    have := h.pages_le (front ++ b :: gap) (by simp; omega)
    simp only [size_append, size_cons] at this
    omega
  simp only [tiles_cons, size_append, size_cons, prevAfter_append, prevAfter_cons, hpre',
    hfront.prevAfter, prevOf, hb, Bool.false_eq_true, ite_false, prevAfter_nil] at hbt hnt hi0
  have hbp := hbt.2.2.2.2.1
  have hprev0 : ((s.freedAt (size pre' + size front) (size front) b.pages).infos (size pre')).prevFree = 0 := by
    simp only [freedAt_infos, Function.update_apply]
    split_ifs with h'
    · simp only [header_prevFree]; omega
    · exact hi0
  have hs := @Layout.sorted_erase s (s.freedAt (size pre' + size front) (size front) b.pages) _ h
    _ (by simp) rfl fun e he => Function.update_noteq he _ _
  rcases hgap with rfl | ⟨c, rfl, hc, -⟩
  · simp only [size_nil, Nat.add_zero] at hnt hpages ⊢
    have hnext : (s.freedAt (size pre' + size front) (size front) b.pages).infos
        (size pre' + size front + b.pages) = s.infos (size pre' + size front + b.pages) :=
      Function.update_noteq (by omega) _ _
    obtain ⟨hv, hc⟩ := @coalesceNext_of_live (s.freedAt (size pre' + size front) (size front) b.pages)
      (size pre') (size pre' + size front + b.pages) (size front + b.pages)
      (hnext ▸ hnt.2.2.1.trans hn) (by omega) (lt_of_le_of_lt hpages (by decide))
    refine ⟨?_, hc⟩
    rw [hv, mergedAt, List.erase_of_not_mem, hprev0]
    exact fun hm => h.not_mem_freeBlocks hnt.1 (List.mem_of_mem_erase hm)
  · simp only [size_cons, size_nil, Nat.add_zero, ← Nat.add_assoc, prevAfter_cons, prevAfter_nil,
      prevOf, hc, ite_true] at hnt hpages ⊢
    have hct := hbt.2.2.2.2.2.2
    simp only [List.singleton_append, tiles_cons] at hct
    have hca : (s.freedAt (size pre' + size front) (size front) b.pages).infos
        (size pre' + size front + b.pages) = s.infos (size pre' + size front + b.pages) :=
      Function.update_noteq (by omega) _ _
    have hpf : ((s.freedAt (size pre' + size front) (size front) b.pages).infos
        (size pre' + size front + b.pages + c.pages)).prevFree = c.pages := by
      rw [freedAt_infos, Function.update_noteq (by omega), hnt.1]
    have hmem : size pre' + size front + b.pages + c.pages ∈
        (s.freedAt (size pre' + size front) (size front) b.pages).freeBlocks := by
      have := (h.exists_mem_freeBlocks (show _ = (pre' ++ front ++ [b]) ++ c :: n :: post by simp) hc).1
      simp only [size_append, size_cons, size_nil, Nat.add_zero] at this
      exact (List.mem_erase_of_ne (by omega)).mpr this
    obtain ⟨hv, hc'⟩ := @coalesceNext_of_free (s.freedAt (size pre' + size front) (size front) b.pages)
      (size pre') (size pre' + size front + b.pages) (size front + b.pages)
      (by rw [hca, hct.2.2.1, hc]) hs (by rwa [hca, hct.2.1]) (by rw [hca, hct.2.1, hpf]; omega)
      (by rw [hca, hct.2.1]; omega) (by rw [hca, hct.2.1, hpf]; omega)
    rw [hca, hct.2.1, hpf] at hv
    exact ⟨by rw [hv, mergedAt, hprev0], hc'⟩

/-- The headers `Free` leaves in `free_blocks_` when it merges in front of a live block: those
outside the merged blocks and the header of the live block, still sorted. -/
theorem Layout.freeBlocks_mergedAt {s : FreeListSpace} {pre' front gap post : List Block}
    {b n : Block} (h : Layout s (pre' ++ (front ++ b :: gap ++ [n]) ++ post))
    (hfront : FreeFront front) (hgap : FreeFront gap) (hpre' : prevAfter 0 pre' = 0)
    (hb : b.free = false) :
    ((s.freedAt (size pre' + size front) (size front) b.pages).mergedAt (size pre')
      (size pre' + size front + b.pages + size gap) (size front + b.pages + size gap)).freeBlocks.Perm
      (freeSuccessors 0 0 pre' ++ [size pre' + size front + b.pages + size gap] ++
        freeSuccessors (size pre' + size (front ++ b :: gap ++ [n]))
          (prevAfter 0 (front ++ b :: gap ++ [n])) post) ∧
    ((s.freedAt (size pre' + size front) (size front) b.pages).mergedAt (size pre')
      (size pre' + size front + b.pages + size gap) (size front + b.pages + size gap)).freeBlocks.Pairwise
      fun x y => ((s.freedAt (size pre' + size front) (size front) b.pages).mergedAt (size pre')
        (size pre' + size front + b.pages + size gap) (size front + b.pages + size gap)).lt x y := by
  have hbp := h.tiles.pages_pos b (by simp)
  have hnp := h.tiles.pages_pos n (by simp)
  have hi0 := (h.tiles_from (show _ = pre' ++ (front ++ b :: gap ++ [n] ++ post) by simp)).prevFree_head
    (by simp)
  obtain ⟨hL, hA, hB⟩ := h.freeBlocks_window rfl
  rw [hpre'] at hL hB hi0
  have hM := hfront.erase_merge hgap hb (n := n) (size pre')
  have hL1 := perm_erase_of_window (x := size pre' + size front) hL
    (fun he => absurd (hA _ he) (by omega)) (fun he => absurd (hB _ he) (by simp; omega))
  have hL2 := perm_erase_of_window (x := size pre' + size front + b.pages + size gap) hL1
    (fun he => absurd (hA _ he) (by omega)) (fun he => absurd (hB _ he) (by simp; omega))
  rw [hM, List.append_nil] at hL2
  have hnd := h.nodup.erase (size pre' + size front)
  have hnot := hnd.not_mem_erase (a := size pre' + size front + b.pages + size gap)
  have hmemL : ∀ e ∈ (s.freeBlocks.erase (size pre' + size front)).erase
      (size pre' + size front + b.pages + size gap),
      e ≠ size pre' + size front + b.pages + size gap ∧ e ≠ size pre' + size front ∧
        e ≠ size pre' := fun e he => by
    obtain ⟨h1, h2⟩ := hnd.mem_erase_iff.mp he
    obtain ⟨h3, h4⟩ := h.nodup.mem_erase_iff.mp h2
    exact ⟨h1, h3, fun heq => h.not_mem_freeBlocks hi0 (heq ▸ h4)⟩
  constructor
  · simp only [mergedAt_freeBlocks, insertFreeBlock_freeBlocks, setInfo_freeBlocks,
      freedAt_freeBlocks]
    refine (setInsert_perm hnot fun e he => lt_total _ fun heq => hnot (heq ▸ he)).trans ?_
    rw [List.append_assoc, List.singleton_append]
    exact (hL2.cons _).trans List.perm_middle.symm
  · have hsub : ((s.freeBlocks.erase (size pre' + size front)).erase
        (size pre' + size front + b.pages + size gap)).Sublist s.freeBlocks :=
      (List.erase_sublist _ _).trans (List.erase_sublist _ _)
    refine pairwise_lt_congr (sorted_insertFreeBlock (pairwise_lt_congr (h.sorted.sublist hsub)
      (by simp) fun e he => ?_) _) (by simp) fun e he => ?_
    · obtain ⟨h1, h2, -⟩ := hmemL e he
      simp [Function.update_noteq h1, Function.update_noteq h2]
    · have : e ≠ size pre' := by
        rcases mem_setInsert he with rfl | he
        · omega
        · exact (hmemL e he).2.2
      simp [Function.update_noteq this]

/-- `Free` of a block followed by a live block `n`, maybe past one free block `gap`: the freed
pages, `front` and `gap` become one free block in front of `n`. -/
theorem Layout.free_merge {s : FreeListSpace} {pre' front gap post : List Block} {b n : Block}
    (h : Layout s (pre' ++ (front ++ b :: gap ++ [n]) ++ post)) (hfront : FreeFront front)
    (hgap : FreeFront gap) (hpre' : prevAfter 0 pre' = 0) (hb : b.free = false)
    (hn : n.free = false) :
    (s.freeFrom (size pre') (size front) b.pages).checks = true ∧
    Layout (s.freeFrom (size pre') (size front) b.pages).val.2
      (pre' ++ [⟨size front + b.pages + size gap, true, false⟩, n] ++ post) := by
  obtain ⟨hv, hc⟩ := h.coalesceNext_merge hfront hgap hpre' hb hn
  have hfill := h.fill
  have hnpos := h.tiles.pages_pos n (by simp)
  have hnp := Nat.mul_pos hnpos kAlignment_pos
  simp only [size_append, size_cons, size_nil, Nat.add_mul] at hfill
  obtain ⟨hv', hc'⟩ := @freeTail_of_lt (s.freedAt (size pre' + size front) (size front) b.pages)
    (size pre') (size pre' + size front + b.pages) (s.end_ - s.freeEnd)
    ((size front + b.pages) * kAlignment) (b.pages * kAlignment)
    (by simp only [freedAt_toLargeObjectSpace, Nat.add_mul]; omega)
  refine ⟨by rw [freeFrom, hc', hc], ?_⟩
  rw [freeFrom, hv', hv]
  have hbp := h.tiles.pages_pos b (by simp)
  have hmp : size front + b.pages + size gap < 2 ^ 30 := by
    have := h.pages_le (front ++ b :: gap) (by simp; omega)
    simp only [size_append, size_cons] at this
    exact lt_of_le_of_lt (by omega) (by decide : 2 ^ 20 < 2 ^ 30)
  apply Layout.replace h
  · simp
  · simp
  · simp
  · intro j hj
    simp only [size_append, size_cons, size_nil] at hj
    simp only [mergedAt_infos, freedAt_infos]
    rw [Function.update_noteq, Function.update_noteq, Function.update_noteq] <;> omega
  · have hnt := h.tiles_from (show _ = (pre' ++ front ++ b :: gap) ++ n :: post by simp)
    simp only [size_append, size_cons, prevAfter_append, prevAfter_cons, hpre', hfront.prevAfter,
      prevOf, hb, Bool.false_eq_true, ite_false, hgap.prevAfter, tiles_cons, ← Nat.add_assoc] at hnt
    have hidx : size pre' + (size front + b.pages + size gap) =
        size pre' + size front + b.pages + size gap := by omega
    have hne : size pre' + size front + b.pages + size gap ≠ size pre' := by omega
    have hne' : size pre' + size front + b.pages + size gap ≠ size pre' + size front := by omega
    simp only [tiles_cons, tiles_nil, hpre', mergedAt_infos, freedAt_infos, Function.update_same,
      header_prevFree, header_alignSize _ true hmp, header_isFree _ true hmp,
      header_isZygoteObject _ true hmp, hidx, Function.update_noteq hne, AllocationInfo.alignSize_mk_allocSize,
      AllocationInfo.isFree_mk_allocSize, AllocationInfo.isZygoteObject_mk_allocSize, Function.update_noteq hne', prevOf,
      ite_true, hnt.2.1, hnt.2.2.1, hnt.2.2.2.1, hn]
    simp [hnpos]
    omega
  · simp only [size_append, size_cons, size_nil]
    omega
  · simp [prevOf, hn]
  · have := (h.freeBlocks_mergedAt hfront hgap hpre' hb).1
    simpa [hpre', prevOf, hn, Nat.add_assoc, hbp.ne'] using this
  · exact (h.freeBlocks_mergedAt hfront hgap hpre' hb).2
  · have hbytes := h.bytes
    simp only [livePages_append, livePages_cons, livePages_nil, hfront.livePages, hgap.livePages,
      hb, hn, Bool.false_eq_true, ite_false, ite_true, Nat.add_mul] at hbytes ⊢
    simp only [mergedAt_toLargeObjectSpace, freedAt_toLargeObjectSpace]
    omega
  · have hobjects := h.objects
    simp only [liveSlots_append, liveSlots_cons, liveSlots_nil, hfront.liveSlots, hgap.liveSlots,
      hb, hn, Bool.false_eq_true, ite_false, ite_true, List.length_append, List.length_cons,
      List.length_nil] at hobjects ⊢
    simp only [mergedAt_toLargeObjectSpace, freedAt_toLargeObjectSpace]
    omega

theorem liveSlots_bounds {i e : Nat} {bs : List Block} (hpos : ∀ b ∈ bs, 0 < b.pages)
    (he : e ∈ liveSlots i bs) : i ≤ e ∧ e < i + size bs := by
  obtain ⟨pre, b, post, rfl, rfl, -⟩ := exists_of_mem_liveSlots he
  have := hpos b (by simp)
  simp only [size_append, size_cons]
  omega

/-- `Free` of the object at a live block of a well-formed space returns the block's size and
passes its checks, and the space stays well formed with the other blocks live and unchanged. -/
theorem Layout.free_liveBlocks {s : FreeListSpace} {pre post : List Block} {b : Block}
    (h : Layout s (pre ++ b :: post)) (hb : b.free = false) :
    (s.free (s.begin_ + size pre * kAlignment)).val.1 = b.pages * kAlignment ∧
    (s.free (s.begin_ + size pre * kAlignment)).checks = true ∧
    ∃ bs', Layout (s.free (s.begin_ + size pre * kAlignment)).val.2 bs' ∧
      liveBlocks 0 bs' = liveBlocks 0 pre ++ liveBlocks (size pre + b.pages) post := by
  obtain ⟨pre', front, rfl, hpre', hfront, hv, hc⟩ := h.free_front
  rw [hv, hc, freeFrom_fst]
  refine ⟨rfl, ?_⟩
  rcases post with _ | ⟨c, post⟩
  · obtain ⟨hc, hl⟩ := Layout.free_end (by simpa using h) hfront hpre' hb
    exact ⟨hc, pre', hl, by simp [liveBlocks_append, hfront.liveBlocks]⟩
  · have hcp := h.tiles.pages_pos c (by simp)
    cases hcf : c.free
    · obtain ⟨hc', hl⟩ := Layout.free_merge (n := c)
        (show Layout s (pre' ++ (front ++ b :: [] ++ [c]) ++ post) by simpa using h)
        hfront (.inl rfl) hpre' hb hcf
      refine ⟨hc', _, hl, ?_⟩
      simp [liveBlocks_append, hfront.liveBlocks, hcf, Nat.add_assoc]
    · rcases post with _ | ⟨n, post⟩
      · have := h.last_live
        simp [prevOf, hcf] at this
        omega
      · have hn := (h.tiles_from (show _ = (pre' ++ front ++ [b, c]) ++ n :: post by simp)).2.2.2.2.2.1
        simp only [prevAfter_append, prevAfter_cons, prevAfter_nil, prevOf, hcf, ite_true] at hn
        obtain ⟨hc', hl⟩ := Layout.free_merge (n := n)
          (show Layout s (pre' ++ (front ++ b :: [c] ++ [n]) ++ post) by simpa using h)
          hfront (.inr ⟨c, rfl, hcf, hcp⟩) hpre' hb (hn (by omega))
        refine ⟨hc', _, hl, ?_⟩
        simp [liveBlocks_append, hfront.liveBlocks, hcf, hn, Nat.add_assoc]

/-- `Free` of a live block returns its size, passes its checks and keeps the space well formed,
with the other blocks live and their zygote bits kept. -/
theorem Layout.free {s : FreeListSpace} {pre post : List Block} {b : Block}
    (h : Layout s (pre ++ b :: post)) (hb : b.free = false) :
    (s.free (s.begin_ + size pre * kAlignment)).val.1 = b.pages * kAlignment ∧
    (s.free (s.begin_ + size pre * kAlignment)).checks = true ∧
    ∃ bs', Layout (s.free (s.begin_ + size pre * kAlignment)).val.2 bs' ∧
      liveSlots 0 bs' = liveSlots 0 pre ++ liveSlots (size pre + b.pages) post ∧
      liveMarks 0 bs' = liveMarks 0 pre ++ liveMarks (size pre + b.pages) post := by
  obtain ⟨hv, hc, bs', hl, hlb⟩ := h.free_liveBlocks hb
  refine ⟨hv, hc, bs', hl, ?_, ?_⟩
  · simp only [← liveBlocks_map_fst, hlb, List.map_append]
  · simp only [← liveBlocks_map_mark, hlb, List.map_append]

end Marvin.Space
