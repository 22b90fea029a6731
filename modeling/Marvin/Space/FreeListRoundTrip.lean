import Marvin.Space.FreeListRuns
import Mathlib.Data.List.Sort

namespace Marvin.Space

open Block FreeListSpace

namespace Block

/-- What the side table says of a block once `Alloc` or `Free` has written its header: a free
block's header carries no zygote bit. -/
def shape (b : Block) : Block := if b.free then { b with zygote := false } else b

@[simp] theorem shape_pages (b : Block) : b.shape.pages = b.pages := by
  unfold shape; split <;> rfl

@[simp] theorem shape_free (b : Block) : b.shape.free = b.free := by
  unfold shape; split <;> rfl

@[simp] theorem prevOf_shape (b : Block) : b.shape.prevOf = b.prevOf := by
  simp [prevOf]

@[simp] theorem size_map_shape (bs : List Block) : size (bs.map shape) = size bs := by
  induction bs <;> simp [*]

end Block

@[simp] theorem freeSuccessors_map_shape (i prev : Nat) (bs : List Block) :
    freeSuccessors i prev (bs.map shape) = freeSuccessors i prev bs := by
  induction bs generalizing i prev <;> simp [*]

@[simp] theorem liveMarks_map_shape (i : Nat) (bs : List Block) :
    liveMarks i (bs.map shape) = liveMarks i bs := by
  induction bs generalizing i with
  | nil => rfl
  | cons b bs ih => cases hb : b.free <;> simp [hb, ih, shape]

@[simp] theorem livePages_map_shape (bs : List Block) : livePages (bs.map shape) = livePages bs := by
  induction bs <;> simp [*]

/-- Two tilings of the same shape put the same `prev_free_` and page count in every header that
follows a free block. -/
theorem Tiles.freeSuccessor_keys {f g : Nat → AllocationInfo} {i prev : Nat}
    {bs bs' : List Block} (h : Tiles f i prev bs) (h' : Tiles g i prev bs')
    (hshape : bs'.map shape = bs.map shape) {e : Nat} (he : e ∈ freeSuccessors i prev bs) :
    (g e).prevFree = (f e).prevFree ∧ (g e).alignSize = (f e).alignSize := by
  induction bs generalizing bs' i prev with
  | nil => simp at he
  | cons b bs ih =>
    obtain _ | ⟨b', bs'⟩ := bs'
    · simp at hshape
    obtain ⟨hb, hbs⟩ := List.cons.inj hshape
    have hpages : b'.pages = b.pages := by simpa using congrArg Block.pages hb
    have hprev : b'.prevOf = b.prevOf := by simpa using congrArg Block.prevOf hb
    simp only [freeSuccessors_cons, List.mem_append] at he
    rcases he with he | he
    · split at he <;> simp only [List.mem_singleton, List.not_mem_nil] at he
      subst he
      exact ⟨h'.1.trans h.1.symm, by rw [h'.2.1, h.2.1, hpages]⟩
    · exact ih h.2.2.2.2.2.2 (by simpa [hpages, hprev] using h'.2.2.2.2.2.2) hbs he

namespace FreeListSpace

/-- `SortByPrevFree` compares two headers by their `prev_free_`, their page count and their
slot alone: the table's address cancels out. -/
theorem lt_congr {s s' : FreeListSpace} {a b : Nat}
    (ha : (s'.infos a).prevFree = (s.infos a).prevFree ∧
      (s'.infos a).alignSize = (s.infos a).alignSize)
    (hb : (s'.infos b).prevFree = (s.infos b).prevFree ∧
      (s'.infos b).alignSize = (s.infos b).alignSize) :
    s'.lt a b = s.lt a b := by
  simp only [lt_eq, sortByPrevFree_eq, key, ha.1, ha.2, hb.1, hb.2, Nat.add_lt_add_iff_left]

end FreeListSpace

/-- Two laid-out states over one range whose blocks have the same shape agree on `free_blocks_`,
the free-end region and the counters. -/
theorem Layout.eq_of_shape {s s' : FreeListSpace} {bs bs' : List Block} (h : Layout s bs)
    (h' : Layout s' bs') (hbegin : s'.begin_ = s.begin_) (hend : s'.end_ = s.end_)
    (hshape : bs'.map shape = bs.map shape) :
    s'.freeBlocks = s.freeBlocks ∧ s'.freeEnd = s.freeEnd ∧
      s'.numBytesAllocated = s.numBytesAllocated ∧
      s'.numObjectsAllocated = s.numObjectsAllocated := by
  have hsize : size bs' = size bs := by rw [← size_map_shape, hshape, size_map_shape]
  have hfs : freeSuccessors 0 0 bs' = freeSuccessors 0 0 bs := by
    rw [← freeSuccessors_map_shape, hshape, freeSuccessors_map_shape]
  have hmarks : liveMarks 0 bs' = liveMarks 0 bs := by
    rw [← liveMarks_map_shape, hshape, liveMarks_map_shape]
  have hperm : s'.freeBlocks.Perm s.freeBlocks := h'.free_blocks.trans (hfs ▸ h.free_blocks.symm)
  have hkeys : ∀ e ∈ s'.freeBlocks, (s'.infos e).prevFree = (s.infos e).prevFree ∧
      (s'.infos e).alignSize = (s.infos e).alignSize := fun e he =>
    h.tiles.freeSuccessor_keys h'.tiles hshape (h.free_blocks.subset (hperm.subset he))
  have : IsAntisymm Nat fun a b => s.lt a b = true :=
    ⟨fun a _ hab hba => absurd (s.lt_trans hab hba) (by simp [FreeListSpace.lt_irrefl])⟩
  refine ⟨List.eq_of_perm_of_sorted hperm (h'.sorted.imp_of_mem fun ha hb hab =>
    (FreeListSpace.lt_congr (hkeys _ ha) (hkeys _ hb)) ▸ hab) h.sorted, ?_, ?_, ?_⟩
  · have := h.fill
    have := h'.fill
    rw [hsize, hbegin, hend] at this
    omega
  · rw [h'.bytes, h.bytes, ← livePages_map_shape, hshape, livePages_map_shape]
  · rw [h'.objects, h.objects, ← liveMarks_map_fst, hmarks, liveMarks_map_fst]

/-- A free block is the first block or follows a live one. -/
theorem Layout.prevAfter_of_free {s : FreeListSpace} {pre post : List Block} {a : Block}
    (h : Layout s (pre ++ a :: post)) (ha : a.free = true) : prevAfter 0 pre = 0 := by
  have ht := h.tiles_from (rfl : pre ++ a :: post = pre ++ (a :: post))
  by_contra hne
  simp [ht.2.2.2.2.2.1 hne] at ha

/-- `Free` of the block right after blocks ending on a live one merges nothing in front. -/
theorem Layout.free_of_live_front {s : FreeListSpace} {pre post : List Block} {b : Block}
    (h : Layout s (pre ++ b :: post)) (hpre : prevAfter 0 pre = 0) :
    (s.free (s.begin_ + size pre * kAlignment)).val = (s.freeFrom (size pre) 0 b.pages).val ∧
      (s.free (s.begin_ + size pre * kAlignment)).checks =
        (s.freeFrom (size pre) 0 b.pages).checks := by
  obtain ⟨pre', front, rfl, -, hfront, hv, hc⟩ := h.free_front
  rcases hfront with rfl | ⟨a, rfl, ha, hpos⟩
  · simpa using And.intro hv hc
  · simp [prevOf, ha] at hpre
    omega

/-- `Free` of the object `Alloc` just handed out undoes the allocation on the blocks: the block
it split, or took from the free-end region, comes back whole. -/
theorem Layout.alloc_free_shape {s : FreeListSpace} {bs : List Block} {numBytes : Nat}
    (h : Layout s bs) (hn : 0 < numBytes) (hcap : numBytes ≤ s.end_ - s.begin_) {t obj : Nat}
    (hobj : (s.alloc numBytes t).val.1.map Allocation.obj = some obj) :
    ((s.alloc numBytes t).val.2.free obj).checks = true ∧
      ((s.alloc numBytes t).val.2.free obj).val.1 = pagesFor numBytes * kAlignment ∧
      ∃ bs', Layout ((s.alloc numBytes t).val.2.free obj).val.2 bs' ∧
        bs'.map shape = bs.map shape := by
  have h32 := pagesFor_le (le_trans hcap (le_trans (Nat.sub_le _ _) h.low_4gb))
  have hbegin := (alloc_bounds s numBytes t).1
  rcases h.alloc_cases (pagesFor_pos hn) (lt_of_le_of_lt h32 (by decide)) t with
    ⟨pre, a, c, post, rfl, ha, hc, hfit, -, hv, hl⟩ | ⟨-, -, hv, hl⟩ | ⟨-, -, hv⟩
  · -- split a free block: the freed pages and the remainder merge back into it
    simp only [hv, Option.map_some', Option.some.injEq] at hobj
    subst hobj
    have hpre := h.prevAfter_of_free ha
    set gap : List Block :=
      if pagesFor numBytes < a.pages then [⟨a.pages - pagesFor numBytes, true, false⟩] else []
    have hgap : FreeFront gap := by
      by_cases hlt : pagesFor numBytes < a.pages
      · exact .inr ⟨⟨a.pages - pagesFor numBytes, true, false⟩, if_pos hlt, rfl, Nat.sub_pos_of_lt hlt⟩
      · exact .inl (if_neg hlt)
    have hsize : pagesFor numBytes + size gap = a.pages := by
      by_cases hlt : pagesFor numBytes < a.pages <;> simp [gap, hlt] <;> omega
    have hl1 : Layout (s.alloc numBytes t).val.2
        (pre ++ ⟨pagesFor numBytes, false, false⟩ :: (gap ++ c :: post)) := by simpa using hl
    have hl2 : Layout (s.alloc numBytes t).val.2
        (pre ++ ([] ++ ⟨pagesFor numBytes, false, false⟩ :: gap ++ [c]) ++ post) := by simpa using hl
    obtain ⟨hv', hc'⟩ := hl1.free_of_live_front hpre
    obtain ⟨hck, hl'⟩ := hl2.free_merge (.inl rfl) hgap hpre rfl hc
    rw [← hbegin, hv', hc', freeFrom_fst]
    refine ⟨hck, rfl, _, by simpa using hl', ?_⟩
    simp only [size_nil, Nat.zero_add, hsize, List.map_append, List.map_cons, List.map_nil]
    simp [shape, ha]
  · -- the free-end region: the freed block returns to it
    simp only [hv, Option.map_some', Option.some.injEq] at hobj
    subst hobj
    have hl2 : Layout (s.alloc numBytes t).val.2 (bs ++ [] ++ [⟨pagesFor numBytes, false, false⟩]) := by
      simpa using hl
    obtain ⟨hv', hc'⟩ := hl.free_of_live_front h.last_live
    obtain ⟨hck, hl'⟩ := hl2.free_end (.inl rfl) h.last_live rfl
    rw [← hbegin, hv', hc', freeFrom_fst]
    exact ⟨by simpa using hck, rfl, bs, by simpa using hl', rfl⟩
  · simp [hv] at hobj

/-- `Free` undoes `Alloc`: freeing the object just handed out passes `Free`'s checks, returns its
size, and restores the blocks, `free_blocks_`, the free end and the counters. -/
theorem free_after_alloc_restores_space {s : FreeListSpace} {bs : List Block} {numBytes : Nat}
    (h : Layout s bs) (hn : 0 < numBytes) (hcap : numBytes ≤ s.end_ - s.begin_) (t obj : Nat)
    (hobj : (s.alloc numBytes t).val.1.map Allocation.obj = some obj) :
    ((s.alloc numBytes t).val.2.free obj).checks = true ∧
      ((s.alloc numBytes t).val.2.free obj).val.1 = pagesFor numBytes * kAlignment ∧
      ((s.alloc numBytes t).val.2.free obj).val.2.freeBlocks = s.freeBlocks ∧
      ((s.alloc numBytes t).val.2.free obj).val.2.freeEnd = s.freeEnd ∧
      ((s.alloc numBytes t).val.2.free obj).val.2.numBytesAllocated = s.numBytesAllocated ∧
      ((s.alloc numBytes t).val.2.free obj).val.2.numObjectsAllocated = s.numObjectsAllocated ∧
      ∃ bs', Layout ((s.alloc numBytes t).val.2.free obj).val.2 bs' ∧
        bs'.map shape = bs.map shape := by
  obtain ⟨hck, hval, bs', hl', hshape⟩ := h.alloc_free_shape hn hcap hobj
  have hbounds := free_bounds (s.alloc numBytes t).val.2 obj
  have hbounds' := alloc_bounds s numBytes t
  obtain ⟨hfb, hfe, hbytes, hobjects⟩ := h.eq_of_shape hl' (hbounds.1.trans hbounds'.1)
    (hbounds.2.trans hbounds'.2) hshape
  exact ⟨hck, hval, hfb, hfe, hbytes, hobjects, bs', hl', hshape⟩

/-- On a fresh two-page space, a one-page allocation and its `Free`. -/
theorem fresh_space_alloc_then_free :
    Layout (FreeListSpace.create 0 8192 0).val [] ∧ 0 < 4096 ∧
      4096 ≤ (FreeListSpace.create 0 8192 0).val.end_ - (FreeListSpace.create 0 8192 0).val.begin_ ∧
      ((FreeListSpace.create 0 8192 0).val.alloc 4096 0).val.1.map Allocation.obj = some 0 ∧
      ((((FreeListSpace.create 0 8192 0).val.alloc 4096 0).val.2.free 0).checks = true ∧
        (((FreeListSpace.create 0 8192 0).val.alloc 4096 0).val.2.free 0).val.1 =
          pagesFor 4096 * kAlignment ∧
        (((FreeListSpace.create 0 8192 0).val.alloc 4096 0).val.2.free 0).val.2.freeBlocks =
          (FreeListSpace.create 0 8192 0).val.freeBlocks ∧
        (((FreeListSpace.create 0 8192 0).val.alloc 4096 0).val.2.free 0).val.2.freeEnd =
          (FreeListSpace.create 0 8192 0).val.freeEnd ∧
        (((FreeListSpace.create 0 8192 0).val.alloc 4096 0).val.2.free 0).val.2.numBytesAllocated =
          (FreeListSpace.create 0 8192 0).val.numBytesAllocated ∧
        (((FreeListSpace.create 0 8192 0).val.alloc 4096 0).val.2.free 0).val.2.numObjectsAllocated =
          (FreeListSpace.create 0 8192 0).val.numObjectsAllocated ∧
        ∃ bs', Layout (((FreeListSpace.create 0 8192 0).val.alloc 4096 0).val.2.free 0).val.2 bs' ∧
          bs'.map shape = ([] : List Block).map shape) :=
  ⟨create_layout (by decide) (by decide), by decide, by decide, by decide,
    free_after_alloc_restores_space (create_layout (by decide) (by decide)) (by decide) (by decide)
      0 0 (by decide)⟩

theorem le_of_mem_liveBlocks {i : Nat} {bs : List Block} {x : Nat × Block}
    (hx : x ∈ liveBlocks i bs) : i ≤ x.1 := by
  induction bs generalizing i with
  | nil => simp at hx
  | cons b bs ih =>
    simp only [liveBlocks_cons, List.mem_append] at hx
    rcases hx with hx | hx
    · split at hx <;> simp_all
    · have := ih hx
      omega

theorem exists_of_mem_liveBlocks {i j : Nat} {c : Block} {bs : List Block}
    (h : (j, c) ∈ liveBlocks i bs) :
    ∃ pre post, bs = pre ++ c :: post ∧ j = i + size pre ∧ c.free = false := by
  induction bs generalizing i with
  | nil => simp at h
  | cons b bs ih =>
    simp only [liveBlocks_cons, List.mem_append] at h
    rcases h with h | h
    · cases hb : b.free <;> simp [hb] at h
      obtain ⟨rfl, rfl⟩ := h
      exact ⟨[], bs, rfl, by simp, hb⟩
    · obtain ⟨pre, post, rfl, rfl, hc⟩ := ih h
      exact ⟨b :: pre, post, rfl, by simp [Nat.add_assoc], hc⟩

/-- A tiling that ends on a live block and holds no live block is empty. -/
theorem Tiles.eq_nil_of_liveBlocks {f : Nat → AllocationInfo} {i prev : Nat} {bs : List Block}
    (h : Tiles f i prev bs) (hlast : prevAfter prev bs = 0) (hlive : liveBlocks i bs = []) :
    bs = [] := by
  induction bs generalizing i prev with
  | nil => rfl
  | cons b bs ih =>
    obtain ⟨-, -, -, -, hpos, -, ht⟩ := h
    cases hb : b.free
    · simp [hb] at hlive
    · obtain rfl := ih ht hlast (by simpa [hb] using hlive)
      simp [prevOf, hb] at hlast
      omega

/-- After a free block, the next block of a tiling that ends on a live block is live. -/
theorem Tiles.head_live {f : Nat → AllocationInfo} {i prev : Nat} {bs : List Block}
    (h : Tiles f i prev bs) (hprev : prev ≠ 0) (hlast : prevAfter prev bs = 0) :
    ∃ c rest, liveBlocks i bs = (i, c) :: rest := by
  obtain _ | ⟨c, bs⟩ := bs
  · exact absurd hlast hprev
  · exact ⟨c, liveBlocks (i + c.pages) bs, by simp [h.2.2.2.2.2.1 hprev]⟩

/-- A tiling that ends on a live block is fixed by its live blocks, up to the zygote bits of free
headers: the free blocks are the gaps between the live ones. -/
theorem Tiles.shape_eq_of_liveBlocks {f g : Nat → AllocationInfo} {i prev : Nat}
    {bs bs' : List Block} (h : Tiles f i prev bs) (h' : Tiles g i prev bs')
    (hlast : prevAfter prev bs = 0) (hlast' : prevAfter prev bs' = 0)
    (hlive : liveBlocks i bs = liveBlocks i bs') : bs.map shape = bs'.map shape := by
  induction bs generalizing i prev bs' with
  | nil => rw [h'.eq_nil_of_liveBlocks hlast' (by simpa using hlive.symm)]
  | cons b bs ih =>
    obtain _ | ⟨b', bs'⟩ := bs'
    · exact absurd (h.eq_nil_of_liveBlocks hlast (by simpa using hlive)) (List.cons_ne_nil _ _)
    obtain ⟨-, -, -, -, hpos, -, ht⟩ := h
    obtain ⟨-, -, -, -, hpos', -, ht'⟩ := h'
    simp only [prevAfter_cons] at hlast hlast'
    cases hb : b.free <;> cases hb' : b'.free <;>
      simp only [liveBlocks_cons, hb, hb', Bool.false_eq_true, if_false, if_true,
        List.nil_append, List.singleton_append] at hlive
    · -- both live: the heads of the live blocks are the two blocks
      obtain ⟨hhead, hrest⟩ := List.cons.inj hlive
      obtain rfl := (Prod.mk.inj hhead).2
      rw [List.map_cons, List.map_cons, ih ht ht' hlast hlast' hrest]
    · -- a live block against a free one: the free one pushes every live block past slot `i`
      have hmem : (i, b) ∈ liveBlocks (i + b'.pages) bs' := by
        rw [← hlive]
        exact List.mem_cons_self _ _
      have := le_of_mem_liveBlocks hmem
      simp at this
      omega
    · have hmem : (i, b') ∈ liveBlocks (i + b.pages) bs := by
        rw [hlive]
        exact List.mem_cons_self _ _
      have := le_of_mem_liveBlocks hmem
      simp at this
      omega
    · -- both free: each is followed by the first live block, so they have the same pages
      obtain ⟨c, rest, hc⟩ := ht.head_live (by simp [prevOf, hb]; omega) hlast
      obtain ⟨c', rest', hc'⟩ := ht'.head_live (by simp [prevOf, hb']; omega) hlast'
      have hpages : b'.pages = b.pages := by
        have := hc.symm.trans (hlive.trans hc')
        simp at this
        omega
      have hprev : b'.prevOf = b.prevOf := by simp [prevOf, hb, hb', hpages]
      have hshape : b.shape = b'.shape := by
        obtain ⟨pb, fb, zb⟩ := b
        obtain ⟨pb', fb', zb'⟩ := b'
        simp only at hb hb' hpages
        subst hb hb' hpages
        rfl
      rw [hpages, hprev] at ht'
      rw [hprev] at hlast'
      rw [hpages] at hlive
      rw [List.map_cons, List.map_cons, hshape, ih ht ht' hlast hlast' hlive]

/-- `Free` of the object of a live block takes exactly that block off the live blocks. -/
theorem Layout.free_erase {s : FreeListSpace} {bs : List Block} (h : Layout s bs) {j : Nat}
    {c : Block} (hc : (j, c) ∈ liveBlocks 0 bs) :
    (s.free (s.slotAddress j)).val.1 = c.pages * kAlignment ∧
      (s.free (s.slotAddress j)).checks = true ∧
      ∃ bs', Layout (s.free (s.slotAddress j)).val.2 bs' ∧
        liveBlocks 0 bs' = (liveBlocks 0 bs).erase (j, c) := by
  obtain ⟨pre, post, rfl, rfl, hcf⟩ := exists_of_mem_liveBlocks hc
  obtain ⟨hv, hck, bs', hl, hlb⟩ := h.free_liveBlocks hcf
  have hnot : (size pre, c) ∉ liveBlocks 0 pre := fun hm => by
    have := liveSlots_bounds (fun b hb => h.tiles.pages_pos b (by simp [hb]))
      (liveBlocks_map_fst 0 pre ▸ List.mem_map_of_mem Prod.fst hm)
    simp at this
  rw [Nat.zero_add, show s.slotAddress (size pre) = s.begin_ + size pre * kAlignment from rfl]
  refine ⟨hv, hck, bs', hl, ?_⟩
  simp [hlb, liveBlocks_append, hcf, List.erase_append_right _ hnot]

theorem reachable_two_pages :
    Reachable (((FreeListSpace.create 0 16384 0).val.alloc 4096 0).val.2.alloc 4096 0).val.2
      [0, 4096] := by
  have := @Reachable.alloc _ _ 4096 0 (@Reachable.alloc _ _ 4096 0
    (@Reachable.create 0 16384 0 (by decide) (by decide) (by decide)) (by decide) (by decide))
    (by decide) (by decide)
  rwa [show ([] : List Nat) ++ (((FreeListSpace.create 0 16384 0).val.alloc 4096 0).val.1.map
      Allocation.obj).toList ++ ((((FreeListSpace.create 0 16384 0).val.alloc 4096 0).val.2.alloc
        4096 0).val.1.map Allocation.obj).toList = [0, 4096] by decide] at this

end Marvin.Space
