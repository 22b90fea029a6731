import Marvin.Space.FreeBlocks

namespace Marvin.Space

open Block FreeListSpace

/-- The entry `SetPrevFreeBytes(prev * kAlignment)` and
`SetByteSize(pages * kAlignment, free)` leave behind. -/
def header (prev pages : Nat) (free : Bool) : AllocationInfo :=
  ⟨prev, (pages ||| if free then kFlagFree else 0) % 2 ^ 32⟩

theorem mul_kAlignment_div (n : Nat) : n * kAlignment / kAlignment = n :=
  Nat.mul_div_cancel n (by decide)

theorem setByteSize_val_eq_header (a : AllocationInfo) (pages : Nat) (free : Bool) :
    (a.setByteSize (pages * kAlignment) free).val = header a.prevFree pages free := by
  simp [AllocationInfo.setByteSize, header, mul_kAlignment_div]

section Header

@[simp] theorem header_prevFree (prev pages : Nat) (free : Bool) :
    (header prev pages free).prevFree = prev := rfl

variable (prev : Nat) {pages : Nat} (free : Bool) (h : pages < 2 ^ 30)
include h

theorem header_alignSize : (header prev pages free).alignSize = pages := by
  rw [← setByteSize_val_eq_header ⟨prev, 0⟩, AllocationInfo.setByteSize_val_alignSize,
    mul_kAlignment_div, Nat.mod_eq_of_lt h]

theorem header_isFree : (header prev pages free).isFree = free := by
  rw [← setByteSize_val_eq_header ⟨prev, 0⟩]
  exact AllocationInfo.setByteSize_val_isFree _ _ _ (by rwa [mul_kAlignment_div])

theorem header_isZygoteObject : (header prev pages free).isZygoteObject = false := by
  rw [← setByteSize_val_eq_header ⟨prev, 0⟩]
  exact AllocationInfo.setByteSize_val_isZygoteObject _ _ _ (by rwa [mul_kAlignment_div])

end Header

/-- The representation invariant of a `FreeListSpace` over the blocks `bs`: they tile the space,
`free_blocks_` holds the headers after free blocks, and the counters match. -/
structure Layout (s : FreeListSpace) (bs : List Block) : Prop where
  tiles : Tiles s.infos 0 0 bs
  last_live : prevAfter 0 bs = 0
  fill : size bs * kAlignment + s.freeEnd = s.end_ - s.begin_
  free_blocks : s.freeBlocks.Perm (freeSuccessors 0 0 bs)
  sorted : s.freeBlocks.Pairwise fun a b => s.lt a b
  bytes : s.numBytesAllocated = livePages bs * kAlignment
  objects : s.numObjectsAllocated = (liveSlots 0 bs).length
  begin_aligned : s.begin_ % kAlignment = 0
  begin_le : s.begin_ ≤ s.end_
  low_4gb : s.end_ ≤ 2 ^ 32

namespace Layout

variable {s : FreeListSpace} {bs : List Block}

theorem nodup (h : Layout s bs) : s.freeBlocks.Nodup :=
  h.sorted.imp fun {a b} hab heq => by subst heq; simp [lt_irrefl] at hab

theorem size_le (h : Layout s bs) : size bs * kAlignment ≤ s.end_ - s.begin_ := by
  have := h.fill
  omega

/-- A space in the low 4 GB has at most `2 ^ 20` pages, so the header encoding is exact. -/
theorem pages_le (h : Layout s bs) (xs : List Block) (hx : size xs ≤ size bs) :
    size xs ≤ 2 ^ 20 := by
  have h1 := h.size_le
  have h2 := h.low_4gb
  simp only [kAlignment, kPageSize] at h1
  omega

theorem pages_lt_of_mem (h : Layout s bs) {b : Block} (hb : b ∈ bs) : b.pages < 2 ^ 30 := by
  obtain ⟨l₁, l₂, rfl⟩ := List.append_of_mem hb
  have := h.pages_le [b] (by simp; omega)
  simp only [size_cons, size_nil] at this
  omega

/-- An element of `free_blocks_` is the header of a live block `c` right after a free block
`a`, itself after a live block or at the start. -/
theorem mem_freeBlocks (h : Layout s bs) {e : Nat} (he : e ∈ s.freeBlocks) :
    ∃ pre a c post, bs = pre ++ a :: c :: post ∧ e = size pre + a.pages ∧ a.free = true ∧
      c.free = false ∧ prevAfter 0 pre = 0 ∧ (s.infos e).prevFree = a.pages ∧
      (s.infos e).alignSize = c.pages := by
  obtain ⟨pre, c, post, rfl, rfl, hp⟩ := exists_of_mem_freeSuccessors (h.free_blocks.subset he)
  obtain ⟨pre0, a, rfl, ha, hpa⟩ := exists_free_last rfl hp
  have ht := h.tiles
  rw [tiles_append, tiles_append] at ht
  obtain ⟨⟨-, ha'⟩, hc⟩ := ht
  simp only [tiles_cons, prevAfter_append, prevAfter_cons, prevAfter_nil, size_append,
    size_cons, size_nil, Nat.zero_add, Nat.add_zero] at ha' hc hpa
  refine ⟨pre0, a, c, post, by simp, by simp, ha, ?_, ?_, ?_, ?_⟩
  · exact hc.2.2.2.2.2.1 (by rw [hpa]; exact Nat.pos_iff_ne_zero.mp ha'.2.2.2.2.1)
  · by_contra hne
    simp [ha'.2.2.2.2.2.1 hne] at ha
  · simpa [hpa] using hc.1
  · simpa using hc.2.1

theorem not_mem_freeBlocks (h : Layout s bs) {e : Nat} (he : (s.infos e).prevFree = 0) :
    e ∉ s.freeBlocks := fun hm => by
  obtain ⟨pre, a, c, post, hbs, rfl, -, -, -, hpf, -⟩ := h.mem_freeBlocks hm
  have := h.tiles.pages_pos a (by simp [hbs])
  omega

/-- Every free block is followed by a header in `free_blocks_` that records it. -/
theorem exists_mem_freeBlocks (h : Layout s bs) {pre post : List Block} {a : Block}
    (hbs : bs = pre ++ a :: post) (ha : a.free = true) :
    size pre + a.pages ∈ s.freeBlocks ∧ (s.infos (size pre + a.pages)).prevFree = a.pages := by
  obtain ⟨c, post, rfl⟩ : ∃ c post', post = c :: post' := by
    cases post with
    | nil =>
      have := h.last_live
      simp [hbs, prevOf, ha] at this
      exact absurd this (Nat.pos_iff_ne_zero.mp ((h.tiles.pages_pos) a (by simp [hbs])))
    | cons c post' => exact ⟨c, post', rfl⟩
  have ht := h.tiles
  rw [hbs, tiles_append] at ht
  refine ⟨h.free_blocks.symm.subset ?_, ?_⟩
  · rw [hbs, freeSuccessors_append]
    simp [prevOf, ha, Nat.pos_iff_ne_zero.mp ht.2.2.2.2.2.1]
  · simp only [tiles_cons, prevOf, ha, if_true, Nat.zero_add] at ht
    exact ht.2.2.2.2.2.2.2.1

/-- Around a window `mid` of the blocks, `free_blocks_` splits into the headers before it,
those inside it and those after it. -/
theorem freeBlocks_window (h : Layout s bs) {pre mid post : List Block}
    (hbs : bs = pre ++ mid ++ post) :
    s.freeBlocks.Perm (freeSuccessors 0 0 pre ++
      freeSuccessors (size pre) (prevAfter 0 pre) mid ++
      freeSuccessors (size pre + size mid) (prevAfter (prevAfter 0 pre) mid) post) ∧
    (∀ e ∈ freeSuccessors 0 0 pre, e < size pre) ∧
    (∀ e ∈ freeSuccessors (size pre + size mid) (prevAfter (prevAfter 0 pre) mid) post,
      size pre + size mid ≤ e) := by
  have ht := h.tiles
  rw [hbs, tiles_append, tiles_append] at ht
  have hp := h.free_blocks
  rw [hbs, freeSuccessors_append, freeSuccessors_append] at hp
  simp only [Nat.zero_add, size_append, prevAfter_append] at hp ht
  exact ⟨hp, fun e he => by simpa using (ht.1.1.mem_freeSuccessors he).2,
    fun e he => (ht.2.mem_freeSuccessors he).1⟩

/-- The invariant survives replacing the blocks `mid` by `mid'` of the same extent, when only their
headers, `free_blocks_` and the counters changed to match. -/
theorem replace {s' : FreeListSpace} {pre mid mid' post : List Block}
    (h : Layout s (pre ++ mid ++ post)) (hbegin : s'.begin_ = s.begin_) (hend : s'.end_ = s.end_)
    (hfreeEnd : s'.freeEnd = s.freeEnd)
    (hout : ∀ j, (j < size pre ∨ size pre + size mid ≤ j) → s'.infos j = s.infos j)
    (hmid : Tiles s'.infos (size pre) (prevAfter 0 pre) mid') (hsize : size mid' = size mid)
    (hprev : prevAfter (prevAfter 0 pre) mid' = prevAfter (prevAfter 0 pre) mid)
    (hset : s'.freeBlocks.Perm (freeSuccessors 0 0 pre ++
      freeSuccessors (size pre) (prevAfter 0 pre) mid' ++
      freeSuccessors (size pre + size mid) (prevAfter (prevAfter 0 pre) mid) post))
    (hsorted : s'.freeBlocks.Pairwise fun a b => s'.lt a b)
    (hbytes : s'.numBytesAllocated + livePages mid * kAlignment =
      s.numBytesAllocated + livePages mid' * kAlignment)
    (hobjects : s'.numObjectsAllocated + (liveSlots (size pre) mid).length =
      s.numObjectsAllocated + (liveSlots (size pre) mid').length) :
    Layout s' (pre ++ mid' ++ post) where
  tiles := h.tiles.replace hout hmid hsize hprev
  last_live := by simpa [hprev] using h.last_live
  fill := by rw [hbegin, hend, hfreeEnd, ← h.fill]; simp [hsize]
  free_blocks := by
    rw [freeSuccessors_append, freeSuccessors_append]
    simpa [hsize, hprev] using hset
  sorted := hsorted
  bytes := by
    have := h.bytes
    simp only [livePages_append] at this ⊢
    rw [Nat.add_mul, Nat.add_mul] at this ⊢
    omega
  objects := by
    have := h.objects
    simp only [liveSlots_append, List.length_append, Nat.zero_add, size_append, hsize] at this ⊢
    omega
  begin_aligned := hbegin ▸ h.begin_aligned
  begin_le := hbegin ▸ hend ▸ h.begin_le
  low_4gb := hend ▸ h.low_4gb

/-- The invariant survives replacing the last blocks `mid` by blocks `mid'` ending live, when
the free-end region absorbs the difference. -/
theorem retail {s' : FreeListSpace} {pre mid mid' bs' : List Block}
    (h : Layout s (pre ++ mid)) (hbs' : bs' = pre ++ mid') (hbegin : s'.begin_ = s.begin_)
    (hend : s'.end_ = s.end_)
    (hfill : size mid' * kAlignment + s'.freeEnd = size mid * kAlignment + s.freeEnd)
    (hout : ∀ j, j < size pre → s'.infos j = s.infos j)
    (hmid : Tiles s'.infos (size pre) (prevAfter 0 pre) mid')
    (hlast : prevAfter (prevAfter 0 pre) mid' = 0)
    (hset : s'.freeBlocks.Perm (freeSuccessors 0 0 pre ++
      freeSuccessors (size pre) (prevAfter 0 pre) mid'))
    (hsorted : s'.freeBlocks.Pairwise fun a b => s'.lt a b)
    (hbytes : s'.numBytesAllocated + livePages mid * kAlignment =
      s.numBytesAllocated + livePages mid' * kAlignment)
    (hobjects : s'.numObjectsAllocated + (liveSlots (size pre) mid).length =
      s.numObjectsAllocated + (liveSlots (size pre) mid').length) :
    Layout s' bs' where
  tiles := hbs' ▸ (tiles_append _ _ _ _ _).mpr ⟨h.tiles.of_append_left hout, by simpa using hmid⟩
  last_live := by simpa [hbs'] using hlast
  fill := by
    have := h.fill
    simp only [hbs', size_append, Nat.add_mul] at this ⊢
    rw [hbegin, hend]
    omega
  free_blocks := by
    rw [hbs', freeSuccessors_append]
    simpa using hset
  sorted := hsorted
  bytes := by
    have := h.bytes
    simp only [hbs', livePages_append] at this ⊢
    rw [Nat.add_mul] at this ⊢
    omega
  objects := by
    have := h.objects
    simp only [hbs', liveSlots_append, List.length_append, Nat.zero_add] at this ⊢
    omega
  begin_aligned := hbegin ▸ h.begin_aligned
  begin_le := hbegin ▸ hend ▸ h.begin_le
  low_4gb := hend ▸ h.low_4gb

end Layout

/-- A freshly created space is empty and laid out. -/
theorem create_layout {begin capacity allocationInfo : Nat} (hb : begin % kAlignment = 0)
    (hlow : begin + capacity ≤ 2 ^ 32) :
    Layout (FreeListSpace.create begin capacity allocationInfo).val [] where
  tiles := trivial
  last_live := rfl
  fill := by simp [FreeListSpace.create]
  free_blocks := by simp [FreeListSpace.create]
  sorted := by simp [FreeListSpace.create]
  bytes := rfl
  objects := rfl
  begin_aligned := hb
  begin_le := by simp [FreeListSpace.create]
  low_4gb := hlow

end Marvin.Space
