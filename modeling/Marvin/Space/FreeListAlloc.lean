import Marvin.Space.FreeListInvariant

namespace Marvin.Space.FreeListSpace

open Block

theorem allocTail_val (s : FreeListSpace) (newInfo n : Nat) :
    (s.allocTail newInfo (n * kAlignment)).val =
      (some ⟨s.begin_ + newInfo * kAlignment, n * kAlignment, n * kAlignment, n * kAlignment⟩,
        { s.setInfo newInfo (header 0 n false) with
          numObjectsAllocated := s.numObjectsAllocated + 1,
          totalObjectsAllocated := s.totalObjectsAllocated + 1,
          numBytesAllocated := s.numBytesAllocated + n * kAlignment,
          totalBytesAllocated := s.totalBytesAllocated + n * kAlignment }) := by
  simp [allocTail, setInfo, setByteSize_val_eq_header, getAllocationAddressForSlot]

theorem splitRemainder_of_zero {s : FreeListSpace} {info : Nat} (h : (s.infos info).prevFree = 0) :
    s.splitRemainder info = pure s := by
  simp [splitRemainder, AllocationInfo.getPrevFreeBytes, AllocationInfo.getPrevFree, h]

theorem splitRemainder_val_of_pos {s : FreeListSpace} {info : Nat} (h : 0 < (s.infos info).prevFree)
    (h' : (s.infos info).prevFree ≤ info) :
    (s.splitRemainder info).val = (s.setInfo (info - (s.infos info).prevFree)
      (header 0 (s.infos info).prevFree true)).insertFreeBlock info := by
  have hne : info - (s.infos info).prevFree ≠ info := by omega
  simp [splitRemainder, AllocationInfo.getPrevFreeBytes, AllocationInfo.getPrevFree, h,
    setByteSize_val_eq_header, hne, Ne.symm hne]

/-- Pages `Alloc` rounds a request up to. -/
def pagesFor (numBytes : Nat) : Nat := (numBytes + kAlignment - 1) / kAlignment

theorem roundUp_eq (numBytes : Nat) : roundUp numBytes kAlignment = pagesFor numBytes * kAlignment := rfl

/-- The stack entry `temp_info` that `Alloc` searches with. -/
theorem alloc_sentinel (numBytes : Nat) :
    (((⟨0, 0⟩ : AllocationInfo).setPrevFreeBytes (roundUp numBytes kAlignment)).val.setByteSize 0 false).val =
      ⟨pagesFor numBytes % 2 ^ 32, 0⟩ := by
  simp [AllocationInfo.setPrevFreeBytes, AllocationInfo.setByteSize, roundUp_eq, mul_kAlignment_div]

theorem alloc_val_of_lowerBound_some {s : FreeListSpace} {numBytes t info : Nat}
    (hfind : s.lowerBound (⟨pagesFor numBytes % 2 ^ 32, 0⟩, t) = some info) :
    (s.alloc numBytes t).val =
      (allocTail
        (splitRemainder
          (setInfo { s with freeBlocks := s.freeBlocks.erase info } info
            ((s.infos info).setPrevFreeBytes
              ((s.infos info).getPrevFreeBytes - roundUp numBytes kAlignment)).val) info).val
        (info - (s.infos info).prevFree) (roundUp numBytes kAlignment)).val := by
  simp only [alloc, Checked.val_bind, alloc_sentinel, hfind, AllocationInfo.getPrevFreeInfo_val]

theorem alloc_val_of_lowerBound_none {s : FreeListSpace} {numBytes t : Nat}
    (hfind : s.lowerBound (⟨pagesFor numBytes % 2 ^ 32, 0⟩, t) = none) :
    (s.alloc numBytes t).val =
      if roundUp numBytes kAlignment ≤ s.freeEnd then
        (allocTail { s with freeEnd := s.freeEnd - roundUp numBytes kAlignment }
          ((s.end_ - s.freeEnd - s.begin_) / kAlignment) (roundUp numBytes kAlignment)).val
      else (none, s) := by
  simp only [alloc, Checked.val_bind, alloc_sentinel, hfind]
  split <;> simp

end Marvin.Space.FreeListSpace

namespace Marvin.Space

open Block FreeListSpace

/-- Around a free block `a` followed by a live block `c`: `free_blocks_` holds the header of `c`
once, and its other elements lie outside `a` and `c`. -/
theorem Layout.alloc_window {s : FreeListSpace} {pre post : List Block} {a c : Block}
    (h : Layout s (pre ++ [a, c] ++ post)) (ha : a.free = true) (hpre : prevAfter 0 pre = 0)
    (hap : 0 < a.pages) :
    s.freeBlocks.Perm (freeSuccessors 0 0 pre ++ [size pre + a.pages] ++
      freeSuccessors (size pre + size [a, c]) (prevAfter (prevAfter 0 pre) [a, c]) post) ∧
    size pre + a.pages ∉ freeSuccessors 0 0 pre ∧
    ∀ e ∈ s.freeBlocks.erase (size pre + a.pages), e < size pre ∨ size pre + a.pages + c.pages ≤ e := by
  obtain ⟨hL, hA, hB⟩ := h.freeBlocks_window rfl
  have hM : freeSuccessors (size pre) (prevAfter 0 pre) [a, c] = [size pre + a.pages] := by
    simp [hpre, prevOf, ha, Nat.pos_iff_ne_zero.mp hap]
  rw [hM] at hL
  refine ⟨hL, fun hm => by have := hA _ hm; omega, fun e he => ?_⟩
  rw [h.nodup.mem_erase_iff] at he
  rcases List.mem_append.mp (hL.subset he.2) with he' | he'
  · rcases List.mem_append.mp he' with he' | he'
    · exact .inl (hA e he')
    · exact absurd (List.mem_singleton.mp he') he.1
  · have := hB e he'
    simp only [size_cons, size_nil] at this
    omega

/-- `Alloc` from the free block `a`, when `free_blocks_.lower_bound` finds the header of the
live block `c` after it: the object takes the first pages of `a` and the rest stays free. -/
theorem Layout.alloc_fit {s : FreeListSpace} {bs pre post : List Block} {a c : Block}
    {numBytes t : Nat} (h : Layout s bs) (hbs : bs = pre ++ a :: c :: post) (ha : a.free = true)
    (hc : c.free = false) (hpre : prevAfter 0 pre = 0)
    (hinfo : (s.infos (size pre + a.pages)).prevFree = a.pages)
    (hn : 0 < pagesFor numBytes) (hna : pagesFor numBytes ≤ a.pages)
    (hfind : s.lowerBound (⟨pagesFor numBytes % 2 ^ 32, 0⟩, t) = some (size pre + a.pages)) :
    (s.alloc numBytes t).val.1 = some ⟨s.begin_ + size pre * kAlignment,
      pagesFor numBytes * kAlignment, pagesFor numBytes * kAlignment,
      pagesFor numBytes * kAlignment⟩ ∧
    Layout (s.alloc numBytes t).val.2 (pre ++ (⟨pagesFor numBytes, false, false⟩ ::
      (if pagesFor numBytes < a.pages then [⟨a.pages - pagesFor numBytes, true, false⟩] else []) ++
        [c]) ++ post) := by
  have hbs' : bs = pre ++ [a, c] ++ post := by simp [hbs]
  rw [hbs'] at h
  have ht := h.tiles
  rw [tiles_append, tiles_append] at ht
  have hw := ht.1.2
  simp only [Nat.zero_add, tiles_cons, hpre, tiles_nil] at hw
  have hpa : a.pages < 2 ^ 30 := h.pages_lt_of_mem (by simp)
  have hap : 0 < a.pages := hw.2.2.2.2.1
  obtain ⟨hL, hnA, hout⟩ := h.alloc_window ha hpre hap
  rw [alloc_val_of_lowerBound_some hfind, roundUp_eq, hinfo]
  generalize pagesFor numBytes = n at *
  generalize hst : size pre = st at *
  have hI : ((s.infos (st + a.pages)).setPrevFreeBytes
      ((s.infos (st + a.pages)).getPrevFreeBytes - n * kAlignment)).val =
      { s.infos (st + a.pages) with prevFree := a.pages - n } := by
    have h32 : a.pages - n < 4294967296 :=
      lt_of_le_of_lt (Nat.sub_le a.pages n) (lt_of_lt_of_le hpa (by decide))
    simp only [AllocationInfo.setPrevFreeBytes, AllocationInfo.getPrevFreeBytes,
      AllocationInfo.getPrevFree, hinfo, ← Nat.sub_mul, mul_kAlignment_div, Checked.val_bind,
      Checked.val_pure, Nat.reducePow, Nat.mod_eq_of_lt h32]
  rw [hI, Nat.add_sub_cancel]
  by_cases hr : n < a.pages
  · rw [splitRemainder_val_of_pos (by simp; omega) (by simp; omega), allocTail_val]
    simp only [setInfo_infos, Function.update_same, hr, if_true,
      show st + a.pages - (a.pages - n) = st + n by omega]
    refine ⟨rfl, ?_⟩
    set s3 := (setInfo { s with freeBlocks := s.freeBlocks.erase (st + a.pages) } (st + a.pages)
      { prevFree := a.pages - n, allocSize := (s.infos (st + a.pages)).allocSize }).setInfo (st + n)
        (header 0 (a.pages - n) true) with hs3
    have hidx : st + n + (a.pages - n) = st + a.pages := by omega
    have hn30 : n < 2 ^ 30 := lt_of_le_of_lt hna hpa
    have hr30 : a.pages - n < 2 ^ 30 := lt_of_le_of_lt (Nat.sub_le _ _) hpa
    have h3 : s3.freeBlocks.Pairwise fun a b => s3.lt a b :=
      pairwise_lt_congr (h.sorted.sublist (List.erase_sublist _ _)) (by simp [hs3]) fun e he => by
        have := hout e he
        have h1 : e ≠ st + n := by omega
        have h2 : e ≠ st + a.pages := by omega
        simp [hs3, Function.update_apply, h1, h2]
    apply Layout.replace h
    · simp [hs3]
    · simp [hs3]
    · simp [hs3]
    · intro j hj
      simp only [size_cons, size_nil] at hj
      simp [hs3, Function.update_apply]
      rw [if_neg (by omega), if_neg (by omega), if_neg (by omega)]
    · rw [hst, hpre]
      simp [hs3, Function.update_apply, header_alignSize 0 false hn30,
        header_alignSize 0 true hr30, header_isFree 0 false hn30,
        header_isFree 0 true hr30, header_isZygoteObject 0 false hn30,
        header_isZygoteObject 0 true hr30, prevOf, hn, hidx, hw, hc,
        Nat.pos_iff_ne_zero.mp hn, Nat.pos_iff_ne_zero.mp hap, hr.ne', Nat.sub_pos_of_lt hr]
    · simp only [List.cons_append, List.nil_append, size_cons, size_nil]
      omega
    · simp [prevOf, hc]
    · have hmem : st + a.pages ∈ s.freeBlocks := hL.symm.subset (by simp)
      rw [hst, hpre]
      refine (perm_insertFreeBlock (by simpa [hs3] using h.nodup.not_mem_erase)).trans ?_
      refine (List.perm_cons_erase hmem).symm.trans ?_
      simpa [prevOf, ha, hidx, Nat.pos_iff_ne_zero.mp hn, Nat.sub_ne_zero_of_lt hr] using hL
    · refine pairwise_lt_congr (sorted_insertFreeBlock h3 _) (by simp) fun e he => ?_
      have : e ≠ st := by
        rcases mem_setInsert he with rfl | he
        · omega
        · have := hout e (by simpa [hs3] using he)
          omega
      simp [Function.update_apply, this]
    · simp [hs3, ha, hc, Nat.add_mul, Nat.add_assoc]
    · simp [hs3, ha, hc]
  · have hna' : n = a.pages := by omega
    subst hna'
    rw [splitRemainder_of_zero (by simp), Checked.val_pure, allocTail_val]
    simp only [hr, if_false, List.nil_append, Nat.sub_self]
    refine ⟨rfl, ?_⟩
    apply Layout.replace h
    · simp
    · simp
    · simp
    · intro j hj
      simp only [size_cons, size_nil] at hj
      simp [Function.update_apply]
      rw [if_neg (by omega), if_neg (by omega)]
    · rw [hst, hpre]
      simp [Function.update_apply, header_alignSize 0 false hpa, header_isFree 0 false hpa,
        header_isZygoteObject 0 false hpa, prevOf, hn, hw, hc, Nat.pos_iff_ne_zero.mp hn]
    · simp
    · simp [prevOf, hc]
    · rw [hst, hpre]
      have := hL.erase (st + a.pages)
      rw [List.erase_append_left _ (by simp), List.erase_append_right _ hnA] at this
      simpa [prevOf, hc] using this
    · refine pairwise_lt_congr (h.sorted.sublist (List.erase_sublist _ _)) (by simp) fun e he => ?_
      have := hout e (by simpa using he)
      have h1 : e ≠ st := by omega
      have h2 : e ≠ st + a.pages := by omega
      simp [Function.update_apply, h1, h2]
    · simp [ha, hc, Nat.add_mul, Nat.add_assoc]
    · simp [ha, hc]

/-- `Alloc` at the start of the free-end region, when no free block fits. -/
theorem Layout.alloc_end {s : FreeListSpace} {bs : List Block} {numBytes t : Nat} (h : Layout s bs)
    (hn : 0 < pagesFor numBytes) (hfit : pagesFor numBytes * kAlignment ≤ s.freeEnd)
    (hfind : s.lowerBound (⟨pagesFor numBytes % 2 ^ 32, 0⟩, t) = none) :
    (s.alloc numBytes t).val.1 = some ⟨s.begin_ + size bs * kAlignment,
      pagesFor numBytes * kAlignment, pagesFor numBytes * kAlignment,
      pagesFor numBytes * kAlignment⟩ ∧
    Layout (s.alloc numBytes t).val.2 (bs ++ [⟨pagesFor numBytes, false, false⟩]) := by
  have hslot : (s.end_ - s.freeEnd - s.begin_) / kAlignment = size bs := by
    rw [show s.end_ - s.freeEnd - s.begin_ = size bs * kAlignment by have := h.fill; omega,
      mul_kAlignment_div]
  rw [alloc_val_of_lowerBound_none hfind, roundUp_eq, if_pos hfit, hslot, allocTail_val]
  refine ⟨rfl, ?_⟩
  have hn30 : pagesFor numBytes < 2 ^ 30 := by
    have h1 := h.fill
    have h2 := h.low_4gb
    have h3 := h.begin_le
    simp only [kAlignment, kPageSize] at hfit h1 ⊢
    omega
  have hlast := h.last_live
  rw [← List.append_nil bs] at h
  apply Layout.retail h rfl
  · simp
  · simp
  · simp only [size_cons, size_nil, Nat.add_zero, setInfo_freeEnd, Nat.zero_mul, Nat.zero_add]
    omega
  · intro j hj
    simp [Function.update_apply, Nat.ne_of_lt hj]
  · rw [hlast]
    simp [header_alignSize 0 false hn30, header_isFree 0 false hn30,
      header_isZygoteObject 0 false hn30, hn]
  · simp [prevOf]
  · simpa [prevOf, hlast] using h.free_blocks
  · refine pairwise_lt_congr h.sorted (by simp) fun e he => ?_
    have := (h.tiles.mem_freeSuccessors (h.free_blocks.subset he)).2
    simp only [List.append_nil, Nat.zero_add] at this
    simp [Function.update_apply, Nat.ne_of_lt this]
  · simp [Nat.add_mul]
  · simp

/-- Against the search entry, an element of `free_blocks_` is ordered first exactly when the
free block before it is smaller than the request. -/
theorem sortByPrevFree_probe (e : AllocationInfo × Nat) (n t : Nat) (he : 0 < e.1.alignSize)
    (hn : n < 2 ^ 32) :
    sortByPrevFree e (⟨n % 2 ^ 32, 0⟩, t) = decide (e.1.prevFree < n) := by
  have h0 : (⟨n % 2 ^ 32, 0⟩ : AllocationInfo).alignSize = 0 := by
    simp [AllocationInfo.alignSize]
  rw [sortByPrevFree_eq, h0, Nat.mod_eq_of_lt hn]
  simp only [Nat.not_lt_zero, false_or]
  by_cases hp : e.1.prevFree < n <;> simp [hp]
  omega

/-- `Alloc` of `n ≥ 1` pages splits a free block of the least size that fits, or takes the start of
the free-end region, or fails and changes nothing. -/
theorem Layout.alloc_cases {s : FreeListSpace} {bs : List Block} {numBytes : Nat}
    (h : Layout s bs) (hn : 0 < pagesFor numBytes) (hn32 : pagesFor numBytes < 2 ^ 32) (t : Nat) :
    (∃ pre a c post, bs = pre ++ a :: c :: post ∧ a.free = true ∧ c.free = false ∧
      pagesFor numBytes ≤ a.pages ∧
      (∀ pre' a' post', bs = pre' ++ a' :: post' → a'.free = true → pagesFor numBytes ≤ a'.pages →
        a.pages ≤ a'.pages) ∧
      (s.alloc numBytes t).val.1 = some ⟨s.begin_ + size pre * kAlignment,
        pagesFor numBytes * kAlignment, pagesFor numBytes * kAlignment,
        pagesFor numBytes * kAlignment⟩ ∧
      Layout (s.alloc numBytes t).val.2 (pre ++ (⟨pagesFor numBytes, false, false⟩ ::
        (if pagesFor numBytes < a.pages then [⟨a.pages - pagesFor numBytes, true, false⟩]
          else []) ++ [c]) ++ post)) ∨
    ((∀ pre' a' post', bs = pre' ++ a' :: post' → a'.free = true → a'.pages < pagesFor numBytes) ∧
      pagesFor numBytes * kAlignment ≤ s.freeEnd ∧
      (s.alloc numBytes t).val.1 = some ⟨s.begin_ + size bs * kAlignment,
        pagesFor numBytes * kAlignment, pagesFor numBytes * kAlignment,
        pagesFor numBytes * kAlignment⟩ ∧
      Layout (s.alloc numBytes t).val.2 (bs ++ [⟨pagesFor numBytes, false, false⟩])) ∨
    ((∀ pre' a' post', bs = pre' ++ a' :: post' → a'.free = true → a'.pages < pagesFor numBytes) ∧
      s.freeEnd < pagesFor numBytes * kAlignment ∧ (s.alloc numBytes t).val = (none, s)) := by
  have hlt : ∀ e ∈ s.freeBlocks, sortByPrevFree (s.key e) (⟨pagesFor numBytes % 2 ^ 32, 0⟩, t) =
      decide ((s.infos e).prevFree < pagesFor numBytes) := by
    intro e he
    obtain ⟨pre, a, c, post, rfl, -, -, -, -, -, hal⟩ := h.mem_freeBlocks he
    refine sortByPrevFree_probe _ _ _ ?_ hn32
    simp only [key, hal]
    exact h.tiles.pages_pos c (by simp)
  cases hfind : s.lowerBound (⟨pagesFor numBytes % 2 ^ 32, 0⟩, t) with
  | some info =>
    left
    have hmem := List.mem_of_find?_eq_some hfind
    obtain ⟨pre, a, c, post, hbs, rfl, ha, hc, hpre, hpf, -⟩ := h.mem_freeBlocks hmem
    have hsel := List.find?_some hfind
    rw [hlt _ hmem, hpf] at hsel
    have hna : pagesFor numBytes ≤ a.pages := by simpa using hsel
    obtain ⟨hres, hlay⟩ := h.alloc_fit hbs ha hc hpre hpf hn hna hfind
    refine ⟨pre, a, c, post, hbs, ha, hc, hna, fun pre' a' post' hbs' ha' hna' => ?_, hres, hlay⟩
    obtain ⟨hm', hp'⟩ := h.exists_mem_freeBlocks hbs' ha'
    obtain ⟨as, bs2, hsplit, has⟩ := find?_eq_some_split hfind
    have hsorted := h.sorted
    rw [hsplit] at hsorted hm'
    rcases List.mem_append.mp hm' with hm'' | hm''
    · have := has _ hm''
      rw [hlt _ (by rw [hsplit]; simp [hm'']), hp'] at this
      simp at this
      omega
    · rcases List.mem_cons.mp hm'' with heq | hm''
      · rw [← heq, hp'] at hpf
        omega
      · have := (List.pairwise_cons.mp (List.pairwise_append.mp hsorted).2.1).1 _ hm''
        rw [lt_eq, sortByPrevFree_eq] at this
        simp only [key, hpf, hp', decide_eq_true_eq] at this
        omega
  | none =>
    right
    have hall : ∀ pre' a' post', bs = pre' ++ a' :: post' → a'.free = true →
        a'.pages < pagesFor numBytes := by
      intro pre' a' post' hbs' ha'
      obtain ⟨hm', hp'⟩ := h.exists_mem_freeBlocks hbs' ha'
      have := List.find?_eq_none.mp hfind _ hm'
      rw [hlt _ hm', hp'] at this
      simpa using this
    by_cases hfit : pagesFor numBytes * kAlignment ≤ s.freeEnd
    · exact .inl ⟨hall, hfit, h.alloc_end hn hfit hfind⟩
    · refine .inr ⟨hall, by omega, ?_⟩
      rw [alloc_val_of_lowerBound_none hfind, roundUp_eq, if_neg hfit]

end Marvin.Space
