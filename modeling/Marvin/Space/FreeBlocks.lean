import Marvin.Space.Layout

namespace Marvin.Space

/-- `SortByPrevFree` is the lexicographic order on
(`prev_free_`, `AlignSize()`, address). -/
theorem sortByPrevFree_eq (a b : AllocationInfo × Nat) :
    sortByPrevFree a b =
      decide (a.1.prevFree < b.1.prevFree ∨ a.1.prevFree = b.1.prevFree ∧
        (a.1.alignSize < b.1.alignSize ∨ a.1.alignSize = b.1.alignSize ∧ a.2 < b.2)) := by
  unfold sortByPrevFree AllocationInfo.getPrevFree
  split_ifs <;> rw [Bool.eq_iff_iff] <;> simp <;> omega

theorem sortByPrevFree_irrefl (a : AllocationInfo × Nat) : sortByPrevFree a a = false := by
  simp [sortByPrevFree_eq]

theorem sortByPrevFree_trans {a b c : AllocationInfo × Nat} (hab : sortByPrevFree a b = true)
    (hbc : sortByPrevFree b c = true) : sortByPrevFree a c = true := by
  simp only [sortByPrevFree_eq, decide_eq_true_eq] at *
  omega

theorem sortByPrevFree_total {a b : AllocationInfo × Nat} (h : a.2 ≠ b.2) :
    sortByPrevFree a b = true ∨ sortByPrevFree b a = true := by
  simp only [sortByPrevFree_eq, decide_eq_true_eq]
  omega

/-- Only `prev_free_`, the page count and the address enter the order. -/
theorem sortByPrevFree_congr {a a' b b' : AllocationInfo × Nat}
    (ha : a'.1.prevFree = a.1.prevFree ∧ a'.1.alignSize = a.1.alignSize ∧ a'.2 = a.2)
    (hb : b'.1.prevFree = b.1.prevFree ∧ b'.1.alignSize = b.1.alignSize ∧ b'.2 = b.2) :
    sortByPrevFree a' b' = sortByPrevFree a b := by
  simp only [sortByPrevFree_eq, ha, hb]

section SetInsert

variable {α : Type} {lt : α → α → Bool}

theorem mem_setInsert {x y : α} {l : List α} (h : y ∈ setInsert lt x l) : y = x ∨ y ∈ l := by
  induction l with
  | nil => simpa [setInsert] using h
  | cons z l ih =>
    simp only [setInsert] at h
    split_ifs at h <;> simp only [List.mem_cons] at h ⊢
    · exact h
    · rcases h with h | h
      · exact .inr (.inl h)
      · rcases ih h with h | h <;> simp [h]
    · exact .inr h

theorem setInsert_pairwise (htrans : ∀ {a b c}, lt a b → lt b c → lt a c) {x : α} {l : List α}
    (h : l.Pairwise fun a b => lt a b) : (setInsert lt x l).Pairwise fun a b => lt a b := by
  induction l with
  | nil => simp [setInsert]
  | cons y l ih =>
    rw [List.pairwise_cons] at h
    simp only [setInsert]
    split_ifs with h1 h2
    · refine List.Pairwise.cons (fun z hz => ?_) (List.Pairwise.cons h.1 h.2)
      rcases List.mem_cons.mp hz with rfl | hz
      · exact h1
      · exact htrans h1 (h.1 z hz)
    · refine List.Pairwise.cons (fun z hz => ?_) (ih h.2)
      rcases mem_setInsert hz with rfl | hz
      · exact h2
      · exact h.1 z hz
    · exact List.Pairwise.cons h.1 h.2

/-- Inserting an element that is comparable with every element present adds it. -/
theorem setInsert_perm {x : α} {l : List α} (hx : x ∉ l)
    (htotal : ∀ a ∈ l, lt x a ∨ lt a x) : (setInsert lt x l).Perm (x :: l) := by
  induction l with
  | nil => simp [setInsert]
  | cons y l ih =>
    simp only [List.mem_cons, not_or] at hx
    simp only [setInsert]
    split_ifs with h1 h2
    · exact List.Perm.refl _
    · exact ((ih hx.2 fun a ha => htotal a (.tail _ ha)).cons y).trans (List.Perm.swap x y l)
    · rcases htotal y (.head _) with h | h <;> simp_all

end SetInsert

section Find

variable {α : Type} {p : α → Bool}

theorem find?_eq_some_split {x : α} {l : List α} (h : l.find? p = some x) :
    ∃ as bs, l = as ++ x :: bs ∧ ∀ a ∈ as, p a = false := by
  induction l with
  | nil => simp at h
  | cons y l ih =>
    by_cases hy : p y = true
    · rw [List.find?_cons_of_pos _ hy] at h
      cases h
      exact ⟨[], l, rfl, by simp⟩
    · rw [List.find?_cons_of_neg _ hy] at h
      obtain ⟨as, bs, rfl, has⟩ := ih h
      refine ⟨y :: as, bs, rfl, fun a ha => ?_⟩
      rcases List.mem_cons.mp ha with rfl | ha
      · simpa using hy
      · exact has a ha

/-- In a sorted set, `lower_bound` of an element present finds that element. -/
theorem find?_not_lt_self {lt : α → α → Bool} {x : α} {l : List α}
    (hs : l.Pairwise fun a b => lt a b) (hx : x ∈ l) (hirr : lt x x = false) :
    l.find? (fun e => !lt e x) = some x := by
  induction l with
  | nil => simp at hx
  | cons y l ih =>
    rw [List.pairwise_cons] at hs
    by_cases hxy : y = x
    · subst hxy
      simp [hirr]
    · have hx' : x ∈ l := (List.mem_cons.mp hx).resolve_left (Ne.symm hxy)
      rw [List.find?_cons_of_neg _ (by simp [hs.1 x hx']), ih hs.2 hx']

end Find

namespace FreeListSpace

theorem lt_eq (s : FreeListSpace) (a b : Nat) : s.lt a b = sortByPrevFree (s.key a) (s.key b) := rfl

theorem lt_irrefl (s : FreeListSpace) (a : Nat) : s.lt a a = false := sortByPrevFree_irrefl _

theorem lt_trans (s : FreeListSpace) {a b c : Nat} (hab : s.lt a b = true) (hbc : s.lt b c = true) :
    s.lt a c = true := sortByPrevFree_trans hab hbc

theorem lt_total (s : FreeListSpace) {a b : Nat} (h : a ≠ b) : s.lt a b = true ∨ s.lt b a = true :=
  sortByPrevFree_total (by simp [key, sizeofAllocationInfo]; omega)

/-- The order on the headers `l` is unchanged when their `prev_free_` and page counts are. -/
theorem pairwise_lt_congr {s s' : FreeListSpace} {l : List Nat}
    (h : l.Pairwise fun a b => s.lt a b) (hai : s'.allocationInfo = s.allocationInfo)
    (hk : ∀ e ∈ l, (s'.infos e).prevFree = (s.infos e).prevFree ∧
      (s'.infos e).alignSize = (s.infos e).alignSize) :
    l.Pairwise fun a b => s'.lt a b := by
  refine h.imp_of_mem fun {a b} ha hb hab => ?_
  have ka := hk a ha
  have kb := hk b hb
  rwa [lt_eq, sortByPrevFree_congr (a := s.key a) (b := s.key b) ⟨ka.1, ka.2, by simp [key, hai]⟩
    ⟨kb.1, kb.2, by simp [key, hai]⟩]

@[simp] theorem insertFreeBlock_lt (s : FreeListSpace) (x : Nat) :
    (s.insertFreeBlock x).lt = s.lt := rfl

theorem sorted_insertFreeBlock {s : FreeListSpace} (h : s.freeBlocks.Pairwise fun a b => s.lt a b)
    (x : Nat) : (s.insertFreeBlock x).freeBlocks.Pairwise fun a b => s.lt a b :=
  @setInsert_pairwise _ s.lt (fun h1 h2 => s.lt_trans h1 h2) x _ h

theorem perm_insertFreeBlock {s : FreeListSpace} {x : Nat} (hx : x ∉ s.freeBlocks) :
    (s.insertFreeBlock x).freeBlocks.Perm (x :: s.freeBlocks) :=
  @setInsert_perm _ s.lt x _ hx fun _ he => s.lt_total fun heq => hx (heq ▸ he)

theorem lowerBound_self {s : FreeListSpace} {x : Nat} (hs : s.freeBlocks.Pairwise fun a b => s.lt a b)
    (hx : x ∈ s.freeBlocks) : s.lowerBound (s.key x) = some x :=
  @find?_not_lt_self _ s.lt x _ hs hx (s.lt_irrefl x)

end FreeListSpace

end Marvin.Space
