import Marvin.Space.FreeListSpace
import Mathlib.Algebra.BigOperators.Group.List

namespace Marvin.Space

/-- A block of the tiling the side table describes: its pages, whether it is free, and the
zygote bit of its header. -/
structure Block where
  pages : Nat
  free : Bool
  zygote : Bool
  deriving DecidableEq, Repr

namespace Block

/-- `prev_free_` of the header that follows the block. -/
def prevOf (b : Block) : Nat := if b.free then b.pages else 0

def size (bs : List Block) : Nat := (bs.map Block.pages).sum

/-- `prev_free_` of the header after `bs`, when the header of `bs` has `p`. -/
def prevAfter (p : Nat) : List Block → Nat
  | [] => p
  | b :: bs => prevAfter b.prevOf bs

@[simp] theorem size_nil : size [] = 0 := rfl
@[simp] theorem size_cons (b : Block) (bs : List Block) : size (b :: bs) = b.pages + size bs := by
  simp [size]
@[simp] theorem size_append (xs ys : List Block) : size (xs ++ ys) = size xs + size ys := by
  simp [size]

@[simp] theorem prevAfter_nil (p : Nat) : prevAfter p [] = p := rfl
@[simp] theorem prevAfter_cons (p : Nat) (b : Block) (bs : List Block) :
    prevAfter p (b :: bs) = prevAfter b.prevOf bs := rfl
@[simp] theorem prevAfter_append (p : Nat) (xs ys : List Block) :
    prevAfter p (xs ++ ys) = prevAfter (prevAfter p xs) ys := by
  induction xs generalizing p <;> simp [*]

theorem prevAfter_append_singleton (p : Nat) (xs : List Block) (b : Block) :
    prevAfter p (xs ++ [b]) = b.prevOf := by simp

end Block

open Block

/-- The headers from slot `i` on describe the blocks `bs`, the first header having
`prev_free_ = prev`. Every block has a page, and no free block follows a free one. -/
def Tiles (infos : Nat → AllocationInfo) : Nat → Nat → List Block → Prop
  | _, _, [] => True
  | i, prev, b :: bs =>
    (infos i).prevFree = prev ∧ (infos i).alignSize = b.pages ∧ (infos i).isFree = b.free ∧
      (infos i).isZygoteObject = b.zygote ∧ 0 < b.pages ∧ (prev ≠ 0 → b.free = false) ∧
      Tiles infos (i + b.pages) b.prevOf bs

@[simp] theorem tiles_nil (infos : Nat → AllocationInfo) (i prev : Nat) : Tiles infos i prev [] :=
  trivial

@[simp] theorem tiles_cons (infos : Nat → AllocationInfo) (i prev : Nat) (b : Block)
    (bs : List Block) :
    Tiles infos i prev (b :: bs) ↔
      (infos i).prevFree = prev ∧ (infos i).alignSize = b.pages ∧ (infos i).isFree = b.free ∧
        (infos i).isZygoteObject = b.zygote ∧ 0 < b.pages ∧ (prev ≠ 0 → b.free = false) ∧
        Tiles infos (i + b.pages) b.prevOf bs := Iff.rfl

theorem tiles_append (infos : Nat → AllocationInfo) (i prev : Nat) (xs ys : List Block) :
    Tiles infos i prev (xs ++ ys) ↔
      Tiles infos i prev xs ∧ Tiles infos (i + size xs) (prevAfter prev xs) ys := by
  induction xs generalizing i prev with
  | nil => simp
  | cons b bs ih => simp only [List.cons_append, tiles_cons, ih, size_cons, prevAfter_cons,
      ← Nat.add_assoc, and_assoc]

theorem Tiles.suffix {f : Nat → AllocationInfo} {pre post : List Block}
    (h : Tiles f 0 0 (pre ++ post)) : Tiles f (size pre) (prevAfter 0 pre) post := by
  simpa using ((tiles_append f 0 0 pre post).mp h).2

theorem Tiles.prevFree_head {f : Nat → AllocationInfo} {i prev : Nat} {bs : List Block}
    (h : Tiles f i prev bs) (hne : bs ≠ []) : (f i).prevFree = prev := by
  cases bs with
  | nil => exact absurd rfl hne
  | cons b bs => exact h.1

/-- The walk only reads the headers of its own blocks. -/
theorem Tiles.congr {f g : Nat → AllocationInfo} {i prev : Nat} {bs : List Block}
    (h : Tiles f i prev bs) (hfg : ∀ j, i ≤ j → j < i + size bs → g j = f j) :
    Tiles g i prev bs := by
  induction bs generalizing i prev with
  | nil => trivial
  | cons b bs ih =>
    obtain ⟨h1, h2, h3, h4, hp, h5, h6⟩ := h
    have hi : g i = f i := hfg i le_rfl (by simp only [size_cons]; omega)
    refine ⟨hi ▸ h1, hi ▸ h2, hi ▸ h3, hi ▸ h4, hp, h5, ih h6 fun j hj hj' => hfg j ?_ ?_⟩
    · omega
    · simp only [size_cons]; omega

theorem Tiles.pages_pos {f : Nat → AllocationInfo} {i prev : Nat} {bs : List Block}
    (h : Tiles f i prev bs) : ∀ b ∈ bs, 0 < b.pages := by
  induction bs generalizing i prev with
  | nil => simp
  | cons b bs ih =>
    intro c hc
    rcases List.mem_cons.mp hc with rfl | hc
    · exact h.2.2.2.2.1
    · exact ih h.2.2.2.2.2.2 c hc

/-- Replacing the blocks `mid` by blocks `mid'` of the same extent that end the same way
keeps the walk, when only headers inside `mid` changed. -/
theorem Tiles.replace {f g : Nat → AllocationInfo} {pre mid mid' post : List Block}
    (h : Tiles f 0 0 (pre ++ mid ++ post))
    (hout : ∀ j, (j < size pre ∨ size pre + size mid ≤ j) → g j = f j)
    (hmid : Tiles g (size pre) (prevAfter 0 pre) mid') (hsize : size mid' = size mid)
    (hprev : prevAfter (prevAfter 0 pre) mid' = prevAfter (prevAfter 0 pre) mid) :
    Tiles g 0 0 (pre ++ mid' ++ post) := by
  rw [tiles_append, tiles_append] at h ⊢
  obtain ⟨⟨hpre, -⟩, hpost⟩ := h
  refine ⟨⟨hpre.congr fun j _ hj => hout j (.inl (by simpa using hj)), by simpa using hmid⟩, ?_⟩
  simp only [Nat.zero_add, size_append, prevAfter_append, hsize, hprev] at hpost ⊢
  exact hpost.congr fun j hj _ => hout j (.inr hj)

/-- Dropping the blocks at the end keeps the walk of the others. -/
theorem Tiles.of_append_left {f g : Nat → AllocationInfo} {pre mid : List Block}
    (h : Tiles f 0 0 (pre ++ mid)) (hout : ∀ j, j < size pre → g j = f j) :
    Tiles g 0 0 pre :=
  ((tiles_append f 0 0 pre mid).mp h).1.congr fun j _ hj => hout j (by simpa using hj)

/-- Headers of blocks whose predecessor is free: the elements of `free_blocks_`. -/
def freeSuccessors : Nat → Nat → List Block → List Nat
  | _, _, [] => []
  | i, prev, b :: bs => (if prev = 0 then [] else [i]) ++ freeSuccessors (i + b.pages) b.prevOf bs

@[simp] theorem freeSuccessors_nil (i prev : Nat) : freeSuccessors i prev [] = [] := rfl
@[simp] theorem freeSuccessors_cons (i prev : Nat) (b : Block) (bs : List Block) :
    freeSuccessors i prev (b :: bs) =
      (if prev = 0 then [] else [i]) ++ freeSuccessors (i + b.pages) b.prevOf bs := rfl

theorem freeSuccessors_append (i prev : Nat) (xs ys : List Block) :
    freeSuccessors i prev (xs ++ ys) =
      freeSuccessors i prev xs ++ freeSuccessors (i + size xs) (prevAfter prev xs) ys := by
  induction xs generalizing i prev with
  | nil => simp
  | cons b bs ih => simp [ih, Nat.add_assoc]

theorem Tiles.mem_freeSuccessors {f : Nat → AllocationInfo} {i prev : Nat} {bs : List Block}
    (h : Tiles f i prev bs) {e : Nat} (he : e ∈ freeSuccessors i prev bs) :
    i ≤ e ∧ e < i + size bs := by
  induction bs generalizing i prev with
  | nil => simp at he
  | cons b bs ih =>
    have hp := h.2.2.2.2.1
    simp only [freeSuccessors_cons, List.mem_append] at he
    rcases he with he | he
    · split at he <;> simp at he
      simp only [size_cons]
      omega
    · have := ih h.2.2.2.2.2.2 he
      simp only [size_cons]
      omega

/-- Start slots of the live blocks. -/
def liveSlots : Nat → List Block → List Nat
  | _, [] => []
  | i, b :: bs => (if b.free then [] else [i]) ++ liveSlots (i + b.pages) bs

@[simp] theorem liveSlots_nil (i : Nat) : liveSlots i [] = [] := rfl
@[simp] theorem liveSlots_cons (i : Nat) (b : Block) (bs : List Block) :
    liveSlots i (b :: bs) = (if b.free then [] else [i]) ++ liveSlots (i + b.pages) bs := rfl

theorem liveSlots_append (i : Nat) (xs ys : List Block) :
    liveSlots i (xs ++ ys) = liveSlots i xs ++ liveSlots (i + size xs) ys := by
  induction xs generalizing i with
  | nil => simp
  | cons b bs ih => simp [ih, Nat.add_assoc]

/-- Start slots of the live blocks, each with the zygote bit of its header. -/
def liveMarks : Nat → List Block → List (Nat × Bool)
  | _, [] => []
  | i, b :: bs => (if b.free then [] else [(i, b.zygote)]) ++ liveMarks (i + b.pages) bs

@[simp] theorem liveMarks_nil (i : Nat) : liveMarks i [] = [] := rfl
@[simp] theorem liveMarks_cons (i : Nat) (b : Block) (bs : List Block) :
    liveMarks i (b :: bs) = (if b.free then [] else [(i, b.zygote)]) ++ liveMarks (i + b.pages) bs :=
  rfl

theorem liveMarks_append (i : Nat) (xs ys : List Block) :
    liveMarks i (xs ++ ys) = liveMarks i xs ++ liveMarks (i + size xs) ys := by
  induction xs generalizing i with
  | nil => simp
  | cons b bs ih => simp [ih, Nat.add_assoc]

@[simp] theorem liveMarks_map_fst (i : Nat) (bs : List Block) :
    (liveMarks i bs).map Prod.fst = liveSlots i bs := by
  induction bs generalizing i with
  | nil => rfl
  | cons b bs ih => cases hb : b.free <;> simp [hb, ih]

/-- The zygote bit of each live block is the one its header holds. -/
theorem Tiles.isZygoteObject_of_mem_liveMarks {f : Nat → AllocationInfo} {i prev : Nat}
    {bs : List Block} (h : Tiles f i prev bs) {j : Nat} {z : Bool} (hm : (j, z) ∈ liveMarks i bs) :
    (f j).isZygoteObject = z := by
  induction bs generalizing i prev with
  | nil => simp at hm
  | cons b bs ih =>
    simp only [liveMarks_cons, List.mem_append] at hm
    rcases hm with hm | hm
    · split at hm <;> simp only [List.mem_singleton, List.not_mem_nil, Prod.mk.injEq] at hm
      obtain ⟨rfl, rfl⟩ := hm
      exact h.2.2.2.1
    · exact ih h.2.2.2.2.2.2 hm

/-- The live blocks with their start slots. -/
def liveBlocks : Nat → List Block → List (Nat × Block)
  | _, [] => []
  | i, b :: bs => (if b.free then [] else [(i, b)]) ++ liveBlocks (i + b.pages) bs

@[simp] theorem liveBlocks_nil (i : Nat) : liveBlocks i [] = [] := rfl
@[simp] theorem liveBlocks_cons (i : Nat) (b : Block) (bs : List Block) :
    liveBlocks i (b :: bs) = (if b.free then [] else [(i, b)]) ++ liveBlocks (i + b.pages) bs :=
  rfl

theorem liveBlocks_append (i : Nat) (xs ys : List Block) :
    liveBlocks i (xs ++ ys) = liveBlocks i xs ++ liveBlocks (i + size xs) ys := by
  induction xs generalizing i with
  | nil => simp
  | cons b bs ih => simp [ih, Nat.add_assoc]

/-- The live marks are the live blocks' slots and zygote bits. -/
theorem liveBlocks_map_mark (i : Nat) (bs : List Block) :
    (liveBlocks i bs).map (fun x => (x.1, x.2.zygote)) = liveMarks i bs := by
  induction bs generalizing i with
  | nil => rfl
  | cons b bs ih => cases hb : b.free <;> simp [hb, ih]

theorem liveBlocks_map_fst (i : Nat) (bs : List Block) :
    (liveBlocks i bs).map Prod.fst = liveSlots i bs := by
  rw [← liveMarks_map_fst, ← liveBlocks_map_mark, List.map_map]
  rfl

/-- Pages of the live blocks. -/
def livePages : List Block → Nat
  | [] => 0
  | b :: bs => (if b.free then 0 else b.pages) + livePages bs

@[simp] theorem livePages_nil : livePages [] = 0 := rfl
@[simp] theorem livePages_cons (b : Block) (bs : List Block) :
    livePages (b :: bs) = (if b.free then 0 else b.pages) + livePages bs := rfl
@[simp] theorem livePages_append (xs ys : List Block) :
    livePages (xs ++ ys) = livePages xs + livePages ys := by
  induction xs <;> simp [*, Nat.add_assoc]

/-- A live slot is the start of a live block. -/
theorem exists_of_mem_liveSlots {i j : Nat} {bs : List Block} (h : j ∈ liveSlots i bs) :
    ∃ pre b post, bs = pre ++ b :: post ∧ j = i + size pre ∧ b.free = false := by
  induction bs generalizing i with
  | nil => simp at h
  | cons b bs ih =>
    simp only [liveSlots_cons, List.mem_append] at h
    rcases h with h | h
    · cases hb : b.free <;> simp [hb] at h
      exact ⟨[], b, bs, rfl, by simp [h], hb⟩
    · obtain ⟨pre, c, post, rfl, rfl, hc⟩ := ih h
      exact ⟨b :: pre, c, post, rfl, by simp [Nat.add_assoc], hc⟩

/-- An element of `free_blocks_` is the header right after a free block. -/
theorem exists_of_mem_freeSuccessors {i prev j : Nat} {bs : List Block}
    (h : j ∈ freeSuccessors i prev bs) :
    ∃ pre b post, bs = pre ++ b :: post ∧ j = i + size pre ∧ prevAfter prev pre ≠ 0 := by
  induction bs generalizing i prev with
  | nil => simp at h
  | cons b bs ih =>
    simp only [freeSuccessors_cons, List.mem_append] at h
    rcases h with h | h
    · split at h <;> simp at h
      exact ⟨[], b, bs, rfl, by simp [h], by simpa⟩
    · obtain ⟨pre, c, post, rfl, rfl, hc⟩ := ih h
      exact ⟨b :: pre, c, post, rfl, by simp [Nat.add_assoc], hc⟩

/-- A non-zero `prev_free_` after some blocks comes from a last block that is free. -/
theorem exists_free_last {p : Nat} {pre : List Block} (hp : p = 0) (h : prevAfter p pre ≠ 0) :
    ∃ pre0 a, pre = pre0 ++ [a] ∧ a.free = true ∧ prevAfter p pre = a.pages := by
  induction pre using List.reverseRecOn with
  | nil => simp [hp] at h
  | append_singleton pre0 a _ =>
    rw [prevAfter_append_singleton] at h ⊢
    refine ⟨pre0, a, rfl, ?_, ?_⟩ <;> cases ha : a.free <;> simp_all [prevOf]

end Marvin.Space
