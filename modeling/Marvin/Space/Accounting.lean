import Marvin.Space.Basic
import Mathlib.Data.List.Nodup
import Mathlib.Algebra.Order.BigOperators.Group.List
import Mathlib.Algebra.Order.Group.Nat

namespace Marvin.Space

section Accounting

variable {σ : Type} (free : σ → Nat → Checked (Nat × σ)) (bytes objects : σ → Nat)
  (Live : σ → List Nat → Prop) (size : σ → Nat → Nat)

/-- `Free` of a live object keeps the others live and drops the two counters by what it returns
and by one. -/
def FreesExactly : Prop :=
  ∀ s live p, Live s live → p ∈ live →
    Live (free s p).val.2 (live.erase p) ∧
      (free s p).val.1 + bytes (free s p).val.2 = bytes s ∧ objects (free s p).val.2 + 1 = objects s

/-- The counters of a state whose live objects are `live`: `num_bytes_allocated_` is the total of
their `AllocationSize` and `num_objects_allocated_` is their number. -/
def Counted (s : σ) (live : List Nat) : Prop :=
  bytes s = (live.map (size s)).sum ∧ objects s = live.length

/-- No `Free` of a live object underflows the counters, and `FreeList` and `Sweep` over distinct
live objects report exactly the drops. -/
def FreesAccounted (s : σ) (live : List Nat) : Prop :=
  (∀ p ∈ live, size s p ≤ bytes s ∧ 0 < objects s) ∧
  (∀ ptrs : List Nat, ptrs.Nodup → (∀ p ∈ ptrs, p ∈ live) →
    (∃ live', Live (freeList free s ptrs).val.2 live') ∧
      (freeList free s ptrs).val.1 + bytes (freeList free s ptrs).val.2 = bytes s) ∧
  ∀ (isEmpty : Bool) (batches : List (List Nat)), batches.flatten.Nodup →
    (∀ p ∈ batches.flatten, p ∈ live) →
    (∃ live', Live (sweep free isEmpty s batches).val.2 live') ∧
      (sweep free isEmpty s batches).val.1.1 + objects (sweep free isEmpty s batches).val.2 =
        objects s ∧
      (sweep free isEmpty s batches).val.1.2 + bytes (sweep free isEmpty s batches).val.2 = bytes s

variable {free bytes objects Live size}

theorem Counted.le_of_mem {s : σ} {live : List Nat} {p : Nat}
    (h : Counted bytes objects size s live) (hp : p ∈ live) : size s p ≤ bytes s ∧ 0 < objects s := by
  rw [h.1, h.2]
  exact ⟨List.le_sum_of_mem (List.mem_map_of_mem _ hp), List.length_pos_of_mem hp⟩

@[simp] theorem freeList_nil (s : σ) : freeList free s [] = pure (0, s) := rfl

theorem freeList_val_cons (s : σ) (p : Nat) (ps : List Nat) :
    (freeList free s (p :: ps)).val =
      ((free s p).val.1 + (freeList free (free s p).val.2 ps).val.1,
        (freeList free (free s p).val.2 ps).val.2) := by
  simp [freeList]

/-- `FreeList` returns exactly the drop in the byte counter, and the object counter drops by
the number of pointers. -/
theorem freeList_drop (hfree : FreesExactly free bytes objects Live) {s : σ} {live ptrs : List Nat}
    (h : Live s live) (hnd : ptrs.Nodup) (hsub : ∀ p ∈ ptrs, p ∈ live) :
    (∃ live', Live (freeList free s ptrs).val.2 live' ∧ ∀ q ∈ live, q ∉ ptrs → q ∈ live') ∧
    (freeList free s ptrs).val.1 + bytes (freeList free s ptrs).val.2 = bytes s ∧
    objects (freeList free s ptrs).val.2 + ptrs.length = objects s := by
  induction ptrs generalizing s live with
  | nil => exact ⟨⟨live, h, fun q hq _ => hq⟩, by simp, by simp⟩
  | cons p ps ih =>
    rw [List.nodup_cons] at hnd
    obtain ⟨h1, h2, h3⟩ := hfree s live p h (hsub p (.head _))
    have hmem : ∀ q ∈ live, q ≠ p → q ∈ live.erase p := fun q hq hne =>
      (List.mem_erase_of_ne hne).mpr hq
    obtain ⟨⟨live', h4, h5⟩, h6, h7⟩ := ih h1 hnd.2 fun q hq =>
      hmem q (hsub q (.tail _ hq)) fun e => hnd.1 (e ▸ hq)
    rw [freeList_val_cons]
    refine ⟨⟨live', h4, fun q hq hq' => ?_⟩, by simp only; omega, by simp only [List.length_cons]; omega⟩
    simp only [List.mem_cons, not_or] at hq'
    exact h5 q (hmem q hq hq'.1) hq'.2

theorem sweepCallback_val (freed : Nat × Nat) (s : σ) (ptrs : List Nat) :
    (sweepCallback free freed s ptrs).val =
      ((freed.1 + ptrs.length, freed.2 + (freeList free s ptrs).val.1),
        (freeList free s ptrs).val.2) := rfl

theorem foldlM_sweepCallback (hfree : FreesExactly free bytes objects Live)
    {batches : List (List Nat)} (acc : (Nat × Nat) × σ) {live : List Nat} (h : Live acc.2 live)
    (hnd : batches.flatten.Nodup) (hsub : ∀ p ∈ batches.flatten, p ∈ live) :
    (∃ live', Live (batches.foldlM (fun acc ptrs => sweepCallback free acc.1 acc.2 ptrs) acc).val.2
      live') ∧
    (batches.foldlM (fun acc ptrs => sweepCallback free acc.1 acc.2 ptrs) acc).val.1.1 +
        objects (batches.foldlM (fun acc ptrs => sweepCallback free acc.1 acc.2 ptrs) acc).val.2 =
      acc.1.1 + objects acc.2 ∧
    (batches.foldlM (fun acc ptrs => sweepCallback free acc.1 acc.2 ptrs) acc).val.1.2 +
        bytes (batches.foldlM (fun acc ptrs => sweepCallback free acc.1 acc.2 ptrs) acc).val.2 =
      acc.1.2 + bytes acc.2 := by
  induction batches generalizing acc live with
  | nil => exact ⟨⟨live, h⟩, rfl, rfl⟩
  | cons ptrs batches ih =>
    rw [List.flatten_cons, List.nodup_append] at hnd
    obtain ⟨⟨live', h1, h2⟩, h3, h4⟩ := freeList_drop hfree h hnd.1
      fun p hp => hsub p (List.mem_append_left _ hp)
    obtain ⟨h5, h6, h7⟩ := ih ((acc.1.1 + ptrs.length, acc.1.2 + (freeList free acc.2 ptrs).val.1),
      (freeList free acc.2 ptrs).val.2) h1 hnd.2.1 fun p hp =>
        h2 p (hsub p (List.mem_append_right _ hp)) fun hp' => hnd.2.2 hp' hp
    dsimp only at h6 h7
    simp only [List.foldlM_cons, Checked.val_bind, sweepCallback_val]
    exact ⟨h5, by omega, by omega⟩

/-- The `(objects, bytes)` that `Sweep` returns are exactly the drops in the counters. -/
theorem sweep_drop (hfree : FreesExactly free bytes objects Live) (isEmpty : Bool) {s : σ}
    {live : List Nat} {batches : List (List Nat)} (h : Live s live) (hnd : batches.flatten.Nodup)
    (hsub : ∀ p ∈ batches.flatten, p ∈ live) :
    (∃ live', Live (sweep free isEmpty s batches).val.2 live') ∧
    (sweep free isEmpty s batches).val.1.1 + objects (sweep free isEmpty s batches).val.2 =
      objects s ∧
    (sweep free isEmpty s batches).val.1.2 + bytes (sweep free isEmpty s batches).val.2 =
      bytes s := by
  unfold sweep
  split
  · exact ⟨⟨live, h⟩, by simp, by simp⟩
  · simpa using foldlM_sweepCallback hfree ((0, 0), s) h hnd hsub

/-- A space whose `Free` keeps the counters exact keeps every promise of `FreesAccounted`. -/
theorem freesAccounted (hfree : FreesExactly free bytes objects Live) {s : σ} {live : List Nat}
    (h : Live s live) (hc : Counted bytes objects size s live) :
    FreesAccounted free bytes objects Live size s live := by
  refine ⟨fun p hp => hc.le_of_mem hp, fun ptrs hnd hsub => ?_,
    fun isEmpty batches hnd hsub => sweep_drop hfree isEmpty h hnd hsub⟩
  obtain ⟨⟨live', h', -⟩, hbytes, -⟩ := freeList_drop hfree h hnd hsub
  exact ⟨⟨live', h'⟩, hbytes⟩

section Record

variable {record : Nat → Nat} (hf : ∀ s p, (free s p).freed = [record p])
include hf

/-- A `Free` that passes `record p` to the hook for each `p` makes `FreeList` pass it once per
pointer, in order. -/
theorem freeList_freed (s : σ) (ptrs : List Nat) : (freeList free s ptrs).freed = ptrs.map record := by
  induction ptrs generalizing s with
  | nil => rfl
  | cons p ps ih => simp [freeList, hf, ih]

theorem foldlM_sweepCallback_freed (batches : List (List Nat)) (acc : (Nat × Nat) × σ) :
    (batches.foldlM (fun acc ptrs => sweepCallback free acc.1 acc.2 ptrs) acc).freed =
      batches.flatten.map record := by
  induction batches generalizing acc with
  | nil => rfl
  | cons ptrs batches ih =>
    rw [List.foldlM_cons, Checked.freed_bind, ih]
    simp [sweepCallback, freeList_freed hf]

theorem sweep_freed (isEmpty : Bool) (s : σ) (batches : List (List Nat)) :
    (sweep free isEmpty s batches).freed = if isEmpty then [] else batches.flatten.map record := by
  unfold sweep
  split <;> simp [foldlM_sweepCallback_freed hf]

end Record

end Accounting

end Marvin.Space
