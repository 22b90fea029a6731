import Marvin.Gc.Heap
import Marvin.Space.FreeListRuns
import Marvin.Space.MapSpace

namespace Marvin.Space

/-- A live block of a well-formed free-list space starts inside the space. -/
theorem Layout.contains_slotAddress {s : FreeListSpace} {bs : List Block} {j : Nat}
    (h : Layout s bs) (hj : j ∈ liveSlots 0 bs) : s.contains (s.slotAddress j) = true := by
  have hb := liveSlots_bounds h.tiles.pages_pos hj
  have hfill := h.fill
  have hle := h.begin_le
  simp only [LargeObjectSpace.contains, FreeListSpace.slotAddress, kAlignment, kPageSize] at hfill ⊢
  simp only [Bool.and_eq_true, decide_eq_true_eq]
  omega

end Marvin.Space

namespace Marvin.Gc
open Marvin.Space

/-- A large object space as `Heap` calls it: `Alloc` of `num_bytes`, given what it takes from
outside (`temp_info`, or the mapping of `MapAnonymous`), and `Contains`. -/
structure LargeObjectSpaceOps (σ ι : Type) where
  alloc : σ → Nat → ι → Checked (Option Allocation × σ)
  contains : σ → Nat → Bool

def freeListSpaceOps : LargeObjectSpaceOps FreeListSpace Nat :=
  ⟨FreeListSpace.alloc, fun s => s.contains⟩

def largeObjectMapSpaceOps : LargeObjectSpaceOps LargeObjectMapSpace (Option (Nat × Nat)) :=
  ⟨fun s _ memMap => s.alloc memMap, LargeObjectMapSpace.contains⟩


/-- A call of `AllocLargeObject`: `byte_count`, `AllocatorMayHaveConcurrentGC && IsGcConcurrent()`
for `kAllocatorTypeLOS`, and whether the runtime is the zygote. -/
structure Request where
  byteCount : Nat
  concurrentGc : Bool
  isZygote : Bool
  deriving DecidableEq, Repr

/-- Where a thread on the large-object path stands: in the footprint test of `TryToAllocate`,
at `Alloc`, at the `fetch_add` of `num_bytes_allocated_`, or returned with `need_gc`. -/
inductive Stage
  | test (c : Call)
  | alloc (c : Call)
  | add (c : Call) (a : Allocation)
  | returned (obj : Option Nat) (needGc : Bool)
  deriving DecidableEq, Repr

structure LosThread where
  req : Request
  stage : Stage
  deriving DecidableEq, Repr

/-- The fields of `Heap` the large-object path reads and writes, the no-swap flags of the
objects, the large object space, and the threads on the path. -/
structure LosHeap (σ : Type) where
  targetFootprint : Nat
  numBytesAllocated : Nat
  growthLimit : Nat
  concurrentStartBytes : Nat
  noSwap : Nat → Bool
  los : σ
  threads : List LosThread

namespace LosHeap

variable {σ ι : Type}

/-- The fields `IsOutOfMemoryOnAllocation` reads, with no call in progress. -/
def footprint (h : LosHeap σ) : Heap := ⟨h.targetFootprint, h.numBytesAllocated, h.growthLimit, []⟩

/-- `Heap::ShouldConcurrentGCForJava`. -/
def shouldConcurrentGCForJava (h : LosHeap σ) (newNumBytesAllocated : Nat) : Bool :=
  decide (h.concurrentStartBytes ≤ newNumBytesAllocated)

/-- `Heap::AllocLargeObject` as a new thread, about to start `TryToAllocate` with `kGrow` false. -/
def allocLargeObject (h : LosHeap σ) (r : Request) : LosHeap σ :=
  { h with threads := h.threads ++ [⟨r, .test ⟨r.byteCount, false, r.concurrentGc, .start, 0, 0, none⟩⟩] }

/-- One atomic step of a thread: a step of the footprint test, `Alloc` with the `DCHECK` of
`TryToAllocate`, or the `fetch_add` with `SetNoSwapFlag`. A failure returns `nullptr`. -/
def stageStep (ops : LargeObjectSpaceOps σ ι) (h : LosHeap σ) (r : Request) (spurious : Bool)
    (input : ι) : Stage → Checked (Option Allocation × LosHeap σ × Stage)
  | .test c =>
    let s := h.footprint.isOutOfMemoryOnAllocation c spurious
    pure (none, { h with targetFootprint := s.2 }, match s.1.pc with
      | .returned true => .returned none false
      | .returned false => .alloc s.1
      | _ => .test s.1)
  | .alloc c => do
    let (ret, los) ← ops.alloc h.los r.byteCount input
    dcheck (ret.all fun a => ops.contains los a.obj)
    pure (ret, { h with los := los }, match ret with
      | none => .returned none false
      | some a => .add c a)
  | .add _ a =>
    let (needGc, h) :=
      if a.bytesTlBulkAllocated > 0 then
        let newNumBytesAllocated := h.numBytesAllocated + a.bytesTlBulkAllocated
        (r.concurrentGc && h.shouldConcurrentGCForJava newNumBytesAllocated,
          { h with numBytesAllocated := newNumBytesAllocated })
      else (false, h)
    pure (none, if r.isZygote then { h with noSwap := Function.update h.noSwap a.obj true } else h,
      .returned (some a.obj) needGc)
  | .returned obj needGc => pure (none, h, .returned obj needGc)

/-- Thread `i` takes its next atomic step; the result is what `Alloc` handed out in it. -/
def step (ops : LargeObjectSpaceOps σ ι) (h : LosHeap σ) (i : Nat) (spurious : Bool) (input : ι) :
    Checked (Option Allocation × LosHeap σ) :=
  match h.threads[i]? with
  | none => pure (none, h)
  | some t => do
    let s ← h.stageStep ops t.req spurious input t.stage
    pure (s.1, { s.2.1 with threads := s.2.1.threads.set i ⟨t.req, s.2.2⟩ })

/-- The heap after the thread steps `evs` in order, and the allocations they handed out. -/
def run (ops : LargeObjectSpaceOps σ ι) (h : LosHeap σ) :
    List (Nat × Bool × ι) → List Allocation × LosHeap σ
  | [] => ([], h)
  | (i, spurious, input) :: evs =>
    let s := (h.step ops i spurious input).val
    let r := s.2.run ops evs
    (s.1.toList ++ r.1, r.2)

section Spec

variable (ops : LargeObjectSpaceOps σ ι) (h : LosHeap σ) (r : Request) (spurious : Bool) (x : ι)

theorem step_val_of_getElem? {i : Nat} {t : LosThread} (hs : h.threads[i]? = some t) :
    (h.step ops i spurious x).val = ((h.stageStep ops t.req spurious x t.stage).val.1,
      { (h.stageStep ops t.req spurious x t.stage).val.2.1 with
        threads := (h.stageStep ops t.req spurious x t.stage).val.2.1.threads.set i
          ⟨t.req, (h.stageStep ops t.req spurious x t.stage).val.2.2⟩ }) := by
  simp [step, hs]

theorem stageStep_alloc_val (c : Call) :
    (h.stageStep ops r spurious x (.alloc c)).val =
      ((ops.alloc h.los r.byteCount x).val.1, { h with los := (ops.alloc h.los r.byteCount x).val.2 },
        match (ops.alloc h.los r.byteCount x).val.1 with
        | none => .returned none false
        | some a => .add c a) := by
  simp [stageStep]

/-- The `fetch_add` raises the count by `bytes_tl_bulk_allocated`, flags the object of a zygote
thread, and leaves the rest of the heap as it was. -/
theorem stageStep_add_val (c : Call) (a : Allocation) :
    (h.stageStep ops r spurious x (.add c a)).val =
      (none, { h with
          numBytesAllocated := h.numBytesAllocated + a.bytesTlBulkAllocated
          noSwap := fun o => h.noSwap o || r.isZygote && decide (o = a.obj) },
        .returned (some a.obj) (decide (a.bytesTlBulkAllocated > 0) && r.concurrentGc &&
          h.shouldConcurrentGCForJava (h.numBytesAllocated + a.bytesTlBulkAllocated))) := by
  have hb0 : ¬ a.bytesTlBulkAllocated > 0 → a.bytesTlBulkAllocated = 0 := by omega
  cases h
  by_cases hb : a.bytesTlBulkAllocated > 0 <;> cases hz : r.isZygote <;>
    simp [stageStep, hb, hb0, hz, shouldConcurrentGCForJava, funext_iff, Function.update_apply,
      Bool.or_comm]

/-- The `fetch_add` of a thread adds its `bytes_tl_bulk_allocated`, whatever ran before it. -/
theorem step_numBytesAllocated_of_add {i : Nat} {c : Call} {a : Allocation}
    (hs : h.threads[i]? = some ⟨r, .add c a⟩) :
    (h.step ops i spurious x).val.2.numBytesAllocated = h.numBytesAllocated + a.bytesTlBulkAllocated := by
  simp [step_val_of_getElem? ops h spurious x hs, stageStep_add_val]

end Spec

end LosHeap

/-- What a thread's stage satisfies under the growth limit `g`: past the test, the count it read
and the request fit under `g`, and a zygote thread flagged its object. -/
def Stage.Ok (r : Request) (g : Nat) (noSwap : Nat → Bool) : Stage → Prop
  | .test c => c.Ok g ∧ c.allocSize = r.byteCount
  | .alloc c => c.oldAllocated + r.byteCount ≤ g
  | .add c a => c.oldAllocated + r.byteCount ≤ g ∧
      a.bytesTlBulkAllocated = FreeListSpace.pagesFor r.byteCount * kAlignment
  | .returned obj _ => r.isZygote = true → ∀ o ∈ obj, noSwap o = true

def LosThread.Ok (g : Nat) (noSwap : Nat → Bool) (t : LosThread) : Prop :=
  0 < t.req.byteCount ∧ t.stage.Ok t.req g noSwap

theorem LosThread.Ok.mono {g : Nat} {ns ns' : Nat → Bool} {t : LosThread} (ht : t.Ok g ns)
    (hns : ∀ o, ns o = true → ns' o = true) : t.Ok g ns' := by
  refine ⟨ht.1, ?_⟩
  obtain ⟨r, st⟩ := t
  cases st with
  | returned obj _ => exact fun hz o ho => hns o (ht.2 hz o ho)
  | _ => exact ht.2

namespace LosHeap

/-- The invariant of the large-object path: the space is reachable with the live objects, the limit
fits in it, the target is within the limit, and every thread is `Ok`. -/
structure Inv (h : LosHeap FreeListSpace) (live : List Nat) : Prop where
  los : Space.Reachable h.los live
  limit_le : h.growthLimit ≤ h.los.end_ - h.los.begin_
  target_le : h.targetFootprint ≤ h.growthLimit
  threads_ok : ∀ t ∈ h.threads, t.Ok h.growthLimit h.noSwap

section Inv

variable {h : LosHeap FreeListSpace} {live : List Nat}

theorem Inv.set (hi : h.Inv live) (i : Nat) {t : LosThread} (ht : t.Ok h.growthLimit h.noSwap) :
    Inv { h with threads := h.threads.set i t } live :=
  ⟨hi.los, hi.limit_le, hi.target_le, fun d hd =>
    (List.mem_or_eq_of_mem_set hd).elim (hi.threads_ok d) (· ▸ ht)⟩

theorem Inv.allocLargeObject (hi : h.Inv live) {r : Request} (hpos : 0 < r.byteCount) :
    (h.allocLargeObject r).Inv live := by
  refine ⟨hi.los, hi.limit_le, hi.target_le, ?_⟩
  simp only [LosHeap.allocLargeObject, List.mem_append, List.mem_singleton]
  rintro t (ht | rfl)
  · exact hi.threads_ok t ht
  · exact ⟨hpos, Call.ok_of_start rfl, rfl⟩

/-- A step of the footprint test keeps the invariant; a test that passes leaves its thread at
`Alloc` with the count it read and the request under the limit. -/
theorem Inv.stageStep_test (hi : h.Inv live) {r : Request} {c : Call}
    (hok : LosThread.Ok h.growthLimit h.noSwap ⟨r, .test c⟩) (spurious : Bool) (t : Nat) :
    (h.stageStep freeListSpaceOps r spurious t (.test c)).val.2.1.Inv live ∧
      LosThread.Ok h.growthLimit h.noSwap ⟨r, (h.stageStep freeListSpaceOps r spurious t (.test c)).val.2.2⟩ := by
  obtain ⟨hpos, hc, hsize⟩ : 0 < r.byteCount ∧ c.Ok h.growthLimit ∧ c.allocSize = r.byteCount := hok
  obtain ⟨hok', hle⟩ := Heap.isOutOfMemoryOnAllocation_ok (h := h.footprint) hc hi.target_le spurious
  have hsz := Heap.isOutOfMemoryOnAllocation_allocSize h.footprint c spurious
  refine ⟨⟨hi.los, hi.limit_le, hle, hi.threads_ok⟩, hpos, ?_⟩
  simp only [stageStep, Checked.val_pure]
  generalize h.footprint.isOutOfMemoryOnAllocation c spurious = s at hok' hsz
  obtain ⟨c', _⟩ := s
  have hret := hok'.2.2
  cases hp : c'.pc with
  | returned b => cases b <;> simp_all [Stage.Ok, footprint]
  | _ => exact ⟨hok', hsz.trans hsize⟩

/-- `Alloc` keeps the invariant, with the new object live and inside the space; its thread moves
to the `fetch_add` of whole pages. -/
theorem Inv.stageStep_alloc (hi : h.Inv live) {r : Request} {c : Call}
    (hok : LosThread.Ok h.growthLimit h.noSwap ⟨r, .alloc c⟩) (spurious : Bool) (t : Nat) :
    (h.stageStep freeListSpaceOps r spurious t (.alloc c)).val.2.1.Inv
        (live ++ ((h.stageStep freeListSpaceOps r spurious t (.alloc c)).val.1.map
          Allocation.obj).toList) ∧
      LosThread.Ok h.growthLimit h.noSwap ⟨r, (h.stageStep freeListSpaceOps r spurious t (.alloc c)).val.2.2⟩ ∧
      ∀ a ∈ (h.stageStep freeListSpaceOps r spurious t (.alloc c)).val.1,
        (h.stageStep freeListSpaceOps r spurious t (.alloc c)).val.2.1.los.contains a.obj = true := by
  obtain ⟨hpos, hfit⟩ : 0 < r.byteCount ∧ c.oldAllocated + r.byteCount ≤ h.growthLimit := hok
  have hcap : r.byteCount ≤ h.los.end_ - h.los.begin_ := by have := hi.limit_le; omega
  have hbounds := FreeListSpace.alloc_bounds h.los r.byteCount t
  obtain ⟨bs, hl, -⟩ := hi.los.layout
  rw [stageStep_alloc_val]
  refine ⟨⟨hi.los.alloc t hpos hcap, by simpa [freeListSpaceOps, hbounds] using hi.limit_le,
    hi.target_le, hi.threads_ok⟩, ?_⟩
  rcases hl.alloc hpos hcap t with hv | ⟨j, bs', hv, hl', hperm, -⟩
  · simp [freeListSpaceOps, hv, LosThread.Ok, Stage.Ok, hpos]
  · refine ⟨⟨hpos, by simpa [freeListSpaceOps, hv, Stage.Ok] using hfit⟩, ?_⟩
    simp only [freeListSpaceOps, hv, Option.mem_def, Option.some.injEq, forall_eq']
    rw [← FreeListSpace.alloc_slotAddress h.los r.byteCount t]
    exact hl'.contains_slotAddress (hperm.symm.subset (List.mem_cons_self _ _))

/-- The `fetch_add` keeps the invariant: it touches only the count and the no-swap flags, which
it only sets. -/
theorem Inv.stageStep_add (hi : h.Inv live) {r : Request} {c : Call} {a : Allocation}
    (hok : LosThread.Ok h.growthLimit h.noSwap ⟨r, .add c a⟩) (spurious : Bool) (t : Nat) :
    (h.stageStep freeListSpaceOps r spurious t (.add c a)).val.2.1.Inv live ∧
      LosThread.Ok h.growthLimit (h.stageStep freeListSpaceOps r spurious t (.add c a)).val.2.1.noSwap
        ⟨r, (h.stageStep freeListSpaceOps r spurious t (.add c a)).val.2.2⟩ := by
  have hns : ∀ o, h.noSwap o = true → (h.noSwap o || r.isZygote && decide (o = a.obj)) = true :=
    fun o ho => by simp [ho]
  rw [stageStep_add_val]
  exact ⟨⟨hi.los, hi.limit_le, hi.target_le, fun d hd => (hi.threads_ok d hd).mono hns⟩,
    hok.1, fun hz o ho => by simp_all⟩

/-- A thread step keeps the invariant, with the object `Alloc` handed out live and inside the
space: the `DCHECK` of `TryToAllocate`. -/
theorem Inv.step (hi : h.Inv live) (i : Nat) (spurious : Bool) (t : Nat) :
    (h.step freeListSpaceOps i spurious t).val.2.Inv
        (live ++ ((h.step freeListSpaceOps i spurious t).val.1.map Allocation.obj).toList) ∧
      ∀ a ∈ (h.step freeListSpaceOps i spurious t).val.1,
        (h.step freeListSpaceOps i spurious t).val.2.los.contains a.obj = true := by
  cases hs : h.threads[i]? with
  | none => simpa [LosHeap.step, hs] using hi
  | some th =>
    obtain ⟨r, st⟩ := th
    have hok := hi.threads_ok _ (List.getElem?_mem hs)
    rw [step_val_of_getElem? _ _ _ _ hs]
    cases st with
    | test c =>
      obtain ⟨hi', hok'⟩ := hi.stageStep_test hok spurious t
      have hnone : (h.stageStep freeListSpaceOps r spurious t (.test c)).val.1 = none := rfl
      simp only [hnone, Option.map_none', Option.toList_none, List.append_nil]
      exact ⟨hi'.set i hok', by simp⟩
    | alloc c =>
      obtain ⟨hi', hok', hc⟩ := hi.stageStep_alloc hok spurious t
      exact ⟨hi'.set i hok', hc⟩
    | add c a =>
      obtain ⟨hi', hok'⟩ := hi.stageStep_add hok spurious t
      have hnone : (h.stageStep freeListSpaceOps r spurious t (.add c a)).val.1 = none := by
        rw [stageStep_add_val]
      simp only [hnone, Option.map_none', Option.toList_none, List.append_nil]
      exact ⟨hi'.set i hok', by simp⟩
    | returned obj needGc => exact ⟨by simpa [stageStep] using hi.set i hok, by simp [stageStep]⟩

/-- `Free` of a live object, as `Sweep` calls it, keeps the invariant. -/
theorem Inv.free (hi : h.Inv live) {obj : Nat} (hobj : obj ∈ live) :
    Inv { h with los := (h.los.free obj).val.2 } (live.erase obj) := by
  have hbounds := FreeListSpace.free_bounds h.los obj
  exact ⟨hi.los.free hobj, by simpa [hbounds] using hi.limit_le, hi.target_le, hi.threads_ok⟩

end Inv

/-- The states of the large-object path: new threads of positive sizes, thread steps in any order,
`Free` of live objects by `Sweep`, and stores to `num_bytes_allocated_`. -/
inductive Reachable : LosHeap FreeListSpace → List Nat → Prop where
  | create {begin capacity allocationInfo targetFootprint numBytesAllocated growthLimit
      concurrentStartBytes : Nat} (noSwap : Nat → Bool) (hbegin : begin % kAlignment = 0)
      (hcapacity : capacity % kAlignment = 0) (hlow : begin + capacity ≤ 2 ^ 32)
      (hlimit : growthLimit ≤ capacity) (htarget : targetFootprint ≤ growthLimit) :
      Reachable ⟨targetFootprint, numBytesAllocated, growthLimit, concurrentStartBytes, noSwap,
        (FreeListSpace.create begin capacity allocationInfo).val, []⟩ []
  | allocLargeObject {h : LosHeap FreeListSpace} {live : List Nat} (r : Request)
      (hr : Reachable h live) (hpos : 0 < r.byteCount) : Reachable (h.allocLargeObject r) live
  | step {h : LosHeap FreeListSpace} {live : List Nat} (i : Nat) (spurious : Bool) (tempInfo : Nat)
      (hr : Reachable h live) :
      Reachable (h.step freeListSpaceOps i spurious tempInfo).val.2
        (live ++ ((h.step freeListSpaceOps i spurious tempInfo).val.1.map Allocation.obj).toList)
  | free {h : LosHeap FreeListSpace} {live : List Nat} {obj : Nat} (hr : Reachable h live)
      (hobj : obj ∈ live) : Reachable { h with los := (h.los.free obj).val.2 } (live.erase obj)
  | setAllocated {h : LosHeap FreeListSpace} {live : List Nat} (v : Nat) (hr : Reachable h live) :
      Reachable { h with numBytesAllocated := v } live

theorem Reachable.inv {h : LosHeap FreeListSpace} {live : List Nat} (hr : h.Reachable live) :
    h.Inv live := by
  induction hr with
  | create _ hbegin hcapacity hlow hlimit htarget =>
    exact ⟨.create hbegin hcapacity hlow, by simpa [FreeListSpace.create] using hlimit, htarget,
      by simp⟩
  | allocLargeObject _ _ hpos ih => exact ih.allocLargeObject hpos
  | step i spurious t _ ih => exact (ih.step i spurious t).1
  | free _ hobj ih => exact ih.free hobj
  | setAllocated _ _ ih => exact ⟨ih.los, ih.limit_le, ih.target_le, ih.threads_ok⟩

/-- A schedule of thread steps from a reachable heap reaches a heap whose live objects are the
old ones and what the steps handed out. -/
theorem Reachable.run {h : LosHeap FreeListSpace} {live : List Nat} (hr : h.Reachable live)
    (evs : List (Nat × Bool × Nat)) :
    (h.run freeListSpaceOps evs).2.Reachable
      (live ++ (h.run freeListSpaceOps evs).1.map Allocation.obj) := by
  induction evs generalizing h live with
  | nil => simpa [LosHeap.run] using hr
  | cons e evs ih =>
    obtain ⟨i, spurious, t⟩ := e
    have := ih (hr.step i spurious t)
    cases hv : (h.step freeListSpaceOps i spurious t).val.1 <;> simp_all [LosHeap.run]

end LosHeap

open LosHeap

/-- Over every interleaving of the large-object path the space stays reachable, the target within
the limit and zygote objects flagged, the `DCHECK` holds, and a `fetch_add` overshoots the limit by
less than a page plus what the count gained since its test read it. -/
theorem large_object_path_invariant {h : LosHeap FreeListSpace} {live : List Nat}
    (hr : h.Reachable live) :
    Space.Reachable h.los live ∧ h.targetFootprint ≤ h.growthLimit ∧
      (∀ t ∈ h.threads, t.req.isZygote = true → ∀ o needGc,
        t.stage = .returned (some o) needGc → h.noSwap o = true) ∧
      (∀ i spurious tempInfo, ∀ a ∈ (h.step freeListSpaceOps i spurious tempInfo).val.1,
        (h.step freeListSpaceOps i spurious tempInfo).val.2.los.contains a.obj = true) ∧
      ∀ i spurious tempInfo r c a, h.threads[i]? = some ⟨r, .add c a⟩ →
        c.oldAllocated + r.byteCount ≤ h.growthLimit ∧
        (h.step freeListSpaceOps i spurious tempInfo).val.2.numBytesAllocated <
          h.growthLimit + kAlignment + (h.numBytesAllocated - c.oldAllocated) := by
  have hi := hr.inv
  refine ⟨hi.los, hi.target_le, fun ⟨r, st⟩ ht hz o g hst => ?_,
    fun i spurious t => (hi.step i spurious t).2, fun i spurious t r c a hs => ?_⟩
  · subst hst
    exact (hi.threads_ok _ ht).2 hz o rfl
  · obtain ⟨-, hfit, hsize⟩ : 0 < r.byteCount ∧ c.oldAllocated + r.byteCount ≤ h.growthLimit ∧
        a.bytesTlBulkAllocated = FreeListSpace.pagesFor r.byteCount * kAlignment :=
      hi.threads_ok _ (List.getElem?_mem hs)
    have hpages : FreeListSpace.pagesFor r.byteCount * kAlignment < r.byteCount + kAlignment := by
      simp only [FreeListSpace.pagesFor, kAlignment, kPageSize]
      omega
    rw [step_numBytesAllocated_of_add _ _ _ _ _ hs, hsize]
    exact ⟨hfit, by omega⟩

/-- Two threads ask for two pages each of a heap with a limit of two pages over a space of four,
under a concurrent GC. -/
def racingStart : LosHeap FreeListSpace :=
  ((⟨0, 0, 8192, 0, fun _ => false, (FreeListSpace.create 0 16384 0).val, []⟩ :
    LosHeap FreeListSpace).allocLargeObject ⟨8192, true, false⟩).allocLargeObject ⟨8192, true, false⟩

theorem racingStart_reachable : racingStart.Reachable [] :=
  ((Reachable.create (fun _ => false) (by decide) (by decide) (by decide) (by decide) (by decide) :
    Reachable ⟨0, 0, 8192, 0, fun _ => false, (FreeListSpace.create 0 16384 0).val, []⟩ []).allocLargeObject
      _ (by decide)).allocLargeObject _ (by decide)

/-- Both tests read a count of zero and pass, both `Alloc`s succeed, and the first `fetch_add`
runs. -/
def racingHeap : LosHeap FreeListSpace :=
  (racingStart.run freeListSpaceOps
    [(0, false, 0), (0, false, 0), (1, false, 0), (1, false, 0), (0, false, 0), (1, false, 0),
      (0, false, 0)]).2

theorem racingHeap_reachable : ∃ live, racingHeap.Reachable live :=
  ⟨_, racingStart_reachable.run _⟩

/-- The second `fetch_add` of the race leaves the count two pages past the limit: within the
bound, and more than one page over. -/
theorem racing_requests_overshoot_limit :
    racingHeap.growthLimit + kAlignment <
        (racingHeap.step freeListSpaceOps 1 false 0).val.2.numBytesAllocated ∧
      (racingHeap.step freeListSpaceOps 1 false 0).val.2.numBytesAllocated <
        racingHeap.growthLimit + kAlignment + (racingHeap.numBytesAllocated - 0) :=
  let ⟨_, hr⟩ := racingHeap_reachable
  ⟨by decide, ((large_object_path_invariant hr).2.2.2.2 1 false 0 ⟨8192, true, false⟩
    ⟨8192, false, true, .returned false, 0, 0, none⟩ ⟨8192, 8192, 8192, 8192⟩ (by decide)).2⟩

end Marvin.Gc
