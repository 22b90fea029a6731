import Mathlib.Data.List.Basic
import Mathlib.Algebra.Order.Ring.Nat

namespace Marvin.Space

def kPageSize : Nat := 4096

/-- A computation of a space under its lock: its release-build value, whether its `CHECK`s and
`DCHECK`s held, and the addresses it passed to `GcRecordFree`, in order. -/
@[ext]
structure Checked (α : Type) where
  val : α
  checks : Bool
  dchecks : Bool
  freed : List Nat

namespace Checked

instance : Monad Checked where
  pure a := ⟨a, true, true, []⟩
  bind x f :=
    ⟨(f x.val).val, x.checks && (f x.val).checks, x.dchecks && (f x.val).dchecks,
      x.freed ++ (f x.val).freed⟩

@[simp] theorem val_pure {α : Type} (a : α) : (pure a : Checked α).val = a := rfl
@[simp] theorem checks_pure {α : Type} (a : α) : (pure a : Checked α).checks = true := rfl
@[simp] theorem dchecks_pure {α : Type} (a : α) : (pure a : Checked α).dchecks = true := rfl
@[simp] theorem freed_pure {α : Type} (a : α) : (pure a : Checked α).freed = [] := rfl

@[simp] theorem val_bind {α β : Type} (x : Checked α) (f : α → Checked β) :
    (x >>= f).val = (f x.val).val := rfl
@[simp] theorem checks_bind {α β : Type} (x : Checked α) (f : α → Checked β) :
    (x >>= f).checks = (x.checks && (f x.val).checks) := rfl
@[simp] theorem dchecks_bind {α β : Type} (x : Checked α) (f : α → Checked β) :
    (x >>= f).dchecks = (x.dchecks && (f x.val).dchecks) := rfl
@[simp] theorem freed_bind {α β : Type} (x : Checked α) (f : α → Checked β) :
    (x >>= f).freed = x.freed ++ (f x.val).freed := rfl

end Checked

def check (c : Bool) : Checked Unit := ⟨(), c, true, []⟩
def dcheck (c : Bool) : Checked Unit := ⟨(), true, c, []⟩

/-- `niel::swap::GcRecordFree(self, obj)`, the swap runtime's free hook. -/
def gcRecordFree (obj : Nat) : Checked Unit := ⟨(), true, true, [obj]⟩

@[simp] theorem check_val (c : Bool) : (check c).val = () := rfl
@[simp] theorem check_checks (c : Bool) : (check c).checks = c := rfl
@[simp] theorem check_dchecks (c : Bool) : (check c).dchecks = true := rfl
@[simp] theorem check_freed (c : Bool) : (check c).freed = [] := rfl
@[simp] theorem dcheck_val (c : Bool) : (dcheck c).val = () := rfl
@[simp] theorem dcheck_checks (c : Bool) : (dcheck c).checks = true := rfl
@[simp] theorem dcheck_dchecks (c : Bool) : (dcheck c).dchecks = c := rfl
@[simp] theorem dcheck_freed (c : Bool) : (dcheck c).freed = [] := rfl
@[simp] theorem gcRecordFree_checks (obj : Nat) : (gcRecordFree obj).checks = true := rfl
@[simp] theorem gcRecordFree_dchecks (obj : Nat) : (gcRecordFree obj).dchecks = true := rfl
@[simp] theorem gcRecordFree_freed (obj : Nat) : (gcRecordFree obj).freed = [obj] := rfl

/-- `RoundUp(x, n)`. -/
def roundUp (x n : Nat) : Nat := (x + n - 1) / n * n

/-- What `Alloc` returns, with what it stores through `bytes_allocated`, `usable_size` and
`bytes_tl_bulk_allocated`. -/
structure Allocation where
  obj : Nat
  bytesAllocated : Nat
  usableSize : Nat
  bytesTlBulkAllocated : Nat
  deriving DecidableEq, Repr

/-- The accounting every large object space keeps, and its current bounds. -/
structure LargeObjectSpace where
  numBytesAllocated : Nat
  numObjectsAllocated : Nat
  totalBytesAllocated : Nat
  totalObjectsAllocated : Nat
  begin_ : Nat
  end_ : Nat
  deriving DecidableEq, Repr

/-- `LargeObjectSpace::Contains`. -/
def LargeObjectSpace.contains (s : LargeObjectSpace) (obj : Nat) : Bool :=
  s.begin_ ≤ obj && obj < s.end_

/-- `LargeObjectSpace::FreeList` over a space whose `Free` is `free`: the total of the
sizes `Free` returns. -/
def freeList {σ : Type} (free : σ → Nat → Checked (Nat × σ)) (s : σ) : List Nat → Checked (Nat × σ)
  | [] => pure (0, s)
  | p :: ps => do
    let (n, s) ← free s p
    let (t, s) ← freeList free s ps
    pure (n + t, s)

/-- `LargeObjectSpace::SweepCallback` on one batch of pointers: the context's freed
(objects, bytes) grow by the batch size and by what `FreeList` returns. -/
def sweepCallback {σ : Type} (free : σ → Nat → Checked (Nat × σ)) (freed : Nat × Nat) (s : σ)
    (ptrs : List Nat) : Checked ((Nat × Nat) × σ) := do
  let (bytes, s) ← freeList free s ptrs
  pure ((freed.1 + ptrs.length, freed.2 + bytes), s)

/-- `LargeObjectSpace::Sweep`, given the batches of dead objects that
`LargeObjectBitmap::SweepWalk` hands to the callback. -/
def sweep {σ : Type} (free : σ → Nat → Checked (Nat × σ)) (isEmpty : Bool) (s : σ) :
    List (List Nat) → Checked ((Nat × Nat) × σ)
  | batches =>
    if isEmpty then pure ((0, 0), s)
    else batches.foldlM (fun (acc : (Nat × Nat) × σ) ptrs => sweepCallback free acc.1 acc.2 ptrs)
      ((0, 0), s)

end Marvin.Space
