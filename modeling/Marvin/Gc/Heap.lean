import Mathlib.Data.List.Basic

namespace Marvin.Gc

/-- Where a call of `IsOutOfMemoryOnAllocation` stands: before its first load of
`target_footprint_`, at the top of its loop, at its weak compare-exchange, or returned. -/
inductive Pc
  | start
  | loop
  | cas
  | returned (outOfMemory : Bool)
  deriving DecidableEq, Repr

/-- One call of `IsOutOfMemoryOnAllocation`: its arguments (`concurrentGc` for
`AllocatorMayHaveConcurrentGC && IsGcConcurrent()`), its locals, and what its CAS installed. -/
structure Call where
  allocSize : Nat
  grow : Bool
  concurrentGc : Bool
  pc : Pc
  oldTarget : Nat
  oldAllocated : Nat
  installed : Option Nat
  deriving DecidableEq, Repr

/-- The fields of `Heap` the calls share, and the calls. Sizes are `Nat`:
`num_bytes_allocated_ + alloc_size` fits in `size_t`, as callers' object sizes guarantee. -/
structure Heap where
  targetFootprint : Nat
  numBytesAllocated : Nat
  growthLimit : Nat
  calls : List Call
  deriving DecidableEq, Repr

/-- A scheduling choice: call `i` takes its next atomic step, where a weak compare-exchange
fails spuriously if `spurious`; or another thread stores `v` to `num_bytes_allocated_`. -/
inductive Event
  | call (i : Nat) (spurious : Bool)
  | setAllocated (v : Nat)
  deriving DecidableEq, Repr

namespace Heap

/-- One atomic step of `Heap::IsOutOfMemoryOnAllocation` for the call `c`: relaxed loads, and a
weak compare-exchange that reloads `old_target` when it fails. -/
def isOutOfMemoryOnAllocation (h : Heap) (c : Call) (spurious : Bool) : Call × Nat :=
  match c.pc with
  | .start => ({ c with pc := .loop, oldTarget := h.targetFootprint }, h.targetFootprint)
  | .loop =>
    let c := { c with oldAllocated := h.numBytesAllocated }
    let newFootprint := c.oldAllocated + c.allocSize
    if newFootprint ≤ c.oldTarget then ({ c with pc := .returned false }, h.targetFootprint)
    else if newFootprint > h.growthLimit then ({ c with pc := .returned true }, h.targetFootprint)
    else if c.concurrentGc then ({ c with pc := .returned false }, h.targetFootprint)
    else if c.grow then ({ c with pc := .cas }, h.targetFootprint)
    else ({ c with pc := .returned true }, h.targetFootprint)
  | .cas =>
    let newFootprint := c.oldAllocated + c.allocSize
    if h.targetFootprint = c.oldTarget ∧ spurious = false then
      ({ c with pc := .returned false, installed := some newFootprint }, newFootprint)
    else ({ c with pc := .loop, oldTarget := h.targetFootprint }, h.targetFootprint)
  | .returned _ => (c, h.targetFootprint)

def step (h : Heap) : Event → Heap
  | .call i spurious =>
    match h.calls[i]? with
    | none => h
    | some c =>
      let r := h.isOutOfMemoryOnAllocation c spurious
      { h with calls := h.calls.set i r.1, targetFootprint := r.2 }
  | .setAllocated v => { h with numBytesAllocated := v }

/-- The heap after the events `evs`, in order: one interleaving of the calls and the stores. -/
def run (h : Heap) (evs : List Event) : Heap := evs.foldl step h

end Heap

namespace Call

/-- What a call's locals satisfy under the growth limit `g`: after its first load, at its
compare-exchange, and once it has returned false. -/
def Ok (g : Nat) (c : Call) : Prop :=
  (c.pc ≠ .start → c.oldTarget ≤ g) ∧
  (c.pc = .cas → c.oldTarget < c.oldAllocated + c.allocSize ∧
    c.oldAllocated + c.allocSize ≤ g ∧ c.concurrentGc = false) ∧
  (c.pc = .returned false → c.oldAllocated + c.allocSize ≤ g ∧
    (c.concurrentGc = false → c.oldAllocated + c.allocSize ≤ c.oldTarget ∨
      c.installed = some (c.oldAllocated + c.allocSize)))

theorem ok_of_start {g : Nat} {c : Call} (h : c.pc = .start) : c.Ok g := by
  simp [Ok, h]

end Call

namespace Heap

variable {h : Heap}

/-- A step of a call keeps its invariant and leaves `target_footprint_` within the limit. -/
theorem isOutOfMemoryOnAllocation_ok {c : Call} (hc : c.Ok h.growthLimit)
    (ht : h.targetFootprint ≤ h.growthLimit) (spurious : Bool) :
    (h.isOutOfMemoryOnAllocation c spurious).1.Ok h.growthLimit ∧
      (h.isOutOfMemoryOnAllocation c spurious).2 ≤ h.growthLimit := by
  obtain ⟨h1, h2, h3⟩ := hc
  cases hpc : c.pc with
  | start => simp [isOutOfMemoryOnAllocation, hpc, Call.Ok, ht]
  | loop =>
    have := h1 (by simp [hpc])
    simp only [isOutOfMemoryOnAllocation, hpc]
    split_ifs <;> simp [Call.Ok, *] <;> omega
  | cas =>
    obtain ⟨hlt, hle, hcg⟩ := h2 hpc
    simp only [isOutOfMemoryOnAllocation, hpc]
    split_ifs <;> simp [Call.Ok, *]
  | returned r =>
    simp only [isOutOfMemoryOnAllocation, hpc]
    exact ⟨⟨h1, h2, h3⟩, ht⟩

/-- Only a successful compare-exchange changes `target_footprint_`: the target still equals the
call's `old_target`, and the call installs its new footprint and returns false. -/
theorem isOutOfMemoryOnAllocation_target (h : Heap) (c : Call) (spurious : Bool) :
    (h.isOutOfMemoryOnAllocation c spurious).2 = h.targetFootprint ∨
      c.pc = .cas ∧ c.oldTarget = h.targetFootprint ∧ spurious = false ∧
      h.isOutOfMemoryOnAllocation c spurious =
        ({ c with pc := .returned false, installed := some (c.oldAllocated + c.allocSize) },
          c.oldAllocated + c.allocSize) := by
  cases hpc : c.pc with
  | cas =>
    simp only [isOutOfMemoryOnAllocation, hpc]
    split_ifs with hcas
    · exact .inr ⟨trivial, hcas.1.symm, hcas.2, rfl⟩
    · exact .inl rfl
  | loop =>
    simp only [isOutOfMemoryOnAllocation, hpc]
    left
    split_ifs <;> rfl
  | start | returned _ => simp [isOutOfMemoryOnAllocation, hpc]

@[simp] theorem step_growthLimit (h : Heap) (e : Event) :
    (h.step e).growthLimit = h.growthLimit := by
  cases e with
  | call i spurious => simp only [step]; split <;> rfl
  | setAllocated v => rfl

@[simp] theorem run_growthLimit (h : Heap) (evs : List Event) :
    (h.run evs).growthLimit = h.growthLimit := by
  induction evs generalizing h with
  | nil => rfl
  | cons e evs ih => exact (ih (h.step e)).trans (step_growthLimit h e)

theorem run_append (h : Heap) (evs : List Event) (e : Event) :
    h.run (evs ++ [e]) = (h.run evs).step e := by
  simp [run, List.foldl_append]

/-- The invariant of every state of a run: the target is within the growth limit, and each
call's locals are as `Call.Ok` says. -/
structure Inv (h : Heap) : Prop where
  target_le : h.targetFootprint ≤ h.growthLimit
  calls_ok : ∀ c ∈ h.calls, c.Ok h.growthLimit

theorem Inv.step (hi : h.Inv) (e : Event) : (h.step e).Inv := by
  cases e with
  | setAllocated v => exact ⟨hi.target_le, hi.calls_ok⟩
  | call i spurious =>
    simp only [Heap.step]
    split
    · exact hi
    · rename_i c hc
      obtain ⟨hok, hle⟩ :=
        isOutOfMemoryOnAllocation_ok (hi.calls_ok c (List.getElem?_mem hc)) hi.target_le spurious
      refine ⟨hle, fun d hd => ?_⟩
      rcases List.mem_or_eq_of_mem_set hd with hd | rfl
      · exact hi.calls_ok d hd
      · exact hok

theorem Inv.run (hi : h.Inv) (evs : List Event) : (h.run evs).Inv := by
  induction evs generalizing h with
  | nil => exact hi
  | cons e evs ih => exact ih (hi.step e)

end Heap

open Heap

/-- Over any interleaving of calls and stores to `num_bytes_allocated_`, only a successful CAS
raises `target_footprint_`, within the limit, and a call returning false read a fitting count. -/
theorem footprint_raised_only_by_cas (h0 : Heap) (htarget : h0.targetFootprint ≤ h0.growthLimit)
    (hstart : ∀ c ∈ h0.calls, c.pc = .start) (evs : List Event) (e : Event) :
    ((h0.run (evs ++ [e])).targetFootprint ≠ (h0.run evs).targetFootprint →
      ∃ i c, e = .call i false ∧ (h0.run evs).calls[i]? = some c ∧ c.pc = .cas ∧
        c.oldTarget = (h0.run evs).targetFootprint ∧
        (h0.run (evs ++ [e])).targetFootprint = c.oldAllocated + c.allocSize ∧
        (h0.run evs).targetFootprint < (h0.run (evs ++ [e])).targetFootprint ∧
        (h0.run (evs ++ [e])).targetFootprint ≤ h0.growthLimit ∧
        (h0.run (evs ++ [e])).calls[i]? =
          some { c with pc := .returned false, installed := some (c.oldAllocated + c.allocSize) }) ∧
    ∀ c ∈ (h0.run evs).calls, c.pc = .returned false →
      c.oldAllocated + c.allocSize ≤ h0.growthLimit ∧
      (c.concurrentGc = false → c.oldAllocated + c.allocSize ≤ c.oldTarget ∨
        c.installed = some (c.oldAllocated + c.allocSize)) := by
  have hi : (h0.run evs).Inv :=
    Inv.run ⟨htarget, fun c hc => Call.ok_of_start (hstart c hc)⟩ evs
  rw [run_append, ← run_growthLimit h0 evs]
  refine ⟨fun hne => ?_, fun c hc => (hi.calls_ok c hc).2.2⟩
  generalize h0.run evs = h at hi hne ⊢
  cases e with
  | setAllocated v => exact absurd rfl hne
  | call i spurious =>
    simp only [step] at hne ⊢
    split at hne
    · exact absurd rfl hne
    · rename_i c hc
      rcases isOutOfMemoryOnAllocation_target h c spurious with heq | ⟨hpc, hot, rfl, hv⟩
      · exact absurd heq hne
      · obtain ⟨hlt, hle, -⟩ := (hi.calls_ok c (List.getElem?_mem hc)).2.1 hpc
        have hlen : i < h.calls.length := (List.getElem?_eq_some_iff.mp hc).1
        refine ⟨i, c, rfl, hc, hpc, hot, ?_⟩
        simp only [hc, hv, List.getElem?_set_self hlen]
        exact ⟨trivial, hot ▸ hlt, hle, trivial⟩

/-- One growing call: it loads the target 4, reads 3 allocated bytes, and installs 3 + 2. -/
theorem lone_call_installs_footprint :
    ((⟨4, 3, 10, [⟨2, true, false, .start, 0, 0, none⟩]⟩ : Heap).run
      [.call 0 false, .call 0 false, .call 0 false]).targetFootprint = 5 ∧
    ∀ c ∈ ((⟨4, 3, 10, [⟨2, true, false, .start, 0, 0, none⟩]⟩ : Heap).run
        [.call 0 false, .call 0 false, .call 0 false]).calls, c.pc = .returned false →
      c.oldAllocated + c.allocSize ≤ 10 ∧ (c.concurrentGc = false →
        c.oldAllocated + c.allocSize ≤ c.oldTarget ∨
          c.installed = some (c.oldAllocated + c.allocSize)) :=
  ⟨by decide,
    (footprint_raised_only_by_cas _ (by decide) (by decide) _ (.call 0 false)).2⟩

/-- Steps a call has left before it returns when no compare-exchange fails. -/
def Pc.toGo : Pc → Nat
  | .start => 3
  | .loop => 2
  | .cas => 1
  | .returned _ => 0

theorem Pc.toGo_le (p : Pc) : p.toGo ≤ 3 := by
  cases p <;> simp [toGo]

namespace Heap

/-- What `IsOutOfMemoryOnAllocation` computes when no other thread touches the heap between its
loads and its compare-exchange: the result, and `target_footprint_` after the call. -/
def isOutOfMemoryOnAllocationAtomic (h : Heap) (allocSize : Nat) (concurrentGc grow : Bool) :
    Bool × Nat :=
  let newFootprint := h.numBytesAllocated + allocSize
  if newFootprint ≤ h.targetFootprint then (false, h.targetFootprint)
  else if newFootprint > h.growthLimit then (true, h.targetFootprint)
  else if concurrentGc then (false, h.targetFootprint)
  else if grow then (false, newFootprint)
  else (true, h.targetFootprint)

/-- From a target within the limit, the atomic function leaves the target within the limit, and
it passes a request only when the count with the request fits under the limit. -/
theorem isOutOfMemoryOnAllocationAtomic_le (h : Heap) (allocSize : Nat) (concurrentGc grow : Bool)
    (ht : h.targetFootprint ≤ h.growthLimit) :
    (h.isOutOfMemoryOnAllocationAtomic allocSize concurrentGc grow).2 ≤ h.growthLimit ∧
      ((h.isOutOfMemoryOnAllocationAtomic allocSize concurrentGc grow).1 = false →
        h.numBytesAllocated + allocSize ≤ h.growthLimit) := by
  simp only [isOutOfMemoryOnAllocationAtomic]
  split_ifs <;> simp <;> omega

/-- A step of a call changes only its program counter and its locals. -/
theorem isOutOfMemoryOnAllocation_fst (h : Heap) (c : Call) (b : Bool) :
    ∃ p t a i, (h.isOutOfMemoryOnAllocation c b).1 =
      { c with pc := p, oldTarget := t, oldAllocated := a, installed := i } := by
  unfold isOutOfMemoryOnAllocation
  split <;> dsimp only <;> (repeat' split) <;> exact ⟨_, _, _, _, rfl⟩

@[simp] theorem isOutOfMemoryOnAllocation_allocSize (h : Heap) (c : Call) (b : Bool) :
    (h.isOutOfMemoryOnAllocation c b).1.allocSize = c.allocSize := by
  obtain ⟨_, _, _, _, he⟩ := isOutOfMemoryOnAllocation_fst h c b
  rw [he]

@[simp] theorem isOutOfMemoryOnAllocation_grow (h : Heap) (c : Call) (b : Bool) :
    (h.isOutOfMemoryOnAllocation c b).1.grow = c.grow := by
  obtain ⟨_, _, _, _, he⟩ := isOutOfMemoryOnAllocation_fst h c b
  rw [he]

@[simp] theorem isOutOfMemoryOnAllocation_concurrentGc (h : Heap) (c : Call) (b : Bool) :
    (h.isOutOfMemoryOnAllocation c b).1.concurrentGc = c.concurrentGc := by
  obtain ⟨_, _, _, _, he⟩ := isOutOfMemoryOnAllocation_fst h c b
  rw [he]

theorem step_lone (T N G : Nat) (c : Call) (b : Bool) :
    (⟨T, N, G, [c]⟩ : Heap).step (.call 0 b) =
      ⟨((⟨T, N, G, [c]⟩ : Heap).isOutOfMemoryOnAllocation c b).2, N, G,
        [((⟨T, N, G, [c]⟩ : Heap).isOutOfMemoryOnAllocation c b).1]⟩ := rfl

/-- The states a lone call started on `h0` with the arguments of `c0` passes through, one disjunct
per program counter. -/
def LoneCall (h0 : Heap) (c0 : Call) (h : Heap) : Prop :=
  h.numBytesAllocated = h0.numBytesAllocated ∧ h.growthLimit = h0.growthLimit ∧
    ∃ c, h.calls = [c] ∧ c.allocSize = c0.allocSize ∧ c.grow = c0.grow ∧
      c.concurrentGc = c0.concurrentGc ∧
      ((c.pc = .start ∧ h.targetFootprint = h0.targetFootprint) ∨
       (c.pc = .loop ∧ h.targetFootprint = h0.targetFootprint ∧ c.oldTarget = h0.targetFootprint) ∨
       (c.pc = .cas ∧ h.targetFootprint = h0.targetFootprint ∧ c.oldTarget = h0.targetFootprint ∧
         c.oldAllocated = h0.numBytesAllocated ∧
         h0.isOutOfMemoryOnAllocationAtomic c0.allocSize c0.concurrentGc c0.grow =
           (false, h0.numBytesAllocated + c0.allocSize)) ∨
       (c.pc = .returned (h0.isOutOfMemoryOnAllocationAtomic c0.allocSize c0.concurrentGc c0.grow).1 ∧
         h.targetFootprint = (h0.isOutOfMemoryOnAllocationAtomic c0.allocSize c0.concurrentGc c0.grow).2))

section LoneCall

variable {h0 h : Heap} {c0 : Call}

theorem LoneCall.step (hl : LoneCall h0 c0 h) (b : Bool) : LoneCall h0 c0 (h.step (.call 0 b)) := by
  obtain ⟨T0, N0, G0, calls0⟩ := h0
  obtain ⟨T, N, G, calls⟩ := h
  obtain ⟨hn, hg, c, rfl, ha, hgr, hcg, hst⟩ := hl
  simp only at hn hg hst ⊢
  subst hn hg
  rw [step_lone]
  refine ⟨rfl, rfl, _, rfl, by simp [ha], by simp [hgr], by simp [hcg], ?_⟩
  rw [← ha, ← hgr, ← hcg] at hst ⊢
  rcases hst with ⟨hpc, rfl⟩ | ⟨hpc, rfl, hot⟩ | ⟨hpc, rfl, hot, hoa, hat⟩ | ⟨hpc, ht⟩
  · simp [isOutOfMemoryOnAllocation, hpc]
  · simp only [isOutOfMemoryOnAllocation, hpc, isOutOfMemoryOnAllocationAtomic, hot]
    by_cases h1 : N + c.allocSize ≤ T
    · simp [h1]
    by_cases h2 : N + c.allocSize > G
    · simp [h1, h2]
    cases hc : c.concurrentGc <;> cases hw : c.grow <;> simp [h1, h2, hc, hw]
  · simp only [isOutOfMemoryOnAllocation, hpc, hot, hoa]
    split_ifs <;> simp [hat]
  · simp [isOutOfMemoryOnAllocation, hpc, ht]

theorem LoneCall.run (hl : LoneCall h0 c0 h) (evs : List Event)
    (hevs : ∀ e ∈ evs, ∃ b, e = .call 0 b) : LoneCall h0 c0 (h.run evs) := by
  induction evs generalizing h with
  | nil => exact hl
  | cons e evs ih =>
    obtain ⟨b, rfl⟩ := hevs e (List.mem_cons_self _ _)
    exact ih (hl.step b) fun e he => hevs e (List.mem_cons_of_mem _ he)

/-- A step without a spurious failure brings a lone call one step nearer to returning. -/
theorem LoneCall.toGo_step (hl : LoneCall h0 c0 h) :
    ∃ c c', h.calls = [c] ∧ (h.step (.call 0 false)).calls = [c'] ∧ c'.pc.toGo ≤ c.pc.toGo - 1 := by
  obtain ⟨T, N, G, calls⟩ := h
  obtain ⟨-, -, c, hc, -, -, -, hst⟩ := hl
  simp only at hc hst
  subst hc
  refine ⟨c, _, rfl, by rw [step_lone], ?_⟩
  rcases hst with ⟨hpc, -⟩ | ⟨hpc, -⟩ | ⟨hpc, ht, hot, -⟩ | ⟨hpc, -⟩
  · simp [isOutOfMemoryOnAllocation, hpc, Pc.toGo]
  · simp only [isOutOfMemoryOnAllocation, hpc]
    split_ifs <;> simp [Pc.toGo]
  · simp [isOutOfMemoryOnAllocation, hpc, ht, hot, Pc.toGo]
  · simp [isOutOfMemoryOnAllocation, hpc, Pc.toGo]

theorem LoneCall.run_toGo (hl : LoneCall h0 c0 h) (k : Nat) :
    ∃ c c', h.calls = [c] ∧ (h.run (List.replicate k (.call 0 false))).calls = [c'] ∧
      c'.pc.toGo ≤ c.pc.toGo - k := by
  induction k generalizing h with
  | zero => obtain ⟨-, -, c, hc, -⟩ := hl; exact ⟨c, c, hc, hc, le_rfl⟩
  | succ k ih =>
    obtain ⟨c, c1, hc, hc1, hlt⟩ := hl.toGo_step
    obtain ⟨c1', c', hc1', hc', hle⟩ := ih (hl.step false)
    rw [hc1, List.cons.injEq] at hc1'
    obtain ⟨rfl, -⟩ := hc1'
    exact ⟨c, c', hc, hc', by omega⟩

end LoneCall

end Heap

/-- A lone call of `IsOutOfMemoryOnAllocation` refines `isOutOfMemoryOnAllocationAtomic` under any
schedule of its own steps, and three steps without a spurious failure make it return. -/
theorem lone_call_refines_atomic (h0 : Heap) (c0 : Call) (hcalls : h0.calls = [c0])
    (hpc : c0.pc = .start) (evs : List Event) (hevs : ∀ e ∈ evs, ∃ b, e = .call 0 b) :
    (∃ c, (h0.run evs).calls = [c] ∧
      ((c.pc = .returned (h0.isOutOfMemoryOnAllocationAtomic c0.allocSize c0.concurrentGc c0.grow).1 ∧
        (h0.run evs).targetFootprint =
          (h0.isOutOfMemoryOnAllocationAtomic c0.allocSize c0.concurrentGc c0.grow).2) ∨
       ((∀ r, c.pc ≠ .returned r) ∧ (h0.run evs).targetFootprint = h0.targetFootprint))) ∧
    ∃ c, (h0.run (evs ++ List.replicate 3 (.call 0 false))).calls = [c] ∧
      c.pc = .returned (h0.isOutOfMemoryOnAllocationAtomic c0.allocSize c0.concurrentGc c0.grow).1 ∧
      (h0.run (evs ++ List.replicate 3 (.call 0 false))).targetFootprint =
        (h0.isOutOfMemoryOnAllocationAtomic c0.allocSize c0.concurrentGc c0.grow).2 := by
  have hi : LoneCall h0 c0 (h0.run evs) :=
    LoneCall.run ⟨rfl, rfl, c0, hcalls, rfl, rfl, rfl, .inl ⟨hpc, rfl⟩⟩ evs hevs
  refine ⟨?_, ?_⟩
  · obtain ⟨-, -, c, hc, -, -, -, hst⟩ := hi
    refine ⟨c, hc, ?_⟩
    rcases hst with ⟨hp, ht⟩ | ⟨hp, ht, -⟩ | ⟨hp, ht, -⟩ | hret
    · exact .inr ⟨by simp [hp], ht⟩
    · exact .inr ⟨by simp [hp], ht⟩
    · exact .inr ⟨by simp [hp], ht⟩
    · exact .inl hret
  · have hrun : h0.run (evs ++ List.replicate 3 (.call 0 false)) =
        (h0.run evs).run (List.replicate 3 (.call 0 false)) := List.foldl_append _ _ _ _
    obtain ⟨c1, c', -, hc', hle⟩ := hi.run_toGo 3
    obtain ⟨-, -, c, hc, -, -, -, hst⟩ := hi.run (List.replicate 3 (.call 0 false)) (by simp)
    rw [hc', List.cons.injEq] at hc
    obtain ⟨rfl, -⟩ := hc
    rw [hrun]
    have hdone : c'.pc.toGo = 0 := by have := c1.pc.toGo_le; omega
    rcases hst with ⟨hp, -⟩ | ⟨hp, -⟩ | ⟨hp, -⟩ | ⟨hp, ht⟩
    · simp [hp, Pc.toGo] at hdone
    · simp [hp, Pc.toGo] at hdone
    · simp [hp, Pc.toGo] at hdone
    · exact ⟨c', hc', hp, ht⟩

/-- A lone growing call reads 3 allocated bytes against the target 4, fails its first
compare-exchange spuriously, and then installs 3 + 2 as the atomic function does. -/
theorem lone_call_spurious_failure_installs :
    ((⟨4, 3, 10, [⟨2, true, false, .start, 0, 0, none⟩]⟩ : Heap).run
      ([.call 0 false, .call 0 false, .call 0 true] ++ List.replicate 3 (.call 0 false))).targetFootprint =
      ((⟨4, 3, 10, [⟨2, true, false, .start, 0, 0, none⟩]⟩ : Heap).isOutOfMemoryOnAllocationAtomic
        2 false true).2 :=
  let ⟨_, _, _, ht⟩ := (lone_call_refines_atomic _ _ rfl rfl [.call 0 false, .call 0 false, .call 0 true]
    (by simp)).2
  ht

end Marvin.Gc
