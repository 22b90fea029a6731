import Marvin.Jni.GlobalRefs

namespace Marvin.Jni

/-- The fields of `JavaVMExt` that `CheckGlobalRefAllocationTracking` reads and writes, and the
heap's `IsAllocTrackingEnabled()`. -/
structure Tracking where
  enableAllocationTrackingDelta : Nat
  allocationTrackingEnabled : Bool
  oldAllocationTrackingState : Bool
  allocTrackingEnabled : Bool
  deriving DecidableEq, Repr

namespace Tracking

/-- The fields as the `JavaVMExt` constructor leaves them: the delta is the
`GlobalRefAllocStackTraceLimit` option, and the heap tracks allocations or not. -/
def init (delta : Nat) (allocTrackingEnabled : Bool) : Tracking :=
  ⟨delta, false, false, allocTrackingEnabled⟩

/-- `CheckGlobalRefAllocationTracking`, given `globals_.FreeCapacity()`. -/
def checkGlobalRefAllocationTracking (t : Tracking) (simpleFreeCapacity : Nat) : Tracking :=
  if t.enableAllocationTrackingDelta = 0 then t
  else if simpleFreeCapacity ≤ t.enableAllocationTrackingDelta then
    if !t.allocationTrackingEnabled then
      { t with
        oldAllocationTrackingState := t.allocTrackingEnabled
        allocTrackingEnabled := if !t.allocTrackingEnabled then true else t.allocTrackingEnabled
        allocationTrackingEnabled := true }
    else t
  else if t.allocationTrackingEnabled then
    { t with
      allocTrackingEnabled := if !t.oldAllocationTrackingState then false else t.allocTrackingEnabled
      allocationTrackingEnabled := false }
  else t

@[simp] theorem checkGlobalRefAllocationTracking_delta (t : Tracking) (c : Nat) :
    (t.checkGlobalRefAllocationTracking c).enableAllocationTrackingDelta =
      t.enableAllocationTrackingDelta := by
  unfold checkGlobalRefAllocationTracking
  split_ifs <;> rfl

theorem checkGlobalRefAllocationTracking_of_delta_zero {t : Tracking}
    (hd : t.enableAllocationTrackingDelta = 0) (c : Nat) :
    t.checkGlobalRefAllocationTracking c = t := by
  simp [checkGlobalRefAllocationTracking, hd]

theorem checkGlobalRefAllocationTracking_enabled {t : Tracking}
    (hd : 0 < t.enableAllocationTrackingDelta) (c : Nat) :
    (t.checkGlobalRefAllocationTracking c).allocationTrackingEnabled =
      decide (c ≤ t.enableAllocationTrackingDelta) := by
  unfold checkGlobalRefAllocationTracking
  split_ifs <;> simp_all

/-- The heap tracks allocations as it did before the VM first touched it (`heap0`), or because
the VM's own tracking is on; and while that is on, the state the VM saved is `heap0`. -/
structure Restores (heap0 : Bool) (t : Tracking) : Prop where
  heap_eq : t.allocTrackingEnabled = (heap0 || t.allocationTrackingEnabled)
  saved_eq : t.allocationTrackingEnabled = true → t.oldAllocationTrackingState = heap0

theorem restores_init (delta : Nat) (heap0 : Bool) : Restores heap0 (init delta heap0) :=
  ⟨by simp [init], nofun⟩

theorem Restores.check {heap0 : Bool} {t : Tracking} (h : Restores heap0 t) (c : Nat) :
    Restores heap0 (t.checkGlobalRefAllocationTracking c) := by
  obtain ⟨heap_eq, saved_eq⟩ := h
  unfold checkGlobalRefAllocationTracking
  split_ifs <;> constructor <;> simp_all

end Tracking

/-- The global-reference model of `JavaVMExt` with its allocation-tracking fields. -/
structure TrackedVm where
  state : State
  tracking : Tracking

/-- The state `JavaVMExt`'s constructor leaves, over the tables and flags `s`. -/
def TrackedVm.init (s : State) (delta : Nat) (allocTrackingEnabled : Bool) : TrackedVm :=
  ⟨s, Tracking.init delta allocTrackingEnabled⟩

/-- The calls after which `AddGlobalRef` and `DeleteGlobalRef` run
`CheckGlobalRefAllocationTracking`: the non-null ones, since a null one returns first. -/
def Call.checksAllocationTracking : Call → Bool
  | .addGlobalRef (some _) | .deleteGlobalRef (some _) => true
  | _ => false

/-- One call and, after it, the allocation-tracking check, which reads the `FreeCapacity` of the
global table the call leaves (outside src/). -/
def runCallTracked (cleared : Nat) (freeCapacity : List (Option Nat) → Nat) (v : TrackedVm)
    (c : Call) : TrackedVm :=
  let s := runCall cleared v.state c
  ⟨s, if c.checksAllocationTracking then
      v.tracking.checkGlobalRefAllocationTracking (freeCapacity s.vm.globals)
    else v.tracking⟩

def runCallsTracked (cleared : Nat) (freeCapacity : List (Option Nat) → Nat) (v : TrackedVm)
    (calls : List Call) : TrackedVm :=
  calls.foldl (runCallTracked cleared freeCapacity) v

section Runs

variable (cleared : Nat) (freeCapacity : List (Option Nat) → Nat)

theorem runCallsTracked_append (v : TrackedVm) (calls calls' : List Call) :
    runCallsTracked cleared freeCapacity v (calls ++ calls') =
      runCallsTracked cleared freeCapacity (runCallsTracked cleared freeCapacity v calls) calls' :=
  List.foldl_append _ _ _ _

/-- The tracking fields never change what the tables and flags do. -/
theorem runCallsTracked_state (v : TrackedVm) (calls : List Call) :
    (runCallsTracked cleared freeCapacity v calls).state = runCalls cleared v.state calls := by
  induction calls generalizing v with
  | nil => rfl
  | cons c cs ih => exact ih _

theorem runCallsTracked_delta (v : TrackedVm) (calls : List Call) :
    (runCallsTracked cleared freeCapacity v calls).tracking.enableAllocationTrackingDelta =
      v.tracking.enableAllocationTrackingDelta := by
  induction calls generalizing v with
  | nil => rfl
  | cons c cs ih =>
    refine (ih _).trans ?_
    simp only [runCallTracked]
    split <;> simp

theorem Tracking.Restores.run {heap0 : Bool} {v : TrackedVm} (h : v.tracking.Restores heap0)
    (calls : List Call) : (runCallsTracked cleared freeCapacity v calls).tracking.Restores heap0 := by
  induction calls generalizing v with
  | nil => exact h
  | cons c cs ih =>
    refine ih ?_
    simp only [runCallTracked]
    split
    exacts [h.check _, h]

theorem runCallsTracked_of_delta_zero {v : TrackedVm}
    (hd : v.tracking.enableAllocationTrackingDelta = 0) (calls : List Call) :
    (runCallsTracked cleared freeCapacity v calls).tracking = v.tracking := by
  induction calls generalizing v with
  | nil => rfl
  | cons c cs ih =>
    have hstep : (runCallTracked cleared freeCapacity v c).tracking = v.tracking := by
      simp only [runCallTracked]
      split
      exacts [Tracking.checkGlobalRefAllocationTracking_of_delta_zero hd _, rfl]
    exact (ih (hstep ▸ hd)).trans hstep

end Runs

end Marvin.Jni
