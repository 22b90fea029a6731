import Mathlib.Data.List.Basic

namespace Marvin.Jni.Libraries

inductive JniOnLoadState
  | kPending
  | kFailed
  | kOkay
  deriving DecidableEq, Repr

structure SharedLibrary where
  classLoaderAllocator : Nat
  jniOnLoadThreadId : Nat
  jniOnLoadResult : JniOnLoadState
  deriving DecidableEq, Repr

/-- Where a call of `JavaVMExt::LoadNativeLibrary` for the path is. -/
inductive LoadPc
  | start
  | loaded
  | opening
  | registering
  | runningOnLoad
  | checking
  | returned (ok : Bool)
  deriving DecidableEq, Repr

structure Caller where
  threadId : Nat
  classLoaderAllocator : Nat
  pc : LoadPc
  deriving DecidableEq, Repr

/-- `libraries_` restricted to the path, the calls in flight, and how many times
`libraries_->Put` and `JNI_OnLoad` have been called. -/
structure State where
  library : Option SharedLibrary
  callers : List Caller
  puts : Nat
  onLoadCalls : Nat
  deriving DecidableEq, Repr

/-- `SharedLibrary::CheckOnLoadResult`: `none` while it waits on the condition variable. -/
def checkOnLoadResult (lib : SharedLibrary) (self : Nat) : Option Bool :=
  if lib.jniOnLoadThreadId = self then some true
  else if lib.jniOnLoadResult = .kPending then none
  else some (lib.jniOnLoadResult = .kOkay)

/-- `SharedLibrary::SetResult`. -/
def SharedLibrary.setResult (lib : SharedLibrary) (result : Bool) : SharedLibrary :=
  { lib with jniOnLoadResult := if result then .kOkay else .kFailed, jniOnLoadThreadId := 0 }

/-- One step of a caller: `dlopenOk` is what `OpenNativeLibrary` returns, and `onLoad` whether
`JNI_OnLoad` exists and its version was accepted. -/
def callerStep (s : State) (c : Caller) (dlopenOk : Bool) (onLoad : Option Bool) :
    State × LoadPc :=
  match c.pc with
  | .start => (s, if s.library.isSome then .loaded else .opening)
  | .loaded =>
    match s.library with
    | some lib => (s, if lib.classLoaderAllocator ≠ c.classLoaderAllocator then .returned false
        else .checking)
    | none => (s, .loaded)
  | .opening => (s, if dlopenOk then .registering else .returned false)
  | .registering =>
    match s.library with
    | none =>
      ({ s with library := some ⟨c.classLoaderAllocator, c.threadId, .kPending⟩, puts := s.puts + 1 },
        .runningOnLoad)
    | some _ => (s, .checking)
  | .runningOnLoad =>
    let ok := onLoad.getD true
    ({ s with library := s.library.map (·.setResult ok),
              onLoadCalls := s.onLoadCalls + (if onLoad.isSome then 1 else 0) }, .returned ok)
  | .checking =>
    match s.library with
    | some lib =>
      match checkOnLoadResult lib c.threadId with
      | some ok => (s, .returned ok)
      | none => (s, .checking)
    | none => (s, .checking)
  | .returned ok => (s, .returned ok)

inductive Event
  | step (i : Nat) (dlopenOk : Bool) (onLoad : Option Bool)

def step (s : State) : Event → State
  | .step i dlopenOk onLoad =>
    match s.callers[i]? with
    | none => s
    | some c =>
      let r := callerStep s c dlopenOk onLoad
      { r.1 with callers := s.callers.set i { c with pc := r.2 } }

def run (s : State) (evs : List Event) : State := evs.foldl step s

/-- No library loaded yet and every call at its start. -/
def initial (callers : List Caller) : State :=
  ⟨none, callers.map fun c => { c with pc := .start }, 0, 0⟩

def runningCount (l : List Caller) : Nat := l.countP fun c => c.pc = .runningOnLoad

/-- At most one `Put` happened, exactly when a library is registered, and every `JNI_OnLoad`
call or caller about to make one used up a `Put` of its own. -/
structure LoadInv (s : State) : Prop where
  registered : (s.library = none ∧ s.puts = 0) ∨ (s.library.isSome ∧ s.puts = 1)
  onLoad : s.onLoadCalls + runningCount s.callers ≤ s.puts

theorem runningCount_set (l : List Caller) (i : Nat) (c : Caller) (pc : LoadPc)
    (h : l[i]? = some c) :
    runningCount (l.set i { c with pc := pc }) + (if c.pc = .runningOnLoad then 1 else 0) =
      runningCount l + (if pc = .runningOnLoad then 1 else 0) := by
  obtain ⟨hi, rfl⟩ := List.getElem?_eq_some_iff.mp h
  have hle : (if l[i].pc = .runningOnLoad then 1 else 0) ≤ runningCount l := by
    split
    · exact List.countP_pos_iff.mpr ⟨l[i], List.getElem_mem hi, by simpa⟩
    · exact Nat.zero_le _
  simp only [runningCount, List.countP_set _ _ _ _ hi, decide_eq_true_eq] at hle ⊢
  omega

/-- What one step of a caller can do to the shared state: nothing, register the library
(entering `JNI_OnLoad`), or finish `JNI_OnLoad`. -/
theorem callerStep_cases (s : State) (c : Caller) (dlopenOk : Bool) (onLoad : Option Bool) :
    ((callerStep s c dlopenOk onLoad).1 = s ∧
      ((callerStep s c dlopenOk onLoad).2 = .runningOnLoad ↔ c.pc = .runningOnLoad)) ∨
    (s.library = none ∧ c.pc = .registering ∧
      (callerStep s c dlopenOk onLoad).2 = .runningOnLoad ∧
      (callerStep s c dlopenOk onLoad).1.library.isSome ∧
      (callerStep s c dlopenOk onLoad).1.puts = s.puts + 1 ∧
      (callerStep s c dlopenOk onLoad).1.onLoadCalls = s.onLoadCalls) ∨
    (c.pc = .runningOnLoad ∧ (callerStep s c dlopenOk onLoad).2 ≠ .runningOnLoad ∧
      (callerStep s c dlopenOk onLoad).1.library.isSome = s.library.isSome ∧
      (callerStep s c dlopenOk onLoad).1.puts = s.puts ∧
      (callerStep s c dlopenOk onLoad).1.onLoadCalls ≤ s.onLoadCalls + 1) := by
  unfold callerStep
  cases hpc : c.pc with
  | registering =>
    cases hl : s.library with
    | none => simp
    | some lib => simp
  | runningOnLoad =>
    right; right
    cases onLoad <;> cases s.library <;> simp
  | start | opening => left; simp; split <;> simp
  | returned ok => left; simp
  | loaded | checking => left; (repeat' split) <;> simp_all

theorem step_inv {s : State} (h : LoadInv s) (e : Event) : LoadInv (step s e) := by
  obtain ⟨i, dlopenOk, onLoad⟩ := e
  cases hc : s.callers[i]? with
  | none => simpa [step, hc] using h
  | some c =>
    obtain ⟨hreg, hon⟩ := h
    have hset := runningCount_set s.callers i c (callerStep s c dlopenOk onLoad).2 hc
    have hcases := callerStep_cases s c dlopenOk onLoad
    simp only [step, hc]
    generalize callerStep s c dlopenOk onLoad = r at *
    obtain ⟨st, pc⟩ := r
    simp only at hset hcases ⊢
    rcases hcases with ⟨rfl, h2⟩ | ⟨hl, hpc, rfl, h3, h4, h5⟩ | ⟨hpc, h2, h3, h4, h5⟩
    · refine ⟨hreg, ?_⟩
      by_cases hr : c.pc = .runningOnLoad
      · rw [if_pos hr, if_pos (h2.mpr hr)] at hset
        simp only
        omega
      · rw [if_neg hr, if_neg (mt h2.mp hr)] at hset
        simp only
        omega
    · rw [hl] at hreg
      simp only [true_and, Option.isSome_none, Bool.false_eq_true, false_and, or_false] at hreg
      rw [hpc, if_neg (by decide), if_pos rfl] at hset
      exact ⟨.inr ⟨h3, by simp only; omega⟩, by simp only; omega⟩
    · rw [hpc, if_pos rfl, if_neg h2] at hset
      refine ⟨?_, by simp only; omega⟩
      simp only
      rw [h4, ← Option.not_isSome_iff_eq_none, h3, Option.not_isSome_iff_eq_none]
      exact hreg

theorem run_inv {s : State} (h : LoadInv s) (evs : List Event) : LoadInv (run s evs) := by
  induction evs generalizing s with
  | nil => exact h
  | cons e es ih => exact ih (step_inv h e)

/-- Under any interleaving of calls for one path, `libraries_->Put` runs at most once and
`JNI_OnLoad` is called at most once. -/
theorem put_and_onLoad_at_most_once (callers : List Caller) (evs : List Event) :
    (run (initial callers) evs).puts ≤ 1 ∧ (run (initial callers) evs).onLoadCalls ≤ 1 := by
  have h0 : LoadInv (initial callers) :=
    ⟨.inl ⟨rfl, rfl⟩, by simp [initial, runningCount, List.countP_eq_zero]⟩
  obtain ⟨hreg, hon⟩ := run_inv h0 evs
  constructor <;> rcases hreg with ⟨-, h⟩ | ⟨-, h⟩ <;> omega

/-- The library is registered and its `JNI_OnLoad` has failed. -/
def Failed (s : State) : Prop :=
  ∃ lib, s.library = some lib ∧ lib.jniOnLoadResult = .kFailed

/-- Once `SetResult` has run, the recorded thread id is 0 and no call runs `JNI_OnLoad`. -/
def ResultSet (s : State) : Prop :=
  ∀ lib, s.library = some lib → lib.jniOnLoadResult ≠ .kPending →
    lib.jniOnLoadThreadId = 0 ∧ ∀ c ∈ s.callers, c.pc ≠ .runningOnLoad

theorem runningCount_eq_zero {l : List Caller} : runningCount l = 0 ↔ ∀ c ∈ l, c.pc ≠ .runningOnLoad := by
  simp [runningCount, List.countP_eq_zero]

theorem ResultSet.set {s : State} (hr : ResultSet s) (i : Nat) (c : Caller) (pc : LoadPc)
    (hpc : pc ≠ .runningOnLoad) : ResultSet { s with callers := s.callers.set i { c with pc := pc } } := by
  intro lib hlib hres
  obtain ⟨h0, hout⟩ := hr lib hlib hres
  refine ⟨h0, fun d hd => ?_⟩
  rcases List.mem_or_eq_of_mem_set hd with hd | rfl
  · exact hout d hd
  · exact hpc

/-- Only the caller that registered the library runs `JNI_OnLoad`, and `SetResult` ends its run:
so once the result is set, no call runs `JNI_OnLoad` and the thread id is cleared. -/
theorem step_resultSet {s : State} (hl : LoadInv s) (hr : ResultSet s) (e : Event) :
    ResultSet (step s e) := by
  obtain ⟨i, dlopenOk, onLoad⟩ := e
  cases hc : s.callers[i]? with
  | none => simpa [step, hc] using hr
  | some c =>
    have hset := runningCount_set s.callers i c (callerStep s c dlopenOk onLoad).2 hc
    simp only [step, hc]
    rcases callerStep_cases s c dlopenOk onLoad with ⟨h1, h2⟩ | ⟨hnone, hpc, -⟩ | ⟨hpc, -⟩
    · rw [h1]
      intro lib hlib hres
      have hc0 := (hr lib hlib hres).2 c (List.getElem?_mem hc)
      exact hr.set i c _ (mt h2.mp hc0) lib hlib hres
    · intro lib hlib hres
      simp only [callerStep, hpc, hnone, Option.some.injEq] at hlib
      exact absurd (by rw [← hlib]) hres
    · intro lib hlib hres
      have hone : runningCount s.callers ≤ 1 := by
        have := hl.onLoad
        rcases hl.registered with ⟨-, h⟩ | ⟨-, h⟩ <;> omega
      simp only [callerStep, hpc, Option.map_eq_some'] at hlib hset ⊢
      obtain ⟨l0, -, rfl⟩ := hlib
      refine ⟨rfl, runningCount_eq_zero.mp ?_⟩
      simp only [↓reduceIte, reduceCtorEq] at hset
      omega

/-- Against a library whose `JNI_OnLoad` failed, a caller that is not running it and is not the
recorded thread changes nothing shared, and returns true only if it already had. -/
theorem callerStep_of_failed {s : State} {lib : SharedLibrary} {c : Caller}
    (hs : s.library = some lib) (hres : lib.jniOnLoadResult = .kFailed)
    (hid : lib.jniOnLoadThreadId ≠ c.threadId) (hrun : c.pc ≠ .runningOnLoad) (dlopenOk : Bool)
    (onLoad : Option Bool) :
    (callerStep s c dlopenOk onLoad).1 = s ∧
      ((callerStep s c dlopenOk onLoad).2 = .returned true → c.pc = .returned true) := by
  cases hpc : c.pc with
  | runningOnLoad => exact absurd hpc hrun
  | checking => simp [callerStep, hpc, hs, checkOnLoadResult, hres, hid]
  | returned ok => simp [callerStep, hpc]
  | start | loaded | opening | registering => simp [callerStep, hpc, hs] <;> split <;> simp

/-- What every state of a run keeps: `LoadInv`, `ResultSet`, and the callers' nonzero thread
ids. -/
structure RunInv (s : State) : Prop where
  load : LoadInv s
  result : ResultSet s
  ids : ∀ c ∈ s.callers, c.threadId ≠ 0

theorem RunInv.step {s : State} (h : RunInv s) (e : Event) : RunInv (step s e) := by
  refine ⟨step_inv h.load e, step_resultSet h.load h.result e, fun d hd => ?_⟩
  obtain ⟨i, dlopenOk, onLoad⟩ := e
  cases hc : s.callers[i]? with
  | none => exact h.ids d (by simpa [Libraries.step, hc] using hd)
  | some c =>
    simp only [Libraries.step, hc] at hd
    rcases List.mem_or_eq_of_mem_set hd with hd | rfl
    · exact h.ids d hd
    · exact h.ids c (List.getElem?_mem hc)

/-- From a failed `JNI_OnLoad`, one step keeps the failure, and a caller that has returned true
after it had returned true before it. -/
theorem RunInv.step_failed {s : State} (h : RunInv s) (hf : Failed s) (e : Event) :
    Failed (Libraries.step s e) ∧
      ∀ i : Nat, (Libraries.step s e).callers[i]?.map (·.pc) = some (.returned true) →
      s.callers[i]?.map (·.pc) = some (.returned true) := by
  obtain ⟨lib, hs, hres⟩ := hf
  obtain ⟨i, dlopenOk, onLoad⟩ := e
  cases hc : s.callers[i]? with
  | none => simp only [Libraries.step, hc]; exact ⟨⟨lib, hs, hres⟩, fun _ => id⟩
  | some c =>
    have hmem := List.getElem?_mem hc
    obtain ⟨h0, hout⟩ := h.result lib hs (by rw [hres]; decide)
    obtain ⟨hsame, htrue⟩ := callerStep_of_failed hs hres (by rw [h0]; exact (h.ids c hmem).symm)
      (hout c hmem) dlopenOk onLoad
    have hlen : i < s.callers.length := (List.getElem?_eq_some_iff.mp hc).1
    simp only [Libraries.step, hc, hsame]
    refine ⟨⟨lib, hs, hres⟩, fun j hj => ?_⟩
    by_cases hij : i = j
    · subst hij
      simp only [List.getElem?_set_self hlen, Option.map_some', Option.some.injEq] at hj
      simp [hc, htrue hj]
    · simpa [List.getElem?_set_ne hij] using hj

theorem RunInv.run_failed {s : State} (h : RunInv s) (hf : Failed s) (evs : List Event) :
    Failed (Libraries.run s evs) ∧
      ∀ i : Nat, (Libraries.run s evs).callers[i]?.map (·.pc) = some (.returned true) →
      s.callers[i]?.map (·.pc) = some (.returned true) := by
  induction evs generalizing s with
  | nil => exact ⟨hf, fun _ => id⟩
  | cons e evs ih =>
    obtain ⟨hf', hback⟩ := h.step_failed hf e
    obtain ⟨hfin, hback'⟩ := ih (h.step e) hf'
    exact ⟨hfin, fun i hi => hback i (hback' i hi)⟩

theorem RunInv.run {s : State} (h : RunInv s) (evs : List Event) : RunInv (Libraries.run s evs) := by
  induction evs generalizing s with
  | nil => exact h
  | cons e evs ih => exact ih (h.step e)

/-- Under any interleaving of `LoadNativeLibrary` calls for one path, a failed `JNI_OnLoad` is
final: the library stays failed and every later return is false. -/
theorem jni_onload_failure_is_final (callers : List Caller) (hids : ∀ c ∈ callers, c.threadId ≠ 0)
    (evs evs' : List Event) (hfail : Failed (run (initial callers) evs)) :
    Failed (run (run (initial callers) evs) evs') ∧
      ∀ i : Nat, (run (run (initial callers) evs) evs').callers[i]?.map (·.pc) = some (.returned true) →
        (run (initial callers) evs).callers[i]?.map (·.pc) = some (.returned true) := by
  have h0 : RunInv (initial callers) :=
    ⟨⟨.inl ⟨rfl, rfl⟩, by simp [initial, runningCount, List.countP_eq_zero]⟩, by simp [ResultSet, initial],
      by simpa [initial] using hids⟩
  exact (h0.run evs).run_failed hfail evs'

/-- The first caller's `JNI_OnLoad` fails; the second caller, with the same class loader, then
loads the path and returns false. -/
theorem second_load_after_failed_onload :
    Failed (run (run (initial [⟨1, 10, .start⟩, ⟨2, 10, .start⟩])
        [.step 0 true none, .step 0 true none, .step 0 true none, .step 0 true (some false)])
      [.step 1 true none, .step 1 true none, .step 1 true none]) ∧
    ∀ i : Nat, (run (run (initial [⟨1, 10, .start⟩, ⟨2, 10, .start⟩])
        [.step 0 true none, .step 0 true none, .step 0 true none, .step 0 true (some false)])
      [.step 1 true none, .step 1 true none, .step 1 true none]).callers[i]?.map (·.pc) =
        some (.returned true) →
      (run (initial [⟨1, 10, .start⟩, ⟨2, 10, .start⟩])
        [.step 0 true none, .step 0 true none, .step 0 true none, .step 0 true (some false)]).callers[i]?.map
          (·.pc) = some (.returned true) :=
  jni_onload_failure_is_final _ (by decide) _ _ ⟨_, rfl, rfl⟩

/-- Two threads with different class loaders miss the first lookup and race to register the
library. -/
def raceTrace : List Event :=
  [.step 0 true none, .step 1 true none, .step 0 true none, .step 1 true none,
    .step 0 true none, .step 1 true none, .step 0 true (some true), .step 1 true none]

/-- The loser of the race returns the winner's result, true, without comparing class loaders. -/
theorem race_loser_skips_class_loader_check :
    (run (initial [⟨1, 10, .start⟩, ⟨2, 20, .start⟩]) raceTrace).callers[1]? =
        some ⟨2, 20, .returned true⟩ ∧
      (run (initial [⟨1, 10, .start⟩, ⟨2, 20, .start⟩]) raceTrace).library =
        some ⟨10, 0, .kOkay⟩ ∧
      (run (initial [⟨1, 10, .start⟩, ⟨2, 20, .start⟩])
          [.step 0 true none, .step 0 true none, .step 0 true none, .step 0 true (some true),
            .step 1 true none, .step 1 true none]).callers[1]? =
        some ⟨2, 20, .returned false⟩ := by
  decide

end Marvin.Jni.Libraries
