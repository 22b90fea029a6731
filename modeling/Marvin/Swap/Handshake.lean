import Marvin.Swap.TableEntry
import Mathlib.Algebra.BigOperators.Group.List
import Mathlib.Algebra.Order.Ring.Nat

namespace Marvin.Swap.Handshake
open TableEntry

/-- Where an application thread is in its loop
`LockFromAppThread(); ...; UnlockFromAppThread();`. -/
inductive AppPc
  | outside
  | spinFirst
  | incrFirst
  | spinSecond
  | incrSecond
  | holding
  deriving DecidableEq, Repr

/-- One atomic action: a step of application thread `i`, or the swap-in actor
setting or clearing the kernel-lock bit. -/
inductive Event
  | app (i : Nat)
  | setKernelLock
  | clearKernelLock
  deriving DecidableEq, Repr

structure State where
  entry : TableEntry
  threads : List AppPc

/-- The next atomic action of `LockFromAppThread` / `UnlockFromAppThread`. Each spin
iteration is one read of the kernel-lock bit; the counter updates are atomic. -/
def appStep (e : TableEntry) : AppPc → TableEntry × AppPc
  | .outside => (e, .spinFirst)
  | .spinFirst => (e, if e.getKernelLockBit then .spinFirst else .incrFirst)
  | .incrFirst => (e.incrAppLockCounter, .spinSecond)
  | .spinSecond => (e, if e.getKernelLockBit then .spinSecond else .incrSecond)
  | .incrSecond => (e.incrAppLockCounter, .holding)
  | .holding => (e.unlockFromAppThread, .outside)

def step (s : State) : Event → State
  | .app i =>
    match s.threads[i]? with
    | none => s
    | some pc => ⟨(appStep s.entry pc).1, s.threads.set i (appStep s.entry pc).2⟩
  | .setKernelLock => { s with entry := s.entry.setKernelLockBit }
  | .clearKernelLock => { s with entry := s.entry.clearKernelLockBit }

def run (s : State) (evs : List Event) : State := evs.foldl step s

/-- Whether the event is a call of `UnlockFromAppThread`. -/
def isUnlock (s : State) : Event → Bool
  | .app i => s.threads[i]? = some .holding
  | _ => false

/-- The number of `UnlockFromAppThread` calls of a run. -/
def unlocks : State → List Event → Nat
  | _, [] => 0
  | s, e :: es => (if isUnlock s e then 1 else 0) + unlocks (step s e) es

/-- Increments a thread has made in its current `LockFromAppThread`. -/
def lockWeight : AppPc → Nat
  | .spinSecond | .incrSecond => 1
  | .holding => 2
  | _ => 0

def weight (s : State) : Nat := (s.threads.map lockWeight).sum

def Holding (s : State) : Prop := AppPc.holding ∈ s.threads

theorem weight_set (l : List AppPc) (i : Nat) (x y : AppPc) (h : l[i]? = some y) :
    ((l.set i x).map lockWeight).sum + lockWeight y = (l.map lockWeight).sum + lockWeight x := by
  induction l generalizing i with
  | nil => simp at h
  | cons a l ih =>
    cases i with
    | zero =>
      simp only [List.getElem?_cons_zero, Option.some.injEq] at h
      subst h
      simp only [List.set_cons_zero, List.map_cons, List.sum_cons]
      omega
    | succ i =>
      simp only [List.getElem?_cons_succ] at h
      simp only [List.set_cons_succ, List.map_cons, List.sum_cons]
      have := ih i h
      omega

/-- One step keeps `counter = unlocks + weight` modulo 256. -/
theorem step_counter (s : State) (e : Event) :
    ((step s e).entry.appLockCounter.toNat + weight s) % 256 =
      (s.entry.appLockCounter.toNat + (if isUnlock s e then 1 else 0) + weight (step s e)) % 256 := by
  cases e with
  | app i =>
    cases hi : s.threads[i]? with
    | none => simp [step, isUnlock, hi]
    | some pc =>
      have hw := weight_set s.threads i (appStep s.entry pc).2 pc hi
      simp only [step, isUnlock, hi, weight, Option.some.injEq] at hw ⊢
      cases pc <;> simp only [appStep] at hw ⊢ <;> (try split at hw) <;>
        simp_all [lockWeight, unlockFromAppThread] <;> omega
  | setKernelLock => simp [step, isUnlock, weight]
  | clearKernelLock => simp [step, isUnlock, weight]

theorem run_counter (s : State) (evs : List Event) :
    ((run s evs).entry.appLockCounter.toNat + weight s) % 256 =
      (s.entry.appLockCounter.toNat + unlocks s evs + weight (run s evs)) % 256 := by
  induction evs generalizing s with
  | nil => simp [run, unlocks]
  | cons e es ih =>
    have h1 := step_counter s e
    have h2 := ih (step s e)
    simp only [run, List.foldl_cons, unlocks] at h2 ⊢
    omega

theorem weight_outside (s : State) (h : ∀ pc ∈ s.threads, pc = .outside) : weight s = 0 := by
  obtain ⟨e, l⟩ := s
  unfold weight
  induction l with
  | nil => rfl
  | cons a l ih =>
    simp only [List.mem_cons, forall_eq_or_imp] at h
    simp [h.1, lockWeight, ih h.2]

/-- From a zero counter, `GetAppLockCounter()` is the completed pairs plus two per holder and one
per thread between its increments, modulo 256. -/
theorem app_lock_counter_of_run (s : State) (evs : List Event)
    (hzero : s.entry.appLockCounter = 0) (hout : ∀ pc ∈ s.threads, pc = .outside) :
    (run s evs).entry.getAppLockCounter.toNat = (unlocks s evs + weight (run s evs)) % 256 ∧
      (Holding (run s evs) →
        ((run s evs).entry.getAppLockCounter = 0 ↔ (unlocks s evs + weight (run s evs)) % 256 = 0)) := by
  have h := run_counter s evs
  rw [weight_outside s hout, hzero] at h
  have hc : (run s evs).entry.getAppLockCounter.toNat = (unlocks s evs + weight (run s evs)) % 256 := by
    have := (run s evs).entry.appLockCounter.toNat_lt_size
    simp only [getAppLockCounter, UInt8.size] at this ⊢
    have h0 : (0 : UInt8).toNat = 0 := rfl
    rw [h0] at h
    omega
  refine ⟨hc, fun _ => ?_⟩
  rw [← hc]
  exact ⟨fun h0 => by simp [h0], fun h0 => UInt8.toNat.inj (by simpa using h0)⟩

theorem app_lock_counter_two_threads :
    (run ⟨⟨0, 0, 0⟩, [.outside, .outside]⟩ [.app 0, .app 0, .app 0, .app 1]).entry.getAppLockCounter.toNat =
      (unlocks ⟨⟨0, 0, 0⟩, [.outside, .outside]⟩ [.app 0, .app 0, .app 0, .app 1] +
        weight (run ⟨⟨0, 0, 0⟩, [.outside, .outside]⟩ [.app 0, .app 0, .app 0, .app 1])) % 256 :=
  (app_lock_counter_of_run _ _ rfl (by simp)).1

theorem run_append (s : State) (xs ys : List Event) :
    run s (xs ++ ys) = run (run s xs) ys := List.foldl_append _ _ _ _

/-- A lone thread completes one lock/unlock pair in six actions while the kernel-lock bit
stays clear. -/
theorem run_lone_pair (e : TableEntry) (hk : e.getKernelLockBit = false) :
    run ⟨e, [.outside]⟩ (List.replicate 6 (.app 0)) =
      ⟨e.lockFromAppThread.unlockFromAppThread, [.outside]⟩ := by
  simp [run, List.replicate, step, appStep, hk, lockFromAppThread]

/-- `k` completed pairs of a lone thread leave the counter `k` higher. -/
theorem run_lone_pairs (e : TableEntry) (hk : e.getKernelLockBit = false) (k : Nat) :
    (run ⟨e, [.outside]⟩ (List.replicate (6 * k) (.app 0))).threads = [.outside] ∧
      (run ⟨e, [.outside]⟩ (List.replicate (6 * k) (.app 0))).entry.bitFlags = e.bitFlags ∧
      (run ⟨e, [.outside]⟩ (List.replicate (6 * k) (.app 0))).entry.appLockCounter.toNat =
        (e.appLockCounter.toNat + k) % 256 := by
  induction k with
  | zero => simp [run, Nat.mod_eq_of_lt e.appLockCounter.toNat_lt_size]
  | succ k ih =>
    obtain ⟨ht, hf, hc⟩ := ih
    rw [Nat.mul_succ, List.replicate_add, run_append]
    generalize run ⟨e, [.outside]⟩ (List.replicate (6 * k) (.app 0)) = s at ht hf hc
    obtain ⟨e', l⟩ := s
    simp only at ht hf hc
    subst ht
    have hk' : e'.getKernelLockBit = false := by
      simpa [getKernelLockBit, getBit, hf] using hk
    rw [run_lone_pair e' hk']
    refine ⟨rfl, hf, ?_⟩
    simp only [unlockFromAppThread, decrAppLockCounter_toNat, lockFromAppThread,
      incrAppLockCounter_toNat, hc]
    omega

/-- One thread, no kernel activity: after 254 completed pairs and one more
`LockFromAppThread` the thread holds the entry and the counter has wrapped to 0. -/
theorem lone_thread_counter_wraps :
    (run ⟨⟨0, 0, 0⟩, [.outside]⟩ (List.replicate 1529 (.app 0))).threads = [.holding] ∧
      (run ⟨⟨0, 0, 0⟩, [.outside]⟩ (List.replicate 1529 (.app 0))).entry.getAppLockCounter = 0 := by
  have hk : (⟨0, 0, 0⟩ : TableEntry).getKernelLockBit = false := by decide
  obtain ⟨ht, hf, hc⟩ := run_lone_pairs ⟨0, 0, 0⟩ hk 254
  rw [show 1529 = 6 * 254 + 5 from rfl, List.replicate_add, run_append]
  generalize run ⟨⟨0, 0, 0⟩, [.outside]⟩ (List.replicate (6 * 254) (.app 0)) = s at ht hf hc
  obtain ⟨⟨f, c, a⟩, l⟩ := s
  simp only at ht hf hc
  subst ht hf
  have hc' : c = 254 := UInt8.toNat.inj hc
  subst hc'
  have hk2 : (⟨0, 254, a⟩ : TableEntry).getKernelLockBit = false := hk
  simp [run, List.replicate, step, appStep, hk2]
  show (254 : UInt8) + 1 + 1 = 0
  decide

/-- A thread past its second kernel-lock check: about to make its second increment, or holding
the entry. -/
def AppPc.pastSecondCheck : AppPc → Bool
  | .incrSecond | .holding => true
  | _ => false

@[simp] theorem getKernelLockBit_setKernelLockBit (e : TableEntry) :
    e.setKernelLockBit.getKernelLockBit = true := by
  simp [getKernelLockBit, setKernelLockBit, getBit_setBit e (by decide : kernelLockBitOffset < 8)]

@[simp] theorem getKernelLockBit_appStep (e : TableEntry) (pc : AppPc) :
    (appStep e pc).1.getKernelLockBit = e.getKernelLockBit := by
  cases pc <;> simp [appStep, unlockFromAppThread]

/-- With the kernel-lock bit set, an application thread's step never takes it past its second
check: only a thread already past it (at its second increment) moves on, to holding. -/
theorem appStep_pastSecondCheck {e : TableEntry} (hk : e.getKernelLockBit = true) {pc : AppPc}
    (h : (appStep e pc).2.pastSecondCheck = true) : pc.pastSecondCheck = true := by
  cases pc <;> simp_all [appStep, AppPc.pastSecondCheck]

/-- One step other than the actor clearing the bit keeps the kernel-lock bit set and lets no
thread pass its second check. -/
theorem step_kernelLocked {s : State} (hk : s.entry.getKernelLockBit = true) {e : Event}
    (he : e ≠ .clearKernelLock) :
    (step s e).entry.getKernelLockBit = true ∧
      ∀ i : Nat, ((step s e).threads[i]?).any AppPc.pastSecondCheck →
        (s.threads[i]?).any AppPc.pastSecondCheck := by
  cases e with
  | app j =>
    cases hj : s.threads[j]? with
    | none => simp [step, hj, hk]
    | some pc =>
      simp only [step, hj, getKernelLockBit_appStep, hk, true_and]
      intro i hi
      by_cases hij : j = i
      · subst hij
        rw [List.getElem?_set_self (List.getElem?_eq_some_iff.mp hj).1] at hi
        simpa [hj] using appStep_pastSecondCheck hk (by simpa using hi)
      · rwa [List.getElem?_set_ne hij] at hi
  | setKernelLock => exact ⟨getKernelLockBit_setKernelLockBit _, fun _ => id⟩
  | clearKernelLock => exact absurd rfl he

/-- While the swap-in actor holds the kernel-lock bit, no application thread passes its second
check: one past it was already past it when the window began. -/
theorem kernel_lock_holds_back_app_threads (s : State) (evs : List Event)
    (hk : s.entry.getKernelLockBit = true) (hno : Event.clearKernelLock ∉ evs) :
    (run s evs).entry.getKernelLockBit = true ∧
      ∀ i : Nat, ((run s evs).threads[i]?).any AppPc.pastSecondCheck →
        (s.threads[i]?).any AppPc.pastSecondCheck := by
  induction evs generalizing s with
  | nil => exact ⟨hk, fun _ => id⟩
  | cons e es ih =>
    have he : e ≠ .clearKernelLock := fun h => hno (h ▸ List.mem_cons_self _ _)
    obtain ⟨hk', hpast⟩ := step_kernelLocked hk he
    obtain ⟨hk'', hpast'⟩ := ih (step s e) hk' fun h => hno (List.mem_cons_of_mem _ h)
    exact ⟨hk'', fun i h => hpast i (hpast' i h)⟩

/-- Thread 0 waits at its second check and thread 1 holds the entry when the bit is set: thread 1
unlocks and starts again, and neither gets past its check. -/
theorem kernel_lock_window_two_threads :
    (⟨⟨2, 3, 0⟩, [.spinSecond, .holding]⟩ : State).entry.getKernelLockBit = true ∧
      Event.clearKernelLock ∉ [Event.app 0, .app 1, .app 1, .setKernelLock, .app 0, .app 1] ∧
      ((run ⟨⟨2, 3, 0⟩, [.spinSecond, .holding]⟩
          [.app 0, .app 1, .app 1, .setKernelLock, .app 0, .app 1]).entry.getKernelLockBit = true ∧
        ∀ i : Nat, ((run ⟨⟨2, 3, 0⟩, [.spinSecond, .holding]⟩
            [.app 0, .app 1, .app 1, .setKernelLock, .app 0, .app 1]).threads[i]?).any
              AppPc.pastSecondCheck →
          (([.spinSecond, .holding] : List AppPc)[i]?).any AppPc.pastSecondCheck) :=
  ⟨by decide, by decide,
    kernel_lock_holds_back_app_threads ⟨⟨2, 3, 0⟩, [.spinSecond, .holding]⟩
      [.app 0, .app 1, .app 1, .setKernelLock, .app 0, .app 1] (by decide) (by decide)⟩

end Marvin.Swap.Handshake
