import Marvin.Jni.GlobalRefs

namespace Marvin.Jni.WeakGlobals

/-- A call a mutator thread makes on `weak_globals_`. -/
inductive Call
  | decodeWeakGlobal (ref : Nat)
  | isWeakGlobalCleared (ref : Nat)
  | addWeakGlobalRef (obj : Nat)
  | deleteWeakGlobalRef (ref : Nat)
  | updateWeakGlobal (ref : Nat) (result : Option Nat)
  deriving DecidableEq, Repr

/-- What a call returned. -/
inductive Result
  | object (obj : Option Nat)
  | isCleared (cleared : Bool)
  | ref (ref : Nat)
  | done
  deriving DecidableEq, Repr

/-- Where a mutator thread is: outside a call, where a pause may suspend it, or inside one, holding
the mutator lock shared, also while it waits. -/
inductive Phase
  | idle
  | returned (r : Result)
  /-- `DecodeWeakGlobal` before its unlocked `MayAccessWeakGlobalsUnlocked` test. -/
  | decodeTest (ref : Nat)
  /-- `DecodeWeakGlobal` after the test passed: `weak_globals_.SynchronizedGet(ref)`. -/
  | decodeGet (ref : Nat)
  /-- `DecodeWeakGlobalLocked` under `jni_weak_globals_lock_`: wait, then `Get`. -/
  | decodeLocked (ref : Nat)
  /-- `IsWeakGlobalCleared` under the lock: wait, then compare with the cleared sentinel. -/
  | isClearedLocked (ref : Nat)
  /-- `AddWeakGlobalRef` before `SetNoSwapFlag`. -/
  | addFlag (obj : Nat)
  /-- `AddWeakGlobalRef` under the lock: wait, then `weak_globals_.Add`. -/
  | addLocked (obj : Nat)
  deriving DecidableEq, Repr

/-- Whether the thread is outside every call, so that a pause can suspend it. -/
def Phase.outside : Phase → Bool
  | .idle | .returned _ => true
  | _ => false

/-- Whether the thread is inside `DecodeWeakGlobal`, `IsWeakGlobalCleared` or
`AddWeakGlobalRef`, the calls that wait for access. -/
def Phase.gated : Phase → Bool
  | .idle | .returned _ => false
  | _ => true

/-- The weak-global tables with the no-swap flags, `allow_accessing_weak_globals_`, and the
mutator threads. -/
structure Gate where
  jni : State
  allowAccessingWeakGlobals : Bool
  threads : List Phase

/-- `MayAccessWeakGlobals` for a collector without read barriers (`kUseReadBarrier` false). -/
def Gate.mayAccessWeakGlobals (g : Gate) : Bool := g.allowAccessingWeakGlobals

/-- `weak_globals_.Get(ref)`: the object of the entry, `none` for a null or missing one. -/
def weakGlobalsGet (s : State) (ref : Nat) : Option Nat := (s.vm.weakGlobals[ref]?).join

/-- The start of a call: `DeleteWeakGlobalRef` and `UpdateWeakGlobal` run at once under the
lock and do not wait. -/
def callStart (s : State) : Call → State × Phase
  | .decodeWeakGlobal ref => (s, .decodeTest ref)
  | .isWeakGlobalCleared ref => (s, .isClearedLocked ref)
  | .addWeakGlobalRef obj => (s, .addFlag obj)
  | .deleteWeakGlobalRef ref => (deleteWeakGlobalRef s (some ref), .returned .done)
  | .updateWeakGlobal ref result => (updateWeakGlobal s ref result, .returned .done)

/-- The next atomic action of a thread inside a call; `cleared` is the runtime's cleared
weak-global sentinel. -/
def threadStep (cleared : Nat) (g : Gate) : Phase → State × Phase
  | .decodeTest ref => (g.jni, if g.mayAccessWeakGlobals then .decodeGet ref else .decodeLocked ref)
  | .decodeGet ref => (g.jni, .returned (.object (weakGlobalsGet g.jni ref)))
  | .decodeLocked ref =>
    (g.jni, if g.mayAccessWeakGlobals then .returned (.object (weakGlobalsGet g.jni ref))
      else .decodeLocked ref)
  | .isClearedLocked ref =>
    (g.jni, if g.mayAccessWeakGlobals then .returned (.isCleared (weakGlobalsGet g.jni ref = some cleared))
      else .isClearedLocked ref)
  | .addFlag obj => (setNoSwapFlag g.jni obj, .addLocked obj)
  | .addLocked obj =>
    if g.mayAccessWeakGlobals then
      ({ g.jni with vm.weakGlobals := (irtAdd g.jni.vm.weakGlobals obj).2 },
        .returned (.ref (irtAdd g.jni.vm.weakGlobals obj).1))
    else (g.jni, .addLocked obj)
  | p => (g.jni, p)

/-- A mutator starting a call or taking a step, or the collector running
`DisallowNewWeakGlobals`, `AllowNewWeakGlobals` or `SweepJniWeakGlobals` with its `IsMarked`. -/
inductive Event
  | call (i : Nat) (c : Call)
  | step (i : Nat)
  | disallowNewWeakGlobals
  | allowNewWeakGlobals
  | sweepJniWeakGlobals (isMarked : Nat → Option Nat)

def step (cleared : Nat) (g : Gate) : Event → Gate
  | .call i c =>
    match g.threads[i]? with
    | some p =>
      if p.outside then
        { g with jni := (callStart g.jni c).1, threads := g.threads.set i (callStart g.jni c).2 }
      else g
    | none => g
  | .step i =>
    match g.threads[i]? with
    | some p =>
      { g with jni := (threadStep cleared g p).1, threads := g.threads.set i (threadStep cleared g p).2 }
    | none => g
  | .disallowNewWeakGlobals => { g with allowAccessingWeakGlobals := false }
  | .allowNewWeakGlobals => { g with allowAccessingWeakGlobals := true }
  | .sweepJniWeakGlobals isMarked => { g with jni := sweepJniWeakGlobals g.jni isMarked cleared }

def run (cleared : Nat) (g : Gate) (evs : List Event) : Gate := evs.foldl (step cleared) g

/-- The states reachable from a fresh `JavaVMExt`; `DisallowNewWeakGlobals` runs only in a pause,
with no thread inside a call. -/
inductive Reachable (cleared : Nat) : Gate → Prop where
  | init (jni : State) (n : Nat) : Reachable cleared ⟨jni, true, List.replicate n .idle⟩
  | step {g : Gate} (h : Reachable cleared g) (e : Event)
      (hpause : e = .disallowNewWeakGlobals → ∀ p ∈ g.threads, p.outside) :
      Reachable cleared (step cleared g e)

section Steps

variable {cleared : Nat} {g : Gate}

@[simp] theorem step_call_allow (i : Nat) (c : Call) :
    (step cleared g (.call i c)).allowAccessingWeakGlobals = g.allowAccessingWeakGlobals := by
  simp only [step]
  split
  · split <;> rfl
  · rfl

@[simp] theorem step_step_allow (i : Nat) :
    (step cleared g (.step i)).allowAccessingWeakGlobals = g.allowAccessingWeakGlobals := by
  simp only [step]
  split <;> rfl

theorem callStart_ne_decodeGet (s : State) (c : Call) (ref : Nat) :
    (callStart s c).2 ≠ .decodeGet ref := by
  cases c <;> simp [callStart]

theorem callStart_length (s : State) (c : Call) :
    (callStart s c).1.vm.weakGlobals.length = s.vm.weakGlobals.length := by
  cases c <;> simp [callStart, deleteWeakGlobalRef, updateWeakGlobal]

/-- Only the unlocked test of `DecodeWeakGlobal`, passing, leads to the unlocked read. -/
theorem threadStep_decodeGet {p : Phase} {ref : Nat} (h : (threadStep cleared g p).2 = .decodeGet ref) :
    g.allowAccessingWeakGlobals = true := by
  cases p <;> simp only [threadStep, Gate.mayAccessWeakGlobals] at h <;> (try split at h) <;>
    first | assumption | cases h

/-- With access disallowed, a step other than the unlocked read leaves `weak_globals_` as it is,
keeps a thread inside its call, and does not reach the unlocked read. -/
theorem threadStep_of_disallowed (hoff : g.allowAccessingWeakGlobals = false) {p : Phase}
    (hget : ∀ ref, p ≠ .decodeGet ref) :
    (threadStep cleared g p).1.vm = g.jni.vm ∧ (p.gated → (threadStep cleared g p).2.gated) ∧
      ∀ ref, (threadStep cleared g p).2 ≠ .decodeGet ref := by
  cases p <;> simp_all [threadStep, Gate.mayAccessWeakGlobals, Phase.gated, setNoSwapFlag]

/-- Setting thread `i`, outside a call or moving to another phase inside one, keeps every
thread that was inside a call inside one. -/
theorem gated_set {l : List Phase} {i : Nat} {p x : Phase} (hi : l[i]? = some p)
    (hx : p.gated → x.gated) :
    ∀ (j : Nat) (q : Phase), l[j]? = some q → q.gated →
      ∃ q', (l.set i x)[j]? = some q' ∧ q'.gated := by
  intro j q hj hq
  by_cases hij : i = j
  · subst hij
    rw [hi, Option.some.injEq] at hj
    subst hj
    exact ⟨x, List.getElem?_set_self (List.getElem?_eq_some_iff.mp hi).1, hx hq⟩
  · exact ⟨q, by rw [List.getElem?_set_ne hij, hj], hq⟩

end Steps

/-- The invariant of the access gate: a thread about to read `weak_globals_` without the lock
passed the test with access allowed, and access has not been disallowed since. -/
def GateInv (g : Gate) : Prop := ∀ ref, .decodeGet ref ∈ g.threads → g.allowAccessingWeakGlobals = true

theorem GateInv.step {cleared : Nat} {g : Gate} (hi : GateInv g) (e : Event)
    (hpause : e = .disallowNewWeakGlobals → ∀ p ∈ g.threads, p.outside) :
    GateInv (step cleared g e) := by
  intro ref hmem
  cases e with
  | call i c =>
    rw [step_call_allow]
    simp only [WeakGlobals.step] at hmem
    split at hmem
    · split at hmem
      · rcases List.mem_or_eq_of_mem_set hmem with h | h
        · exact hi ref h
        · exact absurd h.symm (callStart_ne_decodeGet _ c ref)
      · exact hi ref hmem
    · exact hi ref hmem
  | step i =>
    rw [step_step_allow]
    simp only [WeakGlobals.step] at hmem
    split at hmem
    · rcases List.mem_or_eq_of_mem_set hmem with h | h
      · exact hi ref h
      · exact threadStep_decodeGet h.symm
    · exact hi ref hmem
  | disallowNewWeakGlobals => exact absurd (hpause rfl _ hmem) (by simp [Phase.outside])
  | allowNewWeakGlobals => rfl
  | sweepJniWeakGlobals isMarked => exact hi ref hmem

theorem Reachable.gateInv {cleared : Nat} {g : Gate} (h : Reachable cleared g) : GateInv g := by
  induction h with
  | init jni n => intro ref _; rfl
  | step _ e hpause ih => exact ih.step e hpause

/-- In every reachable state, a step that reads or appends to `weak_globals_` is taken with access
allowed, the unlocked fast path of `DecodeWeakGlobal` included. -/
theorem weak_globals_read_only_while_allowed {cleared : Nat} {g : Gate} (h : Reachable cleared g)
    {i : Nat} {p : Phase} (hp : g.threads[i]? = some p) (hg : p.gated)
    (hacc : (step cleared g (.step i)).jni.vm.weakGlobals ≠ g.jni.vm.weakGlobals ∨
      ∃ r, (step cleared g (.step i)).threads[i]? = some (.returned r)) :
    g.allowAccessingWeakGlobals = true := by
  by_contra hne
  have hoff : g.allowAccessingWeakGlobals = false := by simpa using hne
  have hget : ∀ ref, p ≠ .decodeGet ref := fun ref hp' =>
    absurd (h.gateInv ref (hp' ▸ List.getElem?_mem hp)) (by simp [hoff])
  obtain ⟨hvm, hgated, -⟩ := @threadStep_of_disallowed cleared _ hoff _ hget
  have hi : i < g.threads.length := (List.getElem?_eq_some_iff.mp hp).1
  simp only [step, hp, List.getElem?_set_self hi] at hacc
  rcases hacc with hacc | ⟨r, hr⟩
  · exact hacc (by rw [hvm])
  · have hq := hgated hg
    rw [Option.some.inj hr] at hq
    cases hq

/-- A thread that calls `DecodeWeakGlobal` on a fresh VM with access allowed takes the fast
path and reads the entry with access allowed. -/
theorem decode_fast_path_reads_while_allowed :
    (step 0 (step 0 ⟨⟨⟨[], [some 5]⟩, fun _ => false⟩, true, [.idle]⟩
      (.call 0 (.decodeWeakGlobal 0))) (.step 0)).allowAccessingWeakGlobals = true :=
  weak_globals_read_only_while_allowed
    (((Reachable.init _ 1).step (.call 0 (.decodeWeakGlobal 0)) nofun).step (.step 0) nofun)
    (i := 0) (p := .decodeGet 0) rfl rfl (.inr ⟨_, rfl⟩)

/-- The window between `DisallowNewWeakGlobals` and `AllowNewWeakGlobals`: access disallowed,
and no thread at the unlocked read. -/
structure Closed (g : Gate) : Prop where
  off : g.allowAccessingWeakGlobals = false
  noFastRead : ∀ ref, .decodeGet ref ∉ g.threads

theorem Reachable.closed {cleared : Nat} {g : Gate} (h : Reachable cleared g)
    (hoff : g.allowAccessingWeakGlobals = false) : Closed g :=
  ⟨hoff, fun ref hm => absurd (h.gateInv ref hm) (by simp [hoff])⟩

theorem outside_not_gated {p : Phase} (h : p.outside) : p.gated = false := by
  cases p <;> simp_all [Phase.outside, Phase.gated]

/-- One event other than `AllowNewWeakGlobals` keeps the window closed, adds no entry to
`weak_globals_`, and keeps every thread inside a call inside one. -/
theorem Closed.step {cleared : Nat} {g : Gate} (hc : Closed g) (e : Event)
    (he : e ≠ .allowNewWeakGlobals) :
    Closed (WeakGlobals.step cleared g e) ∧
    (WeakGlobals.step cleared g e).jni.vm.weakGlobals.length = g.jni.vm.weakGlobals.length ∧
    ∀ (i : Nat) (p : Phase), g.threads[i]? = some p → p.gated →
      ∃ q, (WeakGlobals.step cleared g e).threads[i]? = some q ∧ q.gated := by
  cases e with
  | call i c =>
    simp only [WeakGlobals.step]
    split
    · rename_i p hp
      split
      · rename_i hout
        refine ⟨⟨hc.off, fun ref hm => ?_⟩, callStart_length _ c,
          gated_set hp fun hg => absurd hg (by simp [outside_not_gated hout])⟩
        rcases List.mem_or_eq_of_mem_set hm with hm | hm
        · exact hc.noFastRead ref hm
        · exact callStart_ne_decodeGet _ c ref hm.symm
      · exact ⟨hc, rfl, fun i p hp hg => ⟨p, hp, hg⟩⟩
    · exact ⟨hc, rfl, fun i p hp hg => ⟨p, hp, hg⟩⟩
  | step i =>
    simp only [WeakGlobals.step]
    split
    · rename_i p hp
      obtain ⟨hvm, hgated, hget⟩ := @threadStep_of_disallowed cleared _ hc.off _
        fun ref hp' => hc.noFastRead ref (hp' ▸ List.getElem?_mem hp)
      refine ⟨⟨hc.off, fun ref hm => ?_⟩, by rw [hvm], gated_set hp hgated⟩
      rcases List.mem_or_eq_of_mem_set hm with hm | hm
      · exact hc.noFastRead ref hm
      · exact hget ref hm.symm
    · exact ⟨hc, rfl, fun i p hp hg => ⟨p, hp, hg⟩⟩
  | disallowNewWeakGlobals => exact ⟨⟨rfl, hc.noFastRead⟩, rfl, fun i p hp hg => ⟨p, hp, hg⟩⟩
  | allowNewWeakGlobals => exact absurd rfl he
  | sweepJniWeakGlobals isMarked =>
    exact ⟨⟨hc.off, hc.noFastRead⟩, by simp [WeakGlobals.step, sweepJniWeakGlobals],
      fun i p hp hg => ⟨p, hp, hg⟩⟩

/-- Between `DisallowNewWeakGlobals` and the next `AllowNewWeakGlobals`, no thread returns from a
gated call and `weak_globals_` gains no entry. -/
theorem disallowed_window_blocks_weak_globals {cleared : Nat} {g : Gate} (h : Reachable cleared g)
    (hoff : g.allowAccessingWeakGlobals = false) (evs : List Event)
    (hno : Event.allowNewWeakGlobals ∉ evs) :
    (run cleared g evs).allowAccessingWeakGlobals = false ∧
    (run cleared g evs).jni.vm.weakGlobals.length = g.jni.vm.weakGlobals.length ∧
    ∀ (i : Nat) (p : Phase), g.threads[i]? = some p → p.gated →
      ∃ q, (run cleared g evs).threads[i]? = some q ∧ q.gated := by
  suffices ∀ g, Closed g → Closed (run cleared g evs) ∧
      (run cleared g evs).jni.vm.weakGlobals.length = g.jni.vm.weakGlobals.length ∧
      ∀ (i : Nat) (p : Phase), g.threads[i]? = some p → p.gated →
        ∃ q, (run cleared g evs).threads[i]? = some q ∧ q.gated by
    obtain ⟨hc, hlen, hth⟩ := this g (h.closed hoff)
    exact ⟨hc.off, hlen, hth⟩
  induction evs with
  | nil => exact fun g hc => ⟨hc, rfl, fun i p hp hg => ⟨p, hp, hg⟩⟩
  | cons e evs ih =>
    intro g hc
    obtain ⟨hc1, hlen1, hth1⟩ := hc.step e fun he => hno (he ▸ List.mem_cons_self _ _)
    obtain ⟨hc2, hlen2, hth2⟩ := ih (fun hm => hno (List.mem_cons_of_mem _ hm)) _ hc1
    refine ⟨hc2, hlen2.trans hlen1, fun i p hp hg => ?_⟩
    obtain ⟨q, hq, hqg⟩ := hth1 i p hp hg
    exact hth2 i q hq hqg

/-- After a pause disallows access, a thread calling `DecodeWeakGlobal` takes the locked path
and waits there. -/
theorem decode_waits_after_disallow :
    (run 0 (step 0 ⟨⟨⟨[], [some 5]⟩, fun _ => false⟩, true, [.idle]⟩ .disallowNewWeakGlobals)
      [.call 0 (.decodeWeakGlobal 0), .step 0, .step 0]).threads = [.decodeLocked 0] ∧
    ∀ (i : Nat) (p : Phase),
      (step 0 ⟨⟨⟨[], [some 5]⟩, fun _ => false⟩, true, [.idle]⟩ .disallowNewWeakGlobals).threads[i]? =
        some p → p.gated →
      ∃ q, (run 0 (step 0 ⟨⟨⟨[], [some 5]⟩, fun _ => false⟩, true, [.idle]⟩ .disallowNewWeakGlobals)
        [.call 0 (.decodeWeakGlobal 0), .step 0, .step 0]).threads[i]? = some q ∧ q.gated :=
  ⟨rfl, (disallowed_window_blocks_weak_globals
    ((Reachable.init _ 1).step .disallowNewWeakGlobals fun _ => by simp [Phase.outside])
    rfl _ (by simp)).2.2⟩

/-- What an event needs of its environment: `IsMarked` keeps flags and the cleared sentinel, and
`UpdateWeakGlobal` gets an unswappable object. -/
def Event.KeepsFlags (cleared : Nat) (g : Gate) : Event → Prop
  | .sweepJniWeakGlobals isMarked => Jni.Call.MarksKeepFlags cleared g.jni (.sweepJniWeakGlobals isMarked)
  | .call _ (.updateWeakGlobal ref result) =>
    Jni.Call.NewTargetFlagged cleared g.jni (.updateWeakGlobal ref result)
  | _ => True

def Admissible (cleared : Nat) : Gate → List Event → Prop
  | _, [] => True
  | g, e :: es => e.KeepsFlags cleared g ∧ Admissible cleared (step cleared g e) es

/-- Every object a table entry refers to, but the cleared sentinel, is unswappable, and so is the
object of every thread inside the locked part of `AddWeakGlobalRef`. -/
structure NoSwapInv (cleared : Nat) (g : Gate) : Prop where
  targets : NoSwapTargets cleared g.jni
  adding : ∀ obj, .addLocked obj ∈ g.threads → g.jni.noSwap obj = true

section NoSwap

variable {cleared : Nat} {g : Gate}

/-- No step clears a no-swap flag. -/
theorem step_noSwap (e : Event) {o : Nat} (ho : g.jni.noSwap o = true) :
    (step cleared g e).jni.noSwap o = true := by
  cases e with
  | call i c =>
    simp only [step]
    split
    · split
      · cases c <;> simpa [callStart, deleteWeakGlobalRef, updateWeakGlobal] using ho
      · exact ho
    · exact ho
  | step i =>
    simp only [step]
    split
    · rename_i p _
      cases p <;> simp only [threadStep] <;> (try split) <;>
        first | exact ho | exact noSwap_setNoSwapFlag _ _ _ ho
    · exact ho
  | disallowNewWeakGlobals | allowNewWeakGlobals => exact ho
  | sweepJniWeakGlobals isMarked => exact ho

/-- A thread reaches the locked part of `AddWeakGlobalRef` only from its flag-setting step, which
flags the object, or by waiting there. -/
theorem threadStep_addLocked {p : Phase} {obj : Nat} (h : (threadStep cleared g p).2 = .addLocked obj) :
    (p = .addFlag obj ∧ (threadStep cleared g p).1.noSwap obj = true) ∨
      (p = .addLocked obj ∧ (threadStep cleared g p).1 = g.jni) := by
  cases p <;> simp only [threadStep] at h ⊢ <;> (try split at h) <;> (try split) <;>
    simp_all [setNoSwapFlag]

theorem callStart_ne_addLocked (s : State) (c : Call) (obj : Nat) :
    (callStart s c).2 ≠ .addLocked obj := by
  cases c <;> simp [callStart]


/-- The threads inside `AddWeakGlobalRef`'s locked part after a step were there before, or came
from its flag-setting step, whose object is flagged afterwards. -/
theorem adding_step (hadd : ∀ obj, .addLocked obj ∈ g.threads → g.jni.noSwap obj = true)
    (e : Event) (obj : Nat) (hmem : .addLocked obj ∈ (step cleared g e).threads) :
    (step cleared g e).jni.noSwap obj = true := by
  by_cases hold : .addLocked obj ∈ g.threads
  · exact step_noSwap e (hadd obj hold)
  cases e with
  | call i c =>
    simp only [step] at hmem
    cases hp : g.threads[i]? with
    | none => simp only [hp] at hmem; exact absurd hmem hold
    | some p =>
      simp only [hp] at hmem
      split at hmem
      · rcases List.mem_or_eq_of_mem_set hmem with h | h
        · exact absurd h hold
        · exact absurd h.symm (callStart_ne_addLocked _ c obj)
      · exact absurd hmem hold
  | step i =>
    cases hp : g.threads[i]? with
    | none => simp only [step, hp] at hmem; exact absurd hmem hold
    | some p =>
      simp only [step, hp] at hmem ⊢
      rcases List.mem_or_eq_of_mem_set hmem with h | h
      · exact absurd h hold
      · rcases threadStep_addLocked h.symm with ⟨-, hflag⟩ | ⟨rfl, -⟩
        · exact hflag
        · exact absurd (List.getElem?_mem hp) hold
  | disallowNewWeakGlobals | allowNewWeakGlobals | sweepJniWeakGlobals _ => exact absurd hmem hold


/-- A step of an admissible event keeps every table target unswappable. -/
theorem targets_step (hi : NoSwapInv cleared g) (e : Event) (he : e.KeepsFlags cleared g) :
    NoSwapTargets cleared (step cleared g e).jni := by
  cases e with
  | call i c =>
    simp only [step]
    cases hp : g.threads[i]? with
    | none => exact hi.targets
    | some p =>
      simp only
      split
      · cases c with
        | deleteWeakGlobalRef ref =>
          exact noSwapTargets_run hi.targets (.deleteWeakGlobalRef (some ref)) trivial trivial
        | updateWeakGlobal ref result =>
          exact noSwapTargets_run hi.targets (.updateWeakGlobal ref result) trivial he
        | _ => exact hi.targets
      · exact hi.targets
  | step i =>
    simp only [step]
    cases hp : g.threads[i]? with
    | none => exact hi.targets
    | some p =>
      cases p with
      | addFlag obj => exact noSwapTargets_add hi.targets obj (fun _ h => .inl h) fun _ h => .inl h
      | addLocked obj =>
        simp only [threadStep]
        split
        · refine noSwapTargets_of_entries hi.targets (fun _ h _ => .inl h) fun o h _ => ?_
          rcases List.mem_append.mp h with h | h
          · exact .inl h
          · rw [List.mem_singleton, Option.some.injEq] at h
            exact .inr (h ▸ hi.adding obj (List.getElem?_mem hp))
        · exact hi.targets
      | _ => exact hi.targets
  | disallowNewWeakGlobals | allowNewWeakGlobals => exact hi.targets
  | sweepJniWeakGlobals isMarked =>
    exact noSwapTargets_run hi.targets (.sweepJniWeakGlobals isMarked) he trivial

theorem NoSwapInv.step (hi : NoSwapInv cleared g) (e : Event) (he : e.KeepsFlags cleared g) :
    NoSwapInv cleared (step cleared g e) :=
  ⟨targets_step hi e he, adding_step hi.adding e⟩

theorem NoSwapInv.run (hi : NoSwapInv cleared g) (evs : List Event) (ha : Admissible cleared g evs) :
    NoSwapInv cleared (WeakGlobals.run cleared g evs) := by
  induction evs generalizing g with
  | nil => exact hi
  | cons e es ih => exact ih (hi.step e ha.1) ha.2

end NoSwap

/-- Over any admissible interleaving from tables of unswappable objects, the objects the entries
and the waiting adders refer to stay unswappable. -/
theorem weak_global_targets_stay_unswappable (cleared : Nat) (jni : State) (n : Nat)
    (hjni : NoSwapTargets cleared jni) (evs : List Event)
    (ha : Admissible cleared ⟨jni, true, List.replicate n .idle⟩ evs) :
    NoSwapTargets cleared (run cleared ⟨jni, true, List.replicate n .idle⟩ evs).jni ∧
      ∀ obj, .addLocked obj ∈ (run cleared ⟨jni, true, List.replicate n .idle⟩ evs).threads →
        (run cleared ⟨jni, true, List.replicate n .idle⟩ evs).jni.noSwap obj = true := by
  have hidle : ∀ obj, Phase.addLocked obj ∉ List.replicate n Phase.idle := fun obj h => by
    cases List.eq_of_mem_replicate h
  obtain ⟨htargets, hadding⟩ := NoSwapInv.run ⟨hjni, fun obj h => absurd h (hidle obj)⟩ evs ha
  exact ⟨htargets, hadding⟩

/-- A thread flags object 5 and then waits to add it while a pause disallows access; once access
is allowed again it adds the entry, whose object is unswappable throughout. -/
theorem add_waits_with_object_flagged :
    NoSwapTargets 0 ⟨⟨[], []⟩, fun _ => false⟩ ∧
      Admissible 0 ⟨⟨⟨[], []⟩, fun _ => false⟩, true, List.replicate 2 .idle⟩
        [.call 0 (.addWeakGlobalRef 5), .step 0, .disallowNewWeakGlobals, .step 0,
          .allowNewWeakGlobals, .step 0] ∧
      (NoSwapTargets 0 (run 0 ⟨⟨⟨[], []⟩, fun _ => false⟩, true, List.replicate 2 .idle⟩
          [.call 0 (.addWeakGlobalRef 5), .step 0, .disallowNewWeakGlobals, .step 0,
            .allowNewWeakGlobals, .step 0]).jni ∧
        ∀ obj, .addLocked obj ∈ (run 0 ⟨⟨⟨[], []⟩, fun _ => false⟩, true, List.replicate 2 .idle⟩
            [.call 0 (.addWeakGlobalRef 5), .step 0, .disallowNewWeakGlobals, .step 0,
              .allowNewWeakGlobals, .step 0]).threads →
          (run 0 ⟨⟨⟨[], []⟩, fun _ => false⟩, true, List.replicate 2 .idle⟩
            [.call 0 (.addWeakGlobalRef 5), .step 0, .disallowNewWeakGlobals, .step 0,
              .allowNewWeakGlobals, .step 0]).jni.noSwap obj = true) := by
  have hjni : NoSwapTargets 0 ⟨⟨[], []⟩, fun _ => false⟩ := by simp [NoSwapTargets]
  have ha : Admissible 0 ⟨⟨⟨[], []⟩, fun _ => false⟩, true, List.replicate 2 .idle⟩
      [.call 0 (.addWeakGlobalRef 5), .step 0, .disallowNewWeakGlobals, .step 0,
        .allowNewWeakGlobals, .step 0] := by
    simp [Admissible, Event.KeepsFlags]
  exact ⟨hjni, ha, weak_global_targets_stay_unswappable 0 _ 2 hjni _ ha⟩

end Marvin.Jni.WeakGlobals
