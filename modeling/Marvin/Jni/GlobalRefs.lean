import Mathlib.Data.List.Basic

namespace Marvin.Jni

/-- The two JNI reference tables of `JavaVMExt`, as their slots (`none` is a null or
removed entry). An `IndirectRef` is a slot index. -/
structure JavaVMExt where
  globals : List (Option Nat)
  weakGlobals : List (Option Nat)

/-- The tables together with each object's no-swap header flag. -/
structure State where
  vm : JavaVMExt
  noSwap : Nat → Bool

def setNoSwapFlag (s : State) (obj : Nat) : State :=
  { s with noSwap := fun o => if o = obj then true else s.noSwap o }

/-- `IndirectReferenceTable::Add`: the new entry goes in a fresh slot, whose index is the
returned reference. -/
def irtAdd (t : List (Option Nat)) (obj : Nat) : Nat × List (Option Nat) := (t.length, t ++ [some obj])

def addGlobalRef (s : State) : Option Nat → Option Nat × State
  | none => (none, s)
  | some obj =>
    let s := setNoSwapFlag s obj
    (some (irtAdd s.vm.globals obj).1, { s with vm.globals := (irtAdd s.vm.globals obj).2 })

def addWeakGlobalRef (s : State) : Option Nat → Option Nat × State
  | none => (none, s)
  | some obj =>
    let s := setNoSwapFlag s obj
    (some (irtAdd s.vm.weakGlobals obj).1,
      { s with vm.weakGlobals := (irtAdd s.vm.weakGlobals obj).2 })

def deleteGlobalRef (s : State) : Option Nat → State
  | none => s
  | some ref => { s with vm.globals := s.vm.globals.set ref none }

def deleteWeakGlobalRef (s : State) : Option Nat → State
  | none => s
  | some ref => { s with vm.weakGlobals := s.vm.weakGlobals.set ref none }

def updateGlobal (s : State) (ref : Nat) (result : Option Nat) : State :=
  { s with vm.globals := s.vm.globals.set ref result }

def updateWeakGlobal (s : State) (ref : Nat) (result : Option Nat) : State :=
  { s with vm.weakGlobals := s.vm.weakGlobals.set ref result }

/-- `SweepJniWeakGlobals`: every non-null weak entry becomes what the GC's `IsMarked`
returns for it, or the cleared-weak-global sentinel when that is null. -/
def sweepJniWeakGlobals (s : State) (isMarked : Nat → Option Nat) (cleared : Nat) : State :=
  { s with vm.weakGlobals := s.vm.weakGlobals.map (Option.map fun o => (isMarked o).getD cleared) }

inductive Call
  | addGlobalRef (obj : Option Nat)
  | addWeakGlobalRef (obj : Option Nat)
  | deleteGlobalRef (ref : Option Nat)
  | deleteWeakGlobalRef (ref : Option Nat)
  | updateGlobal (ref : Nat) (result : Option Nat)
  | updateWeakGlobal (ref : Nat) (result : Option Nat)
  | sweepJniWeakGlobals (isMarked : Nat → Option Nat)

def runCall (cleared : Nat) (s : State) : Call → State
  | .addGlobalRef obj => (addGlobalRef s obj).2
  | .addWeakGlobalRef obj => (addWeakGlobalRef s obj).2
  | .deleteGlobalRef ref => deleteGlobalRef s ref
  | .deleteWeakGlobalRef ref => deleteWeakGlobalRef s ref
  | .updateGlobal ref result => updateGlobal s ref result
  | .updateWeakGlobal ref result => updateWeakGlobal s ref result
  | .sweepJniWeakGlobals isMarked => sweepJniWeakGlobals s isMarked cleared

/-- The GC's side of the contract: `IsMarked` returns null or the (possibly moved) object
with its header flags, and never moves the cleared sentinel, a non-moving object. -/
def Call.MarksKeepFlags (cleared : Nat) (s : State) : Call → Prop
  | .sweepJniWeakGlobals isMarked =>
    (∀ o o', isMarked o = some o' → s.noSwap o' = s.noSwap o) ∧
      ∀ o', isMarked cleared = some o' → o' = cleared
  | _ => True

/-- Every object a global or weak global entry refers to, other than the cleared sentinel,
is unswappable. -/
def NoSwapTargets (cleared : Nat) (s : State) : Prop :=
  ∀ o, (some o ∈ s.vm.globals ∨ some o ∈ s.vm.weakGlobals) → o ≠ cleared → s.noSwap o = true

/-- The entries a call may introduce without setting the flag: only the two Update paths
put a caller-chosen object into a table. -/
def Call.NewTargetFlagged (cleared : Nat) (s : State) : Call → Prop
  | .updateGlobal _ (some o) | .updateWeakGlobal _ (some o) => o ≠ cleared → s.noSwap o = true
  | _ => True

def runCalls (cleared : Nat) (s : State) (calls : List Call) : State :=
  calls.foldl (runCall cleared) s

theorem noSwap_setNoSwapFlag (s : State) (obj o : Nat) (h : s.noSwap o = true) :
    (setNoSwapFlag s obj).noSwap o = true := by
  simp [setNoSwapFlag, h]

theorem noSwapTargets_add {cleared : Nat} {s : State} (hs : NoSwapTargets cleared s) (obj : Nat)
    {g w : List (Option Nat)}
    (hg : ∀ o, some o ∈ g → some o ∈ s.vm.globals ∨ o = obj)
    (hw : ∀ o, some o ∈ w → some o ∈ s.vm.weakGlobals ∨ o = obj) :
    NoSwapTargets cleared { setNoSwapFlag s obj with vm := ⟨g, w⟩ } := by
  intro o ho hc
  have hold : some o ∈ s.vm.globals ∨ some o ∈ s.vm.weakGlobals ∨ o = obj := by
    rcases ho with h | h
    · rcases hg o h with h | h <;> simp [h]
    · rcases hw o h with h | h <;> simp [h]
  rcases hold with h | h | rfl
  · exact noSwap_setNoSwapFlag s obj o (hs o (.inl h) hc)
  · exact noSwap_setNoSwapFlag s obj o (hs o (.inr h) hc)
  · simp [setNoSwapFlag]

theorem mem_set_some {l : List (Option Nat)} {i o : Nat} {x : Option Nat}
    (h : some o ∈ l.set i x) : some o ∈ l ∨ x = some o :=
  (List.mem_or_eq_of_mem_set h).imp id Eq.symm

/-- Tables whose every entry is an old one or an unswappable object keep the invariant. -/
theorem noSwapTargets_of_entries {cleared : Nat} {s : State} (hs : NoSwapTargets cleared s)
    {g w : List (Option Nat)}
    (hg : ∀ o, some o ∈ g → o ≠ cleared → some o ∈ s.vm.globals ∨ s.noSwap o = true)
    (hw : ∀ o, some o ∈ w → o ≠ cleared → some o ∈ s.vm.weakGlobals ∨ s.noSwap o = true) :
    NoSwapTargets cleared { s with vm := ⟨g, w⟩ } := by
  rintro o (h | h) hc
  · exact (hg o h hc).elim (fun h => hs o (.inl h) hc) id
  · exact (hw o h hc).elim (fun h => hs o (.inr h) hc) id

/-- One call keeps every global and weak global target unswappable, provided the GC keeps
flags and the Update paths are given an unswappable object. -/
theorem noSwapTargets_run {cleared : Nat} {s : State} (hs : NoSwapTargets cleared s) (c : Call)
    (hm : c.MarksKeepFlags cleared s) (hn : c.NewTargetFlagged cleared s) :
    NoSwapTargets cleared (runCall cleared s c) := by
  cases c with
  | addGlobalRef obj =>
    cases obj with
    | none => exact hs
    | some obj =>
      exact noSwapTargets_add hs obj (by simp [irtAdd]; tauto) (fun o h => .inl h)
  | addWeakGlobalRef obj =>
    cases obj with
    | none => exact hs
    | some obj =>
      exact noSwapTargets_add hs obj (fun o h => .inl h) (by simp [irtAdd]; tauto)
  | deleteGlobalRef ref =>
    cases ref with
    | none => exact hs
    | some ref =>
      exact noSwapTargets_of_entries hs (fun o h _ => (mem_set_some h).imp_right nofun)
        fun o h _ => .inl h
  | deleteWeakGlobalRef ref =>
    cases ref with
    | none => exact hs
    | some ref =>
      exact noSwapTargets_of_entries hs (fun o h _ => .inl h)
        fun o h _ => (mem_set_some h).imp_right nofun
  | updateGlobal ref result =>
    refine noSwapTargets_of_entries hs (fun o h hc => ?_) fun o h _ => .inl h
    rcases mem_set_some h with h | rfl
    exacts [.inl h, .inr (hn hc)]
  | updateWeakGlobal ref result =>
    refine noSwapTargets_of_entries hs (fun o h _ => .inl h) fun o h hc => ?_
    rcases mem_set_some h with h | rfl
    exacts [.inl h, .inr (hn hc)]
  | sweepJniWeakGlobals isMarked =>
    obtain ⟨hkeep, hfix⟩ := hm
    refine noSwapTargets_of_entries hs (fun o h _ => .inl h) fun o h hc => .inr ?_
    obtain ⟨e, he, hmap⟩ := List.mem_map.mp h
    cases e with
    | none => cases hmap
    | some o0 =>
      simp only [Option.map_some', Option.some.injEq] at hmap
      cases hmk : isMarked o0 with
      | none => simp [hmk] at hmap; exact absurd hmap.symm hc
      | some o' =>
        simp only [hmk, Option.getD_some] at hmap
        subst hmap
        have h0 : o0 ≠ cleared := fun h0 => hc (hfix o' (h0 ▸ hmk))
        rw [hkeep o0 o' hmk]
        exact hs o0 (.inr he) h0

/-- The empty tables, no object flagged. -/
def initialState : State := ⟨⟨[], []⟩, fun _ => false⟩

/-- Adding a global reference to object 1 and then updating that entry to object 2 leaves a
global entry on object 2, whose no-swap flag nobody set. -/
theorem updateGlobal_installs_swappable :
    (runCalls 0 initialState [.addGlobalRef (some 1), .updateGlobal 0 (some 2)]).vm.globals =
        [some 2] ∧
      (runCalls 0 initialState [.addGlobalRef (some 1), .updateGlobal 0 (some 2)]).noSwap 2 =
        false ∧
      ¬ NoSwapTargets 0 (runCalls 0 initialState [.addGlobalRef (some 1), .updateGlobal 0 (some 2)]) := by
  refine ⟨by decide, by decide, fun h => ?_⟩
  have := h 2 (.inl (by decide)) (by decide)
  revert this
  decide

end Marvin.Jni
