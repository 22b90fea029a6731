import Marvin.Swap.TableEntry
import Mathlib.Logic.Function.Basic

namespace Marvin.Mirror
open Marvin.Swap Marvin.Swap.TableEntry

/-- A heap object: its header flags and its words by byte offset. For a stub,
`tableEntry` is the back-pointer `Stub::GetTableEntry()` reads. -/
structure Obj where
  stubFlag : Bool
  tableEntry : Nat
  fields : Nat → Nat
  ignoreReadFlag : Bool
  readBit : Bool
  writeBit : Bool
  dirtyBit : Bool

structure Heap where
  objs : Nat → Obj
  table : Nat → TableEntry

namespace Heap

def setObj (h : Heap) (a : Nat) (o : Obj) : Heap := { h with objs := Function.update h.objs a o }

def setEntry (h : Heap) (e : Nat) (x : TableEntry) : Heap :=
  { h with table := Function.update h.table e x }

@[simp] theorem setObj_objs (h : Heap) (a : Nat) (o : Obj) :
    (h.setObj a o).objs = Function.update h.objs a o := rfl
@[simp] theorem setObj_table (h : Heap) (a : Nat) (o : Obj) : (h.setObj a o).table = h.table := rfl
@[simp] theorem setEntry_objs (h : Heap) (e : Nat) (x : TableEntry) :
    (h.setEntry e x).objs = h.objs := rfl
@[simp] theorem setEntry_table (h : Heap) (e : Nat) (x : TableEntry) :
    (h.setEntry e x).table = Function.update h.table e x := rfl

end Heap

/-- The parts of the swap runtime in `niel_swap.h`, not under src/: `sizeof(Object)`,
`SwapInOnDemand` and `Stub::PopulateFrom`. -/
structure SwapRuntime where
  sizeofObject : Nat
  swapInOnDemand : Heap → Nat → Heap
  populateFrom : Obj → Obj → Obj

/-- What the body of a field accessor does to the field at `off` of the object it runs on,
returning the accessor's result (a value, a success flag as 0/1, or an address). -/
inductive Access
  | get
  | getObject
  | set (v : Nat)
  | setObject (v : Nat)
  | cas (old new : Nat)
  | compareAndExchange (old new : Nat)
  | exchange (new : Nat)
  | viaAccessor (f : Nat → Nat)
  | referenceAddr
  | visit (offsets : List Nat) (visitor : Obj → Nat → Obj)

def storeField (o : Obj) (off v : Nat) : Obj := { o with fields := Function.update o.fields off v }

/-- `visitor(this, field_offset, kIsStatic)` at each offset in turn, each call on what the
previous ones left. -/
def visitFields (visitor : Obj → Nat → Obj) (o : Obj) : List Nat → Obj
  | [] => o
  | off :: offs => visitFields visitor (visitor o off) offs

/-- The accessor bodies after the `marvin` preamble, with the read bit of `GetFieldObject` and the
write and dirty bits of `SetFieldObjectWithoutWriteBarrier`. -/
def Access.apply (a off : Nat) (o : Obj) : Access → Nat × Obj
  | .get => (o.fields off, o)
  | .getObject => (o.fields off, if o.ignoreReadFlag then o else { o with readBit := true })
  | .set v => (0, storeField o off v)
  | .setObject v => (0, { storeField o off v with writeBit := true, dirtyBit := true })
  | .cas old new => if o.fields off = old then (1, storeField o off new) else (0, o)
  | .compareAndExchange old new =>
    (o.fields off, if o.fields off = old then storeField o off new else o)
  | .exchange new => (o.fields off, storeField o off new)
  | .viaAccessor f => (o.fields off, storeField o off (f (o.fields off)))
  | .referenceAddr => (a + off, o)
  | .visit offsets visitor => (0, visitFields visitor o offsets)

/-- The accessor body run directly on the object at `a`. -/
def direct (acc : Access) (off : Nat) (h : Heap) (a : Nat) : Nat × Heap :=
  ((acc.apply a off (h.objs a)).1, h.setObj a (acc.apply a off (h.objs a)).2)

def stubEntry (h : Heap) (s : Nat) : Nat := (h.objs s).tableEntry

/-- `stub->LockTableEntry()` followed by the swap-in when the entry is not resident:
the heap the forwarded call runs on. -/
def prepared (rt : SwapRuntime) (h : Heap) (s : Nat) : Heap :=
  let h := h.setEntry (stubEntry h s) (h.table (stubEntry h s)).lockFromAppThread
  if (h.table (stubEntry h s)).getResidentBit then h else rt.swapInOnDemand h s

/-- `stub->GetObjectAddress()` once the payload is resident. -/
def payload (rt : SwapRuntime) (h : Heap) (s : Nat) : Nat :=
  let h := prepared rt h s
  (h.table (stubEntry h s)).getObjectAddress

/-- Modelled from the spec: `SWAP_PREAMBLE_TEMPLATE` of `niel_swap.h`, as
`SetFieldObjectWithoutWriteBarrier` expands it: lock, swap in, run on the payload, refresh. -/
def stubRedirect (rt : SwapRuntime) (body : Heap → Nat → Nat × Heap) (h : Heap) (s : Nat) :
    Nat × Heap :=
  let h1 := prepared rt h s
  let p := payload rt h s
  let h2 := (body h1 p).2
  let h3 := h2.setObj s (rt.populateFrom (h2.objs s) (h2.objs p))
  ((body h1 p).1, h3.setEntry (stubEntry h3 s) (h3.table (stubEntry h3 s)).unlockFromAppThread)

/-- Which stub test an accessor of `object-inl.h` starts with. -/
inductive Preamble
  | offsetGuarded
  | stubChecked
  | unconditional
  | none
  deriving DecidableEq, Repr

def Preamble.redirects (rt : SwapRuntime) (off : Nat) (stub : Bool) : Preamble → Bool
  | .offsetGuarded => decide (rt.sizeofObject ≤ off) && stub
  | .stubChecked | .unconditional => stub
  | .none => false

/-- One `mirror::Object` field accessor: its preamble, then its body. -/
def fieldAccessor (rt : SwapRuntime) (pre : Preamble) (acc : Access) (off : Nat) (h : Heap)
    (a : Nat) : Nat × Heap :=
  if pre.redirects rt off (h.objs a).stubFlag then stubRedirect rt (direct acc off) h a
  else direct acc off h a

def getFieldByte (rt : SwapRuntime) (off : Nat) := fieldAccessor rt .offsetGuarded .get off
def getFieldChar (rt : SwapRuntime) (off : Nat) := fieldAccessor rt .offsetGuarded .get off
def getFieldShort (rt : SwapRuntime) (off : Nat) := fieldAccessor rt .offsetGuarded .get off
def setFieldBoolean (rt : SwapRuntime) (off v : Nat) :=
  fieldAccessor rt .offsetGuarded (.set v) off
def setFieldByte (rt : SwapRuntime) (off v : Nat) := fieldAccessor rt .offsetGuarded (.set v) off
def setFieldChar (rt : SwapRuntime) (off v : Nat) := fieldAccessor rt .offsetGuarded (.set v) off
def setFieldShort (rt : SwapRuntime) (off v : Nat) := fieldAccessor rt .offsetGuarded (.set v) off
def setField32 (rt : SwapRuntime) (off v : Nat) := fieldAccessor rt .offsetGuarded (.set v) off
def setField64 (rt : SwapRuntime) (off v : Nat) := fieldAccessor rt .offsetGuarded (.set v) off
def setField64Volatile (rt : SwapRuntime) (off v : Nat) :=
  fieldAccessor rt .offsetGuarded (.set v) off
/-- The `int32_t` parameter of `SetField64Transaction`: the caller's 64-bit value `v` (as its
unsigned bits) keeps its low 32 bits, and `SetField64` widens them back by sign extension. -/
def int32Narrow (v : Nat) : Nat := ((BitVec.ofNat 32 v).signExtend 64).toNat

def setField64Transaction (rt : SwapRuntime) (off v : Nat) := setField64 rt off (int32Narrow v)

def casFieldWeakSequentiallyConsistent64 (rt : SwapRuntime) (off old new : Nat) :=
  fieldAccessor rt .offsetGuarded (.cas old new) off
def casFieldStrongSequentiallyConsistent64 (rt : SwapRuntime) (off old new : Nat) :=
  fieldAccessor rt .offsetGuarded (.cas old new) off
def getFieldObject (rt : SwapRuntime) (off : Nat) := fieldAccessor rt .offsetGuarded .getObject off
def getFieldObjectReferenceAddr (rt : SwapRuntime) (off : Nat) :=
  fieldAccessor rt .offsetGuarded .referenceAddr off
def setFieldObjectWithoutWriteBarrier (rt : SwapRuntime) (off v : Nat) :=
  fieldAccessor rt .stubChecked (.setObject v) off
def setFieldObject (rt : SwapRuntime) (off v : Nat) :=
  fieldAccessor rt .stubChecked (.setObject v) off
def casFieldObjectWithoutWriteBarrier (rt : SwapRuntime) (off old new : Nat) :=
  fieldAccessor rt .none (.cas old new) off
def casFieldObject (rt : SwapRuntime) (off old new : Nat) :=
  fieldAccessor rt .none (.cas old new) off
def compareAndExchangeFieldObject (rt : SwapRuntime) (off old new : Nat) :=
  fieldAccessor rt .none (.compareAndExchange old new) off
def exchangeFieldObject (rt : SwapRuntime) (off new : Nat) :=
  fieldAccessor rt .none (.exchange new) off
def getPrimitiveFieldViaAccessor (rt : SwapRuntime) (off : Nat) (f : Nat → Nat) :=
  fieldAccessor rt .none (.viaAccessor f) off
def updateFieldBooleanViaAccessor (rt : SwapRuntime) (off : Nat) (f : Nat → Nat) :=
  fieldAccessor rt .none (.viaAccessor f) off
def updateFieldByteViaAccessor (rt : SwapRuntime) (off : Nat) (f : Nat → Nat) :=
  fieldAccessor rt .none (.viaAccessor f) off
def updateFieldCharViaAccessor (rt : SwapRuntime) (off : Nat) (f : Nat → Nat) :=
  fieldAccessor rt .none (.viaAccessor f) off
def updateFieldShortViaAccessor (rt : SwapRuntime) (off : Nat) (f : Nat → Nat) :=
  fieldAccessor rt .none (.viaAccessor f) off
def updateField32ViaAccessor (rt : SwapRuntime) (off : Nat) (f : Nat → Nat) :=
  fieldAccessor rt .none (.viaAccessor f) off
def updateField64ViaAccessor (rt : SwapRuntime) (off : Nat) (f : Nat → Nat) :=
  fieldAccessor rt .none (.viaAccessor f) off

def kObjectHeaderSize : Nat := 8

/-- The reference offsets the `ref_offsets` bitmap loop of `VisitFieldsReferences` visits:
one per set bit, from the header end, one heap reference (4 bytes) apart. -/
def bitmapOffsets (refOffsets fieldOffset : Nat) : List Nat :=
  if refOffsets = 0 then []
  else
    (if refOffsets % 2 = 1 then [fieldOffset] else []) ++
      bitmapOffsets (refOffsets / 2) (fieldOffset + 4)
termination_by refOffsets
decreasing_by omega

/-- `VisitFieldsReferences`; `classWalk` is `some offsets` when the offsets come from the class walk
(static, or `kClassWalkSuper`), which reads metadata outside this model. -/
def visitFieldsReferences (rt : SwapRuntime) (refOffsets : Nat) (classWalk : Option (List Nat))
    (visitor : Obj → Nat → Obj) :=
  fieldAccessor rt .unconditional
    (.visit (classWalk.getD (bitmapOffsets refOffsets kObjectHeaderSize)) visitor) 0

/-- `ClassOffset()`: the class reference, the first word of the object header. -/
def classOffset : Nat := 0

/-- One class of the chain the class walk of `VisitFieldsReferences` climbs:
`NumReferenceInstanceFields()` and `GetFirstReferenceInstanceFieldOffset()`. -/
structure RefFields where
  numReferenceFields : Nat
  firstReferenceFieldOffset : Nat
  deriving DecidableEq, Repr

/-- The offsets the class walk of `VisitFieldsReferences` visits, from the object's class up its
superclasses: each class's reference fields, one heap reference apart, skipping `ClassOffset()`. -/
def classWalkOffsets : List RefFields → List Nat
  | [] => []
  | k :: ks =>
    ((List.range k.numReferenceFields).map fun i => k.firstReferenceFieldOffset + 4 * i).filter
        (· ≠ classOffset) ++ classWalkOffsets ks

/-- An accessor is transparent on the stub `s` when it returns and does to the payload what it does
on the payload itself, and changes the stub only through `PopulateFrom`. -/
structure StubTransparent (rt : SwapRuntime) (acc : Heap → Nat → Nat × Heap) (h : Heap)
    (s : Nat) : Prop where
  result : (acc h s).1 = (acc (prepared rt h s) (payload rt h s)).1
  payload_eq : (acc h s).2.objs (payload rt h s) =
    (acc (prepared rt h s) (payload rt h s)).2.objs (payload rt h s)
  stub_eq : (acc h s).2.objs s =
    rt.populateFrom ((prepared rt h s).objs s)
      ((acc (prepared rt h s) (payload rt h s)).2.objs (payload rt h s))

@[simp] theorem redirects_false (rt : SwapRuntime) (off : Nat) (pre : Preamble) :
    pre.redirects rt off false = false := by
  cases pre <;> simp [Preamble.redirects]

theorem fieldAccessor_of_not_stub {rt : SwapRuntime} {h : Heap} {a : Nat}
    (ha : (h.objs a).stubFlag = false) (pre : Preamble) (acc : Access) (off : Nat) :
    fieldAccessor rt pre acc off h a = direct acc off h a := by
  simp [fieldAccessor, ha]

theorem direct_objs_ne (acc : Access) (off : Nat) (h : Heap) {a b : Nat} (hb : b ≠ a) :
    (direct acc off h a).2.objs b = h.objs b := by
  simp [direct, Function.update_noteq hb]

theorem fieldAccessor_of_redirects {rt : SwapRuntime} {pre : Preamble} {off : Nat} {h : Heap}
    {s : Nat} (hre : pre.redirects rt off (h.objs s).stubFlag = true) (acc : Access) :
    fieldAccessor rt pre acc off h s = stubRedirect rt (direct acc off) h s := by
  simp [fieldAccessor, hre]

/-- A resident stub at 0 whose payload is the object at 1: the stub's own word at `off` is
stale (0) while the payload holds 5. -/
def staleStubHeap (off : Nat) : Heap where
  objs a := if a = 0 then ⟨true, 0, fun _ => 0, false, false, false, false⟩
    else ⟨false, 0, fun o => if o = off then 5 else 0, false, false, false, false⟩
  table _ := ⟨4, 0, 1⟩

/-- `CasFieldObjectWithoutWriteBarrier` has no stub test: on the stale stub it compares
and writes the stub's own word and fails, while on the payload the same call succeeds. -/
theorem casFieldObject_on_stub_misses_payload (rt : SwapRuntime) :
    (casFieldObjectWithoutWriteBarrier rt rt.sizeofObject 5 7 (staleStubHeap rt.sizeofObject) 0).1 = 0 ∧
      (casFieldObjectWithoutWriteBarrier rt rt.sizeofObject 5 7
        (prepared rt (staleStubHeap rt.sizeofObject) 0)
        (payload rt (staleStubHeap rt.sizeofObject) 0)).1 = 1 ∧
      ¬ StubTransparent rt (casFieldObjectWithoutWriteBarrier rt rt.sizeofObject 5 7)
        (staleStubHeap rt.sizeofObject) 0 := by
  have hres : (⟨4, 0, 1⟩ : TableEntry).getResidentBit = true := by decide
  have hp : payload rt (staleStubHeap rt.sizeofObject) 0 = 1 := by
    simp [payload, prepared, stubEntry, staleStubHeap, hres]; rfl
  have hs : (casFieldObjectWithoutWriteBarrier rt rt.sizeofObject 5 7
      (staleStubHeap rt.sizeofObject) 0).1 = 0 := by
    simp [casFieldObjectWithoutWriteBarrier, fieldAccessor, Preamble.redirects, direct,
      Access.apply, staleStubHeap]
  have hq : (casFieldObjectWithoutWriteBarrier rt rt.sizeofObject 5 7
      (prepared rt (staleStubHeap rt.sizeofObject) 0)
      (payload rt (staleStubHeap rt.sizeofObject) 0)).1 = 1 := by
    rw [hp]
    simp [casFieldObjectWithoutWriteBarrier, fieldAccessor, Preamble.redirects, direct,
      Access.apply, prepared, stubEntry, staleStubHeap, hres]
  exact ⟨hs, hq, fun ht => by have := ht.result; omega⟩

theorem mem_bitmapOffsets (r f o : Nat) :
    o ∈ bitmapOffsets r f ↔ ∃ k, r.testBit k = true ∧ o = f + 4 * k := by
  induction r, f using bitmapOffsets.induct with
  | case1 f => simp [bitmapOffsets]
  | case2 r f hr ih =>
    rw [bitmapOffsets, if_neg hr, List.mem_append, ih]
    constructor
    · rintro (h | ⟨k, hk, rfl⟩)
      · split at h
        · rename_i h1
          exact ⟨0, by simpa [Nat.testBit_zero] using h1, by simpa using h⟩
        · simp at h
      · exact ⟨k + 1, by simpa [Nat.testBit_succ] using hk, by omega⟩
    · rintro ⟨k, hk, rfl⟩
      cases k with
      | zero =>
        left
        simp only [Nat.testBit_zero, decide_eq_true_eq] at hk
        simp [hk]
      | succ k =>
        right
        exact ⟨k, by simpa [Nat.testBit_succ] using hk, by omega⟩

theorem bitmapOffsets_sorted (r f : Nat) : (bitmapOffsets r f).Pairwise (· < ·) ∧ ∀ o ∈ bitmapOffsets r f, f ≤ o := by
  induction r, f using bitmapOffsets.induct with
  | case1 f => simp [bitmapOffsets]
  | case2 r f hr ih =>
    rw [bitmapOffsets, if_neg hr]
    obtain ⟨hs, hge⟩ := ih
    refine ⟨List.pairwise_append.mpr ⟨by split <;> simp, hs, fun a ha b hb => ?_⟩, fun o ho => ?_⟩
    · split at ha <;> simp at ha
      have := hge b hb
      omega
    · rcases List.mem_append.mp ho with ho | ho
      · split at ho <;> simp at ho; omega
      · have := hge o ho; omega


theorem visitFields_eq_foldl (visitor : Obj → Nat → Obj) (o : Obj) (offs : List Nat) :
    visitFields visitor o offs = offs.foldl visitor o := by
  induction offs generalizing o with
  | nil => rfl
  | cons off offs ih => exact ih _

/-- When bit `k` of `ref_offsets` marks the field at `kObjectHeaderSize + 4 k` exactly when the
class walk visits it, the bitmap loop visits the walk's distinct offsets, each once. -/
theorem bitmapOffsets_perm_classWalk {refOffsets : Nat} {chain : List RefFields}
    (hbits : refOffsets < 2 ^ 32)
    (hlayout : ∀ k < 32, refOffsets.testBit k = true ↔ kObjectHeaderSize + 4 * k ∈ classWalkOffsets chain)
    (hwithin : ∀ o ∈ classWalkOffsets chain, ∃ k < 32, o = kObjectHeaderSize + 4 * k)
    (hnd : (classWalkOffsets chain).Nodup) :
    (bitmapOffsets refOffsets kObjectHeaderSize).Perm (classWalkOffsets chain) := by
  rw [List.perm_ext_iff_of_nodup
    ((bitmapOffsets_sorted refOffsets kObjectHeaderSize).1.imp Nat.ne_of_lt) hnd]
  intro o
  rw [mem_bitmapOffsets]
  constructor
  · rintro ⟨k, hk, rfl⟩
    have hk32 : k < 32 := by
      by_contra hge
      rw [Nat.testBit_lt_two_pow (lt_of_lt_of_le hbits (Nat.pow_le_pow_right (by decide) (by omega)))] at hk
      exact absurd hk (by decide)
    exact (hlayout k hk32).mp hk
  · intro ho
    obtain ⟨k, hk32, rfl⟩ := hwithin o ho
    exact ⟨k, (hlayout k hk32).mpr ho, rfl⟩

/-- Visiting a permutation of the offsets leaves the same heap, for a visitor whose calls at
distinct offsets commute. -/
theorem direct_visit_perm {offs offs' : List Nat} (hp : offs.Perm offs') (visitor : Obj → Nat → Obj)
    (hcomm : ∀ o x y, x ≠ y → visitor (visitor o x) y = visitor (visitor o y) x) :
    direct (.visit offs visitor) 0 = direct (.visit offs' visitor) 0 := by
  funext h a
  simp only [direct, Access.apply, visitFields_eq_foldl]
  rw [hp.foldl_eq' fun x _ y _ z => by
    by_cases hxy : x = y
    · rw [hxy]
    · exact hcomm z x y hxy]

/-- When the bitmap of `ref_offsets` marks exactly the fields the class walk visits, the bitmap
loop visits them sorted by offset; a visitor commuting at distinct offsets sees no difference. -/
theorem visitFieldsReferences_bitmap_visits_walk_sorted (rt : SwapRuntime) (refOffsets : Nat)
    (chain : List RefFields) (visitor : Obj → Nat → Obj) (h : Heap) (a : Nat)
    (hbits : refOffsets < 2 ^ 32)
    (hlayout : ∀ k < 32, refOffsets.testBit k = true ↔ kObjectHeaderSize + 4 * k ∈ classWalkOffsets chain)
    (hwithin : ∀ o ∈ classWalkOffsets chain, ∃ k < 32, o = kObjectHeaderSize + 4 * k)
    (hnd : (classWalkOffsets chain).Nodup) :
    bitmapOffsets refOffsets kObjectHeaderSize =
        (classWalkOffsets chain).mergeSort (fun x y => decide (x ≤ y)) ∧
      visitFieldsReferences rt refOffsets none visitor h a =
        visitFieldsReferences rt refOffsets
          (some ((classWalkOffsets chain).mergeSort fun x y => decide (x ≤ y))) visitor h a ∧
      ((∀ o x y, x ≠ y → visitor (visitor o x) y = visitor (visitor o y) x) →
        visitFieldsReferences rt refOffsets none visitor h a =
          visitFieldsReferences rt refOffsets (some (classWalkOffsets chain)) visitor h a) := by
  have hperm := bitmapOffsets_perm_classWalk hbits hlayout hwithin hnd
  have hsorted : bitmapOffsets refOffsets kObjectHeaderSize =
      (classWalkOffsets chain).mergeSort (fun x y => decide (x ≤ y)) :=
    List.eq_of_perm_of_sorted (hperm.trans (List.mergeSort_perm _ _).symm)
      ((bitmapOffsets_sorted refOffsets kObjectHeaderSize).1.imp le_of_lt)
      ((List.sorted_mergeSort (fun _ _ _ hab hbc => by simp_all; omega)
        (fun x y => by simpa using Nat.le_total x y) _).imp (by simp))
  refine ⟨hsorted, by simp only [visitFieldsReferences, Option.getD, hsorted], fun hcomm => ?_⟩
  simp only [visitFieldsReferences, fieldAccessor, Option.getD, direct_visit_perm hperm visitor hcomm]

/-- A class with one reference field at 16 under a class with two at 8 and 12, under `Object`:
the walk visits 16, 8, 12, and the bitmap `0b111` visits 8, 12, 16. -/
theorem three_reference_fields_bitmap_sorted :
    (7 : Nat) < 2 ^ 32 ∧
      (∀ k < 32, Nat.testBit 7 k = true ↔
        kObjectHeaderSize + 4 * k ∈ classWalkOffsets [⟨1, 16⟩, ⟨2, 8⟩, ⟨1, 0⟩]) ∧
      (∀ o ∈ classWalkOffsets [⟨1, 16⟩, ⟨2, 8⟩, ⟨1, 0⟩], ∃ k < 32, o = kObjectHeaderSize + 4 * k) ∧
      (classWalkOffsets [⟨1, 16⟩, ⟨2, 8⟩, ⟨1, 0⟩]).Nodup ∧
      (bitmapOffsets 7 kObjectHeaderSize =
          (classWalkOffsets [⟨1, 16⟩, ⟨2, 8⟩, ⟨1, 0⟩]).mergeSort (fun x y => decide (x ≤ y)) ∧
        visitFieldsReferences ⟨8, fun h _ => h, fun s _ => s⟩ 7 none
            (fun o off => storeField o off (o.fields off + 1))
            ⟨fun _ => ⟨false, 0, fun _ => 0, false, false, false, false⟩, fun _ => ⟨0, 0, 0⟩⟩ 0 =
          visitFieldsReferences ⟨8, fun h _ => h, fun s _ => s⟩ 7
            (some ((classWalkOffsets [⟨1, 16⟩, ⟨2, 8⟩, ⟨1, 0⟩]).mergeSort
              fun x y => decide (x ≤ y)))
            (fun o off => storeField o off (o.fields off + 1))
            ⟨fun _ => ⟨false, 0, fun _ => 0, false, false, false, false⟩, fun _ => ⟨0, 0, 0⟩⟩ 0 ∧
        ((∀ o x y, x ≠ y →
            (fun o off => storeField o off (o.fields off + 1))
                ((fun o off => storeField o off (o.fields off + 1)) o x) y =
              (fun o off => storeField o off (o.fields off + 1))
                ((fun o off => storeField o off (o.fields off + 1)) o y) x) →
          visitFieldsReferences ⟨8, fun h _ => h, fun s _ => s⟩ 7 none
              (fun o off => storeField o off (o.fields off + 1))
              ⟨fun _ => ⟨false, 0, fun _ => 0, false, false, false, false⟩, fun _ => ⟨0, 0, 0⟩⟩ 0 =
            visitFieldsReferences ⟨8, fun h _ => h, fun s _ => s⟩ 7
              (some (classWalkOffsets [⟨1, 16⟩, ⟨2, 8⟩, ⟨1, 0⟩]))
              (fun o off => storeField o off (o.fields off + 1))
              ⟨fun _ => ⟨false, 0, fun _ => 0, false, false, false, false⟩, fun _ => ⟨0, 0, 0⟩⟩ 0)) :=
  ⟨by decide, by decide, by decide, by decide,
    visitFieldsReferences_bitmap_visits_walk_sorted _ 7 [⟨1, 16⟩, ⟨2, 8⟩, ⟨1, 0⟩] _ _ 0 (by decide)
      (by decide) (by decide) (by decide)⟩

theorem int32Narrow_eq_iff {v : Nat} (hv : v < 2 ^ 64) :
    int32Narrow v = v ↔ v < 2 ^ 31 ∨ 2 ^ 64 - 2 ^ 31 ≤ v := by
  have hx : (BitVec.ofNat 32 v).toNat = v % 2 ^ 32 := BitVec.toNat_ofNat _ _
  by_cases hmsb : (BitVec.ofNat 32 v).msb = true
  · have hge : 2 ^ 31 ≤ v % 2 ^ 32 := by
      simpa [BitVec.msb_eq_decide, hx] using hmsb
    rw [int32Narrow, BitVec.signExtend_eq_not_setWidth_not_of_msb_true hmsb, BitVec.toNat_not,
      BitVec.toNat_setWidth, BitVec.toNat_not, hx]
    omega
  · have hlt : v % 2 ^ 32 < 2 ^ 31 := by
      simpa [BitVec.msb_eq_decide, hx] using hmsb
    rw [int32Narrow, BitVec.signExtend_eq_not_setWidth_not_of_msb_false (by simpa using hmsb),
      BitVec.toNat_setWidth, hx]
    omega

/-- The word `SetField64` leaves at `off` of a plain object. -/
theorem setField64_fields_of_not_stub (rt : SwapRuntime) {h : Heap} {a : Nat}
    (ha : (h.objs a).stubFlag = false) (off v : Nat) :
    ((setField64 rt off v h a).2.objs a).fields off = v := by
  simp [setField64, fieldAccessor_of_not_stub ha, direct, Access.apply, storeField]

/-- `SetField64Transaction` takes its value as an `int32_t`: it does what `SetField64` does with
the same 64-bit value exactly when that value, read as signed, fits in 32 bits. -/
theorem setField64Transaction_eq_iff (rt : SwapRuntime) (off v : Nat) (hv : v < 2 ^ 64) :
    setField64Transaction rt off v = setField64 rt off v ↔ v < 2 ^ 31 ∨ 2 ^ 64 - 2 ^ 31 ≤ v := by
  rw [← int32Narrow_eq_iff hv]
  refine ⟨fun heq => ?_, fun heq => by rw [setField64Transaction, heq]⟩
  let h : Heap := ⟨fun _ => ⟨false, 0, fun _ => 0, false, false, false, false⟩, fun _ => ⟨0, 0, 0⟩⟩
  have hw := congrArg (fun r : Nat × Heap => (r.2.objs 0).fields off) (congrFun (congrFun heq h) 0)
  simpa only [setField64Transaction, setField64_fields_of_not_stub rt (h := h) rfl] using hw

/-- `2^32` does not survive the narrowing: its low 32 bits are zero. -/
theorem long_field_transaction_drops_high_word :
    (2 ^ 32 : Nat) < 2 ^ 64 ∧
      (setField64Transaction ⟨8, fun h _ => h, fun s _ => s⟩ 8 (2 ^ 32) =
          setField64 ⟨8, fun h _ => h, fun s _ => s⟩ 8 (2 ^ 32) ↔
        (2 ^ 32 : Nat) < 2 ^ 31 ∨ 2 ^ 64 - 2 ^ 31 ≤ (2 ^ 32 : Nat)) :=
  ⟨by decide, setField64Transaction_eq_iff ⟨8, fun h _ => h, fun s _ => s⟩ 8 (2 ^ 32) (by decide)⟩

end Marvin.Mirror
