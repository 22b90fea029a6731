import Marvin.Space.Accounting

namespace Marvin.Space

/-- `LargeObjectMapSpace::LargeObject`: the `BaseSize()` of the object's own mapping and its
zygote flag. -/
structure LargeObject where
  baseSize : Nat
  isZygote : Bool
  deriving DecidableEq, Repr

/-- `large_objects_` maps each object's address to its mapping. The list is in no particular
order: no modelled function depends on it. -/
structure LargeObjectMapSpace extends LargeObjectSpace where
  largeObjects : List (Nat × LargeObject)
  deriving DecidableEq, Repr

namespace LargeObjectMapSpace

/-- The constructor: no objects, and `begin_ = end_ = nullptr`. -/
def create : LargeObjectMapSpace := ⟨⟨0, 0, 0, 0, 0, 0⟩, []⟩

def find (s : LargeObjectMapSpace) (obj : Nat) : Option LargeObject := s.largeObjects.lookup obj

/-- `LargeObjectMapSpace::Contains`, which overrides the bounds test of `LargeObjectSpace`:
whether `large_objects_` holds the object. -/
def contains (s : LargeObjectMapSpace) (obj : Nat) : Bool := (s.find obj).isSome

/-- `LargeObjectMapSpace::Alloc`, given what `MemMap::MapAnonymous` returned for `num_bytes`: the
mapping's begin and `BaseSize()`, or `none` when it failed. -/
def alloc (s : LargeObjectMapSpace) (memMap : Option (Nat × Nat)) :
    Checked (Option Allocation × LargeObjectMapSpace) :=
  match memMap with
  | none => pure (none, s)
  | some (obj, allocationSize) =>
    pure (some ⟨obj, allocationSize, allocationSize, allocationSize⟩,
      { s with
        largeObjects := (obj, ⟨allocationSize, false⟩) :: s.largeObjects
        begin_ := if s.begin_ = 0 ∨ obj < s.begin_ then obj else s.begin_
        end_ := max s.end_ (obj + allocationSize)
        numBytesAllocated := s.numBytesAllocated + allocationSize
        totalBytesAllocated := s.totalBytesAllocated + allocationSize
        numObjectsAllocated := s.numObjectsAllocated + 1
        totalObjectsAllocated := s.totalObjectsAllocated + 1 })

def isZygoteLargeObject (s : LargeObjectMapSpace) (obj : Nat) : Checked Bool :=
  match s.find obj with
  | none => do
    check false
    pure false
  | some lo => pure lo.isZygote

/-- `SetAllLargeObjectsAsZygoteObjects`; the mark bits it sets on request are in the objects. -/
def setAllLargeObjectsAsZygoteObjects (s : LargeObjectMapSpace) : LargeObjectMapSpace :=
  { s with largeObjects := s.largeObjects.map fun e => (e.1, { e.2 with isZygote := true }) }

def free (s : LargeObjectMapSpace) (ptr : Nat) : Checked (Nat × LargeObjectMapSpace) := do
  gcRecordFree ptr
  match s.find ptr with
  | none => do
    check false
    pure (0, s)
  | some lo => do
    let allocationSize := lo.baseSize
    dcheck (allocationSize ≤ s.numBytesAllocated)
    pure (allocationSize, { s with
      numBytesAllocated := s.numBytesAllocated - allocationSize
      numObjectsAllocated := s.numObjectsAllocated - 1
      largeObjects := s.largeObjects.eraseP (·.1 == ptr) })

def allocationSize (s : LargeObjectMapSpace) (obj : Nat) : Checked Nat :=
  match s.find obj with
  | none => do
    check false
    pure 0
  | some lo => pure lo.baseSize

def getBeginEndAtomic (s : LargeObjectMapSpace) : Nat × Nat := (s.begin_, s.end_)

def kMemoryToolRedZoneBytes : Nat := kPageSize

/-- `ObjectWithRedzone`: the start of the mapping that an object of the memory-tool space lies in. -/
def objectWithRedzone (obj : Nat) : Nat := obj - kMemoryToolRedZoneBytes

/-- What an `Alloc` wrote through `bytes_allocated`, `usable_size` and `bytes_tl_bulk_allocated`;
`none` where it wrote nothing. -/
structure OutParams where
  bytesAllocated : Option Nat
  usableSize : Option Nat
  bytesTlBulkAllocated : Option Nat
  deriving DecidableEq, Repr

/-- `MemoryToolLargeObjectMapSpace::Alloc`, given what `MapAnonymous` returned for `num_bytes` plus
two red zones: the address one red zone into the mapping, and the out-parameters. -/
def memoryToolAlloc (s : LargeObjectMapSpace) (numBytes : Nat) (memMap : Option (Nat × Nat)) :
    Checked (Nat × OutParams × LargeObjectMapSpace) := do
  let (r, s) ← s.alloc memMap
  let obj := (r.map Allocation.obj).getD 0
  pure (obj + kMemoryToolRedZoneBytes,
    ⟨r.map Allocation.bytesAllocated, some numBytes, r.map Allocation.bytesTlBulkAllocated⟩, s)

/-- When `MapAnonymous` fails the space is unchanged, yet the result is `nullptr` plus a red zone
and `usable_size` is written. -/
example (s : LargeObjectMapSpace) (numBytes : Nat) :
    (s.memoryToolAlloc numBytes none).val = (kPageSize, ⟨none, some numBytes, none⟩, s) := rfl

def memoryToolAllocationSize (s : LargeObjectMapSpace) (obj : Nat) : Checked Nat :=
  s.allocationSize (objectWithRedzone obj)

def memoryToolIsZygoteLargeObject (s : LargeObjectMapSpace) (obj : Nat) : Checked Bool :=
  s.isZygoteLargeObject (objectWithRedzone obj)

/-- `MemoryToolLargeObjectMapSpace::Free`: `MEMORY_TOOL_MAKE_UNDEFINED` evaluates
`AllocationSize(obj)`, then the base `Free` runs on the mapping's start. -/
def memoryToolFree (s : LargeObjectMapSpace) (obj : Nat) : Checked (Nat × LargeObjectMapSpace) := do
  let _ ← s.memoryToolAllocationSize obj
  s.free (objectWithRedzone obj)

section Lemmas

variable {s : LargeObjectMapSpace} {p q : Nat}

@[simp] theorem alloc_none (s : LargeObjectMapSpace) : s.alloc none = pure (none, s) := rfl

@[simp] theorem find_alloc (s : LargeObjectMapSpace) (m n q : Nat) :
    (s.alloc (some (m, n))).val.2.find q = if q = m then some ⟨n, false⟩ else s.find q := by
  by_cases h : q = m
  · simp [alloc, find, h]
  · simp [alloc, find, List.lookup_cons, beq_eq_false_iff_ne.mpr h, h]

@[simp] theorem alloc_begin (s : LargeObjectMapSpace) (m n : Nat) :
    (s.alloc (some (m, n))).val.2.begin_ = if s.begin_ = 0 ∨ m < s.begin_ then m else s.begin_ :=
  rfl

@[simp] theorem alloc_end (s : LargeObjectMapSpace) (m n : Nat) :
    (s.alloc (some (m, n))).val.2.end_ = max s.end_ (m + n) := rfl

@[simp] theorem free_begin (s : LargeObjectMapSpace) (ptr : Nat) :
    (s.free ptr).val.2.begin_ = s.begin_ := by
  simp only [free, Checked.val_bind]
  split <;> rfl

@[simp] theorem free_end (s : LargeObjectMapSpace) (ptr : Nat) :
    (s.free ptr).val.2.end_ = s.end_ := by
  simp only [free, Checked.val_bind]
  split <;> rfl

theorem lookup_eraseP_of_ne (hne : q ≠ p) (l : List (Nat × LargeObject)) :
    (l.eraseP (·.1 == p)).lookup q = l.lookup q := by
  induction l with
  | nil => rfl
  | cons e l ih =>
    obtain ⟨k, v⟩ := e
    by_cases h : k = p
    · subst h
      simp [List.lookup_cons, beq_eq_false_iff_ne.mpr hne]
    · cases hq : q == k <;> simp [List.eraseP_cons, h, List.lookup_cons, hq, ih]

@[simp] theorem allocationSize_val (s : LargeObjectMapSpace) (obj : Nat) :
    (s.allocationSize obj).val = ((s.find obj).map LargeObject.baseSize).getD 0 := by
  unfold allocationSize
  split <;> simp [*]

theorem free_of_find {lo : LargeObject} (h : s.find p = some lo) :
    (s.free p).val = (lo.baseSize, { s with
      numBytesAllocated := s.numBytesAllocated - lo.baseSize
      numObjectsAllocated := s.numObjectsAllocated - 1
      largeObjects := s.largeObjects.eraseP (·.1 == p) }) := by
  simp [free, h]

theorem find_free_of_ne (hne : q ≠ p) : (s.free p).val.2.find q = s.find q := by
  cases h : s.find p with
  | none => simp [free, h]
  | some lo => rw [free_of_find h]; exact lookup_eraseP_of_ne hne _

@[simp] theorem free_freed (s : LargeObjectMapSpace) (ptr : Nat) : (s.free ptr).freed = [ptr] := by
  simp only [free, Checked.freed_bind, gcRecordFree_freed]
  split <;> simp

@[simp] theorem allocationSize_freed (s : LargeObjectMapSpace) (obj : Nat) :
    (s.allocationSize obj).freed = [] := by
  unfold allocationSize
  split <;> simp

@[simp] theorem memoryToolFree_freed (s : LargeObjectMapSpace) (obj : Nat) :
    (s.memoryToolFree obj).freed = [objectWithRedzone obj] := by
  simp [memoryToolFree, memoryToolAllocationSize]

@[simp] theorem memoryToolAlloc_obj (s : LargeObjectMapSpace) (numBytes m n : Nat) :
    (s.memoryToolAlloc numBytes (some (m, n))).val.1 = m + kMemoryToolRedZoneBytes := rfl

theorem keys_eraseP (l : List (Nat × LargeObject)) (p : Nat) :
    (l.eraseP (·.1 == p)).map Prod.fst = (l.map Prod.fst).erase p := by
  rw [List.erase_eq_eraseP', List.eraseP_map]
  rfl

end Lemmas

end LargeObjectMapSpace

open LargeObjectMapSpace

/-- The states of a `LargeObjectMapSpace` through `Alloc` and `Free` of live objects; a new mapping
never starts at a live object or at `nullptr`. -/
inductive MapReachable : LargeObjectMapSpace → List Nat → Prop where
  | create : MapReachable LargeObjectMapSpace.create []
  | alloc {s : LargeObjectMapSpace} {live : List Nat} {memMap : Option (Nat × Nat)}
      (h : MapReachable s live) (hfresh : ∀ m ∈ memMap, m.1 ∉ live)
      (hnull : ∀ m ∈ memMap, 0 < m.1) :
      MapReachable (s.alloc memMap).val.2
        (live ++ ((s.alloc memMap).val.1.map Allocation.obj).toList)
  | free {s : LargeObjectMapSpace} {live : List Nat} {obj : Nat} (h : MapReachable s live)
      (hobj : obj ∈ live) : MapReachable (s.free obj).val.2 (live.erase obj)

/-- The representation invariant of the map space: its keys are the live objects, each once,
and the counters are the total of their sizes and their number. -/
structure MapInv (s : LargeObjectMapSpace) (live : List Nat) : Prop where
  keys : (s.largeObjects.map Prod.fst).Perm live
  nodup : live.Nodup
  bytes : s.numBytesAllocated = (live.map fun obj => (s.allocationSize obj).val).sum
  objects : s.numObjectsAllocated = live.length

namespace MapInv

variable {s : LargeObjectMapSpace} {live : List Nat}

theorem create : MapInv LargeObjectMapSpace.create [] := ⟨.nil, .nil, rfl, rfl⟩

theorem find_of_mem (h : MapInv s live) {p : Nat} (hp : p ∈ live) : ∃ lo, s.find p = some lo := by
  obtain ⟨e, he, rfl⟩ := List.mem_map.mp (h.keys.symm.subset hp)
  exact Option.isSome_iff_exists.mp (List.lookup_isSome_iff.mpr ⟨e, he, beq_self_eq_true _⟩)

theorem baseSize_le (h : MapInv s live) {p : Nat} (hp : p ∈ live) {lo : LargeObject}
    (hlo : s.find p = some lo) : lo.baseSize ≤ s.numBytesAllocated := by
  have := h.bytes ▸ List.le_sum_of_mem (List.mem_map_of_mem (fun obj => (s.allocationSize obj).val) hp)
  simpa [hlo] using this

theorem alloc (h : MapInv s live) {m n : Nat} (hm : m ∉ live) :
    MapInv (s.alloc (some (m, n))).val.2 (live ++ [m]) := by
  have hsize : ∀ q ∈ live,
      ((s.alloc (some (m, n))).val.2.allocationSize q).val = (s.allocationSize q).val :=
    fun q hq => by simp [show q ≠ m from fun e => hm (e ▸ hq)]
  refine ⟨(h.keys.cons m).trans (List.perm_append_singleton m live).symm,
    (List.perm_append_singleton m live).nodup_iff.mpr (List.nodup_cons.mpr ⟨hm, h.nodup⟩), ?_,
    by simp [LargeObjectMapSpace.alloc, h.objects]⟩
  rw [List.map_append, List.sum_append, List.map_congr_left hsize, ← h.bytes]
  simp only [List.map_cons, List.map_nil, List.sum_cons, List.sum_nil, allocationSize_val,
    find_alloc, if_pos rfl, Option.map_some', Option.getD_some, Nat.add_zero]
  rfl

theorem free (h : MapInv s live) {p : Nat} (hp : p ∈ live) :
    MapInv (s.free p).val.2 (live.erase p) := by
  obtain ⟨lo, hlo⟩ := h.find_of_mem hp
  have hsize : ∀ q ∈ live.erase p,
      ((s.free p).val.2.allocationSize q).val = (s.allocationSize q).val :=
    fun q hq => by simp [find_free_of_ne (h.nodup.mem_erase_iff.mp hq).1]
  have hsum := ((List.perm_cons_erase hp).map fun obj => (s.allocationSize obj).val).sum_eq
  have hp' : (s.allocationSize p).val = lo.baseSize := by simp [hlo]
  rw [List.map_cons, List.sum_cons, hp'] at hsum
  refine ⟨?_, h.nodup.erase p, ?_, ?_⟩ <;> rw [free_of_find hlo]
  · simpa [keys_eraseP] using h.keys.erase p
  · rw [← free_of_find hlo, List.map_congr_left hsize, free_of_find hlo]
    have := h.bytes
    simp only
    omega
  · simp only [List.length_erase_of_mem hp, h.objects]

end MapInv

theorem MapReachable.inv {s : LargeObjectMapSpace} {live : List Nat} (h : MapReachable s live) :
    MapInv s live := by
  induction h with
  | create => exact .create
  | @alloc s live memMap _ hfresh _ ih =>
    rcases memMap with _ | ⟨m, n⟩
    · simpa using ih
    · exact ih.alloc (hfresh (m, n) rfl)
  | free _ hobj ih => exact ih.free hobj

/-- `Free` of a live object of a reachable map space keeps it reachable and drops the counters
by exactly what it returns and by one. -/
theorem mapReachable_freesExactly :
    FreesExactly LargeObjectMapSpace.free (·.numBytesAllocated) (·.numObjectsAllocated)
      MapReachable := by
  intro s live p h hp
  have hi := h.inv
  obtain ⟨lo, hlo⟩ := hi.find_of_mem hp
  have hle := hi.baseSize_le hp hlo
  have hpos : 0 < s.numObjectsAllocated := hi.objects ▸ List.length_pos_of_mem hp
  refine ⟨.free h hp, ?_, ?_⟩ <;> rw [free_of_find hlo] <;> simp only <;> omega

/-- Unlike `FreeListSpace`, the map space has no `DCHECK` that a reachable state can fail on its
live objects: `AllocationSize` and `Free` of any of them pass every check. -/
theorem mapReachable_free_checks {s : LargeObjectMapSpace} {live : List Nat} {obj : Nat}
    (h : MapReachable s live) (hobj : obj ∈ live) :
    (s.allocationSize obj).checks = true ∧ (s.free obj).checks = true ∧
      (s.free obj).dchecks = true := by
  have hi := h.inv
  obtain ⟨lo, hlo⟩ := hi.find_of_mem hobj
  simp [allocationSize, free, hlo, hi.baseSize_le hobj hlo]

/-- Where the live mappings lie: inside [Begin(), End()), and none while `begin_` is still
`nullptr`. -/
structure MapBounds (s : LargeObjectMapSpace) (live : List Nat) : Prop where
  range : ∀ obj ∈ live, s.begin_ ≤ obj ∧ obj + (s.allocationSize obj).val ≤ s.end_
  unset : s.begin_ = 0 → live = []

namespace MapBounds

variable {s : LargeObjectMapSpace} {live : List Nat}

theorem create : MapBounds LargeObjectMapSpace.create [] := ⟨by simp, fun _ => rfl⟩

theorem alloc (h : MapBounds s live) {m n : Nat} (hm : m ∉ live) (hpos : 0 < m) :
    MapBounds (s.alloc (some (m, n))).val.2 (live ++ [m]) := by
  refine ⟨fun q hq => ?_, fun h0 => ?_⟩
  · simp only [alloc_begin, alloc_end, allocationSize_val, find_alloc]
    rcases List.mem_append.mp hq with hq | hq
    · have hset : s.begin_ ≠ 0 := fun e => List.ne_nil_of_mem hq (h.unset e)
      have := h.range q hq
      simp only [allocationSize_val, if_neg (show q ≠ m from fun e => hm (e ▸ hq))] at this ⊢
      split <;> omega
    · obtain rfl := List.mem_singleton.mp hq
      simp only [↓reduceIte, Option.map_some', Option.getD_some]
      split <;> omega
  · simp only [alloc_begin] at h0
    split at h0 <;> omega

theorem free (h : MapBounds s live) (hnd : live.Nodup) (p : Nat) :
    MapBounds (s.free p).val.2 (live.erase p) := by
  refine ⟨fun q hq => ?_, fun h0 => ?_⟩
  · simpa [find_free_of_ne (hnd.mem_erase_iff.mp hq).1] using h.range q (List.mem_of_mem_erase hq)
  · simp [h.unset (by simpa using h0)]

end MapBounds

theorem MapReachable.bounds {s : LargeObjectMapSpace} {live : List Nat} (h : MapReachable s live) :
    MapBounds s live := by
  induction h with
  | create => exact .create
  | @alloc s live memMap _ hfresh hnull ih =>
    rcases memMap with _ | ⟨m, n⟩
    · simpa using ih
    · exact ih.alloc (hfresh (m, n) rfl) (hnull (m, n) rfl)
  | free h _ ih => exact ih.free h.inv.nodup _

/-- The range `Sweep` reads holds every live mapping; `Alloc` keeps a set `begin_` set and never
raises it or lowers `end_`, and `Free` keeps both. -/
theorem map_space_sweep_range_covers_live :
    (∀ s live, MapReachable s live → ∀ obj ∈ live,
      s.getBeginEndAtomic.1 ≤ obj ∧ obj + (s.allocationSize obj).val ≤ s.getBeginEndAtomic.2) ∧
    (∀ (s : LargeObjectMapSpace) (memMap : Option (Nat × Nat)), (∀ m ∈ memMap, 0 < m.1) →
      (0 < s.begin_ →
        0 < (s.alloc memMap).val.2.begin_ ∧ (s.alloc memMap).val.2.begin_ ≤ s.begin_) ∧
      s.end_ ≤ (s.alloc memMap).val.2.end_) ∧
    ∀ (s : LargeObjectMapSpace) (ptr : Nat),
      (s.free ptr).val.2.begin_ = s.begin_ ∧ (s.free ptr).val.2.end_ = s.end_ := by
  refine ⟨fun s live h => h.bounds.range, fun s memMap hnull => ?_, fun s ptr => by simp⟩
  rcases memMap with _ | ⟨m, n⟩
  · simp
  · have := hnull (m, n) rfl
    simp only [alloc_begin, alloc_end]
    exact ⟨fun _ => by split <;> omega, le_max_left _ _⟩

theorem mapReachable_one_mapping : MapReachable (create.alloc (some (4096, 8192))).val.2 [4096] := by
  simpa using @MapReachable.alloc _ [] (some (4096, 8192)) .create (by simp) (by simp)

/-- One mapping lies in the range `Sweep` reads, and a second mapping below it lowers `begin_`. -/
theorem second_mapping_lowers_sweep_begin :
    ((create.alloc (some (4096, 8192))).val.2.getBeginEndAtomic.1 ≤ 4096 ∧
      4096 + ((create.alloc (some (4096, 8192))).val.2.allocationSize 4096).val ≤
        (create.alloc (some (4096, 8192))).val.2.getBeginEndAtomic.2) ∧
      (0 < ((create.alloc (some (4096, 8192))).val.2.alloc (some (1024, 1024))).val.2.begin_ ∧
        ((create.alloc (some (4096, 8192))).val.2.alloc (some (1024, 1024))).val.2.begin_ ≤
          (create.alloc (some (4096, 8192))).val.2.begin_) ∧
      (create.alloc (some (4096, 8192))).val.2.end_ ≤
        ((create.alloc (some (4096, 8192))).val.2.alloc (some (1024, 1024))).val.2.end_ :=
  ⟨map_space_sweep_range_covers_live.1 _ _ mapReachable_one_mapping 4096 (by decide),
    (map_space_sweep_range_covers_live.2.1 _ (some (1024, 1024)) (by simp)).1 (by decide),
    (map_space_sweep_range_covers_live.2.1 _ (some (1024, 1024)) (by simp)).2⟩

theorem one_mapping_frees_cleanly :
    ((create.alloc (some (4096, 8192))).val.2.allocationSize 4096).checks = true ∧
      ((create.alloc (some (4096, 8192))).val.2.free 4096).checks = true ∧
      ((create.alloc (some (4096, 8192))).val.2.free 4096).dchecks = true :=
  mapReachable_free_checks
    (@MapReachable.alloc _ [] (some (4096, 8192)) .create (by simp) (by simp)) (by decide)

end Marvin.Space
