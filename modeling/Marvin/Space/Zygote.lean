import Marvin.Space.FreeListRuns
import Marvin.Space.MapSpace

namespace Marvin.Space

open Block

namespace Block

/-- A block after `SetAllLargeObjectsAsZygoteObjects`: a live one carries the zygote bit. -/
def markZygote (b : Block) : Block := if b.free then b else { b with zygote := true }

@[simp] theorem markZygote_pages (b : Block) : b.markZygote.pages = b.pages := by
  unfold markZygote; split <;> rfl

@[simp] theorem markZygote_free (b : Block) : b.markZygote.free = b.free := by
  unfold markZygote; split <;> rfl

@[simp] theorem markZygote_prevOf (b : Block) : b.markZygote.prevOf = b.prevOf := by
  simp [prevOf]

@[simp] theorem size_map_markZygote (bs : List Block) : size (bs.map markZygote) = size bs := by
  induction bs <;> simp [*]

@[simp] theorem prevAfter_map_markZygote (p : Nat) (bs : List Block) :
    prevAfter p (bs.map markZygote) = prevAfter p bs := by
  induction bs generalizing p <;> simp [*]

end Block

@[simp] theorem freeSuccessors_map_markZygote (i prev : Nat) (bs : List Block) :
    freeSuccessors i prev (bs.map markZygote) = freeSuccessors i prev bs := by
  induction bs generalizing i prev <;> simp [*]

@[simp] theorem liveSlots_map_markZygote (i : Nat) (bs : List Block) :
    liveSlots i (bs.map markZygote) = liveSlots i bs := by
  induction bs generalizing i <;> simp [*]

@[simp] theorem livePages_map_markZygote (bs : List Block) :
    livePages (bs.map markZygote) = livePages bs := by
  induction bs <;> simp [*]

theorem liveMarks_map_markZygote (i : Nat) (bs : List Block) :
    liveMarks i (bs.map markZygote) = (liveSlots i bs).map fun j => (j, true) := by
  induction bs generalizing i with
  | nil => rfl
  | cons b bs ih => cases hb : b.free <;> simp [hb, ih, markZygote]

/-- Setting the zygote bit of the live headers gives the table of the marked blocks. -/
theorem Tiles.markZygote {f : Nat → AllocationInfo} {i prev : Nat} {bs : List Block}
    (h : Tiles f i prev bs) :
    Tiles (fun j => if j ∈ liveSlots i bs then (f j).setZygoteObject else f j) i prev
      (bs.map Block.markZygote) := by
  induction bs generalizing i prev with
  | nil => trivial
  | cons b bs ih =>
    obtain ⟨h1, h2, h3, h4, hp, h5, h6⟩ := h
    have hnot : i ∉ liveSlots (i + b.pages) bs := fun hm => by
      have := liveSlots_bounds h6.pages_pos hm
      omega
    have htail := (ih h6).congr
      (g := fun j => if j ∈ liveSlots i (b :: bs) then (f j).setZygoteObject else f j)
      fun j hj _ => by simp [show j ≠ i by omega]
    simp only [List.map_cons, tiles_cons, markZygote_pages, markZygote_free, markZygote_prevOf]
    refine ⟨?_, ?_, ?_, ?_, hp, h5, htail⟩ <;> cases hb : b.free <;>
      simp [hb, hnot, h1, h2, h3, h4, Block.markZygote]

namespace FreeListSpace

variable {s s' : FreeListSpace}

/-- On a well-formed side table the loop of `SetAllLargeObjectsAsZygoteObjects` sets the zygote
bit of exactly the live headers and changes nothing else. -/
theorem setAllLoop_eq_of_tiles {endInfo i prev fuel : Nat} {bs : List Block}
    (h : Tiles s.infos i prev bs) (hend : endInfo = i + size bs)
    (hs : setAllLoop endInfo fuel i s = some s') :
    s' = { s with infos := fun j =>
      if j ∈ liveSlots i bs then (s.infos j).setZygoteObject else s.infos j } := by
  induction bs generalizing s i prev fuel with
  | nil =>
    cases fuel with
    | zero => simp [setAllLoop] at hs
    | succ f =>
      simp only [setAllLoop, hend, size_nil, Nat.add_zero, Nat.lt_irrefl, ite_false,
        Option.some.injEq] at hs
      simp [hs]
  | cons b bs ih =>
    cases fuel with
    | zero => simp [setAllLoop] at hs
    | succ f =>
      obtain ⟨-, h2, h3, -, hp, -, h6⟩ := h
      have hnot : i ∉ liveSlots (i + b.pages) bs := fun hm => by
        have := liveSlots_bounds h6.pages_pos hm
        omega
      simp only [size_cons] at hend
      rw [setAllLoop, if_pos (by omega)] at hs
      cases hb : b.free
      · simp only [h3, hb, Bool.not_false, ite_true, setInfo_infos, Function.update_same,
          AllocationInfo.getNextInfo, AllocationInfo.setZygoteObject_alignSize, h2] at hs
        rw [ih (h6.congr fun j hj _ => Function.update_noteq (by omega) _ _)
          (by omega) hs]
        simp only [setInfo, liveSlots_cons, hb, Bool.false_eq_true, ite_false,
          List.singleton_append, List.mem_cons, FreeListSpace.mk.injEq, true_and, and_true]
        funext j
        by_cases hj : j = i
        · subst hj
          simp [hnot]
        · simp [hj, Function.update_noteq hj]
      · simp only [h3, hb, Bool.not_true, Bool.false_eq_true, ite_false, AllocationInfo.getNextInfo,
          h2] at hs
        rw [ih h6 (by omega) hs]
        simp [hb]

theorem isZygoteLargeObject_slotAddress (s : FreeListSpace) (j : Nat) :
    (s.isZygoteLargeObject (s.slotAddress j)).val = (s.infos j).isZygoteObject := by
  simp [isZygoteLargeObject, getSlotIndexForAddress, slotAddress, free_slot]

end FreeListSpace

open FreeListSpace

/-- `SetAllLargeObjectsAsZygoteObjects` on a well-formed space sets the zygote bit of the live
headers and changes nothing else, so the space stays well formed over the marked blocks. -/
theorem Layout.setAll {s s' : FreeListSpace} {bs : List Block} {fuel : Nat} (h : Layout s bs)
    (hs : (s.setAllLargeObjectsAsZygoteObjects fuel).val = some s') :
    s' = { s with infos := fun j =>
      if j ∈ liveSlots 0 bs then (s.infos j).setZygoteObject else s.infos j } ∧
    Layout s' (bs.map Block.markZygote) := by
  have hloop : setAllLoop (size bs) fuel 0 s = some s' := by
    simpa [setAllLargeObjectsAsZygoteObjects, h.endInfo.1] using hs
  obtain rfl := setAllLoop_eq_of_tiles h.tiles (Nat.zero_add _).symm hloop
  exact ⟨rfl, h.tiles.markZygote, by simpa using h.last_live, by simpa using h.fill,
    by simpa using h.free_blocks, pairwise_lt_congr h.sorted rfl fun e _ => by dsimp only; split <;> simp,
    by simpa using h.bytes, by simpa using h.objects, h.begin_aligned, h.begin_le, h.low_4gb⟩

/-- The states of `Reachable` with `SetAllLargeObjectsAsZygoteObjects` as a further step: the live
objects, and those live at the last marking and not freed since. -/
inductive ZygoteReachable : FreeListSpace → List Nat → List Nat → Prop where
  | create {begin capacity allocationInfo : Nat} (hbegin : begin % kAlignment = 0)
      (hcapacity : capacity % kAlignment = 0) (hlow : begin + capacity ≤ 2 ^ 32) :
      ZygoteReachable (FreeListSpace.create begin capacity allocationInfo).val [] []
  | alloc {s : FreeListSpace} {live zygote : List Nat} {numBytes : Nat} (tempInfo : Nat)
      (h : ZygoteReachable s live zygote) (hpos : 0 < numBytes)
      (hcap : numBytes ≤ s.end_ - s.begin_) :
      ZygoteReachable (s.alloc numBytes tempInfo).val.2
        (live ++ ((s.alloc numBytes tempInfo).val.1.map Allocation.obj).toList) zygote
  | free {s : FreeListSpace} {live zygote : List Nat} {obj : Nat}
      (h : ZygoteReachable s live zygote) (hobj : obj ∈ live) :
      ZygoteReachable (s.free obj).val.2 (live.erase obj) (zygote.erase obj)
  | setAll {s s' : FreeListSpace} {live zygote : List Nat} {fuel : Nat}
      (h : ZygoteReachable s live zygote)
      (hs : (s.setAllLargeObjectsAsZygoteObjects fuel).val = some s') :
      ZygoteReachable s' live live

/-- A well-formed space over `bs` whose live blocks are the objects `live`, the zygote bit of
each set exactly when its object is in `zygote`, which holds live objects only. -/
structure ZygoteLayout (s : FreeListSpace) (live zygote : List Nat) (bs : List Block) : Prop where
  layout : Layout s bs
  perm : live.Perm ((liveSlots 0 bs).map s.slotAddress)
  marks : ∀ jz ∈ liveMarks 0 bs, jz.2 = decide (s.slotAddress jz.1 ∈ zygote)
  subperm : zygote.Subperm live

namespace ZygoteLayout

variable {s : FreeListSpace} {live zygote : List Nat} {bs : List Block}

theorem alloc (h : ZygoteLayout s live zygote bs) {numBytes : Nat} (hpos : 0 < numBytes)
    (hcap : numBytes ≤ s.end_ - s.begin_) (t : Nat) :
    ∃ bs', ZygoteLayout (s.alloc numBytes t).val.2
      (live ++ ((s.alloc numBytes t).val.1.map Allocation.obj).toList) zygote bs' := by
  have hsub : zygote.Subperm (live ++ ((s.alloc numBytes t).val.1.map Allocation.obj).toList) :=
    h.subperm.trans (List.sublist_append_left _ _).subperm
  rcases h.layout.alloc hpos hcap t with hv | ⟨j, bs', hv, hl', hslots, hmarks⟩
  · rw [hv] at hsub ⊢
    exact ⟨bs, by simpa using h⟩
  · have hj : j ∉ liveSlots 0 bs :=
      (List.nodup_cons.mp (hslots.nodup_iff.mp (hl'.tiles.liveSlots_sorted.imp Nat.ne_of_lt))).1
    have hz : s.slotAddress j ∉ zygote := fun hz => by
      obtain ⟨j', hj', he⟩ := List.mem_map.mp (h.perm.subset (h.subperm.subset hz))
      exact hj (slotAddress_injective s he ▸ hj')
    refine ⟨bs', hl', ?_, fun jz hjz => ?_, hsub⟩
    · rw [alloc_slotAddress, hv]
      simpa using (List.perm_append_singleton _ _).trans ((h.perm.cons _).trans (hslots.map _).symm)
    · rw [alloc_slotAddress]
      rcases List.mem_cons.mp (hmarks.subset hjz) with rfl | hjz
      · simp [hz]
      · exact h.marks jz hjz

theorem free (h : ZygoteLayout s live zygote bs) {obj : Nat} (hobj : obj ∈ live) :
    ∃ bs', ZygoteLayout (s.free obj).val.2 (live.erase obj) (zygote.erase obj) bs' := by
  obtain ⟨j, hj, rfl⟩ := List.mem_map.mp (h.perm.subset hobj)
  obtain ⟨pre, b, post, rfl, rfl, hb⟩ := exists_of_mem_liveSlots hj
  rw [Nat.zero_add] at hj ⊢
  obtain ⟨-, -, bs', hl', hls, hlm⟩ := h.layout.free hb
  refine ⟨bs', hl', ?_, fun jz hjz => ?_, h.subperm.erase _⟩
  · rw [free_slotAddress, hls, ← liveSlots_erase h.layout hb,
      List.map_erase (slotAddress_injective s)]
    exact h.perm.erase _
  · have hmem : jz.1 ∈ (liveSlots 0 (pre ++ b :: post)).erase (size pre) := by
      rw [liveSlots_erase h.layout hb, ← hls, ← liveMarks_map_fst]
      exact List.mem_map_of_mem _ hjz
    have hne := (List.Nodup.mem_erase_iff (h.layout.tiles.liveSlots_sorted.imp Nat.ne_of_lt)).mp
      hmem |>.1
    have hold : jz ∈ liveMarks 0 (pre ++ b :: post) := by
      rw [hlm, List.mem_append] at hjz
      simp only [liveMarks_append, liveMarks_cons, hb, List.mem_append, Nat.zero_add]
      tauto
    rw [free_slotAddress, h.marks jz hold]
    simp only [List.mem_erase_of_ne ((slotAddress_injective s).ne hne)]

theorem nodup (h : ZygoteLayout s live zygote bs) : live.Nodup :=
  h.perm.nodup_iff.mpr (List.Nodup.map (slotAddress_injective s)
    (h.layout.tiles.liveSlots_sorted.imp Nat.ne_of_lt))

theorem setAll (h : ZygoteLayout s live zygote bs) {s' : FreeListSpace} {fuel : Nat}
    (hs : (s.setAllLargeObjectsAsZygoteObjects fuel).val = some s') :
    ZygoteLayout s' live live (bs.map Block.markZygote) := by
  obtain ⟨rfl, hl⟩ := h.layout.setAll hs
  refine ⟨hl, by rw [liveSlots_map_markZygote]; exact h.perm, fun jz hjz => ?_, .refl _⟩
  rw [liveMarks_map_markZygote] at hjz
  obtain ⟨j, hj, rfl⟩ := List.mem_map.mp hjz
  exact (decide_eq_true (h.perm.symm.subset (List.mem_map_of_mem _ hj))).symm

/-- `IsZygoteLargeObject` of a live object answers whether it is in `zygote`. -/
theorem isZygoteLargeObject (h : ZygoteLayout s live zygote bs) {obj : Nat} (hobj : obj ∈ live) :
    (s.isZygoteLargeObject obj).val = decide (obj ∈ zygote) := by
  obtain ⟨j, hj, rfl⟩ := List.mem_map.mp (h.perm.subset hobj)
  rw [← liveMarks_map_fst] at hj
  obtain ⟨⟨j, z⟩, hjz, rfl⟩ := List.mem_map.mp hj
  rw [isZygoteLargeObject_slotAddress, h.layout.tiles.isZygoteObject_of_mem_liveMarks hjz]
  exact h.marks _ hjz

end ZygoteLayout

theorem ZygoteReachable.layout {s : FreeListSpace} {live zygote : List Nat}
    (h : ZygoteReachable s live zygote) : ∃ bs, ZygoteLayout s live zygote bs := by
  induction h with
  | create hbegin _ hlow => exact ⟨[], create_layout hbegin hlow, by simp, by simp, .refl []⟩
  | alloc t _ hpos hcap ih =>
    obtain ⟨bs, h⟩ := ih
    exact h.alloc hpos hcap t
  | free _ hobj ih =>
    obtain ⟨bs, h⟩ := ih
    exact h.free hobj
  | setAll _ hs ih =>
    obtain ⟨bs, h⟩ := ih
    exact ⟨_, h.setAll hs⟩

/-- An object `Alloc` has just handed out is not a zygote object, at whatever address. -/
theorem ZygoteReachable.alloc_not_zygote {s : FreeListSpace} {live zygote : List Nat}
    {numBytes : Nat} (h : ZygoteReachable s live zygote) (hpos : 0 < numBytes)
    (hcap : numBytes ≤ s.end_ - s.begin_) (t : Nat) {a : Allocation}
    (ha : a ∈ (s.alloc numBytes t).val.1) :
    ((s.alloc numBytes t).val.2.isZygoteLargeObject a.obj).val = false := by
  obtain ⟨bs, hz⟩ := h.layout
  obtain ⟨bs', hz'⟩ := (h.alloc t hpos hcap).layout
  rw [Option.mem_def.mp ha] at hz'
  rw [hz'.isZygoteLargeObject (by simp), decide_eq_false_iff_not]
  exact fun hzy => (List.nodup_append.mp hz'.nodup).2.2 (hz.subperm.subset hzy) (by simp)

/-- With fuel past the slot count, the marking loop of a well-formed space returns a space. -/
theorem Layout.setAll_isSome {s : FreeListSpace} {bs : List Block} (h : Layout s bs) {fuel : Nat}
    (hfuel : (s.end_ - s.begin_) / kAlignment < fuel) :
    (s.setAllLargeObjectsAsZygoteObjects fuel).val.isSome := by
  obtain ⟨hend, hlen⟩ := h.endInfo
  simpa [setAllLargeObjectsAsZygoteObjects, hend] using
    setAllLoop_of_tiles h.tiles (Nat.zero_add _).symm (show bs.length < fuel by omega)

/-- In a reachable state, marked or not, `Walk`, `Dump` and `SetAllLargeObjectsAsZygoteObjects`
stop within one step per page, and `Walk` calls back once per live object, in order. -/
theorem walk_dump_setAll_terminate {s : FreeListSpace} {live zygote : List Nat}
    (h : ZygoteReachable s live zygote) {fuel : Nat}
    (hfuel : (s.end_ - s.begin_) / kAlignment < fuel) :
    ∃ objs : List Nat, objs.Perm live ∧ objs.Pairwise (· < ·) ∧
      (s.walk fuel).val = some (objs.flatMap fun obj =>
        [(obj, obj + (s.allocationSize obj).val, (s.allocationSize obj).val), (0, 0, 0)]) ∧
      (s.walk fuel).checks = true ∧ (s.dump fuel).val.isSome ∧
      (s.setAllLargeObjectsAsZygoteObjects fuel).val.isSome := by
  obtain ⟨bs, hz⟩ := h.layout
  have hl := hz.layout
  obtain ⟨hend, hlen⟩ := hl.endInfo
  have hlen' : bs.length < fuel := by omega
  obtain ⟨hv, hc⟩ := walkLoop_of_tiles hl.tiles (Nat.zero_add _).symm hlen'
  have hcalls : (liveSlots 0 bs).flatMap s.walkCalls = ((liveSlots 0 bs).map s.slotAddress).flatMap
      fun obj => [(obj, obj + (s.allocationSize obj).val, (s.allocationSize obj).val), (0, 0, 0)] := by
    simp only [List.flatMap_map, Function.comp_def, allocationSize_slotAddress]
    rfl
  refine ⟨_, hz.perm.symm, hl.tiles.liveSlots_sorted.map _ fun a b hab => ?_, ?_, ?_, ?_,
    hl.setAll_isSome hfuel⟩
  · simp only [slotAddress, kAlignment, kPageSize]
    omega
  · simp [walk, hend, hv, hcalls]
  · simp [walk, hend, hv, hc]
  · simpa [dump, hend] using dumpLoop_of_tiles hl.tiles (Nat.zero_add _).symm hlen'

theorem zygoteReachable_one_page :
    ZygoteReachable ((FreeListSpace.create 0 8192 0).val.alloc 4096 0).val.2 [0] [] := by
  have := @ZygoteReachable.alloc _ _ _ 4096 0 (@ZygoteReachable.create 0 8192 0 (by decide)
    (by decide) (by decide)) (by decide) (by decide)
  rwa [show ([] : List Nat) ++ (((FreeListSpace.create 0 8192 0).val.alloc 4096 0).val.1.map
    Allocation.obj).toList = [0] by decide] at this

/-- The one-page space after `SetAllLargeObjectsAsZygoteObjects`: its object is a zygote object. -/
theorem zygoteReachable_marked_one_page :
    ZygoteReachable
      ((((FreeListSpace.create 0 8192 0).val.alloc 4096 0).val.2.setAllLargeObjectsAsZygoteObjects
        3).val.get (by decide)) [0] [0] :=
  .setAll zygoteReachable_one_page (Option.some_get _).symm

/-- `Walk` over the marked one-page space passes its `CHECK_EQ`. -/
theorem walk_after_marking :
    (((((FreeListSpace.create 0 8192 0).val.alloc 4096 0).val.2.setAllLargeObjectsAsZygoteObjects
        3).val.get (by decide)).walk 3).checks = true := by
  obtain ⟨-, -, -, -, hc, -⟩ :=
    @walk_dump_setAll_terminate _ _ _ zygoteReachable_marked_one_page 3 (by decide)
  exact hc

namespace LargeObjectMapSpace

variable {s : LargeObjectMapSpace}

@[simp] theorem setAllLargeObjectsAsZygoteObjects_toLargeObjectSpace (s : LargeObjectMapSpace) :
    s.setAllLargeObjectsAsZygoteObjects.toLargeObjectSpace = s.toLargeObjectSpace := rfl

@[simp] theorem find_setAllLargeObjectsAsZygoteObjects (s : LargeObjectMapSpace) (q : Nat) :
    s.setAllLargeObjectsAsZygoteObjects.find q =
      (s.find q).map fun lo => { lo with isZygote := true } := by
  simp only [find, setAllLargeObjectsAsZygoteObjects]
  induction s.largeObjects with
  | nil => rfl
  | cons e l ih =>
    obtain ⟨k, v⟩ := e
    cases hq : q == k <;> simp [List.lookup_cons, hq, ih]

@[simp] theorem isZygoteLargeObject_val (s : LargeObjectMapSpace) (obj : Nat) :
    (s.isZygoteLargeObject obj).val = ((s.find obj).map LargeObject.isZygote).getD false := by
  unfold isZygoteLargeObject
  split <;> simp [*]

end LargeObjectMapSpace

open LargeObjectMapSpace

theorem MapInv.setAll {s : LargeObjectMapSpace} {live : List Nat} (h : MapInv s live) :
    MapInv s.setAllLargeObjectsAsZygoteObjects live := by
  refine ⟨by simpa [LargeObjectMapSpace.setAllLargeObjectsAsZygoteObjects, Function.comp_def]
    using h.keys, h.nodup,
    ?_, h.objects⟩
  simpa [Option.map_map, Function.comp_def] using h.bytes

/-- The states of `MapReachable` with `SetAllLargeObjectsAsZygoteObjects` as a further step, as in
`ZygoteReachable`. -/
inductive MapZygoteReachable : LargeObjectMapSpace → List Nat → List Nat → Prop where
  | create : MapZygoteReachable LargeObjectMapSpace.create [] []
  | alloc {s : LargeObjectMapSpace} {live zygote : List Nat} {memMap : Option (Nat × Nat)}
      (h : MapZygoteReachable s live zygote) (hfresh : ∀ m ∈ memMap, m.1 ∉ live) :
      MapZygoteReachable (s.alloc memMap).val.2
        (live ++ ((s.alloc memMap).val.1.map Allocation.obj).toList) zygote
  | free {s : LargeObjectMapSpace} {live zygote : List Nat} {obj : Nat}
      (h : MapZygoteReachable s live zygote) (hobj : obj ∈ live) :
      MapZygoteReachable (s.free obj).val.2 (live.erase obj) (zygote.erase obj)
  | setAll {s : LargeObjectMapSpace} {live zygote : List Nat}
      (h : MapZygoteReachable s live zygote) :
      MapZygoteReachable s.setAllLargeObjectsAsZygoteObjects live live

/-- The map space's invariant with the zygote bit of each live object set exactly when the
object is in `zygote`, which holds live objects only. -/
structure MapZygoteInv (s : LargeObjectMapSpace) (live zygote : List Nat) : Prop where
  inv : MapInv s live
  marks : ∀ obj ∈ live, (s.find obj).map LargeObject.isZygote = some (decide (obj ∈ zygote))
  subperm : zygote.Subperm live

namespace MapZygoteInv

variable {s : LargeObjectMapSpace} {live zygote : List Nat}

theorem alloc (h : MapZygoteInv s live zygote) {m n : Nat} (hm : m ∉ live) :
    MapZygoteInv (s.alloc (some (m, n))).val.2 (live ++ [m]) zygote := by
  refine ⟨h.inv.alloc hm, fun q hq => ?_, h.subperm.trans (List.sublist_append_left _ _).subperm⟩
  rcases List.mem_append.mp hq with hq | hq
  · simpa [show q ≠ m from fun e => hm (e ▸ hq)] using h.marks q hq
  · obtain rfl := List.mem_singleton.mp hq
    simpa using fun hz => hm (h.subperm.subset hz)

theorem free (h : MapZygoteInv s live zygote) {p : Nat} (hp : p ∈ live) :
    MapZygoteInv (s.free p).val.2 (live.erase p) (zygote.erase p) := by
  refine ⟨h.inv.free hp, fun q hq => ?_, h.subperm.erase _⟩
  have hne := (h.inv.nodup.mem_erase_iff.mp hq).1
  rw [find_free_of_ne hne, h.marks q (List.mem_of_mem_erase hq)]
  simp [List.mem_erase_of_ne hne]

theorem setAll (h : MapZygoteInv s live zygote) :
    MapZygoteInv s.setAllLargeObjectsAsZygoteObjects live live := by
  refine ⟨h.inv.setAll, fun q hq => ?_, .refl _⟩
  obtain ⟨lo, hlo⟩ := h.inv.find_of_mem hq
  simp [hlo, hq]

theorem isZygoteLargeObject (h : MapZygoteInv s live zygote) {obj : Nat} (hobj : obj ∈ live) :
    (s.isZygoteLargeObject obj).val = decide (obj ∈ zygote) := by
  obtain ⟨lo, hlo⟩ := h.inv.find_of_mem hobj
  simpa [hlo] using h.marks obj hobj

end MapZygoteInv

theorem MapZygoteReachable.inv {s : LargeObjectMapSpace} {live zygote : List Nat}
    (h : MapZygoteReachable s live zygote) : MapZygoteInv s live zygote := by
  induction h with
  | create => exact ⟨.create, by simp, .refl _⟩
  | @alloc s live zygote memMap _ hfresh ih =>
    rcases memMap with _ | ⟨m, n⟩
    · simpa using ih
    · exact ih.alloc (hfresh (m, n) rfl)
  | free _ hobj ih => exact ih.free hobj
  | setAll _ ih => exact ih.setAll

/-- In every reachable state of both spaces a live object is a zygote object exactly when it was
live at the last marking, and the marking terminates, marking every live object. -/
theorem zygote_marks_follow_runs :
    (∀ s live zygote, ZygoteReachable s live zygote →
      (∀ obj ∈ live, (s.isZygoteLargeObject obj).val = decide (obj ∈ zygote)) ∧
      (∀ numBytes t, 0 < numBytes → numBytes ≤ s.end_ - s.begin_ →
        ∀ a ∈ (s.alloc numBytes t).val.1,
          ((s.alloc numBytes t).val.2.isZygoteLargeObject a.obj).val = false) ∧
      ∀ fuel, (s.end_ - s.begin_) / kAlignment < fuel →
        ∃ s', (s.setAllLargeObjectsAsZygoteObjects fuel).val = some s' ∧
          (∀ obj ∈ live, (s'.isZygoteLargeObject obj).val = true) ∧
          s'.freeBlocks = s.freeBlocks ∧ (∀ a b, s'.lt a b = s.lt a b) ∧
          ∀ j, (s'.infos j).alignSize = (s.infos j).alignSize ∧
            (s'.infos j).isFree = (s.infos j).isFree ∧
            (s'.infos j).prevFree = (s.infos j).prevFree) ∧
    ∀ s live zygote, MapZygoteReachable s live zygote →
      (∀ obj ∈ live, (s.isZygoteLargeObject obj).val = decide (obj ∈ zygote)) ∧
      (∀ obj ∈ live, (s.setAllLargeObjectsAsZygoteObjects.isZygoteLargeObject obj).val = true) ∧
      ∀ m n, ((s.alloc (some (m, n))).val.2.isZygoteLargeObject m).val = false := by
  refine ⟨fun s live zygote h => ?_, fun s live zygote h =>
    ⟨fun obj => h.inv.isZygoteLargeObject,
      fun obj hobj => by simpa [hobj] using h.setAll.inv.isZygoteLargeObject hobj,
      fun m n => by simp⟩⟩
  obtain ⟨bs, hz⟩ := h.layout
  refine ⟨fun obj => hz.isZygoteLargeObject,
    fun numBytes t hpos hcap a => h.alloc_not_zygote hpos hcap t, fun fuel hfuel => ?_⟩
  obtain ⟨s', hs⟩ := Option.isSome_iff_exists.mp (hz.layout.setAll_isSome hfuel)
  obtain ⟨hs', -⟩ := hz.layout.setAll hs
  have hframe : ∀ j, (s'.infos j).alignSize = (s.infos j).alignSize ∧
      (s'.infos j).isFree = (s.infos j).isFree ∧ (s'.infos j).prevFree = (s.infos j).prevFree :=
    fun j => by rw [hs']; dsimp only; split <;> simp
  have hkey : ∀ e, (s'.key e).2 = (s.key e).2 := fun e => by rw [hs']; rfl
  exact ⟨s', hs, fun obj hobj => by simpa [hobj] using (hz.setAll hs).isZygoteLargeObject hobj,
    by rw [hs'], fun a b => sortByPrevFree_congr (a := s.key a) (b := s.key b)
    ⟨(hframe a).2.2, (hframe a).1, hkey a⟩ ⟨(hframe b).2.2, (hframe b).1, hkey b⟩, hframe⟩

/-- Marking the one-page free-list space, or the map space of one mapping, makes its object a
zygote object. -/
theorem one_object_marked_zygote :
    (∃ s', (FreeListSpace.setAllLargeObjectsAsZygoteObjects
        ((FreeListSpace.create 0 8192 0).val.alloc 4096 0).val.2 3).val = some s' ∧
        (s'.isZygoteLargeObject 0).val = true) ∧
      (LargeObjectMapSpace.isZygoteLargeObject
        (LargeObjectMapSpace.create.alloc (some (4096, 8192))).val.2.setAllLargeObjectsAsZygoteObjects
        4096).val = true := by
  obtain ⟨s', hs, hz, -⟩ :=
    (zygote_marks_follow_runs.1 _ _ _ zygoteReachable_one_page).2.2 3 (by decide)
  have hmap : MapZygoteReachable (LargeObjectMapSpace.create.alloc (some (4096, 8192))).val.2
      [4096] [] := by
    simpa using @MapZygoteReachable.alloc _ [] [] (some (4096, 8192)) .create (by simp)
  exact ⟨⟨s', hs, hz 0 (by simp)⟩, (zygote_marks_follow_runs.2 _ _ _ hmap).2.1 4096 (by simp)⟩

end Marvin.Space
