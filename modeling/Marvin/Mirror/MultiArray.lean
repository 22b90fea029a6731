import Marvin.Mirror.Array
import Mathlib.Algebra.BigOperators.Ring.List

namespace Marvin.Mirror

open Cls

/-- The number of arrays `RecursiveCreateMultiArray` allocates for the dimensions `ds`. -/
def multiArrayCount : List Nat → Nat
  | [] => 0
  | d :: ds => 1 + d * multiArrayCount ds

theorem multiArrayCount_cons (d : Nat) (ds : List Nat) :
    multiArrayCount (d :: ds) = 1 + d * multiArrayCount ds := rfl

/-- The arrays `RecursiveCreateMultiArray` appends to a heap of `n` arrays, in allocation order:
the new array, then the tree of each of its elements in turn. -/
def multiArrays (cls : Cls) : List Nat → Nat → List ArrayObj
  | [], _ => []
  | [d], _ => [⟨cls, List.replicate d 0⟩]
  | d :: d' :: ds, n =>
    ⟨cls, (List.range d).map fun j => n + 2 + j * multiArrayCount (d' :: ds)⟩ ::
      (List.range d).flatMap fun j =>
        multiArrays cls.getComponentType (d' :: ds) (n + 1 + j * multiArrayCount (d' :: ds))

/-- The heap's next `count` allocations from its `n`-th array on succeed. -/
def AllocatesFrom (rt : Runtime) (n count : Nat) : Prop := ∀ j < count, rt.allocates (n + j) = true

instance (rt : Runtime) (n count : Nat) : Decidable (AllocatesFrom rt n count) :=
  inferInstanceAs (Decidable (∀ j < count, rt.allocates (n + j) = true))

/-- What `sub` does on any heap: it appends `arrays n` and returns the next address when the next
`count` allocations succeed, and otherwise `nullptr` with `OutOfMemoryError`. -/
def AllocSpec (rt : Runtime) (sub : ArrayHeap → Option Nat × ArrayHeap) (count : Nat)
    (arrays : Nat → List ArrayObj) : Prop :=
  ∀ h : ArrayHeap,
    (AllocatesFrom rt h.arrays.length count →
      sub h = (some (h.arrays.length + 1), { h with arrays := h.arrays ++ arrays h.arrays.length })) ∧
    (¬ AllocatesFrom rt h.arrays.length count →
      (sub h).1 = none ∧ (sub h).2.exception = some .outOfMemory)

section Counting

theorem allocatesFrom_zero (rt : Runtime) (n : Nat) : AllocatesFrom rt n 0 := nofun

theorem allocatesFrom_add (rt : Runtime) (n a b : Nat) :
    AllocatesFrom rt n (a + b) ↔ AllocatesFrom rt n a ∧ AllocatesFrom rt (n + a) b := by
  refine ⟨fun h => ⟨fun j hj => h j (by omega), fun j hj => ?_⟩, fun ⟨ha, hb⟩ j hj => ?_⟩
  · simpa [Nat.add_assoc] using h (a + j) (by omega)
  · by_cases hja : j < a
    · exact ha j hja
    · simpa [Nat.add_assoc, Nat.add_sub_cancel' (Nat.le_of_not_lt hja)] using hb (j - a) (by omega)

theorem allocatesFrom_one_add (rt : Runtime) (n c : Nat) :
    AllocatesFrom rt n (1 + c) ↔ rt.allocates n = true ∧ AllocatesFrom rt (n + 1) c := by
  rw [allocatesFrom_add]
  exact and_congr_left' ⟨fun h => h 0 Nat.one_pos, fun h j hj => by rwa [Nat.lt_one_iff.mp hj]⟩

theorem length_flatMap_range {α : Type} (g : Nat → List α) (m : Nat)
    (hg : ∀ j, (g j).length = m) (d : Nat) : ((List.range d).flatMap g).length = d * m := by
  induction d with
  | zero => simp
  | succ d ih => simp [List.range_succ, ih, hg, Nat.succ_mul]

@[simp] theorem length_multiArrays (cls : Cls) (ds : List Nat) (n : Nat) :
    (multiArrays cls ds n).length = multiArrayCount ds := by
  induction ds generalizing cls n with
  | nil => rfl
  | cons d ds ih =>
    cases ds with
    | nil => simp [multiArrays, multiArrayCount]
    | cons d' ds =>
      simp only [multiArrays, List.length_cons]
      rw [length_flatMap_range _ _ fun j => ih _ _]
      show _ = 1 + d * multiArrayCount (d' :: ds)
      omega

/-- The count of arrays is `1 + d₀ + d₀ d₁ + ⋯ + d₀ ⋯ d_{k-2}`: each level below the root
holds one array per element of the level above. -/
theorem multiArrayCount_eq_sum (ds : List Nat) :
    multiArrayCount ds = ((List.range ds.length).map fun i => (ds.take i).prod).sum := by
  induction ds with
  | nil => rfl
  | cons d ds ih =>
    rw [multiArrayCount, ih, List.length_cons, List.range_succ_eq_map, List.map_cons,
      List.sum_cons, List.map_map]
    simp [Function.comp_def, List.sum_map_mul_left]

end Counting

section Fill

variable {rt : Runtime} {sub : ArrayHeap → Option Nat × ArrayHeap} {M : Nat} {E : Nat → List ArrayObj}

theorem set_range_replicate (f : Nat → Nat) (i m : Nat) :
    ((List.range i).map f ++ List.replicate (m + 1) 0).set i (f i) =
      (List.range (i + 1)).map f ++ List.replicate m 0 := by
  rw [List.set_append_right _ _ (by simp)]
  simp [List.range_succ, List.replicate_succ]

/-- When every allocation succeeds, the loop of `RecursiveCreateMultiArray` appends the sub-array
trees in order and points element `j` at the root of the `j`-th. -/
theorem fillSubArrays_ok (hsub : AllocSpec rt sub M E) (hE : ∀ n, (E n).length = M)
    (pre : List ArrayObj) (cls : Cls) (exception : Option Throwable) (m : Nat) :
    ∀ i (mid : List ArrayObj), mid.length = i * M →
      AllocatesFrom rt (pre.length + 1 + i * M) (m * M) →
      fillSubArrays sub (pre.length + 1) (List.range' i m)
          ⟨pre ++ ⟨cls, (List.range i).map (fun j => pre.length + 2 + j * M) ++
            List.replicate m 0⟩ :: mid, exception⟩ =
        (some (pre.length + 1), ⟨pre ++ ⟨cls, (List.range (i + m)).map fun j =>
          pre.length + 2 + j * M⟩ :: (mid ++ (List.range' i m).flatMap fun j =>
            E (pre.length + 1 + j * M)), exception⟩) := by
  induction m with
  | zero => intro i mid _ _; simp [fillSubArrays]
  | succ m ih =>
    intro i mid hmid hok
    rw [Nat.succ_mul, Nat.add_comm (m * M) M, allocatesFrom_add] at hok
    have hlen : (pre ++ ⟨cls, (List.range i).map (fun j => pre.length + 2 + j * M) ++
        List.replicate (m + 1) 0⟩ :: mid).length = pre.length + 1 + i * M := by
      simp [hmid]
      omega
    rw [List.range'_succ, fillSubArrays, (hsub _).1 (by rw [hlen]; exact hok.1)]
    simp only [hlen, List.append_assoc, List.cons_append]
    rw [ArrayHeap.set_append, show pre.length + 1 + i * M + 1 = pre.length + 2 + i * M by omega,
      set_range_replicate (fun j => pre.length + 2 + j * M),
      ih (i + 1) _ (by simp [hmid, hE, Nat.succ_mul]) (by rw [Nat.succ_mul, ← Nat.add_assoc]; exact hok.2)]
    simp [Nat.add_right_comm i 1 m, Nat.add_assoc]

/-- When some allocation of the remaining sub-arrays fails, the loop returns `nullptr` with
`OutOfMemoryError` pending. -/
theorem fillSubArrays_fail (hsub : AllocSpec rt sub M E) (hE : ∀ n, (E n).length = M)
    (newArray : Nat) (is : List Nat) :
    ∀ h : ArrayHeap, ¬ AllocatesFrom rt h.arrays.length (is.length * M) →
      (fillSubArrays sub newArray is h).1 = none ∧
        (fillSubArrays sub newArray is h).2.exception = some .outOfMemory := by
  induction is with
  | nil => exact fun h hno => absurd (allocatesFrom_zero rt _) (by simpa using hno)
  | cons i is ih =>
    intro h hno
    rw [List.length_cons, Nat.succ_mul, Nat.add_comm (is.length * M) M, allocatesFrom_add] at hno
    rw [fillSubArrays]
    by_cases hfirst : AllocatesFrom rt h.arrays.length M
    · rw [(hsub h).1 hfirst]
      exact ih _ fun hrest => hno ⟨hfirst, by simpa [hE] using hrest⟩
    · obtain ⟨h1, h2⟩ := (hsub h).2 hfirst
      rcases hs : sub h with ⟨_ | r, h'⟩
      · rw [hs] at h2
        exact ⟨rfl, h2⟩
      · rw [hs] at h1
        cases h1

end Fill

/-- `RecursiveCreateMultiArray` over non-empty dimensions does what `AllocSpec` says, with the
arrays `multiArrays`. -/
theorem recursiveCreateMultiArray_allocSpec (rt : Runtime) (ds : List Int) (hds : ds ≠ []) :
    ∀ cls : Cls, AllocSpec rt (recursiveCreateMultiArray rt cls ds)
      (multiArrayCount (ds.map Int.toNat)) (multiArrays cls (ds.map Int.toNat)) := by
  induction ds with
  | nil => exact absurd rfl hds
  | cons d ds ih =>
    intro cls h
    rcases ds with _ | ⟨d', ds⟩
    · refine ⟨fun hok => ?_, fun hno => ?_⟩
      · simp [recursiveCreateMultiArray, ArrayHeap.alloc_of_allocates (hok 0 (by simp [multiArrayCount])),
          multiArrays]
      · have : rt.allocates h.arrays.length = false := by
          simpa [AllocatesFrom, multiArrayCount] using hno
        simp [recursiveCreateMultiArray, ArrayHeap.alloc_of_not_allocates this]
    · have hsub := ih (List.cons_ne_nil _ _) cls.getComponentType
      have hE := fun n => length_multiArrays cls.getComponentType ((d' :: ds).map Int.toNat) n
      rw [List.map_cons, multiArrayCount_cons, allocatesFrom_one_add]
      refine ⟨fun ⟨hfirst, hrest⟩ => ?_, fun hno => ?_⟩
      · have key := fillSubArrays_ok hsub hE h.arrays cls h.exception d.toNat 0 [] (by simp)
          (by simpa using hrest)
        simp only [List.range_zero, List.map_nil, List.nil_append, Nat.zero_add,
          ← List.range_eq_range'] at key
        rw [recursiveCreateMultiArray, ArrayHeap.alloc_of_allocates hfirst]
        simp only [reduceCtorEq, if_false]
        rw [key]
        simp only [multiArrays, List.map_cons]
      · cases hfirst : rt.allocates h.arrays.length
        · simp [recursiveCreateMultiArray, ArrayHeap.alloc_of_not_allocates hfirst]
        · rw [recursiveCreateMultiArray, ArrayHeap.alloc_of_allocates hfirst]
          simp only [reduceCtorEq, if_false]
          exact fillSubArrays_fail hsub hE _ _ _ (by simpa [hfirst] using hno)

/-- The tree of arrays rooted at `addr`: of class `cls` and length `d`, with the trees of the next
dimensions as elements; `addrs` are its arrays' addresses in preorder. -/
inductive MultiArray (arrays : List ArrayObj) : Cls → List Nat → Nat → List Nat → Prop
  | last {cls : Cls} {d addr : Nat}
      (harray : arrays[addr - 1]? = some ⟨cls, List.replicate d 0⟩) :
      MultiArray arrays cls [d] addr [addr]
  | inner {cls : Cls} {d d' addr : Nat} {ds : List Nat} (subs : List (Nat × List Nat))
      (harray : arrays[addr - 1]? = some ⟨cls, subs.map Prod.fst⟩) (hlength : subs.length = d)
      (hsubs : ∀ s ∈ subs, MultiArray arrays cls.getComponentType (d' :: ds) s.1 s.2) :
      MultiArray arrays cls (d :: d' :: ds) addr (addr :: (subs.map Prod.snd).flatten)

section Shape

theorem getElem?_append_length {α : Type} (pre rest : List α) (a : α) :
    (pre ++ a :: rest)[pre.length]? = some a := by
  rw [List.getElem?_append_right (Nat.le_refl _), Nat.sub_self, List.getElem?_cons_zero]

theorem flatten_range'_blocks (s m d : Nat) :
    ((List.range d).map fun j => List.range' (s + j * m) m).flatten = List.range' s (d * m) := by
  induction d with
  | zero => simp
  | succ d ih => simp [List.range_succ, ih, Nat.succ_mul, List.range'_append_1, Nat.add_comm]

/-- The range `0, …, d - 1` split at `j < d`. -/
theorem range_split {j d : Nat} (hj : j < d) :
    List.range d = List.range j ++ j :: List.range' (j + 1) (d - (j + 1)) := by
  have h := List.range'_append_1 0 j (d - (j + 1) + 1)
  rw [Nat.zero_add, List.range'_succ, show d - (j + 1) + 1 + j = d by omega] at h
  rw [List.range_eq_range', List.range_eq_range', h]

/-- The arrays `RecursiveCreateMultiArray` appends form a tree over `ds` rooted at the first of
them, whose arrays are exactly the new ones, in allocation order. -/
theorem multiArray_multiArrays (ds : List Nat) (hds : ds ≠ []) :
    ∀ (cls : Cls) (pre post : List ArrayObj),
      MultiArray (pre ++ multiArrays cls ds pre.length ++ post) cls ds (pre.length + 1)
        (List.range' (pre.length + 1) (multiArrayCount ds)) := by
  induction ds with
  | nil => exact absurd rfl hds
  | cons d ds ih =>
    intro cls pre post
    rcases ds with _ | ⟨d', ds⟩
    · exact .last (by rw [Nat.add_sub_cancel, multiArrays, List.append_assoc, List.singleton_append,
        getElem?_append_length])
    · have hE := fun n => length_multiArrays cls.getComponentType (d' :: ds) n
      set M := multiArrayCount (d' :: ds)
      have hsubs : ∀ j < d, MultiArray (pre ++ multiArrays cls (d :: d' :: ds) pre.length ++ post)
          cls.getComponentType (d' :: ds) (pre.length + 2 + j * M)
          (List.range' (pre.length + 2 + j * M) M) := fun j hj => by
        have h := ih (List.cons_ne_nil _ _) cls.getComponentType
          (pre ++ ⟨cls, (List.range d).map fun j => pre.length + 2 + j * M⟩ ::
            (List.range j).flatMap fun i =>
              multiArrays cls.getComponentType (d' :: ds) (pre.length + 1 + i * M))
          ((List.range' (j + 1) (d - (j + 1))).flatMap (fun i =>
            multiArrays cls.getComponentType (d' :: ds) (pre.length + 1 + i * M)) ++ post)
        have hlen : (pre ++ ⟨cls, (List.range d).map fun j => pre.length + 2 + j * M⟩ ::
            (List.range j).flatMap fun i =>
              multiArrays cls.getComponentType (d' :: ds) (pre.length + 1 + i * M)).length =
            pre.length + 1 + j * M := by
          simp [length_flatMap_range _ _ fun i => hE _]
          omega
        rw [hlen, show pre.length + 1 + j * M + 1 = pre.length + 2 + j * M by omega] at h
        simpa [multiArrays, range_split hj, List.flatMap_append] using h
      have hinner := @MultiArray.inner (pre ++ multiArrays cls (d :: d' :: ds) pre.length ++ post)
        cls d d' (pre.length + 1) ds ((List.range d).map fun j =>
          (pre.length + 2 + j * M, List.range' (pre.length + 2 + j * M) M))
        (by rw [Nat.add_sub_cancel, multiArrays, List.append_assoc, List.cons_append,
          getElem?_append_length, List.map_map]; rfl)
        (by simp) fun s hs => by
          obtain ⟨j, hj, rfl⟩ := List.mem_map.mp hs
          exact hsubs j (List.mem_range.mp hj)
      have haddrs : (pre.length + 1) :: List.range' (pre.length + 2) (d * M) =
          List.range' (pre.length + 1) (multiArrayCount (d :: d' :: ds)) := by
        rw [multiArrayCount_cons, Nat.add_comm 1, List.range'_succ]
      rwa [List.map_map, Function.comp_def, flatten_range'_blocks, haddrs] at hinner

end Shape

section Checks

theorem firstNegativeDimension_eq_none {s : Nat} {ds : List Int} :
    firstNegativeDimension s ds = none ↔ ∀ d ∈ ds, 0 ≤ d := by
  induction ds generalizing s with
  | nil => simp [firstNegativeDimension]
  | cons d ds ih =>
    by_cases hd : d < 0
    · simp [firstNegativeDimension, hd]
    · simp [firstNegativeDimension, hd, ih, Int.not_lt.mp hd]

/-- The dimension `firstNegativeDimension` reports is negative, and the ones before it are not. -/
theorem firstNegativeDimension_eq_some {s i : Nat} {d : Int} {ds : List Int}
    (h : firstNegativeDimension s ds = some (i, d)) :
    s ≤ i ∧ ds[i - s]? = some d ∧ d < 0 ∧ ∀ j < i - s, ∀ d', ds[j]? = some d' → 0 ≤ d' := by
  induction ds generalizing s with
  | nil => simp [firstNegativeDimension] at h
  | cons e ds ih =>
    simp only [firstNegativeDimension] at h
    split at h
    · obtain ⟨rfl, rfl⟩ := Prod.mk.inj (Option.some.inj h)
      simp_all
    · obtain ⟨h1, h2, h3, h4⟩ := ih h
      refine ⟨by omega, ?_, h3, fun j hj d' hd' => ?_⟩
      · rw [show i - s = i - (s + 1) + 1 by omega]
        simpa using h2
      · cases j with
        | zero =>
          simp only [List.getElem?_cons_zero, Option.some.injEq] at hd'
          omega
        | succ j => exact h4 j (by omega) d' (by simpa using hd')

theorem arrayOf_array (n : Nat) (c : Cls) : arrayOf n (.array c) = arrayOf (n + 1) c := by
  induction n with
  | zero => rfl
  | succ n ih => simp [ih]

/-- What the class loop finds is the array class of the given rank. -/
theorem findArrayClassLoop_eq_some {rt : Runtime} {n : Nat} {c c' : Cls}
    (h : findArrayClassLoop rt n c = some c') : c' = arrayOf n c := by
  induction n generalizing c with
  | zero => exact (Option.some.inj h).symm
  | succ n ih =>
    simp only [findArrayClassLoop, findArrayClass] at h
    split at h
    · rename_i c'' hc
      split at hc <;> simp only [Option.some.injEq, reduceCtorEq] at hc
      rw [ih h, ← hc, arrayOf_array]
    · cases h

theorem findArrayClassLoop_of_finds {rt : Runtime} {n : Nat} {c : Cls}
    (h : ∀ j < n, rt.findsArrayClass (arrayOf j c) = true) :
    findArrayClassLoop rt n c = some (arrayOf n c) := by
  induction n generalizing c with
  | zero => rfl
  | succ n ih =>
    have h0 : rt.findsArrayClass c = true := h 0 (Nat.succ_pos n)
    simp only [findArrayClassLoop, findArrayClass, h0, if_true]
    rw [ih (c := .array c) fun j hj => by rw [arrayOf_array]; exact h (j + 1) (by omega),
      arrayOf_array]

/-- The class lookups of `CreateMultiArray` for `k + 1` dimensions give the `(k + 1)`-dimensional
array class when they succeed. -/
theorem findArrayClasses_eq_some {rt : Runtime} {e cls : Cls} {k : Nat}
    (h : (findArrayClass rt e).bind (findArrayClassLoop rt k) = some cls) :
    cls = arrayOf (k + 1) e := by
  simp only [findArrayClass] at h
  split at h
  · rw [Option.some_bind] at h
    rw [findArrayClassLoop_eq_some h, arrayOf_array]
  · cases h

/-- They succeed when each array class up to the `(k + 1)`-dimensional one can be found. -/
theorem findArrayClasses_of_finds {rt : Runtime} {e : Cls} {k : Nat}
    (h : ∀ j < k + 1, rt.findsArrayClass (arrayOf j e) = true) :
    (findArrayClass rt e).bind (findArrayClassLoop rt k) = some (arrayOf (k + 1) e) := by
  have h0 : rt.findsArrayClass e = true := h 0 (Nat.succ_pos k)
  rw [findArrayClass, if_pos h0, Option.some_bind, findArrayClassLoop_of_finds fun j hj => by
    rw [arrayOf_array]; exact h (j + 1) (by omega), arrayOf_array]

end Checks

section Result

variable {rt : Runtime} {cls : Cls} {ds : List Int} {h : ArrayHeap}

theorem recursiveCreateMultiArray_isSome (rt : Runtime) (cls : Cls) (h : ArrayHeap)
    (hds : ds ≠ []) : (recursiveCreateMultiArray rt cls ds h).1.isSome ↔
      AllocatesFrom rt h.arrays.length (multiArrayCount (ds.map Int.toNat)) := by
  have hspec := recursiveCreateMultiArray_allocSpec rt ds hds cls h
  by_cases hok : AllocatesFrom rt h.arrays.length (multiArrayCount (ds.map Int.toNat))
  · simp [hspec.1 hok, hok]
  · simp [(hspec.2 hok).1, hok]

theorem recursiveCreateMultiArray_none (hds : ds ≠ []) {h' : ArrayHeap}
    (hr : recursiveCreateMultiArray rt cls ds h = (none, h')) : h'.exception = some .outOfMemory := by
  have hno : ¬ AllocatesFrom rt h.arrays.length (multiArrayCount (ds.map Int.toNat)) := fun hok => by
    simpa [hr] using (recursiveCreateMultiArray_isSome rt cls h hds).mpr hok
  simpa [hr] using ((recursiveCreateMultiArray_allocSpec rt ds hds cls h).2 hno).2

/-- A result of `RecursiveCreateMultiArray` is the root of the tree of its new arrays. -/
theorem recursiveCreateMultiArray_some (hds : ds ≠ []) {root : Nat} {h' : ArrayHeap}
    (hr : recursiveCreateMultiArray rt cls ds h = (some root, h')) :
    root = h.arrays.length + 1 ∧ h'.exception = h.exception ∧
      h'.arrays.take h.arrays.length = h.arrays ∧
      h'.arrays.length = h.arrays.length + multiArrayCount (ds.map Int.toNat) ∧
      MultiArray h'.arrays cls (ds.map Int.toNat) root
        (List.range' root (multiArrayCount (ds.map Int.toNat))) := by
  have hok := (recursiveCreateMultiArray_isSome rt cls h hds).mp (by simp [hr])
  rw [(recursiveCreateMultiArray_allocSpec rt ds hds cls h).1 hok, Prod.mk.injEq,
    Option.some.injEq] at hr
  obtain ⟨rfl, rfl⟩ := hr
  refine ⟨rfl, rfl, by simp, by simp, ?_⟩
  simpa using multiArray_multiArrays _ (by simpa using hds) cls h.arrays []

end Result

/-- `CreateMultiArray` throws for a negative dimension, and otherwise builds a tree of
`1 + d₀ + ⋯ + d₀ ⋯ d_{k-2}` new arrays in preorder exactly when all allocations succeed. -/
theorem createMultiArray_builds_tree (rt : Runtime) (elementClass : Cls) (dimensions : List Int)
    (h : ArrayHeap) (hk : dimensions ≠ []) (r : Option Nat) (h' : ArrayHeap)
    (hr : createMultiArray rt elementClass dimensions h = (r, h')) :
    ((∃ d ∈ dimensions, d < 0) → r = none ∧ h'.arrays = h.arrays ∧
      ∃ i d, dimensions[i]? = some d ∧ d < 0 ∧ (∀ j < i, ∀ d', dimensions[j]? = some d' → 0 ≤ d') ∧
        h'.exception = some (.negativeArraySize (negativeArraySizeMessage i d))) ∧
    multiArrayCount (dimensions.map Int.toNat) =
      ((List.range dimensions.length).map fun i => ((dimensions.map Int.toNat).take i).prod).sum ∧
    ((∀ d ∈ dimensions, 0 ≤ d) →
      (∀ j < dimensions.length, rt.findsArrayClass (arrayOf j elementClass) = true) →
      (r.isSome ↔ ∀ j < multiArrayCount (dimensions.map Int.toNat),
        rt.allocates (h.arrays.length + j) = true)) ∧
    (∀ root, r = some root → root = h.arrays.length + 1 ∧ h'.exception = h.exception ∧
      h'.arrays.take h.arrays.length = h.arrays ∧
      h'.arrays.length = h.arrays.length + multiArrayCount (dimensions.map Int.toNat) ∧
      MultiArray h'.arrays (arrayOf dimensions.length elementClass) (dimensions.map Int.toNat) root
        (List.range' root (multiArrayCount (dimensions.map Int.toNat)))) ∧
    (r = none → h'.exception.isSome) := by
  have hcount := multiArrayCount_eq_sum (dimensions.map Int.toNat)
  rw [List.length_map] at hcount
  obtain ⟨k, hlen⟩ : ∃ k, dimensions.length = k + 1 :=
    ⟨dimensions.length - 1, by have := List.length_pos.mpr hk; omega⟩
  unfold createMultiArray at hr
  cases hneg : firstNegativeDimension 0 dimensions with
  | some p =>
    obtain ⟨i, d⟩ := p
    obtain ⟨-, hi, hd, hbefore⟩ := firstNegativeDimension_eq_some hneg
    simp only [hneg, Prod.mk.injEq] at hr
    obtain ⟨rfl, rfl⟩ := hr
    refine ⟨fun _ => ⟨rfl, rfl, i, d, by simpa using hi, hd, by simpa using hbefore, rfl⟩, hcount,
      fun hnn => absurd (hnn d (List.getElem?_mem hi)) (by omega), nofun, fun _ => rfl⟩
  | none =>
    have hnoneg : ¬ ∃ d ∈ dimensions, d < 0 := fun ⟨d, hd, hlt⟩ => by
      have := firstNegativeDimension_eq_none.mp hneg d hd
      omega
    simp only [hneg, hlen, Nat.add_sub_cancel] at hr
    cases hcls : (findArrayClass rt elementClass).bind (findArrayClassLoop rt k) with
    | none =>
      simp only [hcls, Prod.mk.injEq] at hr
      obtain ⟨rfl, rfl⟩ := hr
      refine ⟨fun hn => absurd hn hnoneg, hcount, fun _ hfinds => ?_, nofun, fun _ => rfl⟩
      rw [findArrayClasses_of_finds (hlen ▸ hfinds)] at hcls
      cases hcls
    | some cls =>
      simp only [hcls] at hr
      obtain rfl := findArrayClasses_eq_some hcls
      refine ⟨fun hn => absurd hn hnoneg, hcount, fun _ _ => ?_, fun root hroot => ?_,
        fun hnone => ?_⟩
      · have hsome := recursiveCreateMultiArray_isSome rt (arrayOf (k + 1) elementClass) h hk
        rw [hr] at hsome
        exact hsome
      · rw [hlen]
        exact recursiveCreateMultiArray_some hk (hroot ▸ hr)
      · subst hnone
        simp [recursiveCreateMultiArray_none hk hr]

example : createMultiArray ⟨fun _ => true, fun _ => true⟩ (.element 0) [2, 1] ⟨[], none⟩ =
    (some 1, ⟨[⟨.array (.array (.element 0)), [2, 3]⟩, ⟨.array (.element 0), [0]⟩,
      ⟨.array (.element 0), [0]⟩], none⟩) := by decide

/-- A `2 × 1` array of element class 0 on an empty heap: arrays 1, 2 and 3 form its tree. -/
theorem two_by_one_multi_array :
    MultiArray (createMultiArray ⟨fun _ => true, fun _ => true⟩ (.element 0) [2, 1]
      ⟨[], none⟩).2.arrays (arrayOf 2 (.element 0)) [2, 1] 1 (List.range' 1 3) :=
  ((createMultiArray_builds_tree ⟨fun _ => true, fun _ => true⟩ (.element 0) [2, 1] ⟨[], none⟩
    (by decide) _ _ rfl).2.2.2.1 1 (by decide)).2.2.2.2

end Marvin.Mirror
