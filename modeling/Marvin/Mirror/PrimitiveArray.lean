import Mathlib.Data.List.Basic
import Mathlib.Algebra.Order.Ring.Nat

namespace Marvin.Mirror

/-- A primitive array as `Array::CopyOf` reads it: the component-size shift, `GetLength()` and its
raw bytes. -/
structure PrimitiveArray where
  componentSizeShift : Nat
  length : Nat
  data : List UInt8
  data_length : data.length = length <<< componentSizeShift

namespace PrimitiveArray

/-- Element `i`: the `1 << shift` bytes at `i << shift`. -/
def getElement (a : PrimitiveArray) (i : Nat) : List UInt8 :=
  (a.data.drop (i <<< a.componentSizeShift)).take (1 <<< a.componentSizeShift)

/-- Modelled from the spec: a successful `Array::Alloc` of `length` components of size
`1 << componentSizeShift`, whose data is zeroed. -/
def alloc (componentSizeShift length : Nat) : PrimitiveArray :=
  ⟨componentSizeShift, length, List.replicate (length <<< componentSizeShift) 0, List.length_replicate _ _⟩

/-- `memcpy(dst->GetRawData(..), src->GetRawData(..), n)` of `n` bytes that lie within both
arrays. -/
def memcpy (dst src : PrimitiveArray) (n : Nat) (h : n ≤ dst.data.length ∧ n ≤ src.data.length) :
    PrimitiveArray :=
  ⟨dst.componentSizeShift, dst.length, src.data.take n ++ dst.data.drop n, by
    rw [List.length_append, List.length_take, List.length_drop, ← dst.data_length]
    omega⟩

theorem data_length_eq (a : PrimitiveArray) :
    a.data.length = a.length * 2 ^ a.componentSizeShift := by
  rw [a.data_length, Nat.shiftLeft_eq]

/-- The `c` bytes at `p` of a copy whose first `n` bytes come from `l` are those of `l`, when
they end by `n`. -/
theorem take_drop_of_copied {l r : List UInt8} {n p c : Nat} (hp : p + c ≤ n) (hn : n ≤ l.length) :
    ((l.take n ++ r).drop p).take c = (l.drop p).take c := by
  rw [List.drop_append_of_le_length (by simp; omega), List.take_append_of_le_length (by simp; omega),
    List.drop_take, List.take_take, Nat.min_eq_left (by omega)]

/-- The `c` bytes at `p` of a copy into zeroed bytes are zero when they start past the copy. -/
theorem take_drop_of_zeroed {l : List UInt8} {n p c N : Nat} (hn : n ≤ l.length) (hp : n ≤ p)
    (hN : p + c ≤ N) :
    ((l.take n ++ (List.replicate N 0).drop n).drop p).take c = List.replicate c 0 := by
  rw [List.drop_append_eq_append_drop, List.drop_eq_nil_of_le (by simp; omega), List.nil_append,
    List.drop_replicate, List.drop_replicate, List.take_replicate, List.length_take,
    Nat.min_eq_left hn]
  congr 1
  omega

end PrimitiveArray

/-- The byte count `CopyOf` passes to `memcpy`: the shorter length as an `int32_t`, shifted in 32
bits and sign-extended to `size_t`. -/
def copyByteCount (length newLength componentSizeShift : Nat) : Nat :=
  ((BitVec.ofNat 32 (min length newLength) <<< componentSizeShift).signExtend 64).toNat

/-- `Array::CopyOf` to `newLength` components: `some none` is the `nullptr` of a failed `Alloc`, and
`none` a `memcpy` past the end of either array. -/
def copyOf (allocates : Bool) (a : PrimitiveArray) (newLength : Nat) : Option (Option PrimitiveArray) :=
  if allocates then
    let newArray := PrimitiveArray.alloc a.componentSizeShift newLength
    let n := copyByteCount a.length newLength a.componentSizeShift
    if h : n ≤ newArray.data.length ∧ n ≤ a.data.length then some (some (newArray.memcpy a n h))
    else none
  else some none

theorem copyByteCount_of_lt {length newLength s : Nat} (h : min length newLength <<< s < 2 ^ 31) :
    copyByteCount length newLength s = min length newLength <<< s := by
  have hm : min length newLength < 2 ^ 32 := by
    have := Nat.le_mul_of_pos_right (min length newLength) (Nat.two_pow_pos s)
    rw [Nat.shiftLeft_eq] at h
    omega
  have hx : (BitVec.ofNat 32 (min length newLength) <<< s).toNat = min length newLength <<< s := by
    rw [BitVec.toNat_shiftLeft, BitVec.toNat_ofNat, Nat.mod_eq_of_lt hm, Nat.mod_eq_of_lt (by omega)]
  have hmsb : (BitVec.ofNat 32 (min length newLength) <<< s).msb = false := by
    rw [BitVec.msb_eq_decide, hx]
    simpa using h
  rw [copyByteCount, BitVec.signExtend_eq_not_setWidth_not_of_msb_false hmsb, BitVec.toNat_setWidth,
    hx, Nat.mod_eq_of_lt (by omega)]

/-- Past `2^31` bytes the 32-bit count turns negative and widens to a huge `size_t`. -/
example : copyByteCount (2 ^ 28) (2 ^ 28) 3 = 2 ^ 64 - 2 ^ 31 := by decide

/-- `CopyOf` copies whole elements: while the byte count fits in 32 bits, the new array holds the
elements of `a` up to the shorter length, and zero after. -/
theorem copyOf_copies_elements (a : PrimitiveArray) (newLength : Nat)
    (hn : min a.length newLength <<< a.componentSizeShift < 2 ^ 31) :
    copyOf false a newLength = some none ∧
      ∃ b, copyOf true a newLength = some (some b) ∧
        b.componentSizeShift = a.componentSizeShift ∧ b.length = newLength ∧
        ∀ i < newLength, b.getElement i =
          if i < a.length then a.getElement i else List.replicate (1 <<< a.componentSizeShift) 0 := by
  have hcount := copyByteCount_of_lt hn
  have hlen := a.data_length_eq
  have hmul : ∀ {x y : Nat}, x ≤ y → x * 2 ^ a.componentSizeShift ≤ y * 2 ^ a.componentSizeShift :=
    fun h => Nat.mul_le_mul_right _ h
  have hfit : copyByteCount a.length newLength a.componentSizeShift ≤
        (PrimitiveArray.alloc a.componentSizeShift newLength).data.length ∧
      copyByteCount a.length newLength a.componentSizeShift ≤ a.data.length := by
    rw [hcount, hlen, Nat.shiftLeft_eq]
    simp only [PrimitiveArray.alloc, List.length_replicate, Nat.shiftLeft_eq]
    exact ⟨hmul (Nat.min_le_right _ _), hmul (Nat.min_le_left _ _)⟩
  refine ⟨rfl, (PrimitiveArray.alloc _ newLength).memcpy a _ hfit,
    by simp only [copyOf, if_true, dif_pos hfit], rfl, rfl, fun i hi => ?_⟩
  simp only [PrimitiveArray.getElement, PrimitiveArray.memcpy, PrimitiveArray.alloc, hcount,
    Nat.shiftLeft_eq, Nat.one_mul]
  split_ifs with hia
  · have hi' : i + 1 ≤ min a.length newLength := by omega
    have := hmul hi'
    rw [Nat.succ_mul] at this
    exact PrimitiveArray.take_drop_of_copied this (hlen ▸ hmul (Nat.min_le_left _ _))
  · have hi' : i + 1 ≤ newLength := hi
    have := hmul hi'
    rw [Nat.succ_mul] at this
    exact PrimitiveArray.take_drop_of_zeroed (hlen ▸ hmul (Nat.min_le_left _ _))
      (hmul (by omega)) this

/-- A two-element `char[]` grown to three: the count of 4 bytes is well within 32 bits. -/
theorem char_array_copy_grows :
    min 2 3 <<< 1 < 2 ^ 31 ∧
      (copyOf false ⟨1, 2, [1, 2, 3, 4], rfl⟩ 3 = some none ∧
        ∃ b, copyOf true ⟨1, 2, [1, 2, 3, 4], rfl⟩ 3 = some (some b) ∧
          b.componentSizeShift = 1 ∧ b.length = 3 ∧
          ∀ i < 3, b.getElement i =
            if i < 2 then PrimitiveArray.getElement ⟨1, 2, [1, 2, 3, 4], rfl⟩ i
            else List.replicate (1 <<< 1) 0) :=
  ⟨by decide, copyOf_copies_elements ⟨1, 2, [1, 2, 3, 4], rfl⟩ 3 (by decide)⟩

end Marvin.Mirror
