import Mathlib.Algebra.BigOperators.Group.List
import Mathlib.Algebra.Order.Ring.Nat

namespace Marvin.Mirror

/-- A class as `CreateMultiArray` sees it: an element class, or the array class of a
component class. -/
inductive Cls
  | element (id : Nat)
  | array (component : Cls)
  deriving DecidableEq, Repr

namespace Cls

/-- Modelled from the spec: `Class::GetComponentType` (not under src/) of an array class, the
only kind `RecursiveCreateMultiArray` asks it of. -/
def getComponentType : Cls → Cls
  | array c => c
  | c => c

/-- The `n`-dimensional array class of `c`. -/
def arrayOf : Nat → Cls → Cls
  | 0, c => c
  | n + 1, c => array (arrayOf n c)

@[simp] theorem arrayOf_zero (c : Cls) : arrayOf 0 c = c := rfl
@[simp] theorem arrayOf_succ (n : Nat) (c : Cls) : arrayOf (n + 1) c = array (arrayOf n c) := rfl
@[simp] theorem getComponentType_array (c : Cls) : (array c).getComponentType = c := rfl

end Cls

/-- The exceptions `CreateMultiArray` leaves pending. -/
inductive Throwable
  | negativeArraySize (message : String)
  | outOfMemory
  | classLinkerError
  deriving DecidableEq, Repr

/-- An array object: its class, and its elements as references, 0 being `nullptr`. -/
structure ArrayObj where
  cls : Cls
  elems : List Nat
  deriving DecidableEq, Repr

/-- The arrays allocated so far, address `k + 1` holding `arrays[k]` (0 is `nullptr`), and the
calling thread's pending exception. -/
structure ArrayHeap where
  arrays : List ArrayObj
  exception : Option Throwable
  deriving DecidableEq, Repr

/-- Modelled from the spec: what the runtime outside src/ decides for `CreateMultiArray`, whether
`FindArrayClass` finds each array class and whether each `Array::Alloc` succeeds. -/
structure Runtime where
  findsArrayClass : Cls → Bool
  allocates : Nat → Bool

namespace ArrayHeap

/-- Modelled from the spec: `Array::Alloc` of an array of class `cls` with `length` null
elements, at the next address. -/
def alloc (rt : Runtime) (h : ArrayHeap) (cls : Cls) (length : Nat) : Option Nat × ArrayHeap :=
  if rt.allocates h.arrays.length then
    (some (h.arrays.length + 1), { h with arrays := h.arrays ++ [⟨cls, List.replicate length 0⟩] })
  else (none, { h with exception := some .outOfMemory })

/-- `ObjectArray::Set<false, false>` of element `i` of the array at `array` to `ref`. -/
def set (h : ArrayHeap) (array i ref : Nat) : ArrayHeap :=
  { h with arrays := h.arrays.modify (fun a => { a with elems := a.elems.set i ref }) (array - 1) }

variable {rt : Runtime} {h : ArrayHeap}

theorem alloc_of_allocates (hok : rt.allocates h.arrays.length = true) (cls : Cls) (length : Nat) :
    h.alloc rt cls length =
      (some (h.arrays.length + 1), { h with arrays := h.arrays ++ [⟨cls, List.replicate length 0⟩] }) := by
  simp [alloc, hok]

theorem alloc_of_not_allocates (hno : rt.allocates h.arrays.length = false) (cls : Cls)
    (length : Nat) : h.alloc rt cls length = (none, { h with exception := some .outOfMemory }) := by
  simp [alloc, hno]

@[simp] theorem set_length (h : ArrayHeap) (array i ref : Nat) :
    (h.set array i ref).arrays.length = h.arrays.length := by
  simp [set]

@[simp] theorem set_exception (h : ArrayHeap) (array i ref : Nat) :
    (h.set array i ref).exception = h.exception := rfl

theorem modify_append_length {α : Type} (f : α → α) (pre rest : List α) (a : α) :
    (pre ++ a :: rest).modify f pre.length = pre ++ f a :: rest := by
  induction pre with
  | nil => rfl
  | cons b pre ih => simp [ih]

/-- `Set` of an element of the array after `pre` changes that array only. -/
theorem set_append (pre rest : List ArrayObj) (a : ArrayObj) (exception : Option Throwable)
    (i ref : Nat) :
    (⟨pre ++ a :: rest, exception⟩ : ArrayHeap).set (pre.length + 1) i ref =
      ⟨pre ++ { a with elems := a.elems.set i ref } :: rest, exception⟩ := by
  simp [set, modify_append_length]

end ArrayHeap

/-- Modelled from the spec: `ClassLinker::FindArrayClass`, the array class of `c`, or `nullptr`
with an exception pending. -/
def findArrayClass (rt : Runtime) (c : Cls) : Option Cls :=
  if rt.findsArrayClass c then some (.array c) else none

/-- The loop of `RecursiveCreateMultiArray` over the elements `is` of `newArray`: each gets a
sub-array from `sub`, and the first failure is returned. -/
def fillSubArrays (sub : ArrayHeap → Option Nat × ArrayHeap) (newArray : Nat) :
    List Nat → ArrayHeap → Option Nat × ArrayHeap
  | [], h => (some newArray, h)
  | i :: is, h =>
    match sub h with
    | (some subArray, h) => fillSubArrays sub newArray is (h.set newArray i subArray)
    | (none, h) => (none, h)

/-- `RecursiveCreateMultiArray` at `current_dimension`, given the dimensions from there on. -/
def recursiveCreateMultiArray (rt : Runtime) (arrayClass : Cls) :
    List Int → ArrayHeap → Option Nat × ArrayHeap
  | [], h => (none, h)
  | arrayLength :: rest, h =>
    match h.alloc rt arrayClass arrayLength.toNat with
    | (some newArray, h) =>
      if rest = [] then (some newArray, h)
      else fillSubArrays (recursiveCreateMultiArray rt arrayClass.getComponentType rest) newArray
        (List.range arrayLength.toNat) h
    | (none, h) => (none, h)

/-- The first negative dimension from index `i` on, with its index. -/
def firstNegativeDimension : Nat → List Int → Option (Nat × Int)
  | _, [] => none
  | i, dimension :: ds =>
    if dimension < 0 then some (i, dimension) else firstNegativeDimension (i + 1) ds

/-- The message of the `NegativeArraySizeException`, `"Dimension %d: %d"`. -/
def negativeArraySizeMessage (i : Nat) (dimension : Int) : String :=
  "Dimension " ++ toString i ++ ": " ++ toString dimension

/-- The loop of `CreateMultiArray` that finds the array class of its class `n` more times. -/
def findArrayClassLoop (rt : Runtime) : Nat → Cls → Option Cls
  | 0, c => some c
  | n + 1, c =>
    match findArrayClass rt c with
    | some c => findArrayClassLoop rt n c
    | none => none

/-- `Array::CreateMultiArray`: the dimensions are checked, the array class found one dimension
at a time, and the arrays allocated by `RecursiveCreateMultiArray`. -/
def createMultiArray (rt : Runtime) (elementClass : Cls) (dimensions : List Int) (h : ArrayHeap) :
    Option Nat × ArrayHeap :=
  match firstNegativeDimension 0 dimensions with
  | some (i, dimension) =>
    (none, { h with exception := some (.negativeArraySize (negativeArraySizeMessage i dimension)) })
  | none =>
    match (findArrayClass rt elementClass).bind (findArrayClassLoop rt (dimensions.length - 1)) with
    | none => (none, { h with exception := some .classLinkerError })
    | some arrayClass => recursiveCreateMultiArray rt arrayClass dimensions h

end Marvin.Mirror
