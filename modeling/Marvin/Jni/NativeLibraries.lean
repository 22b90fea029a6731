import Mathlib.Data.String.Basic
import Mathlib.Data.List.Sort

namespace Marvin.Jni.NativeLibraries

/-- What `Libraries` uses of a `SharedLibrary`: its class loader (`none` for the boot loader), the
loader's allocator, whether it needs the native bridge, and its symbols. -/
structure SharedLibrary where
  classLoader : Option Nat
  classLoaderAllocator : Nat
  needsNativeBridge : Bool
  dlsym : String → Option Nat
  trampoline : String → Option String → Option Nat

/-- `SharedLibrary::FindSymbol`. -/
def SharedLibrary.findSymbol (lib : SharedLibrary) (symbolName : String) (shorty : Option String) :
    Option Nat :=
  if lib.needsNativeBridge then lib.trampoline symbolName shorty else lib.dlsym symbolName

/-- The shorty `FindNativeMethodInternal` passes to `FindSymbol`: the method's, for a library
that needs the native bridge, and `nullptr` otherwise. -/
def SharedLibrary.argShorty (library : SharedLibrary) (shorty : String) : Option String :=
  if library.needsNativeBridge then some shorty else none

/-- `libraries_`, a `SafeMap` from path to library, as its entries in path order. -/
structure Libraries where
  libraries : List (String × SharedLibrary)

/-- `Libraries::Get`. -/
def Libraries.get (ls : Libraries) (path : String) : Option SharedLibrary := ls.libraries.lookup path

/-- Where `std::map` puts a new path: before the first greater one. -/
def insertSorted (path : String) (library : SharedLibrary) :
    List (String × SharedLibrary) → List (String × SharedLibrary)
  | [] => [(path, library)]
  | (p, l) :: rest =>
    if path < p then (path, library) :: (p, l) :: rest else (p, l) :: insertSorted path library rest

/-- `Libraries::Put`, for a path `Get` did not find (`SafeMap::Put` DCHECKs it). -/
def Libraries.put (ls : Libraries) (path : String) (library : SharedLibrary) : Libraries :=
  ⟨insertSorted path library ls.libraries⟩

/-- What `FindNativeMethod` knows of the `ArtMethod`: `PrettyMethod()`, `GetShorty()`,
`JniShortName()`, `JniLongName()`, and the allocator of its declaring class's loader. -/
structure NativeMethod where
  prettyMethod : String
  shorty : String
  jniShortName : String
  jniLongName : String
  declaringClassLoaderAllocator : Nat

/-- The loop of `Libraries::FindNativeMethodInternal`: only the libraries of the declaring class
loader are searched, in path order, for the short name and then the long name. -/
def findNativeMethodInternal (declaringClassLoaderAllocator : Nat) (shorty jniShortName jniLongName : String) :
    List (String × SharedLibrary) → Option Nat
  | [] => none
  | (_, library) :: rest =>
    if library.classLoaderAllocator ≠ declaringClassLoaderAllocator then
      findNativeMethodInternal declaringClassLoaderAllocator shorty jniShortName jniLongName rest
    else
      let argShorty := library.argShorty shorty
      match library.findSymbol jniShortName argShorty with
      | some fn => some fn
      | none =>
        match library.findSymbol jniLongName argShorty with
        | some fn => some fn
        | none => findNativeMethodInternal declaringClassLoaderAllocator shorty jniShortName jniLongName rest

/-- `Libraries::FindNativeMethod`: the code, or `nullptr` with the reason appended to `detail`. -/
def Libraries.findNativeMethod (ls : Libraries) (m : NativeMethod) (detail : String) :
    Option Nat × String :=
  match findNativeMethodInternal m.declaringClassLoaderAllocator m.shorty m.jniShortName m.jniLongName
      ls.libraries with
  | some nativeCode => (some nativeCode, detail)
  | none => (none, detail ++ "No implementation found for " ++ m.prettyMethod ++ " (tried " ++
      m.jniShortName ++ " and " ++ m.jniLongName ++ ")")

/-- `FindCodeForNativeMethodInAgents` over the agents' `FindSymbol`, short name first. -/
def findCodeForNativeMethodInAgents (jniShortName jniLongName : String) :
    List (String → Option Nat) → Option Nat
  | [] => none
  | agent :: rest =>
    match agent jniShortName with
    | some fn => some fn
    | none =>
      match agent jniLongName with
      | some fn => some fn
      | none => findCodeForNativeMethodInAgents jniShortName jniLongName rest

/-- `JavaVMExt::FindCodeForNativeMethod`: the code, and the message of the
`UnsatisfiedLinkError` it throws when neither the libraries nor the agents have it. -/
def Libraries.findCodeForNativeMethod (ls : Libraries) (agents : List (String → Option Nat))
    (m : NativeMethod) : Option Nat × Option String :=
  let (nativeMethod, detail) := ls.findNativeMethod m ""
  let nativeMethod := match nativeMethod with
    | some fn => some fn
    | none => findCodeForNativeMethodInAgents m.jniShortName m.jniLongName agents
  match nativeMethod with
  | some fn => (some fn, none)
  | none => (none, some detail)

/-- The loop of `UnloadNativeLibraries`: a library whose class-loader weak global is cleared is
erased and queued for unloading; the others stay. -/
def unloadPartition (isJWeakCleared : Nat → Bool) :
    List (String × SharedLibrary) → List (String × SharedLibrary) × List SharedLibrary
  | [] => ([], [])
  | (path, library) :: rest =>
    let r := unloadPartition isJWeakCleared rest
    match library.classLoader with
    | some classLoader =>
      if isJWeakCleared classLoader then (r.1, library :: r.2) else ((path, library) :: r.1, r.2)
    | none => ((path, library) :: r.1, r.2)

/-- `Libraries::UnloadLibraries`: the `JNI_OnUnload` functions it calls, in order. -/
def unloadLibraries (libraries : List SharedLibrary) : List Nat :=
  libraries.filterMap fun library => library.findSymbol "JNI_OnUnload" none

/-- `Libraries::UnloadNativeLibraries`: the table after the erasures, and the `JNI_OnUnload`
calls. -/
def Libraries.unloadNativeLibraries (ls : Libraries) (isJWeakCleared : Nat → Bool) :
    Libraries × List Nat :=
  (⟨(unloadPartition isJWeakCleared ls.libraries).1⟩,
    unloadLibraries (unloadPartition isJWeakCleared ls.libraries).2)

/-- `Libraries::UnloadBootNativeLibraries`: the `JNI_OnUnload` calls of the boot libraries; the
table is left as it is. -/
def Libraries.unloadBootNativeLibraries (ls : Libraries) : List Nat :=
  unloadLibraries ((ls.libraries.filter fun e => e.2.classLoader = none).map Prod.snd)

section Lookup

variable (a : Nat) (shorty s l : String)

/-- One library of the search: skipped for another class loader, else its short name's code,
else its long name's, else the rest of the search. -/
theorem findNativeMethodInternal_cons (path : String) (library : SharedLibrary)
    (rest : List (String × SharedLibrary)) :
    findNativeMethodInternal a shorty s l ((path, library) :: rest) =
      if library.classLoaderAllocator = a then
        ((library.findSymbol s (library.argShorty shorty)).or
          (library.findSymbol l (library.argShorty shorty))).or (findNativeMethodInternal a shorty s l rest)
      else findNativeMethodInternal a shorty s l rest := by
  simp only [findNativeMethodInternal, ite_not]
  split
  · cases library.findSymbol s (library.argShorty shorty) <;>
      cases library.findSymbol l (library.argShorty shorty) <;> rfl
  · rfl

theorem findNativeMethodInternal_filter (libs : List (String × SharedLibrary)) :
    findNativeMethodInternal a shorty s l libs =
      findNativeMethodInternal a shorty s l (libs.filter fun e => e.2.classLoaderAllocator = a) := by
  induction libs with
  | nil => rfl
  | cons e rest ih =>
    obtain ⟨path, library⟩ := e
    by_cases ha : library.classLoaderAllocator = a
    · simp [List.filter_cons, ha, findNativeMethodInternal_cons, ih]
    · simp [List.filter_cons, ha, findNativeMethodInternal_cons, ih]

theorem findNativeMethodInternal_sound {libs : List (String × SharedLibrary)} {fn : Nat}
    (h : findNativeMethodInternal a shorty s l libs = some fn) :
    ∃ e ∈ libs, e.2.classLoaderAllocator = a ∧
      (e.2.findSymbol s (e.2.argShorty shorty) = some fn ∨
        e.2.findSymbol l (e.2.argShorty shorty) = some fn) := by
  induction libs with
  | nil => cases h
  | cons e rest ih =>
    obtain ⟨path, library⟩ := e
    rw [findNativeMethodInternal_cons] at h
    split at h
    · rename_i ha
      cases hs : library.findSymbol s (library.argShorty shorty) with
      | some f =>
        rw [hs] at h
        cases h
        exact ⟨_, List.mem_cons_self _ _, ha, .inl hs⟩
      | none =>
        cases hl : library.findSymbol l (library.argShorty shorty) with
        | some f =>
          rw [hs, hl] at h
          cases h
          exact ⟨_, List.mem_cons_self _ _, ha, .inr hl⟩
        | none =>
          rw [hs, hl] at h
          obtain ⟨e', he', h'⟩ := ih h
          exact ⟨e', List.mem_cons_of_mem _ he', h'⟩
    · obtain ⟨e', he', h'⟩ := ih h
      exact ⟨e', List.mem_cons_of_mem _ he', h'⟩

theorem findNativeMethodInternal_complete {libs : List (String × SharedLibrary)}
    (h : ∃ e ∈ libs, e.2.classLoaderAllocator = a ∧
      ((e.2.findSymbol s (e.2.argShorty shorty)).isSome ∨ (e.2.findSymbol l (e.2.argShorty shorty)).isSome)) :
    (findNativeMethodInternal a shorty s l libs).isSome := by
  induction libs with
  | nil => simp at h
  | cons e rest ih =>
    obtain ⟨path, library⟩ := e
    obtain ⟨e', he', ha', hsome⟩ := h
    rw [findNativeMethodInternal_cons]
    rcases List.mem_cons.mp he' with rfl | hrest
    · simp only at ha'
      rw [if_pos ha']
      cases hs : library.findSymbol s (library.argShorty shorty)
      · rcases hsome with hsome | hsome
        · simp [hs] at hsome
        · obtain ⟨x, hx⟩ := Option.isSome_iff_exists.mp hsome
          simp [hx]
      · rfl
    · split
      · cases library.findSymbol s (library.argShorty shorty) <;>
          cases library.findSymbol l (library.argShorty shorty) <;> simp [ih ⟨e', hrest, ha', hsome⟩]
      · exact ih ⟨e', hrest, ha', hsome⟩

theorem findNativeMethodInternal_first {pre post : List (String × SharedLibrary)} {path : String}
    {library : SharedLibrary} (ha : library.classLoaderAllocator = a)
    (hpre : ∀ e ∈ pre, e.2.classLoaderAllocator = a →
      e.2.findSymbol s (e.2.argShorty shorty) = none ∧ e.2.findSymbol l (e.2.argShorty shorty) = none)
    (hfound : ((library.findSymbol s (library.argShorty shorty)).or
      (library.findSymbol l (library.argShorty shorty))).isSome) :
    findNativeMethodInternal a shorty s l (pre ++ (path, library) :: post) =
      (library.findSymbol s (library.argShorty shorty)).or (library.findSymbol l (library.argShorty shorty)) := by
  induction pre with
  | nil =>
    rw [List.nil_append, findNativeMethodInternal_cons, if_pos ha]
    obtain ⟨x, hx⟩ := Option.isSome_iff_exists.mp hfound
    rw [hx, Option.or_some]
  | cons e pre ih =>
    obtain ⟨p', lib'⟩ := e
    rw [List.cons_append, findNativeMethodInternal_cons, ih fun e he => hpre e (List.mem_cons_of_mem _ he)]
    split
    · rename_i ha'
      obtain ⟨h1, h2⟩ := hpre _ (List.mem_cons_self _ _) ha'
      rw [h1, h2, Option.none_or, Option.none_or]
    · rfl

end Lookup

/-- `FindNativeMethod` finds the short- or long-name code of the first library of the declaring
loader, in path order, that defines either name, and only such code. -/
theorem findNativeMethod_searches_declaring_loader (a : Nat) (shorty s l : String)
    (libs : List (String × SharedLibrary)) :
    findNativeMethodInternal a shorty s l libs =
      findNativeMethodInternal a shorty s l (libs.filter fun e => e.2.classLoaderAllocator = a) ∧
    (∀ fn, findNativeMethodInternal a shorty s l libs = some fn →
      ∃ e ∈ libs, e.2.classLoaderAllocator = a ∧
        (e.2.findSymbol s (e.2.argShorty shorty) = some fn ∨
          e.2.findSymbol l (e.2.argShorty shorty) = some fn)) ∧
    ((∃ e ∈ libs, e.2.classLoaderAllocator = a ∧
        ((e.2.findSymbol s (e.2.argShorty shorty)).isSome ∨
          (e.2.findSymbol l (e.2.argShorty shorty)).isSome)) →
      (findNativeMethodInternal a shorty s l libs).isSome) ∧
    ∀ pre path library post, libs = pre ++ (path, library) :: post → library.classLoaderAllocator = a →
      (∀ e ∈ pre, e.2.classLoaderAllocator = a →
        e.2.findSymbol s (e.2.argShorty shorty) = none ∧ e.2.findSymbol l (e.2.argShorty shorty) = none) →
      ((library.findSymbol s (library.argShorty shorty)).or
        (library.findSymbol l (library.argShorty shorty))).isSome →
      findNativeMethodInternal a shorty s l libs =
        (library.findSymbol s (library.argShorty shorty)).or (library.findSymbol l (library.argShorty shorty)) :=
  ⟨findNativeMethodInternal_filter a shorty s l libs,
    fun _ h => findNativeMethodInternal_sound a shorty s l h,
    findNativeMethodInternal_complete a shorty s l,
    fun _ _ _ _ hlibs ha hpre hfound => hlibs ▸ findNativeMethodInternal_first a shorty s l ha hpre hfound⟩

theorem findNativeMethodInternal_eq_none (a : Nat) (shorty s l : String)
    (libs : List (String × SharedLibrary)) :
    findNativeMethodInternal a shorty s l libs = none ↔
      ∀ e ∈ libs, e.2.classLoaderAllocator = a →
        e.2.findSymbol s (e.2.argShorty shorty) = none ∧ e.2.findSymbol l (e.2.argShorty shorty) = none := by
  constructor
  · intro h e he ha
    by_contra hne
    have := findNativeMethodInternal_complete a shorty s l ⟨e, he, ha, by
      simp only [Option.isSome_iff_ne_none]
      tauto⟩
    simp [h] at this
  · intro h
    cases hf : findNativeMethodInternal a shorty s l libs with
    | none => rfl
    | some fn =>
      obtain ⟨e, he, ha, hs | hs⟩ := findNativeMethodInternal_sound a shorty s l hf <;>
        simp [(h e he ha).1, (h e he ha).2] at hs

theorem findCodeForNativeMethodInAgents_eq_none (s l : String) (agents : List (String → Option Nat)) :
    findCodeForNativeMethodInAgents s l agents = none ↔ ∀ agent ∈ agents, agent s = none ∧ agent l = none := by
  induction agents with
  | nil => simp [findCodeForNativeMethodInAgents]
  | cons agent rest ih =>
    simp only [findCodeForNativeMethodInAgents, List.mem_cons, forall_eq_or_imp]
    cases agent s <;> cases agent l <;> simp [ih]

/-- `FindCodeForNativeMethod` asks the agents only when `libraries_` has no code, and throws
`UnsatisfiedLinkError` exactly when neither defines either name. -/
theorem findCodeForNativeMethod_throws_iff_unresolved (ls : Libraries)
    (agents : List (String → Option Nat)) (m : NativeMethod) :
    (ls.findCodeForNativeMethod agents m).1 =
      (findNativeMethodInternal m.declaringClassLoaderAllocator m.shorty m.jniShortName m.jniLongName
        ls.libraries).or (findCodeForNativeMethodInAgents m.jniShortName m.jniLongName agents) ∧
    ((ls.findCodeForNativeMethod agents m).2 =
        some ("No implementation found for " ++ m.prettyMethod ++ " (tried " ++ m.jniShortName ++
          " and " ++ m.jniLongName ++ ")") ↔
      (∀ e ∈ ls.libraries, e.2.classLoaderAllocator = m.declaringClassLoaderAllocator →
        e.2.findSymbol m.jniShortName (e.2.argShorty m.shorty) = none ∧
          e.2.findSymbol m.jniLongName (e.2.argShorty m.shorty) = none) ∧
      ∀ agent ∈ agents, agent m.jniShortName = none ∧ agent m.jniLongName = none) := by
  rw [← findNativeMethodInternal_eq_none, ← findCodeForNativeMethodInAgents_eq_none]
  unfold Libraries.findCodeForNativeMethod Libraries.findNativeMethod
  cases findNativeMethodInternal m.declaringClassLoaderAllocator m.shorty m.jniShortName m.jniLongName
    ls.libraries <;> cases findCodeForNativeMethodInAgents m.jniShortName m.jniLongName agents <;> simp

section Table

/-- The `libraries_` tables a `JavaVMExt` reaches: from empty, by a `Put` of a path `Get` did not
find (`LoadNativeLibrary`, under `jni_libraries_lock_`), and by `UnloadNativeLibraries`. -/
inductive TableReachable : Libraries → Prop where
  | empty : TableReachable ⟨[]⟩
  | put {ls : Libraries} (h : TableReachable ls) (path : String) (library : SharedLibrary)
      (hnew : ls.get path = none) : TableReachable (ls.put path library)
  | unload {ls : Libraries} (h : TableReachable ls) (isJWeakCleared : Nat → Bool) :
      TableReachable (ls.unloadNativeLibraries isJWeakCleared).1

variable {libs : List (String × SharedLibrary)}

theorem lookup_cons_ne {q p : String} (l : SharedLibrary) (h : q ≠ p) :
    (List.lookup q ((p, l) :: libs)) = libs.lookup q := by
  rw [List.lookup_cons, beq_false_of_ne h]

theorem lookup_cons_self (q : String) (l : SharedLibrary) : (List.lookup q ((q, l) :: libs)) = some l := by
  simp [List.lookup_cons]

theorem unloadPartition_fst (c : Nat → Bool) (libs : List (String × SharedLibrary)) :
    (unloadPartition c libs).1 = libs.filter fun e => !e.2.classLoader.any c := by
  induction libs with
  | nil => rfl
  | cons e rest ih =>
    obtain ⟨path, library⟩ := e
    simp only [unloadPartition, List.filter_cons, ih]
    cases hc : library.classLoader with
    | none => simp
    | some w => cases hw : c w <;> simp [hw]

theorem unloadPartition_snd (c : Nat → Bool) (libs : List (String × SharedLibrary)) :
    (unloadPartition c libs).2 = (libs.filter fun e => e.2.classLoader.any c).map Prod.snd := by
  induction libs with
  | nil => rfl
  | cons e rest ih =>
    obtain ⟨path, library⟩ := e
    simp only [unloadPartition, List.filter_cons, ih]
    cases hc : library.classLoader with
    | none => simp
    | some w => cases hw : c w <;> simp [hw]

theorem mem_insertSorted {path : String} {library : SharedLibrary} {e : String × SharedLibrary} :
    e ∈ insertSorted path library libs → e = (path, library) ∨ e ∈ libs := by
  induction libs with
  | nil => simp [insertSorted]
  | cons x rest ih =>
    obtain ⟨p, l⟩ := x
    simp only [insertSorted]
    split
    · simp
    · intro he
      rcases List.mem_cons.mp he with rfl | he
      · exact .inr (List.mem_cons_self _ _)
      · exact (ih he).imp_right (List.mem_cons_of_mem _)

theorem lookup_insertSorted {path : String} (library : SharedLibrary)
    (hnew : libs.lookup path = none) (q : String) :
    (insertSorted path library libs).lookup q = if q = path then some library else libs.lookup q := by
  induction libs with
  | nil =>
    by_cases hq : q = path
    · simp [insertSorted, hq, lookup_cons_self]
    · simp [insertSorted, hq, lookup_cons_ne _ hq]
  | cons x rest ih =>
    obtain ⟨p, l⟩ := x
    have hp : path ≠ p := fun h => by simp [h, lookup_cons_self] at hnew
    simp only [insertSorted]
    split
    · by_cases hq : q = path
      · simp [hq, lookup_cons_self]
      · simp [hq, lookup_cons_ne _ hq]
    · have hrest : rest.lookup path = none := by rwa [lookup_cons_ne _ hp] at hnew
      by_cases hq : q = p
      · subst hq
        simp [lookup_cons_self, Ne.symm hp]
      · rw [lookup_cons_ne _ hq, lookup_cons_ne _ hq, ih hrest]

theorem pairwise_insertSorted {path : String} (library : SharedLibrary)
    (hs : libs.Pairwise fun x y => x.1 < y.1) (hnew : libs.lookup path = none) :
    (insertSorted path library libs).Pairwise fun x y => x.1 < y.1 := by
  induction libs with
  | nil => simp [insertSorted]
  | cons x rest ih =>
    obtain ⟨p, l⟩ := x
    have hp : path ≠ p := fun h => by simp [h, lookup_cons_self] at hnew
    obtain ⟨hhead, htail⟩ := List.pairwise_cons.mp hs
    simp only [insertSorted]
    split
    · rename_i hlt
      refine List.Pairwise.cons (fun e he => ?_) hs
      rcases List.mem_cons.mp he with rfl | he
      · exact hlt
      · exact lt_trans hlt (hhead e he)
    · rename_i hnlt
      have hgt : p < path := lt_of_le_of_ne (not_lt.mp hnlt) (Ne.symm hp)
      refine List.Pairwise.cons (fun e he => ?_) (ih htail (by rwa [lookup_cons_ne _ hp] at hnew))
      rcases mem_insertSorted he with rfl | he
      · exact hgt
      · exact hhead e he

theorem lookup_filter (f : SharedLibrary → Bool) (hs : libs.Pairwise fun x y => x.1 < y.1) (q : String) :
    (libs.filter fun e => f e.2).lookup q = (libs.lookup q).filter f := by
  induction libs with
  | nil => rfl
  | cons x rest ih =>
    obtain ⟨p, l⟩ := x
    obtain ⟨hhead, htail⟩ := List.pairwise_cons.mp hs
    by_cases hq : q = p
    · subst hq
      have hnone : rest.lookup q = none :=
        List.lookup_eq_none_iff.mpr fun e he => by simpa using (hhead e he).ne
      rw [lookup_cons_self, List.filter_cons]
      split
      · rw [lookup_cons_self, Option.filter_some, if_pos ‹_›]
      · rw [ih htail, hnone, Option.filter_some, if_neg ‹_›]
        rfl
    · rw [lookup_cons_ne _ hq, List.filter_cons, ← ih htail]
      split
      · rw [lookup_cons_ne _ hq]
      · rfl

end Table

/-- Over every run of `Put` and `UnloadNativeLibraries`, `libraries_` holds each path once, in
order; unloading removes exactly the libraries of cleared loaders, calling `JNI_OnUnload` once. -/
theorem libraries_table_runs {ls : Libraries} (h : TableReachable ls) :
    ls.libraries.Pairwise (fun x y => x.1 < y.1) ∧
    (∀ path library q, ls.get path = none →
      (ls.put path library).get q = if q = path then some library else ls.get q) ∧
    ∀ (isJWeakCleared : Nat → Bool) (q : String),
      (ls.unloadNativeLibraries isJWeakCleared).1.get q =
        (ls.get q).filter (fun library => !library.classLoader.any isJWeakCleared) ∧
      (ls.unloadNativeLibraries isJWeakCleared).2 = unloadLibraries
        ((ls.libraries.filter fun e => e.2.classLoader.any isJWeakCleared).map Prod.snd) := by
  have hsorted : ls.libraries.Pairwise (fun x y => x.1 < y.1) := by
    induction h with
    | empty => exact List.Pairwise.nil
    | put _ path library hnew ih => exact pairwise_insertSorted library ih hnew
    | unload _ c ih =>
      simp only [Libraries.unloadNativeLibraries, unloadPartition_fst]
      exact ih.sublist (List.filter_sublist _)
  refine ⟨hsorted, fun path library q hnew => lookup_insertSorted library hnew q, fun c q => ⟨?_, ?_⟩⟩
  · simp only [Libraries.unloadNativeLibraries, Libraries.get, unloadPartition_fst]
    exact lookup_filter (fun library => !library.classLoader.any c) hsorted q
  · simp only [Libraries.unloadNativeLibraries, unloadPartition_snd]

/-- A boot library put into an empty table survives an unload that finds every weak global
cleared. -/
theorem boot_library_survives_unload :
    ((Libraries.put ⟨[]⟩ "libjavacore.so" ⟨none, 0, false, fun _ => none, fun _ _ => none⟩).unloadNativeLibraries
      fun _ => true).1.get "libjavacore.so" =
    ((Libraries.put ⟨[]⟩ "libjavacore.so" ⟨none, 0, false, fun _ => none, fun _ _ => none⟩).get
      "libjavacore.so").filter fun library => !library.classLoader.any fun _ => true :=
  ((libraries_table_runs (TableReachable.empty.put _ _ rfl)).2.2 _ _).1

end Marvin.Jni.NativeLibraries
