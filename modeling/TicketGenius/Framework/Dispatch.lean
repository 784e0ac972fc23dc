import Mathlib.Logic.Function.Basic

/-!
# Single dispatch

`functools.singledispatch`: a function with an implementation of its own and others registered for
classes.  A call takes the implementation for the class of its first positional argument, looking
along that class's MRO, and hands it all the arguments.  A function that is an attribute of a class
is called through an instance with that instance in front of the arguments.
-/

namespace Framework

/-- A function of `functools.singledispatch`, over classes `κ`; `default` is the implementation
that has been decorated. -/
structure SingleDispatch (κ β : Type) where
  default : β
  registered : κ → Option β

namespace SingleDispatch

variable {κ β ω α : Type}

/-- `@singledispatch` -/
def decorate (implementation : β) : SingleDispatch κ β := ⟨implementation, fun _ => none⟩

/-- `@f.register`, for a class. -/
def register [DecidableEq κ] (f : SingleDispatch κ β) (cls : κ) (implementation : β) :
    SingleDispatch κ β :=
  { f with registered := Function.update f.registered cls (some implementation) }

/-- Registers an implementation for each of some classes. -/
def registerAll [DecidableEq κ] (f : SingleDispatch κ β) (classes : List κ)
    (implementation : κ → β) : SingleDispatch κ β :=
  classes.foldl (fun f cls => f.register cls (implementation cls)) f

/-- `f.dispatch(cls)`: the first implementation along the MRO of the class. -/
def dispatch (mro : κ → List κ) (f : SingleDispatch κ β) (cls : κ) : β :=
  ((mro cls).findSome? f.registered).getD f.default

/-- `f(first, *rest)` -/
def call (mro : κ → List κ) (cls : ω → κ) (f : SingleDispatch κ (List ω → α)) (first : ω)
    (rest : List ω) : α :=
  f.dispatch mro (cls first) (first :: rest)

/-- `self.f(*args)`, where `f` is an attribute of the class of `self`. -/
def callBound (mro : κ → List κ) (cls : ω → κ) (f : SingleDispatch κ (List ω → α)) (self : ω)
    (args : List ω) : α :=
  f.call mro cls self args

/-! ## What is registered -/

section Registered

variable [DecidableEq κ] {implementation : κ → β} {classes : List κ} {cls : κ}

@[simp] lemma registerAll_default (f : SingleDispatch κ β) (classes : List κ)
    (implementation : κ → β) : (f.registerAll classes implementation).default = f.default := by
  induction classes generalizing f with
  | nil => rfl
  | cons k classes ih => exact ih (f.register k (implementation k))

lemma registered_registerAll_of_notMem (f : SingleDispatch κ β) (h : cls ∉ classes) :
    (f.registerAll classes implementation).registered cls = f.registered cls := by
  induction classes generalizing f with
  | nil => rfl
  | cons k classes ih =>
    obtain ⟨hne, hrest⟩ := List.ne_and_not_mem_of_not_mem_cons h
    have hregister : (f.register k (implementation k)).registered cls = f.registered cls :=
      Function.update_of_ne hne _ _
    exact (ih (f.register k (implementation k)) hrest).trans hregister

lemma registered_registerAll_of_mem (f : SingleDispatch κ β) (h : cls ∈ classes) :
    (f.registerAll classes implementation).registered cls = some (implementation cls) := by
  induction classes generalizing f with
  | nil => cases h
  | cons k classes ih =>
    by_cases hlater : cls ∈ classes
    · exact ih (f.register k (implementation k)) hlater
    · obtain rfl := (List.mem_cons.mp h).resolve_right hlater
      have hregister : (f.register cls (implementation cls)).registered cls =
        some (implementation cls) := Function.update_self _ _ _
      exact (registered_registerAll_of_notMem _ hlater).trans hregister

end Registered

/-! ## Calls -/

variable {mro : κ → List κ}

/-- A class is served by the decorated implementation if nothing is registered along its MRO. -/
lemma dispatch_of_forall_none {f : SingleDispatch κ β} {cls : κ}
    (h : ∀ c ∈ mro cls, f.registered c = none) : f.dispatch mro cls = f.default := by
  have hnone : (mro cls).findSome? f.registered = none := List.findSome?_eq_none_iff.mpr h
  rw [dispatch, hnone, Option.getD_none]

/-- What is registered for a class itself comes first. -/
lemma dispatch_of_registered {f : SingleDispatch κ β} {cls : κ} {rest : List κ}
    {implementation : β} (hmro : mro cls = cls :: rest)
    (h : f.registered cls = some implementation) : f.dispatch mro cls = implementation := by
  rw [dispatch, hmro, List.findSome?_cons, h, Option.getD_some]

/-- **A bound call** dispatches on the class of the instance, whatever the arguments are. -/
theorem callBound_of_forall_none {cls : ω → κ} {f : SingleDispatch κ (List ω → α)} {self : ω}
    (h : ∀ c ∈ mro (cls self), f.registered c = none) (args : List ω) :
    f.callBound mro cls self args = f.default (self :: args) := by
  rw [callBound, call, dispatch_of_forall_none h]

end SingleDispatch

end Framework
