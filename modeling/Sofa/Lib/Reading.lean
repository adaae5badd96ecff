import Mathlib.Data.List.Basic

/-! # Programs that read a memory

    A reading program returns a value, or reads a place and goes on with what is there.

    * `places_bind`: the places that a sequence reads;
    * **`result_congr`**: memories that agree on the places read give the same value;
    * `Only`: a program that reads only allowed places, part by part. -/

/-- A program that reads places of `A`, with contents of `B`. -/
inductive Reading (A B : Type) (α : Type) where
  | ret (value : α)
  | read (place : A) (next : B → Reading A B α)

namespace Reading

variable {A B α β : Type}

/-- Sequencing. -/
def bind : Reading A B α → (α → Reading A B β) → Reading A B β
  | ret value, f => f value
  | read place next, f => read place fun b => (next b).bind f

instance : Monad (Reading A B) where
  pure := ret
  bind := bind

/-- One place. -/
def fetch (place : A) : Reading A B B := read place ret

/-- The value in a memory. -/
def result (mem : A → B) : Reading A B α → α
  | ret value => value
  | read place next => (next (mem place)).result mem

/-- The places that are read in a memory, in order. -/
def places (mem : A → B) : Reading A B α → List A
  | ret _ => []
  | read place next => place :: (next (mem place)).places mem

variable {mem mem' : A → B}

@[simp] theorem result_pure (value : α) : (pure value : Reading A B α).result mem = value := rfl

@[simp] theorem places_pure (value : α) : (pure value : Reading A B α).places mem = [] := rfl

@[simp] theorem result_fetch (place : A) : (fetch place : Reading A B B).result mem = mem place := rfl

@[simp] theorem places_fetch (place : A) : (fetch place : Reading A B B).places mem = [place] := rfl

@[simp] theorem result_bind (p : Reading A B α) (f : α → Reading A B β) :
    (p >>= f).result mem = (f (p.result mem)).result mem := by
  induction p with
  | ret value => rfl
  | read place next ih => exact ih (mem place)

/-- **A sequence** reads what its parts read. -/
@[simp] theorem places_bind (p : Reading A B α) (f : α → Reading A B β) :
    (p >>= f).places mem = p.places mem ++ (f (p.result mem)).places mem := by
  induction p with
  | ret value => rfl
  | read place next ih => exact congrArg (place :: ·) (ih (mem place))

/-- **What is not read does not matter.** -/
theorem result_congr (p : Reading A B α) (h : ∀ place ∈ p.places mem, mem' place = mem place) :
    p.result mem' = p.result mem := by
  induction p with
  | ret value => rfl
  | read place next ih =>
      have hplace : mem' place = mem place := h place List.mem_cons_self
      have hnext := ih (mem place) fun q hq => h q (List.mem_cons_of_mem _ hq)
      show (next (mem' place)).result mem' = (next (mem place)).result mem
      rw [hplace, hnext]

/-! ## Allowed places -/

/-- In this memory, the program reads only places that are `allowed`. -/
def Only (allowed : A → Prop) (mem : A → B) (p : Reading A B α) : Prop :=
  ∀ place ∈ p.places mem, allowed place

variable {allowed : A → Prop}

@[simp] theorem only_pure (value : α) : Only allowed mem (pure value : Reading A B α) := by
  intro place h
  rw [places_pure] at h
  exact absurd h List.not_mem_nil

@[simp] theorem only_fetch (place : A) :
    Only allowed mem (fetch place : Reading A B B) ↔ allowed place := by
  simp only [Only, places_fetch, List.mem_singleton, forall_eq]

/-- A sequence keeps to the allowed places if and only if its parts do. -/
@[simp] theorem only_bind (p : Reading A B α) (f : α → Reading A B β) :
    Only allowed mem (p >>= f)
      ↔ Only allowed mem p ∧ Only allowed mem (f (p.result mem)) := by
  simp only [Only, places_bind, List.mem_append, or_imp, forall_and]

@[simp] theorem only_map (f : α → β) (p : Reading A B α) :
    Only allowed mem (f <$> p) ↔ Only allowed mem p := by
  show Only allowed mem (p >>= fun a => pure (f a)) ↔ Only allowed mem p
  simp only [only_bind, only_pure, and_true]

/-- Memories that agree on the allowed places give the same value. -/
theorem Only.result_eq {p : Reading A B α} (h : Only allowed mem p)
    (hagree : ∀ place, allowed place → mem' place = mem place) : p.result mem' = p.result mem :=
  result_congr p fun place hplace => hagree place (h place hplace)

end Reading
