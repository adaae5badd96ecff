import Mathlib.Data.List.Basic
import Mathlib.Data.List.Nodup

/-! # Runs of a deterministic machine

    A machine is a step function `step : σ → α → σ`; a run is the fold of the
    step over a list of inputs.  `Along` says that a property of (state before,
    input) holds at every step of a run.  The rules:

    * `run_induction`: what one step preserves, under a condition on the step,
      the whole run preserves when every step meets the condition;
    * `run_extends`: when every step only extends a history, the history of a
      run extends the history it began with;
    * `along_imp`, `along_congr_invariant`: conditions proved from an invariant, or
      equivalent under one, hold along the run. -/

namespace Machine

variable {σ α ε : Type*} (step : σ → α → σ)

/-- The state after a list of inputs. -/
def run (s : σ) (as : List α) : σ := as.foldl step s

/-- `P` holds of the state before and the input, at every step of the run. -/
def Along (P : σ → α → Prop) : σ → List α → Prop
  | _, [] => True
  | s, a :: as => P s a ∧ Along P (step s a) as

@[simp] theorem run_nil (s : σ) : run step s [] = s := rfl

@[simp] theorem run_cons (s : σ) (a : α) (as : List α) :
    run step s (a :: as) = run step (step s a) as := rfl

theorem run_append (s : σ) (as bs : List α) :
    run step s (as ++ bs) = run step (run step s as) bs := List.foldl_append

variable {step}

@[simp] theorem along_nil (P : σ → α → Prop) (s : σ) : Along step P s [] := trivial

@[simp] theorem along_cons (P : σ → α → Prop) (s : σ) (a : α) (as : List α) :
    Along step P s (a :: as) ↔ P s a ∧ Along step P (step s a) as := Iff.rfl

instance along_decidable {P : σ → α → Prop} [∀ s a, Decidable (P s a)] :
    ∀ s as, Decidable (Along step P s as)
  | _, [] => .isTrue trivial
  | s, a :: as => @instDecidableAnd _ _ _ (along_decidable (step s a) as)

theorem along_append {P : σ → α → Prop} {s : σ} {as bs : List α} :
    Along step P s (as ++ bs) ↔ Along step P s as ∧ Along step P (run step s as) bs := by
  induction as generalizing s with
  | nil => simp
  | cons a as ih => simp [ih, and_assoc]

/-- A condition that always holds does so along every run. -/
theorem along_of_forall {P : σ → α → Prop} (h : ∀ s a, P s a) (s : σ) (as : List α) :
    Along step P s as := by
  induction as generalizing s with
  | nil => trivial
  | cons a as ih => exact ⟨h s a, ih _⟩

/-- A condition on the inputs alone holds along a run of such inputs. -/
theorem along_of_mem {P : σ → α → Prop} {as : List α} (h : ∀ a ∈ as, ∀ s, P s a) (s : σ) :
    Along step P s as := by
  induction as generalizing s with
  | nil => trivial
  | cons a as ih => exact ⟨h a (by simp) s, ih (fun b hb => h b (by simp [hb])) _⟩

theorem along_congr {P Q : σ → α → Prop} (h : ∀ s a, P s a ↔ Q s a) {s : σ} {as : List α} :
    Along step P s as ↔ Along step Q s as := by
  induction as generalizing s with
  | nil => rfl
  | cons a as ih => rw [along_cons, along_cons, h, ih]

/-- **The run rule.**  An invariant that each admissible step preserves holds
    after every admissible run. -/
theorem run_induction {P : σ → α → Prop} {I : σ → Prop}
    (hstep : ∀ s a, I s → P s a → I (step s a)) {s : σ} {as : List α}
    (hs : I s) (hP : Along step P s as) : I (run step s as) := by
  induction as generalizing s with
  | nil => exact hs
  | cons a as ih => exact ih (hstep s a hs hP.1) hP.2

/-- A condition that follows from the invariant and another condition holds
    along the run. -/
theorem along_imp {P Q : σ → α → Prop} {I : σ → Prop}
    (hstep : ∀ s a, I s → P s a → I (step s a))
    (hQ : ∀ s a, I s → P s a → Q s a) {s : σ} {as : List α}
    (hs : I s) (hP : Along step P s as) : Along step Q s as := by
  induction as generalizing s with
  | nil => trivial
  | cons a as ih => exact ⟨hQ s a hs hP.1, ih (hstep s a hs hP.1) hP.2⟩

/-- Conditions that agree under an invariant agree along every run. -/
theorem along_congr_invariant {P Q : σ → α → Prop} {I : σ → Prop}
    (hstep : ∀ s a, I s → I (step s a)) (h : ∀ s a, I s → (P s a ↔ Q s a)) {s : σ}
    {as : List α} (hs : I s) : Along step P s as ↔ Along step Q s as := by
  induction as generalizing s with
  | nil => rfl
  | cons a as ih => rw [along_cons, along_cons, h s a hs, ih (hstep s a hs)]

/-- A machine each of whose steps appends to a history only ever appends. -/
theorem run_extends {log : σ → List ε} (hstep : ∀ s a, log s <+: log (step s a))
    (s : σ) (as : List α) : log s <+: log (run step s as) := by
  induction as generalizing s with
  | nil => exact List.prefix_refl _
  | cons a as ih => exact (hstep s a).trans (ih (step s a))

end Machine
