import Mathlib.Logic.Basic

/-! # Two runs of one program

    `Twin g m m' s` compares two runs in the state monad: `m` from `s`, and `m'` from the
    image of `s` under `g`.  They end in the same result, and in states that are again an
    image and its origin.  A program that is its own twin from every state neither shows
    nor touches what `g` changes.

    The rules follow the program: `twin_bind` and `twin_ite` take the two runs side by
    side, and **`twin_run`** reads off what they end in. -/

namespace TwoRuns

variable {σ α β : Type} {g : σ → σ} {s : σ}

/-- Run from the image of `s`, `m'` ends as `m` does from `s`, in the image of its state. -/
def Twin (g : σ → σ) (m m' : StateM σ α) (s : σ) : Prop := m' (g s) = ((m s).1, g (m s).2)

/-- The two runs end in the same result, and in a state and its image. -/
theorem twin_run {m m' : StateM σ α} (h : Twin g m m' s) :
    (m' (g s)).1 = (m s).1 ∧ (m' (g s)).2 = g (m s).2 := by
  have h' : m' (g s) = ((m s).1, g (m s).2) := h
  rw [h']
  exact ⟨rfl, rfl⟩

theorem twin_pure (a : α) : Twin g (pure a : StateM σ α) (pure a) s := rfl

/-- What follows starts from a state and its image again. -/
theorem twin_bind {m m' : StateM σ α} {f f' : α → StateM σ β} (h : Twin g m m' s)
    (hf : Twin g (f (m s).1) (f' (m s).1) (m s).2) : Twin g (m >>= f) (m' >>= f') s := by
  have h' : m' (g s) = ((m s).1, g (m s).2) := h
  show f' (m' (g s)).1 (m' (g s)).2 = _
  rw [h']
  exact hf

/-- One test, decided alike. -/
theorem twin_ite {c : Prop} [Decidable c] {m m' n n' : StateM σ α}
    (hm : c → Twin g m m' s) (hn : ¬ c → Twin g n n' s) :
    Twin g (if c then m else n) (if c then m' else n') s := by
  by_cases h : c
  · rw [if_pos h, if_pos h]
    exact hm h
  · rw [if_neg h, if_neg h]
    exact hn h

end TwoRuns
