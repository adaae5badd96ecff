import Mathlib.Logic.Basic

/-! # Weakest preconditions for the state monad

    `wp m Q s` says that running `m` from `s` ends in a result and a state that
    satisfy `Q`.  The state monad is deterministic and total, so `wp` is both
    what must hold and what can be computed: the rules below are equivalences,
    and rewriting with them executes a program symbolically. -/

namespace StateWp

variable {σ α β : Type}

/-- Running `m` from `s` ends in a result and a state satisfying `Q`. -/
def wp (m : StateM σ α) (Q : α → σ → Prop) (s : σ) : Prop := Q (m s).1 (m s).2

theorem wp_pure {Q : α → σ → Prop} {s : σ} (a : α) :
    wp (pure a : StateM σ α) Q s ↔ Q a s := Iff.rfl

theorem wp_bind {Q : β → σ → Prop} {s : σ} (m : StateM σ α) (f : α → StateM σ β) :
    wp (m >>= f) Q s ↔ wp m (fun a => wp (f a) Q) s := Iff.rfl

theorem wp_ite {Q : α → σ → Prop} {s : σ} (c : Prop) [Decidable c] (m n : StateM σ α) :
    wp (if c then m else n) Q s ↔ (c → wp m Q s) ∧ (¬ c → wp n Q s) := by
  by_cases h : c <;> simp [h]

/-- What holds of every outcome `Q` allows holds after `m`. -/
theorem wp_mono {Q R : α → σ → Prop} {m : StateM σ α} {s : σ} (h : wp m Q s)
    (hQR : ∀ a s', Q a s' → R a s') : wp m R s := hQR _ _ h

/-- Reading a precondition back as a fact about the outcome. -/
theorem wp_run {Q : α → σ → Prop} {m : StateM σ α} {s s' : σ} {a : α} (h : wp m Q s)
    (hm : m s = (a, s')) : Q a s' := by
  have h' : Q (m s).1 (m s).2 := h
  rwa [hm] at h'

/-- A run, from a postcondition that only it satisfies. -/
theorem run_of_wp {m : StateM σ α} {s s' : σ} {a : α}
    (h : wp m (fun r t => r = a ∧ t = s') s) : m s = (a, s') := Prod.ext h.1 h.2

/-- A first part whose run is known hands its result and its state on. -/
theorem bind_run {m : StateM σ α} {f : α → StateM σ β} {s s' : σ} {a : α} (h : m s = (a, s')) :
    (m >>= f) s = f a s' := by
  show f (m s).1 (m s).2 = f a s'
  rw [h]

/-! ## Programs that keep an invariant -/

/-- `m` keeps `I`, from every state. -/
def Keeps (I : σ → Prop) (m : StateM σ α) : Prop := ∀ s, I s → I (m s).2

theorem keeps_pure (I : σ → Prop) (a : α) : Keeps I (pure a : StateM σ α) := fun _ h => h

theorem keeps_bind {I : σ → Prop} {m : StateM σ α} {f : α → StateM σ β} (hm : Keeps I m)
    (hf : ∀ a, Keeps I (f a)) : Keeps I (m >>= f) := fun s h => hf _ _ (hm s h)

theorem keeps_ite {I : σ → Prop} {c : Prop} [Decidable c] {m n : StateM σ α}
    (hm : c → Keeps I m) (hn : ¬ c → Keeps I n) : Keeps I (if c then m else n) := by
  by_cases h : c
  · rw [if_pos h]
    exact hm h
  · rw [if_neg h]
    exact hn h

/-- A test `m` may strengthen the invariant for what follows it. -/
theorem keeps_test {I J : σ → Prop} {m : StateM σ α} {f : α → StateM σ β}
    (h : ∀ s, I s → wp m (fun a t => (I t ∧ Keeps I (f a)) ∨ (J t ∧ Keeps J (f a))) s)
    (hJI : ∀ s, J s → I s) : Keeps I (m >>= f) := by
  intro s hs
  rcases h s hs with ⟨hI, hf⟩ | ⟨hJ, hf⟩
  · exact hf _ hI
  · exact hJI _ (hf _ hJ)

/-! ## What a program returns -/

/-- `m` returns something in `R`, from every state. -/
def Returns (R : α → Prop) (m : StateM σ α) : Prop := ∀ s, R (m s).1

theorem returns_any (m : StateM σ α) : Returns (fun _ => True) m := fun _ => trivial

theorem returns_pure {R : α → Prop} {a : α} (h : R a) : Returns R (pure a : StateM σ α) :=
  fun _ => h

/-- What the first part returns is all that the rest may rely on. -/
theorem returns_bind {S : α → Prop} {R : β → Prop} {m : StateM σ α} {f : α → StateM σ β}
    (hm : Returns S m) (hf : ∀ a, S a → Returns R (f a)) : Returns R (m >>= f) :=
  fun s => hf _ (hm s) _

/-- A first part whose result says nothing. -/
theorem returns_seq {R : β → Prop} {m : StateM σ α} {f : α → StateM σ β}
    (hf : ∀ a, Returns R (f a)) : Returns R (m >>= f) :=
  returns_bind (returns_any m) fun a _ => hf a

theorem returns_ite {R : α → Prop} {c : Prop} [Decidable c] {m n : StateM σ α}
    (hm : c → Returns R m) (hn : ¬ c → Returns R n) : Returns R (if c then m else n) := by
  by_cases h : c
  · rw [if_pos h]
    exact hm h
  · rw [if_neg h]
    exact hn h

end StateWp
