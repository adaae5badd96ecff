import Mathlib.Data.List.Perm.Subperm
import Mathlib.Data.List.Perm.Basic

/-! # What is still in flight

    A party asks one thing at a time and numbers its rounds.  Whatever it asked may stay in
    flight for ever, in any order; a token in flight is used up by its answer.  `Clear` says
    that everything in flight belongs to earlier rounds, `Awaits r` that all else does and
    that `r` is in flight at most once.

    * `Clear.ask`, `Awaits.mono`: a question makes a clear pool await it, and a pool that
      only loses tokens goes on awaiting it;
    * **`Awaits.answered`**: a token of this round that is used up was the question, and it
      leaves the pool clear for the next one;
    * **`cyclic_near`**: of two rounds less than a period apart, only equal ones have equal
      numbers modulo the period. -/

namespace Pending

variable {ρ : Type*} {round : ρ → Nat} {t : Nat} {r q : ρ} {pool pool' : List ρ}

/-- Everything in flight belongs to an earlier round. -/
def Clear (round : ρ → Nat) (t : Nat) (pool : List ρ) : Prop := ∀ q ∈ pool, round q < t

/-- Everything in flight belongs to an earlier round, `r` apart, which is there at most once. -/
def Awaits (round : ρ → Nat) (t : Nat) (r : ρ) (pool : List ρ) : Prop :=
  ∃ old, Clear round t old ∧ pool.Subperm (r :: old)

theorem Clear.mono (h : Clear round t pool) (hsub : pool'.Subperm pool) : Clear round t pool' :=
  fun q hq => h q (hsub.subset hq)

/-- The next round begins with nothing of its own in flight. -/
theorem Clear.next (h : ∀ q ∈ pool, round q ≤ t) : Clear round (t + 1) pool :=
  fun q hq => Nat.lt_succ_of_le (h q hq)

theorem Clear.ask (h : Clear round t pool) (hpool : pool'.Subperm (r :: pool)) :
    Awaits round t r pool' := ⟨pool, h, hpool⟩

theorem Awaits.mono (h : Awaits round t r pool) (hsub : pool'.Subperm pool) :
    Awaits round t r pool' := by
  obtain ⟨old, hold, hpool⟩ := h
  exact ⟨old, hold, hsub.trans hpool⟩

/-- **A token of this round that is used up was the question**, and the rest is clear. -/
theorem Awaits.answered (h : Awaits round t r pool) (hq : round q = t)
    (hpool : pool.Perm (q :: pool')) : q = r ∧ Clear round t pool' := by
  obtain ⟨old, hold, hsub⟩ := h
  have hsub' : (q :: pool').Subperm (r :: old) := hpool.symm.subperm.trans hsub
  have hqr : q = r := by
    obtain rfl | hmem := List.mem_cons.mp (hsub'.subset List.mem_cons_self)
    · rfl
    · have hlt := hold q hmem
      omega
  subst hqr
  exact ⟨rfl, hold.mono (List.subperm_cons q |>.mp hsub')⟩

/-- A list is what stands at a place of it and the rest. -/
theorem pick_perm {l : List ρ} {i : Nat} {a : ρ} (h : l[i]? = some a) :
    l.Perm (a :: l.eraseIdx i) := by
  obtain ⟨hi, hget⟩ := List.getElem?_eq_some_iff.mp h
  rw [← hget]
  exact (List.getElem_cons_eraseIdx_perm hi).symm

/-- **Numbers modulo a period** tell rounds apart that are less than a period apart. -/
theorem cyclic_near {p a b : Nat} (hle : a ≤ b) (hnear : b - a < p) (h : a % p = b % p) :
    a = b := by
  have hmod : (b - a) % p = 0 := by
    rw [← Nat.sub_mod_eq_zero_of_mod_eq h.symm]
  have hzero : b - a = 0 := by rwa [Nat.mod_eq_of_lt hnear] at hmod
  omega

end Pending
