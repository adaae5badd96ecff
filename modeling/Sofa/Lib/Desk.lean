import Mathlib.Data.List.Nodup
import Mathlib.Data.List.Induction

/-! # One-time tokens

    A desk has at most one token outstanding.  Issuing a token replaces the one that is
    outstanding; spending takes it off the desk.

    * `desk_accounted`: the token outstanding and every token spent were issued;
    * **`desk_sound`**: when no token is issued twice, none is spent twice, and the one
      outstanding is unspent. -/

namespace OneTime

variable {τ : Type*}

/-- What can happen at a desk. -/
inductive Act (τ : Type*) where
  | issued (t : τ)
  | spent

/-- The token outstanding, and those issued and spent so far, in order. -/
structure Desk (τ : Type*) where
  outstanding : Option τ
  issued : List τ
  spent : List τ

/-- Nothing issued yet. -/
def Desk.empty : Desk τ := ⟨none, [], []⟩

/-- One act.  Spending with nothing outstanding spends nothing. -/
def Desk.record (d : Desk τ) : Act τ → Desk τ
  | .issued t => ⟨some t, d.issued ++ [t], d.spent⟩
  | .spent => ⟨none, d.issued, d.spent ++ d.outstanding.toList⟩

/-- The desk after a list of acts. -/
def desk (acts : List (Act τ)) : Desk τ := acts.foldl Desk.record Desk.empty

theorem desk_append (acts more : List (Act τ)) :
    desk (acts ++ more) = more.foldl Desk.record (desk acts) := List.foldl_append

/-! ## Every token was issued -/

/-- The desk hands out and takes back nothing it has not issued. -/
structure Desk.Accounted (d : Desk τ) : Prop where
  outstanding : ∀ t ∈ d.outstanding, t ∈ d.issued
  spent : ∀ t ∈ d.spent, t ∈ d.issued

theorem Desk.Accounted.record {d : Desk τ} (h : d.Accounted) (a : Act τ) :
    (d.record a).Accounted := by
  cases a with
  | issued t =>
      refine ⟨?_, fun u hu => List.mem_append_left _ (h.spent u hu)⟩
      intro u hu
      obtain rfl : t = u := Option.some.inj hu
      exact List.mem_append_right _ (List.mem_singleton_self t)
  | spent =>
      refine ⟨fun u hu => (by cases hu), fun u hu => ?_⟩
      rcases List.mem_append.mp hu with hu | hu
      · exact h.spent u hu
      · exact h.outstanding u (Option.mem_toList.mp hu)

theorem desk_accounted (acts : List (Act τ)) : (desk acts).Accounted := by
  induction acts using List.reverseRecOn with
  | nil => exact ⟨by simp [desk, Desk.empty], by simp [desk, Desk.empty]⟩
  | append_singleton acts a ih =>
      rw [desk_append]
      exact ih.record a

/-! ## No token is spent twice -/

/-- What holds of a desk when no token was issued twice. -/
structure Desk.Sound (d : Desk τ) : Prop where
  unspent : ∀ t ∈ d.outstanding, t ∉ d.spent
  once : d.spent.Nodup

/-- One act keeps a desk sound, when it leaves no token issued twice. -/
theorem Desk.Sound.record {d : Desk τ} (h : d.Sound) (hacc : d.Accounted) {a : Act τ}
    (hfresh : (d.record a).issued.Nodup) : (d.record a).Sound := by
  cases a with
  | issued t =>
      have hnew : t ∉ d.issued := by
        have hsplit := List.nodup_append.mp hfresh
        exact fun ht => hsplit.2.2 t ht t (List.mem_singleton_self t) rfl
      refine ⟨?_, h.once⟩
      intro u hu hs
      obtain rfl : t = u := Option.some.inj hu
      exact hnew (hacc.spent t hs)
  | spent =>
      refine ⟨fun u hu => (by cases hu), ?_⟩
      show (d.spent ++ d.outstanding.toList).Nodup
      cases hout : d.outstanding with
      | none => simpa using h.once
      | some t =>
          rw [Option.toList_some, List.nodup_append]
          refine ⟨h.once, List.nodup_singleton t, ?_⟩
          rintro u hu v hv rfl
          obtain rfl := List.mem_singleton.mp hv
          exact h.unspent u hout hu

/-- An act only adds to the tokens issued. -/
theorem issued_grows (d : Desk τ) (a : Act τ) : d.issued <+: (d.record a).issued := by
  cases a with
  | issued t => exact List.prefix_append _ _
  | spent => exact List.prefix_refl _

/-- **Every desk is sound** that issues no token twice. -/
theorem desk_sound (acts : List (Act τ)) (hfresh : (desk acts).issued.Nodup) :
    (desk acts).Sound := by
  induction acts using List.reverseRecOn with
  | nil => exact ⟨by simp [desk, Desk.empty], by simp [desk, Desk.empty]⟩
  | append_singleton acts a ih =>
      rw [desk_append] at hfresh ⊢
      have hbefore := hfresh.sublist (issued_grows (desk acts) a).sublist
      exact (ih hbefore).record (desk_accounted acts) hfresh

end OneTime
