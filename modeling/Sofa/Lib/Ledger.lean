import Mathlib.Data.List.Nodup

/-! # Session ledgers

    A ledger books the uses of sessions that live on channels.  On each channel
    a session may be opened with a base, continued, or closed; opening replaces
    the session that was live there.  A use carries its session, the base, and
    its counter: 0 for the opening, one more for each continuation.

    * `ledger_sound`: what every ledger satisfies;
    * `nonces_distinct`: a nonce that is injective in the counter is never used
      twice within one session. -/

namespace Ledger

variable {κ β τ ν : Type*}

/-- What can happen to the session on a channel. -/
inductive Act (β τ : Type*) where
  | opened (base : β) (item : τ)
  | continued (item : τ)
  | closed

/-- One booked use. -/
structure Use (β τ : Type*) where
  session : Nat
  base : β
  counter : Nat
  item : τ

/-- The sessions opened so far, the last use of each live session, and all uses
    in order. -/
structure Book (κ β τ : Type*) where
  opened : Nat
  live : κ → Option (Use β τ)
  uses : List (Use β τ)

/-- Nothing booked. -/
def Book.empty : Book κ β τ := ⟨0, fun _ => none, []⟩

/-- What every ledger satisfies. -/
structure Book.Sound (b : Book κ β τ) : Prop where
  /-- Booked sessions were opened. -/
  bounded : ∀ u ∈ b.uses, u.session < b.opened
  /-- The live use is booked, and is the last of its session. -/
  last : ∀ k u, b.live k = some u →
    u ∈ b.uses ∧ ∀ v ∈ b.uses, v.session = u.session → v.counter ≤ u.counter
  /-- A session lives on one channel. -/
  apart : ∀ k k' u u', b.live k = some u → b.live k' = some u' → u.session = u'.session → k = k'
  /-- A session has one base. -/
  based : ∀ u ∈ b.uses, ∀ v ∈ b.uses, u.session = v.session → u.base = v.base
  /-- Two uses of one session have different counters. -/
  distinct : b.uses.Pairwise fun u v => u.session = v.session → u.counter ≠ v.counter

theorem Book.sound_empty : (Book.empty : Book κ β τ).Sound where
  bounded := by simp [Book.empty]
  last := by simp [Book.empty]
  apart := by simp [Book.empty]
  based := by simp [Book.empty]
  distinct := by simp [Book.empty]

variable [DecidableEq κ]

/-- Book a use and make it the live one of its channel. -/
def Book.push (b : Book κ β τ) (k : κ) (x : Use β τ) : Book κ β τ :=
  { b with live := Function.update b.live k (some x), uses := b.uses ++ [x] }

/-- Book one act.  Continuing where nothing is live books nothing. -/
def Book.record (b : Book κ β τ) (k : κ) : Act β τ → Book κ β τ
  | .opened base item =>
      Book.push { b with opened := b.opened + 1 } k ⟨b.opened, base, 0, item⟩
  | .continued item =>
      match b.live k with
      | none => b
      | some u => b.push k ⟨u.session, u.base, u.counter + 1, item⟩
  | .closed => { b with live := Function.update b.live k none }

/-- The ledger of a list of acts. -/
def ledger (acts : List (κ × Act β τ)) : Book κ β τ :=
  acts.foldl (fun b a => b.record a.1 a.2) Book.empty

@[simp] theorem ledger_nil : ledger ([] : List (κ × Act β τ)) = Book.empty := rfl

theorem ledger_append (acts more : List (κ × Act β τ)) :
    ledger (acts ++ more) = more.foldl (fun b a => b.record a.1 a.2) (ledger acts) :=
  List.foldl_append

/-! ## What one act does to the live uses -/

section Record

variable (b : Book κ β τ) (k : κ)

@[simp] theorem live_opened (base : β) (item : τ) :
    (b.record k (.opened base item)).live k = some ⟨b.opened, base, 0, item⟩ := by
  simp [Book.record, Book.push]

@[simp] theorem uses_opened (base : β) (item : τ) :
    (b.record k (.opened base item)).uses = b.uses ++ [⟨b.opened, base, 0, item⟩] := rfl

@[simp] theorem live_closed : (b.record k .closed).live k = none := by
  simp [Book.record]

@[simp] theorem uses_closed : (b.record k .closed).uses = b.uses := rfl

/-- Other channels are not touched. -/
theorem live_of_ne {k' : κ} (h : k' ≠ k) (a : Act β τ) : (b.record k a).live k' = b.live k' := by
  cases a with
  | opened base item => simp [Book.record, Book.push, h]
  | closed => simp [Book.record, h]
  | continued item =>
      unfold Book.record
      cases b.live k with
      | none => rfl
      | some u => simp [Book.push, h]

variable {b k}

theorem record_continued {u : Use β τ} (h : b.live k = some u) (item : τ) :
    b.record k (.continued item) = b.push k ⟨u.session, u.base, u.counter + 1, item⟩ := by
  simp [Book.record, h]

theorem live_continued {u : Use β τ} (h : b.live k = some u) (item : τ) :
    (b.record k (.continued item)).live k = some ⟨u.session, u.base, u.counter + 1, item⟩ := by
  simp [record_continued h, Book.push]

theorem uses_continued {u : Use β τ} (h : b.live k = some u) (item : τ) :
    (b.record k (.continued item)).uses
      = b.uses ++ [⟨u.session, u.base, u.counter + 1, item⟩] := by
  rw [record_continued h, Book.push]

end Record

/-! ## Soundness -/

/-- Booking a use keeps a ledger sound when the use is later than every use of
    its session, agrees with their base, and its session is live nowhere else. -/
theorem Book.Sound.push {b : Book κ β τ} (h : b.Sound) {k : κ} {x : Use β τ}
    (hopen : x.session < b.opened)
    (hlater : ∀ v ∈ b.uses, v.session = x.session → v.counter < x.counter ∧ v.base = x.base)
    (hother : ∀ k' v, k' ≠ k → b.live k' = some v → v.session ≠ x.session) :
    (b.push k x).Sound := by
  have hmem : ∀ {v}, v ∈ (b.push k x).uses → v ∈ b.uses ∨ v = x := by
    intro v hv
    simpa [Book.push] using hv
  have hkept : ∀ {k' v}, k' ≠ k → (b.push k x).live k' = some v → b.live k' = some v := by
    intro k' v hk hv
    simpa [Book.push, hk] using hv
  have hhere : ∀ {v}, (b.push k x).live k = some v → v = x := by
    intro v hv
    simpa [Book.push, eq_comm] using hv
  refine ⟨?_, ?_, ?_, ?_, ?_⟩
  · intro v hv
    rcases hmem hv with hv | rfl
    · exact h.bounded v hv
    · exact hopen
  · intro k' u hu
    by_cases hk : k' = k
    · subst hk
      obtain rfl := hhere hu
      refine ⟨by simp [Book.push], ?_⟩
      intro v hv hs
      rcases hmem hv with hv | rfl
      · exact Nat.le_of_lt (hlater v hv hs).1
      · exact Nat.le_refl _
    · have hu' := hkept hk hu
      obtain ⟨hin, hlast⟩ := h.last k' u hu'
      refine ⟨by simp [Book.push, hin], ?_⟩
      intro v hv hs
      rcases hmem hv with hv | rfl
      · exact hlast v hv hs
      · exact absurd hs.symm (hother k' u hk hu')
  · intro k₁ k₂ u₁ u₂ h₁ h₂ hs
    by_cases hk₁ : k₁ = k <;> by_cases hk₂ : k₂ = k
    · rw [hk₁, hk₂]
    · subst hk₁
      obtain rfl := hhere h₁
      exact absurd hs.symm (hother k₂ u₂ hk₂ (hkept hk₂ h₂))
    · subst hk₂
      obtain rfl := hhere h₂
      exact absurd hs (hother k₁ u₁ hk₁ (hkept hk₁ h₁))
    · exact h.apart k₁ k₂ u₁ u₂ (hkept hk₁ h₁) (hkept hk₂ h₂) hs
  · intro u hu v hv hs
    rcases hmem hu with hu' | rfl <;> rcases hmem hv with hv' | rfl
    · exact h.based u hu' v hv' hs
    · exact (hlater u hu' hs).2
    · exact (hlater v hv' hs.symm).2.symm
    · rfl
  · refine List.pairwise_append.mpr ⟨h.distinct, List.pairwise_singleton _ _, ?_⟩
    intro u hu v hv hs
    obtain rfl := List.mem_singleton.mp hv
    exact Nat.ne_of_lt (hlater u hu hs).1

theorem Book.Sound.record {b : Book κ β τ} (h : b.Sound) (k : κ) (a : Act β τ) :
    (b.record k a).Sound := by
  cases a with
  | opened base item =>
      have hold : ∀ u ∈ b.uses, u.session ≠ b.opened :=
        fun u hu => Nat.ne_of_lt (h.bounded u hu)
      have hbumped : ({ b with opened := b.opened + 1 } : Book κ β τ).Sound :=
        { h with bounded := fun u hu => Nat.lt_succ_of_lt (h.bounded u hu) }
      refine hbumped.push (Nat.lt_succ_self _) ?_ ?_
      · intro v hv hs
        exact absurd hs (hold v hv)
      · intro k' v _ hv
        exact hold v (h.last k' v hv).1
  | continued item =>
      cases hk : b.live k with
      | none =>
          have hsame : b.record k (.continued item) = b := by simp [Book.record, hk]
          rwa [hsame]
      | some u =>
          obtain ⟨hin, hlast⟩ := h.last k u hk
          rw [record_continued hk]
          refine h.push (h.bounded u hin) ?_ ?_
          · intro v hv hs
            exact ⟨Nat.lt_succ_of_le (hlast v hv hs), h.based v hv u hin hs⟩
          · intro k' v hne hv hs
            exact hne (h.apart k' k v u hv hk hs)
  | closed =>
      have hkept : ∀ {k' u}, (b.record k .closed).live k' = some u → b.live k' = some u := by
        intro k' u hu
        by_cases hk : k' = k
        · subst hk
          rw [live_closed] at hu
          cases hu
        · rwa [live_of_ne b k hk] at hu
      exact
        { bounded := h.bounded
          last := fun k' u hu => h.last k' u (hkept hu)
          apart := fun k₁ k₂ u₁ u₂ h₁ h₂ => h.apart k₁ k₂ u₁ u₂ (hkept h₁) (hkept h₂)
          based := h.based
          distinct := h.distinct }

private theorem sound_foldl (acts : List (κ × Act β τ)) (b : Book κ β τ) (h : b.Sound) :
    (acts.foldl (fun b a => b.record a.1 a.2) b).Sound := by
  induction acts generalizing b with
  | nil => exact h
  | cons a acts ih => exact ih _ (h.record a.1 a.2)

/-- **Every ledger is sound.** -/
theorem ledger_sound (acts : List (κ × Act β τ)) : (ledger acts).Sound :=
  sound_foldl acts _ Book.sound_empty

/-- A nonce that is injective in the counter up to a bound is never used twice
    within one session whose counters keep to the bound. -/
theorem nonces_distinct {N : β → Nat → ν} {m : Nat}
    (hN : ∀ base c d, c ≤ m → d ≤ m → N base c = N base d → c = d)
    (acts : List (κ × Act β τ)) (hm : ∀ u ∈ (ledger acts).uses, u.counter ≤ m) :
    (ledger acts).uses.Pairwise fun u v =>
      u.session = v.session → N u.base u.counter ≠ N v.base v.counter := by
  have hs := ledger_sound acts
  refine List.Pairwise.imp_of_mem ?_ hs.distinct
  intro u v hu hv hne hsame heq
  rw [hs.based u hu v hv hsame] at heq
  exact hne hsame (hN v.base _ _ (hm u hu) (hm v hv) heq)

end Ledger
