import Sofa.Server

/-! # Invariants of the slots in use

    The read slots and the write slots are two arrays of the same discipline: an
    exchange touches only the slot of its own entry, and the application's calls touch
    none.  A fact about every slot in use, and the history of its entry, is therefore
    settled by the exchanges on that entry alone.

    **`slots_step`** is the rule: it asks for the fact after one move on the entry, and
    for its stability under exchanges elsewhere, and gives it after every step. -/

namespace SofaSlots

open SofaConfig SofaAead SofaOd SofaMoves SofaServer Machine

variable {H : Type} {gcm : Gcm} {P : Ports H} {α : Type}

/-- One of the two slot arrays, with what the rule needs to know about it. -/
structure Side (α : Type) where
  slot : Sod → Fin sodMaxEntries → α
  inUse : α → Bool
  start : ∀ i, inUse (slot sodInit i) = false
  frame : ∀ {H : Type} {gcm : Gcm} {P : Ports H} {client arrival : UInt16} {req : List UInt8}
    {s s' : Sod} {idx j : Fin sodMaxEntries} {entry : SodEntry} {log : List Event}
    {r : SodResult}, Move gcm P client req arrival s idx entry log r s' → j ≠ idx →
    slot s' j = slot s j
  kept : ∀ {H : Type} {s s' : Server H}, Kept s s' → slot s'.sod = slot s.sod

/-- The read slots. -/
def readSide : Side ReadSlot where
  slot := Sod.readSlot
  inUse := ReadSlot.inUse
  start _ := rfl
  frame h hj := Move.readSlot_of_ne h hj
  kept h := h.readSlot

/-- The write slots. -/
def writeSide : Side WriteSlot where
  slot := Sod.writeSlot
  inUse := WriteSlot.inUse
  start _ := rfl
  frame h hj := Move.writeSlot_of_ne h hj
  kept h := h.writeSlot

/-- Every slot in use belongs to a registered entry, and `R` holds of the history, the
    entry's data id and the slot. -/
def SlotsSatisfy (σ : Side α) (R : List Exchange → UInt32 → α → Prop) (s : Server H) : Prop :=
  ∀ i, σ.inUse (σ.slot s.sod i) = true →
    ∃ d e, s.sod.registry.find d = some (i, e) ∧ R s.history d (σ.slot s.sod i)

section Rule

variable {σ : Side α} {R : List Exchange → UInt32 → α → Prop}

theorem slots_start (host : H) : SlotsSatisfy σ R (boot host) := by
  rintro i hi
  rw [boot, σ.start] at hi
  cases hi

/-- The fact at the entry at hand. -/
theorem SlotsSatisfy.at {s : Server H} (h : SlotsSatisfy σ R s) {d : UInt32}
    {idx : Fin sodMaxEntries} {entry : SodEntry} (hf : s.sod.registry.find d = some (idx, entry))
    (hi : σ.inUse (σ.slot s.sod idx) = true) : R s.history d (σ.slot s.sod idx) := by
  obtain ⟨d', e, hf', hR⟩ := h idx hi
  obtain rfl : d' = d := find_index hf' hf
  exact hR

/-- **One request**: the fact has to be shown only for the slot of its own entry. -/
theorem slots_request {s : Server H} {client : UInt16} {d : UInt32} {req : List UInt8}
    {replyMax : Nat} (h : SlotsSatisfy σ R s)
    (hother : ∀ x d' slot, (x : Exchange).dataId ≠ d' ∨ x.calls = [] ∧ x.result = .notHandled →
      R s.history d' slot → R (s.history ++ [x]) d' slot)
    (hmove : ∀ {idx entry log r s'}, s.sod.registry.find d = some (idx, entry) →
      Move gcm P client req (P.timeMs s.host).1 s.sod idx entry log r s' →
      σ.inUse (σ.slot s' idx) = true →
      (σ.inUse (σ.slot s.sod idx) = true → R s.history d (σ.slot s.sod idx)) →
      R (s.history ++ [⟨client, d, req, r, log⟩]) d (σ.slot s' idx)) :
    SlotsSatisfy σ R (step gcm P s (.request client d req replyMax)) := by
  rcases request_cases gcm P s client d req replyMax with ⟨-, -, hstep⟩ |
    ⟨idx, entry, log, r, s', host, hf, hm, -, hstep⟩
  · rw [hstep]
    rintro i hi
    obtain ⟨d', e, hf', hR⟩ := h i hi
    exact ⟨d', e, hf', hother _ _ _ (.inr ⟨rfl, rfl⟩) hR⟩
  · rw [hstep]
    rintro i hi
    by_cases hidx : i = idx
    · subst hidx
      refine ⟨d, entry, ?_, hmove hf hm hi fun huse => h.at hf huse⟩
      show s'.registry.find d = _
      rw [Move.registry hm, hf]
    · have hsame : σ.slot s' i = σ.slot s.sod i := σ.frame hm hidx
      replace hi : σ.inUse (σ.slot s' i) = true := hi
      rw [hsame] at hi
      obtain ⟨d', e, hf', hR⟩ := h i hi
      have hd : d ≠ d' := by
        rintro rfl
        rw [hf] at hf'
        cases hf'
        exact hidx rfl
      refine ⟨d', e, ?_, ?_⟩
      · show s'.registry.find d' = _
        rw [Move.registry hm, hf']
      · show R _ d' (σ.slot s' i)
        rw [hsame]
        exact hother _ _ _ (.inl hd) hR

theorem slots_kept {s s' : Server H} (h : SlotsSatisfy σ R s) (hkept : Kept s s') :
    SlotsSatisfy σ R s' := by
  rintro i hi
  rw [σ.kept hkept] at hi ⊢
  obtain ⟨d, e, hf, hR⟩ := h i hi
  obtain ⟨e', hf'⟩ := hkept.lookup d i e hf
  exact ⟨d, e', hf', by rw [hkept.history]; exact hR⟩

/-- **The rule for steps.** -/
theorem slots_step
    (hother : ∀ h x d slot, (x : Exchange).dataId ≠ d ∨ x.calls = [] ∧ x.result = .notHandled →
      R h d slot → R (h ++ [x]) d slot)
    (hmove : ∀ {s : Server H} {client d req idx entry log r s'},
      s.sod.registry.find d = some (idx, entry) →
      Move gcm P client req (P.timeMs s.host).1 s.sod idx entry log r s' →
      σ.inUse (σ.slot s' idx) = true →
      (σ.inUse (σ.slot s.sod idx) = true → R s.history d (σ.slot s.sod idx)) →
      R (s.history ++ [⟨client, d, req, r, log⟩]) d (σ.slot s' idx))
    (s : Server H) (a : Input H) (h : SlotsSatisfy σ R s) :
    SlotsSatisfy σ R (step gcm P s a) :=
  step_invariant (C := fun _ _ => True)
    (fun s _ _ _ _ h _ => slots_request h (hother s.history) hmove)
    (fun _ _ h _ hkept => slots_kept h hkept) s a h trivial

end Rule

end SofaSlots
