import Sofa.Moves
import Sofa.Lib.Machine

/-! # Runs of the server

    The server is a machine whose inputs are the requests of any clients, in any
    order, and the calls the host application makes between them.  Its state is
    the module state, the host behind the hooks, and the history of the
    exchanges served so far.

    * `request_cases`: an exchange on an unknown data id changes nothing, and
      any other is one of the moves on its entry;
    * `Move.readSlot_of_ne`, `Move.writeSlot_of_ne`, `Move.registry`: what an
      exchange leaves alone;
    * `find_register`: how a registration changes the lookup. -/

namespace SofaServer

open ByteBlock SofaConfig SofaAead SofaOd SofaMoves StateWp Machine

/-! ## The machine -/

/-- One served request: what came in, what went back, and the calls made. -/
structure Exchange where
  client : UInt16
  dataId : UInt32
  req : List UInt8
  result : SodResult
  calls : List Event

/-- The server between two inputs. -/
structure Server (H : Type) where
  sod : Sod
  host : H
  history : List Exchange

/-- What can happen to the server: a request, or a call of its application. -/
inductive Input (H : Type) where
  | request (client : UInt16) (dataId : UInt32) (req : List UInt8) (replyMax : Nat)
  | registerEntry (entry : SodEntry)
  | setKeyEx (keyId : UInt8) (key : Key) (idVal : UInt32)
  | clearKeys
  | application (host : H)

variable {H : Type}

/-- After `fbsec_sod_init`. -/
def boot (host : H) : Server H := ⟨sodInit, host, []⟩

/-- The dispatch of one request, from an empty call log. -/
def serve (gcm : Gcm) (P : Ports H) (s : Server H) (client : UInt16) (dataId : UInt32)
    (req : List UInt8) (replyMax : Nat) : SodResult × World H :=
  sodDispatch gcm P client dataId req replyMax ⟨s.sod, s.host, []⟩

/-- The record of one dispatch. -/
def exchange (gcm : Gcm) (P : Ports H) (s : Server H) (client : UInt16) (dataId : UInt32)
    (req : List UInt8) (replyMax : Nat) : Exchange where
  client := client
  dataId := dataId
  req := req
  result := (serve gcm P s client dataId req replyMax).1
  calls := (serve gcm P s client dataId req replyMax).2.log

/-- One input; refused registrations and installs change nothing. -/
def step (gcm : Gcm) (P : Ports H) (s : Server H) : Input H → Server H
  | .request client dataId req replyMax =>
      { sod := (serve gcm P s client dataId req replyMax).2.sod
        host := (serve gcm P s client dataId req replyMax).2.host
        history := s.history ++ [exchange gcm P s client dataId req replyMax] }
  | .registerEntry entry =>
      match sodRegisterEntry s.sod.registry entry with
      | some registry => { s with sod := { s.sod with registry := registry } }
      | none => s
  | .setKeyEx keyId key idVal =>
      match s.sod.keys.setKeyEx keyId key idVal with
      | some keys => { s with sod := { s.sod with keys := keys } }
      | none => s
  | .clearKeys => { s with sod := { s.sod with keys := .clear } }
  | .application host => { s with host := host }

/-- The server after a run from boot. -/
abbrev after (gcm : Gcm) (P : Ports H) (host : H) (inputs : List (Input H)) : Server H :=
  run (step gcm P) (boot host) inputs

/-! ## Lookup -/

section Find

variable {r r' : Registry} {d d' : UInt32} {i : Fin sodMaxEntries} {e e' e₀ : SodEntry}

/-- The lookup finds the first entry with the data id. -/
theorem find_eq_some : r.find d = some (i, e) ↔
    r.entries[i.val]? = some e ∧ e.dataId = d ∧
      ∀ j, j < i.val → ∀ f, r.entries[j]? = some f → f.dataId ≠ d := by
  unfold Registry.find
  cases hf : r.entries.findFinIdx? (fun e => e.dataId == d) with
  | none =>
      rw [List.findFinIdx?_eq_none_iff] at hf
      simp only [reduceCtorEq, false_iff, not_and]
      intro he hd
      exact absurd (by simpa using hd) (hf e (List.mem_of_getElem? he))
  | some k =>
      rw [List.findFinIdx?_eq_some_iff] at hf
      obtain ⟨hk, hbefore⟩ := hf
      have hkd : r.entries[k].dataId = d := by simpa using hk
      have hget : r.entries[k.val]? = some r.entries[k] := List.getElem?_eq_getElem k.isLt
      simp only [Option.some.injEq, Prod.mk.injEq]
      constructor
      · rintro ⟨rfl, rfl⟩
        refine ⟨hget, hkd, ?_⟩
        intro j hj f hf
        obtain ⟨hlt, rfl⟩ := List.getElem?_eq_some_iff.mp hf
        simpa using hbefore ⟨j, hlt⟩ hj
      · rintro ⟨he, hd, hfirst⟩
        have hik : i.val = k.val := by
          rcases Nat.lt_trichotomy i.val k.val with hlt | heq | hgt
          · obtain ⟨hi, hie⟩ := List.getElem?_eq_some_iff.mp he
            exact absurd (by simpa [hie] using hd) (hbefore ⟨i.val, hi⟩ hlt)
          · exact heq
          · exact absurd hkd (hfirst k.val hgt _ hget)
        refine ⟨Fin.ext hik.symm, ?_⟩
        rw [hik, hget] at he
        exact Option.some.inj he

theorem find_dataId (h : r.find d = some (i, e)) : e.dataId = d := (find_eq_some.mp h).2.1

/-- Two data ids do not share an index. -/
theorem find_index (h : r.find d = some (i, e)) (h' : r.find d' = some (i, e')) : d = d' := by
  obtain ⟨he, hd, -⟩ := find_eq_some.mp h
  obtain ⟨he', hd', -⟩ := find_eq_some.mp h'
  rw [he] at he'
  obtain rfl := Option.some.inj he'
  rw [← hd, hd']

theorem find_mem (h : r.find d = some (i, e)) : e ∈ r.entries :=
  List.mem_of_getElem? (find_eq_some.mp h).1

/-- A registration either replaces the first entry of its data id in place, or
    appends a data id that was not there. -/
theorem register_cases (h : sodRegisterEntry r e₀ = some r') :
    (∃ k : Fin sodMaxEntries, ∃ e, r.find e₀.dataId = some (k, e) ∧
      r'.entries = r.entries.set k e₀) ∨
    (r.find e₀.dataId = none ∧ r'.entries = r.entries ++ [e₀]) := by
  unfold sodRegisterEntry at h
  split at h
  · cases h
  · split at h
    · cases h
    · unfold Registry.find
      split at h
      · rename_i k hk
        left
        cases h
        rw [hk]
        exact ⟨_, _, rfl, rfl⟩
      · rename_i hk
        right
        split at h
        · cases h
        · cases h
          rw [hk]
          exact ⟨rfl, rfl⟩

/-- An index keeps its data id under a registration. -/
theorem find_register (h : sodRegisterEntry r e₀ = some r') (hf : r.find d = some (i, e)) :
    r'.find d = some (i, if e₀.dataId = d then e₀ else e) := by
  obtain ⟨he, hd, hfirst⟩ := find_eq_some.mp hf
  rcases register_cases h with ⟨k, f, hk, hset⟩ | ⟨hnone, happ⟩
  · obtain ⟨hkf, hkd, hkfirst⟩ := find_eq_some.mp hk
    rw [find_eq_some, hset]
    by_cases hde : e₀.dataId = d
    · obtain ⟨hik, -⟩ : k = i ∧ f = e := by
        rw [hde, hf] at hk
        cases hk
        exact ⟨rfl, rfl⟩
      subst hik
      have hlt : k.val < r.entries.length := (List.getElem?_eq_some_iff.mp he).1
      refine ⟨by simp [hde, hlt], by simp [hde], ?_⟩
      intro j hj g hg
      rw [List.getElem?_set_ne (by omega)] at hg
      exact hfirst j hj g hg
    · have hne : k.val ≠ i.val := by
        intro hki
        rw [hki, he] at hkf
        obtain rfl := Option.some.inj hkf
        exact hde (hkd.symm.trans hd)
      refine ⟨by simp [hde, List.getElem?_set_ne hne, he], by simp [hde, hd], ?_⟩
      intro j hj g hg
      by_cases hkj : k.val = j
      · subst hkj
        have hlt : k.val < r.entries.length := (List.getElem?_eq_some_iff.mp hkf).1
        rw [List.getElem?_set_self hlt] at hg
        obtain rfl := Option.some.inj hg
        exact hde
      · rw [List.getElem?_set_ne hkj] at hg
        exact hfirst j hj g hg
  · have hde : e₀.dataId ≠ d := by
      rintro rfl
      rw [hf] at hnone
      cases hnone
    have hlt : i.val < r.entries.length := (List.getElem?_eq_some_iff.mp he).1
    rw [find_eq_some, happ]
    refine ⟨by simp [hde, List.getElem?_append_left hlt, he], by simp [hde, hd], ?_⟩
    intro j hj g hg
    rw [List.getElem?_append_left (by omega)] at hg
    exact hfirst j hj g hg

end Find

/-! ## What an exchange leaves alone -/

section Frame

variable {gcm : Gcm} {P : Ports H} {client : UInt16} {req : List UInt8} {arrival : UInt16}
  {s s' : Sod} {idx : Fin sodMaxEntries} {entry : SodEntry} {log : List Event} {r : SodResult}

theorem Move.registry (h : Move gcm P client req arrival s idx entry log r s') :
    s'.registry = s.registry := by
  cases h <;> rfl

theorem Move.readSlot_of_ne (h : Move gcm P client req arrival s idx entry log r s')
    {j : Fin sodMaxEntries} (hj : j ≠ idx) : s'.readSlot j = s.readSlot j := by
  cases h <;> simp [Sod.setRead, Sod.setWrite, hj]

theorem Move.writeSlot_of_ne (h : Move gcm P client req arrival s idx entry log r s')
    {j : Fin sodMaxEntries} (hj : j ≠ idx) : s'.writeSlot j = s.writeSlot j := by
  cases h <;> simp [Sod.setRead, Sod.setWrite, hj]

end Frame

/-! ## One request -/

/-- **A request**, as what the run records: on an unknown data id nothing
    happens, on a known one the exchange is a move. -/
theorem request_cases (gcm : Gcm) (P : Ports H) (s : Server H) (client : UInt16)
    (dataId : UInt32) (req : List UInt8) (replyMax : Nat) :
    (s.sod.registry.find dataId = none ∧
      exchange gcm P s client dataId req replyMax = ⟨client, dataId, req, .notHandled, []⟩ ∧
      step gcm P s (.request client dataId req replyMax) =
        { s with history := s.history ++ [⟨client, dataId, req, .notHandled, []⟩] }) ∨
    ∃ idx entry log r s' host, s.sod.registry.find dataId = some (idx, entry) ∧
      Move gcm P client req (P.timeMs s.host).1 s.sod idx entry log r s' ∧
      exchange gcm P s client dataId req replyMax = ⟨client, dataId, req, r, log⟩ ∧
      step gcm P s (.request client dataId req replyMax) =
        ⟨s', host, s.history ++ [⟨client, dataId, req, r, log⟩]⟩ := by
  cases hfind : s.sod.registry.find dataId with
  | none =>
      left
      have hserve : sodDispatch gcm P client dataId req replyMax ⟨s.sod, s.host, []⟩ =
          (.notHandled, ⟨s.sod, s.host, []⟩) := sodDispatch_notHandled hfind
      refine ⟨rfl, ?_, ?_⟩
      · simp only [exchange, serve, hserve]
      · simp only [step, exchange, serve, hserve]
  | some found =>
      right
      obtain ⟨idx, entry⟩ := found
      have hwp : wp (sodDispatch gcm P client dataId req replyMax)
          (IsMove gcm P client req idx entry ⟨s.sod, s.host, []⟩) ⟨s.sod, s.host, []⟩ :=
        sodDispatch_move hfind
      obtain ⟨log, hlog, hmove⟩ := hwp
      rw [List.nil_append] at hlog
      have hx : exchange gcm P s client dataId req replyMax =
          ⟨client, dataId, req, (serve gcm P s client dataId req replyMax).1, log⟩ := by
        simp only [exchange, serve, hlog]
      refine ⟨idx, entry, log, _, _, (serve gcm P s client dataId req replyMax).2.host, rfl,
        hmove, hx, ?_⟩
      rw [step, hx]
      rfl

/-! ## The application's calls -/

/-- What the application's calls keep: history, slots, the last write key id,
    and the index of every data id. -/
structure Kept (s s' : Server H) : Prop where
  history : s'.history = s.history
  readSlot : s'.sod.readSlot = s.sod.readSlot
  writeSlot : s'.sod.writeSlot = s.sod.writeSlot
  lookup : ∀ d i e, s.sod.registry.find d = some (i, e) →
    ∃ e', s'.sod.registry.find d = some (i, e')

theorem Kept.same {s s' : Server H} (h : s'.history = s.history)
    (hr : s'.sod.readSlot = s.sod.readSlot) (hw : s'.sod.writeSlot = s.sod.writeSlot)
    (hreg : s'.sod.registry = s.sod.registry) : Kept s s' :=
  ⟨h, hr, hw, fun d i e hf => ⟨e, by rw [hreg]; exact hf⟩⟩

/-- Every input but a request keeps them. -/
theorem step_kept (gcm : Gcm) (P : Ports H) (s : Server H) {a : Input H}
    (ha : ∀ client d req replyMax, a ≠ .request client d req replyMax) :
    Kept s (step gcm P s a) := by
  cases a with
  | request client d req replyMax => exact absurd rfl (ha client d req replyMax)
  | registerEntry entry =>
      simp only [step]
      split
      · rename_i registry hr
        exact ⟨rfl, rfl, rfl, fun d i e hf => ⟨_, find_register hr hf⟩⟩
      · exact .same rfl rfl rfl rfl
  | setKeyEx keyId key idVal =>
      simp only [step]
      split <;> exact .same rfl rfl rfl rfl
  | clearKeys => exact .same rfl rfl rfl rfl
  | application host => exact .same rfl rfl rfl rfl

/-- A step keeps the index of a data id; only a registration of the data id
    changes the entry there. -/
theorem step_entry (gcm : Gcm) (P : Ports H) (s : Server H) (a : Input H) {d : UInt32}
    {i : Fin sodMaxEntries} {e : SodEntry} (hf : s.sod.registry.find d = some (i, e)) :
    ∃ e', (step gcm P s a).sod.registry.find d = some (i, e') ∧
      (e' = e ∨ e'.dataId = d ∧ a = .registerEntry e') := by
  cases a with
  | request client d' req replyMax =>
      rcases request_cases gcm P s client d' req replyMax with ⟨-, -, hstep⟩ |
        ⟨idx, entry, log, r, s', host, -, hmove, -, hstep⟩
      · rw [hstep]
        exact ⟨e, hf, .inl rfl⟩
      · rw [hstep, Move.registry hmove]
        exact ⟨e, hf, .inl rfl⟩
  | registerEntry entry =>
      simp only [step]
      split
      · rename_i registry hr
        have hfind := find_register hr hf
        by_cases hd : entry.dataId = d
        · rw [if_pos hd] at hfind
          exact ⟨entry, hfind, .inr ⟨hd, rfl⟩⟩
        · rw [if_neg hd] at hfind
          exact ⟨e, hfind, .inl rfl⟩
      · exact ⟨e, hf, .inl rfl⟩
  | setKeyEx keyId key idVal =>
      simp only [step]
      split <;> exact ⟨e, hf, .inl rfl⟩
  | clearKeys => exact ⟨e, hf, .inl rfl⟩
  | application host => exact ⟨e, hf, .inl rfl⟩

/-- No data id is registered twice. -/
def RegistersOnce (s : Server H) : Input H → Prop
  | .registerEntry entry => s.sod.registry.find entry.dataId = none
  | _ => True

instance (s : Server H) : ∀ a, Decidable (RegistersOnce s a)
  | .registerEntry entry => decidable_of_iff _ (Option.isNone_iff_eq_none
      (o := s.sod.registry.find entry.dataId))
  | .request _ _ _ _ | .setKeyEx _ _ _ | .clearKeys | .application _ => .isTrue trivial

/-- Then the entries stay as they were registered. -/
theorem step_lookup (gcm : Gcm) (P : Ports H) (s : Server H) {a : Input H}
    (hreg : RegistersOnce s a) {d : UInt32} {i : Fin sodMaxEntries} {e : SodEntry}
    (hf : s.sod.registry.find d = some (i, e)) :
    (step gcm P s a).sod.registry.find d = some (i, e) := by
  obtain ⟨e', hf', rfl | ⟨hd, rfl⟩⟩ := step_entry gcm P s a hf
  · exact hf'
  · have hnone : s.sod.registry.find e'.dataId = none := hreg
    rw [hd, hf] at hnone
    cases hnone

section Invariants

variable {gcm : Gcm} {P : Ports H} {C : Server H → Input H → Prop} {I : Server H → Prop}

/-- An invariant is kept by a step when requests and the application's calls keep
    it under the step's condition. -/
theorem step_invariant
    (hrequest : ∀ s client d req replyMax, I s → C s (.request client d req replyMax) →
      I (step gcm P s (.request client d req replyMax)))
    (hkept : ∀ s a, I s → C s a → Kept s (step gcm P s a) → I (step gcm P s a))
    (s : Server H) (a : Input H) (hI : I s) (ha : C s a) : I (step gcm P s a) := by
  by_cases hreq : ∃ client d req replyMax, a = .request client d req replyMax
  · obtain ⟨client, d, req, replyMax, rfl⟩ := hreq
    exact hrequest s client d req replyMax hI ha
  · exact hkept s a hI ha (step_kept gcm P s fun client d req replyMax h =>
      hreq ⟨client, d, req, replyMax, h⟩)

/-- **The run rule of the server.** -/
theorem server_induction {host : H} {inputs : List (Input H)} (hboot : I (boot host))
    (hrequest : ∀ s client d req replyMax, I s → C s (.request client d req replyMax) →
      I (step gcm P s (.request client d req replyMax)))
    (hkept : ∀ s a, I s → C s a → Kept s (step gcm P s a) → I (step gcm P s a))
    (hC : Along (step gcm P) C (boot host) inputs) : I (after gcm P host inputs) :=
  run_induction (step_invariant hrequest hkept) hboot hC

end Invariants

/-! ## A sample host -/

/-- The host of worked runs: a stopped clock, a list of randoms still to come,
    and hooks that allow everything. -/
def samplePorts (data : UInt32 → List UInt8) : Ports (List Rand) where
  deviceId := 1
  timeMs h := (0, h)
  random h := (h.head?, h.tail)
  accessAllowed _ _ h := (true, h)
  roleAllowed _ _ _ h := (true, h)
  readBefore d h := ((abortNone, data d), h)
  writeAfter _ _ _ keys h := (abortNone, keys, h)

/-- The host whose every entry reads the same four bytes. -/
def sampleReader : Ports (List Rand) := samplePorts fun _ => [1, 2, 3, 4]

end SofaServer
