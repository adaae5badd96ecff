import Sofa.Handover
import Sofa.Node

/-! # To whom the tool gives keys

    The command prints the result of each step and goes on.  Whether the Provisioning key
    goes to a genuine device that took the voucher is therefore up to what answers.

    The headline, **`keys_guarded_iff`**: against any transport, the key is sent only after a
    successful genuineness check and an acknowledged voucher, and nothing of value is sent
    after a failed step, exactly when the transport's answers prove the device genuine and it
    takes the voucher.  `key_to_impostor` is the run in which nothing answers. -/

namespace SofaKeyDisclosure

open ByteBlock SofaConfig SofaAead SofaClient SofaAsym SofaDevice SofaNode SofaHandover
  StateWp Machine

variable {N : Type} {authorized : Bool} {ed : Ed25519} {T : HandoverTransport N} {target : UInt16}

/-! ## The law -/

/-- A log that grows by one event. -/
def grow (log : List HandoverEvent) (e : HandoverEvent) : List HandoverEvent := log ++ [e]

/-- The object carries the Provisioning key, or ownership. -/
def carriesMaterial (dataId : UInt32) : Prop := dataId = hoProvisionId ∨ dataId = hoVoucherId

/-- What is sent after the events `pre`: the key only to a device found genuine before that
    acknowledged the voucher, and no material after a failed step. -/
def Guarded (authorized : Bool) (target : UInt16) (pre : List HandoverEvent) :
    HandoverEvent → Prop
  | .write device dataId _ _ =>
      (dataId = hoProvisionId → device = target ∧ .reported .genuineness 0 ∈ pre ∧
        (authorized = true → ∃ frame, .write target hoVoucherId frame (.ok ()) ∈ pre)) ∧
      (carriesMaterial dataId → ∀ step rc, .reported step rc ∈ pre → rc = 0)
  | .drawn _ | .read .. | .reported .. => True

/-- The law of a log: every event of it is guarded by the events before it. -/
def KeysGuarded (authorized : Bool) (target : UInt16) (log : List HandoverEvent) : Prop :=
  Along grow (Guarded authorized target) [] log

/-! ## Logs -/

/-- The log after more events. -/
theorem run_grow (log events : List HandoverEvent) : run grow log events = log ++ events := by
  induction events generalizing log with
  | nil => exact (List.append_nil log).symm
  | cons e events ih =>
      rw [run_cons, ih]
      exact List.append_assoc log [e] events

/-- Draws and reads are always guarded. -/
theorem along_quiet {events : List HandoverEvent}
    (h : ∀ e ∈ events, HandoverEvent.quiet e = true) (pre : List HandoverEvent) :
    Along grow (Guarded authorized target) pre events := by
  refine along_of_mem (fun e he pre => ?_) pre
  cases e with
  | drawn rt => trivial
  | read device dataId body result => trivial
  | write device dataId frame result => cases h _ he
  | reported step rc => trivial

/-- Draws and reads report nothing. -/
theorem not_reported {events : List HandoverEvent} {step : HandoverStep} {rc : Nat}
    (h : ∀ e ∈ events, HandoverEvent.quiet e = true) : .reported step rc ∉ events :=
  fun hmem => by cases h _ hmem

/-! ## One run -/

/-- The voucher was acknowledged. -/
def Acknowledged (target : UInt16) (events : List HandoverEvent) : Prop :=
  ∃ frame, .write target hoVoucherId frame (.ok ()) ∈ events

/-- **The log of a command is guarded exactly when its first two steps succeed.** -/
theorem run_guarded_iff {n n' : N} {run : CommandRun}
    (h : run.Of authorized ed T target n n') :
    KeysGuarded authorized target (run.log target) ↔
      run.r1 = 0 ∧ (authorized = true → TakesVoucher ed T target n') := by
  have hends : ∀ pre, Along grow (Guarded authorized target) pre
      (run.exports ++ [.reported .ldevid run.r4]) := by
    intro pre
    rw [along_append]
    exact ⟨along_quiet h.exports pre, trivial, trivial⟩
  have hcut : run.log target = (run.checks ++ [.reported .genuineness run.r1]) ++ (run.claim
      ++ ([.write target hoProvisionId run.payload run.installed,
        .reported .provisioning run.r3] ++ (run.exports ++ [.reported .ldevid run.r4]))) := by
    simp [CommandRun.log]
  have hfirst : Along grow (Guarded authorized target) []
      (run.checks ++ [.reported .genuineness run.r1]) := by
    rw [along_append]
    exact ⟨along_quiet h.checks [], trivial, trivial⟩
  have hsent : ∀ pre, Along grow (Guarded authorized target) pre
      ([.write target hoProvisionId run.payload run.installed,
        .reported .provisioning run.r3] ++ (run.exports ++ [.reported .ldevid run.r4])) ↔
      .reported .genuineness 0 ∈ pre ∧ (authorized = true → Acknowledged target pre) ∧
        ∀ step rc, .reported step rc ∈ pre → rc = 0 := by
    intro pre
    rw [along_append, and_iff_left (hends _)]
    simp [Guarded, carriesMaterial, Acknowledged, and_assoc]
  have hno : ∀ step rc, .reported step rc ∉ run.checks := fun step rc => not_reported h.checks
  rw [KeysGuarded, hcut, along_append, and_iff_right hfirst, run_grow, List.nil_append,
    along_append, run_grow, hsent]
  generalize hclaim : run.claim = claim
  have hevents := h.claim
  rw [hclaim] at hevents
  cases hevents with
  | basic =>
      simp [hno, eq_comm]
  | @authorized answer frame result rc taken takes =>
      -- the voucher, after the first result
      have hvoucher : Along grow (Guarded true target)
          (run.checks ++ [.reported .genuineness run.r1])
          [.read target hoEpochId [] answer, .write target hoVoucherId frame result,
            .reported .voucher rc] ↔ run.r1 = 0 := by
        have hne : hoVoucherId ≠ hoProvisionId := by decide
        simp [Guarded, carriesMaterial, grow, hno, hne]
      rw [hvoucher, ← takes]
      constructor
      · rintro ⟨hr1, -, -, hzero⟩
        exact ⟨hr1, fun _ => hzero .voucher rc (by simp)⟩
      · rintro ⟨hr1, hrc⟩
        have hrc := hrc rfl
        refine ⟨hr1, by simp [hr1], fun _ => ⟨frame, by simp [taken.mp hrc]⟩, ?_⟩
        intro step rc' hmem
        simp only [List.mem_append, hno, List.mem_cons, List.not_mem_nil, false_or, or_false,
          reduceCtorEq, HandoverEvent.reported.injEq] at hmem
        obtain ⟨-, rfl⟩ | ⟨-, rfl⟩ := hmem
        · exact hr1
        · exact hrc

/-! ## The headline -/

/-- **Keys go only to genuine devices, exactly** when the first two steps succeed. -/
theorem keys_guarded_iff (authorized : Bool) (ed : Ed25519) (T : HandoverTransport N)
    (target : UInt16) (n : N) :
    KeysGuarded authorized target (commissionCommand authorized ed T target ⟨n, []⟩).2.log ↔
      ∃ n', AnswersGenuine ed T target n n' ∧
        (authorized = true → TakesVoucher ed T target n') := by
  obtain ⟨run, n', hrun, hlog⟩ := commissionCommand_log authorized ed T target n
  rw [hlog, run_guarded_iff hrun]
  constructor
  · rintro ⟨hr1, htakes⟩
    exact ⟨n', (hrun.genuine n').mpr ⟨hr1, rfl⟩, htakes⟩
  · rintro ⟨x, hgenuine, htakes⟩
    obtain ⟨hr1, rfl⟩ := (hrun.genuine x).mp hgenuine
    exact ⟨hr1, htakes⟩

/-! ## A worked run -/

/-- A transport on which nothing answers. -/
def deadTransport : HandoverTransport Unit where
  clientId := 20
  random := fun n => (some (zero 12), n)
  read := fun _ _ _ _ n => (.error .timeout, n)
  write := fun _ _ _ n => (.error .timeout, n)
  fits := by
    intro device dataId body cap n reply h
    cases h
  challenge := fun n => (some (zero 16), n)

/-- **A key for an impostor.**  Nothing proves the device genuine, and the voucher and the
    key are sent. -/
theorem key_to_impostor :
    let log := (commissionCommand true sampleEd deadTransport 5 ⟨(), []⟩).2.log
    .reported .genuineness 2 ∈ log ∧
      .write 5 hoProvisionId (provisioningPayload sampleEd) (.error .timeout) ∈ log ∧
      ¬ KeysGuarded true 5 log := by
  refine ⟨by decide +kernel, by decide +kernel, ?_⟩
  rw [keys_guarded_iff]
  rintro ⟨n', ⟨rt, drawn, reply, -, hread, -⟩, -⟩
  cases hread

end SofaKeyDisclosure
