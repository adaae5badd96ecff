import Sofa.ClientMoves

/-! # The verbs of the client

    `client_common_verbs.c`: a single secured read or write, and the cyclic ones, which arm a
    session and poll it COUNT - 1 times more.  Each call ends in a row for the operator, and the
    verb in an exit code for the shell.

    * `pollLoop`: the loop that both cyclic verbs share, with a bound on its steps;
    * **`pollLoop_run`**: the bound is never reached, whatever COUNT is: the session uses up its
      key budget first. -/

namespace SofaVerbs

open SofaConfig SofaAead SofaClient StateWp

variable {N : Type}

/-! ## What is told -/

/-- `fbsec_client_secp_strerror`. -/
def secpStrerror : SecpError → String
  | .timeout => "timeout"
  | .tx => "transmit failed"
  | .protocol => "protocol error"
  | .bufsize => "buffer size"
  | .abort _ => "server abort"
  | .tag => "tag verify failed"
  | .random => "random source failed"

/-- What a verb that fails returns to the shell. -/
def exitCode : SecpError → Nat
  | .abort _ => 2
  | .tag => 3
  | _ => 1

theorem exitCode_ne_zero (e : SecpError) : exitCode e ≠ 0 := by
  cases e <;> exact Nat.noConfusion

/-- One thing that is printed, its colour apart. -/
inductive Row where
  | plain (dataId : UInt32) (data : List UInt8)
  | closed
  | abort (code : Abort)
  | fail (text : String)
  deriving DecidableEq

/-- The row of a call that succeeded: its data, when it has any. -/
def okRow (dataId : UInt32) (plain : List UInt8) : Row :=
  if plain.length > 0 then .plain dataId plain else .closed

/-- The FAIL row of a call, as the verbs choose it. -/
def failRow : SecpError → Row
  | .abort code => .abort code
  | .tag => .fail "tag verify failed"
  | e => .fail (secpStrerror e)

/-- `emit_summary`, as the verbs call it on the result of a call. -/
def emitSummary (quiet : Bool) (dataId : UInt32) (result : Except SecpError (List UInt8)) :
    List Row :=
  if quiet then [] else
    match result with
    | .ok plain => [okRow dataId plain]
    | .error e => [.closed, failRow e]

/-- The exit code of a verb, and the results it told of. -/
structure Report where
  exit : Nat
  results : List (Except SecpError (List UInt8))

/-- What the operator reads. -/
def Report.rows (quiet : Bool) (dataId : UInt32) (report : Report) : List Row :=
  report.results.flatMap (emitSummary quiet dataId)

/-- A call that ended the verb. -/
def Report.failed (e : SecpError) : Report := ⟨exitCode e, [.error e]⟩

/-- A call that succeeded, and what came after it. -/
def Report.after (plain : List UInt8) (rest : Report) : Report :=
  ⟨rest.exit, .ok plain :: rest.results⟩

/-- The rows of calls that succeeded. -/
theorem rows_ok (plains : List (List UInt8)) (quiet : Bool) (dataId : UInt32) :
    (plains.map .ok).flatMap (emitSummary quiet dataId)
      = if quiet then [] else plains.map (okRow dataId) := by
  induction plains with
  | nil => cases quiet <;> rfl
  | cons plain plains ih =>
      rw [List.map_cons, List.flatMap_cons, ih]
      cases quiet <;> rfl

/-- **A verb without a failure** tells one row a call. -/
theorem Report.rows_all {report : Report} {plains : List (List UInt8)}
    (told : report.results = plains.map .ok) (quiet : Bool) (dataId : UInt32) :
    report.rows quiet dataId = if quiet then [] else plains.map (okRow dataId) := by
  rw [Report.rows, told, rows_ok]

/-- **A verb that a failure ended** tells those before it, and why it ended. -/
theorem Report.rows_cut {report : Report} {plains : List (List UInt8)} {e : SecpError}
    (told : report.results = plains.map .ok ++ [.error e]) (quiet : Bool) (dataId : UInt32) :
    report.rows quiet dataId =
      if quiet then [] else plains.map (okRow dataId) ++ [.closed, failRow e] := by
  rw [Report.rows, told, List.flatMap_append, rows_ok, List.flatMap_singleton]
  cases quiet <;> rfl

/-! ## Single calls -/

/-- `fbsec_client_run_secure_read`. -/
def runSecureRead (gcm : Gcm) (T : Transport N) (device : UInt16) (dataId : UInt32) (key : Key)
    (keyId : UInt8) (bufSize : Nat) : SecpM N Report := do
  match ← secureRead gcm T device dataId key keyId bufSize with
  | .error e => return .failed e
  | .ok plain => return ⟨0, [.ok plain]⟩

/-- `fbsec_client_run_secure_write`. -/
def runSecureWrite (gcm : Gcm) (T : Transport N) (device : UInt16) (dataId : UInt32) (key : Key)
    (keyId : UInt8) (plain : List UInt8) : SecpM N Report := do
  match ← secureWrite gcm T device dataId key keyId plain with
  | .error e => return .failed e
  | .ok () => return ⟨0, [.ok []]⟩

/-! ## The cyclic verbs -/

/-- A poll, as the loop sees it: what is told of it, and the session after it. -/
abbrev PollCall (N : Type) := Session → SecpM N (Except SecpError (List UInt8) × Session)

/-- `fbsec_secure_poll_read`, as its verb calls it. -/
def readCall (gcm : Gcm) (T : Transport N) (device : UInt16) (key : Key) : PollCall N :=
  fun sess => do
    let r ← securePollRead gcm T device key sess aeadMaxProtected
    return (r.1.map (·.1), r.2)

/-- `fbsec_secure_poll_write`, as its verb calls it. -/
def writeCall (gcm : Gcm) (T : Transport N) (device : UInt16) (key : Key) (plain : List UInt8) :
    PollCall N :=
  fun sess => do
    let r ← securePollWrite gcm T device key sess plain
    return (r.1.map fun _ => [], r.2)

/-- The poll behind a call of the loop. -/
theorem readCall_run {gcm : Gcm} {T : Transport N} {device : UInt16} {key : Key}
    {sess sess' : Session} {w w' : ClientWorld N} {out : Except SecpError (List UInt8)}
    (h : readCall gcm T device key sess w = ((out, sess'), w')) :
    ∃ r, securePollRead gcm T device key sess aeadMaxProtected w = ((r, sess'), w') ∧
      out = r.map (·.1) := by
  rcases hrun : securePollRead gcm T device key sess aeadMaxProtected w with ⟨⟨r, next⟩, w₁⟩
  rw [readCall, bind_run hrun] at h
  cases h
  exact ⟨r, rfl, rfl⟩

theorem writeCall_run {gcm : Gcm} {T : Transport N} {device : UInt16} {key : Key}
    {plain : List UInt8} {sess sess' : Session} {w w' : ClientWorld N}
    {out : Except SecpError (List UInt8)}
    (h : writeCall gcm T device key plain sess w = ((out, sess'), w')) :
    ∃ r, securePollWrite gcm T device key sess plain w = ((r, sess'), w') ∧
      out = r.map fun _ => [] := by
  rcases hrun : securePollWrite gcm T device key sess plain w with ⟨⟨r, next⟩, w₁⟩
  rw [writeCall, bind_run hrun] at h
  cases h
  exact ⟨r, rfl, rfl⟩

/-- The loop over the polls: `n` counts the calls, and the first poll that fails ends it. -/
def pollLoop (poll : PollCall N) (count : UInt32) :
    Nat → UInt32 → Session → SecpM N (Option Report)
  | 0, _, _ => return none
  | fuel + 1, n, sess => do
      if n ≤ count then
        let r ← poll sess
        match r.1 with
        | .error e => return some (.failed e)
        | .ok plain =>
            let rest ← pollLoop poll count fuel (n + 1) r.2
            return rest.map (Report.after plain)
      else
        return some ⟨0, []⟩

/-- More steps than a session has polls. -/
abbrev loopFuel : Nat := keyUseLimit + 1

/-- `fbsec_client_run_secure_read_poll`. -/
def runSecureReadPoll (gcm : Gcm) (T : Transport N) (device : UInt16) (dataId : UInt32) (key : Key)
    (keyId : UInt8) (count : UInt32) : SecpM N (Option Report) := do
  match ← secureReadArmed gcm T device dataId key keyId aeadMaxProtected with
  | .error e => return some (.failed e)
  | .ok (plain, sess) =>
      let rest ← pollLoop (readCall gcm T device key) count loopFuel 2 sess
      return rest.map (Report.after plain)

/-- `fbsec_client_run_secure_write_poll`. -/
def runSecureWritePoll (gcm : Gcm) (T : Transport N) (device : UInt16) (dataId : UInt32)
    (key : Key) (keyId : UInt8) (plain : List UInt8) (count : UInt32) :
    SecpM N (Option Report) := do
  match ← secureWriteArmed gcm T device dataId key keyId plain with
  | .error e => return some (.failed e)
  | .ok sess =>
      let rest ← pollLoop (writeCall gcm T device key plain) count loopFuel 2 sess
      return rest.map (Report.after [])

/-! ## The loop -/

/-- The polls of a run of the loop, with what was told of them. -/
inductive Polled (poll : PollCall N) :
    Session → ClientWorld N → List (Except SecpError (List UInt8)) → ClientWorld N → Prop
  | done (sess : Session) (w : ClientWorld N) : Polled poll sess w [] w
  | ok {sess sess' : Session} {w w₁ w' : ClientWorld N} {plain : List UInt8}
      {results : List (Except SecpError (List UInt8))}
      (call : poll sess w = ((.ok plain, sess'), w₁)) (rest : Polled poll sess' w₁ results w') :
      Polled poll sess w (.ok plain :: results) w'
  | stopped {sess sess' : Session} {w w' : ClientWorld N} {e : SecpError}
      (call : poll sess w = ((.error e, sess'), w')) : Polled poll sess w [.error e] w'

/-- How a verb ends that has made `done` calls so far: all calls up to COUNT succeeded, or the
    first one that failed ended it. -/
inductive Verdict (count done : Nat) : Report → Prop
  | all (plains : List (List UInt8)) (total : done + plains.length = max done count)
      (budget : done + plains.length ≤ keyUseLimit + 1) :
      Verdict count done ⟨0, plains.map .ok⟩
  | cut (plains : List (List UInt8)) (e : SecpError) (early : done + plains.length < count) :
      Verdict count done ⟨exitCode e, plains.map .ok ++ [.error e]⟩

/-- One more call before it. -/
theorem Verdict.after {count done : Nat} {rest : Report} (plain : List UInt8)
    (h : Verdict count (done + 1) rest) (more : done < count) :
    Verdict count done (rest.after plain) := by
  cases h with
  | all plains total budget =>
      refine .all (plain :: plains) ?_ ?_
      · rw [List.length_cons]
        omega
      · rw [List.length_cons]
        omega
  | cut plains e early =>
      refine .cut (plain :: plains) e ?_
      rw [List.length_cons]
      omega

/-- **The loop ends**, however large COUNT is: a poll that succeeds counts the session on, and one
    on a session that has used up its key budget fails. -/
theorem pollLoop_run {poll : PollCall N}
    (counts : ∀ sess w plain sess' w', poll sess w = ((.ok plain, sess'), w') →
      sess.counter < keyUseLimit ∧ sess'.counter = sess.counter + 1) (count : UInt32)
    (fuel : Nat) (n : UInt32) (sess : Session) (hfuel : keyUseLimit < fuel + sess.counter)
    (hlimit : sess.counter ≤ keyUseLimit) (hn : n.toNat = sess.counter + 2) (w : ClientWorld N) :
    ∃ report w', pollLoop poll count fuel n sess w = (some report, w') ∧
      Polled poll sess w report.results w' ∧
      Verdict count.toNat (sess.counter + 1) report := by
  induction fuel generalizing n sess w with
  | zero => omega
  | succ fuel ih =>
      rw [pollLoop]
      by_cases hmore : n ≤ count
      · have hlt : sess.counter + 1 < count.toNat := by
          have hle := UInt32.le_iff_toNat_le.mp hmore
          omega
        rw [if_pos hmore]
        rcases hcall : poll sess w with ⟨⟨r, sess'⟩, w₁⟩
        rw [bind_run hcall]
        cases r with
        | error e => exact ⟨_, w₁, rfl, .stopped hcall, .cut [] e hlt⟩
        | ok plain =>
            obtain ⟨hbudget, hnext⟩ := counts _ _ _ _ _ hcall
            have hsucc : (n + 1).toNat = sess'.counter + 2 := by
              have hsmall : n.toNat + 1 < 2 ^ 32 := by
                have hlim : sess.counter < 1000000 := hbudget
                omega
              rw [UInt32.toNat_add, UInt32.toNat_one, Nat.mod_eq_of_lt hsmall]
              omega
            obtain ⟨report, w', hrun, hpolled, hverdict⟩ :=
              ih (n + 1) sess' (by omega) (by omega) hsucc w₁
            refine ⟨report.after plain, w', ?_, .ok hcall hpolled, ?_⟩
            · dsimp only
              rw [bind_run hrun]
              rfl
            · rw [hnext] at hverdict
              exact hverdict.after plain hlt
      · have hge : count.toNat ≤ sess.counter + 1 := by
          have hnot := UInt32.le_iff_toNat_le.not.mp hmore
          omega
        rw [if_neg hmore]
        refine ⟨⟨0, []⟩, w, rfl, .done sess w, .all [] ?_ ?_⟩
        · rw [List.length_nil]
          omega
        · rw [List.length_nil]
          omega

end SofaVerbs
