import Sofa.DeviceLink
import Sofa.Transcripts

/-! # The capability descriptor and the tool's security floor

    `fbsec_descriptor.c` and `client_common_caps.c`: the record of C000h, its nine
    sub-indices on the wire, and the tool that reads them one after the other and refuses a
    device that does not advertise the mechanism it wants.

    The first answer bounds the loop, and the record is filled piece by piece; what no answer
    filled is zero.

    * `readCaps_spec`: nine reads at most, and where the mechanisms of the record come from;
    * **`min_security_fails_closed`**: the floor is met only by an answer of this call. -/

namespace SofaCaps

open ByteBlock SofaConfig SofaAead SofaOd SofaClient SofaAsym SofaDemo SofaDevice SofaTurn SofaNode
  SofaEpochs SofaTranscripts SofaServer SofaChannel SofaLink StateWp

variable {N : Type}

/-! ## The record -/

/-- `fbsec_caps_t`. -/
structure Caps where
  highestSub : UInt8 := 0
  typeWord : UInt32 := 0
  aeadAndTag : UInt32 := 0
  kdf : UInt16 := 0
  sigAlg : UInt16 := 0
  symLevels : UInt8 := 0
  idFlags : UInt8 := 0
  handoverModel : UInt8 := 0
  mechanisms : UInt16 := 0
  deriving DecidableEq

/-- `FBSEC_DESC_CAP_SUB_MAX`. -/
abbrev capSubMax : UInt8 := 0x08

/-- The mechanism bits. -/
abbrev mechAead : UInt16 := 0x01
abbrev mechRpk : UInt16 := 0x02
abbrev mechX509 : UInt16 := 0x04

/-- Little-endian loads. -/
def getU16le (buf : List UInt8) : UInt16 :=
  (buf.getD 0 0).toUInt16 ||| ((buf.getD 1 0).toUInt16 <<< 8)
def getU32le (buf : List UInt8) : UInt32 :=
  (buf.getD 0 0).toUInt32 ||| ((buf.getD 1 0).toUInt32 <<< 8)
    ||| ((buf.getD 2 0).toUInt32 <<< 16) ||| ((buf.getD 3 0).toUInt32 <<< 24)

/-- `fbsec_descriptor_build_caps`, in a build with identities and vouchers: no standard
    profile, AES-128-GCM with its tag length, HKDF-SHA-256, Ed25519, three key levels, all
    three claim gates, and the mechanisms AEAD and RPK. -/
def buildCaps (liveIdFlags : UInt8) : Caps where
  highestSub := capSubMax
  typeWord := 0
  aeadAndTag := 0x1001
  kdf := 0x0001
  sigAlg := 0x0001
  symLevels := 0x01 ||| 0x02 ||| 0x04
  idFlags := liveIdFlags
  handoverModel := 0x01 ||| 0x02 ||| 0x04
  mechanisms := mechAead ||| mechRpk

/-- `fbsec_caps_serialize_sub`: no bytes for a sub-index that does not exist or does not
    fit. -/
def serializeSub (c : Caps) (sub : UInt8) (outMax : Nat) : List UInt8 :=
  match sub with
  | 0x00 => if outMax < 1 then [] else [c.highestSub]
  | 0x01 => if outMax < 4 then [] else putU32le c.typeWord
  | 0x02 => if outMax < 4 then [] else putU32le c.aeadAndTag
  | 0x03 => if outMax < 2 then [] else putU16le c.kdf
  | 0x04 => if outMax < 2 then [] else putU16le c.sigAlg
  | 0x05 => if outMax < 1 then [] else [c.symLevels]
  | 0x06 => if outMax < 1 then [] else [c.idFlags]
  | 0x07 => if outMax < 1 then [] else [c.handoverModel]
  | 0x08 => if outMax < 2 then [] else putU16le c.mechanisms
  | _ => []

/-- `fbsec_caps_deserialize_sub`; `none` is a value of the wrong length, or no sub-index. -/
def deserializeSub (c : Caps) (sub : UInt8) (buf : List UInt8) : Option Caps :=
  match sub with
  | 0x00 => if buf.length != 1 then none else some { c with highestSub := buf.getD 0 0 }
  | 0x01 => if buf.length != 4 then none else some { c with typeWord := getU32le buf }
  | 0x02 => if buf.length != 4 then none else some { c with aeadAndTag := getU32le buf }
  | 0x03 => if buf.length != 2 then none else some { c with kdf := getU16le buf }
  | 0x04 => if buf.length != 2 then none else some { c with sigAlg := getU16le buf }
  | 0x05 => if buf.length != 1 then none else some { c with symLevels := buf.getD 0 0 }
  | 0x06 => if buf.length != 1 then none else some { c with idFlags := buf.getD 0 0 }
  | 0x07 => if buf.length != 1 then none else some { c with handoverModel := buf.getD 0 0 }
  | 0x08 => if buf.length != 2 then none else some { c with mechanisms := getU16le buf }
  | _ => none

/-! ## The tool -/

/-- The data id of a sub-index of C000h. -/
def capId (sub : UInt8) : UInt32 := (descCapIndex.toUInt32 <<< 16) ||| (sub.toUInt32 <<< 8)

/-- The buffer of one read. -/
abbrev capBufLen : Nat := 8

/-- `read_one_sub`: the return code, and the record after it. -/
def readOneSub (T : Transport N) (target : UInt16) (sub : UInt8) (caps : Caps) :
    SecpM N (Nat × Caps) := do
  match ← transportRead T target (capId sub) [] capBufLen with
  | .error (.abort _) => return (2, caps)
  | .error _ => return (1, caps)
  | .ok buf =>
      match deserializeSub caps sub buf with
      | none => return (1, caps)
      | some caps => return (0, caps)

/-- The loop of `fbsec_client_read_caps` from a sub-index on.  It has 8 bits, so the loop ends
    only below 255; `none` is a loop that is still running after so many rounds. -/
def readSubs (T : Transport N) (target : UInt16) : Nat → UInt8 → Caps →
    SecpM N (Option (Nat × Caps))
  | 0, _, _ => return none
  | rounds + 1, sub, out =>
      if sub ≤ out.highestSub then do
        let (rc, out) ← readOneSub T target sub out
        if rc != 0 then
          return some (rc, out)
        readSubs T target rounds (sub + 1) out
      else
        return some (0, out)

/-- `fbsec_client_read_caps`. -/
def readCaps (T : Transport N) (target : UInt16) (out : Caps) :
    SecpM N (Option (Nat × Caps)) := do
  let (rc, out) ← readOneSub T target 0x00 out
  if rc != 0 then
    return some (rc, out)
  if out.highestSub > capSubMax then
    return some (1, out)
  readSubs T target 256 0x01 out

/-- `fbsec_client_min_sec_t`. -/
inductive MinSec where
  | any
  | aead
  | signed
  | x509
  deriving DecidableEq

/-- The mechanism of a floor. -/
def MinSec.mechanism : MinSec → UInt16
  | .any => 0
  | .aead => mechAead
  | .signed => mechRpk
  | .x509 => mechX509

/-- `fbsec_client_caps_meets_min`. -/
def capsMeetsMin (caps : Caps) (floor : MinSec) : Bool :=
  floor == .any || caps.mechanisms &&& floor.mechanism != 0

/-- `fbsec_client_enforce_min_security`, without its messages; `none` is a read that does not
    end. -/
def enforceMinSecurity (T : Transport N) (target : UInt16) (floor : MinSec) :
    SecpM N (Option Nat) := do
  if floor == .any then
    return some 0
  match ← readCaps T target {} with
  | none => return none
  | some (rc, caps) =>
      if rc != 0 then
        return some 1
      if !capsMeetsMin caps floor then
        return some 1
      return some 0

/-! ## One sub-index -/

/-- What a value leaves of the record: it fills its own field. -/
theorem deserializeSub_keeps {c c' : Caps} {sub : UInt8} {buf : List UInt8}
    (h : deserializeSub c sub buf = some c') :
    (sub ≠ 0x00 → c'.highestSub = c.highestSub) ∧
      (sub ≠ 0x08 → c'.mechanisms = c.mechanisms) ∧
      (sub = 0x08 → buf.length = 2 ∧ c'.mechanisms = getU16le buf) := by
  unfold deserializeSub at h
  split at h
  case h_10 => cases h
  all_goals
    split at h
    · cases h
    · rename_i hlen
      obtain rfl := Option.some.inj h
      simp only [bne_iff_ne, ne_eq, not_not] at hlen
      refine ⟨fun hne => ?_, fun hne => ?_, fun heq => ?_⟩
      all_goals first | rfl | exact absurd rfl hne | exact ⟨hlen, rfl⟩ | exact absurd heq (by decide)

/-- The return code of one read, and the record after it. -/
def decoded (out : Caps) (sub : UInt8) : Except SecpError (List UInt8) → Nat × Caps
  | .error (.abort _) => (2, out)
  | .error _ => (1, out)
  | .ok buf =>
      match deserializeSub out sub buf with
      | none => (1, out)
      | some caps => (0, caps)

theorem wp_readOneSub {T : Transport N} {target : UInt16} {sub : UInt8} {out : Caps}
    {w : ClientWorld N} {Q : Nat × Caps → ClientWorld N → Prop} :
    wp (readOneSub T target sub out) Q w ↔
      Q (decoded out sub (T.read target (capId sub) [] capBufLen w.net).1)
        ⟨(T.read target (capId sub) [] capBufLen w.net).2, w.log ++ [.read target (capId sub) []
          capBufLen (T.read target (capId sub) [] capBufLen w.net).1]⟩ := by
  have hread : wp (transportRead T target (capId sub) [] capBufLen)
      (fun r w' => r = (T.read target (capId sub) [] capBufLen w.net).1 ∧
        w' = ⟨(T.read target (capId sub) [] capBufLen w.net).2, w.log ++ [.read target (capId sub) []
          capBufLen (T.read target (capId sub) [] capBufLen w.net).1]⟩) w := ⟨rfl, rfl⟩
  have hrun : readOneSub T target sub out w
      = (decoded out sub (T.read target (capId sub) [] capBufLen w.net).1,
        ⟨(T.read target (capId sub) [] capBufLen w.net).2, w.log ++ [.read target (capId sub) []
          capBufLen (T.read target (capId sub) [] capBufLen w.net).1]⟩) := by
    apply run_of_wp
    unfold readOneSub
    rw [wp_bind]
    refine wp_mono hread ?_
    rintro r w' ⟨rfl, rfl⟩
    generalize (T.read target (capId sub) [] capBufLen w.net).1 = answer
    unfold decoded
    split
    · exact ⟨rfl, rfl⟩
    · exact ⟨rfl, rfl⟩
    · split <;> exact ⟨rfl, rfl⟩
  unfold wp
  rw [hrun]

/-! ## What a call leaves -/

/-- Sub-index 08h was answered with these two bytes. -/
def Answered (target : UInt16) (events : List ClientEvent) (mechanisms : UInt16) : Prop :=
  ∃ buf, .read target (capId 0x08) [] capBufLen (.ok buf) ∈ events ∧ buf.length = 2 ∧
    mechanisms = getU16le buf

/-- A part of a call: reads of the descriptor, so many at most, and mechanisms that were in
    the record before or that one of these reads filled in. -/
def Trail (target : UInt16) (before after : Caps) (w w' : ClientWorld N) (most : Nat) : Prop :=
  ∃ events, w'.log = w.log ++ events ∧ events.length ≤ most ∧
    (∀ e ∈ events, ∃ sub r, e = .read target (capId sub) [] capBufLen r) ∧
    (after.mechanisms = before.mechanisms ∨ Answered target events after.mechanisms)

theorem Trail.refl {target : UInt16} {c : Caps} {w : ClientWorld N} {most : Nat} :
    Trail target c c w w most :=
  ⟨[], (List.append_nil _).symm, Nat.zero_le _, fun _ h => (nomatch h), .inl rfl⟩

theorem Trail.trans {target : UInt16} {c₁ c₂ c₃ : Caps} {w₁ w₂ w₃ : ClientWorld N} {m n : Nat}
    (h : Trail target c₁ c₂ w₁ w₂ m) (h' : Trail target c₂ c₃ w₂ w₃ n) :
    Trail target c₁ c₃ w₁ w₃ (m + n) := by
  obtain ⟨events, hlog, hlen, hreads, hmech⟩ := h
  obtain ⟨events', hlog', hlen', hreads', hmech'⟩ := h'
  refine ⟨events ++ events', by rw [hlog', hlog, List.append_assoc], ?_, ?_, ?_⟩
  · rw [List.length_append]
    omega
  · intro e he
    obtain he | he := List.mem_append.mp he
    · exact hreads e he
    · exact hreads' e he
  · obtain hsame | ⟨buf, hbuf, hfields⟩ := hmech'
    · rw [hsame]
      obtain hold | ⟨buf, hbuf, hfields⟩ := hmech
      · exact .inl hold
      · exact .inr ⟨buf, List.mem_append_left _ hbuf, hfields⟩
    · exact .inr ⟨buf, List.mem_append_right _ hbuf, hfields⟩

theorem Trail.weaken {target : UInt16} {c c' : Caps} {w w' : ClientWorld N} {m n : Nat}
    (h : Trail target c c' w w' m) (hle : m ≤ n) : Trail target c c' w w' n := by
  obtain ⟨events, hlog, hlen, hreads, hmech⟩ := h
  exact ⟨events, hlog, hlen.trans hle, hreads, hmech⟩

/-- One read is such a part, and only sub-index 00h moves the bound of the loop. -/
theorem decoded_trail {T : Transport N} (target : UInt16) (sub : UInt8) (out : Caps)
    (w : ClientWorld N) :
    let answer := (T.read target (capId sub) [] capBufLen w.net).1
    Trail target out (decoded out sub answer).2 w
        ⟨(T.read target (capId sub) [] capBufLen w.net).2,
          w.log ++ [.read target (capId sub) [] capBufLen answer]⟩ 1 ∧
      (sub ≠ 0x00 → (decoded out sub answer).2.highestSub = out.highestSub) := by
  intro answer
  have hkept : ∀ c : Caps, c.mechanisms = out.mechanisms ∨
      Answered target [.read target (capId sub) [] capBufLen answer] c.mechanisms →
      Trail target out c w ⟨(T.read target (capId sub) [] capBufLen w.net).2,
        w.log ++ [.read target (capId sub) [] capBufLen answer]⟩ 1 := fun c hc =>
    ⟨_, rfl, Nat.le_refl 1, fun e he => ⟨sub, answer, List.mem_singleton.mp he⟩, hc⟩
  cases hanswer : answer with
  | error e =>
      have hsame : (decoded out sub (.error e)).2 = out := by
        unfold decoded
        split <;> first | rfl | contradiction
      rw [hsame, ← hanswer]
      exact ⟨hkept out (.inl rfl), fun _ => rfl⟩
  | ok buf =>
      cases hsub : deserializeSub out sub buf with
      | none =>
          have hsame : (decoded out sub (.ok buf)).2 = out := by
            simp only [decoded, hsub]
          rw [hsame, ← hanswer]
          exact ⟨hkept out (.inl rfl), fun _ => rfl⟩
      | some c =>
          have hfilled : (decoded out sub (.ok buf)).2 = c := by
            simp only [decoded, hsub]
          obtain ⟨hhigh, hother, hmech⟩ := deserializeSub_keeps hsub
          rw [hfilled, ← hanswer]
          refine ⟨hkept c ?_, hhigh⟩
          by_cases h8 : sub = 0x08
          · subst h8
            obtain ⟨hlen, hvalue⟩ := hmech rfl
            exact .inr ⟨buf, List.mem_singleton.mpr (by rw [hanswer]), hlen, hvalue⟩
          · exact .inl (hother h8)

/-- **The loop ends**, within the reads that the bound leaves. -/
theorem readSubs_spec (T : Transport N) (target : UInt16) (rounds : Nat) (sub : UInt8)
    (out : Caps) (w : ClientWorld N) (hsub : 1 ≤ sub.toNat) (hlast : sub.toNat ≤ 9)
    (hmax : out.highestSub ≤ capSubMax) (hrounds : 9 < rounds + sub.toNat) :
    wp (readSubs T target rounds sub out) (fun r w' => ∃ rc out', r = some (rc, out') ∧
      Trail target out out' w w' (9 - sub.toNat)) w := by
  -- the rounds left and the sub-index add up to more than the last sub-index
  induction rounds generalizing sub out w with
  | zero => omega
  | succ rounds ih =>
      unfold readSubs
      rw [wp_ite]
      refine ⟨fun hle => ?_, fun _ => ⟨0, out, rfl, .refl⟩⟩
      have hle' : sub.toNat ≤ 8 :=
        UInt8.le_iff_toNat_le.mp (UInt8.le_trans hle hmax)
      have hnext : (sub + 1).toNat = sub.toNat + 1 := by
        rw [UInt8.toNat_add]
        show (sub.toNat + 1) % 256 = sub.toNat + 1
        omega
      have hne : sub ≠ 0x00 := by
        rintro rfl
        exact absurd hsub (by decide)
      obtain ⟨htrail, hhigh⟩ := decoded_trail (T := T) target sub out w
      rw [wp_bind, wp_readOneSub]
      generalize decoded out sub (T.read target (capId sub) [] capBufLen w.net).1 = step
        at htrail hhigh
      obtain ⟨rc, next⟩ := step
      simp only [wp_ite]
      refine ⟨fun _ => ⟨rc, next, rfl, htrail.weaken (by omega)⟩, fun _ => ?_⟩
      refine wp_mono (ih (sub + 1) next _ (by omega) (by omega) ?_ (by omega)) ?_
      · have hbound : next.highestSub = out.highestSub := hhigh hne
        rw [hbound]
        exact hmax
      · rintro r w' ⟨rc, out', rfl, hrest⟩
        exact ⟨rc, out', rfl, (htrail.trans hrest).weaken (by omega)⟩

/-- **The whole read** ends, after nine reads at most. -/
theorem readCaps_spec (T : Transport N) (target : UInt16) (out : Caps) (w : ClientWorld N) :
    wp (readCaps T target out)
      (fun r w' => ∃ rc out', r = some (rc, out') ∧ Trail target out out' w w' 9) w := by
  obtain ⟨htrail, -⟩ := decoded_trail (T := T) target 0x00 out w
  unfold readCaps
  rw [wp_bind, wp_readOneSub]
  generalize decoded out 0x00 (T.read target (capId 0x00) [] capBufLen w.net).1 = step at htrail
  obtain ⟨rc, first⟩ := step
  simp only [wp_ite]
  refine ⟨fun _ => ⟨rc, first, rfl, htrail.weaken (by decide)⟩, fun _ =>
    ⟨fun _ => ⟨1, first, rfl, htrail.weaken (by decide)⟩, fun hmax => ?_⟩⟩
  refine wp_mono (readSubs_spec T target 256 0x01 first _ (by decide) (by decide)
    (UInt8.not_lt.mp hmax) (by decide)) ?_
  rintro r w' ⟨rc, out', rfl, hrest⟩
  exact ⟨rc, out', rfl, (htrail.trans hrest).weaken (by decide)⟩

/-- **The floor** is met only by an answer of this call that advertises its mechanism. -/
theorem enforceMinSecurity_spec (T : Transport N) (target : UInt16) {floor : MinSec}
    (hfloor : floor ≠ .any) (w : ClientWorld N) :
    wp (enforceMinSecurity T target floor) (fun r w' => r = some 0 →
      ∃ events mechanisms, w'.log = w.log ++ events ∧ Answered target events mechanisms ∧
        mechanisms &&& floor.mechanism ≠ 0) w := by
  unfold enforceMinSecurity
  rw [if_neg (by simpa using hfloor), wp_bind]
  refine wp_mono (readCaps_spec T target {} w) ?_
  rintro r w' ⟨rc, caps, rfl, events, hlog, -, -, hmech⟩
  simp only [wp_ite]
  refine ⟨fun _ h => (nomatch h), fun _ => ⟨fun _ h => (nomatch h), fun hmeets _ => ?_⟩⟩
  have hmeets' : caps.mechanisms &&& floor.mechanism ≠ 0 := by
    simpa [capsMeetsMin, hfloor] using hmeets
  obtain hzero | hanswered := hmech
  · -- a record that no answer filled
    rw [hzero] at hmeets'
    exact absurd (UInt16.zero_and) hmeets'
  · exact ⟨events, _, hlog, hanswered, hmeets'⟩

/-! ## Against the server -/

/-- Loads give back what was stored. -/
theorem getU16le_put (v : UInt16) : getU16le (putU16le v) = v := putU16le_load v

theorem getU32le_put (v : UInt32) : getU32le (putU32le v) = v := putU32le_inj (putU32le_le _ _ _ _)

/-- The sub-indices there are. -/
theorem sub_cases {sub : UInt8} (h : sub ≤ capSubMax) :
    sub = 0 ∨ sub = 1 ∨ sub = 2 ∨ sub = 3 ∨ sub = 4 ∨ sub = 5 ∨ sub = 6 ∨ sub = 7 ∨ sub = 8 := by
  have hle : sub.toNat ≤ 8 := UInt8.le_iff_toNat_le.mp h
  simp only [← UInt8.toNat_inj]
  show sub.toNat = 0 ∨ sub.toNat = 1 ∨ sub.toNat = 2 ∨ sub.toNat = 3 ∨ sub.toNat = 4 ∨
    sub.toNat = 5 ∨ sub.toNat = 6 ∨ sub.toNat = 7 ∨ sub.toNat = 8
  omega

/-- A record with the field of one sub-index taken from another. -/
def Caps.fill (out c : Caps) (sub : UInt8) : Caps :=
  match sub with
  | 0x00 => { out with highestSub := c.highestSub }
  | 0x01 => { out with typeWord := c.typeWord }
  | 0x02 => { out with aeadAndTag := c.aeadAndTag }
  | 0x03 => { out with kdf := c.kdf }
  | 0x04 => { out with sigAlg := c.sigAlg }
  | 0x05 => { out with symLevels := c.symLevels }
  | 0x06 => { out with idFlags := c.idFlags }
  | 0x07 => { out with handoverModel := c.handoverModel }
  | 0x08 => { out with mechanisms := c.mechanisms }
  | _ => out

/-- **Round trip of a sub-index**: what the server stores, the tool loads. -/
theorem deserialize_serialize (c out : Caps) {sub : UInt8} (h : sub ≤ capSubMax) :
    deserializeSub out sub (serializeSub c sub 4) = some (out.fill c sub) := by
  obtain rfl | rfl | rfl | rfl | rfl | rfl | rfl | rfl | rfl := sub_cases h
  · rfl
  · show some { out with typeWord := getU32le (putU32le c.typeWord) } = _
    rw [getU32le_put]
    rfl
  · show some { out with aeadAndTag := getU32le (putU32le c.aeadAndTag) } = _
    rw [getU32le_put]
    rfl
  · show some { out with kdf := getU16le (putU16le c.kdf) } = _
    rw [getU16le_put]
    rfl
  · show some { out with sigAlg := getU16le (putU16le c.sigAlg) } = _
    rw [getU16le_put]
    rfl
  · rfl
  · rfl
  · rfl
  · show some { out with mechanisms := getU16le (putU16le c.mechanisms) } = _
    rw [getU16le_put]
    rfl

section Server

variable {E C : Type} {gcm : Gcm} {ed : Ed25519} {plat : DevicePlatform E} {deviceId : UInt16}

/-- Past the last sub-index neither writes a byte. -/
theorem serializeSub_past (c : Caps) {sub : UInt8} (h : ¬ sub ≤ capSubMax) (outMax : Nat) :
    serializeSub c sub outMax = [] := by
  unfold serializeSub
  split
  case h_10 => rfl
  all_goals exact absurd (by decide) h

theorem capsSub_past (d : Device E) {sub : UInt8} (h : ¬ sub ≤ capSubMax) :
    capsSub d sub = [] := by
  unfold capsSub
  split
  case h_10 => rfl
  all_goals exact absurd (by decide) h

/-- The dispatcher answers with the record that `buildCaps` builds. -/
theorem capsSub_eq (d : Device E) (sub : UInt8) :
    capsSub d sub = serializeSub (buildCaps (identityFlags d.asym)) sub 4 := by
  by_cases h : sub ≤ capSubMax
  · obtain rfl | rfl | rfl | rfl | rfl | rfl | rfl | rfl | rfl := sub_cases h <;> rfl
  · rw [capsSub_past d h, serializeSub_past _ h]

theorem serve_caps (d : Device E) (client : UInt16) {sub : UInt8} (h : sub ≤ capSubMax) :
    serveRequest gcm ed plat deviceId d client (capId sub) []
      = ⟨d, [⟨client, capId sub, abortNone, capsSub d sub⟩], []⟩ := by
  obtain rfl | rfl | rfl | rfl | rfl | rfl | rfl | rfl | rfl := sub_cases h <;> rfl

theorem capsSub_short (d : Device E) (sub : UInt8) : (capsSub d sub).length ≤ capBufLen := by
  show (capsSub d sub).length ≤ 8
  unfold capsSub
  split <;> simp [putU32le, putU16le]

/-- The transport to the device. -/
abbrev capsTransport (gcm : Gcm) (ed : Ed25519) (plat : DevicePlatform E)
    (deviceId clientId : UInt16) (random : C → Option Rand × C) : Transport (Channel C (Device E)) :=
  channelTransport (deviceService gcm ed plat deviceId) clientId random

variable {clientId target : UInt16} {random : C → Option Rand × C} {ch : Channel C (Device E)}

/-- The channel after so many round trips. -/
def Channel.after (ch : Channel C (Device E)) (trips : Nat) : Channel C (Device E) :=
  { ch with fates := ch.fates.drop trips }

theorem Channel.after_lossless (h : ch.Lossless) (trips : Nat) :
    (Channel.after ch trips).Lossless := fun f hf => h f (List.mem_of_mem_drop hf)

/-- One sub-index, read from the device. -/
theorem readOneSub_served (hlossless : ch.Lossless) (trips : Nat) (out : Caps) {sub : UInt8}
    (h : sub ≤ capSubMax) (log : List ClientEvent) :
    ∃ log', readOneSub (capsTransport gcm ed plat deviceId clientId random) target sub out
        ⟨Channel.after ch trips, log⟩
      = ((0, out.fill (buildCaps (identityFlags ch.server.asym)) sub),
        ⟨Channel.after ch (trips + 1), log'⟩) := by
  have hread : (capsTransport gcm ed plat deviceId clientId random).read target (capId sub) []
      capBufLen (Channel.after ch trips)
        = (.ok (capsSub ch.server sub), Channel.after ch (trips + 1)) := by
    have hanswer := @read_delivered C (Device E) (deviceService gcm ed plat deviceId) clientId
      (capId sub) [] (Channel.after ch trips) random target (capsSub ch.server sub) ch.server
      capBufLen (Channel.fate_lossless (Channel.after_lossless hlossless trips))
      (deviceService_ok (serve_caps ch.server clientId h)) (capsSub_short _ _)
    rw [hanswer]
    simp only [Channel.after, List.tail_drop]
  have hdecoded : decoded out sub (.ok (capsSub ch.server sub))
      = (0, out.fill (buildCaps (identityFlags ch.server.asym)) sub) := by
    simp only [decoded, capsSub_eq, deserialize_serialize _ out h]
  refine ⟨log ++ [.read target (capId sub) [] capBufLen (.ok (capsSub ch.server sub))],
    run_of_wp ?_⟩
  rw [wp_readOneSub, hread, hdecoded]
  exact ⟨rfl, rfl⟩

/-- The sub-indices from one on, so many of them. -/
def subsFrom (sub : UInt8) : Nat → List UInt8
  | 0 => []
  | n + 1 => sub :: subsFrom (sub + 1) n

/-- **The loop against the device** fills the rest of the record. -/
theorem readSubs_served (hlossless : ch.Lossless) (left rounds : Nat) (sub : UInt8) (trips : Nat)
    (out : Caps) (log : List ClientEvent) (hleft : sub.toNat + left = 9) (hsub : 1 ≤ sub.toNat)
    (hrounds : left < rounds) (hout : out.highestSub = capSubMax) :
    ∃ log', readSubs (capsTransport gcm ed plat deviceId clientId random) target rounds sub out
        ⟨Channel.after ch trips, log⟩
      = (some (0, (subsFrom sub left).foldl
          (Caps.fill · (buildCaps (identityFlags ch.server.asym))) out),
        ⟨Channel.after ch (trips + left), log'⟩) := by
  induction left generalizing rounds sub trips out log with
  | zero =>
      obtain ⟨rounds, rfl⟩ := Nat.exists_eq_succ_of_ne_zero (by omega : rounds ≠ 0)
      have hend : ¬ sub ≤ out.highestSub := by
        rw [hout, UInt8.le_iff_toNat_le]
        show ¬ sub.toNat ≤ 8
        omega
      refine ⟨log, ?_⟩
      unfold readSubs
      rw [if_neg hend]
      rfl
  | succ left ih =>
      obtain ⟨rounds, rfl⟩ := Nat.exists_eq_succ_of_ne_zero (by omega : rounds ≠ 0)
      have hle : sub ≤ capSubMax := by
        rw [UInt8.le_iff_toNat_le]
        show sub.toNat ≤ 8
        omega
      have hnext : (sub + 1).toNat = sub.toNat + 1 := by
        rw [UInt8.toNat_add]
        show (sub.toNat + 1) % 256 = sub.toNat + 1
        omega
      have hkept : (out.fill (buildCaps (identityFlags ch.server.asym)) sub).highestSub
          = capSubMax := by
        obtain rfl | rfl | rfl | rfl | rfl | rfl | rfl | rfl | rfl := sub_cases hle
        all_goals first | exact hout | rfl
      obtain ⟨log₁, hone⟩ := @readOneSub_served E C gcm ed plat deviceId clientId target random ch
        hlossless trips out sub hle log
      obtain ⟨log₂, hrest⟩ := ih rounds (sub + 1) (trips + 1)
        (out.fill (buildCaps (identityFlags ch.server.asym)) sub) log₁ (by omega) (by omega)
        (by omega) hkept
      refine ⟨log₂, run_of_wp ?_⟩
      unfold readSubs
      rw [if_pos (by rw [hout]; exact hle), wp_bind]
      unfold wp
      rw [hone]
      simp only [bne_self_eq_false, Bool.false_eq_true, if_false]
      rw [hrest, Nat.add_assoc, Nat.add_comm 1 left]
      exact ⟨rfl, rfl⟩

/-- **The whole read against the device** returns its record, and leaves the device. -/
theorem readCaps_served (hlossless : ch.Lossless) (out : Caps) (log : List ClientEvent) :
    let after := readCaps (capsTransport gcm ed plat deviceId clientId random) target out ⟨ch, log⟩
    after.1 = some (0, buildCaps (identityFlags ch.server.asym)) ∧
      after.2.net.server = ch.server := by
  obtain ⟨log₁, hfirst⟩ := @readOneSub_served E C gcm ed plat deviceId clientId target random ch
    hlossless 0 out 0 (by decide) log
  obtain ⟨log₂, hrest⟩ := @readSubs_served E C gcm ed plat deviceId clientId target random ch
    hlossless 8 256 0x01 1 (out.fill (buildCaps (identityFlags ch.server.asym)) 0) log₁ rfl
    (by decide) (by decide) rfl
  have hstart : Channel.after ch 0 = ch := rfl
  rw [hstart] at hfirst
  show wp (readCaps (capsTransport gcm ed plat deviceId clientId random) target out)
    (fun r w => r = some (0, buildCaps (identityFlags ch.server.asym)) ∧
      w.net.server = ch.server) ⟨ch, log⟩
  unfold readCaps
  rw [wp_bind]
  unfold wp
  rw [hfirst]
  simp only [bne_self_eq_false, Bool.false_eq_true, if_false]
  have hbound : ¬ (out.fill (buildCaps (identityFlags ch.server.asym)) 0).highestSub > capSubMax :=
    by show ¬ capSubMax > capSubMax; decide
  rw [if_neg hbound, hrest]
  exact ⟨rfl, rfl⟩

end Server

/-! ## The headline -/

/-- **The minimum-security gate fails closed.**  Over every transport the floor is met only
    by an answer of this call to sub-index 08h, of two bytes with the required mechanism; the
    read of the record ends after nine reads at most; and against the dispatcher of a device,
    in any state, it returns exactly the record that the device builds. -/
theorem min_security_fails_closed :
    (∀ (N : Type) (T : Transport N) (target : UInt16) (floor : MinSec) (w : ClientWorld N),
      floor ≠ .any → (enforceMinSecurity T target floor w).1 = some 0 →
      ∃ events buf, (enforceMinSecurity T target floor w).2.log = w.log ++ events ∧
        .read target (capId 0x08) [] capBufLen (.ok buf) ∈ events ∧ buf.length = 2 ∧
        getU16le buf &&& floor.mechanism ≠ 0) ∧
    (∀ (N : Type) (T : Transport N) (target : UInt16) (out : Caps) (w : ClientWorld N),
      ∃ rc caps events, (readCaps T target out w).1 = some (rc, caps) ∧
        (readCaps T target out w).2.log = w.log ++ events ∧ events.length ≤ 9 ∧
        ∀ e ∈ events, ∃ sub r, e = .read target (capId sub) [] capBufLen r) ∧
    (∀ (E C : Type) (gcm : Gcm) (ed : Ed25519) (plat : DevicePlatform E) (deviceId : UInt16)
      (clientId target : UInt16) (random : C → Option Rand × C) (ch : Channel C (Device E))
      (out : Caps) (log : List ClientEvent), ch.Lossless →
      (readCaps (capsTransport gcm ed plat deviceId clientId random) target out ⟨ch, log⟩).1
        = some (0, buildCaps (identityFlags ch.server.asym))) := by
  refine ⟨?_, ?_, ?_⟩
  · intro N T target floor w hfloor hmet
    obtain ⟨events, mechanisms, hlog, ⟨buf, hbuf, hlen, rfl⟩, hbit⟩ :=
      (show wp (enforceMinSecurity T target floor) _ w from
        enforceMinSecurity_spec T target hfloor w) hmet
    exact ⟨events, buf, hlog, hbuf, hlen, hbit⟩
  · intro N T target out w
    obtain ⟨rc, caps, hend, events, hlog, hlen, hreads, -⟩ :=
      (show wp (readCaps T target out) _ w from readCaps_spec T target out w)
    exact ⟨rc, caps, events, hend, hlog, hlen, hreads⟩
  · intro E C gcm ed plat deviceId clientId target random ch out log hlossless
    exact (readCaps_served hlossless out log).1

/-! ## A worked run -/

/-- The transport to the bare demo device. -/
def sampleCapsLine : Transport (Channel Unit (Device SampleEnv)) :=
  capsTransport sampleGcm sampleEd samplePlatform sampleNodeId 20 fun c => (none, c)

/-- `min_security_fails_closed` on the bare demo device: it signs, and has no certificates. -/
theorem sampleCaps_enforced :
    (enforceMinSecurity sampleCapsLine sampleNodeId .x509 ⟨⟨(), sampleBare, []⟩, []⟩).1 = some 1 ∧
      ∃ events buf, (enforceMinSecurity sampleCapsLine sampleNodeId .signed
          ⟨⟨(), sampleBare, []⟩, []⟩).2.log = [] ++ events ∧
        .read sampleNodeId (capId 0x08) [] capBufLen (.ok buf) ∈ events ∧ buf.length = 2 ∧
        getU16le buf &&& mechRpk ≠ 0 :=
  ⟨by decide +kernel, min_security_fails_closed.1 _ sampleCapsLine sampleNodeId .signed
    ⟨⟨(), sampleBare, []⟩, []⟩ (by decide) (by decide +kernel)⟩

end SofaCaps
