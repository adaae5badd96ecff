import Sofa.ClientMoves

/-! # One client and one server over a channel

    The channel carries the requests of one client to one server and the answers back,
    one at a time and in order.  It may lose the request or the answer of a round trip;
    it forges, repeats and reorders nothing.  A lost frame is a timeout for the client.

    * `channelTransport`: the client's transport over such a channel;
    * `readFlow_exec`, `writeFlow_exec`: the two flows of the client, run to the end on
      the answers they ask for;
    * **`channel_read`**, **`channel_write`**: over a channel that loses nothing, the two
      exchanges of a flow are two calls of the server. -/

namespace SofaChannel

open ByteBlock SofaConfig SofaAead SofaClient SofaClientMoves StateWp

/-! ## The channel -/

/-- What becomes of one round trip. -/
inductive Fate where
  | delivered
  | requestLost
  | replyLost
  deriving DecidableEq

/-- A server, as the channel sees it: the requester, the data id and the body in, an
    abort code or a reply out. -/
abbrev Service (D : Type) := UInt16 → UInt32 → List UInt8 → D → Except Abort (List UInt8) × D

/-- The two ends, and the fates of the round trips to come: those after the last one
    listed are delivered. -/
structure Channel (C D : Type) where
  client : C
  server : D
  fates : List Fate

variable {C D : Type}

/-- The channel loses nothing from here on. -/
def Channel.Lossless (ch : Channel C D) : Prop := ∀ f ∈ ch.fates, f = .delivered

/-- The fate of the next round trip. -/
def Channel.fate (ch : Channel C D) : Fate := ch.fates.headD .delivered

/-- The server took a request of the client. -/
def Channel.served (serve : Service D) (clientId : UInt16) (dataId : UInt32)
    (body : List UInt8) (ch : Channel C D) : Channel C D :=
  { ch with
    server := (serve clientId dataId body ch.server).2
    fates := ch.fates.tail }

/-- One round trip. -/
def Channel.carry (serve : Service D) (clientId : UInt16) (dataId : UInt32)
    (body : List UInt8) (ch : Channel C D) :
    Except SecpError (List UInt8) × Channel C D :=
  match ch.fate with
  | .requestLost => (.error .timeout, { ch with fates := ch.fates.tail })
  | .replyLost => (.error .timeout, ch.served serve clientId dataId body)
  | .delivered =>
      ((serve clientId dataId body ch.server).1.mapError .abort,
        ch.served serve clientId dataId body)

/-- What the client reads with a buffer of `cap` bytes. -/
def within (cap : Nat) : Except SecpError (List UInt8) → Except SecpError (List UInt8)
  | .ok reply => if reply.length ≤ cap then .ok reply else .error .bufsize
  | .error e => .error e

theorem within_ok {cap : Nat} {r : Except SecpError (List UInt8)} {reply : List UInt8}
    (h : within cap r = .ok reply) : r = .ok reply ∧ reply.length ≤ cap := by
  cases r with
  | error e => cases h
  | ok x =>
      simp only [within] at h
      split at h
      · rename_i hx
        cases h
        exact ⟨rfl, hx⟩
      · cases h

/-- The client's transport: every frame goes to the one server of the channel, whatever
    device it is addressed to. -/
def channelTransport (serve : Service D) (clientId : UInt16) (random : C → Option Rand × C) :
    Transport (Channel C D) where
  clientId := clientId
  random ch := ((random ch.client).1, { ch with client := (random ch.client).2 })
  read _ dataId body cap ch :=
    (within cap (ch.carry serve clientId dataId body).1, (ch.carry serve clientId dataId body).2)
  write _ dataId frame ch :=
    ((ch.carry serve clientId dataId frame).1.map fun _ => (),
      (ch.carry serve clientId dataId frame).2)
  fits _ _ _ _ _ _ h := (within_ok h).2

section Lossless

variable {serve : Service D} {clientId : UInt16} {dataId : UInt32} {body : List UInt8}
  {ch : Channel C D}

theorem Channel.fate_lossless (h : ch.Lossless) : ch.fate = .delivered := by
  unfold Channel.fate
  cases hf : ch.fates with
  | nil => rfl
  | cons f rest => exact h f (by simp [hf])

theorem Channel.lossless_tail (h : ch.Lossless) {client : C} {server : D} :
    Channel.Lossless ⟨client, server, ch.fates.tail⟩ :=
  fun f hf => h f (List.mem_of_mem_tail hf)

/-- A round trip that is not lost. -/
theorem Channel.carry_delivered (h : ch.fate = .delivered) :
    ch.carry serve clientId dataId body =
      ((serve clientId dataId body ch.server).1.mapError .abort,
        ch.served serve clientId dataId body) := by
  simp only [Channel.carry, h]

variable {random : C → Option Rand × C} {device : UInt16} {reply : List UInt8} {d : D}

/-- A frame the server takes. -/
theorem write_delivered (h : ch.fate = .delivered)
    (taken : serve clientId dataId body ch.server = (.ok reply, d)) :
    (channelTransport serve clientId random).write device dataId body ch =
      (.ok (), ⟨ch.client, d, ch.fates.tail⟩) := by
  simp only [channelTransport]
  rw [Channel.carry_delivered h]
  simp only [Channel.served, taken]
  rfl

/-- A frame the server refuses. -/
theorem write_aborted {code : Abort} (h : ch.fate = .delivered)
    (refused : serve clientId dataId body ch.server = (.error code, d)) :
    (channelTransport serve clientId random).write device dataId body ch =
      (.error (.abort code), ⟨ch.client, d, ch.fates.tail⟩) := by
  simp only [channelTransport]
  rw [Channel.carry_delivered h]
  simp only [Channel.served, refused]
  rfl

/-- A request the server answers. -/
theorem read_delivered {cap : Nat} (h : ch.fate = .delivered)
    (answered : serve clientId dataId body ch.server = (.ok reply, d))
    (fits : reply.length ≤ cap) :
    (channelTransport serve clientId random).read device dataId body cap ch =
      (.ok reply, ⟨ch.client, d, ch.fates.tail⟩) := by
  simp only [channelTransport]
  rw [Channel.carry_delivered h]
  simp only [Channel.served, answered, Except.mapError, within, if_pos fits]

end Lossless

section Lossy

variable {serve : Service D} {clientId device : UInt16} {random : C → Option Rand × C}
  {dataId : UInt32} {body : List UInt8} {ch ch' : Channel C D}

/-- The request was lost, or the server took it; and an answer is the server's. -/
theorem carry_cases (serve : Service D) (clientId : UInt16) (dataId : UInt32) (body : List UInt8)
    (ch : Channel C D) :
    ((ch.carry serve clientId dataId body).2.server = ch.server ∧
      (ch.carry serve clientId dataId body).1 = .error .timeout) ∨
    ((ch.carry serve clientId dataId body).2.server = (serve clientId dataId body ch.server).2 ∧
      ∀ reply, (ch.carry serve clientId dataId body).1 = .ok reply →
        (serve clientId dataId body ch.server).1 = .ok reply) := by
  cases hfate : ch.fate with
  | requestLost => exact .inl (by simp only [Channel.carry, hfate, and_self])
  | replyLost =>
      right
      simp only [Channel.carry, hfate]
      exact ⟨rfl, fun reply h => by cases h⟩
  | delivered =>
      right
      simp only [Channel.carry, hfate]
      refine ⟨rfl, fun reply h => ?_⟩
      cases hserve : (serve clientId dataId body ch.server).1 with
      | error e =>
          rw [hserve] at h
          cases h
      | ok x =>
          rw [hserve] at h
          cases h
          rfl

/-- A read over a channel that may lose it. -/
theorem read_cases {cap : Nat} {r : Except SecpError (List UInt8)}
    (h : (channelTransport serve clientId random).read device dataId body cap ch = (r, ch')) :
    (ch'.server = ch.server ∧ ∃ e, r = .error e) ∨
    (ch'.server = (serve clientId dataId body ch.server).2 ∧
      ∀ reply, r = .ok reply → (serve clientId dataId body ch.server).1 = .ok reply) := by
  obtain rfl : within cap (ch.carry serve clientId dataId body).1 = r := congrArg Prod.fst h
  obtain rfl : (ch.carry serve clientId dataId body).2 = ch' := congrArg Prod.snd h
  rcases carry_cases serve clientId dataId body ch with ⟨hserver, hlost⟩ | ⟨hserver, hreply⟩
  · exact .inl ⟨hserver, _, by rw [hlost]; rfl⟩
  · exact .inr ⟨hserver, fun reply hok => hreply reply (within_ok hok).1⟩

/-- A write over a channel that may lose it. -/
theorem write_cases {r : Except SecpError Unit}
    (h : (channelTransport serve clientId random).write device dataId body ch = (r, ch')) :
    (ch'.server = ch.server ∧ ∃ e, r = .error e) ∨
    (ch'.server = (serve clientId dataId body ch.server).2 ∧
      (r = .ok () → ∃ reply, (serve clientId dataId body ch.server).1 = .ok reply)) := by
  obtain rfl : ((ch.carry serve clientId dataId body).1.map fun _ => ()) = r :=
    congrArg Prod.fst h
  obtain rfl : (ch.carry serve clientId dataId body).2 = ch' := congrArg Prod.snd h
  rcases carry_cases serve clientId dataId body ch with ⟨hserver, hlost⟩ | ⟨hserver, hreply⟩
  · exact .inl ⟨hserver, _, by rw [hlost]; rfl⟩
  · refine .inr ⟨hserver, fun hok => ?_⟩
    cases hcarry : (ch.carry serve clientId dataId body).1 with
    | error e =>
        rw [hcarry] at hok
        cases hok
    | ok reply => exact ⟨reply, hreply reply hcarry⟩

end Lossy

/-! ## The client's flows, executed -/

section Flows

variable {N : Type} {gcm : Gcm} {T : Transport N} {device : UInt16} {dataId : UInt32} {key : Key}
  {kid : UInt8} {cr sr : Rand} {plain cipher : List UInt8} {tag : Tag} {n n₁ n₂ n₃ : N}

/-- The response to a read: server random, ciphertext, tag. -/
def responseFrame (sr : Rand) (cipher : List UInt8) (tag : Tag) : List UInt8 :=
  toList sr ++ cipher ++ toList tag

theorem length_responseFrame : (responseFrame sr cipher tag).length = cipher.length + 28 := by
  simp only [responseFrame, List.length_append, length_toList]
  omega

theorem slice_responseFrame : slice 12 0 (responseFrame sr cipher tag) = sr := by
  simp only [responseFrame, List.append_assoc, slice_toList_append]

theorem cipher_responseFrame :
    ((responseFrame sr cipher tag).drop 12).take cipher.length = cipher := by
  rw [responseFrame, List.append_assoc, List.drop_left' (length_toList sr), List.take_left]

theorem tag_responseFrame :
    slice 16 (12 + cipher.length) (responseFrame sr cipher tag) = tag := by
  have hfront : (toList sr ++ cipher).length = 12 + cipher.length := by
    simp
  have hslice := slice_append_right 16 (toList sr ++ cipher) (toList tag) 0
  rw [hfront, Nat.add_zero] at hslice
  rw [responseFrame, hslice, slice_toList]

/-- **A read that is answered.** -/
theorem readFlow_exec (log : List ClientEvent) {bufSize : Nat}
    (draw : T.random n = (some cr, n₁))
    (sent : T.write device dataId (kid :: toList cr) n₁ = (.ok (), n₂))
    (got : T.read device dataId [] responseBufLen n₂ = (.ok (responseFrame sr cipher tag), n₃))
    (short : cipher.length ≤ aeadMaxProtected) (fits : cipher.length ≤ bufSize)
    (opened : aeadOpen gcm (responseCall T device dataId key kid cr sr) cipher tag = some plain) :
    readFlow gcm T device dataId key kid bufSize ⟨n, log⟩
      = (.ok (plain, aeadXorNonce cr sr), ⟨n₃, log ++ [.random (some cr),
          .write device dataId (kid :: toList cr) (.ok ()),
          .read device dataId [] responseBufLen (.ok (responseFrame sr cipher tag)),
          .aeadOpen (responseCall T device dataId key kid cr sr) cipher tag (some plain)]⟩) := by
  have hlen : (responseFrame sr cipher tag).length - aeadRandSize - aeadTagSize = cipher.length := by
    show (responseFrame sr cipher tag).length - 12 - 16 = cipher.length
    rw [length_responseFrame]
    omega
  apply run_of_wp
  unfold readFlow
  simp only [wp_bind, wp_drawRandom]
  intro r net hdraw
  obtain ⟨rfl, rfl⟩ : some cr = r ∧ n₁ = net := by simpa using draw.symm.trans hdraw
  simp only [wp_bind, wp_transportWrite]
  intro r net hsent
  obtain ⟨rfl, rfl⟩ : Except.ok () = r ∧ n₂ = net := by simpa using sent.symm.trans hsent
  simp only [wp_bind, wp_transportRead]
  intro r net hgot
  obtain ⟨rfl, rfl⟩ : Except.ok (responseFrame sr cipher tag) = r ∧ n₃ = net := by
    simpa using got.symm.trans hgot
  dsimp only
  have hlong : ¬ (responseFrame sr cipher tag).length < aeadRandSize + aeadTagSize := by
    show ¬ (responseFrame sr cipher tag).length < 28
    rw [length_responseFrame]
    omega
  rw [if_neg hlong, hlen, if_neg (Nat.not_lt.mpr short), if_neg (Nat.not_lt.mpr fits),
    slice_responseFrame, cipher_responseFrame, tag_responseFrame, wp_bind, wp_clientOpen]
  intro out hout
  obtain rfl : some plain = out := opened.symm.trans hout
  simp only [wp_pure]
  exact ⟨trivial, by simp [responseCall]⟩

/-- **A write that is taken.** -/
theorem writeFlow_exec (log : List ClientEvent)
    (got : T.read device dataId [] aeadRandSize n = (.ok (toList sr), n₁))
    (draw : T.random n₁ = (some cr, n₂))
    (sealed : aeadSeal gcm (requestCall T device dataId key kid cr sr) plain = some (cipher, tag))
    (sent : T.write device dataId (requestFrame kid cr cipher tag) n₂ = (.ok (), n₃)) :
    writeFlow gcm T device dataId key kid plain ⟨n, log⟩
      = (.ok (aeadXorNonce cr sr), ⟨n₃, log ++ [
          .read device dataId [] aeadRandSize (.ok (toList sr)), .random (some cr),
          .aeadSeal (requestCall T device dataId key kid cr sr) plain (some (cipher, tag)),
          .write device dataId (requestFrame kid cr cipher tag) (.ok ())]⟩) := by
  apply run_of_wp
  unfold writeFlow
  simp only [wp_bind, wp_transportRead]
  intro r net hgot
  obtain ⟨rfl, rfl⟩ : Except.ok (toList sr) = r ∧ n₁ = net := by simpa using got.symm.trans hgot
  dsimp only
  rw [if_neg (by simp), slice_toList, wp_bind, wp_drawRandom]
  intro r net hdraw
  obtain ⟨rfl, rfl⟩ : some cr = r ∧ n₂ = net := by simpa using draw.symm.trans hdraw
  simp only [wp_bind, wp_clientSeal]
  intro out hout
  obtain rfl : some (cipher, tag) = out := sealed.symm.trans hout
  simp only [wp_bind, wp_transportWrite]
  intro r net hsent
  obtain ⟨rfl, rfl⟩ : Except.ok () = r ∧ n₃ = net := by simpa using sent.symm.trans hsent
  simp only [wp_pure]
  exact ⟨trivial, by simp [requestFrame, requestCall]⟩

theorem length_pollFrame (n : Nat) : (pollFrame n cipher tag).length = cipher.length + 17 := by
  simp only [pollFrame, List.length_append, List.length_cons, length_toList]

theorem replyCipher_pollFrame (n : Nat) : replyCipher (pollFrame n cipher tag) = cipher := by
  simp [replyCipher, pollFrame]

theorem replyTag_pollFrame (n : Nat) : replyTag (pollFrame n cipher tag) = tag := by
  have hlen : (pollFrame n cipher tag).length - 1 - aeadTagSize = cipher.length := by
    simp [pollFrame]
  have hfront : (UInt8.ofNat n :: cipher).length = 1 + cipher.length := by
    rw [List.length_cons, Nat.add_comm]
  have hslice := slice_append_right 16 (UInt8.ofNat n :: cipher) (toList tag) 0
  rw [hfront, Nat.add_zero] at hslice
  rw [replyTag, hlen, pollFrame, hslice, slice_toList]

/-- **A read poll that is answered.** -/
theorem pollRead_exec {sess : Session} {plainMax : Nat} (log : List ClientEvent)
    (inUse : sess.inUse = true) (budget : sess.counter < keyUseLimit)
    (got : T.read device sess.dataId [UInt8.ofNat (sess.counter + 1)] pollReplyLen n =
      (.ok (pollFrame (sess.counter + 1) cipher tag), n₁))
    (short : cipher.length ≤ aeadMaxProtected) (fits : cipher.length ≤ plainMax)
    (opened : aeadOpen gcm (nextReadCall T device key sess) cipher tag = some plain) :
    securePollRead gcm T device key sess plainMax ⟨n, log⟩
      = ((.ok (plain, tag), { sess with counter := sess.counter + 1 }), ⟨n₁, log ++ [
          .read device sess.dataId [UInt8.ofNat (sess.counter + 1)] pollReplyLen
            (.ok (pollFrame (sess.counter + 1) cipher tag)),
          .aeadOpen (nextReadCall T device key sess) cipher tag (some plain)]⟩) := by
  have hlong : ¬ (pollFrame (sess.counter + 1) cipher tag).length < 1 + aeadTagSize := by
    show ¬ (pollFrame (sess.counter + 1) cipher tag).length < 17
    rw [length_pollFrame]
    omega
  have hlen : (pollFrame (sess.counter + 1) cipher tag).length - 1 - aeadTagSize =
      cipher.length := by
    show (pollFrame (sess.counter + 1) cipher tag).length - 1 - 16 = cipher.length
    rw [length_pollFrame]
    omega
  have hcipher : ((pollFrame (sess.counter + 1) cipher tag).drop 1).take cipher.length =
      cipher := by
    rw [← hlen]
    exact replyCipher_pollFrame _
  have htag : slice 16 (1 + cipher.length) (pollFrame (sess.counter + 1) cipher tag) = tag := by
    rw [← hlen]
    exact replyTag_pollFrame _
  apply run_of_wp
  unfold securePollRead
  rw [if_neg (by simp [inUse]), if_neg (Nat.not_le.mpr budget)]
  dsimp only
  rw [wp_bind, wp_transportRead]
  intro r net hgot
  obtain ⟨rfl, rfl⟩ : Except.ok (pollFrame (sess.counter + 1) cipher tag) = r ∧ n₁ = net := by
    simpa using got.symm.trans hgot
  dsimp only
  rw [if_neg hlong, if_neg (by simp [pollFrame]), hlen, if_neg (Nat.not_lt.mpr short),
    if_neg (Nat.not_lt.mpr fits), hcipher, htag, wp_bind, wp_clientOpen]
  intro out hout
  obtain rfl : some plain = out := opened.symm.trans hout
  simp only [wp_pure]
  exact ⟨trivial, by simp [nextReadCall]⟩

/-- **A write poll that is taken.** -/
theorem pollWrite_exec {sess : Session} (log : List ClientEvent)
    (reached : reachesSeal sess plain = true)
    (sealed : aeadSeal gcm (nextWriteCall T device key sess) plain = some (cipher, tag))
    (sent : T.write device sess.dataId (pollFrame (sess.counter + 1) cipher tag) n =
      (.ok (), n₁)) :
    securePollWrite gcm T device key sess plain ⟨n, log⟩
      = ((.ok tag, { sess with counter := sess.counter + 1 }), ⟨n₁, log ++ [
          .aeadSeal (nextWriteCall T device key sess) plain (some (cipher, tag)),
          .write device sess.dataId (pollFrame (sess.counter + 1) cipher tag) (.ok ())]⟩) := by
  simp only [reachesSeal, Bool.and_eq_true, decide_eq_true_eq] at reached
  obtain ⟨⟨⟨inUse, some_data⟩, short⟩, budget⟩ := reached
  have hsize : ¬ (plain.length == 0 || decide (plain.length > aeadMaxProtected)) = true := by
    have hempty : (plain.length == 0) = false := by
      simp only [beq_eq_false_iff_ne]
      omega
    simpa [hempty] using short
  apply run_of_wp
  unfold securePollWrite
  rw [if_neg (by simp [inUse]), if_neg hsize, if_neg (Nat.not_le.mpr budget)]
  dsimp only
  rw [wp_bind, wp_clientSeal]
  intro out hout
  obtain rfl : some (cipher, tag) = out := sealed.symm.trans hout
  simp only [wp_bind, wp_transportWrite]
  intro r net hsent
  obtain ⟨rfl, rfl⟩ : Except.ok () = r ∧ n₁ = net := by simpa using sent.symm.trans hsent
  simp only [wp_pure]
  exact ⟨trivial, by simp [nextWriteCall, pollFrame]⟩

end Flows

/-! ## Whole calls over a channel that loses nothing -/

section Calls

variable {gcm : Gcm} {serve : Service D} {clientId device : UInt16} {random : C → Option Rand × C}
  {dataId : UInt32} {key : Key} {keyId : UInt8} {cr sr : Rand} {plain cipher : List UInt8} {tag : Tag}
  {ch : Channel C D} {c : C} {d₁ d₂ : D}

/-- **A read**, as two calls of the server. -/
theorem channel_read (log : List ClientEvent) {taken : List UInt8} {bufSize : Nat}
    (lossless : ch.Lossless)
    (accepted : keyidRefused keyId = false) (draw : random ch.client = (some cr, c))
    (challenge : serve clientId dataId (keyId :: toList cr) ch.server = (.ok taken, d₁))
    (fetch : serve clientId dataId [] d₁ = (.ok (responseFrame sr cipher tag), d₂))
    (short : cipher.length ≤ aeadMaxProtected) (fits : cipher.length ≤ bufSize)
    (opened : aeadOpen gcm (responseCall (channelTransport serve clientId random) device dataId key
      keyId cr sr) cipher tag = some plain) :
    (secureRead gcm (channelTransport serve clientId random) device dataId key keyId bufSize
        ⟨ch, log⟩).1 = .ok plain ∧
      (secureRead gcm (channelTransport serve clientId random) device dataId key keyId bufSize
        ⟨ch, log⟩).2.net = ⟨c, d₂, ch.fates.tail.tail⟩ := by
  have hdraw : (channelTransport serve clientId random).random ch =
      (some cr, { ch with client := c }) := by
    simp only [channelTransport, draw]
  have hsent : (channelTransport serve clientId random).write device dataId (keyId :: toList cr)
      { ch with client := c } = (.ok (), ⟨c, d₁, ch.fates.tail⟩) :=
    write_delivered (Channel.fate_lossless lossless) challenge
  have hgot : (channelTransport serve clientId random).read device dataId [] responseBufLen
      ⟨c, d₁, ch.fates.tail⟩ =
        (.ok (responseFrame sr cipher tag), ⟨c, d₂, ch.fates.tail.tail⟩) := by
    have hcap : (responseFrame sr cipher tag).length ≤ responseBufLen := by
      show (responseFrame sr cipher tag).length ≤ 60
      rw [length_responseFrame]
      exact Nat.add_le_add_right short 28
    exact read_delivered (Channel.fate_lossless (Channel.lossless_tail lossless)) fetch hcap
  have hflow := readFlow_exec log hdraw hsent hgot short fits opened
  have hrun : secureRead gcm (channelTransport serve clientId random) device dataId key keyId bufSize
      ⟨ch, log⟩ = (.ok plain, (readFlow gcm (channelTransport serve clientId random) device dataId
        key keyId bufSize ⟨ch, log⟩).2) := by
    apply run_of_wp
    unfold secureRead
    rw [if_neg (by simp [accepted]), wp_bind]
    unfold wp
    rw [hflow]
    exact ⟨rfl, rfl⟩
  rw [hrun, hflow]
  exact ⟨rfl, rfl⟩

/-- **A write**, as two calls of the server. -/
theorem channel_write (log : List ClientEvent) {done : List UInt8} (lossless : ch.Lossless)
    (accepted : keyidRefused keyId = false) (some_data : 1 ≤ plain.length)
    (short : plain.length ≤ aeadMaxProtected) (draw : random ch.client = (some cr, c))
    (challenge : serve clientId dataId [] ch.server = (.ok (toList sr), d₁))
    (sealed : aeadSeal gcm (requestCall (channelTransport serve clientId random) device dataId key
      keyId cr sr) plain = some (cipher, tag))
    (taken : serve clientId dataId (requestFrame keyId cr cipher tag) d₁ = (.ok done, d₂)) :
    (secureWrite gcm (channelTransport serve clientId random) device dataId key keyId plain
        ⟨ch, log⟩).1 = .ok () ∧
      (secureWrite gcm (channelTransport serve clientId random) device dataId key keyId plain
        ⟨ch, log⟩).2.net = ⟨c, d₂, ch.fates.tail.tail⟩ := by
  have hgot : (channelTransport serve clientId random).read device dataId [] aeadRandSize ch =
      (.ok (toList sr), ⟨ch.client, d₁, ch.fates.tail⟩) :=
    read_delivered (Channel.fate_lossless lossless) challenge (by simp)
  have hdraw : (channelTransport serve clientId random).random ⟨ch.client, d₁, ch.fates.tail⟩ =
      (some cr, ⟨c, d₁, ch.fates.tail⟩) := by
    simp only [channelTransport, draw]
  have hsent : (channelTransport serve clientId random).write device dataId
      (requestFrame keyId cr cipher tag) ⟨c, d₁, ch.fates.tail⟩ =
        (.ok (), ⟨c, d₂, ch.fates.tail.tail⟩) :=
    write_delivered (Channel.fate_lossless (Channel.lossless_tail lossless)) taken
  have hflow := writeFlow_exec log hgot hdraw sealed hsent
  have hrun : secureWrite gcm (channelTransport serve clientId random) device dataId key keyId plain
      ⟨ch, log⟩ = (.ok (), (writeFlow gcm (channelTransport serve clientId random) device dataId
        key keyId plain ⟨ch, log⟩).2) := by
    have hempty : (plain.length == 0) = false := by
      simp only [beq_eq_false_iff_ne]
      omega
    apply run_of_wp
    unfold secureWrite
    rw [if_neg (by simp [accepted]), if_neg (by simpa [hempty] using short), wp_bind]
    unfold wp
    rw [hflow]
    exact ⟨rfl, rfl⟩
  rw [hrun, hflow]
  exact ⟨rfl, rfl⟩

end Calls

end SofaChannel
