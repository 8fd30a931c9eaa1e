import Wifu.SendSteps

/-!
# Draining the queue

What the next protocol event does to the mode of the sending side.  A packet that leaves gets the sequence number
`snd_nxt` of the reliability context, so the queue and that context move together.
-/

namespace Wifu

section

variable {v : ProtocolEvent} {vs : List ProtocolEvent} {n c : Nat}

theorem waiting_cons (v : ProtocolEvent) (vs : List ProtocolEvent) :
    waiting (v :: vs) = v.packet.toList ++ waiting vs := by
  unfold waiting
  cases h : v.packet <;> simp [h]

theorem resends_cons (v : ProtocolEvent) (vs : List ProtocolEvent) :
    resends (v :: vs) = resends vs + if v.isResend then 1 else 0 := List.countP_cons

/-- The event asks for no retransmission and sends no segment with content. -/
structure Inert (v : ProtocolEvent) : Prop where
  resend : v.isResend = false
  packet : ∀ p ∈ v.packet, p.IsEmpty

theorem Quiet.tail (h : Quiet (v :: vs)) : Quiet vs := fun w hw => h w (List.mem_cons_of_mem _ hw)

theorem Pending.pop {a : List UInt8} (hv : Inert v) (h : Pending a n (waiting (v :: vs)) c) :
    Pending a n (waiting vs) c := by
  rw [waiting_cons] at h
  cases hp : v.packet with
  | none => simpa [hp] using h
  | some p =>
    have he := hv.packet p hp
    rw [hp] at h
    cases h with
    | empty _ h => exact h
    | syn hs _ =>
      have := he.syn.symm.trans hs.syn
      cases this
    | data hd _ _ =>
      have := he.length
      have := hd.length
      omega

theorem OneFin.pop (hv : Inert v) (h : OneFin (waiting (v :: vs))) : OneFin (waiting vs) := by
  obtain ⟨as, p, bs, heq, hp, has, hbs⟩ := h
  rw [waiting_cons] at heq
  cases hvp : v.packet with
  | none =>
    rw [hvp] at heq
    exact ⟨as, p, bs, heq, hp, has, hbs⟩
  | some q =>
    rw [hvp] at heq
    have he := hv.packet q hvp
    cases as with
    | nil =>
      obtain ⟨rfl, -⟩ := List.cons.inj heq
      have := he.fin.symm.trans hp.fin
      cases this
    | cons a as =>
      obtain ⟨-, heq⟩ := List.cons.inj heq
      exact ⟨as, p, bs, heq, hp, fun q hq => has q (List.mem_cons_of_mem _ hq), hbs⟩

theorem OneFin.head {p : TCPPacket} {ps : List TCPPacket} (h : OneFin (p :: ps)) (hp : ¬p.IsEmpty) :
    p.IsFin ∧ ∀ r ∈ ps, r.IsEmpty := by
  obtain ⟨as, r, bs, heq, hr, has, hbs⟩ := h
  cases as with
  | nil =>
    obtain ⟨rfl, rfl⟩ := List.cons.inj heq
    exact ⟨hr, hbs⟩
  | cons a as =>
    obtain ⟨rfl, -⟩ := List.cons.inj heq
    exact absurd (has _ (List.mem_cons_self)) hp

end

namespace Endpoint

section

variable {e e' : Endpoint} {p q : TCPPacket} {vs : List ProtocolEvent} {u n m c : Nat}

/-! ### Sending a packet -/

/-- The retransmission timer runs before a segment that takes up sequence numbers leaves. -/
theorem checkAndStartTimer_ok (e : Endpoint) (p : TCPPacket) :
    ∃ t d k, e.checkAndStartTimer p = { e with
        rc := { e.rc with timeoutEvent := t }, dispatched := e.dispatched ++ d, nextTimer := k } ∧
      (∀ f ∈ d, f.Silent) ∧ (t.isSome = true → e.rc.timeoutEvent.isSome = true ∨ ¬p.IsEmpty) ∧
      (e.TimersOk → (e.checkAndStartTimer p).TimersOk) := by
  have hstay : e = { e with
      rc := { e.rc with timeoutEvent := e.rc.timeoutEvent }
      dispatched := e.dispatched ++ []
      nextTimer := e.nextTimer } := by
    rw [List.append_nil]
  unfold checkAndStartTimer
  split
  · rename_i hp
    have hp : ¬p.IsEmpty := by
      rintro ⟨hs, hf, hl⟩
      simp [hs, hf, hl] at hp
    unfold startTimer
    split
    · exact ⟨_, _, _, hstay, by simp, .inl, fun h => h⟩
    · refine ⟨_, _, _, rfl, ?_, fun _ => .inr hp, fun h => ⟨?_, ?_, ?_⟩⟩
      · simp [FrameworkEvent.Silent, FrameworkEvent.accepted, FrameworkEvent.sent]
      · intro t ht
        cases ht
        exact Nat.lt_succ_self _
      · exact fun t ht => Nat.lt_succ_of_lt (h.probeTimer t ht)
      · intro t ht hprobe
        cases ht
        exact Nat.lt_irrefl _ (h.probeTimer _ hprobe)
  · exact ⟨_, _, _, hstay, by simp, .inl, fun h => h⟩

/-- `e'` has sent `p`, which left as `q`. -/
structure PacketSent (e e' : Endpoint) (p q : TCPPacket) : Prop where
  number : q.sequenceNumber = (setSequenceNumber e.rc p).1.sequenceNumber
  syn : q.syn = p.syn
  fin : q.fin = p.fin
  length : q.dataLengthBytes = p.dataLengthBytes
  data : q.data = p.data
  snd : e'.rc.snd = (setSequenceNumber e.rc p).2.snd
  initialized : e'.rc.initialized = true
  cccSnd : e'.ccc.snd = (e.congestionSendPacket p).ccc.snd
  sendBuffer : appendControlBytes e.socket.sendBuffer p = .ok e'.socket.sendBuffer
  id : e'.socket.id = e.socket.id
  state : e'.cmc.state = e.cmc.state
  savedSendEvent : e'.savedSendEvent = e.savedSendEvent
  deleted : e'.deleted = e.deleted
  queue : e'.queue = e.queue
  dispatched : ∃ d, e'.dispatched = e.dispatched ++ d ++ [.networkSendPacket q] ∧ ∀ f ∈ d, f.Silent
  timer : e'.rc.timeoutEvent.isSome = true → e.rc.timeoutEvent.isSome = true ∨ ¬p.IsEmpty
  timers : e.TimersOk → e'.TimersOk

theorem sendPacket_ok (h : e.sendPacket p = .ok e') : ∃ q, PacketSent e e' p q := by
  unfold sendPacket reliabilitySendPacket at h
  simp only at h
  obtain ⟨⟨q, e₁⟩, h₁, h⟩ := bind_eq_ok.1 h
  obtain ⟨b, h₂, h₁⟩ := bind_eq_ok.1 h₁
  obtain ⟨q', h₃, h₁⟩ := bind_eq_ok.1 h₁
  cases h₁
  cases h
  generalize hnum : setSequenceNumber e.rc p = r at h₂ h₃ ⊢
  obtain ⟨p', rc⟩ := r
  have hp' : p'.syn = p.syn ∧ p'.fin = p.fin ∧ p'.data = p.data ∧ p'.dataLengthBytes = p.dataLengthBytes ∧
      rc.initialized = true ∧ rc.timeoutEvent = e.rc.timeoutEvent := by
    unfold setSequenceNumber at hnum
    split at hnum
    · cases hnum
      exact ⟨rfl, rfl, rfl, rfl, rfl, rfl⟩
    · rename_i hi
      cases hnum
      exact ⟨rfl, rfl, rfl, rfl, by simpa using hi, rfl⟩
  obtain ⟨hsyn, hfin, hdata, hlen, hinit, htimer⟩ := hp'
  obtain ⟨t, d, k, heq, hd, ht, htimers⟩ :=
    checkAndStartTimer_ok { e with rc := rc } (setAckNumberAndBit rc p')
  have hq' : q'.sequenceNumber = p'.sequenceNumber ∧ q'.syn = p'.syn ∧ q'.fin = p'.fin ∧ q'.data = p'.data ∧
      q'.dataLengthBytes = p'.dataLengthBytes := by
    unfold insertTimestamp at h₃
    split at h₃
    · cases h₃
    · cases h₃
      exact ⟨rfl, rfl, rfl, rfl, rfl⟩
  have hbuf : appendControlBytes e.socket.sendBuffer p = .ok b := by
    rw [heq] at h₂
    unfold appendControlBytes at h₂ ⊢
    rw [← hsyn, ← hfin]
    exact h₂
  refine ⟨setReceiveWindowSize (({ e with rc := rc } : Endpoint).checkAndStartTimer (setAckNumberAndBit rc p')).rc q',
    ?_⟩
  rw [heq] at htimers ⊢
  exact {
    number := by rw [hnum]; exact hq'.1
    syn := hq'.2.1.trans hsyn
    fin := hq'.2.2.1.trans hfin
    length := hq'.2.2.2.2.trans hlen
    data := hq'.2.2.2.1.trans hdata
    snd := by rw [hnum]; rfl
    initialized := hinit
    cccSnd := by
      simp only [congestionSendPacket, setReceiveWindowSize, dispatch, hq'.2.1.trans hsyn, hq'.2.2.1.trans hfin]
    sendBuffer := hbuf
    id := rfl
    state := rfl
    savedSendEvent := rfl
    deleted := rfl
    queue := rfl
    dispatched := ⟨d, rfl, hd⟩
    timer := by
      intro h
      rcases ht h with h | h
      · rw [← htimer]
        exact .inl h
      · refine .inr fun hp => h ⟨?_, ?_, ?_⟩
        · exact hsyn.trans hp.syn
        · exact hfin.trans hp.fin
        · exact hlen.trans hp.length
    timers := by
      intro h
      have h' := htimers ⟨by rw [htimer]; exact h.1, h.2, by rw [htimer]; exact h.3⟩
      exact ⟨h'.1, h'.2, h'.3⟩ }

/-! ### Taking an event off the queue -/

section Pop

variable {v : ProtocolEvent} {strict : Prop}

theorem SendBase.pop (hb : e.SendBase) (hq : e.queue = v :: vs) (hv : v.kind ≠ .deleteSocket) :
    SendBase { e with queue := vs } := by
  refine ⟨hb.initialized, hb.deleted, hb.sent, hb.buffer_le, hb.timer, ⟨hb.timers.1, hb.timers.2, hb.timers.3⟩,
    hb.early, hb.saved, fun w hw => hb.queue w (hq ▸ List.mem_cons_of_mem _ hw), fun h => ?_⟩
  have hmem := hb.closed h
  rw [hq] at hmem
  rcases List.mem_cons.1 hmem with heq | hmem
  · rw [← heq] at hv
    exact absurd rfl hv
  · exact hmem

theorem OpenMode.pop (hm : OpenMode e u n m c) (hq : e.queue = v :: vs) (hv : Inert v) :
    OpenMode { e with queue := vs } u n m c := by
  refine ⟨hm.rc, hm.ccc, hm.order, hm.buffer, ?_, ?_, ?_, hm.state, hm.finSent⟩
  · have := hm.pending
    rw [hq] at this
    exact this.pop hv
  · have := hm.resends
    rw [hq, resends_cons, hv.resend] at this
    exact this
  · rintro ⟨p, hp, hs⟩
    have hmem : p ∈ waiting e.queue := by
      rw [hq, waiting_cons]
      exact List.mem_append_right _ hp
    have := hm.quiet ⟨p, hmem, hs⟩
    rw [hq] at this
    exact this.tail

/-- The mode stays when an inert event leaves the queue. -/
theorem SendMode.pop (hm : SendMode strict e) (hq : e.queue = v :: vs) (hv : Inert v) :
    SendMode strict { e with queue := vs } := by
  have hres : resends e.queue = resends vs := by
    rw [hq, resends_cons, hv.resend]
    rfl
  have hsub : ∀ p ∈ waiting vs, p ∈ waiting e.queue := by
    rw [hq, waiting_cons]
    exact fun p hp => List.mem_append_right _ hp
  cases hm with
  | sending u n m c hm => exact .sending u n m c (hm.pop hq hv)
  | resending u m c hm =>
    refine .resending u m c ⟨hm.rc, hm.ccc, hm.order, hm.buffer, fun p hp => hm.empty p (hsub p hp),
      hres ▸ hm.resends, ?_, hm.state, hm.finSent⟩
    have := hm.quiet
    rw [hq] at this
    exact this.tail
  | finWaiting hm =>
    refine .finWaiting ⟨hm.rc, hm.ccc, hm.buffer, hm.savedSendEvent, ?_, hres ▸ hm.resends, hm.state, hm.finSent⟩
    have := hm.fin
    rw [hq] at this
    exact this.pop hv
  | finSent u n c k hm =>
    refine .finSent u n c k ⟨hm.rc, hm.ccc, hm.buffer, hm.order, hm.once, hm.savedSendEvent, ?_, hm.state, hm.finSent⟩
    have := hm.queue
    rw [hres] at this
    rcases this with ⟨hr, he, hn⟩ | ⟨hr, he, hn⟩ | ⟨hr, hf, hn⟩
    · exact .inl ⟨hr, fun p hp => he p (hsub p hp), hn⟩
    · exact .inr (.inl ⟨hr, fun p hp => he p (hsub p hp), hn⟩)
    · rw [hq] at hf
      exact .inr (.inr ⟨hr, hf.pop hv, hn⟩)

end Pop

/-! ### Segments without content -/

theorem setSequenceNumber_initialized {rc : TCPTahoeReliabilityContext} (h : rc.initialized = true) (p : TCPPacket) :
    setSequenceNumber rc p = ({ p with sequenceNumber := rc.snd.sndNxt },
      { rc with snd := rc.snd.setSndNxt (rc.snd.sndNxt + p.sequenceLength) }) := by
  unfold setSequenceNumber
  rw [h]
  rfl

theorem appendControlBytes_plain {b : List UInt8} (hs : p.syn = false) (hf : p.fin = false) :
    appendControlBytes b p = .ok b := by
  unfold appendControlBytes
  simp [hs, hf]

/-- A segment without content changes nothing on the sending side. -/
theorem PacketSent.frame (hs : PacketSent e e' p q) (hp : p.IsEmpty) (hi : e.rc.initialized = true)
    (hsnd : e.rc.snd.setSndNxt e.rc.snd.sndNxt = e.rc.snd) : SendFrame e e' where
  snd := by
    rw [hs.snd, setSequenceNumber_initialized hi, hp.sequenceLength]
    simpa using hsnd
  initialized := hs.initialized.trans hi.symm
  cccSnd := by
    rw [hs.cccSnd]
    simp [congestionSendPacket, hp.syn, hp.fin]
  sendBuffer := by
    have := hs.sendBuffer
    rw [appendControlBytes_plain hp.syn hp.fin] at this
    exact (Except.ok.inj this).symm
  savedSendEvent := hs.savedSendEvent
  id := hs.id
  deleted := hs.deleted
  timer := fun h => (hs.timer h).elim .inl fun h => absurd hp h
  timers := hs.timers
  queue := ⟨[], by rw [hs.queue, List.append_nil], by simp, by rw [hs.state]; exact .inl⟩
  dispatched := by
    obtain ⟨d, hd, hsilent⟩ := hs.dispatched
    refine ⟨d ++ [.networkSendPacket q], by rw [hd, List.append_assoc], fun f hf => ?_⟩
    rcases List.mem_append.1 hf with hf | hf
    · exact hsilent f hf
    · rw [List.mem_singleton.1 hf]
      refine ⟨rfl, fun p' hp' => ?_⟩
      cases hp'
      exact ⟨hs.syn.trans hp.syn, hs.fin.trans hp.fin, hs.length.trans hp.length⟩
  stateOpen := by rw [hs.state]; exact fun h => h
  stateClosing := by rw [hs.state]; exact fun h => h
  early := by rw [hs.state]; exact fun h => h

/-! ### Segments with content -/

theorem PacketSent.accepted (hs : PacketSent e e' p q) : e'.accepted = e.accepted := by
  obtain ⟨d, hd, hsilent⟩ := hs.dispatched
  unfold Endpoint.accepted
  rw [hd, acceptedBytes_append, acceptedBytes_silent hsilent]
  exact List.append_nil _

theorem PacketSent.sent (hs : PacketSent e e' p q) {r : TCPPacket} (hr : r ∈ sentPackets e'.dispatched) :
    r ∈ sentPackets e.dispatched ∨ r.IsEmpty ∨ r = q := by
  obtain ⟨d, hd, hsilent⟩ := hs.dispatched
  rw [hd, sentPackets_append, sentPackets_append, List.mem_append, List.mem_append] at hr
  rcases hr with (hr | hr) | hr
  · exact .inl hr
  · exact .inr (.inl (sentPackets_silent hsilent r hr))
  · exact .inr (.inr (List.mem_singleton.1 hr))

theorem PacketSent.finSent (hs : PacketSent e e' p q) :
    Wifu.finSent e'.dispatched = (Wifu.finSent e.dispatched || p.fin) := by
  obtain ⟨d, hd, hsilent⟩ := hs.dispatched
  have h := finSent_silent (d := e.dispatched) hsilent
  unfold Wifu.finSent at h ⊢
  rw [hd, sentPackets_append, List.any_append, h, ← hs.fin]
  simp [sentPackets, FrameworkEvent.sent]

/-- A segment whose number fits what it carries has been sent. -/
theorem PacketSent.base (hs : PacketSent e e' p q) (hb : e.SendBase) (hok : SentOk e.accepted q)
    (hlen : e'.socket.sendBuffer.length ≤ tcpSocketMaxBufferSize) (hbuf : e'.socket.sendBuffer ≠ []) :
    e'.SendBase := by
  refine ⟨hs.initialized, hs.deleted.trans hb.deleted, ?_, hlen, fun _ => hbuf, hs.timers hb.timers, ?_, ?_, ?_, ?_⟩
  · rw [hs.accepted]
    intro r hr
    rcases hs.sent hr with hr | hr | rfl
    · exact hb.sent r hr
    · exact .of_isEmpty hr
    · exact hok
  · rw [hs.accepted, hs.state]
    exact hb.early
  · rw [hs.savedSendEvent, hs.state]
    exact hb.saved
  · rw [hs.queue, hs.id]
    exact hb.queue
  · rw [hs.queue, hs.id, hs.state]
    exact hb.closed

/-- The next segment with content takes the positions from `n` on. -/
theorem OpenMode.sendContent {ps : List TCPPacket} (hb : e.SendBase) (hs : PacketSent e e' p q)
    (hrc : SndAt e.rc.snd u n m) (hccc : SndAt e.ccc.snd u c (max m c))
    (hbuf : e.socket.sendBuffer = (synByte :: e.accepted).drop u)
    (hle : u ≤ n ∧ n ≤ m ∧ m ≤ 1 + e.accepted.length ∧ 1 ≤ c)
    (hpending : Pending e.accepted n (p :: ps) c) (hp : ¬p.IsEmpty) :
    ∃ n', n < n' ∧ n' ≤ c ∧ Pending e.accepted n' ps c ∧ SndAt e'.rc.snd u n' (max m n') ∧
      SndAt e'.ccc.snd u c (max m c) ∧ e'.socket.sendBuffer = e.socket.sendBuffer ∧ SentOk e.accepted q ∧
      p.fin = false := by
  have hbound : 1 + e.accepted.length ≤ u + tcpSocketMaxBufferSize := by
    have hl := congrArg List.length hbuf
    rw [List.length_drop, List.length_cons] at hl
    have := hb.buffer_le
    omega
  have hc := hpending.le_length (by omega)
  unfold tcpSocketMaxBufferSize at hbound
  have hsnd := hs.snd
  have hcc := hs.cccSnd
  have hnumber := hs.number
  rw [setSequenceNumber_initialized hb.initialized] at hsnd hnumber
  simp only at hsnd hnumber
  rw [hrc.sndNxt] at hsnd hnumber
  cases hpending with
  | empty he _ => exact absurd he hp
  | syn hsyn hps =>
    have hu : u = 0 := by omega
    subst hu
    have hlen : p.sequenceLength = BitVec.ofNat 32 1 := by simp [TCPPacket.sequenceLength, hsyn.syn]
    rw [hlen, seqAt_add] at hsnd
    have hctl := hs.sendBuffer
    unfold appendControlBytes at hctl
    rw [if_neg (by simp [hbuf]), if_neg (by simp [hsyn.fin])] at hctl
    refine ⟨1, by omega, by omega, .of_empty hps 1, ?_, ?_, (Except.ok.inj hctl).symm, ⟨?_, ?_, ?_⟩, hsyn.fin⟩
    · rw [hsnd]
      exact hrc.setSndNxt (by omega) (by omega)
    · rw [hcc]
      simp only [congestionSendPacket, hsyn.syn, if_true]
      have h := (hccc.setSndUna 0).setSndNxt (k := 1) (by omega) (by omega)
      rw [Nat.max_assoc, Nat.max_self] at h
      exact h
    · exact fun _ => ⟨hs.fin.trans hsyn.fin, hnumber⟩
    · intro hf
      rw [hs.fin, hsyn.fin] at hf
      cases hf
    · intro hf
      rw [hs.syn, hsyn.syn] at hf
      cases hf
  | @data k _ _ _ hd hpre hrest =>
    have hlen : p.sequenceLength = BitVec.ofNat 32 p.data.length := by
      simp [TCPPacket.sequenceLength, hd.syn, hd.fin, hd.length_data.2]
    rw [hlen, seqAt_add] at hsnd
    have hpos := hd.length_data.1
    have hle' := hrest.le
    have hctl := hs.sendBuffer
    rw [appendControlBytes_plain hd.syn hd.fin] at hctl
    refine ⟨1 + k + p.data.length, by omega, hle', hrest, ?_, ?_, (Except.ok.inj hctl).symm, ⟨?_, ?_, ?_⟩, hd.fin⟩
    · rw [hsnd]
      exact hrc.setSndNxt (by omega) (by omega)
    · rw [hcc]
      simpa [congestionSendPacket, hd.syn, hd.fin] using hccc
    · intro hf
      rw [hs.syn, hd.syn] at hf
      cases hf
    · intro hf
      rw [hs.fin, hd.fin] at hf
      cases hf
    · exact fun _ _ _ => ⟨k, hnumber, hs.data ▸ hpre⟩

theorem OpenMode.sendPacket {v : ProtocolEvent} (hb : e.SendBase) (hm : OpenMode e u n m c)
    (hq : e.queue = v :: vs) (hv : v.kind = .sendPacket p) (hp : ¬p.IsEmpty)
    (hs : PacketSent { e with queue := vs } e' p q) : e'.SendBase ∧ ∃ n' m', OpenMode e' u n' m' c := by
  have hb' := hb.pop hq (by simp [hv])
  have hw : waiting e.queue = p :: waiting vs := by
    rw [hq, waiting_cons]
    simp [ProtocolEvent.packet, hv]
  have hpending := hm.pending
  rw [hw] at hpending
  obtain ⟨n', hlt, hle, hrest, hrc, hccc, hbuf, hok, hfin⟩ :=
    OpenMode.sendContent (e := { e with queue := vs }) hb' hs hm.rc hm.ccc hm.buffer hm.order hpending hp
  have hbound := hm.bounds hb
  have hne : e'.socket.sendBuffer ≠ [] := by
    rw [← List.length_pos_iff, hbuf]
    change 0 < e.socket.sendBuffer.length
    rw [length_buffer hm]
    omega
  have hacc : e'.accepted = e.accepted := hs.accepted
  have hqueue : e'.queue = vs := hs.queue
  refine ⟨hs.base hb' hok (hbuf ▸ hb.buffer_le) hne, n', max m n', hrc, ?_, ?_, ?_, ?_, ?_, ?_, ?_, ?_⟩
  · rw [Nat.max_assoc, Nat.max_eq_right hle]
    exact hccc
  · rw [hacc]
    have := hm.order
    omega
  · rw [hbuf, hacc]
    exact hm.buffer
  · rw [hacc, hqueue]
    exact hrest
  · have := hm.resends
    rw [hq, resends_cons] at this
    rw [hqueue]
    omega
  · rw [hqueue]
    rintro ⟨r, hr, hsyn⟩
    have := hm.quiet ⟨r, by rw [hw]; exact List.mem_cons_of_mem _ hr, hsyn⟩
    rw [hq] at this
    exact this.tail
  · rw [hs.state]
    exact hm.state
  · rw [hs.finSent, hfin, Bool.or_false]
    exact hm.finSent

/-! ### The FIN -/

theorem PacketSent.fin_snd (hs : PacketSent e e' p q) (hp : p.IsFin) (hi : e.rc.initialized = true)
    (hrc : SndAt e.rc.snd u n m) {k : Nat} (hn : k = n + 1) (h₁ : k < m + 2147483648)
    (h₂ : m < k + 2147483648) : q.sequenceNumber = seqAt n ∧ SndAt e'.rc.snd u k (max m k) := by
  have hsnd := hs.snd
  have hnumber := hs.number
  rw [setSequenceNumber_initialized hi] at hsnd hnumber
  simp only at hsnd hnumber
  have hlen : p.sequenceLength = BitVec.ofNat 32 1 := by simp [TCPPacket.sequenceLength, hp.fin]
  rw [hrc.sndNxt] at hsnd hnumber
  rw [hlen, seqAt_add, ← hn] at hsnd
  rw [hsnd]
  exact ⟨hnumber, hrc.setSndNxt h₁ h₂⟩

theorem PacketSent.fin_cccSnd (hs : PacketSent e e' p q) (hp : p.IsFin) (hccc : SndAt e.ccc.snd u c m) {c' : Nat}
    (hc : c' = c + 1) (h₁ : c' < m + 2147483648) (h₂ : m < c' + 2147483648) :
    SndAt e'.ccc.snd u c' (max m c') := by
  rw [hs.cccSnd]
  simp only [congestionSendPacket, hp.syn, hp.fin, if_true, Bool.false_eq_true, if_false]
  have hnxt : e.ccc.snd.sndNxt + 1 = seqAt c' := by
    rw [hccc.sndNxt, hc, ← seqAt_add]
    rfl
  rw [hnxt]
  exact hccc.setSndNxt h₁ h₂

/-- A FIN leaves from the position after the accepted bytes; `c` is that of the congestion control before. -/
theorem PacketSent.finSentMode {strict : Prop} {ps : List TCPPacket} {m k : Nat} (hs : PacketSent e e' p q)
    (hb : e.SendBase) (hfin : OneFin (p :: ps)) (hps : waiting e.queue = ps) (hres : resends e.queue = 0)
    (hp : ¬p.IsEmpty) (hrc : SndAt e.rc.snd (1 + e.accepted.length) (1 + e.accepted.length) m)
    (hm : m = 1 + e.accepted.length ∨ m = 2 + e.accepted.length) (hccc : SndAt e.ccc.snd (1 + e.accepted.length) c k)
    (hc : 1 + e.accepted.length ≤ c ∧ c ≤ 2 + e.accepted.length ∧ c ≤ k ∧ k ≤ 3 + e.accepted.length)
    (hstrict : strict → c = 1 + e.accepted.length ∧ k = 1 + e.accepted.length)
    (hbuf : e.socket.sendBuffer = [] ∨ e.socket.sendBuffer = [finByte]) (hsaved : e.savedSendEvent = none)
    (hstate : e.cmc.state.isClosing = true) : e'.SendBase ∧ SendMode strict e' := by
  obtain ⟨hpf, hempty⟩ := hfin.head hp
  obtain ⟨hnumber, hrc'⟩ := hs.fin_snd (k := 2 + e.accepted.length) hpf hb.initialized hrc (by omega) (by omega)
    (by omega)
  have hccc' := hs.fin_cccSnd hpf hccc rfl (by omega) (by omega)
  have hbuf' : e'.socket.sendBuffer = [finByte] := by
    have := hs.sendBuffer
    rcases hbuf with hbuf | hbuf
    · simp only [appendControlBytes, hbuf, hpf.syn, hpf.fin] at this
      exact (Except.ok.inj this).symm
    · simp only [appendControlBytes, hbuf, hpf.syn, hpf.fin] at this
      exact (Except.ok.inj this).symm
  have hacc := hs.accepted
  have hok : SentOk e.accepted q := by
    refine ⟨fun h => ?_, fun _ => ⟨hs.syn.trans hpf.syn, hnumber⟩, fun _ h => ?_⟩
    · rw [hs.syn, hpf.syn] at h
      cases h
    · rw [hs.fin, hpf.fin] at h
      cases h
  rw [show max m (2 + e.accepted.length) = 2 + e.accepted.length by omega] at hrc'
  refine ⟨hs.base hb hok (by rw [hbuf']; decide) (by simp [hbuf']),
    .finSent _ (2 + e.accepted.length) _ _ ⟨?_, hccc', ?_, ?_, ?_, ?_, ?_, ?_, ?_⟩⟩
  · rw [hacc]
    exact hrc'
  · rw [hacc]
    exact .inl ⟨rfl, hbuf'⟩
  · rw [hacc]
    omega
  · rw [hacc]
    intro h
    have := hstrict h
    omega
  · exact hs.savedSendEvent.trans hsaved
  · rw [hs.queue, hacc, hps]
    exact .inl ⟨hres, hempty, rfl⟩
  · rw [hs.state]
    exact hstate
  · rw [hs.finSent, hpf.fin, Bool.or_true]

/-- A segment with content leaves the queue. -/
theorem SendMode.sendContent {strict : Prop} {v : ProtocolEvent} (hb : e.SendBase) (hm : SendMode strict e)
    (hq : e.queue = v :: vs) (hv : v.kind = .sendPacket p) (hp : ¬p.IsEmpty)
    (hs : PacketSent { e with queue := vs } e' p q) : e'.SendBase ∧ SendMode strict e' := by
  have hb' := hb.pop hq (by simp [hv])
  have hw : waiting e.queue = p :: waiting vs := by
    rw [hq, waiting_cons]
    simp [ProtocolEvent.packet, hv]
  have hmem : p ∈ waiting e.queue := by simp [hw]
  have hres (h : Wifu.resends e.queue = 0) : Wifu.resends vs = 0 := by
    rw [hq, resends_cons] at h
    omega
  cases hm with
  | sending u n m c hm =>
    obtain ⟨hb'', n', m', hm'⟩ := hm.sendPacket hb hq hv hp hs
    exact ⟨hb'', .sending u n' m' c hm'⟩
  | resending u m c hm => exact absurd (hm.empty p hmem) hp
  | finWaiting hm =>
    have hfin := hm.fin
    rw [hw] at hfin
    exact hs.finSentMode hb' hfin rfl (hres hm.resends) hp hm.rc (.inl rfl) hm.ccc
      ⟨Nat.le_refl _, by change _ ≤ 2 + e.accepted.length; omega, Nat.le_refl _,
        by change _ ≤ 3 + e.accepted.length; omega⟩ (fun _ => ⟨rfl, rfl⟩) (.inl hm.buffer)
      hm.savedSendEvent hm.state
  | finSent u n c k hm =>
    rcases hm.queue with ⟨-, he, -⟩ | ⟨-, he, -⟩ | ⟨hr, hfin, hn, hu, hc, hstrict⟩
    · exact absurd (he p hmem) hp
    · exact absurd (he p hmem) hp
    · have hrc := hm.rc
      have hccc := hm.ccc
      have ho := hm.order
      rw [hn, hu] at hrc
      rw [hu] at hccc
      rw [hw] at hfin
      have hbuf : e.socket.sendBuffer = [finByte] := by
        rcases hm.buffer with ⟨-, h⟩ | ⟨h, -⟩
        · exact h
        · omega
      have hbound : 1 + e.accepted.length ≤ c ∧ c ≤ 2 + e.accepted.length ∧ c ≤ k ∧ k ≤ 3 + e.accepted.length := by
        omega
      exact hs.finSentMode hb' hfin rfl (hres hr) hp hrc (.inr rfl) hccc hbound
        (fun h => absurd h hstrict) (.inr hbuf) hm.savedSendEvent hm.state

/-! ### Retransmissions -/

/-- The packet carries the front of a send buffer: the SYN, the FIN or bytes. -/
inductive CarriesFront (b : List UInt8) (p : TCPPacket) : Prop
  | syn (h : b.head? = some synByte) (hp : p.IsSyn)
  | fin (h : b.head? = some finByte) (hp : p.IsFin)
  | data (h : b.head? ≠ some synByte) (h' : b.head? ≠ some finByte) (hp : p.IsData) (hd : p.data <+: b)

theorem resendPacket_ok (h : e.resendPacket = .ok p) : CarriesFront e.socket.sendBuffer p := by
  unfold resendPacket at h
  simp only at h
  obtain ⟨_, hne, h⟩ := bind_eq_ok.1 h
  have hne : e.socket.sendBuffer ≠ [] := by simpa using check_eq_ok.1 hne
  split at h
  · rename_i hsyn
    cases h
    exact .syn hsyn ⟨rfl, rfl⟩
  · rename_i hsyn
    split at h
    · rename_i hfin
      cases h
      exact .fin hfin ⟨rfl, rfl⟩
    · rename_i hfin
      obtain ⟨k, hk, h⟩ := bind_eq_ok.1 h
      obtain ⟨_, hpos, h⟩ := bind_eq_ok.1 h
      cases h
      have hpos := of_decide_eq_true (check_eq_ok.1 hpos)
      have hmax : k ≤ maxDataLength := by
        unfold getResendDataLength at hk
        simp only at hk
        obtain ⟨_, -, hk⟩ := bind_eq_ok.1 hk
        cases hk
        omega
      generalize hj : (if e.socket.sendBuffer.getLast? = some finByte then k - 1 else k) = j at hpos
      have hle : (e.socket.sendBuffer.take j.toNat).length ≤ maxDataLength := by
        have hjk : j ≤ k := by
          split at hj <;> omega
        rw [List.length_take]
        omega
      have hlen : 0 < (e.socket.sendBuffer.take j.toNat).length := by
        rw [List.length_take]
        have := List.length_pos_iff.2 hne
        omega
      refine .data hsyn hfin ⟨rfl, rfl, ?_⟩ ?_
      · rw [TCPPacket.new_dataLengthBytes hle]
        omega
      · rw [TCPPacket.new_data hle]
        exact List.take_prefix _ _

theorem congestionResendPacket_ok (h : e.congestionResendPacket = .ok e') :
    ∃ p ccc, CarriesFront e.socket.sendBuffer p ∧ ccc.probeTimer = e.ccc.probeTimer ∧
      ccc.snd = (e.ccc.snd.setSndNxt e.ccc.snd.sndUna).setSndNxt (e.ccc.snd.sndUna + p.sequenceLength) ∧
      e' = { e with ccc := ccc }.enqueue (.sendPacket p) := by
  unfold congestionResendPacket resendData at h
  simp only at h
  obtain ⟨p, hp, h⟩ := bind_eq_ok.1 h
  cases h
  have hfront := resendPacket_ok hp
  refine ⟨p, _, hfront, ?_, ?_, rfl⟩
  · rfl
  · rfl

theorem ResendMode.bound (hb : e.SendBase) (hm : ResendMode e u m c) :
    1 + e.accepted.length ≤ u + tcpSocketMaxBufferSize := by
  have hlen := congrArg List.length hm.buffer
  rw [List.length_drop, List.length_cons] at hlen
  have := hb.buffer_le
  omega

theorem front_outstanding (hbuf : e.socket.sendBuffer = (synByte :: e.accepted).drop u)
    (hlen : e.accepted.length < e.socket.sendBuffer.length) : u = 0 := by
  have := congrArg List.length hbuf
  rw [List.length_drop, List.length_cons] at this
  omega

/-- A requested retransmission is made; the front of the send buffer is the SYN only when the SYN is outstanding, and
is no FIN. -/
theorem ResendMode.resend {v : ProtocolEvent} (hb : e.SendBase) (hm : ResendMode e u m c) (hq : e.queue = v :: vs)
    (hv : v.isResend = true)
    (hsyn : e.socket.sendBuffer.head? = some synByte → e.accepted.length < e.socket.sendBuffer.length)
    (hfin : e.socket.sendBuffer.head? ≠ some finByte)
    (h : ({ e with queue := vs } : Endpoint).congestionResendPacket = .ok e') :
    e'.SendBase ∧ ∃ c', OpenMode e' u u m c' := by
  have hkind : v.kind ≠ .deleteSocket := by
    intro hk
    simp [ProtocolEvent.isResend, hk] at hv
  have hb' := hb.pop hq hkind
  obtain ⟨p, ccc, hfront, hprobe, hsnd, rfl⟩ := congestionResendPacket_ok h
  have hbound := hm.bound hb
  unfold tcpSocketMaxBufferSize at hbound
  obtain ⟨huc, hcm, hma, hua⟩ := hm.order
  have hempty : ∀ r ∈ waiting vs, r.IsEmpty := by
    intro r hr
    refine hm.empty r ?_
    rw [hq, waiting_cons]
    exact List.mem_append_right _ hr
  have hvp : v.packet = none := by
    unfold ProtocolEvent.isResend at hv
    unfold ProtocolEvent.packet
    split at hv <;> simp_all
  have hquiet : Quiet (vs ++ [⟨e.socket.id, .sendPacket p⟩]) := by
    have hquiet := hm.quiet
    rw [hq] at hquiet
    intro w hw
    rcases List.mem_append.1 hw with hw | hw
    · exact hquiet.tail w hw
    · rw [List.mem_singleton.1 hw]
      rfl
  have hresends : Wifu.resends (vs ++ [⟨e.socket.id, .sendPacket p⟩]) = 0 := by
    have := hm.resends
    rw [hq, resends_cons, hv, if_pos rfl] at this
    rw [resends_append]
    change Wifu.resends vs + 0 = 0
    omega
  have hccc := hm.ccc.setSndNxt (k := u) (by omega) (by omega)
  rw [Nat.max_eq_left (by omega), ← hm.ccc.sndUna] at hccc
  -- the packet takes the positions from `u` to `c'`
  have hmake (c' : Nat) (hlt : u < c') (hle : c' ≤ 1 + e.accepted.length)
      (hnum : p.sequenceLength = BitVec.ofNat 32 (c' - u)) (hpending : Pending e.accepted u [p] c') :
      OpenMode ({ { e with queue := vs } with ccc := ccc }.enqueue (.sendPacket p)) u u m c' := by
    refine ⟨hm.rc, ?_, ⟨Nat.le_refl _, by omega, hma, by omega⟩, hm.buffer, ?_, hresends, fun _ => hquiet, hm.state,
      hm.finSent⟩
    · have hnxt : e.ccc.snd.sndUna + p.sequenceLength = seqAt c' := by
        rw [hm.ccc.sndUna, hnum, seqAt_add, Nat.add_sub_cancel' (Nat.le_of_lt hlt)]
      change SndAt ccc.snd u c' (max m c')
      rw [hsnd, hnxt]
      exact hccc.setSndNxt (by omega) (by omega)
    · change Pending e.accepted u (waiting (vs ++ [⟨e.socket.id, .sendPacket p⟩])) c'
      rw [waiting_append]
      exact hpending.empty_append hempty
  refine ⟨hb'.enqueuePacket hprobe p, ?_⟩
  cases hfront with
  | syn hhead hp =>
    have hu := front_outstanding hm.buffer (hsyn hhead)
    subst hu
    exact ⟨1, hmake 1 (by omega) (by omega) (by simp [TCPPacket.sequenceLength, hp.syn]) (.syn hp (by simp))⟩
  | fin hhead _ => exact absurd hhead hfin
  | data hhead _ hp hd =>
    have hu : 0 < u := by
      by_contra hu
      rw [show u = 0 by omega] at hm
      have := hm.buffer
      change e.socket.sendBuffer.head? ≠ _ at hhead
      simp [this] at hhead
    obtain ⟨j, rfl⟩ := Nat.exists_eq_add_of_lt hu
    have hbuf : e.socket.sendBuffer = e.accepted.drop j := by
      rw [hm.buffer, show 0 + j + 1 = j + 1 by omega, List.drop_succ_cons]
    change p.data <+: e.socket.sendBuffer at hd
    rw [hbuf] at hd
    have hlen := hd.length_le
    rw [List.length_drop] at hlen
    have hpos := hp.length_data.1
    refine ⟨1 + j + p.data.length, hmake _ (by omega) (by omega) ?_ ?_⟩
    · simp only [TCPPacket.sequenceLength, hp.syn, hp.fin, hp.length_data.2, Bool.or_false, Bool.false_eq_true, if_false]
      congr 1
      omega
    · rw [show 0 + j + 1 = 1 + j by omega]
      exact .data hp hd .nil

/-- A requested retransmission of the FIN is made. -/
theorem FinSentMode.resend {strict : Prop} {k : Nat} {v : ProtocolEvent} (hb : e.SendBase)
    (hm : FinSentMode strict e u n c k) (hq : e.queue = v :: vs) (hv : v.isResend = true) (hstrict : ¬strict)
    (h : ({ e with queue := vs } : Endpoint).congestionResendPacket = .ok e') :
    e'.SendBase ∧ SendMode strict e' := by
  have hkind : v.kind ≠ .deleteSocket := by
    intro hk
    simp [ProtocolEvent.isResend, hk] at hv
  have hb' := hb.pop hq hkind
  obtain ⟨p, ccc, hfront, hprobe, hsnd, rfl⟩ := congestionResendPacket_ok h
  have hres : Wifu.resends e.queue = Wifu.resends vs + 1 := by
    rw [hq, resends_cons, hv, if_pos rfl]
  rcases hm.queue with ⟨hr, -, -⟩ | ⟨hr, hempty, hn, hu⟩ | ⟨hr, -, -⟩
  · omega
  · have hbuf : e.socket.sendBuffer = [finByte] := by
      rcases hm.buffer with ⟨-, h⟩ | ⟨h, -⟩
      · exact h
      · omega
    have ho := hm.order
    have hp : p.IsFin := by
      cases hfront with
      | syn hhead _ =>
        change e.socket.sendBuffer.head? = _ at hhead
        rw [hbuf] at hhead
        cases hhead
      | fin _ hp => exact hp
      | data _ hhead _ _ =>
        change e.socket.sendBuffer.head? ≠ _ at hhead
        rw [hbuf] at hhead
        exact absurd rfl hhead
    have hccc := hm.ccc
    rw [hu] at hccc
    have hback := hccc.setSndNxt (k := 1 + e.accepted.length) (by omega) (by omega)
    have hnext := hback.setSndNxt (k := 2 + e.accepted.length) (by omega) (by omega)
    rw [show max (max k (1 + e.accepted.length)) (2 + e.accepted.length) = k by omega] at hnext
    have hsnd' : ccc.snd = (e.ccc.snd.setSndNxt (seqAt (1 + e.accepted.length))).setSndNxt
        (seqAt (2 + e.accepted.length)) := by
      rw [hsnd, hccc.sndUna, show p.sequenceLength = BitVec.ofNat 32 1 by simp [TCPPacket.sequenceLength, hp.fin],
        seqAt_add]
      congr 2
      omega
    have hwait : waiting (vs ++ [⟨e.socket.id, .sendPacket p⟩]) = waiting vs ++ p :: [] := by
      simp [waiting, ProtocolEvent.packet]
    have hvs : ∀ r ∈ waiting vs, r.IsEmpty := by
      intro r hr
      refine hempty r ?_
      rw [hq, waiting_cons]
      exact List.mem_append_right _ hr
    refine ⟨hb'.enqueuePacket hprobe p, .finSent u n (2 + e.accepted.length) k ⟨hm.rc, ?_, hm.buffer, ?_, ?_,
      hm.savedSendEvent, .inr (.inr ⟨?_, ?_, hn, hu, rfl, hstrict⟩), hm.state, hm.finSent⟩⟩
    · rw [hu]
      change SndAt ccc.snd _ _ _
      rw [hsnd']
      exact hnext
    · exact ⟨Nat.le_refl _, by omega, ho.2.2⟩
    · exact fun h => absurd h hstrict
    · change Wifu.resends (vs ++ [⟨e.socket.id, .sendPacket p⟩]) = 0
      rw [resends_append]
      change Wifu.resends vs + 0 = 0
      omega
    · change OneFin (waiting (vs ++ [⟨e.socket.id, .sendPacket p⟩]))
      rw [hwait]
      exact ⟨_, p, [], rfl, hp, hvs, by simp⟩
  · omega

end

end Endpoint

end Wifu
