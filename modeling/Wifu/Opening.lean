import Wifu.AckBit
import Wifu.ControlAcknowledged
import Wifu.NothingLost

/-!
# From the creation of two endpoints to the handshake

The sender has sent at most its SYN, and accepts nothing.  The receiver has processed nothing or the SYN, and
acknowledges nothing else.  So where the sender leaves the handshake its SYN has been acknowledged, and the receiver
expects the first byte.
-/

namespace Wifu

theorem ConnectionManagerState.not_isEarly_of_isClosing {s : ConnectionManagerState} (h : s.isClosing = true) :
    s.isEarly = false := by
  cases s <;> first | rfl | cases h

/-- The packet opens a stream or carries nothing. -/
structure TCPPacket.Opens (p : TCPPacket) : Prop where
  syn : p.syn = true → p.sequenceNumber = iss
  fin : p.fin = false
  noData : p.syn = false → p.dataLengthBytes ≤ 0

namespace Endpoint

/-! ### The receiver -/

/-- The peer's SYN has not been processed, and no ACK has been sent. -/
structure Unheard (e : Endpoint) : Prop where
  started : e.rc.receiveWindow.started = false
  rcvNxt : e.rc.rcvNxt = 0
  queue : ∀ v ∈ e.queue, ∀ p ∈ v.packet, p.ack = false
  sent : ∀ p ∈ sentPackets e.dispatched, p.ack = false

/-- The peer's SYN has been processed, and nothing behind it. -/
structure Heard (e : Endpoint) : Prop where
  started : e.rc.receiveWindow.started = true
  rcvNxt : e.rc.rcvNxt = iss + 1
  firstExpected : e.rc.receiveWindow.firstExpectedSequenceNumber = iss + 1
  acks : ∀ p ∈ sentPackets e.dispatched, p.ack = true → p.ackNumber = iss + 1

/-- No byte and no FIN of the peer has been processed. -/
structure Listening (e : Endpoint) : Prop where
  handed : handedBytes e.dispatched = []
  receiveBuffer : e.socket.receiveBuffer = []
  buffer : e.rc.receiveWindow.buffer = []
  hasEnded : e.cmc.state.hasEnded = false
  heard : e.Unheard ∨ e.Heard

section

variable {e e' : Endpoint} {i : Input} {p : TCPPacket}

theorem Listening.create (id : SocketId) (l r : AddressPort) : (create id l r).Listening := by
  refine ⟨rfl, rfl, rfl, rfl, .inl ⟨rfl, rfl, fun v hv => ?_, fun q hq => ?_⟩⟩
  · cases hv
  · cases hq

theorem Listening.received (h : e.Listening) : e.receivedBytes = [] := by
  unfold receivedBytes unreadBytes
  rw [h.handed, h.receiveBuffer, List.drop_nil, List.append_nil]

/-- Without another SYN the receiver stays where it is. -/
theorem Listening.heard_same (h : e.Listening) (hstep : step i e = .ok e')
    (hsyn : ∀ p ∈ e.delivered i, e.accepts p = true → p.syn = false) (hn : e'.rc.rcvNxt = e.rc.rcvNxt)
    (hwindow : e'.rc.receiveWindow = e.rc.receiveWindow) : e'.Unheard ∨ e'.Heard := by
  refine h.heard.imp (fun h => ?_) fun h => ?_
  · refine ⟨hwindow ▸ h.started, hn.trans h.rcvNxt, fun v hv => ?_, fun q hq => ?_⟩
    · rcases step_addsUnacked hstep hsyn v hv with hv | hv
      · exact h.queue v hv
      · exact hv
    · rcases step_unacked h.queue h.rcvNxt hstep q hq with hq | hq
      · exact h.sent q hq
      · exact hq
  · refine ⟨hwindow ▸ h.started, hn.trans h.rcvNxt, hwindow ▸ h.firstExpected, fun q hq hack => ?_⟩
    rcases step_advertises hstep with hs | ⟨r, hs, hr, -⟩
    · rw [hs] at hq
      exact h.acks q hq hack
    · rw [hs] at hq
      rcases List.mem_append.1 hq with hq | hq
      · exact h.acks q hq hack
      · rw [List.mem_singleton.1 hq, hr, hn, h.rcvNxt]

/-- The SYN is heard. -/
theorem Listening.heard_syn (h : e.Listening) (hstep : step i e = .ok e')
    (hview : e'.receiveView = e.receiveView.controlBits p) (hsyn : p.syn = true) (hnumber : p.sequenceNumber = iss) :
    e'.Heard := by
  have hn : e'.rc.rcvNxt = iss + 1 := by
    have : e'.rc.rcvNxt = p.sequenceNumber + 1 := congrArg ReceiveView.rcvNxt hview
    rw [this, hnumber]
  have hwindow : e'.rc.receiveWindow = e.rc.receiveWindow.setFirstSequenceNumber (iss + 1) := by
    have : e'.rc.receiveWindow = _ := congrArg ReceiveView.receiveWindow hview
    rw [this]
    simp [ReceiveView.controlBits, hsyn, hnumber, receiveView]
  refine ⟨by rw [hwindow]; rfl, hn, by rw [hwindow]; rfl, fun q hq hack => ?_⟩
  have hbefore (hq : q ∈ sentPackets e.dispatched) : q.ackNumber = iss + 1 := by
    rcases h.heard with h | h
    · rw [h.sent q hq] at hack
      cases hack
    · exact h.acks q hq hack
  rcases step_advertises hstep with hs | ⟨r, hs, hr, -⟩
  · rw [hs] at hq
    exact hbefore hq
  · rw [hs] at hq
    rcases List.mem_append.1 hq with hq | hq
    · exact hbefore hq
    · rw [List.mem_singleton.1 hq, hr, hn]

/-- Where nothing but the SYN and empty packets is processed, the receiver goes on listening. -/
theorem Listening.step (h : e.Listening) (hend : e.Ending) (hen : enabled i e) (hstep : Endpoint.step i e = .ok e')
    (hopens : ∀ p ∈ e.delivered i, e.accepts p = true → p.Opens) : e'.Listening := by
  have hended : e'.cmc.state.hasEnded = false := by
    by_contra hend'
    obtain ⟨p, hp, ha, hfin⟩ := step_hasEnded hend hen hstep h.hasEnded (by simpa using hend')
    rw [(hopens p hp ha).fin] at hfin
    cases hfin
  cases step_traceStep hstep with
  | same hd htrace =>
    have hview : e'.receiveView = e.receiveView := congrArg Prod.fst htrace
    have hwindow : e'.rc.receiveWindow = e.rc.receiveWindow := congrArg ReceiveView.receiveWindow hview
    refine ⟨(congrArg Prod.snd htrace).trans h.handed, ?_, hwindow ▸ h.buffer, hended, ?_⟩
    · exact (congrArg ReceiveView.receiveBuffer hview).trans h.receiveBuffer
    · refine h.heard_same hstep (fun p hp ha => ?_) (congrArg ReceiveView.rcvNxt hview) hwindow
      rw [hd p hp] at ha
      cases ha
  | accept p hp ha hok hhanded =>
    have ho := hopens p hp ha
    unfold ReceiveView.receive at hok
    rw [ho.fin, Bool.or_false] at hok
    split at hok
    · rename_i hsyn
      have hview := (Except.ok.inj hok).symm
      have hwindow : e'.rc.receiveWindow = _ := congrArg ReceiveView.receiveWindow hview
      refine ⟨hhanded.trans h.handed, ?_, ?_, hended, .inr (h.heard_syn hstep hview hsyn (ho.syn hsyn))⟩
      · exact (congrArg ReceiveView.receiveBuffer hview).trans h.receiveBuffer
      · rw [hwindow]
        simp only [ReceiveView.controlBits, hsyn, if_true]
        exact h.buffer
    · rename_i hsyn
      have hsyn : p.syn = false := by simpa using hsyn
      rw [if_neg (by have := ho.noData hsyn; omega)] at hok
      have hview := (Except.ok.inj hok).symm
      have hwindow : e'.rc.receiveWindow = e.rc.receiveWindow := congrArg ReceiveView.receiveWindow hview
      refine ⟨hhanded.trans h.handed, ?_, hwindow ▸ h.buffer, hended, ?_⟩
      · exact (congrArg ReceiveView.receiveBuffer hview).trans h.receiveBuffer
      · refine h.heard_same hstep (fun q hq _ => ?_) (congrArg ReceiveView.rcvNxt hview) hwindow
        rw [hp] at hq
        rw [← Option.some_inj.1 hq]
        exact hsyn
  | read n hd hreads =>
    obtain ⟨-, htrace⟩ := hreads
    have hview : e'.receiveView = e.receiveView.read n := congrArg Prod.fst htrace
    have hwindow : e'.rc.receiveWindow = e.rc.receiveWindow := congrArg ReceiveView.receiveWindow hview
    refine ⟨?_, ?_, hwindow ▸ h.buffer, hended, ?_⟩
    · have hhanded : handedBytes e'.dispatched = _ := congrArg Prod.snd htrace
      rw [hhanded, h.handed, h.receiveBuffer]
      simp
    · have hbuffer : e'.socket.receiveBuffer = _ := congrArg ReceiveView.receiveBuffer hview
      rw [hbuffer]
      simp [ReceiveView.read, receiveView, h.receiveBuffer]
    · refine h.heard_same hstep (fun p hp _ => ?_) (congrArg ReceiveView.rcvNxt hview) hwindow
      rw [hd] at hp
      cases hp
  | moved hd _ htrace =>
    have hview : e'.receiveView = e.receiveView.moved := congrArg Prod.fst htrace
    have hwindow : e'.rc.receiveWindow = e.rc.receiveWindow := congrArg ReceiveView.receiveWindow hview
    refine ⟨(congrArg Prod.snd htrace).trans h.handed, ?_, hwindow ▸ h.buffer, hended, ?_⟩
    · exact congrArg ReceiveView.receiveBuffer hview
    · refine h.heard_same hstep (fun p hp _ => ?_) (congrArg ReceiveView.rcvNxt hview) hwindow
      rw [hd] at hp
      cases hp

/-- The window stays started. -/
theorem step_started (hw : e.WindowBalance) (hs : e.rc.receiveWindow.started = true) (hstep : step i e = .ok e') :
    e'.rc.receiveWindow.started = true := by
  cases step_receivedStep hw hstep with
  | same _ hwindow _ => rw [hwindow, hs]
  | accept p _ _ hok _ =>
    unfold ReceiveView.receive at hok
    split at hok
    · have hwindow : e'.rc.receiveWindow = _ := congrArg ReceiveView.receiveWindow (Except.ok.inj hok).symm
      rw [hwindow]
      unfold ReceiveView.controlBits
      simp only
      split
      · rfl
      · exact hs
    · split at hok
      · rename_i hp
        obtain ⟨l, hdata⟩ := ReceiveView.data_ok hw.balanced.counted hp hok
        exact hdata.started.2
      · have hwindow : e'.rc.receiveWindow = _ := congrArg ReceiveView.receiveWindow (Except.ok.inj hok).symm
        rw [hwindow]
        exact hs

/-! ### The sender -/

/-- An endpoint that sends for the first time sends its SYN. -/
theorem step_initialized (hinv : SendInv False e) (hinit : e.rc.initialized = false) (hstep : step i e = .ok e')
    (hinit' : e'.rc.initialized = true) : e'.cmc.state.isEarly = true := by
  have hsame (h : e'.rc.initialized = e.rc.initialized) : e'.cmc.state.isEarly = true := by
    rw [h, hinit] at hinit'
    cases hinit'
  cases step_sendStep hstep with
  | same h _ => exact hsame (congrArg SendView.initialized h)
  | acked _ _ _ _ h _ _ _ => exact hsame h
  | rewound _ h _ _ _ => exact hsame h
  | @sent p q vs hi hdel hq hsends =>
    cases hinv with
    | deleted hdel' _ =>
      rw [hdel] at hdel'
      cases hdel'
    | preSyn hp _ _ =>
      rcases hp.queue with ⟨-, hdeletes⟩ | ⟨hearly, -⟩
      · have := hdeletes _ (by rw [hq]; exact List.mem_cons_self)
        cases this
      · rw [hsends.state]
        exact hearly
    | sent hb _ =>
      rw [hb.initialized] at hinit
      cases hinit

/-- An endpoint that has not sent its SYN sends nothing. -/
theorem step_uninitialized (hstep : step i e = .ok e') (hinit' : e'.rc.initialized = false) :
    e.rc.initialized = false ∧ sentPackets e'.dispatched = sentPackets e.dispatched := by
  cases step_sendStep hstep with
  | same h hs => exact ⟨(congrArg SendView.initialized h).symm.trans hinit', hs⟩
  | acked _ _ _ _ h _ _ hs => exact ⟨h.symm.trans hinit', hs⟩
  | rewound _ h _ _ hs => exact ⟨h.symm.trans hinit', hs⟩
  | sent _ _ _ hsends =>
    rw [hsends.initialized] at hinit'
    cases hinit'

/-- A packet makes an endpoint accept nothing. -/
theorem step_accepted_delivered (hp : e.delivered i = some p) (hstep : step i e = .ok e') :
    e'.accepted = e.accepted := by
  cases step_ok hstep with
  | dropped hd h =>
    cases h
    rfl
  | packet _ _ _ h => exact (receivePacket_accepted h.symm).1
  | skipped | event | listen | connect | send | receive | close | timerFired | tick => cases hp

/-- An endpoint leaves the handshake when a packet comes whose number it takes as `snd_una`. -/
theorem step_leaves (hinv : SendInv False e) (hen : enabled i e) (hearly : e.cmc.state.isEarly = true)
    (hstep : step i e = .ok e') (hlate : e'.cmc.state.isEarly = false) :
    e'.accepted = [] ∧ ∃ p, e.delivered i = some p ∧ p.validChecksum = true ∧ p.ack = true ∧
      e'.rc.snd.sndUna = p.ackNumber := by
  have hw : e.cmc.state.waitsForAck = true := by
    cases hstate : e.cmc.state <;> simp_all [ConnectionManagerState.isEarly, ConnectionManagerState.waitsForAck]
  have hne : e'.cmc.state ≠ e.cmc.state := by
    intro heq
    rw [heq, hearly] at hlate
    cases hlate
  obtain ⟨hb, hm, hq, p, hp, hmoved, -, hsnd⟩ := step_moves hinv hen hw hstep hne
  refine ⟨(step_accepted_delivered hp hstep).trans (hb.early hearly), p, hp, ?_, ?_, hsnd⟩
  · -- a damaged packet moves nothing
    by_contra hsum
    have hsum : p.validChecksum = false := by simpa using hsum
    refine hne ?_
    cases step_ok hstep with
    | dropped hd h =>
      cases h
      rfl
    | @packet _ _ ps hp' _ _ h =>
      rw [hp] at hp'
      cases hp'
      have hcorrupt : e' = { e with redelivered := ps } := by
        unfold receivePacket at h
        simp only [hsum, Bool.not_false, if_true] at h
        exact Except.ok.inj h
      rw [hcorrupt]
    | skipped | event | listen | connect | send | receive | close | timerFired | tick => cases hp
  · unfold ConnectionManagerState.movedBy at hmoved
    cases hstate : e.cmc.state <;> rw [hstate] at hearly hmoved <;> try cases hearly
    · exact ((Bool.and_eq_true _ _).mp hmoved).2
    · exact hmoved

end

end Endpoint

end Wifu
