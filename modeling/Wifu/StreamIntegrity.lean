import Wifu.Connection

/-!
# The stream arrives

What the receiver has received is the beginning of what the sender has accepted.  Until the FIN has been processed the
receiver reassembles the accepted bytes: each data segment carries the bytes that its number says, `snd_una` stays at or
before `rcv_nxt`, and so all that may still be delivered lies close to `rcv_nxt`.  Behind the FIN nothing is received.
-/

namespace Wifu

namespace Connection

open Endpoint (Oldest SendInv)

/-! ### The invariant -/

/-- The receiver has not processed the FIN. -/
structure Streaming (s : Connection × Flights) : Prop where
  oldest : ∃ u, s.1.sender.Oldest u ∧ u ≤ 1 + s.1.receiver.receivedBytes.length
  reassembly : ∀ l, s.1.sender.accepted <+: l → ∃ t, t.delivered = s.1.receiver.receivedBytes ∧
    (∀ k ∈ t.received, k < s.1.sender.accepted.length) ∧
    ReceiveView.Follows (streamOf l) (seqAt 1) s.1.receiver.receiveView t
  segments : ∀ f ∈ s.2.segments, f.packet.IsData → ∃ k, f.packet.sequenceNumber = seqAt (1 + k) ∧
    f.packet.data <+: s.1.sender.accepted.drop k ∧ f.received ≤ k + tcpSocketMaxBufferSize
  acks : ∀ f ∈ s.2.acks, f.packet.ack = true → f.packet.ackNumber = seqAt (1 + f.received) ∧
    f.received ≤ s.1.receiver.receivedBytes.length

/-- The receiver has processed the FIN, and `rcv_nxt` is not the number that its window expects. -/
structure Finished (s : Connection × Flights) : Prop where
  fin : ∃ q ∈ sentPackets s.1.sender.dispatched, q.fin = true ∧ s.1.receiver.rc.rcvNxt = q.sequenceNumber + 1
  unexpected : s.1.receiver.rc.receiveWindow.firstExpectedSequenceNumber ≠ s.1.receiver.rc.rcvNxt
  received : s.1.receiver.receivedBytes <+: s.1.sender.accepted

structure StreamInv (s : Connection × Flights) : Prop where
  sending : SendInv False s.1.sender
  initialized : s.1.sender.rc.initialized = true
  balance : s.1.receiver.WindowBalance
  carried : ∀ f ∈ s.2.segments, f.packet ∈ sentPackets s.1.sender.dispatched
  mode : Streaming s ∨ Finished s

section

variable {s s' : Connection × Flights} {i : Endpoint.Input} {e' : Endpoint} {p : TCPPacket}

namespace Streaming

theorem received_le (h : Streaming s) : s.1.receiver.receivedBytes.length ≤ s.1.sender.accepted.length := by
  obtain ⟨t, hdelivered, hin, ht⟩ := h.reassembly _ (List.prefix_refl _)
  rw [← hdelivered]
  by_contra hlt
  have := hin _ (ht.reassembled.complete (t.delivered.length - 1) (by omega))
  omega

/-- What has been accepted and not received fits in the send buffer. -/
theorem accepted_le (h : Streaming s) :
    s.1.sender.accepted.length ≤ s.1.receiver.receivedBytes.length + tcpSocketMaxBufferSize := by
  obtain ⟨u, hu, hle⟩ := h.oldest
  have := hu.accepted_le
  omega

/-- The receiver has received the beginning of what the sender has accepted. -/
theorem received (h : Streaming s) : s.1.receiver.receivedBytes <+: s.1.sender.accepted := by
  have hle := h.received_le
  obtain ⟨t, hdelivered, -, ht⟩ := h.reassembly _ (List.prefix_refl _)
  have hslice := ht.reassembled.delivered
  rw [hdelivered, slice_streamOf (by omega), List.drop_zero] at hslice
  rw [hslice]
  exact List.take_prefix _ _

theorem rcvNxt (h : Streaming s) : s.1.receiver.rc.rcvNxt = seqAt (1 + s.1.receiver.receivedBytes.length) := by
  obtain ⟨t, hdelivered, -, ht⟩ := h.reassembly _ (List.prefix_refl _)
  rw [← hdelivered, ← seqAt_add]
  exact ht.number

theorem firstExpected (h : Streaming s) :
    s.1.receiver.rc.receiveWindow.firstExpectedSequenceNumber = s.1.receiver.rc.rcvNxt := by
  obtain ⟨t, -, -, ht⟩ := h.reassembly _ (List.prefix_refl _)
  have hwindow : s.1.receiver.rc.receiveWindow = t.window := ht.window
  have hrcv : s.1.receiver.rc.rcvNxt = t.window.firstExpectedSequenceNumber := ht.rcvNxt
  rw [hwindow, hrcv]

end Streaming

theorem StreamInv.received (h : StreamInv s) : s.1.receiver.receivedBytes <+: s.1.sender.accepted :=
  h.mode.elim Streaming.received Finished.received

/-! ### The start -/

theorem StreamInv.start {c : Connection} (hsend : SendInv False c.sender) (hw : c.receiver.WindowBalance)
    (h : c.Handshake) : StreamInv (c, c.firstFlights) := by
  have hsndUna : c.sender.rc.snd.sndUna = seqAt 1 := h.sndUna
  have hmax : tcpSocketMaxBufferSize = 131071 := rfl
  refine ⟨hsend, h.initialized, hw, fun f hf => ?_, .inl ⟨⟨1, ⟨hsndUna, ?_, ?_⟩, ?_⟩, fun l _ => ?_, ?_, ?_⟩⟩
  · obtain ⟨p, hp, rfl⟩ := List.mem_map.1 hf
    exact hp
  · omega
  · rw [h.accepted, List.length_nil]
    omega
  · omega
  · have hfollows : ReceiveView.Follows (streamOf l) c.receiver.rc.rcvNxt c.receiver.receiveView _ :=
      h.synchronized.follows hw.balanced.counted
    rw [h.rcvNxt] at hfollows
    exact ⟨_, h.received.symm, by simp, hfollows⟩
  · intro f hf hdata
    obtain ⟨p, hp, rfl⟩ := List.mem_map.1 hf
    obtain ⟨k, -, hpre⟩ := (hsend.sentOk p hp).data hdata.syn hdata.fin (List.length_pos_iff.1 hdata.length_data.1)
    rw [h.accepted, List.drop_nil, List.prefix_nil] at hpre
    have := hdata.length_data.1
    rw [hpre] at this
    cases this
  · intro f hf hack
    obtain ⟨p, hp, rfl⟩ := List.mem_map.1 hf
    exact ⟨h.acks p hp hack, Nat.zero_le _⟩

/-! ### Steps of the sender -/

/-- An acknowledged number is that of a byte that has been received, so `snd_una` stays at or before `rcv_nxt`. -/
theorem Streaming.sender_oldest (h : Streaming s) (hinv : StreamInv s) (hsend : SendInv False e')
    (hen : Endpoint.enabled i s.1.sender) (hstep : Endpoint.step i s.1.sender = .ok e')
    (hfresh : ∀ p ∈ s.1.sender.delivered i, p.validChecksum = true → p.ack = true →
      Fresh s.1.receiver.receivedBytes.length s.2.acks p) :
    ∃ u, e'.Oldest u ∧ u ≤ 1 + s.1.receiver.receivedBytes.length := by
  have hmax : tcpSocketMaxBufferSize = 131071 := rfl
  obtain ⟨hinit', hsame | ⟨p, hd, hsum, hack, hnumber⟩⟩ := Endpoint.step_acknowledged hinv.initialized hstep
  · obtain ⟨u, hu, hle⟩ := h.oldest
    exact ⟨u, hu.step hsend hinit' hstep hsame, hle⟩
  · obtain ⟨f, hf, rfl, hlate⟩ := hfresh p hd hsum hack
    obtain ⟨hposition, hle⟩ := h.acks f hf hack
    obtain ⟨hb, hm⟩ := hinv.sending.delivered hinv.initialized hen hd hstep
    obtain ⟨u, hu⟩ := hm.oldest hb
    have hreceived := h.received_le
    have haccepted := h.accepted_le
    have hgrows := (Endpoint.step_accepted_grows hstep).length_le
    have hroom := Endpoint.step_accepted_length hstep
    have hk : u = 1 + f.received := hu.position_eq (hnumber.trans hposition) (by omega) (by omega)
    exact ⟨u, hu, by omega⟩

/-- A data segment that leaves carries the bytes that its number says. -/
theorem Streaming.sender_segments (h : Streaming s) (hinv : StreamInv s)
    (hstep : Endpoint.step i s.1.sender = .ok e') :
    ∀ f ∈ newFlights s.1.receiver.receivedBytes.length s.1.sender e', f.packet.IsData →
      ∃ k, f.packet.sequenceNumber = seqAt (1 + k) ∧ f.packet.data <+: e'.accepted.drop k ∧
        f.received ≤ k + tcpSocketMaxBufferSize := by
  intro f hf hdata
  have hnothing (hs : sentPackets e'.dispatched = sentPackets s.1.sender.dispatched) : False := by
    unfold newFlights at hf
    rw [hs, List.drop_length] at hf
    cases hf
  cases Endpoint.step_sendStep hstep with
  | same _ hs => exact (hnothing hs).elim
  | acked _ _ _ _ _ _ _ hs => exact (hnothing hs).elim
  | rewound _ _ _ _ hs => exact (hnothing hs).elim
  | @sent p q vs hi hdel hq hsends =>
    have hnew : newFlights s.1.receiver.receivedBytes.length s.1.sender e' = [⟨q, s.1.receiver.receivedBytes.length⟩] := by
      unfold newFlights
      rw [hsends.sent, List.drop_left]
      rfl
    rw [hnew, List.mem_singleton] at hf
    subst hf
    cases hinv.sending with
    | deleted hdel' _ =>
      rw [hdel] at hdel'
      cases hdel'
    | preSyn hp _ _ =>
      have := hp.initialized
      rw [hinv.initialized] at this
      cases this
    | sent hb hm =>
      obtain ⟨u, k, hu, hle, hnumber, hpre⟩ := hm.segment_position hb hq hsends.toPacketSent hdata
      have haccepted := hu.accepted_le
      have hreceived := h.received_le
      obtain ⟨l, hl⟩ := Endpoint.step_accepted_grows hstep
      refine ⟨k, hnumber, ?_, by show s.1.receiver.receivedBytes.length ≤ _; omega⟩
      rw [← hl]
      exact prefix_drop_append (List.length_pos_iff.1 hdata.length_data.1) hpre

theorem StreamInv.sender (hinv : StreamInv s) (hen : flightMachine.enabled (.sender i) s)
    (hc : streamCondition s (.sender i)) (hstep : flightMachine.step (.sender i) s = .ok s') : StreamInv s' := by
  obtain ⟨hcond, hfresh⟩ := hc
  obtain ⟨e', hstep, hs, hacks, hsegments⟩ := sender_step hstep
  have hsend : SendInv False e' := hinv.sending.step hen.1 hcond hstep
  obtain ⟨l, hl⟩ := Endpoint.step_accepted_grows hstep
  obtain ⟨d, hsent, hnew⟩ := newFlights_eq (n := s.1.receiver.receivedBytes.length) hstep
  have hsender : s'.1.sender = e' := by rw [hs]
  have hreceiver : s'.1.receiver = s.1.receiver := by rw [hs]
  refine ⟨hsender ▸ hsend, ?_, hreceiver ▸ hinv.balance, fun f hf => ?_, hinv.mode.imp (fun h => ?_) fun h => ?_⟩
  · rw [hsender]
    exact (Endpoint.step_acknowledged hinv.initialized hstep).1
  · rw [hsender, hsent]
    rw [hsegments, hnew] at hf
    rcases List.mem_append.1 hf with hf | hf
    · exact List.mem_append_left _ (hinv.carried f hf)
    · obtain ⟨q, hq, rfl⟩ := List.mem_map.1 hf
      exact List.mem_append_right _ hq
  · refine ⟨?_, fun l' hl' => ?_, fun f hf hdata => ?_, ?_⟩
    · rw [hsender, hreceiver]
      exact h.sender_oldest hinv hsend hen.1 hstep hfresh
    · rw [hsender] at hl' ⊢
      rw [hreceiver]
      obtain ⟨t, hdelivered, hin, ht⟩ := h.reassembly l' ((Endpoint.step_accepted_grows hstep).trans hl')
      exact ⟨t, hdelivered, fun k hk => (hin k hk).trans_le (Endpoint.step_accepted_grows hstep).length_le, ht⟩
    · rw [hsender]
      rw [hsegments] at hf
      rcases List.mem_append.1 hf with hf | hf
      · obtain ⟨k, hnumber, hpre, hle⟩ := h.segments f hf hdata
        refine ⟨k, hnumber, ?_, hle⟩
        rw [← hl]
        exact prefix_drop_append (List.length_pos_iff.1 hdata.length_data.1) hpre
      · exact h.sender_segments hinv hstep f hf hdata
    · rw [hacks, hreceiver]
      exact h.acks
  · obtain ⟨q, hq, hfin, hnumber⟩ := h.fin
    refine ⟨⟨q, ?_, hfin, hreceiver ▸ hnumber⟩, hreceiver ▸ h.unexpected, ?_⟩
    · rw [hsender, hsent]
      exact List.mem_append_left _ hq
    · rw [hsender, hreceiver]
      exact h.received.trans (Endpoint.step_accepted_grows hstep)

/-! ### Steps of the receiver -/

/-- What the receiver sends acknowledges all bytes received. -/
theorem receiver_acks (hstep : Endpoint.step i s.1.receiver = .ok e')
    (hrcv : e'.rc.rcvNxt = seqAt (1 + e'.receivedBytes.length)) :
    ∀ f ∈ newFlights e'.receivedBytes.length s.1.receiver e',
      f.packet.ackNumber = seqAt (1 + f.received) ∧ f.received ≤ e'.receivedBytes.length := by
  intro f hf
  unfold newFlights at hf
  rcases Endpoint.step_advertises hstep with h | ⟨q, h, hack, -⟩
  · rw [h, List.drop_length] at hf
    cases hf
  · rw [h, List.drop_left] at hf
    obtain ⟨q', hq', rfl⟩ := List.mem_map.1 hf
    rw [List.mem_singleton.1 hq']
    exact ⟨hack.trans hrcv, le_rfl⟩

/-- The receiver goes on reassembling. -/
theorem Streaming.receiver (h : Streaming s) (hs : s'.1 = { s.1 with receiver := e' })
    (hsegments : s'.2.segments = s.2.segments)
    (hacks : s'.2.acks = s.2.acks ++ newFlights e'.receivedBytes.length s.1.receiver e')
    (hstep : Endpoint.step i s.1.receiver = .ok e')
    (hle : s.1.receiver.receivedBytes.length ≤ e'.receivedBytes.length)
    (hre : ∀ l, s.1.sender.accepted <+: l → ∃ t, t.delivered = e'.receivedBytes ∧
      (∀ k ∈ t.received, k < s.1.sender.accepted.length) ∧
      ReceiveView.Follows (streamOf l) (seqAt 1) e'.receiveView t) : Streaming s' := by
  have hsender : s'.1.sender = s.1.sender := by rw [hs]
  have hreceiver : s'.1.receiver = e' := by rw [hs]
  have hrcv : e'.rc.rcvNxt = seqAt (1 + e'.receivedBytes.length) := by
    obtain ⟨t, hdelivered, -, ht⟩ := hre _ (List.prefix_refl _)
    rw [← hdelivered, ← seqAt_add]
    exact ht.number
  refine ⟨?_, ?_, ?_, fun f hf hack => ?_⟩
  · obtain ⟨u, hu, hu'⟩ := h.oldest
    rw [hsender, hreceiver]
    exact ⟨u, hu, by omega⟩
  · rw [hsender, hreceiver]
    exact hre
  · rw [hsegments, hsender]
    exact h.segments
  · rw [hreceiver]
    rw [hacks] at hf
    rcases List.mem_append.1 hf with hf | hf
    · obtain ⟨hnumber, hf'⟩ := h.acks f hf hack
      exact ⟨hnumber, by omega⟩
    · exact receiver_acks hstep hrcv f hf

/-- A fresh data segment brings the next bytes of what has been accepted. -/
theorem Streaming.data (h : Streaming s) (hb : s.1.receiver.receiveView.Balanced) (hdata : p.IsData)
    (hfresh : Fresh s.1.receiver.receivedBytes.length s.2.segments p)
    (hok : s.1.receiver.receiveView.data p = .ok e'.receiveView)
    (hhanded : handedBytes e'.dispatched = handedBytes s.1.receiver.dispatched) :
    s.1.receiver.receivedBytes.length ≤ e'.receivedBytes.length ∧
    ∀ l, s.1.sender.accepted <+: l → ∃ t, t.delivered = e'.receivedBytes ∧
      (∀ k ∈ t.received, k < s.1.sender.accepted.length) ∧
      ReceiveView.Follows (streamOf l) (seqAt 1) e'.receiveView t := by
  have hmax : tcpSocketMaxBufferSize = 131071 := rfl
  obtain ⟨f, hf, rfl, hlate⟩ := hfresh
  obtain ⟨k, hnumber, hpre, hreceived⟩ := h.segments f hf hdata
  have hne : f.packet.data ≠ [] := List.length_pos_iff.1 hdata.length_data.1
  have hend := (eq_slice_of_part hpre hne).1
  have hle := h.received_le
  have hroom := h.accepted_le
  have hstep (l : List UInt8) (hl : s.1.sender.accepted <+: l) : ∃ t d, t.delivered = s.1.receiver.receivedBytes ++ d ∧
      e'.receivedBytes = s.1.receiver.receivedBytes ++ d ∧ (∀ k ∈ t.received, k < s.1.sender.accepted.length) ∧
      ReceiveView.Follows (streamOf l) (seqAt 1) e'.receiveView t := by
    obtain ⟨t, hdelivered, hin, ht⟩ := h.reassembly l hl
    have hslice : f.packet.data = Slice.slice (streamOf l) k f.packet.data.length := by
      obtain ⟨l', rfl⟩ := hl
      exact (eq_slice_of_part (prefix_drop_append hne hpre) hne).2
    -- all of it lies between what has been received and what has been accepted
    have hallowed : Reassembly.Allowed (streamOf l) (seqAt 1) t (.insert k f.packet) := by
      refine ht.allowed (m := s.1.sender.accepted.length - s.1.receiver.receivedBytes.length) (fun j hj => ?_) ?_ hne
        hslice ?_ (by omega) ?_
      · have := hin j hj
        rw [hdelivered]
        omega
      · rw [seqAt_add]
        exact hnumber
      · rw [hdelivered]
        omega
      · rw [hdelivered]
        omega
    obtain ⟨u, d, hu, hd, hbuf, hindex, hrec⟩ := ht.data hallowed hok
    refine ⟨u, d, by rw [hd, hdelivered], Endpoint.receivedBytes_append hb hbuf hindex hhanded, fun j hj => ?_, hu⟩
    rw [hrec] at hj
    rcases Finset.mem_union.1 hj with hj | hj
    · exact hin j hj
    · have := (Finset.mem_Ico.1 hj).2
      omega
  refine ⟨?_, fun l hl => ?_⟩
  · obtain ⟨t, d, -, happend, -⟩ := hstep _ (List.prefix_refl _)
    rw [happend, List.length_append]
    exact Nat.le_add_right _ _
  · obtain ⟨t, d, hdelivered, happend, hin, ht⟩ := hstep l hl
    exact ⟨t, hdelivered.trans happend.symm, hin, ht⟩

/-- What an accepted packet other than a SYN does to the receiver. -/
inductive Accepts (e : Endpoint) (p : TCPPacket) (e' : Endpoint) : Prop
  | fin (hfin : p.fin = true) (hn : e'.rc.rcvNxt = p.sequenceNumber + 1)
      (hw : e'.rc.receiveWindow = e.rc.receiveWindow) (hr : e'.receivedBytes = e.receivedBytes)
  | data (hdata : p.IsData) (h : e.receiveView.data p = .ok e'.receiveView)
  | same (hn : e'.rc.rcvNxt = e.rc.rcvNxt) (hw : e'.rc.receiveWindow = e.rc.receiveWindow)
      (hr : e'.receivedBytes = e.receivedBytes)

theorem accepts_of_receive {e : Endpoint} (hb : e.receiveView.Balanced) (hsyn : p.syn = false)
    (h : e.receiveView.receive p = .ok e'.receiveView) (hhanded : handedBytes e'.dispatched = handedBytes e.dispatched) :
    Accepts e p e' := by
  have hreceived (hbuf : e'.socket.receiveBuffer = e.socket.receiveBuffer)
      (hindex : e'.rc.receiveIndex = e.rc.receiveIndex) : e'.receivedBytes = e.receivedBytes := by
    rw [Endpoint.receivedBytes_append (l := []) hb (by rw [hbuf, List.append_nil]) hindex hhanded, List.append_nil]
  unfold ReceiveView.receive at h
  rw [hsyn, Bool.false_or] at h
  split at h
  · rename_i hfin
    have hview := (Except.ok.inj h).symm
    refine .fin hfin (congrArg ReceiveView.rcvNxt hview) ?_
      (hreceived (congrArg ReceiveView.receiveBuffer hview) (congrArg ReceiveView.receiveIndex hview))
    have hwindow : e'.rc.receiveWindow = _ := congrArg ReceiveView.receiveWindow hview
    rw [hwindow]
    simp [ReceiveView.controlBits, hsyn, Endpoint.receiveView]
  · rename_i hfin
    split at h
    · rename_i hlen
      exact .data ⟨hsyn, by simpa using hfin, hlen⟩ h
    · have hview := (Except.ok.inj h).symm
      exact .same (congrArg ReceiveView.rcvNxt hview) (congrArg ReceiveView.receiveWindow hview)
        (hreceived (congrArg ReceiveView.receiveBuffer hview) (congrArg ReceiveView.receiveIndex hview))

theorem StreamInv.receiver (hinv : StreamInv s) (hen : flightMachine.enabled (.receiver i) s)
    (hc : streamCondition s (.receiver i)) (hstep : flightMachine.step (.receiver i) s = .ok s') : StreamInv s' := by
  obtain ⟨e', hstep, hs, hsegments, hacks⟩ := receiver_step hstep
  have hsender : s'.1.sender = s.1.sender := by rw [hs]
  have hreceiver : s'.1.receiver = e' := by rw [hs]
  have hsyn : Endpoint.synBeforeData s.1.receiver i := by
    intro p hp ha hsyn
    rw [(hc p hp ha).1] at hsyn
    cases hsyn
  refine ⟨hsender ▸ hinv.sending, hsender ▸ hinv.initialized, hreceiver ▸ hinv.balance.step hen.1 hsyn hstep, ?_, ?_⟩
  · rw [hsegments, hsender]
    exact hinv.carried
  have hstreaming_same (h : Streaming s) (hn : e'.rc.rcvNxt = s.1.receiver.rc.rcvNxt)
      (hw : e'.rc.receiveWindow = s.1.receiver.rc.receiveWindow) (hr : e'.receivedBytes = s.1.receiver.receivedBytes) :
      Streaming s' := by
    refine h.receiver hs hsegments hacks hstep (by rw [hr]) fun l hl => ?_
    obtain ⟨t, hdelivered, hin, ht⟩ := h.reassembly l hl
    exact ⟨t, hdelivered.trans hr.symm, hin, ht.congr hn hw⟩
  have hfinished (hfin : ∃ q ∈ sentPackets s.1.sender.dispatched, q.fin = true ∧ e'.rc.rcvNxt = q.sequenceNumber + 1)
      (hne : e'.rc.receiveWindow.firstExpectedSequenceNumber ≠ e'.rc.rcvNxt)
      (hr : e'.receivedBytes <+: s.1.sender.accepted) : Finished s' := by
    refine ⟨?_, ?_, ?_⟩
    · rw [hsender, hreceiver]
      exact hfin
    · rw [hreceiver]
      exact hne
    · rw [hsender, hreceiver]
      exact hr
  cases Endpoint.step_receivedStep hinv.balance hstep with
  | same hn hw hr =>
    refine hinv.mode.imp (fun h => hstreaming_same h hn hw hr) fun h => ?_
    exact hfinished (hn ▸ h.fin) (by rw [hn, hw]; exact h.unexpected) (hr ▸ h.received)
  | accept p hp ha hok hhanded =>
    obtain ⟨hpsyn, hfresh⟩ := hc p hp ha
    have hb := hinv.balance.balanced
    -- the FIN stands behind all that has been accepted
    have hfinNumber (q : TCPPacket) (hq : q ∈ sentPackets s.1.sender.dispatched) (hfin : q.fin = true) :
        q.sequenceNumber = seqAt (1 + s.1.sender.accepted.length) := ((hinv.sending.sentOk q hq).fin hfin).2
    have hsent : p ∈ sentPackets s.1.sender.dispatched := by
      obtain ⟨f, hf, rfl, -⟩ := hfresh
      exact hinv.carried f hf
    cases accepts_of_receive hb hpsyn hok hhanded with
    | same hn hw hr =>
      refine hinv.mode.imp (fun h => hstreaming_same h hn hw hr) fun h => ?_
      exact hfinished (hn ▸ h.fin) (by rw [hn, hw]; exact h.unexpected) (hr ▸ h.received)
    | fin hfin hn hw hr =>
      refine .inr (hfinished ⟨p, hsent, hfin, hn⟩ ?_ (hr ▸ hinv.received))
      rcases hinv.mode with h | h
      · have hmax : tcpSocketMaxBufferSize = 131071 := rfl
        have hle := h.received_le
        have hroom := h.accepted_le
        rw [hw, h.firstExpected, h.rcvNxt, hn, hfinNumber p hsent hfin]
        have hone : (1 : BitVec 32) = BitVec.ofNat 32 1 := rfl
        rw [hone, seqAt_add, Ne, seqAt_inj (by omega) (by omega)]
        omega
      · obtain ⟨q, hq, hqfin, hnumber⟩ := h.fin
        rw [hw, hn, hfinNumber p hsent hfin, ← hfinNumber q hq hqfin, ← hnumber]
        exact h.unexpected
    | data hdata hok =>
      refine hinv.mode.imp (fun h => ?_) fun h => ?_
      · obtain ⟨hle, hre⟩ := h.data hb hdata hfresh hok hhanded
        exact h.receiver hs hsegments hacks hstep hle hre
      · obtain ⟨hn, hfirst, hbuf, hindex⟩ := ReceiveView.data_unexpected hb.counted hdata.length h.unexpected hok
        have hn : e'.rc.rcvNxt = s.1.receiver.rc.rcvNxt := hn
        have hr : e'.receivedBytes = s.1.receiver.receivedBytes := by
          rw [Endpoint.receivedBytes_append (l := []) hb (by rw [List.append_nil]; exact hbuf) hindex hhanded,
            List.append_nil]
        refine hfinished (hn ▸ h.fin) ?_ (hr ▸ h.received)
        rw [hn]
        exact fun heq => h.unexpected (hfirst.symm.trans heq)

/-! ### Runs -/

theorem StreamInv.step {i : Input} (hinv : StreamInv s) (hen : flightMachine.enabled i s) (hc : streamCondition s i)
    (hstep : flightMachine.step i s = .ok s') : StreamInv s' := by
  cases i with
  | sender i => exact hinv.sender hen hc hstep
  | receiver i => exact hinv.receiver hen hc hstep

end

/-- In the handshake both sides keep their invariants. -/
theorem opening_inv {a b : SocketId} {la ra lb rb : AddressPort} {is : List Input} {c : Connection}
    (h : machine.Run opening ⟨.create a la ra, .create b lb rb⟩ is c) :
    SendInv False c.sender ∧ c.receiver.WindowBalance := by
  refine h.invariant (fun c => SendInv False c.sender ∧ c.receiver.WindowBalance)
    ⟨Endpoint.create_sendInv a la ra, .create b lb rb⟩ fun c i c' hinv hen hc hstep => ?_
  cases i with
  | sender i =>
    obtain ⟨e', hown, hok⟩ := bind_eq_ok.1 hstep
    cases hok
    exact ⟨hinv.1.step hen.1 hc hown, hinv.2⟩
  | receiver i =>
    obtain ⟨e', hown, hok⟩ := bind_eq_ok.1 hstep
    cases hok
    exact ⟨hinv.1, hinv.2.step hen.1 hc hown⟩

/-- A client about to connect to a server. -/
def clientAndServer : Connection := ⟨Endpoint.client, .create 1 Endpoint.serverAddress ⟨0, 0⟩⟩

/-- A segment from the client to the server. -/
def clientSegment (sequenceNumber ackNumber : Nat) (data : List UInt8) : TCPPacket :=
  { TCPPacket.new Endpoint.clientAddress Endpoint.serverAddress data with
    sequenceNumber := BitVec.ofNat 32 sequenceNumber
    ackNumber := BitVec.ofNat 32 ackNumber
    ack := true
    receiveWindowSize := 0xffff }

/-- The client connects, and both sides establish the connection. -/
def handshakeScript : List Input :=
  [.receiver (.listen ⟨1, 5⟩), .sender (.connect ⟨1, Endpoint.serverAddress, Endpoint.clientAddress.address⟩),
    .sender .drain, .receiver (.packet { clientSegment 1 0 [] with syn := true, ack := false }), .receiver .drain,
    .receiver .drain, .sender (.packet { Endpoint.segment 1 2 [] with syn := true }), .sender .drain, .sender .drain,
    .receiver (.packet (clientSegment 2 2 [])), .receiver .drain, .receiver .drain]

/-- A replay of the handshake and of what follows gives runs of them. -/
theorem exists_stream {P : Connection × Flights → Input → Prop} [∀ s i, Decidable (P s i)] {i : List Input}
    {q : Connection × Flights → Bool}
    (h : (machine.replay opening handshakeScript clientAndServer).any (fun c => decide c.Handshake &&
      (flightMachine.replay P i (c, c.firstFlights)).any q) = true) :
    ∃ c s, machine.Run opening clientAndServer handshakeScript c ∧ c.Handshake ∧
      flightMachine.Run P (c, c.firstFlights) i s ∧ q s = true := by
  obtain ⟨c, hopen, h⟩ := Transition.Machine.exists_run h
  rw [Bool.and_eq_true, decide_eq_true_iff] at h
  obtain ⟨s, hrun, hq⟩ := Transition.Machine.exists_run h.2
  exact ⟨c, s, hopen, h.1, hrun, hq⟩

end Connection

end Wifu
