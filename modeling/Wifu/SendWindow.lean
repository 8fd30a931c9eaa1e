import Wifu.CongestionWindow

/-!
# The send window and the peer's latest segment

The congestion control keeps the window of the latest acceptable segment in the order of RFC 793, page 72, as long as
every such segment reaches it: the first one must be later than the numbers that the context starts with, and none that
brings something new may be taken for a duplicate ACK or be parked as a FIN.
-/

namespace Wifu

/-! ### The order of segments -/

/-- `q` is later than `p`, or has the same numbers: the bigger sequence number counts, then the bigger ACK number. -/
def TCPPacket.upTo (p q : TCPPacket) : Bool :=
  lessThan p.sequenceNumber q.sequenceNumber ||
    (p.sequenceNumber == q.sequenceNumber && lessThanOrEqual p.ackNumber q.ackNumber)

/-- The later of two segments; the second one when neither is. -/
def TCPPacket.later (p q : TCPPacket) : TCPPacket := if p.upTo q then q else p

/-- The latest of the segments, in the order of their arrival. -/
def latestSegment (received : List TCPPacket) : Option TCPPacket :=
  received.foldl (fun latest p => some (latest.elim p (TCPPacket.later · p))) none

theorem latestSegment_concat (received : List TCPPacket) (p : TCPPacket) :
    latestSegment (received ++ [p]) = some ((latestSegment received).elim p (TCPPacket.later · p)) := by
  unfold latestSegment
  rw [List.foldl_concat]

/-- What the congestion control remembers of the peer's window: the window, SND.WL1 and SND.WL2. -/
def TCPTahoeCongestionControlContext.peerWindow (c : TCPTahoeCongestionControlContext) :
    BitVec 16 × BitVec 32 × BitVec 32 := (c.sndWnd, c.sndWnd1, c.sndWnd2)

/-- The window that a segment advertises, with its numbers. -/
def TCPPacket.advertised (p : TCPPacket) : BitVec 16 × BitVec 32 × BitVec 32 :=
  (p.receiveWindowSize, p.sequenceNumber, p.ackNumber)

namespace Endpoint

/-! ### Handlers that leave the peer's window alone -/

section

variable {e e' : Endpoint} {p : TCPPacket}

theorem sendOnePacket_peerWindow {w : Bool} (h : e.sendOnePacket w = .ok e') :
    e'.ccc.peerWindow = e.ccc.peerWindow := by
  unfold sendOnePacket at h
  obtain ⟨n, -, h⟩ := bind_eq_ok.1 h
  obtain ⟨-, -, h⟩ := bind_eq_ok.1 h
  obtain ⟨-, -, h⟩ := bind_eq_ok.1 h
  obtain ⟨-, -, h⟩ := bind_eq_ok.1 h
  cases h
  rfl

theorem sendPackets_peerWindow (h : e.sendPackets = .ok e') : e'.ccc.peerWindow = e.ccc.peerWindow :=
  sendPackets_invariant (fun f => f.ccc.peerWindow = e.ccc.peerWindow) h rfl fun _ _ hw _ hone =>
    (sendOnePacket_peerWindow hone).trans hw

theorem sendOrProbe_peerWindow (h : e.sendOrProbe = .ok e') : e'.ccc.peerWindow = e.ccc.peerWindow := by
  have hstart : e.startProbeTimer.ccc.peerWindow = e.ccc.peerWindow := by
    unfold startProbeTimer
    split <;> rfl
  have hcancel : e.cancelProbeTimer.ccc.peerWindow = e.ccc.peerWindow := by
    unfold cancelProbeTimer
    split <;> rfl
  unfold sendOrProbe at h
  split at h
  · cases h
    exact hstart
  · exact (sendPackets_peerWindow h).trans hcancel

theorem congestionTimerFired_peerWindow {t : TimeoutEvent} (h : e.congestionTimerFired t = .ok e') :
    e'.ccc.peerWindow = e.ccc.peerWindow := by
  unfold congestionTimerFired at h
  split at h
  · have hprobe := sendOnePacket_peerWindow h
    exact hprobe
  · cases h
    rfl

theorem congestionResendPacket_peerWindow (h : e.congestionResendPacket = .ok e') :
    e'.ccc.peerWindow = e.ccc.peerWindow := by
  unfold congestionResendPacket resendData at h
  obtain ⟨q, -, h⟩ := bind_eq_ok.1 h
  cases h
  rfl

theorem handleProtocolEvent_peerWindow {k : ProtocolEventKind} (h : e.handleProtocolEvent k = .ok e') :
    e'.ccc.peerWindow = e.ccc.peerWindow := by
  unfold handleProtocolEvent at h
  cases k with
  | sendPacket p =>
    simp only at h
    unfold sendPacket at h
    obtain ⟨⟨q, e₁⟩, h₁, h⟩ := bind_eq_ok.1 h
    cases h
    rw [← (AckChange.sendPacket h₁).ccc]
    rfl
  | resendPacket r => exact congestionResendPacket_peerWindow h
  | sendBufferNotEmpty => exact sendPackets_peerWindow h
  | sendBufferNotFull =>
    simp only at h
    obtain ⟨-, rfl⟩ | ⟨_, n, -, -, ⟨-, rfl⟩ | ⟨-, rfl⟩⟩ := sendBufferNotFull_ok h <;> rfl
  | receiveBufferNotEmpty =>
    cases h
    obtain heq | ⟨r, -, -, heq⟩ := receiveBufferNotEmpty_cases e
    · rw [heq]
    · rw [heq]
      simp only [createAndDispatchReceivedData_ccc]
  | receiveBufferNotFull =>
    cases h
    obtain ⟨-, heq⟩ | ⟨p, -, -, heq⟩ := receiveBufferNotFull_cases e <;> rw [heq]
    rfl
  | connectionInitiated | connectionEstablished | deleteSocket =>
    cases h
    rfl

/-! ### Receiving a packet -/

/-- The congestion control acts on the ACK of a packet. -/
def reachesCongestion (e : Endpoint) (p : TCPPacket) : Bool :=
  !(p.fin && decide (e.rc.rcvWnd.toNat < maxTcpReceiveWindowSize)) && !isDuplicateAck e.rc p &&
    betweenEqual e.ccc.snd.sndUna p.ackNumber e.ccc.snd.sndMax

/-- The packet is an ACK segment that passes both checks of RFC 793, page 69. -/
def acceptableAck (e : Endpoint) (p : TCPPacket) : Bool :=
  p.validChecksum && p.ack && isValidAckNumber e.rc p && isValidSequenceNumber e.rc p

theorem updateSendWindow_peerWindow (c : TCPTahoeCongestionControlContext) (p : TCPPacket) :
    (updateSendWindow c p).peerWindow =
      if lessThan c.sndWnd1 p.sequenceNumber || (c.sndWnd1 == p.sequenceNumber && lessThanOrEqual c.sndWnd2 p.ackNumber)
      then p.advertised else c.peerWindow := by
  unfold updateSendWindow
  simp only [Bool.or_eq_true, Bool.and_eq_true, beq_iff_eq]
  split <;> rfl

theorem setCwnd_peerWindow {c c' : TCPTahoeCongestionControlContext} (h : setCwnd c = .ok c') :
    c'.peerWindow = c.peerWindow := by
  unfold TCPTahoeCongestionControlContext.peerWindow
  unfold setCwnd at h
  split at h
  · cases h
    rfl
  · obtain ⟨-, -, h⟩ := bind_eq_ok.1 h
    cases h
    rfl

theorem congestionReceivePacket_peerWindow (h : e.congestionReceivePacket p = .ok e') :
    e'.ccc.peerWindow =
      if p.ack && betweenEqual e.ccc.snd.sndUna p.ackNumber e.ccc.snd.sndMax
      then (updateSendWindow e.ccc p).peerWindow else e.ccc.peerWindow := by
  unfold congestionReceivePacket at h
  by_cases hack : (p.ack && betweenEqual e.ccc.snd.sndUna p.ackNumber e.ccc.snd.sndMax) = true
  · rw [if_pos hack] at h
    rw [if_pos hack]
    obtain ⟨ccc, hccc, h⟩ := bind_eq_ok.1 h
    have hwindow : ccc.peerWindow = (updateSendWindow e.ccc p).peerWindow := by
      have hsnd : (updateSendWindow { e.ccc with snd := e.ccc.snd.acknowledge p.ackNumber } p).peerWindow =
          (updateSendWindow e.ccc p).peerWindow := by
        rw [updateSendWindow_peerWindow, updateSendWindow_peerWindow]
        rfl
      unfold acknowledgeSegment at hccc
      simp only at hccc
      split at hccc
      · exact (setCwnd_peerWindow hccc).trans hsnd
      · cases hccc
        exact hsnd
    exact (sendOrProbe_peerWindow h).trans hwindow
  · rw [if_neg hack] at h ⊢
    cases h
    rfl

/-- A packet changes the peer's window when it is an acceptable ACK that reaches the congestion control. -/
theorem receivePacket_peerWindow (h : e.receivePacket p = .ok e') :
    e'.ccc.peerWindow =
      if e.acceptableAck p && e.reachesCongestion p then (updateSendWindow e.ccc p).peerWindow
      else e.ccc.peerWindow := by
  have hnot (hn : (e.acceptableAck p && e.reachesCongestion p) = false) (hsame : e'.ccc = e.ccc) :
      e'.ccc.peerWindow = if e.acceptableAck p && e.reachesCongestion p then (updateSendWindow e.ccc p).peerWindow
        else e.ccc.peerWindow := by
    rw [hn, hsame]
    rfl
  have hcase := receivePacket_cases e p
  rw [h] at hcase
  cases hcase with
  | corrupt hsum h =>
    cases h
    exact hnot (by simp [acceptableAck, hsum]) rfl
  | skipping _ _ hinv h =>
    exact hnot (by simp [acceptableAck, hinv]) (reliabilityReceivePacket_ccc h.symm)
  | lingering _ hseq _ h =>
    cases h
    exact hnot (by simp [acceptableAck, hseq]) (ManagerChange.receivePacket e p).ccc
  | answered _ hseq h =>
    cases h
    exact hnot (by simp [acceptableAck, hseq]) rfl
  | ignored _ hseq h =>
    cases h
    exact hnot (by simp [acceptableAck, hseq]) rfl
  | parked _ _ _ hfin hwnd h =>
    cases h
    exact hnot (by simp [reachesCongestion, hfin, hwnd]) rfl
  | taken hsum hack hseq hfin h =>
    obtain ⟨e₁, h₁, h⟩ := bind_eq_ok.1 h.symm
    obtain ⟨e₂, h₂, h⟩ := bind_eq_ok.1 h
    cases h
    have hccc : (e₁.managerReceivePacket p).ccc = e.ccc :=
      (ManagerChange.receivePacket e₁ p).ccc.trans (reliabilityReceivePacket_ccc h₁)
    have hpark : (p.fin && decide (e.rc.rcvWnd.toNat < maxTcpReceiveWindowSize)) = false := by
      simpa using hfin
    have hvalid : (p.ack && isValidAckNumber e.rc p) = p.ack := by
      cases hp : p.ack
      · rfl
      · rw [hp] at hack
        simpa using hack
    have hreaches : (e.acceptableAck p && e.reachesCongestion p) =
        (!isDuplicateAck e.rc p && (p.ack && betweenEqual e.ccc.snd.sndUna p.ackNumber e.ccc.snd.sndMax)) := by
      unfold acceptableAck reachesCongestion
      rw [hsum, hseq, hpark, Bool.true_and, hvalid]
      cases p.ack <;> cases isDuplicateAck e.rc p <;> simp
    rw [runSavedClose_ccc, hreaches]
    unfold receiveUnlessDuplicate at h₂
    by_cases hdup : isDuplicateAck e.rc p = true
    · rw [if_pos hdup] at h₂
      cases h₂
      rw [hdup, hccc]
      rfl
    · rw [if_neg hdup] at h₂
      rw [congestionReceivePacket_peerWindow h₂, hccc]
      simp [hdup]

/-- What a step does to the peer's window. -/
theorem step_peerWindow {i : Input} (hstep : step i e = .ok e') :
    (e.delivered i = none ∧ e'.ccc.peerWindow = e.ccc.peerWindow) ∨
      ∃ p, e.delivered i = some p ∧ e'.ccc.peerWindow =
        if e.acceptableAck p && e.reachesCongestion p then (updateSendWindow e.ccc p).peerWindow
        else e.ccc.peerWindow := by
  have hsame (hd : e.delivered i = none) (hccc : e'.ccc = e.ccc) :
      (e.delivered i = none ∧ e'.ccc.peerWindow = e.ccc.peerWindow) ∨
        ∃ p, e.delivered i = some p ∧ e'.ccc.peerWindow =
          if e.acceptableAck p && e.reachesCongestion p then (updateSendWindow e.ccc p).peerWindow
          else e.ccc.peerWindow := .inl ⟨hd, by rw [hccc]⟩
  cases step_ok hstep with
  | dropped hd h =>
    cases h
    exact hsame hd rfl
  | skipped _ _ h =>
    cases h
    exact hsame rfl rfl
  | event _ _ _ h =>
    have hwindow := handleProtocolEvent_peerWindow h.symm
    exact .inl ⟨rfl, hwindow⟩
  | @packet _ p ps hd _ _ h =>
    have hwindow := receivePacket_peerWindow (e := { e with redelivered := ps }) h.symm
    exact .inr ⟨p, hd, hwindow⟩
  | listen l _ h =>
    cases h
    exact hsame rfl (ManagerChange.listen e l).ccc
  | connect c _ h =>
    cases h
    refine hsame rfl ?_
    obtain heq | ⟨_, -, -, heq⟩ := managerConnect_cases e c <;> rw [heq]
  | send s _ _ h =>
    refine hsame rfl ?_
    obtain ⟨n, -, ⟨-, rfl⟩ | ⟨-, rfl⟩⟩ := send_ok h.symm <;> rfl
  | receive q _ _ h =>
    refine hsame rfl ?_
    replace h := h.symm
    obtain ⟨-, rfl⟩ | ⟨-, -, rfl⟩ := reliabilityReceive_ok h
    · exact createAndDispatchReceivedData_ccc e q
    · rfl
  | close c _ h =>
    cases h
    refine hsame rfl ?_
    rcases close_cases e c with ⟨-, heq⟩ | ⟨-, heq⟩ <;> rw [heq]
    · exact (ManagerChange.close e).ccc
    · rfl
  | timerFired t _ _ h =>
    refine .inl ⟨rfl, (congestionTimerFired_peerWindow h.symm).trans ?_⟩
    rw [(ManagerChange.timerFired _ t).ccc, (AckChange.timerFired e t).ccc]
  | tick _ _ h =>
    cases h
    exact hsame rfl rfl

end

/-! ### Runs -/

/-- The handshake has begun when the packet is handled. -/
def begun (e : Endpoint) (p : TCPPacket) : Bool :=
  match e.cmc.state with
  | .closed => false
  | .listen => p.syn
  | _ => true

/-- The packet counts: an acceptable ACK segment, received since the handshake began. -/
def counts (s : Endpoint × List TCPPacket) (p : TCPPacket) : Bool :=
  (!s.2.isEmpty || s.1.begun p) && s.1.acceptableAck p

/-- The list of the acceptable ACK segments received since the handshake began. -/
def observeAck (e : Endpoint) (i : Input) (_ : Endpoint) (received : List TCPPacket) : List TCPPacket :=
  match e.delivered i with
  | some p => if counts (e, received) p then received ++ [p] else received
  | none => received

/-- The endpoint with the acceptable ACK segments it has received. -/
def ackMachine : Transition.Machine (Endpoint × List TCPPacket) Input Abort := machine.observed observeAck

instance (i : Input) (s : Endpoint × List TCPPacket) : Decidable (ackMachine.enabled i s) :=
  inferInstanceAs (Decidable (machine.enabled i s.1))

/-- The congestion control takes the window of the packet. -/
def takesWindow (e : Endpoint) (p : TCPPacket) : Bool :=
  e.reachesCongestion p && (lessThan e.ccc.sndWnd1 p.sequenceNumber ||
    (e.ccc.sndWnd1 == p.sequenceNumber && lessThanOrEqual e.ccc.sndWnd2 p.ackNumber))

/-- A segment that becomes the latest one is taken by the congestion control, or brings what it has already. -/
def windowCondition (s : Endpoint × List TCPPacket) (i : Input) : Prop :=
  ∀ p ∈ s.1.delivered i, counts s p = true → (∀ q ∈ latestSegment s.2, q.upTo p = true) →
    s.1.takesWindow p = true ∨ s.1.ccc.peerWindow = p.advertised

instance (s : Endpoint × List TCPPacket) (i : Input) : Decidable (windowCondition s i) :=
  inferInstanceAs (Decidable (∀ p ∈ s.1.delivered i, counts s p = true →
    (∀ q ∈ latestSegment s.2, q.upTo p = true) → _))

/-- The congestion control has the window of the latest segment, and its numbers. -/
def WindowTracked (s : Endpoint × List TCPPacket) : Prop :=
  ∀ q ∈ latestSegment s.2, s.1.ccc.peerWindow = q.advertised

instance (s : Endpoint × List TCPPacket) : Decidable (WindowTracked s) :=
  inferInstanceAs (Decidable (∀ q ∈ latestSegment s.2, _))

section

variable {s t : Endpoint × List TCPPacket} {i : Input} {p : TCPPacket}

/-- A packet that counts leaves the peer's window alone or puts its own there. -/
theorem peerWindow_counted (hp : s.1.delivered i = some p) (hacc : s.1.acceptableAck p = true)
    (hstep : step i s.1 = .ok t.1) :
    t.1.ccc.peerWindow = if s.1.takesWindow p then p.advertised else s.1.ccc.peerWindow := by
  rcases step_peerWindow hstep with ⟨hd, -⟩ | ⟨q, hq, hwindow⟩
  · rw [hp] at hd
    cases hd
  · rw [hp] at hq
    cases hq
    rw [hwindow, updateSendWindow_peerWindow, hacc]
    unfold takesWindow
    cases s.1.reachesCongestion p <;> simp

/-- From a state that has the latest segment's window, a step keeps it exactly when it meets the condition. -/
theorem WindowTracked.step_iff (hw : WindowTracked s) (hstep : ackMachine.step i s = .ok t) :
    windowCondition s i ↔ WindowTracked t := by
  obtain ⟨hs, hobs⟩ := Transition.Machine.observed_step.1 hstep
  unfold observeAck at hobs
  by_cases hcount : ∃ p, s.1.delivered i = some p ∧ counts s p = true
  · obtain ⟨p, hp, hcount⟩ := hcount
    have hacc : s.1.acceptableAck p = true := by
      unfold counts at hcount
      exact (Bool.and_eq_true_iff.1 hcount).2
    have hreceived : t.2 = s.2 ++ [p] := by
      rw [hobs, hp]
      exact if_pos hcount
    have hwindow := peerWindow_counted hp hacc hs
    have hcond : windowCondition s i ↔ ((∀ q ∈ latestSegment s.2, q.upTo p = true) →
        s.1.takesWindow p = true ∨ s.1.ccc.peerWindow = p.advertised) := by
      unfold windowCondition
      rw [hp]
      constructor
      · exact fun h => h p rfl hcount
      · intro h q hq _
        cases hq
        exact h
    have htracked : WindowTracked t ↔
        t.1.ccc.peerWindow = ((latestSegment s.2).elim p (TCPPacket.later · p)).advertised := by
      unfold WindowTracked
      rw [hreceived, latestSegment_concat]
      constructor
      · exact fun h => h _ rfl
      · intro h q hq
        cases hq
        exact h
    -- the packet becomes the latest one, and its window is there exactly if it was taken or was there before
    have hnewest (hupTo : ∀ q ∈ latestSegment s.2, q.upTo p = true) :
        (latestSegment s.2).elim p (TCPPacket.later · p) = p := by
      cases hl : latestSegment s.2 with
      | none => rfl
      | some q => exact if_pos (hupTo q hl)
    rw [hcond, htracked]
    by_cases hupTo : ∀ q ∈ latestSegment s.2, q.upTo p = true
    · rw [hnewest hupTo, hwindow]
      by_cases htakes : s.1.takesWindow p = true
      · rw [if_pos htakes]
        exact iff_of_true (fun _ => .inl htakes) rfl
      · rw [if_neg htakes]
        exact ⟨fun h => (h hupTo).resolve_left htakes, fun h _ => .inr h⟩
    · -- an older packet than the latest is not taken
      obtain ⟨q, hq, hold⟩ : ∃ q, latestSegment s.2 = some q ∧ ¬q.upTo p = true := by
        simpa using hupTo
      have hpeer : s.1.ccc.peerWindow = q.advertised := hw q hq
      have htakes : ¬s.1.takesWindow p = true := by
        have hseq : s.1.ccc.sndWnd1 = q.sequenceNumber := congrArg (·.2.1) hpeer
        have hack : s.1.ccc.sndWnd2 = q.ackNumber := congrArg (·.2.2) hpeer
        intro htakes
        unfold takesWindow at htakes
        rw [hseq, hack] at htakes
        exact hold (Bool.and_eq_true_iff.1 htakes).2
      have hlater : (latestSegment s.2).elim p (TCPPacket.later · p) = q := by
        rw [hq]
        exact if_neg hold
      rw [hlater, hwindow, if_neg htakes]
      exact ⟨fun _ => hpeer, fun _ h => absurd h hupTo⟩
  · have hreceived : t.2 = s.2 := by
      rw [hobs]
      split
      · rename_i p hp
        exact if_neg fun h => hcount ⟨p, hp, h⟩
      · rfl
    have hcond : windowCondition s i := fun p hp hc => absurd ⟨p, hp, hc⟩ hcount
    refine iff_of_true hcond ?_
    unfold WindowTracked
    rw [hreceived]
    intro q hq
    have hpeer := hw q hq
    rcases step_peerWindow hs with ⟨-, hwindow⟩ | ⟨p, hp, hwindow⟩
    · exact hwindow.trans hpeer
    · have hne : s.2 ≠ [] := by
        intro hnil
        rw [hnil] at hq
        cases hq
      have hacc : s.1.acceptableAck p = false := by
        rw [← Bool.not_eq_true]
        intro hacc
        refine hcount ⟨p, hp, ?_⟩
        simp [counts, hacc, hne]
      rw [hwindow, hacc]
      exact hpeer

end

/-- In every run that meets the condition, `snd_wnd` is the window advertised by the latest acceptable ACK segment
since the handshake began.  The condition is exact: the next step leaves the window and the numbers of the latest
segment in place exactly when it meets it. -/
theorem send_window_tracked {id : SocketId} {l r : AddressPort} {is : List Input} {s : Endpoint × List TCPPacket}
    (hrun : ackMachine.Run windowCondition (create id l r, []) is s) :
    (∀ q, latestSegment s.2 = some q → s.1.ccc.sndWnd = q.receiveWindowSize) ∧
      ∀ i t, ackMachine.step i s = .ok t → (windowCondition s i ↔ WindowTracked t) := by
  have hw : WindowTracked s := by
    refine hrun.invariant WindowTracked ?_ fun s i t hw _ hc hstep => (hw.step_iff hstep).1 hc
    intro q hq
    cases hq
  exact ⟨fun q hq => congrArg Prod.fst (hw q hq), fun i t hstep => hw.step_iff hstep⟩

/-- A segment that opens the window, an older one, and a third ACK of one number with data and another window. -/
def windowScript : List Input :=
  connectScript 100 ++ [.packet { segment 101 2 [] with receiveWindowSize := 700 }, .packet (segment 101 1 []),
    .packet { segment 101 2 [7] with receiveWindowSize := 900 }, .drain, .drain]

/-- Three windows are taken, and an older segment is left aside. -/
theorem send_window_tracked_update : ∃ s, ackMachine.Run windowCondition (client, []) windowScript s ∧
    s.1.queue = [] ∧ s.2.length = 3 ∧ s.1.ccc.sndWnd = 900 := by
  have h : (ackMachine.replay windowCondition windowScript (client, [])).any (fun s =>
      decide (s.1.queue = []) && decide (s.2.length = 3) &&
        decide ((latestSegment s.2).map TCPPacket.receiveWindowSize = some 900)) = true := by decide +kernel
  obtain ⟨s, hrun, hq⟩ := Transition.Machine.exists_run h
  simp only [Bool.and_eq_true, decide_eq_true_eq, Option.map_eq_some_iff] at hq
  obtain ⟨⟨hqueue, hlen⟩, q, hq, hwindow⟩ := hq
  exact ⟨s, hrun, hqueue, hlen, ((send_window_tracked hrun).1 q hq).trans hwindow⟩

/-- Three bytes are outstanding, and the fourth ACK of one number in a row closes the window to 700. -/
def duplicateScript : List Input :=
  connectScript 100 ++ [.send ⟨5, [1, 2, 3]⟩, .drain, .drain] ++
    List.replicate 3 (.packet { segment 101 2 [] with receiveWindowSize := 5000 }) ++
    [.packet { segment 101 2 [] with receiveWindowSize := 700 }, .drain, .drain]

/-- When the peer's initial sequence number is half the space, no segment looks later than SND.WL1, which is still 0, and
the window stays closed; and a window update that is taken for a third duplicate ACK is lost. -/
theorem send_window_tracked_stale :
    (∃ s q, ackMachine.Run Transition.anyStep (client, [])
      (connectScript 2147483648 ++ [.packet (segment 2147483649 2 [])]) s ∧ s.1.queue = [] ∧
      latestSegment s.2 = some q ∧ q.receiveWindowSize = 65535 ∧ s.1.ccc.sndWnd = 0) ∧
    ∃ s q, ackMachine.Run Transition.anyStep (client, []) duplicateScript s ∧ s.1.queue = [] ∧
      latestSegment s.2 = some q ∧ q.receiveWindowSize = 700 ∧ s.1.ccc.sndWnd = 5000 := by
  have hstale {is : List Input} {sent kept : BitVec 16}
      (h : (ackMachine.replay Transition.anyStep is (client, [])).any (fun s => decide (s.1.queue = []) &&
        decide ((latestSegment s.2).map TCPPacket.receiveWindowSize = some sent) &&
        decide (s.1.ccc.sndWnd = kept)) = true) :
      ∃ s q, ackMachine.Run Transition.anyStep (client, []) is s ∧ s.1.queue = [] ∧
        latestSegment s.2 = some q ∧ q.receiveWindowSize = sent ∧ s.1.ccc.sndWnd = kept := by
    obtain ⟨s, hrun, hq⟩ := Transition.Machine.exists_run h
    simp only [Bool.and_eq_true, decide_eq_true_eq, Option.map_eq_some_iff] at hq
    obtain ⟨⟨hqueue, q, hq, hwindow⟩, hkept⟩ := hq
    exact ⟨s, q, hrun, hqueue, hq, hwindow, hkept⟩
  exact ⟨hstale (by decide +kernel), hstale (by decide +kernel)⟩

end Endpoint

end Wifu
