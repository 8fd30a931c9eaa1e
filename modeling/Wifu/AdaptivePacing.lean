import Wifu.MissingTimestamp
import Wifu.RateLimiter

/-!
# Adaptive pacing (`TCPAPSendRateLimiter.cc`, `TCPAPRateLimiterContext.cc`)

The rate limiter of `TCPAP` computes its rate from the round trip time of an ACK and from the size of the segment that was
acknowledged.  The size should be found in a map under the ACK number.  No size is ever stored: the comma in
`sendmap[number, size]` makes the size an index into an array of maps (`size_lookup`).

The floating-point computation of the rate is not modelled; an input brings the nanoseconds it results in.  Neither are the
timestamp and the checksum that a packet gets right before it is sent, and the other socket options.
-/

namespace Wifu

/-- What a step of the limiter can stop at. -/
inductive PacingAbort
  /-- An ACK has no timestamp option. -/
  | nullTimestamp
  /-- `find` has returned `end()`, which is dereferenced. -/
  | missingEntry
  deriving DecidableEq, Repr

/-- `TCPAPSendRateLimiter` with its context. -/
structure TCPAPSendRateLimiter where
  sender : PacedSender TCPPacket := {}
  /-- `fixed_rate_`, an unsigned number whose initial value is −1. -/
  fixedRate : BitVec 32 := -1
  echoReply : BitVec 32 := 0
  /-- `sent_sizes_`. -/
  sentSizes : BitVec 32 → Option (BitVec 32) := fun _ => none

namespace TCPAPSendRateLimiter

/-- The bytes of a segment with its headers; a timestamp option takes up three words. -/
def segmentSize (p : TCPPacket) : BitVec 32 :=
  BitVec.ofInt 32 (p.dataLengthBytes + 20 + (if p.timestamp.isSome then 32 else 20))

/-- `sendmap[p->get_tcp_sequence_number(), size]`: the number is discarded and the pointer `sendmap` is indexed with the
size; the map stays as it is. -/
def recordSize (l : TCPAPSendRateLimiter) (_ : TCPPacket) : TCPAPSendRateLimiter := l

/-- `state_send_packet`. -/
def stateSendPacket (l : TCPAPSendRateLimiter) (s : SocketId) (p : TCPPacket) : TCPAPSendRateLimiter :=
  if p.isNakedAck || p.syn then { l with sender := l.sender.dispatchPacket s p }
  else
    let l := l.recordSize p
    { l with sender := l.sender.stateSendPacket s p }

/-- `state_receive_packet` at the time `now`. -/
def stateReceivePacket (l : TCPAPSendRateLimiter) (p : TCPPacket) (now : BitVec 32) (nanos : Int) :
    Except PacingAbort TCPAPSendRateLimiter :=
  if l.fixedRate ≠ 0 then .ok l
  else if p.ack then
    match p.timestamp with
    | none => .error .nullTimestamp
    | some ts =>
      let l := { l with echoReply := ts.timestamp }
      -- a negative round trip time
      if now.toNat < ts.echoReply.toNat then .ok l
      else
        match l.sentSizes p.ackNumber with
        | none => .error .missingEntry
        | some _ => .ok { l with sender := l.sender.setRate 0 nanos }
  else .ok l

inductive Input
  | sendPacket (s : SocketId) (p : TCPPacket)
  | receivePacket (p : TCPPacket) (now : BitVec 32) (nanos : Int)
  | timerFired (t : TimeoutEvent)
  /-- The option for a fixed rate, and the nanoseconds between two packets. -/
  | setFixedRate (rate : BitVec 32) (nanos : Int)
  /-- Another component makes a timer. -/
  | otherTimer

def step : Input → TCPAPSendRateLimiter → Except PacingAbort TCPAPSendRateLimiter
  | .sendPacket s p, l => .ok (l.stateSendPacket s p)
  | .receivePacket p now nanos, l => l.stateReceivePacket p now nanos
  | .timerFired t, l => .ok { l with sender := l.sender.stateTimerFired t }
  | .setFixedRate rate nanos, l => .ok { l with fixedRate := rate, sender := l.sender.setRate 0 nanos }
  | .otherTimer, l => .ok { l with sender := { l.sender with next := l.sender.next + 1 } }

def enabled : Input → TCPAPSendRateLimiter → Prop
  | .timerFired t, l => t.id < l.sender.next
  | _, _ => True

instance : (i : Input) → (l : TCPAPSendRateLimiter) → Decidable (enabled i l)
  | .timerFired t, l => inferInstanceAs (Decidable (t.id < l.sender.next))
  | .sendPacket _ _, _ | .receivePacket _ _ _, _ | .setFixedRate _ _, _ | .otherTimer, _ => .isTrue trivial

def machine : Transition.Machine TCPAPSendRateLimiter Input PacingAbort := ⟨enabled, step⟩

instance (i : Input) (l : TCPAPSendRateLimiter) : Decidable (machine.enabled i l) :=
  inferInstanceAs (Decidable (enabled i l))

/-- The packet has the limiter look up a size: no rate is fixed, and the packet is an ACK whose timestamp comes back no
earlier than it was sent. -/
def looksUp (l : TCPAPSendRateLimiter) (p : TCPPacket) (now : BitVec 32) : Bool :=
  l.fixedRate == 0 && p.ack && p.timestamp.any fun ts => decide (ts.echoReply.toNat ≤ now.toNat)

/-- A size that is looked up is there, and is the one of a data segment that was sent and that the ACK covers. -/
def SizeFound (l : TCPAPSendRateLimiter) (p : TCPPacket) (now : BitVec 32) : Prop :=
  l.looksUp p now = true → ∃ size, l.sentSizes p.ackNumber = some size ∧
    ∃ q ∈ l.sender.packets, 0 < q.dataLengthBytes ∧ segmentSize q = size ∧
      lessThanOrEqual (q.sequenceNumber + q.sequenceLength) p.ackNumber = true

section

variable {l l' : TCPAPSendRateLimiter} {i : Input} {p : TCPPacket} {now : BitVec 32} {nanos : Int}

/-- No step stores a size. -/
theorem step_sentSizes (h : step i l = .ok l') : l'.sentSizes = l.sentSizes := by
  cases i with
  | sendPacket s p =>
    cases h
    unfold stateSendPacket
    split <;> rfl
  | receivePacket p now nanos =>
    replace h : l.stateReceivePacket p now nanos = .ok l' := h
    unfold stateReceivePacket at h
    split_ifs at h with hrate hack
    · cases h
      rfl
    · split at h
      · cases h
      · simp only at h
        split_ifs at h
        · cases h
          rfl
        · split at h
          · cases h
          · cases h
            rfl
    · cases h
      rfl
  | timerFired t =>
    cases h
    rfl
  | setFixedRate rate nanos =>
    cases h
    rfl
  | otherTimer =>
    cases h
    rfl

/-- The map is empty along every run. -/
theorem run_sentSizes {is : List Input} (h : machine.Run Transition.anyStep {} is l) (n : BitVec 32) :
    l.sentSizes n = none :=
  h.invariant (fun l => l.sentSizes n = none) rfl fun _ _ _ hnone _ _ hstep => by rw [step_sentSizes hstep, hnone]

/-- An ACK whose size is looked up stops at an empty map. -/
theorem stateReceivePacket_missingEntry (h : l.sentSizes p.ackNumber = none) :
    l.stateReceivePacket p now nanos = .error .missingEntry ↔ l.looksUp p now = true := by
  unfold stateReceivePacket looksUp
  by_cases hrate : l.fixedRate = 0
  · by_cases hack : p.ack = true
    · rw [if_neg (not_not.2 hrate), if_pos hack, hrate, hack]
      cases hts : p.timestamp with
      | none => simp
      | some ts =>
        by_cases hlt : now.toNat < ts.echoReply.toNat
        · simp [hlt]
        · simp [hlt, h]
          omega
    · rw [if_neg (not_not.2 hrate), if_neg hack]
      simp [hack]
  · rw [if_pos hrate, beq_eq_false_iff_ne.2 hrate]
    simp

/-- The limiter stops at a missing timestamp as `PacedEndpoint` says. -/
theorem stateReceivePacket_nullTimestamp {c : PacedEndpoint} (h : c.fixedRate = l.fixedRate) :
    l.stateReceivePacket p now nanos = .error .nullTimestamp ↔
      c.rateLimiterReceivePacket p = .error .nullTimestamp := by
  rw [PacedEndpoint.rateLimiterReceivePacket_nullTimestamp, h]
  unfold stateReceivePacket
  by_cases hrate : l.fixedRate = 0
  · by_cases hack : p.ack = true
    · rw [if_neg (not_not.2 hrate), if_pos hack]
      cases hts : p.timestamp with
      | none => simp [hrate, hack]
      | some ts =>
        refine iff_of_false (fun hstop => ?_) (by simp)
        simp only at hstop
        split_ifs at hstop
        split at hstop <;> cases hstop
    · rw [if_neg (not_not.2 hrate), if_neg hack]
      simp [hack]
  · rw [if_pos hrate]
    exact iff_of_false (fun hstop => by cases hstop) fun hstop => hrate hstop.1

/-- Along every run, the size for an ACK is found only when none is looked up; otherwise the limiter stops at the missing
entry. -/
theorem size_lookup {is : List Input} (h : machine.Run Transition.anyStep {} is l) (p : TCPPacket) (now : BitVec 32)
    (nanos : Int) :
    (l.SizeFound p now ↔ l.looksUp p now = false) ∧
      (step (.receivePacket p now nanos) l = .error .missingEntry ↔ l.looksUp p now = true) := by
  have hnone := run_sentSizes h p.ackNumber
  refine ⟨?_, stateReceivePacket_missingEntry hnone⟩
  constructor
  · intro hfound
    by_contra hlooks
    obtain ⟨size, hsize, -⟩ := hfound (by simpa using hlooks)
    rw [hnone] at hsize
    cases hsize
  · intro hlooks htrue
    rw [hlooks] at htrue
    cases htrue

end

/-- Without a fixed rate, a segment of two bytes is sent. -/
def oneSegment : List Input :=
  [.setFixedRate 0 0, .sendPacket 1 { TCPPacket.new ⟨1, 80⟩ ⟨2, 90⟩ [7, 8] with sequenceNumber := 2, ack := true }]

/-- The ACK of the segment. -/
def oneAck : TCPPacket := { TCPPacket.new ⟨2, 90⟩ ⟨1, 80⟩ [] with ackNumber := 4, ack := true, timestamp := some ⟨9, 5⟩ }

theorem size_missing : ∃ l, machine.Run Transition.anyStep {} oneSegment l ∧
    step (.receivePacket oneAck 8 0) l = .error .missingEntry ∧ ¬l.SizeFound oneAck 8 := by
  have h : (machine.replay Transition.anyStep oneSegment {}).any (fun l =>
      decide (l.sentSizes 4 = none ∧ l.looksUp oneAck 8 = true)) = true := by decide +kernel
  obtain ⟨l, hrun, hq⟩ := Transition.Machine.exists_run h
  obtain ⟨hnone, hlooks⟩ := of_decide_eq_true hq
  refine ⟨l, hrun, (stateReceivePacket_missingEntry hnone).2 hlooks, fun hfound => ?_⟩
  obtain ⟨size, hsize, -⟩ := hfound hlooks
  replace hsize : l.sentSizes 4 = some size := hsize
  rw [hnone] at hsize
  cases hsize

/-- At a time before the one that the ACK echoes no size is looked up. -/
theorem size_lookup_oneSegment : ∃ l, machine.Run Transition.anyStep {} oneSegment l ∧ l.SizeFound oneAck 4 := by
  have h : (machine.replay Transition.anyStep oneSegment {}).any (fun l => decide (l.looksUp oneAck 4 = false)) =
      true := by decide +kernel
  obtain ⟨l, hrun, hq⟩ := Transition.Machine.exists_run h
  exact ⟨l, hrun, (size_lookup hrun oneAck 4 0).1.2 (of_decide_eq_true hq)⟩

end TCPAPSendRateLimiter

end Wifu
