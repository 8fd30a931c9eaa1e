import Wifu.SendAssertions

/-!
# What is sent again

`resend_data` reads the SYN and the FIN off the send buffer, where they stand as bytes among those of the application.
Here the buffer is given by its parts, and the segment sent again is compared with what these parts ask for.
-/

namespace Wifu

namespace Endpoint

/-- The send buffer of an outstanding SYN, the application's bytes and an outstanding FIN. -/
def bufferOf (syn : Bool) (app : List UInt8) (fin : Bool) : List UInt8 :=
  (if syn then [synByte] else []) ++ app ++ (if fin then [finByte] else [])

/-- `resend_data` sends an outstanding SYN, else the application's bytes that a segment and the window allow, else an
outstanding FIN. -/
def ResendsFaithfully (e : Endpoint) (syn : Bool) (app : List UInt8) (fin : Bool) : Prop :=
  ∃ p e', e.resendData = .ok e' ∧ e'.queue = e.queue ++ [⟨e.socket.id, .sendPacket p⟩] ∧ p.syn = syn ∧
    p.fin = (!syn && app.isEmpty && fin) ∧ p.data = if syn then [] else app.take (min mss e.ccc.maxAllowedToSend)

/-- A control bit is the next to send, or the application's bytes do not start with the value of one, the window is
open, and the last byte is what it is taken for: a FIN that fits in the segment too, and no FIN where there is none. -/
def readsBackBuffer (e : Endpoint) (syn : Bool) (app : List UInt8) (fin : Bool) : Prop :=
  syn = true ∨ app = [] ∧ fin = true ∨
    app ≠ [] ∧ app.head? ≠ some synByte ∧ app.head? ≠ some finByte ∧ 0 < e.ccc.maxAllowedToSend ∧
      if fin then app.length < min mss e.ccc.maxAllowedToSend else app.getLast? ≠ some finByte

instance (e : Endpoint) (syn : Bool) (app : List UInt8) (fin : Bool) : Decidable (e.readsBackBuffer syn app fin) :=
  inferInstanceAs (Decidable (_ ∨ _))

section

variable {e : Endpoint} {syn fin : Bool} {app : List UInt8}

/-- The segment that is sent again is the packet that `resend_data` makes. -/
theorem resendsFaithfully_iff : e.ResendsFaithfully syn app fin ↔ ∃ p, e.resendPacket = .ok p ∧ p.syn = syn ∧
    p.fin = (!syn && app.isEmpty && fin) ∧ p.data = if syn then [] else app.take (min mss e.ccc.maxAllowedToSend) := by
  unfold ResendsFaithfully
  constructor
  · rintro ⟨p, e', h, hqueue, hp⟩
    unfold resendData at h
    obtain ⟨q, hq, h⟩ := bind_eq_ok.1 h
    cases h
    have htail := List.append_cancel_left hqueue
    cases htail
    exact ⟨p, hq, hp⟩
  · rintro ⟨p, hp, hparts⟩
    have hok : e.resendData = .ok (({ e with
        ccc := { e.ccc with snd := e.ccc.snd.setSndNxt (e.ccc.snd.sndUna + p.sequenceLength) } } : Endpoint).enqueue
        (.sendPacket p)) := by
      unfold resendData
      exact bind_eq_ok.2 ⟨p, hp, rfl⟩
    exact ⟨p, _, hok, rfl, hparts⟩

theorem resendPacket_syn (h : e.socket.sendBuffer.head? = some synByte) :
    e.resendPacket = .ok { TCPPacket.new e.socket.localAddress e.socket.remoteAddress [] with syn := true } := by
  have hne : (!e.socket.sendBuffer.isEmpty) = true := by
    cases hb : e.socket.sendBuffer with
    | nil => simp [hb] at h
    | cons x xs => rfl
  unfold resendPacket
  simp only [check, hne, if_true, h]
  rfl

theorem resendPacket_fin (h : e.socket.sendBuffer.head? = some finByte) :
    e.resendPacket = .ok { TCPPacket.new e.socket.localAddress e.socket.remoteAddress [] with fin := true } := by
  have hne : (!e.socket.sendBuffer.isEmpty) = true := by
    cases hb : e.socket.sendBuffer with
    | nil => simp [hb] at h
    | cons x xs => rfl
  have hsyn : (some finByte = some synByte) = False := by decide
  unfold resendPacket
  simp only [check, hne, if_true, h, hsyn, if_false]
  rfl

/-- Without a control bit in front, a data segment is made: the last byte stays out when it has the value of a FIN. -/
theorem resendPacket_data (hout : e.ccc.snd.numOutstanding = 0) (hne : e.socket.sendBuffer ≠ [])
    (hsyn : e.socket.sendBuffer.head? ≠ some synByte) (hfin : e.socket.sendBuffer.head? ≠ some finByte) :
    e.resendPacket =
      let length := min e.socket.sendBuffer.length (min mss e.ccc.maxAllowedToSend) -
        if e.socket.sendBuffer.getLast? = some finByte then 1 else 0
      if 0 < e.ccc.maxAllowedToSend then
        if 0 < length then
          .ok (TCPPacket.new e.socket.localAddress e.socket.remoteAddress (e.socket.sendBuffer.take length))
        else .error .resendPayloadEmpty
      else .error .resendDataLength := by
  have hpos := List.length_pos_iff.2 hne
  have hempty : (!e.socket.sendBuffer.isEmpty) = true := by simpa using hne
  unfold resendPacket
  simp only [check, hempty, if_true, hsyn, hfin, if_false]
  rw [getResendDataLength_of_rewound hout]
  by_cases hallowed : 0 < e.ccc.maxAllowedToSend
  · rw [if_pos ⟨hpos, hallowed⟩]
    simp only [hallowed, if_true]
    generalize min e.socket.sendBuffer.length (min mss e.ccc.maxAllowedToSend) = length
    by_cases hlast : e.socket.sendBuffer.getLast? = some finByte
    · simp only [hlast, if_true]
      by_cases hlen : 0 < length - 1
      · have hcheck : decide (0 < (length : Int) - 1) = true := by
          rw [decide_eq_true_eq]
          omega
        have hnat : ((length : Int) - 1).toNat = length - 1 := by omega
        simp only [hlen, if_true]
        show (do check (decide (0 < (length : Int) - 1)) _; _) = _
        rw [hcheck, hnat]
        rfl
      · have hcheck : decide (0 < (length : Int) - 1) = false := by
          rw [decide_eq_false_iff_not]
          omega
        simp only [hlen, if_false]
        show (do check (decide (0 < (length : Int) - 1)) _; _) = _
        rw [hcheck]
        rfl
    · simp only [hlast, if_false, Nat.sub_zero]
      by_cases hlen : 0 < length
      · have hcheck : decide (0 < (length : Int)) = true := by
          rw [decide_eq_true_eq]
          omega
        simp only [hlen, if_true]
        show (do check (decide (0 < (length : Int))) _; _) = _
        rw [hcheck]
        rfl
      · have hcheck : decide (0 < (length : Int)) = false := by
          rw [decide_eq_false_iff_not]
          omega
        simp only [hlen, if_false]
        show (do check (decide (0 < (length : Int))) _; _) = _
        rw [hcheck]
        rfl
  · rw [if_neg fun h => hallowed h.2]
    simp only [hallowed, if_false]
    rfl

/-! ### The parts of the buffer -/

@[simp] theorem bufferOf_syn : bufferOf true app fin = synByte :: (app ++ if fin then [finByte] else []) := by
  simp [bufferOf]

@[simp] theorem bufferOf_data : bufferOf false app false = app := by
  simp [bufferOf]

@[simp] theorem bufferOf_fin : bufferOf false app true = app ++ [finByte] := by
  simp [bufferOf]

theorem head?_bufferOf (hne : app ≠ []) : (bufferOf false app fin).head? = app.head? := by
  obtain ⟨x, xs, rfl⟩ := List.exists_cons_of_ne_nil hne
  cases fin <;> simp

/-- A data segment that is made when there is something to send in it. -/
theorem dataSegment_iff {s d : AddressPort} {l l' : List UInt8} {n : Nat} {a : Abort} (hl : l.length ≤ maxDataLength) :
    (∃ p, (if 0 < n then .ok (TCPPacket.new s d l) else .error a : Except Abort TCPPacket) = .ok p ∧ p.syn = false ∧
      p.fin = false ∧ p.data = l') ↔ 0 < n ∧ l = l' := by
  by_cases hn : 0 < n
  · simp only [hn, if_true, true_and]
    constructor
    · rintro ⟨p, h, -, -, hdata⟩
      cases h
      rw [← hdata, TCPPacket.new_data hl]
    · rintro rfl
      exact ⟨_, rfl, rfl, rfl, TCPPacket.new_data hl⟩
  · simp [hn]

theorem resendsFaithfully_syn (hbuf : e.socket.sendBuffer = bufferOf true app fin) :
    e.ResendsFaithfully true app fin := by
  rw [resendsFaithfully_iff]
  refine ⟨_, resendPacket_syn (by rw [hbuf, bufferOf_syn]; rfl), rfl, rfl, rfl⟩

theorem resendsFaithfully_fin (hbuf : e.socket.sendBuffer = bufferOf false [] true) :
    e.ResendsFaithfully false [] true := by
  rw [resendsFaithfully_iff]
  refine ⟨_, resendPacket_fin (by rw [hbuf]; rfl), rfl, rfl, ?_⟩
  rw [List.take_nil]
  rfl

/-- Nothing is outstanding, and the assertion on the send buffer fails. -/
theorem not_resendsFaithfully_empty (hbuf : e.socket.sendBuffer = bufferOf false [] false) :
    ¬e.ResendsFaithfully false [] false := by
  rw [resendsFaithfully_iff]
  rintro ⟨p, h, -⟩
  unfold resendPacket at h
  simp only [hbuf] at h
  cases h

/-- Bytes of the application in front that have the value of a control byte are sent as one. -/
theorem not_resendsFaithfully_control (hbuf : e.socket.sendBuffer = bufferOf false app fin) (hne : app ≠ [])
    (h : app.head? = some synByte ∨ app.head? = some finByte) : ¬e.ResendsFaithfully false app fin := by
  rw [resendsFaithfully_iff]
  rintro ⟨p, hp, hsyn, hfin, -⟩
  have hhead : (bufferOf false app fin).head? = app.head? := head?_bufferOf hne
  rw [← hhead, ← hbuf] at h
  rcases h with h | h
  · rw [resendPacket_syn h] at hp
    cases hp
    cases hsyn
  · rw [resendPacket_fin h] at hp
    cases hp
    simp [hne] at hfin

/-- A data segment takes from the front of the buffer what fits, and leaves one byte out when the last one has the
value of a FIN. -/
theorem resendsFaithfully_data (hbuf : e.socket.sendBuffer = bufferOf false app fin)
    (hout : e.ccc.snd.numOutstanding = 0) (hne : app ≠ []) (hsyn : app.head? ≠ some synByte)
    (hfin : app.head? ≠ some finByte) :
    e.ResendsFaithfully false app fin ↔ 0 < e.ccc.maxAllowedToSend ∧
      if fin then app.length < min mss e.ccc.maxAllowedToSend else app.getLast? ≠ some finByte := by
  have hpos := List.length_pos_iff.2 hne
  have hmss : 0 < mss := by decide
  have hle : mss ≤ maxDataLength := le_rfl
  have hhead : (bufferOf false app fin).head? = app.head? := head?_bufferOf hne
  rw [← hhead, ← hbuf] at hsyn hfin
  have hbne : e.socket.sendBuffer ≠ [] := by
    intro hnil
    rw [hnil] at hbuf
    have hlen := congrArg List.length hbuf
    cases fin with
    | true => simp at hlen
    | false =>
      simp at hlen
      omega
  rw [resendsFaithfully_iff, resendPacket_data hout hbne hsyn hfin]
  have hcontrol : (!false && app.isEmpty && fin) = false := by
    have hfalse : app.isEmpty = false := by simpa using hne
    rw [hfalse]
    rfl
  rw [hcontrol]
  simp only [Bool.false_eq_true, if_false]
  by_cases hallowed : 0 < e.ccc.maxAllowedToSend
  · have hw : min mss e.ccc.maxAllowedToSend ≤ maxDataLength := by omega
    have hw0 : 0 < min mss e.ccc.maxAllowedToSend := by omega
    generalize min mss e.ccc.maxAllowedToSend = window at hw hw0
    simp only [hallowed, if_true, true_and]
    rw [hbuf, dataSegment_iff (by rw [List.length_take]; omega)]
    cases fin with
    | true =>
      have hlast : (app ++ [finByte]).getLast? = some finByte := by simp
      simp only [bufferOf_fin, hlast, if_true, List.length_append, List.length_singleton]
      by_cases hfits : app.length < window
      · -- the whole buffer fits, and the byte left out is the FIN
        have hmin : min (app.length + 1) window - 1 = app.length := by omega
        rw [hmin, List.take_left, List.take_of_length_le (by omega)]
        exact iff_of_true ⟨hpos, rfl⟩ hfits
      · have hmin : min (app.length + 1) window - 1 = window - 1 := by omega
        rw [hmin]
        refine iff_of_false (fun h => ?_) hfits
        have hlen := congrArg List.length h.2
        simp only [List.length_take, List.length_append, List.length_singleton] at hlen
        omega
    | false =>
      simp only [bufferOf_data, Bool.false_eq_true, if_false]
      by_cases hlast : app.getLast? = some finByte
      · simp only [hlast, if_true]
        refine iff_of_false (fun h => ?_) (fun h => h rfl)
        have hlen := congrArg List.length h.2
        simp only [List.length_take] at hlen
        omega
      · simp only [hlast, if_false, Nat.sub_zero]
        refine iff_of_true ⟨by omega, ?_⟩ hlast
        rw [List.take_eq_take_iff]
        omega
  · simp [hallowed]

/-- Sending again is faithful exactly when the send buffer can be read back. -/
theorem resend_faithful (hbuf : e.socket.sendBuffer = bufferOf syn app fin) (hout : e.ccc.snd.numOutstanding = 0) :
    e.ResendsFaithfully syn app fin ↔ e.readsBackBuffer syn app fin := by
  unfold readsBackBuffer
  cases syn with
  | true => simp [resendsFaithfully_syn hbuf]
  | false =>
    by_cases hne : app = []
    · subst hne
      cases fin with
      | true => simp [resendsFaithfully_fin hbuf]
      | false => simp [not_resendsFaithfully_empty hbuf]
    · by_cases hsyn : app.head? = some synByte
      · simp [not_resendsFaithfully_control hbuf hne (.inl hsyn), hne, hsyn]
      · by_cases hfin : app.head? = some finByte
        · simp [not_resendsFaithfully_control hbuf hne (.inr hfin), hne, hfin]
        · rw [resendsFaithfully_data hbuf hout hne hsyn hfin]
          simp [hne, hsyn, hfin]

/-- The client after its connection is open, with the given send buffer outstanding and `snd_nxt` set back. -/
def resending (sendBuffer : List UInt8) : Endpoint :=
  { client with
    socket := ⟨1, clientAddress, serverAddress, sendBuffer, []⟩
    ccc := { snd := ⟨2, 2, 2⟩, sndWnd := 0xffff, cwnd := BitVec.ofNat 32 mss } }

/-- Two bytes and a FIN fit in one segment; the FIN stays out of it. -/
theorem resend_faithful_fin : (resending [1, 2, finByte]).ResendsFaithfully false [1, 2] true :=
  (resend_faithful (e := resending [1, 2, finByte]) rfl rfl).2 (by decide)

/-- The byte 22 is sent again as a SYN: the connected client sends the bytes 22 and 1 and the timer fires.  A last byte
with the value 23 is left out; so is the last byte that fits when a FIN stands behind a whole segment. -/
theorem resend_faithful_control :
    (∃ e, machine.Run Transition.anyStep client (connectScript 100 ++ [.packet (segment 101 2 []), .send ⟨2, [22, 1]⟩,
        .drain, .drain, .timerFired ⟨2, 1⟩, .drain]) e ∧ e.socket.sendBuffer = [22, 1] ∧
      e.queue.filterMap (fun v => match v.kind with
        | .sendPacket p => some (p.syn, p.data)
        | _ => none) = [(true, [])]) ∧
    ¬(resending [22, 1]).ResendsFaithfully false [22, 1] false ∧
    ¬(resending [1, 23]).ResendsFaithfully false [1, 23] false ∧
    ¬(resending (List.replicate mss 1 ++ [finByte])).ResendsFaithfully false (List.replicate mss 1) true := by
  refine ⟨?_, not_resendsFaithfully_control rfl (by decide) (.inl rfl), ?_, ?_⟩
  · have h : (machine.replay Transition.anyStep (connectScript 100 ++ [.packet (segment 101 2 []),
        .send ⟨2, [22, 1]⟩, .drain, .drain, .timerFired ⟨2, 1⟩, .drain]) client).any (fun e =>
          decide (e.socket.sendBuffer = [22, 1]) && decide (e.queue.filterMap (fun v => match v.kind with
            | .sendPacket p => some (p.syn, p.data)
            | _ => none) = [(true, [])])) = true := by decide +kernel
    obtain ⟨e, hrun, hq⟩ := Transition.Machine.exists_run h
    rw [Bool.and_eq_true] at hq
    exact ⟨e, hrun, of_decide_eq_true hq.1, of_decide_eq_true hq.2⟩
  · have hbuf : (resending [1, 23]).socket.sendBuffer = bufferOf false [1, 23] false := rfl
    rw [resendsFaithfully_data hbuf rfl (by decide) (by decide) (by decide)]
    decide
  · have hbuf : (resending (List.replicate mss 1 ++ [finByte])).socket.sendBuffer =
        bufferOf false (List.replicate mss 1) true := bufferOf_fin.symm
    have hhead : (List.replicate mss (1 : UInt8)).head? = some 1 := by
      rw [List.head?_replicate, if_neg (by decide)]
    have hne : List.replicate mss (1 : UInt8) ≠ [] := by
      intro hnil
      rw [hnil] at hhead
      cases hhead
    have hsyn : some (1 : UInt8) ≠ some synByte := by decide
    have hfin : some (1 : UInt8) ≠ some finByte := by decide
    rw [resendsFaithfully_data hbuf rfl hne (by rwa [hhead]) (by rwa [hhead]), List.length_replicate]
    simp

end

end Endpoint

end Wifu
