import Wifu.SendAssertions

/-!
# The loop of `send_packets` (`TCPTahoeBaseCongestionControl.cc`)

`send_packets` cuts the unsent bytes of the send buffer into segments until the window is full or nothing is left.  It is
looked at from any state in which the outstanding bytes lie in the send buffer.
-/

namespace Wifu

namespace Endpoint

/-- The bytes that are outstanding: those before the first unsent one. -/
def outstanding (e : Endpoint) : Nat := e.ccc.snd.numOutstanding.toNat

/-- `e'` has sent the segments `ps`, which carry the bytes of the send buffer from the first unsent one on. -/
structure SendsUnsent (e : Endpoint) (ps : List TCPPacket) (e' : Endpoint) : Prop where
  frame : e' = { e with
    ccc := { e.ccc with snd := e'.ccc.snd }
    queue := e.queue ++ ps.map fun p => ⟨e.socket.id, .sendPacket p⟩ }
  sndUna : e'.ccc.snd.sndUna = e.ccc.snd.sndUna
  /-- Each segment has at least one byte and at most `mss`. -/
  made : ∀ p ∈ ps, p = .new e.socket.localAddress e.socket.remoteAddress p.data ∧
    1 ≤ p.dataLengthBytes ∧ p.dataLengthBytes ≤ mss
  outstanding_le : e.outstanding ≤ e'.outstanding
  bytes : ps.flatMap TCPPacket.data =
    (e.socket.sendBuffer.drop e.outstanding).take (e'.outstanding - e.outstanding)

section

variable {e e' e'' : Endpoint} {ps qs : List TCPPacket}

theorem SendsUnsent.refl (e : Endpoint) : SendsUnsent e [] e where
  frame := by simp
  sndUna := rfl
  made := by simp
  outstanding_le := Nat.le_refl _
  bytes := by simp

theorem SendsUnsent.socket (h : SendsUnsent e ps e') : e'.socket = e.socket := by
  rw [h.frame]

theorem SendsUnsent.maxAllowedToSend (h : SendsUnsent e ps e') :
    e'.ccc.maxAllowedToSend = e.ccc.maxAllowedToSend := by
  rw [h.frame]
  rfl

/-- Two stretches of the buffer, one behind the other. -/
theorem SendsUnsent.trans (h : SendsUnsent e ps e') (h' : SendsUnsent e' qs e'') : SendsUnsent e (ps ++ qs) e'' := by
  have hle := h.outstanding_le
  have hle' := h'.outstanding_le
  refine ⟨?_, h'.sndUna.trans h.sndUna, ?_, hle.trans hle', ?_⟩
  · have hframe := h'.frame
    rw [h.frame] at hframe
    simpa using hframe
  · intro p hp
    rcases List.mem_append.1 hp with hp | hp
    · exact h.made p hp
    · rw [← h.socket]
      exact h'.made p hp
  · obtain ⟨a, ha⟩ := Nat.exists_eq_add_of_le hle
    obtain ⟨b, hb⟩ := Nat.exists_eq_add_of_le hle'
    have hsum : e''.outstanding - e.outstanding = a + b := by omega
    have hfirst : e'.outstanding - e.outstanding = a := by omega
    have hsecond : e''.outstanding - e'.outstanding = b := by omega
    rw [List.flatMap_append, h.bytes, h'.bytes, h.socket, hsum, hfirst, hsecond, ha, List.take_add, List.drop_drop]

/-! ### One segment -/

theorem outstanding_iff : e.roomToSend = true ↔
    e.outstanding < e.socket.sendBuffer.length ∧ e.outstanding < e.ccc.maxAllowedToSend :=
  roomToSend_iff

/-- While there is room, the assertions of `send_one_packet` hold. -/
theorem sendOnePacket_succeeds (hroom : e.roomToSend = true) : ∃ e', e.sendOnePacket false = .ok e' := by
  have hallowed := maxAllowedToSend_le e.ccc
  obtain ⟨hunsent, hroom⟩ := roomToSend_iff.1 hroom
  have hint : e.ccc.snd.numOutstanding.toInt = e.ccc.snd.numOutstanding.toNat :=
    BitVec.toInt_eq_toNat_of_lt (by omega)
  have hmax : (maxDataLength : Int) = 1448 := rfl
  have hwnd : (maxTcpReceiveWindowSize : Int) = 65535 := rfl
  obtain ⟨k, hk, hpos, hle⟩ : ∃ k : Nat, min (min (min e.numUnsent maxDataLength) maxTcpReceiveWindowSize)
      (e.ccc.maxAllowedToSend - e.ccc.snd.numOutstanding.toInt) = k ∧ 0 < k ∧
      e.ccc.snd.numOutstanding.toNat + k ≤ e.socket.sendBuffer.length := by
    unfold numUnsent
    refine ⟨min (min (e.socket.sendBuffer.length - e.ccc.snd.numOutstanding.toNat) 1448)
      (e.ccc.maxAllowedToSend - e.ccc.snd.numOutstanding.toNat), ?_, ?_, ?_⟩ <;> omega
  have hlength : e.getSendDataLength false = .ok (k : Int) := by
    unfold getSendDataLength
    simp only [Bool.false_eq_true, if_false, hk]
    exact bind_eq_ok.2 ⟨(), check_eq_ok.2 (decide_eq_true (by omega)), rfl⟩
  have hpayload : ((e.socket.sendBuffer.drop e.ccc.snd.numOutstanding.toNat).take k).length = k := by
    rw [List.length_take, List.length_drop]
    omega
  have hdata : 0 < (TCPPacket.new e.socket.localAddress e.socket.remoteAddress
      ((e.socket.sendBuffer.drop e.ccc.snd.numOutstanding.toInt.toNat).take (k : Int).toNat)).dataLengthBytes := by
    rw [hint, Int.toNat_natCast, Int.toNat_natCast]
    simp only [TCPPacket.new, List.length_take, List.length_drop, maxDataLength, mtu]
    omega
  exact ⟨_, bind_eq_ok.2 ⟨_, hlength, bind_eq_ok.2 ⟨(), check_eq_ok.2 (decide_eq_true (by omega)),
    bind_eq_ok.2 ⟨(), check_eq_ok.2 (decide_eq_true (by omega)),
      bind_eq_ok.2 ⟨(), check_eq_ok.2 (decide_eq_true hdata), rfl⟩⟩⟩⟩⟩

/-- One segment carries the next bytes, and stays within the buffer and the window. -/
theorem sendOnePacket_sends (hroom : e.roomToSend = true) (h : e.sendOnePacket false = .ok e') :
    (∃ p, SendsUnsent e [p] e') ∧ e.outstanding < e'.outstanding ∧
      e'.outstanding ≤ e.socket.sendBuffer.length ∧ e'.outstanding ≤ e.ccc.maxAllowedToSend := by
  have hallowed := maxAllowedToSend_le e.ccc
  obtain ⟨hunsent, hlt⟩ := roomToSend_iff.1 hroom
  obtain ⟨k, hpos, hle, hmax, -, hwnd, rfl⟩ := sendOnePacket_ok h
  replace hwnd := hwnd rfl
  have hint : e.ccc.snd.numOutstanding.toInt = e.ccc.snd.numOutstanding.toNat :=
    BitVec.toInt_eq_toNat_of_lt (by omega)
  unfold numUnsent at hle
  rw [hint] at hle hwnd
  have hmss : mss = 1448 := rfl
  have hmaxData : maxDataLength = 1448 := rfl
  generalize hnew : (({ e with ccc := { e.ccc with
      snd := e.ccc.snd.setSndNxt (e.ccc.snd.sndNxt + BitVec.ofNat 32 k) } } : Endpoint).enqueue
    (.sendPacket (.new e.socket.localAddress e.socket.remoteAddress
      ((e.socket.sendBuffer.drop e.ccc.snd.numOutstanding.toInt.toNat).take k)))) = e'
  have hout : e'.outstanding = e.outstanding + k := by
    rw [← hnew]
    exact OutstandingDataContext.numOutstanding_setSndNxt (by omega)
  have hlength : ((e.socket.sendBuffer.drop e.outstanding).take k).length = k := by
    unfold outstanding
    rw [List.length_take, List.length_drop]
    omega
  have hdata := TCPPacket.new_data (s := e.socket.localAddress) (d := e.socket.remoteAddress) (hlength.trans_le hmax)
  have hdataLength := TCPPacket.new_dataLengthBytes (s := e.socket.localAddress) (d := e.socket.remoteAddress)
    (hlength.trans_le hmax)
  have hdrop : e.ccc.snd.numOutstanding.toInt.toNat = e.outstanding := by rw [hint, Int.toNat_natCast, outstanding]
  rw [hdrop] at hnew
  refine ⟨⟨.new e.socket.localAddress e.socket.remoteAddress ((e.socket.sendBuffer.drop e.outstanding).take k),
    ?_, ?_, ?_, by omega, ?_⟩, by omega, ?_, ?_⟩
  · rw [← hnew]
    rfl
  · rw [← hnew]
    rfl
  · intro p hp
    rw [List.mem_singleton.1 hp, hdata, hdataLength, hlength]
    exact ⟨rfl, by omega, by omega⟩
  · rw [List.flatMap_singleton, hdata, hout, Nat.add_sub_cancel_left]
  · rw [hout]
    unfold outstanding
    omega
  · rw [hout]
    unfold outstanding
    omega

/-! ### The loop -/

/-- The loop ends when there is no room, with fuel for each unsent byte. -/
theorem sendPacketsLoop_sends {fuel : Nat} (hle : e.outstanding ≤ e.socket.sendBuffer.length)
    (hfuel : e.socket.sendBuffer.length ≤ e.outstanding + fuel) :
    ∃ e' ps, sendPacketsLoop fuel e = .ok e' ∧ SendsUnsent e ps e' ∧ e'.roomToSend = false ∧
      e'.outstanding ≤ e.socket.sendBuffer.length ∧ e'.outstanding ≤ max e.outstanding e.ccc.maxAllowedToSend := by
  induction fuel generalizing e with
  | zero =>
    refine ⟨e, [], rfl, .refl e, ?_, hle, Nat.le_max_left _ _⟩
    rw [← Bool.not_eq_true, outstanding_iff]
    omega
  | succ fuel ih =>
    unfold sendPacketsLoop
    by_cases hroom : e.roomToSend = true
    · rw [if_pos hroom]
      obtain ⟨e₁, h₁⟩ := sendOnePacket_succeeds hroom
      obtain ⟨⟨p, hone⟩, hlt, hbuffer, hallowed⟩ := sendOnePacket_sends hroom h₁
      have hsocket := hone.socket
      obtain ⟨e', ps, hloop, hrest, hend, hbuffer', hallowed'⟩ := ih (e := e₁) (by rw [hsocket]; exact hbuffer)
        (by rw [hsocket]; omega)
      rw [hsocket] at hbuffer'
      rw [hone.maxAllowedToSend] at hallowed'
      refine ⟨e', [p] ++ ps, bind_eq_ok.2 ⟨e₁, h₁, hloop⟩, hone.trans hrest, hend, hbuffer', ?_⟩
      omega
    · rw [if_neg hroom]
      exact ⟨e, [], rfl, .refl e, by simpa using hroom, hle, Nat.le_max_left _ _⟩

/-- Once the loop has ended by its condition, more fuel changes nothing. -/
theorem sendPacketsLoop_mono {fuel fuel' : Nat} (h : sendPacketsLoop fuel e = .ok e') (hend : e'.roomToSend = false)
    (hle : fuel ≤ fuel') : sendPacketsLoop fuel' e = .ok e' := by
  induction fuel generalizing e fuel' with
  | zero =>
    cases h
    cases fuel' with
    | zero => rfl
    | succ fuel' =>
      unfold sendPacketsLoop
      rw [hend, if_neg Bool.false_ne_true]
  | succ fuel ih =>
    obtain ⟨n, rfl⟩ : ∃ n, fuel' = n + 1 := ⟨fuel' - 1, by omega⟩
    unfold sendPacketsLoop at h ⊢
    by_cases hroom : e.roomToSend = true
    · rw [if_pos hroom] at h ⊢
      obtain ⟨e₁, h₁, h⟩ := bind_eq_ok.1 h
      exact bind_eq_ok.2 ⟨e₁, h₁, ih h (by omega)⟩
    · rw [if_neg hroom] at h ⊢
      exact h

/-- The sizes are subtracted as signed numbers, which is exact while the buffer has less than 2 ^ 31 bytes. -/
theorem numUnsent_eq_toInt (h : e.socket.sendBuffer.length < 2147483648) :
    e.numUnsent = (BitVec.ofNat 32 e.socket.sendBuffer.length).toInt - e.ccc.snd.numOutstanding.toInt := by
  have hlength : (BitVec.ofNat 32 e.socket.sendBuffer.length).toNat = e.socket.sendBuffer.length := by
    rw [BitVec.toNat_ofNat]
    omega
  have hint := BitVec.toInt_eq_toNat_of_lt (x := BitVec.ofNat 32 e.socket.sendBuffer.length) (by omega)
  rw [hint, hlength, numUnsent]

end

/-- From any state in which the outstanding bytes lie in the send buffer, `send_packets` terminates; its segments have
between 1 and `mss` bytes and carry the bytes of the send buffer from the first unsent one on; and it ends with everything
outstanding or the window full, and with no more outstanding than before or than the window allows. -/
theorem send_bound (e : Endpoint) (h : e.outstanding ≤ e.socket.sendBuffer.length) :
    ∃ e' ps, e.sendPackets = .ok e' ∧
      (∀ fuel, e.socket.sendBuffer.length ≤ fuel → sendPacketsLoop fuel e = .ok e') ∧
      SendsUnsent e ps e' ∧ e'.outstanding ≤ e.socket.sendBuffer.length ∧
      (e'.outstanding = e'.socket.sendBuffer.length ∨ e'.ccc.maxAllowedToSend ≤ e'.outstanding) ∧
      e'.outstanding ≤ max e.outstanding e.ccc.maxAllowedToSend := by
  have hfuel : e.socket.sendBuffer.length ≤ e.outstanding + e.socket.sendBuffer.length := by omega
  obtain ⟨e', ps, hloop, hsends, hend, hbuffer, hallowed⟩ := sendPacketsLoop_sends h hfuel
  refine ⟨e', ps, hloop, fun fuel hle => sendPacketsLoop_mono hloop hend hle, hsends, hbuffer, ?_, hallowed⟩
  rw [← Bool.not_eq_true, outstanding_iff] at hend
  rw [hsends.socket] at hend ⊢
  omega

/-- Three bytes, none of them outstanding, behind a window that is open. -/
def threeUnsent : Endpoint :=
  { client with
    socket := { client.socket with sendBuffer := [1, 2, 3] }
    ccc := { client.ccc with sndWnd := 0xffff } }

theorem send_bound_threeUnsent :
    ∃ e' ps, threeUnsent.sendPackets = .ok e' ∧ e'.outstanding = 3 ∧ ps.flatMap TCPPacket.data = [1, 2, 3] ∧
      SendsUnsent threeUnsent ps e' := by
  obtain ⟨e', ps, hok, -, hsends, hbuffer, hend, -⟩ := send_bound threeUnsent (by decide)
  have hallowed : e'.ccc.maxAllowedToSend = 4344 := hsends.maxAllowedToSend.trans (by decide)
  have hzero : threeUnsent.outstanding = 0 := by decide
  have hlength : threeUnsent.socket.sendBuffer.length = 3 := rfl
  rw [hsends.socket, hallowed] at hend
  have hthree : e'.outstanding = 3 := by omega
  refine ⟨e', ps, hok, hthree, ?_, hsends⟩
  rw [hsends.bytes, hthree, hzero]
  rfl

end Endpoint

end Wifu
