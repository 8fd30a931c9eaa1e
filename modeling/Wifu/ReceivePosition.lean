import Wifu.ReceiveDelivery
import Wifu.WindowEdge

/-!
# Where the receiving side stands

The bytes that have entered the receive buffer are those handed to the application and those that it has not read.  While
`rcv_nxt` is the number that the window expects, accepted data brings the next bytes of the stream; once a FIN has taken
`rcv_nxt` past that number nothing more is brought.
-/

namespace Wifu

/-- A list as a stream; what lies behind its end does not matter. -/
def streamOf (l : List UInt8) (k : Nat) : UInt8 := l.getD k 0

section

variable {l d : List UInt8} {a n : Nat}

theorem slice_streamOf (h : a + n ≤ l.length) : Slice.slice (streamOf l) a n = (l.drop a).take n := by
  refine List.ext_getElem ?_ fun k hk _ => ?_
  · rw [Slice.length_slice, List.length_take, List.length_drop]
    omega
  · rw [Slice.length_slice] at hk
    rw [Slice.getElem_slice, List.getElem_take, List.getElem_drop, Nat.cast_id]
    exact List.getD_eq_getElem l 0 (by omega)

/-- A part of the list is a slice of the stream. -/
theorem eq_slice_of_part (h : d <+: l.drop a) (hne : d ≠ []) :
    a + d.length ≤ l.length ∧ d = Slice.slice (streamOf l) a d.length := by
  have hlen := h.length_le
  have hpos := List.length_pos_iff.2 hne
  rw [List.length_drop] at hlen
  refine ⟨by omega, ?_⟩
  rw [slice_streamOf (by omega)]
  exact List.prefix_iff_eq_take.1 h

end

namespace ReceiveView

variable {v v' : ReceiveView} {p : TCPPacket}

/-- Where `rcv_nxt` is not the number that the window expects, data brings nothing. -/
theorem data_unexpected (hc : v.receiveWindow.Counted) (hp : 0 < p.dataLengthBytes)
    (hne : v.receiveWindow.firstExpectedSequenceNumber ≠ v.rcvNxt) (h : v.data p = .ok v') :
    v'.rcvNxt = v.rcvNxt ∧
      v'.receiveWindow.firstExpectedSequenceNumber = v.receiveWindow.firstExpectedSequenceNumber ∧
      v'.receiveBuffer = v.receiveBuffer ∧ v'.receiveIndex = v.receiveIndex := by
  unfold data at h
  obtain ⟨⟨n, w⟩, hinsert, h⟩ := bind_eq_ok.1 h
  obtain ⟨_, -, h⟩ := bind_eq_ok.1 h
  obtain ⟨⟨l, w'⟩, hget, h⟩ := bind_eq_ok.1 h
  cases h
  have hfirst : w.firstExpectedSequenceNumber = v.receiveWindow.firstExpectedSequenceNumber :=
    (hc.insert hp hinsert).2.2.2.2.2
  unfold TCPPacketBuffer.getContinuousData at hget
  obtain ⟨_, -, hget⟩ := bind_eq_ok.1 hget
  split at hget
  · cases hget
    exact ⟨by simp, hfirst, by simp, rfl⟩
  · -- the number that the window expects is asserted
    obtain ⟨_, hcheck, -⟩ := bind_eq_ok.1 hget
    rw [check_eq_ok, beq_iff_eq, hfirst] at hcheck
    exact absurd hcheck hne

end ReceiveView

namespace Endpoint

/-- The bytes that have entered the receive buffer: those handed to the application, and those it has not read. -/
def receivedBytes (e : Endpoint) : List UInt8 := handedBytes e.dispatched ++ e.unreadBytes

section

variable {e e' : Endpoint} {i : Input}

/-- Bytes appended to the receive buffer. -/
theorem receivedBytes_append {l : List UInt8} (hb : e.receiveView.Balanced)
    (hbuf : e'.socket.receiveBuffer = e.socket.receiveBuffer ++ l) (hindex : e'.rc.receiveIndex = e.rc.receiveIndex)
    (hhanded : handedBytes e'.dispatched = handedBytes e.dispatched) : e'.receivedBytes = e.receivedBytes ++ l := by
  have hle : e.rc.receiveIndex ≤ e.socket.receiveBuffer.length := hb.receiveIndex
  unfold receivedBytes unreadBytes
  rw [hhanded, hbuf, hindex, List.drop_append_of_le_length hle, List.append_assoc]

/-- What a step does to the received bytes. -/
inductive ReceivedStep (e : Endpoint) (i : Input) (e' : Endpoint) : Prop
  | same (hn : e'.rc.rcvNxt = e.rc.rcvNxt) (hw : e'.rc.receiveWindow = e.rc.receiveWindow)
      (hr : e'.receivedBytes = e.receivedBytes)
  | accept (p : TCPPacket) (hp : e.delivered i = some p) (ha : e.accepts p = true)
      (h : e.receiveView.receive p = .ok e'.receiveView)
      (hh : handedBytes e'.dispatched = handedBytes e.dispatched)

theorem step_receivedStep (hw : e.WindowBalance) (hstep : step i e = .ok e') : ReceivedStep e i e' := by
  cases step_traceStep hstep with
  | same _ h =>
    have hview : e'.receiveView = e.receiveView := congrArg Prod.fst h
    have hhanded : handedBytes e'.dispatched = handedBytes e.dispatched := congrArg Prod.snd h
    refine .same (congrArg ReceiveView.rcvNxt hview) (congrArg ReceiveView.receiveWindow hview) ?_
    have hbuf : e'.socket.receiveBuffer = e.socket.receiveBuffer ++ [] := by
      rw [List.append_nil]
      exact congrArg ReceiveView.receiveBuffer hview
    have happend := receivedBytes_append hw.balanced hbuf (congrArg ReceiveView.receiveIndex hview) hhanded
    rw [happend, List.append_nil]
  | accept p hp ha h hh => exact .accept p hp ha h hh
  | read n _ h =>
    obtain ⟨-, h⟩ := h
    have hview : e'.receiveView = e.receiveView.read n := congrArg Prod.fst h
    have hhanded : handedBytes e'.dispatched = _ := congrArg Prod.snd h
    refine .same (congrArg ReceiveView.rcvNxt hview) (congrArg ReceiveView.receiveWindow hview) ?_
    have hunread : e'.unreadBytes = e.unreadBytes.drop n := by
      have hdrop := read_drop e.receiveView n
      rw [← hview] at hdrop
      exact hdrop
    unfold receivedBytes
    rw [hunread, hhanded, List.append_assoc]
    congr 1
    exact List.take_append_drop n _
  | moved _ hq h =>
    have hview : e'.receiveView = e.receiveView.moved := congrArg Prod.fst h
    have hhanded : handedBytes e'.dispatched = handedBytes e.dispatched := congrArg Prod.snd h
    -- a connection that waits for its socket has received nothing
    have hempty : e.socket.receiveBuffer = [] := by
      obtain ⟨s, l, r, li, hq⟩ := hq
      refine hw.initiations fun hnil => ?_
      unfold Wifu.initiations at hnil
      rw [List.filter_eq_nil_iff] at hnil
      exact hnil _ (List.mem_of_mem_head? hq) rfl
    have hempty' : e'.socket.receiveBuffer = [] := congrArg ReceiveView.receiveBuffer hview
    refine .same (congrArg ReceiveView.rcvNxt hview) (congrArg ReceiveView.receiveWindow hview) ?_
    unfold receivedBytes unreadBytes
    rw [hhanded, hempty, hempty', List.drop_nil, List.drop_nil]

end

end Endpoint

end Wifu
