import Wifu.ReceiveView
import Wifu.WindowSize

/-!
# Conservation of the receive window

The receive window, the bytes held out of order and the bytes the application has not read add up to the same number
from step to step: accepted data moves bytes from the first to the second, contiguous data from the second to the
third, and a read from the third back to the first.
-/

namespace Wifu

namespace ReceiveView

/-- The receive window, the bytes held out of order and the unread bytes together. -/
def total (v : ReceiveView) : Int := v.rcvWnd.toNat + v.receiveWindow.windowSize + v.unread

/-- What accepted data does: `n` bytes are new and the bytes `l` become contiguous. -/
structure DataStep (v : ReceiveView) (l : List UInt8) (v' : ReceiveView) : Prop where
  counted : v'.receiveWindow.Counted
  started : v.receiveWindow.started = true ∧ v'.receiveWindow.started = true
  rcvNxt : v'.rcvNxt = v.rcvNxt + BitVec.ofNat 32 l.length
  firstExpected : v'.receiveWindow.firstExpectedSequenceNumber =
    v.receiveWindow.firstExpectedSequenceNumber + BitVec.ofNat 32 l.length
  receiveIndex : v'.receiveIndex = v.receiveIndex
  receiveBuffer : v'.receiveBuffer = v.receiveBuffer ++ l
  balance : v'.rcvWnd.toNat + v'.receiveWindow.windowSize + l.length =
    v.rcvWnd.toNat + v.receiveWindow.windowSize

theorem data_ok {v v' : ReceiveView} {p : TCPPacket} (hc : v.receiveWindow.Counted) (hp : 0 < p.dataLengthBytes)
    (h : v.data p = .ok v') : ∃ l, DataStep v l v' := by
  unfold data at h
  obtain ⟨⟨n, w⟩, h₁, h⟩ := bind_eq_ok.1 h
  obtain ⟨_, h₂, h⟩ := bind_eq_ok.1 h
  obtain ⟨⟨l, w'⟩, h₃, h⟩ := bind_eq_ok.1 h
  cases h
  have h₂ : n ≤ v.rcvWnd.toNat := by simpa using check_eq_ok.1 h₂
  obtain ⟨hcw, hn, hsize, hs, -, hfirst⟩ := hc.insert hp h₁
  obtain ⟨hcw', hsize', hs', -, hfirst'⟩ := hcw.getContinuousData h₃
  refine ⟨l, hcw', ⟨hs, hs'⟩, rfl, ?_, rfl, rfl, ?_⟩
  · rw [hfirst', hfirst]
  · have hwnd : (BitVec.ofInt 16 ((v.rcvWnd.toNat : Int) - n)).toNat = v.rcvWnd.toNat - n.toNat := by
      have hlt := v.rcvWnd.isLt
      rw [BitVec.toNat_ofInt]
      omega
    simp only
    rw [hwnd]
    omega

theorem read_rcvWnd {v : ReceiveView} {n : Nat} (hn : n ≤ v.unread) (hsize : 0 ≤ v.receiveWindow.windowSize)
    (ht : v.total ≤ 65535) : (v.read n).rcvWnd.toNat = v.rcvWnd.toNat + n := by
  unfold total at ht
  simp only [read, BitVec.toNat_add, BitVec.toNat_ofNat]
  omega

theorem read_unread {v : ReceiveView} {n : Nat} (hn : n ≤ v.unread) : (v.read n).unread + n = v.unread := by
  unfold unread at hn ⊢
  unfold read
  simp only
  split
  · simp only [List.length_nil]
    omega
  · omega

/-- The receiving side's numbers are in order and do not exceed the biggest window together. -/
structure Bounded (v : ReceiveView) : Prop where
  counted : v.receiveWindow.Counted
  total_le : v.total ≤ 65535

/-- A SYN is only processed while no packet is held out of order, or when it starts the window where it is. -/
def synKeepsWindow (v : ReceiveView) (p : TCPPacket) : Prop :=
  p.syn = true → v.receiveWindow.buffer = [] ∨ v.receiveWindow.firstExpectedSequenceNumber = p.sequenceNumber + 1

instance (v : ReceiveView) (p : TCPPacket) : Decidable (synKeepsWindow v p) :=
  inferInstanceAs (Decidable (_ → _))

theorem controlBits_window {v : ReceiveView} {p : TCPPacket} (hc : v.receiveWindow.Counted)
    (hsyn : synKeepsWindow v p) :
    (v.controlBits p).receiveWindow.Counted ∧
      (v.controlBits p).receiveWindow.windowSize = v.receiveWindow.windowSize := by
  unfold controlBits
  simp only
  split
  · rename_i hs
    exact hc.setFirstSequenceNumber (hsyn hs)
  · exact ⟨hc, rfl⟩

theorem DataStep.bounded {v v' : ReceiveView} {l : List UInt8} (h : DataStep v l v') (hb : v.Bounded) :
    v'.Bounded := by
  refine ⟨h.counted, ?_⟩
  have hb := hb.total_le
  have hlen : v'.receiveBuffer.length = v.receiveBuffer.length + l.length := by
    rw [h.receiveBuffer, List.length_append]
  have := h.balance
  have := h.receiveIndex
  unfold total unread at hb ⊢
  omega

theorem Bounded.receive {v v' : ReceiveView} {p : TCPPacket} (hb : v.Bounded) (hsyn : synKeepsWindow v p)
    (h : v.receive p = .ok v') : v'.Bounded := by
  unfold ReceiveView.receive at h
  split at h
  · cases h
    obtain ⟨hc, hs⟩ := controlBits_window hb.counted hsyn
    refine ⟨hc, ?_⟩
    have := hb.total_le
    unfold total at this ⊢
    rw [hs]
    exact this
  · split at h
    · rename_i hp
      obtain ⟨l, hl⟩ := data_ok hb.counted hp h
      exact hl.bounded hb
    · cases h
      exact hb

theorem Bounded.read {v : ReceiveView} {n : Nat} (hb : v.Bounded) (hn : n ≤ v.unread) : (v.read n).Bounded := by
  refine ⟨hb.counted, ?_⟩
  have ht := hb.total_le
  have h₁ := read_rcvWnd hn hb.counted.nonneg ht
  have h₂ := read_unread hn
  have h₃ : (v.read n).receiveWindow.windowSize = v.receiveWindow.windowSize := rfl
  unfold total at ht ⊢
  omega

theorem Bounded.moved {v : ReceiveView} (hb : v.Bounded) : v.moved.Bounded := by
  refine ⟨hb.counted, ?_⟩
  have ht := hb.total_le
  have h₂ : v.moved.unread = 0 := by simp [ReceiveView.moved, unread]
  have h₃ : v.moved.receiveWindow.windowSize = v.receiveWindow.windowSize := rfl
  have h₁ : v.moved.rcvWnd = v.rcvWnd := rfl
  unfold total at ht ⊢
  rw [h₁, h₂, h₃]
  omega

end ReceiveView

namespace Endpoint

/-- A step keeps the receiving side's numbers in order. -/
theorem ReceiveStep.bounded {e : Endpoint} {i : Input} {v : ReceiveView} (h : ReceiveStep e i v)
    (hb : e.receiveView.Bounded)
    (hsyn : ∀ p, e.delivered i = some p → e.accepts p = true → e.receiveView.synKeepsWindow p) : v.Bounded := by
  cases h with
  | same _ h => exact h ▸ hb
  | accept p hp ha h => exact hb.receive (hsyn p hp ha) h
  | read n _ hn h => exact h ▸ hb.read hn
  | moved _ _ h => exact h ▸ hb.moved

theorem receiveView_create (id : SocketId) (l r : AddressPort) :
    (create id l r).receiveView = ⟨0, BitVec.ofNat 16 maxTcpReceiveWindowSize, {}, 0, []⟩ := rfl

theorem create_bounded (id : SocketId) (l r : AddressPort) : (create id l r).receiveView.Bounded := by
  rw [receiveView_create]
  refine ⟨⟨?_, .inl ?_⟩, ?_⟩
  · simp
  · simp
  · simp [ReceiveView.total, ReceiveView.unread, TCPPacketBuffer.windowSize, TCPPacketBuffer.sizeLoop,
      maxTcpReceiveWindowSize]

end Endpoint

end Wifu
