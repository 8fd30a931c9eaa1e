import Wifu.Conservation
import Wifu.WindowOrder

/-!
# The assertions of the receiving side

Data is accepted without a failed assertion exactly when it `fits`: the window is started, the new bytes are at most
`rcv_wnd`, and the walk of `get_continuous_data` starts where the window does.  This holds in every state that a run
reaches as long as SYNs and data keep the window in order (`keepsOrder`).
-/

namespace Wifu

namespace ReceiveView

open TCPPacket (Near)

/-- The assertions of `handle_data` hold for the packet. -/
structure Fits (v : ReceiveView) (p : TCPPacket) : Prop where
  started : v.receiveWindow.started = true
  window : v.receiveWindow.newBytes p ≤ v.rcvWnd.toNat
  firstExpected : v.receiveWindow.firstExpectedSequenceNumber = v.rcvNxt ∨
    v.receiveWindow.buffer = [] ∧ v.receiveWindow.newBytes p = 0

theorem fits_iff {v : ReceiveView} {p : TCPPacket} : v.Fits p ↔
    v.receiveWindow.started = true ∧ v.receiveWindow.newBytes p ≤ v.rcvWnd.toNat ∧
      (v.receiveWindow.firstExpectedSequenceNumber = v.rcvNxt ∨
        v.receiveWindow.buffer = [] ∧ v.receiveWindow.newBytes p = 0) :=
  ⟨fun h => ⟨h.started, h.window, h.firstExpected⟩, fun h => ⟨h.1, h.2.1, h.2.2⟩⟩

instance (v : ReceiveView) (p : TCPPacket) : Decidable (v.Fits p) := decidable_of_iff' _ fits_iff

/-- The packet is data: it carries no SYN and no FIN. -/
def isData (p : TCPPacket) : Bool := !(p.syn || p.fin) && decide (0 < p.dataLengthBytes)

section

variable {v v' : ReceiveView} {p : TCPPacket}

/-- `get_continuous_data` succeeds on a started window that is empty or starts at the number given. -/
theorem getContinuousData_ok_iff {b : TCPPacketBuffer} {s : BitVec 32} (hs : b.started = true) :
    (∃ r, b.getContinuousData s = .ok r) ↔ b.firstExpectedSequenceNumber = s ∨ b.buffer = [] := by
  have hc : check b.started .notStarted = .ok () := by rw [hs]; rfl
  unfold TCPPacketBuffer.getContinuousData
  rw [hc]
  simp only [bind, Except.bind]
  split
  · rename_i hnil
    simp [hnil]
  · rename_i hnil
    by_cases hf : b.firstExpectedSequenceNumber = s
    · simp [check, hf]
    · simp [check, hf, hnil]

/-- Accepting data near an ordered window succeeds exactly when it fits. -/
theorem data_ok_iff (hb : v.receiveWindow.Counted) (hh : v.receiveWindow.Held)
    (hp : p.Near v.receiveWindow.firstExpectedSequenceNumber) (hd : 0 < p.dataLengthBytes) :
    (∃ v', v.data p = .ok v') ↔ v.Fits p := by
  constructor
  · rintro ⟨v', h⟩
    unfold data at h
    obtain ⟨⟨n, w⟩, h₁, h⟩ := bind_eq_ok.1 h
    obtain ⟨_, h₂, h⟩ := bind_eq_ok.1 h
    obtain ⟨r, h₃, -⟩ := bind_eq_ok.1 h
    have hs : v.receiveWindow.started = true := by
      unfold TCPPacketBuffer.insert at h₁
      obtain ⟨_, hs, -⟩ := bind_eq_ok.1 h₁
      exact check_eq_ok.1 hs
    obtain ⟨w', hins, hstarted, hfirst, -, hempty⟩ := hh.insert hb hp hd hs
    rw [hins] at h₁
    cases h₁
    refine ⟨hs, by simpa using check_eq_ok.1 h₂, ?_⟩
    rcases (getContinuousData_ok_iff hstarted).1 ⟨r, h₃⟩ with hf | hnil
    · exact .inl (hfirst ▸ hf)
    · exact .inr (hempty.1 hnil)
  · rintro ⟨hs, hwnd, hfirst⟩
    obtain ⟨w', hins, hstarted, hfirst', -, hempty⟩ := hh.insert hb hp hd hs
    have hcont : w'.firstExpectedSequenceNumber = v.rcvNxt ∨ w'.buffer = [] := by
      rcases hfirst with hf | hnil
      · exact .inl (hfirst'.trans hf)
      · exact .inr (hempty.2 hnil)
    obtain ⟨r, hr⟩ := (getContinuousData_ok_iff hstarted).2 hcont
    have hcheck : check (decide ((v.receiveWindow.newBytes p : Int) ≤ v.rcvWnd.toNat)) .windowOverflow = .ok () := by
      rw [check_eq_ok, decide_eq_true_eq]
      exact_mod_cast hwnd
    exact ⟨_, bind_eq_ok.2 ⟨_, hins, bind_eq_ok.2 ⟨_, hcheck, bind_eq_ok.2 ⟨r, hr, rfl⟩⟩⟩⟩

/-- Accepted data leaves the window in order. -/
theorem data_held (hb : v.receiveWindow.Counted) (hh : v.receiveWindow.Held)
    (hp : p.Near v.receiveWindow.firstExpectedSequenceNumber) (hd : 0 < p.dataLengthBytes)
    (h : v.data p = .ok v') : v'.receiveWindow.Held := by
  have hfits := (data_ok_iff hb hh hp hd).1 ⟨v', h⟩
  obtain ⟨w', hins, -, hfirst, hordered, -⟩ := hh.insert hb hp hd hfits.started
  unfold data at h
  obtain ⟨⟨n, w⟩, h₁, h⟩ := bind_eq_ok.1 h
  obtain ⟨_, -, h⟩ := bind_eq_ok.1 h
  obtain ⟨⟨l, w''⟩, h₃, h⟩ := bind_eq_ok.1 h
  cases h
  rw [hins] at h₁
  cases h₁
  rw [← hfirst] at hordered
  exact hordered.getContinuousData h₃

/-- Data starts near the first expected number, and a SYN does not move the number while packets are held. -/
def KeepsOrder (v : ReceiveView) (p : TCPPacket) : Prop :=
  v.synKeepsWindow p ∧ (isData p = true → p.Near v.receiveWindow.firstExpectedSequenceNumber)

instance (v : ReceiveView) (p : TCPPacket) : Decidable (v.KeepsOrder p) := inferInstanceAs (Decidable (_ ∧ _))

theorem isData_iff : isData p = true ↔ ¬(p.syn || p.fin) = true ∧ 0 < p.dataLengthBytes := by
  simp [isData]

/-- Accepting a packet keeps the window in order. -/
theorem receive_held (hb : v.receiveWindow.Counted) (hh : v.receiveWindow.Held) (hk : v.KeepsOrder p)
    (h : v.receive p = .ok v') : v'.receiveWindow.Held := by
  unfold receive at h
  split at h
  · cases h
    unfold controlBits
    simp only
    split
    · rename_i hsyn
      rcases hk.1 hsyn with hnil | hfirst
      · refine ⟨⟨?_, ?_, ?_⟩, ?_⟩ <;> simp [TCPPacketBuffer.setFirstSequenceNumber, hnil]
      · unfold TCPPacketBuffer.setFirstSequenceNumber
        rw [← hfirst]
        exact ⟨hh.ordered, hh.ahead⟩
    · exact hh
  · rename_i hc
    split at h
    · rename_i hd
      exact data_held hb hh (hk.2 (isData_iff.2 ⟨hc, hd⟩)) hd h
    · cases h
      exact hh

/-- A packet is accepted without a failed assertion exactly when it fits, if it is data. -/
theorem receive_ok_iff (hb : v.receiveWindow.Counted) (hh : v.receiveWindow.Held) (hk : v.KeepsOrder p) :
    (∃ v', v.receive p = .ok v') ↔ (isData p = true → v.Fits p) := by
  unfold receive
  split
  · rename_i hc
    simp [isData, hc]
  · rename_i hc
    split
    · rename_i hd
      have hdata := isData_iff.2 ⟨hc, hd⟩
      rw [data_ok_iff hb hh (hk.2 hdata) hd]
      simp [hdata]
    · rename_i hd
      simp [isData, hd]

end

end ReceiveView

namespace Endpoint

/-- Accepted data starts near the first expected number, and an accepted SYN does not move the number while packets
are held out of order. -/
def keepsOrder (e : Endpoint) (i : Input) : Prop :=
  ∀ p ∈ e.delivered i, e.accepts p = true → e.receiveView.KeepsOrder p

instance (e : Endpoint) (i : Input) : Decidable (keepsOrder e i) :=
  inferInstanceAs (Decidable (∀ p ∈ e.delivered i, _))

/-- Accepted data fits. -/
def acceptsFitting (e : Endpoint) (i : Input) : Prop :=
  ∀ p ∈ e.delivered i, e.accepts p = true → ReceiveView.isData p = true → e.receiveView.Fits p

instance (e : Endpoint) (i : Input) : Decidable (acceptsFitting e i) :=
  inferInstanceAs (Decidable (∀ p ∈ e.delivered i, _))

/-- A step violates an assertion of the receiving side. -/
def failsReceiving (e : Endpoint) (i : Input) : Bool :=
  match step i e with
  | .error a => a.receiveSide
  | .ok _ => false

/-- The window is counted and in order in every state that a run reaches. -/
theorem run_held {id : SocketId} {l r : AddressPort} {is : List Input} {e : Endpoint}
    (h : machine.Run keepsOrder (create id l r) is e) :
    e.receiveView.Bounded ∧ e.receiveView.receiveWindow.Held := by
  refine h.invariant (fun e => e.receiveView.Bounded ∧ e.receiveView.receiveWindow.Held)
    ⟨create_bounded id l r, ?_⟩ ?_
  · rw [receiveView_create]
    exact ⟨⟨by simp, by simp, .nil⟩, by simp⟩
  · intro e i e' ⟨hb, hh⟩ _ hk hs
    have hstep := step_receiveView hs
    refine ⟨hstep.bounded hb fun p hp ha => (hk p hp ha).1, ?_⟩
    cases hstep with
    | same _ h => exact h ▸ hh
    | accept p hp ha h => exact ReceiveView.receive_held hb.counted hh (hk p hp ha) h
    | read n _ _ h => exact h ▸ hh
    | moved _ _ h => exact h ▸ hh

end Endpoint

end Wifu
