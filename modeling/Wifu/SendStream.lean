import Wifu.Outstanding
import Wifu.Tahoe

/-!
# The send stream

The bytes accepted from the application, the segments sent and the segments still waiting in the queue.  The stream of
an endpoint is its SYN byte, the accepted bytes and, once a FIN has been sent, its FIN byte; the segments in the queue
take up the positions from `snd_nxt` of the reliability context to that of the congestion control (`Pending`).
-/

namespace Wifu

/-! ### Segments -/

namespace TCPPacket

/-- A segment that takes up no sequence number. -/
structure IsEmpty (p : TCPPacket) : Prop where
  syn : p.syn = false
  fin : p.fin = false
  length : p.dataLengthBytes = 0

structure IsSyn (p : TCPPacket) : Prop where
  syn : p.syn = true
  fin : p.fin = false

structure IsFin (p : TCPPacket) : Prop where
  syn : p.syn = false
  fin : p.fin = true

/-- A segment with data and no control bit. -/
structure IsData (p : TCPPacket) : Prop where
  syn : p.syn = false
  fin : p.fin = false
  length : 0 < p.dataLengthBytes

theorem isEmpty_new (s d : AddressPort) : (new s d []).IsEmpty := ⟨rfl, rfl, rfl⟩

theorem IsData.length_data {p : TCPPacket} (h : p.IsData) :
    0 < p.data.length ∧ BitVec.ofInt 32 p.dataLengthBytes = BitVec.ofNat 32 p.data.length := by
  have hlen := p.length_data
  have hpos := h.length
  refine ⟨by omega, ?_⟩
  rw [← BitVec.ofInt_natCast]
  congr 1
  omega

theorem IsEmpty.data {p : TCPPacket} (h : p.IsEmpty) : p.data = [] := by
  rw [← List.length_eq_zero_iff, p.length_data, h.length]
  rfl

theorem IsEmpty.sequenceLength {p : TCPPacket} (h : p.IsEmpty) : p.sequenceLength = 0 := by
  simp [TCPPacket.sequenceLength, h.syn, h.fin, h.length]

end TCPPacket

/-- Neither accepts bytes nor sends a segment with content. -/
def FrameworkEvent.Silent (f : FrameworkEvent) : Prop := f.accepted = [] ∧ ∀ p ∈ f.sent, p.IsEmpty

theorem FrameworkEvent.Silent.of_none {f : FrameworkEvent} (ha : f.accepted = []) (hs : f.sent = none) : f.Silent :=
  ⟨ha, by simp [hs]⟩

section Silent

variable {d d' : List FrameworkEvent}

theorem acceptedBytes_silent (h : ∀ f ∈ d', f.Silent) : acceptedBytes (d ++ d') = acceptedBytes d := by
  have : acceptedBytes d' = [] := by
    unfold acceptedBytes
    rw [List.flatMap_eq_nil_iff]
    exact fun f hf => (h f hf).1
  rw [acceptedBytes_append, this, List.append_nil]

theorem sentPackets_silent (h : ∀ f ∈ d', f.Silent) : ∀ p ∈ sentPackets d', p.IsEmpty := by
  intro p hp
  obtain ⟨f, hf, hs⟩ := List.mem_filterMap.1 hp
  exact (h f hf).2 p hs

theorem finSent_silent (h : ∀ f ∈ d', f.Silent) : finSent (d ++ d') = finSent d := by
  have : finSent d' = false := by
    unfold finSent
    rw [List.any_eq_false]
    intro p hp
    simp [(sentPackets_silent h p hp).fin]
  unfold finSent at this ⊢
  rw [sentPackets_append, List.any_append, this, Bool.or_false]

end Silent

/-- What a sent segment says about the stream: its number is that of what it carries. -/
structure SentOk (accepted : List UInt8) (p : TCPPacket) : Prop where
  syn : p.syn = true → p.fin = false ∧ p.sequenceNumber = seqAt 0
  fin : p.fin = true → p.syn = false ∧ p.sequenceNumber = seqAt (1 + accepted.length)
  data : p.syn = false → p.fin = false → p.data ≠ [] →
    ∃ k, p.sequenceNumber = seqAt (1 + k) ∧ p.data <+: accepted.drop k

theorem SentOk.of_isEmpty {a : List UInt8} {p : TCPPacket} (h : p.IsEmpty) : SentOk a p := by
  refine ⟨fun hs => ?_, fun hf => ?_, fun _ _ hd => absurd h.data hd⟩
  · rw [h.syn] at hs
    cases hs
  · rw [h.fin] at hf
    cases hf

theorem prefix_drop_append {α : Type} {l a b : List α} {k : Nat} (hl : l ≠ []) (h : l <+: a.drop k) :
    l <+: (a ++ b).drop k := by
  have hk : k ≤ a.length := by
    by_contra hk
    rw [List.drop_eq_nil_of_le (by omega)] at h
    exact hl (List.prefix_nil.1 h)
  rw [List.drop_append_of_le_length hk]
  exact h.trans (List.prefix_append _ _)

/-- More accepted bytes do not change what was sent, as long as no FIN was. -/
theorem SentOk.append {a : List UInt8} {p : TCPPacket} (h : SentOk a p) (hf : p.fin = false) (b : List UInt8) :
    SentOk (a ++ b) p := by
  refine ⟨h.syn, fun hfin => ?_, fun hs hf hd => ?_⟩
  · rw [hf] at hfin
    cases hfin
  · obtain ⟨k, hk, hpre⟩ := h.data hs hf hd
    exact ⟨k, hk, prefix_drop_append hd hpre⟩

/-! ### Segments waiting in the queue -/

/-- The segment that a protocol event sends. -/
def ProtocolEvent.packet (v : ProtocolEvent) : Option TCPPacket :=
  match v.kind with
  | .sendPacket p => some p
  | _ => none

/-- The segments waiting in a queue. -/
def waiting (q : List ProtocolEvent) : List TCPPacket := q.filterMap ProtocolEvent.packet

@[simp] theorem waiting_append (q q' : List ProtocolEvent) : waiting (q ++ q') = waiting q ++ waiting q' := by
  simp [waiting]

/-- The segments take up the stream's positions from `n` to `c`: empty segments, data segments one after the other, or
the SYN sent again. -/
inductive Pending (accepted : List UInt8) : Nat → List TCPPacket → Nat → Prop
  | nil {n : Nat} : Pending accepted n [] n
  | empty {n c : Nat} {p : TCPPacket} {ps : List TCPPacket} (hp : p.IsEmpty) (h : Pending accepted n ps c) :
      Pending accepted n (p :: ps) c
  | syn {p : TCPPacket} {ps : List TCPPacket} (hp : p.IsSyn) (hps : ∀ q ∈ ps, q.IsEmpty) :
      Pending accepted 0 (p :: ps) 1
  | data {k c : Nat} {p : TCPPacket} {ps : List TCPPacket} (hp : p.IsData) (hd : p.data <+: accepted.drop k)
      (h : Pending accepted (1 + k + p.data.length) ps c) : Pending accepted (1 + k) (p :: ps) c

namespace Pending

variable {a : List UInt8} {n c : Nat} {ps qs : List TCPPacket}

theorem of_empty (h : ∀ p ∈ ps, p.IsEmpty) (n : Nat) : Pending a n ps n := by
  induction ps with
  | nil => exact .nil
  | cons p ps ih => exact .empty (h p (by simp)) (ih fun q hq => h q (by simp [hq]))

theorem append_empty (h : Pending a n ps c) (hq : ∀ p ∈ qs, p.IsEmpty) : Pending a n (ps ++ qs) c := by
  induction h with
  | nil => exact of_empty hq _
  | empty hp _ ih => exact .empty hp ih
  | syn hp hps =>
    refine .syn hp fun q hq' => ?_
    rcases List.mem_append.1 hq' with hq' | hq'
    · exact hps q hq'
    · exact hq q hq'
  | data hp hd _ ih => exact .data hp hd ih

theorem empty_append (h : Pending a n qs c) (hp : ∀ p ∈ ps, p.IsEmpty) : Pending a n (ps ++ qs) c := by
  induction ps with
  | nil => exact h
  | cons p ps ih => exact .empty (hp p (by simp)) (ih fun q hq => hp q (by simp [hq]))

/-- A data segment behind others, none of which is the SYN. -/
theorem append_data (h : Pending a n ps c) (hsyn : ∀ p ∈ ps, p.syn = false) {k : Nat} (hc : c = 1 + k)
    {p : TCPPacket} (hp : p.IsData) (hd : p.data <+: a.drop k) : Pending a n (ps ++ [p]) (c + p.data.length) := by
  induction h with
  | nil =>
    subst hc
    exact .data hp hd .nil
  | empty hq _ ih => exact .empty hq (ih (fun q hq => hsyn q (by simp [hq])) hc)
  | syn hq _ =>
    have := hsyn _ (List.mem_cons_self)
    rw [hq.syn] at this
    cases this
  | data hq hd' _ ih => exact .data hq hd' (ih (fun q hq => hsyn q (by simp [hq])) hc)

theorem mono (h : Pending a n ps c) (b : List UInt8) : Pending (a ++ b) n ps c := by
  induction h with
  | nil => exact .nil
  | empty hp _ ih => exact .empty hp ih
  | syn hp hps => exact .syn hp hps
  | data hp hd _ ih =>
    refine .data hp (prefix_drop_append ?_ hd) ih
    have := hp.length_data.1
    rintro h
    simp [h] at this

theorem le (h : Pending a n ps c) : n ≤ c := by
  induction h with
  | nil => exact Nat.le_refl _
  | empty _ _ ih => exact ih
  | syn => exact Nat.zero_le 1
  | data _ _ _ ih => omega

theorem le_length (h : Pending a n ps c) (hn : n ≤ 1 + a.length) : c ≤ 1 + a.length := by
  induction h with
  | nil => exact hn
  | empty _ _ ih => exact ih hn
  | syn => omega
  | data hp hd _ ih =>
    refine ih ?_
    have := hd.length_le
    rw [List.length_drop] at this
    have := hp.length_data.1
    omega

/-- Nothing but empty segments waits when both ends are the same. -/
theorem all_empty (h : Pending a n ps n) : ∀ p ∈ ps, p.IsEmpty := by
  generalize hc : n = c at h
  have h' : Pending a n ps c := by rw [hc]; exact h
  clear h
  induction h' with
  | nil => simp
  | empty hp h ih =>
    intro q hq
    rcases List.mem_cons.1 hq with rfl | hq
    · exact hp
    · exact ih hc q hq
  | syn => omega
  | data hp _ h _ =>
    have := h.le
    have := hp.length_data.1
    omega

end Pending

end Wifu
