import Wifu.ShimRefusal
import Wifu.Lib.Loop

/-!
# Option walks of the core library (`core/src/packet/tcppacket.cc`)

`set_tcp_maxseg_option` and `get_tcp_timestamp_option` walk over the options of a TCP header with a pointer and the number
of bytes that are left.  The byte behind a kind is read before the number is looked at: when the last byte of the options
is a kind, the byte behind the header is read (`EndsInKind`).  And the maximum segment size is reduced modulo `2 ^ 16`.
-/

namespace Wifu

open ByteMemory Slice

namespace Core

/-- `tcp_timestamp_option`. -/
structure TcpTimestampOption where
  tsVal : BitVec 32
  tsEcr : BitVec 32
  deriving DecidableEq, Repr

/-- The variables of a walk, and the positions of the buffer that it has read and written. -/
structure OptionWalk where
  ptr : Nat
  length : Int
  payload : Nat → UInt8
  /-- What `ts_option` points to, once it is filled. -/
  timestamp : Option TcpTimestampOption := none
  reads : List Nat := []
  writes : List Nat := []

namespace OptionWalk

/-- `*ptr++`, without the byte. -/
def next (w : OptionWalk) : OptionWalk := { w with ptr := w.ptr + 1, reads := w.reads ++ [w.ptr] }

/-- A round of a walk that looks for an option of the given kind and size: `found` is done there. -/
def pass (kind : UInt8) (size : Nat) (found : OptionWalk → OptionWalk) (w : OptionWalk) :
    Except Empty (ForInStep OptionWalk) :=
  if 0 < w.length then
    let opcode := w.payload w.ptr
    let w := w.next
    if opcode = 0 then .ok (.done w)
    else if opcode = 1 then .ok (.yield { w with length := w.length - 1 })
    else
      let opsize := (w.payload w.ptr).toNat
      let w := w.next
      if opsize < 2 then .ok (.done w)
      else if w.length < opsize then .ok (.done w)
      else if opcode = kind then .ok (.done (if opsize = size then found w else w))
      else .ok (.yield { w with ptr := w.ptr + (opsize - 2), length := w.length - opsize })
  else .ok (.done w)

/-- At a maximum segment size. -/
def reduceMaxseg (extra : BitVec 16) (w : OptionWalk) : OptionWalk :=
  { w with
    payload := write w.payload w.ptr (bigEndianBytes (bigEndian w.payload w.ptr - extra))
    reads := w.reads ++ [w.ptr, w.ptr + 1]
    writes := w.writes ++ [w.ptr, w.ptr + 1] }

/-- At a timestamp. -/
def copyTimestamp (w : OptionWalk) : OptionWalk :=
  { w with
    timestamp := some ⟨littleEndian32 w.payload w.ptr, littleEndian32 w.payload (w.ptr + 4)⟩
    reads := w.reads ++ List.range' w.ptr 8 }

/-- The loop of `set_tcp_maxseg_option`. -/
def maxsegPass (extra : BitVec 16) : OptionWalk → Except Empty (ForInStep OptionWalk) := pass 2 4 (reduceMaxseg extra)

/-- The loop of `get_tcp_timestamp_option`. -/
def timestampPass : OptionWalk → Except Empty (ForInStep OptionWalk) := pass 8 10 copyTimestamp

end OptionWalk

/-! ### Options that end in a kind -/

/-- No-operations and whole options of other kinds than the one that is looked for, and then one byte that is the kind of
an option. -/
inductive EndsInKind (kind : UInt8) : List UInt8 → Prop
  | last {opcode : UInt8} : opcode ≠ 0 → opcode ≠ 1 → EndsInKind kind [opcode]
  | noOperation {bytes : List UInt8} : EndsInKind kind bytes → EndsInKind kind (1 :: bytes)
  | option {opcode opsize : UInt8} {data bytes : List UInt8} : opcode ≠ 0 → opcode ≠ 1 → opcode ≠ kind →
      opsize.toNat = data.length + 2 → EndsInKind kind bytes → EndsInKind kind (opcode :: opsize :: (data ++ bytes))

section

variable {kind opcode opsize : UInt8} {bytes : List UInt8}

theorem not_endsInKind_nil : ¬EndsInKind kind [] := by
  intro h
  cases h

theorem not_endsInKind_end : ¬EndsInKind kind (0 :: bytes) := by
  intro h
  cases h <;> contradiction

theorem endsInKind_noOperation : EndsInKind kind (1 :: bytes) ↔ EndsInKind kind bytes := by
  constructor
  · intro h
    cases h with
    | last h0 h1 => exact absurd rfl h1
    | noOperation h => exact h
    | option h0 h1 => exact absurd rfl h1
  · exact .noOperation

theorem endsInKind_option (h0 : opcode ≠ 0) (h1 : opcode ≠ 1) : EndsInKind kind (opcode :: opsize :: bytes) ↔
    opcode ≠ kind ∧ 2 ≤ opsize.toNat ∧ opsize.toNat ≤ bytes.length + 2 ∧
      EndsInKind kind (bytes.drop (opsize.toNat - 2)) := by
  constructor
  · intro h
    cases h with
    | noOperation h => exact absurd rfl h1
    | @option _ _ data bytes _ _ hkind hsize h =>
      refine ⟨hkind, by omega, ?_, ?_⟩
      · rw [List.length_append]
        omega
      · rwa [hsize, Nat.add_sub_cancel, List.drop_left]
  · rintro ⟨hkind, htwo, hlength, h⟩
    have hsize : opsize.toNat = (bytes.take (opsize.toNat - 2)).length + 2 := by
      rw [List.length_take]
      omega
    have := EndsInKind.option h0 h1 hkind hsize h
    rwa [List.take_append_drop] at this

end

/-! ### The end of a walk -/

/-- Where a walk with a number of bytes left finds an option of the given kind and size. -/
def optionPosition (kind : UInt8) (size : Nat) : Nat → Nat → Int → (Nat → UInt8) → Option Nat
  | 0, _, _, _ => none
  | fuel + 1, ptr, length, m =>
    if 0 < length then
      if m ptr = 0 then none
      else if m ptr = 1 then optionPosition kind size fuel (ptr + 1) (length - 1) m
      else if (m (ptr + 1)).toNat < 2 then none
      else if length < (m (ptr + 1)).toNat then none
      else if m ptr = kind then if (m (ptr + 1)).toNat = size then some (ptr + 2) else none
      else optionPosition kind size fuel (ptr + (m (ptr + 1)).toNat) (length - (m (ptr + 1)).toNat) m
    else none

/-- A walk from `w` that stands at `v` when it ends: it has read from the options only, and beyond them exactly when they
end in a kind. -/
structure Walked (kind : UInt8) (w v : OptionWalk) : Prop where
  payload : v.payload = w.payload
  writes : v.writes = w.writes
  reads : ∃ rs, v.reads = w.reads ++ rs ∧ (∀ i ∈ rs, w.ptr ≤ i) ∧
    ((∀ i ∈ rs, i < w.ptr + w.length.toNat) ↔ ¬EndsInKind kind (slice w.payload w.ptr w.length.toNat))

/-- How a walk ends: without the option, or with what is done at it. -/
inductive Ending (kind : UInt8) (size : Nat) (found : OptionWalk → OptionWalk) (w v : OptionWalk) : Option Nat → Prop
  | absent : Loop.Breaks (OptionWalk.pass kind size found) w v → Ending kind size found w v none
  | present : Loop.Breaks (OptionWalk.pass kind size found) w (found v) → w.ptr + 2 ≤ v.ptr →
      v.ptr + size ≤ w.ptr + w.length.toNat + 2 → Ending kind size found w v (some v.ptr)

section

variable {kind : UInt8} {size : Nat} {found : OptionWalk → OptionWalk} {w w₁ v : OptionWalk}
  {position : Option Nat}

theorem slice_succ (m : Nat → UInt8) (a n : Nat) : slice m a (n + 1) = m a :: slice m (a + 1) n := by
  rw [Nat.add_comm n 1, slice_add]
  rfl

/-- A round that goes on behind what it has read. -/
theorem Walked.yield (h : Walked kind w₁ v) (rs : List Nat) (hpayload : w₁.payload = w.payload) (hwrites : w₁.writes = w.writes)
    (hreads : w₁.reads = w.reads ++ rs) (hle : w.ptr ≤ w₁.ptr)
    (hend : w₁.ptr + w₁.length.toNat = w.ptr + w.length.toNat)
    (hrs : ∀ i ∈ rs, w.ptr ≤ i ∧ i < w.ptr + w.length.toNat)
    (hkind : EndsInKind kind (slice w.payload w.ptr w.length.toNat) ↔
      EndsInKind kind (slice w.payload w₁.ptr w₁.length.toNat)) : Walked kind w v := by
  obtain ⟨hp, hw, rs₁, hr, hge, hlt⟩ := h
  refine ⟨hp.trans hpayload, hw.trans hwrites, rs ++ rs₁, by rw [hr, hreads, List.append_assoc], ?_, ?_⟩
  · intro i hi
    rcases List.mem_append.1 hi with hi | hi
    · exact (hrs i hi).1
    · exact hle.trans (hge i hi)
  · rw [hkind, ← hpayload, ← hlt, hend, List.forall_mem_append]
    exact and_iff_right fun i hi => (hrs i hi).2

theorem Ending.yield (h : Ending kind size found w₁ v position)
    (hpass : OptionWalk.pass kind size found w = .ok (.yield w₁)) (hle : w.ptr ≤ w₁.ptr)
    (hend : w₁.ptr + w₁.length.toNat = w.ptr + w.length.toNat) : Ending kind size found w v position := by
  cases h with
  | absent hbreaks => exact .absent (hbreaks.yield hpass)
  | present hbreaks hge hsize => exact .present (hbreaks.yield hpass) (by omega) (by omega)

/-! ### One round -/

theorem exists_succ (h : 0 < w.length) : ∃ n, w.length.toNat = n + 1 := ⟨w.length.toNat - 1, by omega⟩

/-- Nothing is left. -/
theorem walked_nil (h : ¬0 < w.length) : Walked kind w w := by
  refine ⟨rfl, rfl, [], by simp, by simp, ?_⟩
  rw [show w.length.toNat = 0 by omega, slice_zero]
  simp [not_endsInKind_nil]

/-- The end of the options. -/
theorem walked_end (h : 0 < w.length) (h0 : w.payload w.ptr = 0) : Walked kind w w.next := by
  obtain ⟨n, hn⟩ := exists_succ h
  refine ⟨rfl, rfl, [w.ptr], rfl, by simp, ?_⟩
  rw [hn, slice_succ, h0]
  simp [not_endsInKind_end]

/-- The bytes of an option of one of the other kinds are stepped over. -/
theorem endsInKind_slice {n : Nat} (h0 : w.payload w.ptr ≠ 0) (h1 : w.payload w.ptr ≠ 1) :
    EndsInKind kind (slice w.payload w.ptr (n + 2)) ↔ w.payload w.ptr ≠ kind ∧ 2 ≤ (w.payload (w.ptr + 1)).toNat ∧
      (w.payload (w.ptr + 1)).toNat ≤ n + 2 ∧ EndsInKind kind (slice w.payload (w.ptr + (w.payload (w.ptr + 1)).toNat)
        (n + 2 - (w.payload (w.ptr + 1)).toNat)) := by
  rw [slice_succ, slice_succ, endsInKind_option h0 h1, length_slice]
  refine and_congr_right fun _ => and_congr_right fun htwo => and_congr_right fun hle => ?_
  obtain ⟨k, hk⟩ := Nat.exists_eq_add_of_le htwo
  obtain ⟨j, rfl⟩ := Nat.exists_eq_add_of_le (show k ≤ n by omega)
  rw [hk, Nat.add_sub_cancel_left, drop_slice]
  have hptr : w.ptr + 1 + 1 + k = w.ptr + (2 + k) := by omega
  have hlength : k + j + 2 - (2 + k) = j := by omega
  rw [Nat.cast_id, hptr, hlength]

/-- The walk stops at an option; when its kind is the last byte, the byte behind has been read. -/
theorem walked_stop (h : 0 < w.length) (h0 : w.payload w.ptr ≠ 0) (h1 : w.payload w.ptr ≠ 1)
    (hstop : (w.payload (w.ptr + 1)).toNat < 2 ∨ w.length < (w.payload (w.ptr + 1)).toNat ∨ w.payload w.ptr = kind) :
    Walked kind w w.next.next := by
  obtain ⟨n, hn⟩ := exists_succ h
  refine ⟨rfl, rfl, [w.ptr, w.ptr + 1], by simp [OptionWalk.next], by simp, ?_⟩
  rw [hn]
  cases n with
  | zero =>
    refine iff_of_false (fun hreads => ?_) (not_not_intro (.last h0 h1))
    have := hreads (w.ptr + 1) (by simp)
    omega
  | succ n =>
    refine iff_of_true (by simp) fun hends => ?_
    obtain ⟨hkind, htwo, hle, -⟩ := (endsInKind_slice h0 h1).1 hends
    rcases hstop with hstop | hstop | hstop
    · omega
    · omega
    · exact hkind hstop

/-- The rest of a walk that steps over an option. -/
theorem Walked.option {opsize : Nat} (h0 : w.payload w.ptr ≠ 0) (h1 : w.payload w.ptr ≠ 1)
    (hkind : w.payload w.ptr ≠ kind) (hopsize : (w.payload (w.ptr + 1)).toNat = opsize) (htwo : 2 ≤ opsize)
    (hle : (opsize : Int) ≤ w.length)
    (h : Walked kind { w.next.next with ptr := w.next.next.ptr + (opsize - 2), length := w.length - opsize } v) :
    Walked kind w v := by
  obtain ⟨n, hn⟩ : ∃ n, w.length.toNat = n + 2 := ⟨w.length.toNat - 2, by omega⟩
  have hptr : w.ptr + 1 + 1 + (opsize - 2) = w.ptr + opsize := by omega
  have hlength : (w.length - opsize).toNat = n + 2 - opsize := by omega
  refine h.yield [w.ptr, w.ptr + 1] rfl rfl (by simp [OptionWalk.next]) ?_ ?_ ?_ ?_
  · simp only [OptionWalk.next]
    omega
  · simp only [OptionWalk.next]
    omega
  · simp only [List.mem_cons, List.not_mem_nil, or_false, forall_eq_or_imp, forall_eq]
    omega
  · simp only [OptionWalk.next, hptr, hlength]
    rw [hn, endsInKind_slice h0 h1, hopsize]
    exact ⟨fun hends => hends.2.2.2, fun hends => ⟨hkind, htwo, by omega, hends⟩⟩

/-- What a round does: it stops without the option, finds it, or goes on with what is left. -/
inductive Round (kind : UInt8) (size : Nat) (found : OptionWalk → OptionWalk) (fuel : Nat) (w : OptionWalk) : Prop
  | stops {v : OptionWalk} : OptionWalk.pass kind size found w = .ok (.done v) → Walked kind w v →
      optionPosition kind size (fuel + 1) w.ptr w.length w.payload = none → Round kind size found fuel w
  | finds : OptionWalk.pass kind size found w = .ok (.done (found w.next.next)) → Walked kind w w.next.next →
      optionPosition kind size (fuel + 1) w.ptr w.length w.payload = some w.next.next.ptr → (size : Int) ≤ w.length →
      Round kind size found fuel w
  | goes {w₁ : OptionWalk} : OptionWalk.pass kind size found w = .ok (.yield w₁) → w₁.length < w.length →
      w.ptr ≤ w₁.ptr → w₁.ptr + w₁.length.toNat = w.ptr + w.length.toNat →
      (∀ v, Walked kind w₁ v → Walked kind w v) →
      optionPosition kind size (fuel + 1) w.ptr w.length w.payload =
        optionPosition kind size fuel w₁.ptr w₁.length w₁.payload → Round kind size found fuel w

theorem round_noOperation (fuel : Nat) (h : 0 < w.length) (h1 : w.payload w.ptr = 1) :
    Round kind size found fuel w := by
  obtain ⟨n, hn⟩ := exists_succ h
  have hn₁ : (w.length - 1).toNat = n := by omega
  have h0 : w.payload w.ptr ≠ 0 := by
    rw [h1]
    decide
  have hpass : OptionWalk.pass kind size found w = .ok (.yield { w.next with length := w.length - 1 }) := by
    simp only [OptionWalk.pass, if_pos h, if_neg h0, if_pos h1]
    rfl
  have hptr : w.ptr + 1 + n = w.ptr + (n + 1) := by omega
  refine .goes hpass (Int.sub_one_lt_of_le (le_refl _)) (Nat.le_succ _) ?_ (fun v hv => ?_) ?_
  · simp only [OptionWalk.next, hn₁, hn, hptr]
  · refine hv.yield [w.ptr] rfl rfl rfl (Nat.le_succ _) ?_ ?_ ?_
    · simp only [OptionWalk.next, hn₁, hn, hptr]
    · simp only [List.mem_singleton, forall_eq]
      omega
    · rw [hn, slice_succ, h1, endsInKind_noOperation]
      simp only [OptionWalk.next, hn₁]
  · rw [optionPosition, if_pos h, if_neg h0, if_pos h1]
    rfl

theorem round_option (fuel : Nat) (h : 0 < w.length) (h0 : w.payload w.ptr ≠ 0) (h1 : w.payload w.ptr ≠ 1) :
    Round kind size found fuel w := by
  have hopsize : w.next.payload w.next.ptr = w.payload (w.ptr + 1) := rfl
  have hleft : w.next.next.length = w.length := rfl
  by_cases hsmall : (w.payload (w.ptr + 1)).toNat < 2
  · refine .stops ?_ (walked_stop h h0 h1 (.inl hsmall)) ?_
    · simp only [OptionWalk.pass, if_pos h, if_neg h0, if_neg h1, hopsize, if_pos hsmall]
    · rw [optionPosition, if_pos h, if_neg h0, if_neg h1, if_pos hsmall]
  by_cases hlarge : w.length < (w.payload (w.ptr + 1)).toNat
  · refine .stops ?_ (walked_stop h h0 h1 (.inr (.inl hlarge))) ?_
    · simp only [OptionWalk.pass, if_pos h, if_neg h0, if_neg h1, hopsize, hleft, if_neg hsmall, if_pos hlarge]
    · rw [optionPosition, if_pos h, if_neg h0, if_neg h1, if_neg hsmall, if_pos hlarge]
  by_cases hkind : w.payload w.ptr = kind
  · have hwalked : Walked kind w w.next.next := walked_stop h h0 h1 (.inr (.inr hkind))
    by_cases hsize : (w.payload (w.ptr + 1)).toNat = size
    · refine .finds ?_ hwalked ?_ (by omega)
      · simp only [OptionWalk.pass, if_pos h, if_neg h0, if_neg h1, hopsize, hleft, if_neg hsmall, if_neg hlarge,
          if_pos hkind, if_pos hsize]
      · rw [optionPosition, if_pos h, if_neg h0, if_neg h1, if_neg hsmall, if_neg hlarge, if_pos hkind, if_pos hsize]
        rfl
    · refine .stops ?_ hwalked ?_
      · simp only [OptionWalk.pass, if_pos h, if_neg h0, if_neg h1, hopsize, hleft, if_neg hsmall, if_neg hlarge,
          if_pos hkind, if_neg hsize]
      · rw [optionPosition, if_pos h, if_neg h0, if_neg h1, if_neg hsmall, if_neg hlarge, if_pos hkind, if_neg hsize]
  · have hptr : w.next.next.ptr + ((w.payload (w.ptr + 1)).toNat - 2) = w.ptr + (w.payload (w.ptr + 1)).toNat := by
      simp only [OptionWalk.next]
      omega
    have hpass : OptionWalk.pass kind size found w = .ok (.yield { w.next.next with
        ptr := w.next.next.ptr + ((w.payload (w.ptr + 1)).toNat - 2)
        length := w.length - (w.payload (w.ptr + 1)).toNat }) := by
      simp only [OptionWalk.pass, if_pos h, if_neg h0, if_neg h1, hopsize, hleft, if_neg hsmall, if_neg hlarge,
        if_neg hkind]
    refine .goes hpass (by simp only; omega) (by simp only [hptr]; omega) (by simp only [hptr]; omega)
      (fun v hv => hv.option h0 h1 hkind rfl (by omega) (by omega)) ?_
    rw [optionPosition, if_pos h, if_neg h0, if_neg h1, if_neg hsmall, if_neg hlarge, if_neg hkind]
    simp only [hptr]
    rfl

theorem round (kind : UInt8) (size : Nat) (found : OptionWalk → OptionWalk) (fuel : Nat) (w : OptionWalk) :
    Round kind size found fuel w := by
  by_cases h : 0 < w.length
  · by_cases h0 : w.payload w.ptr = 0
    · refine .stops ?_ (walked_end h h0) ?_
      · simp only [OptionWalk.pass, if_pos h, if_pos h0]
      · rw [optionPosition, if_pos h, if_pos h0]
    · by_cases h1 : w.payload w.ptr = 1
      · exact round_noOperation fuel h h1
      · exact round_option fuel h h0 h1
  · refine .stops ?_ (walked_nil h) ?_
    · rw [OptionWalk.pass, if_neg h]
    · rw [optionPosition, if_neg h]

/-! ### A whole walk -/

/-- Every walk ends, at the option of the given kind and size that comes first, or without one. -/
theorem walk_ends (kind : UInt8) (size : Nat) (found : OptionWalk → OptionWalk) (w : OptionWalk) {fuel : Nat}
    (hfuel : w.length.toNat ≤ fuel) : ∃ v, Walked kind w v ∧
      Ending kind size found w v (optionPosition kind size fuel w.ptr w.length w.payload) := by
  induction fuel generalizing w with
  | zero =>
    have hlength : ¬0 < w.length := by omega
    exact ⟨w, walked_nil hlength, .absent (.done (by rw [OptionWalk.pass, if_neg hlength]))⟩
  | succ fuel ih =>
    cases round kind size found fuel w with
    | @stops v hpass hwalked hposition =>
      rw [hposition]
      exact ⟨v, hwalked, .absent (.done hpass)⟩
    | finds hpass hwalked hposition hsize =>
      rw [hposition]
      refine ⟨w.next.next, hwalked, .present (.done hpass) (le_refl (w.ptr + 2)) ?_⟩
      show w.ptr + 2 + size ≤ w.ptr + w.length.toNat + 2
      omega
    | @goes w₁ hpass hlt hle hend hwalked hposition =>
      rw [hposition]
      obtain ⟨v, hv, hending⟩ := ih w₁ (by omega)
      exact ⟨v, hwalked v hv, hending.yield hpass hle hend⟩

end

/-! ### The walks of a packet -/

namespace IPPacket

/-- The bytes of the options. -/
def options (p : IPPacket) (tcp : Nat) : List UInt8 := slice p.payload (tcp + 20) (p.optionsLength tcp).toNat

/-- The variables of a walk at its start. -/
def startWalk (p : IPPacket) (tcp : Nat) : OptionWalk :=
  { ptr := tcp + 20, length := p.optionsLength tcp, payload := p.payload }

/-- `set_tcp_maxseg_option` returns. -/
def MaxsegReturns (p : IPPacket) (tcp : Nat) (extra : BitVec 16) (w : OptionWalk) : Prop :=
  if p.isTcpSyn then Loop.Breaks (OptionWalk.maxsegPass extra) (p.startWalk tcp) w else w = p.startWalk tcp

/-- `get_tcp_timestamp_option` returns. -/
def TimestampReturns (p : IPPacket) (tcp : Nat) (w : OptionWalk) : Prop :=
  Loop.Breaks OptionWalk.timestampPass (p.startWalk tcp) w

/-- A position in the TCP header. -/
def InTcpHeader (p : IPPacket) (tcp i : Nat) : Prop := tcp ≤ i ∧ i < tcp + (p.payload (tcp + 12)).toNat / 16 * 4

/-- The maximum segment size that `set_tcp_maxseg_option` comes to. -/
def reachedMaxseg (p : IPPacket) (tcp : Nat) : Option Nat := if p.isTcpSyn then p.maxseg tcp else none

/-- Both functions return and stay inside the header, and all that changes is the maximum segment size, which becomes
smaller by `extra`. -/
structure WalksSafely (p : IPPacket) (tcp : Nat) (extra : BitVec 16) : Prop where
  maxseg : ∃ w, p.MaxsegReturns tcp extra w ∧ (∀ i ∈ w.reads ++ w.writes, p.InTcpHeader tcp i) ∧
    (∀ i, (∀ a ∈ p.reachedMaxseg tcp, i ≠ a ∧ i ≠ a + 1) → w.payload i = p.payload i) ∧
    ∀ a ∈ p.reachedMaxseg tcp, (bigEndian w.payload a).toNat + extra.toNat = (bigEndian p.payload a).toNat
  timestamp : ∃ w, p.TimestampReturns tcp w ∧ (∀ i ∈ w.reads ++ w.writes, p.InTcpHeader tcp i) ∧ w.payload = p.payload

section

variable {p : IPPacket} {tcp i : Nat} {extra : BitVec 16} {w : OptionWalk}

theorem maxsegPosition_eq (fuel ptr : Nat) (length : Int) (m : Nat → UInt8) :
    maxsegPosition fuel ptr length m = optionPosition 2 4 fuel ptr length m := by
  induction fuel generalizing ptr length with
  | zero => rfl
  | succ fuel ih =>
    unfold maxsegPosition optionPosition
    simp only [ih]

theorem inTcpHeader_iff (h : tcp + 20 ≤ i) :
    p.InTcpHeader tcp i ↔ i < tcp + 20 + (p.optionsLength tcp).toNat := by
  unfold InTcpHeader optionsLength
  omega

/-- Up to the option it looks for, a walk stays in the header unless the options end in a kind. -/
theorem walked_startWalk {kind : UInt8} (h : Walked kind (p.startWalk tcp) w) : w.payload = p.payload ∧ w.writes = [] ∧
    ((∀ i ∈ w.reads, p.InTcpHeader tcp i) ↔ ¬EndsInKind kind (p.options tcp)) := by
  obtain ⟨hpayload, hwrites, rs, hreads, hge, hlt⟩ := h
  refine ⟨hpayload, hwrites, ?_⟩
  rw [hreads]
  exact Iff.trans (forall₂_congr fun i hi => inTcpHeader_iff (hge i hi)) hlt

/-- The data of the option it looks for are in the header. -/
theorem inTcpHeader_data {ptr size : Nat} (hptr : (p.startWalk tcp).ptr + 2 ≤ ptr)
    (hsize : ptr + size ≤ (p.startWalk tcp).ptr + (p.startWalk tcp).length.toNat + 2) (h₁ : ptr ≤ i)
    (h₂ : i + 2 < ptr + size) : p.InTcpHeader tcp i := by
  simp only [startWalk] at hptr hsize
  exact (inTcpHeader_iff (by omega)).2 (by omega)

/-- The walk of `set_tcp_maxseg_option`. -/
theorem maxsegWalk (p : IPPacket) (tcp : Nat) (extra : BitVec 16) :
    ∃ w, Loop.Breaks (OptionWalk.maxsegPass extra) (p.startWalk tcp) w ∧
      ((∀ i ∈ w.reads ++ w.writes, p.InTcpHeader tcp i) ↔ ¬EndsInKind 2 (p.options tcp)) ∧
      w.payload = maxsegLoop extra (p.optionsLength tcp).toNat (tcp + 20) (p.optionsLength tcp) p.payload := by
  obtain ⟨v, hwalked, hending⟩ := walk_ends 2 4 (OptionWalk.reduceMaxseg extra) (p.startWalk tcp) (le_refl _)
  obtain ⟨hpayload, hwrites, hreads⟩ := walked_startWalk hwalked
  rw [maxsegLoop_eq, maxsegPosition_eq]
  change Ending 2 4 _ _ v (optionPosition 2 4 (p.optionsLength tcp).toNat (tcp + 20) (p.optionsLength tcp) p.payload)
    at hending
  cases hmaxseg : optionPosition 2 4 (p.optionsLength tcp).toNat (tcp + 20) (p.optionsLength tcp) p.payload with
  | none =>
    rw [hmaxseg] at hending
    cases hending with
    | absent hbreaks =>
      refine ⟨v, hbreaks, ?_, hpayload⟩
      rw [hwrites, List.append_nil]
      exact hreads
  | some a =>
    rw [hmaxseg] at hending
    cases hending with
    | present hbreaks hptr hsize =>
      have hdata : ∀ i ∈ [v.ptr, v.ptr + 1], p.InTcpHeader tcp i := by
        intro i hi
        simp only [List.mem_cons, List.not_mem_nil, or_false] at hi
        exact inTcpHeader_data hptr hsize (by omega) (by omega)
      refine ⟨_, hbreaks, ?_, ?_⟩
      · simp only [OptionWalk.reduceMaxseg, hwrites, List.nil_append, List.forall_mem_append]
        rw [← hreads]
        exact ⟨fun h => h.1.1, fun h => ⟨⟨h, hdata⟩, hdata⟩⟩
      · simp only [OptionWalk.reduceMaxseg, hpayload]

/-- The walk of `get_tcp_timestamp_option`. -/
theorem timestampWalk (p : IPPacket) (tcp : Nat) :
    ∃ w, p.TimestampReturns tcp w ∧
      ((∀ i ∈ w.reads ++ w.writes, p.InTcpHeader tcp i) ↔ ¬EndsInKind 8 (p.options tcp)) ∧ w.payload = p.payload := by
  obtain ⟨v, hwalked, hending⟩ := walk_ends 8 10 OptionWalk.copyTimestamp (p.startWalk tcp) (le_refl _)
  obtain ⟨hpayload, hwrites, hreads⟩ := walked_startWalk hwalked
  generalize optionPosition 8 10 _ _ _ _ = position at hending
  cases hending with
  | absent hbreaks =>
    refine ⟨v, hbreaks, ?_, hpayload⟩
    rw [hwrites, List.append_nil]
    exact hreads
  | present hbreaks hptr hsize =>
    have hdata : ∀ i ∈ List.range' v.ptr 8, p.InTcpHeader tcp i := by
      intro i hi
      rw [List.mem_range'_1] at hi
      exact inTcpHeader_data hptr hsize hi.1 (by omega)
    refine ⟨_, hbreaks, ?_, hpayload⟩
    simp only [OptionWalk.copyTimestamp, hwrites, List.append_nil, List.forall_mem_append]
    rw [← hreads]
    exact ⟨fun h => h.1, fun h => ⟨h, hdata⟩⟩

/-- The function of the packet computes what its loop does. -/
theorem MaxsegReturns.payload (h : p.MaxsegReturns tcp extra w) :
    w.payload = (p.setTcpMaxsegOption tcp extra).payload := by
  unfold MaxsegReturns at h
  split at h
  · rename_i hsyn
    obtain ⟨v, hv, -, hpayload⟩ := maxsegWalk p tcp extra
    rw [h.unique hv, hpayload, setTcpMaxsegOption, if_pos hsyn]
    rfl
  · rename_i hsyn
    rw [h, setTcpMaxsegOption, if_neg hsyn]
    rfl

theorem maxsegLoop_none (h : p.maxseg tcp = none) :
    maxsegLoop extra (p.optionsLength tcp).toNat (tcp + 20) (p.optionsLength tcp) p.payload = p.payload := by
  unfold maxseg at h
  rw [maxsegLoop_eq, h]

theorem maxsegLoop_some {a : Nat} (h : p.maxseg tcp = some a) :
    maxsegLoop extra (p.optionsLength tcp).toNat (tcp + 20) (p.optionsLength tcp) p.payload =
      write p.payload a (bigEndianBytes (bigEndian p.payload a - extra)) := by
  unfold maxseg at h
  rw [maxsegLoop_eq, h]

/-- A maximum segment size that is reduced is the old one less `extra` when that is not greater. -/
theorem reduced_iff {a : Nat} {m : Nat → UInt8} :
    (bigEndian (write m a (bigEndianBytes (bigEndian m a - extra))) a).toNat + extra.toNat = (bigEndian m a).toNat ↔
      extra.toNat ≤ (bigEndian m a).toNat := by
  rw [bigEndian_write, BitVec.toNat_sub]
  have := (bigEndian m a).isLt
  have := extra.isLt
  omega

/-- What safe walks of a packet mean for its options. -/
theorem WalksSafely.options (h : p.WalksSafely tcp extra) : ¬EndsInKind 8 (p.options tcp) ∧
    (p.isTcpSyn = true → ¬EndsInKind 2 (p.options tcp) ∧
      ∀ a ∈ p.maxseg tcp, extra.toNat ≤ (bigEndian p.payload a).toNat) := by
  obtain ⟨⟨w, hw, hheader, -, hreduced⟩, t, ht, htheader, -⟩ := h
  refine ⟨?_, fun hsyn => ?_⟩
  · obtain ⟨t₁, ht₁, hiff, -⟩ := timestampWalk p tcp
    rw [Loop.Breaks.unique ht ht₁] at htheader
    exact hiff.1 htheader
  · rw [MaxsegReturns, if_pos hsyn] at hw
    obtain ⟨w₁, hw₁, hiff, hpayload⟩ := maxsegWalk p tcp extra
    rw [hw.unique hw₁] at hheader hreduced
    refine ⟨hiff.1 hheader, fun a ha => ?_⟩
    have hreduced := hreduced a (by rwa [reachedMaxseg, if_pos hsyn])
    rw [hpayload, maxsegLoop_some ha] at hreduced
    exact reduced_iff.1 hreduced

/-- A packet that is not a SYN is left as it is. -/
theorem maxsegReturns_of_not_syn (hsyn : p.isTcpSyn ≠ true) : p.MaxsegReturns tcp extra (p.startWalk tcp) := by
  rw [MaxsegReturns, if_neg hsyn]

end

/-- Exactly when the walks are safe: neither comes to a kind at the end of the options, and a maximum segment size that is
reduced is not smaller than what it is reduced by. -/
theorem walksSafely_iff (p : IPPacket) (tcp : Nat) (extra : BitVec 16) : p.WalksSafely tcp extra ↔
    ¬EndsInKind 8 (p.options tcp) ∧ (p.isTcpSyn = true → ¬EndsInKind 2 (p.options tcp) ∧
      ∀ a ∈ p.maxseg tcp, extra.toNat ≤ (bigEndian p.payload a).toNat) := by
  refine ⟨WalksSafely.options, fun ⟨htimestamp, hmaxseg⟩ => ⟨?_, ?_⟩⟩
  · by_cases hsyn : p.isTcpSyn = true
    · obtain ⟨hkind, hextra⟩ := hmaxseg hsyn
      obtain ⟨w, hw, hiff, hpayload⟩ := maxsegWalk p tcp extra
      rw [reachedMaxseg, if_pos hsyn]
      refine ⟨w, by rwa [MaxsegReturns, if_pos hsyn], hiff.2 hkind, fun i hi => ?_, fun a ha => ?_⟩
      · rw [hpayload]
        cases hposition : p.maxseg tcp with
        | none => rw [maxsegLoop_none hposition]
        | some a =>
          have hne := hi a hposition
          rw [maxsegLoop_some hposition, write_of_not_mem (by rw [length_bigEndianBytes]; omega)]
      · rw [hpayload, maxsegLoop_some ha]
        exact reduced_iff.2 (hextra a ha)
    · rw [reachedMaxseg, if_neg hsyn]
      exact ⟨_, maxsegReturns_of_not_syn hsyn, by simp [startWalk], fun i _ => rfl, by simp⟩
  · obtain ⟨t, ht, hiff, hpayload⟩ := timestampWalk p tcp
    exact ⟨t, ht, hiff.2 htimestamp, hpayload⟩

/-- A SYN with a header of 24 bytes whose options are the given four bytes. -/
def synPacket (bytes : List UInt8) : IPPacket where
  payload := write (write (write (fun _ => 0) 12 [0x60]) 13 [2]) 20 bytes
  payloadLength := 24
  tcp := some 0

/-- The last of the four bytes is the kind of a maximum segment size; and a maximum segment size of 100 is reduced by
104. -/
theorem not_walksSafely_syn : ¬(synPacket [1, 1, 1, 2]).WalksSafely 0 4 ∧ ¬(synPacket [2, 4, 0, 100]).WalksSafely 0 104 := by
  refine ⟨fun h => ?_, fun h => ?_⟩
  · have hkind := (h.options.2 (by decide)).1
    have hbytes : (synPacket [1, 1, 1, 2]).options 0 = [1, 1, 1, 2] := by decide
    rw [hbytes] at hkind
    exact hkind (.noOperation (.noOperation (.noOperation (.last (by decide) (by decide)))))
  · have hextra := (h.options.2 (by decide)).2 22 (by decide)
    exact absurd hextra (by decide)

end IPPacket

end Core

end Wifu
