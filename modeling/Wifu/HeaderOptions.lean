import Mathlib.Data.List.Range
import Mathlib.Tactic.Common

/-!
# Options of a received header (`TCPHeaderOptionCollection.cc`, `TCPHeaderOption.cc`, `TCPPacket::get_option`)

`parse` walks over the option bytes of a received header with a pointer and an 8-bit count of the bytes that are left.
The memory is a function of the distance from `get_options_pointer`, so that it goes on behind the options; a parse also
records which bytes it reads and whether the count ever goes below zero.
-/

namespace Wifu

/-- `TCP_HEADER_OPTION_MAX_SIZE`. -/
def tcpHeaderOptionMaxSize : Nat := 40

/-- A `TCPHeaderOption`: its buffer. -/
structure TCPHeaderOption where
  data : List UInt8
  length_data : data.length = tcpHeaderOptionMaxSize
  deriving DecidableEq

namespace TCPHeaderOption

/-- `get_kind`. -/
def kind (o : TCPHeaderOption) : UInt8 := o.data.headD 0

/-- `get_length`. -/
def length (o : TCPHeaderOption) : UInt8 := o.data.tail.headD 0

/-- The constructor; `length` has passed its assertion. -/
def new (kind length : UInt8) : TCPHeaderOption :=
  ⟨kind :: length :: List.replicate (tcpHeaderOptionMaxSize - 2) 0, by simp [tcpHeaderOptionMaxSize]⟩

/-- `set_data`; the length of the data has passed its assertion. -/
def setData (o : TCPHeaderOption) (data : List UInt8) (h : data.length ≤ tcpHeaderOptionMaxSize) : TCPHeaderOption :=
  ⟨data ++ o.data.drop data.length, by rw [List.length_append, List.length_drop, o.length_data]; omega⟩

end TCPHeaderOption

namespace TCPHeaderOptionCollection

/-- What a parse does: the options it inserts, the bytes it reads, whether the count goes below zero, and whether it stops
at the assertion of `set_length`. -/
structure Parsing where
  options : List TCPHeaderOption := []
  reads : List Nat := []
  underflow : Bool := false
  aborted : Bool := false
  deriving DecidableEq

/-- The bytes that a `memcpy` of `n` bytes reads. -/
def bytesAt (memory : Nat → UInt8) (position n : Nat) : List UInt8 := (List.range' position n).map memory

@[simp] theorem length_bytesAt (memory : Nat → UInt8) (position n : Nat) : (bytesAt memory position n).length = n := by
  simp [bytesAt]

/-- `parse`, with fuel for its recursive calls. -/
def parse (memory : Nat → UInt8) : Nat → Nat → BitVec 8 → Option Parsing
  | 0, _, _ => none
  | fuel + 1, options, optionsLengthBytes =>
    if optionsLengthBytes = 0 then some {}
    else if memory options = 0 then some { reads := [options] }
    else if memory options = 1 then
      (parse memory fuel (options + 1) (optionsLengthBytes - 1)).map fun r => { r with reads := options :: r.reads }
    else
      let length := memory (options + 1)
      if h : length.toNat ≤ tcpHeaderOptionMaxSize then
        let option := (TCPHeaderOption.new (memory options) length).setData (bytesAt memory options length.toNat)
          (by rwa [length_bytesAt])
        (parse memory fuel (options + length.toNat) (optionsLengthBytes - length.toBitVec)).map fun r => { r with
          options := option :: r.options
          reads := options :: (options + 1) :: List.range' options length.toNat ++ r.reads
          underflow := decide (optionsLengthBytes.toNat < length.toNat) || r.underflow }
      else some { reads := [options, options + 1], aborted := true }

/-- The option bytes of a header with the data offset `doff`. -/
def optionBytes (doff : BitVec 4) : Nat := (doff.toNat - 5) * 4

/-- The call of `parse` in `get_option`, when no option has been parsed yet. -/
def parseOptions (memory : Nat → UInt8) (doff : BitVec 4) (fuel : Nat) : Option Parsing :=
  if 5 < doff.toNat then parse memory fuel 0 (BitVec.ofNat 8 (optionBytes doff)) else some {}

/-- The option that `FindTCPHeaderOptionVisitor` finds. -/
def findOption (kind : UInt8) (options : List TCPHeaderOption) : Option TCPHeaderOption :=
  options.find? fun o => o.kind = kind

/-- The parse ends, reads the option bytes only, never counts below zero and never stops at the assertion. -/
def ParsesSafely (memory : Nat → UInt8) (doff : BitVec 4) : Prop :=
  ∃ fuel r, parseOptions memory doff fuel = some r ∧ (∀ i ∈ r.reads, i < optionBytes doff) ∧ r.underflow = false ∧
    r.aborted = false

/-- After `skip` more bytes, each option that is met before an end-of-options byte has a length byte, which is not zero and
reaches no further than the bytes go. -/
def optionsFit : Nat → List UInt8 → Bool
  | 0, [] => true
  | _ + 1, [] => false
  | skip + 1, _ :: bytes => optionsFit skip bytes
  | 0, kind :: bytes =>
    if kind = 0 then true
    else if kind = 1 then optionsFit 0 bytes
    else match bytes with
      | [] => false
      | length :: _ => length != 0 && optionsFit (length.toNat - 1) bytes

section

variable {memory : Nat → UInt8} {fuel position n : Nat} {r : Parsing}

theorem bytesAt_zero : bytesAt memory position 0 = [] := rfl

theorem bytesAt_succ : bytesAt memory position (n + 1) = memory position :: bytesAt memory (position + 1) n := by
  simp [bytesAt, List.range'_succ]

theorem drop_bytesAt {k : Nat} : (bytesAt memory position n).drop k = bytesAt memory (position + k) (n - k) := by
  unfold bytesAt
  rw [← List.map_drop, List.drop_range']
  simp

/-- Bytes are skipped as long as there are any. -/
theorem optionsFit_skip (k : Nat) (bytes : List UInt8) :
    optionsFit k bytes = true ↔ k ≤ bytes.length ∧ optionsFit 0 (bytes.drop k) = true := by
  induction bytes generalizing k with
  | nil => cases k <;> simp [optionsFit]
  | cons x xs ih =>
    cases k with
    | zero => simp
    | succ k =>
      rw [List.drop_succ_cons, List.length_cons, Nat.add_le_add_iff_right]
      have hstep : optionsFit (k + 1) (x :: xs) = optionsFit k xs := by rw [optionsFit]
      rw [hstep, ih k]

theorem optionsFit_end (h : memory position = 0) : optionsFit 0 (bytesAt memory position (n + 1)) = true := by
  rw [bytesAt_succ]
  unfold optionsFit
  rw [if_pos h]

theorem optionsFit_noOperation (h : memory position = 1) :
    optionsFit 0 (bytesAt memory position (n + 1)) = optionsFit 0 (bytesAt memory (position + 1) n) := by
  rw [bytesAt_succ]
  conv_lhs => unfold optionsFit
  rw [if_neg (by rw [h]; decide), if_pos h]

theorem optionsFit_option (h0 : memory position ≠ 0) (h1 : memory position ≠ 1) :
    optionsFit 0 (bytesAt memory position (n + 1)) = true ↔ 1 ≤ n ∧ memory (position + 1) ≠ 0 ∧
      (memory (position + 1)).toNat ≤ n + 1 ∧ optionsFit 0 (bytesAt memory (position + (memory (position + 1)).toNat)
        (n + 1 - (memory (position + 1)).toNat)) = true := by
  rw [bytesAt_succ]
  conv_lhs => unfold optionsFit
  rw [if_neg h0, if_neg h1]
  cases n with
  | zero => simp [bytesAt_zero]
  | succ n =>
    rw [bytesAt_succ]
    simp only [Bool.and_eq_true, bne_iff_ne, ne_eq]
    rw [← bytesAt_succ, optionsFit_skip, length_bytesAt, drop_bytesAt]
    constructor
    · rintro ⟨hne, hle, hrest⟩
      have hpos : (memory (position + 1)).toNat ≠ 0 := fun h => hne (UInt8.toNat_inj.1 h)
      have hp : position + 1 + ((memory (position + 1)).toNat - 1) = position + (memory (position + 1)).toNat := by omega
      have hn : n + 1 - ((memory (position + 1)).toNat - 1) = n + 1 + 1 - (memory (position + 1)).toNat := by omega
      rw [hp, hn] at hrest
      exact ⟨by omega, hne, by omega, hrest⟩
    · rintro ⟨-, hne, hle, hrest⟩
      have hpos : (memory (position + 1)).toNat ≠ 0 := fun h => hne (UInt8.toNat_inj.1 h)
      have hp : position + 1 + ((memory (position + 1)).toNat - 1) = position + (memory (position + 1)).toNat := by omega
      have hn : n + 1 - ((memory (position + 1)).toNat - 1) = n + 1 + 1 - (memory (position + 1)).toNat := by omega
      rw [hp, hn]
      exact ⟨hne, by omega, hrest⟩

/-! ### Parsing -/

/-- What a good parse of the `n` bytes from `position` on does. -/
def Parsing.Safe (r : Parsing) (last : Nat) : Prop :=
  (∀ i ∈ r.reads, i < last) ∧ r.underflow = false ∧ r.aborted = false

theorem ofNat_ne_zero (hn : n < 40) : BitVec.ofNat 8 (n + 1) ≠ 0 := by
  intro h
  have := congrArg BitVec.toNat h
  rw [BitVec.toNat_ofNat, Nat.mod_eq_of_lt (by omega)] at this
  cases this

theorem ofNat_sub {k : Nat} (hn : n ≤ 40) (hk : k ≤ n) : BitVec.ofNat 8 n - BitVec.ofNat 8 k = BitVec.ofNat 8 (n - k) := by
  apply BitVec.eq_of_toNat_eq
  rw [BitVec.toNat_sub, BitVec.toNat_ofNat, BitVec.toNat_ofNat, BitVec.toNat_ofNat]
  omega

theorem toBitVec_eq (b : UInt8) : b.toBitVec = BitVec.ofNat 8 b.toNat := by
  apply BitVec.eq_of_toNat_eq
  rw [BitVec.toNat_ofNat, Nat.mod_eq_of_lt b.toNat_lt]
  rfl

theorem parse_nil : parse memory (fuel + 1) position (BitVec.ofNat 8 0) = some {} := by
  unfold parse
  exact if_pos rfl

theorem parse_end (hn : n < 40) (h : memory position = 0) :
    parse memory (fuel + 1) position (BitVec.ofNat 8 (n + 1)) = some { reads := [position] } := by
  unfold parse
  rw [if_neg (ofNat_ne_zero hn), if_pos h]

theorem parse_noOperation (hn : n < 40) (h : memory position = 1) :
    parse memory (fuel + 1) position (BitVec.ofNat 8 (n + 1)) =
      (parse memory fuel (position + 1) (BitVec.ofNat 8 n)).map fun r => { r with reads := position :: r.reads } := by
  have hsub : BitVec.ofNat 8 (n + 1) - 1 = BitVec.ofNat 8 n := ofNat_sub (by omega) (by omega : 1 ≤ n + 1)
  conv_lhs => unfold parse
  rw [if_neg (ofNat_ne_zero hn), if_neg (by rw [h]; decide), if_pos h, hsub]

/-- An option with a length byte that the buffer can hold. -/
theorem parse_option (hn : n < 40) (h0 : memory position ≠ 0) (h1 : memory position ≠ 1)
    (hlen : (memory (position + 1)).toNat ≤ tcpHeaderOptionMaxSize) :
    parse memory (fuel + 1) position (BitVec.ofNat 8 (n + 1)) =
      (parse memory fuel (position + (memory (position + 1)).toNat)
        (BitVec.ofNat 8 (n + 1) - BitVec.ofNat 8 (memory (position + 1)).toNat)).map fun r => { r with
          options := (TCPHeaderOption.new (memory position) (memory (position + 1))).setData
            (bytesAt memory position (memory (position + 1)).toNat) (by rwa [length_bytesAt]) :: r.options
          reads := position :: (position + 1) :: List.range' position (memory (position + 1)).toNat ++ r.reads
          underflow := decide (n + 1 < (memory (position + 1)).toNat) || r.underflow } := by
  have hnat : (BitVec.ofNat 8 (n + 1)).toNat = n + 1 := by
    rw [BitVec.toNat_ofNat]
    omega
  conv_lhs => unfold parse
  rw [if_neg (ofNat_ne_zero hn), if_neg h0, if_neg h1]
  simp only [dif_pos hlen, hnat, toBitVec_eq]

theorem parse_tooLong (hn : n < 40) (h0 : memory position ≠ 0) (h1 : memory position ≠ 1)
    (hlen : ¬(memory (position + 1)).toNat ≤ tcpHeaderOptionMaxSize) :
    parse memory (fuel + 1) position (BitVec.ofNat 8 (n + 1)) =
      some { reads := [position, position + 1], aborted := true } := by
  unfold parse
  rw [if_neg (ofNat_ne_zero hn), if_neg h0, if_neg h1]
  simp only [dif_neg hlen]

/-- A length byte of zero makes `parse` call itself with the same arguments for ever. -/
theorem parse_zeroLength (hn : n < 40) (h0 : memory position ≠ 0) (h1 : memory position ≠ 1)
    (hlen : memory (position + 1) = 0) : parse memory fuel position (BitVec.ofNat 8 (n + 1)) = none := by
  induction fuel with
  | zero => rfl
  | succ fuel ih =>
    have hnat : (memory (position + 1)).toNat = 0 := by rw [hlen]; rfl
    have hsub : BitVec.ofNat 8 (n + 1) - BitVec.ofNat 8 0 = BitVec.ofNat 8 (n + 1) := BitVec.sub_zero _
    rw [parse_option hn h0 h1 (by rw [hnat]; exact Nat.zero_le _), Option.map_eq_none_iff]
    simp only [hnat, Nat.add_zero, hsub]
    exact ih

/-- Options that fit are parsed safely. -/
theorem parse_of_fit (hn : n ≤ 40) (hfit : optionsFit 0 (bytesAt memory position n) = true) :
    ∃ fuel r, parse memory fuel position (BitVec.ofNat 8 n) = some r ∧ r.Safe (position + n) := by
  -- on the number of bytes that are left
  induction n using Nat.strong_induction_on generalizing position with
  | _ n ih =>
    cases n with
    | zero => exact ⟨1, {}, parse_nil, by simp [Parsing.Safe]⟩
    | succ n =>
      by_cases h0 : memory position = 0
      · refine ⟨1, _, parse_end (by omega) h0, fun i hi => ?_, rfl, rfl⟩
        rw [List.mem_singleton] at hi
        omega
      by_cases h1 : memory position = 1
      · rw [optionsFit_noOperation h1] at hfit
        obtain ⟨fuel, r, hr, hreads, hunder, habort⟩ := ih n (by omega) (by omega) hfit
        refine ⟨fuel + 1, { r with reads := position :: r.reads }, ?_, fun i hi => ?_, hunder, habort⟩
        · rw [parse_noOperation (by omega) h1, hr]
          rfl
        · rcases List.mem_cons.1 hi with rfl | hi
          · omega
          · have := hreads i hi
            omega
      · obtain ⟨hone, hne, hle, hrest⟩ := (optionsFit_option h0 h1).1 hfit
        have hpos : (memory (position + 1)).toNat ≠ 0 := fun h => hne (UInt8.toNat_inj.1 h)
        obtain ⟨fuel, r, hr, hreads, hunder, habort⟩ := ih _ (by omega) (by omega) hrest
        have hmax : (memory (position + 1)).toNat ≤ tcpHeaderOptionMaxSize := by
          rw [tcpHeaderOptionMaxSize]
          omega
        have hok : parse memory (fuel + 1) position (BitVec.ofNat 8 (n + 1)) = _ :=
          parse_option (by omega) h0 h1 hmax
        rw [ofNat_sub (by omega) hle, hr] at hok
        refine ⟨fuel + 1, _, hok, fun i hi => ?_, ?_, habort⟩
        · simp only [List.cons_append, List.mem_cons, List.mem_append, List.mem_range'_1] at hi
          rcases hi with rfl | rfl | hi | hi
          · omega
          · omega
          · omega
          · have := hreads i hi
            omega
        · rw [Bool.or_eq_false_iff, decide_eq_false_iff_not]
          exact ⟨by omega, hunder⟩

/-- A safe parse is one of options that fit. -/
theorem fit_of_parse (hn : n ≤ 40) (h : parse memory fuel position (BitVec.ofNat 8 n) = some r)
    (hsafe : r.Safe (position + n)) : optionsFit 0 (bytesAt memory position n) = true := by
  induction fuel generalizing position n r with
  | zero => cases h
  | succ fuel ih =>
    cases n with
    | zero => rfl
    | succ n =>
      by_cases h0 : memory position = 0
      · exact optionsFit_end h0
      by_cases h1 : memory position = 1
      · rw [parse_noOperation (by omega) h1, Option.map_eq_some_iff] at h
        obtain ⟨r', hr', rfl⟩ := h
        rw [optionsFit_noOperation h1]
        refine ih (by omega) hr' ⟨fun i hi => ?_, hsafe.2⟩
        have := hsafe.1 i (List.mem_cons_of_mem _ hi)
        omega
      · rw [optionsFit_option h0 h1]
        have hnonzero : memory (position + 1) ≠ 0 := by
          intro hzero
          rw [parse_zeroLength (by omega) h0 h1 hzero] at h
          cases h
        by_cases hmax : (memory (position + 1)).toNat ≤ tcpHeaderOptionMaxSize
        · rw [parse_option (by omega) h0 h1 hmax, Option.map_eq_some_iff] at h
          obtain ⟨r', hr', rfl⟩ := h
          obtain ⟨hreads, hunder, habort⟩ := hsafe
          rw [Bool.or_eq_false_iff, decide_eq_false_iff_not] at hunder
          have hsecond := hreads (position + 1) (by simp)
          rw [ofNat_sub (by omega) (by omega)] at hr'
          refine ⟨by omega, hnonzero, by omega, ih (by omega) hr' ⟨fun i hi => ?_, hunder.2, habort⟩⟩
          have := hreads i (List.mem_append_right _ hi)
          omega
        · rw [parse_tooLong (by omega) h0 h1 hmax] at h
          cases h
          cases hsafe.2.2

/-- The options of a received header are parsed safely exactly when they fit. -/
theorem parse_safe_iff (memory : Nat → UInt8) (doff : BitVec 4) :
    ParsesSafely memory doff ↔ optionsFit 0 (bytesAt memory 0 (optionBytes doff)) = true := by
  have hle : optionBytes doff ≤ 40 := by
    unfold optionBytes
    omega
  unfold ParsesSafely parseOptions
  by_cases hdoff : 5 < doff.toNat
  · simp only [hdoff, if_true]
    constructor
    · rintro ⟨fuel, r, hr, hsafe⟩
      exact fit_of_parse hle hr (by rwa [Nat.zero_add])
    · intro hfit
      obtain ⟨fuel, r, hr, hsafe⟩ := parse_of_fit hle hfit
      rw [Nat.zero_add] at hsafe
      exact ⟨fuel, r, hr, hsafe⟩
  · have hzero : optionBytes doff = 0 := by
      unfold optionBytes
      omega
    simp only [hdoff, if_false, hzero]
    exact iff_of_true ⟨0, {}, rfl, by simp, rfl, rfl⟩ rfl

/-- Options that end in the middle of one, with a length byte of zero, past the end or too long for the buffer, or without
a length byte. -/
theorem parse_unsafe :
    ¬ParsesSafely (fun i => [2, 0, 0, 0].getD i 0) 6 ∧ (∀ fuel, parseOptions (fun i => [2, 0, 0, 0].getD i 0) 6 fuel = none) ∧
    (parseOptions (fun i => [2, 6, 0, 0].getD i 0) 6 100).any (fun r => r.underflow && r.reads.any (4 ≤ ·)) = true ∧
    (parseOptions (fun i => [2, 41, 0, 0].getD i 0) 6 100).any (·.aborted) = true ∧
    (parseOptions (fun i => [1, 1, 1, 2, 4].getD i 0) 6 100).any (fun r => 4 ∈ r.reads) = true := by
  have hzero (fuel : Nat) : parseOptions (fun i => [2, 0, 0, 0].getD i 0) 6 fuel = none :=
    parse_zeroLength (n := 3) (by decide) (by decide) (by decide) rfl
  refine ⟨?_, hzero, by decide +kernel, by decide +kernel, by decide +kernel⟩
  rintro ⟨fuel, r, hr, -⟩
  rw [hzero fuel] at hr
  cases hr

end

end TCPHeaderOptionCollection

end Wifu
