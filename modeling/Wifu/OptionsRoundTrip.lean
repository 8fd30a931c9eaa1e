import Wifu.WirePacket
import Mathlib.Data.List.GetD

/-!
# Options written and read back (`TCPPacket.cc`, `GetTCPHeaderOptionsDataVisitor.cc`)

Each `insert_tcp_header_option` and each `remove_tcp_header_option` adds the padded length of all the options to the data
offset, so the offset grows by more than the options do as soon as a call finds options that an earlier call has counted.
When the offset is right the packed options are parsed as they were, and the data lies behind them.
-/

namespace Wifu

open ByteMemory

/-- What `get_kind`, `get_length` and the bytes say. -/
def TCPHeaderOption.value (o : TCPHeaderOption) : UInt8 × UInt8 × List UInt8 :=
  (o.kind, o.length, WirePacket.optionBytes o)

/-- An option that is neither "end of options" nor "no operation", with room for its kind and its length. -/
def TCPHeaderOption.Regular (o : TCPHeaderOption) : Prop := 2 ≤ o.kind.toNat ∧ 2 ≤ o.length.toNat

instance (o : TCPHeaderOption) : Decidable o.Regular := inferInstanceAs (Decidable (_ ∧ _))

namespace TCPHeaderOptionCollection

section

variable {memory : Nat → UInt8} {position fuel k n : Nat} {o : TCPHeaderOption} {l : List UInt8}

theorem bytesAt_eq_slice (memory : Nat → UInt8) (position n : Nat) :
    bytesAt memory position n = Slice.slice memory position n := by
  unfold bytesAt Slice.slice
  rw [List.range'_eq_map_range, List.map_map]
  rfl

theorem length_optionBytes (h : o.length.toNat ≤ 40) : (WirePacket.optionBytes o).length = o.length.toNat := by
  unfold WirePacket.optionBytes
  rw [List.length_take, o.length_data, tcpHeaderOptionMaxSize, Nat.min_eq_left h]

/-- The bytes of an option start with its kind and its length. -/
theorem optionBytes_cons (h : 2 ≤ o.length.toNat) :
    ∃ rest, WirePacket.optionBytes o = o.kind :: o.length :: rest := by
  have hlength := o.length_data
  unfold WirePacket.optionBytes TCPHeaderOption.kind
  obtain ⟨m, hm⟩ := Nat.exists_eq_add_of_le' h
  rw [hm]
  unfold TCPHeaderOption.length
  match o.data, hlength with
  | [], h | [_], h => cases h
  | kind :: length :: bytes, _ => exact ⟨bytes.take m, rfl⟩

/-- An option made of the bytes of another one has its value. -/
theorem value_setData (hregular : o.Regular) (hle : o.length.toNat ≤ 40) (kind length : UInt8)
    (h : (WirePacket.optionBytes o).length ≤ tcpHeaderOptionMaxSize) :
    ((TCPHeaderOption.new kind length).setData (WirePacket.optionBytes o) h).value = o.value := by
  obtain ⟨rest, hrest⟩ := optionBytes_cons hregular.2
  have hlength := length_optionBytes hle
  have hkind' : ((TCPHeaderOption.new kind length).setData (WirePacket.optionBytes o) h).kind = o.kind := by
    unfold TCPHeaderOption.setData TCPHeaderOption.kind
    simp only [hrest, List.cons_append, List.headD_cons]
    rfl
  have hlength' : ((TCPHeaderOption.new kind length).setData (WirePacket.optionBytes o) h).length = o.length := by
    show ((WirePacket.optionBytes o ++ _).tail).headD 0 = o.length
    rw [hrest]
    rfl
  unfold TCPHeaderOption.value
  rw [hkind', hlength']
  congr 2
  show List.take (TCPHeaderOption.length _).toNat (WirePacket.optionBytes o ++ _) = WirePacket.optionBytes o
  rw [hlength', ← hlength, List.take_left]

/-- What stands where a regular option's bytes lie: its kind, which is not one of the two short ones, and its length. -/
theorem option_reads (ho : o.Regular)
    (h : bytesAt memory position o.length.toNat = WirePacket.optionBytes o) :
    memory position ≠ 0 ∧ memory position ≠ 1 ∧ memory (position + 1) = o.length := by
  obtain ⟨bytes, hcons⟩ := optionBytes_cons ho.2
  obtain ⟨m, hm⟩ := Nat.exists_eq_add_of_le' ho.2
  rw [hm, hcons, bytesAt_succ, bytesAt_succ] at h
  obtain ⟨hkind, htail⟩ := List.cons.inj h
  have htwo := ho.1
  rw [← hkind] at htwo
  refine ⟨?_, ?_, (List.cons.inj htail).1⟩
  · intro hzero
    rw [hzero] at htwo
    exact absurd htwo (by decide)
  · intro hone
    rw [hone] at htwo
    exact absurd htwo (by decide)

/-- The option made of the bytes where a regular option lies has its value. -/
theorem value_read (ho : o.Regular) (hle : o.length.toNat ≤ 40)
    (h : bytesAt memory position o.length.toNat = WirePacket.optionBytes o)
    (hlength : memory (position + 1) = o.length)
    (hmax : (bytesAt memory position (memory (position + 1)).toNat).length ≤ tcpHeaderOptionMaxSize) :
    ((TCPHeaderOption.new (memory position) (memory (position + 1))).setData
      (bytesAt memory position (memory (position + 1)).toNat) hmax).value = o.value := by
  have hbytes : bytesAt memory position (memory (position + 1)).toNat = WirePacket.optionBytes o := by
    rw [hlength, h]
  simp only [hbytes]
  exact value_setData ho hle _ _ _

/-- Parsing options that lie one after another, with zeros behind them, gives their values. -/
theorem parse_packed (options : List TCPHeaderOption) (hregular : ∀ o ∈ options, o.Regular)
    (hfit : (options.map fun o => o.length.toNat).sum + k ≤ 40) (hfuel : options.length < fuel)
    (hbytes : bytesAt memory position ((options.map fun o => o.length.toNat).sum + k) =
      (options.map WirePacket.optionBytes).flatten ++ List.replicate k 0) :
    ∃ r, parse memory fuel position (BitVec.ofNat 8 ((options.map fun o => o.length.toNat).sum + k)) = some r ∧
      r.options.map TCPHeaderOption.value = options.map TCPHeaderOption.value ∧ r.aborted = false := by
  induction options generalizing position fuel with
  | nil =>
    obtain ⟨fuel, rfl⟩ := Nat.exists_eq_add_one_of_ne_zero (n := fuel) (by rw [List.length_nil] at hfuel; omega)
    cases k with
    | zero => exact ⟨{}, parse_nil, rfl, rfl⟩
    | succ k =>
      have hzero : memory position = 0 := by
        rw [List.map_nil, List.map_nil, List.sum_nil, Nat.zero_add, bytesAt_succ, List.replicate_succ] at hbytes
        exact (List.cons.inj hbytes).1
      refine ⟨{ reads := [position] }, ?_, rfl, rfl⟩
      rw [List.map_nil, List.sum_nil, Nat.zero_add]
      exact parse_end (by rw [List.map_nil, List.sum_nil] at hfit; omega) hzero
  | cons o options ih =>
    obtain ⟨fuel, rfl⟩ := Nat.exists_eq_add_one_of_ne_zero (n := fuel) (by rw [List.length_cons] at hfuel; omega)
    have ho := hregular o List.mem_cons_self
    rw [List.map_cons, List.sum_cons, Nat.add_assoc] at hfit hbytes
    rw [List.map_cons, List.sum_cons, Nat.add_assoc]
    have hle : o.length.toNat ≤ 40 := by omega
    -- the bytes of the first option, and the rest
    rw [bytesAt_eq_slice, Slice.slice_add, List.map_cons, List.flatten_cons, List.append_assoc] at hbytes
    obtain ⟨hfirst, hrest⟩ := List.append_inj hbytes (by rw [Slice.length_slice, length_optionBytes hle])
    rw [← bytesAt_eq_slice] at hfirst
    obtain ⟨h0, h1, hlength⟩ := option_reads ho hfirst
    obtain ⟨r, hr, hvalue, haborted⟩ := @ih (position + o.length.toNat) fuel
      (fun o' ho' => hregular o' (List.mem_cons_of_mem o ho')) (by omega)
      (by rw [List.length_cons] at hfuel; omega) (by rw [bytesAt_eq_slice]; exact hrest)
    obtain ⟨n, hn⟩ := Nat.exists_eq_add_one_of_ne_zero
      (n := o.length.toNat + ((options.map fun o => o.length.toNat).sum + k)) (by have := ho.2; omega)
    have hsub : BitVec.ofNat 8 (n + 1) - BitVec.ofNat 8 o.length.toNat =
        BitVec.ofNat 8 ((options.map fun o => o.length.toNat).sum + k) := by
      rw [ofNat_sub (by omega) (by omega), ← hn, Nat.add_sub_cancel_left]
    have hmax : (memory (position + 1)).toNat ≤ tcpHeaderOptionMaxSize := by
      rw [hlength]
      exact hle
    have hparse : parse memory (fuel + 1) position (BitVec.ofNat 8 (n + 1)) = _ :=
      parse_option (by omega) h0 h1 hmax
    have hcall : parse memory fuel (position + (memory (position + 1)).toNat)
        (BitVec.ofNat 8 (n + 1) - BitVec.ofNat 8 (memory (position + 1)).toNat) = some r := by
      rw [hlength, hsub]
      exact hr
    rw [hcall] at hparse
    rw [hn]
    refine ⟨_, hparse, ?_, haborted⟩
    simp only [List.map_cons]
    rw [value_read ho hle hfirst hlength, hvalue]

end

end TCPHeaderOptionCollection

namespace WirePacket

/-- A call that changes the options of a packet; an option is an object and its place in memory. -/
inductive OptionCall
  | insert (option : TCPHeaderOption × Nat)
  | remove (kind : UInt8)

/-- The packet after a call. -/
def call (p : WirePacket) : OptionCall → WirePacket
  | .insert option => p.insertTcpHeaderOption option
  | .remove kind => p.removeTcpHeaderOption kind

/-- The options after a call. -/
def optionsAfter (options : List (TCPHeaderOption × Nat)) : OptionCall → List (TCPHeaderOption × Nat)
  | .insert option => options ++ [option]
  | .remove kind => removeOption options kind

/-- The packet after several calls. -/
def calls (p : WirePacket) (cs : List OptionCall) : WirePacket := cs.foldl call p

/-- The padded length of all the options after each call. -/
def paddedLengths (options : List (TCPHeaderOption × Nat)) : List OptionCall → List Nat
  | [] => []
  | c :: cs => paddedLength (optionsAfter options c) :: paddedLengths (optionsAfter options c) cs

/-- The data offset counts the options, and a packet made of the packed bytes has the same options, in order, and the same
data behind them. -/
def RoundTrips (p : WirePacket) (memory : Nat → UInt8) (data : List UInt8) : Prop :=
  p.getTcpDataOffset = 5 + (optionsLength p.options + 3) / 4 ∧
  ∃ q, p.setData data = some q ∧
    (∃ fuel parsed, (receive memory (Slice.slice q.pack.payload 0 mtu)).parsedOptions fuel = some parsed ∧
      parsed.map TCPHeaderOption.value = p.options.map fun o => o.1.value) ∧
    (receive memory (Slice.slice q.pack.payload 0 mtu)).getDataLengthBytes = data.length ∧
    Slice.slice (receive memory (Slice.slice q.pack.payload 0 mtu)).payload
      (receive memory (Slice.slice q.pack.payload 0 mtu)).getData data.length = data

section

variable {p q : WirePacket} {c : OptionCall} {cs : List OptionCall} {memory : Nat → UInt8} {data : List UInt8}

/-! ### The data offset -/

theorem getTcpDataOffset_setTcpDataOffset (p : WirePacket) (n : Nat) :
    (p.setTcpDataOffset n).getTcpDataOffset = n % 16 := by
  have hbyte : (p.setTcpDataOffset n).payload (p.tcp + 12) =
      UInt8.ofNat (n % 16 * 16 + (p.payload (p.tcp + 12)).toNat % 16) := by
    show write p.payload (p.tcp + 12) _ (p.tcp + 12) = _
    rw [write_of_mem (Nat.le_refl _) (by simp), Nat.sub_self]
    rfl
  show ((p.setTcpDataOffset n).payload (p.tcp + 12)).toNat / 16 = n % 16
  rw [hbyte, UInt8.toNat_ofNat']
  omega

/-- What a call leaves alone. -/
structure Frame (p q : WirePacket) : Prop where
  tcp : q.tcp = p.tcp
  dataSet : q.dataSet = p.dataSet
  payload : ∀ i ≠ p.tcp + 12, q.payload i = p.payload i

theorem Frame.trans {r : WirePacket} (h₁ : Frame p q) (h₂ : Frame q r) : Frame p r :=
  ⟨h₂.tcp.trans h₁.tcp, h₂.dataSet.trans h₁.dataSet,
    fun i hi => (h₂.payload i (by rw [h₁.tcp]; exact hi)).trans (h₁.payload i hi)⟩

/-- A call adds the padded length of all the options to the data offset, and changes nothing else. -/
theorem call_spec (p : WirePacket) (c : OptionCall) : Frame p (p.call c) ∧
    (p.call c).options = optionsAfter p.options c ∧
    (p.call c).getTcpDataOffset = (p.getTcpDataOffset + paddedLength (optionsAfter p.options c)) % 16 := by
  have hcall (options : List (TCPHeaderOption × Nat)) (n : Nat) : Frame p ({ p with options }.setTcpDataOffset n) :=
    ⟨rfl, rfl, fun i hi => write_of_not_mem (by simp; omega)⟩
  cases c with
  | insert option => exact ⟨hcall (p.options ++ [option]) _, rfl, getTcpDataOffset_setTcpDataOffset _ _⟩
  | remove kind => exact ⟨hcall (removeOption p.options kind) _, rfl, getTcpDataOffset_setTcpDataOffset _ _⟩

theorem calls_spec (p : WirePacket) (cs : List OptionCall) : Frame p (p.calls cs) ∧
    (p.calls cs).options = cs.foldl optionsAfter p.options ∧
    (p.calls cs).getTcpDataOffset % 16 = (p.getTcpDataOffset + (paddedLengths p.options cs).sum) % 16 := by
  induction cs generalizing p with
  | nil => exact ⟨⟨rfl, rfl, fun i _ => rfl⟩, rfl, rfl⟩
  | cons c cs ih =>
    obtain ⟨hframe, hoptions, hoffset⟩ := call_spec p c
    obtain ⟨hframe', hoptions', hoffset'⟩ := ih (p.call c)
    refine ⟨hframe.trans hframe', ?_, ?_⟩
    · show ((p.call c).calls cs).options = cs.foldl optionsAfter (optionsAfter p.options c)
      rw [hoptions', hoptions]
    · show ((p.call c).calls cs).getTcpDataOffset % 16 = (p.getTcpDataOffset +
        (paddedLength (optionsAfter p.options c) :: paddedLengths (optionsAfter p.options c) cs).sum) % 16
      rw [hoffset', hoffset, hoptions, List.sum_cons]
      omega

/-- All padded lengths but the last one are too many. -/
theorem sum_paddedLengths (options : List (TCPHeaderOption × Nat)) (h : cs ≠ [] ∨ paddedLength options = 0) :
    (paddedLengths options cs).sum =
      (paddedLengths options cs).dropLast.sum + paddedLength (cs.foldl optionsAfter options) := by
  induction cs generalizing options with
  | nil =>
    show 0 = 0 + paddedLength options
    rw [h.resolve_left fun hne => hne rfl]
  | cons c cs ih =>
    cases cs with
    | nil => exact Nat.add_comm _ 0
    | cons c' cs =>
      have hrest := ih (optionsAfter options c) (.inl (List.cons_ne_nil c' cs))
      show paddedLength (optionsAfter options c) + (paddedLengths (optionsAfter options c) (c' :: cs)).sum =
        paddedLength (optionsAfter options c) + (paddedLengths (optionsAfter options c) (c' :: cs)).dropLast.sum + _
      rw [hrest, ← Nat.add_assoc]
      rfl

/-! ### The packed bytes -/

/-- The options one after another, and zeros up to the next word. -/
def packedOptions (options : List (TCPHeaderOption × Nat)) : List UInt8 :=
  (options.map fun o => optionBytes o.1).flatten ++
    List.replicate ((paddedLength options * 4 - optionsLength options) % 256) 0

theorem length_le_optionsLength {options : List (TCPHeaderOption × Nat)} {o : TCPHeaderOption × Nat} (h : o ∈ options) :
    o.1.length.toNat ≤ optionsLength options :=
  List.le_sum_of_mem (List.mem_map_of_mem h)

theorem length_flatten_optionBytes {options : List (TCPHeaderOption × Nat)}
    (h : ∀ o ∈ options, o.1.length.toNat ≤ 40) :
    (options.map fun o => optionBytes o.1).flatten.length = optionsLength options := by
  rw [List.length_flatten, List.map_map]
  unfold optionsLength
  congr 1
  exact List.map_congr_left fun o ho => TCPHeaderOptionCollection.length_optionBytes (h o ho)

theorem length_packedOptions {options : List (TCPHeaderOption × Nat)} (h : optionsLength options ≤ 40) :
    (packedOptions options).length = paddedLength options * 4 := by
  unfold packedOptions
  rw [List.length_append, List.length_replicate,
    length_flatten_optionBytes fun o ho => (length_le_optionsLength ho).trans h]
  unfold paddedLength
  omega

/-- A packet with a header of the default length whose data offset counts the options, before its data is set. -/
structure Countable (p : WirePacket) : Prop where
  ihl : p.getIpHeaderLengthWords = 5
  tcp : p.tcp = 20
  unset : p.dataSet = false
  fits : optionsLength p.options ≤ 40
  offset : p.getTcpDataOffset = 5 + paddedLength p.options

theorem Countable.getNextHeader_eq (h : p.Countable) : p.getNextHeader = 20 := by
  show p.getIpHeaderLengthWords * 4 = 20
  rw [h.ihl]

theorem Countable.getData_eq (h : p.Countable) : p.getData = 40 + 4 * paddedLength p.options := by
  show p.getNextHeader + p.getTcpDataOffset * 4 = _
  rw [h.getNextHeader_eq, h.offset]
  omega

/-- What `set_data` and `pack` leave in the buffer. -/
theorem Countable.pack_spec (h : p.Countable) (hdata : 40 + 4 * paddedLength p.options + data.length < 65536) :
    ∃ q, p.setData data = some q ∧ q.pack.payload 0 = p.payload 0 ∧
      (bigEndian q.pack.payload 2).toNat = 40 + 4 * paddedLength p.options + data.length ∧
      q.pack.payload 32 = p.payload 32 ∧
      Slice.slice q.pack.payload 40 (paddedLength p.options * 4) = packedOptions p.options ∧
      Slice.slice q.pack.payload (40 + 4 * paddedLength p.options) data.length = data := by
  have hlen := length_packedOptions h.fits
  generalize hlength : bigEndianBytes
    (BitVec.ofNat 16 (p.getIpHeaderLengthBytes + p.getTcpHeaderLengthBytes + data.length)) = length
  have htwo : length.length = 2 := by rw [← hlength]; rfl
  -- the data, then the total length, then the options
  generalize hm : write (write p.payload (40 + 4 * paddedLength p.options) data) 2 length = m
  have hbefore (i : Nat) (hi : i < 40) (h2 : i ≠ 2) (h3 : i ≠ 3) : m i = p.payload i := by
    rw [← hm, write_of_not_mem (by omega), write_of_not_mem (by omega)]
  have hset : p.setData data = some { p with payload := m, dataSet := true } := by
    unfold setData
    rw [if_neg (by rw [h.unset]; exact Bool.false_ne_true), h.getData_eq]
    subst hm hlength
    unfold IPPacket.setIpTotLength
    have hihl : (write p.payload (40 + 4 * paddedLength p.options) data 0).toNat % 16 * 4 =
        p.getIpHeaderLengthBytes := by
      rw [write_of_not_mem (by omega)]
      rfl
    have htcp : (write p.payload (40 + 4 * paddedLength p.options) data (p.tcp + 12)).toNat / 16 * 4 =
        p.getTcpHeaderLengthBytes := by
      rw [write_of_not_mem (by rw [h.tcp]; omega)]
      rfl
    simp only [IPPacket.getIpHeaderLengthBytes, IPPacket.getIpHeaderLengthWords, getTcpHeaderLengthBytes,
      getTcpDataOffset] at hihl htcp ⊢
    rw [hihl, htcp]
  have hpack : ({ p with payload := m, dataSet := true } : WirePacket).pack.payload =
      write m 40 (packedOptions p.options) := by
    have hpointer : ({ p with payload := m, dataSet := true } : WirePacket).getOptionsPointer = 40 := by
      show (m 0).toNat % 16 * 4 + 20 = 40
      have hihl := h.ihl
      unfold IPPacket.getIpHeaderLengthWords at hihl
      rw [hbefore 0 (by omega) (by omega) (by omega), hihl]
    show write m (({ p with payload := m, dataSet := true } : WirePacket).getOptionsPointer) (packedOptions p.options) = _
    rw [hpointer]
  refine ⟨_, hset, ?_⟩
  rw [hpack]
  refine ⟨?_, ?_, ?_, ?_, ?_⟩
  · rw [write_of_not_mem (by omega), hbefore 0 (by omega) (by omega) (by omega)]
  · have hread : bigEndian (write m 40 (packedOptions p.options)) 2 = bigEndian m 2 :=
      bigEndian_congr (write_of_not_mem (by omega)) (write_of_not_mem (by omega))
    have hihl : p.getIpHeaderLengthBytes = 20 := h.getNextHeader_eq
    have htcp : p.getTcpHeaderLengthBytes = (5 + paddedLength p.options) * 4 := congrArg (· * 4) h.offset
    rw [hread, ← hm, ← hlength, bigEndian_write, BitVec.toNat_ofNat, hihl, htcp]
    omega
  · rw [write_of_not_mem (by omega), hbefore 32 (by omega) (by omega) (by omega)]
  · rw [← hlen]
    exact slice_write_self m 40 (packedOptions p.options)
  · rw [slice_write_of_disjoint (by omega), ← hm, slice_write_of_disjoint (by omega)]
    exact slice_write_self p.payload _ data

/-- The bytes that are read into a packet. -/
theorem receive_payload {m : Nat → UInt8} {n i : Nat} (h : i < n) :
    (receive memory (Slice.slice m 0 n)).payload i = m i := by
  show write (create memory).payload 0 (Slice.slice m 0 n) i = m i
  rw [write_of_mem (Nat.zero_le i) (by simpa using h), List.getD_eq_getElem _ _ (by simpa using h), Slice.getElem_slice]
  show m (0 + (i - 0)) = m i
  rw [Nat.sub_zero, Nat.zero_add]

/-- A packet whose data offset counts some packed options, which lie behind its header, parses them. -/
theorem parsedOptions_packed {r : WirePacket} {options : List (TCPHeaderOption × Nat)} (hnone : r.options = [])
    (hdoff : r.getTcpDataOffset = 5 + paddedLength options) (hfits : optionsLength options ≤ 40)
    (hregular : ∀ o ∈ options, o.1.Regular)
    (hbytes : Slice.slice r.payload r.getOptionsPointer (paddedLength options * 4) = packedOptions options) :
    ∃ fuel parsed, r.parsedOptions fuel = some parsed ∧
      parsed.map TCPHeaderOption.value = options.map fun o => o.1.value := by
  have hpadded : paddedLength options = (optionsLength options + 3) / 4 := by
    unfold paddedLength
    omega
  have hsum : ((options.map Prod.fst).map fun o => o.length.toNat).sum = optionsLength options := by
    rw [List.map_map]
    rfl
  have hflatten : ((options.map Prod.fst).map optionBytes).flatten = (options.map fun o => optionBytes o.1).flatten := by
    rw [List.map_map]
    rfl
  obtain ⟨k, hk⟩ : ∃ k, (paddedLength options * 4 - optionsLength options) % 256 = k ∧
      optionsLength options + k = paddedLength options * 4 := ⟨_, rfl, by omega⟩
  have hmemory : TCPHeaderOptionCollection.bytesAt (fun i => r.payload (r.getOptionsPointer + i)) 0
      (((options.map Prod.fst).map fun o => o.length.toNat).sum + k) =
        ((options.map Prod.fst).map optionBytes).flatten ++ List.replicate k 0 := by
    rw [hsum, hflatten, hk.2, TCPHeaderOptionCollection.bytesAt_eq_slice, ← hk.1]
    refine Eq.trans (Slice.slice_congr fun j _ => ?_) hbytes
    rw [Nat.zero_add]
  obtain ⟨parsing, hparse, hvalue, haborted⟩ := TCPHeaderOptionCollection.parse_packed (options.map Prod.fst)
    (fun o ho => by
      obtain ⟨o', ho', rfl⟩ := List.mem_map.1 ho
      exact hregular o' ho')
    (k := k) (by rw [hsum]; omega) (Nat.lt_succ_self _) hmemory
  by_cases hzero : paddedLength options = 0
  · have hempty : options = [] := by
      refine List.eq_nil_iff_forall_not_mem.2 fun o ho => ?_
      have hlength := (hregular o ho).2
      have hle := length_le_optionsLength ho
      omega
    refine ⟨0, [], ?_, by rw [hempty]; rfl⟩
    unfold parsedOptions
    rw [if_pos hnone, hdoff, hzero]
    rfl
  · refine ⟨(options.map Prod.fst).length + 1, parsing.options, ?_, ?_⟩
    · have hnat : (BitVec.ofNat 4 (5 + paddedLength options)).toNat = 5 + paddedLength options := by
        rw [BitVec.toNat_ofNat]
        omega
      unfold parsedOptions TCPHeaderOptionCollection.parseOptions TCPHeaderOptionCollection.optionBytes
      rw [if_pos hnone, hdoff, hnat, if_pos (by omega), Nat.add_sub_cancel_left, ← hk.2, ← hsum, hparse]
      show (if parsing.aborted = true then none else some parsing.options) = _
      rw [haborted]
      rfl
    · rw [hvalue, List.map_map]
      rfl

/-- A packet whose data offset counts its options comes back. -/
theorem Countable.roundTrips (h : p.Countable) (hregular : ∀ o ∈ p.options, o.1.Regular)
    (hdata : 40 + 4 * paddedLength p.options + data.length ≤ mtu) : p.RoundTrips memory data := by
  have hfits := h.fits
  have hpadded : paddedLength p.options = (optionsLength p.options + 3) / 4 := by
    unfold paddedLength
    omega
  have hmtu : mtu = 1500 := rfl
  obtain ⟨q, hq, hfirst, htot, hoffset, hoptions, hbytes⟩ := @Countable.pack_spec p data h (by omega)
  refine ⟨h.offset.trans (by rw [hpadded]), q, hq, ?_⟩
  generalize q.pack.payload = m at hfirst htot hoffset hoptions hbytes
  -- the packet that the bytes are read into
  generalize hr : receive memory (Slice.slice m 0 mtu) = r
  have hread (i : Nat) (hi : i < mtu) : r.payload i = m i := by
    rw [← hr]
    exact receive_payload hi
  have htcp : r.tcp = 20 := by rw [← hr, receive_tcp]
  have hnone : r.options = [] := by rw [← hr]; rfl
  have hihl : r.getIpHeaderLengthWords = 5 := by
    rw [← h.ihl]
    unfold IPPacket.getIpHeaderLengthWords
    rw [hread 0 (by omega), hfirst]
  have hnext : r.getNextHeader = 20 := by
    show r.getIpHeaderLengthWords * 4 = 20
    rw [hihl]
  have hdoff : r.getTcpDataOffset = 5 + paddedLength p.options := by
    rw [← h.offset]
    unfold getTcpDataOffset
    rw [htcp, h.tcp, hread 32 (by omega), hoffset]
  have hgetData : r.getData = 40 + 4 * paddedLength p.options := by
    show r.getNextHeader + r.getTcpDataOffset * 4 = _
    rw [hnext, hdoff]
    omega
  have htotal : r.getIpTotLength.toNat = 40 + 4 * paddedLength p.options + data.length := by
    have hsame : r.getIpTotLength = bigEndian m 2 := bigEndian_congr (hread 2 (by omega)) (hread 3 (by omega))
    rw [hsame, htot]
  refine ⟨parsedOptions_packed hnone hdoff hfits hregular ?_, ?_, ?_⟩
  · refine Eq.trans (Slice.slice_congr fun j hj => ?_) hoptions
    show r.payload (r.getNextHeader + 20 + j) = m (40 + j)
    rw [hnext]
    exact hread _ (by omega)
  · show (r.getIpTotLength.toNat : Int) - (r.getIpHeaderLengthWords * 4 : Nat) - (r.getTcpDataOffset * 4 : Nat) = _
    rw [htotal, hihl, hdoff]
    omega
  · rw [hgetData]
    calc Slice.slice r.payload (40 + 4 * paddedLength p.options) data.length
        = Slice.slice m (40 + 4 * paddedLength p.options) data.length :=
          Slice.slice_congr fun k hk => hread _ (by
            show 40 + 4 * paddedLength p.options + k < mtu
            omega)
      _ = data := hbytes

theorem create_getIpHeaderLengthWords (memory : Nat → UInt8) : (create memory).getIpHeaderLengthWords = 5 := by
  rw [← getIpHeaderLengthWords_init memory]
  unfold IPPacket.getIpHeaderLengthWords
  congr 2

theorem create_getTcpDataOffset (memory : Nat → UInt8) : (create memory).getTcpDataOffset = 5 := by
  have htcp := create_tcp memory
  have hoffset := getTcpDataOffset_setTcpDataOffset
    { toIPPacket := IPPacket.init memory, ports := (IPPacket.init memory).getNextHeader,
      tcp := (IPPacket.init memory).getNextHeader } 5
  refine Eq.trans ?_ hoffset
  unfold getTcpDataOffset
  congr 2

end

/-- Options that calls leave in a packet are written, and read back by another packet, exactly when the padded lengths
after all calls but the last one add up to a multiple of sixteen, so that the data offset is right. -/
theorem options_round_trip (memory memory' : Nat → UInt8) (cs : List OptionCall) (data : List UInt8)
    (hregular : ∀ o ∈ ((create memory).calls cs).options, o.1.Regular)
    (hfits : optionsLength ((create memory).calls cs).options ≤ 40)
    (hdata : 40 + 4 * paddedLength ((create memory).calls cs).options + data.length ≤ mtu) :
    ((create memory).calls cs).RoundTrips memory' data ↔ (paddedLengths [] cs).dropLast.sum % 16 = 0 := by
  obtain ⟨hframe, hoptions, hoffset⟩ := calls_spec (create memory) cs
  have hsum := @sum_paddedLengths cs [] (.inr rfl)
  have hnone : (create memory).options = [] := rfl
  have htcp := create_tcp memory
  rw [hnone] at hoptions hoffset
  rw [← hoptions] at hsum
  rw [create_getTcpDataOffset, hsum] at hoffset
  have hlt : ((create memory).calls cs).getTcpDataOffset < 16 := by
    have hbyte := (((create memory).calls cs).payload (((create memory).calls cs).tcp + 12)).toNat_lt
    unfold getTcpDataOffset
    omega
  have hpadded : paddedLength ((create memory).calls cs).options =
      (optionsLength ((create memory).calls cs).options + 3) / 4 := by
    unfold paddedLength
    omega
  constructor
  · rintro ⟨hdoff, -⟩
    omega
  · intro hdrift
    refine Countable.roundTrips ⟨?_, hframe.tcp.trans htcp, hframe.dataSet, hfits, by omega⟩ hregular hdata
    rw [← create_getIpHeaderLengthWords memory]
    unfold IPPacket.getIpHeaderLengthWords
    rw [hframe.payload 0 (by omega)]

/-- A timestamp option. -/
def timestampOption : TCPHeaderOption := .new 8 10

/-- One timestamp option. -/
theorem options_round_trip_timestamp :
    ((create fun _ => 0).calls [.insert (timestampOption, 1)]).RoundTrips (fun _ => 0) [1, 2, 3] :=
  (options_round_trip (fun _ => 0) (fun _ => 0) [.insert (timestampOption, 1)] [1, 2, 3] (by decide +kernel)
    (by decide +kernel) (by decide +kernel)).2 (by decide +kernel)

/-- With a second option of two bytes the data offset is eleven words instead of eight; with the first one removed the
offset stays that of ten bytes and more. -/
theorem options_drift :
    ((create fun _ => 0).calls [.insert (timestampOption, 1), .insert (.new 4 2, 2)]).getTcpDataOffset = 11 ∧
    optionsLength ((create fun _ => 0).calls [.insert (timestampOption, 1), .insert (.new 4 2, 2)]).options = 12 ∧
    ((create fun _ => 0).calls [.insert (timestampOption, 1), .remove 8]).getTcpDataOffset = 8 ∧
    ((create fun _ => 0).calls [.insert (timestampOption, 1), .remove 8]).options = [] := by
  decide +kernel

end WirePacket

end Wifu
