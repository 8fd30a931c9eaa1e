import Mathlib.Tactic.Ring
import Wifu.Context

/-!
# Send variables as stream positions

The send stream of an endpoint starts with its SYN at position 0.  `SndAt c u n m` says that a sending context has
`snd_una`, `snd_nxt` and `snd_max` at the positions `u`, `n` and `m`; the numbers themselves may wrap around.
-/

namespace Wifu

/-- The sequence number of a position in the send stream. -/
def seqAt (k : Nat) : BitVec 32 := iss + BitVec.ofNat 32 k

@[simp] theorem seqAt_zero : seqAt 0 = iss := rfl

theorem seqAt_add (k j : Nat) : seqAt k + BitVec.ofNat 32 j = seqAt (k + j) := by
  unfold seqAt
  rw [BitVec.add_assoc, Serial.ofNat_add_ofNat]

theorem seqAt_eq_ofNat (k : Nat) : seqAt k = BitVec.ofNat 32 (1 + k) := by
  unfold seqAt iss
  rw [← Serial.ofNat_add_ofNat]
  rfl

theorem dist_seqAt {a b : Nat} (h : a ≤ b) (h' : b < a + 4294967296) :
    Serial.dist (seqAt a) (seqAt b) = b - a := by
  rw [seqAt_eq_ofNat, seqAt_eq_ofNat, Serial.dist_ofNat (by omega) (by omega)]
  omega

theorem lessThan_seqAt {a b : Nat} (h₁ : a < b + 2147483648) (h₂ : b < a + 2147483648) :
    lessThan (seqAt a) (seqAt b) = true ↔ a < b := by
  rw [seqAt_eq_ofNat, seqAt_eq_ofNat, lessThan_ofNat (by omega) (by omega)]
  omega

theorem seqAt_inj {a b : Nat} (h₁ : a < b + 4294967296) (h₂ : b < a + 4294967296) :
    seqAt a = seqAt b ↔ a = b := by
  rw [seqAt_eq_ofNat, seqAt_eq_ofNat, ofNat_eq_iff (by omega) (by omega)]
  omega

/-- A number at forward distance `d` from a position is the number of the position `d` further on. -/
theorem eq_seqAt_of_dist (a : Nat) (x : BitVec 32) : x = seqAt (a + Serial.dist (seqAt a) x) := by
  rw [← seqAt_add, Serial.add_dist]

/-- `k` more bytes are outstanding. -/
theorem OutstandingDataContext.numOutstanding_setSndNxt {c : OutstandingDataContext} {k : Nat}
    (h : c.numOutstanding.toNat + k < 4294967296) :
    (c.setSndNxt (c.sndNxt + BitVec.ofNat 32 k)).numOutstanding.toNat = c.numOutstanding.toNat + k := by
  have hcomm : c.sndNxt + BitVec.ofNat 32 k - c.sndUna = c.numOutstanding + BitVec.ofNat 32 k := by
    unfold numOutstanding
    ring
  show (c.sndNxt + BitVec.ofNat 32 k - c.sndUna).toNat = c.numOutstanding.toNat + k
  rw [hcomm, BitVec.toNat_add, BitVec.toNat_ofNat]
  omega

/-- The send variables are at the positions `u`, `n` and `m`. -/
structure SndAt (c : OutstandingDataContext) (u n m : Nat) : Prop where
  sndUna : c.sndUna = seqAt u
  sndNxt : c.sndNxt = seqAt n
  sndMax : c.sndMax = seqAt m

namespace SndAt

variable {c : OutstandingDataContext} {u n m : Nat}

theorem setSndNxt (h : SndAt c u n m) {k : Nat} (h₁ : k < m + 2147483648) (h₂ : m < k + 2147483648) :
    SndAt (c.setSndNxt (seqAt k)) u k (max m k) := by
  refine ⟨h.sndUna, rfl, ?_⟩
  unfold OutstandingDataContext.setSndNxt
  simp only [h.sndMax]
  by_cases hlt : m < k
  · rw [if_pos ((lessThan_seqAt h₂ h₁).2 hlt), Nat.max_eq_right (Nat.le_of_lt hlt)]
  · rw [if_neg (fun h => hlt ((lessThan_seqAt h₂ h₁).1 h)), Nat.max_eq_left (Nat.le_of_not_lt hlt)]

theorem setSndNxt_self (h : SndAt c u n m) (hn : n ≤ m) (hm : m < n + 2147483648) : c.setSndNxt c.sndNxt = c := by
  unfold OutstandingDataContext.setSndNxt
  rw [if_neg]
  rw [h.sndMax, h.sndNxt, lessThan_seqAt hm (by omega)]
  omega

theorem setSndUna (h : SndAt c u n m) (u' : Nat) : SndAt (c.setSndUna (seqAt u')) u' n m := ⟨rfl, h.sndNxt, h.sndMax⟩

theorem toNat_numOutstanding (h : SndAt c u n m) (hle : u ≤ n) (hlt : n < u + 4294967296) :
    c.numOutstanding.toNat = n - u := by
  unfold OutstandingDataContext.numOutstanding
  rw [h.sndUna, h.sndNxt]
  exact dist_seqAt hle hlt

theorem toInt_numOutstanding (h : SndAt c u n m) (hle : u ≤ n) (hlt : n < u + 2147483648) :
    c.numOutstanding.toInt = (n - u : Nat) := by
  have := h.toNat_numOutstanding hle (by omega)
  rw [BitVec.toInt_eq_toNat_of_lt (by omega), this]

/-- An acceptable ACK number moves `snd_una`, and `snd_nxt` when it was behind. -/
theorem acknowledge (h : SndAt c u n m) {a : Nat} (ham : a ≤ m) (hna : n < a + 2147483648)
    (han : a < n + 2147483648) (hma : m < a + 2147483648) : SndAt (c.acknowledge (seqAt a)) a (max n a) m := by
  unfold OutstandingDataContext.acknowledge
  simp only [OutstandingDataContext.setSndUna_sndNxt, OutstandingDataContext.setSndUna_sndUna, h.sndNxt]
  by_cases hlt : n < a
  · rw [if_pos ((lessThan_seqAt hna han).2 hlt)]
    refine ⟨rfl, ?_, ?_⟩
    · simp [Nat.max_eq_right (Nat.le_of_lt hlt)]
    · have := (h.setSndUna a).setSndNxt (k := a) (by omega) (by omega)
      rw [this.sndMax, Nat.max_eq_left ham]
  · rw [if_neg (fun h => hlt ((lessThan_seqAt hna han).1 h)), Nat.max_eq_left (Nat.le_of_not_lt hlt)]
    exact h.setSndUna a

/-- Acknowledging `snd_una` again changes nothing. -/
theorem acknowledge_self (h : SndAt c u n m) (hun : u ≤ n) (hn : n < u + 2147483648) : c.acknowledge c.sndUna = c := by
  have hl : lessThan c.sndNxt c.sndUna = false := by
    rw [← Bool.not_eq_true, h.sndNxt, h.sndUna, lessThan_seqAt hn (by omega)]
    omega
  unfold OutstandingDataContext.acknowledge
  simp only [OutstandingDataContext.setSndUna_sndNxt, OutstandingDataContext.setSndUna_sndUna, hl,
    Bool.false_eq_true, if_false]
  rfl

/-! ### Tests on ACK numbers -/

/-- The acceptable ACK numbers are those of the positions from `snd_una` to `snd_max`. -/
theorem betweenEqual (h : SndAt c u n m) (hum : u ≤ m) (hlt : m < u + 2147483648) {x : BitVec 32}
    (hx : Wifu.betweenEqual c.sndUna x c.sndMax = true) : ∃ a, x = seqAt a ∧ u ≤ a ∧ a ≤ m := by
  rw [h.sndUna, h.sndMax] at hx
  have hd := dist_seqAt hum (by omega)
  rw [betweenEqual_iff (by omega)] at hx
  exact ⟨_, eq_seqAt_of_dist u x, by omega, by omega⟩

theorem betweenEqualRight_iff (h : SndAt c u n m) (hum : u ≤ m) (hlt : m < u + 2147483648) {a : Nat} (hua : u ≤ a)
    (ham : a ≤ m) : Wifu.betweenEqualRight c.sndUna (seqAt a) c.sndMax = true ↔ u < a := by
  rw [h.sndUna, h.sndMax]
  have hd := dist_seqAt hum (by omega)
  have hd' := dist_seqAt hua (by omega)
  rw [Wifu.betweenEqualRight_iff (by omega)]
  omega

theorem betweenEqual_of_le (h : SndAt c u n m) (hlt : m < u + 2147483648) {a : Nat} (hua : u ≤ a)
    (ham : a ≤ m) : Wifu.betweenEqual c.sndUna (seqAt a) c.sndMax = true := by
  rw [h.sndUna, h.sndMax]
  have hd := dist_seqAt (Nat.le_trans hua ham) (by omega)
  have hd' := dist_seqAt hua (by omega)
  rw [Wifu.betweenEqual_iff (by omega)]
  omega

/-- A number that counts as acknowledging something new is that of a position behind `snd_una`. -/
theorem betweenEqualRight (h : SndAt c u n m) (hum : u ≤ m) (hlt : m < u + 2147483648) {x : BitVec 32}
    (hx : Wifu.betweenEqualRight c.sndUna x c.sndMax = true) : ∃ a, x = seqAt a ∧ u < a ∧ a ≤ m := by
  rw [h.sndUna, h.sndMax] at hx
  have hd := dist_seqAt hum (by omega)
  rw [Wifu.betweenEqualRight_iff (by omega)] at hx
  exact ⟨_, eq_seqAt_of_dist u x, by omega, by omega⟩

/-- A duplicate ACK needs something outstanding. -/
theorem lt_of_betweenEqualLeft (h : SndAt c u n m) (h₁ : u < n + 2147483648) (h₂ : n < u + 2147483648) {x : BitVec 32}
    (hx : betweenEqualLeft x c.sndUna c.sndNxt = true) : u < n := by
  unfold betweenEqualLeft at hx
  rw [h.sndUna, h.sndNxt, Bool.and_eq_true] at hx
  exact (lessThan_seqAt h₁ h₂).1 hx.2

end SndAt

end Wifu
