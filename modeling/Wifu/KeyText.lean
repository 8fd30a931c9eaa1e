import Wifu.SocketKeys
import Wifu.Lib.Separated

/-!
# The text of a key (`Socket.cc`, `AddressPort.cc`)

A key is the local port, a blank, the local address, the remote port, a blank and the remote address.  Nothing stands
between the local address and the remote port: the last digits of the one can be the first digits of the other
(`key_injective`).
-/

namespace Wifu

/-! ### Decimal numbers -/

theorem decimal_inj {n n' : Nat} : decimal n = decimal n' ↔ n = n' := by
  constructor
  · intro h
    rw [← @Nat.ofDigitChars_ten_toDigits n, ← @Nat.ofDigitChars_ten_toDigits n']
    exact congrArg (Nat.ofDigitChars 10 · 0) h
  · rintro rfl
    rfl

/-- A number has neither a blank nor a dot in it. -/
theorem notMem_decimal {c : Char} (h : c.isDigit = false) (n : Nat) : c ∉ decimal n := by
  intro hc
  rw [Nat.isDigit_of_mem_toDigits (by omega) (by omega) hc] at h
  cases h

namespace AddressPort

/-- The last number of a dotted address. -/
def lastOctet (address : BitVec 32) : Nat := (address.extractLsb' 0 8).toNat

/-- The other three numbers. -/
def network (address : BitVec 32) : BitVec 24 := address.extractLsb' 8 24

/-- A dotted address up to its last number. -/
def networkText (address : BitVec 32) : List Char :=
  decimal (address.extractLsb' 24 8).toNat ++ '.' :: (decimal (address.extractLsb' 16 8).toNat ++
    '.' :: (decimal (address.extractLsb' 8 8).toNat ++ ['.']))

variable {a a' : BitVec 32}

theorem octet_toNat (a : BitVec 32) (k n : Nat) : (a.extractLsb' k n).toNat = a.toNat / 2 ^ k % 2 ^ n := by
  rw [BitVec.extractLsb'_toNat, Nat.shiftRight_eq_div_pow]

theorem address_eq_iff : a = a' ↔ network a = network a' ∧ lastOctet a = lastOctet a' := by
  constructor
  · rintro rfl
    exact ⟨rfl, rfl⟩
  · rintro ⟨hnetwork, hlast⟩
    have hnetwork := congrArg BitVec.toNat hnetwork
    unfold network at hnetwork
    unfold lastOctet at hlast
    rw [octet_toNat, octet_toNat] at hnetwork hlast
    apply BitVec.eq_of_toNat_eq
    have h := a.isLt
    have h' := a'.isLt
    omega

theorem dotted_eq (a : BitVec 32) : dotted a = networkText a ++ decimal (lastOctet a) := by
  simp [dotted, networkText, lastOctet]

/-- The text before the last number is the same only for the same three numbers. -/
theorem networkText_append_inj {l l' : List Char} (h : networkText a ++ l = networkText a' ++ l') :
    network a = network a' ∧ l = l' := by
  have hdot := notMem_decimal (c := '.') rfl
  simp only [networkText, List.append_assoc, List.cons_append, List.nil_append] at h
  rw [Separated.append_cons_inj (hdot _) (hdot _), Separated.append_cons_inj (hdot _) (hdot _),
    Separated.append_cons_inj (hdot _) (hdot _), decimal_inj, decimal_inj, decimal_inj] at h
  obtain ⟨h₁, h₂, h₃, h⟩ := h
  refine ⟨?_, h⟩
  rw [octet_toNat, octet_toNat] at h₁ h₂ h₃
  apply BitVec.eq_of_toNat_eq
  unfold network
  rw [octet_toNat, octet_toNat]
  have h := a.isLt
  have h' := a'.isLt
  omega

theorem networkText_congr (h : network a = network a') : networkText a = networkText a' := by
  have h := congrArg BitVec.toNat h
  unfold network at h
  rw [octet_toNat, octet_toNat] at h
  unfold networkText
  simp only [octet_toNat]
  have h₁ : a.toNat / 2 ^ 24 % 2 ^ 8 = a'.toNat / 2 ^ 24 % 2 ^ 8 := by omega
  have h₂ : a.toNat / 2 ^ 16 % 2 ^ 8 = a'.toNat / 2 ^ 16 % 2 ^ 8 := by omega
  have h₃ : a.toNat / 2 ^ 8 % 2 ^ 8 = a'.toNat / 2 ^ 8 % 2 ^ 8 := by omega
  rw [h₁, h₂, h₃]

theorem dotted_inj : dotted a = dotted a' ↔ a = a' := by
  constructor
  · intro h
    rw [dotted_eq, dotted_eq] at h
    obtain ⟨hnetwork, hlast⟩ := networkText_append_inj h
    exact address_eq_iff.2 ⟨hnetwork, decimal_inj.1 hlast⟩
  · rintro rfl
    rfl

/-- A dotted address has no blank in it. -/
theorem notMem_dotted (a : BitVec 32) : ' ' ∉ dotted a := by
  have hblank := notMem_decimal (c := ' ') rfl
  simp [dotted, hblank]

end AddressPort

/-! ### Keys -/

open AddressPort

/-- The digits `d` end the number `o'` and begin the number `p`: without them there are `o` and `p'`. -/
def DigitsMove (o o' p p' : Nat) : Prop := ∃ d, d ≠ [] ∧ decimal o' = decimal o ++ d ∧ decimal p = d ++ decimal p'

/-- Two pairs of addresses that differ only in the last number of the local address and in the remote port, and there by
digits that have moved from the one to the other. -/
structure DigitsShared (l r l' r' : AddressPort) : Prop where
  localPort : l.port = l'.port
  remoteAddress : r.address = r'.address
  network : network l.address = network l'.address
  moved : DigitsMove (lastOctet l.address) (lastOctet l'.address) r.port.toNat r'.port.toNat ∨
    DigitsMove (lastOctet l'.address) (lastOctet l.address) r'.port.toNat r.port.toNat

variable {l r l' r' : AddressPort}

theorem makeKey_eq (l r : AddressPort) : makeKey l r = decimal l.port.toNat ++ ' ' ::
    ((networkText l.address ++ decimal (lastOctet l.address) ++ decimal r.port.toNat) ++ ' ' :: dotted r.address) := by
  simp [makeKey, toS, dotted_eq l.address]

/-- Two keys are the same if and only if their parts are, where the last number of the local address and the remote port
count as one part. -/
theorem makeKey_eq_iff : makeKey l r = makeKey l' r' ↔
    l.port = l'.port ∧ r.address = r'.address ∧ network l.address = network l'.address ∧
      decimal (lastOctet l.address) ++ decimal r.port.toNat =
        decimal (lastOctet l'.address) ++ decimal r'.port.toNat := by
  have hblank := notMem_decimal (c := ' ') rfl
  have hmiddle (l r : AddressPort) :
      ' ' ∉ networkText l.address ++ decimal (lastOctet l.address) ++ decimal r.port.toNat := by
    rw [← dotted_eq, List.mem_append]
    rintro (h | h)
    · exact notMem_dotted _ h
    · exact hblank _ h
  rw [makeKey_eq, makeKey_eq, Separated.append_cons_inj (hblank _) (hblank _),
    Separated.append_cons_inj (hmiddle l r) (hmiddle l' r'), decimal_inj, dotted_inj, List.append_assoc,
    List.append_assoc]
  constructor
  · rintro ⟨hport, htext, haddress⟩
    obtain ⟨hnetwork, hlast⟩ := networkText_append_inj htext
    exact ⟨BitVec.eq_of_toNat_eq hport, haddress, hnetwork, hlast⟩
  · rintro ⟨hport, haddress, hnetwork, hlast⟩
    exact ⟨congrArg BitVec.toNat hport, by rw [networkText_congr hnetwork, hlast], haddress⟩

/-- Different pairs of addresses have the same key only when digits have moved between the local address and the remote
port. -/
theorem makeKey_collision (hne : ¬(l = l' ∧ r = r')) : makeKey l r = makeKey l' r' ↔ DigitsShared l r l' r' := by
  rw [makeKey_eq_iff]
  constructor
  · rintro ⟨hport, haddress, hnetwork, hlast⟩
    have hdiff : decimal (lastOctet l.address) ≠ decimal (lastOctet l'.address) := by
      intro heq
      rw [heq, List.append_cancel_left_eq, decimal_inj] at hlast
      refine hne ⟨?_, ?_⟩
      · obtain ⟨a, p⟩ := l
        obtain ⟨a', p'⟩ := l'
        obtain rfl : a = a' := address_eq_iff.2 ⟨hnetwork, decimal_inj.1 heq⟩
        obtain rfl : p = p' := hport
        rfl
      · obtain ⟨a, p⟩ := r
        obtain ⟨a', p'⟩ := r'
        obtain rfl : a = a' := haddress
        obtain rfl : p = p' := BitVec.eq_of_toNat_eq hlast
        rfl
    exact ⟨hport, haddress, hnetwork, (Separated.append_eq_append hdiff).1 hlast⟩
  · rintro ⟨hport, haddress, hnetwork, hmoved⟩
    refine ⟨hport, haddress, hnetwork, ?_⟩
    rcases hmoved with ⟨d, -, hlast, hremote⟩ | ⟨d, -, hlast, hremote⟩
    · rw [hlast, hremote, List.append_assoc]
    · rw [hlast, hremote, List.append_assoc]

/-- Digits that have moved make a difference. -/
theorem DigitsShared.ne (h : DigitsShared l r l' r') : ¬(l = l' ∧ r = r') := by
  rintro ⟨rfl, rfl⟩
  rcases h.moved with ⟨d, hd, hlast, -⟩ | ⟨d, hd, hlast, -⟩
  · exact hd (List.self_eq_append_right.1 hlast)
  · exact hd (List.self_eq_append_right.1 hlast)

namespace SocketCollection

/-- Each of two sockets that are pushed one after the other is found under its own addresses. -/
def BothFound (c : SocketCollection) (s t : SocketPointer) : Prop :=
  ((c.push s).push t).getByLocalAndRemoteAp (c.sockets s).localAddress (c.sockets s).remoteAddress = some s ∧
    ((c.push s).push t).getByLocalAndRemoteAp (c.sockets t).localAddress (c.sockets t).remoteAddress = some t

theorem bothFound_iff {c : SocketCollection} {s t : SocketPointer} (hst : s ≠ t) :
    c.BothFound s t ↔ c.key s ≠ c.key t := by
  have hs : ((c.push s).push t).Holds (c.key s) s ↔ c.key s ≠ c.key t := by
    rw [holds_push, holds_push, push_key]
    constructor
    · rintro (⟨-, heq⟩ | ⟨hne, -⟩)
      · exact absurd heq hst
      · exact hne
    · exact fun hne => .inr ⟨hne, .inl ⟨rfl, rfl⟩⟩
  have ht : ((c.push s).push t).Holds (c.key t) t := by
    rw [holds_push, push_key]
    exact .inl ⟨rfl, rfl⟩
  exact ⟨fun h => hs.1 h.1, fun h => ⟨hs.2 h, ht⟩⟩

end SocketCollection

/-- Two pairs of addresses have the same key only if they are the same, and two sockets with different pairs have entries
of their own, if and only if the pairs are not ones that differ by digits that have moved between the local address and
the remote port. -/
theorem key_injective (l r l' r' : AddressPort) :
    ((makeKey l r = makeKey l' r' → l = l' ∧ r = r') ∧
      ∀ (c : SocketCollection) (s t : SocketPointer), s ≠ t →
        (c.sockets s).localAddress = l → (c.sockets s).remoteAddress = r →
        (c.sockets t).localAddress = l' → (c.sockets t).remoteAddress = r' → ¬(l = l' ∧ r = r') → c.BothFound s t) ↔
    ¬DigitsShared l r l' r' := by
  constructor
  · rintro ⟨hkey, -⟩ hshared
    exact hshared.ne (hkey ((makeKey_collision hshared.ne).2 hshared))
  · intro hshared
    have hkey (heq : makeKey l r = makeKey l' r') : l = l' ∧ r = r' := by
      by_contra hne
      exact hshared ((makeKey_collision hne).1 heq)
    refine ⟨hkey, ?_⟩
    rintro c s t hst rfl rfl rfl rfl hne
    exact (SocketCollection.bothFound_iff hst).2 fun heq => hne (hkey heq)

/-- The connections from 10.0.0.1:80 to 10.0.0.9:15000 and from 10.0.0.11:80 to 10.0.0.9:5000. -/
theorem key_shared :
    makeKey ⟨0x0a000001, 80⟩ ⟨0x0a000009, 15000⟩ = makeKey ⟨0x0a00000b, 80⟩ ⟨0x0a000009, 5000⟩ ∧
      (⟨0x0a000001, 80⟩ : AddressPort) ≠ ⟨0x0a00000b, 80⟩ := by
  decide +kernel

end Wifu
