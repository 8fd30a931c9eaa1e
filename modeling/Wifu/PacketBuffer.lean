import Wifu.Event
import Wifu.Lib.LowerBound

/-!
# The out-of-order receive window (`TCPPacketBuffer.cc`)

A sorted list of packets with a cached byte count.  `size` and `get_continuous_data` walk the list in the same way:
each packet lies at the current sequence number, overlaps it, lies before it or leaves a gap (`placement`).
-/

namespace Wifu

structure TCPPacketBuffer where
  buffer : List TCPPacket := []
  firstExpectedSequenceNumber : BitVec 32 := 0
  started : Bool := false
  /-- `size_`; negative when it has to be computed again. -/
  cachedSize : Int := -1
  deriving DecidableEq

namespace TCPPacketBuffer

/-- Where a packet lies with respect to the current sequence number of a walk. -/
inductive Placement
  | equal
  | overlap
  | past
  | gap
  deriving DecidableEq, Repr

def placement (sequenceNumber : BitVec 32) (p : TCPPacket) : Placement :=
  if sequenceNumber = p.sequenceNumber then .equal
  else if between p.sequenceNumber sequenceNumber (p.sequenceNumber + BitVec.ofInt 32 p.dataLengthBytes) then .overlap
  else if lessThan p.sequenceNumber sequenceNumber then .past
  else .gap

/-- The bytes of an overlapping packet that lie before the current sequence number. -/
def difference (sequenceNumber : BitVec 32) (p : TCPPacket) : Int := (sequenceNumber - p.sequenceNumber).toInt

/-- The loop of `size`. -/
def sizeLoop : BitVec 32 → List TCPPacket → Int
  | _, [] => 0
  | sequenceNumber, p :: ps =>
    match placement sequenceNumber p with
    | .equal => p.dataLengthBytes + sizeLoop (sequenceNumber + BitVec.ofInt 32 p.dataLengthBytes) ps
    | .overlap =>
      let length := p.dataLengthBytes - difference sequenceNumber p
      length + sizeLoop (sequenceNumber + BitVec.ofInt 32 length) ps
    | .past => sizeLoop sequenceNumber ps
    | .gap => p.dataLengthBytes + sizeLoop (p.sequenceNumber + BitVec.ofInt 32 p.dataLengthBytes) ps

/-- `size`: the buffer with its count up to date. -/
def sized (b : TCPPacketBuffer) : TCPPacketBuffer :=
  if 0 ≤ b.cachedSize then b
  else { b with cachedSize := sizeLoop b.firstExpectedSequenceNumber b.buffer }

def markDirty (b : TCPPacketBuffer) : TCPPacketBuffer := { b with cachedSize := -1 }

/-- `lower_bound` with `TCPSequenceNumberComparator`. -/
def position (b : TCPPacketBuffer) (p : TCPPacket) : Nat :=
  Search.lowerBound (fun x => lessThan x.sequenceNumber p.sequenceNumber) b.buffer

/-- The packet found with the sequence number of `p`. -/
def found (b : TCPPacketBuffer) (p : TCPPacket) : Option TCPPacket :=
  b.buffer[b.position p]?.filter fun x => x.sequenceNumber == p.sequenceNumber

/-- The list with `p` put in; of two packets with one sequence number the bigger stays. -/
def place (b : TCPPacketBuffer) (p : TCPPacket) : List TCPPacket :=
  let inserted := b.buffer.insertIdx (b.position p) p
  match b.found p with
  | some x =>
    if x.dataLengthBytes ≤ p.dataLengthBytes then inserted.eraseIdx (b.position p + 1)
    else inserted.eraseIdx (b.position p)
  | none => inserted

/-- `insert`: the number of new bytes, and the buffer with the packet. -/
def insert (b : TCPPacketBuffer) (p : TCPPacket) : Except Abort (Int × TCPPacketBuffer) := do
  check b.started .notStarted
  let before := b.sized
  let after := ({ before with buffer := before.place p }).markDirty.sized
  let totalInserted := after.cachedSize - before.cachedSize
  check (0 ≤ totalInserted) .negativeInsert
  if totalInserted = 0 ∧ before.found p = none then
    .ok (totalInserted, { after with buffer := after.buffer.eraseIdx (before.position p) })
  else .ok (totalInserted, after)

/-- `remove`: the packet at the place of `p` when it is `p`, and the buffer without it.  Packets are compared as the source
compares their pointers: of two packets of the buffer only one has the number of `p`. -/
def remove (b : TCPPacketBuffer) (p : TCPPacket) : Option TCPPacket × TCPPacketBuffer :=
  match b.buffer[b.position p]? with
  | some foundPacket =>
    if foundPacket = p then
      (some foundPacket, ({ b with buffer := b.buffer.eraseIdx (b.position p) }).markDirty)
    else (none, b)
  | none => (none, b)

/-- The loop of `get_continuous_data`: the bytes appended, the sequence number reached and the packets left. -/
def continuousLoop : BitVec 32 → List TCPPacket → List UInt8 × BitVec 32 × List TCPPacket
  | sequenceNumber, [] => ([], sequenceNumber, [])
  | sequenceNumber, p :: ps =>
    match placement sequenceNumber p with
    | .equal =>
      let r := continuousLoop (sequenceNumber + BitVec.ofInt 32 p.dataLengthBytes) ps
      (p.data ++ r.1, r.2)
    | .overlap =>
      let count := p.dataLengthBytes - difference sequenceNumber p
      let r := continuousLoop (sequenceNumber + BitVec.ofInt 32 count) ps
      (p.data.drop (difference sequenceNumber p).toNat ++ r.1, r.2)
    | .past => continuousLoop sequenceNumber ps
    | .gap => ([], sequenceNumber, p :: ps)

/-- `get_continuous_data`: the bytes appended to the receive buffer, and the window without them. -/
def getContinuousData (b : TCPPacketBuffer) (sequenceNumber : BitVec 32) :
    Except Abort (List UInt8 × TCPPacketBuffer) := do
  check b.started .notStarted
  if b.buffer = [] then .ok ([], b)
  else do
    check (b.firstExpectedSequenceNumber == sequenceNumber) .firstExpected
    let r := continuousLoop sequenceNumber b.buffer
    .ok (r.1, ({ b with buffer := r.2.2, firstExpectedSequenceNumber := r.2.1 }).markDirty)

/-- `set_first_sequence_number`. -/
def setFirstSequenceNumber (b : TCPPacketBuffer) (sequenceNumber : BitVec 32) : TCPPacketBuffer :=
  { b with firstExpectedSequenceNumber := sequenceNumber, started := true }

end TCPPacketBuffer

end Wifu
