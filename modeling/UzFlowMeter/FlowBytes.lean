import UzFlowMeter.Flow
import UzFlowMeter.Library.MachineInt

/-!
# Counts, bytes and bulk rates of a flow

The model of what a row uses of `packet_count.c`, `flag_count.c` and
`flow_bytes.c`.  A total is written over the addition its loop uses; a
quotient of doubles is `none` when the divisor is zero, since the result is
then not a number.
-/

namespace UzFlowMeter

open MachineInt

/-- `has_payload`. -/
def hasPayload (flow : Flow) (packetDirection : PacketDirection) : Int :=
  flow.pairs.countP fun pair =>
    decide (pair.direction = packetDirection) &&
      decide (getPayload pair.packet > 0)

/-- `get_total`. -/
def getTotal (flow : Flow) (packetDirection : PacketDirection) : Int :=
  flow.pairs.countP fun pair =>
    packetDirection = .both ∨ pair.direction = packetDirection

/-- `flag_counter` of `flag_count.c`, which passes over UDP packets. -/
def flagCounter (flow : Flow) (flag : UInt8)
    (packetDirection : PacketDirection) : Int :=
  flow.pairs.countP fun pair =>
    pair.packet.protocol ≠ ipprotoUdp ∧
      (packetDirection = .both ∨ pair.direction = packetDirection) ∧
      pair.packet.flags &&& flag = flag

section Totals

variable {m : Type → Type} [Monad m] (add : Int → Int → m Int) (flow : Flow)

/-- The loops over the pairs: add up a field of the selected packets. -/
def totalOver (select : Pair → Bool) (field : Packet → Int) : m Int :=
  sumWith add 0 <|
    (flow.pairs.filter select).map fun pair => field pair.packet

/-- `get_bytes`. -/
def getBytes : m Int :=
  totalOver add flow (fun _ => true) Packet.payloadSize

/-- `get_bytes_sent`. -/
def getBytesSent : m Int :=
  totalOver add flow (fun pair => pair.direction = .forward)
    Packet.payloadSize

/-- `get_bytes_received`. -/
def getBytesReceived : m Int :=
  totalOver add flow (fun pair => pair.direction = .reverse)
    Packet.payloadSize

/-- `get_forward_header_bytes`. -/
def getForwardHeaderBytes : m Int :=
  totalOver add flow (fun pair => pair.direction = .forward)
    Packet.headerSize

/-- `get_reverse_header_bytes`, which returns early on an empty flow. -/
def getReverseHeaderBytes : m Int :=
  if flow.packets.count = 0 then pure 0
  else
    totalOver add flow (fun pair => pair.direction = .reverse)
      Packet.headerSize

end Totals

/-- `get_min_forward_header_bytes`, which begins with the first pair whatever
its direction. -/
def getMinForwardHeaderBytes (flow : Flow) : Int :=
  match flow.pairs with
  | [] => 0
  | first :: rest =>
      (first :: rest).foldl
        (fun minHeaderBytes pair =>
          if pair.direction = .forward then
            if pair.packet.headerSize < minHeaderBytes then
              pair.packet.headerSize
            else minHeaderBytes
          else minHeaderBytes)
        first.packet.headerSize

/-- `get_bytes_per_bulk`: a quotient of integers. -/
def getBytesPerBulk (flow : Flow) (packetDirection : PacketDirection) : ℚ :=
  if packetDirection = .forward then
    if flow.forwardBulkCount ≠ 0 then
      (flow.forwardBulkSize.tdiv flow.forwardBulkCount : Int)
    else 0
  else
    if flow.backwardBulkCount ≠ 0 then
      (flow.backwardBulkSize.tdiv flow.backwardBulkCount : Int)
    else 0

/-- `get_packets_per_bulk`: a quotient of doubles. -/
def getPacketsPerBulk (flow : Flow) (packetDirection : PacketDirection) :
    ℚ :=
  if packetDirection = .forward then
    if flow.forwardBulkCount ≠ 0 then
      flow.forwardBulkPacketCount / flow.forwardBulkCount
    else 0
  else
    if flow.backwardBulkCount ≠ 0 then
      flow.backwardBulkPacketCount / flow.backwardBulkCount
    else 0

/-- A quotient of doubles, if it is a number. -/
def divideDouble (dividend divisor : ℚ) : Option ℚ :=
  if divisor = 0 then none else some (dividend / divisor)

/-- `get_bulk_rate`. -/
def getBulkRate (flow : Flow) (packetDirection : PacketDirection) :
    Option ℚ :=
  if packetDirection = .forward then
    if flow.forwardBulkCount ≠ 0 then
      divideDouble flow.forwardBulkSize flow.forwardBulkDuration
    else some 0
  else
    if flow.backwardBulkCount ≠ 0 then
      divideDouble flow.backwardBulkSize flow.backwardBulkDuration
    else some 0

theorem totalOver_exact (flow : Flow) (select : Pair → Bool)
    (field : Packet → Int) :
    Id.run (totalOver exact flow select field) =
      ((flow.pairs.filter select).map fun pair => field pair.packet).sum := by
  rw [totalOver, sumWith_exact, zero_add]

end UzFlowMeter
