import Mathlib.Algebra.Order.Field.Rat

/-!
# Captured packets

The model of `packet.c` and its headers.  A frame is the pcap header and the
memory that the packet pointer leads to; bytes past the captured length are
whatever that memory holds.  The parser is written once over a monad that
fetches one byte at a time, so that the bytes it touches can be observed as
well as their values.

Machine integers keep their width (`UInt8`, `UInt16`); a C `int` is an `Int`,
a `double` is an exact rational, and a C string is the list of its characters
up to the terminating NUL.
-/

namespace UzFlowMeter

abbrev CString := List Char

/-- `PacketDirection`. -/
inductive PacketDirection where
  | forward
  | reverse
  | both
  deriving DecidableEq, Repr

/-- `Packet`. -/
structure Packet where
  srcIp : CString := []
  destIp : CString := []
  srcPort : UInt16 := 0
  destPort : UInt16 := 0
  srcMac : CString := []
  destMac : CString := []
  protocol : UInt8 := 0
  icmpType : UInt8 := 0
  icmpCode : UInt8 := 0
  time : ℚ := 0
  window : UInt16 := 0
  payloadSize : Int := 0
  flags : UInt8 := 0
  headerSize : Int := 0
  ihl : UInt8 := 0
  deriving DecidableEq

/-- The part of `struct pcap_pkthdr` that the program reads, with the number
of bytes that were captured. -/
structure PcapPkthdr where
  tvSec : Int
  tvUsec : Int
  caplen : Nat
  deriving DecidableEq

/-- The arguments pcap hands to the packet handler. -/
structure Frame where
  pkthdr : PcapPkthdr
  packet : Nat → UInt8

def ethertypeIp : UInt16 := 0x0800
def ipprotoIcmp : UInt8 := 1
def ipprotoTcp : UInt8 := 6
def ipprotoUdp : UInt8 := 17
def ethernetHeaderLen : Nat := 14
def sizeofUdphdr : Nat := 8
def sizeofIcmphdr : Nat := 8

/-- `ntohs` of the two bytes as they lie in memory. -/
def ntohs (high low : UInt8) : UInt16 :=
  UInt16.ofNat (256 * high.toNat + low.toNat)

/-- One byte printed with `%02x`. -/
def formatHexByte (byte : UInt8) : CString :=
  [Nat.digitChar (byte.toNat / 16), Nat.digitChar (byte.toNat % 16)]

/-- Six bytes printed with `%02x:%02x:%02x:%02x:%02x:%02x`. -/
def formatMac (bytes : List UInt8) : CString :=
  [':'].intercalate (bytes.map formatHexByte)

/-- `inet_ntop(AF_INET, ..)`: the canonical dotted decimal. -/
def inetNtop (bytes : List UInt8) : CString :=
  ['.'].intercalate (bytes.map fun byte => Nat.toDigits 10 byte.toNat)

section Parser

variable {m : Type → Type} [Monad m] (byte : Nat → m UInt8)

def readShort (offset : Nat) : m UInt16 := do
  let high ← byte offset
  let low ← byte (offset + 1)
  return ntohs high low

def readBytes : Nat → Nat → m (List UInt8)
  | _, 0 => return []
  | offset, size + 1 => do
      let head ← byte offset
      let tail ← readBytes (offset + 1) size
      return head :: tail

/-- The TCP, UDP, ICMP and default branches of `parse_packet`: the packet
with its transport fields set, and `transport_header_len`. -/
def parseTransport (offset : Nat) (pkt : Packet) : m (Packet × Nat) := do
  if pkt.protocol = ipprotoTcp then
    let srcPort ← readShort byte offset
    let destPort ← readShort byte (offset + 2)
    let doff ← byte (offset + 12)
    let window ← readShort byte (offset + 14)
    let flags ← byte (offset + 13)
    return ({ pkt with
      srcPort := srcPort
      destPort := destPort
      window := window
      flags := flags }, doff.toNat / 16 * 4)
  else if pkt.protocol = ipprotoUdp then
    let srcPort ← readShort byte offset
    let destPort ← readShort byte (offset + 2)
    return ({ pkt with
      srcPort := srcPort
      destPort := destPort
      window := 0 }, sizeofUdphdr)
  else if pkt.protocol = ipprotoIcmp then
    let icmpType ← byte offset
    let icmpCode ← byte (offset + 1)
    return ({ pkt with
      icmpType := icmpType
      icmpCode := icmpCode
      window := 0 }, sizeofIcmphdr)
  else
    return ({ pkt with window := 0 }, 0)

/-- `parse_packet`, over any way of fetching a byte of the frame. -/
def parsePacketWith (pkthdr : PcapPkthdr) : m Packet := do
  let srcMac ← readBytes byte 6 6
  let destMac ← readBytes byte 0 6
  let pkt : Packet :=
    { srcMac := formatMac srcMac, destMac := formatMac destMac }
  let etherType ← readShort byte 12
  if etherType ≠ ethertypeIp then
    return pkt
  else
    -- `ihl` is the low nibble of the first IP byte on a little-endian host.
    let versionIhl ← byte ethernetHeaderLen
    let saddr ← readBytes byte (ethernetHeaderLen + 12) 4
    let daddr ← readBytes byte (ethernetHeaderLen + 16) 4
    let protocol ← byte (ethernetHeaderLen + 9)
    let totLen ← readShort byte (ethernetHeaderLen + 2)
    let ihl := versionIhl.toNat % 16
    let ipHeaderLen := ihl * 4
    let (pkt, transportHeaderLen) ←
      parseTransport byte (ethernetHeaderLen + ipHeaderLen)
        { pkt with
          ihl := UInt8.ofNat ihl
          srcIp := inetNtop saddr
          destIp := inetNtop daddr
          protocol := protocol }
    let payloadSize : Int :=
      totLen.toNat - (ipHeaderLen + transportHeaderLen)
    return { pkt with
      payloadSize := if payloadSize < 0 then 0 else payloadSize
      headerSize := ethernetHeaderLen + ipHeaderLen + transportHeaderLen
      time := pkthdr.tvSec + pkthdr.tvUsec / 1000000 }

end Parser

/-- `parse_packet` on the memory behind the packet pointer. -/
def parsePacket (pkthdr : PcapPkthdr) (packet : Nat → UInt8) : Packet :=
  Id.run (parsePacketWith (fun index => pure (packet index)) pkthdr)

/-- The packet that `parse_packet` makes of a frame. -/
def Frame.parsed (frame : Frame) : Packet :=
  parsePacket frame.pkthdr frame.packet

/-- The protocols that `on_packet_received` works on. -/
def Packet.Accepted (packet : Packet) : Prop :=
  packet.protocol = ipprotoTcp ∨ packet.protocol = ipprotoUdp

instance (packet : Packet) : Decidable packet.Accepted :=
  inferInstanceAs (Decidable (_ ∨ _))

/-- The bytes of `packet` from an offset on. -/
def bytesAt (packet : Nat → UInt8) : Nat → Nat → List UInt8
  | _, 0 => []
  | offset, size + 1 => packet offset :: bytesAt packet (offset + 1) size

private theorem readBytes_memory
    (packet : Nat → UInt8) (offset size : Nat) :
    readBytes (m := Id) (fun index => pure (packet index)) offset size =
      bytesAt packet offset size := by
  induction size generalizing offset with
  | zero =>
      rfl
  | succ size inductionHypothesis =>
      rw [bytesAt, ← inductionHypothesis]
      rfl

@[simp]
theorem length_bytesAt (packet : Nat → UInt8) (offset size : Nat) :
    (bytesAt packet offset size).length = size := by
  induction size generalizing offset with
  | zero =>
      rfl
  | succ size inductionHypothesis =>
      simp [bytesAt, inductionHypothesis]

/-- `parseTransport` on memory. -/
def transportAt (packet : Nat → UInt8) (offset : Nat) (pkt : Packet) :
    Packet × Nat :=
  parseTransport (m := Id) (fun index => pure (packet index)) offset pkt

/-- The transport branches set transport fields and nothing else. -/
theorem transportAt_frame
    (packet : Nat → UInt8) (offset : Nat) (pkt : Packet) :
    ∃ srcPort destPort window flags icmpType icmpCode,
      (transportAt packet offset pkt).1 =
        { pkt with
          srcPort := srcPort
          destPort := destPort
          window := window
          flags := flags
          icmpType := icmpType
          icmpCode := icmpCode } := by
  rw [transportAt, parseTransport]
  split
  · exact ⟨_, _, _, _, _, _, rfl⟩
  · split
    · exact ⟨_, _, _, _, _, _, rfl⟩
    · split
      · exact ⟨_, _, _, _, _, _, rfl⟩
      · exact ⟨_, _, _, _, _, _, rfl⟩

theorem parsePacket_of_not_ip
    {pkthdr : PcapPkthdr} {packet : Nat → UInt8}
    (notIp : ntohs (packet 12) (packet 13) ≠ ethertypeIp) :
    parsePacket pkthdr packet =
      { srcMac := formatMac (bytesAt packet 6 6)
        destMac := formatMac (bytesAt packet 0 6) } := by
  rw [parsePacket, parsePacketWith]
  rw [readBytes_memory, readBytes_memory]
  exact if_pos notIp

/-- The fields that `parse_packet` sets before the transport header. -/
def networkPacket (packet : Nat → UInt8) : Packet where
  srcMac := formatMac (bytesAt packet 6 6)
  destMac := formatMac (bytesAt packet 0 6)
  ihl := UInt8.ofNat ((packet 14).toNat % 16)
  srcIp := inetNtop (bytesAt packet 26 4)
  destIp := inetNtop (bytesAt packet 30 4)
  protocol := packet 23

theorem parsePacket_of_ip
    {pkthdr : PcapPkthdr} {packet : Nat → UInt8}
    (isIp : ntohs (packet 12) (packet 13) = ethertypeIp) :
    parsePacket pkthdr packet =
      let ipHeaderLen := (packet 14).toNat % 16 * 4
      let parsed :=
        transportAt packet (14 + ipHeaderLen) (networkPacket packet)
      let payloadSize : Int :=
        (ntohs (packet 16) (packet 17)).toNat - (ipHeaderLen + parsed.2)
      { parsed.1 with
        payloadSize := if payloadSize < 0 then 0 else payloadSize
        headerSize := ethernetHeaderLen + ipHeaderLen + parsed.2
        time := pkthdr.tvSec + pkthdr.tvUsec / 1000000 } := by
  rw [parsePacket, parsePacketWith]
  rw [readBytes_memory, readBytes_memory, readBytes_memory,
    readBytes_memory]
  exact if_neg (not_not_intro isIp)

theorem transportAt_length_le
    (packet : Nat → UInt8) (offset : Nat) (pkt : Packet) :
    (transportAt packet offset pkt).2 ≤ 60 := by
  have dataOffset := (packet (offset + 12)).toNat_lt
  rw [transportAt, parseTransport]
  split
  · change (packet (offset + 12)).toNat / 16 * 4 ≤ 60
    omega
  · split
    · exact (by decide : sizeofUdphdr ≤ 60)
    · split
      · exact (by decide : sizeofIcmphdr ≤ 60)
      · exact Nat.zero_le 60

/-- The sizes of a packet come from 16 bits of total length and from header
lengths of four bits. -/
theorem Frame.parsed_sizes (frame : Frame) :
    (0 ≤ frame.parsed.payloadSize ∧ frame.parsed.payloadSize ≤ 65535) ∧
      0 ≤ frame.parsed.headerSize ∧ frame.parsed.headerSize ≤ 134 := by
  rw [Frame.parsed]
  by_cases isIp :
      ntohs (frame.packet 12) (frame.packet 13) = ethertypeIp
  · have total := (ntohs (frame.packet 16) (frame.packet 17)).toNat_lt
    have transport := transportAt_length_le frame.packet
      (14 + (frame.packet 14).toNat % 16 * 4) (networkPacket frame.packet)
    rw [parsePacket_of_ip isIp]
    dsimp only [ethernetHeaderLen]
    refine ⟨⟨?_, ?_⟩, ?_, ?_⟩
    · split <;> omega
    · split <;> omega
    · omega
    · omega
  · rw [parsePacket_of_not_ip isIp]
    exact (by decide : ((0 : Int) ≤ 0 ∧ (0 : Int) ≤ 65535) ∧
      (0 : Int) ≤ 0 ∧ (0 : Int) ≤ 134)

def flowKeySize : Nat := 100

/-- `snprintf` into a buffer of `size` bytes, the last one for the NUL. -/
def snprintf (size : Nat) (text : CString) : CString :=
  text.take (size - 1)

/-- `%u`. -/
def formatUnsigned (value : Nat) : CString :=
  Nat.toDigits 10 value

/-- The format `%s_%s_%u_%u_%u` in a buffer of `FLOW_KEY_SIZE` bytes. -/
def formatFlowKey
    (srcIp destIp : CString) (srcPort destPort protocol : Nat) : CString :=
  snprintf flowKeySize <| ['_'].intercalate
    [srcIp, destIp, formatUnsigned srcPort, formatUnsigned destPort,
      formatUnsigned protocol]

/-- `get_flow_key`.  `flowKey` is what the static buffer holds before the
call; a direction that is neither `FORWARD` nor `REVERSE` leaves it alone. -/
def getFlowKey (flowKey : CString) (packet : Packet) :
    PacketDirection → CString
  | .forward =>
      formatFlowKey packet.srcIp packet.destIp packet.srcPort.toNat
        packet.destPort.toNat packet.protocol.toNat
  | .reverse =>
      formatFlowKey packet.destIp packet.srcIp packet.destPort.toNat
        packet.srcPort.toNat packet.protocol.toNat
  | .both => flowKey

end UzFlowMeter
