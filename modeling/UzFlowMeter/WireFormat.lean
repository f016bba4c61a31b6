import Mathlib.Data.Vector.Defs
import UzFlowMeter.Library.ByteLayout
import UzFlowMeter.Packet

/-!
# The wire format

Ethernet frames with an IPv4 header and a TCP, UDP or ICMP header, as they
are put on the wire, and what a parser should read from them.
`parse_packet` reads exactly that.
-/

namespace UzFlowMeter

open ByteLayout

def shortBytes (value : UInt16) : List UInt8 :=
  [highByte value, lowByte value]

def longBytes (value : UInt32) : List UInt8 :=
  [UInt8.ofNat (value.toNat / 16777216),
    UInt8.ofNat (value.toNat / 65536 % 256),
    UInt8.ofNat (value.toNat / 256 % 256), UInt8.ofNat (value.toNat % 256)]

/-- The options of an IP or TCP header: at most ten words of four bytes. -/
structure HeaderOptions where
  words : Fin 11
  bytes : List.Vector UInt8 (4 * words.val)

/-- The header length in words: five and the options. -/
def HeaderOptions.headerWords (options : HeaderOptions) : Fin 16 :=
  ⟨5 + options.words.val, by omega⟩

structure TcpHeader where
  srcPort : UInt16
  destPort : UInt16
  sequenceNumber : UInt32
  acknowledgement : UInt32
  reserved : Fin 16
  flags : UInt8
  window : UInt16
  checksum : UInt16
  urgentPointer : UInt16
  options : HeaderOptions

structure UdpHeader where
  srcPort : UInt16
  destPort : UInt16
  length : UInt16
  checksum : UInt16

structure IcmpHeader where
  icmpType : UInt8
  icmpCode : UInt8
  checksum : UInt16
  restOfHeader : UInt32

inductive TransportHeader where
  | tcp (header : TcpHeader)
  | udp (header : UdpHeader)
  | icmp (header : IcmpHeader)

namespace TransportHeader

def protocol : TransportHeader → UInt8
  | tcp _ => ipprotoTcp
  | udp _ => ipprotoUdp
  | icmp _ => ipprotoIcmp

def bytes : TransportHeader → List UInt8
  | tcp header =>
      shortBytes header.srcPort ++ shortBytes header.destPort ++
        longBytes header.sequenceNumber ++
        longBytes header.acknowledgement ++
        [nibbles header.options.headerWords header.reserved,
          header.flags] ++
        shortBytes header.window ++ shortBytes header.checksum ++
        shortBytes header.urgentPointer ++ header.options.bytes.toList
  | udp header =>
      shortBytes header.srcPort ++ shortBytes header.destPort ++
        shortBytes header.length ++ shortBytes header.checksum
  | icmp header =>
      [header.icmpType, header.icmpCode] ++ shortBytes header.checksum ++
        longBytes header.restOfHeader

def length : TransportHeader → Nat
  | tcp header => 4 * header.options.headerWords.val
  | udp _ => sizeofUdphdr
  | icmp _ => sizeofIcmphdr

private theorem length_bytes (transport : TransportHeader) :
    transport.bytes.length = transport.length := by
  cases transport with
  | tcp header =>
      simp [bytes, length, shortBytes, longBytes, HeaderOptions.headerWords]
      omega
  | udp header =>
      rfl
  | icmp header =>
      rfl

/-- The fields of a packet that the transport header determines. -/
def decoded (pkt : Packet) : TransportHeader → Packet
  | tcp header =>
      { pkt with
        srcPort := header.srcPort
        destPort := header.destPort
        window := header.window
        flags := header.flags }
  | udp header =>
      { pkt with
        srcPort := header.srcPort
        destPort := header.destPort
        window := 0 }
  | icmp header =>
      { pkt with
        icmpType := header.icmpType
        icmpCode := header.icmpCode
        window := 0 }

end TransportHeader

/-- An Ethernet frame with an IPv4 packet whose total length fits its field,
and the padding of the link behind it. -/
structure WireFrame where
  destMac : List.Vector UInt8 6
  srcMac : List.Vector UInt8 6
  typeOfService : UInt8
  identification : UInt16
  fragment : UInt16
  timeToLive : UInt8
  headerChecksum : UInt16
  srcIp : List.Vector UInt8 4
  destIp : List.Vector UInt8 4
  options : HeaderOptions
  transport : TransportHeader
  payload : List UInt8
  padding : List UInt8
  fits : 4 * options.headerWords.val + transport.length + payload.length ≤
    65535

namespace WireFrame

def totLen (wire : WireFrame) : Nat :=
  4 * wire.options.headerWords.val + wire.transport.length +
    wire.payload.length

/-- The Ethernet type and the IP header up to the addresses. -/
def headerFields (wire : WireFrame) : List UInt8 :=
  shortBytes ethertypeIp ++
    [nibbles 4 wire.options.headerWords, wire.typeOfService] ++
    shortBytes (UInt16.ofNat wire.totLen) ++
    shortBytes wire.identification ++ shortBytes wire.fragment ++
    [wire.timeToLive, wire.transport.protocol] ++
    shortBytes wire.headerChecksum

/-- The bytes in front of the transport header. -/
def networkBytes (wire : WireFrame) : List UInt8 :=
  wire.destMac.toList ++ (wire.srcMac.toList ++ (wire.headerFields ++
    (wire.srcIp.toList ++ (wire.destIp.toList ++
      wire.options.bytes.toList))))

def bytes (wire : WireFrame) : List UInt8 :=
  wire.networkBytes ++
    (wire.transport.bytes ++ (wire.payload ++ wire.padding))

/-- The packet that the frame stands for. -/
def decoded (wire : WireFrame) (pkthdr : PcapPkthdr) : Packet :=
  wire.transport.decoded
    { srcIp := inetNtop wire.srcIp.toList
      destIp := inetNtop wire.destIp.toList
      srcMac := formatMac wire.srcMac.toList
      destMac := formatMac wire.destMac.toList
      protocol := wire.transport.protocol
      time := pkthdr.tvSec + pkthdr.tvUsec / 1000000
      payloadSize := wire.payload.length
      headerSize :=
        14 + 4 * wire.options.headerWords.val + wire.transport.length
      ihl := UInt8.ofNat wire.options.headerWords.val }

end WireFrame

private theorem ntohs_bytes (value : UInt16) :
    ntohs (highByte value) (lowByte value) = value := by
  rw [ntohs, join_high_low, UInt16.ofNat_toNat]

private theorem bytesAt_overlay_append
    {block : List UInt8} {start : Nat} (sized : block.length = start)
    (rest : List UInt8) (beyond : Nat → UInt8) (offset size : Nat) :
    bytesAt (overlay (block ++ rest) beyond) (start + offset) size =
      bytesAt (overlay rest fun later => beyond (start + later))
        offset size := by
  induction size generalizing offset with
  | zero =>
      rfl
  | succ size inductionHypothesis =>
      rw [bytesAt, bytesAt, overlay_append sized, Nat.add_assoc,
        inductionHypothesis]

private theorem bytesAt_overlay_self
    {block : List UInt8} {size : Nat} (sized : block.length = size)
    (rest : List UInt8) (beyond : Nat → UInt8) :
    bytesAt (overlay (block ++ rest) beyond) 0 size = block := by
  subst sized
  induction block generalizing beyond with
  | nil =>
      rfl
  | cons head tail inductionHypothesis =>
      have single : [head].length = 1 := rfl
      have behind := bytesAt_overlay_append single (tail ++ rest) beyond 0
        tail.length
      have tailBytes :=
        inductionHypothesis (fun later => beyond (1 + later))
      rw [List.length_cons, bytesAt]
      exact congrArg (List.cons head) (behind.trans tailBytes)

private theorem transportAt_shift
    (packet : Nat → UInt8) (offset : Nat) (pkt : Packet) :
    transportAt packet offset pkt =
      transportAt (fun index => packet (offset + index)) 0 pkt := by
  simp only [transportAt, parseTransport, readShort, Nat.zero_add,
    Nat.add_zero, Nat.add_assoc]

/-- The transport branches read the transport header at their offset. -/
theorem transportAt_bytes
    (transport : TransportHeader) (rest : List UInt8)
    (beyond : Nat → UInt8) {pkt : Packet}
    (sameProtocol : pkt.protocol = transport.protocol) :
    transportAt (overlay (transport.bytes ++ rest) beyond) 0 pkt =
      (transport.decoded pkt, transport.length) := by
  cases transport with
  | tcp header =>
      have isTcp : pkt.protocol = ipprotoTcp := sameProtocol
      have read :
          transportAt (overlay
              ((TransportHeader.tcp header).bytes ++ rest) beyond) 0 pkt =
            ({ pkt with
              srcPort := ntohs (highByte header.srcPort)
                (lowByte header.srcPort)
              destPort := ntohs (highByte header.destPort)
                (lowByte header.destPort)
              window := ntohs (highByte header.window)
                (lowByte header.window)
              flags := header.flags },
              (nibbles header.options.headerWords
                header.reserved).toNat / 16 * 4) := by
        exact if_pos isTcp
      rw [read, ntohs_bytes, ntohs_bytes, ntohs_bytes, nibbles_div]
      exact Prod.ext rfl (Nat.mul_comm _ 4)
  | udp header =>
      have notTcp : ¬ pkt.protocol = ipprotoTcp := by
        rw [sameProtocol]
        exact (by decide : ¬ ipprotoUdp = ipprotoTcp)
      have isUdp : pkt.protocol = ipprotoUdp := sameProtocol
      have read :
          transportAt (overlay
              ((TransportHeader.udp header).bytes ++ rest) beyond) 0 pkt =
            ({ pkt with
              srcPort := ntohs (highByte header.srcPort)
                (lowByte header.srcPort)
              destPort := ntohs (highByte header.destPort)
                (lowByte header.destPort)
              window := 0 }, sizeofUdphdr) := by
        exact (if_neg notTcp).trans (if_pos isUdp)
      rw [read, ntohs_bytes, ntohs_bytes]
      rfl
  | icmp header =>
      have notTcp : ¬ pkt.protocol = ipprotoTcp := by
        rw [sameProtocol]
        exact (by decide : ¬ ipprotoIcmp = ipprotoTcp)
      have notUdp : ¬ pkt.protocol = ipprotoUdp := by
        rw [sameProtocol]
        exact (by decide : ¬ ipprotoIcmp = ipprotoUdp)
      have isIcmp : pkt.protocol = ipprotoIcmp := sameProtocol
      exact (if_neg notTcp).trans ((if_neg notUdp).trans (if_pos isIcmp))

/-! ## `parse_packet` reads the wire format -/

namespace WireFrame

/-- The Ethernet addresses end at byte 12, the header fields at byte 26 and
the addresses at byte 34. -/
theorem bytes_split (wire : WireFrame) :
    wire.bytes =
      wire.destMac.toList ++ (wire.srcMac.toList ++ (wire.headerFields ++
        (wire.srcIp.toList ++ (wire.destIp.toList ++
          (wire.options.bytes.toList ++ (wire.transport.bytes ++
            (wire.payload ++ wire.padding))))))) := by
  simp only [bytes, networkBytes, List.append_assoc]

private theorem length_networkBytes (wire : WireFrame) :
    wire.networkBytes.length =
      14 + wire.options.headerWords.val * 4 := by
  simp [networkBytes, headerFields, shortBytes, HeaderOptions.headerWords]
  omega

/-- The IP packet has the length its header announces; the Ethernet header
comes before it and the padding after it. -/
theorem length_bytes (wire : WireFrame) :
    wire.bytes.length = 14 + wire.totLen + wire.padding.length := by
  rw [bytes, List.length_append, List.length_append, List.length_append,
    length_networkBytes, TransportHeader.length_bytes, totLen]
  omega

section Memory

variable (wire : WireFrame) (beyond : Nat → UInt8)

private theorem overlay_destMac :
    bytesAt (overlay wire.bytes beyond) 0 6 = wire.destMac.toList := by
  rw [bytes_split]
  exact bytesAt_overlay_self wire.destMac.toList_length _ beyond

private theorem overlay_srcMac :
    bytesAt (overlay wire.bytes beyond) 6 6 = wire.srcMac.toList := by
  rw [bytes_split]
  exact (bytesAt_overlay_append wire.destMac.toList_length _ beyond 0
    6).trans (bytesAt_overlay_self wire.srcMac.toList_length _ _)

private theorem overlay_headerFields :
    overlay wire.bytes beyond 12 = highByte ethertypeIp ∧
      overlay wire.bytes beyond 13 = lowByte ethertypeIp ∧
      overlay wire.bytes beyond 14 =
        nibbles 4 wire.options.headerWords ∧
      overlay wire.bytes beyond 16 =
        highByte (UInt16.ofNat wire.totLen) ∧
      overlay wire.bytes beyond 17 =
        lowByte (UInt16.ofNat wire.totLen) ∧
      overlay wire.bytes beyond 23 = wire.transport.protocol := by
  have macs : (wire.destMac.toList ++ wire.srcMac.toList).length = 12 := by
    simp
  rw [bytes_split, ← List.append_assoc]
  have behind := overlay_append macs (wire.headerFields ++
    (wire.srcIp.toList ++ (wire.destIp.toList ++
      (wire.options.bytes.toList ++ (wire.transport.bytes ++
        (wire.payload ++ wire.padding)))))) beyond
  exact ⟨behind 0, behind 1, behind 2, behind 4, behind 5, behind 11⟩

private theorem overlay_addresses :
    bytesAt (overlay wire.bytes beyond) 26 4 = wire.srcIp.toList ∧
      bytesAt (overlay wire.bytes beyond) 30 4 = wire.destIp.toList := by
  have front : (wire.destMac.toList ++ (wire.srcMac.toList ++
      wire.headerFields)).length = 26 := by
    simp [headerFields, shortBytes]
  have split :
      wire.bytes =
        (wire.destMac.toList ++ (wire.srcMac.toList ++
          wire.headerFields)) ++ (wire.srcIp.toList ++
            (wire.destIp.toList ++ (wire.options.bytes.toList ++
              (wire.transport.bytes ++
                (wire.payload ++ wire.padding))))) := by
    simp only [bytes_split, List.append_assoc]
  rw [split]
  constructor
  · exact (bytesAt_overlay_append front _ beyond 0 4).trans
      (bytesAt_overlay_self wire.srcIp.toList_length _ _)
  · refine (bytesAt_overlay_append front _ beyond 4 4).trans ?_
    exact (bytesAt_overlay_append wire.srcIp.toList_length _ _ 0 4).trans
      (bytesAt_overlay_self wire.destIp.toList_length _ _)

private theorem transportAt_overlay {pkt : Packet}
    (sameProtocol : pkt.protocol = wire.transport.protocol) :
    transportAt (overlay wire.bytes beyond)
        (14 + wire.options.headerWords.val * 4) pkt =
      (wire.transport.decoded pkt, wire.transport.length) := by
  have behind :
      (fun index => overlay wire.bytes beyond
        (14 + wire.options.headerWords.val * 4 + index)) =
        overlay (wire.transport.bytes ++ (wire.payload ++ wire.padding))
          (fun later =>
            beyond (14 + wire.options.headerWords.val * 4 + later)) := by
    funext index
    exact overlay_append wire.length_networkBytes _ beyond index
  rw [transportAt_shift, behind]
  exact transportAt_bytes wire.transport _ _ sameProtocol

end Memory

theorem parsePacket_bytes
    (wire : WireFrame) (pkthdr : PcapPkthdr) (beyond : Nat → UInt8) :
    parsePacket pkthdr (overlay wire.bytes beyond) =
      wire.decoded pkthdr := by
  obtain ⟨typeHigh, typeLow, versionIhl, totHigh, totLow, protocol⟩ :=
    wire.overlay_headerFields beyond
  obtain ⟨srcIp, destIp⟩ := wire.overlay_addresses beyond
  have isIp :
      ntohs (overlay wire.bytes beyond 12) (overlay wire.bytes beyond 13) =
        ethertypeIp := by
    rw [typeHigh, typeLow, ntohs_bytes]
  have totLen :
      (ntohs (overlay wire.bytes beyond 16)
        (overlay wire.bytes beyond 17)).toNat = wire.totLen := by
    have fits : wire.totLen < 65536 := Nat.lt_succ_of_le wire.fits
    rw [totHigh, totLow, ntohs_bytes]
    exact UInt16.toNat_ofNat_of_lt fits
  have network :
      networkPacket (overlay wire.bytes beyond) =
        { srcIp := inetNtop wire.srcIp.toList
          destIp := inetNtop wire.destIp.toList
          srcMac := formatMac wire.srcMac.toList
          destMac := formatMac wire.destMac.toList
          protocol := wire.transport.protocol
          ihl := UInt8.ofNat wire.options.headerWords.val } := by
    rw [networkPacket, srcIp, destIp, overlay_srcMac, overlay_destMac,
      protocol, versionIhl, nibbles_mod]
  have sameProtocol :
      (networkPacket (overlay wire.bytes beyond)).protocol =
        wire.transport.protocol := protocol
  have payload :
      (wire.totLen : Int) -
          (((wire.options.headerWords.val * 4 : Nat) : Int) +
            wire.transport.length) = wire.payload.length := by
    rw [WireFrame.totLen]
    omega
  have header :
      (ethernetHeaderLen : Int) +
          ((wire.options.headerWords.val * 4 : Nat) : Int) +
          wire.transport.length =
        14 + 4 * wire.options.headerWords.val + wire.transport.length := by
    rw [ethernetHeaderLen]
    omega
  have nonneg : ¬ (wire.payload.length : Int) < 0 := by omega
  rw [parsePacket_of_ip isIp]
  simp only [versionIhl, nibbles_mod, totLen]
  rw [wire.transportAt_overlay beyond sameProtocol, network]
  dsimp only
  rw [payload, if_neg nonneg, header, decoded]
  cases wire.transport with
  | tcp _ =>
      rfl
  | udp _ =>
      rfl
  | icmp _ =>
      rfl

@[simp]
theorem decoded_payloadSize (wire : WireFrame) (pkthdr : PcapPkthdr) :
    (wire.decoded pkthdr).payloadSize = wire.payload.length := by
  rw [decoded]
  cases wire.transport <;> rfl

@[simp]
theorem decoded_headerSize (wire : WireFrame) (pkthdr : PcapPkthdr) :
    (wire.decoded pkthdr).headerSize =
      14 + 4 * wire.options.headerWords.val + wire.transport.length := by
  rw [decoded]
  cases wire.transport <;> rfl

/-- `parse_packet` inverts the encoding, whatever lies behind the frame in
memory; the sizes it computes add up to the Ethernet header and the total
length of the IP packet. -/
theorem parsePacket_wireFrame
    (wire : WireFrame) (pkthdr : PcapPkthdr) (beyond : Nat → UInt8) :
    parsePacket pkthdr (overlay wire.bytes beyond) = wire.decoded pkthdr ∧
      (parsePacket pkthdr (overlay wire.bytes beyond)).payloadSize +
          (parsePacket pkthdr (overlay wire.bytes beyond)).headerSize =
        14 + wire.totLen := by
  refine ⟨wire.parsePacket_bytes pkthdr beyond, ?_⟩
  rw [parsePacket_bytes, decoded_payloadSize, decoded_headerSize, totLen]
  omega

end WireFrame

/-- A TCP segment without options and payload, captured at full seconds. -/
def tcpFrame (srcIp destIp : List.Vector UInt8 4)
    (srcPort destPort : UInt16) (flags : UInt8) (seconds : Int) : Frame where
  pkthdr := ⟨seconds, 0, 54⟩
  packet :=
    overlay
      (WireFrame.bytes
        { destMac := ⟨[2, 0, 0, 0, 0, 2], rfl⟩
          srcMac := ⟨[2, 0, 0, 0, 0, 1], rfl⟩
          typeOfService := 0
          identification := 0
          fragment := 0
          timeToLive := 64
          headerChecksum := 0
          srcIp := srcIp
          destIp := destIp
          options := ⟨0, ⟨[], rfl⟩⟩
          transport := .tcp
            { srcPort := srcPort
              destPort := destPort
              sequenceNumber := 0
              acknowledgement := 0
              reserved := 0
              flags := flags
              window := 256
              checksum := 0
              urgentPointer := 0
              options := ⟨0, ⟨[], rfl⟩⟩ }
          payload := []
          padding := []
          fits := (by decide : 4 * 5 + 4 * 5 + 0 ≤ 65535) })
      fun _ => 0

/-- An `ACK` from a client to a server. -/
def clientFrame (seconds : Int) : Frame :=
  tcpFrame ⟨[10, 0, 0, 1], rfl⟩ ⟨[10, 0, 0, 2], rfl⟩ 40000 80 0x10 seconds

/-- An `ACK` from the server back to the client. -/
def serverFrame (seconds : Int) : Frame :=
  tcpFrame ⟨[10, 0, 0, 2], rfl⟩ ⟨[10, 0, 0, 1], rfl⟩ 80 40000 0x10 seconds

/-- An `ACK` from another client to the server. -/
def otherClientFrame (seconds : Int) : Frame :=
  tcpFrame ⟨[10, 0, 0, 3], rfl⟩ ⟨[10, 0, 0, 2], rfl⟩ 40000 80 0x10 seconds

end UzFlowMeter
