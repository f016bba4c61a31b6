import UzFlowMeter.CapturedBytes
import UzFlowMeter.FiveTuple
import UzFlowMeter.FlowSession
import UzFlowMeter.WireFormat

/-!
# Captures

`main` hands every captured frame to `packet_handler`.  What becomes of a
capture depends on the times of its frames and on the header bytes that the
parser reads, none of which lies behind the first 90 bytes of a frame.  Flow
keys tell exactly as much as the addresses, ports and protocol on the wire.
-/

namespace UzFlowMeter

open Observation

/-- The state of `main` after `pcap_loop` has handed the frames to
`packet_handler`. -/
def capture (frames : List Frame) : Meter :=
  frames.foldl packetHandler (Meter.initial 10)

/-- Frames of other ether types change nothing. -/
theorem capture_eq_run (frames : List Frame) :
    capture frames = run 10 (frames.filter fun frame =>
      ntohs (frame.packet 12) (frame.packet 13) = ethertypeIp) := by
  rw [run, List.foldl_filter, capture]
  simp only [decide_eq_true_eq]
  rfl

section Local

private theorem local_readShort (offset : Nat) :
    Local fun memory => readShort (fetch memory) offset := by
  apply (local_fetch offset).bind
  intro high
  apply (local_fetch (offset + 1)).bind
  intro low
  exact local_pure _

private theorem local_readBytes (offset size : Nat) :
    Local fun memory => readBytes (fetch memory) offset size := by
  induction size generalizing offset with
  | zero =>
      exact local_pure []
  | succ size inductionHypothesis =>
      apply (local_fetch offset).bind
      intro head
      apply (inductionHypothesis (offset + 1)).bind
      intro tail
      exact local_pure _

private theorem local_parseTransport (offset : Nat) (pkt : Packet) :
    Local fun memory => parseTransport (fetch memory) offset pkt := by
  unfold parseTransport
  by_cases tcp : pkt.protocol = ipprotoTcp
  · simp only [if_pos tcp]
    apply (local_readShort offset).bind
    intro srcPort
    apply (local_readShort (offset + 2)).bind
    intro destPort
    apply (local_fetch (offset + 12)).bind
    intro doff
    apply (local_readShort (offset + 14)).bind
    intro window
    apply (local_fetch (offset + 13)).bind
    intro flags
    exact local_pure _
  · by_cases udp : pkt.protocol = ipprotoUdp
    · simp only [if_neg tcp, if_pos udp]
      apply (local_readShort offset).bind
      intro srcPort
      apply (local_readShort (offset + 2)).bind
      intro destPort
      exact local_pure _
    · by_cases icmp : pkt.protocol = ipprotoIcmp
      · simp only [if_neg tcp, if_neg udp, if_pos icmp]
        apply (local_fetch offset).bind
        intro icmpType
        apply (local_fetch (offset + 1)).bind
        intro icmpCode
        exact local_pure _
      · simp only [if_neg tcp, if_neg udp, if_neg icmp]
        exact local_pure _

private theorem local_parsePacketWith (pkthdr : PcapPkthdr) :
    Local fun memory => parsePacketWith (fetch memory) pkthdr := by
  unfold parsePacketWith
  apply (local_readBytes 6 6).bind
  intro srcMac
  apply (local_readBytes 0 6).bind
  intro destMac
  apply (local_readShort 12).bind
  intro etherType
  by_cases other : etherType ≠ ethertypeIp
  · simp only [if_pos other]
    exact local_pure _
  · simp only [if_neg other]
    apply (local_fetch ethernetHeaderLen).bind
    intro versionIhl
    apply (local_readBytes (ethernetHeaderLen + 12) 4).bind
    intro saddr
    apply (local_readBytes (ethernetHeaderLen + 16) 4).bind
    intro daddr
    apply (local_fetch (ethernetHeaderLen + 9)).bind
    intro protocol
    apply (local_readShort (ethernetHeaderLen + 2)).bind
    intro totLen
    apply (local_parseTransport _ _).bind
    intro parsed
    exact local_pure _

end Local

/-- The parser returns the packet of `parse_packet`. -/
theorem fst_parsePacketWith (pkthdr : PcapPkthdr) (packet : Nat → UInt8) :
    (parsePacketWith (fetch packet) pkthdr []).1 =
      parsePacket pkthdr packet := by
  by_cases isIp : ntohs (packet 12) (packet 13) = ethertypeIp
  · rw [observes_parsePacket_of_ip packet pkthdr isIp []]
  · rw [observes_parsePacket_of_not_ip packet pkthdr isIp []]

/-- The other frame was captured at the same time and has the same bytes
where the parser reads the first one. -/
structure Frame.ReadsAlike (frame other : Frame) : Prop where
  seconds : frame.pkthdr.tvSec = other.pkthdr.tvSec
  microseconds : frame.pkthdr.tvUsec = other.pkthdr.tvUsec
  bytes : ∀ index ∈ frame.bytesRead,
    frame.packet index = other.packet index

private theorem Frame.etherType_read (frame : Frame) :
    12 ∈ frame.bytesRead ∧ 13 ∈ frame.bytesRead := by
  rw [Frame.bytesRead]
  by_cases isIp : ntohs (frame.packet 12) (frame.packet 13) = ethertypeIp
  · rw [(observes_parsePacket_of_ip frame.packet frame.pkthdr
      isIp).touched_eq]
    simp
  · rw [(observes_parsePacket_of_not_ip frame.packet frame.pkthdr
      isIp).touched_eq]
    simp

private theorem Frame.ReadsAlike.parsed_eq
    {frame other : Frame} (alike : frame.ReadsAlike other) :
    other.parsed = frame.parsed := by
  have sameTime :
      parsePacket other.pkthdr other.packet =
        parsePacket frame.pkthdr other.packet := by
    rw [parsePacket, parsePacket, parsePacketWith, parsePacketWith,
      alike.seconds, alike.microseconds]
  have sameResult :=
    (local_parsePacketWith frame.pkthdr).congr alike.bytes
  rw [Frame.parsed, Frame.parsed, sameTime, ← fst_parsePacketWith,
    ← fst_parsePacketWith, sameResult]

private theorem Frame.ReadsAlike.packetHandler_eq
    {frame other : Frame} (alike : frame.ReadsAlike other)
    (meter : Meter) :
    packetHandler meter other = packetHandler meter frame := by
  have high := alike.bytes 12 frame.etherType_read.1
  have low := alike.bytes 13 frame.etherType_read.2
  rw [packetHandler, packetHandler, Process.packetHandler,
    Process.packetHandler, Process.onPacketReceived,
    Process.onPacketReceived, alike.parsed_eq, high, low]

/-- All reads lie in the Ethernet header, in the longest IPv4 header, and in
the 16 bytes behind it. -/
theorem Frame.bytesRead_lt (frame : Frame) :
    ∀ index ∈ frame.bytesRead, index < 90 := by
  rw [Frame.bytesRead]
  by_cases isIp : ntohs (frame.packet 12) (frame.packet 13) = ethertypeIp
  · have offset : transportOffset frame.packet ≤ 74 := by
      rw [transportOffset]
      omega
    have transport := (transportReads_lt_iff (frame.packet 23)
      (transportOffset frame.packet) 90).mpr
        ⟨fun _ => by omega, fun _ => by omega, fun _ => by omega⟩
    rw [(observes_parsePacket_of_ip frame.packet frame.pkthdr
      isIp).touched_eq]
    simp only [List.forall_mem_append]
    exact ⟨by decide, by decide, by decide, by decide, by decide, by decide,
      by decide, by decide, transport⟩
  · rw [(observes_parsePacket_of_not_ip frame.packet frame.pkthdr
      isIp).touched_eq]
    decide

/-- Captures with the same times and the same header bytes lead to the same
flows, entries and exports: payloads, and whatever else lies behind the first
90 bytes of a frame, make no difference. -/
theorem capture_eq_of_readsAlike
    {frames others : List Frame}
    (alike : List.Forall₂ Frame.ReadsAlike frames others) :
    capture others = capture frames ∧
      ∀ frame ∈ frames, ∀ index ∈ frame.bytesRead, index < 90 := by
  constructor
  · rw [capture, capture]
    generalize Meter.initial 10 = meter
    induction alike generalizing meter with
    | nil =>
        rfl
    | cons head tail inductionHypothesis =>
        rw [List.foldl_cons, List.foldl_cons, head.packetHandler_eq]
        exact inductionHypothesis _
  · exact fun frame _ => frame.bytesRead_lt

/-- The frame with other bytes from the given index on. -/
def Frame.overwriteFrom (frame : Frame) (start : Nat) (byte : UInt8) :
    Frame where
  pkthdr := frame.pkthdr
  packet := fun index => if index < start then frame.packet index else byte

theorem capture_eq_overwritten :
    capture [(clientFrame 1).overwriteFrom 90 0xff,
        (serverFrame 2).overwriteFrom 90 0xff] =
      capture [clientFrame 1, serverFrame 2] :=
  (capture_eq_of_readsAlike
    (.cons ⟨rfl, rfl, by decide +kernel⟩
      (.cons ⟨rfl, rfl, by decide +kernel⟩ .nil))).1

/-! ## Keys and the wire -/

/-- The dotted decimal form determines the address. -/
theorem inetNtop_inj
    {left right : List UInt8} (leftNonempty : left ≠ [])
    (rightNonempty : right ≠ []) :
    inetNtop left = inetNtop right ↔ left = right := by
  have plain : ∀ bytes : List UInt8,
      ∀ field ∈ bytes.map fun byte => Nat.toDigits 10 byte.toNat,
        '.' ∉ field := by
    intro bytes field member
    obtain ⟨byte, -, rfl⟩ := List.mem_map.mp member
    exact DelimitedFields.not_mem_toDigits (by decide) byte.toNat
  have injective : Function.Injective
      fun byte : UInt8 => Nat.toDigits 10 byte.toNat := fun first second same =>
    UInt8.toNat_inj.mp (DelimitedFields.toDigits_injective same)
  rw [inetNtop, inetNtop, DelimitedFields.intercalate_inj (plain left)
    (plain right) (by simpa using leftNonempty) (by simpa using rightNonempty)]
  exact (List.map_injective_iff.mpr injective).eq_iff

/-- The addresses, ports and protocol of a TCP or UDP frame, as they are on
the wire. -/
@[ext]
structure WireTuple where
  saddr : List UInt8
  daddr : List UInt8
  source : UInt16
  dest : UInt16
  protocol : UInt8
  deriving DecidableEq

/-- The same tuple on the way back. -/
def WireTuple.swap (tuple : WireTuple) : WireTuple :=
  ⟨tuple.daddr, tuple.saddr, tuple.dest, tuple.source, tuple.protocol⟩

def Frame.wireTuple (frame : Frame) : WireTuple where
  saddr := bytesAt frame.packet 26 4
  daddr := bytesAt frame.packet 30 4
  source := ntohs (frame.packet (transportOffset frame.packet))
    (frame.packet (transportOffset frame.packet + 1))
  dest := ntohs (frame.packet (transportOffset frame.packet + 2))
    (frame.packet (transportOffset frame.packet + 3))
  protocol := frame.packet 23

/-- An IPv4 frame with a TCP or UDP packet: the frames that are metered. -/
def Frame.Metered (frame : Frame) : Prop :=
  ntohs (frame.packet 12) (frame.packet 13) = ethertypeIp ∧
    (frame.packet 23 = ipprotoTcp ∨ frame.packet 23 = ipprotoUdp)

instance (frame : Frame) : Decidable frame.Metered :=
  inferInstanceAs (Decidable (_ ∧ _))

/-- The TCP and UDP branches read the two ports from the same place. -/
theorem transportAt_ports
    {packet : Nat → UInt8} {offset : Nat} {pkt : Packet}
    (metered : pkt.protocol = ipprotoTcp ∨ pkt.protocol = ipprotoUdp) :
    (transportAt packet offset pkt).1.fiveTuple =
      ⟨⟨pkt.srcIp,
          (ntohs (packet offset) (packet (offset + 1))).toNat⟩,
        ⟨pkt.destIp,
          (ntohs (packet (offset + 2)) (packet (offset + 3))).toNat⟩,
        pkt.protocol⟩ := by
  rw [transportAt, parseTransport]
  rcases metered with tcp | udp
  · rw [if_pos tcp]
    rfl
  · have notTcp : pkt.protocol ≠ ipprotoTcp := by
      rw [udp]
      decide
    rw [if_neg notTcp, if_pos udp]
    rfl

/-- `parse_packet` takes the five-tuple from the wire. -/
theorem Frame.Metered.parsed_fiveTuple
    {frame : Frame} (metered : frame.Metered) :
    frame.parsed.fiveTuple =
      ⟨⟨inetNtop frame.wireTuple.saddr, frame.wireTuple.source.toNat⟩,
        ⟨inetNtop frame.wireTuple.daddr, frame.wireTuple.dest.toNat⟩,
        frame.wireTuple.protocol⟩ := by
  rw [Frame.parsed, parsePacket_of_ip metered.1]
  exact transportAt_ports metered.2

theorem Frame.Metered.fiveTuple_eq_iff
    {first second : Frame} (firstMetered : first.Metered)
    (secondMetered : second.Metered) :
    (first.parsed.fiveTuple = second.parsed.fiveTuple ↔
        first.wireTuple = second.wireTuple) ∧
      (first.parsed.fiveTuple = second.parsed.fiveTuple.swap ↔
        first.wireTuple = second.wireTuple.swap) := by
  have address : ∀ left right : Nat → UInt8, ∀ offset other : Nat,
      inetNtop (bytesAt left offset 4) = inetNtop (bytesAt right other 4) ↔
        bytesAt left offset 4 = bytesAt right other 4 := by
    intro left right offset other
    exact inetNtop_inj (List.cons_ne_nil _ _) (List.cons_ne_nil _ _)
  rw [firstMetered.parsed_fiveTuple, secondMetered.parsed_fiveTuple]
  simp only [FiveTuple.swap, FiveTuple.mk.injEq, Endpoint.mk.injEq,
    WireTuple.ext_iff, WireTuple.swap, Nat.cast_inj, UInt16.toNat_inj]
  simp only [Frame.wireTuple, address]
  constructor
  · tauto
  · tauto

/-- Two metered frames have the same forward key exactly when they have the
same addresses, ports and protocol on the wire, and the forward key of one is
the reverse key of the other exactly when the two ends are exchanged. -/
theorem getFlowKey_wire
    (first second : Frame) (firstMetered : first.Metered)
    (secondMetered : second.Metered) (buffer otherBuffer : CString) :
    (getFlowKey buffer first.parsed .forward =
        getFlowKey otherBuffer second.parsed .forward ↔
      first.wireTuple = second.wireTuple) ∧
      (getFlowKey buffer first.parsed .forward =
          getFlowKey otherBuffer second.parsed .reverse ↔
        first.wireTuple = second.wireTuple.swap) := by
  obtain ⟨same, swapped⟩ := firstMetered.fiveTuple_eq_iff secondMetered
  simp only [getFlowKey_forward, getFlowKey_reverse]
  rw [FiveTuple.key_inj first.parsed_wellFormed second.parsed_wellFormed,
    FiveTuple.key_inj first.parsed_wellFormed
      second.parsed_wellFormed.swap]
  exact ⟨same, swapped⟩

theorem getFlowKey_wire_answer :
    getFlowKey [] (clientFrame 1).parsed .forward =
      getFlowKey [] (serverFrame 2).parsed .reverse :=
  (getFlowKey_wire (clientFrame 1) (serverFrame 2) (by decide +kernel)
    (by decide +kernel) [] []).2.mpr (by decide +kernel)

end UzFlowMeter
