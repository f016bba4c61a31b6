import UzFlowMeter.Library.Observation
import UzFlowMeter.Packet

/-!
# The bytes that are read of a frame

The parser is run with a log of the indices it fetches.  It returns the same
packet as on memory; the indices depend on the header length nibble and the
protocol byte of the frame, and not on how many bytes were captured.
-/

namespace UzFlowMeter

open Observation

/-- The indices that `parse_packet` reads of a frame, in order. -/
def Frame.bytesRead (frame : Frame) : List Nat :=
  touched (parsePacketWith (fetch frame.packet) frame.pkthdr)

/-- The reads of the transport branches, for a header at `offset`. -/
def transportReads (protocol : UInt8) (offset : Nat) : List Nat :=
  if protocol = ipprotoTcp then
    [offset, offset + 1, offset + 2, offset + 3, offset + 12, offset + 14,
      offset + 15, offset + 13]
  else if protocol = ipprotoUdp then
    [offset, offset + 1, offset + 2, offset + 3]
  else if protocol = ipprotoIcmp then [offset, offset + 1]
  else []

/-- Where the transport header of a frame is taken to begin. -/
def transportOffset (packet : Nat → UInt8) : Nat :=
  14 + (packet 14).toNat % 16 * 4

section Observed

variable (packet : Nat → UInt8)

private theorem observes_readShort (offset : Nat) :
    Observes (readShort (fetch packet) offset)
      (ntohs (packet offset) (packet (offset + 1)))
      [offset, offset + 1] :=
  (observes_fetch packet offset).bind <|
    (observes_fetch packet (offset + 1)).map fun low =>
      ntohs (packet offset) low

private theorem observes_readBytes (offset size : Nat) :
    Observes (readBytes (fetch packet) offset size)
      (bytesAt packet offset size) (List.range' offset size) := by
  induction size generalizing offset with
  | zero =>
      exact observes_pure []
  | succ size inductionHypothesis =>
      have head := observes_fetch packet offset
      have tail := (inductionHypothesis (offset + 1)).map fun tail =>
        packet offset :: tail
      rw [List.range'_succ]
      exact head.bind tail

private theorem observes_parseTransport (offset : Nat) (pkt : Packet) :
    Observes (parseTransport (fetch packet) offset pkt)
      (transportAt packet offset pkt)
      (transportReads pkt.protocol offset) := by
  have fetches := observes_fetch packet
  have shorts := observes_readShort packet
  rw [parseTransport, transportAt, parseTransport, transportReads]
  by_cases tcp : pkt.protocol = ipprotoTcp
  · simp only [if_pos tcp]
    exact (shorts offset).bind <| (shorts (offset + 2)).bind <|
      (fetches (offset + 12)).bind <| (shorts (offset + 14)).bind <|
        (fetches (offset + 13)).map _
  · by_cases udp : pkt.protocol = ipprotoUdp
    · simp only [if_neg tcp, if_pos udp]
      exact (shorts offset).bind <| (shorts (offset + 2)).map _
    · by_cases icmp : pkt.protocol = ipprotoIcmp
      · simp only [if_neg tcp, if_neg udp, if_pos icmp]
        exact (fetches offset).bind <| (fetches (offset + 1)).map _
      · simp only [if_neg tcp, if_neg udp, if_neg icmp]
        exact observes_pure _

/-- The parser returns the packet of `parse_packet` and reads the Ethernet
header first. -/
theorem observes_parsePacket_of_not_ip (pkthdr : PcapPkthdr)
    (notIp : ntohs (packet 12) (packet 13) ≠ ethertypeIp) :
    Observes (parsePacketWith (fetch packet) pkthdr)
      (parsePacket pkthdr packet)
      (List.range' 6 6 ++ (List.range' 0 6 ++ ([12, 13] ++ []))) := by
  have bytes := observes_readBytes packet
  have shorts := observes_readShort packet
  rw [parsePacketWith, parsePacket_of_not_ip notIp]
  refine (bytes 6 6).bind <| (bytes 0 6).bind <| (shorts 12).bind ?_
  rw [if_pos notIp]
  exact observes_pure _

theorem observes_parsePacket_of_ip (pkthdr : PcapPkthdr)
    (isIp : ntohs (packet 12) (packet 13) = ethertypeIp) :
    Observes (parsePacketWith (fetch packet) pkthdr)
      (parsePacket pkthdr packet)
      (List.range' 6 6 ++ (List.range' 0 6 ++ ([12, 13] ++ ([14] ++
        (List.range' 26 4 ++ (List.range' 30 4 ++ ([23] ++ ([16, 17] ++
          transportReads (packet 23) (transportOffset packet))))))))) := by
  have fetches := observes_fetch packet
  have bytes := observes_readBytes packet
  have shorts := observes_readShort packet
  rw [parsePacketWith, parsePacket_of_ip isIp]
  refine (bytes 6 6).bind <| (bytes 0 6).bind <| (shorts 12).bind ?_
  rw [if_neg (not_not_intro isIp)]
  refine (fetches 14).bind <| (bytes 26 4).bind <| (bytes 30 4).bind <|
    (fetches 23).bind <| (shorts 16).bind ?_
  exact (observes_parseTransport packet (transportOffset packet)
    (networkPacket packet)).map _

end Observed

/-- The capture reaches as far as the IPv4 header without options, and as
the last field that is read of the transport header. -/
structure Frame.HoldsHeaders (frame : Frame) : Prop where
  network : 34 ≤ frame.pkthdr.caplen
  tcp : frame.packet 23 = ipprotoTcp →
    transportOffset frame.packet + 16 ≤ frame.pkthdr.caplen
  udp : frame.packet 23 = ipprotoUdp →
    transportOffset frame.packet + 4 ≤ frame.pkthdr.caplen
  icmp : frame.packet 23 = ipprotoIcmp →
    transportOffset frame.packet + 2 ≤ frame.pkthdr.caplen

/-- The reads of a transport branch end before `bound` when its last field
does. -/
theorem transportReads_lt_iff (protocol : UInt8) (offset bound : Nat) :
    (∀ index ∈ transportReads protocol offset, index < bound) ↔
      (protocol = ipprotoTcp → offset + 16 ≤ bound) ∧
        (protocol = ipprotoUdp → offset + 4 ≤ bound) ∧
        (protocol = ipprotoIcmp → offset + 2 ≤ bound) := by
  rw [transportReads]
  by_cases tcp : protocol = ipprotoTcp
  · subst tcp
    simp [ipprotoTcp, ipprotoUdp, ipprotoIcmp]
    omega
  · by_cases udp : protocol = ipprotoUdp
    · subst udp
      simp [ipprotoTcp, ipprotoUdp, ipprotoIcmp]
      omega
    · by_cases icmp : protocol = ipprotoIcmp
      · subst icmp
        simp [ipprotoTcp, ipprotoUdp, ipprotoIcmp]
        omega
      · simp [tcp, udp, icmp]

/-- On an IPv4 frame all reads of `parse_packet` lie inside the capture if
and only if the capture holds the headers that the frame announces. -/
theorem Frame.bytesRead_lt_caplen_iff
    (frame : Frame)
    (isIp : ntohs (frame.packet 12) (frame.packet 13) = ethertypeIp) :
    (∀ index ∈ frame.bytesRead, index < frame.pkthdr.caplen) ↔
      frame.HoldsHeaders := by
  have reads :=
    (observes_parsePacket_of_ip frame.packet frame.pkthdr isIp).touched_eq
  have transport := transportReads_lt_iff (frame.packet 23)
    (transportOffset frame.packet) frame.pkthdr.caplen
  rw [Frame.bytesRead, reads]
  simp only [List.forall_mem_append, transport]
  constructor
  · rintro ⟨-, -, -, -, -, destination, -, -, tcp, udp, icmp⟩
    have last : 33 < frame.pkthdr.caplen :=
      destination 33 (by decide)
    exact ⟨last, tcp, udp, icmp⟩
  · rintro ⟨network, tcp, udp, icmp⟩
    have early : ∀ {indices : List Nat},
        (∀ index ∈ indices, index < 34) →
          ∀ index ∈ indices, index < frame.pkthdr.caplen := by
      intro indices small index member
      exact Nat.lt_of_lt_of_le (small index member) network
    exact ⟨early (by decide), early (by decide), early (by decide),
      early (by decide), early (by decide), early (by decide),
      early (by decide), early (by decide), tcp, udp, icmp⟩

/-- A TCP frame, all zero but for the ether type, the protocol and a header
length of 15 words. -/
def optionsFrame (caplen : Nat) : Frame where
  pkthdr := ⟨1, 0, caplen⟩
  packet := fun index =>
    if index = 12 then 0x08
    else if index = 14 then 0x4f
    else if index = 23 then ipprotoTcp
    else 0

theorem optionsFrame_read_inside :
    89 ∈ (optionsFrame 90).bytesRead ∧
      ∀ index ∈ (optionsFrame 90).bytesRead,
        index < (optionsFrame 90).pkthdr.caplen :=
  ⟨by decide +kernel,
    (Frame.bytesRead_lt_caplen_iff (optionsFrame 90) (by decide)).mpr
      ⟨by decide, by decide, by decide, by decide⟩⟩

/-- In a capture of 60 bytes the TCP header is looked for behind the end. -/
theorem optionsFrame_read_past_end :
    14 ≤ (optionsFrame 60).pkthdr.caplen ∧
      ntohs ((optionsFrame 60).packet 12) ((optionsFrame 60).packet 13) =
        ethertypeIp ∧
      ¬ ∀ index ∈ (optionsFrame 60).bytesRead,
        index < (optionsFrame 60).pkthdr.caplen := by
  decide +kernel

end UzFlowMeter
