import UzFlowMeter.FlowRates

/-!
# Lengths of the network headers

`packet_length.c` measures the IP headers of a direction, and `flow_bytes.c`
the headers of all layers.  The two agree as far as the layers of a frame let
them.
-/

namespace UzFlowMeter

open Extremes MachineInt

/-- `get_header_length`, which finds no pairs for `BOTH`. -/
def getHeaderLength (flow : Flow) (packetDirection : PacketDirection) :
    List Int :=
  (flow.pairs.filter fun pair => pair.direction = packetDirection).map
    fun pair => pair.packet.ihl.toNat * 4

/-- `get_total_header`. -/
def getTotalHeader {m : Type → Type} [Monad m] (add : Int → Int → m Int)
    (flow : Flow) (packetDirection : PacketDirection) : m Int :=
  sumWith add 0 (getHeaderLength flow packetDirection)

/-- `get_min_header`; -1 without packets. -/
def getMinHeader (flow : Flow) (packetDirection : PacketDirection) : Int :=
  match getHeaderLength flow packetDirection with
  | [] => -1
  | first :: rest =>
      rest.foldl
        (fun minHeaderLength length =>
          if length < minHeaderLength then length else minHeaderLength)
        first

/-- Below the transport header, which has up to fifteen words, lie those of
IP and Ethernet. -/
structure Packet.Layered (packet : Packet) : Prop where
  ihlLe : packet.ihl.toNat ≤ 15
  atLeast : 14 + packet.ihl.toNat * 4 ≤ packet.headerSize
  atMost : packet.headerSize ≤ 74 + packet.ihl.toNat * 4
  datagram : packet.protocol = ipprotoUdp →
    packet.headerSize = 22 + packet.ihl.toNat * 4

private theorem transportAt_ihl
    (packet : Nat → UInt8) (offset : Nat) (pkt : Packet) :
    (transportAt packet offset pkt).1.ihl = pkt.ihl ∧
      (transportAt packet offset pkt).1.protocol = pkt.protocol := by
  obtain ⟨_, _, _, _, _, _, parsed⟩ := transportAt_frame packet offset pkt
  rw [parsed]
  exact ⟨rfl, rfl⟩

private theorem transportAt_datagram
    (packet : Nat → UInt8) (offset : Nat) {pkt : Packet}
    (datagram : pkt.protocol = ipprotoUdp) :
    (transportAt packet offset pkt).2 = sizeofUdphdr := by
  have notSegment : pkt.protocol ≠ ipprotoTcp := by
    rw [datagram]
    decide
  rw [transportAt, parseTransport, if_neg notSegment, if_pos datagram]
  rfl

private theorem Frame.layered_of_accepted
    {frame : Frame} (accepted : frame.parsed.Accepted) :
    frame.parsed.Layered := by
  rw [Frame.parsed] at accepted ⊢
  by_cases isIp :
      ntohs (frame.packet 12) (frame.packet 13) = ethertypeIp
  · rw [parsePacket_of_ip isIp]
    dsimp only [ethernetHeaderLen]
    have transport := transportAt_length_le frame.packet
      (14 + (frame.packet 14).toNat % 16 * 4) (networkPacket frame.packet)
    have fields := transportAt_ihl frame.packet
      (14 + (frame.packet 14).toNat % 16 * 4) (networkPacket frame.packet)
    have words : (networkPacket frame.packet).ihl.toNat =
        (frame.packet 14).toNat % 16 := by
      rw [networkPacket, UInt8.toNat_ofNat']
      omega
    refine ⟨?_, ?_, ?_, ?_⟩
    · dsimp only
      rw [fields.1, words]
      omega
    · dsimp only
      rw [fields.1, words]
      omega
    · dsimp only
      rw [fields.1, words]
      omega
    · dsimp only
      intro datagram
      rw [fields.2] at datagram
      rw [fields.1, words, transportAt_datagram _ _ datagram, sizeofUdphdr]
      omega
  · rw [parsePacket_of_not_ip isIp] at accepted
    exact absurd accepted (by decide : ¬ ((0 : UInt8) = ipprotoTcp ∨
      (0 : UInt8) = ipprotoUdp))

private theorem Meter.layered_run (capacity : Nat) (frames : List Frame) :
    (run capacity frames).AllFlows fun flow =>
      ∀ pair ∈ flow.pairs, pair.packet.Layered := by
  apply allFlows_run
  · intro packet pair member
    exact absurd member List.not_mem_nil
  · intro frame route flow accepted layered pair member
    rw [recordLabels_pairs] at member
    rcases List.mem_append.mp member with old | new
    · exact layered pair old
    · obtain ⟨label, -, rfl⟩ := List.mem_map.mp new
      exact frame.layered_of_accepted accepted

/-- Sums of wholes that exceed their parts within bounds. -/
theorem sum_within
    {alpha : Type} {items : List alpha} {part whole : alpha → Int}
    {low high : Int}
    (within : ∀ item ∈ items,
      low + part item ≤ whole item ∧ whole item ≤ high + part item) :
    low * items.length + (items.map part).sum ≤ (items.map whole).sum ∧
      (items.map whole).sum ≤
        high * items.length + (items.map part).sum := by
  induction items with
  | nil =>
      simp
  | cons item items inductionHypothesis =>
      have itemWithin := within item List.mem_cons_self
      have rest := inductionHypothesis fun other member =>
        within other (List.mem_cons_of_mem item member)
      rw [List.map_cons, List.sum_cons, List.map_cons, List.sum_cons,
        List.length_cons]
      push_cast
      constructor
      · linarith
      · linarith

section Direction

variable {flow : Flow} {direction : PacketDirection}

private theorem getMinHeader_isLeast
    (selected : getHeaderLength flow direction ≠ []) :
    IsLeast {length | length ∈ getHeaderLength flow direction}
      (getMinHeader flow direction) := by
  rw [getMinHeader]
  cases lengths : getHeaderLength flow direction with
  | nil =>
      exact absurd lengths selected
  | cons first rest =>
      dsimp only
      have scan : (fun minHeaderLength length : Int =>
          if length < minHeaderLength then length
          else minHeaderLength) = min := by
        funext minHeaderLength length
        exact ite_lt_eq_min minHeaderLength length
      rw [scan]
      exact isLeast_foldl_min first rest

private theorem getHeaderLength_nonneg :
    ∀ length ∈ getHeaderLength flow direction, 0 ≤ length := by
  intro length member
  obtain ⟨pair, -, rfl⟩ := List.mem_map.mp member
  omega

private theorem getMinHeader_eq_neg_one_iff :
    getMinHeader flow direction = -1 ↔
      getHeaderLength flow direction = [] := by
  constructor
  · intro sentinel
    by_contra selected
    have nonneg := getHeaderLength_nonneg _ (getMinHeader_isLeast selected).1
    rw [sentinel] at nonneg
    exact absurd nonneg (by decide)
  · intro none
    rw [getMinHeader, none]

private theorem length_getHeaderLength (side : direction ≠ .both) :
    ((getHeaderLength flow direction).length : Int) =
      getTotal flow direction := by
  rw [getHeaderLength, List.length_map, getTotal,
    List.countP_eq_length_filter]
  simp [side]

end Direction

/-! ## Both measures of a run -/

/-- The IP headers of a direction against a total of its header bytes, if it
is one. -/
structure Flow.HeadersAgree
    (flow : Flow) (direction : PacketDirection) (headerBytes : Option Int) :
    Prop where
  sentinel : getMinHeader flow direction = -1 ↔ getTotal flow direction = 0
  total : ∀ bytes, headerBytes = some bytes →
    ∃ total, getTotalHeader checked flow direction = some total ∧
      14 * getTotal flow direction + total ≤ bytes ∧
      bytes ≤ 74 * getTotal flow direction + total ∧
      (flow.protocol = ipprotoUdp →
        bytes = 22 * getTotal flow direction + total) ∧
      total ≤ 60 * getTotal flow direction ∧
      (getTotal flow direction ≠ 0 →
        getMinHeader flow direction * getTotal flow direction ≤ total)

section Agree

variable {flow : Flow} {direction : PacketDirection}

private theorem length_filter_direction (side : direction ≠ .both) :
    ((flow.pairs.filter fun pair =>
      pair.direction = direction).length : Int) = getTotal flow direction := by
  rw [← length_getHeaderLength side, getHeaderLength, List.length_map]

private theorem getMinHeader_sentinel (side : direction ≠ .both) :
    getMinHeader flow direction = -1 ↔ getTotal flow direction = 0 := by
  rw [getMinHeader_eq_neg_one_iff, ← length_getHeaderLength side,
    Int.natCast_eq_zero, List.length_eq_zero_iff]

/-- Header bytes that exceed the IP header of each packet within bounds. -/
theorem sum_getHeaderLength_within
    {low high : Int} (lowNonneg : 0 ≤ low)
    (within : ∀ pair ∈ flow.pairs.filter fun pair =>
      pair.direction = direction,
      low + (pair.packet.ihl.toNat : Int) * 4 ≤ pair.packet.headerSize ∧
        pair.packet.headerSize ≤ high + (pair.packet.ihl.toNat : Int) * 4)
    (side : direction ≠ .both) {bytes : Int}
    (summed : totalOver checked flow
      (fun pair => pair.direction = direction) Packet.headerSize =
        some bytes) :
    bytes ≤ intMax ∧
      low * getTotal flow direction +
          (getHeaderLength flow direction).sum ≤ bytes ∧
      bytes ≤ high * getTotal flow direction +
        (getHeaderLength flow direction).sum := by
  have nonneg : ∀ size ∈ (flow.pairs.filter fun pair =>
      pair.direction = direction).map fun pair => pair.packet.headerSize,
      0 ≤ size := by
    intro size member
    obtain ⟨pair, selected, rfl⟩ := List.mem_map.mp member
    have atLeast := (within pair selected).1
    omega
  obtain ⟨rfl, fits⟩ := (sumWith_checked_eq_some_iff nonneg).mp summed
  have between := sum_within within
  rw [length_filter_direction side] at between
  exact ⟨fits, between⟩

private theorem getTotalHeader_eq_sum
    (fits : (getHeaderLength flow direction).sum ≤ intMax) :
    getTotalHeader checked flow direction =
      some (getHeaderLength flow direction).sum :=
  (sumWith_checked_eq_some_iff getHeaderLength_nonneg).mpr ⟨rfl, fits⟩

/-- An IP header has at most fifteen words. -/
theorem sum_getHeaderLength_le
    (layered : ∀ pair ∈ flow.pairs, pair.packet.Layered)
    (side : direction ≠ .both) :
    (getHeaderLength flow direction).sum ≤ 60 * getTotal flow direction := by
  have short : ∀ length ∈ getHeaderLength flow direction, length ≤ 60 := by
    intro length member
    obtain ⟨pair, selected, rfl⟩ := List.mem_map.mp member
    have words := (layered pair (List.mem_of_mem_filter selected)).ihlLe
    omega
  have limited := List.sum_le_card_nsmul _ _ short
  rw [nsmul_eq_mul, length_getHeaderLength side, mul_comm] at limited
  exact limited

private theorem getMinHeader_mul_le
    (side : direction ≠ .both) (some : getTotal flow direction ≠ 0) :
    getMinHeader flow direction * getTotal flow direction ≤
      (getHeaderLength flow direction).sum := by
  have selected : getHeaderLength flow direction ≠ [] := by
    intro none
    rw [← length_getHeaderLength side, none] at some
    exact some rfl
  have limited := List.card_nsmul_le_sum _ _
    (getMinHeader_isLeast selected).2
  rw [nsmul_eq_mul, length_getHeaderLength side, mul_comm] at limited
  exact limited

private theorem headersAgree
    (isolated : flow.Isolated)
    (layered : ∀ pair ∈ flow.pairs, pair.packet.Layered)
    (side : direction ≠ .both) :
    flow.HeadersAgree direction
      (totalOver checked flow (fun pair => pair.direction = direction)
        Packet.headerSize) where
  sentinel := getMinHeader_sentinel side
  total := by
    intro bytes summed
    have along : ∀ pair ∈ flow.pairs.filter fun pair =>
        pair.direction = direction, pair.packet.Layered := fun pair member =>
      layered pair (List.mem_of_mem_filter member)
    obtain ⟨fits, low, high⟩ := sum_getHeaderLength_within (by decide)
      (fun pair member =>
        ⟨(along pair member).atLeast, (along pair member).atMost⟩)
      side summed
    have count : 0 ≤ getTotal flow direction := Int.natCast_nonneg _
    refine ⟨_, getTotalHeader_eq_sum (by omega), low, high, ?_,
      sum_getHeaderLength_le layered side, getMinHeader_mul_le side⟩
    intro datagrams
    have layers : ∀ pair ∈ flow.pairs.filter fun pair =>
        pair.direction = direction,
        22 + (pair.packet.ihl.toNat : Int) * 4 ≤ pair.packet.headerSize ∧
          pair.packet.headerSize ≤
            22 + (pair.packet.ihl.toNat : Int) * 4 := by
      intro pair member
      have sameProtocol := congrArg Conversation.protocol
        (isolated pair (List.mem_of_mem_filter member))
      have exactly :=
        (along pair member).datagram (sameProtocol.trans datagrams)
      exact ⟨le_of_eq exactly.symm, le_of_eq exactly⟩
    obtain ⟨-, atLeast, atMost⟩ :=
      sum_getHeaderLength_within (by decide) layers side summed
    exact le_antisymm atMost atLeast

end Agree

/-- The measures of the IP headers and of all headers fit together, and the
former finds nothing for both directions. -/
structure Flow.HeadersCoherent (flow : Flow) : Prop where
  forward : flow.HeadersAgree .forward (getForwardHeaderBytes checked flow)
  reverse : flow.HeadersAgree .reverse (getReverseHeaderBytes checked flow)
  bothTotal : getTotalHeader checked flow .both = some 0
  bothMin : getMinHeader flow .both = -1

private theorem headersCoherent
    {flow : Flow} (isolated : flow.Isolated)
    (layered : ∀ pair ∈ flow.pairs, pair.packet.Layered)
    (sized : ∀ pair ∈ flow.pairs, pair.Sized) : flow.HeadersCoherent := by
  have none : getHeaderLength flow .both = [] := by
    rw [getHeaderLength, List.map_eq_nil_iff, List.filter_eq_nil_iff]
    intro pair member labelled
    rcases (sized pair member).directed with forward | reverse
    · rw [forward] at labelled
      exact absurd labelled (by decide)
    · rw [reverse] at labelled
      exact absurd labelled (by decide)
  constructor
  · exact headersAgree isolated layered (by decide)
  · rw [getReverseHeaderBytes_eq]
    exact headersAgree isolated layered (by decide)
  · rw [getTotalHeader, none]
    rfl
  · rw [getMinHeader, none]

/-- The headers of the flows of the meter are coherent. -/
def Meter.HeadersCoherent (meter : Meter) : Prop :=
  ∀ snapshot ∈ meter.flows, snapshot.contents.HeadersCoherent

/-- In every run the two measures of the headers fit together. -/
theorem Meter.headersCoherent_run (capacity : Nat) (frames : List Frame) :
    (run capacity frames).HeadersCoherent := by
  rw [HeadersCoherent, (tracked_run capacity frames).forall_flows_iff]
  intro flow created
  exact headersCoherent ((filed_run capacity frames).isolated flow created)
    (layered_run capacity frames flow created)
    (sized_run capacity frames flow created)

end UzFlowMeter
