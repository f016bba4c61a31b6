import Mathlib.Data.Sym.Sym2
import UzFlowMeter.Flow
import UzFlowMeter.Library.DelimitedFields

/-!
# Five-tuples and conversations

What a flow key stands for: a protocol and two endpoints in an order.  A
conversation forgets the order.  On well-formed five-tuples, which are the
only ones that `parse_packet` produces, the text of the key determines the
five-tuple.
-/

namespace UzFlowMeter

@[ext]
structure Endpoint where
  address : CString
  port : Int
  deriving DecidableEq, Repr

@[ext]
structure FiveTuple where
  source : Endpoint
  destination : Endpoint
  protocol : UInt8
  deriving DecidableEq, Repr

/-- A protocol and an unordered pair of endpoints. -/
structure Conversation where
  protocol : UInt8
  endpoints : Sym2 Endpoint
  deriving DecidableEq

namespace FiveTuple

/-- The same conversation seen from the other side. -/
def swap (tuple : FiveTuple) : FiveTuple :=
  ⟨tuple.destination, tuple.source, tuple.protocol⟩

/-- The text that `get_flow_key` prints for a five-tuple. -/
def key (tuple : FiveTuple) : CString :=
  formatFlowKey tuple.source.address tuple.destination.address
    tuple.source.port.toNat tuple.destination.port.toNat
    tuple.protocol.toNat

def conversation (tuple : FiveTuple) : Conversation :=
  ⟨tuple.protocol, s(tuple.source, tuple.destination)⟩

@[simp]
theorem swap_swap (tuple : FiveTuple) : tuple.swap.swap = tuple := rfl

@[simp]
theorem swap_source (tuple : FiveTuple) :
    tuple.swap.source = tuple.destination := rfl

@[simp]
theorem swap_destination (tuple : FiveTuple) :
    tuple.swap.destination = tuple.source := rfl

@[simp]
theorem swap_protocol (tuple : FiveTuple) :
    tuple.swap.protocol = tuple.protocol := rfl

@[simp]
theorem conversation_swap (tuple : FiveTuple) :
    tuple.swap.conversation = tuple.conversation := by
  simp [conversation, Sym2.eq_swap]

/-- Two five-tuples belong to one conversation when they are equal up to the
direction. -/
theorem conversation_eq_iff {left right : FiveTuple} :
    left.conversation = right.conversation ↔
      left = right ∨ left = right.swap := by
  cases left
  cases right
  simp only [conversation, swap, Conversation.mk.injEq, Sym2.eq_iff,
    FiveTuple.mk.injEq]
  tauto

end FiveTuple

def Packet.fiveTuple (packet : Packet) : FiveTuple :=
  ⟨⟨packet.srcIp, packet.srcPort.toNat⟩,
    ⟨packet.destIp, packet.destPort.toNat⟩, packet.protocol⟩

/-- The five-tuple in the fields of a flow. -/
def Flow.fiveTuple (flow : Flow) : FiveTuple :=
  ⟨⟨flow.srcIp, flow.srcPort⟩, ⟨flow.destIp, flow.destPort⟩,
    flow.protocol⟩

@[simp]
theorem getFlowKey_forward (flowKey : CString) (packet : Packet) :
    getFlowKey flowKey packet .forward = packet.fiveTuple.key := rfl

@[simp]
theorem getFlowKey_reverse (flowKey : CString) (packet : Packet) :
    getFlowKey flowKey packet .reverse = packet.fiveTuple.swap.key := rfl

theorem Flow.fiveTuple_eq_of_header
    {left right : Flow} (sameHeader : left.header = right.header) :
    left.fiveTuple = right.fiveTuple := by
  simp only [Flow.header, Prod.mk.injEq] at sameHeader
  obtain ⟨srcIp, destIp, srcPort, destPort, protocol⟩ := sameHeader
  simp only [Flow.fiveTuple, srcIp, destIp, srcPort, destPort, protocol]

/-- An address without the separator that fits `INET_ADDRSTRLEN`, and a
16-bit port. -/
structure Endpoint.WellFormed (endpoint : Endpoint) : Prop where
  plain : '_' ∉ endpoint.address
  short : endpoint.address.length ≤ 15
  portNonneg : 0 ≤ endpoint.port
  portLt : endpoint.port < 65536

structure FiveTuple.WellFormed (tuple : FiveTuple) : Prop where
  source : tuple.source.WellFormed
  destination : tuple.destination.WellFormed

theorem FiveTuple.WellFormed.swap
    {tuple : FiveTuple} (wellFormed : tuple.WellFormed) :
    tuple.swap.WellFormed :=
  ⟨wellFormed.destination, wellFormed.source⟩

private theorem underscore_not_mem_formatUnsigned (value : Nat) :
    '_' ∉ formatUnsigned value :=
  DelimitedFields.not_mem_toDigits (by decide) value

private theorem length_formatUnsigned_le
    {value digits : Nat} (positive : 0 < digits)
    (bound : value < 10 ^ digits) :
    (formatUnsigned value).length ≤ digits :=
  (Nat.length_toDigits_le_iff (by decide) positive).mpr bound

/-- What the format of `get_flow_key` prints before the buffer bounds it. -/
def FiveTuple.keyText (tuple : FiveTuple) : CString :=
  ['_'].intercalate
    [tuple.source.address, tuple.destination.address,
      formatUnsigned tuple.source.port.toNat,
      formatUnsigned tuple.destination.port.toNat,
      formatUnsigned tuple.protocol.toNat]

private theorem FiveTuple.WellFormed.length_keyText_lt
    {tuple : FiveTuple} (wellFormed : tuple.WellFormed) :
    tuple.keyText.length < flowKeySize := by
  have sourceShort := wellFormed.source.short
  have destinationShort := wellFormed.destination.short
  have sourcePort :
      (formatUnsigned tuple.source.port.toNat).length ≤ 5 := by
    have := wellFormed.source.portLt
    exact length_formatUnsigned_le (by decide) (by omega)
  have destinationPort :
      (formatUnsigned tuple.destination.port.toNat).length ≤ 5 := by
    have := wellFormed.destination.portLt
    exact length_formatUnsigned_le (by decide) (by omega)
  have protocol : (formatUnsigned tuple.protocol.toNat).length ≤ 3 := by
    have := tuple.protocol.toNat_lt
    exact length_formatUnsigned_le (by decide) (by omega)
  rw [keyText, DelimitedFields.length_intercalate_five, flowKeySize]
  omega

/-- The buffer is large enough: `snprintf` cuts nothing off. -/
theorem FiveTuple.WellFormed.key_eq
    {tuple : FiveTuple} (wellFormed : tuple.WellFormed) :
    tuple.key =
      ['_'].intercalate
        [tuple.source.address, tuple.destination.address,
          formatUnsigned tuple.source.port.toNat,
          formatUnsigned tuple.destination.port.toNat,
          formatUnsigned tuple.protocol.toNat] :=
  List.take_of_length_le (Nat.le_pred_of_lt wellFormed.length_keyText_lt)

/-- A flow key determines the five-tuple. -/
theorem FiveTuple.key_inj
    {left right : FiveTuple}
    (leftFormed : left.WellFormed) (rightFormed : right.WellFormed) :
    left.key = right.key ↔ left = right := by
  have plain : ∀ {tuple : FiveTuple}, tuple.WellFormed →
      ∀ field ∈ [tuple.source.address, tuple.destination.address,
        formatUnsigned tuple.source.port.toNat,
        formatUnsigned tuple.destination.port.toNat,
        formatUnsigned tuple.protocol.toNat], '_' ∉ field := by
    intro tuple wellFormed field member
    simp only [List.mem_cons, List.not_mem_nil, or_false] at member
    rcases member with rfl | rfl | rfl | rfl | rfl
    · exact wellFormed.source.plain
    · exact wellFormed.destination.plain
    · exact underscore_not_mem_formatUnsigned _
    · exact underscore_not_mem_formatUnsigned _
    · exact underscore_not_mem_formatUnsigned _
  constructor
  · intro sameKey
    rw [leftFormed.key_eq, rightFormed.key_eq,
      DelimitedFields.intercalate_inj (plain leftFormed)
        (plain rightFormed) (by simp) (by simp)] at sameKey
    simp only [List.cons.injEq, and_true] at sameKey
    obtain ⟨source, destination, sourcePort, destinationPort, protocol⟩ :=
      sameKey
    have sameSourcePort : left.source.port = right.source.port := by
      have := DelimitedFields.toDigits_injective sourcePort
      have := leftFormed.source.portNonneg
      have := rightFormed.source.portNonneg
      omega
    have sameDestinationPort :
        left.destination.port = right.destination.port := by
      have := DelimitedFields.toDigits_injective destinationPort
      have := leftFormed.destination.portNonneg
      have := rightFormed.destination.portNonneg
      omega
    have sameProtocol : left.protocol = right.protocol :=
      UInt8.toNat_inj.mp (DelimitedFields.toDigits_injective protocol)
    exact FiveTuple.ext (Endpoint.ext source sameSourcePort)
      (Endpoint.ext destination sameDestinationPort) sameProtocol
  · intro same
    rw [same]

/-! ## What `parse_packet` produces -/

private theorem underscore_not_mem_inetNtop (bytes : List UInt8)
    (four : bytes.length = 4) : '_' ∉ inetNtop bytes := by
  match bytes, four with
  | [a, b, c, d], _ =>
      have digits := fun byte : UInt8 =>
        underscore_not_mem_formatUnsigned byte.toNat
      simp only [formatUnsigned] at digits
      simp [inetNtop, List.intercalate, List.intersperse, digits]

private theorem length_inetNtop_le (bytes : List UInt8)
    (four : bytes.length = 4) : (inetNtop bytes).length ≤ 15 := by
  match bytes, four with
  | [a, b, c, d], _ =>
      have short : ∀ byte : UInt8,
          (formatUnsigned byte.toNat).length ≤ 3 := by
        intro byte
        exact length_formatUnsigned_le (by decide)
          (Nat.lt_trans byte.toNat_lt (by decide))
      simp only [formatUnsigned] at short
      have := short a
      have := short b
      have := short c
      have := short d
      simp only [inetNtop, List.map_cons, List.map_nil, List.intercalate,
        List.intersperse, List.flatten_cons, List.flatten_nil,
        List.length_append, List.length_cons, List.length_nil]
      omega

private theorem endpoint_wellFormed
    {address : CString} (port : UInt16)
    (printed : address = [] ∨
      ∃ bytes : List UInt8, bytes.length = 4 ∧ address = inetNtop bytes) :
    Endpoint.WellFormed ⟨address, port.toNat⟩ := by
  have portLt : port.toNat < 65536 := port.toNat_lt
  rcases printed with rfl | ⟨bytes, four, rfl⟩
  · exact ⟨by simp, by simp, by simp, by simpa using portLt⟩
  · exact ⟨underscore_not_mem_inetNtop bytes four,
      length_inetNtop_le bytes four, by simp, by simpa using portLt⟩

/-- Every packet that `parse_packet` fills in has a well-formed
five-tuple. -/
theorem Frame.parsed_wellFormed (frame : Frame) :
    frame.parsed.fiveTuple.WellFormed := by
  rw [Frame.parsed]
  by_cases isIp :
      ntohs (frame.packet 12) (frame.packet 13) = ethertypeIp
  · rw [parsePacket_of_ip isIp]
    obtain ⟨srcPort, destPort, window, flags, icmpType, icmpCode, shape⟩ :=
      transportAt_frame frame.packet
        (14 + (frame.packet 14).toNat % 16 * 4)
        (networkPacket frame.packet)
    constructor
    · simp only [Packet.fiveTuple, shape]
      exact endpoint_wellFormed srcPort <|
        Or.inr ⟨bytesAt frame.packet 26 4, by simp, rfl⟩
    · simp only [Packet.fiveTuple, shape]
      exact endpoint_wellFormed destPort <|
        Or.inr ⟨bytesAt frame.packet 30 4, by simp, rfl⟩
  · rw [parsePacket_of_not_ip isIp]
    exact ⟨endpoint_wellFormed 0 (Or.inl rfl),
      endpoint_wellFormed 0 (Or.inl rfl)⟩

/-- Both addresses of the packet are in dotted decimal. -/
structure Packet.Dotted (packet : Packet) : Prop where
  source : ∃ bytes : List UInt8,
    bytes.length = 4 ∧ packet.srcIp = inetNtop bytes
  destination : ∃ bytes : List UInt8,
    bytes.length = 4 ∧ packet.destIp = inetNtop bytes

theorem Packet.Dotted.wellFormed
    {packet : Packet} (dotted : packet.Dotted) :
    packet.fiveTuple.WellFormed :=
  ⟨endpoint_wellFormed packet.srcPort (Or.inr dotted.source),
    endpoint_wellFormed packet.destPort (Or.inr dotted.destination)⟩

theorem Packet.fiveTuple_eq_iff {first second : Packet} :
    first.fiveTuple = second.fiveTuple ↔
      first.srcIp = second.srcIp ∧ first.destIp = second.destIp ∧
        first.srcPort = second.srcPort ∧
        first.destPort = second.destPort ∧
        first.protocol = second.protocol := by
  simp only [Packet.fiveTuple, FiveTuple.mk.injEq, Endpoint.mk.injEq,
    Int.natCast_inj, UInt16.toNat_inj]
  tauto

private theorem Packet.fiveTuple_eq_swap_iff {first second : Packet} :
    first.fiveTuple = second.fiveTuple.swap ↔
      second.srcIp = first.destIp ∧ second.destIp = first.srcIp ∧
        second.srcPort = first.destPort ∧
        second.destPort = first.srcPort ∧
        second.protocol = first.protocol := by
  simp only [Packet.fiveTuple, FiveTuple.swap, FiveTuple.mk.injEq,
    Endpoint.mk.injEq, Int.natCast_inj, UInt16.toNat_inj]
  grind

/-- Equal keys mean equal five-tuples, and a forward key that equals a
reverse key means swapped ones; the buffer always holds the whole text.  The
keys do not depend on what the buffer held before. -/
theorem getFlowKey_identifies
    (first second : Packet) (firstDotted : first.Dotted)
    (secondDotted : second.Dotted) (buffer otherBuffer : CString) :
    (getFlowKey buffer first .forward =
        getFlowKey otherBuffer second .forward ↔
      first.srcIp = second.srcIp ∧ first.destIp = second.destIp ∧
        first.srcPort = second.srcPort ∧
        first.destPort = second.destPort ∧
        first.protocol = second.protocol) ∧
      (getFlowKey buffer first .forward =
          getFlowKey otherBuffer second .reverse ↔
        second.srcIp = first.destIp ∧ second.destIp = first.srcIp ∧
          second.srcPort = first.destPort ∧
          second.destPort = first.srcPort ∧
          second.protocol = first.protocol) ∧
      (getFlowKey buffer first .forward = first.fiveTuple.keyText ∧
        first.fiveTuple.keyText.length < flowKeySize) ∧
      getFlowKey buffer first .reverse = first.fiveTuple.swap.keyText ∧
        first.fiveTuple.swap.keyText.length < flowKeySize := by
  have firstFormed := firstDotted.wellFormed
  have secondFormed := secondDotted.wellFormed
  simp only [getFlowKey_forward, getFlowKey_reverse]
  refine ⟨?_, ?_, ⟨?_, ?_⟩, ?_, ?_⟩
  · rw [FiveTuple.key_inj firstFormed secondFormed,
      Packet.fiveTuple_eq_iff]
  · rw [FiveTuple.key_inj firstFormed secondFormed.swap,
      Packet.fiveTuple_eq_swap_iff]
  · exact firstFormed.key_eq
  · exact firstFormed.length_keyText_lt
  · exact firstFormed.swap.key_eq
  · exact firstFormed.swap.length_keyText_lt

/-- A query and its answer, as far as the key reads them. -/
def queryPacket : Packet where
  srcIp := inetNtop [10, 0, 0, 1]
  destIp := inetNtop [10, 0, 0, 2]
  srcPort := 40000
  destPort := 53
  protocol := ipprotoUdp

def answerPacket : Packet where
  srcIp := inetNtop [10, 0, 0, 2]
  destIp := inetNtop [10, 0, 0, 1]
  srcPort := 53
  destPort := 40000
  protocol := ipprotoUdp

theorem getFlowKey_query_answer :
    getFlowKey [] queryPacket .forward =
      getFlowKey [] answerPacket .reverse :=
  (getFlowKey_identifies queryPacket answerPacket
    ⟨⟨[10, 0, 0, 1], rfl, rfl⟩, ⟨[10, 0, 0, 2], rfl, rfl⟩⟩
    ⟨⟨[10, 0, 0, 2], rfl, rfl⟩, ⟨[10, 0, 0, 1], rfl, rfl⟩⟩
    [] []).2.1.mpr ⟨rfl, rfl, rfl, rfl, rfl⟩

end UzFlowMeter
