import UzFlowMeter.FlowBytes

/-!
# Packet lengths of a flow

The totals, means, variances and extremes of `packet_length.c`.  The length
of a packet is that of its payload and of its headers.  `get_total_len` and
`get_avg` add the lengths up as `int` values, `get_mean_len` and
`get_var_len` as doubles.
-/

namespace UzFlowMeter

open MachineInt

section Lengths

variable {m : Type → Type} [Monad m] (add : Int → Int → m Int)
  (flow : Flow) (packetDirection : PacketDirection)

/-- The pairs that the loop of `get_packet_length` selects. -/
def Flow.pairsAlong : List Pair :=
  flow.pairs.filter fun pair =>
    packetDirection = .both ∨ pair.direction = packetDirection

/-- `get_packet_length`; the count is the length of the list. -/
def getPacketLength : m (List Int) :=
  (flow.pairsAlong packetDirection).mapM fun pair =>
    add pair.packet.payloadSize pair.packet.headerSize

/-- `get_total_len`. -/
def getTotalLen : m Int := do
  let packetLengths ← getPacketLength add flow packetDirection
  sumWith add 0 packetLengths

/-- `get_avg`: a quotient of integers. -/
def getAvg : m Int := do
  let packetLengths ← getPacketLength add flow packetDirection
  if packetLengths.length > 0 then
    let total ← getTotalLen add flow packetDirection
    return total.tdiv packetLengths.length
  else return 0

/-- `get_mean_len`: a quotient of doubles. -/
def getMeanLen : m ℚ := do
  let packetLengths ← getPacketLength add flow packetDirection
  if packetLengths.length = 0 then return 0
  else
    let sum :=
      packetLengths.foldl (fun sum (length : Int) => sum + (length : ℚ))
        (0 : ℚ)
    return sum / packetLengths.length

/-- `get_var_len`: the mean is that of the lengths as doubles. -/
def getVarLen : m ℚ := do
  let packetLengths ← getPacketLength add flow packetDirection
  if packetLengths.length = 0 then return 0
  else
    let sum :=
      packetLengths.foldl (fun sum (length : Int) => sum + (length : ℚ))
        (0 : ℚ)
    let mean := sum / packetLengths.length
    let variance :=
      packetLengths.foldl
        (fun variance (length : Int) =>
          variance + ((length : ℚ) - mean) ^ 2)
        (0 : ℚ)
    return variance / packetLengths.length

/-- `get_max`. -/
def getMax : m Int := do
  let packetLengths ← getPacketLength add flow packetDirection
  match packetLengths with
  | [] => return 0
  | first :: rest =>
      return rest.foldl
        (fun maxPacketLength length =>
          if length > maxPacketLength then length else maxPacketLength)
        first

/-- `get_min`, whose loop begins with the first length again. -/
def getMin : m Int := do
  let packetLengths ← getPacketLength add flow packetDirection
  match packetLengths with
  | [] => return 0
  | first :: rest =>
      return (first :: rest).foldl
        (fun minPacketLength length =>
          if length < minPacketLength then length else minPacketLength)
        first

end Lengths

/-- The bytes of a packet, headers and payload. -/
def Packet.length (packet : Packet) : Int :=
  packet.payloadSize + packet.headerSize

/-- The lengths along a direction. -/
def Flow.lengthsAlong (flow : Flow) (packetDirection : PacketDirection) :
    List Int :=
  (flow.pairsAlong packetDirection).map fun pair => pair.packet.length

/-- The sum of doubles is the sum of the integers. -/
theorem foldl_add_doubles (lengths : List Int) (start : Int) :
    lengths.foldl (fun sum (length : Int) => sum + (length : ℚ))
        (start : ℚ) =
      ((start + lengths.sum : Int) : ℚ) := by
  induction lengths generalizing start with
  | nil =>
      rw [List.sum_nil, add_zero]
      rfl
  | cons length lengths inductionHypothesis =>
      rw [List.foldl_cons, ← Int.cast_add, inductionHypothesis,
        List.sum_cons, add_assoc]

section Exact

variable (flow : Flow) (packetDirection : PacketDirection)

theorem getPacketLength_exact :
    Id.run (getPacketLength exact flow packetDirection) =
      flow.lengthsAlong packetDirection :=
  mapM_exact _ _ _

theorem getTotalLen_exact :
    Id.run (getTotalLen exact flow packetDirection) =
      (flow.lengthsAlong packetDirection).sum := by
  rw [getTotalLen, Id.run_bind, getPacketLength_exact, sumWith_exact,
    zero_add]

theorem getMeanLen_exact :
    Id.run (getMeanLen exact flow packetDirection) =
      ((flow.lengthsAlong packetDirection).sum : ℚ) /
        (flow.lengthsAlong packetDirection).length := by
  rw [getMeanLen, Id.run_bind, getPacketLength_exact]
  split_ifs with empty
  · rw [empty, Nat.cast_zero, div_zero]
    rfl
  · have sum := foldl_add_doubles (flow.lengthsAlong packetDirection) 0
    rw [Int.cast_zero, zero_add] at sum
    rw [sum]
    rfl

end Exact

/-- A packet with sizes that are not negative and fit together into an
`int`. -/
structure Packet.Sized (packet : Packet) : Prop where
  payloadNonneg : 0 ≤ packet.payloadSize
  headerNonneg : 0 ≤ packet.headerSize
  lengthLe : packet.length ≤ intMax

theorem Packet.Sized.length_nonneg
    {packet : Packet} (sized : packet.Sized) : 0 ≤ packet.length :=
  add_nonneg sized.payloadNonneg sized.headerNonneg

section Checked

variable {flow : Flow} (sized : ∀ pair ∈ flow.pairs, pair.packet.Sized)
  (packetDirection : PacketDirection)

include sized

theorem lengthsAlong_nonneg :
    ∀ length ∈ flow.lengthsAlong packetDirection, 0 ≤ length := by
  intro length member
  obtain ⟨pair, selected, rfl⟩ := List.mem_map.mp member
  exact (sized pair (List.mem_of_mem_filter selected)).length_nonneg

theorem getPacketLength_checked :
    getPacketLength checked flow packetDirection =
      some (flow.lengthsAlong packetDirection) := by
  apply mapM_checked
  intro pair selected
  have pairSized := sized pair (List.mem_of_mem_filter selected)
  exact ⟨le_trans (by decide) pairSized.length_nonneg, pairSized.lengthLe⟩

/-- The total is defined if and only if it is representable. -/
theorem getTotalLen_checked :
    getTotalLen checked flow packetDirection =
      if (flow.lengthsAlong packetDirection).sum ≤ intMax then
        some (flow.lengthsAlong packetDirection).sum
      else none := by
  have summed := sumWith_checked
    (lengthsAlong_nonneg sized packetDirection) (le_refl 0) (by decide)
  rw [zero_add] at summed
  rw [getTotalLen, getPacketLength_checked sized, ← summed]
  rfl

/-- The integer average drops the fraction of the mean. -/
theorem getAvg_checked
    (small : (flow.lengthsAlong packetDirection).sum ≤ intMax) :
    getAvg checked flow packetDirection =
      some (truncate (Id.run (getMeanLen exact flow packetDirection))) := by
  have nonneg := List.sum_nonneg (lengthsAlong_nonneg sized packetDirection)
  rw [getMeanLen_exact, truncate_div nonneg, getAvg,
    getPacketLength_checked sized, Option.bind_eq_bind, Option.bind_some,
    getTotalLen_checked sized, if_pos small]
  split_ifs with several
  · rfl
  · have empty : (flow.lengthsAlong packetDirection).length = 0 := by omega
    rw [empty, Nat.cast_zero, Int.tdiv_zero]
    rfl

end Checked

end UzFlowMeter
