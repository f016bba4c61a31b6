import UzFlowMeter.ByteTotals
import UzFlowMeter.Recording
import UzFlowMeter.SingleFlow

/-!
# Overflow of byte totals in a session

Nothing bounds the number of packets of a flow, so its totals can exceed the
range of `int`.  They are exact after a run exactly when no packet takes the
flow it joins beyond that range.
-/

namespace UzFlowMeter

open MachineInt

private theorem Frame.parsed_length_le (frame : Frame) :
    frame.parsed.length ≤ 65669 := by
  obtain ⟨⟨-, payloadLe⟩, -, headerLe⟩ := frame.parsed_sizes
  rw [Packet.length]
  omega

private theorem Frame.parsed_sized (frame : Frame) : frame.parsed.Sized := by
  obtain ⟨⟨payloadNonneg, -⟩, headerNonneg, -⟩ := frame.parsed_sizes
  exact ⟨payloadNonneg, headerNonneg,
    le_trans frame.parsed_length_le (by decide)⟩

private theorem Route.labels_directed (route : Route) :
    ∀ label ∈ route.labels, label = .forward ∨ label = .reverse := by
  cases route <;> simp [Route.labels]

private theorem Route.length_labels_le (route : Route) :
    route.labels.length ≤ 2 := by
  cases route <;> simp [Route.labels]

namespace Meter

theorem sized_run (capacity : Nat) (frames : List Frame) :
    (run capacity frames).AllFlows fun flow =>
      ∀ pair ∈ flow.pairs, pair.Sized := by
  apply allFlows_run
  · intro packet pair member
    exact absurd member List.not_mem_nil
  · intro frame route flow _ sized pair member
    rw [recordLabels_pairs] at member
    rcases List.mem_append.mp member with old | new
    · exact sized pair old
    · obtain ⟨label, labelMember, rfl⟩ := List.mem_map.mp new
      exact ⟨route.labels_directed label labelMember, frame.parsed_sized⟩

/-- How often a packet is recorded in the flow it joins. -/
def recordings (meter : Meter) (packet : Packet) : Int :=
  if meter.MatchesReverseOnly packet then 2 else 1

/-- A flow that the packet joins has room for its bytes. -/
def JoinsInBytes (meter : Meter) (packet : Packet) : Prop :=
  ∀ entry ∈ meter.session.entries, meter.Joins packet entry →
    volumeOf (meter.heap entry.flow).pairs +
      meter.recordings packet * packet.length ≤ intMax

instance (meter : Meter) (packet : Packet) :
    Decidable (meter.JoinsInBytes packet) :=
  inferInstanceAs (Decidable (∀ entry ∈ meter.session.entries, _))

/-- No flow holds more bytes than the largest `int`. -/
def VolumesFit (meter : Meter) : Prop :=
  ∀ flow, volumeOf (meter.pairsOf flow) ≤ intMax

private theorem RecordsIn.volumesFit_iff
    {before after : Meter} {packet : Packet}
    {labels : List PacketDirection} {flow : FlowPtr}
    (records : RecordsIn before after packet labels flow)
    (nonneg : 0 ≤ packet.length) :
    after.VolumesFit ↔
      before.VolumesFit ∧
        volumeOf (before.pairsOf flow) + labels.length * packet.length ≤
          intMax := by
  have total : volumeOf (after.pairsOf flow) =
      volumeOf (before.pairsOf flow) + labels.length * packet.length := by
    rw [records.appended, volumeOf_append, volumeOf_labels]
  constructor
  · intro fit
    have own := fit flow
    rw [total] at own
    refine ⟨?_, own⟩
    intro other
    by_cases same : other = flow
    · have added : 0 ≤ labels.length * packet.length :=
        mul_nonneg (Int.natCast_nonneg _) nonneg
      rw [same]
      linarith
    · rw [← records.others other same]
      exact fit other
  · rintro ⟨fit, own⟩ other
    by_cases same : other = flow
    · rw [same, total]
      exact own
    · rw [records.others other same]
      exact fit other

private theorem length_labels_eq_recordings
    {meter : Meter} {packett : Packet} {route : Route}
    (selects : Selects meter.lookup packett route)
    (closed : route.opens = false) :
    (route.labels.length : Int) = meter.recordings packett := by
  have reverseOnly := matchesReverseOnly_iff selects
  rw [recordings]
  cases route with
  | fresh =>
      exact absurd closed.symm Bool.false_ne_true
  | forward =>
      rw [if_neg fun only => by simpa using reverseOnly.mp only]
      rfl
  | reverse =>
      rw [if_pos (reverseOnly.mpr rfl)]
      rfl
  | segment count =>
      rw [if_neg fun only => by simpa using reverseOnly.mp only]
      rfl
  | newSegment count =>
      exact absurd closed.symm Bool.false_ne_true

/-- There is room in the flow that a route leads to if and only if there is
in the flows that the packet joins: a new flow has room for every packet. -/
theorem Distinct.joinsInBytes_iff
    {meter : Meter} (distinct : meter.Distinct) (tracked : meter.Tracked)
    {frame : Frame} {route : Route} {flow : FlowPtr}
    (selects : Selects meter.lookup frame.parsed route)
    (target : meter.Target frame.parsed route flow) :
    meter.JoinsInBytes frame.parsed ↔
      volumeOf (meter.pairsOf flow) +
        route.labels.length * frame.parsed.length ≤ intMax := by
  rcases target with ⟨opens, rfl⟩ | ⟨closed, found⟩
  · have none : ∀ entry ∈ meter.session.entries,
        ¬ meter.Joins frame.parsed entry := by
      intro entry member joins
      obtain ⟨closed, -⟩ := (distinct.joins_iff selects member).mp joins
      rw [opens] at closed
      cases closed
    have lengthLe := frame.parsed_length_le
    have lengthNonneg := frame.parsed_sized.length_nonneg
    have few : (route.labels.length : Int) ≤ 2 := by
      exact_mod_cast route.length_labels_le
    have room : volumeOf (meter.pairsOf meter.nextFlow) +
        route.labels.length * frame.parsed.length ≤ intMax := by
      rw [pairsOf_of_le (le_refl meter.nextFlow), volumeOf, List.map_nil,
        List.sum_nil, intMax]
      nlinarith
    exact iff_of_true
      (fun entry member joins => absurd joins (none entry member)) room
  · obtain ⟨entry, member, sameKey, sameCount, rfl⟩ :=
      getFlow_eq_some found
    rw [pairsOf_of_lt (tracked.live_lt member),
      length_labels_eq_recordings selects closed]
    constructor
    · intro inBytes
      exact inBytes entry member
        ((distinct.joins_iff selects member).mpr
          ⟨closed, sameKey, sameCount⟩)
    · intro room other otherMember joins
      obtain ⟨-, otherKey, otherCount⟩ :=
        (distinct.joins_iff selects otherMember).mp joins
      have otherFound := distinct.getFlow_eq otherMember
      rw [otherKey, otherCount, found, Option.some_inj] at otherFound
      rw [← otherFound]
      exact room

private theorem volumesFit_onPacketReceived_iff
    {meter : Meter} (distinct : meter.Distinct) (tracked : meter.Tracked)
    (frame : Frame) :
    (UzFlowMeter.onPacketReceived meter frame).VolumesFit ↔
      meter.VolumesFit ∧
        (frame.parsed.Accepted → meter.JoinsInBytes frame.parsed) := by
  by_cases accepted : frame.parsed.Accepted
  · obtain ⟨route, flow, selects, target, records⟩ :=
      tracked.onPacketReceived_recordsIn accepted
    rw [records.volumesFit_iff frame.parsed_sized.length_nonneg,
      distinct.joinsInBytes_iff tracked selects target]
    exact and_congr_right fun _ => ⟨fun room _ => room,
      fun room => room accepted⟩
  · rw [UzFlowMeter.onPacketReceived,
      receivePacket_of_not_accepted meter accepted]
    exact ⟨fun fit => ⟨fit, fun isAccepted => absurd isAccepted accepted⟩,
      fun both => both.1⟩

theorem volumesFit_run_iff (capacity : Nat) (frames : List Frame) :
    (run capacity frames).VolumesFit ↔
      Runs.EveryStep UzFlowMeter.onPacketReceived
        (fun meter frame => frame.parsed.Accepted →
          meter.JoinsInBytes frame.parsed) (initial capacity) frames := by
  induction frames using List.reverseRecOn with
  | nil =>
      refine iff_of_true ?_ True.intro
      intro flow
      rw [pairsOf_of_le (Nat.zero_le flow)]
      decide
  | append_singleton frames last inductionHypothesis =>
      rw [run_concat, Runs.everyStep_concat, ← inductionHypothesis,
        volumesFit_onPacketReceived_iff (distinct_run capacity frames)
          (tracked_run capacity frames)]
      rfl

private theorem volumesFit_iff (capacity : Nat) (frames : List Frame) :
    (∀ snapshot ∈ (run capacity frames).flows,
      snapshot.contents.TotalsExact) ↔
        (run capacity frames).VolumesFit := by
  have exact_iff : ∀ flow < (run capacity frames).nextFlow,
      (((run capacity frames).heap flow).TotalsExact ↔
        volumeOf ((run capacity frames).heap flow).pairs ≤ intMax) :=
    fun flow created =>
      (recorded_run capacity frames flow created).totalsExact_iff
        (sized_run capacity frames flow created)
  rw [(tracked_run capacity frames).forall_flows_iff]
  constructor
  · intro allExact flow
    by_cases created : flow < (run capacity frames).nextFlow
    · rw [pairsOf_of_lt created]
      exact (exact_iff flow created).mp (allExact flow created)
    · rw [pairsOf_of_le (Nat.not_lt.mp created)]
      decide
  · intro fit flow created
    have own := fit flow
    rw [pairsOf_of_lt created] at own
    exact (exact_iff flow created).mpr own

/-- All totals of all flows, live or exported, are exact after a run if and
only if at every step the flow that the packet joins has room for it: its
bytes and those of the packet, as often as it is recorded there, are no more
than the largest `int`. -/
theorem totalsExact_of_run (capacity : Nat) (frames : List Frame) :
    (∀ snapshot ∈ (run capacity frames).flows,
      snapshot.contents.TotalsExact) ↔
        Runs.EveryStep UzFlowMeter.onPacketReceived
          (fun meter frame => frame.parsed.Accepted →
            meter.JoinsInBytes frame.parsed)
          (initial capacity) frames := by
  rw [volumesFit_iff, volumesFit_run_iff]

/-! ## A download of two gigabytes -/

/-- The memory of a client frame with the largest total length. -/
def jumboMemory (index : Nat) : UInt8 :=
  if index = 16 ∨ index = 17 then 0xff else (clientFrame 0).packet index

def jumboFrame (seconds : Int) : Frame :=
  ⟨⟨seconds, 0, 54⟩, jumboMemory⟩

/-- The frames after the first one. -/
def downloadTail : List Frame :=
  (List.range 32999).map fun index : Nat =>
    jumboFrame (1 + ((index + 1) / 1000 : Nat))

/-- A thousand such frames in every second, for 33 seconds. -/
def download : List Frame :=
  jumboFrame 1 :: downloadTail

private theorem jumboFrame_parsed (seconds : Int) :
    (jumboFrame seconds).parsed =
      { (jumboFrame 0).parsed with time := seconds } := by
  have isIp : ntohs (jumboMemory 12) (jumboMemory 13) = ethertypeIp := by
    decide
  rw [Frame.parsed, Frame.parsed, jumboFrame, jumboFrame,
    parsePacket_of_ip isIp, parsePacket_of_ip isIp]
  simp

private theorem jumboFrame_time (seconds : Int) :
    (jumboFrame seconds).parsed.time = seconds := by
  rw [jumboFrame_parsed]

private theorem mem_download {frame : Frame} (member : frame ∈ download) :
    ∃ seconds : Int, frame = jumboFrame seconds ∧ 1 ≤ seconds ∧
      seconds ≤ 41 := by
  rcases List.mem_cons.mp member with rfl | inRest
  · exact ⟨1, rfl, by decide, by decide⟩
  · obtain ⟨index, inRange, rfl⟩ := List.mem_map.mp inRest
    have small := List.mem_range.mp inRange
    exact ⟨_, rfl, by omega, by omega⟩

private theorem download_brief : Brief (jumboFrame 1) downloadTail where
  accepted := by
    intro frame member
    obtain ⟨seconds, rfl, -⟩ := mem_download member
    rw [jumboFrame_parsed]
    exact (by decide : (jumboFrame 0).parsed.Accepted)
  sameTuple := by
    intro frame member
    obtain ⟨seconds, rfl, -⟩ := mem_download member
    rw [jumboFrame_parsed, jumboFrame_parsed 1]
    rfl
  near := by
    intro frame member
    obtain ⟨seconds, rfl, -, soon⟩ := mem_download member
    have soonTime : (seconds : ℚ) ≤ 41 := by exact_mod_cast soon
    rw [jumboFrame_time, jumboFrame_time, expiredUpdate]
    push_cast
    linarith
  chronological := by
    apply List.pairwise_cons.mpr
    constructor
    · intro later member _ _
      obtain ⟨seconds, rfl, positive, -⟩ :=
        mem_download (List.mem_cons_of_mem _ member)
      rw [jumboFrame_time, jumboFrame_time]
      exact_mod_cast positive
    · apply List.pairwise_map.mpr
      apply List.pairwise_lt_range.imp
      intro earlier later before _ _
      rw [jumboFrame_time, jumboFrame_time]
      have sameOrder : (earlier + 1) / 1000 ≤ (later + 1) / 1000 :=
        Nat.div_le_div_right (Nat.succ_le_succ (le_of_lt before))
      exact_mod_cast Nat.add_le_add_left sameOrder 1
  timed := by
    intro frame member _
    obtain ⟨seconds, rfl, positive, -⟩ := mem_download member
    have positiveTime : (1 : ℚ) ≤ seconds := by exact_mod_cast positive
    rw [jumboFrame_time]
    linarith

private theorem jumboFrame_length (seconds : Int) :
    (jumboFrame seconds).parsed.length = 65549 := by
  rw [jumboFrame_parsed]
  exact (by decide : (jumboFrame 0).parsed.length = 65549)

private theorem volumeOf_download :
    volumeOf (briefPairs (jumboFrame 1) downloadTail) = 33001 * 65549 := by
  have sameLength : ∀ pair ∈ briefPairs (jumboFrame 1) downloadTail,
      pair.packet.length = 65549 := by
    intro pair member
    obtain ⟨frame, frameMember, rfl⟩ := List.mem_map.mp member
    have inDownload : frame ∈ download := by
      rcases List.mem_cons.mp frameMember with rfl | inDownload
      · exact List.mem_cons_self
      · exact inDownload
    obtain ⟨seconds, rfl, -⟩ := mem_download inDownload
    exact jumboFrame_length seconds
  have number : (briefPairs (jumboFrame 1) downloadTail).length = 33001 := by
    rw [briefPairs, List.length_map, List.length_cons, List.length_cons,
      downloadTail, List.length_map, List.length_range]
  rw [volumeOf_of_length sameLength, number]
  norm_num

/-- Two gigabytes in 33 seconds are recorded in a flow that is still live;
their total is beyond the range. -/
theorem download_overflows :
    ¬ ∀ snapshot ∈ (run 10 download).flows,
      snapshot.contents.TotalsExact := by
  intro allExact
  have single : (run 10 download).SingleFlow (jumboFrame 1) downloadTail :=
    download_brief.singleFlow 10
  have created := single.created (tracked_run 10 download)
  have small := (volumesFit_iff 10 download).mp allExact 0
  rw [pairsOf_of_lt created, single.pairs, volumeOf_download] at small
  exact absurd small (by decide)

end Meter

end UzFlowMeter
