import UzFlowMeter.FlowBlocks
import UzFlowMeter.FlowSession

/-!
# The process with its blocks

The process with every block that outlives the function that allocates it:
the session and its array, the keys and the flows of the entries, the copies
of the keys that a collection works on, and the arrays of gaps that an export
computes.  A run has no result if it frees a block that is not allocated, or
reads or writes a flow that was freed.  Blocks that nothing points to any
more are collected under the reason why.
-/

namespace UzFlowMeter

open Allocating

/-- Why nobody frees a block: it is a copy of a key behind the final number
of flows, an array of times whose pointer was overwritten, or an array of
gaps that `get_data` drops. -/
inductive Leak where
  | key
  | times (flow : FlowPtr) (array : TimeArray)
  | packetIat (flow : FlowPtr) (side : PacketDirection)
  deriving DecidableEq, Repr

/-- What the flow has lost, with the reasons. -/
def FlowBlocks.leaked (blocks : FlowBlocks) (flow : FlowPtr) :
    List (Leak × Block) :=
  blocks.lost.map fun (array, block) => (.times flow array, block)

/-- The state of the process with its blocks. -/
structure Custody where
  meter : Meter
  heap : BlockHeap
  session : Block
  flowsArray : Block
  keys : FlowPtr → Option Block
  flows : FlowPtr → Option FlowBlocks
  lost : List (Leak × Block)

namespace Custody

def perform {alpha : Type} (custody : Custody) (action : Allocating alpha) :
    Option (alpha × Custody) :=
  (action custody.heap).map fun (result, heap) =>
    (result, { custody with heap := heap })

/-- `init_flow_session`. -/
def initFlowSession (initialCapacity : Nat) : Option Custody :=
  (malloc {}).bind fun (session, heap) =>
    (malloc heap).map fun (flowsArray, heap) =>
      { meter := Meter.initial initialCapacity
        heap := heap
        session := session
        flowsArray := flowsArray
        keys := fun _ => none
        flows := fun _ => none
        lost := [] }

def countPacket (custody : Custody) : Custody :=
  { custody with meter := custody.meter.countPacket }

/-- What is read of a flow, which has to be allocated for that. -/
def read (custody : Custody) (flow : FlowPtr) (value : Flow → ℚ) :
    Option ℚ :=
  (custody.flows flow).map fun _ => value (custody.meter.heap flow)

def withNewFlow (custody : Custody) (packett : Packet) (self : Block) :
    Custody :=
  { custody with
    meter := (custody.meter.allocateFlow packett).1
    flows := Function.update custody.flows custody.meter.nextFlow
      (some { self := self }) }

/-- `malloc` and `memset` of a new flow. -/
def allocateFlow (custody : Custody) (packett : Packet) :
    Option (Custody × FlowPtr) :=
  (custody.perform malloc).map fun (self, custody) =>
    (custody.withNewFlow packett self, custody.meter.nextFlow)

def withPacket (custody : Custody) (flow : FlowPtr) (packet : Packet)
    (direction : PacketDirection) (blocks : FlowBlocks) : Custody :=
  { custody with
    meter := custody.meter.addPacketToFlow flow packet direction
    flows := Function.update custody.flows flow (some blocks) }

/-- `add_packet_to_flow`. -/
def addPacketToFlow (custody : Custody) (flow : FlowPtr) (packet : Packet)
    (direction : PacketDirection) : Option Custody :=
  (custody.flows flow).bind fun blocks =>
    (custody.perform (blocks.addPacketToFlow (custody.meter.heap flow) packet
      direction)).map fun (blocks, custody) =>
        custody.withPacket flow packet direction blocks

def growFlows (custody : Custody) : Allocating Block :=
  if custody.meter.session.flowCount =
      custody.meter.session.flows.capacity then
    realloc (some custody.flowsArray)
  else return custody.flowsArray

def withEntry (custody : Custody) (flowKey : CString) (flow : FlowPtr)
    (count : Nat) (flowsArray key : Block) : Custody :=
  { custody with
    meter := custody.meter.addFlow flowKey flow count
    flowsArray := flowsArray
    keys := Function.update custody.keys flow (some key) }

/-- `add_flow` with the `strdup` of the key. -/
def addFlow (custody : Custody) (flowKey : CString) (flow : FlowPtr)
    (count : Nat) : Option Custody :=
  (custody.perform custody.growFlows).bind fun (flowsArray, custody) =>
    (custody.perform malloc).map fun (key, custody) =>
      custody.withEntry flowKey flow count flowsArray key

/-- The entry no longer leads anywhere, and what its flow has lost nobody
knows. -/
def dropEntry (custody : Custody) (flow : FlowPtr) (blocks : FlowBlocks) :
    Custody :=
  { custody with
    keys := Function.update custody.keys flow none
    flows := Function.update custody.flows flow none
    lost := custody.lost ++ blocks.leaked flow }

/-- The key of an entry is freed and then its flow. -/
def freeEntry (custody : Custody) (flow : FlowPtr) : Option Custody :=
  (custody.keys flow).bind fun key =>
    (custody.flows flow).bind fun blocks =>
      (custody.perform (do free key; blocks.freeFlow)).map
        fun (_, custody) => custody.dropEntry flow blocks

/-- `delete_flow_by_key`. -/
def deleteFlowByKey (custody : Custody) (key : CString) : Option Custody :=
  match getFlowByItsKey custody.meter.session key with
  | none => some custody
  | some flow =>
      (custody.freeEntry flow).map fun custody =>
        { custody with meter := custody.meter.deleteFlowByKey key }

/-- The flow is exported and the arrays of gaps are left behind. -/
def dropGaps (custody : Custody) (flow : FlowPtr)
    (forward backward : Option Block) : Custody :=
  { custody with
    meter := custody.meter.getData flow
    lost := custody.lost ++
      ((forward.toList.map fun block => (.packetIat flow .forward, block)) ++
        backward.toList.map fun block =>
          (.packetIat flow .reverse, block)) }

/-- `get_data`: nobody frees the two arrays of `get_packet_iat`. -/
def getData (custody : Custody) (flow : FlowPtr) : Option Custody :=
  (custody.flows flow).bind fun _ =>
    let gaps := FlowBlocks.getPacketIat (custody.meter.heap flow)
    (custody.perform (gaps .forward)).bind fun (forward, custody) =>
      (custody.perform (gaps .reverse)).map fun (backward, custody) =>
        custody.dropGaps flow forward backward

/-- The list of `get_flow_keys` and the copies in it. -/
def getFlowKeys (custody : Custody) : Allocating (Block × List Block) := do
  let keys ← malloc
  let copies ← mallocs custody.meter.session.flowCount
  return (keys, copies)

/-- The copies behind the number of flows are left behind. -/
def dropKeys (custody : Custody) (copies : List Block) : Custody :=
  { custody with lost := custody.lost ++ copies.map fun copy => (.key, copy) }

/-- `garbage_collect` frees its list at the end, and the copies up to the
number of flows that are left. -/
def freeKeys (custody : Custody) (keys : Block) (copies : List Block) :
    Option Custody :=
  let flowCount := custody.meter.session.flowCount
  (custody.perform (do freeAll (copies.take flowCount); free keys)).map
    fun (_, custody) => custody.dropKeys (copies.drop flowCount)

def process : Process Option Custody (Block × List Block) where
  session custody := custody.meter.session
  countPacket := countPacket
  latestTimestamp custody flow := custody.read flow Flow.latestTimestamp
  getDuration custody flow := custody.read flow getDuration
  allocateFlow := allocateFlow
  addPacketToFlow := addPacketToFlow
  addFlow := addFlow
  getData := getData
  deleteFlowByKey := deleteFlowByKey
  beginCollection custody :=
    (custody.perform custody.getFlowKeys).map fun (copies, custody) =>
      ({ custody with meter := custody.meter.announce }, copies)
  endCollection custody copies := custody.freeKeys copies.1 copies.2

/-- `free_flow_session`. -/
def freeFlowSession (custody : Custody) : Option Custody :=
  (custody.meter.session.entries.foldlM
    (fun (custody : Custody) entry => custody.freeEntry entry.flow)
    custody).bind fun custody =>
      (custody.perform (do free custody.flowsArray; free custody.session)).map
        Prod.snd

/-- `main`, when `pcap_loop` returns after the given frames. -/
def main (frames : List Frame) : Option Custody :=
  (initFlowSession 10).bind fun custody =>
    (frames.foldlM process.packetHandler custody).bind freeFlowSession

end Custody

end UzFlowMeter
