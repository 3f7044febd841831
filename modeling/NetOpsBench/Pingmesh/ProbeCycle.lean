import NetOpsBench.ClientAgent.Config
import NetOpsBench.Lib.BigEndian
import NetOpsBench.Lib.Binary64
import NetOpsBench.Lib.Fallible

/-!
# One probe cycle of the native agent

`run_probe_cycle` of `native/client-agent/src/pingmesh.rs` with the functions it calls.
A `Network` fixes what the kernel answers to every system call of a cycle, so a cycle is
a function of its network. Two fields of the state, `attempts` and `removed`, only
record what happened; no operation reads them but to number the next send.
-/

namespace NetOpsBench

open Fallible

/-! ## Constants and the probe header -/

def probeMagic : UInt32 := 0x4e4f4250

def probeVersion : UInt8 := 2

def headerSize : Nat := 24

def rttPayloadBytes : Nat := 64

def dfConfirmationProbes : Nat := 15

/-- The header over the first bytes of a payload; the rest of the payload is kept. -/
def encodeHeader (buffer : List UInt8) (sequence processingNs : UInt64) :
    Except String (List UInt8) := do
  reject (buffer.length < headerSize) "Pingmesh payload is smaller than the protocol header"
  pure (BigEndian.encode 4 probeMagic.toNat ++ [probeVersion, 0, 0, 0] ++
    BigEndian.encode 8 sequence.toNat ++ BigEndian.encode 8 processingNs.toNat ++ buffer.drop headerSize)

def decodeHeader (buffer : List UInt8) : Option (UInt64 × UInt64) :=
  if buffer.length < headerSize ∨ BigEndian.decode (buffer.take 4) ≠ probeMagic.toNat ∨
      buffer[4]? ≠ some probeVersion then none
  else
    some (UInt64.ofNat (BigEndian.decode ((buffer.drop 8).take 8)),
      UInt64.ofNat (BigEndian.decode ((buffer.drop 16).take 8)))

/-! ## The network -/

/-- The error codes that `send_probe` tells apart. -/
inductive Errno : Type where
  | emsgsize
  | eagain
  | enobufs
  | eperm
  | eacces
  | enetunreach
  | ehostunreach
  | econnrefused
  | eaddrnotavail
  | other (code : Nat)
  deriving DecidableEq, Repr

/-- `is_transient_local_send_error` -/
def Errno.isTransientLocalSendError : Errno → Bool
  | .eagain | .enobufs => true
  | _ => false

/-- `is_path_send_error` -/
def Errno.isPathSendError : Errno → Bool
  | .eperm | .eacces | .enetunreach | .ehostunreach | .econnrefused | .eaddrnotavail => true
  | _ => false

/-- A received datagram and its kernel timestamp. -/
structure Datagram : Type where
  bytes : List UInt8
  receivedNs : Option Nat
  deriving DecidableEq, Repr

structure Target : Type where
  client : AgentClient
  pathType : String
  deriving DecidableEq, Repr

/-- What the kernel answers in one cycle: to the send of each number from a socket to an
address, what each drain reads from each socket before it would block (an error
ends the read), what the sockets held before the cycle, how long the last wait
lasts, and the order in which the map of pending probes lists its values. -/
structure Network : Type where
  /-- The time after a successful send. -/
  sendTo : Nat → Nat → String → List UInt8 → Except Errno Nat
  receive : Nat → Nat → List (Except String Datagram)
  stale : Nat → List (Except String Datagram)
  waits : Nat
  order : List (Nat × Nat) → List (Nat × Nat)
  order_perm : ∀ items, (order items).Perm items

theorem order_id (items : List (Nat × Nat)) : (id items).Perm items := .refl _

/-- The arguments of a cycle. -/
structure CycleInput : Type where
  targets : List Target
  sockets : Nat
  dfPayloadSize : Nat
  sendQueue : List (ProbeKind × Nat × Nat)
  network : Network

/-! ## The state -/

structure Pending : Type where
  kind : ProbeKind
  targetIndex : Nat
  socketIndex : Nat
  sentNs : Nat
  /-- The number of the send, for the record. -/
  attempt : Nat
  deriving DecidableEq, Repr

structure ProbeStats : Type where
  sent : Nat := 0
  received : Nat := 0
  /-- The adjusted round-trip times. -/
  rttsNs : List Nat := []
  mtuDrops : Nat := 0
  invalidSent : Nat := 0
  localErrors : Nat := 0
  deriving DecidableEq, Repr

/-- What became of a call of `send_to`. -/
inductive SendOutcome : Type where
  | sent
  | oversize
  | transient
  | pathError
  deriving DecidableEq, Repr

structure Attempt : Type where
  kind : ProbeKind
  targetIndex : Nat
  socketIndex : Nat
  sequence : UInt64
  outcome : SendOutcome
  deriving DecidableEq, Repr

structure Cycle : Type where
  sequence : UInt64
  /-- `HashMap<u64, Pending>` -/
  pending : List (UInt64 × Pending)
  rttStats : List ProbeStats
  dfStats : List ProbeStats
  drains : Nat
  /-- Every send of the cycle, in order. -/
  attempts : List Attempt
  /-- Every item taken out of the pending map, with whether its reply counted. -/
  removed : List (Pending × Bool)
  deriving DecidableEq, Repr

namespace Cycle

def start (targets : Nat) (sequence : UInt64) : Cycle :=
  { sequence
    pending := []
    rttStats := List.replicate targets {}
    dfStats := List.replicate targets {}
    drains := 0
    attempts := []
    removed := [] }

def stats (cycle : Cycle) : ProbeKind → List ProbeStats
  | .rtt => cycle.rttStats
  | .df => cycle.dfStats

def statsAt (cycle : Cycle) (kind : ProbeKind) (target : Nat) : ProbeStats :=
  (cycle.stats kind).getD target {}

def modifyStats (cycle : Cycle) (kind : ProbeKind) (target : Nat) (f : ProbeStats → ProbeStats) :
    Cycle :=
  match kind with
  | .rtt => { cycle with rttStats := cycle.rttStats.modify target f }
  | .df => { cycle with dfStats := cycle.dfStats.modify target f }

/-- `pending.insert(sequence, item)` -/
def insertPending (cycle : Cycle) (sequence : UInt64) (item : Pending) : Cycle :=
  { cycle with pending := (sequence, item) :: cycle.pending.filter fun entry => entry.1 ≠ sequence }

/-- `pending.remove(&sequence)` and the record of it. -/
def removePending (cycle : Cycle) (sequence : UInt64) (item : Pending) (counted : Bool) : Cycle :=
  { cycle with
    pending := cycle.pending.filter fun entry => entry.1 ≠ sequence
    removed := cycle.removed ++ [(item, counted)] }

end Cycle

/-! ## Sending -/

/-- The end of `send_probe`: the sequence moves on, whatever the outcome. -/
def Cycle.finishSend (cycle : Cycle) (kind : ProbeKind) (target socket : Nat)
    (outcome : SendOutcome) : Cycle :=
  { cycle with
    sequence := cycle.sequence + 1
    attempts := cycle.attempts ++ [⟨kind, target, socket, cycle.sequence, outcome⟩] }

def payloadSize (dfPayloadSize : Nat) (kind : ProbeKind) : Nat :=
  max (match kind with
    | .rtt => rttPayloadBytes
    | .df => dfPayloadSize) headerSize

/-- The match of `send_probe` on the answer of `send_to`. -/
def Cycle.settleSend (cycle : Cycle) (kind : ProbeKind) (target socket : Nat) :
    Except Errno Nat → Except String Cycle
  | .ok sentNs =>
      let sent := cycle.modifyStats kind target fun stats => { stats with sent := stats.sent + 1 }
      let pending := sent.insertPending cycle.sequence
        { kind, targetIndex := target, socketIndex := socket, sentNs,
          attempt := cycle.attempts.length }
      pure (pending.finishSend kind target socket .sent)
  | .error code =>
      if code = .emsgsize then
        let refused := cycle.modifyStats kind target fun stats =>
          { stats with
            sent := stats.sent + 1
            mtuDrops := stats.mtuDrops + 1
            invalidSent := stats.invalidSent + 1
            localErrors := stats.localErrors + 1 }
        pure (refused.finishSend kind target socket .oversize)
      else if code.isTransientLocalSendError then
        let refused := cycle.modifyStats kind target fun stats =>
          { stats with localErrors := stats.localErrors + 1 }
        pure (refused.finishSend kind target socket .transient)
      else if code.isPathSendError then
        -- The missing reply records the loss.
        let lost := cycle.modifyStats kind target fun stats => { stats with sent := stats.sent + 1 }
        pure (lost.finishSend kind target socket .pathError)
      else throw "send Pingmesh probe"

/-- `send_probe` -/
def sendProbe (input : CycleInput) (kind : ProbeKind) (targetIndex socketIndex : Nat)
    (cycle : Cycle) : Except String Cycle :=
  match input.targets[targetIndex]? with
  | none => throw "index out of bounds"
  | some target => do
      reject (input.sockets ≤ socketIndex) "index out of bounds"
      let payload ← encodeHeader
        (List.replicate (payloadSize input.dfPayloadSize kind) 0) cycle.sequence 0
      cycle.settleSend kind targetIndex socketIndex
        (input.network.sendTo cycle.attempts.length socketIndex target.client.dataIp payload)

/-! ## Receiving -/

/-- `adjusted_rtt_ns`: both subtractions saturate. -/
def adjustedRttNs (sentNs receivedNs responderProcessingNs : Nat) : Nat :=
  receivedNs - sentNs - responderProcessingNs

/-- One turn of the receive loop of `drain_replies`. -/
def Cycle.receive (cycle : Cycle) (packet : Datagram) : Cycle :=
  match decodeHeader packet.bytes with
  | none => cycle
  | some (sequence, responderProcessingNs) =>
      match cycle.pending.lookup sequence with
      | none => cycle
      | some item =>
          match packet.receivedNs with
          | none =>
              (cycle.removePending sequence item false).modifyStats item.kind item.targetIndex
                fun stats =>
                  { stats with
                    invalidSent := stats.invalidSent + 1
                    localErrors := stats.localErrors + 1 }
          | some receivedNs =>
              (cycle.removePending sequence item true).modifyStats item.kind item.targetIndex
                fun stats =>
                  { stats with
                    received := stats.received + 1
                    rttsNs := stats.rttsNs ++
                      [adjustedRttNs item.sentNs receivedNs responderProcessingNs.toNat] }

def receiveAll (context : String) (cycle : Cycle) (packets : List (Except String Datagram)) :
    Except String Cycle :=
  packets.foldlM (fun cycle packet =>
    match packet with
    | .ok packet => pure (cycle.receive packet)
    | .error _ => throw context) cycle

/-- `drain_replies` -/
def drainReplies (input : CycleInput) (cycle : Cycle) : Except String Cycle :=
  (List.range input.sockets).foldlM (fun next socket =>
    receiveAll "receive Pingmesh reply" next (input.network.receive cycle.drains socket))
    { cycle with drains := cycle.drains + 1 }

/-- `drain_sockets`: what arrived before the cycle is read and dropped. -/
def drainSockets (input : CycleInput) : Except String Unit :=
  (List.range input.sockets).forM fun socket =>
    (input.network.stale socket).forM fun packet =>
      match packet with
      | .ok _ => pure ()
      | .error _ => throw "drain stale Pingmesh reply"

/-! ## The cycle -/

/-- `unanswered_df_targets` -/
def unansweredDfTargets (network : Network) (cycle : Cycle) : List (Nat × Nat) :=
  network.order ((cycle.pending.filter fun entry => entry.2.kind = .df).map fun entry =>
    (entry.2.targetIndex, entry.2.socketIndex))

/-- The first loop: the send queue, with a drain after every send. -/
def sendInitial (input : CycleInput) (cycle : Cycle) : Except String Cycle :=
  input.sendQueue.foldlM (fun cycle (kind, target, socket) => do
    let cycle ← sendProbe input kind target socket cycle
    drainReplies input cycle) cycle

/-- One confirmation round: every unanswered target once more, then a drain. -/
def confirmationRound (input : CycleInput) (unanswered : List (Nat × Nat)) (cycle : Cycle) :
    Except String Cycle := do
  let cycle ← unanswered.foldlM (fun cycle (target, socket) =>
    sendProbe input .df target socket cycle) cycle
  drainReplies input cycle

/-- The confirmation rounds; without an unanswered target there is none. -/
def confirmUnanswered (input : CycleInput) (unanswered : List (Nat × Nat)) (cycle : Cycle) :
    Except String Cycle :=
  if unanswered = [] then pure cycle
  else (List.range dfConfirmationProbes).foldlM
    (fun cycle _ => confirmationRound input unanswered cycle) cycle

/-- The last wait: drain until the deadline or until nothing is pending. -/
def awaitReplies (input : CycleInput) : Nat → Cycle → Except String Cycle
  | 0, cycle => pure cycle
  | waits + 1, cycle =>
      if cycle.pending = [] then pure cycle
      else do
        let cycle ← drainReplies input cycle
        awaitReplies input waits cycle

/-- The initial sends and both drains before the confirmation set is computed. -/
def initialPhase (input : CycleInput) (sequence : UInt64) : Except String Cycle := do
  drainSockets input
  let cycle ← sendInitial input (Cycle.start input.targets.length sequence)
  let cycle ← drainReplies input cycle
  drainReplies input cycle

/-- Everything after the confirmation set is known. -/
def confirmationPhase (input : CycleInput) (cycle : Cycle) : Except String Cycle := do
  let cycle ← confirmUnanswered input (unansweredDfTargets input.network cycle) cycle
  let cycle ← awaitReplies input input.network.waits cycle
  drainReplies input cycle

/-! ## The results -/

/-- The floating point statistics of round-trip times. -/
structure RttSummary : Type where
  min : Binary64
  avg : Binary64
  max : Binary64
  deriving DecidableEq, Repr

structure ProbeResult : Type where
  rtt : RttSummary
  packetsSent : Nat
  packetsLost : Nat
  rttPortsActive : Nat
  rttPortsTotal : Nat
  probeCycle : Nat
  destinationBatchIndex : Nat
  portBatchIndex : Nat
  dfPacketsSent : Nat
  dfPacketsLost : Nat
  dfMtuDrops : Nat
  localProbeErrors : Nat
  deriving DecidableEq, Repr

def validSent (stats : ProbeStats) : Nat := stats.sent - stats.invalidSent

/-- `build_result`, over the floating point arithmetic of the round-trip times. -/
def buildResult (summarize : List Nat → RttSummary) (rtt df : ProbeStats) (activePorts : Nat) :
    ProbeResult :=
  { rtt := summarize rtt.rttsNs
    packetsSent := validSent rtt
    packetsLost := validSent rtt - rtt.received
    rttPortsActive := activePorts
    rttPortsTotal := activePorts
    probeCycle := 0
    destinationBatchIndex := 0
    portBatchIndex := 0
    dfPacketsSent := validSent df
    dfPacketsLost := validSent df - df.received
    dfMtuDrops := df.mtuDrops
    localProbeErrors := rtt.localErrors + df.localErrors }

/-- The final state of a cycle. -/
def probeCycle (input : CycleInput) (sequence : UInt64) : Except String Cycle := do
  let cycle ← initialPhase input sequence
  confirmationPhase input cycle

def Cycle.results (summarize : List Nat → RttSummary) (input : CycleInput) (cycle : Cycle) :
    List ProbeResult :=
  (List.range input.targets.length).map fun index =>
    buildResult summarize (cycle.statsAt .rtt index) (cycle.statsAt .df index) input.sockets

/-- `run_probe_cycle`: the results and the sequence number that the next cycle starts from. -/
def runProbeCycle (summarize : List Nat → RttSummary) (input : CycleInput) (sequence : UInt64) :
    Except String (List ProbeResult × UInt64) := do
  let cycle ← probeCycle input sequence
  pure (cycle.results summarize input, cycle.sequence)

end NetOpsBench
