import Mathlib.Algebra.Order.Floor.Semifield
import NetOpsBench.ClientAgent.Pacing

/-!
# The bandwidth of a flow

A flow whose ticks come every 100 ms and whose sends succeed in full. A TCP flow draws its payloads
in writes of at most 64 KiB, so that what it draws are whole strides: payloads where a write holds
only whole payloads, buffers where a payload is larger than the buffer. The bucket keeps up with
the bandwidth if and only if one payload and one tick of the bandwidth exceed the burst by at most
what the bandwidth and the stride have in common (`bandwidth_sustained`).
-/

namespace NetOpsBench

open Fallible TokenBucket

/-! ## Sends that succeed in full -/

/-- A loop whose writes are taken in full. -/
inductive Drains (payloadBytes : Nat) (write : Rat → Nat) : Rat → List SendAnswer × Rat → Prop where
  | short {tokens : Rat} : tokens < payloadBytes → Drains payloadBytes write tokens ([], tokens)
  | send {tokens : Rat} {paced : List SendAnswer × Rat} : (payloadBytes : Rat) ≤ tokens →
    Drains payloadBytes write (tokens - write tokens) paced →
    Drains payloadBytes write tokens (.sent (write tokens) :: paced.1, paced.2)

/-- Every attempt takes all that it is offered. -/
def inFull : Nat → SendAnswer := fun _ => .sent maxTcpWriteBytes

theorem inFull_eq (attempt : Nat) : inFull attempt = .sent maxTcpWriteBytes := rfl

section Loops

variable {bufferBytes payloadBytes fuel attempt : Nat} {tokens : Rat}
  {paced : List SendAnswer × Rat}

theorem udpSends_drains (inBounds : payloadBytes ≤ bufferBytes)
    (done : udpSends bufferBytes payloadBytes inFull fuel attempt tokens = .ok paced) :
    Drains payloadBytes (fun _ => payloadBytes) tokens paced := by
  induction fuel generalizing attempt tokens paced with
  | zero => cases done
  | succ fuel ih =>
      by_cases enough : (payloadBytes : Rat) ≤ tokens
      · rw [udpSends_sent enough inBounds (inFull_eq attempt)] at done
        cases rest : udpSends bufferBytes payloadBytes inFull fuel (attempt + 1)
            (tokens - payloadBytes) with
        | error fault =>
            rw [rest] at done
            cases done
        | ok paced' =>
            rw [rest] at done
            obtain rfl := Except.ok.inj done
            exact .send enough (ih rest)
      · rw [udpSends_short enough] at done
        obtain rfl := Except.ok.inj done
        exact .short (not_le.mp enough)

/-- The saturating arithmetic of the source does not show. -/
theorem tcpWriteBytes_eq (positive : 0 < payloadBytes) (tokens : Rat) :
    tcpWriteBytes payloadBytes tokens =
      min (⌊tokens / payloadBytes⌋₊ * payloadBytes) maxTcpWriteBytes := by
  unfold tcpWriteBytes
  dsimp only
  have large : maxTcpWriteBytes ≤ usizeMax := by decide
  rcases Nat.le_total ⌊tokens / payloadBytes⌋₊ usizeMax with low | high
  · rw [min_eq_left low, min_assoc, min_eq_right large]
  · have product : usizeMax ≤ usizeMax * payloadBytes := Nat.le_mul_of_pos_right _ positive
    have product' : maxTcpWriteBytes ≤ ⌊tokens / payloadBytes⌋₊ * payloadBytes :=
      large.trans (product.trans (Nat.mul_le_mul_right _ high))
    rw [min_eq_right high, min_eq_right product, min_eq_right large, min_eq_right product']

theorem tcpWriteBytes_pos (positive : 0 < payloadBytes)
    (enough : (payloadBytes : Rat) ≤ tokens) : 0 < tcpWriteBytes payloadBytes tokens := by
  rw [tcpWriteBytes_eq positive]
  have one : 1 ≤ ⌊tokens / payloadBytes⌋₊ := by
    apply Nat.le_floor
    rw [Nat.cast_one, one_le_div (Nat.cast_pos.mpr positive)]
    exact enough
  exact lt_min (Nat.mul_pos one positive) (by decide)

theorem tcpWrites_drains (positive : 0 < payloadBytes) (inBounds : maxTcpWriteBytes ≤ bufferBytes)
    (done : tcpWrites bufferBytes payloadBytes inFull fuel attempt tokens = .ok paced) :
    Drains payloadBytes (tcpWriteBytes payloadBytes) tokens paced := by
  induction fuel generalizing attempt tokens paced with
  | zero => cases done
  | succ fuel ih =>
      by_cases enough : (payloadBytes : Rat) ≤ tokens
      · have whole : min maxTcpWriteBytes (tcpWriteBytes payloadBytes tokens) =
            tcpWriteBytes payloadBytes tokens := min_eq_right (tcpWriteBytes_le _ _)
        have some_ : min maxTcpWriteBytes (tcpWriteBytes payloadBytes tokens) ≠ 0 := by
          rw [whole]
          exact (tcpWriteBytes_pos positive enough).ne'
        rw [tcpWrites_sent enough inBounds (inFull_eq attempt) some_, whole] at done
        cases rest : tcpWrites bufferBytes payloadBytes inFull fuel (attempt + 1)
            (tokens - tcpWriteBytes payloadBytes tokens) with
        | error fault =>
            rw [rest] at done
            cases done
        | ok paced' =>
            rw [rest] at done
            obtain rfl := Except.ok.inj done
            exact .send enough (ih rest)
      · rw [tcpWrites_short enough] at done
        obtain rfl := Except.ok.inj done
        exact .short (not_le.mp enough)

end Loops

namespace Drains

variable {payloadBytes stride : Nat} {write : Rat → Nat} {tokens bound : Rat}
  {paced : List SendAnswer × Rat}

theorem left_lt (drains : Drains payloadBytes write tokens paced) : paced.2 < payloadBytes := by
  induction drains with
  | short short => exact short
  | send _ _ ih => exact ih

theorem idle (drains : Drains payloadBytes write tokens paced) (short : tokens < payloadBytes) :
    paced.1 = [] := by
  cases drains with
  | short _ => rfl
  | send enough _ => exact absurd short (not_lt.mpr enough)

/-- Every send takes something. -/
theorem positive (drains : Drains payloadBytes write tokens paced)
    (some_ : ∀ tokens, (payloadBytes : Rat) ≤ tokens → write tokens ≠ 0) :
    ∀ answer ∈ paced.1, ∃ bytes, answer = .sent bytes ∧ bytes ≠ 0 := by
  induction drains with
  | short _ => exact nofun
  | send enough _ ih =>
      intro answer mem
      rcases List.mem_cons.mp mem with rfl | mem
      · exact ⟨_, rfl, some_ _ enough⟩
      · exact ih answer mem

theorem whole (drains : Drains payloadBytes write tokens paced) (room : tokens ≤ bound)
    (strides : ∀ tokens, (payloadBytes : Rat) ≤ tokens → tokens ≤ bound → stride ∣ write tokens) :
    stride ∣ sentBytes paced.1 := by
  induction drains with
  | short _ => exact Nat.dvd_zero _
  | send enough _ ih =>
      have later := ih ((sub_le_self _ (Nat.cast_nonneg _)).trans room)
      exact Nat.dvd_add (strides _ enough room) later

/-- The last send leaves less than one payload, but not by more than a stride. -/
theorem window (drains : Drains payloadBytes write tokens paced) (room : tokens ≤ bound)
    (near : ∀ tokens, (payloadBytes : Rat) ≤ tokens → tokens ≤ bound →
      (payloadBytes : Rat) - stride ≤ tokens - write tokens)
    (enough : (payloadBytes : Rat) ≤ tokens) : (payloadBytes : Rat) - stride ≤ paced.2 := by
  induction drains with
  | short short => exact absurd short (not_lt.mpr enough)
  | @send tokens paced _ rest ih =>
      by_cases again : (payloadBytes : Rat) ≤ tokens - write tokens
      · exact ih ((sub_le_self _ (Nat.cast_nonneg _)).trans room) again
      · cases rest with
        | short _ => exact near tokens enough room
        | send more _ => exact absurd more again

end Drains

/-! ## The strides of a flow -/

namespace FlowPlan

/-- The `payload_bytes` of a scheduled flow -/
def payload (plan : FlowPlan) : Nat := max plan.payloadBytes.toNat 1

theorem payload_pos (plan : FlowPlan) : 0 < plan.payload :=
  Nat.lt_of_lt_of_le Nat.one_pos (le_max_right _ _)

/-- A full bucket of the flow takes several writes, which do not hold whole payloads. -/
def Splits (plan : FlowPlan) : Prop :=
  plan.protocol = .tcp ∧ plan.payload ≤ maxTcpWriteBytes ∧ ¬ plan.payload ∣ maxTcpWriteBytes ∧
    maxTcpWriteBytes < max (plan.bandwidthBps.toNat / (64 * plan.payload)) 1 * plan.payload

instance (plan : FlowPlan) : Decidable plan.Splits := inferInstanceAs (Decidable (_ ∧ _))

/-- What a flow draws in a tick is a multiple of its stride. -/
def stride (plan : FlowPlan) : Nat :=
  if plan.protocol = .udp then plan.payload
  else if maxTcpWriteBytes < plan.payload then maxTcpWriteBytes
  else if plan.Splits then Nat.gcd plan.payload maxTcpWriteBytes
  else plan.payload

/-- One payload and one tick of the bandwidth exceed the burst by at most what the bandwidth and the
stride have in common; in units of 1/320 byte. -/
def Fits (plan : FlowPlan) : Prop :=
  320 * plan.payload + 4 * plan.bandwidthBps.toNat ≤
    max (5 * plan.bandwidthBps.toNat) (320 * plan.payload) +
      4 * Nat.gcd plan.bandwidthBps.toNat (80 * plan.stride)

instance (plan : FlowPlan) : Decidable plan.Fits := inferInstanceAs (Decidable (_ ≤ _))

variable {plan : FlowPlan} {tokens : Rat}

/-- The bytes that each kind of flow offers when it holds so many tokens. -/
def write (plan : FlowPlan) (tokens : Rat) : Nat :=
  match plan.protocol with
  | .udp => plan.payload
  | .tcp => tcpWriteBytes plan.payload tokens

def burst (plan : FlowPlan) : Rat := burstBytes (plan.bandwidthBps.toNat / 8) plan.payload

theorem burst_eq (plan : FlowPlan) :
    plan.burst = max ((plan.bandwidthBps.toNat : Rat) / 64) plan.payload := by
  unfold burst burstBytes asSecs trafficSchedulerTick
  congr 1
  push_cast
  ring

theorem stride_pos (plan : FlowPlan) : 0 < plan.stride := by
  unfold stride
  split
  · exact plan.payload_pos
  · split
    · decide
    · split
      · exact Nat.gcd_pos_of_pos_left _ plan.payload_pos
      · exact plan.payload_pos

/-- The whole payloads of a bucket are at most those of a full one. -/
theorem floor_le (room : tokens ≤ plan.burst) :
    ⌊tokens / plan.payload⌋₊ ≤ max (plan.bandwidthBps.toNat / (64 * plan.payload)) 1 := by
  have positive : (0 : Rat) < plan.payload := Nat.cast_pos.mpr plan.payload_pos
  have most : tokens / plan.payload ≤
      max ((plan.bandwidthBps.toNat : Rat) / ((64 * plan.payload : Nat) : Rat)) 1 := by
    rw [burst_eq] at room
    rw [div_le_iff₀ positive, max_mul_of_nonneg _ _ positive.le, one_mul]
    refine room.trans (max_le_max (le_of_eq ?_) le_rfl)
    push_cast
    field_simp
  refine (Nat.floor_mono most).trans ?_
  rw [← Nat.floor_div_eq_div (K := Rat)]
  rcases max_choice ((plan.bandwidthBps.toNat : Rat) / ((64 * plan.payload : Nat) : Rat)) 1 with
    rate | one
  · rw [rate]
    exact le_max_left _ _
  · rw [one, Nat.floor_one]
    exact le_max_right _ _

theorem write_pos (enough : (plan.payload : Rat) ≤ tokens) : plan.write tokens ≠ 0 := by
  unfold write
  cases plan.protocol with
  | udp => exact plan.payload_pos.ne'
  | tcp => exact (tcpWriteBytes_pos plan.payload_pos enough).ne'

theorem write_le (enough : (plan.payload : Rat) ≤ tokens) : (plan.write tokens : Rat) ≤ tokens := by
  unfold write
  cases plan.protocol with
  | udp => exact enough
  | tcp =>
      exact tcpWriteBytes_le_tokens plan.payload_pos ((Nat.cast_nonneg _).trans enough)

/-- A write of a TCP flow whose payloads fit the buffer is of whole payloads, unless a full bucket
is split. -/
theorem payload_dvd_write (small : plan.payload ≤ maxTcpWriteBytes) (spared : ¬ plan.Splits)
    (isTcp : plan.protocol = .tcp) (room : tokens ≤ plan.burst) :
    plan.payload ∣ tcpWriteBytes plan.payload tokens := by
  rw [tcpWriteBytes_eq plan.payload_pos]
  by_cases divides : plan.payload ∣ maxTcpWriteBytes
  · rcases min_choice (⌊tokens / plan.payload⌋₊ * plan.payload) maxTcpWriteBytes with low | high
    · rw [low]
      exact Nat.dvd_mul_left _ _
    · rw [high]
      exact divides
  · have most : max (plan.bandwidthBps.toNat / (64 * plan.payload)) 1 * plan.payload ≤
        maxTcpWriteBytes :=
      not_lt.mp fun over_ => spared ⟨isTcp, small, divides, over_⟩
    rw [min_eq_left ((Nat.mul_le_mul_right _ (floor_le room)).trans most)]
    exact Nat.dvd_mul_left _ _

theorem tcpWriteBytes_large (large : maxTcpWriteBytes < plan.payload)
    (enough : (plan.payload : Rat) ≤ tokens) :
    tcpWriteBytes plan.payload tokens = maxTcpWriteBytes := by
  have one : 1 ≤ ⌊tokens / plan.payload⌋₊ := by
    apply Nat.le_floor
    rw [Nat.cast_one, one_le_div (Nat.cast_pos.mpr plan.payload_pos)]
    exact enough
  rw [tcpWriteBytes_eq plan.payload_pos]
  exact min_eq_right (large.le.trans (Nat.le_mul_of_pos_left _ one))

theorem stride_dvd_write (enough : (plan.payload : Rat) ≤ tokens) (room : tokens ≤ plan.burst) :
    plan.stride ∣ plan.write tokens := by
  unfold stride write
  cases protocol : plan.protocol with
  | udp => exact dvd_rfl
  | tcp =>
      dsimp only
      rw [if_neg (by decide)]
      by_cases large : maxTcpWriteBytes < plan.payload
      · rw [if_pos large, tcpWriteBytes_large large enough]
      · rw [if_neg large]
        by_cases splits : plan.Splits
        · rw [if_pos splits, tcpWriteBytes_eq plan.payload_pos]
          rcases min_choice (⌊tokens / plan.payload⌋₊ * plan.payload) maxTcpWriteBytes with
            low | high
          · rw [low]
            exact (Nat.gcd_dvd_left _ _).mul_left _
          · rw [high]
            exact Nat.gcd_dvd_right _ _
        · rw [if_neg splits]
          exact payload_dvd_write (not_lt.mp large) splits protocol room

theorem sub_stride_le (spared : ¬ plan.Splits) (enough : (plan.payload : Rat) ≤ tokens) :
    (plan.payload : Rat) - plan.stride ≤ tokens - plan.write tokens := by
  unfold stride
  by_cases isUdp : plan.protocol = .udp
  · rw [if_pos isUdp, sub_self]
    exact sub_nonneg.mpr (write_le enough)
  · rw [if_neg isUdp]
    by_cases large : maxTcpWriteBytes < plan.payload
    · have isTcp : plan.protocol = .tcp := by
        cases protocol : plan.protocol with
        | udp => exact absurd protocol isUdp
        | tcp => rfl
      have offered : plan.write tokens = maxTcpWriteBytes := by
        unfold write
        rw [isTcp]
        exact tcpWriteBytes_large large enough
      rw [if_pos large, offered]
      exact sub_le_sub_right enough _
    · rw [if_neg large, if_neg spared, sub_self]
      exact sub_nonneg.mpr (write_le enough)

end FlowPlan

/-! ## Ticks on time -/

namespace PacedFlow

/-- The flow has its socket or its stream. -/
def Open (flow : PacedFlow) : Prop :=
  (∃ transport, flow.transport = .udp transport ∧ transport.socket = true ∧
      flow.plan.protocol = .udp) ∨
    ∃ transport, flow.transport = .tcp transport ∧ transport.stream = true ∧
      flow.plan.protocol = .tcp

/-- The next tick of a flow that is on time, with sends that succeed in full. -/
def onTimeTick (flow : PacedFlow) : PacedTick :=
  { now := flow.previous + trafficSchedulerTick, answers := inFull }

/-- So many ticks on time: the flow afterwards, and the bytes that were sent. -/
def onTime (reconnectDelayFor : String → Nat → Nat) (fuel index : Nat) (flow : PacedFlow) :
    Nat → Except PacingFault (PacedFlow × Nat)
  | 0 => .ok (flow, 0)
  | n + 1 => do
      let before ← onTime reconnectDelayFor fuel index flow n
      let one ← before.1.service reconnectDelayFor fuel index before.1.onTimeTick
      pure (one.flow, before.2 + sentBytes one.sends)

variable {reconnectDelayFor : String → Nat → Nat} {flow : PacedFlow}

section Transport

variable {now index : Nat} {script : FlowScript} {plan : FlowPlan}

theorem setupUdp_open {transport : UdpTransport} (socket : transport.socket = true) :
    setupUdp reconnectDelayFor now index script plan transport = (transport, []) :=
  if_neg fun both => both.1 socket

theorem serviceUdp_open {transport : UdpTransport} (socket : transport.socket = true) :
    (serviceUdp reconnectDelayFor now index script plan transport).1 = transport := by
  unfold serviceUdp
  rw [setupUdp_open socket]
  exact congrArg Prod.fst (if_pos socket)

theorem finishConnect_none {transport : TcpTransport} (none : script.connected = none) :
    finishConnect reconnectDelayFor now index script plan transport = (transport, []) := by
  unfold finishConnect
  rw [none, ite_self]

/-- A stream that takes something at each write stays connected. -/
theorem writeTcp_connected {payloadBytes : Nat} {sends : List SendAnswer}
    (positive : ∀ answer ∈ sends, ∃ bytes, answer = .sent bytes ∧ bytes ≠ 0) :
    (writeTcp payloadBytes sends).2 = none := by
  induction sends with
  | nil => rfl
  | cons answer sends ih =>
      obtain ⟨bytes, rfl, some_⟩ := positive answer (List.mem_cons_self ..)
      rw [writeTcp, if_neg some_]
      exact ih fun answer mem => positive answer (List.mem_cons_of_mem _ mem)

theorem serviceTcp_open {transport : TcpTransport} (stream : transport.stream = true)
    (none : script.connected = none)
    (positive : ∀ answer ∈ script.sends, ∃ bytes, answer = .sent bytes ∧ bytes ≠ 0) :
    (serviceTcp reconnectDelayFor now index script plan transport).1.stream = true := by
  unfold serviceTcp
  rw [finishConnect_none none]
  unfold driveTcp
  dsimp only
  rw [if_pos stream, writeTcp_connected positive]
  exact stream

end Transport

theorem Open.serving (isOpen : flow.Open) (index : Nat) :
    flow.serving reconnectDelayFor index flow.onTimeTick = true := by
  unfold PacedFlow.serving
  rcases isOpen with ⟨transport, isUdp, socket, -⟩ | ⟨transport, isTcp, stream, -⟩
  · rw [isUdp]
    dsimp only
    rw [setupUdp_open socket]
    exact socket
  · rw [isTcp]
    dsimp only
    rw [finishConnect_none rfl]
    exact stream

/-- A flow whose sends succeed stays open. -/
theorem Open.settle (isOpen : flow.Open) (index : Nat) (tokens : Rat)
    {paced : List SendAnswer × Rat}
    (positive : ∀ answer ∈ paced.1, ∃ bytes, answer = .sent bytes ∧ bytes ≠ 0) :
    (flow.settle reconnectDelayFor index flow.onTimeTick tokens paced).flow.Open := by
  rcases isOpen with ⟨transport, isUdp, socket, protocol⟩ | ⟨transport, isTcp, stream, protocol⟩
  · refine .inl ⟨transport, ?_, socket, protocol⟩
    unfold PacedFlow.settle serviceFlow
    rw [isUdp]
    exact congrArg ScheduledTransport.udp (serviceUdp_open socket)
  · refine .inr ⟨(serviceTcp reconnectDelayFor flow.onTimeTick.now index
      { created := flow.onTimeTick.created, connected := flow.onTimeTick.connected,
        sends := paced.1 } flow.plan transport).1, ?_, serviceTcp_open stream rfl positive, protocol⟩
    unfold PacedFlow.settle serviceFlow
    rw [isTcp]

/-- A flow that has been opened. -/
structure Ready (flow : PacedFlow) : Prop extends flow.Sound where
  isOpen : flow.Open
  payload : flow.payloadBytes = flow.plan.payload

theorem Ready.burst (ready : flow.Ready) : flow.burst = flow.plan.burst := by
  unfold PacedFlow.burst
  rw [ready.payload]
  rfl

/-- The loop of a flow that is open, with sends that succeed in full. -/
theorem Ready.offer_drains (ready : flow.Ready) {fuel : Nat} {tokens : Rat}
    {paced : List SendAnswer × Rat} (done : flow.offer fuel inFull tokens = .ok paced) :
    Drains flow.plan.payload flow.plan.write tokens paced := by
  unfold offer at done
  rw [← ready.payload]
  rcases ready.isOpen with ⟨transport, isUdp, -, protocol⟩ | ⟨transport, isTcp, -, protocol⟩
  · rw [isUdp] at done
    have drains := udpSends_drains (ready.udpBuffer transport isUdp).ge done
    have write : flow.plan.write = fun _ => flow.payloadBytes := by
      funext tokens
      rw [FlowPlan.write, protocol, ready.payload]
    rw [write]
    exact drains
  · rw [isTcp] at done
    have drains := tcpWrites_drains ready.positive (ready.tcpBuffer transport isTcp).ge done
    have write : flow.plan.write = tcpWriteBytes flow.payloadBytes := by
      funext tokens
      rw [FlowPlan.write, protocol, ready.payload]
    rw [write]
    exact drains

/-- What a tick on time leaves. -/
structure ServicedOnTime (flow : PacedFlow) (one : ServicedTick) : Prop where
  level : one.level = refill flow.plan.burst ((flow.plan.bandwidthBps.toNat : Rat) / 80) flow.tokens
  left : one.flow.tokens = one.level - sentBytes one.sends
  drains : Drains flow.plan.payload flow.plan.write one.level (one.sends, one.flow.tokens)
  plan : one.flow.plan = flow.plan
  ready : one.flow.Ready

theorem Ready.service (ready : flow.Ready) (reconnectDelayFor : String → Nat → Nat) (index : Nat) :
    ∃ one, flow.ServicedOnTime one ∧ ∀ fuel, ⌊flow.burst⌋₊ < fuel →
      flow.service reconnectDelayFor fuel index flow.onTimeTick = .ok one := by
  obtain ⟨one, serviced, ends⟩ :=
    service_ends reconnectDelayFor ready.toSound index flow.onTimeTick
  refine ⟨one, ?_, ends⟩
  have done := ends (⌊flow.burst⌋₊ + 1) (Nat.lt_succ_self _)
  rw [service_eq, sends, if_pos (ready.isOpen.serving index)] at done
  cases offered : flow.offer (⌊flow.burst⌋₊ + 1) flow.onTimeTick.answers
      (refill flow.burst (flow.bytesPerSecond * asSecs (flow.onTimeTick.now - flow.previous))
        flow.tokens) with
  | error fault =>
      rw [offered] at done
      cases done
  | ok paced =>
      rw [offered] at done
      obtain rfl := Except.ok.inj done
      have drains := ready.offer_drains offered
      refine ⟨?_, serviced.draws.left, drains, rfl, ⟨serviced.sound, ?_, ready.payload⟩⟩
      · refine serviced.level.trans ?_
        rw [ready.burst]
        congr 1
        unfold onTimeTick bytesPerSecond asSecs trafficSchedulerTick
        dsimp only
        rw [Nat.add_sub_cancel_left]
        push_cast
        ring
      · exact ready.isOpen.settle index _ (drains.positive fun _ enough => FlowPlan.write_pos enough)

theorem onTime_ends (reconnectDelayFor : String → Nat → Nat) (ready : flow.Ready) (index n : Nat) :
    ∃ last sent, last.Ready ∧ last.plan = flow.plan ∧ ∀ fuel, ⌊flow.burst⌋₊ < fuel →
      flow.onTime reconnectDelayFor fuel index n = .ok (last, sent) := by
  induction n with
  | zero => exact ⟨flow, 0, ready, rfl, fun _ _ => rfl⟩
  | succ n ih =>
      obtain ⟨last, sent, isReady, plan, ends⟩ := ih
      obtain ⟨one, serviced, ends'⟩ := isReady.service reconnectDelayFor index
      refine ⟨one.flow, sent + sentBytes one.sends, serviced.ready, serviced.plan.trans plan, ?_⟩
      intro fuel more
      have more' : ⌊last.burst⌋₊ < fuel := by
        rw [isReady.burst, plan, ← ready.burst]
        exact more
      rw [onTime, ends fuel more, ok_bind, ends' fuel more']
      rfl

/-- The flow after each number of ticks on time, the bytes that were sent, and the ticks. -/
theorem onTime_sequence (reconnectDelayFor : String → Nat → Nat) (ready : flow.Ready)
    (index : Nat) :
    ∃ (last : Nat → PacedFlow) (sent : Nat → Nat),
      (∀ n fuel, ⌊flow.burst⌋₊ < fuel →
        flow.onTime reconnectDelayFor fuel index n = .ok (last n, sent n)) ∧
      last 0 = flow ∧ sent 0 = 0 ∧
      ∀ n, (last n).Ready ∧ (last n).plan = flow.plan ∧
        ∃ one, (last n).ServicedOnTime one ∧ last (n + 1) = one.flow ∧
          sent (n + 1) = sent n + sentBytes one.sends := by
  choose last sent isReady plan ends using onTime_ends reconnectDelayFor ready index
  have enough := Nat.lt_succ_self ⌊flow.burst⌋₊
  have start := Except.ok.inj (ends 0 _ enough)
  refine ⟨last, sent, ends, (congrArg Prod.fst start).symm, (congrArg Prod.snd start).symm, ?_⟩
  intro n
  obtain ⟨one, serviced, ends'⟩ := (isReady n).service reconnectDelayFor index
  have next := ends (n + 1) _ enough
  have enough' : ⌊(last n).burst⌋₊ < ⌊flow.burst⌋₊ + 1 := by
    rw [(isReady n).burst, plan n, ← ready.burst]
    exact enough
  rw [onTime, ends n _ enough, ok_bind, ends' _ enough'] at next
  have same := Except.ok.inj next
  exact ⟨isReady n, plan n, one, serviced, (congrArg Prod.fst same).symm,
    (congrArg Prod.snd same).symm⟩

/-- The bucket on time, as rounds of one credit. -/
theorem Ready.rounds (ready : flow.Ready) {last : Nat → PacedFlow} {sent : Nat → Nat}
    (start : last 0 = flow)
    (steps : ∀ n, (last n).Ready ∧ (last n).plan = flow.plan ∧
      ∃ one, (last n).ServicedOnTime one ∧ last (n + 1) = one.flow ∧
        sent (n + 1) = sent n + sentBytes one.sends) :
    Rounds flow.plan.burst ((flow.plan.bandwidthBps.toNat : Rat) / 80) flow.plan.payload
      flow.plan.stride (fun n => (last n).tokens) (fun n => (sent (n + 1) : Rat) - sent n) := by
  refine ⟨fun n => ?_, fun n => (steps n).1.tokens_nonneg, ?_, fun n => ?_, fun n => ?_⟩
  · obtain ⟨-, plan, one, serviced, next, more⟩ := steps n
    have left := serviced.left
    rw [serviced.level, plan, ← next] at left
    rw [left, more, Nat.cast_add, add_sub_cancel_left]
  · change (last 0).tokens ≤ _
    rw [start, ← ready.burst]
    exact ready.tokens_le
  · obtain ⟨-, plan, one, serviced, next, -⟩ := steps n
    have below := serviced.drains.left_lt
    rw [plan] at below
    change (last (n + 1)).tokens < _
    rw [next]
    exact below
  · obtain ⟨-, plan, one, serviced, -, more⟩ := steps n
    have room : one.level ≤ (last n).plan.burst := by
      rw [serviced.level]
      exact refill_le_burst
    obtain ⟨k, whole⟩ := serviced.drains.whole room fun tokens => FlowPlan.stride_dvd_write
    refine ⟨k, ?_⟩
    change sentBytes one.sends = _ at whole
    rw [more, whole, plan]
    push_cast
    ring

theorem Ready.strides (ready : flow.Ready) (spared : ¬ flow.plan.Splits)
    {last : Nat → PacedFlow} {sent : Nat → Nat} (start : last 0 = flow)
    (steps : ∀ n, (last n).Ready ∧ (last n).plan = flow.plan ∧
      ∃ one, (last n).ServicedOnTime one ∧ last (n + 1) = one.flow ∧
        sent (n + 1) = sent n + sentBytes one.sends) :
    Strides flow.plan.burst ((flow.plan.bandwidthBps.toNat : Rat) / 80) flow.plan.payload
      flow.plan.stride (fun n => (last n).tokens) (fun n => (sent (n + 1) : Rat) - sent n) := by
  refine { ready.rounds start steps with idle := fun n short => ?_, window := fun n enough => ?_ }
  · obtain ⟨-, plan, one, serviced, -, more⟩ := steps n
    rw [← plan, ← serviced.level] at short
    have none := serviced.drains.idle short
    change one.sends = [] at none
    rw [more, none, sentBytes, List.map_nil, List.sum_nil, Nat.add_zero, sub_self]
  · obtain ⟨-, plan, one, serviced, next, -⟩ := steps n
    have room : one.level ≤ (last n).plan.burst := by
      rw [serviced.level]
      exact refill_le_burst
    rw [← plan, ← serviced.level] at enough
    rw [← plan] at spared
    have near := serviced.drains.window room (fun tokens enough _ =>
      FlowPlan.sub_stride_le spared enough) enough
    change _ ≤ (last (n + 1)).tokens
    rw [next, ← plan]
    exact near

end PacedFlow

/-! ## The bandwidth -/

/-- What a flow sends stays within a constant number of payloads of its bandwidth. -/
def Delivers (plan : FlowPlan) (sent : Nat → Nat) : Prop :=
  ∃ payloads : Nat, ∀ n : Nat,
    (plan.bandwidthBps.toNat : Rat) / 8 * (1 / 10) * n - payloads * plan.payload ≤ sent n

theorem delivers_iff {plan : FlowPlan} {sent : Nat → Nat} (start : sent 0 = 0) :
    Delivers plan sent ↔ Sustained ((plan.bandwidthBps.toNat : Rat) / 80)
      fun n => (sent (n + 1) : Rat) - sent n := by
  have positive : (0 : Rat) < plan.payload := Nat.cast_pos.mpr plan.payload_pos
  have total (n : Nat) : ∑ i ∈ Finset.range n, ((sent (i + 1) : Rat) - sent i) = sent n := by
    rw [Finset.sum_range_sub (fun i => (sent i : Rat)), start, Nat.cast_zero, sub_zero]
  constructor
  · rintro ⟨payloads, behind⟩
    refine ⟨payloads * plan.payload, fun n => ?_⟩
    have here := behind n
    rw [total]
    linarith
  · rintro ⟨bound, behind⟩
    obtain ⟨payloads, most⟩ := Archimedean.arch bound positive
    rw [nsmul_eq_mul] at most
    refine ⟨payloads, fun n => ?_⟩
    have here := behind n
    rw [total] at here
    linarith

theorem fits_iff (plan : FlowPlan) :
    plan.Fits ↔ (plan.payload : Rat) + (plan.bandwidthBps.toNat : Rat) / 80 ≤
      plan.burst + (Nat.gcd plan.bandwidthBps.toNat (80 * plan.stride) : Nat) * (1 / 80) := by
  unfold FlowPlan.Fits
  rw [FlowPlan.burst_eq, ← Nat.cast_le (α := Rat)]
  push_cast
  have scale : max (5 * (plan.bandwidthBps.toNat : Rat)) (320 * plan.payload) =
      320 * max ((plan.bandwidthBps.toNat : Rat) / 64) plan.payload := by
    rw [mul_max_of_nonneg _ _ (by norm_num : (0 : Rat) ≤ 320)]
    congr 1
    ring
  rw [scale]
  constructor
  · intro fits
    linarith
  · intro fits
    linarith

section Bandwidth

variable {flow : PacedFlow} {last : Nat → PacedFlow} {sent : Nat → Nat}

theorem FlowPlan.credit_eq (plan : FlowPlan) :
    (plan.bandwidthBps.toNat : Rat) / 80 = (plan.bandwidthBps.toNat : Nat) * (1 / 80) := by
  ring

theorem FlowPlan.stride_eq (plan : FlowPlan) :
    (plan.stride : Rat) = (80 * plan.stride : Nat) * (1 / 80) := by
  push_cast
  ring

theorem FlowPlan.units_pos (plan : FlowPlan) : 0 < 80 * plan.stride :=
  Nat.mul_pos (by decide) plan.stride_pos

/-- A flow that fits overflows once at most. -/
theorem PacedFlow.Ready.delivers (ready : flow.Ready) (fits : flow.plan.Fits)
    (start : last 0 = flow) (none : sent 0 = 0)
    (steps : ∀ n, (last n).Ready ∧ (last n).plan = flow.plan ∧
      ∃ one, (last n).ServicedOnTime one ∧ last (n + 1) = one.flow ∧
        sent (n + 1) = sent n + sentBytes one.sends) : Delivers flow.plan sent := by
  rw [delivers_iff none]
  have grain_pos : (0 : Rat) <
      (Nat.gcd flow.plan.bandwidthBps.toNat (80 * flow.plan.stride) : Nat) * (1 / 80) :=
    mul_pos (Nat.cast_pos.mpr (Nat.gcd_pos_of_pos_right _ flow.plan.units_pos)) (by norm_num)
  obtain ⟨d, stride⟩ := Strides.exists_eq_mul_grain (1 / 80 : Rat)
    (Nat.gcd_dvd_right flow.plan.bandwidthBps.toNat (80 * flow.plan.stride))
  obtain ⟨c, credit⟩ := Strides.exists_eq_mul_grain (1 / 80 : Rat)
    (Nat.gcd_dvd_left flow.plan.bandwidthBps.toNat (80 * flow.plan.stride))
  have rounds := (ready.rounds start steps).refine (flow.plan.stride_eq.trans stride)
  exact rounds.sustained ⟨c, flow.plan.credit_eq.trans credit⟩ grain_pos ((fits_iff _).mp fits)

/-- A flow that does not fit overflows again and again. -/
theorem PacedFlow.Ready.fits (ready : flow.Ready) (spared : ¬ flow.plan.Splits)
    (start : last 0 = flow) (none : sent 0 = 0)
    (steps : ∀ n, (last n).Ready ∧ (last n).plan = flow.plan ∧
      ∃ one, (last n).ServicedOnTime one ∧ last (n + 1) = one.flow ∧
        sent (n + 1) = sent n + sentBytes one.sends)
    (delivers : Delivers flow.plan sent) : flow.plan.Fits := by
  rw [delivers_iff none] at delivers
  by_contra fails
  have exceeds := not_le.mp fun fits => fails ((fits_iff _).mpr fits)
  have room : (flow.plan.payload : Rat) ≤ flow.plan.burst := le_max_right _ _
  exact (ready.strides spared start steps).not_sustained (by norm_num : (0 : Rat) < 1 / 80)
    flow.plan.units_pos flow.plan.credit_eq flow.plan.stride_eq room exceeds delivers

end Bandwidth

/-- With ticks on time and sends that succeed in full, a flow delivers its bandwidth if it fits, and,
unless its full bucket is split, only if it fits. -/
theorem bandwidth_sustained (reconnectDelayFor : String → Nat → Nat) (index : Nat)
    (flow : PacedFlow) (ready : flow.Ready) :
    ∃ sent : Nat → Nat,
      (∀ n fuel, ⌊flow.burst⌋₊ < fuel →
        ∃ last, flow.onTime reconnectDelayFor fuel index n = .ok (last, sent n)) ∧
      (flow.plan.Fits → Delivers flow.plan sent) ∧
      (¬ flow.plan.Splits → Delivers flow.plan sent → flow.plan.Fits) := by
  obtain ⟨last, sent, ends, start, none, steps⟩ :=
    PacedFlow.onTime_sequence reconnectDelayFor ready index
  exact ⟨sent, fun n fuel more => ⟨last n, ends n fuel more⟩,
    fun fits => ready.delivers fits start none steps,
    fun spared delivers => ready.fits spared start none steps delivers⟩

/-- A UDP flow that has been opened. -/
def udpFlow (bandwidthBps payloadBytes : UInt64) : PacedFlow :=
  let plan : FlowPlan :=
    { flowId := "flow-1", protocol := .udp, dstIp := (192, 0, 2, 1), dstPort := 5201
      bandwidthBps, payloadBytes, tcpMss := 0 }
  { PacedFlow.new plan 0 with transport := .udp ⟨true, 0, minReconnect⟩ }

theorem udpFlow_ready (bandwidthBps payloadBytes : UInt64) :
    (udpFlow bandwidthBps payloadBytes).Ready where
  positive := FlowPlan.payload_pos _
  udpBuffer _ _ := rfl
  tcpBuffer := nofun
  tokens_nonneg := le_rfl
  tokens_le := PacedFlow.burst_nonneg _
  isOpen := .inl ⟨_, rfl, rfl, rfl⟩
  payload := rfl

theorem bandwidth_sustained_megabit :
    (udpFlow 1000000 1400).plan.Fits ∧
      ∃ sent : Nat → Nat,
        (∀ n fuel, ⌊(udpFlow 1000000 1400).burst⌋₊ < fuel →
          ∃ last, (udpFlow 1000000 1400).onTime (fun _ delay => delay) fuel 0 n =
            .ok (last, sent n)) ∧
        Delivers (udpFlow 1000000 1400).plan sent := by
  have fits : (udpFlow 1000000 1400).plan.Fits := by decide
  obtain ⟨sent, ends, delivers, -⟩ :=
    bandwidth_sustained (fun _ delay => delay) 0 _ (udpFlow_ready 1000000 1400)
  exact ⟨fits, sent, ends, delivers fits⟩

/-- With a thousand bytes a tick and payloads of 1400 bytes, the bucket loses tokens again and
again. -/
theorem bandwidth_not_sustained :
    ∃ sent : Nat → Nat,
      (∀ n fuel, ⌊(udpFlow 80000 1400).burst⌋₊ < fuel →
        ∃ last, (udpFlow 80000 1400).onTime (fun _ delay => delay) fuel 0 n =
          .ok (last, sent n)) ∧
      ¬ Delivers (udpFlow 80000 1400).plan sent := by
  have ready := udpFlow_ready 80000 1400
  obtain ⟨last, sent, ends, start, none, steps⟩ :=
    PacedFlow.onTime_sequence (fun _ delay => delay) ready 0
  refine ⟨sent, fun n fuel more => ⟨last n, ends n fuel more⟩, fun delivers => ?_⟩
  have fits := ready.fits (by decide) start none steps delivers
  exact absurd fits (by decide)

end NetOpsBench
