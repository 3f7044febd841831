import Mathlib.Algebra.Order.Field.Rat
import Mathlib.Data.Rat.Floor
import NetOpsBench.ClientAgent.TrafficRuntime
import NetOpsBench.Lib.TokenBucket

/-!
# The pacing of a flow

The token bucket of `service_flow` in `native/client-agent/src/traffic.rs`, over exact numbers.
`PacedFlow` adds the bucket and the buffer to a scheduled flow; a tick replenishes the bucket,
offers payloads to the socket while the tokens last, and hands the answers that were taken to
`serviceFlow`. The buffer is the number of its bytes, all of which are zero.
-/

namespace NetOpsBench

open Fallible TokenBucket

/-- `MAX_TCP_WRITE_BYTES` -/
def maxTcpWriteBytes : Nat := 64 * 1024

/-- `Duration::as_secs_f64` -/
def asSecs (nanos : Nat) : Rat := nanos / 1000000000

/-- The `burst` of `replenish_tokens` -/
def burstBytes (bytesPerSecond : Rat) (payloadBytes : Nat) : Rat :=
  max (bytesPerSecond * asSecs trafficSchedulerTick * (5 / 4)) payloadBytes

def replenishTokens (current bytesPerSecond : Rat) (elapsed payloadBytes : Nat) : Rat :=
  min (current + bytesPerSecond * asSecs elapsed) (burstBytes bytesPerSecond payloadBytes)

/-- A scheduled flow with its buffer and its bucket. -/
structure PacedFlow : Type extends ScheduledFlow where
  bufferBytes : Nat
  payloadBytes : Nat
  tokens : Rat
  previous : Nat

/-- `ScheduledFlow::new` -/
def PacedFlow.new (plan : FlowPlan) (now : Nat) : PacedFlow :=
  let payloadBytes := max plan.payloadBytes.toNat 1
  { ScheduledFlow.new plan now with
    bufferBytes :=
      match plan.protocol with
      | .tcp => maxTcpWriteBytes
      | .udp => payloadBytes
    payloadBytes
    tokens := 0
    previous := now }

/-- How a tick can go wrong. -/
inductive PacingFault : Type where
  /-- A slice that ends after the buffer. -/
  | outOfBounds
  | outOfFuel
  deriving DecidableEq, Repr

/-- `&flow.payload[..bytes]` -/
def slicePayload (bufferBytes bytes : Nat) : Except PacingFault Unit :=
  if bytes ≤ bufferBytes then .ok () else .error .outOfBounds

/-- The loop of `try_send`: the answers that were taken, and the tokens that are left. A socket
that takes a datagram takes all of it. -/
def udpSends (bufferBytes payloadBytes : Nat) (answers : Nat → SendAnswer) :
    Nat → Nat → Rat → Except PacingFault (List SendAnswer × Rat)
  | 0, _, _ => .error .outOfFuel
  | fuel + 1, attempt, tokens =>
      if (payloadBytes : Rat) ≤ tokens then do
        slicePayload bufferBytes payloadBytes
        match answers attempt with
        | .sent _ => do
            let rest ← udpSends bufferBytes payloadBytes answers fuel (attempt + 1)
              (tokens - payloadBytes)
            pure (.sent payloadBytes :: rest.1, rest.2)
        | .wouldBlock => pure ([.wouldBlock], tokens)
        | .failed error => pure ([.failed error], tokens)
      else pure ([], tokens)

/-- `usize::MAX` -/
def usizeMax : Nat := 2 ^ 64 - 1

/-- The `write_bytes` of a TCP flow -/
def tcpWriteBytes (payloadBytes : Nat) (tokens : Rat) : Nat :=
  let logicalPayloads := min ⌊tokens / payloadBytes⌋₊ usizeMax
  min (min (logicalPayloads * payloadBytes) usizeMax) maxTcpWriteBytes

/-- The loop of `try_write`. A stream takes at most the bytes it is offered, and none when it is
closed. -/
def tcpWrites (bufferBytes payloadBytes : Nat) (answers : Nat → SendAnswer) :
    Nat → Nat → Rat → Except PacingFault (List SendAnswer × Rat)
  | 0, _, _ => .error .outOfFuel
  | fuel + 1, attempt, tokens =>
      if (payloadBytes : Rat) ≤ tokens then do
        let writeBytes := tcpWriteBytes payloadBytes tokens
        slicePayload bufferBytes writeBytes
        match answers attempt with
        | .sent taken =>
            let bytes := min taken writeBytes
            if bytes = 0 then pure ([.sent 0], tokens)
            else do
              let rest ← tcpWrites bufferBytes payloadBytes answers fuel (attempt + 1)
                (tokens - bytes)
              pure (.sent bytes :: rest.1, rest.2)
        | .wouldBlock => pure ([.wouldBlock], tokens)
        | .failed error => pure ([.failed error], tokens)
      else pure ([], tokens)

/-- When a tick comes, and what the sockets answer; attempt by attempt where it sends. -/
structure PacedTick : Type where
  now : Nat
  created : Except String Unit := .ok ()
  connected : Option ConnectAnswer := none
  answers : Nat → SendAnswer

/-- What is left of a tick: the flow, the tokens before its sends, the answers that were taken, and
what `serviceFlow` makes of them. -/
structure ServicedTick : Type where
  flow : PacedFlow
  level : Rat
  sends : List SendAnswer
  calls : List StatusCall
  activity : SendActivity

def SendAnswer.bytes : SendAnswer → Nat
  | .sent bytes => bytes
  | .wouldBlock => 0
  | .failed _ => 0

/-- The bytes that the sockets have taken. -/
def sentBytes (sends : List SendAnswer) : Nat := (sends.map SendAnswer.bytes).sum

namespace PacedFlow

def bytesPerSecond (flow : PacedFlow) : Rat := flow.plan.bandwidthBps.toNat / 8

/-- The most that the bucket of the flow holds. -/
def burst (flow : PacedFlow) : Rat := burstBytes flow.bytesPerSecond flow.payloadBytes

section Service

variable (reconnectDelayFor : String → Nat → Nat)

/-- Whether the flow has a socket or a stream once it has tried to get one. -/
def serving (index : Nat) (tick : PacedTick) (flow : PacedFlow) : Bool :=
  let script : FlowScript := { created := tick.created, connected := tick.connected }
  match flow.transport with
  | .udp transport => (setupUdp reconnectDelayFor tick.now index script flow.plan transport).1.socket
  | .tcp transport =>
      (finishConnect reconnectDelayFor tick.now index script flow.plan transport).1.stream

/-- The loop of the flow's transport. -/
def offer (fuel : Nat) (answers : Nat → SendAnswer) (flow : PacedFlow) (tokens : Rat) :
    Except PacingFault (List SendAnswer × Rat) :=
  match flow.transport with
  | .udp _ => udpSends flow.bufferBytes flow.payloadBytes answers fuel 0 tokens
  | .tcp _ => tcpWrites flow.bufferBytes flow.payloadBytes answers fuel 0 tokens

/-- The flow and its transport once the answers to its sends are known. -/
def settle (index : Nat) (tick : PacedTick) (flow : PacedFlow) (tokens : Rat)
    (paced : List SendAnswer × Rat) : ServicedTick :=
  let served := serviceFlow reconnectDelayFor tick.now index
    { created := tick.created, connected := tick.connected, sends := paced.1 } flow.toScheduledFlow
  { flow := { flow with transport := served.1, tokens := paced.2, previous := tick.now }
    level := tokens
    sends := paced.1
    calls := served.2.1
    activity := served.2.2 }

/-- The sends of a flow that has a socket, and none of one that has not. -/
def sends (fuel index : Nat) (tick : PacedTick) (flow : PacedFlow) (tokens : Rat) :
    Except PacingFault (List SendAnswer × Rat) :=
  if flow.serving reconnectDelayFor index tick then flow.offer fuel tick.answers tokens
  else .ok ([], tokens)

/-- `service_flow` -/
def service (fuel index : Nat) (tick : PacedTick) (flow : PacedFlow) :
    Except PacingFault ServicedTick := do
  let tokens := replenishTokens flow.tokens flow.bytesPerSecond (tick.now - flow.previous)
    flow.payloadBytes
  let paced ← flow.sends reconnectDelayFor fuel index tick tokens
  pure (flow.settle reconnectDelayFor index tick tokens paced)

/-- The ticks of a flow. -/
def run (fuel index : Nat) : PacedFlow → List PacedTick → Except PacingFault (List ServicedTick)
  | _, [] => .ok []
  | flow, tick :: ticks => do
      let one ← flow.service reconnectDelayFor fuel index tick
      let rest ← run fuel index one.flow ticks
      pure (one :: rest)

end Service

end PacedFlow

/-! ## The loops -/

theorem sentBytes_append (first second : List SendAnswer) :
    sentBytes (first ++ second) = sentBytes first + sentBytes second := by
  rw [sentBytes, List.map_append, List.sum_append]
  rfl

/-- A loop that sends no more than the tokens it finds. -/
structure Draws (tokens : Rat) (paced : List SendAnswer × Rat) : Prop where
  left : paced.2 = tokens - sentBytes paced.1
  nonneg : 0 ≤ paced.2

theorem Draws.idle {tokens : Rat} (nonneg : 0 ≤ tokens) {sends : List SendAnswer}
    (none : sentBytes sends = 0) : Draws tokens (sends, tokens) :=
  ⟨by rw [none, Nat.cast_zero, sub_zero], nonneg⟩

theorem Draws.cons {tokens : Rat} {bytes : Nat} {paced : List SendAnswer × Rat}
    (rest : Draws (tokens - bytes) paced) :
    Draws tokens (.sent bytes :: paced.1, paced.2) := by
  refine ⟨?_, rest.nonneg⟩
  change paced.2 = tokens - ((bytes + sentBytes paced.1 : Nat) : Rat)
  rw [rest.left, Nat.cast_add]
  ring

/-- Each success takes at least one byte from the tokens. -/
theorem floor_sub_le {tokens : Rat} {bytes n : Nat} (positive : 0 < bytes)
    (high : ⌊tokens⌋₊ ≤ n + 1) : ⌊tokens - bytes⌋₊ ≤ n := by
  rw [Nat.floor_sub_natCast]
  omega

theorem floor_pos {tokens : Rat} {payloadBytes : Nat} (positive : 0 < payloadBytes)
    (enough : (payloadBytes : Rat) ≤ tokens) : 0 < ⌊tokens⌋₊ :=
  positive.trans_le (Nat.le_floor enough)

theorem short_of_floor {tokens : Rat} {payloadBytes : Nat} (positive : 0 < payloadBytes)
    (low : ⌊tokens⌋₊ ≤ 0) : ¬ (payloadBytes : Rat) ≤ tokens :=
  fun enough => absurd low (not_le.mpr (floor_pos positive enough))

section Loops

variable {bufferBytes payloadBytes fuel attempt : Nat} {answers : Nat → SendAnswer} {tokens : Rat}

theorem udpSends_short (short : ¬ (payloadBytes : Rat) ≤ tokens) :
    udpSends bufferBytes payloadBytes answers (fuel + 1) attempt tokens = .ok ([], tokens) := by
  rw [udpSends, if_neg short]
  rfl

theorem udpSends_sent (enough : (payloadBytes : Rat) ≤ tokens)
    (inBounds : payloadBytes ≤ bufferBytes) {bytes : Nat} (answer : answers attempt = .sent bytes) :
    udpSends bufferBytes payloadBytes answers (fuel + 1) attempt tokens =
      (udpSends bufferBytes payloadBytes answers fuel (attempt + 1) (tokens - payloadBytes)).map
        fun rest => (.sent payloadBytes :: rest.1, rest.2) := by
  rw [udpSends, if_pos enough, slicePayload, if_pos inBounds, ok_bind, answer]
  rfl

theorem udpSends_stopped (enough : (payloadBytes : Rat) ≤ tokens)
    (inBounds : payloadBytes ≤ bufferBytes) (answer : ∀ bytes, answers attempt ≠ .sent bytes) :
    udpSends bufferBytes payloadBytes answers (fuel + 1) attempt tokens =
      .ok ([answers attempt], tokens) := by
  rw [udpSends, if_pos enough, slicePayload, if_pos inBounds, ok_bind]
  cases isAnswer : answers attempt with
  | sent bytes => exact absurd isAnswer (answer bytes)
  | wouldBlock => rfl
  | failed error => rfl

/-- What a stream is offered is in the buffer, and no more than the tokens. -/
theorem tcpWriteBytes_le (payloadBytes : Nat) (tokens : Rat) :
    tcpWriteBytes payloadBytes tokens ≤ maxTcpWriteBytes := min_le_right _ _

theorem tcpWriteBytes_le_tokens (positive : 0 < payloadBytes) (nonneg : 0 ≤ tokens) :
    (tcpWriteBytes payloadBytes tokens : Rat) ≤ tokens := by
  have positive' : (0 : Rat) < payloadBytes := Nat.cast_pos.mpr positive
  have logical : (⌊tokens / payloadBytes⌋₊ : Rat) * payloadBytes ≤ tokens :=
    (le_div_iff₀ positive').mp (Nat.floor_le (div_nonneg nonneg positive'.le))
  have bytes : tcpWriteBytes payloadBytes tokens ≤ ⌊tokens / payloadBytes⌋₊ * payloadBytes :=
    (min_le_left _ _).trans ((min_le_left _ _).trans (Nat.mul_le_mul_right _ (min_le_left _ _)))
  calc (tcpWriteBytes payloadBytes tokens : Rat)
      ≤ ((⌊tokens / payloadBytes⌋₊ * payloadBytes : Nat) : Rat) := Nat.cast_le.mpr bytes
    _ = ⌊tokens / payloadBytes⌋₊ * payloadBytes := Nat.cast_mul _ _
    _ ≤ tokens := logical

theorem tcpWrites_short (short : ¬ (payloadBytes : Rat) ≤ tokens) :
    tcpWrites bufferBytes payloadBytes answers (fuel + 1) attempt tokens = .ok ([], tokens) := by
  rw [tcpWrites, if_neg short]
  rfl

theorem tcpWrites_sent (enough : (payloadBytes : Rat) ≤ tokens)
    (inBounds : maxTcpWriteBytes ≤ bufferBytes) {taken : Nat}
    (answer : answers attempt = .sent taken)
    (some_ : min taken (tcpWriteBytes payloadBytes tokens) ≠ 0) :
    tcpWrites bufferBytes payloadBytes answers (fuel + 1) attempt tokens =
      (tcpWrites bufferBytes payloadBytes answers fuel (attempt + 1)
        (tokens - (min taken (tcpWriteBytes payloadBytes tokens) : Nat))).map
        fun rest => (.sent (min taken (tcpWriteBytes payloadBytes tokens)) :: rest.1, rest.2) := by
  rw [tcpWrites, if_pos enough]
  dsimp only
  rw [slicePayload, if_pos ((tcpWriteBytes_le _ _).trans inBounds), ok_bind, answer]
  dsimp only
  rw [if_neg some_]
  rfl

/-- A write that takes nothing, would block or fails is the last one. -/
theorem tcpWrites_stopped (enough : (payloadBytes : Rat) ≤ tokens)
    (inBounds : maxTcpWriteBytes ≤ bufferBytes)
    (answer : ∀ taken, answers attempt = .sent taken →
      min taken (tcpWriteBytes payloadBytes tokens) = 0) :
    ∃ last : SendAnswer, last.bytes = 0 ∧ ∀ fuel,
      tcpWrites bufferBytes payloadBytes answers (fuel + 1) attempt tokens =
        .ok ([last], tokens) := by
  cases isAnswer : answers attempt with
  | sent taken =>
      refine ⟨.sent 0, rfl, fun fuel => ?_⟩
      rw [tcpWrites, if_pos enough]
      dsimp only
      rw [slicePayload, if_pos ((tcpWriteBytes_le _ _).trans inBounds), ok_bind, isAnswer]
      dsimp only
      rw [if_pos (answer taken isAnswer)]
      rfl
  | wouldBlock =>
      refine ⟨.wouldBlock, rfl, fun fuel => ?_⟩
      rw [tcpWrites, if_pos enough]
      dsimp only
      rw [slicePayload, if_pos ((tcpWriteBytes_le _ _).trans inBounds), ok_bind, isAnswer]
      rfl
  | failed error =>
      refine ⟨.failed error, rfl, fun fuel => ?_⟩
      rw [tcpWrites, if_pos enough]
      dsimp only
      rw [slicePayload, if_pos ((tcpWriteBytes_le _ _).trans inBounds), ok_bind, isAnswer]
      rfl

/-- With more fuel than tokens the loop of a UDP flow ends, and within its buffer. -/
theorem udpSends_ends (positive : 0 < payloadBytes) (inBounds : payloadBytes ≤ bufferBytes)
    (answers : Nat → SendAnswer) (attempt : Nat) {tokens : Rat} (nonneg : 0 ≤ tokens) (n : Nat)
    (low : ⌊tokens⌋₊ ≤ n) :
    ∃ paced, Draws tokens paced ∧ ∀ fuel,
      udpSends bufferBytes payloadBytes answers (fuel + n + 1) attempt tokens = .ok paced := by
  induction n generalizing attempt tokens with
  | zero => exact ⟨_, .idle nonneg rfl, fun fuel => udpSends_short (short_of_floor positive low)⟩
  | succ n ih =>
      by_cases enough : (payloadBytes : Rat) ≤ tokens
      · by_cases sent : ∃ bytes, answers attempt = .sent bytes
        · obtain ⟨bytes, answer⟩ := sent
          obtain ⟨paced, draws, ends⟩ :=
            ih (attempt + 1) (sub_nonneg.mpr enough) (floor_sub_le positive low)
          refine ⟨_, draws.cons, fun fuel => ?_⟩
          rw [udpSends_sent enough inBounds answer, ← Nat.add_assoc, ends]
          rfl
        · have stopped (bytes : Nat) : answers attempt ≠ .sent bytes :=
            fun answer => sent ⟨bytes, answer⟩
          refine ⟨([answers attempt], tokens), .idle nonneg ?_, fun fuel =>
            udpSends_stopped enough inBounds stopped⟩
          cases isAnswer : answers attempt with
          | sent bytes => exact absurd isAnswer (stopped bytes)
          | wouldBlock => rfl
          | failed error => rfl
      · exact ⟨_, .idle nonneg rfl, fun fuel => udpSends_short enough⟩

/-- So does the loop of a TCP flow. -/
theorem tcpWrites_ends (positive : 0 < payloadBytes) (inBounds : maxTcpWriteBytes ≤ bufferBytes)
    (answers : Nat → SendAnswer) (attempt : Nat) {tokens : Rat} (nonneg : 0 ≤ tokens) (n : Nat)
    (low : ⌊tokens⌋₊ ≤ n) :
    ∃ paced, Draws tokens paced ∧ ∀ fuel,
      tcpWrites bufferBytes payloadBytes answers (fuel + n + 1) attempt tokens = .ok paced := by
  induction n generalizing attempt tokens with
  | zero => exact ⟨_, .idle nonneg rfl, fun fuel => tcpWrites_short (short_of_floor positive low)⟩
  | succ n ih =>
      by_cases enough : (payloadBytes : Rat) ≤ tokens
      · by_cases sent : ∃ taken, answers attempt = .sent taken ∧
            min taken (tcpWriteBytes payloadBytes tokens) ≠ 0
        · obtain ⟨taken, answer, some_⟩ := sent
          have held : ((min taken (tcpWriteBytes payloadBytes tokens) : Nat) : Rat) ≤ tokens :=
            (Nat.cast_le.mpr (min_le_right _ _)).trans (tcpWriteBytes_le_tokens positive nonneg)
          obtain ⟨paced, draws, ends⟩ := ih (attempt + 1) (sub_nonneg.mpr held)
            (floor_sub_le (Nat.pos_of_ne_zero some_) low)
          refine ⟨_, draws.cons, fun fuel => ?_⟩
          rw [tcpWrites_sent enough inBounds answer some_, ← Nat.add_assoc, ends]
          rfl
        · obtain ⟨last, none, ends⟩ := tcpWrites_stopped enough inBounds
            fun taken answer => not_not.mp fun some_ => sent ⟨taken, answer, some_⟩
          refine ⟨([last], tokens), .idle nonneg ?_, fun fuel => ends (fuel + (n + 1))⟩
          rw [sentBytes, List.map_singleton, List.sum_singleton, none]
      · exact ⟨_, .idle nonneg rfl, fun fuel => tcpWrites_short enough⟩

end Loops

/-! ## Ticks -/

theorem burstBytes_nonneg (bytesPerSecond : Rat) (payloadBytes : Nat) :
    0 ≤ burstBytes bytesPerSecond payloadBytes :=
  payloadBytes.cast_nonneg.trans (le_max_right _ _)

theorem asSecs_nonneg (nanos : Nat) : 0 ≤ asSecs nanos := by
  unfold asSecs
  positivity

namespace PacedFlow

/-- The buffer of each transport, and a bucket within its bounds. -/
structure Sound (flow : PacedFlow) : Prop where
  positive : 0 < flow.payloadBytes
  udpBuffer : ∀ transport, flow.transport = .udp transport → flow.bufferBytes = flow.payloadBytes
  tcpBuffer : ∀ transport, flow.transport = .tcp transport → flow.bufferBytes = maxTcpWriteBytes
  tokens_nonneg : 0 ≤ flow.tokens
  tokens_le : flow.tokens ≤ flow.burst

theorem sound_new (plan : FlowPlan) (now : Nat) : (PacedFlow.new plan now).Sound := by
  refine ⟨Nat.lt_of_lt_of_le Nat.one_pos (le_max_right _ _), ?_, ?_, le_rfl, burstBytes_nonneg _ _⟩
  · intro transport isUdp
    unfold PacedFlow.new ScheduledFlow.new at isUdp ⊢
    cases protocol : plan.protocol with
    | udp => rfl
    | tcp => simp [protocol] at isUdp
  · intro transport isTcp
    unfold PacedFlow.new ScheduledFlow.new at isTcp ⊢
    cases protocol : plan.protocol with
    | udp => simp [protocol] at isTcp
    | tcp => rfl

variable {reconnectDelayFor : String → Nat → Nat} {flow : PacedFlow}

theorem bytesPerSecond_nonneg (flow : PacedFlow) : 0 ≤ flow.bytesPerSecond := by
  unfold bytesPerSecond
  positivity

theorem burst_nonneg (flow : PacedFlow) : 0 ≤ flow.burst := burstBytes_nonneg _ _

theorem offer_ends (sound : flow.Sound) (answers : Nat → SendAnswer) {tokens : Rat}
    (nonneg : 0 ≤ tokens) (n : Nat) (low : ⌊tokens⌋₊ ≤ n) :
    ∃ paced, Draws tokens paced ∧ ∀ fuel, flow.offer (fuel + n + 1) answers tokens = .ok paced := by
  unfold offer
  cases transport : flow.transport with
  | udp _ =>
      exact udpSends_ends sound.positive (sound.udpBuffer _ transport).ge answers 0 nonneg n low
  | tcp _ =>
      exact tcpWrites_ends sound.positive (sound.tcpBuffer _ transport).ge answers 0 nonneg n low

/-- What one tick does to the bucket. -/
structure Serviced (flow : PacedFlow) (now : Nat) (one : ServicedTick) : Prop where
  level : one.level =
    refill flow.burst (flow.bytesPerSecond * asSecs (now - flow.previous)) flow.tokens
  draws : Draws one.level (one.sends, one.flow.tokens)
  previous : one.flow.previous = now
  plan : one.flow.plan = flow.plan
  payloadBytes : one.flow.payloadBytes = flow.payloadBytes
  sound : one.flow.Sound

/-- A flow keeps its kind of transport. -/
theorem transport_serviceFlow (now index : Nat) (script : FlowScript) (scheduled : ScheduledFlow) :
    (∀ transport, (serviceFlow reconnectDelayFor now index script scheduled).1 = .udp transport →
      ∃ before, scheduled.transport = .udp before) ∧
    ∀ transport, (serviceFlow reconnectDelayFor now index script scheduled).1 = .tcp transport →
      ∃ before, scheduled.transport = .tcp before := by
  unfold serviceFlow
  cases scheduled.transport with
  | udp before => exact ⟨fun _ _ => ⟨before, rfl⟩, nofun⟩
  | tcp before => exact ⟨nofun, fun _ _ => ⟨before, rfl⟩⟩

theorem service_eq (fuel index : Nat) (tick : PacedTick) :
    flow.service reconnectDelayFor fuel index tick =
      (flow.sends reconnectDelayFor fuel index tick
          (refill flow.burst (flow.bytesPerSecond * asSecs (tick.now - flow.previous))
            flow.tokens)).map
        (flow.settle reconnectDelayFor index tick
          (refill flow.burst (flow.bytesPerSecond * asSecs (tick.now - flow.previous))
            flow.tokens)) := rfl

theorem sends_ends (reconnectDelayFor : String → Nat → Nat) (sound : flow.Sound) (index : Nat)
    (tick : PacedTick) {tokens : Rat} (nonneg : 0 ≤ tokens) (room : tokens ≤ flow.burst) :
    ∃ paced, Draws tokens paced ∧ ∀ fuel, ⌊flow.burst⌋₊ < fuel →
      flow.sends reconnectDelayFor fuel index tick tokens = .ok paced := by
  unfold sends
  by_cases serves : flow.serving reconnectDelayFor index tick = true
  · obtain ⟨paced, draws, ends⟩ :=
      offer_ends sound tick.answers nonneg ⌊flow.burst⌋₊ (Nat.floor_mono room)
    refine ⟨paced, draws, fun fuel more => ?_⟩
    obtain ⟨rest, rfl⟩ := Nat.exists_eq_add_of_lt more
    rw [if_pos serves, Nat.add_comm ⌊flow.burst⌋₊ rest, ends]
  · exact ⟨([], tokens), .idle nonneg rfl, fun fuel _ => if_neg serves⟩

/-- A tick ends with enough fuel, and what it sends is drawn from the bucket. -/
theorem service_ends (reconnectDelayFor : String → Nat → Nat) (sound : flow.Sound) (index : Nat)
    (tick : PacedTick) :
    ∃ one, flow.Serviced tick.now one ∧ ∀ fuel, ⌊flow.burst⌋₊ < fuel →
      flow.service reconnectDelayFor fuel index tick = .ok one := by
  have credited : 0 ≤ flow.bytesPerSecond * asSecs (tick.now - flow.previous) :=
    mul_nonneg flow.bytesPerSecond_nonneg (asSecs_nonneg _)
  have nonneg := refill_nonneg sound.tokens_nonneg credited flow.burst_nonneg
  have room : refill flow.burst (flow.bytesPerSecond * asSecs (tick.now - flow.previous))
      flow.tokens ≤ flow.burst := refill_le_burst
  obtain ⟨paced, draws, ends⟩ := sends_ends reconnectDelayFor sound index tick nonneg room
  refine ⟨flow.settle reconnectDelayFor index tick
    (refill flow.burst (flow.bytesPerSecond * asSecs (tick.now - flow.previous)) flow.tokens) paced,
    ?_, fun fuel more => ?_⟩
  · have left : paced.2 ≤ flow.burst := by
      rw [draws.left]
      exact (sub_le_self _ (Nat.cast_nonneg _)).trans room
    refine ⟨rfl, draws, rfl, rfl, rfl, sound.positive, ?_, ?_, draws.nonneg, left⟩
    · intro transport isUdp
      obtain ⟨before, wasUdp⟩ := (transport_serviceFlow _ _ _ _).1 transport isUdp
      exact sound.udpBuffer before wasUdp
    · intro transport isTcp
      obtain ⟨before, wasTcp⟩ := (transport_serviceFlow _ _ _ _).2 transport isTcp
      exact sound.tcpBuffer before wasTcp
  · rw [service_eq, ends fuel more]
    rfl

/-! ## Runs -/

/-- Each tick of a run finds what the one before has left. -/
def Chained : PacedFlow → List ServicedTick → Prop
  | _, [] => True
  | flow, one :: rest =>
      flow.previous ≤ one.flow.previous ∧ flow.Serviced one.flow.previous one ∧
        Chained one.flow rest

/-- The refill and the draw of each tick. -/
def rounds (flow : PacedFlow) : List ServicedTick → List (Round Rat)
  | [] => []
  | one :: rest =>
      { credit := flow.bytesPerSecond * asSecs (one.flow.previous - flow.previous)
        drawn := sentBytes one.sends } :: rounds one.flow rest

theorem Serviced.bytesPerSecond {now : Nat} {one : ServicedTick} (serviced : flow.Serviced now one) :
    one.flow.bytesPerSecond = flow.bytesPerSecond := by
  unfold PacedFlow.bytesPerSecond
  rw [serviced.plan]

theorem Serviced.burst {now : Nat} {one : ServicedTick} (serviced : flow.Serviced now one) :
    one.flow.burst = flow.burst := by
  unfold PacedFlow.burst
  rw [serviced.bytesPerSecond, serviced.payloadBytes]

/-- With enough fuel a run over ticks that do not go back ends, and its ticks are chained. -/
theorem run_ends (reconnectDelayFor : String → Nat → Nat) (sound : flow.Sound) (index : Nat)
    {ticks : List PacedTick} (ordered : (flow.previous :: ticks.map PacedTick.now).Pairwise (· ≤ ·)) :
    ∃ serviced, flow.Chained serviced ∧ ∀ fuel, ⌊flow.burst⌋₊ < fuel →
      flow.run reconnectDelayFor fuel index ticks = .ok serviced := by
  induction ticks generalizing flow with
  | nil => exact ⟨[], trivial, fun _ _ => rfl⟩
  | cons tick ticks ih =>
      obtain ⟨first, later⟩ := List.pairwise_cons.mp ordered
      obtain ⟨one, serviced, ends⟩ := service_ends reconnectDelayFor sound index tick
      rw [List.map_cons, ← serviced.previous] at later
      obtain ⟨rest, chained, restEnds⟩ := ih serviced.sound later
      refine ⟨one :: rest, ⟨?_, ?_, chained⟩, fun fuel more => ?_⟩
      · rw [serviced.previous]
        exact first tick.now (List.mem_cons_self ..)
      · rw [serviced.previous]
        exact serviced
      · rw [run, ends fuel more, ok_bind, restEnds fuel (by rw [serviced.burst]; exact more)]
        rfl

/-- Within a chain every tick starts from a sound flow of the same rate. -/
theorem Chained.suffix (sound : flow.Sound) {before after : List ServicedTick}
    (chained : flow.Chained (before ++ after)) :
    ∃ start : PacedFlow, start.Sound ∧ start.Chained after ∧ start.burst = flow.burst ∧
      start.bytesPerSecond = flow.bytesPerSecond := by
  induction before generalizing flow with
  | nil => exact ⟨flow, sound, chained, rfl, rfl⟩
  | cons one before ih =>
      obtain ⟨-, serviced, rest⟩ := chained
      obtain ⟨start, isSound, chained, burst, rate⟩ := ih serviced.sound rest
      exact ⟨start, isSound, chained, burst.trans serviced.burst,
        rate.trans serviced.bytesPerSecond⟩

theorem Chained.of_append {before after : List ServicedTick}
    (chained : flow.Chained (before ++ after)) : flow.Chained before := by
  induction before generalizing flow with
  | nil => trivial
  | cons one before ih =>
      obtain ⟨order, serviced, rest⟩ := chained
      exact ⟨order, serviced, ih rest⟩

theorem Chained.solvent {serviced : List ServicedTick} (chained : flow.Chained serviced) :
    Solvent flow.burst flow.tokens (flow.rounds serviced) := by
  induction serviced generalizing flow with
  | nil => trivial
  | cons one rest ih =>
      obtain ⟨-, serviced, chained⟩ := chained
      have left := serviced.draws.left
      have nonneg := serviced.draws.nonneg
      rw [serviced.level] at left
      refine ⟨mul_nonneg flow.bytesPerSecond_nonneg (asSecs_nonneg _), Nat.cast_nonneg _, ?_, ?_⟩
      · apply sub_nonneg.mp
        rw [← left]
        exact nonneg
      · have later := ih chained
        rw [serviced.burst] at later
        rw [← left]
        exact later

theorem sum_drawn_rounds (flow : PacedFlow) (serviced : List ServicedTick) :
    ((flow.rounds serviced).map Round.drawn).sum =
      (serviced.map fun one => (sentBytes one.sends : Rat)).sum := by
  induction serviced generalizing flow with
  | nil => rfl
  | cons one rest ih => rw [rounds, List.map_cons, List.sum_cons, List.map_cons, List.sum_cons, ih]

theorem asSecs_add_asSecs {first second third : Nat} (le : first ≤ second) (le' : second ≤ third) :
    asSecs (second - first) + asSecs (third - second) = asSecs (third - first) := by
  unfold asSecs
  rw [Nat.cast_sub le, Nat.cast_sub le', Nat.cast_sub (le.trans le')]
  ring

/-- The last tick of a chain. -/
def lastTick (flow : PacedFlow) : List ServicedTick → Nat
  | [] => flow.previous
  | one :: rest => lastTick one.flow rest

theorem Chained.previous_le {serviced : List ServicedTick} (chained : flow.Chained serviced) :
    flow.previous ≤ flow.lastTick serviced := by
  induction serviced generalizing flow with
  | nil => exact le_rfl
  | cons one rest ih =>
      obtain ⟨order, -, chained⟩ := chained
      exact order.trans (ih chained)

/-- The credits of a chain are the rate times its length. -/
theorem Chained.sum_credit {serviced : List ServicedTick} (chained : flow.Chained serviced) :
    ((flow.rounds serviced).map Round.credit).sum =
      flow.bytesPerSecond * asSecs (flow.lastTick serviced - flow.previous) := by
  induction serviced generalizing flow with
  | nil => simp [rounds, lastTick, asSecs]
  | cons one rest ih =>
      obtain ⟨order, serviced, chained⟩ := chained
      rw [rounds, List.map_cons, List.sum_cons, ih chained, serviced.bytesPerSecond, ← mul_add,
        asSecs_add_asSecs order chained.previous_le]
      rfl

end PacedFlow

/-- Whatever the ticks and the answers of the sockets: with more fuel than a full bucket has bytes
the loops of every tick end, and within the buffer; after each send the tokens are between zero and
the burst; and from one tick to any later one, both included, what is sent is at most the burst and
the rate times the time between them. -/
theorem pacing_bounded (reconnectDelayFor : String → Nat → Nat) (index : Nat) (plan : FlowPlan)
    (start : Nat) (ticks : List PacedTick)
    (ordered : (start :: ticks.map PacedTick.now).Pairwise (· ≤ ·)) :
    let flow := PacedFlow.new plan start
    ∃ serviced,
      (∀ fuel, ⌊flow.burst⌋₊ < fuel →
        flow.run reconnectDelayFor fuel index ticks = .ok serviced) ∧
      (∀ one ∈ serviced,
        one.flow.tokens = one.level - sentBytes one.sends ∧
        ∀ sent rest, one.sends = sent ++ rest →
          0 ≤ one.level - sentBytes sent ∧ one.level - sentBytes sent ≤ flow.burst) ∧
      ∀ before first between after, serviced = before ++ first :: between ++ after →
        ((first :: between).map fun one => (sentBytes one.sends : Rat)).sum ≤
          flow.burst + plan.bandwidthBps.toNat / 8 *
            asSecs (first.flow.lastTick between - first.flow.previous) := by
  intro flow
  have sound : flow.Sound := PacedFlow.sound_new plan start
  obtain ⟨serviced, chained, ends⟩ := PacedFlow.run_ends reconnectDelayFor sound index ordered
  refine ⟨serviced, ends, fun one mem => ?_, fun before first between after cut => ?_⟩
  · obtain ⟨before, after, rfl⟩ := List.append_of_mem mem
    obtain ⟨found, -, ⟨-, tick, -⟩, burst, -⟩ := chained.suffix sound
    refine ⟨tick.draws.left, fun sent rest cut => ?_⟩
    have left := tick.draws.left
    have nonneg := tick.draws.nonneg
    have room : one.level ≤ flow.burst := by
      rw [tick.level, ← burst]
      exact refill_le_burst
    dsimp only at left nonneg
    rw [cut, sentBytes_append, Nat.cast_add] at left
    have more : (0 : Rat) ≤ sentBytes rest := Nat.cast_nonneg _
    have some_ : (0 : Rat) ≤ sentBytes sent := Nat.cast_nonneg _
    constructor
    · linarith
    · linarith
  · rw [List.append_assoc] at cut
    subst cut
    obtain ⟨found, -, chained, burst, rate⟩ := chained.suffix sound
    have window := chained.of_append
    have bound := sum_drawn_le window.solvent
    obtain ⟨-, tick, later⟩ := window
    rw [later.sum_credit, tick.bytesPerSecond, rate, burst] at bound
    rw [← PacedFlow.sum_drawn_rounds found]
    exact bound

/-- A UDP flow of one megabit per second whose second tick is skipped. -/
theorem pacing_bounded_skipped :
    let plan : FlowPlan :=
      { flowId := "flow-1", protocol := .udp, dstIp := (192, 0, 2, 1), dstPort := 5201
        bandwidthBps := 1000000, payloadBytes := 1400, tcpMss := 0 }
    let ticks : List PacedTick :=
      [{ now := 100000000, answers := fun _ => .sent 1400 },
        { now := 300000000, answers := fun attempt => if attempt < 3 then .sent 1400 else .wouldBlock }]
    ∃ serviced,
      (∀ fuel, ⌊(PacedFlow.new plan 0).burst⌋₊ < fuel →
        (PacedFlow.new plan 0).run (fun _ delay => delay) fuel 0 ticks = .ok serviced) ∧
      ∀ one ∈ serviced, ∀ sent rest, one.sends = sent ++ rest →
        0 ≤ one.level - sentBytes sent ∧
          one.level - sentBytes sent ≤ (PacedFlow.new plan 0).burst := by
  intro plan ticks
  obtain ⟨serviced, ends, bucket, -⟩ :=
    pacing_bounded (fun _ delay => delay) 0 plan 0 ticks (by simp [ticks])
  exact ⟨serviced, ends, fun one mem => (bucket one mem).2⟩

end NetOpsBench
