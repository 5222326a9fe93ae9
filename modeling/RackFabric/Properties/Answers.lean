import RackFabric.Properties.Codec
import RackFabric.Properties.Integrity
import RackFabric.Properties.PayloadCodec
import RackFabric.Properties.Serving

/-! A request is answered exactly once unless its answer does not fit the
bounds of the protocol, or it publishes a snapshot. -/
namespace RackFabric
open Std Enumeration

/-! What a reply takes to be encoded. -/

namespace Reply

def strings : Reply → List Str
  | .helloAck message =>
      message.coordinatorVersion :: (message.rack.map (·.value)).toList
  | .registerAck _ => []
  | .result message => [message.code, message.detail]
  | .error message => [message.detail]
  | .snapshotResponse snapshot =>
      [snapshot.id.value, snapshot.rack.value, snapshot.rackEpoch.value, snapshot.digest]

def fixedBytes : Reply → Nat
  | .helloAck _ => 12
  | .registerAck _ => 97
  | .result _ => 83
  | .error _ => 2
  | .snapshotResponse _ => 105

def size (reply : Reply) : Nat :=
  reply.fixedBytes + (reply.strings.map fun text => 4 + text.length).sum

/-- The bounds of the protocol on a reply: its strings, its payload, its frame. -/
structure Fits (limits : ResourceLimits) (reply : Reply) : Prop where
  strings : ∀ text ∈ reply.strings, text.length ≤ limits.maxStringBytes
  payload : reply.size ≤ limits.maxPayloadBytes
  frame : kFrameOverheadBytes + reply.size ≤ limits.maxFrameBytes

end Reply

theorem encodeFrame_isSome_iff (frame : Frame) (limits : ResourceLimits) :
    (encodeFrame frame limits).isSome = true ↔
      frame.payload.length ≤ limits.maxPayloadBytes ∧
        kFrameOverheadBytes + frame.payload.length ≤ limits.maxFrameBytes := by
  unfold encodeFrame
  split
  · simp; omega
  · split
    · simp; omega
    · simp; omega

theorem Response.encode_isSome_iff {limits : ResourceLimits} (response : Response) :
    (response.encode limits).isSome = true ↔
      ∃ payload, response.reply.encode limits = some payload ∧
        payload.length ≤ limits.maxPayloadBytes ∧
        kFrameOverheadBytes + payload.length ≤ limits.maxFrameBytes := by
  unfold Response.encode
  cases h : response.reply.encode limits with
  | none => simp
  | some payload =>
    simp only [Option.bind_some, encodeFrame_isSome_iff, Option.some.injEq, exists_eq_left']

namespace Reply
variable {limits : ResourceLimits} {reply : Reply}

/-- The payload of a reply, in terms of its strings and of its size. -/
structure Encodes (limits : ResourceLimits) (reply : Reply) : Prop where
  fits : ∀ {payload}, reply.encode limits = some payload →
    (∀ text ∈ reply.strings, text.length ≤ limits.maxStringBytes) ∧ payload.length = reply.size
  encodes : reply.Fits limits → ∃ payload, reply.encode limits = some payload

/-- The replies that the payload writer writes. -/
theorem encodes_of_ops {ops : List PayloadOp}
    (hencode : reply.encode limits = PayloadWriter.encode limits ops)
    (hfits : (∀ op ∈ ops, op.Fits limits) ↔
      ∀ text ∈ reply.strings, text.length ≤ limits.maxStringBytes)
    (hsize : (ops.flatMap PayloadOp.bytes).length = reply.size) : reply.Encodes limits where
  fits := by
    intro payload h
    rw [hencode] at h
    by_cases hops : ∀ op ∈ ops, op.Fits limits
    · rw [PayloadWriter.encode_of_fits hops] at h
      obtain rfl := Option.some.inj h
      exact ⟨hfits.mp hops, hsize⟩
    · rw [PayloadWriter.encode_of_not_fits hops] at h
      cases h
  encodes := fun h =>
    ⟨_, hencode.trans (PayloadWriter.encode_of_fits (hfits.mpr h.strings))⟩

theorem encodes_helloAck (message : HelloAckMessage) : (helloAck message).Encodes limits := by
  apply encodes_of_ops rfl
  · cases h : message.rack <;> simp [HelloAckMessage.encode, PayloadOp.optionalString, strings, h]
  · cases h : message.rack <;>
      simp [HelloAckMessage.encode, PayloadOp.optionalString, strings, size, fixedBytes, h] <;>
      omega

theorem encodes_registerAck (message : RegisterAckMessage) :
    (registerAck message).Encodes limits := by
  apply @encodes_of_ops limits _ message.encode rfl
  · simp [RegisterAckMessage.encode, writeGenerationSet, strings]
  · simp [RegisterAckMessage.encode, writeGenerationSet, strings, size, fixedBytes]

theorem encodes_result (message : ResultMessage) : (result message).Encodes limits := by
  apply encodes_of_ops rfl
  · simp [ResultMessage.encode, writeGenerationSet, strings]
  · simp [ResultMessage.encode, writeGenerationSet, strings, size, fixedBytes]
    omega

theorem encodes_error (message : ErrorMessage) : (error message).Encodes limits := by
  apply encodes_of_ops rfl
  · simp [ErrorMessage.encode, strings]
  · simp [ErrorMessage.encode, strings, size, fixedBytes]

def snapshotOps (snapshot : RackSnapshot) : List WriteOp :=
  [.string snapshot.id.value, .generation snapshot.generation,
    .generation snapshot.publicationGeneration, .timestamp snapshot.createdAt,
    .string snapshot.rack.value, .string snapshot.rackEpoch.value] ++
  encodeGenerationSet snapshot.generations ++
  [.u8 (toUInt8 snapshot.lifecycle), .string snapshot.digest]

theorem fits_snapshotOps (snapshot : RackSnapshot) :
    (∀ op ∈ snapshotOps snapshot, op.Fits limits) ↔
      ∀ text ∈ (snapshotResponse snapshot).strings, text.length ≤ limits.maxStringBytes := by
  simp [snapshotOps, encodeGenerationSet, WriteOp.generation, WriteOp.timestamp, WriteOp.u64,
    WriteOp.i64, WriteOp.Fits, strings]

theorem length_generationSet (generations : GenerationSet) :
    ((encodeGenerationSet generations).flatMap WriteOp.bytes).length = 80 := by
  simp [encodeGenerationSet, WriteOp.generation, WriteOp.u64, WriteOp.bytes]

theorem length_snapshotOps (snapshot : RackSnapshot) :
    ((snapshotOps snapshot).flatMap WriteOp.bytes).length = (snapshotResponse snapshot).size := by
  simp only [snapshotOps, List.flatMap_append, List.length_append, length_generationSet]
  simp only [WriteOp.generation, WriteOp.timestamp, WriteOp.u64, WriteOp.i64, WriteOp.bytes,
    List.flatMap_cons, List.flatMap_nil, List.length_append, List.length_cons, List.length_nil,
    LittleEndian.length_encode, strings, size, fixedBytes, List.map_cons, List.map_nil,
    List.sum_cons, List.sum_nil]
  omega

theorem encodes_snapshotResponse (snapshot : RackSnapshot) :
    (snapshotResponse snapshot).Encodes limits where
  fits := by
    intro payload h
    simp only [Reply.encode, encodeSnapshotPayload] at h
    split at h
    · rename_i hwritten
      obtain ⟨hbuffer, hfits⟩ :=
        ByteWriter.writeAll_ok (snapshotOps snapshot) (Option.isNone_iff_eq_none.mp hwritten)
      obtain rfl := Option.some.inj h
      exact ⟨(fits_snapshotOps snapshot).mp hfits,
        (congrArg List.length hbuffer).trans (length_snapshotOps snapshot)⟩
    · cases h
  encodes := by
    intro h
    have hroom : ((snapshotOps snapshot).flatMap WriteOp.bytes).length ≤ limits.maxPayloadBytes :=
      (length_snapshotOps snapshot).trans_le h.payload
    have hwritten := @ByteWriter.writeAll_of_fits
      { limits := limits, maxBytes := limits.maxPayloadBytes } (snapshotOps snapshot)
      ((fits_snapshotOps snapshot).mpr h.strings) (by simpa using hroom)
    refine ⟨(snapshotOps snapshot).flatMap WriteOp.bytes, ?_⟩
    simp only [Reply.encode, encodeSnapshotPayload]
    rw [← snapshotOps, hwritten]
    rfl

theorem encodes (limits : ResourceLimits) (reply : Reply) : reply.Encodes limits := by
  cases reply with
  | helloAck message => exact encodes_helloAck message
  | registerAck message => exact encodes_registerAck message
  | result message => exact encodes_result message
  | error message => exact encodes_error message
  | snapshotResponse snapshot => exact encodes_snapshotResponse snapshot

/-- A reply is sent when it meets its bounds, and only then. -/
theorem encode_isSome_iff (limits : ResourceLimits) (correlation : UInt64) (reply : Reply) :
    (Response.encode limits ⟨correlation, reply⟩).isSome = true ↔ reply.Fits limits := by
  rw [Response.encode_isSome_iff]
  constructor
  · rintro ⟨payload, hencode, hpayload, hframe⟩
    obtain ⟨hstrings, hsize⟩ := (encodes limits reply).fits hencode
    exact ⟨hstrings, hsize ▸ hpayload, hsize ▸ hframe⟩
  · intro h
    obtain ⟨payload, hencode⟩ := (encodes limits reply).encodes h
    have hsize := ((encodes limits reply).fits hencode).2
    exact ⟨payload, hencode, hsize ▸ h.payload, hsize ▸ h.frame⟩

end Reply

/-! Which requests are answered once. -/

/-- The result that carries an explanation, cut to 4096 bytes, meets its bounds. -/
def Explanation.Sendable (limits : ResourceLimits) (explanation : Explanation) : Prop :=
  let detail := min 4096 explanation.render.length
  explanation.code.length ≤ limits.maxStringBytes ∧ detail ≤ limits.maxStringBytes ∧
    91 + explanation.code.length + detail ≤ limits.maxPayloadBytes ∧
    119 + explanation.code.length + detail ≤ limits.maxFrameBytes

/-- One answer, and within the bounds. The fabric's explanation can exceed them,
and a published snapshot comes with a result of its own. -/
def AnsweredOnce (options : CoordinatorOptions) (fabric : RackState) (session : Session)
    (now : Timestamp) (request : Request) : Prop :=
  let limits := options.limits
  match admitRequest fabric session request with
  | .error refusal => (Reply.error ⟨refusal.error, refusal.detail⟩).Fits limits
  | .ok .hello => (Reply.helloAck (helloAck fabric)).Fits limits
  | .ok (.register _ _ _) => 97 ≤ limits.maxPayloadBytes ∧ 125 ≤ limits.maxFrameBytes
  | .ok (.query message) => (Reply.result (queryResult limits fabric now message)).Fits limits
  | .ok (.mutation mutation) =>
      ∀ result ∈ (fabric.submit options.fabric now mutation).2, result.explanation.Sendable limits
  | .ok (.heartbeat request) => (fabric.heartbeat now request).2.explanation.Sendable limits
  | .ok (.snapshot request) =>
      match RackState.publishSnapshot options.fabric fabric now request with
      | ((_, result), some snapshot) =>
          if result.outcome.isAccepted then
            Xor ((Reply.snapshotResponse snapshot).Fits limits)
              (result.explanation.Sendable limits)
          else result.explanation.Sendable limits
      | ((_, result), none) => result.explanation.Sendable limits

section
variable {options : CoordinatorOptions} {fabric : RackState} {session : Session}
  {now : Timestamp} {request : Request}

/-- The coordinator submits no mutation that has no result. -/
theorem submit_of_admitMutation {boot : AgentBootId} {mutation : Mutation}
    (h : admitMutation fabric boot request = .ok (.mutation mutation)) :
    ∃ result, (fabric.submit options.fabric now mutation).2 = some result := by
  unfold admitMutation at h
  split at h
  case h_15 => cases h
  all_goals
    obtain ⟨⟨message, token⟩, -, h⟩ := bind_eq_ok.mp h
    cases h <;> exact ⟨_, rfl⟩

theorem admitMutation_of_admit {mutation : Mutation}
    (h : admitRequest fabric session request = .ok (.mutation mutation)) :
    ∃ boot, admitMutation fabric boot request = .ok (.mutation mutation) := by
  unfold admitRequest at h
  split at h
  · cases h
  · split at h
    · obtain ⟨hello, -, h⟩ := bind_eq_ok.mp h
      split at h <;> cases h
    · obtain ⟨message, -, h⟩ := bind_eq_ok.mp h
      split at h
      · split at h
        · cases h
        · split at h <;> cases h
      · cases h
    · obtain ⟨message, -, h⟩ := bind_eq_ok.mp h
      cases h
    · split at h
      · split at h
        · cases h
        · exact ⟨_, h⟩
      · cases h

/-! A reply that fits is sent, and no other. -/

theorem sends_one_iff (limits : ResourceLimits) (correlation : UInt64) (message : Reply) :
    (∃ reply, send limits correlation (.reply message) = [⟨correlation, reply⟩]) ↔
      message.Fits limits := by
  rw [send_reply, ← Reply.encode_isSome_iff limits correlation]
  split
  · simp [*]
  · simp [*]

theorem sends_one_of_two_iff (limits : ResourceLimits) (correlation : UInt64)
    (first second : Reply) :
    (∃ reply, send limits correlation (.reply first) ++ send limits correlation (.reply second) =
        [⟨correlation, reply⟩]) ↔ Xor (first.Fits limits) (second.Fits limits) := by
  rw [send_reply, send_reply, ← Reply.encode_isSome_iff limits correlation first,
    ← Reply.encode_isSome_iff limits correlation second]
  split <;> split <;> simp [*]

theorem sendable_iff (limits : ResourceLimits) (result : MutationResult) :
    (Reply.result (toResult result)).Fits limits ↔ result.explanation.Sendable limits := by
  have hstrings : (∀ text ∈ (Reply.result (toResult result)).strings,
        text.length ≤ limits.maxStringBytes) ↔
      result.explanation.code.length ≤ limits.maxStringBytes ∧
        min 4096 result.explanation.render.length ≤ limits.maxStringBytes := by
    simp only [Reply.strings, toResult, List.forall_mem_cons, List.not_mem_nil, false_implies,
      implies_true, and_true, List.length_take]
  have hsize : (Reply.result (toResult result)).size =
      91 + result.explanation.code.length + min 4096 result.explanation.render.length := by
    simp only [Reply.size, Reply.strings, Reply.fixedBytes, toResult, List.map_cons, List.map_nil,
      List.sum_cons, List.sum_nil, List.length_take]
    omega
  have hoverhead : kFrameOverheadBytes = 28 := rfl
  constructor
  · rintro ⟨hfits, hpayload, hframe⟩
    obtain ⟨hcode, hdetail⟩ := hstrings.mp hfits
    exact ⟨hcode, hdetail, by omega, by omega⟩
  · rintro ⟨hcode, hdetail, hpayload, hframe⟩
    exact ⟨hstrings.mpr ⟨hcode, hdetail⟩, by omega, by omega⟩

theorem registerAck_fits_iff (limits : ResourceLimits) (message : RegisterAckMessage) :
    (Reply.registerAck message).Fits limits ↔
      97 ≤ limits.maxPayloadBytes ∧ 125 ≤ limits.maxFrameBytes :=
  ⟨fun h => ⟨h.payload, h.frame⟩, fun h => ⟨by simp [Reply.strings], h.1, h.2⟩⟩

/-- A request is answered exactly once when its answer fits, unless it publishes
a snapshot, which is answered twice when both answers fit. -/
theorem answered_once_iff (options : CoordinatorOptions) (fabric : RackState) (session : Session)
    (now : Timestamp) (request : Request) :
    (∃ reply, responses options fabric session now request = [⟨request.correlation, reply⟩]) ↔
      AnsweredOnce options fabric session now request := by
  have hresult : ∀ result : MutationResult,
      (∃ reply, (replyResult result).flatMap (send options.limits request.correlation) =
        [⟨request.correlation, reply⟩]) ↔ result.explanation.Sendable options.limits := by
    intro result
    simpa [replyResult, sendable_iff] using
      sends_one_iff options.limits request.correlation (.result (toResult result))
  unfold AnsweredOnce responses serve
  cases hadmission : admitRequest fabric session request with
  | error refusal => simpa using sends_one_iff options.limits request.correlation _
  | ok command =>
    cases command with
    | hello => simpa [execute] using sends_one_iff options.limits request.correlation _
    | register worker boot registration =>
      simpa [execute, registerAck_fits_iff] using
        sends_one_iff options.limits request.correlation (.registerAck _)
    | query message => simpa [execute] using sends_one_iff options.limits request.correlation _
    | mutation mutation =>
      obtain ⟨boot, hmutation⟩ := admitMutation_of_admit hadmission
      obtain ⟨result, hanswer⟩ := @submit_of_admitMutation options _ now _ _ _ hmutation
      simpa [execute, hanswer, sendable_iff] using
        sends_one_iff options.limits request.correlation (.result (toResult result))
    | heartbeat beat => simpa [execute] using hresult _
    | snapshot publication =>
      simp only [execute]
      generalize RackState.publishSnapshot options.fabric fabric now publication = published
      obtain ⟨⟨after, result⟩, snapshot⟩ := published
      cases snapshot with
      | none => exact hresult result
      | some snapshot =>
        cases haccepted : result.outcome.isAccepted with
        | false => simpa [haccepted] using hresult result
        | true =>
          simpa [haccepted, sendable_iff] using
            sends_one_of_two_iff options.limits request.correlation (.snapshotResponse snapshot)
              (.result (toResult result))

/-- A snapshot is published with two answers: itself, and the result. -/
theorem snapshot_answered_twice {publication : SnapshotRequest} {after : RackState}
    {result : MutationResult} {snapshot : RackSnapshot}
    (hadmission : admitRequest fabric session request = .ok (.snapshot publication))
    (hpublish : RackState.publishSnapshot options.fabric fabric now publication =
      ((after, result), some snapshot))
    (haccepted : result.outcome.isAccepted = true)
    (hsnapshot : (Reply.snapshotResponse snapshot).Fits options.limits)
    (hresult : result.explanation.Sendable options.limits) :
    responses options fabric session now request =
      [⟨request.correlation, .snapshotResponse snapshot⟩,
        ⟨request.correlation, .result (toResult result)⟩] := by
  have hfirst := (Reply.encode_isSome_iff options.limits request.correlation _).mpr hsnapshot
  have hsecond := (Reply.encode_isSome_iff options.limits request.correlation _).mpr
    ((sendable_iff options.limits result).mpr hresult)
  simp [responses, serve, hadmission, execute, hpublish, haccepted, send_reply, hfirst, hsecond]

end

namespace Scenario

def longBoot : AgentBootId := .ofText (List.replicate 128 97)

def register (boot : AgentBootId) : Request where
  type := .register
  message := some { worker := some (.ofText (str "worker")), boot := some boot }

def revalidateAhead (boot : AgentBootId) : Request where
  type := .revalidate
  correlation := 1
  message := some
    { authority := { boot := some boot, publicationGeneration := some ⟨7⟩ }, all := true }

end Scenario

/-- The refusal names the boot three times, and is longer than a string may be. -/
theorem long_boot_gets_no_answer :
    let opened := serve {} (Scenario.run [Scenario.declareRack]) {} ⟨1000⟩
      (Scenario.register Scenario.longBoot)
    opened.session.boot = some Scenario.longBoot ∧
      responses {} opened.fabric opened.session ⟨1000⟩
        (Scenario.revalidateAhead Scenario.longBoot) = [] := by
  decide +kernel

end RackFabric
