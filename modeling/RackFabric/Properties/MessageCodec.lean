import RackFabric.Properties.PayloadCodec

/-! A message payload that is decoded is encoded again as it was, unless one of its
presence bytes is neither zero nor one: such a byte is read as an absent value. -/
namespace RackFabric
open Enumeration ByteReader PayloadReader

section Records
variable {limits : ResourceLimits}

theorem writes_typedId {tag : IdentityTag} :
    Writes (rewriting limits) readTypedId fun id : StrongId tag => [.string id.value] :=
  writes_early <| writes_string.field fun text => .orFail fun id hid => by
    simp [(StrongId.eq_of_parse hid).1]

theorem writes_memberKey : Writes (rewriting limits) readMemberKey writeMemberKey := by
  refine writes_early <| writes_enum8.field fun kind => writes_string.field fun id => ?_
  split
  · exact .pure (by simp [writeMemberKey])
  · exact .fail _

theorem writes_generationSet :
    Writes (rewriting limits) readGenerationSet writeGenerationSet :=
  writes_generation.field fun _ => writes_generation.field fun _ =>
  writes_generation.field fun _ => writes_generation.field fun _ =>
  writes_generation.field fun _ => writes_generation.field fun _ =>
  writes_generation.field fun _ => writes_generation.field fun _ =>
  writes_generation.field fun _ => writes_generation.field fun _ =>
  .pure (by simp [writeGenerationSet])

theorem writes_authority : Writes (rewriting limits) readAuthority writeAuthority :=
  writes_early <| writes_generation.field fun _ => writes_optionalId.field fun _ =>
    writes_optionalGeneration.field fun _ => writes_optionalId.field fun _ =>
    .pure (by simp [writeAuthority])

theorem writes_evidenceHeader :
    Writes (rewriting limits) readEvidenceHeader writeEvidenceHeader :=
  writes_enum8.field fun _ => writes_i64.field fun _ => writes_i64.field fun _ =>
  writes_enum8.field fun _ => .pure (by simp [writeEvidenceHeader])

theorem writes_quantity : Writes (rewriting limits) readQuantity writeQuantity :=
  writes_f64.field fun _ => writes_enum8.field fun _ =>
  (writes_optional writes_f64).field fun _ => writes_evidenceHeader.field fun _ =>
  .pure (by simp [writeQuantity])

theorem writes_optionalQuantity :
    Writes (rewriting limits) (PayloadReader.optional readQuantity)
      (PayloadOp.optional writeQuantity) :=
  writes_optional writes_quantity

theorem writes_evidence {α : Type} [Inhabited α] [DecidableEq α] [Enum8 α] :
    Writes (rewriting limits) readEvidence (writeEvidence : EvidenceValue α → List PayloadOp) :=
  writes_evidenceHeader.field fun _ => writes_enum8.field fun _ => .pure (by simp [writeEvidence])

/-- The details fill their payload, which is persisted as it was. -/
theorem writes_memberDetails : Writes (rewriting limits) readDetails
    fun details => [.sized (detailBytes limits details)] := by
  refine writes_bytes.fitting.bind fun calls payload hpayload => ?_
  obtain ⟨rfl, hfits⟩ := hpayload
  have hsize : payload.length ≤ limits.maxPayloadBytes := hfits _ List.mem_cons_self
  refine .ofConfig PayloadReading.limits rfl ?_
  split
  · rename_i details hdecoded
    have hdetails : detailBytes limits details = payload := detailBytes_of_decoded hdecoded hsize
    exact .pure (by simp [hdetails])
  · exact .fail _

theorem writes_capability : Writes (rewriting limits) readCapability writeCapability :=
  writes_typedId.field fun _ => writes_evidenceHeader.field fun _ =>
  writes_optionalString.field fun _ => .pure (by simp [writeCapability])

theorem writes_budget : Writes (rewriting limits) readBudget writeBudget :=
  writes_typedId.field fun _ => writes_optionalQuantity.field fun _ =>
  writes_optionalQuantity.field fun _ => .pure (by simp [writeBudget])

theorem writes_zone : Writes (rewriting limits) readZone writeZone :=
  writes_typedId.field fun _ => writes_optionalQuantity.field fun _ =>
  writes_optionalQuantity.field fun _ => writes_optionalQuantity.field fun _ =>
  (writes_optional writes_evidence).field fun _ => .pure (by simp [writeZone])

end Records

section Messages
variable {limits : ResourceLimits}

theorem writes_hello : Writes (rewriting limits) HelloMessage.decode HelloMessage.encode :=
  writes_u16.field fun _ => writes_generation.field fun _ => writes_string.field fun _ =>
  .pure (by simp [HelloMessage.encode])

theorem writes_helloAck : Writes (rewriting limits) HelloAckMessage.decode HelloAckMessage.encode :=
  writes_u16.field fun _ => writes_generation.field fun _ => writes_string.field fun _ =>
  writes_optionalId.field fun _ => writes_boolean.field fun _ =>
  .pure (by simp [HelloAckMessage.encode, PayloadOp.optionalId])

theorem writes_register : Writes (rewriting limits) RegisterMessage.decode RegisterMessage.encode :=
  writes_optionalId.field fun _ => writes_optionalId.field fun _ =>
  writes_optionalId.field fun _ => writes_generation.field fun _ =>
  writes_optionalString.field fun _ => .pure (by simp [RegisterMessage.encode])

theorem writes_registerAck :
    Writes (rewriting limits) RegisterAckMessage.decode RegisterAckMessage.encode :=
  writes_boolean.field fun _ => writes_generation.field fun _ =>
  writes_generationSet.field fun _ => writes_generation.field fun _ =>
  .pure (by simp [RegisterAckMessage.encode])

theorem writes_declareRack :
    Writes (rewriting limits) DeclareRackMessage.decode DeclareRackMessage.encode :=
  writes_authority.field fun _ => writes_typedId.field fun _ =>
  writes_optionalString.field fun _ => writes_boolean.field fun _ =>
  .pure (by simp [DeclareRackMessage.encode])

theorem writes_publishMember :
    Writes (rewriting limits) PublishMemberMessage.decode (PublishMemberMessage.encode limits) :=
  writes_authority.field fun _ => writes_memberKey.field fun _ =>
  writes_enum8.field fun _ => writes_generation.field fun _ =>
  writes_evidenceHeader.field fun _ => (writes_optional writes_memberKey).field fun _ =>
  (writes_many writes_typedId).field fun _ => (writes_early writes_optionalId).field fun _ =>
  (writes_early writes_optionalId).field fun _ => (writes_early writes_optionalId).field fun _ =>
  writes_memberDetails.field fun _ =>
  (writes_many (writes_early writes_capability)).field fun _ =>
  writes_evidence.field fun _ => writes_evidence.field fun _ => writes_evidence.field fun _ =>
  writes_optionalString.field fun _ => writes_optionalGeneration.field fun _ =>
  writes_boolean.field fun _ => .pure (by simp [PublishMemberMessage.encode])

theorem writes_publishLink :
    Writes (rewriting limits) PublishLinkMessage.decode PublishLinkMessage.encode :=
  writes_authority.field fun _ => writes_enum8.field fun _ => writes_memberKey.field fun _ =>
  writes_memberKey.field fun _ => writes_evidenceHeader.field fun _ =>
  writes_optionalId.field fun _ => writes_optionalQuantity.field fun _ =>
  writes_optionalString.field fun _ => writes_optionalGeneration.field fun _ =>
  writes_boolean.field fun _ => .pure (by simp [PublishLinkMessage.encode])

theorem writes_publishFailureDomain :
    Writes (rewriting limits) PublishFailureDomainMessage.decode
      PublishFailureDomainMessage.encode :=
  writes_authority.field fun _ => writes_typedId.field fun _ => writes_enum8.field fun _ =>
  writes_enum8.field fun _ => (writes_many writes_typedId).field fun _ =>
  writes_evidenceHeader.field fun _ => writes_optionalString.field fun _ =>
  writes_optionalString.field fun _ => writes_optionalGeneration.field fun _ =>
  writes_boolean.field fun _ => .pure (by simp [PublishFailureDomainMessage.encode])

theorem writes_publishPower :
    Writes (rewriting limits) PublishPowerMessage.decode PublishPowerMessage.encode :=
  writes_authority.field fun _ => writes_optionalQuantity.field fun _ =>
  writes_optionalQuantity.field fun _ => (writes_many writes_budget).field fun _ =>
  writes_evidenceHeader.field fun _ => writes_optionalString.field fun _ =>
  writes_optionalGeneration.field fun _ => writes_boolean.field fun _ =>
  .pure (by simp [PublishPowerMessage.encode])

theorem writes_publishCooling :
    Writes (rewriting limits) PublishCoolingMessage.decode PublishCoolingMessage.encode :=
  writes_authority.field fun _ => (writes_many writes_zone).field fun _ =>
  writes_evidenceHeader.field fun _ => writes_optionalString.field fun _ =>
  writes_optionalGeneration.field fun _ => writes_boolean.field fun _ =>
  .pure (by simp [PublishCoolingMessage.encode])

theorem writes_publishHealth :
    Writes (rewriting limits) PublishHealthMessage.decode PublishHealthMessage.encode :=
  writes_authority.field fun _ => writes_memberKey.field fun _ => writes_evidence.field fun _ =>
  writes_boolean.field fun _ => writes_evidence.field fun _ =>
  writes_optionalGeneration.field fun _ => .pure (by simp [PublishHealthMessage.encode])

theorem writes_publishCapability :
    Writes (rewriting limits) PublishCapabilityMessage.decode PublishCapabilityMessage.encode :=
  writes_authority.field fun _ => writes_memberKey.field fun _ => writes_capability.field fun _ =>
  writes_optionalGeneration.field fun _ => .pure (by simp [PublishCapabilityMessage.encode])

theorem writes_withdraw : Writes (rewriting limits) WithdrawMessage.decode WithdrawMessage.encode :=
  writes_authority.field fun _ => writes_memberKey.field fun _ => writes_enum8.field fun _ =>
  writes_optionalGeneration.field fun _ => .pure (by simp [WithdrawMessage.encode])

theorem writes_retireMember :
    Writes (rewriting limits) RetireMemberMessage.decode RetireMemberMessage.encode :=
  writes_authority.field fun _ => writes_memberKey.field fun _ =>
  writes_optionalGeneration.field fun _ => .pure (by simp [RetireMemberMessage.encode])

theorem writes_revalidate :
    Writes (rewriting limits) RevalidateMessage.decode RevalidateMessage.encode :=
  writes_authority.field fun _ => writes_boolean.field fun _ =>
  (writes_many writes_memberKey).field fun _ => .pure (by simp [RevalidateMessage.encode])

theorem writes_heartbeat :
    Writes (rewriting limits) HeartbeatMessage.decode HeartbeatMessage.encode :=
  writes_authority.field fun _ => writes_generation.field fun _ =>
  .pure (by simp [HeartbeatMessage.encode])

theorem writes_query : Writes (rewriting limits) QueryMessage.decode QueryMessage.encode :=
  writes_u16.field fun _ => (writes_optional writes_memberKey).field fun _ =>
  writes_optionalId.field fun _ => .pure (by simp [QueryMessage.encode])

theorem writes_snapshotRequest :
    Writes (rewriting limits) SnapshotRequestMessage.decode SnapshotRequestMessage.encode :=
  writes_authority.field fun _ => writes_boolean.field fun _ =>
  .pure (by simp [SnapshotRequestMessage.encode])

theorem writes_result : Writes (rewriting limits) ResultMessage.decode ResultMessage.encode :=
  writes_boolean.field fun _ => writes_enum16.field fun _ => writes_generationSet.field fun _ =>
  writes_string.field fun _ => writes_string.field fun _ =>
  .pure (by simp [ResultMessage.encode])

theorem writes_error : Writes (rewriting limits) ErrorMessage.decode ErrorMessage.encode :=
  writes_enum16.field fun _ => writes_string.field fun _ => .pure (by simp [ErrorMessage.encode])

end Messages

namespace PayloadKind
variable {limits : ResourceLimits} {kind : PayloadKind} {payload : Bytes} {message : kind.Message}

theorem writes_reader (limits : ResourceLimits) :
    (kind : PayloadKind) → Writes (rewriting limits) kind.reader (kind.calls limits)
  | hello => writes_hello
  | helloAck => writes_helloAck
  | register => writes_register
  | registerAck => writes_registerAck
  | declareRack => writes_declareRack
  | publishMember => writes_publishMember
  | publishLink => writes_publishLink
  | publishFailureDomain => writes_publishFailureDomain
  | publishPower => writes_publishPower
  | publishCooling => writes_publishCooling
  | publishHealth => writes_publishHealth
  | publishCapability => writes_publishCapability
  | withdraw => writes_withdraw
  | retireMember => writes_retireMember
  | revalidate => writes_revalidate
  | heartbeat => writes_heartbeat
  | query => writes_query
  | snapshotRequest => writes_snapshotRequest
  | result => writes_result
  | error => writes_error

/-- Where the decoder reads a presence byte of the payload, the byte is zero or one: a
decoder that refuses any other accepts the payload too. -/
def BinaryFlags (limits : ResourceLimits) (kind : PayloadKind) (payload : Bytes) : Prop :=
  ∃ message, kind.reader.decode { limits := limits, binaryFlags := true } payload = .ok message

theorem decode_eq_ok {α : Type} {read : PayloadReader α} {reading : PayloadReading} {value : α} :
    read.decode reading payload = .ok value ↔ read reading payload = .ok (value, []) := by
  unfold PayloadReader.decode
  cases read reading payload with
  | error status => simp
  | ok found =>
    obtain ⟨other, rest⟩ := found
    cases rest <;> simp

/-- What is decoded is encoded, to the payload again if its presence bytes are binary. -/
theorem encode_of_decoded (h : kind.decode limits payload = .ok message) :
    ∃ bytes, kind.encode limits message = some bytes ∧
      (kind.BinaryFlags limits payload ↔ payload = bytes) := by
  have hread := decode_eq_ok.mp h
  obtain ⟨hfits, hiff⟩ := (writes_reader limits kind).whole hread
  refine ⟨_, PayloadWriter.encode_of_fits hfits, Iff.trans ?_ hiff⟩
  constructor
  · rintro ⟨other, hother⟩
    have hstrict := decode_eq_ok.mp hother
    have hsame := ((writes_reader limits kind).narrower hstrict).symm.trans hread
    rwa [hsame] at hstrict
  · intro hstrict
    exact ⟨message, decode_eq_ok.mpr hstrict⟩

def Reencoded (limits : ResourceLimits) (kind : PayloadKind) (payload : Bytes) : Prop :=
  ∀ message, kind.decode limits payload = .ok message →
    kind.encode limits message = some payload

/-- Each of the payloads is encoded again as it was, and two payloads are two messages. -/
structure Canonical (limits : ResourceLimits) (kind : PayloadKind) (payload other : Bytes) :
    Prop where
  reencoded : kind.Reencoded limits payload
  reencodedOther : kind.Reencoded limits other
  unique : ∀ message, kind.decode limits payload = .ok message →
    kind.decode limits other = .ok message → payload = other

theorem reencoded_iff (limits : ResourceLimits) (kind : PayloadKind) (payload : Bytes) :
    kind.Reencoded limits payload ↔
      ∀ message, kind.decode limits payload = .ok message → kind.BinaryFlags limits payload := by
  refine forall_congr' fun message => forall_congr' fun hdecoded => ?_
  obtain ⟨bytes, hencoded, hiff⟩ := encode_of_decoded hdecoded
  rw [hencoded, hiff, Option.some.injEq, eq_comm]

/-- Payloads are canonical exactly when the presence bytes of those that are decoded are
binary. -/
theorem canonical_iff (limits : ResourceLimits) (kind : PayloadKind) (payload other : Bytes) :
    kind.Canonical limits payload other ↔
      (∀ message, kind.decode limits payload = .ok message → kind.BinaryFlags limits payload) ∧
      (∀ message, kind.decode limits other = .ok message → kind.BinaryFlags limits other) := by
  rw [← reencoded_iff, ← reencoded_iff]
  constructor
  · intro h
    exact ⟨h.reencoded, h.reencodedOther⟩
  · rintro ⟨hpayload, hother⟩
    refine ⟨hpayload, hother, fun message hdecoded hdecoded' => ?_⟩
    exact Option.some.inj ((hpayload message hdecoded).symm.trans (hother message hdecoded'))

/-- Both payloads ask about the whole rack. -/
theorem stray_flag_not_canonical : ¬ query.Canonical {} [0, 0, 2, 0] [0, 0, 0, 0] := by
  intro h
  have hstray : query.decode {} [0, 0, 2, 0] = .ok { queryKind := 0 } := rfl
  have hbinary : query.decode {} [0, 0, 0, 0] = .ok { queryKind := 0 } := rfl
  exact absurd (h.unique _ hstray hbinary) (by decide)

end PayloadKind

end RackFabric
