import RackFabric.Properties.Reading

/-! Decoding bytes that nobody vouches for. -/
namespace RackFabric
open Enumeration ByteReader PayloadReader

section Messages
variable {limits : ResourceLimits}

theorem guards_hello : Guards limits HelloMessage.decode fun message =>
    Sound (PayloadKind.hello.identities message) message.encode :=
  .skip traces_u16 fun _ => .skip traces_generation fun _ => guards_string.bind fun _ hversion =>
  .pure ⟨validIdentities_nil, by simpa [HelloMessage.encode] using hversion⟩

theorem guards_helloAck : Guards limits HelloAckMessage.decode fun message =>
    Sound (PayloadKind.helloAck.identities message) message.encode :=
  .skip traces_u16 fun _ => .skip traces_generation fun _ => guards_string.bind fun _ hversion =>
  guards_optionalId.bind fun _ hrack => .skip traces_boolean fun _ =>
  .pure ⟨hrack.valid, by
    simpa [HelloAckMessage.encode, PayloadOp.optionalId, hversion] using hrack.narrow⟩

theorem guards_register : Guards limits RegisterMessage.decode fun message =>
    Sound (PayloadKind.register.identities message) message.encode :=
  guards_optionalId.bind fun _ hrack => guards_optionalId.bind fun _ hworker =>
  guards_optionalId.bind fun _ hboot => .skip traces_generation fun _ =>
  guards_optionalString.bind fun _ hlabel =>
  .pure ⟨by simp [PayloadKind.identities, hrack.valid, hworker.valid, hboot.valid],
    by simp [RegisterMessage.encode, hrack.narrow, hworker.narrow, hboot.narrow, hlabel]⟩

theorem guards_registerAck : Guards limits RegisterAckMessage.decode fun message =>
    Sound (PayloadKind.registerAck.identities message) message.encode :=
  .skip traces_boolean fun _ => .skip traces_generation fun _ => .skip traces_generationSet fun _ =>
  .skip traces_generation fun _ =>
  .pure ⟨validIdentities_nil, by simp [RegisterAckMessage.encode, writeGenerationSet]⟩

theorem guards_declareRack : Guards limits DeclareRackMessage.decode fun message =>
    Sound (PayloadKind.declareRack.identities message) message.encode :=
  guards_authority.bind fun _ hauthority => guards_typedId.bind fun _ hepoch =>
  guards_optionalString.bind fun _ hlabel => .skip traces_boolean fun _ =>
  .pure ⟨by simp [PayloadKind.identities, hauthority.valid, hepoch],
    by simp [DeclareRackMessage.encode, hauthority.narrow, narrow_id hepoch, hlabel]⟩

theorem guards_publishMember : Guards limits PublishMemberMessage.decode fun message =>
    message.record.details.Sent limits ∧
      Sound (PayloadKind.publishMember.identities message) (message.encode limits) :=
  guards_authority.bind fun _ hauthority => guards_memberKey.bind fun _ hkey =>
  .skip traces_enum8 fun _ => .skip traces_generation fun _ => .skip traces_evidenceHeader fun _ =>
  (guards_optional guards_memberKey).bind fun _ hparent =>
  guards_typedIds.bind fun _ hdomains => (guards_early guards_optionalId).bind fun _ hpower =>
  (guards_early guards_optionalId).bind fun _ hcooling =>
  (guards_early guards_optionalId).bind fun _ hswitch =>
  guards_details.bind fun _ hdetails =>
  (guards_many (guards_early guards_capability)).bind fun _ hcapabilities =>
  .skip traces_evidence fun _ => .skip traces_evidence fun _ => .skip traces_evidence fun _ =>
  guards_optionalString.bind fun _ hsource => .skip traces_optionalGeneration fun _ =>
  .skip traces_boolean fun _ => .pure ⟨hdetails.1, by
      simp only [PayloadKind.identities, MemberRecord.identities, ownerIdentities,
        validIdentities_append]
      exact ⟨hauthority.valid, ⟨⟨⟨⟨⟨⟨⟨hkey.valid, hparent.valid⟩, hdomains.valid⟩, hpower.valid⟩,
        hcooling.valid⟩, hswitch.valid⟩, validIdentities_details hdetails.1.decodable⟩,
        hcapabilities.valid⟩, validIdentities_none, validIdentities_none⟩, by
      simp [PublishMemberMessage.encode, hauthority.narrow, hkey.narrow, hparent.narrow,
        hdomains.narrow, hpower.narrow, hcooling.narrow, hswitch.narrow, hdetails.2,
        hcapabilities.narrow, hsource]⟩

theorem guards_publishLink : Guards limits PublishLinkMessage.decode fun message =>
    Sound (PayloadKind.publishLink.identities message) message.encode :=
  guards_authority.bind fun _ hauthority => .skip traces_enum8 fun _ =>
  guards_memberKey.bind fun _ hsource => guards_memberKey.bind fun _ htarget =>
  .skip traces_evidenceHeader fun _ => guards_optionalId.bind fun _ hlink =>
  .skip traces_optionalQuantity fun _ => guards_optionalString.bind fun _ horigin =>
  .skip traces_optionalGeneration fun _ => .skip traces_boolean fun _ =>
  .pure ⟨by simp [PayloadKind.identities, RelationshipRecord.identities, ownerIdentities,
      hauthority.valid, hsource.valid, htarget.valid, hlink.valid],
    by simp [PublishLinkMessage.encode, hauthority.narrow, hsource.narrow, htarget.narrow,
      hlink.narrow, horigin]⟩

theorem guards_publishFailureDomain :
    Guards limits PublishFailureDomainMessage.decode fun message =>
      Sound (PayloadKind.publishFailureDomain.identities message) message.encode :=
  guards_authority.bind fun _ hauthority => guards_typedId.bind fun _ hid =>
  .skip traces_enum8 fun _ => .skip traces_enum8 fun _ =>
  guards_typedIds.bind fun _ hparents => .skip traces_evidenceHeader fun _ =>
  guards_optionalString.bind fun _ hlabel => guards_optionalString.bind fun _ hsource =>
  .skip traces_optionalGeneration fun _ => .skip traces_boolean fun _ =>
  .pure ⟨by simp [PayloadKind.identities, FailureDomainRecord.identities, ownerIdentities,
      hauthority.valid, hid, hparents.valid],
    by simp [PublishFailureDomainMessage.encode, hauthority.narrow, narrow_id hid,
      hparents.narrow, hlabel, hsource]⟩

theorem guards_publishPower : Guards limits PublishPowerMessage.decode fun message =>
    Sound (PayloadKind.publishPower.identities message) message.encode :=
  guards_authority.bind fun _ hauthority => .skip traces_optionalQuantity fun _ =>
  .skip traces_optionalQuantity fun _ => (guards_many guards_budget).bind fun _ hbudgets =>
  .skip traces_evidenceHeader fun _ => guards_optionalString.bind fun _ hsource =>
  .skip traces_optionalGeneration fun _ => .skip traces_boolean fun _ =>
  .pure ⟨by simp [PayloadKind.identities, PowerEnvelopeRecord.identities, ownerIdentities,
      hauthority.valid, hbudgets.valid],
    by simp [PublishPowerMessage.encode, hauthority.narrow, hbudgets.narrow, hsource]⟩

theorem guards_publishCooling : Guards limits PublishCoolingMessage.decode fun message =>
    Sound (PayloadKind.publishCooling.identities message) message.encode :=
  guards_authority.bind fun _ hauthority => (guards_many guards_zone).bind fun _ hzones =>
  .skip traces_evidenceHeader fun _ => guards_optionalString.bind fun _ hsource =>
  .skip traces_optionalGeneration fun _ => .skip traces_boolean fun _ =>
  .pure ⟨by simp [PayloadKind.identities, CoolingEnvelopeRecord.identities, ownerIdentities,
      hauthority.valid, hzones.valid],
    by simp [PublishCoolingMessage.encode, hauthority.narrow, hzones.narrow, hsource]⟩

theorem guards_publishHealth : Guards limits PublishHealthMessage.decode fun message =>
    Sound (PayloadKind.publishHealth.identities message) message.encode :=
  guards_authority.bind fun _ hauthority => guards_memberKey.bind fun _ hmember =>
  .skip traces_evidence fun _ => .skip traces_boolean fun _ => .skip traces_evidence fun _ =>
  .skip traces_optionalGeneration fun _ =>
  .pure ⟨by simp [PayloadKind.identities, hauthority.valid, hmember.valid],
    by simp [PublishHealthMessage.encode, hauthority.narrow, hmember.narrow]⟩

theorem guards_publishCapability : Guards limits PublishCapabilityMessage.decode fun message =>
    Sound (PayloadKind.publishCapability.identities message) message.encode :=
  guards_authority.bind fun _ hauthority => guards_memberKey.bind fun _ hmember =>
  guards_capability.bind fun _ hcapability => .skip traces_optionalGeneration fun _ =>
  .pure ⟨by simp [PayloadKind.identities, hauthority.valid, hmember.valid, hcapability.valid],
    by simp [PublishCapabilityMessage.encode, hauthority.narrow, hmember.narrow,
      hcapability.narrow]⟩

theorem guards_withdraw : Guards limits WithdrawMessage.decode fun message =>
    Sound (PayloadKind.withdraw.identities message) message.encode :=
  guards_authority.bind fun _ hauthority => guards_memberKey.bind fun _ hmember =>
  .skip traces_enum8 fun _ => .skip traces_optionalGeneration fun _ =>
  .pure ⟨by simp [PayloadKind.identities, hauthority.valid, hmember.valid],
    by simp [WithdrawMessage.encode, hauthority.narrow, hmember.narrow]⟩

theorem guards_retireMember : Guards limits RetireMemberMessage.decode fun message =>
    Sound (PayloadKind.retireMember.identities message) message.encode :=
  guards_authority.bind fun _ hauthority => guards_memberKey.bind fun _ hmember =>
  .skip traces_optionalGeneration fun _ =>
  .pure ⟨by simp [PayloadKind.identities, hauthority.valid, hmember.valid],
    by simp [RetireMemberMessage.encode, hauthority.narrow, hmember.narrow]⟩

theorem guards_revalidate : Guards limits RevalidateMessage.decode fun message =>
    Sound (PayloadKind.revalidate.identities message) message.encode :=
  guards_authority.bind fun _ hauthority => .skip traces_boolean fun _ =>
  (guards_many guards_memberKey).bind fun _ hmembers =>
  .pure ⟨by simp [PayloadKind.identities, hauthority.valid, hmembers.valid],
    by simp [RevalidateMessage.encode, hauthority.narrow, hmembers.narrow]⟩

theorem guards_heartbeat : Guards limits HeartbeatMessage.decode fun message =>
    Sound (PayloadKind.heartbeat.identities message) message.encode :=
  guards_authority.bind fun _ hauthority => .skip traces_generation fun _ =>
  .pure ⟨hauthority.valid, by simp [HeartbeatMessage.encode, hauthority.narrow]⟩

theorem guards_query : Guards limits QueryMessage.decode fun message =>
    Sound (PayloadKind.query.identities message) message.encode :=
  .skip traces_u16 fun _ => (guards_optional guards_memberKey).bind fun _ hmember =>
  guards_optionalId.bind fun _ hdomain =>
  .pure ⟨by simp [PayloadKind.identities, hmember.valid, hdomain.valid],
    by simp [QueryMessage.encode, hmember.narrow, hdomain.narrow]⟩

theorem guards_snapshotRequest : Guards limits SnapshotRequestMessage.decode fun message =>
    Sound (PayloadKind.snapshotRequest.identities message) message.encode :=
  guards_authority.bind fun _ hauthority => .skip traces_boolean fun _ =>
  .pure ⟨hauthority.valid, by simp [SnapshotRequestMessage.encode, hauthority.narrow]⟩

theorem guards_result : Guards limits ResultMessage.decode fun message =>
    Sound (PayloadKind.result.identities message) message.encode :=
  .skip traces_boolean fun _ => .skip traces_enum16 fun _ => .skip traces_generationSet fun _ =>
  guards_string.bind fun _ hcode => guards_string.bind fun _ hdetail =>
  .pure ⟨validIdentities_nil, by
    simp [ResultMessage.encode, writeGenerationSet, hcode, hdetail]⟩

theorem guards_error : Guards limits ErrorMessage.decode fun message =>
    Sound (PayloadKind.error.identities message) message.encode :=
  .skip traces_enum16 fun _ => guards_string.bind fun _ hdetail =>
  .pure ⟨validIdentities_nil, by simp [ErrorMessage.encode, hdetail]⟩

end Messages

namespace PayloadKind

/-- What a payload decodes to names valid identities only, and its lengths are those of the
payload. -/
theorem guards_reader (limits : ResourceLimits) : (kind : PayloadKind) →
    Guards limits kind.reader fun message =>
      Sound (kind.identities message) (kind.calls limits message)
  | hello => guards_hello
  | helloAck => guards_helloAck
  | register => guards_register
  | registerAck => guards_registerAck
  | declareRack => guards_declareRack
  | publishMember => guards_publishMember.mono fun _ h => h.2
  | publishLink => guards_publishLink
  | publishFailureDomain => guards_publishFailureDomain
  | publishPower => guards_publishPower
  | publishCooling => guards_publishCooling
  | publishHealth => guards_publishHealth
  | publishCapability => guards_publishCapability
  | withdraw => guards_withdraw
  | retireMember => guards_retireMember
  | revalidate => guards_revalidate
  | heartbeat => guards_heartbeat
  | query => guards_query
  | snapshotRequest => guards_snapshotRequest
  | result => guards_result
  | error => guards_error

abbrev Decoding (limits : ResourceLimits) (kind : PayloadKind) :
    Bytes → List Access → Except DecodeStatus (kind.Message × Bytes) → Prop :=
  Run (PayloadPart { limits := limits }) { limits := limits } kind.reader

/-- Every payload is decoded in a run, and all that a run does stays within the payload and
the limits. A message that comes out of it is valid and bounded, and has used up the payload. -/
theorem decode_safe (limits : ResourceLimits) (kind : PayloadKind) (payload : Bytes) :
    (∃ accesses outcome, kind.Decoding limits payload accesses outcome) ∧
      (∀ accesses outcome, kind.Decoding limits payload accesses outcome →
        outcome = kind.reader { limits := limits } payload ∧
          ∀ access ∈ accesses, access.Within limits) ∧
      ∀ message, kind.decode limits payload = .ok message →
        ValidIdentities (kind.identities message) ∧
          (∀ op ∈ kind.calls limits message, op.Fits limits) ∧
          kind.reader { limits := limits } payload = .ok (message, []) := by
  have hguards := guards_reader limits kind
  refine ⟨?_, fun accesses outcome hrun => ⟨?_, ?_⟩, fun message hdecoded => ?_⟩
  · obtain ⟨accesses, hrun⟩ := hguards.traced payload
    exact ⟨accesses, _, hrun⟩
  · exact (hrun.outcome_eq fun hpart => hpart.sound.1).symm
  · exact hrun.forall_events fun hpart => hpart.sound.2
  · have hread := decode_eq_ok.mp hdecoded
    have hsound := hguards.ensured payload message [] hread
    exact ⟨hsound.valid, ((writes_reader limits kind).whole hread).1, hread⟩

end PayloadKind

end RackFabric
