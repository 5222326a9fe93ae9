import RackFabric.Library.Restoring
import RackFabric.Properties.Untrusted

/-! What becomes of a message that is encoded at one end and decoded at the other. -/
namespace RackFabric
open Enumeration ByteReader

namespace PayloadReader

/-- When the writer takes these calls and their lengths fit in four bytes, the decoder yields
the value. -/
abbrev Returns (limits : ResourceLimits) {α : Type} (read : PayloadReader α)
    (calls : List PayloadOp) (value : α) : Prop :=
  Restores PayloadOp.bytes (fun call => call.Fits limits ∧ call.Narrow) { limits := limits } read
    calls value

section Leaves
variable {limits : ResourceLimits} {α : Type} {read : PayloadReader α}
  {write : α → List PayloadOp} {carry : α → α}

theorem returns_u8 (value : UInt8) : Returns limits PayloadReader.u8 [.u8 value] value := by
  refine .of_reads fun _ => ?_
  have hread : Reads { limits := limits } PayloadReader.u8 (LittleEndian.encode 1 value.toNat)
      (UInt8.ofNat value.toNat) := .number _ UInt8.ofNat value.toNat_lt
  simpa [LittleEndian.encode, PayloadOp.bytes] using hread

theorem returns_u16 (value : UInt16) : Returns limits PayloadReader.u16 [.u16 value] value := by
  refine .of_reads fun _ => ?_
  have hread : Reads { limits := limits } PayloadReader.u16 (LittleEndian.encode 2 value.toNat)
      (UInt16.ofNat value.toNat) := .number _ UInt16.ofNat value.toNat_lt
  rwa [UInt16.ofNat_toNat] at hread

theorem returns_u64 (value : UInt64) : Returns limits PayloadReader.u64 [.u64 value] value := by
  refine .of_reads fun _ => ?_
  have hread : Reads { limits := limits } PayloadReader.u64 (LittleEndian.encode 8 value.toNat)
      (UInt64.ofNat value.toNat) := .number _ UInt64.ofNat value.toNat_lt
  rwa [UInt64.ofNat_toNat] at hread

theorem reads_u32 {number : Nat} (h : number < 2 ^ 32) :
    Reads { limits := limits } PayloadReader.u32 (LittleEndian.encode 4 number)
      (UInt32.ofNat number) :=
  .number _ UInt32.ofNat h

theorem returns_i64 (value : Int64) : Returns limits PayloadReader.i64 [.i64 value] value :=
  (returns_u64 value.toUInt64).map UInt64.toInt64

theorem returns_f64 (value : Double) : Returns limits PayloadReader.f64 [.f64 value] value :=
  (returns_u64 value.bits).map Double.mk

theorem returns_generation {tag : GenerationTag} (value : Generation tag) :
    Returns limits PayloadReader.generation [.generation value] value :=
  (returns_u64 value.value).map Generation.mk

theorem returns_boolean (value : Bool) :
    Returns limits PayloadReader.boolean [.boolean value] value := by
  refine (returns_u8 (if value then 1 else 0)).then ?_
  cases value <;> exact .pure _

theorem returns_flag (value : Bool) :
    Returns limits PayloadReader.flag [.boolean value] value := by
  intro hfits rest
  refine flag_eq_ok.mpr ⟨_, returns_u8 (if value then 1 else 0) hfits rest, by simp, ?_⟩
  cases value <;> rfl

theorem returns_enum8 [DecidableEq α] [Enum8 α] (value : α) :
    Returns limits PayloadReader.enum8 [.enum8 value] value :=
  (returns_u8 (toUInt8 value)).then (.orFail _ (ofNat?_toUInt8 value))

theorem returns_enum16 [DecidableEq α] [Enum8 α] (value : α) :
    Returns limits PayloadReader.enum16 [.enum16 value] value :=
  (returns_u16 (toUInt8 value).toUInt16).then (.orFail _ (by simp))

/-- The rest of a string or of a block, after its length. -/
theorem reads_lengthPrefixed {maximum : ResourceLimits → Nat} {error : DecodeStatus} {text : Bytes}
    (hfits : text.length ≤ maximum limits) (hnarrow : text.length < 2 ^ 32) :
    Reads { limits := limits } (do
      let length ← PayloadReader.u32
      let limits ← PayloadReader.limits
      if length.toNat > maximum limits then Reader.fail error else PayloadReader.take length.toNat)
      (LittleEndian.encode 4 (text.length % 2 ^ 32) ++ text) text := by
  have hlength : (UInt32.ofNat text.length).toNat = text.length :=
    UInt32.toNat_ofNat_of_lt hnarrow
  rw [Nat.mod_eq_of_lt hnarrow]
  refine (reads_u32 hnarrow).bind fun rest => ?_
  refine reader_bind_eq_ok.mpr ⟨limits, text ++ rest, rfl, ?_⟩
  rw [hlength, if_neg (Nat.not_lt.mpr hfits)]
  exact Reads.take _ text rest

theorem returns_string (text : Str) : Returns limits PayloadReader.string [.string text] text :=
  .of_reads fun hcall => reads_lengthPrefixed hcall.1 hcall.2

theorem returns_bytes (bytes : Bytes) : Returns limits PayloadReader.bytes [.sized bytes] bytes :=
  .of_reads fun hcall => reads_lengthPrefixed hcall.1 hcall.2

theorem returns_optionalString (text : Option Str) :
    Returns limits PayloadReader.optionalString (PayloadOp.optionalString text) text := by
  cases text with
  | none => exact (returns_boolean false).then (.pure none)
  | some text => exact (returns_boolean true).cons ((returns_string text).map some)

theorem returns_optional {value : Option α}
    (h : ∀ found ∈ value, Returns limits read (write found) (carry found)) :
    Returns limits (PayloadReader.optional read) (PayloadOp.optional write value)
      (value.map carry) := by
  cases value with
  | none => exact (returns_flag false).then (.pure none)
  | some found => exact (returns_flag true).cons ((h found rfl).map some)

theorem returns_early {calls : List PayloadOp} {value : α} (h : Returns limits read calls value) :
    Returns limits (PayloadReader.early read) calls value := by
  intro hfits rest
  unfold PayloadReader.early
  rw [h hfits rest]

theorem collectionSize_eq_ok {count : Nat} {rest : Bytes}
    (hfits : (PayloadOp.collectionSize count).Fits limits)
    (hnarrow : (PayloadOp.collectionSize count).Narrow) (hrest : count ≤ rest.length) :
    PayloadReader.collectionSize { limits := limits }
      ((PayloadOp.collectionSize count).bytes ++ rest) = .ok (count, rest) := by
  have hcount : (UInt32.ofNat count).toNat = count := UInt32.toNat_ofNat_of_lt hnarrow
  rw [PayloadOp.bytes, Nat.mod_eq_of_lt hnarrow]
  refine reader_bind_eq_ok.mpr ⟨_, rest, reads_u32 hnarrow rest, ?_⟩
  refine reader_bind_eq_ok.mpr ⟨limits, rest, rfl, ?_⟩
  refine reader_bind_eq_ok.mpr ⟨rest.length, rest, rfl, ?_⟩
  have hmaximum : count ≤ limits.maxCollectionItems := hfits
  rw [hcount, if_neg (by omega)]
  rfl

/-- A collection is read back when every element of it takes up some of the payload. -/
theorem returns_many {values : List α}
    (h : ∀ value ∈ values, Returns limits read (write value) (carry value))
    (hwritten : ∀ value ∈ values, 0 < ((write value).flatMap PayloadOp.bytes).length) :
    Returns limits (PayloadReader.many read) (PayloadOp.many write values) (values.map carry) := by
  intro hfits rest
  obtain ⟨hcount, hvalues⟩ := List.forall_mem_cons.mp hfits
  have hlength := length_le_of_written hwritten
  rw [PayloadOp.many, List.flatMap_cons, List.append_assoc]
  refine reader_bind_eq_ok.mpr ⟨values.length, _, collectionSize_eq_ok hcount.1 hcount.2 ?_,
    Restores.repeated carry h hvalues rest⟩
  rw [List.length_append]
  omega

end Leaves

section Records
variable {limits : ResourceLimits}

theorem written_string (text : Str) (calls : List PayloadOp) :
    0 < ((PayloadOp.string text :: calls).flatMap PayloadOp.bytes).length := by
  simp only [List.flatMap_cons, List.length_append, PayloadOp.length_bytes_string]
  omega

theorem returns_optionalF64 (value : Option Double) :
    Returns limits (PayloadReader.optional PayloadReader.f64)
      (PayloadOp.optional (fun value => [.f64 value]) value) value := by
  have hread : Returns limits (PayloadReader.optional PayloadReader.f64)
      (PayloadOp.optional (fun value => [.f64 value]) value) (value.map id) :=
    returns_optional fun found _ => returns_f64 found
  rwa [Option.map_id, id] at hread

theorem returns_optionalGeneration {tag : GenerationTag} (value : Option (Generation tag)) :
    Returns limits (PayloadReader.optional PayloadReader.generation)
      (PayloadOp.optionalGeneration value) value := by
  have hread : Returns limits (PayloadReader.optional PayloadReader.generation)
      (PayloadOp.optionalGeneration value) (value.map id) :=
    returns_optional fun found _ => returns_generation found
  rwa [Option.map_id, id] at hread

theorem returns_optionalId {tag : IdentityTag} {id : Option (StrongId tag)}
    (h : ValidIdentities (optionalIdentities StrongId.identities id)) :
    Returns limits PayloadReader.optionalId (PayloadOp.optionalId id) id := by
  cases id with
  | none => exact (returns_optionalString none).then (.pure none)
  | some id =>
    have hset : id.isSet = true := by simpa using h
    refine (returns_optionalString (some id.value)).then ?_
    exact Reads.then (.orFail _ (by rw [StrongId.parse_value, if_pos hset])) (.pure (some id))

theorem returns_typedId {tag : IdentityTag} {id : StrongId tag} (h : id.isSet = true) :
    Returns limits readTypedId [.string id.value] id :=
  returns_early <| (returns_string id.value).then <|
    .orFail _ (by rw [StrongId.parse_value, if_pos h])

theorem returns_typedIds {tag : IdentityTag} {ids : List (StrongId tag)}
    (h : ValidIdentities (ids.flatMap StrongId.identities)) :
    Returns limits (PayloadReader.many readTypedId)
      (PayloadOp.many (fun id => [.string id.value]) ids) ids := by
  have hread : Returns limits (PayloadReader.many readTypedId)
      (PayloadOp.many (fun id => [.string id.value]) ids) (ids.map id) :=
    returns_many
      (fun id hid => returns_typedId (by simpa using validIdentities_flatMap.mp h id hid))
      fun id _ => written_string id.value []
  rwa [List.map_id] at hread

theorem returns_memberKey {key : MemberKey} (h : ValidIdentities key.identities) :
    Returns limits readMemberKey (writeMemberKey key) key := by
  refine returns_early <| (returns_enum8 key.kind).cons <| (returns_string key.id).then ?_
  rw [if_pos (validIdentities_key.mp h)]
  exact .pure key

theorem returns_optionalKey {key : Option MemberKey}
    (h : ValidIdentities (optionalIdentities MemberKey.identities key)) :
    Returns limits (PayloadReader.optional readMemberKey) (PayloadOp.optional writeMemberKey key)
      key := by
  have hread : Returns limits (PayloadReader.optional readMemberKey)
      (PayloadOp.optional writeMemberKey key) (key.map id) :=
    returns_optional fun found hfound => returns_memberKey (by subst hfound; exact h)
  rwa [Option.map_id, id] at hread

theorem returns_generationSet (value : GenerationSet) :
    Returns limits readGenerationSet (writeGenerationSet value) value :=
  (returns_generation _).cons <| (returns_generation _).cons <| (returns_generation _).cons <|
    (returns_generation _).cons <| (returns_generation _).cons <| (returns_generation _).cons <|
    (returns_generation _).cons <| (returns_generation _).cons <| (returns_generation _).cons <|
    (returns_generation _).cons <| .pure _

theorem returns_authority {token : AuthorityToken} (h : ValidIdentities token.identities) :
    Returns limits readAuthority (writeAuthority token) token := by
  obtain ⟨hboot, hrack⟩ := validIdentities_append.mp h
  simp only [writeAuthority, List.append_assoc]
  exact returns_early <| (returns_generation _).cons <| (returns_optionalId hboot).append <|
    (returns_optionalGeneration _).append <| (returns_optionalId hrack).then <| .pure _

theorem returns_evidenceHeader (evidence : Observation) :
    Returns limits readEvidenceHeader (writeEvidenceHeader evidence) evidence.carried :=
  (returns_enum8 _).cons <| (returns_i64 _).cons <| (returns_i64 _).cons <|
    (returns_enum8 _).then <| .pure _

theorem returns_quantity (quantity : Quantity) :
    Returns limits readQuantity (writeQuantity quantity) quantity.carried := by
  simp only [writeQuantity, List.cons_append, List.nil_append]
  exact (returns_f64 _).cons <| (returns_enum8 _).cons <| (returns_optionalF64 _).append <|
    (returns_evidenceHeader _).then <| .pure _

theorem returns_optionalQuantity (value : Option Quantity) :
    Returns limits (PayloadReader.optional readQuantity) (PayloadOp.optional writeQuantity value)
      (value.map Quantity.carried) :=
  returns_optional fun found _ => returns_quantity found

theorem returns_evidence {α : Type} [Inhabited α] [DecidableEq α] [Enum8 α]
    (evidence : EvidenceValue α) :
    Returns limits readEvidence (writeEvidence evidence) evidence.carried :=
  (returns_evidenceHeader _).append <| (returns_enum8 _).then <| .pure _

theorem returns_capability {capability : CapabilityRef}
    (h : ValidIdentities capability.identities) :
    Returns limits readCapability (writeCapability capability) capability.carried :=
  (returns_typedId (validIdentities_id.mp h)).cons <| (returns_evidenceHeader _).append <|
    (returns_optionalString _).then <| .pure _

theorem returns_budget {budget : PowerDomainBudget} (h : ValidIdentities budget.identities) :
    Returns limits readBudget (writeBudget budget) budget.carried :=
  (returns_typedId (validIdentities_id.mp h)).cons <| (returns_optionalQuantity _).append <|
    (returns_optionalQuantity _).then <| .pure _

theorem returns_zone {zone : CoolingZoneRecord} (h : ValidIdentities zone.identities) :
    Returns limits readZone (writeZone zone) zone.carried := by
  simp only [writeZone, List.append_assoc]
  exact (returns_typedId (validIdentities_id.mp h)).cons <| (returns_optionalQuantity _).append <|
    (returns_optionalQuantity _).append <| (returns_optionalQuantity _).append <|
    (returns_optional fun found _ => returns_evidence found).then <| .pure _

theorem returns_details {details : MemberDetails} (h : details.Sent limits) :
    Returns limits readDetails [.sized (detailBytes limits details)] details := by
  refine (returns_bytes _).then fun rest => ?_
  have hread := faithful_details.readsBack h.decodable h.fits []
  rw [List.append_nil, ← detailBytes_of_fits h.fits h.size] at hread
  refine reader_bind_eq_ok.mpr ⟨limits, rest, rfl, ?_⟩
  rw [hread]
  rfl

end Records

end PayloadReader

open PayloadReader

section Messages
variable {limits : ResourceLimits}

theorem returns_hello (message : HelloMessage) :
    Returns limits HelloMessage.decode message.encode message :=
  (returns_u16 _).cons <| (returns_generation _).cons <| (returns_string _).then <| .pure _

theorem returns_helloAck {message : HelloAckMessage}
    (h : ValidIdentities (PayloadKind.helloAck.identities message)) :
    Returns limits HelloAckMessage.decode message.encode message := by
  simp only [HelloAckMessage.encode, List.cons_append, List.nil_append]
  exact (returns_u16 _).cons <| (returns_generation _).cons <| (returns_string _).cons <|
    (returns_optionalId h).append <| (returns_boolean _).then <| .pure _

theorem returns_register {message : RegisterMessage}
    (h : ValidIdentities (PayloadKind.register.identities message)) :
    Returns limits RegisterMessage.decode message.encode message := by
  simp only [PayloadKind.identities, validIdentities_append] at h
  obtain ⟨⟨hrack, hworker⟩, hboot⟩ := h
  simp only [RegisterMessage.encode, List.append_assoc, List.cons_append, List.nil_append]
  exact (returns_optionalId hrack).append <| (returns_optionalId hworker).append <|
    (returns_optionalId hboot).append <| (returns_generation _).cons <|
    (returns_optionalString _).then <| .pure _

theorem returns_registerAck (message : RegisterAckMessage) :
    Returns limits RegisterAckMessage.decode message.encode message := by
  simp only [RegisterAckMessage.encode, List.cons_append, List.nil_append]
  exact (returns_boolean _).cons <| (returns_generation _).cons <|
    (returns_generationSet _).append <| (returns_generation _).then <| .pure _

theorem returns_declareRack {message : DeclareRackMessage}
    (h : ValidIdentities (PayloadKind.declareRack.identities message)) :
    Returns limits DeclareRackMessage.decode message.encode message := by
  obtain ⟨hauthority, hepoch⟩ := validIdentities_append.mp h
  simp only [DeclareRackMessage.encode, List.append_assoc, List.cons_append, List.nil_append]
  exact (returns_authority hauthority).append <|
    (returns_typedId (validIdentities_id.mp hepoch)).cons <|
    (returns_optionalString _).append <| (returns_boolean _).then <| .pure _

theorem returns_publishMember {message : PublishMemberMessage}
    (h : ValidIdentities (PayloadKind.publishMember.identities message))
    (hdetails : message.record.details.Sent limits) :
    Returns limits PublishMemberMessage.decode (message.encode limits)
      (PayloadKind.publishMember.carried message) := by
  simp only [PayloadKind.identities, MemberRecord.identities, validIdentities_append] at h
  obtain ⟨hauthority, ⟨⟨⟨⟨⟨⟨⟨hkey, hparent⟩, hdomains⟩, hpower⟩, hcooling⟩, hswitch⟩, -⟩,
    hcapabilities⟩, -⟩ := h
  simp only [PublishMemberMessage.encode, List.append_assoc, List.cons_append, List.nil_append]
  exact (returns_authority hauthority).append <| (returns_memberKey hkey).append <|
    (returns_enum8 _).cons <| (returns_generation _).cons <|
    (returns_evidenceHeader _).append <| (returns_optionalKey hparent).append <|
    (returns_typedIds hdomains).append <|
    (returns_early (returns_optionalId hpower)).append <|
    (returns_early (returns_optionalId hcooling)).append <|
    (returns_early (returns_optionalId hswitch)).append <|
    (returns_details hdetails).cons <|
    (returns_many (fun capability hmem => returns_early
        (returns_capability (validIdentities_flatMap.mp hcapabilities capability hmem)))
      fun capability _ => written_string _ _).append <|
    (returns_evidence _).append <| (returns_evidence _).append <|
    (returns_evidence _).append <| (returns_optionalString _).append <|
    (returns_optionalGeneration _).append <| (returns_boolean _).then <| .pure _

theorem returns_publishLink {message : PublishLinkMessage}
    (h : ValidIdentities (PayloadKind.publishLink.identities message)) :
    Returns limits PublishLinkMessage.decode message.encode
      (PayloadKind.publishLink.carried message) := by
  simp only [PayloadKind.identities, RelationshipRecord.identities, validIdentities_append] at h
  obtain ⟨hauthority, ⟨⟨hsource, htarget⟩, hlink⟩, -⟩ := h
  simp only [PublishLinkMessage.encode, List.append_assoc, List.cons_append, List.nil_append]
  exact (returns_authority hauthority).append <| (returns_enum8 _).cons <|
    (returns_memberKey hsource).append <| (returns_memberKey htarget).append <|
    (returns_evidenceHeader _).append <| (returns_optionalId hlink).append <|
    (returns_optionalQuantity _).append <| (returns_optionalString _).append <|
    (returns_optionalGeneration _).append <| (returns_boolean _).then <| .pure _

theorem returns_publishFailureDomain {message : PublishFailureDomainMessage}
    (h : ValidIdentities (PayloadKind.publishFailureDomain.identities message)) :
    Returns limits PublishFailureDomainMessage.decode message.encode
      (PayloadKind.publishFailureDomain.carried message) := by
  simp only [PayloadKind.identities, FailureDomainRecord.identities, validIdentities_append] at h
  obtain ⟨hauthority, ⟨hid, hparents⟩, -⟩ := h
  simp only [PublishFailureDomainMessage.encode, List.append_assoc, List.cons_append,
    List.nil_append]
  exact (returns_authority hauthority).append <|
    (returns_typedId (validIdentities_id.mp hid)).cons <| (returns_enum8 _).cons <|
    (returns_enum8 _).cons <| (returns_typedIds hparents).append <|
    (returns_evidenceHeader _).append <| (returns_optionalString _).append <|
    (returns_optionalString _).append <| (returns_optionalGeneration _).append <|
    (returns_boolean _).then <| .pure _

theorem returns_publishPower {message : PublishPowerMessage}
    (h : ValidIdentities (PayloadKind.publishPower.identities message)) :
    Returns limits PublishPowerMessage.decode message.encode
      (PayloadKind.publishPower.carried message) := by
  simp only [PayloadKind.identities, PowerEnvelopeRecord.identities, validIdentities_append] at h
  obtain ⟨hauthority, hbudgets, -⟩ := h
  simp only [PublishPowerMessage.encode, List.append_assoc]
  exact (returns_authority hauthority).append <| (returns_optionalQuantity _).append <|
    (returns_optionalQuantity _).append <|
    (returns_many (fun budget hmem =>
        returns_budget (validIdentities_flatMap.mp hbudgets budget hmem))
      fun budget _ => written_string _ _).append <|
    (returns_evidenceHeader _).append <| (returns_optionalString _).append <|
    (returns_optionalGeneration _).append <| (returns_boolean _).then <| .pure _

theorem returns_publishCooling {message : PublishCoolingMessage}
    (h : ValidIdentities (PayloadKind.publishCooling.identities message)) :
    Returns limits PublishCoolingMessage.decode message.encode
      (PayloadKind.publishCooling.carried message) := by
  simp only [PayloadKind.identities, CoolingEnvelopeRecord.identities,
    validIdentities_append] at h
  obtain ⟨hauthority, hzones, -⟩ := h
  simp only [PublishCoolingMessage.encode, List.append_assoc]
  exact (returns_authority hauthority).append <|
    (returns_many (fun zone hmem => returns_zone (validIdentities_flatMap.mp hzones zone hmem))
      fun zone _ => written_string _ _).append <|
    (returns_evidenceHeader _).append <| (returns_optionalString _).append <|
    (returns_optionalGeneration _).append <| (returns_boolean _).then <| .pure _

theorem returns_publishHealth {message : PublishHealthMessage}
    (h : ValidIdentities (PayloadKind.publishHealth.identities message)) :
    Returns limits PublishHealthMessage.decode message.encode
      (PayloadKind.publishHealth.carried message) := by
  obtain ⟨hauthority, hmember⟩ := validIdentities_append.mp h
  simp only [PublishHealthMessage.encode, List.append_assoc, List.cons_append, List.nil_append]
  exact (returns_authority hauthority).append <| (returns_memberKey hmember).append <|
    (returns_evidence _).append <| (returns_boolean _).cons <| (returns_evidence _).append <|
    (returns_optionalGeneration _).then <| .pure _

theorem returns_publishCapability {message : PublishCapabilityMessage}
    (h : ValidIdentities (PayloadKind.publishCapability.identities message)) :
    Returns limits PublishCapabilityMessage.decode message.encode
      (PayloadKind.publishCapability.carried message) := by
  simp only [PayloadKind.identities, validIdentities_append] at h
  obtain ⟨⟨hauthority, hmember⟩, hcapability⟩ := h
  simp only [PublishCapabilityMessage.encode, List.append_assoc]
  exact (returns_authority hauthority).append <| (returns_memberKey hmember).append <|
    (returns_capability hcapability).append <| (returns_optionalGeneration _).then <| .pure _

theorem returns_withdraw {message : WithdrawMessage}
    (h : ValidIdentities (PayloadKind.withdraw.identities message)) :
    Returns limits WithdrawMessage.decode message.encode message := by
  obtain ⟨hauthority, hmember⟩ := validIdentities_append.mp h
  simp only [WithdrawMessage.encode, List.append_assoc, List.cons_append, List.nil_append]
  exact (returns_authority hauthority).append <| (returns_memberKey hmember).append <|
    (returns_enum8 _).cons <| (returns_optionalGeneration _).then <| .pure _

theorem returns_retireMember {message : RetireMemberMessage}
    (h : ValidIdentities (PayloadKind.retireMember.identities message)) :
    Returns limits RetireMemberMessage.decode message.encode message := by
  obtain ⟨hauthority, hmember⟩ := validIdentities_append.mp h
  simp only [RetireMemberMessage.encode, List.append_assoc]
  exact (returns_authority hauthority).append <| (returns_memberKey hmember).append <|
    (returns_optionalGeneration _).then <| .pure _

theorem returns_revalidate {message : RevalidateMessage}
    (h : ValidIdentities (PayloadKind.revalidate.identities message)) :
    Returns limits RevalidateMessage.decode message.encode message := by
  obtain ⟨hauthority, hmembers⟩ := validIdentities_append.mp h
  simp only [RevalidateMessage.encode, List.append_assoc, List.cons_append, List.nil_append]
  have hread : Returns limits (PayloadReader.many readMemberKey)
      (PayloadOp.many writeMemberKey message.members) (message.members.map id) :=
    returns_many (fun key hmem => returns_memberKey (validIdentities_flatMap.mp hmembers key hmem))
      fun key _ => by simp [writeMemberKey, PayloadOp.enum8, PayloadOp.bytes]
  rw [List.map_id] at hread
  exact (returns_authority hauthority).append <| (returns_boolean _).cons <|
    hread.then <| .pure _

theorem returns_heartbeat {message : HeartbeatMessage}
    (h : ValidIdentities (PayloadKind.heartbeat.identities message)) :
    Returns limits HeartbeatMessage.decode message.encode message :=
  (returns_authority h).append <| (returns_generation _).then <| .pure _

theorem returns_query {message : QueryMessage}
    (h : ValidIdentities (PayloadKind.query.identities message)) :
    Returns limits QueryMessage.decode message.encode message := by
  obtain ⟨hmember, hdomain⟩ := validIdentities_append.mp h
  simp only [QueryMessage.encode, List.cons_append, List.nil_append]
  exact (returns_u16 _).cons <| (returns_optionalKey hmember).append <|
    (returns_optionalId hdomain).then <| .pure _

theorem returns_snapshotRequest {message : SnapshotRequestMessage}
    (h : ValidIdentities (PayloadKind.snapshotRequest.identities message)) :
    Returns limits SnapshotRequestMessage.decode message.encode message :=
  (returns_authority h).append <| (returns_boolean _).then <| .pure _

theorem returns_result (message : ResultMessage) :
    Returns limits ResultMessage.decode message.encode message := by
  simp only [ResultMessage.encode, List.cons_append, List.nil_append]
  exact (returns_boolean _).cons <| (returns_enum16 _).cons <|
    (returns_generationSet _).append <| (returns_string _).cons <|
    (returns_string _).then <| .pure _

theorem returns_error (message : ErrorMessage) :
    Returns limits ErrorMessage.decode message.encode message :=
  (returns_enum16 _).cons <| (returns_string _).then <| .pure _

end Messages

/-! The fields that do not travel. -/

section Carried
variable {α : Type}

theorem PayloadOp.optional_map {write : α → List PayloadOp} {carry : α → α}
    (h : ∀ value, write (carry value) = write value) (value : Option α) :
    PayloadOp.optional write (value.map carry) = PayloadOp.optional write value := by
  cases value <;> simp [PayloadOp.optional, h]

theorem PayloadOp.many_map {write : α → List PayloadOp} {carry : α → α}
    (h : ∀ value, write (carry value) = write value) (values : List α) :
    PayloadOp.many write (values.map carry) = PayloadOp.many write values := by
  simp [PayloadOp.many, List.flatMap_map, h]

@[simp] theorem Observation.carried_carried (evidence : Observation) :
    evidence.carried.carried = evidence.carried := rfl

@[simp] theorem EvidenceValue.carried_carried [Inhabited α] (evidence : EvidenceValue α) :
    evidence.carried.carried = evidence.carried := rfl

@[simp] theorem Quantity.carried_comp_carried :
    Quantity.carried ∘ Quantity.carried = Quantity.carried := rfl

@[simp] theorem EvidenceValue.carried_comp_carried [Inhabited α] :
    (EvidenceValue.carried ∘ EvidenceValue.carried : EvidenceValue α → EvidenceValue α) =
      EvidenceValue.carried := rfl

@[simp] theorem CapabilityRef.carried_comp_carried :
    CapabilityRef.carried ∘ CapabilityRef.carried = CapabilityRef.carried := rfl

@[simp] theorem PowerDomainBudget.carried_comp_carried :
    PowerDomainBudget.carried ∘ PowerDomainBudget.carried = PowerDomainBudget.carried := by
  funext budget
  simp [PowerDomainBudget.carried]

@[simp] theorem CoolingZoneRecord.carried_comp_carried :
    CoolingZoneRecord.carried ∘ CoolingZoneRecord.carried = CoolingZoneRecord.carried := by
  funext zone
  simp [CoolingZoneRecord.carried]

@[simp] theorem writeEvidenceHeader_carried (evidence : Observation) :
    writeEvidenceHeader evidence.carried = writeEvidenceHeader evidence := rfl

@[simp] theorem writeEvidence_carried [Inhabited α] [DecidableEq α] [Enum8 α]
    (evidence : EvidenceValue α) : writeEvidence evidence.carried = writeEvidence evidence := rfl

@[simp] theorem writeQuantity_carried (quantity : Quantity) :
    writeQuantity quantity.carried = writeQuantity quantity := rfl

@[simp] theorem writeOptionalQuantity_carried (value : Option Quantity) :
    PayloadOp.optional writeQuantity (value.map Quantity.carried) =
      PayloadOp.optional writeQuantity value :=
  PayloadOp.optional_map writeQuantity_carried value

@[simp] theorem writeOptionalEvidence_carried [Inhabited α] [DecidableEq α] [Enum8 α]
    (value : Option (EvidenceValue α)) :
    PayloadOp.optional writeEvidence (value.map EvidenceValue.carried) =
      PayloadOp.optional writeEvidence value :=
  PayloadOp.optional_map writeEvidence_carried value

theorem writeCapability_carried (capability : CapabilityRef) :
    writeCapability capability.carried = writeCapability capability := rfl

@[simp] theorem writeCapabilities_carried (capabilities : List CapabilityRef) :
    PayloadOp.many writeCapability (capabilities.map CapabilityRef.carried) =
      PayloadOp.many writeCapability capabilities :=
  PayloadOp.many_map writeCapability_carried capabilities

@[simp] theorem writeBudgets_carried (budgets : List PowerDomainBudget) :
    PayloadOp.many writeBudget (budgets.map PowerDomainBudget.carried) =
      PayloadOp.many writeBudget budgets :=
  PayloadOp.many_map (fun budget => by simp [writeBudget, PowerDomainBudget.carried]) budgets

@[simp] theorem writeZones_carried (zones : List CoolingZoneRecord) :
    PayloadOp.many writeZone (zones.map CoolingZoneRecord.carried) =
      PayloadOp.many writeZone zones :=
  PayloadOp.many_map (fun zone => by simp [writeZone, CoolingZoneRecord.carried]) zones

end Carried

namespace PayloadKind
variable {limits : ResourceLimits} {kind : PayloadKind} {payload : Bytes}
  {message received : kind.Message}

/-- The details of a member are sent whole. No other message has a payload within its own. -/
def DetailsSent (limits : ResourceLimits) : (kind : PayloadKind) → kind.Message → Prop
  | publishMember, message => message.record.details.Sent limits
  | _, _ => True

/-- A message whose encoding says all of it: its lengths fit in four bytes, and its details
in their payload. -/
structure Whole (limits : ResourceLimits) (kind : PayloadKind) (message : kind.Message) :
    Prop where
  narrow : NarrowCalls (kind.calls limits message)
  details : kind.DetailsSent limits message

theorem returns_reader : {kind : PayloadKind} → {message : kind.Message} →
    ValidIdentities (kind.identities message) → kind.DetailsSent limits message →
      Returns limits kind.reader (kind.calls limits message) (kind.carried message)
  | hello, message, _, _ => returns_hello message
  | helloAck, _, h, _ => returns_helloAck h
  | register, _, h, _ => returns_register h
  | registerAck, message, _, _ => returns_registerAck message
  | declareRack, _, h, _ => returns_declareRack h
  | publishMember, _, h, hdetails => returns_publishMember h hdetails
  | publishLink, _, h, _ => returns_publishLink h
  | publishFailureDomain, _, h, _ => returns_publishFailureDomain h
  | publishPower, _, h, _ => returns_publishPower h
  | publishCooling, _, h, _ => returns_publishCooling h
  | publishHealth, _, h, _ => returns_publishHealth h
  | publishCapability, _, h, _ => returns_publishCapability h
  | withdraw, _, h, _ => returns_withdraw h
  | retireMember, _, h, _ => returns_retireMember h
  | revalidate, _, h, _ => returns_revalidate h
  | heartbeat, _, h, _ => returns_heartbeat h
  | query, _, h, _ => returns_query h
  | snapshotRequest, _, h, _ => returns_snapshotRequest h
  | result, message, _, _ => returns_result message
  | error, message, _, _ => returns_error message

/-- The fields that do not travel are not written. -/
theorem calls_carried (message : kind.Message) :
    kind.calls limits (kind.carried message) = kind.calls limits message := by
  cases kind with
  | publishMember =>
    simp [calls, carried, PublishMemberMessage.encode, MemberRecord.carried]
  | publishLink => simp [calls, carried, PublishLinkMessage.encode, RelationshipRecord.carried]
  | publishFailureDomain => rfl
  | publishPower => simp [calls, carried, PublishPowerMessage.encode, PowerEnvelopeRecord.carried]
  | publishCooling =>
    simp [calls, carried, PublishCoolingMessage.encode, CoolingEnvelopeRecord.carried]
  | _ => rfl

theorem carried_carried (message : kind.Message) :
    kind.carried (kind.carried message) = kind.carried message := by
  cases kind with
  | publishMember => simp [carried, MemberRecord.carried]
  | publishLink => simp [carried, RelationshipRecord.carried]
  | publishPower => simp [carried, PowerEnvelopeRecord.carried]
  | publishCooling => simp [carried, CoolingEnvelopeRecord.carried]
  | _ => rfl

theorem detailsSent_carried (message : kind.Message) :
    kind.DetailsSent limits (kind.carried message) ↔ kind.DetailsSent limits message := by
  cases kind <;> rfl

/-- Nothing is decoded that was not sent whole. -/
theorem whole_of_decoded (h : kind.decode limits payload = .ok received) :
    kind.Whole limits received := by
  have hread := decode_eq_ok.mp h
  refine ⟨((guards_reader limits kind).ensured payload received [] hread).narrow, ?_⟩
  cases kind with
  | publishMember => exact (guards_publishMember.ensured payload received [] hread).1
  | _ => trivial

/-- Messages that agree on the fields that travel are sent alike. -/
theorem whole_of_carried_eq (hsame : kind.carried received = kind.carried message)
    (h : kind.Whole limits received) : kind.Whole limits message := by
  constructor
  · rw [← calls_carried, ← hsame, calls_carried]
    exact h.narrow
  · rw [← detailsSent_carried, ← hsame, detailsSent_carried]
    exact h.details

theorem decode_of_whole (hvalid : ValidIdentities (kind.identities message))
    (hencoded : kind.encode limits message = some payload) (h : kind.Whole limits message) :
    kind.decode limits payload = .ok (kind.carried message) := by
  have hfits : ∀ op ∈ kind.calls limits message, op.Fits limits := by
    by_contra hfits
    have hnone : kind.encode limits message = none := PayloadWriter.encode_of_not_fits hfits
    simp [hnone] at hencoded
  have hpayload : kind.encode limits message = some _ := PayloadWriter.encode_of_fits hfits
  rw [hencoded] at hpayload
  obtain rfl := Option.some.inj hpayload
  have hread := returns_reader hvalid h.details
    (fun op hop => ⟨hfits op hop, h.narrow op hop⟩) []
  rw [List.append_nil] at hread
  exact decode_eq_ok.mpr hread

/-- What a message is at the other end, as far as it travels, is what it was here exactly when
its encoding says all of it. -/
theorem received_iff_whole (hvalid : ValidIdentities (kind.identities message))
    (hencoded : kind.encode limits message = some payload) :
    (∃ received, kind.decode limits payload = .ok received ∧
      kind.carried received = kind.carried message) ↔ kind.Whole limits message := by
  constructor
  · rintro ⟨received, hdecoded, hsame⟩
    exact whole_of_carried_eq hsame (whole_of_decoded hdecoded)
  · intro hwhole
    exact ⟨_, decode_of_whole hvalid hencoded hwhole, carried_carried message⟩

end PayloadKind

namespace Scenario
open PayloadKind

def nodePublication (hostName : Str) : PublishMemberMessage where
  record :=
    { key := { id := str "n1" }
      details := .node { hostName := some hostName } }

def nodePayload (hostName : Str) : Bytes :=
  (publishMember.encode {} (nodePublication hostName)).getD []

theorem nodePublication_valid (hostName : Str) :
    ValidIdentities (publishMember.identities (nodePublication hostName)) := by
  change ∀ id ∈ [str "n1"], _
  decide

theorem shortHostName_received :
    (∃ received, publishMember.decode {} (nodePayload (str "h1")) = .ok received ∧
      publishMember.carried received = publishMember.carried (nodePublication (str "h1"))) ↔
      publishMember.Whole {} (nodePublication (str "h1")) :=
  received_iff_whole (nodePublication_valid (str "h1")) (by decide +kernel)

def longHostName : Str := List.replicate 300 0x68

/-- The details that do not fit are cut short, and their payload is sent all the same. -/
theorem longHostName_lost :
    ¬ ∀ (limits : ResourceLimits) (kind : PayloadKind) (message : kind.Message) (payload : Bytes),
      ValidIdentities (kind.identities message) → kind.encode limits message = some payload →
        ∃ received, kind.decode limits payload = .ok received ∧
          kind.carried received = kind.carried message := by
  intro h
  have hsome : (publishMember.encode {} (nodePublication longHostName)).isSome = true := by
    decide +kernel
  obtain ⟨payload, hencoded⟩ := Option.isSome_iff_exists.mp hsome
  obtain ⟨received, hdecoded, hsame⟩ :=
    h {} publishMember (nodePublication longHostName) payload (nodePublication_valid _) hencoded
  have hwhole := whole_of_carried_eq hsame (whole_of_decoded hdecoded)
  have hwritten : WriteOp.string longHostName ∈
      encodeDetails (nodePublication longHostName).record.details := by
    simp [nodePublication, encodeDetails, encodeNodeDetails, WriteOp.optionalString,
      WriteOp.optional]
  have hfits : longHostName.length ≤ 256 := hwhole.details.fits _ hwritten
  rw [longHostName, List.length_replicate] at hfits
  exact absurd hfits (by decide)

end Scenario

end RackFabric
