import RackFabric.Model.Transport
import RackFabric.Properties.Framing

/-! Frames are put together again from any chunks. A timeout between two frames
does no harm; one inside a frame loses what the call had read. -/
namespace RackFabric

/-! The events of a socket, byte by byte. -/

inductive Signal where
  | byte (value : UInt8)
  | timeout
  | failure (error : Str)
deriving DecidableEq

namespace Signal

def error : Signal → Option Str
  | .byte _ => none
  | .timeout => some (str "receive timed out")
  | .failure error => some error

def leading : List Signal → Bytes
  | .byte value :: signals => value :: leading signals
  | _ => []

@[simp] theorem leading_nil : leading [] = [] := rfl

theorem leading_bytes (bytes : Bytes) (signals : List Signal) :
    leading (bytes.map .byte ++ signals) = bytes ++ leading signals := by
  induction bytes with
  | nil => rfl
  | cons value bytes ih => simp only [List.map_cons, List.cons_append, leading, ih]

theorem leading_stopped {signal : Signal} {error : Str} (h : signal.error = some error)
    (signals : List Signal) : leading (signal :: signals) = [] := by
  cases signal with
  | byte value => cases h
  | timeout | failure => rfl

def value? : Signal → Option UInt8
  | .byte value => some value
  | _ => none

end Signal

def delivered (signals : List Signal) : Bytes := signals.filterMap Signal.value?

theorem delivered_bytes (bytes : Bytes) (signals : List Signal) :
    delivered (bytes.map .byte ++ signals) = bytes ++ delivered signals := by
  induction bytes with
  | nil => rfl
  | cons value bytes ih =>
    rw [List.map_cons, List.cons_append, List.cons_append, ← ih]
    rfl

def SocketEvent.signals : SocketEvent → List Signal
  | .bytes chunk => chunk.map .byte
  | .timeout => [.timeout]
  | .failure error => [.failure error]

def timeline (events : List SocketEvent) : List Signal :=
  events.flatMap SocketEvent.signals

@[simp] theorem timeline_nil : timeline [] = [] := rfl

@[simp] theorem timeline_cons (event : SocketEvent) (events : List SocketEvent) :
    timeline (event :: events) = event.signals ++ timeline events := rfl

inductive Collects (wanted : Nat) (received : Bytes) (signals : List Signal) : Collected → Prop where
  | filled {missing : Bytes} {rest : List SocketEvent}
      (henough : received.length + missing.length = wanted)
      (hsignals : signals = missing.map .byte ++ timeline rest) :
      Collects wanted received signals (.filled (received ++ missing) rest)
  | failed (early : Bytes) {signal : Signal} {error : Str} {rest : List SocketEvent}
      (hearly : received.length + early.length < wanted) (herror : signal.error = some error)
      (hsignals : signals = early.map .byte ++ signal :: timeline rest) :
      Collects wanted received signals (.failed error rest)
  | waiting (early : Bytes) (hearly : received.length + early.length < wanted)
      (hsignals : signals = early.map .byte) : Collects wanted received signals .waiting

theorem Collects.prepend {wanted : Nat} {received chunk : Bytes} {signals : List Signal}
    {collected : Collected} (h : Collects wanted (received ++ chunk) signals collected) :
    Collects wanted received (chunk.map .byte ++ signals) collected := by
  cases h with
  | filled henough hsignals =>
    rw [List.append_assoc]
    refine .filled (by simpa [Nat.add_assoc] using henough) ?_
    rw [hsignals, List.map_append, List.append_assoc]
  | @failed early signal _ _ hearly herror hsignals =>
    refine .failed (chunk ++ early) (by simpa [Nat.add_assoc] using hearly) herror ?_
    rw [hsignals, List.map_append, List.append_assoc]
  | @waiting early hearly hsignals =>
    refine .waiting (chunk ++ early) (by simpa [Nat.add_assoc] using hearly) ?_
    rw [hsignals, List.map_append]

theorem collect_collects (wanted : Nat) (received : Bytes) (h : received.length ≤ wanted)
    (events : List SocketEvent) :
    Collects wanted received (timeline events) (collect wanted received events) := by
  induction events generalizing received with
  | nil =>
    unfold collect
    split
    · rename_i hshort
      exact .waiting [] hshort rfl
    · have hfull : received.length = wanted := by omega
      conv => arg 4; rw [← List.append_nil received]
      exact .filled hfull rfl
  | cons event events ih =>
    unfold collect
    split
    · have hfull : received.length = wanted := by omega
      conv => arg 4; rw [← List.append_nil received]
      exact .filled hfull rfl
    · cases event with
      | bytes chunk =>
        simp only [timeline_cons, SocketEvent.signals]
        split
        · rename_i hfits
          exact (ih _ (by rw [List.length_append]; omega)).prepend
        · refine .filled (by rw [List.length_take]; omega) ?_
          rw [timeline_cons, SocketEvent.signals, ← List.append_assoc, ← List.map_append,
            List.take_append_drop]
      | timeout => exact .failed [] (by simpa using by omega) rfl rfl
      | failure error => exact .failed [] (by simpa using by omega) rfl rfl

inductive Receives (limits : ResourceLimits) (signals : List Signal) : Received → Prop where
  | frame {frame : Frame} {rest : List SocketEvent} (hsupported : frame.Supported limits)
      (hsmall : frame.payload.length < 2 ^ 32)
      (hsignals : signals = (frameBytes frame).map .byte ++ timeline rest) :
      Receives limits signals (.frame frame rest)
  | interrupted (early : Bytes) {signal : Signal} {error : Str} {rest : List SocketEvent}
      (herror : signal.error = some error)
      (hsignals : signals = early.map .byte ++ signal :: timeline rest) :
      Receives limits signals (.failed error rest)
  | refused (read : Bytes) {error : Str} {rest : List SocketEvent}
      (hread : kFrameHeaderBytes ≤ read.length) (herror : error ≠ str "receive timed out")
      (hsignals : signals = read.map .byte ++ timeline rest) :
      Receives limits signals (.failed error rest)
  | waiting (early : Bytes) (hsignals : signals = early.map .byte) :
      Receives limits signals .waiting

theorem receivePayload_receives {limits : ResourceLimits} {header : Bytes}
    (hheader : header.length = kFrameHeaderBytes) (events : List SocketEvent) :
    Receives limits (header.map .byte ++ timeline events)
      (receivePayload limits header events) := by
  have hread : kFrameHeaderBytes ≤ header.length := Nat.le_of_eq hheader.symm
  unfold receivePayload
  simp only []
  split
  · exact .refused header hread (by decide) rfl
  split
  · exact .refused header hread (by decide) rfl
  have hcollects := collect_collects (kFrameOverheadBytes + loadU32 header 20) header
    (by rw [hheader, kFrameOverheadBytes]; omega) events
  generalize collect _ header events = collected at hcollects ⊢
  cases hcollects with
  | @waiting early hearly hsignals =>
    refine .waiting (header ++ early) ?_
    rw [hsignals, List.map_append]
  | @failed early signal error rest hearly herror hsignals =>
    refine .interrupted (header ++ early) herror ?_
    rw [hsignals, List.map_append, List.append_assoc]
  | @filled missing rest henough hsignals =>
    have hbuffer : header.map Signal.byte ++ timeline events =
        (header ++ missing).map .byte ++ timeline rest := by
      rw [hsignals, List.map_append, List.append_assoc]
    simp only [decodeFrame]
    split
    · rename_i status _ _
      refine .refused (header ++ missing) ?_ ?_ hbuffer
      · rw [List.length_append]
        omega
      · cases status <;> decide
    · rename_i decoded hdecoded
      obtain ⟨hsupported, hsmall, hconsumed, hbytes⟩ := frame_of_ok hdecoded
      obtain ⟨type, -, -, -, hframe⟩ := validHeader_of_ok hdecoded
      have hlength : loadU32 (header ++ missing) 20 = loadU32 header 20 :=
        loadAt_of_initial (List.prefix_append _ _) (by rw [hheader]; decide)
      have hwhole : decoded.consumed = (header ++ missing).length := by
        rw [hframe, hlength, List.length_append, henough]
      rw [hwhole, List.drop_length, List.append_nil] at hbytes
      exact .frame hsupported hsmall (by rw [hbytes, hbuffer])

/-- A header alone is shorter than any frame. -/
theorem decodeFrame_header {header : Bytes} (hheader : header.length = kFrameHeaderBytes)
    (limits : ResourceLimits) :
    ∃ detail, decodeFrame (some header) limits = .error (.truncatedFrame, detail) := by
  have hshort : header.length < kFrameOverheadBytes := by
    rw [hheader]
    decide
  simp only [decodeFrame, decodeFrameBytes]
  rw [failFrameIf_bind_of_true (decide_eq_true hshort)]
  exact ⟨_, rfl⟩

theorem receive_receives (limits : ResourceLimits) (events : List SocketEvent) :
    Receives limits (timeline events) (receive limits events) := by
  have hcollects := collect_collects kFrameHeaderBytes [] (Nat.zero_le _) events
  unfold receive
  generalize collect kFrameHeaderBytes [] events = collected at hcollects ⊢
  cases hcollects with
  | waiting early hearly hsignals => exact .waiting early hsignals
  | failed early hearly herror hsignals => exact .interrupted early herror hsignals
  | @filled header rest henough hsignals =>
    have hheader : header.length = kFrameHeaderBytes := by
      rw [← henough, List.length_nil, Nat.zero_add]
    obtain ⟨detail, hdetail⟩ := decodeFrame_header hheader limits
    simp only [List.nil_append, hdetail, ne_eq, not_true_eq_false, if_false]
    rw [hsignals]
    exact receivePayload_receives hheader rest

/-! What a call comes to when the timeline is known. -/

theorem Collects.leading_lt {wanted : Nat} {received missing early : Bytes}
    (tail : List Signal) (hearly : received.length + early.length < wanted)
    (henough : received.length + missing.length = wanted)
    (hleading : Signal.leading (missing.map .byte ++ tail) = early) : False := by
  rw [Signal.leading_bytes] at hleading
  have hlength := congrArg List.length hleading
  rw [List.length_append] at hlength
  omega

theorem byte_injective : Function.Injective Signal.byte := fun _ _ h => Signal.byte.inj h

theorem collect_filled {wanted : Nat} {received missing : Bytes} {tail : List Signal}
    {events : List SocketEvent} (henough : received.length + missing.length = wanted)
    (h : timeline events = missing.map .byte ++ tail) :
    ∃ rest, collect wanted received events = .filled (received ++ missing) rest ∧
      timeline rest = tail := by
  have hcollects := collect_collects wanted received (by omega) events
  rw [h] at hcollects
  generalize collect wanted received events = collected at hcollects ⊢
  cases hcollects with
  | @filled other rest henough' hsignals =>
    have hlength : missing.length = other.length := by omega
    obtain ⟨hbytes, htail⟩ := List.append_inj hsignals (by simpa using hlength)
    obtain rfl := List.map_injective_iff.mpr byte_injective hbytes
    exact ⟨rest, rfl, htail.symm⟩
  | @failed early signal _ rest hearly herror hsignals =>
    refine (Collects.leading_lt tail hearly henough ?_).elim
    rw [hsignals, Signal.leading_bytes, Signal.leading_stopped herror, List.append_nil]
  | @waiting early hearly hsignals =>
    refine (Collects.leading_lt tail hearly henough ?_).elim
    rw [hsignals, ← List.append_nil (early.map Signal.byte), Signal.leading_bytes,
      Signal.leading_nil, List.append_nil]

theorem receive_frame {limits : ResourceLimits} {frame : Frame} (h : frame.Supported limits)
    (hsmall : frame.payload.length < 2 ^ 32) {tail : List Signal} {events : List SocketEvent}
    (htimeline : timeline events = (frameBytes frame).map .byte ++ tail) :
    ∃ rest, receive limits events = .frame frame rest ∧ timeline rest = tail := by
  have hwhole : frameBytes frame = headerBytes frame ++
      (frame.payload ++ LittleEndian.encode 4 (crc32c (coveredBytes frame)).toNat) := by
    rw [frameBytes, coveredBytes, List.append_assoc]
  have hsplit := htimeline
  rw [hwhole, List.map_append, List.append_assoc] at hsplit
  obtain ⟨behind, hheader, hbehind⟩ :=
    @collect_filled kFrameHeaderBytes [] _ _ _ (by simp) hsplit
  have hlength : loadU32 (headerBytes frame) 20 = frame.payload.length := by
    rw [header_payloadLength frame (List.prefix_refl _), Nat.mod_eq_of_lt hsmall]
  have htotal : (headerBytes frame).length +
      (frame.payload ++ LittleEndian.encode 4 (crc32c (coveredBytes frame)).toNat).length =
        kFrameOverheadBytes + frame.payload.length := by
    rw [← List.length_append, ← hwhole, length_frameBytes]
  obtain ⟨rest, hframe, hrest⟩ := collect_filled htotal hbehind
  obtain ⟨detail, hdetail⟩ := decodeFrame_header (length_headerBytes frame) limits
  have hdecoded : decodeFrame (some (frameBytes frame ++ [])) limits =
      .ok ⟨frame, (frameBytes frame).length⟩ := h.decoded hsmall []
  rw [List.append_nil, hwhole] at hdecoded
  refine ⟨rest, ?_, hrest⟩
  simp only [receive, hheader, List.nil_append, hdetail, ne_eq, not_true_eq_false, if_false,
    receivePayload, hlength, gt_iff_lt, Nat.not_lt.mpr h.payload, Nat.not_lt.mpr h.total, hframe,
    hdecoded]

theorem receive_timeout (limits : ResourceLimits) {tail : List Signal} {events : List SocketEvent}
    (htimeline : timeline events = .timeout :: tail) :
    ∃ rest, receive limits events = .failed (str "receive timed out") rest ∧
      timeline rest = tail := by
  have hcollects := collect_collects kFrameHeaderBytes [] (Nat.zero_le _) events
  rw [htimeline] at hcollects
  unfold receive
  generalize collect kFrameHeaderBytes [] events = collected at hcollects ⊢
  cases hcollects with
  | @filled missing rest henough hsignals =>
    cases missing with
    | nil => cases henough
    | cons value missing => cases hsignals
  | @failed early signal error rest hearly herror hsignals =>
    cases early with
    | nil =>
      obtain ⟨rfl, rfl⟩ := List.cons.inj hsignals
      obtain rfl := Option.some.inj herror
      exact ⟨rest, rfl, rfl⟩
    | cons value early => cases hsignals
  | @waiting early hearly hsignals =>
    cases early with
    | nil => cases hsignals
    | cons value early => cases hsignals

theorem receive_nothing (limits : ResourceLimits) {events : List SocketEvent}
    (htimeline : timeline events = []) : receive limits events = .waiting := by
  have hcollects := collect_collects kFrameHeaderBytes [] (Nat.zero_le _) events
  rw [htimeline] at hcollects
  unfold receive
  generalize collect kFrameHeaderBytes [] events = collected at hcollects ⊢
  cases hcollects with
  | @filled missing rest henough hsignals =>
    cases missing with
    | nil => cases henough
    | cons value missing => cases hsignals
  | @failed early signal error rest hearly herror hsignals => cases early <;> cases hsignals
  | waiting => rfl

/-! The loop. -/

/-- The bytes of the frames one after another, with timeouts only between frames. -/
inductive Spaced (limits : ResourceLimits) : List Frame → List Signal → Prop where
  | nil : Spaced limits [] []
  | timeout {frames : List Frame} {tail : List Signal} (hlater : Spaced limits frames tail) :
      Spaced limits frames (.timeout :: tail)
  | frame {frame : Frame} {frames : List Frame} {bytes : Bytes} {tail : List Signal}
      (hencoded : encodeFrame frame limits = some bytes) (hlater : Spaced limits frames tail) :
      Spaced limits (frame :: frames) (bytes.map .byte ++ tail)

def totalLength (frames : List Frame) : Nat :=
  (frames.map fun frame => (frameBytes frame).length).sum

@[simp] theorem totalLength_nil : totalLength [] = 0 := rfl

@[simp] theorem totalLength_cons (frame : Frame) (frames : List Frame) :
    totalLength (frame :: frames) = (frameBytes frame).length + totalLength frames := by
  simp [totalLength]

/-- Frames that are spaced are dispatched, whatever the chunks. -/
theorem serveLoop_of_spaced {limits : ResourceLimits} {frames : List Frame}
    {signals : List Signal} (h : Spaced limits frames signals)
    (hframes : ∀ frame ∈ frames, frame.Supported limits ∧ frame.payload.length < 2 ^ 32)
    {fuel : Nat} {events : List SocketEvent} (htimeline : timeline events = signals)
    (hfuel : signals.length < fuel) : serveLoop limits fuel events = frames := by
  induction h generalizing fuel events with
  | nil =>
    cases fuel with
    | zero => cases hfuel
    | succ fuel => simp only [serveLoop, receive_nothing limits htimeline]
  | timeout hlater ih =>
    cases fuel with
    | zero => cases hfuel
    | succ fuel =>
      obtain ⟨rest, hreceive, hrest⟩ := receive_timeout limits htimeline
      simp only [serveLoop, hreceive, if_true]
      exact ih hframes hrest (Nat.lt_of_succ_lt_succ hfuel)
  | @frame frame frames bytes tail hencoded hlater ih =>
    obtain ⟨-, -, rfl⟩ := encodeFrame_eq_some_iff.mp hencoded
    obtain ⟨hsupported, hsmall⟩ := hframes frame List.mem_cons_self
    obtain ⟨rest, hreceive, hrest⟩ := receive_frame hsupported hsmall htimeline
    have hpositive := frameBytes_pos frame
    rw [List.length_append, List.length_map] at hfuel
    cases fuel with
    | zero => cases hfuel
    | succ fuel =>
      simp only [serveLoop, hreceive]
      rw [ih (fun other hother => hframes other (List.mem_cons_of_mem _ hother)) hrest (by omega)]

theorem serveLoop_small (limits : ResourceLimits) (fuel : Nat) (events : List SocketEvent) :
    ∀ frame ∈ serveLoop limits fuel events, frame.payload.length < 2 ^ 32 := by
  induction fuel generalizing events with
  | zero => intro frame hmem; cases hmem
  | succ fuel ih =>
    have hreceives := receive_receives limits events
    unfold serveLoop
    generalize receive limits events = received at hreceives ⊢
    cases hreceives with
    | @frame frame rest hsupported hsmall hsignals =>
      intro other hmem
      rcases List.mem_cons.mp hmem with rfl | hlater
      · exact hsmall
      · exact ih rest other hlater
    | @interrupted early signal error rest herror hsignals =>
      simp only []
      split
      · exact ih rest
      · intro frame hmem
        cases hmem
    | refused read hread herror hsignals =>
      simp only [if_neg herror]
      intro frame hmem
      cases hmem
    | waiting hsignals =>
      intro frame hmem
      cases hmem

/-- The dispatched frames are no longer than the bytes that were delivered, and when
they are as long, no timeout has come inside one of them. -/
theorem spaced_of_serveLoop (limits : ResourceLimits) {fuel : Nat} {events : List SocketEvent}
    (hfuel : (timeline events).length < fuel)
    (hopen : ∀ error, Signal.failure error ∉ timeline events) :
    totalLength (serveLoop limits fuel events) ≤ (delivered (timeline events)).length ∧
      ((delivered (timeline events)).length ≤ totalLength (serveLoop limits fuel events) →
        Spaced limits (serveLoop limits fuel events) (timeline events)) := by
  induction fuel generalizing events with
  | zero => cases hfuel
  | succ fuel ih =>
    have hreceives := receive_receives limits events
    unfold serveLoop
    generalize receive limits events = received at hreceives ⊢
    cases hreceives with
    | @frame frame rest hsupported hsmall hsignals =>
      have hpositive := frameBytes_pos frame
      rw [hsignals] at hfuel hopen ⊢
      rw [List.length_append, List.length_map] at hfuel
      obtain ⟨hbelow, hspaced⟩ := @ih rest (by omega)
        fun error hmem => hopen error (List.mem_append_right _ hmem)
      simp only [delivered_bytes, List.length_append, totalLength_cons]
      refine ⟨by omega, fun hreached => ?_⟩
      exact .frame hsupported.encoded (hspaced (by omega))
    | @interrupted early signal error rest herror hsignals =>
      rw [hsignals] at hfuel hopen ⊢
      obtain rfl : signal = .timeout := by
        cases signal with
        | byte value => cases herror
        | timeout => rfl
        | failure error => exact absurd (List.mem_append_right _ List.mem_cons_self) (hopen error)
      obtain rfl := Option.some.inj herror
      rw [List.length_append, List.length_cons] at hfuel
      obtain ⟨hbelow, hspaced⟩ := @ih rest (by omega)
        fun error hmem => hopen error (List.mem_append_right _ (List.mem_cons_of_mem _ hmem))
      simp only [if_true, delivered_bytes, List.length_append]
      have hlater : delivered (.timeout :: timeline rest) = delivered (timeline rest) := rfl
      rw [hlater]
      refine ⟨by omega, fun hreached => ?_⟩
      obtain rfl : early = [] := List.eq_nil_of_length_eq_zero (by omega)
      exact .timeout (hspaced (by omega))
    | @refused read error rest hread herror hsignals =>
      rw [hsignals]
      simp only [if_neg herror, delivered_bytes, List.length_append, totalLength_nil]
      rw [kFrameHeaderBytes] at hread
      exact ⟨Nat.zero_le _, fun hreached => by omega⟩
    | @waiting early hsignals =>
      have hdelivered := delivered_bytes early []
      rw [List.append_nil] at hdelivered
      rw [hsignals, hdelivered]
      simp only [totalLength_nil]
      refine ⟨Nat.zero_le _, fun hreached => ?_⟩
      obtain rfl : early = [] := by
        refine List.eq_nil_of_length_eq_zero ?_
        rw [List.length_append] at hreached
        omega
      exact .nil

theorem length_timeline_le (events : List SocketEvent) :
    (timeline events).length ≤ (events.map SocketEvent.weight).sum := by
  induction events with
  | nil => exact Nat.le_refl _
  | cons event events ih =>
    have hevent : event.signals.length ≤ event.weight := by
      cases event with
      | bytes chunk => simp [SocketEvent.signals, SocketEvent.weight]
      | timeout | failure => exact Nat.le_refl _
    rw [timeline_cons, List.length_append, List.map_cons, List.sum_cons]
    exact Nat.add_le_add hevent ih

theorem mem_timeline_failure {error : Str} {events : List SocketEvent}
    (h : Signal.failure error ∈ timeline events) : .failure error ∈ events := by
  obtain ⟨event, hevent, hsignal⟩ := List.mem_flatMap.mp h
  cases event with
  | bytes chunk =>
    obtain ⟨value, -, hvalue⟩ := List.mem_map.mp hsignal
    cases hvalue
  | timeout =>
    rw [SocketEvent.signals, List.mem_singleton] at hsignal
    cases hsignal
  | failure other =>
    rw [SocketEvent.signals, List.mem_singleton] at hsignal
    cases hsignal
    exact hevent

theorem mapM_encodeFrame {limits : ResourceLimits} {frames : List Frame}
    (h : ∀ frame ∈ frames, frame.Supported limits) :
    frames.mapM (encodeFrame · limits) = some (frames.map frameBytes) := by
  induction frames with
  | nil => rfl
  | cons frame frames ih =>
    have hframe := (h frame List.mem_cons_self).encoded
    have hframes := ih fun other hother => h other (List.mem_cons_of_mem _ hother)
    simp [List.mapM_cons, hframe, hframes]

/-- The socket brings the frames, in any chunks and with any timeouts, and the
connection stays open. -/
structure Delivery (limits : ResourceLimits) (frames : List Frame) (events : List SocketEvent) :
    Prop where
  supported : ∀ frame ∈ frames, frame.Supported limits
  opened : ∀ error : Str, .failure error ∉ events
  whole : (frames.mapM (encodeFrame · limits)).map List.flatten = some (delivered (timeline events))

theorem Delivery.length {limits : ResourceLimits} {frames : List Frame}
    {events : List SocketEvent} (h : Delivery limits frames events) :
    (delivered (timeline events)).length = totalLength frames := by
  have hwhole := h.whole
  rw [mapM_encodeFrame h.supported] at hwhole
  rw [← Option.some.inj hwhole, List.length_flatten, List.map_map]
  rfl

/-- The loop takes up the frames that are sent, each once and in order, exactly when
their lengths can be told and no timeout comes inside one of them. -/
theorem frames_reassembled_iff (limits : ResourceLimits) (frames : List Frame)
    (events : List SocketEvent) (h : Delivery limits frames events) :
    dispatched limits events = frames ↔
      (∀ frame ∈ frames, frame.payload.length < 2 ^ 32) ∧ Spaced limits frames (timeline events) := by
  have hfuel : (timeline events).length < (events.map SocketEvent.weight).sum + 1 :=
    Nat.lt_succ_of_le (length_timeline_le events)
  constructor
  · intro hdispatched
    obtain ⟨-, hspaced⟩ := spaced_of_serveLoop limits hfuel fun error hmem =>
      h.opened error (mem_timeline_failure hmem)
    have hsmall := serveLoop_small limits ((events.map SocketEvent.weight).sum + 1) events
    change serveLoop limits _ events = frames at hdispatched
    rw [hdispatched] at hspaced hsmall
    exact ⟨hsmall, hspaced (Nat.le_of_eq h.length)⟩
  · rintro ⟨hsmall, hspaced⟩
    exact serveLoop_of_spaced hspaced
      (fun frame hframe => ⟨h.supported frame hframe, hsmall frame hframe⟩) rfl hfuel

def heartbeatFrame : Frame where
  type := .heartbeat
  correlation := 9

/-- Two frames in three chunks, with a timeout between the frames. -/
def patientEvents : List SocketEvent :=
  [.bytes ((frameBytes smallFrame).take 5), .bytes ((frameBytes smallFrame).drop 5), .timeout,
    .bytes (frameBytes heartbeatFrame)]

theorem patient_frames_reassembled :
    dispatched {} patientEvents = [smallFrame, heartbeatFrame] ↔
      (∀ frame ∈ [smallFrame, heartbeatFrame], frame.payload.length < 2 ^ 32) ∧
        Spaced {} [smallFrame, heartbeatFrame] (timeline patientEvents) := by
  refine frames_reassembled_iff {} [smallFrame, heartbeatFrame] patientEvents ⟨?_, ?_, ?_⟩
  · intro frame hframe
    rcases List.mem_pair.mp hframe with rfl | rfl
    · exact ⟨rfl, by decide, Or.inr rfl, by decide, by decide⟩
    · exact ⟨rfl, by decide, Or.inl rfl, by decide, by decide⟩
  · intro error hmem
    simp [patientEvents] at hmem
  · decide +kernel

/-- One frame in two chunks, with a timeout in between. -/
def hastyEvents : List SocketEvent :=
  [.bytes ((frameBytes smallFrame).take 5), .timeout, .bytes ((frameBytes smallFrame).drop 5)]

/-- The five bytes that were read are lost, and with them the frame. -/
theorem interrupted_frame_lost :
    Delivery {} [smallFrame] hastyEvents ∧ dispatched {} hastyEvents ≠ [smallFrame] := by
  refine ⟨⟨?_, ?_, ?_⟩, ?_⟩
  · intro frame hframe
    obtain rfl := List.mem_singleton.mp hframe
    exact ⟨rfl, by decide, Or.inr rfl, by decide, by decide⟩
  · intro error hmem
    simp [hastyEvents] at hmem
  · decide +kernel
  · decide +kernel

end RackFabric
