import RackFabric.Model.Sending
import RackFabric.Properties.Transmission
import RackFabric.Properties.Transport

/-! From the requests of a client to those of the coordinator: the bytes are written in any
parts and read in any chunks, and the connection may be cut. -/
namespace RackFabric
open Enumeration

/-! Writing. -/

/-- A call that ends well has written all of its bytes, any other one a part of them. -/
structure Sending.Of (sending : Sending) (bytes : Bytes) : Prop where
  initial : sending.wire <+: bytes
  whole : sending.outcome = .sent ↔ sending.wire = bytes

theorem transmit_of (bytes : Bytes) (events : List SendEvent) :
    (transmit bytes events).Of bytes := by
  induction events generalizing bytes with
  | nil =>
    cases bytes with
    | nil => exact ⟨List.nil_prefix, by simp [transmit]⟩
    | cons byte bytes => exact ⟨List.nil_prefix, by simp [transmit]⟩
  | cons event events ih =>
    cases bytes with
    | nil => exact ⟨List.nil_prefix, by simp [transmit]⟩
    | cons byte bytes =>
      unfold transmit
      simp only [List.isEmpty_cons, Bool.false_eq_true, if_false]
      cases event with
      | written more =>
        have hrest := ih ((byte :: bytes).drop (more + 1))
        have hsplit := List.take_append_drop (more + 1) (byte :: bytes)
        constructor
        · obtain ⟨later, hlater⟩ := hrest.initial
          refine ⟨later, ?_⟩
          rw [List.append_assoc, hlater, hsplit]
        · calc
            (transmit ((byte :: bytes).drop (more + 1)) events).outcome = .sent ↔
                (transmit ((byte :: bytes).drop (more + 1)) events).wire =
                  (byte :: bytes).drop (more + 1) := hrest.whole
            _ ↔ (byte :: bytes).take (more + 1) ++
                  (transmit ((byte :: bytes).drop (more + 1)) events).wire =
                (byte :: bytes).take (more + 1) ++ (byte :: bytes).drop (more + 1) :=
              (List.append_right_inj _).symm
            _ ↔ _ := by rw [hsplit]
      | timeout => exact ⟨List.nil_prefix, by simp⟩
      | failure error => exact ⟨List.nil_prefix, by simp⟩

/-! The bytes of calls that follow one another. -/

section Wire
variable {α : Type} {sending : α → Sending} {bytes : α → Bytes} {attempts : List α}

/-- The bytes on the wire are those of the calls that ended well, and a part of those of the
last call. -/
theorem wire_split
    (hsent : ∀ attempt ∈ attempts, (sending attempt).outcome = .sent →
      (sending attempt).wire = bytes attempt)
    (hunbroken : ∀ attempt ∈ attempts.dropLast,
      (sending attempt).outcome = .sent ∨ (sending attempt).wire = []) :
    ∃ rest, attempts.flatMap (fun attempt => (sending attempt).wire) =
        (attempts.filter fun attempt => (sending attempt).outcome = .sent).flatMap bytes ++ rest ∧
      (rest = [] ∨ ∃ attempt ∈ attempts, (sending attempt).outcome ≠ .sent ∧
        rest = (sending attempt).wire) := by
  induction attempts with
  | nil => exact ⟨[], rfl, Or.inl rfl⟩
  | cons attempt attempts ih =>
    have hhead := hsent attempt List.mem_cons_self
    cases attempts with
    | nil =>
      by_cases hended : (sending attempt).outcome = .sent
      · exact ⟨[], by simp [hended, hhead hended], Or.inl rfl⟩
      · exact ⟨_, by simp [hended], Or.inr ⟨attempt, List.mem_cons_self, hended, rfl⟩⟩
    | cons next attempts =>
      obtain ⟨rest, hrest, hlast⟩ := ih
        (fun other hother => hsent other (List.mem_cons_of_mem _ hother))
        (fun other hother => hunbroken other (List.mem_cons_of_mem _ hother))
      have hunbroken := hunbroken attempt List.mem_cons_self
      refine ⟨rest, ?_, hlast.imp_right ?_⟩
      · rw [List.flatMap_cons, hrest]
        by_cases hended : (sending attempt).outcome = .sent
        · have hfilter : ((attempt :: next :: attempts).filter fun attempt =>
              (sending attempt).outcome = .sent) = attempt :: ((next :: attempts).filter
                fun attempt => (sending attempt).outcome = .sent) :=
            List.filter_cons_of_pos (by simpa using hended)
          rw [hfilter, List.flatMap_cons, hhead hended, List.append_assoc]
        · have hfilter : ((attempt :: next :: attempts).filter fun attempt =>
              (sending attempt).outcome = .sent) = ((next :: attempts).filter
                fun attempt => (sending attempt).outcome = .sent) :=
            List.filter_cons_of_neg (by simpa using hended)
          rw [hfilter, hunbroken.resolve_left hended, List.nil_append]
      · rintro ⟨other, hother, hrest⟩
        exact ⟨other, List.mem_cons_of_mem _ hother, hrest⟩

end Wire

/-! Reading. -/

/-- The bytes of the frames one after another and a rest that is no frame, with timeouts only
between frames; then the connection may be closed. -/
inductive Arrives (rest : Bytes) : List Frame → List Signal → Prop where
  | open_ : Arrives rest [] (rest.map .byte)
  | closed (error : Str) : Arrives rest [] (rest.map .byte ++ [.failure error])
  | timeout {frames : List Frame} {tail : List Signal} (hlater : Arrives rest frames tail) :
      Arrives rest frames (.timeout :: tail)
  | frame {frame : Frame} {frames : List Frame} {tail : List Signal}
      (hlater : Arrives rest frames tail) :
      Arrives rest (frame :: frames) ((frameBytes frame).map .byte ++ tail)

def Unfinished (limits : ResourceLimits) (rest : Bytes) : Prop :=
  rest = [] ∨ ∃ frame : Frame, frame.Supported limits ∧ frame.payload.length < 2 ^ 32 ∧
    rest <+: frameBytes frame ∧ rest ≠ frameBytes frame

theorem not_prefix_of_unfinished {limits : ResourceLimits} {rest : Bytes}
    (h : Unfinished limits rest) {frame : Frame} (hsupported : frame.Supported limits)
    (hsmall : frame.payload.length < 2 ^ 32) : ¬ frameBytes frame <+: rest := by
  intro hinitial
  rcases h with rfl | ⟨cut, hcut, hcutSmall, hrest, hstrict⟩
  · have hpositive := frameBytes_pos frame
    rw [List.prefix_nil.mp hinitial] at hpositive
    exact absurd hpositive (Nat.lt_irrefl 0)
  · obtain ⟨behind, hbehind⟩ := hinitial.trans hrest
    have hdecoded := hsupported.decoded hsmall behind
    have hwhole := hcut.decoded hcutSmall []
    rw [List.append_nil] at hwhole
    rw [hbehind, hwhole] at hdecoded
    have hlength := congrArg DecodedFrame.consumed (Except.ok.inj hdecoded)
    have hlonger := hinitial.length_le
    exact hstrict (hrest.eq_of_length (by simp only at hlength; have := hrest.length_le; omega))

theorem leading_failure_or_nil {closing : List Signal}
    (h : closing = [] ∨ ∃ error, closing = [.failure error]) : Signal.leading closing = [] := by
  rcases h with rfl | ⟨error, rfl⟩
  · rfl
  · rfl

/-- Nothing is taken up of a frame without its end. -/
theorem serveLoop_rest {limits : ResourceLimits} {rest : Bytes} (h : Unfinished limits rest)
    {closing : List Signal} (hclosing : closing = [] ∨ ∃ error, closing = [.failure error])
    {fuel : Nat} {events : List SocketEvent}
    (htimeline : timeline events = rest.map .byte ++ closing) :
    serveLoop limits fuel events = [] := by
  cases fuel with
  | zero => rfl
  | succ fuel =>
    have hreceives := receive_receives limits events
    have hleading := leading_failure_or_nil hclosing
    rw [htimeline] at hreceives
    unfold serveLoop
    generalize receive limits events = received at hreceives ⊢
    cases hreceives with
    | @frame frame behind hsupported hsmall hsignals =>
      have hbytes := congrArg Signal.leading hsignals
      rw [Signal.leading_bytes, Signal.leading_bytes, hleading, List.append_nil] at hbytes
      exact absurd ⟨_, hbytes.symm⟩ (not_prefix_of_unfinished h hsupported hsmall)
    | @interrupted early signal error behind herror hsignals =>
      have hbytes := congrArg Signal.leading hsignals
      rw [Signal.leading_bytes, Signal.leading_bytes, hleading, Signal.leading_stopped herror,
        List.append_nil, List.append_nil] at hbytes
      subst hbytes
      have htail := List.append_cancel_left hsignals
      have hnothing : timeline behind = [] := by
        rcases hclosing with rfl | ⟨error, rfl⟩
        · cases htail
        · exact (List.cons.inj htail).2.symm
      simp only []
      split
      · cases fuel with
        | zero => rfl
        | succ fuel => simp only [serveLoop, receive_nothing limits hnothing]
      · rfl
    | refused read hread herror hsignals => simp only [if_neg herror]
    | waiting early hsignals => rfl

theorem serveLoop_of_arrives {limits : ResourceLimits} {rest : Bytes}
    (hrest : Unfinished limits rest) {frames : List Frame} {signals : List Signal}
    (h : Arrives rest frames signals)
    (hframes : ∀ frame ∈ frames, frame.Supported limits ∧ frame.payload.length < 2 ^ 32)
    {fuel : Nat} {events : List SocketEvent} (htimeline : timeline events = signals)
    (hfuel : signals.length < fuel) : serveLoop limits fuel events = frames := by
  induction h generalizing fuel events with
  | open_ => exact serveLoop_rest hrest (Or.inl rfl) (by rw [htimeline, List.append_nil])
  | closed error => exact serveLoop_rest hrest (Or.inr ⟨error, rfl⟩) htimeline
  | timeout hlater ih =>
    cases fuel with
    | zero => cases hfuel
    | succ fuel =>
      obtain ⟨behind, hreceive, hbehind⟩ := receive_timeout limits htimeline
      simp only [serveLoop, hreceive, if_true]
      exact ih hframes hbehind (Nat.lt_of_succ_lt_succ hfuel)
  | @frame frame frames tail hlater ih =>
    obtain ⟨hsupported, hsmall⟩ := hframes frame List.mem_cons_self
    obtain ⟨behind, hreceive, hbehind⟩ := receive_frame hsupported hsmall htimeline
    have hpositive := frameBytes_pos frame
    rw [List.length_append, List.length_map] at hfuel
    cases fuel with
    | zero => cases hfuel
    | succ fuel =>
      simp only [serveLoop, hreceive]
      rw [ih (fun other hother => hframes other (List.mem_cons_of_mem _ hother)) hbehind
        (by omega)]

/-! What the socket brings. -/

/-- Each timeout comes after whole frames. -/
def Punctual (frames : List Frame) (signals : List Signal) : Prop :=
  ∀ early later, signals = early ++ .timeout :: later →
    ∃ whole, whole <+: frames ∧ delivered early = whole.flatMap frameBytes

def Ends (signals : List Signal) : Prop :=
  ∀ early error later, signals = early ++ .failure error :: later → later = []

theorem signals_split (signals : List Signal) :
    ∃ others, signals = (Signal.leading signals).map .byte ++ others ∧
      (others = [] ∨ (∃ later, others = .timeout :: later) ∨
        ∃ error later, others = .failure error :: later) := by
  induction signals with
  | nil => exact ⟨[], rfl, Or.inl rfl⟩
  | cons signal signals ih =>
    cases signal with
    | byte value =>
      obtain ⟨others, hsplit, hothers⟩ := ih
      refine ⟨others, ?_, hothers⟩
      rw [Signal.leading, List.map_cons, List.cons_append, ← hsplit]
    | timeout => exact ⟨.timeout :: signals, rfl, Or.inr (Or.inl ⟨signals, rfl⟩)⟩
    | failure error => exact ⟨.failure error :: signals, rfl, Or.inr (Or.inr ⟨error, signals, rfl⟩)⟩

theorem delivered_map (bytes : Bytes) : delivered (bytes.map .byte) = bytes := by
  have h := delivered_bytes bytes []
  rwa [List.append_nil, show delivered [] = [] from rfl, List.append_nil] at h

theorem Punctual.tail {frames : List Frame} {tail : List Signal}
    (h : Punctual frames (.timeout :: tail)) : Punctual frames tail := by
  intro early later hsplit
  obtain ⟨whole, hwhole, hdelivered⟩ := h (.timeout :: early) later (by rw [hsplit]; rfl)
  exact ⟨whole, hwhole, hdelivered⟩

theorem Punctual.behind {frame : Frame} {frames : List Frame} {tail : List Signal}
    (h : Punctual (frame :: frames) ((frameBytes frame).map .byte ++ tail)) :
    Punctual frames tail := by
  intro early later hsplit
  obtain ⟨whole, hwhole, hdelivered⟩ :=
    h ((frameBytes frame).map .byte ++ early) later (by rw [hsplit, List.append_assoc])
  rw [delivered_bytes] at hdelivered
  cases whole with
  | nil =>
    have hpositive := frameBytes_pos frame
    rw [(List.append_eq_nil_iff.mp hdelivered).1] at hpositive
    exact absurd hpositive (Nat.lt_irrefl 0)
  | cons first whole =>
    obtain ⟨rfl, hbehind⟩ := List.cons_prefix_cons.mp hwhole
    exact ⟨whole, hbehind, List.append_cancel_left hdelivered⟩

theorem Ends.tail {early tail : List Signal} (h : Ends (early ++ tail)) : Ends tail :=
  fun first error later hsplit =>
    h (early ++ first) error later (by rw [hsplit, List.append_assoc])

theorem delivered_stopped {others : List Signal}
    (h : others = [] ∨ ∃ error, others = [.failure error]) : delivered others = [] := by
  rcases h with rfl | ⟨error, rfl⟩ <;> rfl

theorem arrives_rest {rest : Bytes} {others : List Signal}
    (h : others = [] ∨ ∃ error, others = [.failure error]) :
    Arrives rest [] (rest.map .byte ++ others) := by
  rcases h with rfl | ⟨error, rfl⟩
  · rw [List.append_nil]
    exact .open_
  · exact .closed error

/-- A timeout inside a frame is not punctual. -/
theorem not_early_timeout {frame : Frame} {frames : List Frame} {early : Bytes}
    {later : List Signal} (h : Punctual (frame :: frames) (early.map .byte ++ .timeout :: later))
    (hsome : early ≠ []) (hshort : early.length < (frameBytes frame).length) : False := by
  obtain ⟨whole, hwhole, hdelivered⟩ := h _ later rfl
  rw [delivered_map] at hdelivered
  cases whole with
  | nil => exact hsome hdelivered
  | cons first whole =>
    obtain ⟨rfl, -⟩ := List.cons_prefix_cons.mp hwhole
    rw [hdelivered, List.flatMap_cons, List.length_append] at hshort
    omega

/-- The bytes of the frames arrive, in any chunks. -/
theorem arrives_of_delivered {frames : List Frame} {rest : Bytes} {signals : List Signal}
    (hdelivered : delivered signals = frames.flatMap frameBytes ++ rest)
    (hpunctual : Punctual frames signals) (hends : Ends signals) : Arrives rest frames signals := by
  induction hlength : signals.length using Nat.strong_induction_on generalizing frames signals with
  | _ length ih =>
    obtain ⟨others, hsplit, hothers⟩ := signals_split signals
    generalize Signal.leading signals = early at hsplit
    subst hsplit
    rw [delivered_bytes] at hdelivered
    -- The signals before the first that is not a byte, which is a timeout or the last one.
    have hstopped : (others = [] ∨ ∃ error, others = [.failure error]) ∨
        ∃ later, others = .timeout :: later := by
      rcases hothers with rfl | htimeout | ⟨error, later, rfl⟩
      · exact Or.inl (Or.inl rfl)
      · exact Or.inr htimeout
      · rw [hends _ error later rfl]
        exact Or.inl (Or.inr ⟨error, rfl⟩)
    cases frames with
    | nil =>
      rw [List.flatMap_nil, List.nil_append] at hdelivered
      rcases hstopped with hlast | ⟨later, rfl⟩
      · rw [delivered_stopped hlast, List.append_nil] at hdelivered
        rw [hdelivered]
        exact arrives_rest hlast
      · obtain ⟨whole, hwhole, hbefore⟩ := hpunctual _ later rfl
        rw [List.prefix_nil.mp hwhole, delivered_map] at hbefore
        obtain rfl : early = [] := hbefore
        rw [List.map_nil, List.nil_append] at hpunctual hends hlength ⊢
        rw [List.length_cons] at hlength
        exact .timeout (ih later.length (by omega) hdelivered hpunctual.tail
          (@Ends.tail [.timeout] _ hends) rfl)
    | cons frame frames =>
      rw [List.flatMap_cons, List.append_assoc] at hdelivered
      by_cases hlong : (frameBytes frame).length ≤ early.length
      · -- The frame has arrived.
        obtain ⟨behind, rfl⟩ := List.prefix_of_prefix_length_le
          (hdelivered ▸ List.prefix_append (frameBytes frame) _) (List.prefix_append early _) hlong
        have hpositive := frameBytes_pos frame
        rw [List.append_assoc] at hdelivered
        rw [List.map_append, List.append_assoc] at hpunctual hends hlength ⊢
        rw [List.length_append, List.length_map] at hlength
        refine .frame (ih _ ?_ ?_ hpunctual.behind hends.tail rfl)
        · omega
        · rw [delivered_bytes]
          exact List.append_cancel_left hdelivered
      · have hshort := Nat.lt_of_not_le hlong
        rcases hstopped with hlast | ⟨later, rfl⟩
        · rw [delivered_stopped hlast, List.append_nil] at hdelivered
          rw [hdelivered, List.length_append] at hshort
          omega
        · cases early with
          | nil =>
            rw [List.map_nil, List.nil_append] at hpunctual hends hlength ⊢
            rw [List.length_cons] at hlength
            rw [← List.append_assoc, ← List.flatMap_cons] at hdelivered
            exact .timeout (ih later.length (by omega) hdelivered hpunctual.tail
              (@Ends.tail [.timeout] _ hends) rfl)
          | cons value early =>
            exact (not_early_timeout hpunctual (List.cons_ne_nil value early) hshort).elim

/-- The loop takes up exactly the frames whose calls have ended well. -/
theorem dispatched_of_delivered {limits : ResourceLimits} {frames : List Frame} {rest : Bytes}
    (hrest : Unfinished limits rest)
    (hframes : ∀ frame ∈ frames, frame.Supported limits ∧ frame.payload.length < 2 ^ 32)
    {events : List SocketEvent}
    (hdelivered : delivered (timeline events) = frames.flatMap frameBytes ++ rest)
    (hpunctual : Punctual frames (timeline events)) (hends : Ends (timeline events)) :
    dispatched limits events = frames :=
  serveLoop_of_arrives hrest (arrives_of_delivered hdelivered hpunctual hends) hframes rfl
    (Nat.lt_succ_of_le (length_timeline_le events))

/-! Requests. -/

theorem Coding.decode_of_encoded {α : Type} {coding : Coding α} {limits : ResourceLimits}
    {message : α} {payload : Bytes} (hvalid : ValidIdentities (coding.identities message))
    (hwhole : coding.kind.Whole limits (cast coding.same.symm message))
    (hencoded : coding.encode limits message = some payload) :
    coding.decode limits payload = some (coding.carried message) := by
  obtain ⟨kind, rfl⟩ := coding
  have hdecoded := PayloadKind.decode_of_whole hvalid hencoded hwhole
  simp only [Coding.decode, cast_eq] at hdecoded ⊢
  rw [hdecoded]
  rfl

/-- A request of a client that its encoding says all of. -/
structure Request.Sendable (limits : ResourceLimits) (request : Request) : Prop where
  fromClient : request.isResponse = false
  valid : ∀ coding ∈ request.type.coding, ∀ message ∈ request.message,
    ValidIdentities (coding.identities message)
  whole : ∀ coding ∈ request.type.coding, ∀ message ∈ request.message,
    coding.kind.Whole limits (cast coding.same.symm message)

namespace Request
variable {limits : ResourceLimits} {request : Request} {frame : Frame}

theorem frame_eq_some (h : request.frame limits = some frame) :
    ∃ coding ∈ request.type.coding, ∃ message ∈ request.message, ∃ payload,
      coding.encode limits message = some payload ∧
        frame = { type := request.type, correlation := request.correlation, payload := payload } := by
  unfold Request.frame at h
  simp only [Option.bind_eq_bind, Option.bind_eq_some_iff, Option.pure_def, Option.some.injEq] at h
  obtain ⟨coding, hcoding, message, hmessage, payload, hpayload, rfl⟩ := h
  exact ⟨coding, hcoding, message, hmessage, payload, hpayload, rfl⟩

theorem request_of_frame (hsendable : request.Sendable limits)
    (h : request.frame limits = some frame) : frame.request limits = request.carried := by
  obtain ⟨coding, hcoding, message, hmessage, payload, hpayload, rfl⟩ := frame_eq_some h
  have hdecoded := Coding.decode_of_encoded (hsendable.valid coding hcoding message hmessage)
    (hsendable.whole coding hcoding message hmessage) hpayload
  have hclient := hsendable.fromClient
  rw [Option.mem_def] at hcoding hmessage
  obtain ⟨type, isResponse, correlation, sent⟩ := request
  simp only [Frame.request, Request.carried] at hcoding hmessage hclient ⊢
  have hflags : decide ((0 : UInt16) &&& Frame.responseFlag ≠ 0) = false := by decide
  simp only [hcoding, hmessage, Option.bind_some, Option.map_some, hdecoded, hclient,
    Frame.isResponse, hflags]

theorem type_of_coding {type : MessageType} (h : type.coding.isSome = true) :
    (messageTypeFromValue (toUInt8 type).toNat).isSome := by
  cases type <;> first | decide | cases h

theorem supported_of_frame (h : request.frame limits = some frame) {bytes : Bytes}
    (hencoded : encodeFrame frame limits = some bytes) : frame.Supported limits := by
  obtain ⟨hpayload, htotal, -⟩ := encodeFrame_eq_some_iff.mp hencoded
  obtain ⟨coding, hcoding, message, -, payload, -, rfl⟩ := frame_eq_some h
  rw [Option.mem_def] at hcoding
  exact ⟨rfl, type_of_coding (by rw [hcoding]; rfl), Or.inl rfl, hpayload, htotal⟩

/-- What a call can put on the wire: a frame, or a part of one. -/
theorem sendRequest_cases (limits : ResourceLimits) (request : Request)
    (events : List SendEvent) :
    ((sendRequest limits request events).outcome ≠ .sent ∧
        (sendRequest limits request events).wire = []) ∨
      ∃ frame, request.frame limits = some frame ∧ frame.Supported limits ∧
        (sendRequest limits request events).Of (frameBytes frame) := by
  unfold sendRequest
  cases hframe : request.frame limits with
  | none => exact Or.inl ⟨by simp, rfl⟩
  | some frame =>
    simp only [sendFrame]
    cases hencoded : encodeFrame frame limits with
    | none => exact Or.inl ⟨by simp, rfl⟩
    | some bytes =>
      obtain ⟨-, -, rfl⟩ := encodeFrame_eq_some_iff.mp hencoded
      exact Or.inr ⟨frame, rfl, supported_of_frame hframe hencoded, transmit_of _ _⟩

end Request

def sentRequests (limits : ResourceLimits) (attempts : List (Request × List SendEvent)) :
    List Request :=
  (attempts.filter fun attempt =>
    (sendRequest limits attempt.1 attempt.2).outcome = .sent).map Prod.fst

def sentFrames (limits : ResourceLimits) (attempts : List (Request × List SendEvent)) :
    List Frame :=
  (sentRequests limits attempts).filterMap (Request.frame limits)

def wireBytes (limits : ResourceLimits) (attempts : List (Request × List SendEvent)) : Bytes :=
  attempts.flatMap fun attempt => (sendRequest limits attempt.1 attempt.2).wire

/-- A call that breaks off inside its frame is the last one on its connection. -/
def Unbroken (limits : ResourceLimits) (attempts : List (Request × List SendEvent)) : Prop :=
  ∀ attempt ∈ attempts.dropLast, (sendRequest limits attempt.1 attempt.2).outcome = .sent ∨
    (sendRequest limits attempt.1 attempt.2).wire = []

section Sent
variable {limits : ResourceLimits} {attempts : List (Request × List SendEvent)}

theorem frame_of_sent {request : Request} (h : request ∈ sentRequests limits attempts) :
    ∃ frame, request.frame limits = some frame ∧ frame.Supported limits := by
  obtain ⟨attempt, hattempt, rfl⟩ := List.mem_map.mp h
  have hsent := (List.mem_filter.mp hattempt).2
  rcases Request.sendRequest_cases limits attempt.1 attempt.2 with ⟨hfailed, -⟩ | ⟨frame, hframe,
    hsupported, -⟩
  · exact absurd (by simpa using hsent) hfailed
  · exact ⟨frame, hframe, hsupported⟩

theorem flatMap_frame (attempts : List (Request × List SendEvent)) :
    attempts.flatMap (fun attempt => ((attempt.1.frame limits).map frameBytes).getD []) =
      ((attempts.map Prod.fst).filterMap (Request.frame limits)).flatMap frameBytes := by
  induction attempts with
  | nil => rfl
  | cons attempt attempts ih =>
    rw [List.flatMap_cons, ih, List.map_cons]
    cases hframe : attempt.1.frame limits with
    | none => rw [List.filterMap_cons_none hframe, Option.map_none, Option.getD_none, List.nil_append]
    | some frame =>
      rw [List.filterMap_cons_some hframe, Option.map_some, Option.getD_some, List.flatMap_cons]

theorem wireBytes_eq (hlimit : limits.maxPayloadBytes < 2 ^ 32)
    (hunbroken : Unbroken limits attempts) :
    ∃ rest, wireBytes limits attempts = (sentFrames limits attempts).flatMap frameBytes ++ rest ∧
      Unfinished limits rest := by
  have hsent : ∀ attempt ∈ attempts, (sendRequest limits attempt.1 attempt.2).outcome = .sent →
      (sendRequest limits attempt.1 attempt.2).wire =
        ((attempt.1.frame limits).map frameBytes).getD [] := by
    intro attempt _ hended
    rcases Request.sendRequest_cases limits attempt.1 attempt.2 with ⟨hfailed, -⟩ | ⟨frame, hframe,
      -, hof⟩
    · exact absurd hended hfailed
    · simp only [hframe, Option.map_some, Option.getD_some]
      exact hof.whole.mp hended
  obtain ⟨rest, hrest, hlast⟩ := wire_split hsent hunbroken
  rw [flatMap_frame] at hrest
  refine ⟨rest, hrest, ?_⟩
  rcases hlast with rfl | ⟨attempt, -, hended, rfl⟩
  · exact Or.inl rfl
  · rcases Request.sendRequest_cases limits attempt.1 attempt.2 with ⟨-, hnothing⟩ | ⟨frame, -,
      hsupported, hof⟩
    · exact Or.inl hnothing
    · exact Or.inr ⟨frame, hsupported, Nat.lt_of_le_of_lt hsupported.payload hlimit, hof.initial,
        fun hwhole => hended (hof.whole.mpr hwhole)⟩

theorem request_map_sentFrames (hsendable : ∀ attempt ∈ attempts, attempt.1.Sendable limits) :
    (sentFrames limits attempts).map (Frame.request limits) =
      (sentRequests limits attempts).map Request.carried := by
  have hrequests : ∀ request ∈ sentRequests limits attempts, ∃ frame,
      request.frame limits = some frame ∧ frame.request limits = request.carried := by
    intro request hrequest
    obtain ⟨frame, hframe, -⟩ := frame_of_sent hrequest
    obtain ⟨attempt, hattempt, rfl⟩ := List.mem_map.mp hrequest
    have hclient := hsendable attempt (List.mem_filter.mp hattempt).1
    exact ⟨frame, hframe, Request.request_of_frame hclient hframe⟩
  unfold sentFrames
  generalize sentRequests limits attempts = requests at hrequests
  induction requests with
  | nil => rfl
  | cons request requests ih =>
    obtain ⟨frame, hframe, hsame⟩ := hrequests request List.mem_cons_self
    rw [List.filterMap_cons_some hframe, List.map_cons, List.map_cons, hsame,
      ih fun other hother => hrequests other (List.mem_cons_of_mem _ hother)]

end Sent

/-- However the bytes are written and read in parts, with timeouts between frames, and wherever the
connection is cut: the coordinator takes up exactly the requests whose calls have ended well, each
once and in order, with all the fields that travel. -/
theorem requests_conveyed (limits : ResourceLimits) (hlimit : limits.maxPayloadBytes < 2 ^ 32)
    (attempts : List (Request × List SendEvent))
    (hsendable : ∀ attempt ∈ attempts, attempt.1.Sendable limits)
    (hunbroken : Unbroken limits attempts) (events : List SocketEvent)
    (hbytes : delivered (timeline events) = wireBytes limits attempts)
    (hpunctual : Punctual (sentFrames limits attempts) (timeline events))
    (hends : Ends (timeline events)) :
    (dispatched limits events).map (Frame.request limits) =
      (sentRequests limits attempts).map Request.carried := by
  obtain ⟨rest, hwire, hrest⟩ := wireBytes_eq hlimit hunbroken
  have hframes : ∀ frame ∈ sentFrames limits attempts,
      frame.Supported limits ∧ frame.payload.length < 2 ^ 32 := by
    intro frame hframe
    obtain ⟨request, hrequest, hsome⟩ := List.mem_filterMap.mp hframe
    obtain ⟨other, hother, hsupported⟩ := frame_of_sent hrequest
    obtain rfl := Option.some.inj (hsome.symm.trans hother)
    exact ⟨hsupported, Nat.lt_of_le_of_lt hsupported.payload hlimit⟩
  rw [dispatched_of_delivered hrest hframes (hbytes.trans hwire) hpunctual hends]
  exact request_map_sentFrames hsendable

theorem ends_of_closed (bytes : Bytes) (error : Str) :
    Ends (bytes.map .byte ++ [.failure error]) := by
  intro early other later hsplit
  by_contra hlater
  have hmem : Signal.failure other ∈ (early ++ .failure other :: later).dropLast := by
    rw [List.dropLast_append_of_ne_nil (List.cons_ne_nil _ _), List.dropLast_cons_of_ne_nil hlater]
    simp
  rw [← hsplit, List.dropLast_concat] at hmem
  obtain ⟨value, -, hvalue⟩ := List.mem_map.mp hmem
  cases hvalue

namespace Scenario

def hello : Request where
  type := .hello
  correlation := 1
  message := some ({ agentVersion := kVersionString } : HelloMessage)

def queryReadiness : Request where
  type := .query
  correlation := 2
  message := some ({ queryKind := 8 } : QueryMessage)

/-- The first request is written in three parts, and the connection is lost inside the second. -/
def cutAttempts : List (Request × List SendEvent) :=
  [(hello, [.written 4, .written 0, .written 1000]),
    (queryReadiness, [.written 10, .failure (str "connection reset")])]

def cutEvents : List SocketEvent :=
  [.bytes ((wireBytes {} cutAttempts).take 30), .bytes ((wireBytes {} cutAttempts).drop 30),
    .failure (str "connection closed by peer")]

theorem timeline_cutEvents : timeline cutEvents =
    (wireBytes {} cutAttempts).map .byte ++ [.failure (str "connection closed by peer")] := by
  simp only [cutEvents, timeline_cons, timeline_nil, SocketEvent.signals, List.append_nil]
  rw [← List.append_assoc, ← List.map_append, List.take_append_drop]

theorem hello_sendable : hello.Sendable {} where
  fromClient := rfl
  valid := by
    intro coding hcoding message _ id hid
    cases hcoding
    cases hid
  whole := by
    intro coding hcoding message hmessage
    cases hcoding
    cases hmessage
    refine ⟨?_, trivial⟩
    change ∀ op ∈ HelloMessage.encode { agentVersion := kVersionString }, op.Narrow
    simp [HelloMessage.encode, PayloadOp.u16, PayloadOp.generation, PayloadOp.u64,
      PayloadOp.Narrow, kVersionString, str]

theorem queryReadiness_sendable : queryReadiness.Sendable {} where
  fromClient := rfl
  valid := by
    intro coding hcoding message hmessage id hid
    cases hcoding
    cases hmessage
    cases hid
  whole := by
    intro coding hcoding message hmessage
    cases hcoding
    cases hmessage
    refine ⟨?_, trivial⟩
    change ∀ op ∈ QueryMessage.encode { queryKind := 8 }, op.Narrow
    intro op hop
    simp only [QueryMessage.encode, PayloadOp.optional, PayloadOp.optionalId, PayloadOp.u16,
      PayloadOp.optionalString, PayloadOp.u8, Option.map_none, List.cons_append,
      List.nil_append, List.mem_cons, List.not_mem_nil, or_false] at hop
    rcases hop with rfl | rfl | rfl <;> trivial

theorem cutAttempts_conveyed :
    (dispatched {} cutEvents).map (Frame.request {}) =
      (sentRequests {} cutAttempts).map Request.carried := by
  refine requests_conveyed {} (by decide) cutAttempts ?_ ?_ cutEvents ?_ ?_ ?_
  · intro attempt hattempt
    rcases List.mem_pair.mp hattempt with rfl | rfl
    · exact hello_sendable
    · exact queryReadiness_sendable
  · intro attempt hattempt
    obtain rfl := List.mem_singleton.mp hattempt
    exact Or.inl (by decide +kernel)
  · rw [timeline_cutEvents, delivered_bytes]
    exact List.append_nil _
  · intro early later hsplit
    have hmem : Signal.timeout ∈ timeline cutEvents := by
      rw [hsplit]
      simp
    exact absurd hmem (by decide +kernel)
  · rw [timeline_cutEvents]
    exact ends_of_closed _ _

example : sentRequests {} cutAttempts = [hello] := rfl

end Scenario

end RackFabric
