import FlightBus.Proofs.Frame.Resynchronization
import FlightBus.Proofs.Frame.Schedule

/-!
# What is delivered was on the stream

A frame that is found is one of a known message type and of a valid form, and encoding it
again gives the bytes that it was found in.  So a deframer makes up nothing and loses
nothing of a frame, whatever the bytes are and however they are handed over.

The known message types may change from call to call, and the undecided bytes may be
dropped in between.  What carries the proof through a run is that the window is always the
end of the stream, that deliveries take their bytes from the window, and that bytes are
only ever removed at the front of it.
-/

namespace FlightBus

/-! ### Reading back and writing again -/

theorem LittleEndian.decode_lt (bytes : List UInt8) :
  decode bytes < bound bytes.length
  := by
  have hpos (width : Nat) : 0 < bound width := by
    induction width with
    | zero => apply Nat.zero_lt_one
    | succ width ih => apply Nat.mul_pos (by decide) ih
  have hmod := decode_encode bytes.length (decode bytes)
  rw [encode_decode] at hmod
  rw [hmod]
  apply Nat.mod_lt _ (hpos _)

/-- The bytes of a checksum that was read are written again. -/
theorem Checksum.encode_decode {bytes : List UInt8} (h : bytes.length = size) :
  LittleEndian.encode size (UInt16.ofNat (LittleEndian.decode bytes)).toNat = bytes
  := by
  have hlt : LittleEndian.decode bytes < 65536 := by
    have hbound := LittleEndian.decode_lt bytes
    rw [h] at hbound
    apply hbound
  rw [UInt16.toNat_ofNat', Nat.mod_eq_of_lt hlt, ← h, LittleEndian.encode_decode]

theorem MessageId.lowByte_ofByte (b : UInt8) :
  (ofByte b).lowByte = b
  := UInt8.ofNat_toNat

theorem MessageId.bytes_ofBytes (b₀ b₁ b₂ : UInt8) :
  (ofBytes b₀ b₁ b₂).bytes = [b₀, b₁, b₂]
  := by
  have h₀ := b₀.toNat_lt
  have h₁ := b₁.toNat_lt
  have h₂ := b₂.toNat_lt
  simp only [bytes, lowByte, ofBytes, List.cons.injEq, and_true]
  refine ⟨?_, ?_, ?_⟩
  · apply UInt8.toNat_inj.mp
    rw [UInt8.toNat_ofNat']
    omega
  · apply UInt8.toNat_inj.mp
    rw [UInt8.toNat_ofNat']
    omega
  · apply UInt8.toNat_inj.mp
    rw [UInt8.toNat_ofNat']
    omega

namespace Header

variable {version : Version} {b : UInt8} {bytes body : List UInt8} {header : Header}

/-- A header that is read behind its marker is written with the same bytes. -/
theorem bytes_of_read? (marker : Version.ofMarker? b = some version)
    (hread : read? version (b :: bytes) = some (header, body)) :
  b :: bytes = header.bytes ++ body
  := by
  have hmarker := Version.marker_of_ofMarker? marker
  rw [read?.eq_def] at hread
  split at hread
  · rename_i hbytes
    cases hbytes
    cases hread
    rw [← hmarker]
    simp only [Header.bytes, MessageId.lowByte_ofByte]
    rfl
  · rename_i hbytes
    cases hbytes
    cases hread
    rw [← hmarker]
    simp only [Header.bytes, MessageId.bytes_ofBytes]
    rfl
  · cases hread

/-- The frame of a header has this header. -/
theorem header_toFrame (hreceived : (header.toFrame body).received = header.toFrame body)
    (hbody : header.bodyLength ≤ body.length) :
  (header.toFrame body).header = header
  := by
  have hincompat : (header.toFrame body).header.incompatFlags = header.incompatFlags :=
    congrArg Frame.incompatFlags hreceived
  have hcompat : (header.toFrame body).header.compatFlags = header.compatFlags :=
    congrArg Frame.compatFlags hreceived
  have hlength : (header.toFrame body).header.payloadLength = header.payloadLength := by
    change UInt8.ofNat (header.toFrame body).payload.bytes.length = _
    rw [length_payload_toFrame hbody]
    apply UInt8.ofNat_toNat
  generalize hsame : (header.toFrame body).header = same at *
  have hfields : same.version = header.version ∧ same.sequence = header.sequence ∧
      same.system = header.system ∧ same.component = header.component ∧
      same.message = header.message := by
    rw [← hsame]
    exact ⟨rfl, rfl, rfl, rfl, rfl⟩
  cases same
  cases header
  simp only at *
  simp only [Header.mk.injEq]
  exact ⟨hfields.1, hlength, hincompat, hcompat, hfields.2⟩

/-- The bytes behind the checksum of the frame of a header. -/
theorem trailer_toFrame (hreceived : (header.toFrame body).received = header.toFrame body)
    (hbody : header.bodyLength + Checksum.size + header.announcedSignature ≤ body.length) :
  (header.toFrame body).trailer =
    (body.drop (header.bodyLength + Checksum.size)).take header.announcedSignature
  := by
  have hsent : (header.toFrame body).sentSignature = (header.toFrame body).signature :=
    congrArg Frame.signature hreceived
  rw [Frame.trailer, hsent]
  cases hsigned : header.isSigned with
  | false => simp [toFrame, announcedSignature, hsigned]
  | true =>
      rw [announcedSignature, if_pos hsigned] at hbody ⊢
      have hlength : ((body.drop (header.bodyLength + Checksum.size)).take
          Signature.size).length = Signature.size := by
        rw [List.length_take, List.length_drop]
        omega
      simp [toFrame, hsigned, Signature.ofBytes?, hlength]

end Header

/-! ### Frames that are found -/

/-- The form that a frame has when it was found and its message type has the given
descriptor. -/
def Frame.Conforms (descriptor : Descriptor) (frame : Frame) : Prop :=
  match frame.version with
  | .v1 => frame.incompatFlags = 0 ∧ frame.compatFlags = 0 ∧ frame.signature = none ∧
      frame.message.toNat < 256 ∧ frame.payload.bytes.length = descriptor.minLength
  | .v2 => (frame.incompatFlags = 0 ∨ frame.incompatFlags = 1) ∧
      (frame.signature.isSome = true ↔ frame.incompatFlags = 1) ∧
      frame.payload.bytes.length ≤ descriptor.maxLength

/-- A frame that is found has the form that its message type asks for. -/
theorem conforms_of_complete {lookup : Lookup} {version : Version} {candidate : List UInt8}
    {frame : Frame} {length : Nat}
    (h : examine lookup version candidate = .complete frame length) :
  ∃ descriptor, lookup frame.message = some descriptor ∧ frame.Conforms descriptor
  := by
  obtain ⟨hreceived, -, hsupported, descriptor, hknown, -, hlength⟩ := received_of_complete h
  rw [hreceived] at hsupported hknown
  refine ⟨descriptor, hknown, ?_⟩
  rw [Frame.Conforms]
  rcases frame with ⟨version, incompat, compat, sequence, system, component, id, payload,
    signature⟩
  simp only [Frame.received, Frame.mk.injEq] at hreceived
  cases version with
  | v1 =>
      obtain ⟨-, hincompat, hcompat, -, -, -, hid, -, hsignature⟩ := hreceived
      refine ⟨hincompat.symm, hcompat.symm, hsignature.symm, ?_, hlength⟩
      rw [← hid]
      apply UInt8.toNat_lt
  | v2 =>
      obtain ⟨-, hincompat, -⟩ := hreceived
      have hflags := flags_of_supported hsupported
      refine ⟨hflags, ?_, hlength⟩
      cases signature with
      | none =>
          have hclear : incompat &&& ~~~signedFlag = incompat := hincompat
          rcases hflags with rfl | rfl
          · simp
          · exact absurd hclear (by decide)
      | some signature =>
          have hset : incompat ||| signedFlag = incompat := hincompat
          rcases hflags with rfl | rfl
          · exact absurd hset (by decide)
          · exact ⟨fun _ => rfl, fun _ => rfl⟩

/-- A frame that is found is sent with the bytes that it was found in. -/
theorem wire_of_complete {lookup : Lookup} {b : UInt8} {bytes : List UInt8}
    {version : Version} {frame : Frame} {length : Nat}
    (marker : Version.ofMarker? b = some version)
    (verdict : examine lookup version (b :: bytes) = .complete frame length)
    {descriptor : Descriptor} (known : lookup frame.message = some descriptor) :
  frame.wire descriptor.crcExtra = (b :: bytes).take length
  := by
  have hreceived := (received_of_complete verdict).1
  obtain ⟨header, body, other, hread, -, hother, -, hwhole, hchecksum, rfl, rfl⟩ :=
    examine_eq_complete_iff.mp verdict
  cases known.symm.trans hother
  have hversion := Header.version_of_read? hread
  have hbytes := Header.bytes_of_read? marker hread
  rw [hbytes] at hwhole hchecksum ⊢
  rw [← hversion] at hchecksum
  rw [Header.frameLength, List.length_append, Header.length_bytes] at hwhole
  have hfront : (header.bytes ++ body).take (header.version.headerSize + header.bodyLength) =
      header.bytes ++ body.take header.bodyLength := by
    rw [← Header.length_bytes, List.take_length_add_append]
  have hback (n : Nat) : (header.bytes ++ body).drop (header.version.headerSize + n) =
      body.drop n := by
    rw [← Header.length_bytes, List.drop_length_add_append]
  have hreceivedChecksum : (body.drop header.bodyLength).take Checksum.size =
      LittleEndian.encode Checksum.size (Checksum.ofFrame
        ((header.bytes ++ body.take header.bodyLength).drop 1) descriptor.crcExtra).toNat := by
    rw [hfront, hback] at hchecksum
    rw [← hchecksum, Checksum.encode_decode]
    rw [List.length_take, List.length_drop]
    omega
  rw [Frame.wire, Header.header_toFrame hreceived (by omega),
    Header.trailer_toFrame hreceived (by omega), withChecksum]
  rw [Header.frameLength, List.take_add, List.take_add, hfront, hback, Nat.add_assoc, hback,
    hreceivedChecksum]
  rfl

/-! ### Requests -/

/-- What a deframer is asked: to answer a call, with the message types that are known at
that time, or to drop the bytes that are not decided. -/
inductive DeframerRequest
  | call (lookup : Lookup) (call : DeframerCall)
  | reset

namespace DeframerRequest

/-- The bytes that a request hands over. -/
def bytes : DeframerRequest → List UInt8
  | call _ request => request.bytes
  | reset => []

/-- The byte stream that requests hand over. -/
def stream (requests : List DeframerRequest) : List UInt8 :=
  requests.flatMap bytes

end DeframerRequest

/-- The delivery of the next frame in a window, if there is one. -/
def nextDelivery (lookup : Lookup) (received : Nat) (window : List UInt8) : List Delivery :=
  ((search lookup window).found.map
    (fun frame => .of received frame (search lookup window).rest)).toList

namespace Deframer

/-- Answers a request. -/
def serve (deframer : Deframer) : DeframerRequest → List Finding × Deframer
  | .call lookup call => deframer.answer lookup call
  | .reset => ([], deframer.reset)

/-- Answers requests, in order. -/
def serveAll : List DeframerRequest → Deframer → List Finding × Deframer
  | [], deframer => ([], deframer)
  | request :: requests, deframer =>
      let (first, deframer) := deframer.serve request
      let (others, deframer) := serveAll requests deframer
      (first ++ others, deframer)

/-- The deliveries at a call, when a number of bytes have been received before. -/
def deliveriesAt (lookup : Lookup) (received : Nat) (deframer : Deframer) :
    DeframerCall → List Delivery
  | .push byte => nextDelivery lookup (received + 1) (deframer.append [byte]).window
  | .pushAll bytes => deliveries lookup received bytes deframer
  | .poll => nextDelivery lookup received deframer.window

/-- The deliveries at requests, each with the message types that were known then, when a
number of bytes have been received before. -/
def served : Nat → List DeframerRequest → Deframer → List (Lookup × Delivery)
  | _, [], _ => []
  | received, .call lookup call :: requests, deframer =>
      (deframer.deliveriesAt lookup received call).map (lookup, ·) ++
        served (received + call.bytes.length) requests (deframer.answer lookup call).2
  | received, .reset :: requests, deframer => served received requests deframer.reset

end Deframer

/-! ### Genuine deliveries -/

/-- A delivery is genuine: the part of the stream that it takes up is a frame that was
accepted there, the frame has the form that its known message type asks for, and encoding it
gives that part of the stream. -/
structure Delivery.Genuine (lookup : Lookup) (stream : List UInt8) (delivery : Delivery) :
    Prop where
  start_lt : delivery.start < delivery.stop
  stop_le : delivery.stop ≤ stream.length
  verdict_eq :
    examine lookup delivery.frame.version (stream.drop delivery.start) =
      .complete delivery.frame (delivery.stop - delivery.start)
  exists_descriptor : ∃ descriptor, lookup delivery.frame.message = some descriptor ∧
    delivery.frame.Conforms descriptor ∧
    ∀ packet, (delivery.frame.encode descriptor.crcExtra packet).bytes =
      (stream.take delivery.stop).drop delivery.start

/-- A genuine delivery stays so when more bytes are received. -/
theorem Delivery.Genuine.append {lookup : Lookup} {stream : List UInt8}
    {delivery : Delivery} (genuine : delivery.Genuine lookup stream) (more : List UInt8) :
  delivery.Genuine lookup (stream ++ more)
  := by
  obtain ⟨hstart, hstop, hverdict, descriptor, hknown, hconforms, hbytes⟩ := genuine
  constructor
  · apply hstart
  · rw [List.length_append]
    omega
  · rw [List.drop_append_of_le_length (by omega), examine_append more, hverdict]
    rw [hverdict]
    apply Verdict.noConfusion
  · refine ⟨descriptor, hknown, hconforms, ?_⟩
    intro packet
    rw [List.take_append_of_le_length hstop, hbytes]

/-- Where a search finds a frame. -/
theorem exists_candidate_of_found {lookup : Lookup} {bytes : List UInt8} {frame : Frame}
    (h : (search lookup bytes).found = some frame) :
  ∃ passed b others version length,
    bytes = passed ++ b :: others ∧
    Version.ofMarker? b = some version ∧
    examine lookup version (b :: others) = .complete frame length ∧
    (search lookup bytes).rest = others.drop (length - 1)
  := by
  induction bytes using search_induction lookup with
  | stuck bytes stuck =>
      rw [stuck.search_eq] at h
      cases h
  | step bytes finding rest step ih =>
      have hsearch := step.search_eq
      rw [hsearch] at h ⊢
      match finding with
      | some (.frame found) =>
          cases h
          cases step with
          | found marker verdict => exact ⟨[], _, _, _, _, rfl, marker, verdict, rfl⟩
      | none | some (.rejected cause) =>
          obtain ⟨passed, b, others, version, length, rfl, marker, verdict, hrest⟩ := ih h
          obtain ⟨front, rfl⟩ := step.suffix
          exact ⟨front ++ passed, b, others, version, length,
            (List.append_assoc ..).symm, marker, verdict, hrest⟩

/-- Deliveries lie one behind the other in a part of the stream. -/
def InOrder (start : Nat) : List Delivery → Nat → Prop
  | [], stop => start ≤ stop
  | delivery :: deliveries, stop =>
      start ≤ delivery.start ∧ delivery.start < delivery.stop ∧
        InOrder delivery.stop deliveries stop

theorem InOrder.append {start middle stop : Nat} {deliveries others : List Delivery}
    (first : InOrder start deliveries middle) (second : InOrder middle others stop) :
  InOrder start (deliveries ++ others) stop
  := by
  induction deliveries generalizing start with
  | nil =>
      have hle : start ≤ middle := first
      cases others with
      | nil => apply Nat.le_trans hle second
      | cons delivery others => exact ⟨Nat.le_trans hle second.1, second.2⟩
  | cons delivery deliveries ih =>
      obtain ⟨hstart, hlt, hothers⟩ := first
      exact ⟨hstart, hlt, ih hothers⟩

/-- Of two deliveries in order the second starts behind the first. -/
theorem InOrder.pairwise {start stop : Nat} {deliveries : List Delivery}
    (inOrder : InOrder start deliveries stop) :
  deliveries.Pairwise (fun delivery other => delivery.stop ≤ other.start)
  := by
  have hstart {start stop : Nat} {deliveries : List Delivery}
      (inOrder : InOrder start deliveries stop) :
      ∀ delivery ∈ deliveries, start ≤ delivery.start := by
    induction deliveries generalizing start with
    | nil =>
        intro delivery hmem
        cases hmem
    | cons first others ih =>
        obtain ⟨hfirst, hlt, hothers⟩ := inOrder
        intro delivery hmem
        rcases List.mem_cons.mp hmem with rfl | hmem
        · apply hfirst
        · have hle := ih hothers delivery hmem
          omega
  induction deliveries generalizing start with
  | nil => apply List.Pairwise.nil
  | cons delivery deliveries ih =>
      obtain ⟨-, -, hothers⟩ := inOrder
      constructor
      · apply hstart hothers
      · apply ih hothers

/-- Deliveries account for a stream from a place on: they are genuine and in order, and
the window is the end of the stream behind them. -/
structure Accounts (stream : List UInt8) (start : Nat) (served : List (Lookup × Delivery))
    (window : List UInt8) : Prop where
  genuine : ∀ entry ∈ served, entry.2.Genuine entry.1 stream
  inOrder : InOrder start (served.map Prod.snd) (stream.length - window.length)
  suffix : window <:+ stream

namespace Accounts

variable {lookup : Lookup} {stream window : List UInt8} {start : Nat}
  {served : List (Lookup × Delivery)}

/-- Without deliveries, bytes may be removed at the front of the window. -/
theorem of_suffix {rest : List UInt8} (suffix : window <:+ stream) (hrest : rest <:+ window) :
  Accounts stream (stream.length - window.length) [] rest
  := by
  constructor
  · intro entry hmem
    cases hmem
  · have hle := hrest.length_le
    change _ ≤ _
    omega
  · apply hrest.trans suffix

/-- Accounts of a stream and of a longer one, from where the first one ends on, make up an
account. -/
theorem append (accounts : Accounts stream start served window) {whole more : List UInt8}
    (hwhole : whole = stream ++ more) {others : List (Lookup × Delivery)} {rest : List UInt8}
    (second : Accounts whole (stream.length - window.length) others rest) :
  Accounts whole start (served ++ others) rest
  := by
  constructor
  · intro entry hmem
    rcases List.mem_append.mp hmem with hmem | hmem
    · rw [hwhole]
      apply (accounts.genuine entry hmem).append
    · apply second.genuine entry hmem
  · rw [List.map_append]
    apply accounts.inOrder.append second.inOrder
  · apply second.suffix

end Accounts

/-- The next delivery of a window is accounted for. -/
theorem accounts_nextDelivery (lookup : Lookup) {stream window : List UInt8}
    (suffix : window <:+ stream) :
  Accounts stream (stream.length - window.length)
    ((nextDelivery lookup stream.length window).map (lookup, ·)) (search lookup window).rest
  := by
  cases hfound : (search lookup window).found with
  | none =>
      rw [nextDelivery, hfound]
      apply Accounts.of_suffix suffix
      apply search_suffix
  | some frame =>
      obtain ⟨passed, b, others, version, length, rfl, marker, verdict, hrest⟩ :=
        exists_candidate_of_found hfound
      obtain ⟨front, rfl⟩ := suffix
      have hlength := length_le_of_complete verdict
      have hsize := size_of_complete verdict
      have hpos := frame.size_pos
      rw [List.length_cons] at hlength
      rw [hsize] at hpos
      have hdelivery :
          Delivery.of (front ++ (passed ++ b :: others)).length frame
              (others.drop (length - 1)) =
            ⟨(front ++ passed).length, (front ++ passed).length + length, frame⟩ := by
        simp only [Delivery.of, hsize, List.length_append, List.length_cons,
          List.length_drop, Delivery.mk.injEq, and_true]
        omega
      have hgenuine : Delivery.Genuine lookup (front ++ passed ++ b :: others)
          ⟨(front ++ passed).length, (front ++ passed).length + length, frame⟩ := by
        obtain ⟨descriptor, hknown, hconforms⟩ := conforms_of_complete verdict
        constructor
        · apply Nat.lt_add_of_pos_right hpos
        · change (front ++ passed).length + length ≤ _
          simp only [List.length_append, List.length_cons]
          omega
        · rw [version_of_complete verdict, List.drop_left' rfl, Nat.add_sub_cancel_left]
          apply verdict
        · refine ⟨descriptor, hknown, hconforms, ?_⟩
          intro packet
          rw [Frame.bytes_encode, wire_of_complete marker verdict hknown,
            List.take_length_add_append, List.drop_left' rfl]
      rw [nextDelivery, hfound, hrest, Option.map_some, Option.toList_some, hdelivery,
        ← List.append_assoc]
      constructor
      · intro entry hmem
        rw [List.mem_singleton.mp hmem]
        apply hgenuine
      · refine ⟨?_, hgenuine.start_lt, ?_⟩
        · simp only [List.length_append, List.length_cons]
          omega
        · change (front ++ passed).length + length ≤ _
          simp only [List.length_append, List.length_cons, List.length_drop]
          omega
      · apply (List.drop_suffix _ _).trans
        apply (List.suffix_cons b others).trans
        apply List.suffix_append

/-- The deliveries of a window are accounted for. -/
theorem accounts_deliveriesIn (lookup : Lookup) {stream window : List UInt8}
    (suffix : window <:+ stream) :
  Accounts stream (stream.length - window.length)
    ((deliveriesIn lookup stream.length window).map (lookup, ·)) (drain lookup window).2
  := by
  induction hlength : window.length using Nat.strongRecOn generalizing window with
  | ind n ih =>
      have hnext := accounts_nextDelivery lookup suffix
      cases hfound : (search lookup window).found with
      | none =>
          rw [nextDelivery, hfound] at hnext
          rw [deliveriesIn_of_not_found _ hfound, drain_of_not_found hfound, ← hlength]
          apply hnext
      | some frame =>
          have hshorter := length_rest_search lookup window
          rw [hfound, Option.isSome_some, if_pos rfl] at hshorter
          have hothers := ih (search lookup window).rest.length (by omega) hnext.suffix rfl
          have hall := hnext.append (List.append_nil stream).symm hothers
          rw [nextDelivery, hfound] at hall
          rw [deliveriesIn_of_found _ hfound, drain_of_found hfound, ← hlength]
          apply hall

/-! ### Runs -/

namespace Deframer

theorem append_suffix {stream : List UInt8} {deframer : Deframer}
    (suffix : deframer.window <:+ stream) (bytes : List UInt8) :
  (deframer.append bytes).window <:+ stream ++ bytes
  := by
  obtain ⟨front, rfl⟩ := suffix
  use front
  rw [List.append_assoc]
  rfl

/-- The deliveries of bytes that are taken one by one are accounted for. -/
theorem accounts_deliveries (lookup : Lookup) (bytes : List UInt8) {stream : List UInt8}
    {deframer : Deframer} (suffix : deframer.window <:+ stream) :
  Accounts (stream ++ bytes) (stream.length - deframer.window.length)
    ((deliveries lookup stream.length bytes deframer).map (lookup, ·))
    (pushAll lookup bytes deframer).2.window
  := by
  induction bytes generalizing stream deframer with
  | nil =>
      rw [List.append_nil]
      apply Accounts.of_suffix suffix (List.suffix_refl _)
  | cons byte bytes ih =>
      have happend := append_suffix suffix [byte]
      have hfirst := accounts_deliveriesIn lookup happend
      have hstart : (stream ++ [byte]).length - (deframer.append [byte]).window.length =
          stream.length - deframer.window.length := by
        rw [append, List.length_append, List.length_append, Nat.add_sub_add_right]
      have hothers : Accounts (stream ++ [byte] ++ bytes) _ _ _ :=
        @ih (stream ++ [byte]) ((deframer.append [byte]).drain lookup).2 hfirst.suffix
      have hreceived : (stream ++ [byte]).length = stream.length + 1 := List.length_append
      rw [hstart] at hfirst
      have hall := hfirst.append rfl hothers
      rw [List.append_assoc, hreceived, ← List.map_append] at hall
      apply hall

/-- The deliveries at a call are accounted for. -/
theorem accounts_deliveriesAt (lookup : Lookup) (call : DeframerCall) {stream : List UInt8}
    {deframer : Deframer} (suffix : deframer.window <:+ stream) :
  Accounts (stream ++ call.bytes) (stream.length - deframer.window.length)
    ((deframer.deliveriesAt lookup stream.length call).map (lookup, ·))
    (deframer.answer lookup call).2.window
  := by
  cases call with
  | push byte =>
      have happend := append_suffix suffix [byte]
      have hnext := accounts_nextDelivery lookup happend
      rw [append, List.length_append, List.length_append, Nat.add_sub_add_right] at hnext
      apply hnext
  | pushAll bytes => apply accounts_deliveries lookup bytes suffix
  | poll =>
      rw [DeframerCall.bytes, List.append_nil]
      apply accounts_nextDelivery lookup suffix

/-- The deliveries at requests are accounted for. -/
theorem accounts_served (requests : List DeframerRequest) {stream : List UInt8}
    {deframer : Deframer} (suffix : deframer.window <:+ stream) :
  Accounts (stream ++ DeframerRequest.stream requests)
    (stream.length - deframer.window.length) (served stream.length requests deframer)
    (serveAll requests deframer).2.window
  := by
  induction requests generalizing stream deframer with
  | nil =>
      rw [DeframerRequest.stream, List.flatMap_nil, List.append_nil]
      apply Accounts.of_suffix suffix (List.suffix_refl _)
  | cons request requests ih =>
      rw [DeframerRequest.stream, List.flatMap_cons, ← DeframerRequest.stream,
        ← List.append_assoc]
      cases request with
      | call lookup call =>
          have hfirst := accounts_deliveriesAt lookup call suffix
          have hothers := ih hfirst.suffix
          have hreceived : (stream ++ call.bytes).length = stream.length + call.bytes.length :=
            List.length_append
          rw [served, ← hreceived]
          apply hfirst.append rfl hothers
      | reset =>
          have hdropped : Accounts stream (stream.length - deframer.window.length) []
              deframer.reset.window :=
            Accounts.of_suffix suffix List.nil_suffix
          rw [DeframerRequest.bytes, List.append_nil]
          apply hdropped.append rfl (ih hdropped.suffix)

theorem map_frame_deliveriesAt (lookup : Lookup) (received : Nat) (call : DeframerCall)
    (deframer : Deframer) :
  (deframer.deliveriesAt lookup received call).map Delivery.frame =
    (deframer.answer lookup call).1.filterMap Finding.frame?
  := by
  have hnext (received : Nat) (window : List UInt8) :
      (nextDelivery lookup received window).map Delivery.frame =
        (search lookup window).findings.filterMap Finding.frame? := by
    rw [filterMap_frame?_findings, nextDelivery]
    cases (search lookup window).found with
    | none => rfl
    | some frame => rfl
  cases call with
  | push byte => apply hnext
  | pushAll bytes => apply map_frame_deliveries
  | poll => apply hnext

/-- The frames that are delivered are those that are found. -/
theorem map_frame_served (received : Nat) (requests : List DeframerRequest)
    (deframer : Deframer) :
  (served received requests deframer).map (fun entry => entry.2.frame) =
    (serveAll requests deframer).1.filterMap Finding.frame?
  := by
  induction requests generalizing received deframer with
  | nil => rfl
  | cons request requests ih =>
      cases request with
      | call lookup call =>
          have hfirst := map_frame_deliveriesAt lookup received call deframer
          rw [served, List.map_append, List.map_map, ih, serveAll, List.filterMap_append]
          apply congrArg (· ++ _) hfirst
      | reset => apply ih

/-- Whatever bytes a new deframer is given, with whatever message types known at each call,
however the bytes are cut into calls, and even if undecided bytes are dropped in between:
the deliveries are those of the frames that are found, they take up parts of the stream that
follow each other without overlap, and each is genuine. -/
theorem genuine_of_served (requests : List DeframerRequest) :
  (served 0 requests {}).map (fun entry => entry.2.frame) =
      (serveAll requests {}).1.filterMap Finding.frame? ∧
    ((served 0 requests {}).map Prod.snd).Pairwise
      (fun delivery other => delivery.stop ≤ other.start) ∧
    ∀ entry ∈ served 0 requests {},
      entry.2.Genuine entry.1 (DeframerRequest.stream requests)
  := by
  have haccounts : Accounts ([] ++ DeframerRequest.stream requests) 0
      (served 0 requests {}) (serveAll requests {}).2.window :=
    @accounts_served requests [] {} (List.suffix_refl [])
  refine ⟨map_frame_served 0 requests {}, ?_, ?_⟩
  · apply haccounts.inOrder.pairwise
  · apply haccounts.genuine

end Deframer

end FlightBus
