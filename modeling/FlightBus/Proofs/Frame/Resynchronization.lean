import FlightBus.Frame.Deframer
import FlightBus.Message.Flight
import FlightBus.Proofs.Frame.Wire

/-!
# Resynchronization

A delivery is a frame together with the part of the stream that it takes up.  Where a frame
stops follows from the number of bytes received and the number of bytes left in the window
when it is found; where it starts follows from its size.

Garbage, stray markers and frames that were cut short do not hide the frame behind them: it
is delivered from where it starts, or a frame is delivered that covers its start.  For this
there must be so many bytes from its start on that no candidate in front of it can stay
undecided.  Without markers in front of it the frame is delivered in any case.
-/

namespace FlightBus

/-! ### Deliveries -/

/-- A frame and the part of the stream that it takes up. -/
structure Delivery where
  /-- The number of bytes of the stream in front of the frame. -/
  start : Nat
  /-- The number of bytes of the stream up to the end of the frame. -/
  stop : Nat
  /-- The frame. -/
  frame : Frame
deriving DecidableEq, Repr

/-- The delivery of a frame that is found when a number of bytes have been received and some
of them are left. -/
def Delivery.of (received : Nat) (frame : Frame) (rest : List UInt8) : Delivery :=
  ⟨received - rest.length - frame.size, received - rest.length, frame⟩

/-- The deliveries of the frames in a window, which ends with the bytes received last. -/
def deliveriesIn (lookup : Lookup) (received : Nat) (window : List UInt8) :
    List Delivery :=
  match _hfound : (search lookup window).found with
  | none => []
  | some frame =>
      .of received frame (search lookup window).rest ::
        deliveriesIn lookup received (search lookup window).rest
termination_by window.length
decreasing_by
  have hlength := length_rest_search lookup window
  rw [_hfound, Option.isSome_some, if_pos rfl] at hlength
  omega

/-- The deliveries of a deframer that takes bytes one by one, and after each searches for
frames until none is found, when a number of bytes have been received before. -/
def Deframer.deliveries (lookup : Lookup) : Nat → List UInt8 → Deframer → List Delivery
  | _, [], _ => []
  | received, byte :: bytes, deframer =>
      deliveriesIn lookup (received + 1) (deframer.append [byte]).window ++
        deliveries lookup (received + 1) bytes ((deframer.append [byte]).drain lookup).2

/-! ### The deliveries of a window -/

theorem deliveriesIn_of_found {lookup : Lookup} {window : List UInt8} {frame : Frame}
    (received : Nat) (h : (search lookup window).found = some frame) :
  deliveriesIn lookup received window =
    .of received frame (search lookup window).rest ::
      deliveriesIn lookup received (search lookup window).rest
  := by
  rw [deliveriesIn]
  split
  · rename_i hnone
    rw [h] at hnone
    cases hnone
  · rename_i other hsome
    rw [h] at hsome
    cases hsome
    rfl

theorem deliveriesIn_of_not_found {lookup : Lookup} {window : List UInt8}
    (received : Nat) (h : (search lookup window).found = none) :
  deliveriesIn lookup received window = []
  := by
  rw [deliveriesIn]
  split
  · rfl
  · rename_i other hsome
    rw [h] at hsome
    cases hsome

theorem Stuck.deliveriesIn_eq {lookup : Lookup} {window : List UInt8} (received : Nat)
    (stuck : Stuck lookup window) :
  deliveriesIn lookup received window = []
  := by
  apply deliveriesIn_of_not_found
  rw [stuck.search_eq]

/-- A step adds the frame that it finds to the deliveries of the bytes that it leaves. -/
theorem SearchStep.deliveriesIn_eq {lookup : Lookup} {bytes rest : List UInt8}
    {finding : Option Finding} (received : Nat)
    (step : SearchStep lookup bytes finding rest) :
  deliveriesIn lookup received bytes =
    ((finding.bind Finding.frame?).map (fun frame => .of received frame rest)).toList ++
      deliveriesIn lookup received rest
  := by
  have hsearch := step.search_eq
  match finding with
  | some (.frame frame) =>
      have hsome : (search lookup bytes).found = some frame := by
        rw [hsearch]
        rfl
      rw [deliveriesIn_of_found received hsome, hsearch]
      rfl
  | none | some (.rejected cause) =>
      cases hfound : (search lookup rest).found with
      | none =>
          have hnone : (search lookup bytes).found = none := by
            rw [hsearch]
            apply hfound
          rw [deliveriesIn_of_not_found received hnone,
            deliveriesIn_of_not_found received hfound]
          rfl
      | some frame =>
          have hsome : (search lookup bytes).found = some frame := by
            rw [hsearch]
            apply hfound
          rw [deliveriesIn_of_found received hsome, deliveriesIn_of_found received hfound,
            hsearch]
          rfl

/-- The frames that are delivered are those that are found. -/
theorem map_frame_deliveriesIn (lookup : Lookup) (received : Nat) (window : List UInt8) :
  (deliveriesIn lookup received window).map Delivery.frame =
    (drain lookup window).1.filterMap Finding.frame?
  := by
  induction window using search_induction lookup with
  | stuck bytes stuck =>
      rw [stuck.deliveriesIn_eq, stuck.drain_eq]
      rfl
  | step bytes finding rest step ih =>
      rw [step.deliveriesIn_eq, step.drain_eq, List.map_append, List.filterMap_append, ih]
      match finding with
      | none => rfl
      | some (.rejected cause) => rfl
      | some (.frame frame) => rfl

/-- Bytes that arrive in two pieces are delivered as if they had arrived in one. -/
theorem deliveriesIn_append (lookup : Lookup) (received : Nat) (bytes more : List UInt8) :
  deliveriesIn lookup (received + more.length) (bytes ++ more) =
    deliveriesIn lookup received bytes ++
      deliveriesIn lookup (received + more.length) ((drain lookup bytes).2 ++ more)
  := by
  induction bytes using search_induction lookup with
  | stuck bytes stuck =>
      rw [stuck.deliveriesIn_eq, stuck.drain_eq, List.nil_append]
  | step bytes finding rest step ih =>
      have hof (frame : Frame) :
          Delivery.of (received + more.length) frame (rest ++ more) =
            .of received frame rest := by
        rw [Delivery.of, List.length_append, Nat.add_sub_add_right]
        rfl
      rw [step.deliveriesIn_eq, (step.append more).deliveriesIn_eq, step.drain_eq, ih,
        List.append_assoc]
      simp only [hof]

/-! ### The deliveries of a deframer -/

/-- The frames that a deframer delivers are those that it finds. -/
theorem Deframer.map_frame_deliveries (lookup : Lookup) (received : Nat)
    (bytes : List UInt8) (deframer : Deframer) :
  (deliveries lookup received bytes deframer).map Delivery.frame =
    (pushAll lookup bytes deframer).1.filterMap Finding.frame?
  := by
  induction bytes generalizing received deframer with
  | nil => rfl
  | cons byte bytes ih =>
      rw [deliveries, List.map_append, ih, map_frame_deliveriesIn, pushAll,
        List.filterMap_append]
      rfl

/-- A deframer whose window is stuck delivers what is in the window once all bytes are
there. -/
theorem Deframer.deliveries_eq {lookup : Lookup} (received : Nat) (bytes : List UInt8)
    {deframer : Deframer} (stuck : Stuck lookup deframer.window) :
  deliveries lookup received bytes deframer =
    deliveriesIn lookup (received + bytes.length) (deframer.window ++ bytes)
  := by
  induction bytes generalizing received deframer with
  | nil =>
      rw [List.append_nil, stuck.deliveriesIn_eq]
      rfl
  | cons byte bytes ih =>
      have hstuck : Stuck lookup ((deframer.append [byte]).drain lookup).2.window := by
        apply stuck_drain
      have happend :=
        deliveriesIn_append lookup (received + 1) (deframer.window ++ [byte]) bytes
      rw [deliveries, ih (received + 1) hstuck, List.append_cons, List.length_cons,
        Nat.add_comm bytes.length 1, ← Nat.add_assoc, happend]
      rfl

/-! ### Where deliveries are -/

/-- A step that finds a frame passes over as many bytes as the frame has. -/
theorem SearchStep.size_add_length {lookup : Lookup} {bytes rest : List UInt8}
    {frame : Frame} (step : SearchStep lookup bytes (some (.frame frame)) rest) :
  frame.size + rest.length = bytes.length
  := by
  cases step with
  | found marker verdict =>
      have hlength := length_le_of_complete verdict
      have hpos := frame.size_pos
      rw [size_of_complete verdict] at hpos ⊢
      rw [List.length_cons] at hlength ⊢
      rw [List.length_drop]
      omega

/-- A delivery is where its frame is. -/
theorem examine_of_mem_deliveriesIn {lookup : Lookup} {window : List UInt8}
    {delivery : Delivery} (front : List UInt8)
    (h : delivery ∈ deliveriesIn lookup (front ++ window).length window) :
  examine lookup delivery.frame.version ((front ++ window).drop delivery.start) =
    .complete delivery.frame (delivery.stop - delivery.start)
  := by
  induction window using search_induction lookup generalizing front with
  | stuck bytes stuck =>
      rw [stuck.deliveriesIn_eq] at h
      cases h
  | step bytes finding rest step ih =>
      rw [step.deliveriesIn_eq, List.mem_append] at h
      rcases h with hhead | hrest
      · match finding with
        | none => cases hhead
        | some (.rejected cause) => cases hhead
        | some (.frame frame) =>
            have hsize := step.size_add_length
            have hof : delivery = .of _ frame rest := List.mem_singleton.mp hhead
            have hdelivery :
                delivery = ⟨front.length, front.length + frame.size, frame⟩ := by
              rw [hof, Delivery.of, Delivery.mk.injEq, List.length_append]
              refine ⟨?_, ?_, rfl⟩
              · omega
              · omega
            rw [hdelivery]
            dsimp only
            rw [List.drop_left' rfl, Nat.add_sub_cancel_left]
            cases step with
            | found marker verdict =>
                rw [version_of_complete verdict, size_of_complete verdict]
                apply verdict
      · obtain ⟨passed, rfl⟩ := step.suffix
        rw [← List.append_assoc] at hrest ⊢
        apply ih _ hrest

/-- A delivery of a new deframer is where its frame is in the stream. -/
theorem Deframer.examine_of_mem_deliveries {lookup : Lookup} {bytes : List UInt8}
    {delivery : Delivery} (h : delivery ∈ deliveries lookup 0 bytes {}) :
  examine lookup delivery.frame.version (bytes.drop delivery.start) =
    .complete delivery.frame (delivery.stop - delivery.start)
  := by
  rw [deliveries_eq 0 bytes Stuck.nil, Nat.zero_add] at h
  apply examine_of_mem_deliveriesIn [] h

/-! ### Frames behind other bytes -/

variable {lookup : Lookup} {crcExtra : UInt8} {frame : Frame}

/-- A frame that a window starts with is delivered from there. -/
theorem exists_delivery_wire (admissible : frame.Admissible lookup crcExtra)
    (received : Nat) (after : List UInt8) :
  ∃ delivery ∈ deliveriesIn lookup received (frame.wire crcExtra ++ after),
    delivery.start = received - (frame.wire crcExtra ++ after).length ∧
      delivery.frame = frame.received
  := by
  rw [(admissible.step after).deliveriesIn_eq]
  refine ⟨.of received frame.received after, List.mem_append_left _ (List.mem_singleton_self _),
    ?_, rfl⟩
  rw [List.length_append, ← admissible.size_received]
  change received - after.length - frame.received.size = _
  omega

/-- Bytes that are no markers do not hide the frame behind them. -/
theorem exists_delivery_of_noise (admissible : frame.Admissible lookup crcExtra)
    (received : Nat) {before : List UInt8} (after : List UInt8)
    (noise : ∀ b ∈ before, Version.ofMarker? b = none) :
  ∃ delivery ∈ deliveriesIn lookup received (before ++ (frame.wire crcExtra ++ after)),
    delivery.start = received - (frame.wire crcExtra ++ after).length ∧
      delivery.frame = frame.received
  := by
  induction before with
  | nil => apply exists_delivery_wire admissible
  | cons b before ih =>
      obtain ⟨hmarker, hbefore⟩ := List.forall_mem_cons.mp noise
      have hstep : SearchStep lookup (b :: (before ++ (frame.wire crcExtra ++ after))) none _ :=
        SearchStep.noise hmarker
      rw [List.cons_append, hstep.deliveriesIn_eq]
      apply ih hbefore

/-- A step leaves all of the bytes at the end, or it finds a frame that covers their
start. -/
theorem SearchStep.keeps_or_covers {bytes rest before tail : List UInt8}
    {finding : Option Finding} (step : SearchStep lookup bytes finding rest)
    (hbytes : bytes = before ++ tail) (hbefore : before ≠ []) :
  (∃ front, rest = front ++ tail) ∨
    ∃ frame, finding = some (.frame frame) ∧ rest.length < tail.length
  := by
  rcases Nat.lt_or_ge rest.length tail.length with hshort | hlong
  · right
    have hpos := List.length_pos_iff.mpr hbefore
    have hlength := congrArg List.length hbytes
    rw [List.length_append] at hlength
    cases step with
    | noise marker =>
        rw [List.length_cons] at hlength
        omega
    | rejected marker verdict =>
        rw [List.length_cons] at hlength
        omega
    | @found b bytes version frame length marker verdict => exact ⟨frame, rfl, hshort⟩
  · left
    have hsuffix : tail <:+ rest :=
      List.suffix_of_suffix_length_le ⟨before, hbytes.symm⟩ step.suffix hlong
    obtain ⟨front, hfront⟩ := hsuffix
    exact ⟨front, hfront.symm⟩

/-- No bytes hide the frame behind them, if there are enough bytes from its start on: either
it is delivered, or a frame that covers its start. -/
theorem exists_delivery_or_cover (admissible : frame.Admissible lookup crcExtra)
    {received : Nat} (before after : List UInt8)
    (hreceived : (before ++ (frame.wire crcExtra ++ after)).length ≤ received)
    (hlong : Packet.size ≤ (frame.wire crcExtra ++ after).length + 1) :
  ∃ delivery ∈ deliveriesIn lookup received (before ++ (frame.wire crcExtra ++ after)),
    (delivery.start = received - (frame.wire crcExtra ++ after).length ∧
        delivery.frame = frame.received) ∨
      (delivery.start < received - (frame.wire crcExtra ++ after).length ∧
        received - (frame.wire crcExtra ++ after).length < delivery.stop)
  := by
  have hstart := exists_delivery_wire admissible received after
  generalize frame.wire crcExtra ++ after = tail at *
  induction hbytes : before ++ tail using search_induction lookup generalizing before with
  | stuck bytes stuck =>
      cases before with
      | nil =>
          obtain ⟨delivery, hmem, hdelivery⟩ := hstart
          rw [← hbytes]
          exact ⟨delivery, hmem, Or.inl hdelivery⟩
      | cons b before =>
          -- A stuck candidate in front of the frame would be as long as a packet.
          exfalso
          have hlength := stuck.length_lt
          rw [← hbytes, List.length_append, List.length_cons] at hlength
          omega
  | step bytes finding rest step ih =>
      cases before with
      | nil =>
          obtain ⟨delivery, hmem, hdelivery⟩ := hstart
          rw [← hbytes]
          exact ⟨delivery, hmem, Or.inl hdelivery⟩
      | cons b before =>
          rw [hbytes] at hreceived
          rw [step.deliveriesIn_eq]
          rcases step.keeps_or_covers hbytes.symm (List.cons_ne_nil b before) with
            ⟨front, rfl⟩ | ⟨other, rfl, hshort⟩
          · have hlength := step.length_lt
            obtain ⟨delivery, hmem, hdelivery⟩ := ih front (by omega) rfl
            exact ⟨delivery, List.mem_append_right _ hmem, hdelivery⟩
          · have hsize := step.size_add_length
            have htail := congrArg List.length hbytes
            rw [List.length_append, List.length_cons] at htail
            refine ⟨.of received other rest,
              List.mem_append_left _ (List.mem_singleton_self _), Or.inr ⟨?_, ?_⟩⟩
            · change received - rest.length - other.size < _
              omega
            · change _ < received - rest.length
              omega

/-- Whatever is in front of a frame that the receiver accepts, a new deframer delivers the
frame from where it starts, or it delivers a frame that starts before and stops behind the
start of the frame, provided that there are at least 279 bytes from the start on.  If no
byte in front of the frame is a marker, the frame is delivered in any case.  What is
delivered are the frames that the deframer finds, each with the place in the stream where it
is. -/
theorem delivered_or_covered (admissible : frame.Admissible lookup crcExtra)
    (packet : Packet) (before after : List UInt8) :
  let bytes := (frame.encode crcExtra packet).bytes
  let deliveries := Deframer.deliveries lookup 0 (before ++ bytes ++ after) {}
  deliveries.map Delivery.frame =
      (Deframer.pushAll lookup (before ++ bytes ++ after) {}).1.filterMap Finding.frame? ∧
    (∀ delivery ∈ deliveries,
      examine lookup delivery.frame.version ((before ++ bytes ++ after).drop delivery.start) =
        .complete delivery.frame (delivery.stop - delivery.start)) ∧
    (279 ≤ bytes.length + after.length →
      (∃ delivery ∈ deliveries,
          delivery.start = before.length ∧ delivery.frame = frame.received) ∨
        ∃ delivery ∈ deliveries,
          delivery.start < before.length ∧ before.length < delivery.stop) ∧
    ((∀ b ∈ before, Version.ofMarker? b = none) →
      ∃ delivery ∈ deliveries,
        delivery.start = before.length ∧ delivery.frame = frame.received)
  := by
  intro bytes deliveries
  have hbytes : bytes = frame.wire crcExtra := frame.bytes_encode crcExtra packet
  have hdeliveries : deliveries =
      deliveriesIn lookup (before ++ (frame.wire crcExtra ++ after)).length
        (before ++ (frame.wire crcExtra ++ after)) := by
    change Deframer.deliveries lookup 0 (before ++ bytes ++ after) {} = _
    rw [Deframer.deliveries_eq 0 _ Stuck.nil, hbytes, List.append_assoc, Nat.zero_add]
    rfl
  have hstart : (before ++ (frame.wire crcExtra ++ after)).length -
      (frame.wire crcExtra ++ after).length = before.length := by
    rw [List.length_append, Nat.add_sub_cancel]
  refine ⟨Deframer.map_frame_deliveries lookup 0 _ {}, ?_, ?_, ?_⟩
  · intro delivery hmem
    apply Deframer.examine_of_mem_deliveries hmem
  · intro hlong
    have hpacket : Packet.size ≤ (frame.wire crcExtra ++ after).length + 1 := by
      rw [List.length_append, ← hbytes]
      apply Nat.succ_le_succ hlong
    obtain ⟨delivery, hmem, hdelivery⟩ :=
      exists_delivery_or_cover admissible before after (Nat.le_refl _) hpacket
    rw [← hdeliveries] at hmem
    rw [hstart] at hdelivery
    rcases hdelivery with hdelivered | hcovered
    · left
      exact ⟨delivery, hmem, hdelivered⟩
    · right
      exact ⟨delivery, hmem, hcovered⟩
  · intro noise
    obtain ⟨delivery, hmem, hdelivery⟩ := exists_delivery_of_noise admissible
      (before ++ (frame.wire crcExtra ++ after)).length after noise
    rw [← hdeliveries] at hmem
    rw [hstart] at hdelivery
    exact ⟨delivery, hmem, hdelivery⟩

/-- Behind a stray marker a link test is delivered, or a frame that covers its start, once
there are enough bytes. -/
theorem delivered_or_covered_linkTest :
  let frame := LinkTest.format.frame ⟨7, Single.zero⟩ ⟨1⟩ ⟨1⟩ 0
  let lookup := Lookup.ofList [LinkTest.format.descriptor]
  let bytes := (frame.encode LinkTest.format.crcExtra Packet.blank).bytes
  let deliveries := Deframer.deliveries lookup 0
    ([Version.v2.marker] ++ bytes ++ List.replicate 279 0) {}
  frame.Admissible lookup LinkTest.format.crcExtra ∧
    ((∃ delivery ∈ deliveries, delivery.start = 1 ∧ delivery.frame = frame.received) ∨
      ∃ delivery ∈ deliveries, delivery.start < 1 ∧ 1 < delivery.stop)
  := by
  intro frame lookup bytes deliveries
  have admissible : frame.Admissible lookup LinkTest.format.crcExtra :=
    LinkTest.format.admissible_frame rfl ⟨7, Single.zero⟩ ⟨1⟩ ⟨1⟩ 0
  constructor
  · apply admissible
  · apply (delivered_or_covered admissible Packet.blank [Version.v2.marker]
      (List.replicate 279 0)).2.2.1
    rw [List.length_replicate]
    apply Nat.le_add_left

end FlightBus
