import FlightBus.Proofs.Frame.Reencoding
import FlightBus.Proofs.Frame.Wire

/-!
# Bounds of the window

A deframer may keep its window in a buffer of the size of a packet.  Then it must not store a
byte behind the end of the buffer, and must not look at more than the bytes that it has
stored.  Here the work of a deframer is done with a check in front of every access, and it
fails when a check does.  Its loops are given a number of turns, and it fails as well when
these do not suffice.

A deframer that works with checks never fails, whatever the calls and whatever is known at
each of them, and so it does what it does without checks.  The reasons are that a candidate
is undecided only as long as it is shorter than a packet, that a frame that is found frees the
bytes that it takes up, and that each turn of a loop takes something from the window.
-/

namespace FlightBus

/-! ### Checks -/

/-- The bytes from `start` up to `stop`, if all of them are there. -/
def slice? (bytes : List UInt8) (start stop : Nat) : Option (List UInt8) :=
  if start ≤ stop ∧ stop ≤ bytes.length then
    some ((bytes.take stop).drop start)
  else
    none

theorem slice?_eq {bytes : List UInt8} {start stop : Nat} (hstart : start ≤ stop)
    (hstop : stop ≤ bytes.length) :
  slice? bytes start stop = some ((bytes.take stop).drop start)
  := if_pos ⟨hstart, hstop⟩

/-- All bytes from one on are there, if there is this one. -/
theorem slice?_length {bytes : List UInt8} {start : Nat} (h : start ≤ bytes.length) :
  slice? bytes start bytes.length = some (bytes.drop start)
  := by
  rw [slice?_eq h (Nat.le_refl _), List.take_length]

/-- The payload of the given bytes, if they fit into a frame. -/
def Payload.ofBytes? (bytes : List UInt8) : Option Payload :=
  if h : bytes.length ≤ payloadLimit then some ⟨bytes, h⟩ else none

/-! ### Candidates -/

namespace Header

/-- The signature that a header announces, if the window has it from `start` on. -/
def signatureIn? (header : Header) (window : List UInt8) (start : Nat) :
    Option (Option Signature) :=
  if header.isSigned then do
    let bytes ← slice? window start (start + Signature.size)
    (Signature.ofBytes? bytes).map some
  else
    some none

/-- Compares the checksum of a candidate that is there as a whole, and takes its frame from
the window. -/
def frameIn? (header : Header) (crcExtra : UInt8) (window : List UInt8) :
    Option Verdict := do
  let start := header.version.headerSize
  let stop := start + header.bodyLength
  let checksum ← slice? window stop (stop + Checksum.size)
  let covered ← slice? window 1 stop
  let received := UInt16.ofNat (LittleEndian.decode checksum)
  let computed := Checksum.ofFrame covered crcExtra
  if received ≠ computed then
    some (.rejected (.checksumMismatch header.message received computed))
  else do
    let signature ← header.signatureIn? window (stop + Checksum.size)
    let payload ← (slice? window start stop).bind Payload.ofBytes?
    some (.complete
      { version := header.version
        incompatFlags := header.incompatFlags
        compatFlags := header.compatFlags
        sequence := header.sequence
        system := header.system
        component := header.component
        message := header.message
        payload, signature } header.frameLength)

end Header

/-- Decides the candidate of a version that starts the window, with checked accesses. -/
def examine? (lookup : Lookup) (version : Version) (window : List UInt8) : Option Verdict :=
  if window.length < version.headerSize then
    some .incomplete
  else do
    let front ← slice? window 0 version.headerSize
    let (header, _) ← Header.read? version front
    if header.hasUnsupportedFlags then
      some (.rejected (.unsupportedFlags header.incompatFlags))
    else
      match lookup header.message with
      | none => some (.rejected (.unknownMessage header.message))
      | some descriptor =>
        if ¬ header.admitsLength descriptor then
          some (.rejected (.badLength header.bodyLength header.message))
        else if window.length < header.frameLength then
          some .incomplete
        else
          header.frameIn? descriptor.crcExtra window

section Candidate

variable {version : Version} {window body : List UInt8} {header : Header}

/-- What is behind the header in the window is what was read behind it. -/
theorem drop_headerSize_of_read? (h : Header.read? version window = some (header, body)) :
  window.drop version.headerSize = body
  := by
  obtain ⟨front, hfront, rfl, -⟩ := Header.exists_front_of_read? h
  rw [← hfront, List.drop_left]

theorem Header.signatureIn?_eq (hread : Header.read? version window = some (header, body))
    (hwhole : header.frameLength ≤ window.length) :
  header.signatureIn? window
      (header.version.headerSize + header.bodyLength + Checksum.size) =
    some (header.toFrame body).signature
  := by
  have hbody := drop_headerSize_of_read? hread
  have hversion := Header.version_of_read? hread
  rw [frameLength, announcedSignature] at hwhole
  rw [signatureIn?, toFrame]
  cases hsigned : header.isSigned with
  | false => rfl
  | true =>
      rw [if_pos hsigned] at hwhole
      have hslice : ((window.take
          (header.version.headerSize + header.bodyLength + Checksum.size + Signature.size)).drop
            (header.version.headerSize + header.bodyLength + Checksum.size)) =
          (body.drop (header.bodyLength + Checksum.size)).take Signature.size := by
        rw [← hbody, List.drop_drop, ← hversion, List.drop_take, Nat.add_sub_cancel_left,
          Nat.add_assoc]
      have hsize : ((body.drop (header.bodyLength + Checksum.size)).take
          Signature.size).length = Signature.size := by
        apply List.length_take_of_le
        rw [← hbody, List.drop_drop, List.length_drop, ← hversion]
        omega
      rw [slice?_eq (Nat.le_add_right _ _) hwhole, hslice]
      simp only [if_true, Option.bind_eq_bind, Option.bind_some, Signature.ofBytes?,
        dif_pos hsize, Option.map_some]

/-- The payload that a header announces is there, and fits into a frame. -/
theorem Header.payloadIn?_eq (hread : Header.read? version window = some (header, body))
    (hwhole : header.frameLength ≤ window.length) :
  (slice? window header.version.headerSize
      (header.version.headerSize + header.bodyLength)).bind Payload.ofBytes? =
    some (header.toFrame body).payload
  := by
  have hbody := drop_headerSize_of_read? hread
  have hversion := Header.version_of_read? hread
  rw [frameLength] at hwhole
  have hslice : (window.take (header.version.headerSize + header.bodyLength)).drop
      header.version.headerSize = body.take header.bodyLength := by
    rw [← hbody, ← hversion, List.drop_take, Nat.add_sub_cancel_left]
  have hfits : (body.take header.bodyLength).length ≤ payloadLimit :=
    Nat.le_trans (List.length_take_le _ _) header.bodyLength_le
  rw [slice?_eq (Nat.le_add_right _ _) (by omega), hslice, Option.bind_some,
    Payload.ofBytes?, dif_pos hfits]
  rfl

/-- The checksum of a candidate that is there as a whole is, and so is what it covers, and the
candidate is decided as it is without checks. -/
theorem Header.frameIn?_eq (hread : Header.read? version window = some (header, body))
    (hwhole : header.frameLength ≤ window.length) {lookup : Lookup} {descriptor : Descriptor}
    (hflags : header.hasUnsupportedFlags = false)
    (hdescriptor : lookup header.message = some descriptor)
    (hlength : header.admitsLength descriptor = true) :
  header.frameIn? descriptor.crcExtra window = some (examine lookup version window)
  := by
  obtain rfl := version_of_read? hread
  have hshort : ¬ window.length < header.frameLength := Nat.not_lt_of_le hwhole
  have hparts := hwhole
  rw [frameLength] at hparts
  have hpos : 1 ≤ header.version.headerSize := by
    cases header.version <;> decide
  rw [frameIn?]
  simp only [Option.bind_eq_bind]
  rw [slice?_eq (Nat.le_add_right _ _) (by omega), slice?_eq (by omega) (by omega),
    Option.bind_some, Option.bind_some, signatureIn?_eq hread hwhole,
    payloadIn?_eq hread hwhole, List.drop_take, Nat.add_sub_cancel_left]
  simp only [examine, hread, hflags, hdescriptor, hlength, hshort]
  split
  · simp
  · simp
    rfl

/-- Every access to a candidate is inside the window: the checks change nothing. -/
theorem examine?_eq (lookup : Lookup) (version : Version) (window : List UInt8) :
  examine? lookup version window = some (examine lookup version window)
  := by
  cases hread : Header.read? version window with
  | none =>
      have hshort := Header.length_lt_of_read? hread
      rw [examine?, if_pos hshort]
      simp only [examine, hread]
  | some result =>
      obtain ⟨header, body⟩ := result
      obtain ⟨front, hfront, hwindow, hrest⟩ := Header.exists_front_of_read? hread
      have hlength := Header.length_of_read? hread
      have hheader := hrest []
      rw [List.append_nil] at hheader
      have hslice : slice? window 0 version.headerSize = some front := by
        rw [slice?_eq (Nat.zero_le _) (by omega), List.drop_zero, hwindow, ← hfront,
          List.take_left]
      rw [examine?, if_neg (by omega), hslice]
      simp only [Option.bind_eq_bind, Option.bind_some, hheader]
      cases hflags : header.hasUnsupportedFlags with
      | true => simp [examine, hread, hflags]
      | false =>
          cases hdescriptor : lookup header.message with
          | none => simp [examine, hread, hflags, hdescriptor]
          | some descriptor =>
              cases hadmits : header.admitsLength descriptor with
              | false => simp [examine, hread, hflags, hdescriptor, hadmits]
              | true =>
                  by_cases hshort : window.length < header.frameLength
                  · simp [examine, hread, hflags, hdescriptor, hadmits, hshort]
                  · have hframe := Header.frameIn?_eq hread (Nat.le_of_not_lt hshort) hflags
                      hdescriptor hadmits
                    simp [hadmits, hshort, hframe]

end Candidate

/-! ### Searches -/

/-- Whether a byte starts a candidate. -/
def isMarker (b : UInt8) : Bool :=
  (Version.ofMarker? b).isSome

/-- What a turn of the loop of a search comes to. -/
inductive Turn
  /-- The loop ends, with a frame or without one. -/
  | stop (found : Option Frame) (rest : List UInt8)
  /-- The loop goes on, behind a candidate that was rejected or a byte that is no marker. -/
  | again (cause? : Option Rejection) (rest : List UInt8)

/-- A turn of the loop of a search, with checked accesses: the window is moved to the first
marker in it, and the candidate there is examined. -/
def turn? (lookup : Lookup) (window : List UInt8) : Option Turn := do
  let window ← slice? window (window.findIdx isMarker) window.length
  match window with
  | [] => some (.stop none [])
  | b :: _ =>
    match Version.ofMarker? b with
    | none => (slice? window 1 window.length).map (.again none)
    | some version =>
      match ← examine? lookup version window with
      | .incomplete => some (.stop none window)
      | .rejected cause => (slice? window 1 window.length).map (.again cause)
      | .complete frame length => (slice? window length window.length).map (.stop frame)

/-- A search with checked accesses, in no more than the given number of turns. -/
def searchWithin? (lookup : Lookup) : Nat → List UInt8 → Option Search
  | 0, _ => none
  | turns + 1, window => do
    match ← turn? lookup window with
    | .stop found rest => some ⟨[], found, rest⟩
    | .again cause? rest =>
        let result ← searchWithin? lookup turns rest
        some { result with rejections := cause?.toList ++ result.rejections }

section Loop

variable {lookup : Lookup}

/-- A search passes over what is in front of the first marker. -/
theorem search_drop_findIdx (lookup : Lookup) (window : List UInt8) :
  search lookup (window.drop (window.findIdx isMarker)) = search lookup window
  := by
  induction window with
  | nil => rfl
  | cons b window ih =>
      rw [List.findIdx_cons]
      cases hmarker : Version.ofMarker? b with
      | none =>
          have hnone : isMarker b = false := by
            rw [isMarker, hmarker]
            rfl
          rw [hnone, cond_false, List.drop_succ_cons, ih]
          simp only [search, hmarker]
      | some version =>
          have hsome : isMarker b = true := by
            rw [isMarker, hmarker]
            rfl
          rw [hsome, cond_true, List.drop_zero]

/-- A turn of the loop of a search never fails.  If the loop ends with it, then with the
result of the search, and otherwise there is less left to search. -/
theorem exists_turn (lookup : Lookup) (window : List UInt8) :
  (∃ found rest, turn? lookup window = some (.stop found rest) ∧
    search lookup window = ⟨[], found, rest⟩) ∨
  ∃ cause? rest, turn? lookup window = some (.again cause? rest) ∧
    rest.length < window.length ∧
    search lookup window =
      { search lookup rest with
        rejections := cause?.toList ++ (search lookup rest).rejections }
  := by
  have hslice : slice? window (window.findIdx isMarker) window.length =
      some (window.drop (window.findIdx isMarker)) :=
    slice?_length List.findIdx_le_length
  have hlength : (window.drop (window.findIdx isMarker)).length ≤ window.length := by
    rw [List.length_drop]
    apply Nat.sub_le
  rw [← search_drop_findIdx lookup window]
  simp only [turn?, hslice, Option.bind_eq_bind, Option.bind_some]
  generalize window.drop (window.findIdx isMarker) = moved at hlength
  cases moved with
  | nil =>
      left
      exact ⟨none, [], rfl, rfl⟩
  | cons b bytes =>
      have hrest : slice? (b :: bytes) 1 (b :: bytes).length = some bytes :=
        slice?_length (Nat.succ_pos _)
      rw [List.length_cons] at hlength
      cases hmarker : Version.ofMarker? b with
      | none =>
          right
          refine ⟨none, bytes, ?_, hlength, ?_⟩
          · simp only [hmarker, hrest, Option.map_some]
          · simp only [search, hmarker, Option.toList_none, List.nil_append]
      | some version =>
          cases hverdict : examine lookup version (b :: bytes) with
          | incomplete =>
              left
              refine ⟨none, b :: bytes, ?_, ?_⟩
              · simp only [hmarker, examine?_eq, Option.bind_some, hverdict]
              · simp only [search, hmarker, hverdict]
          | rejected cause =>
              right
              refine ⟨cause, bytes, ?_, hlength, ?_⟩
              · simp only [hmarker, examine?_eq, Option.bind_some, hverdict, hrest,
                  Option.map_some]
              · simp only [search, hmarker, hverdict, Option.toList_some, List.singleton_append]
          | complete frame length =>
              left
              have hpos := frame.size_pos
              rw [size_of_complete hverdict] at hpos
              have hdrop : (b :: bytes).drop length = bytes.drop (length - 1) := by
                rw [← Nat.succ_pred_eq_of_pos hpos, List.drop_succ_cons]
                rfl
              refine ⟨frame, bytes.drop (length - 1), ?_, ?_⟩
              · simp only [hmarker, examine?_eq, Option.bind_some, hverdict,
                  slice?_length (length_le_of_complete hverdict), hdrop, Option.map_some]
              · simp only [search, hmarker, hverdict]

/-- A search comes to an end in no more turns than there are bytes and one more, with all
accesses inside the window, and its result is that without checks. -/
theorem searchWithin?_eq (lookup : Lookup) {turns : Nat} {window : List UInt8}
    (h : window.length < turns) :
  searchWithin? lookup turns window = some (search lookup window)
  := by
  induction turns generalizing window with
  | zero => cases h
  | succ turns ih =>
      rcases exists_turn lookup window with
        ⟨found, rest, hturn, hsearch⟩ | ⟨cause?, rest, hturn, hlength, hsearch⟩
      · simp only [searchWithin?, hturn, Option.bind_eq_bind, Option.bind_some, hsearch]
      · simp only [searchWithin?, hturn, Option.bind_eq_bind, Option.bind_some,
          ih (Nat.lt_of_lt_of_le hlength (Nat.le_of_lt_succ h)), hsearch]

end Loop

/-! ### Deframers -/

namespace Deframer

/-- A poll with checked accesses. -/
def poll? (lookup : Lookup) (deframer : Deframer) : Option (List Finding × Deframer) := do
  let result ← searchWithin? lookup (deframer.window.length + 1) deframer.window
  some (result.findings, ⟨result.rest, deframer.counts.addAll result.findings⟩)

/-- Takes a byte, for which there must be room in a buffer of the size of a packet, and
searches for the next frame with checked accesses. -/
def push? (lookup : Lookup) (byte : UInt8) (deframer : Deframer) :
    Option (List Finding × Deframer) :=
  if deframer.window.length < Packet.size then
    (deframer.append [byte]).poll? lookup
  else
    none

/-- Whether there is a frame among findings. -/
def foundFrame (findings : List Finding) : Bool :=
  !(findings.filterMap Finding.frame?).isEmpty

/-- Polls with checked accesses until no frame is found, no more often than the given
number. -/
def pollWithin? (lookup : Lookup) : Nat → Deframer → Option (List Finding × Deframer)
  | 0, _ => none
  | polls + 1, deframer => do
    let (findings, deframer) ← deframer.poll? lookup
    if foundFrame findings then
      let (others, deframer) ← pollWithin? lookup polls deframer
      some (findings ++ others, deframer)
    else
      some (findings, deframer)

/-- Takes bytes one by one with checked accesses, and when a byte completes a frame, polls
until no frame is found. -/
def pushAll? (lookup : Lookup) : List UInt8 → Deframer → Option (List Finding × Deframer)
  | [], deframer => some ([], deframer)
  | byte :: bytes, deframer => do
    let (findings, deframer) ← deframer.push? lookup byte
    let (more, deframer) ←
      if foundFrame findings then
        pollWithin? lookup (deframer.window.length + 1) deframer
      else
        some ([], deframer)
    let (others, deframer) ← pushAll? lookup bytes deframer
    some (findings ++ more ++ others, deframer)

/-- Answers a call with checked accesses. -/
def answer? (lookup : Lookup) (deframer : Deframer) :
    DeframerCall → Option (List Finding × Deframer)
  | .push byte => deframer.push? lookup byte
  | .pushAll bytes => pushAll? lookup bytes deframer
  | .poll => deframer.poll? lookup

/-- Meets a request with checked accesses. -/
def serve? (deframer : Deframer) : DeframerRequest → Option (List Finding × Deframer)
  | .call lookup call => deframer.answer? lookup call
  | .reset => some ([], deframer.reset)

/-- Meets requests with checked accesses, in order. -/
def serveAll? : List DeframerRequest → Deframer → Option (List Finding × Deframer)
  | [], deframer => some ([], deframer)
  | request :: requests, deframer => do
    let (first, deframer) ← deframer.serve? request
    let (others, deframer) ← serveAll? requests deframer
    some (first ++ others, deframer)

/-! ### Nothing fails -/

variable {lookup : Lookup} {deframer : Deframer}

theorem poll?_eq (lookup : Lookup) (deframer : Deframer) :
  deframer.poll? lookup = some (deframer.poll lookup)
  := by
  rw [poll?, searchWithin?_eq lookup (Nat.lt_succ_self _)]
  rfl

theorem push?_eq (lookup : Lookup) (byte : UInt8)
    (h : deframer.window.length < Packet.size) :
  deframer.push? lookup byte = some (deframer.push lookup byte)
  := by
  rw [push?, if_pos h, poll?_eq]
  rfl

theorem foundFrame_poll (lookup : Lookup) (deframer : Deframer) :
  foundFrame (deframer.poll lookup).1 = (search lookup deframer.window).found.isSome
  := by
  rw [foundFrame, poll, filterMap_frame?_findings]
  cases (search lookup deframer.window).found with
  | none => rfl
  | some frame => rfl

/-- A drain finds what a poll finds, and what a drain finds after it. -/
theorem drain_eq_poll (lookup : Lookup) (deframer : Deframer) :
  deframer.drain lookup =
    ((deframer.poll lookup).1 ++ ((deframer.poll lookup).2.drain lookup).1,
      ((deframer.poll lookup).2.drain lookup).2)
  := by
  rw [drain, drain_eq_search]
  simp only [FindingCounts.addAll_append]
  rfl

/-- A poll that finds no frame is a drain. -/
theorem drain_of_not_found (h : (search lookup deframer.window).found = none) :
  deframer.drain lookup = deframer.poll lookup
  := by
  rw [drain, FlightBus.drain_of_not_found h]
  rfl

/-- Polling until no frame is found comes to an end in no more polls than there are bytes and
one more. -/
theorem pollWithin?_eq {polls : Nat} (h : deframer.window.length < polls) :
  pollWithin? lookup polls deframer = some (deframer.drain lookup)
  := by
  induction polls generalizing deframer with
  | zero => cases h
  | succ polls ih =>
      rw [pollWithin?, poll?_eq]
      simp only [Option.bind_eq_bind, Option.bind_some, foundFrame_poll]
      cases hfound : (search lookup deframer.window).found with
      | none =>
          rw [drain_of_not_found hfound]
          rfl
      | some frame =>
          have hless := length_rest_search lookup deframer.window
          rw [hfound, Option.isSome_some, if_pos rfl] at hless
          have hrest : (deframer.poll lookup).2.window.length < polls := by
            change (search lookup deframer.window).rest.length < polls
            omega
          simp only [Option.isSome_some, if_true, ih hrest, Option.bind_some]
          rw [drain_eq_poll lookup deframer]

/-- Taking a byte and, if it completes a frame, polling until no frame is found is a drain. -/
theorem pushAll?_cons (byte : UInt8) (bytes : List UInt8)
    (h : deframer.window.length < Packet.size) :
  pushAll? lookup (byte :: bytes) deframer =
    (pushAll? lookup bytes ((deframer.append [byte]).drain lookup).2).map
      (fun result => (((deframer.append [byte]).drain lookup).1 ++ result.1, result.2))
  := by
  rw [pushAll?, push?_eq lookup byte h, push]
  simp only [Option.bind_eq_bind, Option.bind_some, foundFrame_poll]
  cases hfound : (search lookup (deframer.append [byte]).window).found with
  | none =>
      rw [drain_of_not_found hfound]
      simp only [Option.isSome_none, Bool.false_eq_true, if_false, List.append_nil]
      cases pushAll? lookup bytes ((deframer.append [byte]).poll lookup).2 with
      | none => rfl
      | some result => rfl
  | some frame =>
      rw [drain_eq_poll]
      simp only [Option.isSome_some, if_true, pollWithin?_eq (Nat.lt_succ_self _),
        Option.bind_some]
      cases pushAll? lookup bytes
          (((deframer.append [byte]).poll lookup).2.drain lookup).2 with
      | none => rfl
      | some result => rfl

theorem pushAll?_eq (bytes : List UInt8) (h : deframer.window.length < Packet.size) :
  pushAll? lookup bytes deframer = some (pushAll lookup bytes deframer)
  := by
  induction bytes generalizing deframer with
  | nil => rfl
  | cons byte bytes ih =>
      have hroom : ((deframer.append [byte]).drain lookup).2.window.length < Packet.size := by
        apply Stuck.length_lt
        apply stuck_drain
      rw [pushAll?_cons byte bytes h, ih hroom]
      rfl

theorem answer?_eq (lookup : Lookup) (call : DeframerCall)
    (h : deframer.window.length < Packet.size) :
  deframer.answer? lookup call = some (deframer.answer lookup call)
  := by
  cases call with
  | push byte => apply push?_eq lookup byte h
  | pushAll bytes => apply pushAll?_eq bytes h
  | poll => apply poll?_eq

/-- A request is met without a failing check, and leaves room for a byte. -/
theorem serve?_eq (request : DeframerRequest) (h : deframer.window.length < Packet.size) :
  deframer.serve? request = some (deframer.serve request) ∧
    (deframer.serve request).2.window.length < Packet.size
  := by
  cases request with
  | call lookup call =>
      constructor
      · apply answer?_eq lookup call h
      · apply length_window_answer_lt lookup call h
  | reset =>
      constructor
      · rfl
      · change 0 < Packet.size
        decide

theorem serveAll?_eq (requests : List DeframerRequest)
    (h : deframer.window.length < Packet.size) :
  serveAll? requests deframer = some (serveAll requests deframer) ∧
    (serveAll requests deframer).2.window.length < Packet.size
  := by
  induction requests generalizing deframer with
  | nil => exact ⟨rfl, h⟩
  | cons request requests ih =>
      obtain ⟨hfirst, hroom⟩ := serve?_eq request h
      obtain ⟨hothers, hafter⟩ := ih hroom
      constructor
      · simp only [serveAll?, hfirst, Option.bind_eq_bind, Option.bind_some, hothers]
        rfl
      · apply hafter

/-- Whatever a new deframer is asked for, and whatever is known each time, it never stores a
byte behind the end of a buffer of 280 bytes, never looks at more bytes than it has stored,
and never finds a payload too long for a frame, and its loops come to an end.  Afterwards
there is room for a byte in the buffer. -/
theorem within_bounds (requests : List DeframerRequest) :
  serveAll? requests {} = some (serveAll requests {}) ∧
    (serveAll requests {}).2.window.length < Packet.size ∧ Packet.size = 280
  := by
  have hnew : ({} : Deframer).window.length < Packet.size := by decide
  obtain ⟨hserved, hroom⟩ := serveAll?_eq requests hnew
  exact ⟨hserved, hroom, rfl⟩

end Deframer

end FlightBus
