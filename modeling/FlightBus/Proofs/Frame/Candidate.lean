import FlightBus.Frame.Candidate
import FlightBus.Frame.Packet
import Mathlib.Tactic.Use

/-!
# Decisions on candidates

What `examine` says of a candidate depends on the bytes of the candidate alone: once it has
decided, more bytes do not change the decision.  A candidate is decided at the latest when
there are as many bytes as a packet holds, and a frame that is found is no longer than the
bytes at hand.
-/

namespace FlightBus

/-- A slice of a list stays the same when more elements are appended. -/
theorem slice_append {bytes : List UInt8} {start count : Nat} (more : List UInt8)
    (h : start + count ≤ bytes.length) :
  ((bytes ++ more).drop start).take count = (bytes.drop start).take count
  := by
  rw [List.drop_append_of_le_length (by omega)]
  apply List.take_append_of_le_length
  rw [List.length_drop]
  omega

/-! ### Headers -/

namespace Header

/-- A header that is read takes up the bytes in front of the others, whatever these are. -/
theorem exists_front_of_read? {version : Version} {bytes body : List UInt8}
    {header : Header} (h : read? version bytes = some (header, body)) :
  ∃ front, front.length = version.headerSize ∧ bytes = front ++ body ∧
    ∀ rest, read? version (front ++ rest) = some (header, rest)
  := by
  rw [read?.eq_def] at h
  split at h
  · rename_i marker length sequence system component id body'
    cases h
    use [marker, length, sequence, system, component, id], rfl, rfl
    intro rest
    rfl
  · rename_i marker length incompat compat sequence system component id₀ id₁ id₂ body'
    cases h
    use [marker, length, incompat, compat, sequence, system, component, id₀, id₁, id₂], rfl, rfl
    intro rest
    rfl
  · cases h

theorem read?_append {version : Version} {bytes body : List UInt8} {header : Header}
    (more : List UInt8) (h : read? version bytes = some (header, body)) :
  read? version (bytes ++ more) = some (header, body ++ more)
  := by
  obtain ⟨front, -, rfl, hread⟩ := exists_front_of_read? h
  rw [List.append_assoc]
  apply hread

theorem length_of_read? {version : Version} {bytes body : List UInt8} {header : Header}
    (h : read? version bytes = some (header, body)) :
  bytes.length = version.headerSize + body.length
  := by
  obtain ⟨front, hfront, rfl, -⟩ := exists_front_of_read? h
  rw [List.length_append, hfront]

theorem version_of_read? {version : Version} {bytes body : List UInt8} {header : Header}
    (h : read? version bytes = some (header, body)) :
  header.version = version
  := by
  rw [read?.eq_def] at h
  split at h
  · cases h
    rfl
  · cases h
    rfl
  · cases h

/-- A header can be read as soon as there are as many bytes as it has. -/
theorem length_lt_of_read? {version : Version} {bytes : List UInt8}
    (h : read? version bytes = none) :
  bytes.length < version.headerSize
  := by
  cases version with
  | v1 =>
      rcases bytes with _ | ⟨_, _ | ⟨_, _ | ⟨_, _ | ⟨_, _ | ⟨_, _ | ⟨_, body⟩⟩⟩⟩⟩⟩
      case cons.cons.cons.cons.cons.cons => cases h
      all_goals simp [Version.headerSize]
  | v2 =>
      rcases bytes with _ | ⟨_, _ | ⟨_, _ | ⟨_, _ | ⟨_, _ | ⟨_, _ | ⟨_, _ | ⟨_, _ | ⟨_, _ |
        ⟨_, _ | ⟨_, body⟩⟩⟩⟩⟩⟩⟩⟩⟩⟩
      case cons.cons.cons.cons.cons.cons.cons.cons.cons.cons => cases h
      all_goals simp [Version.headerSize]

/-- No frame is longer than a packet. -/
theorem frameLength_le (header : Header) :
  header.frameLength ≤ Packet.size
  := by
  have hbody := header.bodyLength_le
  have hstart : header.version.headerSize ≤ Version.v2.headerSize := by
    cases header.version <;> decide
  have hsignature : header.announcedSignature ≤ Signature.size := by
    rw [announcedSignature]
    split
    · apply Nat.le_refl
    · apply Nat.zero_le
  rw [frameLength, Packet.size]
  omega

/-- The frame of a header stays the same when more bytes are appended. -/
theorem toFrame_append {header : Header} {body : List UInt8} (more : List UInt8)
    (h : header.bodyLength + Checksum.size + header.announcedSignature ≤ body.length) :
  header.toFrame (body ++ more) = header.toFrame body
  := by
  have hpayload : (body ++ more).take header.bodyLength = body.take header.bodyLength := by
    apply List.take_append_of_le_length
    omega
  cases hsigned : header.isSigned with
  | false =>
      simp only [toFrame, hpayload, hsigned]
      rfl
  | true =>
      rw [announcedSignature, if_pos hsigned] at h
      simp only [toFrame, hpayload, if_pos hsigned, slice_append more h]

end Header

/-! ### Candidates -/

/-- Once a candidate is decided, more bytes do not change the decision. -/
theorem examine_append {lookup : Lookup} {version : Version} {candidate : List UInt8}
    (more : List UInt8) (decided : examine lookup version candidate ≠ .incomplete) :
  examine lookup version (candidate ++ more) = examine lookup version candidate
  := by
  cases hread : Header.read? version candidate with
  | none =>
      exfalso
      apply decided
      simp only [examine, hread]
  | some result =>
      obtain ⟨header, body⟩ := result
      have hmore := Header.read?_append more hread
      simp only [examine, hread] at decided
      simp only [examine, hread, hmore]
      split
      · rfl
      · rename_i hflags
        split
        · rfl
        · rename_i descriptor hdescriptor
          split
          · rfl
          · rename_i hlength
            simp only [hflags, hdescriptor, hlength] at decided
            -- The frame is there as a whole, or else nothing would be decided.
            have hwhole : ¬ candidate.length < header.frameLength := by
              intro hshort
              apply decided
              simp only [hshort]
              rfl
            have hwhole' : ¬ (candidate ++ more).length < header.frameLength := by
              rw [List.length_append]
              omega
            have hparts := Nat.le_of_not_lt hwhole
            rw [Header.frameLength, Header.version_of_read? hread] at hparts
            have hstop :
                version.headerSize + header.bodyLength + Checksum.size ≤ candidate.length := by
              omega
            have hbody :
                header.bodyLength + Checksum.size + header.announcedSignature ≤ body.length := by
              have hsplit := Header.length_of_read? hread
              omega
            simp only [hwhole, hwhole', if_false, slice_append more hstop,
              Header.toFrame_append more hbody,
              List.take_append_of_le_length (Nat.le_trans (Nat.le_add_right _ _) hstop)]

/-- A candidate that cannot be decided stays undecided when more message types are known. -/
theorem examine_eq_incomplete_of_known {lookup more : Lookup}
    (known : ∀ id descriptor, lookup id = some descriptor → more id = some descriptor)
    {version : Version} {candidate : List UInt8}
    (h : examine lookup version candidate = .incomplete) :
  examine more version candidate = .incomplete
  := by
  cases hread : Header.read? version candidate with
  | none => simp only [examine, hread]
  | some result =>
      obtain ⟨header, body⟩ := result
      simp only [examine, hread] at h ⊢
      split at h
      · cases h
      · rename_i hflags
        split at h
        · cases h
        · rename_i descriptor hdescriptor
          -- From here on nothing is looked up any more.
          simp only [hflags, known _ _ hdescriptor]
          apply h

/-- A candidate is undecided only as long as there are fewer bytes than a packet holds. -/
theorem length_lt_of_incomplete {lookup : Lookup} {version : Version}
    {candidate : List UInt8} (h : examine lookup version candidate = .incomplete) :
  candidate.length < Packet.size
  := by
  cases hread : Header.read? version candidate with
  | none =>
      apply Nat.lt_of_lt_of_le (Header.length_lt_of_read? hread)
      cases version <;> decide
  | some result =>
      obtain ⟨header, body⟩ := result
      simp only [examine, hread] at h
      split at h
      · cases h
      · split at h
        · cases h
        · split at h
          · cases h
          · split at h
            · rename_i hshort
              apply Nat.lt_of_lt_of_le hshort header.frameLength_le
            · split at h <;> cases h

/-- What it takes for a candidate to be a frame. -/
theorem examine_eq_complete_iff {lookup : Lookup} {version : Version}
    {candidate : List UInt8} {frame : Frame} {length : Nat} :
  examine lookup version candidate = .complete frame length ↔
    ∃ header body descriptor,
      Header.read? version candidate = some (header, body) ∧
      header.hasUnsupportedFlags = false ∧
      lookup header.message = some descriptor ∧
      header.admitsLength descriptor = true ∧
      header.frameLength ≤ candidate.length ∧
      UInt16.ofNat (LittleEndian.decode
          ((candidate.drop (version.headerSize + header.bodyLength)).take Checksum.size)) =
        Checksum.ofFrame
          ((candidate.take (version.headerSize + header.bodyLength)).drop 1)
          descriptor.crcExtra ∧
      frame = header.toFrame body ∧ length = header.frameLength
  := by
  cases hread : Header.read? version candidate with
  | none => simp [examine, hread]
  | some result =>
      obtain ⟨header, body⟩ := result
      simp only [examine, hread]
      constructor
      · intro h
        split at h
        · cases h
        · rename_i hflags
          split at h
          · cases h
          · rename_i descriptor hdescriptor
            split at h
            · cases h
            · rename_i hlength
              split at h
              · cases h
              · rename_i hwhole
                split at h
                · cases h
                · rename_i hchecksum
                  cases h
                  refine ⟨header, body, descriptor, rfl, by simpa using hflags, hdescriptor,
                    by simpa using hlength, Nat.le_of_not_lt hwhole, by simpa using hchecksum,
                    rfl, rfl⟩
      · rintro ⟨header', body', descriptor, hsame, hflags, hdescriptor, hlength, hwhole,
          hchecksum, rfl, rfl⟩
        cases hsame
        simp [hflags, hdescriptor, hlength, hwhole, hchecksum]

end FlightBus
