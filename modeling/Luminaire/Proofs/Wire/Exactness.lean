/-
Framing reads exactly what it writes.

A datagram either is too short for a header or is the bytes of one header
and a rest (`ExactFramed.exists_toBytes`): a header has no bytes that mean
nothing, so any bytes of its size are some header's. What reading makes of
a header and a rest is one equation (`unframe_append`), and every statement
about what is read, and which fault is found where nothing is, comes down
to it.

The readers and writers index into byte strings. On lists that always has
some result, so "no position is ever outside" is said by writing both down
once more with operations that break down there (`unframe?`, `frame?`), and
proving that they still have a result, and the same one.
-/
import Luminaire.Proofs.Bytes
import Luminaire.Proofs.Wire.Framing

namespace Luminaire

-- ========================================================= positions

/-- The bytes from `start` up to `stop`, unless one of them is missing. -/
def slice? (bytes : Bytes) (start stop : Nat) : Option Bytes :=
  if start ≤ stop ∧ stop ≤ bytes.length then some ((bytes.take stop).drop start) else none

/-- Puts a part in the place of the bytes from `start` up to `stop`, unless
one of them is missing or the part is not as long as they are. -/
def overwrite? (bytes : Bytes) (start stop : Nat) (part : Bytes) : Option Bytes :=
  if start ≤ stop ∧ stop ≤ bytes.length ∧ part.length = stop - start then
    some (bytes.take start ++ part ++ bytes.drop stop)
  else none

/-- A header that is read and laid out byte by byte, at fixed positions. -/
class Positional (H : Type) where
  /-- Reads every field where it stands. -/
  readAt? : Bytes → Option H
  layOut? : H → Option Bytes

instance : Positional Header where
  readAt? bytes := do
    let version ← bytes[0]?
    let endpoint ← bytes[1]?
    let messageType ← bytes[2]?
    let tag ← bytes[3]?
    let l1 ← bytes[4]?
    let l0 ← bytes[5]?
    some ⟨version, endpoint, messageType, tag, (bigEndian [l1, l0]).toUInt16⟩
  layOut? header := do
    let length := bigEndianBytes 2 header.length.toNat
    let l1 ← length[0]?
    let l0 ← length[1]?
    some [header.version, header.endpoint, header.messageType, header.tag, l1, l0]

instance : Positional GroupHeader where
  readAt? bytes := do
    let version ← bytes[0]?
    let endpoint ← bytes[1]?
    let messageType ← bytes[2]?
    let tag ← bytes[3]?
    let l1 ← bytes[4]?
    let l0 ← bytes[5]?
    let k3 ← bytes[6]?
    let k2 ← bytes[7]?
    let k1 ← bytes[8]?
    let k0 ← bytes[9]?
    some ⟨version, endpoint, messageType, tag, (bigEndian [l1, l0]).toUInt16,
      (bigEndian [k3, k2, k1, k0]).toUInt32⟩
  layOut? header := do
    let bytes ← overwrite? (List.replicate 10 0) 0 1 [header.version]
    let bytes ← overwrite? bytes 1 2 [header.endpoint]
    let bytes ← overwrite? bytes 2 3 [header.messageType]
    let bytes ← overwrite? bytes 3 4 [header.tag]
    let bytes ← overwrite? bytes 4 6 (bigEndianBytes 2 header.length.toNat)
    overwrite? bytes 6 10 (bigEndianBytes 4 header.keyId.toNat)

section

variable {H : Type} [Framed H] [Positional H]

/-- `readHeader`, unless it looks where there is no byte. -/
def readHeader? (bytes : Bytes) : Option (Except FrameError H) :=
  if bytes.length < Framed.size H then
    some (.error (.truncated (Framed.size H) bytes.length))
  else do
    let version ← bytes[0]?
    if version = protocolVersion then
      let header ← Positional.readAt? bytes
      some (.ok header)
    else some (.error (.versionMismatch version))

/-- `unframe`, unless it looks where there is no byte. -/
def unframe? (datagram : Bytes) : Option (Except FrameError (H × Bytes)) :=
  match readHeader? (H := H) datagram with
  | none => none
  | some (.error fault) => some (.error fault)
  | some (.ok header) =>
      let stop := Framed.size H + (Framed.length header).toNat
      if datagram.length < stop then
        some (.error (.truncated stop datagram.length))
      else do
        let payload ← slice? datagram (Framed.size H) stop
        some (.ok (header, payload))

/-- `frame`, unless it writes where there is no byte. -/
def frame? (header : H) (payload : Bytes) : Option (Except FrameError Bytes) :=
  if payload.length ≤ maxPayloadLength then do
    let front ← Positional.layOut? (Framed.withLength header payload.length.toUInt16)
    some (.ok (front ++ payload))
  else some (.error (.payloadTooLarge payload.length))

end

-- ============================================= headers without waste

/-- Any bytes of its size are a header's. The first of them is the version,
the fifth and sixth spell the length, and by position it is read and laid
out as it is at once. -/
class ExactFramed (H : Type) [Framed H] [Positional H] : Prop extends LawfulFramed H where
  exists_toBytes : ∀ bytes : Bytes, Framed.size H ≤ bytes.length →
    ∃ (header : H) (rest : Bytes), bytes = Framed.toBytes header ++ rest
  ofBytes?_of_short : ∀ bytes : Bytes, bytes.length < Framed.size H →
    (Framed.ofBytes? bytes : Option H) = none
  withLength_length : ∀ header : H, Framed.withLength header (Framed.length header) = header
  head?_append : ∀ (header : H) (rest : Bytes),
    (Framed.toBytes header ++ rest).head? = some (Framed.version header)
  length_append : ∀ (header : H) (rest : Bytes),
    ((Framed.toBytes header ++ rest).drop 4).take 2
      = bigEndianBytes 2 (Framed.length header).toNat
  readAt?_append : ∀ (header : H) (rest : Bytes),
    Positional.readAt? (Framed.toBytes header ++ rest) = some header
  layOut?_eq : ∀ header : H, Positional.layOut? header = some (Framed.toBytes header)

instance : ExactFramed Header where
  exists_toBytes bytes hlong := by
    match bytes, hlong with
    | version :: endpoint :: messageType :: tag :: l1 :: l0 :: rest, _ =>
        refine ⟨⟨version, endpoint, messageType, tag, (bigEndian [l1, l0]).toUInt16⟩, rest, ?_⟩
        show _ = [version, endpoint, messageType, tag]
          ++ bigEndianBytes 2 (bigEndian [l1, l0]).toUInt16.toNat ++ rest
        rw [bigEndianBytes_toUInt16 rfl]
        rfl
  ofBytes?_of_short bytes hshort := by
    match bytes, hshort with
    | [], _ | [_], _ | [_, _], _ | [_, _, _], _ | [_, _, _, _], _ | [_, _, _, _, _], _ => rfl
  withLength_length _ := rfl
  head?_append _ _ := rfl
  length_append _ _ := rfl
  readAt?_append header rest := LawfulFramed.ofBytes?_append header rest
  layOut?_eq _ := rfl

instance : ExactFramed GroupHeader where
  exists_toBytes bytes hlong := by
    match bytes, hlong with
    | version :: endpoint :: messageType :: tag :: l1 :: l0 :: k3 :: k2 :: k1 :: k0 :: rest, _ =>
        refine ⟨⟨version, endpoint, messageType, tag, (bigEndian [l1, l0]).toUInt16,
          (bigEndian [k3, k2, k1, k0]).toUInt32⟩, rest, ?_⟩
        show _ = [version, endpoint, messageType, tag]
          ++ bigEndianBytes 2 (bigEndian [l1, l0]).toUInt16.toNat
          ++ bigEndianBytes 4 (bigEndian [k3, k2, k1, k0]).toUInt32.toNat ++ rest
        rw [bigEndianBytes_toUInt16 rfl, bigEndianBytes_toUInt32 rfl]
        rfl
  ofBytes?_of_short bytes hshort := by
    match bytes, hshort with
    | [], _ | [_], _ | [_, _], _ | [_, _, _], _ | [_, _, _, _], _ | [_, _, _, _, _], _
    | [_, _, _, _, _, _], _ | [_, _, _, _, _, _, _], _ | [_, _, _, _, _, _, _, _], _
    | [_, _, _, _, _, _, _, _, _], _ => rfl
  withLength_length _ := rfl
  head?_append _ _ := rfl
  length_append _ _ := rfl
  readAt?_append header rest := LawfulFramed.ofBytes?_append header rest
  layOut?_eq _ := rfl

-- ========================================================== reading

variable {H : Type} [Framed H] [Positional H] [ExactFramed H]

theorem length_toBytes_append (header : H) (rest : Bytes) :
    (Framed.toBytes header ++ rest).length = Framed.size H + rest.length := by
  rw [List.length_append, LawfulFramed.length_toBytes]

/-- Reading a header looks at its version alone. -/
theorem readHeader_append (header : H) (rest : Bytes) :
    readHeader (Framed.toBytes header ++ rest)
      = if Framed.version header = protocolVersion then .ok header
        else .error (.versionMismatch (Framed.version header)) := by
  rw [readHeader, LawfulFramed.ofBytes?_append]

/-- What is read where a header stands in front: the payload it announces,
unless the version is foreign or the rest too short. -/
theorem unframe_append (header : H) (rest : Bytes) :
    unframe (Framed.toBytes header ++ rest)
      = if Framed.version header = protocolVersion then
          if rest.length < (Framed.length header).toNat then
            .error (.truncated (Framed.size H + (Framed.length header).toNat)
              (Framed.size H + rest.length))
          else .ok (header, rest.take (Framed.length header).toNat)
        else .error (.versionMismatch (Framed.version header)) := by
  rw [unframe, readHeader_append]
  by_cases hversion : Framed.version header = protocolVersion
  · simp only [if_pos hversion, length_toBytes_append]
    by_cases hshort : rest.length < (Framed.length header).toNat
    · rw [if_pos hshort, if_pos (by omega)]
    · have hsize := LawfulFramed.length_toBytes header
      rw [if_neg hshort, if_neg (by omega), ← hsize, List.take_length_add_append,
        List.drop_left]
  · simp only [if_neg hversion]

/-- Nothing is read where there is no whole header. -/
theorem unframe_of_lt_size {datagram : Bytes} (hshort : datagram.length < Framed.size H) :
    unframe (H := H) datagram = .error (.truncated (Framed.size H) datagram.length) := by
  rw [unframe, readHeader, ExactFramed.ofBytes?_of_short datagram hshort]

/-- What a header announces stands in its fifth and sixth byte. -/
theorem announced_append (header : H) (rest : Bytes) :
    bigEndian (((Framed.toBytes header ++ rest).drop 4).take 2)
      = (Framed.length header).toNat := by
  rw [ExactFramed.length_append]
  exact bigEndian_bigEndianBytes 2 _ (Framed.length header).toNat_lt

/-- What is read is what a frame at the front was made of, and what a frame
at the front was made of is read. -/
theorem unframe_eq_ok_iff {header : H} {payload datagram : Bytes} :
    unframe datagram = .ok (header, payload)
      ↔ Framed.version header = protocolVersion
        ∧ (∃ bytes, frame header payload = .ok bytes ∧ bytes <+: datagram)
        ∧ (Framed.length header).toNat = payload.length := by
  constructor
  · intro hread
    by_cases hshort : datagram.length < Framed.size H
    · rw [unframe_of_lt_size hshort] at hread
      cases hread
    · obtain ⟨found, rest, rfl⟩ := ExactFramed.exists_toBytes (H := H) datagram (by omega)
      rw [unframe_append] at hread
      split at hread
      next hversion =>
        split at hread
        · cases hread
        next hroom =>
          cases hread
          have hlength : (rest.take (Framed.length header).toNat).length
              = (Framed.length header).toNat := by
            rw [List.length_take]
            omega
          have hbound := (Framed.length header).toNat_lt
          have hfits : (rest.take (Framed.length header).toNat).length ≤ maxPayloadLength := by
            rw [hlength]
            exact Nat.le_of_lt_succ hbound
          -- the length filled in is the one the header had
          have hfilled : framed header (rest.take (Framed.length header).toNat)
              = Framed.toBytes header ++ rest.take (Framed.length header).toNat := by
            have hword : (Framed.length header).toNat.toUInt16 = Framed.length header :=
              UInt16.ofNat_toNat
            rw [framed, hlength, hword, ExactFramed.withLength_length]
          refine ⟨hversion, ⟨_, frame_of_le hfits header, ?_⟩, hlength.symm⟩
          rw [hfilled]
          exact (List.prefix_append_right_inj _).2 (List.take_prefix ..)
      · cases hread
  · rintro ⟨hversion, ⟨bytes, hframe, rest, rfl⟩, hlength⟩
    obtain ⟨hfits, rfl⟩ := frame_eq_ok_iff.1 hframe
    have hword : payload.length.toUInt16 = Framed.length header := by
      rw [← hlength]
      exact UInt16.ofNat_toNat
    rw [unframe_framed hversion hfits, hword, ExactFramed.withLength_length]

/-- A foreign version is reported where there is a whole header, and only
there. -/
theorem unframe_eq_versionMismatch_iff {datagram : Bytes} {version : UInt8} :
    unframe (H := H) datagram = .error (.versionMismatch version)
      ↔ Framed.size H ≤ datagram.length ∧ datagram.head? = some version
        ∧ version ≠ protocolVersion := by
  by_cases hshort : datagram.length < Framed.size H
  · rw [unframe_of_lt_size hshort]
    constructor
    · intro hread
      cases hread
    · rintro ⟨hlong, -⟩
      omega
  · obtain ⟨header, rest, rfl⟩ := ExactFramed.exists_toBytes (H := H) datagram (by omega)
    rw [unframe_append, ExactFramed.head?_append, Option.some.injEq]
    by_cases hversion : Framed.version header = protocolVersion
    · rw [if_pos hversion]
      constructor
      · intro hread
        split at hread
        · cases hread
        · cases hread
      · rintro ⟨-, rfl, hforeign⟩
        exact absurd hversion hforeign
    · rw [if_neg hversion]
      constructor
      · intro hread
        cases hread
        exact ⟨by omega, rfl, hversion⟩
      · rintro ⟨-, rfl, -⟩
        rfl

/-- In every other case where nothing is read, the size that is missing is
named: a header's, or that of the frame the header announces. -/
theorem unframe_eq_truncated_iff {datagram : Bytes} {needed actual : Nat} :
    unframe (H := H) datagram = .error (.truncated needed actual)
      ↔ actual = datagram.length ∧ actual < needed
        ∧ (needed = Framed.size H
          ∨ Framed.size H ≤ datagram.length ∧ datagram.head? = some protocolVersion
            ∧ needed = Framed.size H + bigEndian ((datagram.drop 4).take 2)) := by
  by_cases hshort : datagram.length < Framed.size H
  · rw [unframe_of_lt_size hshort, Except.error.injEq, FrameError.truncated.injEq]
    constructor
    · rintro ⟨rfl, rfl⟩
      exact ⟨rfl, hshort, .inl rfl⟩
    · rintro ⟨rfl, -, rfl | ⟨hlong, -⟩⟩
      · exact ⟨rfl, rfl⟩
      · omega
  · obtain ⟨header, rest, rfl⟩ := ExactFramed.exists_toBytes (H := H) datagram (by omega)
    rw [unframe_append, ExactFramed.head?_append, announced_append, length_toBytes_append,
      Option.some.injEq]
    by_cases hversion : Framed.version header = protocolVersion
    · rw [if_pos hversion]
      by_cases hroom : rest.length < (Framed.length header).toNat
      · rw [if_pos hroom, Except.error.injEq, FrameError.truncated.injEq]
        constructor
        · rintro ⟨rfl, rfl⟩
          exact ⟨rfl, by omega, .inr ⟨by omega, hversion, rfl⟩⟩
        · rintro ⟨rfl, hmissing, rfl | ⟨-, -, rfl⟩⟩
          · omega
          · exact ⟨rfl, rfl⟩
      · rw [if_neg hroom]
        constructor
        · intro hread
          cases hread
        · rintro ⟨rfl, hmissing, rfl | ⟨-, -, rfl⟩⟩
          · omega
          · omega
    · rw [if_neg hversion]
      constructor
      · intro hread
        cases hread
      · rintro ⟨rfl, hmissing, rfl | ⟨-, hown, -⟩⟩
        · omega
        · exact absurd hown hversion

/-- Five bytes are announced, two are there. -/
example : unframe (H := Header) [1, 0, 1, 0, 0, 5, 104, 101] = .error (.truncated 11 8) := by decide

/-- Reading never finds that a payload is too large. -/
theorem unframe_ne_payloadTooLarge (datagram : Bytes) (length : Nat) :
    unframe (H := H) datagram ≠ .error (.payloadTooLarge length) := by
  intro hread
  by_cases hshort : datagram.length < Framed.size H
  · rw [unframe_of_lt_size hshort] at hread
    cases hread
  · obtain ⟨header, rest, rfl⟩ := ExactFramed.exists_toBytes (H := H) datagram (by omega)
    rw [unframe_append] at hread
    split at hread
    · split at hread
      · cases hread
      · cases hread
    · cases hread

-- ====================================================== no byte missed

/-- Reading looks at no byte that is not there. -/
theorem unframe?_eq (datagram : Bytes) :
    unframe? (H := H) datagram = some (unframe datagram) := by
  by_cases hshort : datagram.length < Framed.size H
  · rw [unframe?, readHeader?, if_pos hshort, unframe_of_lt_size hshort]
  · obtain ⟨header, rest, rfl⟩ := ExactFramed.exists_toBytes (H := H) datagram (by omega)
    have hfirst : (Framed.toBytes header ++ rest)[0]? = some (Framed.version header) := by
      rw [← List.head?_eq_getElem?, ExactFramed.head?_append]
    have hheader : readHeader? (H := H) (Framed.toBytes header ++ rest)
        = some (readHeader (Framed.toBytes header ++ rest)) := by
      rw [readHeader?, if_neg hshort, hfirst, ExactFramed.readAt?_append, readHeader_append]
      by_cases hversion : Framed.version header = protocolVersion
      · simp [hversion]
      · simp [hversion]
    rw [unframe?, unframe, hheader, readHeader_append]
    by_cases hversion : Framed.version header = protocolVersion
    · simp only [if_pos hversion]
      split
      · rfl
      next hroom =>
        have hinside : Framed.size H ≤ Framed.size H + (Framed.length header).toNat
            ∧ Framed.size H + (Framed.length header).toNat
              ≤ (Framed.toBytes header ++ rest).length := by omega
        rw [slice?, if_pos hinside]
        rfl
    · simp only [if_neg hversion]

/-- Writing puts no byte where there is no room. -/
theorem frame?_eq (header : H) (payload : Bytes) :
    frame? header payload = some (frame header payload) := by
  unfold frame? frame
  by_cases hfits : payload.length ≤ maxPayloadLength
  · rw [if_pos hfits, if_pos hfits, ExactFramed.layOut?_eq]
    rfl
  · rw [if_neg hfits, if_neg hfits]

-- ======================================================== both kinds

/-- Framing under one kind of header: what is written, what is refused, what
is read, and which fault is found instead. -/
structure FramesExactly (H : Type) [Framed H] [Positional H] : Prop where
  /-- The length field decides whether a payload can be framed. -/
  written_iff : ∀ (header : H) (payload : Bytes),
    (∃ bytes, frame header payload = .ok bytes) ↔ payload.length ≤ 65535
  refused_iff : ∀ (header : H) (payload : Bytes) (fault : FrameError),
    frame header payload = .error fault
      ↔ 65535 < payload.length ∧ fault = .payloadTooLarge payload.length
  read_iff : ∀ (header : H) (payload datagram : Bytes),
    unframe datagram = .ok (header, payload)
      ↔ Framed.version header = 1
        ∧ (∃ bytes, frame header payload = .ok bytes ∧ bytes <+: datagram)
        ∧ (Framed.length header).toNat = payload.length
  /-- Whatever follows a frame, it reads back with its length filled in. -/
  read_back : ∀ (header : H) (payload bytes rest : Bytes), Framed.version header = 1 →
    frame header payload = .ok bytes →
    unframe (bytes ++ rest) = .ok (Framed.withLength header payload.length.toUInt16, payload)
  foreign_iff : ∀ (datagram : Bytes) (version : UInt8),
    unframe (H := H) datagram = .error (.versionMismatch version)
      ↔ Framed.size H ≤ datagram.length ∧ datagram.head? = some version ∧ version ≠ 1
  truncated_iff : ∀ (datagram : Bytes) (needed actual : Nat),
    unframe (H := H) datagram = .error (.truncated needed actual)
      ↔ actual = datagram.length ∧ actual < needed
        ∧ (needed = Framed.size H
          ∨ Framed.size H ≤ datagram.length ∧ datagram.head? = some 1
            ∧ needed = Framed.size H + bigEndian ((datagram.drop 4).take 2))
  /-- So a fault in reading is one of these two. -/
  other_fault : ∀ (datagram : Bytes) (length : Nat),
    unframe (H := H) datagram ≠ .error (.payloadTooLarge length)
  /-- No position that is read or written lies outside. -/
  read_inside : ∀ datagram : Bytes, unframe? (H := H) datagram = some (unframe datagram)
  written_inside : ∀ (header : H) (payload : Bytes),
    frame? header payload = some (frame header payload)

theorem FramesExactly.of_exactFramed : FramesExactly H where
  written_iff header payload := by
    simp only [frame_eq_ok_iff, exists_and_left, exists_eq, and_true]
    rfl
  refused_iff header payload fault := by
    unfold frame
    by_cases hfits : payload.length ≤ maxPayloadLength
    · rw [if_pos hfits]
      constructor
      · intro hframe
        cases hframe
      · rintro ⟨hlarge, -⟩
        exact absurd hlarge (Nat.not_lt.2 hfits)
    · rw [if_neg hfits, Except.error.injEq]
      constructor
      · rintro rfl
        exact ⟨Nat.lt_of_not_le hfits, rfl⟩
      · rintro ⟨-, rfl⟩
        rfl
  read_iff _ _ _ := unframe_eq_ok_iff
  read_back header payload bytes rest hversion hframe := by
    obtain ⟨hfits, rfl⟩ := frame_eq_ok_iff.1 hframe
    exact unframe_framed hversion hfits rest
  foreign_iff _ _ := unframe_eq_versionMismatch_iff
  truncated_iff _ _ _ := unframe_eq_truncated_iff
  other_fault := unframe_ne_payloadTooLarge
  read_inside := unframe?_eq
  written_inside := frame?_eq

/-- Messages, under a header of six bytes, and broadcasts, under one of ten,
are framed and read exactly. -/
theorem framing_exact :
    (Framed.size Header = 6 ∧ FramesExactly Header)
      ∧ Framed.size GroupHeader = 10 ∧ FramesExactly GroupHeader :=
  ⟨⟨rfl, .of_exactFramed⟩, rfl, .of_exactFramed⟩

/-- A broadcast with other bytes behind it reads back. -/
theorem framing_exact_in_example :
    let header := GroupHeader.new 1 7 0xdeadbeef
    let bytes : Bytes := [1, 4, 1, 7, 0, 3, 0xde, 0xad, 0xbe, 0xef, 97, 98, 99]
    Framed.version header = 1 ∧ frame header [97, 98, 99] = .ok bytes
      ∧ unframe (bytes ++ [106, 117]) = .ok ({ header with length := 3 }, [97, 98, 99]) := by
  intro header bytes
  have hversion : Framed.version header = 1 := rfl
  have hframe : frame header [97, 98, 99] = .ok bytes := by decide
  exact ⟨hversion, hframe, framing_exact.2.2.read_back header _ bytes _ hversion hframe⟩

end Luminaire
