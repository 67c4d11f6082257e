/-
Which requests for a channel are granted, in numbers that do not end.

The check compares sums and products of numbers a node has chosen, up to
2^32 each. `Flaw` lists what can be wrong with a request and says of each
what it means in natural numbers, with nothing cut off. A request is refused
with the status of the first of them it has (`verdict_cases`), and granted
if it has none.

Along the way the check leaves no word: the same comparisons made on
sixty-four-bit words, in arithmetic that breaks down where it would wrap,
come to the same verdict (`checkInWords?_eq`).
-/
import Luminaire.Proofs.Checked
import Luminaire.Proofs.Connection.Subscriptions

namespace Luminaire.Subscription

variable (channels : List NodeChannel) (held : Held) (request : Subscribe)

-- ============================================================= flaws

/-- The channel a request is about: the first that has its index. -/
def named? : Option NodeChannel :=
  channels.find? fun channel => channel.index == request.channel

/-- What can be wrong with a request. -/
inductive Flaw where
  | channel
  | start
  | length
  | format
  | size
  | index
  | taken
  deriving DecidableEq, Repr

namespace Flaw

/-- All of them, in the order in which they are looked for. -/
def order : List Flaw := [.channel, .start, .length, .format, .size, .index, .taken]

/-- What a node is told. -/
def status : Flaw → Status
  | .channel => .invalidChannel
  | .start => .invalidOffset
  | .length => .invalidLength
  | .format => .invalidFormat
  | .size => .invalidLength
  | .index => .invalidOffset
  | .taken => .alreadySubscribed

/-- Whether a request has the flaw: there is no such channel; the run begins
behind the channel's last pixel; it is empty or ends behind it; the format is
unknown; its pixels take more bytes than a message has; its end has no index
in a framebuffer; the channel is subscribed already. -/
def Spoils : Flaw → Prop
  | .channel => ∀ channel ∈ channels, channel.index ≠ request.channel
  | .start => ∃ channel ∈ named? channels request,
      channel.pixelCount.toNat ≤ request.start.toNat
  | .length => ∃ channel ∈ named? channels request, request.length.toNat = 0
      ∨ channel.pixelCount.toNat < request.start.toNat + request.length.toNat
  | .format => PixelFormat.ofCode? request.format = none
  | .size => ∃ format ∈ PixelFormat.ofCode? request.format,
      maxChannelBytes < request.length.toNat * format.bytesPerPixel
  | .index => ∃ channel ∈ named? channels request,
      2 ^ 32 - 1 < channel.offset.toNat + request.start.toNat + request.length.toNat
  | .taken => ∃ subscription ∈ held, subscription.channel = request.channel

instance (flaw : Flaw) : Decidable (flaw.Spoils channels held request) :=
  match flaw with
  | .channel => inferInstanceAs (Decidable (∀ channel ∈ channels, _))
  | .start => inferInstanceAs (Decidable (∃ channel ∈ named? channels request, _))
  | .length => inferInstanceAs (Decidable (∃ channel ∈ named? channels request, _))
  | .format => inferInstanceAs (Decidable (_ = none))
  | .size => inferInstanceAs (Decidable (∃ format ∈ PixelFormat.ofCode? request.format, _))
  | .index => inferInstanceAs (Decidable (∃ channel ∈ named? channels request, _))
  | .taken => inferInstanceAs (Decidable (∃ subscription ∈ held, _))

end Flaw

/-- The first flaw of a request, if it has any. -/
def firstFlaw? : Option Flaw :=
  Flaw.order.find? fun flaw => decide (flaw.Spoils channels held request)

variable {channels held request}

/-- A flaw is the first if those looked for before it are not there. -/
theorem firstFlaw?_eq_some {flaw : Flaw} (before : List Flaw) {after : List Flaw}
    (horder : Flaw.order = before ++ flaw :: after)
    (hbefore : ∀ earlier ∈ before, ¬ earlier.Spoils channels held request)
    (hspoils : flaw.Spoils channels held request) :
    firstFlaw? channels held request = some flaw := by
  refine List.find?_eq_some_iff_append.2 ⟨decide_eq_true hspoils, before, after, horder, ?_⟩
  intro earlier hearlier
  rw [decide_eq_false (hbefore earlier hearlier)]
  rfl

theorem firstFlaw?_eq_none_iff :
    firstFlaw? channels held request = none ↔ ∀ flaw, ¬ Flaw.Spoils channels held request flaw := by
  simp only [firstFlaw?, List.find?_eq_none, decide_eq_true_eq]
  exact forall_congr' fun flaw => forall_prop_of_true (by cases flaw <;> decide)

-- ============================================================ checks

/-- A run whose end is an index is placed where the sum says. -/
theorem firstPixel?_of_lt {offset start length : UInt32}
    (hindexed : offset.toNat + start.toNat + length.toNat < UInt32.size) :
    firstPixel? offset start length = some (offset + start) := by
  have hadd : checkedAdd? offset start = some (offset + start) := if_pos (by omega)
  have hsum := (toNat_of_checkedAdd? hadd).1
  have hend : checkedAdd? (offset + start) length = some (offset + start + length) :=
    if_pos (by omega)
  rw [firstPixel?, hadd, Option.filter_some, hend]
  rfl

theorem holds_eq_true_iff {channel : UInt32} :
    holds held channel = true ↔ ∃ subscription ∈ held, subscription.channel = channel := by
  simp only [holds, List.any_eq_true, beq_iff_eq]

section

variable {channel : NodeChannel} (hnamed : named? channels request = some channel)

variable (held)

include hnamed

theorem Flaw.not_spoils_channel : ¬ Flaw.channel.Spoils channels held request := by
  intro hunknown
  have hindex : channel.index = request.channel := by simpa using List.find?_some hnamed
  exact hunknown channel (List.mem_of_find?_eq_some hnamed) hindex

theorem Flaw.spoils_start_iff :
    Flaw.start.Spoils channels held request ↔ channel.pixelCount ≤ request.start := by
  rw [UInt32.le_iff_toNat_le, Spoils, hnamed]
  simp

theorem Flaw.spoils_length_iff :
    Flaw.length.Spoils channels held request
      ↔ request.length = 0
        ∨ channel.pixelCount.toNat < request.start.toNat + request.length.toNat := by
  rw [Spoils, hnamed, ← UInt32.toNat_inj]
  simp

theorem Flaw.spoils_index_iff :
    Flaw.index.Spoils channels held request
      ↔ firstPixel? channel.offset request.start request.length = none := by
  have hsize : UInt32.size = 2 ^ 32 := rfl
  rw [Spoils, hnamed]
  simp only [Option.mem_def, Option.some.injEq, exists_eq_left']
  cases hfirst : firstPixel? channel.offset request.start request.length with
  | none =>
      refine iff_of_true (Nat.lt_of_not_le fun hindexed => ?_) rfl
      rw [firstPixel?_of_lt (by omega)] at hfirst
      cases hfirst
  | some first =>
      obtain ⟨hplaced, hindexed⟩ := toNat_of_firstPixel? hfirst
      exact iff_of_false (by omega) nofun

end

theorem Flaw.spoils_size_iff {format : PixelFormat}
    (hknown : PixelFormat.ofCode? request.format = some format) :
    Flaw.size.Spoils channels held request
      ↔ maxChannelBytes < request.length.toNat * format.bytesPerPixel := by
  rw [Spoils, hknown]
  simp

/-- Every check looks for one flaw, behind those it comes after. -/
theorem verdict_cases (channels : List NodeChannel) (held : Held) (request : Subscribe) :
    (∃ flaw, firstFlaw? channels held request = some flaw
        ∧ check channels held request = .error flaw.status)
      ∨ firstFlaw? channels held request = none
        ∧ ∃ format first, check channels held request = .ok (format, first) := by
  cases hnamed : named? channels request with
  | none =>
      refine .inl ⟨.channel, firstFlaw?_eq_some [] rfl nofun fun channel hmem hindex => ?_, ?_⟩
      · exact List.find?_eq_none.1 hnamed channel hmem (beq_iff_eq.2 hindex)
      · unfold named? at hnamed
        rw [check, hnamed]
        rfl
  | some channel =>
      have hchannel := Flaw.not_spoils_channel held hnamed
      have hbegins := Flaw.spoils_start_iff held hnamed
      have hends := Flaw.spoils_length_iff held hnamed
      have hplaced := Flaw.spoils_index_iff held hnamed
      unfold named? at hnamed
      unfold check
      simp only [hnamed]
      by_cases hstart : Flaw.start.Spoils channels held request
      · refine .inl ⟨.start, firstFlaw?_eq_some [.channel] rfl ?_ hstart,
          if_pos (hbegins.1 hstart)⟩
        simpa using hchannel
      rw [if_neg (mt hbegins.2 hstart)]
      by_cases hlength : Flaw.length.Spoils channels held request
      · refine .inl ⟨.length, firstFlaw?_eq_some [.channel, .start] rfl ?_ hlength,
          if_pos (hends.1 hlength)⟩
        simpa using ⟨hchannel, hstart⟩
      rw [if_neg (mt hends.2 hlength)]
      cases hknown : PixelFormat.ofCode? request.format with
      | none =>
          refine .inl ⟨.format, firstFlaw?_eq_some [.channel, .start, .length] rfl ?_ hknown, rfl⟩
          simpa using ⟨hchannel, hstart, hlength⟩
      | some format =>
          have hformat : ¬ Flaw.format.Spoils channels held request := by
            rw [Flaw.Spoils, hknown]
            nofun
          simp only
          by_cases hsize : Flaw.size.Spoils channels held request
          · refine .inl ⟨.size, firstFlaw?_eq_some [.channel, .start, .length, .format] rfl ?_
              hsize, if_pos ((Flaw.spoils_size_iff hknown).1 hsize)⟩
            simpa using ⟨hchannel, hstart, hlength, hformat⟩
          rw [if_neg (mt (Flaw.spoils_size_iff hknown).2 hsize)]
          cases hfirst : firstPixel? channel.offset request.start request.length with
          | none =>
              refine .inl ⟨.index, firstFlaw?_eq_some [.channel, .start, .length, .format, .size]
                rfl ?_ (hplaced.2 hfirst), rfl⟩
              simpa using ⟨hchannel, hstart, hlength, hformat, hsize⟩
          | some first =>
              have hindex : ¬ Flaw.index.Spoils channels held request := by
                rw [hplaced, hfirst]
                nofun
              simp only
              by_cases htaken : Flaw.taken.Spoils channels held request
              · refine .inl ⟨.taken, firstFlaw?_eq_some
                  [.channel, .start, .length, .format, .size, .index] rfl ?_ htaken,
                  if_pos (holds_eq_true_iff.2 htaken)⟩
                simpa using ⟨hchannel, hstart, hlength, hformat, hsize, hindex⟩
              rw [if_neg (mt holds_eq_true_iff.1 htaken)]
              refine .inr ⟨firstFlaw?_eq_none_iff.2 fun flaw => ?_, format, first, rfl⟩
              cases flaw with
              | channel => exact hchannel
              | start => exact hstart
              | length => exact hlength
              | format => exact hformat
              | size => exact hsize
              | index => exact hindex
              | taken => exact htaken

-- ============================================================= words

/-- The check on words, in arithmetic that breaks down where they would wrap:
the end of the run and the number of its bytes are computed with sixty-four
bits, and the sums that place it are the program's own, which look first. -/
def checkInWords? (channels : List NodeChannel) (held : Held) (request : Subscribe) :
    Option (Except Status (PixelFormat × UInt32)) :=
  match named? channels request with
  | none => some (.error .invalidChannel)
  | some channel =>
      if channel.pixelCount ≤ request.start then some (.error .invalidOffset)
      else do
        let stop ← Checked.add? request.start.toUInt64 request.length.toUInt64
        if request.length = 0 ∨ channel.pixelCount.toUInt64 < stop then
          return .error .invalidLength
        else
          match PixelFormat.ofCode? request.format with
          | none => return .error .invalidFormat
          | some format =>
              let bytes ← Checked.mul? request.length.toUInt64 format.bytesPerPixel.toUInt64
              if maxChannelBytes.toUInt64 < bytes then return .error .invalidLength
              else
                match firstPixel? channel.offset request.start request.length with
                | none => return .error .invalidOffset
                | some first =>
                    if holds held request.channel then return .error .alreadySubscribed
                    else return .ok (format, first)

/-- The end of a run, as a word. -/
theorem exists_stop (start length : UInt32) :
    ∃ stop, Checked.add? start.toUInt64 length.toUInt64 = some stop
      ∧ stop.toNat = start.toNat + length.toNat := by
  have hfits : start.toUInt64.toNat + length.toUInt64.toNat < UInt64.size := by
    have hstart := start.toNat_lt
    have hlength := length.toNat_lt
    have hword : UInt64.size = 2 ^ 64 := rfl
    rw [UInt32.toNat_toUInt64, UInt32.toNat_toUInt64]
    omega
  obtain ⟨stop, hstop, hvalue⟩ := Checked.add?_of_lt hfits
  rw [UInt32.toNat_toUInt64, UInt32.toNat_toUInt64] at hvalue
  exact ⟨stop, hstop, hvalue⟩

/-- The number of its bytes, as a word. -/
theorem exists_bytes (length : UInt32) (format : PixelFormat) :
    ∃ bytes, Checked.mul? length.toUInt64 format.bytesPerPixel.toUInt64 = some bytes
      ∧ bytes.toNat = length.toNat * format.bytesPerPixel := by
  obtain ⟨hwidth, hnarrow⟩ : format.bytesPerPixel.toUInt64.toNat = format.bytesPerPixel
      ∧ format.bytesPerPixel ≤ 4 := by
    cases format with
    | rgb => decide
    | rgbw => decide
  have hfits : length.toUInt64.toNat * format.bytesPerPixel.toUInt64.toNat < UInt64.size := by
    have hlength := length.toNat_lt
    have hproduct := Nat.mul_le_mul_left length.toNat hnarrow
    have hword : UInt64.size = 2 ^ 64 := rfl
    rw [UInt32.toNat_toUInt64, hwidth]
    omega
  obtain ⟨bytes, hbytes, hvalue⟩ := Checked.mul?_of_lt hfits
  rw [UInt32.toNat_toUInt64, hwidth] at hvalue
  exact ⟨bytes, hbytes, hvalue⟩

theorem checkInWords?_eq (channels : List NodeChannel) (held : Held) (request : Subscribe) :
    checkInWords? channels held request = some (check channels held request) := by
  unfold checkInWords? named? check
  cases channels.find? fun channel => channel.index == request.channel with
  | none => rfl
  | some channel =>
      by_cases hbegins : channel.pixelCount ≤ request.start
      · simp only [if_pos hbegins]
      obtain ⟨stop, hstop, hsum⟩ := exists_stop request.start request.length
      have hends : (request.length = 0 ∨ channel.pixelCount.toUInt64 < stop)
          ↔ (request.length = 0
            ∨ channel.pixelCount.toNat < request.start.toNat + request.length.toNat) := by
        rw [UInt64.lt_iff_toNat_lt, hsum, UInt32.toNat_toUInt64]
      simp only [if_neg hbegins, hstop, Option.bind_eq_bind, Option.bind_some]
      by_cases hempty : request.length = 0
        ∨ channel.pixelCount.toNat < request.start.toNat + request.length.toNat
      · simp only [if_pos (hends.2 hempty), if_pos hempty]
        rfl
      simp only [if_neg (mt hends.1 hempty), if_neg hempty]
      cases PixelFormat.ofCode? request.format with
      | none => rfl
      | some format =>
          obtain ⟨bytes, hbytes, hproduct⟩ := exists_bytes request.length format
          have hcarried : maxChannelBytes.toUInt64 < bytes
              ↔ maxChannelBytes < request.length.toNat * format.bytesPerPixel := by
            have hlimit : maxChannelBytes.toUInt64.toNat = maxChannelBytes := by decide
            rw [UInt64.lt_iff_toNat_lt, hproduct, hlimit]
          simp only [hbytes, Option.bind_some]
          by_cases hsize : maxChannelBytes < request.length.toNat * format.bytesPerPixel
          · simp only [if_pos (hcarried.2 hsize), if_pos hsize]
            rfl
          simp only [if_neg (mt hcarried.1 hsize), if_neg hsize]
          cases firstPixel? channel.offset request.start request.length with
          | none => rfl
          | some first =>
              simp only
              cases holds held request.channel with
              | false => rfl
              | true => rfl

-- =========================================================== verdicts

/-- A request is refused with the status of its first flaw. -/
theorem check_eq_error_iff (status : Status) :
    check channels held request = .error status
      ↔ (firstFlaw? channels held request).map Flaw.status = some status := by
  obtain ⟨flaw, hflaw, hcheck⟩ | ⟨hnone, format, first, hcheck⟩ :=
    verdict_cases channels held request
  · rw [hcheck, hflaw, Option.map_some, Option.some.injEq, Except.error.injEq]
  · rw [hcheck, hnone]
    exact iff_of_false nofun nofun

/-- It is granted if it has none. -/
theorem check_ok_iff :
    (∃ format first, check channels held request = .ok (format, first))
      ↔ firstFlaw? channels held request = none := by
  obtain ⟨flaw, hflaw, hcheck⟩ | ⟨hnone, hcheck⟩ := verdict_cases channels held request
  · rw [hcheck, hflaw]
    exact iff_of_false nofun nofun
  · exact iff_of_true hcheck hnone

/-- What has no flaw, in the numbers it is made of. -/
theorem firstFlaw?_of_sound {channel : NodeChannel} {format : PixelFormat}
    (hnamed : named? channels request = some channel)
    (hnonempty : 1 ≤ request.length.toNat)
    (hinside : request.start.toNat + request.length.toNat ≤ channel.pixelCount.toNat)
    (hknown : PixelFormat.ofCode? request.format = some format)
    (hcarried : request.length.toNat * format.bytesPerPixel ≤ maxChannelBytes)
    (hindexed : channel.offset.toNat + request.start.toNat + request.length.toNat ≤ 2 ^ 32 - 1)
    (hfree : ∀ subscription ∈ held, subscription.channel ≠ request.channel) :
    firstFlaw? channels held request = none := by
  refine firstFlaw?_eq_none_iff.2 fun flaw => ?_
  cases flaw with
  | channel => exact Flaw.not_spoils_channel held hnamed
  | start =>
      rw [Flaw.spoils_start_iff held hnamed, UInt32.le_iff_toNat_le]
      omega
  | length =>
      rw [Flaw.spoils_length_iff held hnamed, ← UInt32.toNat_inj]
      have hzero : (0 : UInt32).toNat = 0 := rfl
      omega
  | format =>
      rw [Flaw.Spoils, hknown]
      nofun
  | size =>
      rw [Flaw.spoils_size_iff hknown]
      exact Nat.not_lt.2 hcarried
  | index =>
      have hsize : UInt32.size = 2 ^ 32 := rfl
      rw [Flaw.spoils_index_iff held hnamed, firstPixel?_of_lt (by omega)]
      nofun
  | taken => exact fun ⟨subscription, hmem, hsame⟩ => hfree subscription hmem hsame

/-- Which requests are granted, and what is said to the others.

A request is granted exactly if, in natural numbers, it names a channel of the
node (the first of its index is meant), is not empty, ends inside the channel,
asks for a known format, fits one message, ends at an index a framebuffer can
have, and the channel is not subscribed yet. The run that is granted then lies
inside the channel's own part of the framebuffer. A request that is refused is
refused with the status of the first flaw it has. No word on the way is too
small for what is computed in it. And the verdict is what an authenticated
node is told. -/
theorem granted_iff_sound (channels : List NodeChannel) (held : Held) (request : Subscribe) :
    ((∃ format first, check channels held request = .ok (format, first))
        ↔ ∃ channel format,
          channels.find? (fun channel => channel.index == request.channel) = some channel
            ∧ 1 ≤ request.length.toNat
            ∧ request.start.toNat + request.length.toNat ≤ channel.pixelCount.toNat
            ∧ PixelFormat.ofCode? request.format = some format
            ∧ request.length.toNat * format.bytesPerPixel ≤ maxChannelBytes
            ∧ channel.offset.toNat + request.start.toNat + request.length.toNat ≤ 2 ^ 32 - 1
            ∧ ∀ subscription ∈ held, subscription.channel ≠ request.channel)
      ∧ (∀ format first, check channels held request = .ok (format, first) → ∃ channel,
        channels.find? (fun channel => channel.index == request.channel) = some channel
          ∧ PixelFormat.ofCode? request.format = some format
          ∧ first.toNat = channel.offset.toNat + request.start.toNat
          ∧ ∀ pixel, Region.covers ⟨first, request.length⟩ pixel →
            Region.covers ⟨channel.offset, channel.pixelCount⟩ pixel)
      ∧ (∀ status, check channels held request = .error status
          ↔ (firstFlaw? channels held request).map Flaw.status = some status)
      ∧ checkInWords? channels held request = some (check channels held request)
      ∧ ∀ {κ : Type} [Sink κ] (id : ConnectionId) (directory : Directory)
          (framebuffer : Framebuffer Watcher) (connection : Connection κ) (header : Header)
          (payload : Bytes) (node : Node), connection.node = some node →
        directory.channelsOf node.id = channels → Cbor.decode? payload = some request →
        let turn := subscribe id directory held framebuffer connection header payload
        (turn.result, turn.connection) = connection.replyWith header (SubscribeAck.mk
          (((firstFlaw? channels held request).map Flaw.status).getD .success)
          request.channel) := by
  refine ⟨⟨?_, ?_⟩, ?_, check_eq_error_iff, checkInWords?_eq channels held request, ?_⟩
  · rintro ⟨format, first, hcheck⟩
    obtain ⟨channel, hgrantable⟩ := grantable_of_check hcheck
    have hnonempty := mt UInt32.toNat_inj.1 hgrantable.nonempty
    have hplaced := hgrantable.placed
    have hindexed := hgrantable.indexed
    have hzero : (0 : UInt32).toNat = 0 := rfl
    have hsize : UInt32.size = 2 ^ 32 := rfl
    refine ⟨channel, format, hgrantable.found, by omega, hgrantable.inside, hgrantable.known,
      hgrantable.carried, by omega, fun subscription hmem hsame => ?_⟩
    have hholds := holds_eq_true_iff.2 ⟨subscription, hmem, hsame⟩
    rw [hgrantable.fresh] at hholds
    cases hholds
  · rintro ⟨channel, format, hnamed, hnonempty, hinside, hknown, hcarried, hindexed, hfree⟩
    exact check_ok_iff.2
      (firstFlaw?_of_sound hnamed hnonempty hinside hknown hcarried hindexed hfree)
  · intro format first hcheck
    obtain ⟨channel, hgrantable⟩ := grantable_of_check hcheck
    refine ⟨channel, hgrantable.found, hgrantable.known, hgrantable.placed, ?_⟩
    rintro pixel ⟨hbegin, hend⟩
    have hinside := hgrantable.inside
    have hplaced := hgrantable.placed
    simp only [Region.covers, Region.stop] at hbegin hend ⊢
    omega
  · intro κ _ id directory framebuffer connection header payload node hnode hchannels hrequest
    have hrequires : connection.requireNode = .ok node := by rw [Connection.requireNode, hnode]
    simp only [subscribe, hrequest, hrequires, hchannels]
    obtain ⟨flaw, hflaw, hcheck⟩ | ⟨hnone, format, first, hcheck⟩ :=
      verdict_cases channels held request
    · rw [hcheck, hflaw]
      rfl
    · rw [hcheck, hnone]
      rfl

/-- A channel that reaches beyond the last index: three pixels up to the end are
granted. Four are not, and that is what a node is told even where the channel
is subscribed already. -/
theorem granted_at_the_edge :
    let channels : List NodeChannel := [⟨12, 3, 100, 4294967290, .rgb⟩]
    let three : Subscribe := ⟨3, 2, 3, 1⟩
    let four : Subscribe := ⟨3, 2, 4, 1⟩
    let node : Node := ⟨12, ⟨List.replicate 16 7, rfl⟩, [115, 51], "stage-left"⟩
    let connection : Connection Tape := ⟨⟨.loopback, 6000⟩, .blank, some node, 0⟩
    let turn := subscribe 7 ⟨[node], channels⟩ [] (.dark 8) connection (.new .pixelData 1 5)
      (Cbor.encode three)
    check channels [] three = .ok (.rgbw, 4294967292)
      ∧ (∀ pixel, Region.covers ⟨4294967292, 3⟩ pixel → Region.covers ⟨4294967290, 100⟩ pixel)
      ∧ Cbor.decode? (Cbor.encode three) = some three
      ∧ (turn.result, turn.connection)
        = connection.replyWith (.new .pixelData 1 5) (SubscribeAck.mk .success 3)
      ∧ check channels [⟨3, 1⟩] four = .error .invalidOffset := by
  intro channels three four node connection turn
  have hcheck : check channels [] three = .ok (.rgbw, 4294967292) := by rfl
  have hrequest : Cbor.decode? (Cbor.encode three) = some three :=
    Cbor.decode?_encode Subscribe.faithful (by decide)
  obtain ⟨-, hgranted, -, -, htold⟩ := granted_iff_sound channels [] three
  obtain ⟨-, -, hrefused, -⟩ := granted_iff_sound channels [⟨3, 1⟩] four
  obtain ⟨channel, hnamed, -, -, hinside⟩ := hgranted _ _ hcheck
  cases hnamed
  refine ⟨hcheck, hinside, hrequest, ?_, (hrefused _).2 (by decide)⟩
  exact htold 7 ⟨[node], channels⟩ (.dark 8) connection (.new .pixelData 1 5) _ node rfl rfl
    hrequest

end Luminaire.Subscription
