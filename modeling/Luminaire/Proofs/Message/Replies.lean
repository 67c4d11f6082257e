/-
How long the replies are.

Every reply is a record of a few fields, and each of its fields is short:
numbers, the random bytes of a challenge, a key as keys are drawn, and one
text, the address of the group. So every reply is far shorter than what a
frame and a datagram can carry (`replyLimit`).
-/
import Luminaire.Net.Address
import Luminaire.Proofs.Message.Payloads

namespace Luminaire

-- =============================================================== texts

/-- A character takes four bytes at most. -/
theorem utf8ByteSize_ofList_le (characters : List Char) :
    (String.ofList characters).utf8ByteSize ≤ 4 * characters.length := by
  induction characters with
  | nil => exact Nat.le_refl 0
  | cons character characters ih =>
      have hfirst : (String.singleton character).utf8ByteSize ≤ 4 := by
        rw [String.utf8ByteSize_singleton]
        exact character.utf8Size_le_four
      rw [String.ofList_cons, String.utf8ByteSize_append, List.length_cons]
      omega

theorem utf8ByteSize_intercalate_le (separator : String) {pieces : List String} {bound : Nat}
    (hpieces : ∀ piece ∈ pieces, piece.utf8ByteSize ≤ bound) :
    (String.intercalate separator pieces).utf8ByteSize
      ≤ pieces.length * (separator.utf8ByteSize + bound) := by
  induction pieces with
  | nil => exact Nat.zero_le _
  | cons first rest ih =>
      have hfirst := hpieces first List.mem_cons_self
      have hrest := ih fun piece hpiece => hpieces piece (List.mem_cons_of_mem _ hpiece)
      rw [List.length_cons, Nat.succ_mul]
      cases rest with
      | nil =>
          rw [String.intercalate_singleton]
          omega
      | cons second rest =>
          rw [String.intercalate_cons_cons, String.utf8ByteSize_append,
            String.utf8ByteSize_append]
          omega

namespace IpAddress

/-- A group is written with four digits at most. -/
theorem lt_of_mem_groups {octets : Bytes} {group : Nat} (hgroup : group ∈ groups octets) :
    group < 16 ^ 4 := by
  fun_induction groups octets with
  | case1 high low rest ih =>
      rcases List.mem_cons.1 hgroup with rfl | hgroup
      · have hhigh := high.toNat_lt
        have hlow := low.toNat_lt
        omega
      · exact ih hgroup
  | case2 octets => cases hgroup

theorem length_groups_le (octets : Bytes) : (groups octets).length ≤ octets.length := by
  fun_induction groups octets with
  | case1 high low rest ih =>
      rw [List.length_cons, List.length_cons, List.length_cons]
      omega
  | case2 octets => exact Nat.zero_le _

theorem utf8ByteSize_dotted_le (octets : Bytes) :
    (dotted octets).utf8ByteSize ≤ octets.length * 13 := by
  have hpieces : ∀ piece ∈ octets.map fun octet => ToString.toString octet.toNat,
      piece.utf8ByteSize ≤ 12 := by
    intro piece hpiece
    obtain ⟨octet, -, rfl⟩ := List.mem_map.1 hpiece
    have hoctet := octet.toNat_lt
    have hdigits : (Nat.toDigits 10 octet.toNat).length ≤ 3 :=
      (Nat.length_toDigits_le_iff (by decide) (by decide)).2 (by omega)
    have hsize := utf8ByteSize_ofList_le (Nat.toDigits 10 octet.toNat)
    rw [Nat.toString_eq_ofList_toDigits]
    omega
  have hjoined := utf8ByteSize_intercalate_le "." hpieces
  rw [List.length_map] at hjoined
  exact hjoined

theorem utf8ByteSize_groupText_le {groups : List Nat} (hgroups : ∀ group ∈ groups, group < 16 ^ 4) :
    (groupText groups).utf8ByteSize ≤ groups.length * 17 := by
  have hpieces : ∀ piece ∈ groups.map fun group => String.ofList (Nat.toDigits 16 group),
      piece.utf8ByteSize ≤ 16 := by
    intro piece hpiece
    obtain ⟨group, hgroup, rfl⟩ := List.mem_map.1 hpiece
    have hdigits : (Nat.toDigits 16 group).length ≤ 4 :=
      (Nat.length_toDigits_le_iff (by decide) (by decide)).2 (hgroups group hgroup)
    have hsize := utf8ByteSize_ofList_le (Nat.toDigits 16 group)
    omega
  have hjoined := utf8ByteSize_intercalate_le ":" hpieces
  rw [List.length_map] at hjoined
  exact hjoined

/-- No address is long. -/
theorem utf8ByteSize_toString_le (address : IpAddress) :
    address.toString.utf8ByteSize ≤ 600 := by
  cases address with
  | v4 octets =>
      have hdotted := utf8ByteSize_dotted_le octets.toList
      rw [Vector.length_toList] at hdotted
      exact Nat.le_trans hdotted (by decide)
  | v6 octets =>
      have hlength := length_groups_le octets.toList
      rw [Vector.length_toList] at hlength
      have hpart : ∀ part : List Nat, part.Sublist (groups octets.toList) →
          (groupText part).utf8ByteSize ≤ 272 := by
        intro part hsublist
        have htext := utf8ByteSize_groupText_le fun group hgroup =>
          lt_of_mem_groups (hsublist.subset hgroup)
        have hshort := hsublist.length_le
        omega
      unfold toString
      simp only
      split
      · have hdotted := utf8ByteSize_dotted_le (octets.toList.drop 12)
        have hfour : (octets.toList.drop 12).length = 4 := by
          rw [List.length_drop, Vector.length_toList]
        have hfront : "::ffff:".utf8ByteSize = 7 := by decide
        rw [String.utf8ByteSize_append]
        omega
      · split
        · have hgap : "::".utf8ByteSize = 2 := by decide
          have hfront := hpart _ (List.take_sublist (longestZeroRun (groups octets.toList)).1 _)
          have hback := hpart _ (List.drop_sublist ((longestZeroRun (groups octets.toList)).1
            + (longestZeroRun (groups octets.toList)).2) _)
          rw [String.utf8ByteSize_append, String.utf8ByteSize_append]
          omega
        · have hall := hpart _ (List.Sublist.refl _)
          omega

end IpAddress

-- ============================================================= replies

open Cbor Cbor.Codec

/-- No reply is longer. -/
def replyLimit : Nat := 7001

/-- A field of a reply. -/
def Cbor.IsShort (entry : Item × Item) : Prop :=
  entry.1.print.length + entry.2.print.length ≤ 1000

/-- A record of few fields, all of them short. -/
theorem length_record_le {αs : List Type} {α : Type} (fields : Fields αs)
    (toRow : α → Row αs) (ofRow : Row αs → α) (value : α)
    (hfew : (fields.write (toRow value)).length ≤ 7)
    (hshort : ∀ entry ∈ fields.write (toRow value), IsShort entry) :
    ((record fields toRow ofRow).write value).print.length ≤ replyLimit := by
  have hentries : ∀ entries : List (Item × Item), (∀ entry ∈ entries, IsShort entry) →
      (Item.printEntries entries).length ≤ entries.length * 1000 := by
    intro entries
    induction entries with
    | nil => exact fun _ => Nat.le_refl 0
    | cons entry entries ih =>
        intro hentries
        obtain ⟨key, content⟩ := entry
        obtain ⟨hfirst, hrest⟩ := List.forall_mem_cons.1 hentries
        have hlater := ih hrest
        have hentry : key.print.length + content.print.length ≤ 1000 := hfirst
        rw [Item.printEntries, List.length_append, List.length_append, List.length_cons]
        omega
  have hwidth := hentries _ hshort
  rw [length_record fields toRow ofRow value (by omega), ← Fields.length_printEntries_write]
  unfold replyLimit
  omega

theorem isShort_of {name content : Item} (hname : name.print.length ≤ 100)
    (hcontent : content.print.length ≤ 900) : IsShort (name, content) :=
  Nat.add_le_add hname hcontent

/-- A text of moderate length. -/
theorem length_text_le {content : String} (hfits : content.utf8ByteSize ≤ 600) :
    (text.write content).print.length ≤ 900 := by
  have hsize : (utf8 content).length = content.utf8ByteSize := by
    unfold utf8
    rw [Array.length_toList]
    rfl
  have hhead := Item.length_head_le 2 (by decide)
    (show (utf8 content).length < 256 ^ 2 by omega) 3
  show (Item.head 3 (utf8 content).length ++ utf8 content).length ≤ 900
  rw [List.length_append]
  omega

theorem length_status_le (status : Status) : (Status.codec.write status).print.length ≤ 900 :=
  Nat.le_trans (length_word8_le status.code) (by decide)

theorem Nack.length_encode_le (nack : Nack) : (encode nack).length ≤ replyLimit := by
  have htype := Nat.le_trans (length_word8_le nack.messageType) (show 2 ≤ 900 by decide)
  refine length_record_le _ _ _ nack (show 2 ≤ 7 by decide) ?_
  exact List.forall_mem_cons.2 ⟨isShort_of (by decide) htype,
    List.forall_mem_cons.2 ⟨isShort_of (by decide) (length_status_le nack.status), nofun⟩⟩

theorem Pong.length_encode_le (pong : Pong) : (encode pong).length ≤ replyLimit := by
  have htheirs := Nat.le_trans (length_word64_le pong.timestampMs) (show 9 ≤ 900 by decide)
  have hours := Nat.le_trans (length_word64_le pong.serverTimeMs) (show 9 ≤ 900 by decide)
  have hflag : (flag.write pong.authenticated).print.length ≤ 900 := by
    cases pong.authenticated with
    | true => decide
    | false => decide
  refine length_record_le _ _ _ pong (show 3 ≤ 7 by decide) ?_
  exact List.forall_mem_cons.2 ⟨isShort_of (by decide) htheirs,
    List.forall_mem_cons.2 ⟨isShort_of (by decide) hours,
      List.forall_mem_cons.2 ⟨isShort_of (by decide) hflag, nofun⟩⟩⟩

/-- Byte strings of moderate length. -/
theorem length_bytes_short {content : Bytes} (hfits : content.length ≤ 600) :
    (bytes.write content).print.length ≤ 900 :=
  Nat.le_trans (length_bytes_le (by omega)) (by omega)

theorem AuthChallenge.length_encode_le {challenge : AuthChallenge}
    (hmethod : ∀ method, challenge.method = some method → method.utf8ByteSize ≤ 600)
    (hnonce : challenge.nonce.length ≤ 600) (hrandom : challenge.random.length ≤ 600) :
    (encode challenge).length ≤ replyLimit := by
  have hnamed : ((optional text).write challenge.method).print.length ≤ 900 := by
    cases hchosen : challenge.method with
    | none => decide
    | some method => exact length_text_le (hmethod method hchosen)
  refine length_record_le _ _ _ challenge (show 4 ≤ 7 by decide) ?_
  exact List.forall_mem_cons.2 ⟨isShort_of (by decide) (length_status_le challenge.status),
    List.forall_mem_cons.2 ⟨isShort_of (by decide) hnamed,
      List.forall_mem_cons.2 ⟨isShort_of (by decide) (length_bytes_short hnonce),
        List.forall_mem_cons.2 ⟨isShort_of (by decide) (length_bytes_short hrandom), nofun⟩⟩⟩⟩

theorem AuthResult.length_encode_le (result : AuthResult) :
    (encode result).length ≤ replyLimit := by
  refine length_record_le _ _ _ result (show 1 ≤ 7 by decide) ?_
  exact List.forall_mem_cons.2
    ⟨isShort_of (by decide) (length_status_le result.status), nofun⟩

/-- The address of a group is never long. -/
theorem Info.length_encode_le {info : Info} (hgroup : info.group.utf8ByteSize ≤ 600) :
    (encode info).length ≤ replyLimit := by
  have hport := Nat.le_trans (length_word16_le info.port) (show 3 ≤ 900 by decide)
  have hkey := Nat.le_trans (length_word32_le info.keyId) (show 5 ≤ 900 by decide)
  refine length_record_le _ _ _ info (show 4 ≤ 7 by decide) ?_
  exact List.forall_mem_cons.2 ⟨isShort_of (by decide) (length_status_le info.status),
    List.forall_mem_cons.2 ⟨isShort_of (by decide) (length_text_le hgroup),
      List.forall_mem_cons.2 ⟨isShort_of (by decide) hport,
        List.forall_mem_cons.2 ⟨isShort_of (by decide) hkey, nofun⟩⟩⟩⟩

theorem KeyData.length_encode_le {data : KeyData} (hkey : data.key.length ≤ 600)
    (hiv : data.iv.length ≤ 600) : (encode data).length ≤ replyLimit := by
  have hid := Nat.le_trans (length_word32_le data.keyId) (show 5 ≤ 900 by decide)
  refine length_record_le _ _ _ data (show 4 ≤ 7 by decide) ?_
  exact List.forall_mem_cons.2 ⟨isShort_of (by decide) (length_status_le data.status),
    List.forall_mem_cons.2 ⟨isShort_of (by decide) hid,
      List.forall_mem_cons.2 ⟨isShort_of (by decide) (length_bytes_short hkey),
        List.forall_mem_cons.2 ⟨isShort_of (by decide) (length_bytes_short hiv), nofun⟩⟩⟩⟩

end Luminaire
