/-
What the handshake hashes, and codes, tells what was put into it.

The security of the handshake rests on SHA-256, and on its inputs: two
sides that agree on a hash have agreed on what was hashed only if no other
hellos, no other address and no other key use are written the same way.
Nothing here separates fields for the sake of reading them, so each format
has its own reason for being unambiguous.

* The transcript puts a length in front of either hello. It has four
  bytes, so it holds a remainder; that is enough, because the lengths
  agree in their sum as well (`lengthPrefixed_pair_inj`). Beyond the width
  of a length a boundary can move unnoticed (`transcriptInput_wraps`).
* A cookie ends in the two bytes of the port, and the addresses in front
  differ in length between the families (`IpAddress.octets_injective`).
* The label of an expansion is words behind blanks. No side and no use of
  a key has a blank in its name, so the suite may be any text at all
  (`SessionKeys.info_inj`).
* The salt is two randoms side by side, and only their lengths tell where
  one ends. Both sides see to these before they derive anything
  (`ClientHello.validate_eq_ok_iff`, `Greeting.check_eq_ok_iff`), and side by
  side they are a block of the hash (`SessionKeys.hmacKey_salt`).
* The closing code is taken over a label and the transcript hash, and both
  labels have one length.
-/
import Mathlib.Algebra.Group.Nat.Defs
import Mathlib.Data.List.Nodup
import Luminaire.Handshake.Client
import Luminaire.Handshake.Cookie
import Luminaire.Proofs.Bytes

namespace Luminaire

-- ======================================================== the transcript

/-- Two byte strings behind their lengths are told apart from any other two, as
long as their lengths fit where they are written. -/
theorem lengthPrefixed_pair_inj {first first' second second' : Bytes}
    (hfirst : first.length < 2 ^ 32) (hsecond : second.length < 2 ^ 32)
    (hsame : lengthPrefixed first ++ lengthPrefixed second
      = lengthPrefixed first' ++ lengthPrefixed second') :
    first = first' ∧ second = second' := by
  have hparts : ∀ bytes rest : Bytes,
      lengthPrefixed bytes ++ rest = bigEndianBytes 4 bytes.length ++ (bytes ++ rest) :=
    fun _ _ => List.append_assoc ..
  rw [hparts, hparts] at hsame
  obtain ⟨hlengths, hrest⟩ := List.append_inj hsame (by simp only [length_bigEndianBytes])
  -- the lengths agree up to a multiple of 2^32, and in their sum
  have hremainder : first.length % 2 ^ 32 = first'.length % 2 ^ 32 :=
    mod_eq_of_bigEndianBytes hlengths
  have hsum := congrArg List.length hrest
  simp only [lengthPrefixed, List.length_append, length_bigEndianBytes] at hsum
  obtain ⟨rfl, hlengthsed⟩ := List.append_inj hrest (by omega)
  obtain ⟨-, rfl⟩ := List.append_inj hlengthsed (by simp only [length_bigEndianBytes])
  exact ⟨rfl, rfl⟩

theorem transcriptInput_inj {hello hello' body body' : Bytes} (hhello : hello.length < 2 ^ 32)
    (hbody : body.length < 2 ^ 32) :
    transcriptInput hello body = transcriptInput hello' body'
      ↔ hello = hello' ∧ body = body' := by
  constructor
  · intro hsame
    unfold transcriptInput at hsame
    rw [List.append_assoc, List.append_assoc] at hsame
    exact lengthPrefixed_pair_inj hhello hbody (List.append_cancel_left hsame)
  · rintro ⟨rfl, rfl⟩
    rfl

/-- A length of 2^32 is written as none at all, and so zeros can stand on either
side of the boundary. -/
theorem transcriptInput_wraps :
    transcriptInput [] (List.replicate (2 ^ 32) 0)
      = transcriptInput (List.replicate (2 ^ 32) 0) [] := by
  have hmoved : ∀ count, bigEndianBytes 4 count = List.replicate 4 0 →
      lengthPrefixed [] ++ lengthPrefixed (List.replicate count 0)
        = lengthPrefixed (List.replicate count 0) ++ lengthPrefixed [] := by
    intro count hwraps
    have hnone : lengthPrefixed [] = List.replicate 4 0 := rfl
    have hzeros : lengthPrefixed (List.replicate count 0) = List.replicate (4 + count) 0 := by
      rw [lengthPrefixed, List.length_replicate, hwraps, List.replicate_append_replicate]
    rw [hnone, hzeros, List.replicate_append_replicate, List.replicate_append_replicate,
      Nat.add_comm]
  unfold transcriptInput
  rw [List.append_assoc, List.append_assoc]
  exact congrArg _ (hmoved (2 ^ 32) (by decide))

-- ============================================================ the cookie

/-- The length tells the families apart. -/
theorem IpAddress.octets_injective : Function.Injective octets := by
  intro ip ip' hsame
  cases ip with
  | v4 four =>
      cases ip' with
      | v4 four' => exact congrArg v4 (Vector.toList_inj.1 hsame)
      | v6 sixteen' =>
          have hlength : four.toList.length = sixteen'.toList.length := congrArg List.length hsame
          rw [Vector.length_toList, Vector.length_toList] at hlength
          omega
  | v6 sixteen =>
      cases ip' with
      | v4 four' =>
          have hlength : sixteen.toList.length = four'.toList.length := congrArg List.length hsame
          rw [Vector.length_toList, Vector.length_toList] at hlength
          omega
      | v6 sixteen' => exact congrArg v6 (Vector.toList_inj.1 hsame)

/-- The port is read from the end, where it has the same width behind either
family. -/
theorem CookieJar.peerBytes_inj {peer peer' : SocketAddress} :
    peerBytes peer = peerBytes peer' ↔ peer.ip = peer'.ip ∧ peer.port = peer'.port := by
  constructor
  · intro hsame
    obtain ⟨hip, hport⟩ := List.append_inj' hsame (by simp only [length_bigEndianBytes])
    refine ⟨IpAddress.octets_injective hip, UInt16.toNat_inj.1 ?_⟩
    have hremainder : peer.port.toNat % 2 ^ 16 = peer'.port.toNat % 2 ^ 16 :=
      mod_eq_of_bigEndianBytes hport
    have hbound := peer.port.toNat_lt
    have hbound' := peer'.port.toNat_lt
    omega
  · rintro ⟨hip, hport⟩
    unfold peerBytes
    rw [hip, hport]

-- ============================================================ the labels

/-- What stands in front of the first mark is told from what stands behind it. -/
theorem unmarked_append_inj {α : Type} {mark : α} {front front' back back' : List α}
    (hfront : mark ∉ front) (hfront' : mark ∉ front')
    (hsame : front ++ mark :: back = front' ++ mark :: back') : front = front' ∧ back = back' := by
  induction front generalizing front' with
  | nil =>
      cases front' with
      | nil => exact ⟨rfl, (List.cons.inj hsame).2⟩
      | cons first' rest' =>
          have hmark : mark = first' := (List.cons.inj hsame).1
          exact absurd (hmark ▸ List.mem_cons_self) hfront'
  | cons first rest ih =>
      cases front' with
      | nil =>
          have hmark : first = mark := (List.cons.inj hsame).1
          exact absurd (hmark ▸ List.mem_cons_self) hfront
      | cons first' rest' =>
          obtain ⟨rfl, hrest⟩ := List.cons.inj hsame
          obtain ⟨rfl, hback⟩ := ih (fun hmark => hfront (List.mem_cons_of_mem _ hmark))
            (fun hmark => hfront' (List.mem_cons_of_mem _ hmark)) hrest
          exact ⟨rfl, hback⟩

theorem Role.name_injective : Function.Injective name := by
  intro role role'
  cases role <;> cases role' <;> decide

theorem Role.blank_not_mem_name (role : Role) : ' ' ∉ role.name.toList := by
  cases role with
  | client => decide
  | server => decide

theorem KeyUse.name_injective : Function.Injective name := by
  intro use use'
  cases use <;> cases use' <;> decide

theorem KeyUse.blank_not_mem_name (use : KeyUse) : ' ' ∉ use.name.toList := by
  cases use with
  | key => decide
  | iv => decide
  | finished => decide

namespace SessionKeys

/-- A label gives away the side, the use and the suite, whatever the suite is
called. -/
theorem info_inj {role role' : Role} {use use' : KeyUse} {suite suite' : String} :
    info role use suite = info role' use' suite'
      ↔ role = role' ∧ use = use' ∧ suite = suite' := by
  refine ⟨fun hsame => ?_, by rintro ⟨rfl, rfl, rfl⟩; rfl⟩
  have hwords : ∀ (role : Role) (use : KeyUse) (suite : String),
      ("pixelnet " ++ role.name ++ " " ++ use.name ++ " " ++ suite).toList
        = "pixelnet ".toList
          ++ (role.name.toList ++ ' ' :: (use.name.toList ++ ' ' :: suite.toList)) := by
    intro role use suite
    simp
  have htext := congrArg String.toList (utf8_injective hsame)
  rw [hwords, hwords] at htext
  obtain ⟨hrole, hrest⟩ := unmarked_append_inj role.blank_not_mem_name role'.blank_not_mem_name
    (List.append_cancel_left htext)
  obtain ⟨huse, hsuite⟩ := unmarked_append_inj use.blank_not_mem_name use'.blank_not_mem_name hrest
  exact ⟨Role.name_injective (String.toList_inj.1 hrole),
    KeyUse.name_injective (String.toList_inj.1 huse), String.toList_inj.1 hsuite⟩

/-- What one derivation expands, in the order of `parts`. -/
def expansions : List (Role × KeyUse) :=
  [(.client, .key), (.client, .iv), (.client, .finished),
    (.server, .key), (.server, .iv), (.server, .finished)]

/-- The labels that the expansions of one derivation run under. -/
def labels (suite : String) : List Bytes :=
  expansions.map fun expansion => info expansion.1 expansion.2 suite

/-- All keys of a session. -/
def parts (keys : SessionKeys) : List Bytes :=
  [keys.client.key, keys.client.iv, keys.client.finished,
    keys.server.key, keys.server.iv, keys.server.finished]

/-- A derivation is these six expansions, and no others. -/
theorem parts_derive (shared clientRandom serverRandom : Bytes) (suite : String) :
    (derive shared clientRandom serverRandom suite).parts
      = expansions.map fun expansion =>
        hkdfExpand (hkdfExtract (salt clientRandom serverRandom) shared)
          (info expansion.1 expansion.2 suite) expansion.2.length :=
  rfl

theorem nodup_labels (suite : String) : (labels suite).Nodup := by
  have hdistinct : expansions.Nodup := by decide
  refine hdistinct.map fun expansion expansion' hsame => ?_
  obtain ⟨hrole, huse, -⟩ := info_inj.1 hsame
  exact Prod.ext hrole huse

theorem disjoint_labels {suite suite' : String} (hother : suite ≠ suite') :
    (labels suite).Disjoint (labels suite') := by
  intro label hlabel hlabel'
  obtain ⟨expansion, -, rfl⟩ := List.mem_map.1 hlabel
  obtain ⟨expansion', -, hsame⟩ := List.mem_map.1 hlabel'
  exact hother (info_inj.1 hsame).2.2.symm

-- ============================================================== the salt

variable {clientRandom serverRandom clientRandom' serverRandom' : Bytes}

theorem salt_inj (hclient : clientRandom.length = clientRandom'.length) :
    salt clientRandom serverRandom = salt clientRandom' serverRandom'
      ↔ clientRandom = clientRandom' ∧ serverRandom = serverRandom' := by
  refine ⟨fun hsame => List.append_inj hsame hclient, ?_⟩
  rintro ⟨rfl, rfl⟩
  rfl

/-- Two randoms of full length key the extraction as they stand: they fill a block,
and are neither hashed nor padded. -/
theorem hmacKey_salt (hclient : clientRandom.length = randomLength)
    (hserver : serverRandom.length = randomLength) :
    hmacKey (salt clientRandom serverRandom) = salt clientRandom serverRandom := by
  have hblock : (salt clientRandom serverRandom).length = 64 := by
    rw [salt, List.length_append, hclient, hserver]
    rfl
  unfold hmacKey
  rw [if_neg (Nat.not_lt.2 (Nat.le_of_eq hblock))]
  simp only [hblock, Nat.sub_self, List.replicate_zero, List.append_nil]

end SessionKeys

-- ====================================================== the closing code

theorem length_finishedLabel (sender : Role) : (finishedLabel sender).length = 15 := by
  cases sender with
  | client => decide
  | server => decide

theorem finishedLabel_injective : Function.Injective finishedLabel := by
  intro sender sender' hsame
  have htext := congrArg String.toList (utf8_injective hsame)
  rw [String.toList_append, String.toList_append] at htext
  exact Role.name_injective (String.toList_inj.1 (List.append_cancel_right htext))

theorem finishedLabel_append_inj {sender sender' : Role} {transcript transcript' : Bytes} :
    finishedLabel sender ++ transcript = finishedLabel sender' ++ transcript'
      ↔ sender = sender' ∧ transcript = transcript' := by
  constructor
  · intro hsame
    obtain ⟨hlabel, htranscript⟩ := List.append_inj hsame (by simp only [length_finishedLabel])
    exact ⟨finishedLabel_injective hlabel, htranscript⟩
  · rintro ⟨rfl, rfl⟩
    rfl

-- ================================================================== all

/-- Whatever the handshake hashes, or takes a code over, determines what it binds.

The transcript determines both hellos, if their lengths fit where they are
written; no other two have that transcript, of whatever length. The input of a
cookie determines address and port, over both families. The label of an expansion
determines the side, the use of the key and the suite, for suites of any name: so
no two of the six expansions that a derivation consists of share a label, and
none shares one with a derivation for another suite. The salt determines both
randoms once they have their full length, which the checks on either hello see to,
and then is the very block that the extraction is keyed with. The input of a
closing code determines its sender and the transcript hash. -/
theorem hash_inputs_are_unambiguous :
    (∀ hello hello' body body' : Bytes, hello.length < 2 ^ 32 → body.length < 2 ^ 32 →
        (transcriptInput hello body = transcriptInput hello' body'
          ↔ hello = hello' ∧ body = body'))
      ∧ (∀ peer peer' : SocketAddress,
        CookieJar.peerBytes peer = CookieJar.peerBytes peer'
          ↔ peer.ip = peer'.ip ∧ peer.port = peer'.port)
      ∧ (∀ (role role' : Role) (use use' : KeyUse) (suite suite' : String),
        SessionKeys.info role use suite = SessionKeys.info role' use' suite'
          ↔ role = role' ∧ use = use' ∧ suite = suite')
      ∧ (∀ (shared clientRandom serverRandom : Bytes) (suite : String),
        (SessionKeys.derive shared clientRandom serverRandom suite).parts
            = SessionKeys.expansions.map fun expansion =>
              hkdfExpand (hkdfExtract (SessionKeys.salt clientRandom serverRandom) shared)
                (SessionKeys.info expansion.1 expansion.2 suite) expansion.2.length)
      ∧ (∀ suite : String, (SessionKeys.labels suite).Nodup
        ∧ ∀ suite' : String, suite ≠ suite' →
          (SessionKeys.labels suite).Disjoint (SessionKeys.labels suite'))
      ∧ (∀ hello : ClientHello, hello.validate = .ok () → hello.random.length = 32)
      ∧ (∀ (node : Greeting) (answer : ServerHello) (body : ServerHelloBody),
        node.check answer = .ok body → body.random.length = 32)
      ∧ (∀ client client' server server' : Bytes, client.length = 32 → client'.length = 32 →
        server.length = 32 → server'.length = 32 →
          hmacKey (SessionKeys.salt client server) = SessionKeys.salt client server
            ∧ (SessionKeys.salt client server = SessionKeys.salt client' server'
              ↔ client = client' ∧ server = server'))
      ∧ ∀ (sender sender' : Role) (transcript transcript' : Bytes),
        finishedLabel sender ++ transcript = finishedLabel sender' ++ transcript'
          ↔ sender = sender' ∧ transcript = transcript' := by
  refine ⟨fun _ _ _ _ => transcriptInput_inj, fun _ _ => CookieJar.peerBytes_inj,
    fun _ _ _ _ _ _ => SessionKeys.info_inj, SessionKeys.parts_derive,
    fun suite => ⟨SessionKeys.nodup_labels suite, fun _ => SessionKeys.disjoint_labels⟩,
    ?_, ?_, ?_, fun _ _ _ _ => finishedLabel_append_inj⟩
  · intro hello hvalid
    exact (ClientHello.validate_eq_ok_iff.1 hvalid).2.1
  · intro node answer body hcheck
    obtain ⟨-, -, -, hrandom, -⟩ := Greeting.check_eq_ok_iff.1 hcheck
    exact hrandom
  · intro client client' server server' hclient hclient' hserver _
    exact ⟨SessionKeys.hmacKey_salt hclient hserver,
      SessionKeys.salt_inj (hclient.trans hclient'.symm)⟩

/-- A node that holds a cookie and takes any key. -/
def exampleAsker : Greeting where
  terms := ⟨⟨.loopback, 4000⟩, [.chacha], 3, none⟩
  link := .up
  random := List.replicate 32 1
  secret := List.replicate 32 5
  cookie := some [7]
  attempts := 0
  raw := []

/-- The part of an answer to it that is signed. -/
def exampleAnswerBody : ServerHelloBody :=
  ⟨handshakeVersion, List.replicate 32 2, List.replicate 32 9, .chacha, []⟩

/-- The loopback address, embedded in one of the other family. -/
def exampleEmbedded : IpAddress :=
  .v6 #v[0, 0, 0, 0, 0, 0, 0, 0, 0, 0, 0xff, 0xff, 127, 0, 0, 1]

/-- A boundary between two hellos that has moved, an address against the one it is
embedded in, a suite that is called like a use of a key, and the randoms of two
hellos that pass their checks, the other way round: all of it shows. -/
theorem moved_boundaries_show_in_example :
    ((utf8 "hello").length < 2 ^ 32 ∧ (utf8 "body").length < 2 ^ 32
        ∧ transcriptInput (utf8 "hello") (utf8 "body")
          ≠ transcriptInput (utf8 "hellob") (utf8 "ody"))
      ∧ CookieJar.peerBytes ⟨.loopback, 4000⟩ ≠ CookieJar.peerBytes ⟨exampleEmbedded, 4000⟩
      ∧ ("a" ≠ "iv a" ∧ (SessionKeys.labels "a").Disjoint (SessionKeys.labels "iv a"))
      ∧ (exampleAsker.hello.validate = .ok () ∧ exampleAsker.hello.random.length = 32)
      ∧ (exampleAsker.check ⟨Cbor.encode exampleAnswerBody, []⟩ = .ok exampleAnswerBody
        ∧ exampleAnswerBody.random.length = 32)
      ∧ SessionKeys.salt exampleAsker.hello.random exampleAnswerBody.random
        ≠ SessionKeys.salt exampleAnswerBody.random exampleAsker.hello.random := by
  obtain ⟨htranscript, hcookie, -, -, hlabels, hasked, hanswered, hsalt, -⟩ :=
    hash_inputs_are_unambiguous
  have hhello : (utf8 "hello").length < 2 ^ 32 := by decide
  have hbody : (utf8 "body").length < 2 ^ 32 := by decide
  have hvalid : exampleAsker.hello.validate = .ok () := by decide +kernel
  have hcheck : exampleAsker.check ⟨Cbor.encode exampleAnswerBody, []⟩ = .ok exampleAnswerBody := by
    decide +kernel
  have hclient := hasked _ hvalid
  have hserver := hanswered _ _ _ hcheck
  refine ⟨⟨hhello, hbody, fun hsame => ?_⟩, fun hsame => ?_,
    ⟨by decide, (hlabels "a").2 "iv a" (by decide)⟩, ⟨hvalid, hclient⟩, ⟨hcheck, hserver⟩,
    fun hsame => ?_⟩
  · have hboth := (htranscript _ _ _ _ hhello hbody).1 hsame
    exact absurd hboth.1 (by decide)
  · have hboth := (hcookie _ _).1 hsame
    exact absurd hboth.1 (by decide)
  · have hboth := (hsalt _ _ _ _ hclient hserver hserver hclient).2.1 hsame
    exact absurd hboth.1 (by decide)

end Luminaire
