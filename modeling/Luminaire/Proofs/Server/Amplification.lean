/-
The cookie exchange does not amplify.

Anyone can put another's address on a datagram, so what the listener sends
before it has seen the cookie must not be worth forging an address for. A
hello that passes the checks holds thirty-two bytes of random and as many
of a key share, and no encoding of it gets below their sum
(`length_of_greeting?`); the request for the cookie takes sixty-two bytes
in all (`length_request`). So each answer is shorter than the datagram it
answers, and over any run a peer is sent fewer bytes than came in under
its name (`cookie_exchange_never_amplifies`).
-/
import Luminaire.Proofs.Cbor.Weight
import Luminaire.Proofs.Server.Admission

namespace Luminaire

open Cbor Cbor.Codec

-- ======================================================== what a hello weighs

/-- What the fields of a hello take in any encoding: a byte or two of heads, and
the random and the share byte for byte. -/
def ClientHello.weight (hello : ClientHello) : Nat :=
  1 + (1 + ((1 + hello.random.length) + (0 + ((1 + hello.publicKey.length) + (1 + 0)))))

theorem ClientHello.thrifty : ClientHello.codec.Thrifty ClientHello.weight :=
  thrifty_record
    (.field (thrifty_one rfl) (.field thrifty_bytes (.field (thrifty_zero _)
      (.field thrifty_bytes (.field (thrifty_one rfl) .nil)))))
    (by decide) fun _ => rfl

/-- A datagram is longer than the hello in it weighs, in whatever form it comes. -/
theorem HandshakeMessage.weight_of_ofDatagram? {datagram raw : Bytes} {hello : ClientHello}
    (hmessage : ofDatagram? datagram = some (.clientHello hello, raw)) :
    2 + hello.weight ≤ datagram.length := by
  obtain ⟨message, hdecode, hwhole⟩ := Option.map_eq_some_iff.1 hmessage
  cases hwhole
  obtain ⟨item, hitem, hread⟩ := Option.bind_eq_some_iff.1 hdecode
  have hfits := Item.weight_le_of_decode? hitem
  have hcut : (datagram.take maxDatagram).length ≤ datagram.length := List.length_take_le' ..
  simp only [Payload.codec] at hread
  split at hread
  next within hcarried =>
    obtain ⟨found, hfound, hsame⟩ := Option.map_eq_some_iff.1 hread
    cases hsame
    have hchoice := weight_of_carried? hcarried
    have hrecord := ClientHello.thrifty.read hfound
    omega
  next => obtain ⟨_, -, hother⟩ := Option.map_eq_some_iff.1 hread; cases hother
  next => obtain ⟨_, -, hother⟩ := Option.map_eq_some_iff.1 hread; cases hother
  next => cases hread

/-- No hello that passes the checks fits into seventy bytes. -/
theorem length_of_greeting? {datagram : Bytes} {hello : ClientHello}
    (hgreeting : greeting? datagram = some hello) : 70 < datagram.length := by
  obtain ⟨⟨raw, hmessage⟩, hvalid⟩ := greeting?_eq_some_iff.1 hgreeting
  obtain ⟨-, hrandom, hshare⟩ := ClientHello.validate_eq_ok_iff.1 hvalid
  have hweight := HandshakeMessage.weight_of_ofDatagram? hmessage
  simp only [ClientHello.weight, hrandom, hshare, randomLength, shareLength] at hweight
  omega

/-- Seventy-four do, with everything by position. -/
example : (greeting? ([0x82, 0, 0x85, 1, 0x58, 32] ++ List.replicate 32 7 ++ [0xf6, 0x58, 32]
    ++ List.replicate 32 7 ++ [0x80])).map (fun hello => (hello.random.length, hello.suites))
      = some (32, []) := by
  decide +kernel

namespace Listener

variable {listener : Listener}

/-- The request for a cookie takes sixty-two bytes. -/
theorem length_request (secret : Bytes) (peer : SocketAddress) :
    (request secret peer).length = 62 := by
  have hcookie : (hmac secret (peer.ip.octets ++ bigEndianBytes 2 peer.port.toNat)).length = 32 :=
    length_hmac ..
  unfold request
  generalize hmac secret (peer.ip.octets ++ bigEndianBytes 2 peer.port.toNat) = cookie at hcookie
  have hnames : (Item.text "HelloVerifyRequest").print.length = 19
      ∧ (Item.text "cookie").print.length = 7 := by decide
  have hbytes : (bytes.write cookie).print.length = 34 := by
    show (Item.head 2 cookie.length ++ cookie).length = 34
    rw [List.length_append, hcookie]
    rfl
  have hrecord : (HelloVerifyRequest.codec.write ⟨cookie⟩).print.length
      = 1 + ((Item.text "cookie").print.length + (bytes.write cookie).print.length + 0) :=
    length_record _ _ _ _ (show 1 < 24 by decide)
  show (Item.mapOf [(.text "HelloVerifyRequest", _)]).print.length = 62
  rw [HandshakeMessage.length_print_single, hrecord]
  omega

-- =========================================================== single datagrams

/-- A datagram is answered once at most, with the request for the cookie of the
peer it names, and only if it is longer than that request. -/
theorem arrive_answer (listener : Listener) (peer : SocketAddress) (datagram : Bytes)
    (able : Bool) :
    (listener.arrive peer datagram able).2 = []
      ∨ ((listener.arrive peer datagram able).2
            = [⟨.listening, peer, request listener.cookies.secret peer⟩]
          ∧ (request listener.cookies.secret peer).length < datagram.length) := by
  cases hgreeting : greeting? datagram with
  | none => exact .inl (congrArg Prod.snd (listener.arrive_of_no_greeting peer hgreeting able))
  | some hello =>
      have hlong := length_of_greeting? hgreeting
      have hshort := length_request listener.cookies.secret peer
      obtain ⟨⟨raw, hmessage⟩, hvalid⟩ := greeting?_eq_some_iff.1 hgreeting
      unfold arrive greeted
      simp only [hmessage, hvalid]
      split
      · split
        · split
          · exact .inl rfl
          · split
            · exact .inl rfl
            · exact .inl rfl
        · simp only
          split
          · exact .inr ⟨rfl, by omega⟩
          · exact .inl rfl
      · exact .inl rfl

-- ================================================================ whole runs

/-- The datagrams that came in under the name of a peer. -/
def arrivals (peer : SocketAddress) (steps : List Step) : List Bytes :=
  steps.filterMap fun next =>
    match next with
    | .arrive other datagram _ => if other = peer then some datagram else none
    | _ => none

/-- What left the listening port for a peer. -/
def answers (peer : SocketAddress) (departures : List Departure) : List Bytes :=
  departures.filterMap fun departure =>
    if departure.port = .listening ∧ departure.peer = peer then some departure.datagram else none

/-- Nothing leaves the listening port but the answer to an arrival. -/
theorem answers_of_not_arrival {next : Step}
    (hother : ∀ peer datagram able, next ≠ .arrive peer datagram able) (peer : SocketAddress) :
    answers peer (listener.step next).2 = [] := by
  refine List.filterMap_eq_nil_iff.2 fun departure hsent => if_neg ?_
  rintro ⟨hport, -⟩
  obtain ⟨-, datagram, able, hnext⟩ := port_step hsent hport
  exact hother _ _ _ hnext

/-- A step answers with fewer bytes than it brings. -/
theorem answers_step_le (listener : Listener) (next : Step) (peer : SocketAddress) :
    total List.length (answers peer (listener.step next).2)
        + (answers peer (listener.step next).2).length
      ≤ total List.length (arrivals peer [next]) := by
  have hnothing : ∀ sent : List Bytes, sent = [] →
      total List.length sent + sent.length ≤ total List.length (arrivals peer [next]) := by
    rintro sent rfl
    exact Nat.zero_le _
  by_cases harrival : ∃ other datagram able, next = .arrive other datagram able
  · obtain ⟨other, datagram, able, rfl⟩ := harrival
    show total _ (answers peer (listener.arrive other datagram able).2)
      + (answers peer (listener.arrive other datagram able).2).length ≤ _
    rcases listener.arrive_answer other datagram able with hsilent | ⟨hsent, hshorter⟩
    · rw [hsilent]
      exact Nat.zero_le _
    · rw [hsent]
      by_cases hpeer : other = peer
      · subst hpeer
        simp only [answers, arrivals, List.filterMap_cons, List.filterMap_nil, true_and,
          if_true, total, List.length_cons, List.length_nil]
        omega
      · simp only [answers, List.filterMap_cons, List.filterMap_nil, hpeer, and_false, if_false]
        exact Nat.zero_le _
  · refine hnothing _ (answers_of_not_arrival (fun other datagram able hnext => ?_) peer)
    exact harrival ⟨other, datagram, able, hnext⟩

/-- A whole run answers with fewer bytes than it brings. -/
theorem answers_run_le (listener : Listener) (steps : List Step) (peer : SocketAddress) :
    total List.length (answers peer (listener.run steps).2)
        + (answers peer (listener.run steps).2).length
      ≤ total List.length (arrivals peer steps) := by
  induction steps using List.reverseRecOn with
  | nil => exact Nat.le_refl _
  | append_singleton steps next ih =>
      have hlast := (listener.run steps).1.answers_step_le next peer
      have hanswers : answers peer (listener.run (steps ++ [next])).2
          = answers peer (listener.run steps).2
            ++ answers peer ((listener.run steps).1.step next).2 := by
        rw [run_snoc_snd]
        exact List.filterMap_append
      have harrivals : arrivals peer (steps ++ [next])
          = arrivals peer steps ++ arrivals peer [next] := List.filterMap_append
      rw [hanswers, harrivals, total_append, total_append, List.length_append]
      omega

/-- The cookie exchange does not amplify. Whatever arrives at the listening
port, under whatever name, is answered with one datagram at most: the request for
the cookie of the peer it names, which is strictly shorter than what arrived. So
over any run at least one byte is saved with each answer: all that left the
listening port for a peer is that much less than all that came in under its name,
and nothing leaves it for a peer that nothing came in from. -/
theorem cookie_exchange_never_amplifies (listener : Listener) :
    (∀ (peer : SocketAddress) (datagram : Bytes) (able : Bool),
      (listener.arrive peer datagram able).2 = []
        ∨ ((listener.arrive peer datagram able).2 = [⟨.listening, peer, Cbor.encode
              (HandshakeMessage.helloVerifyRequest ⟨listener.cookies.issue peer⟩)⟩]
          ∧ (Cbor.encode (HandshakeMessage.helloVerifyRequest
              ⟨listener.cookies.issue peer⟩)).length < datagram.length))
      ∧ ∀ (steps : List Step) (peer : SocketAddress),
        total List.length (answers peer (listener.run steps).2)
            + (answers peer (listener.run steps).2).length
          ≤ total List.length (arrivals peer steps) :=
  ⟨listener.arrive_answer, listener.answers_run_le⟩

end Listener

end Luminaire
