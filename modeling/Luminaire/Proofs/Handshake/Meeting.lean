/-
What the sides of an honest handshake make of each other's datagrams.

A `Meeting` is a node that has pinned the key of a listener, with what
either of them is going to draw. Its datagrams are definitions here, and
so are the keys and the transcript, once for both sides. Seven things
happen: the hello arrives and is answered with the request for a cookie,
the node greets again with the cookie, that begins an attempt, the attempt
answers, the node sends its closing code, the listener takes it and sends
its own, and the node takes that. Each is one lemma about one side, from
the bytes the other side sent.
-/
import Luminaire.Proofs.Handshake.Encounter
import Luminaire.Proofs.Handshake.Messages

namespace Luminaire

open Cbor

-- ========================================================= the meeting

/-- What one side draws for a handshake. -/
structure Ephemeral where
  random : Bytes
  secret : Bytes
  length_random : random.length = randomLength
  length_secret : secret.length = 32

namespace Ephemeral

/-- The randomness that a side draws from. -/
def stream (ephemeral : Ephemeral) (rest : Entropy) : Entropy :=
  ephemeral.random ++ (ephemeral.secret ++ rest)

theorem draw?_random (ephemeral : Ephemeral) (rest : Entropy) :
    (ephemeral.stream rest).draw? randomLength
      = some (ephemeral.random, ephemeral.secret ++ rest) :=
  Entropy.draw?_eq_some_iff.2 ⟨rfl, ephemeral.length_random⟩

theorem draw?_secret (ephemeral : Ephemeral) (rest : Entropy) :
    Entropy.draw? (ephemeral.secret ++ rest) 32 = some (ephemeral.secret, rest) :=
  Entropy.draw?_eq_some_iff.2 ⟨rfl, ephemeral.length_secret⟩

end Ephemeral

/-- A suite is agreed on if there is one in common, and then it is one on
offer. -/
theorem CipherSuite.exists_negotiate {preference offered : List CipherSuite}
    (hcommon : ∃ suite ∈ preference, suite ∈ offered) :
    ∃ suite, negotiate preference offered = some suite ∧ suite ∈ offered := by
  obtain ⟨common, hpreference, hoffered⟩ := hcommon
  have hfound : (negotiate preference offered).isSome = true :=
    List.find?_isSome.2 ⟨common, hpreference, List.contains_iff_mem.2 hoffered⟩
  obtain ⟨suite, hsuite⟩ := Option.isSome_iff_exists.1 hfound
  exact ⟨suite, hsuite, List.contains_iff_mem.1 (List.find?_some hsuite)⟩

/-- A node and the listener whose key it has pinned, with what both are going
to draw. -/
structure Meeting where
  network : Network
  /-- Suites the node offers. -/
  offered : List CipherSuite
  retries : Nat
  node : Ephemeral
  listener : Listener
  server : Ephemeral

theorem CookieJar.length_issue (jar : CookieJar) (peer : SocketAddress) :
    (jar.issue peer).length = 32 :=
  length_hmac ..

namespace Meeting

section Datagrams

variable (meeting : Meeting)

/-- What the node asks for. -/
def terms : ConnectTerms :=
  ⟨meeting.network.server, meeting.offered, meeting.retries,
    some meeting.listener.handshake.identity.verifyingKey⟩

/-- The suite that is agreed on, if there is one in common. -/
def suite : CipherSuite :=
  (CipherSuite.negotiate meeting.listener.handshake.suites meeting.offered).getD .chacha

def cookie : Bytes := meeting.listener.cookies.issue meeting.network.node

def hello (cookie : Option Bytes) : ClientHello :=
  ⟨handshakeVersion, meeting.node.random, cookie, X25519.share meeting.node.secret,
    meeting.offered⟩

def helloDatagram (cookie : Option Bytes) : Bytes :=
  encode (HandshakeMessage.clientHello (meeting.hello cookie))

/-- The node between its hellos. -/
def greeting (cookie : Option Bytes) (raw : Bytes) : Greeting :=
  ⟨meeting.terms, .up, meeting.node.random, meeting.node.secret, cookie, 0, raw⟩

/-- The node that has greeted with its cookie. -/
def greeted : Greeting :=
  meeting.greeting (some meeting.cookie) (meeting.helloDatagram (some meeting.cookie))

def body : ServerHelloBody :=
  meeting.listener.handshake.body meeting.suite meeting.server.random meeting.server.secret

/-- The listener's answer to the hello with the cookie. -/
def serverHello : ServerHello :=
  meeting.listener.handshake.serverHello (meeting.helloDatagram (some meeting.cookie))
    meeting.suite meeting.server.random meeting.server.secret

def serverHelloDatagram : Bytes := encode (HandshakeMessage.serverHello meeting.serverHello)

def transcript : Bytes :=
  transcriptHash (meeting.helloDatagram (some meeting.cookie)) (encode meeting.body)

/-- The secret of both sides, as the node computes it. -/
def shared : Bytes :=
  X25519.exchange meeting.node.secret (X25519.share meeting.server.secret)

def keys : SessionKeys :=
  SessionKeys.derive meeting.shared meeting.node.random meeting.server.random meeting.suite.name

/-- What comes of the meeting for either side. -/
def session (role : Role) : Session := .confirmed .up meeting.suite role meeting.keys

/-- The wait of either side for the closing code of the other. -/
def wait (role : Role) : Unconfirmed :=
  ⟨role, .establish .up meeting.suite role meeting.keys, meeting.keys, meeting.transcript⟩

/-- What has come of the attempt. -/
def attempt (phase : AttemptPhase) : Attempt :=
  ⟨meeting.listener.nextId, meeting.network.node, meeting.hello (some meeting.cookie),
    meeting.helloDatagram (some meeting.cookie), phase⟩

/-- The listener while the attempt is under way. -/
def attempting (entropy : Entropy) (phase : AttemptPhase) : Listener :=
  { meeting.listener with
    rig := { meeting.listener.rig with venue := { meeting.listener.rig.venue with entropy } }
    handshaking := meeting.network.node :: meeting.listener.handshaking
    nextId := meeting.listener.nextId + 1
    attempts := meeting.listener.attempts ++ [meeting.attempt phase] }

/-- The node with the server hello, while it waits for the closing code. -/
def confirming : Connecting :=
  .confirming meeting.network.path { meeting.wait .client with
    session := { (meeting.wait .client).session with nextSequence := 1 } }

/-- The listener once the attempt has succeeded. -/
def succeeded (entropy : Entropy) : Listener :=
  (meeting.attempting entropy (.accepted (meeting.session .server))).unlock meeting.network.node

/-- Both sides have their sessions. -/
def Met (encounter : Encounter) : Prop :=
  encounter.node = .established meeting.network.path (meeting.session .client)
    ∧ (encounter.listener.attempt? meeting.listener.nextId).map Attempt.phase
      = some (.accepted (meeting.session .server))

/-- The beginning of the meeting: the first hello is under way. -/
def opening (rest : Entropy) : Encounter :=
  let ((node, sent), _) := Connecting.start meeting.terms .up (meeting.node.stream rest)
  ⟨node, meeting.listener, meeting.listener.nextId, meeting.network.fromNode node sent⟩

/-- What the meeting is held under. The listener accepts hellos over a path
that is up, has no attempt for the node and can draw; that its next number is
free holds in every run of it (`Listener.numbered_run`). The two have a suite in
common, and their hellos are not cut off. Of the curves it is assumed that both
sides compute the same secret, that it is not the zero point, and that the
signature verifies under its own key. -/
structure Honest : Prop where
  accepting : meeting.listener.accepting = true
  up : meeting.listener.link = .up
  idle : meeting.network.node ∉ meeting.listener.handshaking
  numbered : meeting.listener.Numbered
  drawn : ∃ rest, meeting.listener.rig.venue.entropy = meeting.server.stream rest
  common : ∃ suite ∈ meeting.listener.handshake.suites, suite ∈ meeting.offered
  helloShort : (meeting.helloDatagram (some meeting.cookie)).length ≤ HandshakeMessage.maxDatagram
  serverHelloShort : meeting.serverHelloDatagram.length ≤ HandshakeMessage.maxDatagram
  exchanged : X25519.exchange meeting.server.secret (X25519.share meeting.node.secret)
    = meeting.shared
  contributory : X25519.contributory meeting.shared = true
  signed : Ed25519.verifies meeting.listener.handshake.identity.verifyingKey meeting.transcript
    (meeting.listener.handshake.identity.sign meeting.transcript) = true

end Datagrams

variable {meeting : Meeting}

/-- A path that is up takes what is not cut off. -/
theorem takes_of_short {datagram : Bytes}
    (hshort : datagram.length ≤ HandshakeMessage.maxDatagram) : Link.up.takes datagram = true :=
  decide_eq_true (Nat.le_trans hshort (by decide))

theorem validate_hello (cookie : Option Bytes) : (meeting.hello cookie).validate = .ok () :=
  ClientHello.validate_eq_ok_iff.2
    ⟨rfl, meeting.node.length_random, X25519.length_share _⟩

namespace Honest

variable (honest : meeting.Honest)
include honest

theorem agreed : CipherSuite.negotiate meeting.listener.handshake.suites meeting.offered
    = some meeting.suite := by
  obtain ⟨suite, hsuite, -⟩ := CipherSuite.exists_negotiate honest.common
  rw [Meeting.suite, hsuite, Option.getD_some]

theorem suite_mem : meeting.suite ∈ meeting.offered := by
  obtain ⟨suite, hsuite, hoffered⟩ := CipherSuite.exists_negotiate honest.common
  rw [Meeting.suite, hsuite, Option.getD_some]
  exact hoffered

/-- Neither hello of the node is cut off. -/
theorem hello_short {cookie : Option Bytes}
    (hcookie : cookie = none ∨ cookie = some meeting.cookie) :
    (meeting.helloDatagram cookie).length ≤ HandshakeMessage.maxDatagram := by
  rcases hcookie with rfl | rfl
  · exact Nat.le_trans (HandshakeMessage.length_clientHello_le (meeting.hello (some _)))
      honest.helloShort
  · exact honest.helloShort

-- ================================================================ the node

/-- The node greets. -/
theorem greet_eq {cookie : Option Bytes} (hcookie : cookie = none ∨ cookie = some meeting.cookie)
    (raw : Bytes) :
    (meeting.greeting cookie raw).greet
      = (.greeting (meeting.greeting cookie (meeting.helloDatagram cookie)),
        some (meeting.helloDatagram cookie)) := by
  have htakes := takes_of_short (honest.hello_short hcookie)
  exact if_pos htakes

/-- The meeting begins with a hello. -/
theorem start_eq (rest : Entropy) :
    Connecting.start meeting.terms .up (meeting.node.stream rest)
      = ((.greeting (meeting.greeting none (meeting.helloDatagram none)),
        some (meeting.helloDatagram none)), rest) := by
  have hsome : meeting.terms.suites.isEmpty = false :=
    List.isEmpty_eq_false_iff.2 (List.ne_nil_of_mem honest.suite_mem)
  unfold Connecting.start
  simp only [hsome, Ephemeral.draw?_random, Ephemeral.draw?_secret, Bool.false_eq_true, if_false]
  exact congrArg (·, rest) (honest.greet_eq (.inl rfl) [])

/-- Asked for a cookie, the node greets again. -/
theorem arrive_verifyRequest (raw : Bytes) :
    Connecting.arrive (.greeting (meeting.greeting none raw)) meeting.network.server
        (Listener.verifyRequest meeting.listener.cookies meeting.network.node)
      = (.greeting meeting.greeted, some (meeting.helloDatagram (some meeting.cookie))) := by
  have hmessage : HandshakeMessage.ofDatagram?
      (Listener.verifyRequest meeting.listener.cookies meeting.network.node)
      = some (.helloVerifyRequest ⟨meeting.cookie⟩,
        Listener.verifyRequest meeting.listener.cookies meeting.network.node) :=
    HandshakeMessage.ofDatagram?_encode
      (HandshakeMessage.length_helloVerifyRequest_le (CookieJar.length_issue ..))
  unfold Connecting.arrive
  simp only [hmessage]
  unfold Greeting.take
  exact (if_pos rfl).trans (honest.greet_eq (.inr rfl) raw)

/-- The server hello is good. -/
theorem check_eq : meeting.greeted.check meeting.serverHello = .ok meeting.body := by
  refine Greeting.check_eq_ok_iff.2 ⟨ServerHelloBody.decode?_encode honest.serverHelloShort, rfl,
    honest.suite_mem, meeting.server.length_random, X25519.length_share _, fun key hpinned => ?_⟩
  cases hpinned
  exact honest.signed

/-- The node takes the server hello and sends its closing code. -/
theorem arrive_serverHello :
    ∃ finished, Connecting.arrive (.greeting meeting.greeted) meeting.network.path
          meeting.serverHelloDatagram = (meeting.confirming, some finished)
      ∧ (meeting.wait .server).session.incoming.openRecord finished = .ok (.handshake, 0,
        finishedCode meeting.keys .client meeting.transcript) := by
  have hmessage : HandshakeMessage.ofDatagram? meeting.serverHelloDatagram
      = some (.serverHello meeting.serverHello, meeting.serverHelloDatagram) :=
    HandshakeMessage.ofDatagram?_encode honest.serverHelloShort
  have hcontributory : X25519.contributory
      (X25519.exchange meeting.greeted.secret meeting.body.publicKey) = true :=
    honest.contributory
  have hwait : meeting.greeted.unconfirmed meeting.serverHello meeting.body
      = meeting.wait .client := rfl
  have hcookie : meeting.greeted.cookie.isSome = true := rfl
  obtain ⟨finished, hfinished, hopens⟩ :=
    @Unconfirmed.exists_sendFinished (meeting.wait .client) (meeting.wait .client).session rfl rfl
  refine ⟨finished, ?_, hopens⟩
  unfold Connecting.arrive
  simp only [hmessage]
  unfold Greeting.take
  simp only [hcookie, if_true]
  unfold Greeting.accept
  simp only [honest.check_eq, hcontributory, hwait, hfinished, Bool.not_true, Bool.false_eq_true,
    if_false]
  rfl

omit honest in
/-- The listener's closing code ends the wait of the node. -/
theorem arrive_finished {finished : Bytes}
    (hopens : (meeting.wait .client).session.incoming.openRecord finished = .ok (.handshake, 0,
      finishedCode meeting.keys .server meeting.transcript)) (source : SocketAddress) :
    meeting.confirming.arrive source finished
      = (.established meeting.network.path (meeting.session .client), none) := by
  have htake : Unconfirmed.take { meeting.wait .client with
        session := { (meeting.wait .client).session with nextSequence := 1 } } finished
      = .established (meeting.session .client) none :=
    Unconfirmed.take_of_finished rfl rfl hopens
  unfold Connecting.arrive confirming
  simp only [htake]

-- ========================================================== the listener

/-- The first hello is asked for a cookie. -/
theorem arrive_hello :
    meeting.listener.arrive meeting.network.node (meeting.helloDatagram none) true
      = (meeting.listener, [⟨.listening, meeting.network.node,
        Listener.verifyRequest meeting.listener.cookies meeting.network.node⟩]) := by
  have hmessage : HandshakeMessage.ofDatagram? (meeting.helloDatagram none)
      = some (.clientHello (meeting.hello none), meeting.helloDatagram none) :=
    HandshakeMessage.ofDatagram?_encode (honest.hello_short (.inl rfl))
  have htakes : meeting.listener.link.takes
      (Listener.verifyRequest meeting.listener.cookies meeting.network.node) = true := by
    rw [honest.up]
    exact takes_of_short
      (HandshakeMessage.length_helloVerifyRequest_le (CookieJar.length_issue ..))
  exact Listener.arrive_without_cookie honest.accepting hmessage (validate_hello none) rfl htakes
    true

/-- The hello with the cookie begins the attempt. -/
theorem arrive_helloAgain :
    meeting.listener.arrive meeting.network.node (meeting.helloDatagram (some meeting.cookie)) true
      = (meeting.attempting meeting.listener.rig.venue.entropy .starting, []) := by
  have hmessage : HandshakeMessage.ofDatagram? (meeting.helloDatagram (some meeting.cookie))
      = some (.clientHello (meeting.hello (some meeting.cookie)),
        meeting.helloDatagram (some meeting.cookie)) :=
    HandshakeMessage.ofDatagram?_encode honest.helloShort
  exact Listener.arrive_with_cookie honest.accepting honest.idle hmessage (validate_hello _) rfl

theorem handles (entropy : Entropy) (phase : AttemptPhase) :
    (meeting.attempting entropy phase).Handles meeting.listener.attempts
      (meeting.attempt phase) :=
  ⟨rfl, fun other hother => Nat.ne_of_lt (honest.numbered other hother)⟩

theorem setPhase_eq (entropy : Entropy) (before after : AttemptPhase) :
    (meeting.attempting entropy before).setPhase meeting.listener.nextId after
      = meeting.attempting entropy after :=
  (honest.handles entropy before).setPhase_eq after

/-- The answer to the hello with the cookie, and the wait behind it. -/
theorem answer_eq (rest : Entropy) :
    meeting.listener.handshake.answer .up (meeting.hello (some meeting.cookie))
        (meeting.helloDatagram (some meeting.cookie)) (meeting.server.stream rest)
      = ⟨.awaiting (meeting.wait .server), some meeting.serverHelloDatagram, rest⟩ := by
  have htakes : Link.up.takes (encode (HandshakeMessage.serverHello
      (meeting.listener.handshake.serverHello (meeting.helloDatagram (some meeting.cookie))
        meeting.suite meeting.server.random meeting.server.secret))) = true :=
    takes_of_short honest.serverHelloShort
  have hshared : X25519.exchange meeting.server.secret
      (meeting.hello (some meeting.cookie)).publicKey = meeting.shared := honest.exchanged
  have hwait : meeting.listener.handshake.unconfirmed .up (meeting.hello (some meeting.cookie))
      (meeting.helloDatagram (some meeting.cookie)) meeting.suite meeting.server.random
      meeting.server.secret = meeting.wait .server := by
    unfold ServerHandshake.unconfirmed
    rw [hshared]
    rfl
  have hagreed : CipherSuite.negotiate meeting.listener.handshake.suites
      (meeting.hello (some meeting.cookie)).suites = some meeting.suite := honest.agreed
  unfold ServerHandshake.answer
  simp only [validate_hello, hagreed]
  unfold ServerHandshake.answerUnder
  simp only [Ephemeral.draw?_random, Ephemeral.draw?_secret, htakes, hshared,
    honest.contributory, hwait, Bool.not_true, Bool.false_eq_true, reduceCtorEq, if_false]
  rfl

/-- The attempt answers. -/
theorem step_answer {rest : Entropy}
    (hdrawn : meeting.listener.rig.venue.entropy = meeting.server.stream rest) :
    (meeting.attempting meeting.listener.rig.venue.entropy .starting).step
        (.answer meeting.listener.nextId)
      = (meeting.attempting rest (.awaiting (meeting.wait .server)),
        [⟨.own meeting.listener.nextId, meeting.network.node, meeting.serverHelloDatagram⟩]) := by
  have hattempt : (meeting.attempting meeting.listener.rig.venue.entropy .starting).attempt?
      meeting.listener.nextId = some (meeting.attempt .starting) :=
    (honest.handles _ .starting).attempt?_eq
  have hanswer := honest.answer_eq rest
  rw [← hdrawn, ← honest.up] at hanswer
  simp only [Listener.step, hattempt]
  show (meeting.attempting meeting.listener.rig.venue.entropy .starting).answer
    (meeting.attempt .starting) = _
  unfold Listener.answer
  have hanswer' : (meeting.attempting meeting.listener.rig.venue.entropy
      .starting).handshake.answer (meeting.attempting meeting.listener.rig.venue.entropy
        .starting).link (meeting.attempt .starting).hello (meeting.attempt .starting).raw
      (meeting.attempting meeting.listener.rig.venue.entropy .starting).rig.venue.entropy = _ :=
    hanswer
  simp only [hanswer']
  exact congrArg (·, _) (honest.setPhase_eq rest .starting _)

/-- The node's closing code ends the wait of the listener, which sends its
own. -/
theorem step_confirm {finished : Bytes} (entropy : Entropy)
    (hopens : (meeting.wait .server).session.incoming.openRecord finished = .ok (.handshake, 0,
      finishedCode meeting.keys .client meeting.transcript)) :
    ∃ closing, (meeting.attempting entropy (.awaiting (meeting.wait .server))).step
          (.confirm meeting.listener.nextId finished)
        = (meeting.succeeded entropy,
          [⟨.own meeting.listener.nextId, meeting.network.node, closing⟩])
      ∧ (meeting.wait .client).session.incoming.openRecord closing = .ok (.handshake, 0,
        finishedCode meeting.keys .server meeting.transcript) := by
  have hattempt : (meeting.attempting entropy (.awaiting (meeting.wait .server))).attempt?
      meeting.listener.nextId = some (meeting.attempt (.awaiting (meeting.wait .server))) :=
    (honest.handles entropy _).attempt?_eq
  obtain ⟨closing, hclosing, hanswers⟩ := @Unconfirmed.exists_sendFinished (meeting.wait .server)
    { (meeting.wait .server).session with window := ReplayWindow.empty.mark 0 } rfl rfl
  have hconclude : (meeting.wait .server).conclude
      { (meeting.wait .server).session with window := ReplayWindow.empty.mark 0 }
      = .established (meeting.session .server) (some closing) := by
    unfold Unconfirmed.conclude
    simp only [hclosing]
    rfl
  have htake : (meeting.wait .server).take finished
      = .established (meeting.session .server) (some closing) :=
    (Unconfirmed.take_of_finished rfl rfl hopens).trans hconclude
  refine ⟨closing, ?_, hanswers⟩
  simp only [Listener.step, hattempt]
  show (meeting.attempting entropy (.awaiting (meeting.wait .server))).confirm
    (meeting.attempt (.awaiting (meeting.wait .server))) (meeting.wait .server) finished = _
  unfold Listener.confirm
  simp only [htake]
  exact congrArg (fun listener => (Listener.unlock listener _, _)) (honest.setPhase_eq entropy _ _)

end Honest

end Meeting

end Luminaire
