/-
No session without the closing code of the peer.

The controller's half is one call, `ServerHandshake.accept`: it answers a
hello and waits. What it waits for is fixed with its answer
(`answer_cases`), so what comes of the call is the judgement of the first
genuine record (`accept_eq`). The node's half is a course of events, and
ends in a session only over a server hello that has passed every check
(`took_of_established`). `no_session_without_finished` puts the two
halves side by side, each with the code spelled out, and with what becomes
of any other record in front.
-/
import Luminaire.Proofs.Handshake.Agreement
import Luminaire.Proofs.Handshake.Course

namespace Luminaire

-- ======================================================== the controller

namespace ServerHandshake

variable {server : ServerHandshake} {link : Link} {hello : ClientHello} {raw : Bytes}
  {entropy : Entropy} {suite : CipherSuite} {random secret : Bytes}

/-- The controller's whole part: what comes of a hello when these datagrams
arrive behind it, and everything that leaves. Nothing comes of it if it breaks
down. -/
def accept (server : ServerHandshake) (link : Link) (hello : ClientHello) (raw : Bytes)
    (entropy : Entropy) (datagrams : List Bytes) :
    Option (Except HandshakeError Session) × List Bytes :=
  let answer := server.answer link hello raw entropy
  match answer.progress with
  | .crashed => (none, answer.sent.toList)
  | .failed error => (some (.error error), answer.sent.toList)
  | .awaiting unconfirmed =>
      match unconfirmed.takeAll datagrams with
      | .waiting unconfirmed => (some (.error unconfirmed.expire), answer.sent.toList)
      | .failed error => (some (.error error), answer.sent.toList)
      | .established session sent => (some (.ok session), answer.sent.toList ++ sent.toList)

/-- The server hello as it leaves. -/
def greetingDatagram (server : ServerHandshake) (raw : Bytes) (suite : CipherSuite)
    (random secret : Bytes) : Bytes :=
  Cbor.encode (HandshakeMessage.serverHello (server.serverHello raw suite random secret))

theorem fresh_unconfirmed (server : ServerHandshake) (link : Link) (hello : ClientHello)
    (raw : Bytes) (suite : CipherSuite) (random secret : Bytes) :
    (server.unconfirmed link hello raw suite random secret).Fresh :=
  ⟨rfl, rfl⟩

/-- The attempt has answered with this suite, random and secret, and waits. -/
def Answered (server : ServerHandshake) (link : Link) (hello : ClientHello) (raw : Bytes)
    (entropy : Entropy) (suite : CipherSuite) (random secret : Bytes) : Prop :=
  (server.answer link hello raw entropy).progress
      = .awaiting (server.unconfirmed link hello raw suite random secret)
    ∧ (server.answer link hello raw entropy).sent
      = some (server.greetingDatagram raw suite random secret)

/-- What can come of an answer; whatever has left is a server hello. -/
theorem answer_cases (server : ServerHandshake) (link : Link) (hello : ClientHello) (raw : Bytes)
    (entropy : Entropy) :
    (∃ suite random secret, server.Answered link hello raw entropy suite random secret)
      ∨ ((server.answer link hello raw entropy).progress = .crashed
          ∨ ∃ error, (server.answer link hello raw entropy).progress = .failed error)
        ∧ ∀ datagram ∈ (server.answer link hello raw entropy).sent,
          ∃ suite random secret, datagram = server.greetingDatagram raw suite random secret := by
  unfold Answered answer
  split
  · exact .inr ⟨.inr ⟨_, rfl⟩, nofun⟩
  · split
    · exact .inr ⟨.inr ⟨_, rfl⟩, nofun⟩
    next suite hsuite =>
      split
      · exact .inr ⟨.inr ⟨_, rfl⟩, nofun⟩
      · unfold answerUnder
        split
        · exact .inr ⟨.inr ⟨_, rfl⟩, nofun⟩
        next random rest hrandom =>
          split
          · exact .inr ⟨.inl rfl, nofun⟩
          next secret left hsecret =>
            simp only
            split
            · exact .inr ⟨.inr ⟨_, rfl⟩, nofun⟩
            · split
              · refine .inr ⟨.inr ⟨_, rfl⟩, fun datagram hdatagram => ?_⟩
                exact ⟨suite, random, secret, (Option.some.inj hdatagram).symm⟩
              · exact .inl ⟨suite, random, secret, rfl, rfl⟩

/-- Behind an answer the first genuine record decides. -/
theorem accept_eq (hanswered : server.Answered link hello raw entropy suite random secret)
    (datagrams : List Bytes) :
    server.accept link hello raw entropy datagrams
      = match (server.unconfirmed link hello raw suite random secret).takeAll datagrams with
        | .waiting unconfirmed =>
            (some (.error unconfirmed.expire), [server.greetingDatagram raw suite random secret])
        | .failed error =>
            (some (.error error), [server.greetingDatagram raw suite random secret])
        | .established session sent =>
            (some (.ok session),
              server.greetingDatagram raw suite random secret :: sent.toList) := by
  obtain ⟨hprogress, hsent⟩ := hanswered
  unfold accept
  simp only [hprogress, hsent]
  rfl

/-- An attempt that does not come to wait makes no session. -/
theorem accept_of_unanswered
    (hover : (server.answer link hello raw entropy).progress = .crashed
      ∨ ∃ error, (server.answer link hello raw entropy).progress = .failed error)
    (datagrams : List Bytes) :
    (∀ session, (server.accept link hello raw entropy datagrams).1 ≠ some (.ok session))
      ∧ (server.accept link hello raw entropy datagrams).2
        = (server.answer link hello raw entropy).sent.toList := by
  unfold accept
  rcases hover with hcrashed | ⟨error, hfailed⟩
  · simp only [hcrashed]
    exact ⟨nofun, trivial⟩
  · simp only [hfailed]
    exact ⟨nofun, trivial⟩

/-- A session comes of an answer, behind the node's closing code, and the
controller's code leaves with it. -/
theorem answered_of_accept {datagrams : List Bytes} {session : Session}
    (haccept : (server.accept link hello raw entropy datagrams).1 = some (.ok session)) :
    ∃ suite random secret sequence record,
      server.Answered link hello raw entropy suite random secret
        ∧ (server.unconfirmed link hello raw suite random secret).session.incoming.firstGenuine
            datagrams = some (.handshake, sequence,
              (server.unconfirmed link hello raw suite random secret).code)
        ∧ (server.accept link hello raw entropy datagrams).2
          = [server.greetingDatagram raw suite random secret, record]
        ∧ (server.unconfirmed link hello raw suite random secret).session.outgoing.openRecord record
          = .ok (.handshake, 0,
            finishedCode (server.unconfirmed link hello raw suite random secret).keys .server
              (server.unconfirmed link hello raw suite random secret).transcript) := by
  rcases server.answer_cases link hello raw entropy with
    ⟨suite, random, secret, hanswered⟩ | ⟨hover, -⟩
  · rw [accept_eq hanswered] at haccept ⊢
    cases htaken : (server.unconfirmed link hello raw suite random secret).takeAll datagrams with
    | waiting unconfirmed =>
        rw [htaken] at haccept
        cases haccept
    | failed error =>
        rw [htaken] at haccept
        cases haccept
    | established after sent =>
        obtain ⟨sequence, hfirst, hconclude⟩ :=
          Unconfirmed.closes_of_takeAll (fresh_unconfirmed ..) htaken
        obtain ⟨record, rfl, hopens⟩ := Unconfirmed.sent_of_conclude rfl hconclude
        exact ⟨suite, random, secret, sequence, record, hanswered, hfirst, rfl, hopens⟩
  · exact absurd haccept ((accept_of_unanswered hover datagrams).1 session)

/-- Without a session nothing leaves but the hello. -/
theorem greeting_of_accept {datagrams : List Bytes}
    (hnone : ∀ session, (server.accept link hello raw entropy datagrams).1 ≠ some (.ok session)) :
    ∀ datagram ∈ (server.accept link hello raw entropy datagrams).2,
      ∃ suite random secret, datagram = server.greetingDatagram raw suite random secret := by
  intro datagram hdatagram
  rcases server.answer_cases link hello raw entropy with
    ⟨suite, random, secret, hanswered⟩ | ⟨hover, hsent⟩
  · rw [accept_eq hanswered] at hdatagram hnone
    cases htaken : (server.unconfirmed link hello raw suite random secret).takeAll datagrams with
    | waiting unconfirmed =>
        rw [htaken] at hdatagram
        exact ⟨suite, random, secret, List.mem_singleton.1 hdatagram⟩
    | failed error =>
        rw [htaken] at hdatagram
        exact ⟨suite, random, secret, List.mem_singleton.1 hdatagram⟩
    | established session sent =>
        rw [htaken] at hnone
        exact absurd rfl (hnone session)
  · rw [(accept_of_unanswered hover datagrams).2] at hdatagram
    exact hsent datagram (Option.mem_toList.1 hdatagram)

/-- Any other record in front is an error. -/
theorem failed_of_accept (hanswered : server.Answered link hello raw entropy suite random secret)
    {datagrams : List Bytes} {content : ContentType} {sequence : UInt64} {plain : Bytes}
    (hfirst : (server.unconfirmed link hello raw suite random secret).session.incoming.firstGenuine
      datagrams = some (content, sequence, plain))
    (hother : ¬ (server.unconfirmed link hello raw suite random secret).Closes content plain) :
    ∃ error, (server.accept link hello raw entropy datagrams).1 = some (.error error) := by
  obtain ⟨error, htaken⟩ :=
    Unconfirmed.failed_of_takeAll (fresh_unconfirmed ..) hfirst hother
  refine ⟨error, ?_⟩
  rw [accept_eq hanswered, htaken]

end ServerHandshake

-- ========================================================== both halves

/-- Whatever is delivered, there is no session without the closing code.

The controller's part comes to a session only behind its answer, and only if
the first record that opens under the node's keys holds the node's code over
the exact hello and the exact body of the answer; its own code leaves then, and
otherwise nothing but its hello ever does. The node comes to a session only if
it took a server hello that passed every check, and the first record that opens
under the controller's keys holds the controller's code over the same bytes.
With any other record in front either of them ends in an error. -/
theorem no_session_without_finished :
    (∀ (server : ServerHandshake) (link : Link) (hello : ClientHello) (raw : Bytes)
        (entropy : Entropy) (datagrams : List Bytes),
      let outcome := server.accept link hello raw entropy datagrams
      (∀ session, outcome.1 = some (.ok session) →
        ∃ suite random secret sequence record,
          let body := Cbor.encode (server.body suite random secret)
          let transcript := transcriptHash raw body
          let keys := SessionKeys.derive (X25519.exchange secret hello.publicKey) hello.random
            random suite.name
          server.Answered link hello raw entropy suite random secret
            ∧ Protection.firstGenuine ⟨suite, keys.client⟩ datagrams
              = some (.handshake, sequence,
                hmac keys.client.finished (utf8 "client finished" ++ transcript))
            ∧ outcome.2 = [Cbor.encode (HandshakeMessage.serverHello
                ⟨body, server.identity.sign transcript⟩), record]
            ∧ Protection.openRecord ⟨suite, keys.server⟩ record = .ok (.handshake, 0,
                hmac keys.server.finished (utf8 "server finished" ++ transcript)))
      ∧ ((∀ session, outcome.1 ≠ some (.ok session)) → ∀ datagram ∈ outcome.2,
          ∃ suite random secret, datagram = server.greetingDatagram raw suite random secret)
      ∧ ∀ suite random secret, server.Answered link hello raw entropy suite random secret →
          let transcript := transcriptHash raw (Cbor.encode (server.body suite random secret))
          let keys := SessionKeys.derive (X25519.exchange secret hello.publicKey) hello.random
            random suite.name
          ∀ content sequence plain,
            Protection.firstGenuine ⟨suite, keys.client⟩ datagrams
              = some (content, sequence, plain) →
            ¬ (content = .handshake
              ∧ plain = hmac keys.client.finished (utf8 "client finished" ++ transcript)) →
            ∃ error, outcome.1 = some (.error error))
    ∧ ∀ (terms : ConnectTerms) (link : Link) (entropy : Entropy)
        (events : List Connecting.Event) (peer : SocketAddress),
      (∀ session, (Connecting.course terms link entropy events).1 = .established peer session →
        ∃ node hello body closings sequence,
          let transcript := transcriptHash node.raw hello.body
          let keys := SessionKeys.derive (X25519.exchange node.secret body.publicKey) node.random
            body.random body.suite.name
          Connecting.Took terms link entropy events peer node hello body closings
            ∧ Protection.firstGenuine ⟨body.suite, keys.server⟩ (Connecting.arrivals closings)
              = some (.handshake, sequence,
                hmac keys.server.finished (utf8 "server finished" ++ transcript)))
      ∧ ∀ node hello body closings,
          Connecting.Took terms link entropy events peer node hello body closings →
          let transcript := transcriptHash node.raw hello.body
          let keys := SessionKeys.derive (X25519.exchange node.secret body.publicKey) node.random
            body.random body.suite.name
          ∀ content sequence plain,
            Protection.firstGenuine ⟨body.suite, keys.server⟩ (Connecting.arrivals closings)
              = some (content, sequence, plain) →
            ¬ (content = .handshake
              ∧ plain = hmac keys.server.finished (utf8 "server finished" ++ transcript)) →
            ∃ error, (Connecting.course terms link entropy events).1 = .failed error := by
  refine ⟨fun server link hello raw entropy datagrams => ⟨fun session haccept => ?_,
    ServerHandshake.greeting_of_accept, ?_⟩, fun terms link entropy events peer => ⟨?_, ?_⟩⟩
  · obtain ⟨suite, random, secret, sequence, record, hanswered, hfirst, hsent, hopens⟩ :=
      ServerHandshake.answered_of_accept haccept
    exact ⟨suite, random, secret, sequence, record, hanswered, hfirst, hsent, hopens⟩
  · intro suite random secret hanswered transcript keys content sequence plain hfirst hother
    exact ServerHandshake.failed_of_accept hanswered hfirst hother
  · intro session hestablished
    obtain ⟨node, hello, body, closings, sequence, htook, hfirst⟩ :=
      Connecting.took_of_established hestablished
    exact ⟨node, hello, body, closings, sequence, htook, hfirst⟩
  · intro node hello body closings htook transcript keys content sequence plain hfirst hother
    exact Connecting.failed_of_took htook hfirst hother

-- ========================================================== an honest meeting

namespace Meeting

variable {meeting : Meeting}

theorem alert_fits : Session.closeNotice.length ≤ maxRecordContent := by decide

/-- A closing code fits into a record. -/
theorem code_fits (meeting : Meeting) (role : Role) :
    (finishedCode meeting.keys role meeting.transcript).length ≤ maxRecordContent := by
  rw [finishedCode, length_hmac]
  decide

/-- A record that only the given side can have made. -/
theorem exists_genuine (meeting : Meeting) (role : Role) (content : ContentType) {plain : Bytes}
    (hfits : plain.length ≤ maxRecordContent) :
    ∃ record, (meeting.wait role.peer).session.incoming.openRecord record
      = .ok (content, 0, plain) := by
  obtain ⟨record, hsent⟩ := @Session.sendRecord_of_up (meeting.wait role).session rfl rfl content
    plain hfits
  refine ⟨record, ?_⟩
  have hopens := Session.openRecord_of_sendRecord (congrArg Prod.fst hsent)
  cases role with
  | client => exact hopens
  | server => exact hopens

namespace Honest

variable (honest : meeting.Honest)
include honest

/-- The node between the request for a cookie and the server hello. -/
theorem course_greetings (rest : Entropy) :
    Connecting.course meeting.terms .up (meeting.node.stream rest)
        [.arrive meeting.network.server
          (Listener.verifyRequest meeting.listener.cookies meeting.network.node)]
      = (.greeting meeting.greeted,
        [meeting.helloDatagram none, meeting.helloDatagram (some meeting.cookie)]) := by
  have hact : (Connecting.greeting (meeting.greeting none (meeting.helloDatagram none))).act
      (.arrive meeting.network.server
        (Listener.verifyRequest meeting.listener.cookies meeting.network.node))
      = (.greeting meeting.greeted, some (meeting.helloDatagram (some meeting.cookie))) :=
    honest.arrive_verifyRequest _
  unfold Connecting.course
  rw [honest.start_eq]
  simp only [Connecting.run, hact]
  rfl

/-- The node takes the server hello, whatever is to come. -/
theorem took (rest : Entropy) (closings : List Connecting.Event) :
    Connecting.Took meeting.terms .up (meeting.node.stream rest)
      (.arrive meeting.network.server
          (Listener.verifyRequest meeting.listener.cookies meeting.network.node)
        :: .arrive meeting.network.path meeting.serverHelloDatagram :: closings)
      meeting.network.path meeting.greeted meeting.serverHello meeting.body closings where
  arrived := by
    have hrequest : HandshakeMessage.ofDatagram?
        (Listener.verifyRequest meeting.listener.cookies meeting.network.node)
        = some (.helloVerifyRequest ⟨meeting.cookie⟩,
          Listener.verifyRequest meeting.listener.cookies meeting.network.node) :=
      HandshakeMessage.ofDatagram?_encode
        (HandshakeMessage.length_helloVerifyRequest_le (CookieJar.length_issue ..))
    have hgreetings := honest.course_greetings rest
    refine ⟨[.arrive meeting.network.server
      (Listener.verifyRequest meeting.listener.cookies meeting.network.node)],
      meeting.serverHelloDatagram, meeting.serverHelloDatagram, rfl,
      HandshakeMessage.ofDatagram?_encode honest.serverHelloShort, ?_, ?_, meeting.cookie, _, _,
      rfl, List.mem_singleton_self _, hrequest⟩
    · rw [hgreetings]
    · rw [hgreetings]
      rfl
  terms := rfl
  vouched := Greeting.vouched_of_check rfl honest.check_eq honest.contributory

/-- Both sides wait under the same keys. -/
theorem unconfirmed_eq :
    meeting.listener.handshake.unconfirmed .up (meeting.hello (some meeting.cookie))
        (meeting.helloDatagram (some meeting.cookie)) meeting.suite meeting.server.random
        meeting.server.secret = meeting.wait .server := by
  have hshared : X25519.exchange meeting.server.secret
      (meeting.hello (some meeting.cookie)).publicKey = meeting.shared := honest.exchanged
  unfold ServerHandshake.unconfirmed
  rw [hshared]
  rfl

/-- The attempt answers the hello with the cookie. -/
theorem answered (rest : Entropy) :
    meeting.listener.handshake.Answered .up (meeting.hello (some meeting.cookie))
      (meeting.helloDatagram (some meeting.cookie)) (meeting.server.stream rest) meeting.suite
      meeting.server.random meeting.server.secret := by
  unfold ServerHandshake.Answered
  rw [honest.answer_eq rest, honest.unconfirmed_eq]
  exact ⟨rfl, rfl⟩

/-- The node's closing code makes the controller's session. -/
theorem accept_finished (rest : Entropy) {finished : Bytes}
    (hopens : (meeting.wait .server).session.incoming.openRecord finished = .ok (.handshake, 0,
      finishedCode meeting.keys .client meeting.transcript)) :
    (meeting.listener.handshake.accept .up (meeting.hello (some meeting.cookie))
        (meeting.helloDatagram (some meeting.cookie)) (meeting.server.stream rest) [finished]).1
      = some (.ok (meeting.session .server)) := by
  obtain ⟨closing, hclosing, -⟩ := @Unconfirmed.exists_sendFinished (meeting.wait .server)
    { (meeting.wait .server).session with window := ReplayWindow.empty.mark 0 } rfl rfl
  have hconclude : (meeting.wait .server).conclude
      { (meeting.wait .server).session with window := ReplayWindow.empty.mark 0 }
      = .established (meeting.session .server) (some closing) := by
    unfold Unconfirmed.conclude
    simp only [hclosing]
    rfl
  have htake : (meeting.wait .server).take finished
      = .established (meeting.session .server) (some closing) :=
    (Unconfirmed.take_of_finished rfl rfl hopens).trans hconclude
  rw [ServerHandshake.accept_eq (honest.answered rest), honest.unconfirmed_eq, Unconfirmed.takeAll,
    htake]

/-- The controller's closing code makes the node's session. -/
theorem course_finished (rest : Entropy) {finished : Bytes}
    (hopens : (meeting.wait .client).session.incoming.openRecord finished = .ok (.handshake, 0,
      finishedCode meeting.keys .server meeting.transcript)) :
    (Connecting.course meeting.terms .up (meeting.node.stream rest)
      [.arrive meeting.network.server
          (Listener.verifyRequest meeting.listener.cookies meeting.network.node),
        .arrive meeting.network.path meeting.serverHelloDatagram,
        .arrive meeting.network.path finished]).1
      = .established meeting.network.path (meeting.session .client) := by
  obtain ⟨closing, hserverHello, -⟩ := honest.arrive_serverHello
  have hsplit := Connecting.course_append meeting.terms .up (meeting.node.stream rest)
    [.arrive meeting.network.server
      (Listener.verifyRequest meeting.listener.cookies meeting.network.node)]
    [.arrive meeting.network.path meeting.serverHelloDatagram,
      .arrive meeting.network.path finished]
  rw [honest.course_greetings] at hsplit
  refine hsplit.trans ?_
  have htaken : (Connecting.greeting meeting.greeted).act
      (.arrive meeting.network.path meeting.serverHelloDatagram)
      = (meeting.confirming, some closing) := hserverHello
  have hdone : meeting.confirming.act (.arrive meeting.network.path finished)
      = (.established meeting.network.path (meeting.session .client), none) :=
    arrive_finished hopens meeting.network.path
  simp only [Connecting.run, htaken, hdone]

end Honest

/-- At an honest meeting the closing codes make both sessions, and alerts in
their place neither. -/
theorem finished_decides_in_example :
    let controller := exampleMeeting.listener.handshake.accept .up
      (exampleMeeting.hello (some exampleMeeting.cookie))
      (exampleMeeting.helloDatagram (some exampleMeeting.cookie)) (exampleMeeting.server.stream [])
    let course := fun closings => Connecting.course exampleMeeting.terms .up
      (exampleMeeting.node.stream []) (.arrive exampleMeeting.network.server
          (Listener.verifyRequest exampleMeeting.listener.cookies exampleMeeting.network.node)
        :: .arrive exampleMeeting.network.path exampleMeeting.serverHelloDatagram :: closings)
    (∃ finished suite keys sequence code,
        (controller [finished]).1 = some (.ok (exampleMeeting.session .server))
          ∧ Protection.firstGenuine ⟨suite, keys⟩ [finished] = some (.handshake, sequence, code))
      ∧ (∃ alert error, (controller [alert]).1 = some (.error error))
      ∧ (∃ finished closings suite keys sequence code,
        (course [.arrive exampleMeeting.network.path finished]).1
            = .established exampleMeeting.network.path (exampleMeeting.session .client)
          ∧ Protection.firstGenuine ⟨suite, keys⟩ (Connecting.arrivals closings)
            = some (.handshake, sequence, code))
      ∧ ∃ alert error,
        (course [.arrive exampleMeeting.network.path alert]).1 = .failed error := by
  have honest := honest_exampleMeeting
  generalize exampleMeeting = meeting at honest ⊢
  intro controller course
  obtain ⟨hcontroller, hnode⟩ := no_session_without_finished
  refine ⟨?_, ?_, ?_, ?_⟩
  · obtain ⟨finished, -, hopens⟩ := honest.arrive_serverHello
    have haccept := honest.accept_finished [] hopens
    obtain ⟨suite, random, secret, sequence, record, -, hfirst, -⟩ :=
      (hcontroller _ _ _ _ _ [finished]).1 _ haccept
    exact ⟨finished, suite, _, sequence, _, haccept, hfirst⟩
  · obtain ⟨alert, hopens⟩ := meeting.exists_genuine .client .alert alert_fits
    have hfirst : (meeting.listener.handshake.unconfirmed .up
        (meeting.hello (some meeting.cookie)) (meeting.helloDatagram (some meeting.cookie))
        meeting.suite meeting.server.random
        meeting.server.secret).session.incoming.firstGenuine [alert]
          = some (.alert, 0, Session.closeNotice) := by
      rw [honest.unconfirmed_eq]
      exact Protection.firstGenuine_of_ok hopens []
    obtain ⟨error, hfailed⟩ := (hcontroller _ _ _ _ _ [alert]).2.2 _ _ _ (honest.answered [])
      .alert 0 Session.closeNotice hfirst (fun hcloses => nomatch hcloses.1)
    exact ⟨alert, error, hfailed⟩
  · obtain ⟨finished, hopens⟩ := meeting.exists_genuine .server .handshake
      (meeting.code_fits .server)
    have hestablished := honest.course_finished [] hopens
    obtain ⟨node, hello, body, closings, sequence, -, hfirst⟩ :=
      (hnode _ _ _ _ _).1 _ hestablished
    exact ⟨finished, closings, _, _, sequence, _, hestablished, hfirst⟩
  · obtain ⟨alert, hopens⟩ := meeting.exists_genuine .server .alert alert_fits
    have hfirst : (meeting.greeted.closing meeting.serverHello
        meeting.body).session.incoming.firstGenuine
          (Connecting.arrivals [.arrive meeting.network.path alert])
        = some (.alert, 0, Session.closeNotice) :=
      Protection.firstGenuine_of_ok hopens []
    obtain ⟨error, hfailed⟩ := (hnode _ _ _ _ _).2 _ _ _ _
      (honest.took [] [.arrive meeting.network.path alert]) .alert 0 Session.closeNotice hfirst
      (fun hcloses => nomatch hcloses.1)
    exact ⟨alert, error, hfailed⟩

end Meeting

end Luminaire
