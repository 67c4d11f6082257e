/-
The course of a node's handshake, whatever is delivered to it.

A node greets, takes a server hello and waits for the closing code. While
it greets, an event leaves it greeting, ends it, or is a server hello that
has passed every check (`Turn`); which checks these are is said once
(`Vouched`). So a course that has come out of the greetings did so over
such a hello (`run_greeting`), and from there on the first genuine record
decides (`run_confirming`).

Along the greetings the node keeps what it was given, holds the last
hello that left, and a cookie only if it was asked for it by the server
(`Since`).
-/
import Luminaire.Handshake.Client
import Luminaire.Proofs.Handshake.Decision

namespace Luminaire

namespace Connecting

-- ============================================================== courses

/-- What can happen to a node that connects. -/
inductive Event where
  | arrive (peer : SocketAddress) (datagram : Bytes)
  /-- A wait ran out. -/
  | expire
  deriving DecidableEq, Repr

/-- One event. The second part is what leaves in answer. -/
def act (connecting : Connecting) : Event → Connecting × Option Bytes
  | .arrive peer datagram => connecting.arrive peer datagram
  | .expire => connecting.expire

/-- Events in order, with everything that leaves. -/
def run (connecting : Connecting) : List Event → Connecting × List Bytes
  | [] => (connecting, [])
  | event :: events =>
      (((connecting.act event).1.run events).1,
        (connecting.act event).2.toList ++ ((connecting.act event).1.run events).2)

/-- A whole attempt from the first hello on, with everything that leaves. -/
def course (terms : ConnectTerms) (link : Link) (entropy : Entropy) (events : List Event) :
    Connecting × List Bytes :=
  let begun := (start terms link entropy).1
  ((begun.1.run events).1, begun.2.toList ++ (begun.1.run events).2)

/-- What has been delivered, in order. -/
def arrivals (events : List Event) : List Bytes :=
  events.filterMap fun
    | .arrive _ datagram => some datagram
    | .expire => none

variable {connecting : Connecting} {events : List Event}

theorem run_append (connecting : Connecting) (before after : List Event) :
    connecting.run (before ++ after)
      = (((connecting.run before).1.run after).1,
        (connecting.run before).2 ++ ((connecting.run before).1.run after).2) := by
  induction before generalizing connecting with
  | nil => rfl
  | cons event before ih =>
      rw [List.cons_append, run, run, ih]
      simp only [List.append_assoc]

/-- Nothing happens to a node that is done. -/
theorem run_of_isOver (hover : connecting.isOver = true) (events : List Event) :
    connecting.run events = (connecting, []) := by
  have hact : ∀ event, connecting.act event = (connecting, none) := by
    intro event
    cases connecting with
    | greeting node => cases hover
    | confirming address unconfirmed => cases hover
    | _ => cases event <;> rfl
  induction events with
  | nil => rfl
  | cons event events ih =>
      rw [run, hact event]
      simp only [ih]
      rfl

-- ================================================ waiting for the code

variable {address : SocketAddress} {unconfirmed : Unconfirmed}

/-- A node that waits goes on waiting until a record opens, and that record
decides. -/
theorem run_confirming (address : SocketAddress) (hfresh : unconfirmed.Fresh)
    (events : List Event) :
    ((Connecting.confirming address unconfirmed).run events).1 = .confirming address unconfirmed
      ∧ unconfirmed.session.incoming.firstGenuine (arrivals events) = none
    ∨ (∃ error, ((Connecting.confirming address unconfirmed).run events).1 = .failed error)
    ∨ ∃ session sequence,
        ((Connecting.confirming address unconfirmed).run events).1 = .established address session
          ∧ unconfirmed.session.incoming.firstGenuine (arrivals events)
            = some (.handshake, sequence, unconfirmed.code) := by
  induction events with
  | nil => exact .inl ⟨rfl, rfl⟩
  | cons event events ih =>
      cases event with
      | expire =>
          refine .inr (.inl ⟨unconfirmed.expire, ?_⟩)
          show ((Connecting.failed unconfirmed.expire).run events).1 = _
          rw [run_of_isOver rfl]
      | arrive peer datagram =>
          have harrivals : arrivals (.arrive peer datagram :: events)
              = datagram :: arrivals events := rfl
          rw [harrivals]
          cases hrecord : unconfirmed.session.incoming.openRecord datagram with
          | error fault =>
              have htake := Unconfirmed.take_of_ignores hfresh.isOpen
                (fun opened hopened => by rw [hrecord] at hopened; cases hopened)
              have hact : (Connecting.confirming address unconfirmed).act (.arrive peer datagram)
                  = (.confirming address unconfirmed, none) := by
                unfold act arrive
                simp only [htake]
              rw [run, hact, Protection.firstGenuine_of_error hrecord]
              exact ih
          | ok opened =>
              obtain ⟨content, sequence, plain⟩ := opened
              have htake := Unconfirmed.take_of_genuine hfresh hrecord
              rw [Protection.firstGenuine_of_ok hrecord]
              rcases unconfirmed.judge_cases content sequence plain with
                ⟨session, sent, hjudge⟩ | ⟨error, hjudge⟩
              · have hact : (Connecting.confirming address unconfirmed).act
                    (.arrive peer datagram) = (.established address session, sent) := by
                  unfold act arrive
                  simp only [htake, hjudge]
                obtain ⟨⟨rfl, rfl⟩, -⟩ := Unconfirmed.closes_of_judge hjudge
                refine .inr (.inr ⟨session, sequence, ?_, rfl⟩)
                rw [run, hact, run_of_isOver rfl]
              · have hact : (Connecting.confirming address unconfirmed).act
                    (.arrive peer datagram) = (.failed error, none) := by
                  unfold act arrive
                  simp only [htake, hjudge]
                refine .inr (.inl ⟨error, ?_⟩)
                rw [run, hact, run_of_isOver rfl]

end Connecting

-- ============================================================ greetings

namespace Greeting

variable {node next : Greeting} {hello : ServerHello} {body : ServerHelloBody}

/-- A server hello that a node takes: the node holds a cookie, and the body
decodes, has the right version, an offered suite and fields of the right
lengths, is signed under the pinned key together with the hello it answers, and
leads to a secret that is not the zero point. -/
structure Vouched (node : Greeting) (hello : ServerHello) (body : ServerHelloBody) : Prop where
  cookie : node.cookie.isSome = true
  decodes : Cbor.decode? (α := ServerHelloBody) hello.body = some body
  version : body.version = handshakeVersion
  offered : body.suite ∈ node.terms.suites
  random : body.random.length = randomLength
  share : body.publicKey.length = shareLength
  signed : ∀ key, node.terms.pinned = some key →
    Ed25519.verifies key (transcriptHash node.raw hello.body) hello.signature = true
  contributory : X25519.contributory (X25519.exchange node.secret body.publicKey) = true

/-- The wait behind a server hello, once the node has sent its own code. -/
def closing (node : Greeting) (hello : ServerHello) (body : ServerHelloBody) : Unconfirmed :=
  { node.unconfirmed hello body with
    session := { (node.unconfirmed hello body).session with nextSequence := 1 } }

theorem fresh_closing (node : Greeting) (hello : ServerHello) (body : ServerHelloBody) :
    (node.closing hello body).Fresh :=
  ⟨rfl, rfl⟩

/-- A server hello that is taken has passed every check. -/
theorem vouched_of_check (hcookie : node.cookie.isSome = true)
    (hcheck : node.check hello = .ok body)
    (hcontributory : X25519.contributory (X25519.exchange node.secret body.publicKey) = true) :
    node.Vouched hello body := by
  obtain ⟨hdecodes, hversion, hoffered, hrandom, hshare, hsigned⟩ := check_eq_ok_iff.1 hcheck
  exact ⟨hcookie, hdecodes, hversion, hoffered, hrandom, hshare, hsigned, hcontributory⟩

/-- A server hello that passes every check is found good. -/
theorem Vouched.check_eq (hvouched : node.Vouched hello body) : node.check hello = .ok body :=
  check_eq_ok_iff.2 ⟨hvouched.decodes, hvouched.version, hvouched.offered, hvouched.random,
    hvouched.share, hvouched.signed⟩

-- ============================================================== turns

/-- What is left of a node after events that left it greeting. -/
structure Since (node : Greeting) (events : List Connecting.Event) (sent : List Bytes)
    (next : Greeting) : Prop where
  terms : next.terms = node.terms
  /-- The last hello that left. -/
  raw : next.raw = sent.getLast?.getD node.raw
  /-- Only the server's request brings a cookie. -/
  cookie : next.cookie = node.cookie ∨ ∃ cookie datagram raw,
    .arrive node.terms.server datagram ∈ events
      ∧ HandshakeMessage.ofDatagram? datagram = some (.helloVerifyRequest ⟨cookie⟩, raw)
      ∧ next.cookie = some cookie

theorem Since.refl (node : Greeting) : node.Since [] [] node := ⟨rfl, rfl, .inl rfl⟩

theorem Since.trans {middle : Greeting} {before after : List Connecting.Event}
    {sent more : List Bytes} (hbefore : node.Since before sent middle)
    (hafter : middle.Since after more next) :
    node.Since (before ++ after) (sent ++ more) next := by
  refine ⟨hafter.terms.trans hbefore.terms, ?_, ?_⟩
  · rw [hafter.raw, hbefore.raw, List.getLast?_append]
    cases more.getLast? with
    | none => rfl
    | some last => rfl
  · rcases hafter.cookie with hsame | ⟨cookie, datagram, raw, harrived, hmessage, hcookie⟩
    · rcases hbefore.cookie with hnone | ⟨cookie, datagram, raw, harrived, hmessage, hcookie⟩
      · exact .inl (hsame.trans hnone)
      · exact .inr ⟨cookie, datagram, raw, List.mem_append_left _ harrived, hmessage,
          hsame.trans hcookie⟩
    · rw [hbefore.terms] at harrived
      exact .inr ⟨cookie, datagram, raw, List.mem_append_right _ harrived, hmessage, hcookie⟩

/-- What an event does to a node that greets. -/
inductive Turn (node : Greeting) : Connecting.Event → Connecting × Option Bytes → Prop where
  | greets {event : Connecting.Event} {next : Greeting} {sent : Option Bytes}
      (hsince : node.Since [event] sent.toList next) : Turn node event (.greeting next, sent)
  | lost {event : Connecting.Event} {error : HandshakeError} :
      Turn node event (.failed error, none)
  /-- It was a server hello that the node takes. -/
  | taken {peer : SocketAddress} {datagram raw record : Bytes} {hello : ServerHello}
      {body : ServerHelloBody}
      (hmessage : HandshakeMessage.ofDatagram? datagram = some (.serverHello hello, raw))
      (hvouched : node.Vouched hello body) :
      Turn node (.arrive peer datagram) (.confirming peer (node.closing hello body), some record)

/-- A hello leaves, or the path refuses it. -/
theorem greet_cases (node : Greeting) :
    (∃ raw, node.greet = (.greeting { node with raw }, some raw))
      ∨ node.greet = (.failed .transport, none) := by
  unfold greet
  simp only
  split
  · exact .inl ⟨_, rfl⟩
  · exact .inr rfl

/-- Greeting again is a turn, if the cookie is as it has to be. -/
theorem turn_greet {event : Connecting.Event} (hterms : next.terms = node.terms)
    (hcookie : next.cookie = node.cookie ∨ ∃ cookie datagram raw,
      .arrive node.terms.server datagram ∈ [event]
        ∧ HandshakeMessage.ofDatagram? datagram = some (.helloVerifyRequest ⟨cookie⟩, raw)
        ∧ next.cookie = some cookie) :
    node.Turn event next.greet := by
  rcases next.greet_cases with ⟨raw, hgreet⟩ | hgreet
  · rw [hgreet]
    exact .greets ⟨hterms, rfl, hcookie⟩
  · rw [hgreet]
    exact .lost

/-- A server hello with nothing against it is taken, or the path refuses the
closing code. -/
theorem accept_cases (hcheck : node.check hello = .ok body)
    (hcontributory : X25519.contributory (X25519.exchange node.secret body.publicKey) = true)
    (peer : SocketAddress) :
    (∃ record, node.accept peer hello
        = (.confirming peer (node.closing hello body), some record))
      ∨ node.accept peer hello = (.failed .transport, none) := by
  have hafter := @Unconfirmed.sendFinished_snd (node.unconfirmed hello body)
    (node.unconfirmed hello body).session rfl
  unfold accept
  simp only [hcheck, hcontributory, Bool.not_true, Bool.false_eq_true, if_false]
  cases hsent : (node.unconfirmed hello body).sendFinished
      (node.unconfirmed hello body).session with
  | mk outcome after =>
      rw [hsent] at hafter
      cases outcome with
      | error fault => exact .inr rfl
      | ok record =>
          refine .inl ⟨record, ?_⟩
          simp only
          rw [show after = _ from hafter]
          rfl

/-- A server hello is taken, or ends the attempt. -/
theorem turn_accept {peer : SocketAddress} {datagram raw : Bytes}
    (hmessage : HandshakeMessage.ofDatagram? datagram = some (.serverHello hello, raw))
    (hcookie : node.cookie.isSome = true) :
    node.Turn (.arrive peer datagram) (node.accept peer hello) := by
  cases hcheck : node.check hello with
  | error fault =>
      have haccept : node.accept peer hello = (.failed fault, none) := by
        unfold accept
        simp only [hcheck]
      rw [haccept]
      exact .lost
  | ok body =>
      cases hcontributory : X25519.contributory (X25519.exchange node.secret body.publicKey) with
      | false =>
          have haccept : node.accept peer hello
              = (.failed (.authentication (.share .server)), none) := by
            unfold accept
            simp only [hcheck, hcontributory, Bool.not_false, if_true]
          rw [haccept]
          exact .lost
      | true =>
          rcases accept_cases hcheck hcontributory peer with ⟨record, haccept⟩ | haccept
          · rw [haccept]
            exact .taken hmessage (vouched_of_check hcookie hcheck hcontributory)
          · rw [haccept]
            exact .lost

/-- Whatever happens to a node that greets is a turn. -/
theorem turn_act (node : Greeting) (event : Connecting.Event) :
    node.Turn event ((Connecting.greeting node).act event) := by
  cases event with
  | expire =>
      show node.Turn .expire (Connecting.expire (.greeting node))
      unfold Connecting.expire
      simp only
      split
      · exact .lost
      · exact turn_greet rfl (.inl rfl)
  | arrive peer datagram =>
      show node.Turn _ (Connecting.arrive (.greeting node) peer datagram)
      unfold Connecting.arrive
      cases hmessage : HandshakeMessage.ofDatagram? datagram with
      | none => exact .greets ⟨rfl, rfl, .inl rfl⟩
      | some found =>
          obtain ⟨message, raw⟩ := found
          simp only
          cases message with
          | clientHello hello => exact turn_greet rfl (.inl rfl)
          | helloVerifyRequest request =>
              unfold take
              simp only
              split
              next hserver =>
                subst hserver
                exact turn_greet rfl (.inr ⟨request.cookie, datagram, raw,
                  List.mem_singleton_self _, hmessage, rfl⟩)
              · exact turn_greet rfl (.inl rfl)
          | serverHello hello =>
              unfold take
              simp only
              split
              next hcookie => exact turn_accept hmessage hcookie
              · exact turn_greet rfl (.inl rfl)

/-- A server hello that passes every check is taken, or the path refuses the
closing code. -/
theorem Vouched.act_cases (hvouched : node.Vouched hello body) {datagram raw : Bytes}
    (hmessage : HandshakeMessage.ofDatagram? datagram = some (.serverHello hello, raw))
    (peer : SocketAddress) :
    ((Connecting.greeting node).act (.arrive peer datagram)).1
        = .confirming peer (node.closing hello body)
      ∨ ((Connecting.greeting node).act (.arrive peer datagram)).1 = .failed .transport := by
  have hact : (Connecting.greeting node).act (.arrive peer datagram) = node.accept peer hello := by
    show Connecting.arrive (.greeting node) peer datagram = _
    unfold Connecting.arrive
    simp only [hmessage]
    unfold take
    simp only [hvouched.cookie, if_true]
  rw [hact]
  rcases accept_cases hvouched.check_eq hvouched.contributory peer with ⟨record, haccept⟩ | haccept
  · rw [haccept]
    exact .inl rfl
  · rw [haccept]
    exact .inr rfl

-- ==================================================== the whole course

/-- How a run of a node that greets goes on: it still greets, it has been lost,
or it has taken a server hello and waits. -/
theorem run_greeting (node : Greeting) (events : List Connecting.Event) :
    (∃ next sent, (Connecting.greeting node).run events = (.greeting next, sent)
        ∧ node.Since events sent next)
      ∨ (∃ error, ((Connecting.greeting node).run events).1 = .failed error)
      ∨ ∃ greetings peer datagram closings next sent hello raw body,
          events = greetings ++ .arrive peer datagram :: closings
            ∧ (Connecting.greeting node).run greetings = (.greeting next, sent)
            ∧ node.Since greetings sent next
            ∧ HandshakeMessage.ofDatagram? datagram = some (.serverHello hello, raw)
            ∧ next.Vouched hello body
            ∧ ((Connecting.greeting node).run events).1
              = ((Connecting.confirming peer (next.closing hello body)).run closings).1 := by
  induction events generalizing node with
  | nil => exact .inl ⟨node, [], rfl, .refl node⟩
  | cons event events ih =>
      have hturn := node.turn_act event
      generalize hact : (Connecting.greeting node).act event = outcome at hturn
      cases hturn with
      | @greets event middle first hsince =>
          have hrun : (Connecting.greeting node).run (event :: events)
              = (((Connecting.greeting middle).run events).1,
                first.toList ++ ((Connecting.greeting middle).run events).2) := by
            rw [Connecting.run, hact]
          rcases ih middle with ⟨next, sent, hsame, hrest⟩ | ⟨error, hlost⟩
            | ⟨greetings, peer, datagram, closings, next, sent, hello, raw, body, rfl, hsame,
                hrest, hmessage, hvouched, hcourse⟩
          · refine .inl ⟨next, first.toList ++ sent, ?_, hsince.trans hrest⟩
            rw [hrun, hsame]
          · refine .inr (.inl ⟨error, ?_⟩)
            rw [hrun]
            exact hlost
          · refine .inr (.inr ⟨event :: greetings, peer, datagram, closings, next,
              first.toList ++ sent, hello, raw, body, rfl, ?_, hsince.trans hrest, hmessage,
              hvouched, ?_⟩)
            · rw [Connecting.run, hact, hsame]
            · rw [hrun]
              exact hcourse
      | @lost event error =>
          refine .inr (.inl ⟨error, ?_⟩)
          rw [Connecting.run, hact, Connecting.run_of_isOver rfl]
      | @taken peer datagram raw record hello body hmessage hvouched =>
          refine .inr (.inr ⟨[], peer, datagram, events, node, [], hello, raw, body, rfl, rfl,
            .refl node, hmessage, hvouched, ?_⟩)
          rw [Connecting.run, hact]

end Greeting

namespace Connecting

variable {terms : ConnectTerms} {link : Link} {entropy : Entropy}

/-- An attempt begins with a hello that has left, or is over. -/
theorem start_cases (terms : ConnectTerms) (link : Link) (entropy : Entropy) :
    (∃ node, (start terms link entropy).1 = (.greeting node, some node.raw)
        ∧ node.terms = terms ∧ node.cookie = none)
      ∨ (∃ error, (start terms link entropy).1.1 = .failed error)
      ∨ (start terms link entropy).1.1 = .crashed := by
  unfold start
  split
  · exact .inr (.inl ⟨_, rfl⟩)
  · split
    · exact .inr (.inl ⟨_, rfl⟩)
    · split
      · exact .inr (.inr rfl)
      next random _ _ _ secret _ _ =>
        rcases Greeting.greet_cases ⟨terms, link, random, secret, none, 0, []⟩ with
          ⟨raw, hgreet⟩ | hgreet
        · rw [hgreet]
          exact .inl ⟨_, rfl, rfl, rfl⟩
        · rw [hgreet]
          exact .inr (.inl ⟨_, rfl⟩)

theorem course_append (terms : ConnectTerms) (link : Link) (entropy : Entropy)
    (before after : List Event) :
    (course terms link entropy (before ++ after)).1
      = ((course terms link entropy before).1.run after).1 := by
  show ((start terms link entropy).1.1.run (before ++ after)).1 = _
  rw [run_append]
  rfl

/-- The attempt has taken a server hello from `peer`: it was greeting, with a
cookie that the server had asked it for, and the hello answers the last
datagram that had left. The rest has happened since. -/
structure Took (terms : ConnectTerms) (link : Link) (entropy : Entropy) (events : List Event)
    (peer : SocketAddress) (node : Greeting) (hello : ServerHello) (body : ServerHelloBody)
    (closings : List Event) : Prop where
  arrived : ∃ greetings datagram raw, events = greetings ++ .arrive peer datagram :: closings
    ∧ HandshakeMessage.ofDatagram? datagram = some (.serverHello hello, raw)
    ∧ (course terms link entropy greetings).1 = .greeting node
    ∧ (course terms link entropy greetings).2.getLast? = some node.raw
    ∧ ∃ cookie request rest, node.cookie = some cookie
      ∧ .arrive terms.server request ∈ greetings
      ∧ HandshakeMessage.ofDatagram? request = some (.helloVerifyRequest ⟨cookie⟩, rest)
  terms : node.terms = terms
  vouched : node.Vouched hello body

/-- A course that neither greets nor has been lost has taken a server hello, and
is what has come of the wait behind it. -/
theorem course_cases (terms : ConnectTerms) (link : Link) (entropy : Entropy)
    (events : List Event) :
    (∃ node, (course terms link entropy events).1 = .greeting node)
      ∨ (∃ error, (course terms link entropy events).1 = .failed error)
      ∨ (course terms link entropy events).1 = .crashed
      ∨ ∃ peer node hello body closings,
          Took terms link entropy events peer node hello body closings
            ∧ (course terms link entropy events).1
              = ((Connecting.confirming peer (node.closing hello body)).run closings).1 := by
  have hcourse : ∀ events, course terms link entropy events
      = (((start terms link entropy).1.1.run events).1,
        (start terms link entropy).1.2.toList ++ ((start terms link entropy).1.1.run events).2) :=
    fun _ => rfl
  rcases start_cases terms link entropy with ⟨node, hstart, hterms, hnone⟩ | ⟨error, hlost⟩
    | hcrashed
  · rcases node.run_greeting events with ⟨next, sent, hrun, -⟩ | ⟨error, hrun⟩
      | ⟨greetings, peer, datagram, closings, next, sent, hello, raw, body, hevents, hrun, hsince,
          hmessage, hvouched, hrest⟩
    · refine .inl ⟨next, ?_⟩
      rw [hcourse, hstart, hrun]
    · refine .inr (.inl ⟨error, ?_⟩)
      rw [hcourse, hstart]
      exact hrun
    · refine .inr (.inr (.inr ⟨peer, next, hello, body, closings, ⟨⟨greetings, datagram, raw,
        hevents, hmessage, ?_, ?_, ?_⟩, hsince.terms.trans hterms, hvouched⟩, ?_⟩))
      · rw [hcourse, hstart, hrun]
      · rw [hcourse, hstart, hrun, hsince.raw]
        show ([node.raw] ++ sent).getLast? = _
        rw [List.getLast?_append]
        cases sent.getLast? with
        | none => rfl
        | some last => rfl
      · rcases hsince.cookie with hsame | ⟨cookie, request, rest, harrived, hrequest, hcookie⟩
        · have hsome := hvouched.cookie
          rw [hsame, hnone] at hsome
          cases hsome
        · rw [hterms] at harrived
          exact ⟨cookie, request, rest, hcookie, harrived, hrequest⟩
      · rw [hcourse, hstart]
        exact hrest
  · refine .inr (.inl ⟨error, ?_⟩)
    rw [hcourse, hlost, run_of_isOver rfl]
  · refine .inr (.inr (.inl ?_))
    rw [hcourse, hcrashed, run_of_isOver rfl]

/-- A node has its session only behind the controller's closing code. -/
theorem took_of_established {events : List Event} {peer : SocketAddress} {session : Session}
    (hestablished : (course terms link entropy events).1 = .established peer session) :
    ∃ node hello body closings sequence,
      Took terms link entropy events peer node hello body closings
        ∧ (node.closing hello body).session.incoming.firstGenuine (arrivals closings)
          = some (.handshake, sequence, (node.closing hello body).code) := by
  rcases course_cases terms link entropy events with ⟨node, hgreeting⟩ | ⟨error, hlost⟩ | hcrashed
    | ⟨address, node, hello, body, closings, htook, hrun⟩
  · rw [hgreeting] at hestablished
    cases hestablished
  · rw [hlost] at hestablished
    cases hestablished
  · rw [hcrashed] at hestablished
    cases hestablished
  · rw [hrun] at hestablished
    rcases run_confirming address (node.fresh_closing hello body) closings with ⟨hwaits, -⟩
      | ⟨error, hlost⟩ | ⟨after, sequence, hdone, hfirst⟩
    · rw [hwaits] at hestablished
      cases hestablished
    · rw [hlost] at hestablished
      cases hestablished
    · rw [hdone] at hestablished
      cases hestablished
      exact ⟨node, hello, body, closings, sequence, htook, hfirst⟩

/-- A node that has taken a server hello is lost over any other genuine record. -/
theorem failed_of_took {events closings : List Event} {peer : SocketAddress} {node : Greeting}
    {hello : ServerHello} {body : ServerHelloBody}
    (htook : Took terms link entropy events peer node hello body closings)
    {content : ContentType} {sequence : UInt64} {plain : Bytes}
    (hfirst : (node.closing hello body).session.incoming.firstGenuine (arrivals closings)
      = some (content, sequence, plain))
    (hother : ¬ (node.closing hello body).Closes content plain) :
    ∃ error, (course terms link entropy events).1 = .failed error := by
  obtain ⟨greetings, datagram, raw, rfl, hmessage, hgreeting, -, -⟩ := htook.arrived
  rw [course_append, hgreeting, run]
  rcases htook.vouched.act_cases hmessage peer with hact | hact
  · rw [hact]
    rcases run_confirming peer (node.fresh_closing hello body) closings with
      ⟨-, hnone⟩ | hlost | ⟨after, number, -, hdone⟩
    · rw [hnone] at hfirst
      cases hfirst
    · exact hlost
    · rw [hdone] at hfirst
      cases hfirst
      exact absurd ⟨rfl, rfl⟩ hother
  · rw [hact, run_of_isOver rfl]
    exact ⟨.transport, rfl⟩

end Connecting

end Luminaire
