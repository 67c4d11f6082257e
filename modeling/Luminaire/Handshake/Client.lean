/-
The node's half of the handshake.

The node greets, and greets again with the cookie it is asked for, after
every wait that ran out, and after every message it has no use for; a
datagram that is no message at all does not end a wait. Only a server
hello that arrives while it holds a cookie is looked at, and what that
hello says decides: the attempt ends, or the node sends its closing code
and waits for the controller's (`Unconfirmed`).
-/
import Luminaire.Curve.X25519
import Luminaire.Handshake.Confirmation
import Luminaire.Identity
import Luminaire.Net.Address

namespace Luminaire

/-- What a node asks for. -/
structure ConnectTerms where
  server : SocketAddress
  /-- Offered suites; the controller decides. -/
  suites : List CipherSuite
  /-- Waits that may run out before the node gives up. -/
  retries : Nat
  /-- The key the server hello must be signed with; none takes any. -/
  pinned : Option Bytes
  deriving DecidableEq, Repr

/-- A node that waits for an answer to its hello. -/
structure Greeting where
  terms : ConnectTerms
  link : Link
  random : Bytes
  secret : Bytes
  cookie : Option Bytes
  /-- Waits that have run out. -/
  attempts : Nat
  /-- The last hello as it left. -/
  raw : Bytes
  deriving DecidableEq, Repr

/-- How far a node has come. -/
inductive Connecting where
  | greeting (node : Greeting)
  /-- The server hello was good and came from `peer`. -/
  | confirming (peer : SocketAddress) (unconfirmed : Unconfirmed)
  | established (peer : SocketAddress) (session : Session)
  | failed (error : HandshakeError)
  | crashed
  deriving DecidableEq, Repr

namespace Greeting

/-- The hello this node sends. -/
def hello (greeting : Greeting) : ClientHello :=
  ⟨handshakeVersion, greeting.random, greeting.cookie, X25519.share greeting.secret,
    greeting.terms.suites⟩

/-- Sends the hello. -/
def greet (greeting : Greeting) : Connecting × Option Bytes :=
  let datagram := Cbor.encode (HandshakeMessage.clientHello greeting.hello)
  if greeting.link.takes datagram then (.greeting { greeting with raw := datagram }, some datagram)
  else (.failed .transport, none)

/-- The body of a server hello that answers this greeting. -/
def check (greeting : Greeting) (hello : ServerHello) : Except HandshakeError ServerHelloBody :=
  match Cbor.decode? (α := ServerHelloBody) hello.body with
  | none => .error (.protocol .undecodable)
  | some body =>
      if body.version ≠ handshakeVersion then .error (.protocol (.version body.version))
      else if !greeting.terms.suites.contains body.suite then
        .error (.protocol (.unofferedSuite body.suite))
      else if body.random.length ≠ randomLength ∨ body.publicKey.length ≠ shareLength then
        .error (.protocol .serverHelloLength)
      else
        let transcript := transcriptHash greeting.raw hello.body
        if greeting.terms.pinned.all fun key => Ed25519.verifies key transcript hello.signature then
          .ok body
        else .error (.authentication .signature)

/-- What a server hello has to be for its body to be taken: the body decodes, has
the right version, an offered suite and fields of the right lengths, and is signed
under the pinned key together with the hello it answers. -/
theorem check_eq_ok_iff {greeting : Greeting} {hello : ServerHello}
    {body : ServerHelloBody} :
    greeting.check hello = .ok body ↔
      Cbor.decode? (α := ServerHelloBody) hello.body = some body
        ∧ body.version = handshakeVersion
        ∧ body.suite ∈ greeting.terms.suites
        ∧ body.random.length = randomLength
        ∧ body.publicKey.length = shareLength
        ∧ ∀ key, greeting.terms.pinned = some key →
          Ed25519.verifies key (transcriptHash greeting.raw hello.body) hello.signature = true := by
  unfold check
  constructor
  · intro hcheck
    split at hcheck
    · cases hcheck
    next found hdecodes =>
      split at hcheck
      · cases hcheck
      next hversion =>
        split at hcheck
        · cases hcheck
        next hoffered =>
          split at hcheck
          · cases hcheck
          next hlengths =>
            simp only at hcheck
            split at hcheck
            next hsigned =>
              cases hcheck
              obtain ⟨hrandom, hshare⟩ := not_or.1 hlengths
              refine ⟨hdecodes, Decidable.not_not.1 hversion, ?_, Decidable.not_not.1 hrandom,
                Decidable.not_not.1 hshare, ?_⟩
              · simpa using hoffered
              · intro key hkey
                rw [hkey, Option.all_some] at hsigned
                exact hsigned
            · cases hcheck
  · rintro ⟨hdecodes, hversion, hoffered, hrandom, hshare, hsigned⟩
    have hcontains : greeting.terms.suites.contains body.suite = true :=
      List.contains_iff_mem.2 hoffered
    have hlengths : ¬ (body.random.length ≠ randomLength ∨ body.publicKey.length ≠ shareLength) :=
      not_or.2 ⟨not_not_intro hrandom, not_not_intro hshare⟩
    have hall : greeting.terms.pinned.all (fun key =>
        Ed25519.verifies key (transcriptHash greeting.raw hello.body) hello.signature) = true := by
      cases hpinned : greeting.terms.pinned with
      | none => rfl
      | some key => exact hsigned key hpinned
    simp only [hdecodes]
    rw [if_neg (not_not_intro hversion), hcontains, Bool.not_true, if_neg Bool.false_ne_true,
      if_neg hlengths]
    exact if_pos hall

/-- What is waited for behind a good body. -/
def unconfirmed (greeting : Greeting) (hello : ServerHello) (body : ServerHelloBody) :
    Unconfirmed :=
  let keys := SessionKeys.derive (X25519.exchange greeting.secret body.publicKey) greeting.random
    body.random body.suite.name
  { role := .client
    session := .establish greeting.link body.suite .client keys
    keys := keys
    transcript := transcriptHash greeting.raw hello.body }

/-- Takes in a server hello: sends the closing code, or gives up. -/
def accept (greeting : Greeting) (peer : SocketAddress) (hello : ServerHello) :
    Connecting × Option Bytes :=
  match greeting.check hello with
  | .error fault => (.failed fault, none)
  | .ok body =>
      if !X25519.contributory (X25519.exchange greeting.secret body.publicKey) then
        (.failed (.authentication (.share .server)), none)
      else
        let unconfirmed := greeting.unconfirmed hello body
        match unconfirmed.sendFinished unconfirmed.session with
        | (.ok record, session) => (.confirming peer { unconfirmed with session }, some record)
        | (.error _, _) => (.failed .transport, none)

/-- Takes in a message. -/
def take (greeting : Greeting) (peer : SocketAddress) (message : HandshakeMessage) :
    Connecting × Option Bytes :=
  match message with
  | .helloVerifyRequest request =>
      if peer = greeting.terms.server then { greeting with cookie := some request.cookie }.greet
      else greeting.greet
  | .serverHello hello =>
      if greeting.cookie.isSome then greeting.accept peer hello else greeting.greet
  | .clientHello _ => greeting.greet

end Greeting

namespace Connecting

/-- Begins a connection attempt with the first hello. -/
def start (terms : ConnectTerms) (link : Link) (entropy : Entropy) :
    (Connecting × Option Bytes) × Entropy :=
  if terms.suites.isEmpty then ((.failed .noCommonSuite, none), entropy)
  else
    match entropy.draw? randomLength with
    | none => ((.failed (.crypto (.entropy .handshake)), none), entropy)
    | some (random, entropy) =>
        match entropy.draw? 32 with
        | none => ((.crashed, none), entropy)
        | some (secret, entropy) =>
            (Greeting.greet ⟨terms, link, random, secret, none, 0, []⟩, entropy)

/-- A datagram arrived. The second part is what leaves in answer. -/
def arrive (connecting : Connecting) (peer : SocketAddress) (datagram : Bytes) :
    Connecting × Option Bytes :=
  match connecting with
  | .greeting node =>
      match HandshakeMessage.ofDatagram? datagram with
      | none => (.greeting node, none)
      | some (message, _) => node.take peer message
  | .confirming address unconfirmed =>
      match unconfirmed.take datagram with
      | .waiting unconfirmed => (.confirming address unconfirmed, none)
      | .failed error => (.failed error, none)
      | .established session sent => (.established address session, sent)
  | ended => (ended, none)

/-- A wait ran out. -/
def expire (connecting : Connecting) : Connecting × Option Bytes :=
  match connecting with
  | .greeting node =>
      if node.terms.retries ≤ node.attempts then (.failed (.timeout .serverHello), none)
      else { node with attempts := node.attempts + 1 }.greet
  | .confirming _ unconfirmed => (.failed unconfirmed.expire, none)
  | ended => (ended, none)

/-- Whether nothing more will happen. -/
def isOver : Connecting → Bool
  | .greeting _ | .confirming _ _ => false
  | _ => true

end Connecting

end Luminaire
