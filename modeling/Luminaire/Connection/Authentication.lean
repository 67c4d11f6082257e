/-
Authentication: a challenge under the secret that the node shares with
the controller.

A request is answered with fresh random bytes, whether the node is known
or not; a decoy secret stands in for the unknown. The node's proof is a
code over those bytes. Anything out of turn, and every failure, ends the
exchange for good, except that a request which does not decode leaves it
where it was.
-/
import Luminaire.Connection.Basic
import Luminaire.Connection.Venue
import Luminaire.Digest.Hmac

namespace Luminaire

/-- What a node is being asked. -/
structure Challenge where
  /-- The node that was named, if it is known. -/
  node : Option Node
  secret : Bytes
  nonce : Bytes
  random : Bytes
  deriving DecidableEq

/-- How far an authentication has come. -/
inductive AuthState where
  | idle
  | challenged (challenge : Challenge)
  | authenticated
  | failed
  deriving DecidableEq

def AuthState.phase : AuthState → AuthPhase
  | .idle => .idle
  | .challenged _ => .challenged
  | .authenticated => .authenticated
  | .failed => .failed

namespace Challenge

/-- Length of the challenge's nonce. -/
def nonceLength : Nat := 16

/-- Length of the challenge's random. -/
def randomLength : Nat := 32

/-- The proof that a secret is known. -/
def proof (secret nonce random : Bytes) : Bytes := hmac secret (nonce ++ random)

/-- Whether a proof answers the challenge. -/
def accepts (challenge : Challenge) (proof : Bytes) : Bool :=
  hmacVerifies challenge.secret (challenge.nonce ++ challenge.random) proof

theorem accepts_iff (challenge : Challenge) (proof : Bytes) :
    challenge.accepts proof = true
      ↔ proof = Challenge.proof challenge.secret challenge.nonce challenge.random :=
  hmacVerifies_iff ..

/-- Draws the random bytes of a challenge under a secret. -/
def drawUnder (node : Option Node) (secret : Bytes) (entropy : Entropy) :
    Except HandlerError Challenge × Entropy :=
  match entropy.draw? nonceLength with
  | none => (.error (.protocolViolation (.entropy .challenge)), entropy)
  | some (nonce, entropy) =>
      match entropy.draw? randomLength with
      | none => (.error (.protocolViolation (.entropy .challenge)), entropy)
      | some (random, entropy) => (.ok ⟨node, secret, nonce, random⟩, entropy)

/-- Draws a challenge for a node, or for nobody. -/
def draw (node : Option Node) (entropy : Entropy) : Except HandlerError Challenge × Entropy :=
  match node with
  | some known => drawUnder node known.secret entropy
  | none =>
      match entropy.draw? 32 with
      | none => (.error (.protocolViolation (.entropy .decoySecret)), entropy)
      | some (decoy, entropy) => drawUnder none decoy entropy

end Challenge

/-- The challenge methods a controller offers unless told otherwise. -/
def standardMethods : List String := ["hmac-sha256"]

/-- What an authentication message leads to. -/
structure AuthTurn (κ : Type) where
  result : Except HandlerError Unit
  state : AuthState
  connection : Connection κ
  entropy : Entropy

namespace AuthState

variable {κ : Type} [Sink κ]

/-- An answer to a request that gets no challenge. -/
def noChallenge (status : Status) : AuthChallenge := ⟨status, none, [], []⟩

/-- The first offered method, in the controller's order. -/
def select (methods offered : List String) : Option String :=
  methods.find? fun method => offered.contains method

/-- A request while nothing is going on. -/
def onRequest (methods : List String) (directory : Directory) (connection : Connection κ)
    (entropy : Entropy) (header : Header) (payload : Bytes) : AuthTurn κ :=
  match Cbor.decode? (α := AuthRequest) payload with
  | none =>
      match connection.replyWith header (noChallenge .malformed) with
      | (.ok (), connection) =>
          ⟨.error (.malformed .authentication), .idle, connection, entropy⟩
      | (.error fault, connection) => ⟨.error fault, .failed, connection, entropy⟩
  | some request =>
      match select methods request.methods with
      | none =>
          let (result, connection) := connection.answer header (noChallenge .noCommonMethod)
            (.error .authenticationFailed)
          ⟨result, .failed, connection, entropy⟩
      | some method =>
          match Challenge.draw (directory.find? request.nodeId) entropy with
          | (.error fault, entropy) => ⟨.error fault, .failed, connection, entropy⟩
          | (.ok challenge, entropy) =>
              match connection.replyWith header
                (AuthChallenge.mk .success (some method) challenge.nonce challenge.random) with
              | (.ok (), connection) => ⟨.ok (), .challenged challenge, connection, entropy⟩
              | (.error fault, connection) => ⟨.error fault, .failed, connection, entropy⟩

/-- The proof in a response; one that does not decode proves nothing. -/
def proofIn (payload : Bytes) : Bytes :=
  ((Cbor.decode? (α := AuthResponse) payload).map AuthResponse.proof).getD []

/-- A response to a challenge. The connection has its node before the
answer is sent. -/
def onResponse (challenge : Challenge) (connection : Connection κ) (header : Header)
    (payload : Bytes) : Except HandlerError Unit × AuthState × Connection κ :=
  match challenge.node, challenge.accepts (proofIn payload) with
  | some node, true =>
      match (connection.authenticate node).replyWith header (AuthResult.mk .success) with
      | (.ok (), connection) => (.ok (), .authenticated, connection)
      | (.error fault, connection) => (.error fault, .failed, connection)
  | _, _ =>
      let (result, connection) := connection.answer header (AuthResult.mk .authenticationFailed)
        (.error .authenticationFailed)
      (result, .failed, connection)

/-- A message that does not fit the phase. -/
def outOfTurn (state : AuthState) (connection : Connection κ) (entropy : Entropy)
    (header : Header) : AuthTurn κ :=
  ⟨.error (.protocolViolation (.outOfTurn header.messageType state.phase)), .failed, connection,
    entropy⟩

/-- Takes in an authentication message. -/
def handle (methods : List String) (directory : Directory) (state : AuthState)
    (connection : Connection κ) (entropy : Entropy) (header : Header) (payload : Bytes) :
    AuthTurn κ :=
  match state with
  | .idle =>
      if header.messageType = Message.messageType AuthRequest then
        onRequest methods directory connection entropy header payload
      else outOfTurn .idle connection entropy header
  | .challenged challenge =>
      if header.messageType = Message.messageType AuthResponse then
        let (result, state, connection) := onResponse challenge connection header payload
        ⟨result, state, connection, entropy⟩
      else outOfTurn (.challenged challenge) connection entropy header
  | settled => outOfTurn settled connection entropy header

end AuthState

end Luminaire
