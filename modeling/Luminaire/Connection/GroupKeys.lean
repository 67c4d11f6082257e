/-
Group keys: where the group is, the keys of its broadcasts, and a notice
after every rotation.

All of it is for authenticated nodes only. Others are answered with a
status and nothing else, and get no notices.
-/
import Luminaire.Connection.Basic
import Luminaire.Connection.Venue

namespace Luminaire.GroupKeys

variable {κ : Type} [Sink κ] {ω : Type}

/-- Tells where the group is and which key it uses. -/
def info (connection : Connection κ) (group : Broadcaster ω) (header : Header) :
    Except HandlerError Unit × Connection κ :=
  match connection.requireNode with
  | .error fault => connection.answer header (Info.mk .notAuthenticated "" 0 0) (.error fault)
  | .ok _ =>
      connection.replyWith header
        (Info.mk .success group.config.group.toString group.config.port group.currentId)

/-- An answer without a key. -/
def noKey (status : Status) (id : UInt32) : KeyData := ⟨status, id, [], []⟩

/-- Hands out a key that is still on the ring. -/
def key (connection : Connection κ) (group : Broadcaster ω) (header : Header) (payload : Bytes) :
    Except HandlerError Unit × Connection κ :=
  match Cbor.decode? (α := GetKey) payload with
  | none => connection.answer header (noKey .malformed 0) (.error (.malformed .multicastControl))
  | some request =>
      match connection.requireNode with
      | .error fault =>
          connection.answer header (noKey .notAuthenticated request.keyId) (.error fault)
      | .ok _ =>
          match group.material? request.keyId with
          | some (key, iv) => connection.replyWith header (KeyData.mk .success request.keyId key iv)
          | none => connection.replyWith header (noKey .invalidKeyId request.keyId)

/-- Takes in a message about group keys. -/
def handle (connection : Connection κ) (group : Broadcaster ω) (header : Header)
    (payload : Bytes) : Except HandlerError Unit × Connection κ :=
  if header.messageType = getInfoType then info connection group header
  else if header.messageType = Message.messageType GetKey then key connection group header payload
  else (.error (.unknownMessageType .multicastControl header.messageType), connection)

/-- Sends the notice of a new key to an authenticated node. Whether it
left makes no difference. -/
def notice (connection : Connection κ) (group : Broadcaster ω) (id : UInt32) : Connection κ :=
  if connection.isAuthenticated then
    match group.material? id with
    | none => connection
    | some (key, iv) => (connection.pushWith .multicastControl (RekeyNotice.mk id key iv)).2
  else connection

end Luminaire.GroupKeys
