/-
The messages of the handshake arrive as they were sent.

A message is a choice of one of three records, written as a map of one
pair. What is sent is read back as long as the datagram is not cut off
(`ofDatagram?_encode`), and the bytes that were read are the datagram.
The signed body of a server hello travels as a byte string inside it, so
it is shorter than the datagram and decodes on its own
(`ServerHelloBody.decode?_encode`).
-/
import Luminaire.Handshake.Message
import Luminaire.Proofs.Cbor.Records

namespace Luminaire

open Cbor Cbor.Codec

variable {depth : Nat}

theorem CipherSuite.codec_faithful : CipherSuite.codec.Faithful depth := by
  refine ⟨fun suite => ?_, fun suite => .text depth _⟩
  cases suite with
  | chacha => rfl
  | xchacha => rfl

theorem ClientHello.codec_faithful : ClientHello.codec.Faithful (depth + 2) :=
  record_faithful ⟨word8_faithful, bytes_faithful, optional_faithful bytes_faithful nofun,
    bytes_faithful, list_faithful CipherSuite.codec_faithful, trivial⟩ (by decide) fun _ => rfl

theorem HelloVerifyRequest.codec_faithful : HelloVerifyRequest.codec.Faithful (depth + 1) :=
  record_faithful ⟨bytes_faithful, trivial⟩ (by decide) fun _ => rfl

theorem ServerHelloBody.faithful :
    (Payload.codec (α := ServerHelloBody)).Faithful (depth + 2) :=
  record_faithful ⟨word8_faithful, bytes_faithful, bytes_faithful,
    CipherSuite.codec_faithful, list_faithful bytes_faithful, trivial⟩ (by decide) fun _ => rfl

theorem ServerHello.codec_faithful : ServerHello.codec.Faithful (depth + 1) :=
  record_faithful ⟨bytes_faithful, bytes_faithful, trivial⟩ (by decide) fun _ => rfl

/-- A map of one pair is tidy if its value is. -/
theorem Cbor.Item.tidy_single {name : String} {item : Item} (htidy : item.Tidy depth) :
    (Item.mapOf [(.text name, item)]).Tidy (depth + 1) := by
  refine .mapOf (fun entry hentry => ?_) fun entry hentry => ?_
  · cases List.mem_singleton.1 hentry
    exact .text depth name
  · cases List.mem_singleton.1 hentry
    exact htidy

namespace HandshakeMessage

/-- Each of the three messages is found under its own name. -/
theorem faithful : (Payload.codec (α := HandshakeMessage)).Faithful (depth + 3) := by
  refine ⟨fun message => ?_, fun message => ?_⟩
  · cases message with
    | clientHello hello =>
        exact congrArg (Option.map clientHello) ((@ClientHello.codec_faithful 0).lawful hello)
    | helloVerifyRequest request =>
        exact congrArg (Option.map helloVerifyRequest)
          ((@HelloVerifyRequest.codec_faithful 0).lawful request)
    | serverHello hello =>
        exact congrArg (Option.map serverHello) ((@ServerHello.codec_faithful 0).lawful hello)
  · cases message with
    | clientHello hello => exact Item.tidy_single (ClientHello.codec_faithful.tidy hello)
    | helloVerifyRequest request =>
        exact Item.tidy_single (HelloVerifyRequest.codec_faithful.tidy request)
    | serverHello hello => exact Item.tidy_single (ServerHello.codec_faithful.tidy hello)

/-- A datagram that is not cut off is read as the message it was written for. -/
theorem ofDatagram?_encode {message : HandshakeMessage}
    (hshort : (encode message).length ≤ maxDatagram) :
    ofDatagram? (encode message) = some (message, encode message) := by
  have hdecode : decode? (encode message) = some message :=
    decode?_encode faithful (Nat.lt_of_le_of_lt hshort (by decide))
  unfold ofDatagram?
  simp only [List.take_of_length_le hshort, hdecode, Option.map_some]

-- =========================================================== lengths

/-- A map of one pair takes a byte besides its name and its value. -/
theorem length_print_single (name : String) (item : Item) :
    (Item.mapOf [(.text name, item)]).print.length
      = 1 + (Item.text name).print.length + item.print.length := by
  show (Item.head 5 1 ++ ((Item.text name).print ++ (item.print ++ []))).length = _
  rw [List.append_nil, List.length_append, List.length_append,
    Item.length_head_of_small (by decide), Nat.add_assoc]

/-- A request for a cookie as long as cookies are is never cut off. -/
theorem length_helloVerifyRequest_le {request : HelloVerifyRequest}
    (hcookie : request.cookie.length = 32) :
    (encode (helloVerifyRequest request)).length ≤ maxDatagram := by
  have hbytes := length_bytes_le (show request.cookie.length < 256 ^ 2 by omega)
  have hnames : (Item.text "HelloVerifyRequest").print.length = 19
      ∧ (Item.text "cookie").print.length = 7 := by decide
  have hrecord : (HelloVerifyRequest.codec.write request).print.length
      = 1 + ((Item.text "cookie").print.length + (bytes.write request.cookie).print.length + 0) :=
    length_record _ _ _ request (show 1 < 24 by decide)
  show (Item.mapOf [(.text "HelloVerifyRequest", _)]).print.length ≤ 8192
  rw [length_print_single, hrecord]
  omega

/-- A hello without a cookie is no longer than one with a cookie. -/
theorem length_clientHello_le (hello : ClientHello) :
    (encode (clientHello { hello with cookie := none })).length
      ≤ (encode (clientHello hello)).length := by
  have hcookie : ((optional bytes).write none).print.length
      ≤ ((optional bytes).write hello.cookie).print.length := by
    cases hello.cookie with
    | none => exact Nat.le_refl _
    | some cookie => exact (bytes.write cookie).print_length_pos
  have hrecord (hello : ClientHello) : (ClientHello.codec.write hello).print.length
      = 1 + ((Item.text "version").print.length + (word8.write hello.version).print.length
        + ((Item.text "random").print.length + (bytes.write hello.random).print.length
        + ((Item.text "cookie").print.length + ((optional bytes).write hello.cookie).print.length
        + ((Item.text "public_key").print.length + (bytes.write hello.publicKey).print.length
        + ((Item.text "suites").print.length
          + ((list CipherSuite.codec).write hello.suites).print.length + 0))))) :=
    length_record _ _ _ hello (show 5 < 24 by decide)
  show (Item.mapOf [(.text "ClientHello", ClientHello.codec.write _)]).print.length
    ≤ (Item.mapOf [(.text "ClientHello", ClientHello.codec.write _)]).print.length
  rw [length_print_single, length_print_single, hrecord, hrecord hello]
  dsimp only
  omega

end HandshakeMessage

/-- The signed body is shorter than the hello it travels in. -/
theorem ServerHello.length_body_le (hello : ServerHello) :
    hello.body.length ≤ (encode (HandshakeMessage.serverHello hello)).length := by
  have hbody : hello.body.length ≤ (bytes.write hello.body).print.length := by
    show _ ≤ (Item.head 2 hello.body.length ++ hello.body).length
    rw [List.length_append]
    exact Nat.le_add_left ..
  have hrecord : (ServerHello.codec.write hello).print.length
      = 1 + ((Item.text "body").print.length + (bytes.write hello.body).print.length
        + ((Item.text "signature").print.length + (bytes.write hello.signature).print.length
        + 0)) :=
    length_record _ _ _ hello (show 2 < 24 by decide)
  show _ ≤ (Item.mapOf [(.text "ServerHello", ServerHello.codec.write hello)]).print.length
  rw [HandshakeMessage.length_print_single, hrecord]
  omega

/-- The signed body decodes on its own. -/
theorem ServerHelloBody.decode?_encode {body : ServerHelloBody} {signature : Bytes}
    (hshort : (encode (HandshakeMessage.serverHello ⟨encode body, signature⟩)).length
      ≤ HandshakeMessage.maxDatagram) : decode? (encode body) = some body := by
  have hbody := Nat.le_trans (ServerHello.length_body_le ⟨encode body, signature⟩) hshort
  exact Cbor.decode?_encode ServerHelloBody.faithful (Nat.lt_of_le_of_lt hbody (by decide))

end Luminaire
