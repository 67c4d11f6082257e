/-
Domain values as JSON documents: pixels, nodes, channels, headers, keys
and the hellos of a handshake.
-/
import Luminaire.Directory
import Luminaire.Document.Basic
import Luminaire.Framebuffer
import Luminaire.Group.KeyRing
import Luminaire.Handshake.Message
import Luminaire.Net.Parse
import Luminaire.Record.Protection
import Luminaire.Wire.Frame

namespace Luminaire

open Json

-- =========================================================== pixels

/-- A pixel is given as the sixteen bytes of its levels. -/
def Pixel.ofJson? (document : Json) : Option Pixel :=
  match document.bytes? with
  | none => none
  | some bytes =>
      let level (index : Nat) : Level := (bigEndian ((bytes.drop (4 * index)).take 4)).toUInt32
      if bytes.length = 16 then some ⟨level 0, level 1, level 2, level 3⟩ else none

/-- Pixels are given one by one, or as a run of the same. -/
def pixelsOfJson? : Json → Option (List Pixel)
  | .null => some []
  | .array items => items.mapM Pixel.ofJson?
  | document => do
      let length ← document.numberAt "len"
      if Pixel.addressable ≤ length then none
      some (List.replicate length (← Pixel.ofJson? (document.field "fill")))

def pixelsToJson (pixels : List Pixel) : Json :=
  .ofBlob (pixels.flatMap fun pixel =>
    [pixel.r, pixel.g, pixel.b, pixel.w].flatMap fun level => bigEndianBytes 4 level.toNat)

def Region.ofJson? (document : Json) : Option Region := do
  some ⟨← document.word32 "start", ← document.word32 "length"⟩

-- ======================================================== directory

def Uuid.ofJson? (document : Json) : Option Uuid := document.text?.bind Uuid.ofString?

def Node.ofJson? (document : Json) : Option Node := do
  some ⟨← document.word32 "id", ← Uuid.ofJson? (document.field "uuid"),
    ← document.bytesAt "secret", ← document.textAt "label"⟩

def Node.toJson (node : Node) : Json :=
  .ofPairs [("id", .ofWord32 node.id), ("uuid", .ofText node.uuid.toString),
    ("secret", .ofHex node.secret), ("label", .ofText node.label)]

def NodeChannel.ofJson? (document : Json) : Option NodeChannel := do
  some ⟨← document.word32 "node_id", ← document.word32 "index", ← document.word32 "pixel_count",
    ← document.word32 "fb_offset", ← PixelFormat.ofCode? (← document.word8 "format")⟩

def NodeChannel.toJson (channel : NodeChannel) : Json :=
  .ofPairs [("node_id", .ofWord32 channel.nodeId), ("index", .ofWord32 channel.index),
    ("pixel_count", .ofWord32 channel.pixelCount), ("fb_offset", .ofWord32 channel.offset),
    ("format", .whole channel.format.code.toNat)]

-- ========================================================== headers

/-- What both kinds of header have. -/
def headerPairs (version endpoint messageType tag : UInt8) (length : UInt16) :
    List (String × Json) :=
  [("version", .whole version.toNat), ("endpoint", .whole endpoint.toNat),
    ("message_type", .whole messageType.toNat), ("tag", .whole tag.toNat),
    ("length", .whole length.toNat)]

def Header.toJson (header : Header) : Json :=
  .ofPairs (headerPairs header.version header.endpoint header.messageType header.tag header.length
    ++ [("endpoint_name", .orNull (fun e => .ofText (Endpoint.name e))
      (Endpoint.ofCode? header.endpoint))])

def GroupHeader.toJson (header : GroupHeader) : Json :=
  .ofPairs (headerPairs header.version header.endpoint header.messageType header.tag header.length
    ++ [("key_id", .ofWord32 header.keyId)])

-- ============================================================= keys

def GroupKey.toJson (key : GroupKey) : Json :=
  .ofPairs [("id", .ofWord32 key.id), ("key", .ofHex key.key), ("iv", .ofHex key.iv)]

def DirectionKeys.toJson (keys : DirectionKeys) : Json :=
  .ofPairs [("key", .ofHex keys.key), ("iv", .ofHex keys.iv), ("finished", .ofHex keys.finished)]

/-- Keys are given by what they are derived from. -/
def SessionKeys.ofJson? (document : Json) (suite : String) : Option SessionKeys := do
  some (.derive (← document.bytesAt "shared") (← document.bytesAt "client_random")
    (← document.bytesAt "server_random") suite)

/-- The content type a document names; application data unless it does. -/
def ContentType.ofJson? (document : Json) : Option ContentType :=
  (document.textAt "content").map fun name =>
    ([ContentType.alert, .handshake].find? fun content => content.name = name).getD .applicationData

/-- The side a document names; the client unless it does. -/
def Role.ofJson? (document : Json) : Option Role :=
  (document.textAt "side").map fun name => if name = "server" then .server else .client

-- ======================================================== handshake

/-- A suite is given by its position. -/
def CipherSuite.ofJson? (document : Json) : Option CipherSuite :=
  document.number?.bind fun index => all[index]?

def CipherSuite.listOfJson? (document : Json) (key : String) : Option (List CipherSuite) :=
  (document.itemsAt key).mapM ofJson?

def CipherSuite.toJson (suite : CipherSuite) : Json := .ofText suite.name

/-- The version a document gives; the current one unless it does. -/
def versionOfJson? (document : Json) : Option UInt8 :=
  if document.given "version" then document.word8 "version" else some handshakeVersion

def ClientHello.ofJson? (document : Json) : Option ClientHello := do
  some {
    version := ← versionOfJson? document
    random := ← document.bytesAt "random"
    cookie := ← document.ifGiven "cookie" bytes?
    publicKey := ← document.bytesAt "public_key"
    suites := ← CipherSuite.listOfJson? document "suites" }

def ServerHelloBody.ofJson? (document : Json) : Option ServerHelloBody := do
  some {
    version := ← versionOfJson? document
    random := ← document.bytesAt "random"
    publicKey := ← document.bytesAt "public_key"
    suite := ← CipherSuite.ofJson? (document.field "suite")
    certificates := ← (document.itemsAt "certificates").mapM bytes? }

/-- Bytes inside a message. -/
def bytesToJson (bytes : Bytes) : Json := .ofPairs [("bytes", .ofBlob bytes)]

def ClientHello.toJson (hello : ClientHello) : Json :=
  .ofPairs [("version", .whole hello.version.toNat), ("random", bytesToJson hello.random),
    ("cookie", .orNull bytesToJson hello.cookie), ("public_key", bytesToJson hello.publicKey),
    ("suites", .array (hello.suites.map CipherSuite.toJson))]

def ServerHelloBody.toJson (body : ServerHelloBody) : Json :=
  .ofPairs [("version", .whole body.version.toNat), ("random", bytesToJson body.random),
    ("public_key", bytesToJson body.publicKey), ("suite", body.suite.toJson),
    ("certificates", .array (body.certificates.map bytesToJson))]

def HandshakeMessage.toJson : HandshakeMessage → Json
  | .clientHello hello => .ofPairs [("ClientHello", hello.toJson)]
  | .helloVerifyRequest request =>
      .ofPairs [("HelloVerifyRequest", .ofPairs [("cookie", bytesToJson request.cookie)])]
  | .serverHello hello =>
      .ofPairs [("ServerHello",
        .ofPairs [("body", bytesToJson hello.body), ("signature", bytesToJson hello.signature)])]

end Luminaire
