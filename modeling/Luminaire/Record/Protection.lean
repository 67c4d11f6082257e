/-
Protected records.

A record is a byte of content type, eight bytes of sequence number and
the sealed content. The first nine bytes are bound as associated data,
and the nonce is the direction's base with the sequence number folded
into its last eight bytes, so a sequence number is sealed at most once
under one nonce.
-/
import Luminaire.Record.Keys
import Luminaire.Record.Suite

namespace Luminaire

inductive ContentType where
  | alert
  | handshake
  | applicationData
  deriving DecidableEq, Repr

namespace ContentType

def code : ContentType → UInt8
  | .alert => 0x15
  | .handshake => 0x16
  | .applicationData => 0x17

def ofCode? (code : UInt8) : Option ContentType :=
  match code.toNat with
  | 0x15 => some .alert
  | 0x16 => some .handshake
  | 0x17 => some .applicationData
  | _ => none

def name : ContentType → String
  | .alert => "alert"
  | .handshake => "handshake"
  | .applicationData => "application_data"

theorem ofCode?_code (content : ContentType) : ofCode? content.code = some content := by
  cases content <;> rfl

end ContentType

/-- Folds a sequence number into the last eight bytes of a nonce base. -/
def sequenceNonce (base : Bytes) (sequence : UInt64) : Bytes :=
  base.take (base.length - 8)
    ++ xorBytes (base.drop (base.length - 8)) (bigEndianBytes 8 sequence.toNat)

/-- Content type and sequence number in front of every record. -/
def recordHeaderLength : Nat := 9

/-- What seals or opens the records of one direction. -/
structure Protection where
  suite : CipherSuite
  keys : DirectionKeys
  deriving DecidableEq, Repr

namespace Protection

/-- The nonce of a sequence number. -/
def nonce (protection : Protection) (sequence : UInt64) : Bytes :=
  sequenceNonce (protection.keys.iv.take protection.suite.nonceLength) sequence

def header (content : ContentType) (sequence : UInt64) : Bytes :=
  content.code :: bigEndianBytes 8 sequence.toNat

@[simp] theorem length_header (content : ContentType) (sequence : UInt64) :
    (header content sequence).length = recordHeaderLength := by
  simp [header, recordHeaderLength]

/-- The whole record for a content. -/
def sealRecord (protection : Protection) (content : ContentType) (sequence : UInt64) (plain : Bytes) :
    Except CryptoError Bytes :=
  let header := header content sequence
  match protection.suite.aead.seal? protection.keys.key (protection.nonce sequence) header plain with
  | some sealed => .ok (header ++ sealed)
  | none => .error .sealFailed

/-- Type, sequence number and content of a genuine record. -/
def openRecord (protection : Protection) (record : Bytes) :
    Except CryptoError (ContentType × UInt64 × Bytes) :=
  match record with
  | [] => .error .openFailed
  | code :: rest =>
      if record.length < recordHeaderLength then .error .openFailed
      else
        match ContentType.ofCode? code with
        | none => .error .openFailed
        | some content =>
            let sequence := (bigEndian (rest.take 8)).toUInt64
            match protection.suite.aead.open? protection.keys.key (protection.nonce sequence)
              (record.take recordHeaderLength) (rest.drop 8) with
            | some plain => .ok (content, sequence, plain)
            | none => .error .openFailed

end Protection

end Luminaire
