/-
Different numbers give different nonces.

A nonce is a base with a number folded into its last eight bytes, so the
number can be taken out of it again. That is all that keeps the records of
a session and the notes of a broadcaster apart: both count upwards, and up
to 2^64 of them no two are sealed under one nonce (`nodup_numbered`).
-/
import Mathlib.Algebra.Group.Nat.Defs
import Mathlib.Data.List.Nodup
import Luminaire.Proofs.Record.Sealing

namespace Luminaire

theorem xorBytes_comm (left right : Bytes) : xorBytes left right = xorBytes right left :=
  List.zipWith_comm_of_comm UInt8.xor_comm

/-- Masks of a text's length can be told apart by what they make of it. -/
theorem xorBytes_left_inj {text mask mask' : Bytes} (hmask : mask.length ≤ text.length)
    (hmask' : mask'.length ≤ text.length) (hsame : xorBytes text mask = xorBytes text mask') :
    mask = mask' := by
  rw [xorBytes_comm text, xorBytes_comm text] at hsame
  have hback := congrArg (xorBytes · text) hsame
  simpa only [xorBytes_xorBytes mask text hmask, xorBytes_xorBytes mask' text hmask'] using hback

/-- A base of eight bytes or more keeps the number that is folded into it. -/
theorem sequenceNonce_injective {base : Bytes} (hbase : 8 ≤ base.length) :
    Function.Injective (sequenceNonce base) := by
  intro first second hsame
  have hcovers : ∀ number, (bigEndianBytes 8 number).length
      ≤ (base.drop (base.length - 8)).length := by
    intro number
    rw [length_bigEndianBytes, List.length_drop]
    omega
  have hnumber : bigEndianBytes 8 first.toNat = bigEndianBytes 8 second.toNat :=
    xorBytes_left_inj (hcovers _) (hcovers _) (List.append_cancel_left hsame)
  rw [← toUInt64_bigEndian_bytes first, hnumber, toUInt64_bigEndian_bytes]

/-- The first 2^64 numbers have sequence numbers of their own. -/
theorem toUInt64_inj {i j : Nat} (hi : i < 2 ^ 64) (hj : j < 2 ^ 64)
    (hsame : i.toUInt64 = j.toUInt64) : i = j := by
  have hnumber := congrArg UInt64.toNat hsame
  rwa [UInt64.toNat_ofNat_of_lt' hi, UInt64.toNat_ofNat_of_lt' hj] at hnumber

/-- What tells sequence numbers apart tells the first 2^64 numbers apart. -/
theorem nodup_numbered {α : Type} {f : UInt64 → α} (hf : Function.Injective f) {count : Nat}
    (hcount : count ≤ 2 ^ 64) : ((List.range count).map fun i => f i.toUInt64).Nodup := by
  refine List.Nodup.map_on (fun i hi j hj hsame => ?_) List.nodup_range
  rw [List.mem_range] at hi hj
  exact toUInt64_inj (Nat.lt_of_lt_of_le hi hcount) (Nat.lt_of_lt_of_le hj hcount) (hf hsame)

-- =============================================================== records

theorem CipherSuite.nonceLength_le (suite : CipherSuite) :
    8 ≤ suite.nonceLength ∧ suite.nonceLength ≤ KeyUse.iv.length := by
  cases suite with
  | chacha => decide
  | xchacha => decide

/-- The keys of either direction of a session start nonces of any suite. -/
theorem SessionKeys.length_iv (shared clientRandom serverRandom : Bytes) (suite : String)
    (role : Role) :
    ((derive shared clientRandom serverRandom suite).outgoing role).iv.length
      = KeyUse.iv.length := by
  cases role with
  | client => exact length_hkdfExpand _ _ _ (by decide)
  | server => exact length_hkdfExpand _ _ _ (by decide)

/-- Both suites cut their nonces from one base, and both keep the number. -/
theorem Protection.nonce_injective {protection : Protection}
    (hiv : protection.keys.iv.length = KeyUse.iv.length) :
    Function.Injective protection.nonce := by
  obtain ⟨hwide, hlong⟩ := protection.suite.nonceLength_le
  refine sequenceNonce_injective ?_
  rw [List.length_take, hiv, Nat.min_eq_left hlong]
  exact hwide

end Luminaire
