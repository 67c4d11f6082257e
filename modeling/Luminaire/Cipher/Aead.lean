/-
Authenticated encryption with associated data: ChaCha20-Poly1305
(RFC 8439) and its extended-nonce form XChaCha20-Poly1305.

Both are values of `Aead`, so that everything above the ciphers is stated
for any of them. A sealed text is the masked text with a sixteen-byte tag
behind it. `open_seal` and `seal_of_open` say that opening is exactly the
inverse of sealing: what `seal` produced opens to what was sealed, and
nothing else opens at all.
-/
import Luminaire.Cipher.ChaCha20
import Luminaire.Cipher.Poly1305

namespace Luminaire

/-- How a cipher masks a text and tags the result. -/
structure Aead where
  nonceLength : Nat
  /-- Masks or unmasks a text under a key and nonce. -/
  mask : (key nonce text : Bytes) → Bytes
  /-- The tag over associated data and masked text. -/
  tag : (key nonce associated masked : Bytes) → Bytes

namespace Aead

/-- Length of every tag. -/
def tagLength : Nat := 16

/-- The longest text one key stream covers: a 32-bit count of blocks, the
first of which makes the tag's key. -/
def textLimit : Nat := (UInt32.size - 1) * 64 - 1

/-- The laws that make opening the inverse of sealing. -/
structure Lawful (cipher : Aead) : Prop where
  length_mask : ∀ key nonce text, (cipher.mask key nonce text).length = text.length
  mask_mask : ∀ key nonce text, cipher.mask key nonce (cipher.mask key nonce text) = text
  length_tag : ∀ key nonce associated masked,
    (cipher.tag key nonce associated masked).length = tagLength

/-- Masks a text and appends the tag; a text beyond the limit is refused. -/
def seal? (cipher : Aead) (key nonce associated text : Bytes) : Option Bytes :=
  if text.length ≤ textLimit then
    let masked := cipher.mask key nonce text
    some (masked ++ cipher.tag key nonce associated masked)
  else
    none

/-- The text behind a sealed one, if its tag is right. -/
def open? (cipher : Aead) (key nonce associated sealed : Bytes) : Option Bytes :=
  if sealed.length < tagLength then
    none
  else
    let masked := sealed.take (sealed.length - tagLength)
    let tag := sealed.drop (sealed.length - tagLength)
    if masked.length ≤ textLimit ∧ tag = cipher.tag key nonce associated masked then
      some (cipher.mask key nonce masked)
    else
      none

theorem length_seal {cipher : Aead} (lawful : cipher.Lawful) {key nonce associated text sealed : Bytes}
    (produced : cipher.seal? key nonce associated text = some sealed) :
    sealed.length = text.length + tagLength := by
  unfold seal? at produced
  split at produced
  · cases produced
    simp [lawful.length_mask, lawful.length_tag]
  · cases produced

/-- What was sealed opens to the text that was sealed. -/
theorem open_seal {cipher : Aead} (lawful : cipher.Lawful) {key nonce associated text sealed : Bytes}
    (produced : cipher.seal? key nonce associated text = some sealed) :
    cipher.open? key nonce associated sealed = some text := by
  have length := length_seal lawful produced
  unfold seal? at produced
  split at produced
  · rename_i fits
    cases produced
    have cut : (cipher.mask key nonce text
        ++ cipher.tag key nonce associated (cipher.mask key nonce text)).length - tagLength
        = (cipher.mask key nonce text).length := by
      simp [lawful.length_tag]
    unfold open?
    rw [if_neg (by omega), cut]
    simp [lawful.length_mask, lawful.mask_mask, fits]
  · cases produced

/-- Nothing opens but what sealing produces. -/
theorem seal_of_open {cipher : Aead} (lawful : cipher.Lawful) {key nonce associated text sealed : Bytes}
    (opened : cipher.open? key nonce associated sealed = some text) :
    cipher.seal? key nonce associated text = some sealed := by
  unfold open? at opened
  split at opened
  · cases opened
  · simp only at opened
    split at opened
    · rename_i right
      cases opened
      unfold seal?
      rw [lawful.length_mask, if_pos right.1, lawful.mask_mask]
      simp only
      rw [← right.2, List.take_append_drop]
    · cases opened

-- ==================================================== the two ciphers

private def chachaTag (key nonce associated masked : Bytes) : Bytes :=
  let padding (bytes : Bytes) : Bytes := List.replicate ((16 - bytes.length % 16) % 16) 0
  Poly1305.tag ((ChaCha20.block key nonce 0).take 32)
    (associated ++ padding associated ++ masked ++ padding masked
      ++ littleEndianBytes 8 associated.length ++ littleEndianBytes 8 masked.length)

/-- ChaCha20-Poly1305 with its twelve-byte nonce. -/
def chacha20Poly1305 : Aead where
  nonceLength := 12
  mask key nonce text := ChaCha20.mask key nonce 1 text
  tag := chachaTag

theorem chacha20Poly1305_lawful : chacha20Poly1305.Lawful where
  length_mask _ _ _ := ChaCha20.length_mask ..
  mask_mask _ _ _ := ChaCha20.mask_mask ..
  length_tag _ _ _ _ := Poly1305.length_tag ..

/-- The last eight bytes of an extended nonce, widened to twelve. -/
private def shortNonce (nonce : Bytes) : Bytes := List.replicate 4 0 ++ nonce.drop 16

/-- XChaCha20-Poly1305 with its twenty-four-byte nonce: the first sixteen
bytes go into the key. -/
def xchacha20Poly1305 : Aead where
  nonceLength := 24
  mask key nonce text :=
    ChaCha20.mask (ChaCha20.subkey key (nonce.take 16)) (shortNonce nonce) 1 text
  tag key nonce associated masked :=
    chachaTag (ChaCha20.subkey key (nonce.take 16)) (shortNonce nonce) associated masked

theorem xchacha20Poly1305_lawful : xchacha20Poly1305.Lawful where
  length_mask _ _ _ := ChaCha20.length_mask ..
  mask_mask _ _ _ := ChaCha20.mask_mask ..
  length_tag _ _ _ _ := Poly1305.length_tag ..

end Aead

end Luminaire
