/-
The cipher of the group follows the key that was loaded last.

A cipher is used for as long as its broadcaster lives: keys are loaded into
it one after the other, and between them it seals and opens. Whatever the
calls were, it has the key of the last load if that was long enough and no
key otherwise (`key_after`); in particular nothing is left of an earlier
key where a later one was refused. So what it answers from then on depends
on that last load alone.

With a key loaded, sealing and opening are inverse to each other, text by
text (`decrypt_eq_ok_iff_encrypt`): both expand the initial value to the
same nonce, and the cipher opens exactly what it seals.
-/
import Mathlib.Data.List.Induction
import Luminaire.Proofs.Group.Broadcasts

namespace Luminaire.GroupCipher

-- =========================================================== inversion

variable {cipher : GroupCipher} {text sealed iv : Bytes}

/-- Opening undoes sealing, and nothing else opens. -/
theorem open_eq_some_iff_seal {key nonce : Bytes} :
    Aead.xchacha20Poly1305.open? key nonce [] sealed = some text
      ↔ Aead.xchacha20Poly1305.seal? key nonce [] text = some sealed :=
  ⟨Aead.seal_of_open Aead.xchacha20Poly1305_lawful,
    Aead.open_seal Aead.xchacha20Poly1305_lawful⟩

theorem encrypt_eq_ok_iff :
    cipher.encrypt text iv = .ok sealed
      ↔ text ≠ [] ∧ ∃ key nonce, cipher.ready iv = .ok (key, nonce)
        ∧ Aead.xchacha20Poly1305.seal? key nonce [] text = some sealed := by
  unfold encrypt
  by_cases hempty : text = []
  · simp [hempty]
  · rw [if_neg (by simpa using hempty), and_iff_right hempty]
    cases hready : cipher.ready iv with
    | error fault => simp
    | ok found =>
        obtain ⟨key, nonce⟩ := found
        cases hseal : Aead.xchacha20Poly1305.seal? key nonce [] text with
        | none => simp [hseal]
        | some made => simp [hseal]

theorem decrypt_eq_ok_iff :
    cipher.decrypt sealed iv = .ok text
      ↔ ∃ key nonce, cipher.ready iv = .ok (key, nonce)
        ∧ Aead.xchacha20Poly1305.open? key nonce [] sealed = some text := by
  unfold decrypt
  cases hready : cipher.ready iv with
  | error fault => simp
  | ok found =>
      obtain ⟨key, nonce⟩ := found
      cases hopen : Aead.xchacha20Poly1305.open? key nonce [] sealed with
      | none => simp [hopen]
      | some made => simp [hopen]

/-- A sealed text opens to a text that is not empty exactly if that text is
sealed to it. -/
theorem decrypt_eq_ok_iff_encrypt (htext : text ≠ []) :
    cipher.decrypt sealed iv = .ok text ↔ cipher.encrypt text iv = .ok sealed := by
  rw [decrypt_eq_ok_iff, encrypt_eq_ok_iff, and_iff_right htext]
  simp only [open_eq_some_iff_seal]

-- ============================================================ refusals

theorem hasKey_eq_true_iff : cipher.hasKey = true ↔ ∃ key, cipher.key = some key :=
  Option.isSome_iff_exists

theorem hasKey_eq_false_iff : cipher.hasKey = false ↔ cipher.key = none := by
  unfold hasKey
  rw [Option.isSome_eq_false_iff, Option.isNone_iff_eq_none]

/-- A cipher is ready for nothing without a key, and with one for initial
values of the right length. -/
theorem ready_eq_error_iff {fault : CryptoError} :
    cipher.ready iv = .error fault
      ↔ cipher.hasKey = false ∧ fault = .noKey
        ∨ cipher.hasKey = true ∧ iv.length ≠ ivLength
          ∧ fault = .invalidIvLength iv.length := by
  cases hkey : cipher.key with
  | none =>
      have hnone : cipher.hasKey = false := hasKey_eq_false_iff.2 hkey
      unfold ready
      rw [hkey, hnone]
      simp [eq_comm]
  | some key =>
      have hsome : cipher.hasKey = true := hasKey_eq_true_iff.2 ⟨key, hkey⟩
      rw [hsome]
      by_cases hiv : iv.length = ivLength
      · obtain ⟨nonce, hready⟩ := ready_eq hkey hiv
        rw [hready]
        simp [hiv]
      · unfold ready nonce?
        rw [hkey, if_neg hiv]
        simp [hiv, eq_comm]

theorem loaded_of_ready {found : Bytes × Bytes} (hready : cipher.ready iv = .ok found) :
    cipher.hasKey = true ∧ iv.length = ivLength := by
  cases hkey : cipher.hasKey with
  | false =>
      rw [ready_eq_error_iff.2 (.inl ⟨hkey, rfl⟩)] at hready
      cases hready
  | true =>
      refine ⟨rfl, not_not.1 fun hiv => ?_⟩
      rw [ready_eq_error_iff.2 (.inr ⟨hkey, hiv, rfl⟩)] at hready
      cases hready

/-- Sealing refuses an empty text, then a cipher without a key, then an
initial value of another length, and then what the key stream does not
cover. -/
theorem encrypt_eq_error_iff {fault : CryptoError} :
    cipher.encrypt text iv = .error fault
      ↔ text = [] ∧ fault = .emptyPlaintext
        ∨ text ≠ [] ∧ cipher.hasKey = false ∧ fault = .noKey
        ∨ text ≠ [] ∧ cipher.hasKey = true ∧ iv.length ≠ ivLength
          ∧ fault = .invalidIvLength iv.length
        ∨ text ≠ [] ∧ cipher.hasKey = true ∧ iv.length = ivLength
          ∧ Aead.textLimit < text.length ∧ fault = .sealFailed := by
  by_cases hempty : text = []
  · subst hempty
    have hrefused : cipher.encrypt [] iv = .error .emptyPlaintext := rfl
    rw [hrefused, Except.error.injEq, eq_comm]
    simp
  · unfold encrypt
    rw [if_neg (by simpa using hempty)]
    cases hready : cipher.ready iv with
    | error found =>
        rcases ready_eq_error_iff.1 hready with ⟨hkey, rfl⟩ | ⟨hkey, hiv, rfl⟩
        · simp [hempty, hkey, eq_comm]
        · simp [hempty, hkey, hiv, eq_comm]
    | ok found =>
        obtain ⟨hkey, hiv⟩ := loaded_of_ready hready
        by_cases hfits : text.length ≤ Aead.textLimit
        · have hseal : Aead.xchacha20Poly1305.seal? found.1 found.2 [] text = some _ :=
            if_pos hfits
          simp only [hseal, hkey, hiv, ne_eq, not_true, Nat.not_lt.2 hfits, reduceCtorEq, hempty,
            false_and, and_false, or_false]
        · have hseal : Aead.xchacha20Poly1305.seal? found.1 found.2 [] text = none :=
            if_neg hfits
          simp [hseal, hkey, hiv, hempty, Nat.lt_of_not_le hfits, eq_comm]

-- =============================================================== calls

/-- What can be asked of a cipher. -/
inductive Call where
  | load (key : Bytes)
  | encrypt (text iv : Bytes)
  | decrypt (sealed iv : Bytes)

/-- What it answers. -/
inductive Answer where
  | loaded (result : Except CryptoError Unit)
  | text (result : Except CryptoError Bytes)

/-- One call on a cipher. -/
def perform (cipher : GroupCipher) : Call → Answer × GroupCipher
  | .load key =>
      let (result, cipher) := load key
      (.loaded result, cipher)
  | .encrypt text iv => (.text (cipher.encrypt text iv), cipher)
  | .decrypt sealed iv => (.text (cipher.decrypt sealed iv), cipher)

/-- A new cipher after some calls. -/
def after (calls : List Call) : GroupCipher :=
  calls.foldl (fun cipher call => (cipher.perform call).2) empty

/-- The key that a call offers. -/
def Call.offered? : Call → Option Bytes
  | .load key => some key
  | _ => none

/-- The key that was offered last, whether it was taken or not. -/
def lastOffered? (calls : List Call) : Option Bytes := (calls.filterMap Call.offered?).getLast?

theorem after_concat (calls : List Call) (call : Call) :
    after (calls ++ [call]) = ((after calls).perform call).2 := by
  rw [after, List.foldl_append]
  rfl

theorem lastOffered?_concat (calls : List Call) (call : Call) :
    lastOffered? (calls ++ [call]) = call.offered?.or (lastOffered? calls) := by
  unfold lastOffered?
  rw [List.filterMap_append]
  cases hoffered : call.offered? with
  | none => simp [hoffered]
  | some key => simp [hoffered]

/-- What one call makes of the key: a load takes the key it is offered, or
leaves none; nothing else touches it. -/
theorem key_perform (cipher : GroupCipher) (call : Call) :
    (cipher.perform call).2.key
      = match call.offered? with
        | some key => if key.length = keyLength then some key else none
        | none => cipher.key := by
  cases call with
  | load key =>
      show (load key).2.key = if key.length = keyLength then some key else none
      unfold load
      split
      · rfl
      · rfl
  | encrypt text iv => rfl
  | decrypt sealed iv => rfl

/-- The key is the one that was offered last, if it was long enough. -/
theorem key_after (calls : List Call) :
    (after calls).key = (lastOffered? calls).filter fun key => key.length = keyLength := by
  -- call by call: one that offers no key leaves both sides as they were
  induction calls using List.reverseRecOn with
  | nil => rfl
  | append_singleton calls call ih =>
      rw [after_concat, key_perform, lastOffered?_concat]
      cases hoffered : call.offered? with
      | none => simpa using ih
      | some key =>
          rw [Option.some_or, Option.filter_some]
          by_cases hlength : key.length = keyLength
          · simp [hlength]
          · simp [hlength]

theorem hasKey_after (calls : List Call) :
    (after calls).hasKey = true ↔ ∃ key, lastOffered? calls = some key ∧ key.length = keyLength := by
  rw [hasKey_eq_true_iff, key_after]
  simp [Option.filter_eq_some_iff]

/-- Two histories that end in the same load leave the same cipher. -/
theorem after_eq_of_lastOffered? {calls calls' : List Call}
    (hlast : lastOffered? calls = lastOffered? calls') : after calls = after calls' := by
  have hkey : (after calls).key = (after calls').key := by
    rw [key_after, key_after, hlast]
  exact congrArg GroupCipher.mk hkey

/-- A cipher follows its last load.

After any calls it has a key exactly if the last key that was offered has
thirty-two bytes, and what it answers to any further calls depends on that
offer alone. With a key, for every initial value of sixteen bytes and every
text that is not empty and that the key stream covers, there is a sealed
text, sixteen bytes longer, and a byte string opens to the text exactly if
it is that one. Sealing refuses an empty text, a missing key and an initial
value of another length, reports the first of them in this order, and
refuses besides only what the key stream does not cover. What a call to
seal or to open comes to, the cipher stays as it was; a load that fails says
so and leaves no key. -/
theorem follows_last_load (calls : List Call) :
    let cipher := after calls
    (cipher.hasKey = true ↔ ∃ key, lastOffered? calls = some key ∧ key.length = 32)
      ∧ (∀ others : List Call, lastOffered? others = lastOffered? calls →
          ∀ further : List Call, ∀ call : Call,
            (after (others ++ further)).perform call = (after (calls ++ further)).perform call)
      ∧ (∀ text iv sealed : Bytes, cipher.hasKey = true → iv.length = 16 → text ≠ [] →
          text.length ≤ Aead.textLimit →
          (cipher.decrypt sealed iv = .ok text ↔ cipher.encrypt text iv = .ok sealed)
            ∧ ∃ made, cipher.encrypt text iv = .ok made ∧ made.length = text.length + 16)
      ∧ (∀ (text iv : Bytes) (fault : CryptoError),
          cipher.encrypt text iv = .error fault
            ↔ text = [] ∧ fault = .emptyPlaintext
              ∨ text ≠ [] ∧ cipher.hasKey = false ∧ fault = .noKey
              ∨ text ≠ [] ∧ cipher.hasKey = true ∧ iv.length ≠ 16
                ∧ fault = .invalidIvLength iv.length
              ∨ text ≠ [] ∧ cipher.hasKey = true ∧ iv.length = 16
                ∧ Aead.textLimit < text.length ∧ fault = .sealFailed)
      ∧ (∀ text iv : Bytes, (cipher.perform (.encrypt text iv)).2 = cipher)
      ∧ (∀ sealed iv : Bytes, (cipher.perform (.decrypt sealed iv)).2 = cipher)
      ∧ ∀ key : Bytes, key.length ≠ 32 →
          cipher.perform (.load key) = (.loaded (.error (.invalidKeyLength key.length)), empty) := by
  intro cipher
  refine ⟨hasKey_after calls, ?_, ?_, fun _ _ _ => encrypt_eq_error_iff, fun _ _ => rfl,
    fun _ _ => rfl, ?_⟩
  · intro others hlast further call
    have hsame : after others = after calls := after_eq_of_lastOffered? hlast
    have hfurther : after (others ++ further) = after (calls ++ further) := by
      unfold after at hsame ⊢
      rw [List.foldl_append, List.foldl_append, hsame]
    rw [hfurther]
  · intro text iv sealed hloaded hiv htext hfits
    obtain ⟨key, hkey⟩ := hasKey_eq_true_iff.1 hloaded
    exact ⟨decrypt_eq_ok_iff_encrypt htext, exists_encrypt hkey hiv htext hfits⟩
  · intro key hlength
    have hload : load key = (.error (.invalidKeyLength key.length), empty) := if_neg hlength
    rw [perform, hload]

/-- A key, one that is too short, and another key. -/
def exampleCalls : List Call :=
  [.load (List.replicate 32 7), .encrypt [1] [], .load [7, 7], .load (List.replicate 32 9)]

/-- The last key is the one that is loaded, and a text is sealed and opened
under it. -/
theorem last_load_in_example :
    (after exampleCalls).hasKey = true
      ∧ ∃ sealed, (after exampleCalls).encrypt [1, 2, 3] (List.replicate 16 0) = .ok sealed
        ∧ sealed.length = 19
        ∧ (after exampleCalls).decrypt sealed (List.replicate 16 0) = .ok [1, 2, 3] := by
  obtain ⟨hkey, -, hinverse, -⟩ := follows_last_load exampleCalls
  have hloaded : (after exampleCalls).hasKey = true :=
    hkey.2 ⟨List.replicate 32 9, by decide, by decide⟩
  have hiv : (List.replicate 16 (0 : UInt8)).length = 16 := by decide
  have hfits : [1, 2, 3].length ≤ Aead.textLimit := by decide
  obtain ⟨-, sealed, hsealed, hlength⟩ :=
    hinverse [1, 2, 3] (List.replicate 16 0) [] hloaded hiv (by decide) hfits
  obtain ⟨hopens, -⟩ := hinverse [1, 2, 3] (List.replicate 16 0) sealed hloaded hiv (by decide) hfits
  exact ⟨hloaded, sealed, hsealed, hlength, hopens.2 hsealed⟩

end Luminaire.GroupCipher
