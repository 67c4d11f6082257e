/-
The tokens of a list of observers as words.

A list counts its registrations in natural numbers, which have no end
(`Observers`). A counter of 64 bits has one: behind the greatest word it
starts over, and could give out a token that is still in use. Here a list
counts in words (`WordObservers`), and both lists are asked the same.

They are in step (`InStep`) as long as there are fewer registrations than
words. The invariant that carries it: the counter is one more than the
number of registrations, and no token in the list is beyond that number, so
equal words are equal tokens. Every call keeps it (`InStep.call`), so over
every run of calls the answers are the same word for word, and no token is
given twice (`words_suffice`).
-/
import Luminaire.Observers
import Mathlib.Data.List.Induction
import Mathlib.Data.List.Nodup

namespace Luminaire

/-- What is asked of a list of observers. -/
inductive Observers.Call (α : Type) where
  | insert (observer : α)
  | remove (token : UInt64)

/-- What a list answers to that. -/
inductive Observers.Answer where
  /-- The token of a registration. -/
  | registered (token : UInt64)
  /-- Whether there was something to remove. -/
  | removed (found : Bool)
  deriving DecidableEq, Repr

/-- A list of observers that counts its registrations in words. -/
structure WordObservers (α : Type) where
  next : UInt64
  entries : List (UInt64 × α)

variable {α : Type}

namespace Observers

/-- Whether a call is a registration. -/
def Call.registers : Call α → Bool
  | .insert _ => true
  | .remove _ => false

/-- The token that an answer gives out. -/
def Answer.token? : Answer → Option UInt64
  | .registered token => some token
  | .removed _ => none

/-- A list answers a call, its tokens read as words. -/
def call (observers : Observers α) : Call α → Answer × Observers α
  | .insert observer =>
      let (token, observers) := observers.insert observer
      (.registered token.toUInt64, observers)
  | .remove token =>
      let (found, observers) := observers.remove token.toNat
      (.removed found, observers)

/-- What is answered to calls in order, and the list behind them. -/
def serve {σ : Type} (call : σ → Call α → Answer × σ) (list : σ) (calls : List (Call α)) :
    List Answer × σ :=
  calls.foldl (fun (answers, list) next =>
    let (answer, list) := call list next
    (answers ++ [answer], list)) ([], list)

theorem serve_snoc {σ : Type} (call : σ → Call α → Answer × σ) (list : σ)
    (calls : List (Call α)) (next : Call α) :
    serve call list (calls ++ [next])
      = ((serve call list calls).1 ++ [(call (serve call list calls).2 next).1],
          (call (serve call list calls).2 next).2) :=
  List.foldl_append

end Observers

namespace WordObservers

open Observers (Answer Call serve serve_snoc)

def empty : WordObservers α := ⟨1, []⟩

/-- A list that counts in words answers a call. -/
def call (observers : WordObservers α) : Call α → Answer × WordObservers α
  | .insert observer =>
      (.registered observers.next,
        ⟨observers.next + 1, observers.entries ++ [(observers.next, observer)]⟩)
  | .remove token =>
      (.removed (observers.entries.any fun entry => entry.1 == token),
        { observers with entries := observers.entries.filter fun entry => entry.1 != token })

/-- Both lists hold the same after some registrations. -/
structure InStep (words : WordObservers α) (list : Observers α) (registered : Nat) : Prop where
  counter : list.next = registered + 1
  bounded : ∀ entry ∈ list.entries, entry.1 ≤ registered
  next : words.next = list.next.toUInt64
  entries : words.entries = list.entries.map fun entry => (entry.1.toUInt64, entry.2)

variable {words : WordObservers α} {list : Observers α} {registered : Nat}

theorem inStep_empty : InStep (empty : WordObservers α) .empty 0 :=
  ⟨rfl, fun _ hentry => absurd hentry List.not_mem_nil, rfl, rfl⟩

/-- A word names the entry that its number names. -/
theorem InStep.beq_token (hinStep : InStep words list registered)
    (hfew : registered < UInt64.size) {entry : Token × α} (hentry : entry ∈ list.entries)
    (token : UInt64) : (entry.1.toUInt64 == token) = (entry.1 == token.toNat) := by
  have hfits : entry.1.toUInt64.toNat = entry.1 :=
    UInt64.toNat_ofNat_of_lt' (Nat.lt_of_le_of_lt (hinStep.bounded entry hentry) hfew)
  rw [Bool.eq_iff_iff, beq_iff_eq, beq_iff_eq, ← UInt64.toNat_inj, hfits]

theorem InStep.insert (hinStep : InStep words list registered) (observer : α) :
    (words.call (.insert observer)).1 = (list.call (.insert observer)).1
      ∧ InStep (words.call (.insert observer)).2 (list.call (.insert observer)).2
        (registered + 1) := by
  refine ⟨congrArg Answer.registered hinStep.next, ?counter, ?bounded, ?next, ?entries⟩
  case counter => exact congrArg (· + 1) hinStep.counter
  case bounded =>
    intro entry hentry
    rcases List.mem_append.1 hentry with hold | hnew
    · exact Nat.le_succ_of_le (hinStep.bounded entry hold)
    · rw [List.mem_singleton.1 hnew]
      exact Nat.le_of_eq hinStep.counter
  case next =>
    show words.next + 1 = (list.next + 1).toUInt64
    rw [hinStep.next]
    exact (UInt64.ofNat_add list.next 1).symm
  case entries =>
    show words.entries ++ [(words.next, observer)] = List.map _ (list.entries ++ _)
    rw [List.map_append, ← hinStep.entries, hinStep.next]
    rfl

theorem InStep.remove (hinStep : InStep words list registered) (hfew : registered < UInt64.size)
    (token : UInt64) :
    (words.call (.remove token)).1 = (list.call (.remove token)).1
      ∧ InStep (words.call (.remove token)).2 (list.call (.remove token)).2 registered := by
  have hfound : (words.entries.any fun entry => entry.1 == token)
      = list.entries.any fun entry => entry.1 == token.toNat := by
    rw [hinStep.entries, List.any_map, Bool.eq_iff_iff, List.any_eq_true, List.any_eq_true]
    refine exists_congr fun entry => and_congr_right fun hentry => ?_
    exact Bool.eq_iff_iff.1 (hinStep.beq_token hfew hentry token)
  refine ⟨congrArg Answer.removed hfound, hinStep.counter, ?bounded, hinStep.next, ?entries⟩
  case bounded =>
    intro entry hentry
    exact hinStep.bounded entry (List.mem_filter.1 hentry).1
  case entries =>
    show words.entries.filter _ = List.map _ (list.entries.filter _)
    rw [hinStep.entries, List.filter_map]
    refine congrArg _ (List.filter_congr fun entry hentry => ?_)
    exact congrArg not (hinStep.beq_token hfew hentry token)

/-- A call is answered alike, and the lists stay in step. -/
theorem InStep.call (hinStep : InStep words list registered) (hfew : registered < UInt64.size)
    (next : Call α) :
    (words.call next).1 = (list.call next).1
      ∧ InStep (words.call next).2 (list.call next).2
        (registered + [next].countP Call.registers) := by
  cases next with
  | insert observer => exact hinStep.insert observer
  | remove token => exact hinStep.remove hfew token

/-- The tokens of a run count the registrations. -/
theorem tokens_serve (calls : List (Call α)) :
    ((serve Observers.call .empty calls).1.filterMap Answer.token?)
      = (List.range' 1 (calls.countP Call.registers)).map Nat.toUInt64
      ∧ (serve Observers.call .empty calls).2.next = calls.countP Call.registers + 1 := by
  induction calls using List.reverseRecOn with
  | nil => exact ⟨rfl, rfl⟩
  | append_singleton calls next ih =>
      obtain ⟨htokens, hnext⟩ := ih
      rw [serve_snoc, List.filterMap_append, htokens, List.countP_append]
      cases next with
      | insert observer =>
          refine ⟨?_, congrArg (· + 1) hnext⟩
          show _ ++ [(serve Observers.call .empty calls).2.next.toUInt64]
            = (List.range' 1 (calls.countP Call.registers + 1)).map Nat.toUInt64
          rw [hnext, List.range'_concat, List.map_append, Nat.add_comm 1, Nat.one_mul]
          rfl
      | remove token => exact ⟨List.append_nil _, hnext⟩

/-- Numbers that fit are told apart as words. -/
theorem nodup_map_toUInt64 {numbers : List Nat} (hnodup : numbers.Nodup)
    (hfit : ∀ number ∈ numbers, number < UInt64.size) :
    (numbers.map Nat.toUInt64).Nodup := by
  apply List.Nodup.map_on _ hnodup
  intro first hfirst second hsecond hsame
  rw [← UInt64.toNat_ofNat_of_lt' (hfit first hfirst),
    ← UInt64.toNat_ofNat_of_lt' (hfit second hsecond)]
  exact congrArg UInt64.toNat hsame

/-- With fewer registrations than words, a list that counts in words answers every
run of calls as one that counts without end, it holds the same, and no token is
given twice. -/
theorem words_suffice (calls : List (Call α)) (hfew : calls.countP Call.registers < UInt64.size) :
    (serve WordObservers.call empty calls).1 = (serve Observers.call .empty calls).1
      ∧ InStep (serve WordObservers.call empty calls).2 (serve Observers.call .empty calls).2
        (calls.countP Call.registers)
      ∧ ((serve WordObservers.call empty calls).1.filterMap Answer.token?).Nodup := by
  have hboth : (serve WordObservers.call empty calls).1 = (serve Observers.call .empty calls).1
      ∧ InStep (serve WordObservers.call empty calls).2 (serve Observers.call .empty calls).2
        (calls.countP Call.registers) := by
    induction calls using List.reverseRecOn with
    | nil => exact ⟨rfl, inStep_empty⟩
    | append_singleton calls next ih =>
        rw [List.countP_append] at hfew ⊢
        have hearlier := Nat.lt_of_le_of_lt (Nat.le_add_right ..) hfew
        obtain ⟨hanswers, hinStep⟩ := ih hearlier
        obtain ⟨hanswer, hafter⟩ := hinStep.call hearlier next
        rw [serve_snoc, serve_snoc, hanswers, hanswer]
        exact ⟨rfl, hafter⟩
  refine ⟨hboth.1, hboth.2, ?_⟩
  rw [hboth.1, (tokens_serve calls).1]
  apply nodup_map_toUInt64 List.nodup_range'
  intro token htoken
  rw [List.mem_range'_1] at htoken
  omega

end WordObservers

end Luminaire
