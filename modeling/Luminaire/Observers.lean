/-
Lists of observers, each known by the token it was given.

Tokens count up from one. They stand for words of 64 bits, and as numbers
they have no end: with fewer registrations than there are words nothing
else can be seen of the list, and no token is given twice, so removing with
an old one removes nothing. Whoever notifies works on the observers as
they were when it began; what they do meanwhile changes only the list.
-/

namespace Luminaire

/-- Names a registration, as a word does while there have been fewer
registrations than words. -/
abbrev Token := Nat

structure Observers (α : Type) where
  /-- The token of the next registration. -/
  next : Token
  /-- Tokens and observers, oldest first. -/
  entries : List (Token × α)
  deriving DecidableEq, Repr

namespace Observers

variable {α : Type}

def empty : Observers α := ⟨1, []⟩

instance : Inhabited (Observers α) := ⟨empty⟩

/-- Registers an observer. -/
def insert (observers : Observers α) (observer : α) : Token × Observers α :=
  (observers.next, ⟨observers.next + 1, observers.entries ++ [(observers.next, observer)]⟩)

def contains (observers : Observers α) (token : Token) : Bool :=
  observers.entries.any fun entry => entry.1 == token

/-- Ends a registration. -/
def erase (observers : Observers α) (token : Token) : Observers α :=
  { observers with entries := observers.entries.filter fun entry => entry.1 != token }

/-- Ends a registration and tells whether it was still there. -/
def remove (observers : Observers α) (token : Token) : Bool × Observers α :=
  (observers.contains token, observers.erase token)

/-- The observers, oldest first. -/
def toList (observers : Observers α) : List α := observers.entries.map Prod.snd

/-- The observers that pass a test, with their tokens, oldest first. -/
def such (observers : Observers α) (keep : α → Bool) : List (Token × α) :=
  observers.entries.filter fun entry => keep entry.2

def size (observers : Observers α) : Nat := observers.entries.length

@[simp] theorem toList_insert (observers : Observers α) (observer : α) :
    (observers.insert observer).2.toList = observers.toList ++ [observer] := by
  simp [insert, toList]

theorem contains_eq_true_iff (observers : Observers α) (token : Token) :
    observers.contains token = true ↔ ∃ observer, (token, observer) ∈ observers.entries := by
  simp [contains, List.any_eq_true]

theorem mem_entries_erase (observers : Observers α) (token : Token) (entry : Token × α) :
    entry ∈ (observers.erase token).entries ↔ entry ∈ observers.entries ∧ entry.1 ≠ token := by
  simp [erase]

end Observers

end Luminaire
