/-
The keys of the group, by identifier and by age.

A ring keeps its keys in one list. Here they are kept as a table, where a
key is looked up under its identifier, and a queue of identifiers, where the
oldest is found that has to go. The two have to name the same keys through
every insertion and every eviction, also where an identifier is drawn that
is just about to go, or has gone. `KeyTable.Holds` says that they do, for a
list of keys in the order of issue; `InStep` that this list is a ring's, and
`InStep.generate` that the same call on both has the same answer and leaves
them in step.

What a call does is read off its stream of randomness beforehand
(`keyIn?`, `KeyRing.drawKey_eq`), so a run is settled by its streams, and the
keys that are held after it are the last of those that were issued
(`KeyRing.keys_issueAll`).
-/
import Luminaire.Proofs.Group.Rotation
import Mathlib.Data.List.Induction

namespace Luminaire

-- ============================================================ streams

/-- The identifiers a stream is cut into, four bytes each, highest first. -/
def idDraws : Entropy → List UInt32
  | a :: b :: c :: d :: rest => (bigEndian [a, b, c, d]).toUInt32 :: idDraws rest
  | _ => []

/-- The key a call finds in its stream while some identifiers are taken, and the
stream behind it. Thirty-two bytes are the key and sixteen its initial value;
of the identifiers behind them it has the first that is neither zero nor taken.
There is none if the stream ends before that. -/
def keyIn? (taken : List UInt32) (stream : Entropy) : Option (GroupKey × Entropy) :=
  let ids := idDraws (stream.drop 48)
  let isFree := fun id => decide (id ≠ 0 ∧ id ∉ taken)
  (ids.find? isFree).map fun id =>
    (⟨id, stream.take 32, (stream.drop 32).take 16⟩,
      stream.drop (48 + 4 * (ids.findIdx isFree + 1)))

/-- What did not serve a draw was too short for it. -/
theorem Entropy.length_lt_of_draw? {entropy : Entropy} {count : Nat}
    (hdraw : entropy.draw? count = none) : entropy.length < count := by
  refine Nat.lt_of_not_le fun hle => ?_
  have hserved := draw?_eq_some_iff.2
    ⟨(List.take_append_drop count entropy).symm, List.length_take_of_le hle⟩
  rw [hdraw] at hserved
  cases hserved

/-- In a stream that is not longer than a key and its initial value there is
nothing to be found. -/
theorem keyIn?_of_short {stream : Entropy} (hshort : stream.length ≤ 48) (taken : List UInt32) :
    keyIn? taken stream = none := by
  rw [keyIn?, List.drop_eq_nil_of_le hshort]
  rfl

namespace KeyRing

/-- The identifier is the first that is free, and what lies behind it is left. -/
theorem drawId_eq (ring : KeyRing) (entropy : Entropy) :
    let isFree := fun id => decide (id ≠ 0 ∧ id ∉ ring.ids)
    ring.drawId entropy
      = match (idDraws entropy).find? isFree with
        | some id => (some id, entropy.drop (4 * ((idDraws entropy).findIdx isFree + 1)))
        | none => (none, entropy.drop (4 * (idDraws entropy).length)) := by
  intro isFree
  fun_induction drawId ring entropy with
  | case1 a b c d rest id hgood =>
      have hfree : isFree id = true :=
        decide_eq_true ⟨hgood.1, contains_eq_false_iff.1 hgood.2⟩
      rw [idDraws, List.find?_cons_of_pos hfree, List.findIdx_cons, hfree]
      rfl
  | case2 a b c d rest id hbad ih =>
      have htaken : isFree id = false := by
        refine decide_eq_false fun hgood => hbad ⟨hgood.1, contains_eq_false_iff.2 hgood.2⟩
      rw [ih, idDraws, List.find?_cons_of_neg (Bool.not_eq_true _ ▸ htaken), List.findIdx_cons,
        htaken]
      rfl
  | case3 short hshort =>
      rw [idDraws]
      · rfl
      · exact hshort

/-- A call draws the key that is in its stream, and the call after it draws on
from there. -/
theorem drawKey_eq (ring : KeyRing) (stream : Entropy) :
    match keyIn? ring.ids stream with
    | some (key, left) => ring.drawKey stream = (.ok key, left)
    | none => (ring.drawKey stream).1 = .error (.entropy .groupKey) := by
  unfold drawKey
  cases hkey : stream.draw? 32 with
  | none =>
      have hshort := Entropy.length_lt_of_draw? hkey
      rw [keyIn?_of_short (by omega)]
  | some parts =>
      obtain ⟨key, behind⟩ := parts
      obtain ⟨rfl, hlength⟩ := Entropy.draw?_eq_some_iff.1 hkey
      simp only
      cases hiv : behind.draw? 16 with
      | none =>
          have hshort := Entropy.length_lt_of_draw? hiv
          rw [keyIn?_of_short (by rw [List.length_append, hlength]; omega)]
      | some parts =>
          obtain ⟨iv, ids⟩ := parts
          obtain ⟨rfl, hlength'⟩ := Entropy.draw?_eq_some_iff.1 hiv
          have hids : (key ++ (iv ++ ids)).drop 48 = ids := by
            rw [← List.append_assoc,
              List.drop_left' (by rw [List.length_append, hlength, hlength'])]
          rw [keyIn?, List.take_left' hlength, List.drop_left' hlength, List.take_left' hlength',
            ← List.drop_drop, hids]
          simp only [drawId_eq]
          cases (idDraws ids).find? fun id => decide (id ≠ 0 ∧ id ∉ ring.ids) with
          | none => rfl
          | some id => rfl

/-- Zero and what is taken are passed over. -/
example : keyIn? [5] (List.replicate 48 7 ++ [0, 0, 0, 0, 0, 0, 0, 5, 0, 0, 1, 5, 9])
    = some (⟨261, List.replicate 32 7, List.replicate 16 7⟩, [9]) := by decide

end KeyRing

-- ============================================================== tables

/-- Keys under their identifiers, and the identifiers in the order of issue. -/
structure KeyTable where
  depth : Nat
  records : Std.HashMap UInt32 GroupKey
  order : List UInt32

namespace KeyTable

/-- A table without keys. -/
def new (depth : Nat) : KeyTable := ⟨max depth 1, ∅, []⟩

def get? (table : KeyTable) (id : UInt32) : Option GroupKey := table.records[id]?

def contains (table : KeyTable) (id : UInt32) : Bool := table.records.contains id

/-- The key in use: that of the last identifier. -/
def current? (table : KeyTable) : Option GroupKey := table.order.getLast?.bind table.get?

/-- Takes identifiers from the front, and the keys under them, until there are
no more than the depth allows. -/
def evict (depth : Nat) (records : Std.HashMap UInt32 GroupKey) : List UInt32 → KeyTable
  | [] => ⟨depth, records, []⟩
  | oldest :: order =>
      if depth < (oldest :: order).length then evict depth (records.erase oldest) order
      else ⟨depth, records, oldest :: order⟩

/-- Adds a key as the current one. -/
def insert (table : KeyTable) (key : GroupKey) : KeyTable :=
  evict table.depth (table.records.insert key.id key) (table.order ++ [key.id])

/-- Draws identifiers until one is neither zero nor in the table. -/
def drawId (table : KeyTable) : Entropy → Option UInt32 × Entropy
  | a :: b :: c :: d :: rest =>
      let id := (bigEndian [a, b, c, d]).toUInt32
      if id ≠ 0 ∧ table.contains id = false then (some id, rest) else table.drawId rest
  | short => (none, short)

/-- Issues a new key. What is answered is what the table then has under the new
identifier. -/
def generate (table : KeyTable) (entropy : Entropy) :
    Except CryptoError (Option GroupKey) × KeyTable × Entropy :=
  match entropy.draw? 32 with
  | none => (.error (.entropy .groupKey), table, entropy)
  | some (key, entropy) =>
      match entropy.draw? 16 with
      | none => (.error (.entropy .groupKey), table, entropy)
      | some (iv, entropy) =>
          match table.drawId entropy with
          | (none, entropy) => (.error (.entropy .groupKey), table, entropy)
          | (some id, entropy) =>
              let table := table.insert ⟨id, key, iv⟩
              (.ok (table.get? id), table, entropy)

-- ============================================================ contents

/-- The table holds these keys, oldest first, and the queue is in step. -/
structure Holds (table : KeyTable) (keys : List GroupKey) : Prop where
  order : table.order = keys.map GroupKey.id
  distinct : (keys.map GroupKey.id).Nodup
  records : ∀ id, table.records[id]? = keys.find? fun key => key.id == id

variable {table : KeyTable} {keys : List GroupKey} {key : GroupKey}

theorem holds_new (depth : Nat) : (new depth).Holds [] :=
  ⟨rfl, List.nodup_nil, fun _ => Std.HashMap.getElem?_empty⟩

theorem find?_id_eq_none {id : UInt32} (hother : id ∉ keys.map GroupKey.id) :
    keys.find? (fun key => key.id == id) = none :=
  List.find?_eq_none.2 fun _ hmem hid => hother (beq_iff_eq.1 hid ▸ List.mem_map_of_mem hmem)

theorem Holds.get?_iff (hholds : table.Holds keys) (id : UInt32) :
    table.get? id = some key ↔ key ∈ keys ∧ key.id = id := by
  rw [get?, hholds.records]
  exact KeyRing.find?_id_eq_some_iff hholds.distinct id

/-- Table and queue have the same identifiers. -/
theorem Holds.contains_iff (hholds : table.Holds keys) (id : UInt32) :
    table.contains id = true ↔ id ∈ table.order := by
  rw [contains, Std.HashMap.contains_eq_isSome_getElem?, Option.isSome_iff_exists, hholds.order,
    List.mem_map]
  exact exists_congr fun _ => hholds.get?_iff id

theorem Holds.current?_eq (hholds : table.Holds keys) : table.current? = keys.getLast? := by
  rw [current?, hholds.order, List.getLast?_map]
  cases hlast : keys.getLast? with
  | none => rfl
  | some key => exact (hholds.get?_iff key.id).2 ⟨List.mem_of_getLast? hlast, rfl⟩

/-- The keys that go are the oldest, each with its identifier. -/
theorem holds_evict {depth : Nat} {records : Std.HashMap UInt32 GroupKey}
    (hdistinct : (keys.map GroupKey.id).Nodup)
    (hrecords : ∀ id, records[id]? = keys.find? fun key => key.id == id) :
    (evict depth records (keys.map GroupKey.id)).depth = depth
      ∧ (evict depth records (keys.map GroupKey.id)).Holds (KeyRing.newest depth keys) := by
  induction keys generalizing records with
  | nil =>
      rw [KeyRing.newest_of_le (Nat.zero_le depth)]
      exact ⟨rfl, rfl, List.nodup_nil, hrecords⟩
  | cons key keys ih =>
      obtain ⟨hgone, hdistinct'⟩ := List.nodup_cons.1 hdistinct
      rw [List.map_cons, evict, List.length_cons, List.length_map]
      by_cases hfull : depth < keys.length + 1
      · have hnewest : KeyRing.newest depth (key :: keys) = KeyRing.newest depth keys := by
          rw [KeyRing.newest, KeyRing.newest, List.length_cons,
            Nat.sub_add_comm (Nat.le_of_lt_succ hfull), List.drop_succ_cons]
        rw [if_pos hfull, hnewest]
        refine ih hdistinct' fun id => ?_
        rw [Std.HashMap.getElem?_erase, hrecords, List.find?_cons]
        by_cases hid : (key.id == id) = true
        · rw [if_pos hid, find?_id_eq_none (beq_iff_eq.1 hid ▸ hgone)]
        · rw [if_neg hid, Bool.not_eq_true _ |>.mp hid]
      · rw [if_neg hfull, KeyRing.newest_of_le (Nat.le_of_not_lt hfull)]
        exact ⟨rfl, rfl, hdistinct, hrecords⟩

/-- A key under a new identifier is added, and the oldest go. -/
theorem Holds.insert (hholds : table.Holds keys) (hfresh : key.id ∉ keys.map GroupKey.id) :
    (table.insert key).depth = table.depth
      ∧ (table.insert key).Holds (KeyRing.newest table.depth (keys ++ [key])) := by
  have horder : table.order ++ [key.id] = (keys ++ [key]).map GroupKey.id := by
    rw [hholds.order, List.map_append, List.map_singleton]
  rw [KeyTable.insert, horder]
  refine holds_evict ?_ fun id => ?_
  · rw [List.map_append, List.map_singleton, ← List.concat_eq_append]
    exact hholds.distinct.concat hfresh
  · rw [Std.HashMap.getElem?_insert, hholds.records, List.find?_append, List.find?_singleton]
    by_cases hid : (key.id == id) = true
    · rw [if_pos hid, if_pos hid, find?_id_eq_none (beq_iff_eq.1 hid ▸ hfresh)]
      rfl
    · rw [if_neg hid, if_neg hid, Option.or_none]

-- ============================================================== calls

/-- The table is the ring, kept in two. -/
structure InStep (table : KeyTable) (ring : KeyRing) : Prop where
  positive : 0 < ring.depth
  depth : table.depth = ring.depth
  holds : table.Holds ring.keys

theorem inStep_new (depth : Nat) : InStep (new depth) (.new depth) :=
  ⟨Nat.le_max_right depth 1, rfl, holds_new depth⟩

variable {ring : KeyRing}

theorem InStep.contains_eq (hstep : InStep table ring) (id : UInt32) :
    table.contains id = ring.contains id := by
  rw [contains, Std.HashMap.contains_eq_isSome_getElem?, hstep.holds.records]
  rfl

theorem InStep.drawId_eq (hstep : InStep table ring) (entropy : Entropy) :
    table.drawId entropy = ring.drawId entropy := by
  fun_induction KeyRing.drawId ring entropy with
  | case1 a b c d rest id hgood =>
      rw [← hstep.contains_eq] at hgood
      rw [drawId, if_pos hgood]
  | case2 a b c d rest id hbad ih =>
      rw [← hstep.contains_eq] at hbad
      rw [drawId, if_neg hbad, ih]
  | case3 short hshort =>
      rw [drawId]
      exact hshort

/-- A call on the table draws what a call on the ring draws. -/
theorem InStep.generate_eq (hstep : InStep table ring) (entropy : Entropy) :
    table.generate entropy
      = match ring.drawKey entropy with
        | (.error fault, left) => (.error fault, table, left)
        | (.ok key, left) => (.ok ((table.insert key).get? key.id), table.insert key, left) := by
  unfold generate KeyRing.drawKey
  cases entropy.draw? 32 with
  | none => rfl
  | some parts =>
      simp only
      cases parts.2.draw? 16 with
      | none => rfl
      | some parts' =>
          simp only [hstep.drawId_eq]
          cases ring.drawId parts'.2 with
          | mk found left =>
              cases found with
              | none => rfl
              | some id => rfl

/-- Insertion keeps them in step, and the new key is found. -/
theorem InStep.insert (hstep : InStep table ring) (hdraws : ring.Draws key) :
    InStep (table.insert key) (ring.push key) ∧ (table.insert key).get? key.id = some key := by
  have hfresh : key.id ∉ ring.keys.map GroupKey.id :=
    KeyRing.contains_eq_false_iff.1 hdraws.fresh
  obtain ⟨hdepth, hholds⟩ := hstep.holds.insert hfresh
  rw [hstep.depth] at hdepth hholds
  refine ⟨⟨hstep.positive, hdepth, hholds⟩, (hholds.get?_iff key.id).2 ⟨?_, rfl⟩⟩
  have hpositive := hstep.positive
  rw [KeyRing.newest, List.drop_append_of_le_length]
  · exact List.mem_append_right _ List.mem_cons_self
  · rw [List.length_append, List.length_singleton]
    omega

/-- A call on both says the same and leaves them in step. -/
theorem InStep.generate (hstep : InStep table ring) (entropy : Entropy) :
    (table.generate entropy).1 = (ring.generate entropy).1.map some
      ∧ InStep (table.generate entropy).2.1 (ring.generate entropy).2.1
      ∧ (table.generate entropy).2.2 = (ring.generate entropy).2.2 := by
  rw [hstep.generate_eq, KeyRing.generate]
  obtain ⟨key, left, hdraws, hdraw⟩ | ⟨left, hdraw⟩ := ring.drawKey_cases entropy
  · obtain ⟨hafter, hget⟩ := hstep.insert hdraws
    simp only [hdraw, hget]
    exact ⟨rfl, hafter, trivial⟩
  · simp only [hdraw]
    exact ⟨rfl, hstep, trivial⟩

end KeyTable

-- =============================================================== runs

/-- A call for a key. Its randomness comes from where the call before it stopped
drawing, or from somewhere else. -/
inductive KeyCall where
  | next
  | fresh (entropy : Entropy)
  deriving DecidableEq, Repr

/-- The stream a call draws from. -/
def KeyCall.stream (left : Entropy) : KeyCall → Entropy
  | .next => left
  | .fresh entropy => entropy

/-- What calls one after another lead to: the answers, oldest first, what holds
the keys then, and the randomness that is left. -/
structure Issued (α σ : Type) where
  answers : List α
  store : σ
  left : Entropy

/-- What came of one call more. -/
def Issued.add {α σ : Type} (run : Issued α σ) (next : α × σ × Entropy) : Issued α σ :=
  ⟨run.answers ++ [next.1], next.2.1, next.2.2⟩

/-- Calls one after another. -/
def issueAll {α σ : Type} (generate : σ → Entropy → α × σ × Entropy) (store : σ) (left : Entropy)
    (calls : List KeyCall) : Issued α σ :=
  calls.foldl (fun run call => run.add (generate run.store (call.stream run.left)))
    ⟨[], store, left⟩

theorem issueAll_concat {α σ : Type} (generate : σ → Entropy → α × σ × Entropy) (store : σ)
    (left : Entropy) (calls : List KeyCall) (call : KeyCall) :
    let run := issueAll generate store left calls
    issueAll generate store left (calls ++ [call])
      = run.add (generate run.store (call.stream run.left)) :=
  List.foldl_concat ..

/-- After any calls a ring is orderly, has no key under zero, and has the last of
those that were issued. -/
theorem KeyRing.keys_issueAll (depth : Nat) (entropy : Entropy) (calls : List KeyCall) :
    let run := issueAll KeyRing.generate (.new depth) entropy calls
    run.store.Orderly ∧ (∀ key ∈ run.store.keys, key.id ≠ 0)
      ∧ run.store = ⟨max depth 1, newest (max depth 1) (run.answers.filterMap Except.toOption)⟩ := by
  induction calls using List.reverseRecOn with
  | nil =>
      refine ⟨orderly_new depth, nofun, ?_⟩
      show new depth = ⟨max depth 1, newest (max depth 1) []⟩
      rw [newest_of_le (Nat.zero_le _)]
      rfl
  | append_singleton calls call ih =>
      rw [issueAll_concat]
      generalize issueAll KeyRing.generate (.new depth) entropy calls = run at ih
      obtain ⟨horderly, hnonzero, hstore⟩ := ih
      simp only [KeyRing.generate]
      obtain ⟨key, left, hdraws, hdraw⟩ | ⟨left, hdraw⟩ :=
        run.store.drawKey_cases (call.stream run.left)
      · have hnonzero' : ∀ other ∈ (run.store.push key).keys, other.id ≠ 0 := by
          intro other hother
          rcases List.mem_append.1 (List.mem_of_mem_drop hother) with hold | hnew
          · exact hnonzero other hold
          · exact List.mem_singleton.1 hnew ▸ hdraws.nonzero
        simp only [hdraw, Issued.add, List.filterMap_append]
        refine ⟨horderly.push hdraws, hnonzero', ?_⟩
        show run.store.push key = ⟨max depth 1, newest (max depth 1) (_ ++ [key])⟩
        rw [← newest_newest_append, hstore]
        rfl
      · simp only [hdraw, Issued.add, List.filterMap_append]
        refine ⟨horderly, hnonzero, ?_⟩
        show run.store = ⟨max depth 1, newest (max depth 1) (_ ++ [])⟩
        rw [List.append_nil]
        exact hstore

namespace KeyTable

/-- What a call does is settled by what is in its stream. -/
theorem InStep.generate_of_keyIn? {table : KeyTable} {ring : KeyRing} (hstep : InStep table ring)
    (stream : Entropy) :
    match keyIn? table.order stream with
    | some (key, left) => table.generate stream = (.ok (some key), table.insert key, left)
    | none => ∃ left, table.generate stream = (.error (.entropy .groupKey), table, left) := by
  have horder : table.order = ring.ids := hstep.holds.order
  have hdrawn := ring.drawKey_eq stream
  rw [horder, hstep.generate_eq]
  obtain ⟨key, left, hdraws, hdraw⟩ | ⟨left, hdraw⟩ := ring.drawKey_cases stream
  · obtain ⟨-, hget⟩ := hstep.insert hdraws
    rw [hdraw] at hdrawn ⊢
    cases hkey : keyIn? ring.ids stream with
    | none =>
        rw [hkey] at hdrawn
        cases hdrawn
    | some found =>
        rw [hkey] at hdrawn
        cases hdrawn
        simp only [hget]
  · rw [hdraw] at hdrawn ⊢
    cases hkey : keyIn? ring.ids stream with
    | none => exact ⟨left, rfl⟩
    | some found =>
        rw [hkey] at hdrawn
        cases hdrawn

/-- Calls on both say the same, draw the same and leave them in step. -/
theorem inStep_issueAll (depth : Nat) (entropy : Entropy) (calls : List KeyCall) :
    let run := issueAll generate (new depth) entropy calls
    let ringRun := issueAll KeyRing.generate (.new depth) entropy calls
    run.answers = ringRun.answers.map (Except.map some)
      ∧ InStep run.store ringRun.store ∧ run.left = ringRun.left := by
  induction calls using List.reverseRecOn with
  | nil => exact ⟨rfl, inStep_new depth, rfl⟩
  | append_singleton calls call ih =>
      obtain ⟨hanswers, hstep, hleft⟩ := ih
      rw [issueAll_concat, issueAll_concat, hleft]
      obtain ⟨hanswer, hafter, hrest⟩ := hstep.generate (call.stream _)
      refine ⟨?_, hafter, hrest⟩
      rw [Issued.add, Issued.add, List.map_append, hanswers, hanswer]
      rfl

/-- The last generations are kept, and nothing else.

Let there be any calls for keys, on one stream or on several. The table says
what the ring says, and a call that succeeds is not left without its key. Of
the keys that were issued both have the last, as many as they are deep, in the
order of issue: the queue names them, no two have one identifier and none has
zero, the table has exactly the identifiers of the queue, a key is found
exactly if it is one of them, and the one in use is the last that was issued.
And a call more issues the key that is in its stream, which is added, and the
oldest go; or its stream ends before that, and nothing changes. -/
theorem last_generations_kept (depth : Nat) (entropy : Entropy) (calls : List KeyCall) :
    let run := issueAll generate (new depth) entropy calls
    let ringRun := issueAll KeyRing.generate (.new depth) entropy calls
    let table := run.store
    let issued := ringRun.answers.filterMap Except.toOption
    let kept := KeyRing.newest (max depth 1) issued
    run.answers = ringRun.answers.map (Except.map some)
      ∧ ringRun.store = ⟨max depth 1, kept⟩
      ∧ kept.length = min issued.length (max depth 1)
      ∧ table.order = kept.map GroupKey.id ∧ table.order.Nodup ∧ 0 ∉ table.order
      ∧ (∀ id, table.contains id = true ↔ id ∈ table.order)
      ∧ (∀ id key, table.get? id = some key ↔ key ∈ kept ∧ key.id = id)
      ∧ table.current? = issued.getLast?
      ∧ ∀ call, let later := issueAll generate (new depth) entropy (calls ++ [call])
        match keyIn? table.order (call.stream run.left) with
        | some (key, left) => later = run.add (.ok (some key), table.insert key, left)
        | none => ∃ left, later = run.add (.error (.entropy .groupKey), table, left) := by
  intro run ringRun table issued kept
  obtain ⟨hanswers, hstep, -⟩ := inStep_issueAll depth entropy calls
  obtain ⟨-, hnonzero, hstore⟩ := KeyRing.keys_issueAll depth entropy calls
  change InStep table ringRun.store at hstep
  change ringRun.store = ⟨max depth 1, kept⟩ at hstore
  have hholds : table.Holds kept := by
    rw [hstore] at hstep
    exact hstep.holds
  have hlength : kept.length = min issued.length (max depth 1) := by
    show (issued.drop _).length = _
    rw [List.length_drop]
    omega
  refine ⟨hanswers, hstore, hlength, hholds.order, ?_, ?_, hholds.contains_iff,
    fun id key => hholds.get?_iff id, ?_, fun call => ?_⟩
  · rw [hholds.order]
    exact hholds.distinct
  · intro hzero
    rw [hholds.order] at hzero
    obtain ⟨key, hkey, hid⟩ := List.mem_map.1 hzero
    change ∀ key ∈ ringRun.store.keys, key.id ≠ 0 at hnonzero
    rw [hstore] at hnonzero
    exact hnonzero key hkey hid
  · rw [hholds.current?_eq]
    exact KeyRing.getLast?_newest (Nat.le_max_right depth 1) issued
  · have hcall := hstep.generate_of_keyIn? (call.stream run.left)
    have hlater := issueAll_concat generate (new depth) entropy calls call
    simp only
    split
    next key left hfound =>
      rw [hfound] at hcall
      exact hlater.trans (congrArg run.add hcall)
    next hnone =>
      rw [hnone] at hcall
      obtain ⟨left, hcall⟩ := hcall
      exact ⟨left, hlater.trans (congrArg run.add hcall)⟩

end KeyTable

end Luminaire
