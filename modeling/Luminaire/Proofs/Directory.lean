/-
What a directory holds is what was entered last.

A directory changes by entries: a node is put in, a channel is put in, or a
node is taken out again, with the channels of its number (`Entry`). Nodes
are told apart by their identifier and channels by number and index, so an
entry can undo an earlier one: a node goes when another comes under its
identifier or that identifier is taken out (`Entry.undoesNode`), a channel
when another comes under its number and index, or when a node of its number
is really taken out (`Entry.undoesChannel`). Whether a removal finds a node
depends on the directory it meets, and its number may be another than that
of the node which was known under the identifier before.

For either kind one entry decides in the same way what is held after it, so
one induction over the entries serves both (`holds_iff_stands`): a record is
held exactly if it was entered and nothing since undid that.

All channels are kept in one list. It stays in order of the index, with no
two channels of one number and index (`Precedes`), so the channels of each
node are strictly ascending; and a channel that is put in leaves its node
with what sorting its other channels behind it would give
(`channelsOf_insertChannel_self`).
-/
import Mathlib.Data.List.Find
import Mathlib.Data.List.Induction
import Mathlib.Data.List.Nodup
import Mathlib.Data.List.TakeWhile
import Luminaire.Directory

namespace Luminaire.Directory

variable {directory : Directory} {uuid : Uuid} {number : UInt32} {channel : NodeChannel}

-- ============================================================ entries

/-- What changes a directory. -/
inductive Entry where
  | node (node : Node)
  | channel (channel : NodeChannel)
  | removal (uuid : Uuid)

/-- The directory after one entry. -/
def enter (directory : Directory) : Entry → Directory
  | .node node => directory.insertNode node
  | .channel channel => directory.insertChannel channel
  | .removal uuid => (directory.removeNode uuid).2

/-- A directory after some entries. -/
def entered (entries : List Entry) : Directory := entries.foldl enter .empty

theorem entered_concat (entries : List Entry) (entry : Entry) :
    entered (entries ++ [entry]) = (entered entries).enter entry := by
  rw [entered, List.foldl_append]
  rfl

-- ============================================================== nodes

theorem removeNode_of_absent (habsent : directory.find? uuid = none) :
    directory.removeNode uuid = (none, directory) := by
  rw [removeNode, habsent]

theorem removeNode_of_found {node : Node} (hfound : directory.find? uuid = some node) :
    directory.removeNode uuid
      = (some node, {
          nodes := directory.nodes.filter fun other => other.uuid != uuid
          channels := directory.channels.filter fun channel => channel.nodeId != node.id }) := by
  rw [removeNode, hfound]

theorem removeNode_fst (directory : Directory) (uuid : Uuid) :
    (directory.removeNode uuid).1 = directory.find? uuid := by
  cases hfound : directory.find? uuid with
  | none => rw [removeNode_of_absent hfound]
  | some node => rw [removeNode_of_found hfound]

/-- What is looked for among nodes of other identifiers. -/
theorem find?_without (nodes : List Node) (gone : Uuid) :
    (nodes.filter fun node => node.uuid != gone).find? (fun node => node.uuid == uuid)
      = if uuid = gone then none else nodes.find? fun node => node.uuid == uuid := by
  by_cases hgone : uuid = gone
  · rw [if_pos hgone, List.find?_filter]
    refine List.find?_eq_none.2 fun node _ hboth => ?_
    obtain ⟨hother, hsame⟩ := of_decide_eq_true hboth
    rw [beq_iff_eq.1 hsame, hgone, bne_self_eq_false] at hother
    cases hother
  · rw [if_neg hgone, List.find?_filter]
    refine List.find?_congr fun node _ => ?_
    cases hsame : node.uuid == uuid with
    | false => simp
    | true =>
        have hother : (node.uuid != gone) = true :=
          bne_iff_ne.2 fun heq => hgone ((beq_iff_eq.1 hsame).symm.trans heq)
        simp [hother]

theorem find?_insertNode (directory : Directory) (node : Node) (uuid : Uuid) :
    (directory.insertNode node).find? uuid
      = if uuid = node.uuid then some node else directory.find? uuid := by
  unfold insertNode find?
  by_cases hsame : uuid = node.uuid
  · rw [List.find?_cons_of_pos (by simpa using hsame.symm), if_pos hsame]
  · rw [List.find?_cons_of_neg (by simpa using Ne.symm hsame), find?_without, if_neg hsame,
      if_neg hsame]

theorem find?_removeNode (directory : Directory) (gone uuid : Uuid) :
    (directory.removeNode gone).2.find? uuid
      = if uuid = gone then none else directory.find? uuid := by
  cases hfound : directory.find? gone with
  | none =>
      rw [removeNode_of_absent hfound]
      split
      · next hsame => rw [hsame, hfound]
      · rfl
  | some node =>
      rw [removeNode_of_found hfound]
      exact find?_without directory.nodes gone

-- =========================================================== channels

/-- How two channels of one list may follow each other: in order of their
index, and at one index only for different nodes. -/
def Precedes (before after : NodeChannel) : Prop :=
  before.index ≤ after.index ∧ (before.nodeId = after.nodeId → before.index ≠ after.index)

theorem mem_channelsOf :
    channel ∈ directory.channelsOf number
      ↔ channel ∈ directory.channels ∧ channel.nodeId = number := by
  rw [channelsOf, List.mem_filter, beq_iff_eq]

/-- A channel is put among the others. -/
theorem placeChannel_perm (channel : NodeChannel) (channels : List NodeChannel) :
    (placeChannel channel channels).Perm (channel :: channels) := by
  have hparts := List.takeWhile_append_dropWhile
    (p := fun other : NodeChannel => other.index < channel.index) (l := channels)
  have hmiddle := @List.perm_middle _ channel (channels.takeWhile (·.index < channel.index))
    (channels.dropWhile (·.index < channel.index))
  rwa [hparts] at hmiddle

/-- Behind those of smaller index there are only others. -/
theorem le_of_mem_dropWhile {channels : List NodeChannel} (hordered : channels.Pairwise Precedes)
    {index : UInt32} (hmem : channel ∈ channels.dropWhile (·.index < index)) :
    index ≤ channel.index := by
  induction channels with
  | nil => cases hmem
  | cons first channels ih =>
      obtain ⟨hfirst, hrest⟩ := List.pairwise_cons.1 hordered
      by_cases hsmaller : first.index < index
      · rw [List.dropWhile_cons_of_pos (by simpa using hsmaller)] at hmem
        exact ih hrest hmem
      · rw [List.dropWhile_cons_of_neg (by simpa using hsmaller)] at hmem
        have hreached : index ≤ first.index := UInt32.not_lt.1 hsmaller
        rcases List.mem_cons.1 hmem with rfl | hlater
        · exact hreached
        · exact UInt32.le_trans hreached (hfirst channel hlater).1

theorem placeChannel_ordered {channels : List NodeChannel} (hordered : channels.Pairwise Precedes)
    (hfree : ∀ other ∈ channels, other.nodeId = channel.nodeId → other.index ≠ channel.index) :
    (placeChannel channel channels).Pairwise Precedes := by
  have hfront := List.takeWhile_sublist (l := channels) fun other => other.index < channel.index
  have hback := List.dropWhile_sublist (l := channels) fun other => other.index < channel.index
  refine List.pairwise_append.2 ⟨hordered.sublist hfront,
    List.pairwise_cons.2 ⟨fun later hlater => ?_, hordered.sublist hback⟩,
    fun earlier hearlier later hlater => ?_⟩
  · exact ⟨le_of_mem_dropWhile hordered hlater,
      fun hnode => Ne.symm (hfree later (hback.subset hlater) hnode.symm)⟩
  · have hsmaller : earlier.index < channel.index := by
      simpa using List.mem_takeWhile_imp hearlier
    have hreached : channel.index ≤ later.index := by
      rcases List.mem_cons.1 hlater with rfl | hlater
      · exact UInt32.le_refl _
      · exact le_of_mem_dropWhile hordered hlater
    have hlt : earlier.index < later.index := UInt32.lt_of_lt_of_le hsmaller hreached
    exact ⟨UInt32.le_of_lt hlt, fun _ => UInt32.ne_of_lt hlt⟩

theorem mem_channels_insertChannel {other : NodeChannel} :
    channel ∈ (directory.insertChannel other).channels
      ↔ channel = other
        ∨ channel ∈ directory.channels
          ∧ ¬ (other.nodeId = channel.nodeId ∧ other.index = channel.index) := by
  unfold insertChannel
  rw [(placeChannel_perm other _).mem_iff, List.mem_cons, List.mem_filter]
  rw [Bool.or_eq_true, bne_iff_ne, bne_iff_ne, ← not_and_or, eq_comm (a := channel.nodeId),
    eq_comm (a := channel.index)]

theorem mem_channels_removeNode :
    channel ∈ (directory.removeNode uuid).2.channels
      ↔ channel ∈ directory.channels
        ∧ ¬ ∃ node, directory.find? uuid = some node ∧ node.id = channel.nodeId := by
  cases hfound : directory.find? uuid with
  | none =>
      rw [removeNode_of_absent hfound]
      simp
  | some node =>
      rw [removeNode_of_found hfound, List.mem_filter, bne_iff_ne]
      simp [eq_comm]

/-- Every entry leaves the channels in order. -/
theorem enter_ordered (hordered : directory.channels.Pairwise Precedes) (entry : Entry) :
    (directory.enter entry).channels.Pairwise Precedes := by
  cases entry with
  | node node => exact hordered
  | channel channel =>
      refine placeChannel_ordered (hordered.filter _) fun other hother hnode hindex => ?_
      obtain ⟨-, hdiffers⟩ := List.mem_filter.1 hother
      simp [hnode, hindex] at hdiffers
  | removal uuid =>
      show (directory.removeNode uuid).2.channels.Pairwise Precedes
      cases hfound : directory.find? uuid with
      | none => rwa [removeNode_of_absent hfound]
      | some node =>
          rw [removeNode_of_found hfound]
          exact hordered.filter _

theorem entered_ordered (entries : List Entry) :
    (entered entries).channels.Pairwise Precedes := by
  induction entries using List.reverseRecOn with
  | nil => exact List.Pairwise.nil
  | append_singleton entries entry ih =>
      rw [entered_concat]
      exact enter_ordered ih entry

/-- The channels of one node are strictly ascending. -/
theorem channelsOf_ascending (hordered : directory.channels.Pairwise Precedes)
    (number : UInt32) : (directory.channelsOf number).Pairwise (·.index < ·.index) := by
  refine (hordered.filter _).imp_of_mem fun {before after} hbefore hafter hprecedes => ?_
  have hnode : before.nodeId = number := (mem_channelsOf.1 hbefore).2
  have hnode' : after.nodeId = number := (mem_channelsOf.1 hafter).2
  exact UInt32.lt_of_le_of_ne hprecedes.1 (hprecedes.2 (hnode.trans hnode'.symm))

/-- Of one node there is one channel at most for each index. -/
theorem eq_of_index_eq (hordered : directory.channels.Pairwise Precedes)
    {left right : NodeChannel} (hleft : left ∈ directory.channelsOf number)
    (hright : right ∈ directory.channelsOf number) (hindex : left.index = right.index) :
    left = right := by
  have hdistinct : ((directory.channelsOf number).map (·.index)).Nodup :=
    List.pairwise_map.2 ((channelsOf_ascending hordered number).imp UInt32.ne_of_lt)
  exact List.inj_on_of_nodup_map hdistinct hleft hright hindex

/-- The channels of a node that gets another one, in some order. -/
theorem channelsOf_insertChannel_perm (directory : Directory) (channel : NodeChannel) :
    ((directory.insertChannel channel).channelsOf channel.nodeId).Perm
      (channel :: (directory.channelsOf channel.nodeId).filter fun other =>
        other.index != channel.index) := by
  have hplaced := (placeChannel_perm channel (directory.channels.filter fun other =>
    other.nodeId != channel.nodeId || other.index != channel.index)).filter
      fun other => other.nodeId == channel.nodeId
  rw [List.filter_cons_of_pos (by simp), List.filter_filter] at hplaced
  refine hplaced.trans (List.Perm.of_eq (congrArg _ ?_))
  rw [channelsOf, List.filter_filter]
  refine List.filter_congr fun other _ => ?_
  cases hnode : other.nodeId == channel.nodeId with
  | false => simp
  | true => simp [beq_iff_eq.1 hnode]

/-- A channel that is put in leaves its node with its channels of other
indices and this one behind them, sorted. -/
theorem channelsOf_insertChannel_self (hordered : directory.channels.Pairwise Precedes)
    (channel : NodeChannel) :
    (directory.insertChannel channel).channelsOf channel.nodeId
      = ((directory.channelsOf channel.nodeId).filter (fun other => other.index != channel.index)
          ++ [channel]).mergeSort fun left right => left.index ≤ right.index := by
  have hordered' := enter_ordered hordered (.channel channel)
  have hperm := ((channelsOf_insertChannel_perm directory channel).trans
    (List.perm_append_singleton channel _).symm).trans
      (List.mergeSort_perm _ fun left right => decide (left.index ≤ right.index)).symm
  have hsorted := @List.pairwise_mergeSort _
    (fun left right : NodeChannel => decide (left.index ≤ right.index))
    (fun a b c hab hbc => by
      simpa using UInt32.le_trans (of_decide_eq_true hab) (of_decide_eq_true hbc))
    (fun a b => by simpa using UInt32.le_total a.index b.index)
    ((directory.channelsOf channel.nodeId).filter (fun other => other.index != channel.index)
      ++ [channel])
  refine List.Perm.eq_of_pairwise (fun left right hleft hright hle hge => ?_)
    ((channelsOf_ascending hordered' channel.nodeId).imp fun hlt => ?_) hsorted hperm
  · exact eq_of_index_eq hordered' hleft (hperm.mem_iff.2 hright)
      (UInt32.le_antisymm (of_decide_eq_true hle) (of_decide_eq_true hge))
  · simpa using UInt32.le_of_lt hlt

/-- The number whose channels an entry changes, if it changes any. -/
def Entry.number? (met : Directory) : Entry → Option UInt32
  | .node _ => none
  | .channel channel => some channel.nodeId
  | .removal uuid => (met.find? uuid).map (·.id)

theorem channelsOf_insertChannel_of_ne (hother : channel.nodeId ≠ number) :
    (directory.insertChannel channel).channelsOf number = directory.channelsOf number := by
  unfold insertChannel placeChannel channelsOf
  rw [List.filter_append, List.filter_cons_of_neg (by simpa using hother), ← List.filter_append,
    List.takeWhile_append_dropWhile, List.filter_filter]
  refine List.filter_congr fun present _ => ?_
  cases hnode : present.nodeId == number with
  | false => simp
  | true => simp [beq_iff_eq.1 hnode, Ne.symm hother]

theorem channelsOf_removeNode_of_ne {node : Node} (hfound : directory.find? uuid = some node)
    (hother : node.id ≠ number) :
    (directory.removeNode uuid).2.channelsOf number = directory.channelsOf number := by
  rw [removeNode_of_found hfound, channelsOf, channelsOf, List.filter_filter]
  refine List.filter_congr fun present _ => ?_
  cases hnode : present.nodeId == number with
  | false => simp
  | true => simp [beq_iff_eq.1 hnode, Ne.symm hother]

/-- What is entered for one number leaves the channels of every other alone. -/
theorem channelsOf_enter_of_elsewhere {entry : Entry}
    (helsewhere : entry.number? directory ≠ some number) :
    (directory.enter entry).channelsOf number = directory.channelsOf number := by
  cases entry with
  | node node => rfl
  | channel channel =>
      exact channelsOf_insertChannel_of_ne fun hnode => helsewhere (congrArg some hnode)
  | removal uuid =>
      show (directory.removeNode uuid).2.channelsOf number = _
      cases hfound : directory.find? uuid with
      | none => rw [removeNode_of_absent hfound]
      | some node =>
          refine channelsOf_removeNode_of_ne hfound fun hnode => helsewhere ?_
          rw [Entry.number?, hfound, Option.map_some, hnode]

-- ========================================================== histories

/-- Whether an entry undoes what was entered under a node's identifier. -/
def Entry.undoesNode (uuid : Uuid) : Entry → Prop
  | .node other => other.uuid = uuid
  | .channel _ => False
  | .removal gone => gone = uuid

/-- Whether an entry undoes a channel: it puts another one in its place, or it
takes a node of its number out of the directory it meets. -/
def Entry.undoesChannel (channel : NodeChannel) (met : Directory) : Entry → Prop
  | .node _ => False
  | .channel other => other.nodeId = channel.nodeId ∧ other.index = channel.index
  | .removal uuid => ∃ node, met.find? uuid = some node ∧ node.id = channel.nodeId

/-- An entry was made and nothing that was entered since undid it. What undoes
it may depend on the directory that the later entry met. -/
def Stands (undoes : Directory → Entry → Prop) (entry : Entry) (entries : List Entry) : Prop :=
  ∃ before after, entries = before ++ entry :: after
    ∧ ∀ middle later rest, after = middle ++ later :: rest →
      ¬ undoes (entered (before ++ entry :: middle)) later

variable {undoes : Directory → Entry → Prop} {entry last : Entry} {entries : List Entry}

theorem not_stands_nil : ¬ Stands undoes entry [] := by
  rintro ⟨before, after, hnil, -⟩
  exact absurd hnil.symm (List.append_ne_nil_of_right_ne_nil _ (List.cons_ne_nil _ _))

theorem stands_concat :
    Stands undoes entry (entries ++ [last])
      ↔ last = entry ∨ Stands undoes entry entries ∧ ¬ undoes (entered entries) last := by
  constructor
  · rintro ⟨before, after, hsplit, hsince⟩
    rcases List.eq_nil_or_concat after with rfl | ⟨after, final, rfl⟩
    · exact .inl (List.append_singleton_inj.1 hsplit).2
    · rw [List.concat_eq_append] at hsplit hsince
      have hshift : before ++ entry :: (after ++ [final]) = (before ++ entry :: after) ++ [final] :=
        by simp
      obtain ⟨rfl, rfl⟩ := List.append_singleton_inj.1 (hsplit.trans hshift)
      refine .inr ⟨⟨before, after, rfl, fun middle later rest hafter => ?_⟩,
        hsince after last [] rfl⟩
      exact hsince middle later (rest ++ [last]) (by rw [hafter]; simp)
  · rintro (rfl | ⟨⟨before, after, rfl, hsince⟩, hlast⟩)
    · refine ⟨entries, [], rfl, fun middle later rest hnil => ?_⟩
      exact absurd hnil.symm (List.append_ne_nil_of_right_ne_nil _ (List.cons_ne_nil _ _))
    · refine ⟨before, after ++ [last], by simp, fun middle later rest hafter => ?_⟩
      rcases List.eq_nil_or_concat rest with rfl | ⟨rest, final, rfl⟩
      · obtain ⟨rfl, rfl⟩ := List.append_singleton_inj.1 hafter
        exact hlast
      · rw [List.concat_eq_append] at hafter
        have hshift : middle ++ later :: (rest ++ [final]) = (middle ++ later :: rest) ++ [final] :=
          by simp
        obtain ⟨hafter, -⟩ := List.append_singleton_inj.1 (hafter.trans hshift)
        exact hsince middle later rest hafter

/-- What an entry brings into a directory, and what else undoes it takes out of
it again, is held exactly if the entry stands. -/
theorem holds_iff_stands (holds : Directory → Prop) (hempty : ¬ holds .empty)
    (hstep : ∀ (directory : Directory) (later : Entry),
      holds (directory.enter later) ↔ later = entry ∨ holds directory ∧ ¬ undoes directory later)
    (entries : List Entry) : holds (entered entries) ↔ Stands undoes entry entries := by
  induction entries using List.reverseRecOn with
  | nil => exact iff_of_false hempty not_stands_nil
  | append_singleton entries last ih => rw [entered_concat, hstep, ih, stands_concat]

theorem find?_enter {node : Node} (directory : Directory) (later : Entry) :
    (directory.enter later).find? node.uuid = some node
      ↔ later = .node node
        ∨ directory.find? node.uuid = some node ∧ ¬ later.undoesNode node.uuid := by
  cases later with
  | node other =>
      show (directory.insertNode other).find? node.uuid = some node ↔ _
      rw [find?_insertNode]
      by_cases hsame : node.uuid = other.uuid
      · simp [hsame, Entry.undoesNode, eq_comm]
      · have hother : other ≠ node := fun heq => hsame (heq ▸ rfl)
        simp [hsame, Entry.undoesNode, hother, Ne.symm hsame]
  | channel channel =>
      show directory.find? node.uuid = some node ↔ _
      simp [Entry.undoesNode]
  | removal gone =>
      show (directory.removeNode gone).2.find? node.uuid = some node ↔ _
      rw [find?_removeNode]
      by_cases hsame : node.uuid = gone
      · simp [hsame, Entry.undoesNode]
      · simp [hsame, Entry.undoesNode, Ne.symm hsame]

theorem mem_channels_enter (directory : Directory) (later : Entry) :
    channel ∈ (directory.enter later).channels
      ↔ later = .channel channel
        ∨ channel ∈ directory.channels ∧ ¬ later.undoesChannel channel directory := by
  cases later with
  | node node =>
      show channel ∈ directory.channels ↔ _
      simp [Entry.undoesChannel]
  | channel other =>
      show channel ∈ (directory.insertChannel other).channels ↔ _
      rw [mem_channels_insertChannel, Entry.channel.injEq, eq_comm (a := other)]
      rfl
  | removal uuid =>
      show channel ∈ (directory.removeNode uuid).2.channels ↔ _
      rw [mem_channels_removeNode]
      simp [Entry.undoesChannel]

/-- A node is found exactly if its entry stands. -/
theorem find?_entered {node : Node} (entries : List Entry) :
    (entered entries).find? node.uuid = some node
      ↔ Stands (fun _ later => later.undoesNode node.uuid) (.node node) entries :=
  holds_iff_stands (fun held => held.find? node.uuid = some node)
    (fun hfound => nomatch hfound) find?_enter entries

/-- A channel is listed exactly if its entry stands. -/
theorem mem_channels_entered (entries : List Entry) :
    channel ∈ (entered entries).channels
      ↔ Stands (fun met later => later.undoesChannel channel met) (.channel channel) entries :=
  holds_iff_stands (fun held => channel ∈ held.channels)
    (fun hmem => nomatch hmem) mem_channels_enter entries

/-- What a directory holds is what was entered last.

After any entries a node is found under its identifier exactly if it was put
in and since then no node came under that identifier and the identifier was
not taken out. The channels of a number are strictly ascending by their
index, and they are those that were put in for it and since then were neither
replaced, by a channel of that number and index, nor taken away, by a removal
that found a node of that number. A channel that is put in comes to the others
of its number in the place that sorting gives it. Taking an identifier out
answers the node that is found under it; if there is none, nothing changes. No
entry for one number changes the channels of another, and putting a node in
changes no channels at all. -/
theorem latest_entries_held (entries : List Entry) :
    let directory := entered entries
    (∀ uuid node, directory.find? uuid = some node
        ↔ node.uuid = uuid ∧ Stands (fun _ later => later.undoesNode uuid) (.node node) entries)
      ∧ (∀ number, (directory.channelsOf number).Pairwise (·.index < ·.index)
        ∧ ∀ channel, channel ∈ directory.channelsOf number
          ↔ channel.nodeId = number
            ∧ Stands (fun met later => later.undoesChannel channel met) (.channel channel) entries)
      ∧ (∀ channel : NodeChannel, (directory.insertChannel channel).channelsOf channel.nodeId
          = ((directory.channelsOf channel.nodeId).filter
              (fun other => other.index != channel.index) ++ [channel]).mergeSort
                fun left right => left.index ≤ right.index)
      ∧ (∀ uuid, (directory.removeNode uuid).1 = directory.find? uuid
        ∧ (directory.find? uuid = none → directory.removeNode uuid = (none, directory)))
      ∧ ∀ (entry : Entry) (number : UInt32), entry.number? directory ≠ some number →
        (directory.enter entry).channelsOf number = directory.channelsOf number := by
  intro directory
  refine ⟨fun uuid node => ?_, fun number => ⟨?_, fun channel => ?_⟩,
    channelsOf_insertChannel_self (entered_ordered entries),
    fun uuid => ⟨removeNode_fst directory uuid, removeNode_of_absent⟩,
    fun entry number => channelsOf_enter_of_elsewhere⟩
  · constructor
    · intro hfound
      have huuid : node.uuid = uuid := by simpa using List.find?_some hfound
      subst huuid
      exact ⟨rfl, (find?_entered entries).1 hfound⟩
    · rintro ⟨rfl, hstands⟩
      exact (find?_entered entries).2 hstands
  · exact channelsOf_ascending (entered_ordered entries) number
  · rw [mem_channelsOf, and_comm, mem_channels_entered entries]

/-- A node that comes again under another number leaves the channels of its
first number behind: taking it out takes those of the second, and its
identifier is free from then on. -/
theorem latest_entries_held_in_example :
    let uuid : Uuid := ⟨List.replicate 16 7, rfl⟩
    let lamp : NodeChannel := ⟨3, 1, 50, 0, .rgb⟩
    let strip : NodeChannel := ⟨3, 0, 10, 50, .rgbw⟩
    let entries : List Entry := [.node ⟨3, uuid, [1], "lamp"⟩, .channel lamp, .channel strip,
      .node ⟨4, uuid, [1], "lamp"⟩, .channel ⟨4, 0, 5, 60, .rgb⟩]
    ((entered entries).enter (.removal uuid)).channelsOf 3 = [strip, lamp]
      ∧ (entered (entries ++ [.removal uuid])).removeNode uuid
        = (none, entered (entries ++ [.removal uuid])) := by
  intro uuid lamp strip entries
  obtain ⟨-, -, -, -, helsewhere⟩ := latest_entries_held entries
  obtain ⟨-, -, -, hremoved, -⟩ := latest_entries_held (entries ++ [.removal uuid])
  refine ⟨?_, (hremoved uuid).2 (by decide)⟩
  rw [helsewhere (.removal uuid) 3 (by decide)]
  decide

end Luminaire.Directory
