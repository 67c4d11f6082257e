/-
Which finished connections the collection misses.

In every run all cards are in order (`sound_run`). So the callback of
somebody in the table has its entry on the list, unless a pass has met the
entry while its number was not in the table: a worker can end before it is
put there, a pass in between throws the entry away, and then the worker is
in the table and no pass takes it out (`collected_unless_overlooked`). That
is the only way in which a finished connection stays, and it does happen
(`callbacks_outrun_table`).
-/
import Luminaire.Proofs.Server.Books
import Luminaire.Proofs.Session.Delivery
import Luminaire.Proofs.Server.Welcome

namespace Luminaire

namespace Listener

variable {listener : Listener} {id : ConnectionId} {missed : Prop}

/-- Connections whose entry was thrown away in a run, by a pass that did not find
them in the table. -/
def overlooked (listener : Listener) (steps : List Step) : List ConnectionId :=
  listener.along discards steps

/-- In every run of a listener that has just begun all cards are in order. -/
theorem sound_run (rig : Rig Outlet) (link : Link) (registry : Registry HandlerKind)
    (cookies : CookieJar) (handshake : ServerHandshake) (steps : List Step) (id : ConnectionId) :
    (((new rig link registry cookies handshake).run steps).1.card id).Sound
      (id ∈ (new rig link registry cookies handshake).overlooked steps) := by
  induction steps using List.reverseRecOn with
  | nil =>
      exact ⟨.outside rfl rfl fun _ hnone => (Option.some_ne_none _ hnone.symm).elim, True.intro,
        .nobody rfl rfl List.not_mem_nil⟩
  | append_singleton steps next ih =>
      have hmissed : id ∈ (new rig link registry cookies handshake).overlooked (steps ++ [next])
          ↔ id ∈ (new rig link registry cookies handshake).overlooked steps
            ∨ id ∈ ((new rig link registry cookies handshake).run steps).1.discards next := by
        unfold overlooked
        rw [along_snoc, List.mem_append]
      rw [run_snoc, hmissed]
      exact ih.moves (moves_step _ next id)

-- ============================================================== the table

theorem listed_ne_zero : (listener.card id).listed ≠ 0 ↔ id ∈ listener.active :=
  List.count_eq_zero.not_left

/-- Who is in the table has a worker. -/
theorem exists_worker_of_seated (hseated : (listener.card id).Seated)
    (hactive : id ∈ listener.active) : ∃ worker, listener.worker? id = some worker :=
  Option.ne_none_iff_exists'.1 fun hnone =>
    hseated.told_ne_none (listed_ne_zero.2 hactive) (congrArg (Option.map _) hnone)

theorem nodup_active (hseated : ∀ id, (listener.card id).Seated) : listener.active.Nodup :=
  List.nodup_iff_count_le_one.2 fun id => (hseated id).listed_le

/-- Dropping the workers that leave does not change the table any more. -/
theorem active_collect (listener : Listener) :
    listener.collect.2.active
      = listener.active.filter fun id => !listener.departing.contains id := by
  obtain ⟨rig, workers, finished, hfold⟩ := exists_foldl
    (fun listener id => listener.exists_stepWorker id .drop) listener.departing listener.audited
  rw [collect_eq, hfold]
  rfl

theorem mem_active_collect :
    id ∈ listener.collect.2.active ↔ id ∈ listener.active ∧ id ∉ listener.departing := by
  rw [active_collect, List.mem_filter]
  simp

/-- Who is in the table leaves it in a pass exactly if there is an entry and the
worker is over, or the cause says so. -/
theorem mem_departing_iff (hactive : id ∈ listener.active) :
    id ∈ listener.departing ↔ ∃ cause, (id, cause) ∈ listener.finished
      ∧ (cause.isCollectable = true ∨ listener.isOver id = true) := by
  rw [mem_departing, and_iff_right hactive]
  refine exists_congr fun cause => ?_
  rw [mem_entries]
  exact and_congr_right fun _ => Bool.or_eq_true_iff

/-- Who stays keeps its entries. -/
theorem mem_finished_collect (hstays : id ∈ listener.collect.2.active) (cause : ShutdownCause) :
    (id, cause) ∈ listener.collect.2.finished ↔ (id, cause) ∈ listener.finished := by
  have hentries : listener.collect.2.entries id = listener.entries id :=
    (congrArg Card.entries (listener.card_collect id)).trans
      (if_pos (mem_active_collect.1 hstays))
  rw [← mem_entries, hentries, mem_entries]

/-- A pass returns how many left. -/
theorem length_collect (hnodup : listener.active.Nodup) :
    listener.collect.1 + listener.collect.2.active.length = listener.active.length := by
  have hperm : listener.departing.Perm
      (listener.active.filter fun id => listener.departing.contains id) := by
    refine (List.perm_ext_iff_of_nodup (Session.nodup_eraseDups _) (hnodup.filter _)).2 fun id => ?_
    rw [List.mem_filter, List.contains_iff_mem]
    exact ⟨fun hleaves => ⟨(mem_departing.1 hleaves).1, hleaves⟩, And.right⟩
  rw [active_collect, collect_eq, hperm.length_eq]
  exact (List.length_eq_length_filter_add _).symm

/-- Which finished connections the collection misses. In every run, what the
callback of somebody in the table has heard is on the list of the finished,
unless a pass has thrown the entry away before they were in the table; so a pass
takes out whoever has ended, unless that has happened, and then no pass does. A
pass takes out of the table exactly those who have an entry that is collectable
or whose worker is over, keeps the entries of the others in the table, and
returns how many left. -/
theorem collected_unless_overlooked (rig : Rig Outlet) (link : Link)
    (registry : Registry HandlerKind) (cookies : CookieJar) (handshake : ServerHandshake)
    (steps : List Step) :
    let begun := new rig link registry cookies handshake
    let after := (begun.run steps).1
    let passed := after.collect
    (∀ id ∈ after.active, ∃ worker, after.worker? id = some worker
        ∧ (∀ cause ∈ worker.heard, (id, cause) ∈ after.finished ↔ id ∉ begun.overlooked steps)
        ∧ (worker.heard ≠ [] → worker.isFinished = true → id ∉ begun.overlooked steps →
          id ∉ passed.2.active)
        ∧ (id ∈ begun.overlooked steps → id ∈ passed.2.active))
      ∧ (∀ id, id ∈ passed.2.active ↔ id ∈ after.active ∧ ¬ ∃ cause,
          (id, cause) ∈ after.finished
            ∧ (cause.isCollectable = true ∨ after.isOver id = true))
      ∧ (∀ id ∈ passed.2.active, ∀ cause,
          (id, cause) ∈ passed.2.finished ↔ (id, cause) ∈ after.finished)
      ∧ passed.1 + passed.2.active.length = after.active.length := by
  intro begun after passed
  have hsound := sound_run rig link registry cookies handshake steps
  refine ⟨fun id hactive => ?_, fun id => ?_, fun id hstays => mem_finished_collect hstays,
    length_collect (nodup_active fun id => (hsound id).seated)⟩
  · have hlisted : (after.card id).listed ≠ 0 := listed_ne_zero.2 hactive
    obtain ⟨worker, hfound⟩ := exists_worker_of_seated (hsound id).seated hactive
    have hentry : ∀ cause ∈ worker.heard,
        (id, cause) ∈ after.finished ↔ id ∉ begun.overlooked steps := fun cause hheard =>
      mem_entries.symm.trans ((hsound id).mem_entries_iff hlisted (told_of_worker? hfound) hheard)
    refine ⟨worker, hfound, hentry, fun hheard hfinished hkept => ?_, fun hmissed => ?_⟩
    · obtain ⟨cause, hcause⟩ := List.exists_mem_of_ne_nil _ hheard
      have hover : after.isOver id = true := by
        unfold isOver
        rw [hfound]
        exact hfinished
      have hleaves : id ∈ after.departing :=
        (mem_departing_iff hactive).2 ⟨cause, (hentry cause hcause).2 hkept, .inr hover⟩
      exact fun hstays => (mem_active_collect.1 hstays).2 hleaves
    · refine mem_active_collect.2 ⟨hactive, fun hleaves => ?_⟩
      obtain ⟨cause, hentry, -⟩ := (mem_departing_iff hactive).1 hleaves
      have hnone : after.entries id = [] := (hsound id).entries_of_missed hmissed
      exact List.ne_nil_of_mem (mem_entries.2 hentry) hnone
  · rw [mem_active_collect]
    exact and_congr_right fun hactive => not_congr (mem_departing_iff hactive)

-- =========================================================== an example

/-- The steps of one worker change nothing but the workers, the rig and the list
of the finished. -/
theorem run_worker {worker : Worker} (hfound : listener.worker? id = some worker)
    (steps : List Worker.Step) :
    ∃ workers finished, (listener.run (steps.map (Step.worker id))).1
        = { listener with rig := (worker.run listener.rig steps).2, workers, finished }
      ∧ (listener.run (steps.map (Step.worker id))).1.worker? id
        = some (worker.run listener.rig steps).1 := by
  induction steps using List.reverseRecOn with
  | nil => exact ⟨_, _, rfl, hfound⟩
  | append_singleton steps next ih =>
      obtain ⟨workers, finished, hafter, hworker⟩ := ih
      have hrun : worker.run listener.rig (steps ++ [next])
          = (worker.run listener.rig steps).1.step (worker.run listener.rig steps).2 next :=
        List.foldl_append
      rw [List.map_append, List.map_singleton, run_snoc, hrun]
      generalize (listener.run (steps.map (Step.worker id))).1 = earlier at hafter hworker ⊢
      subst hafter
      exact ⟨_, _, stepWorker_of_some hworker next,
        (worker?_stepWorker hworker next id).trans (if_pos rfl)⟩

/-- A pass that finds a worker on its way to the table throws its entry away, and
then the worker is in the table with nothing on the list. -/
theorem card_of_overlooked {attempt : Attempt} (hfound : listener.attempt? id = some attempt)
    (hstarted : attempt.phase = .started) (hopen : listener.terminating = false)
    (habsent : id ∉ listener.active) :
    (listener.run [.collect, .enlist id]).1.card id
      = { listener.card id with phase := none, listed := 1, entries := [] } := by
  obtain rfl := id_of_attempt? hfound
  obtain ⟨rig, workers, finished, hfold⟩ := exists_foldl
    (fun listener id => listener.exists_stepWorker id .drop) listener.departing listener.audited
  have hcollect : listener.collect.2 = { listener.audited with rig, workers, finished } := by
    rw [collect_eq, hfold]
  have hcard : listener.collect.2.card attempt.id
      = { listener.card attempt.id with listed := 0, entries := [] } := by
    have hlisted : (listener.card attempt.id).listed = 0 := List.count_eq_zero.2 habsent
    rw [card_collect, hlisted, ite_self, if_neg (fun hstays => habsent hstays.1)]
  have hfound' : listener.collect.2.attempt? attempt.id = some attempt := by
    rw [hcollect]
    exact hfound
  have hopen' : ¬ listener.collect.2.terminating = true := by
    rw [hcollect]
    exact Bool.eq_false_iff.1 hopen
  have henlist : (listener.collect.2.step (.enlist attempt.id)).1
      = listener.collect.2.enlist attempt := by
    simp only [step, hfound', hstarted]
  rw [run_cons, run_cons]
  show ((listener.collect.2.step (.enlist attempt.id)).1).card attempt.id = _
  rw [henlist, card_enlist hopen', if_pos rfl, hcard]

end Listener

namespace Worker

/-- A worker whose reading fails comes to its end by itself. -/
def fall : List Step :=
  [.breakOff, .release, .report, .advance, .advance, .advance, .finish]

theorem heard_fall {worker : Worker} (hphase : worker.phase = .reading)
    (hstate : worker.state = .running) (rig : Rig Outlet) :
    (worker.run rig fall).1.heard
      = worker.heard ++ List.replicate worker.callbacks .transport := by
  obtain ⟨id, slots, state, stop, phase, shutdown, callbacks, heard, dropped⟩ := worker
  subst hphase hstate
  rfl

end Worker

namespace Meeting

variable {meeting : Meeting}

/-- The node is welcome, its worker ends before it is in the table, and a pass
comes in between. -/
def haste (meeting : Meeting) (finished : Bytes) : List Listener.Step :=
  meeting.welcome finished
    ++ (Worker.fall.map (.worker meeting.listener.nextId)
      ++ [.collect, .enlist meeting.listener.nextId])

/-- The listener has served nobody yet, and is not ending. -/
structure Fresh (meeting : Meeting) : Prop where
  workers : meeting.listener.workers = []
  active : meeting.listener.active = []
  terminating : meeting.listener.terminating = false

/-- Then the worker is in the table with nothing on the list, although its callback
has run. -/
theorem Honest.exists_haste (honest : meeting.Honest) (hfresh : meeting.Fresh) :
    ∃ finished, let after := (meeting.listener.run (meeting.haste finished)).1
      meeting.listener.nextId ∈ after.active
        ∧ (∀ cause, (meeting.listener.nextId, cause) ∉ after.finished)
        ∧ ∃ worker, after.worker? meeting.listener.nextId = some worker
          ∧ worker.heard = [.transport] := by
  obtain ⟨finished, entropy, hserving⟩ := honest.exists_welcomed
  refine ⟨finished, ?_⟩
  have hnobody : meeting.listener.worker? meeting.listener.nextId = none := by
    unfold Listener.worker?
    rw [hfresh.workers]
    rfl
  obtain ⟨worker, hworker, hphase, hstate, hheard, hcallbacks⟩ :=
    exists_worker_serving entropy hnobody
  have hrun : (meeting.listener.run (meeting.haste finished)).1
      = (((meeting.serving entropy).run
        (Worker.fall.map (.worker meeting.listener.nextId))).1.run
          [.collect, .enlist meeting.listener.nextId]).1 := by
    unfold haste
    rw [Listener.run_append, Listener.run_append, hserving]
  obtain ⟨workers, books, hfallen, hover⟩ := Listener.run_worker hworker Worker.fall
  rw [hrun]
  generalize ((meeting.serving entropy).run
    (Worker.fall.map (.worker meeting.listener.nextId))).1 = fallen at hfallen hover ⊢
  have hattempt : fallen.attempt? meeting.listener.nextId = some (meeting.attempt .started) := by
    rw [hfallen]
    exact honest.attempt?_serving entropy
  have hopen : fallen.terminating = false := by
    rw [hfallen]
    exact hfresh.terminating
  have habsent : meeting.listener.nextId ∉ fallen.active := by
    rw [hfallen]
    exact fun hmem => List.not_mem_nil (hfresh.active ▸ hmem)
  have hcard := Listener.card_of_overlooked hattempt rfl hopen habsent
  have htold := Listener.told_of_worker? hover
  rw [Worker.heard_fall hphase hstate, hheard, hcallbacks] at htold
  generalize (fallen.run [.collect, .enlist meeting.listener.nextId]).1 = after at hcard ⊢
  refine ⟨Listener.listed_ne_zero.1 ?_, fun cause hmem => ?_, ?_⟩
  · rw [hcard]
    exact Nat.one_ne_zero
  · have hentries : after.entries meeting.listener.nextId = [] := congrArg Card.entries hcard
    exact List.ne_nil_of_mem (Listener.mem_entries.2 hmem) hentries
  · have hsome := (congrArg Card.told hcard).trans htold
    obtain ⟨worker, hworker, hsame⟩ := Option.map_eq_some_iff.1 hsome
    exact ⟨worker, hworker, congrArg Prod.fst hsame⟩

/-- The example meeting is one of a listener that has just begun. -/
theorem fresh_exampleMeeting : exampleMeeting.Fresh
    ∧ ∃ rig link registry cookies handshake,
      exampleMeeting.listener = Listener.new rig link registry cookies handshake :=
  ⟨⟨rfl, rfl, rfl⟩, _, _, _, _, _, rfl⟩

end Meeting

namespace Listener

/-- At the example meeting, the worker that ended in haste is overlooked, and a pass
leaves it in the table. -/
theorem overlooked_in_example :
    let node := Meeting.exampleMeeting
    ∃ finished, let after := (node.listener.run (node.haste finished)).1
      node.listener.nextId ∈ node.listener.overlooked (node.haste finished)
        ∧ node.listener.nextId ∈ after.collect.2.active := by
  have honest := Meeting.honest_exampleMeeting
  obtain ⟨hfresh, hbegun⟩ := Meeting.fresh_exampleMeeting
  generalize Meeting.exampleMeeting = meeting at honest hfresh hbegun ⊢
  obtain ⟨rig, link, registry, cookies, handshake, hbegun⟩ := hbegun
  obtain ⟨finished, hactive, hnone, worker, hfound, hheard⟩ := honest.exists_haste hfresh
  have hcollected := collected_unless_overlooked rig link registry cookies handshake
    (meeting.haste finished)
  rw [← hbegun] at hcollected
  obtain ⟨other, hother, hlisted, -, hstays⟩ := hcollected.1 _ hactive
  obtain rfl := Option.some.inj (hother.symm.trans hfound)
  have hcause : ShutdownCause.transport ∈ other.heard := by
    rw [hheard]
    exact List.mem_singleton_self _
  have hmissed : meeting.listener.nextId ∈ meeting.listener.overlooked (meeting.haste finished) :=
    not_not.1 fun hkept => hnone _ ((hlisted _ hcause).2 hkept)
  exact ⟨finished, hmissed, hstays hmissed⟩

/-- So somebody can be in the table whose callback has run and who is not on the
list. -/
theorem callbacks_outrun_table :
    ¬ ∀ (rig : Rig Outlet) (link : Link) (registry : Registry HandlerKind) (cookies : CookieJar)
        (handshake : ServerHandshake) (steps : List Step),
      let after := ((new rig link registry cookies handshake).run steps).1
      ∀ id ∈ after.active, ∀ worker, after.worker? id = some worker → worker.heard ≠ [] →
        ∃ cause, (id, cause) ∈ after.finished := by
  intro hlisted
  obtain ⟨hfresh, rig, link, registry, cookies, handshake, hbegun⟩ := Meeting.fresh_exampleMeeting
  obtain ⟨finished, hactive, hnone, worker, hfound, hheard⟩ :=
    Meeting.honest_exampleMeeting.exists_haste hfresh
  have hexample := hlisted rig link registry cookies handshake
    (Meeting.exampleMeeting.haste finished)
  rw [← hbegun] at hexample
  obtain ⟨cause, hmem⟩ := hexample _ hactive worker hfound (by simp [hheard])
  exact hnone cause hmem

end Listener

end Luminaire
