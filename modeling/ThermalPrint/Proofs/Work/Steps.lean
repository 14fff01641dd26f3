import Mathlib.Data.List.Nodup
import Mathlib.Logic.Relation
import ThermalPrint.Proofs.Work.House
import ThermalPrint.Proofs.Work.Registry

/-
Runs of an office.  Jobs are handed in, taken from their queues, begun and ended, by any number of
hands and in any order, and every such step moves the status of one record at most, and only on.

The invariant says where each job is.  A job has one place: it waits, or is in one pair of hands,
and its record has the status of that place; what is in no place any more is not touched again.

In the course of a run the status of a record passes on from one to the next, and the record of a
job that has ended is final: it stays as it is, or it is forgotten for good.
-/

namespace ThermalPrint

/-- A job passes from a status to the next. -/
inductive JobStatus.Next : JobStatus → JobStatus → Prop
  | begun : Next .queued .running
  | ended {s : JobStatus} : s.isFinal = true → Next .running s

/-- Nothing comes behind a final status. -/
theorem JobStatus.not_next_final {s s' : JobStatus} (h : s.isFinal = true) : ¬ s.Next s' := by
  rintro ⟨⟩ <;> cases h

/-- A record stays as it is, or its status has passed on. -/
def JobRecord.Moved (passes : JobStatus → JobStatus → Prop) (r r' : JobRecord) : Prop :=
  r' = r ∨ ∃ s s', r.Has s ∧ r'.Has s' ∧ passes s s'

/-- Each job of an office is in one place. -/
structure Orderly (g : Registry) (pending begun : List WaitingJob) : Prop where
  keys : (g.records.map (·.1)).Nodup
  issued : ∀ key r, (key, r) ∈ g.records → g.Issued key
  known : ∀ job ∈ pending ++ begun, ∃ key, job.id = some key ∧ g.Issued key
  distinct : ((pending ++ begun).map (·.id)).Nodup
  queued : ∀ job ∈ pending, ∀ key r, (key, r) ∈ g.records → job.id = some key → r.Has .queued
  running : ∀ job ∈ begun, ∀ key r, (key, r) ∈ g.records → job.id = some key → r.Has .running
  inHand : ∀ key r, (key, r) ∈ g.records → r.Has .running → ∃ job ∈ begun, job.id = some key
  status : ∀ key r, (key, r) ∈ g.records → ∃ s, r.Has s

/-- The records of a registry are moved in one step: what is new waits, and what is there has been
there and has moved on by one status at most. -/
structure Registry.Moves (g g' : Registry) : Prop where
  issued : g.issued ≤ g'.issued
  records : ∀ key r', (key, r') ∈ g'.records →
    ¬ g.Issued key ∧ r'.Has .queued ∨ ∃ r, (key, r) ∈ g.records ∧ r.Moved JobStatus.Next r'

namespace Orderly

variable {g : Registry} {pending begun : List WaitingJob} {job : WaitingJob}

theorem of_perm (h : Orderly g pending begun) {pending' begun' : List WaitingJob}
    (hp : pending.Perm pending') (hb : begun.Perm begun') : Orderly g pending' begun' where
  keys := h.keys
  issued := h.issued
  known job hjob := h.known job ((hp.append hb).mem_iff.2 hjob)
  distinct := ((hp.append hb).map _).nodup_iff.1 h.distinct
  queued job hjob := h.queued job (hp.mem_iff.2 hjob)
  running job hjob := h.running job (hb.mem_iff.2 hjob)
  inHand key r hr hrunning := by
    obtain ⟨job, hjob, hid⟩ := h.inHand key r hr hrunning
    exact ⟨job, hb.mem_iff.1 hjob, hid⟩
  status := h.status

theorem id_ne_next (h : Orderly g pending begun) (hjob : job ∈ pending ++ begun) :
    job.id ≠ some g.nextId := by
  obtain ⟨key, hid, hissued⟩ := h.known job hjob
  intro hnext
  cases hid.symm.trans hnext
  exact g.nextId_fresh hissued

section Create

variable (type : Json) {known : List (Text × Json)} (hknown : ∀ c ∈ known, c.1 ≠ "status")

theorem mem_created {key : JobId} {r : JobRecord}
    (hr : (key, r) ∈ (g.create type known).2.records) :
    (key, r) ∈ g.records ∨ key = g.nextId ∧ r = g.nextRecord type known := by
  rcases List.mem_append.1 ((g.create_records type known).mem hr) with hold | hnew
  · exact .inl hold
  · rw [List.mem_singleton, Prod.mk.injEq] at hnew
    exact .inr hnew

include hknown

theorem create_moves : g.Moves (g.create type known).2 := by
  refine ⟨Nat.le_succ _, fun key r' hr' => ?_⟩
  rcases mem_created type hr' with hold | ⟨rfl, rfl⟩
  · exact .inr ⟨r', hold, .inl rfl⟩
  · exact .inl ⟨g.nextId_fresh, JobRecord.new_has hknown⟩

/-- A job is registered, and it waits, or it is lost before it is put into a queue. -/
theorem create (h : Orderly g pending begun) {more : List WaitingJob}
    (hmore : more = [] ∨ ∃ job, more = [job] ∧ job.id = some g.nextId) :
    Orderly (g.create type known).2 (pending ++ more) begun := by
  have hlater : ∀ key, g.Issued key → (g.create type known).2.Issued key :=
    fun key ⟨n, hn, hkey⟩ => ⟨n, Nat.le_succ_of_le hn, hkey⟩
  have hnext : (g.create type known).2.Issued g.nextId := ⟨g.issued + 1, Nat.le_refl _, rfl⟩
  have hnew : ∀ job ∈ more, job.id = some g.nextId := by
    rcases hmore with rfl | ⟨new, rfl, hid⟩
    · nofun
    · exact List.forall_mem_singleton.2 hid
  have hjobs : ∀ job ∈ pending ++ more ++ begun, job ∈ pending ++ begun ∨ job ∈ more := by
    intro job hjob
    simp only [List.mem_append] at hjob ⊢
    tauto
  constructor
  case keys =>
    refine ((g.create_records type known).map _).nodup ?_
    rw [List.map_append, List.nodup_append]
    refine ⟨h.keys, List.nodup_singleton _, ?_⟩
    rintro key hkey _ hfresh rfl
    obtain ⟨⟨_, r⟩, hr, rfl⟩ := List.mem_map.1 hkey
    have hnext : _ = g.nextId := List.mem_singleton.1 hfresh
    exact g.nextId_fresh (hnext ▸ h.issued _ r hr)
  case issued =>
    intro key r hr
    rcases mem_created type hr with hold | ⟨rfl, -⟩
    · exact hlater key (h.issued key r hold)
    · exact hnext
  case known =>
    intro job hjob
    rcases hjobs job hjob with hold | hfresh
    · obtain ⟨key, hid, hissued⟩ := h.known job hold
      exact ⟨key, hid, hlater key hissued⟩
    · exact ⟨_, hnew job hfresh, hnext⟩
  case distinct =>
    rcases hmore with rfl | ⟨new, rfl, hid⟩
    · rw [List.append_nil]
      exact h.distinct
    · have hfront : (pending ++ [new] ++ begun).Perm (new :: (pending ++ begun)) := by
        rw [List.append_assoc]
        exact List.perm_middle
      refine (hfront.map _).nodup_iff.2 (List.nodup_cons.2 ⟨fun hmem => ?_, h.distinct⟩)
      obtain ⟨job, hjob, hsame⟩ := List.mem_map.1 hmem
      exact h.id_ne_next hjob (hsame.trans hid)
  case queued =>
    intro job hjob key r hr hid
    rcases mem_created type hr with hold | ⟨rfl, rfl⟩
    · rcases List.mem_append.1 hjob with hwaits | hfresh
      · exact h.queued job hwaits key r hold hid
      · cases hid.symm.trans (hnew job hfresh)
        exact absurd (h.issued _ r hold) g.nextId_fresh
    · exact JobRecord.new_has hknown
  case running =>
    intro job hjob key r hr hid
    rcases mem_created type hr with hold | ⟨rfl, rfl⟩
    · exact h.running job hjob key r hold hid
    · exact absurd hid (h.id_ne_next (List.mem_append_right _ hjob))
  case inHand =>
    intro key r hr hrunning
    rcases mem_created type hr with hold | ⟨rfl, rfl⟩
    · exact h.inHand key r hold hrunning
    · cases hrunning.unique (JobRecord.new_has hknown)
  case status =>
    intro key r hr
    rcases mem_created type hr with hold | ⟨rfl, rfl⟩
    · exact h.status key r hold
    · exact ⟨.queued, JobRecord.new_has hknown⟩

end Create

theorem id_ne {others : List WaitingJob} (h : ((job :: others).map (·.id)).Nodup)
    {other : WaitingJob} (hother : other ∈ others) : other.id ≠ job.id :=
  fun hsame => (List.nodup_cons.1 h).1 (List.mem_map.2 ⟨other, hother, hsame⟩)

section Update

variable {changes : List (Text × Json)} {s s' : JobStatus}
  (hchanges : ∀ (r : JobRecord) now, (r.revise now changes).Has s')

include hchanges

theorem update_moves (hnext : s.Next s')
    (hs : ∀ key r, (key, r) ∈ g.records → job.id = some key → r.Has s) :
    g.Moves (g.update job.id changes) := by
  refine ⟨Nat.le_refl _, fun key r' hr' => .inr ?_⟩
  obtain ⟨r, hr, ⟨-, hsame⟩ | ⟨hid, now, hnew⟩⟩ := Registry.mem_update hr'
  · exact ⟨r, hr, .inl hsame⟩
  · refine ⟨r, hr, .inr ⟨s, s', hs key r hr hid.symm, ?_, hnext⟩⟩
    rw [hnew]
    exact hchanges r now

/-- A job whose record passes on goes to the place that belongs to its status. -/
theorem update (h : Orderly g pending begun) {pending' begun' : List WaitingJob}
    (hdistinct : ((pending' ++ begun').map (·.id)).Nodup)
    (hjobs : ∀ x ∈ pending' ++ begun', x ∈ pending ++ begun)
    (hpending : ∀ x ∈ pending', x ∈ pending ∧ x.id ≠ job.id)
    (hbegun : ∀ x ∈ begun', x ∈ begun ∧ x.id ≠ job.id ∨ x.id = job.id ∧ s' = .running)
    (hothers : ∀ x ∈ begun, x.id ≠ job.id → x ∈ begun')
    (hself : s' = .running → job ∈ begun') :
    Orderly (g.update job.id changes) pending' begun' := by
  constructor
  case keys =>
    rw [Registry.update_keys]
    exact h.keys
  case issued =>
    intro key r' hr'
    obtain ⟨r, hr, -⟩ := Registry.mem_update hr'
    exact h.issued key r hr
  case known => exact fun x hx => h.known x (hjobs x hx)
  case distinct => exact hdistinct
  case queued =>
    intro x hx key r' hr' hid
    obtain ⟨hwaits, hother⟩ := hpending x hx
    obtain ⟨r, hr, ⟨-, rfl⟩ | ⟨hjob, -⟩⟩ := Registry.mem_update hr'
    · exact h.queued x hwaits key _ hr hid
    · exact absurd (hid.trans hjob) hother
  case running =>
    intro x hx key r' hr' hid
    obtain ⟨r, hr, ⟨hne, rfl⟩ | ⟨hjob, now, rfl⟩⟩ := Registry.mem_update hr'
    · rcases hbegun x hx with ⟨hold, -⟩ | ⟨hsame, -⟩
      · exact h.running x hold key _ hr hid
      · exact absurd (hid.symm.trans hsame) hne
    · rcases hbegun x hx with ⟨-, hother⟩ | ⟨-, rfl⟩
      · exact absurd (hid.trans hjob) hother
      · exact hchanges r now
  case inHand =>
    intro key r' hr' hrunning
    obtain ⟨r, hr, ⟨hne, rfl⟩ | ⟨hjob, now, rfl⟩⟩ := Registry.mem_update hr'
    · obtain ⟨x, hx, hid⟩ := h.inHand key _ hr hrunning
      exact ⟨x, hothers x hx fun hsame => hne (hid.symm.trans hsame), hid⟩
    · exact ⟨job, hself ((hchanges r now).unique hrunning), hjob.symm⟩
  case status =>
    intro key r' hr'
    obtain ⟨r, hr, ⟨-, rfl⟩ | ⟨-, now, rfl⟩⟩ := Registry.mem_update hr'
    · exact h.status key _ hr
    · exact ⟨s', hchanges r now⟩

end Update

theorem begin (h : Orderly g (job :: pending) begun) :
    g.Moves (g.update job.id [("status", .str JobStatus.running.word)]) ∧
      Orderly (g.update job.id [("status", .str JobStatus.running.word)]) pending
        (job :: begun) := by
  have hmiddle : (pending ++ job :: begun).Perm (job :: (pending ++ begun)) := List.perm_middle
  refine ⟨update_moves JobRecord.running_has .begun (h.queued job List.mem_cons_self),
    h.update JobRecord.running_has ((hmiddle.map _).nodup_iff.2 h.distinct)
      (fun x hx => hmiddle.mem_iff.1 hx) (fun x hx => ?_) (fun x hx => ?_)
      (fun x hx _ => List.mem_cons_of_mem _ hx) fun _ => List.mem_cons_self⟩
  · exact ⟨List.mem_cons_of_mem _ hx, id_ne h.distinct (List.mem_append_left _ hx)⟩
  · rcases List.mem_cons.1 hx with rfl | hold
    · exact .inr ⟨rfl, rfl⟩
    · exact .inl ⟨hold, id_ne h.distinct (List.mem_append_right _ hold)⟩

theorem finish (h : Orderly g pending (job :: begun)) (said : Json) (outcome : JobOutcome) :
    g.Moves (g.update job.id (("message", said) :: outcome.members)) ∧
      Orderly (g.update job.id (("message", said) :: outcome.members)) pending begun := by
  have hmiddle : (pending ++ job :: begun).Perm (job :: (pending ++ begun)) := List.perm_middle
  have hdistinct := (hmiddle.map _).nodup_iff.1 h.distinct
  have hfinal : outcome.status.isFinal = true := by cases outcome <;> rfl
  have hended : ∀ (r : JobRecord) now,
      (r.revise now (("message", said) :: outcome.members)).Has outcome.status :=
    fun r now => JobRecord.ended_has r now said outcome
  refine ⟨update_moves hended (.ended hfinal) (h.running job List.mem_cons_self),
    h.update hended (List.nodup_cons.1 hdistinct).2 (fun x hx => ?_) (fun x hx => ?_)
      (fun x hx => ?_) (fun x hx hne => ?_) fun hrunning => ?_⟩
  · exact hmiddle.mem_iff.2 (List.mem_cons_of_mem _ hx)
  · exact ⟨hx, id_ne hdistinct (List.mem_append_left _ hx)⟩
  · exact .inl ⟨List.mem_cons_of_mem _ hx, id_ne hdistinct (List.mem_append_right _ hx)⟩
  · rcases List.mem_cons.1 hx with rfl | hold
    · exact absurd rfl hne
    · exact hold
  · rw [hrunning] at hfinal
    cases hfinal

end Orderly

namespace Backlog

/-- A backlog into which a job has been handed: the job is registered, and unless it is lost it
waits. -/
def Handed (b b' : Backlog) : Prop :=
  ∃ (type : Text) (known : List (Text × Json)), (∀ c ∈ known, c.1 ≠ "status") ∧
    b'.registry = (b.registry.create (.str type) known).2 ∧
    ∃ more, (more = [] ∨ ∃ job : WaitingJob, more = [job] ∧ job.id = some b.registry.nextId) ∧
      b'.lanes.all.Perm (b.lanes.all ++ more)

theorem enqueue_handed {b : Backlog} {type : Text} {known : List (Text × Json)}
    {push : Backlog → JobId → Backlog} (hknown : ∀ c ∈ known, c.1 ≠ "status")
    (hpush : ∀ b id, (push b id).registry = b.registry ∧
      ((push b id).lanes.all = b.lanes.all ∨
        ∃ job, job.id = some id ∧ (push b id).lanes.all.Perm (b.lanes.all ++ [job]))) :
    b.Handed (b.enqueue type known push).2 := by
  have hlost : b.lanes.all.Perm (b.lanes.all ++ []) := by rw [List.append_nil]
  refine ⟨type, known, hknown, ?_⟩
  unfold enqueue
  generalize hcreate : b.registry.create (.str type) known = created
  obtain ⟨id?, registry⟩ := created
  cases id? with
  | error f => exact ⟨rfl, [], .inl rfl, hlost⟩
  | ok id =>
    obtain ⟨hregistry, hlanes⟩ := hpush { b with registry } id
    refine ⟨hregistry, ?_⟩
    rcases hlanes with hsame | ⟨job, hid, hperm⟩
    · refine ⟨[], .inl rfl, ?_⟩
      rw [show _ = b.lanes.all from hsame]
      exact hlost
    · have hnext : id = b.registry.nextId :=
        Registry.create_id _ _ _ (congrArg Prod.fst hcreate)
      exact ⟨[job], .inr ⟨job, rfl, hid.trans (congrArg some hnext)⟩, hperm⟩

theorem pushLane_all (b : Backlog) (id : JobId) (session : SessionId) (action : JobAction) :
    (b.pushLane id session action).registry = b.registry ∧
      ((b.pushLane id session action).lanes.all = b.lanes.all ∨
        ∃ job : WaitingJob, job.id = some id ∧
          (b.pushLane id session action).lanes.all.Perm (b.lanes.all ++ [job])) := by
  refine ⟨rfl, ?_⟩
  have hpush := Lanes.push_all (b.lanes.laneOf session).2 (.lane (b.lanes.laneOf session).1)
    (⟨some id, session, action⟩ : WaitingJob)
  rw [Lanes.laneOf_all] at hpush
  exact hpush.imp_right fun hperm => ⟨⟨some id, session, action⟩, rfl, hperm⟩

theorem enqueueConnect_handed (b : Backlog) (session : SessionId) (address : Text) :
    b.Handed (b.enqueueConnect session address).2 :=
  enqueue_handed (by simp) fun b id => b.pushLane_all id session (.connect address)

theorem enqueueDisconnect_handed (b : Backlog) (session : SessionId) :
    b.Handed (b.enqueueDisconnect session).2 := by
  refine enqueue_handed (by simp) fun b id => ⟨rfl, ?_⟩
  exact (Lanes.push_all b.lanes .control (⟨some id, session, .disconnect⟩ : WaitingJob)).imp_right
    fun hperm => ⟨⟨some id, session, .disconnect⟩, rfl, hperm⟩

theorem enqueuePrint_handed (b : Backlog) (session : SessionId) (request : PrintRequest)
    (held : Reservation) : b.Handed (b.enqueuePrint session request held).2 :=
  enqueue_handed (by simp [PrintRequest.describe])
    fun b id => b.pushLane_all id session (.print request held)

end Backlog

namespace Floor

/-- One step of somebody at work: a job is handed in, taken from the front of a queue, begun, or
ended with any outcome. -/
inductive Step : Floor → Floor → Prop
  | connect {f : Floor} (session : SessionId) (address : Text) :
      Step f { f with backlog := (f.backlog.enqueueConnect session address).2 }
  | disconnect {f : Floor} (session : SessionId) :
      Step f { f with backlog := (f.backlog.enqueueDisconnect session).2 }
  | print {f : Floor} (session : SessionId) (request : PrintRequest) (held : Reservation) :
      Step f { f with backlog := (f.backlog.enqueuePrint session request held).2 }
  | take {f : Floor} {queue : QueueName} {job : WaitingJob} {lanes : Lanes WaitingJob}
      {taken : List WaitingJob} : f.backlog.lanes.pop? queue = some (job, lanes) →
      (job :: f.taken).Perm taken → Step f ⟨{ f.backlog with lanes }, taken, f.begun⟩
  | begin {f : Floor} {job : WaitingJob} {taken begun : List WaitingJob} :
      f.taken.Perm (job :: taken) → (job :: f.begun).Perm begun →
      Step f ⟨f.backlog.note job.id [("status", .str JobStatus.running.word)], taken, begun⟩
  | finish {f : Floor} {job : WaitingJob} {begun : List WaitingJob} (said : Json)
      (outcome : JobOutcome) : f.begun.Perm (job :: begun) →
      Step f ⟨f.backlog.note job.id (("message", said) :: outcome.members), f.taken, begun⟩

abbrev Steps : Floor → Floor → Prop := Relation.ReflTransGen Step

def pending (f : Floor) : List WaitingJob := f.backlog.lanes.all ++ f.taken

def registry (f : Floor) : Registry := f.backlog.registry

def InOrder (f : Floor) : Prop := Orderly f.registry f.pending f.begun

theorem handed_inOrder {f : Floor} {b : Backlog} (h : f.InOrder) (hb : f.backlog.Handed b) :
    f.registry.Moves b.registry ∧ InOrder { f with backlog := b } := by
  obtain ⟨type, known, hknown, hregistry, more, hmore, hperm⟩ := hb
  have hpending : (f.pending ++ more).Perm (b.lanes.all ++ f.taken) := by
    refine List.Perm.trans ?_ (hperm.symm.append_right f.taken)
    unfold pending
    rw [List.append_assoc, List.append_assoc]
    exact List.perm_append_comm.append_left _
  unfold InOrder
  rw [show registry { f with backlog := b } = _ from hregistry, hregistry]
  exact ⟨Orderly.create_moves _ hknown,
    (h.create _ hknown hmore).of_perm hpending (List.Perm.refl _)⟩

/-- Each step moves the records on by one status at most, and every job is in one place again. -/
theorem step_inOrder {f f' : Floor} (h : f.InOrder) (hstep : Step f f') :
    f.registry.Moves f'.registry ∧ f'.InOrder := by
  cases hstep with
  | connect session address =>
    exact handed_inOrder h (f.backlog.enqueueConnect_handed session address)
  | disconnect session => exact handed_inOrder h (f.backlog.enqueueDisconnect_handed session)
  | print session request held =>
    exact handed_inOrder h (f.backlog.enqueuePrint_handed session request held)
  | @take queue job lanes taken hpop htaken =>
    have hpending : f.pending.Perm (lanes.all ++ taken) :=
      ((Lanes.pop?_all hpop).append_right f.taken).trans
        (List.perm_middle.symm.trans (htaken.append_left lanes.all))
    exact ⟨⟨Nat.le_refl _, fun key r' hr' => .inr ⟨r', hr', .inl rfl⟩⟩,
      h.of_perm hpending (List.Perm.refl _)⟩
  | @begin job taken begun htaken hbegun =>
    have hpending : f.pending.Perm (job :: (f.backlog.lanes.all ++ taken)) :=
      (htaken.append_left _).trans List.perm_middle
    obtain ⟨hmoves, horder⟩ := (h.of_perm hpending (List.Perm.refl _)).begin
    exact ⟨hmoves, horder.of_perm (List.Perm.refl _) hbegun⟩
  | @finish job begun said outcome hbegun =>
    exact (h.of_perm (List.Perm.refl _) hbegun).finish said outcome

end Floor

/-! ## Runs -/

theorem JobStatus.not_final_of_trans {s s' : JobStatus} (h : Relation.TransGen Next s s') :
    s.isFinal = false := by
  obtain ⟨next, hnext, -⟩ := Relation.TransGen.head'_iff.1 h
  exact Bool.eq_false_iff.2 fun hfinal => not_next_final hfinal hnext

theorem JobRecord.Moved.trans {r r' r'' : JobRecord}
    (h : r.Moved (Relation.TransGen JobStatus.Next) r')
    (h' : r'.Moved (Relation.TransGen JobStatus.Next) r'') :
    r.Moved (Relation.TransGen JobStatus.Next) r'' := by
  rcases h' with rfl | ⟨t, t', ht, ht', hpasses'⟩
  · exact h
  · rcases h with rfl | ⟨s, s', hs, hs', hpasses⟩
    · exact .inr ⟨t, t', ht, ht', hpasses'⟩
    · cases hs'.unique ht
      exact .inr ⟨s, t', hs, ht', hpasses.trans hpasses'⟩

theorem JobRecord.Moved.final {r r' : JobRecord}
    (h : r.Moved (Relation.TransGen JobStatus.Next) r') {s : JobStatus} (hs : r.Has s)
    (hfinal : s.isFinal = true) : r' = r := by
  rcases h with rfl | ⟨t, t', ht, -, hpasses⟩
  · rfl
  · cases ht.unique hs
    rw [JobStatus.not_final_of_trans hpasses] at hfinal
    cases hfinal

namespace Registry

/-- A registry some steps later: a record that was under an id given out by then was there already,
and has moved on since if it has changed. -/
structure Later (g g' : Registry) : Prop where
  issued : g.issued ≤ g'.issued
  records : ∀ key r', (key, r') ∈ g'.records → g.Issued key →
    ∃ r, (key, r) ∈ g.records ∧ r.Moved (Relation.TransGen JobStatus.Next) r'

variable {g g' g'' : Registry}

theorem Later.refl (g : Registry) : g.Later g :=
  ⟨Nat.le_refl _, fun _ r hr _ => ⟨r, hr, .inl rfl⟩⟩

theorem Later.known (h : g.Later g') {key : JobId} (hkey : g.Issued key) : g'.Issued key := by
  obtain ⟨n, hn, rfl⟩ := hkey
  exact ⟨n, Nat.le_trans hn h.issued, rfl⟩

theorem Later.trans (h : g.Later g') (h' : g'.Later g'') : g.Later g'' := by
  refine ⟨Nat.le_trans h.issued h'.issued, fun key r'' hr'' hkey => ?_⟩
  obtain ⟨r', hr', hmoved'⟩ := h'.records key r'' hr'' (h.known hkey)
  obtain ⟨r, hr, hmoved⟩ := h.records key r' hr' hkey
  exact ⟨r, hr, hmoved.trans hmoved'⟩

theorem Moves.later (h : g.Moves g') : g.Later g' := by
  refine ⟨h.issued, fun key r' hr' hkey => ?_⟩
  rcases h.records key r' hr' with ⟨hnew, -⟩ | ⟨r, hr, hmoved⟩
  · exact absurd hkey hnew
  · refine ⟨r, hr, hmoved.imp_right ?_⟩
    rintro ⟨s, s', hs, hs', hnext⟩
    exact ⟨s, s', hs, hs', .single hnext⟩

end Registry

namespace Floor

variable {f f' f'' : Floor}

theorem steps_inOrder (h : f.InOrder) (hsteps : Steps f f') :
    f'.InOrder ∧ f.registry.Later f'.registry := by
  induction hsteps with
  | refl => exact ⟨h, .refl _⟩
  | tail _ hstep ih =>
    obtain ⟨horder, hlater⟩ := ih
    obtain ⟨hmoves, horder'⟩ := step_inOrder horder hstep
    exact ⟨horder', hlater.trans hmoves.later⟩

structure New (f : Floor) : Prop where
  records : f.registry.records = []
  pending : f.pending = []
  begun : f.begun = []

theorem New.inOrder (h : f.New) : f.InOrder := by
  unfold InOrder
  rw [h.pending, h.begun]
  have hnone : ∀ key r, (key, r) ∉ f.registry.records := by
    rw [h.records]
    exact fun _ _ => List.not_mem_nil
  refine ⟨?_, fun key r hr => absurd hr (hnone key r), nofun, List.nodup_nil, nofun, nofun,
    fun key r hr => absurd hr (hnone key r), fun key r hr => absurd hr (hnone key r)⟩
  rw [h.records]
  exact List.nodup_nil

theorem InOrder.get?_iff (h : f.InOrder) {key : JobId} {r : JobRecord} :
    f.registry.get? key = some r ↔ (key, r) ∈ f.registry.records := by
  refine ⟨Registry.mem_of_get?, fun hr => ?_⟩
  obtain ⟨found, hfound⟩ := Option.isSome_iff_exists.1
    (List.lookup_isSome_iff.2 ⟨(key, r), hr, beq_self_eq_true key⟩)
  have hsame := List.inj_on_of_nodup_map h.keys (Registry.mem_of_get? hfound) hr rfl
  cases hsame
  exact hfound

/-- What there is to say of the records on a floor. -/
structure Settles (f : Floor) : Prop where
  status : ∀ key r, f.registry.get? key = some r → ∃ s, r.Has s
  /-- Whatever runs somebody has in hand. -/
  running : ∀ key r, f.registry.get? key = some r → r.Has .running →
    ∃ job ∈ f.begun, job.id = some key
  /-- In one step a record comes in that waits, or stays, or gets its next status. -/
  step : ∀ f', Step f f' → ∀ key r', f'.registry.get? key = some r' →
    f.registry.get? key = none ∧ r'.Has .queued ∨
      ∃ r, f.registry.get? key = some r ∧
        (r' = r ∨ ∃ s s', r.Has s ∧ r'.Has s' ∧ s.Next s')
  /-- The record of a job that has ended stays as it is. -/
  final : ∀ f', Steps f f' → ∀ key r s, f.registry.get? key = some r → r.Has s →
    s.isFinal = true → ∀ r', f'.registry.get? key = some r' → r' = r
  /-- What is forgotten does not come back. -/
  forgotten : ∀ f' f'', Steps f f' → Steps f' f'' → ∀ key r, f.registry.get? key = some r →
    f'.registry.get? key = none → f''.registry.get? key = none

theorem InOrder.settles (h : f.InOrder) : f.Settles where
  status key r hr := h.status key r (Registry.mem_of_get? hr)
  running key r hr := h.inHand key r (Registry.mem_of_get? hr)
  step f' hstep key r' hr' := by
    obtain ⟨hmoves, -⟩ := step_inOrder h hstep
    rcases hmoves.records key r' (Registry.mem_of_get? hr') with ⟨hnew, hqueued⟩ | ⟨r, hr, hmoved⟩
    · refine .inl ⟨Option.eq_none_iff_forall_not_mem.2 fun r hr => ?_, hqueued⟩
      exact hnew (h.issued key r (Registry.mem_of_get? hr))
    · exact .inr ⟨r, h.get?_iff.2 hr, hmoved⟩
  final f' hsteps key r s hr hs hfinal r' hr' := by
    obtain ⟨-, hlater⟩ := steps_inOrder h hsteps
    have hissued := h.issued key r (Registry.mem_of_get? hr)
    obtain ⟨old, hold, hmoved⟩ := hlater.records key r' (Registry.mem_of_get? hr') hissued
    cases (h.get?_iff.2 hold).symm.trans hr
    exact hmoved.final hs hfinal
  forgotten f' f'' hsteps hsteps' key r hr hnone := by
    obtain ⟨horder, hlater⟩ := steps_inOrder h hsteps
    obtain ⟨-, hlater'⟩ := steps_inOrder horder hsteps'
    have hissued := hlater.known (h.issued key r (Registry.mem_of_get? hr))
    refine Option.eq_none_iff_forall_not_mem.2 fun r'' hr'' => ?_
    obtain ⟨r', hr', -⟩ := hlater'.records key r'' (Registry.mem_of_get? hr'') hissued
    cases (horder.get?_iff.2 hr').symm.trans hnone

end Floor
end ThermalPrint
