import ThermalPrint.Proofs.Work.Crew
import ThermalPrint.Proofs.Work.Settled

/-
Jobs in turn.  All jobs of a session but those that disconnect go to one lane, so that they are done
in the order in which they were handed in, each from its begin to its end.  A job that disconnects
has the control queue, on which there are none but such jobs.

That every job is done rests on the queues being attended to: whoever can go on at a queue does so
at some time.  What happens at the other queues does not matter for it.
-/

namespace ThermalPrint
namespace Crew

variable {c c' : Crew} {who : Option QueueName} {queue : QueueName}

def acceptedFor (x : SessionId) (c : Crew) : List WaitingJob :=
  (c.accepted.map (·.2)).filter fun job => job.inLane && job.session = x

/-- What has been done with them, in order. -/
def turnsFor (x : SessionId) (c : Crew) : List Turn :=
  (c.turns.map (·.2)).filter fun t => t.job.inLane && t.job.session = x

section Lists

variable {β : Type}

theorem filter_ofQueue {l : List (QueueName × β)} {p : β → Bool}
    (h : ∀ e ∈ l, p e.2 = true → e.1 = queue) :
    (l.map (·.2)).filter p = (ofQueue queue l).filter p := by
  induction l with
  | nil => rfl
  | cons e rest ih =>
    have hrest := ih fun e he => h e (List.mem_cons_of_mem _ he)
    unfold ofQueue at hrest ⊢
    by_cases hp : p e.2 = true
    · have hqueue : e.1 = queue := h e List.mem_cons_self hp
      simp [hp, hqueue, hrest]
    · by_cases hqueue : e.1 = queue
      · simp [hp, hqueue, hrest]
      · simp [hp, hqueue, hrest]

theorem nodup_of_ofQueue {l : List (QueueName × β)} (h : ∀ queue, (ofQueue queue l).Nodup) :
    l.Nodup := by
  induction l with
  | nil => exact List.nodup_nil
  | cons e rest ih =>
    refine List.nodup_cons.2 ⟨fun hmem => ?_, ih fun queue => ?_⟩
    · have hself := h e.1
      simp only [ofQueue, List.filterMap_cons, if_true, List.nodup_cons] at hself
      exact hself.1 (mem_ofQueue.2 hmem)
    · have hqueue := h queue
      unfold ofQueue at hqueue ⊢
      rw [List.filterMap_cons] at hqueue
      split at hqueue
      · exact hqueue
      · exact (List.nodup_cons.1 hqueue).2

theorem filter_both (l : List WaitingJob) (p : WaitingJob → Bool) :
    (l.flatMap Turn.both).filter (fun t => p t.job) = (l.filter p).flatMap Turn.both := by
  induction l with
  | nil => rfl
  | cons job rest ih =>
    by_cases hp : p job = true
    · simp [Turn.both, Turn.job, hp, ← ih]
    · simp [Turn.both, Turn.job, hp, ← ih]

theorem nodup_both {l : List WaitingJob} (h : l.Nodup) : (l.flatMap Turn.both).Nodup := by
  induction l with
  | nil => exact List.nodup_nil
  | cons job rest ih =>
    obtain ⟨hjob, hrest⟩ := List.nodup_cons.1 h
    simp [Turn.both, hjob, show (rest.flatMap Turn.both).Nodup from ih hrest]

theorem length_both (l : List WaitingJob) : (l.flatMap Turn.both).length = 2 * l.length := by
  induction l with
  | nil => rfl
  | cons job rest ih =>
    rw [List.flatMap_cons, List.length_append, ih, List.length_cons]
    show 2 + _ = _
    omega

end Lists

namespace Sound

variable (h : c.Sound)

include h

theorem turns_prefix (queue : QueueName) :
    ofQueue queue c.turns <+: (ofQueue queue c.accepted).flatMap Turn.both := by
  obtain ⟨past, haccepted, hturns⟩ := h.inTurn queue
  rw [haccepted, hturns, List.append_assoc, List.flatMap_append]
  refine (List.prefix_append_right_inj _).2 ?_
  cases c.hands queue with
  | none => exact List.nil_prefix
  | some job => exact ⟨_, rfl⟩

theorem turn_accepted {t : Turn} (ht : (queue, t) ∈ c.turns) : (queue, t.job) ∈ c.accepted := by
  have hmem := (h.turns_prefix queue).subset (mem_ofQueue.2 ht)
  obtain ⟨job, hjob, hturn⟩ := List.mem_flatMap.1 hmem
  have hsame : t.job = job := by
    rcases List.mem_cons.1 hturn with rfl | hturn
    · rfl
    · rw [List.mem_singleton.1 hturn]
      rfl
  rw [hsame]
  exact mem_ofQueue.1 hjob

theorem lane (x : SessionId) : ∃ n < c.backlog.lanes.lanes.length,
    ∀ a ∈ c.accepted, a.2.inLane = true → a.2.session = x → a.1 = .lane n := by
  cases hx : c.backlog.lanes.assigned.lookup x with
  | some n =>
    obtain ⟨front, back, hsplit, -⟩ := List.lookup_eq_some_iff.1 hx
    refine ⟨n, h.lanes.assigned (x, n) (by simp [hsplit]), fun a ha hlane hsession => ?_⟩
    obtain ⟨m, hm, hqueue⟩ := h.inLane a ha hlane
    rw [hsession] at hm
    cases hx.symm.trans hm
    exact hqueue
  | none =>
    refine ⟨0, h.lanes.some_lane, fun a ha hlane hsession => ?_⟩
    obtain ⟨m, hm, -⟩ := h.inLane a ha hlane
    rw [hsession] at hm
    cases hx.symm.trans hm

/-- What is done with the jobs of a session is done in turn, since it is done at one queue. -/
theorem session_inTurn (x : SessionId) : turnsFor x c <+: (acceptedFor x c).flatMap Turn.both := by
  obtain ⟨n, -, hn⟩ := h.lane x
  have haccepted : acceptedFor x c = (ofQueue (.lane n) c.accepted).filter
      fun job => job.inLane && job.session = x := by
    refine filter_ofQueue fun a ha hp => ?_
    simp only [Bool.and_eq_true, decide_eq_true_eq] at hp
    exact hn a ha hp.1 hp.2
  have hturns : turnsFor x c = (ofQueue (.lane n) c.turns).filter
      fun t => t.job.inLane && t.job.session = x := by
    refine filter_ofQueue fun t ht hp => ?_
    simp only [Bool.and_eq_true, decide_eq_true_eq] at hp
    exact hn _ (h.turn_accepted ht) hp.1 hp.2
  -- both stand at one lane, and leaving out the jobs of other sessions keeps the order
  rw [haccepted, hturns, ← filter_both]
  exact (h.turns_prefix (.lane n)).filter _

theorem control_iff {a : QueueName × WaitingJob} (ha : a ∈ c.accepted) :
    a.1 = .control ↔ a.2.action = .disconnect := by
  have hlane : a.2.inLane = false ↔ a.2.action = .disconnect := by
    unfold WaitingJob.inLane
    cases a.2.action <;> simp
  rw [← hlane]
  refine ⟨fun hcontrol => ?_, h.inControl a ha⟩
  by_contra hne
  obtain ⟨n, -, hn⟩ := h.inLane a ha (by simpa using hne)
  cases hcontrol.symm.trans hn

theorem nodup_turns : c.turns.Nodup := by
  have haccepted : c.accepted.Nodup := List.Nodup.of_map _ h.distinct
  refine nodup_of_ofQueue fun queue => (h.turns_prefix queue).sublist.nodup (nodup_both ?_)
  refine haccepted.filterMap fun a a' job ha ha' => ?_
  simp only [Option.mem_def, Option.ite_none_right_eq_some, Option.some.injEq] at ha ha'
  exact Prod.ext (ha.1.trans ha'.1.symm) (ha.2.trans ha'.2.symm)

/-- As long as not all has been done that a queue has accepted, whoever is there can go on. -/
theorem ready (hmore : (ofQueue queue c.turns).length < 2 * (ofQueue queue c.accepted).length) :
    ∃ c', Step (some queue) c c' := by
  obtain ⟨past, haccepted, hturns⟩ := h.inTurn queue
  cases hhand : c.hands queue with
  | some job => exact ⟨_, .finish .null .unknownType hhand⟩
  | none =>
    cases hpop : c.backlog.lanes.pop? queue with
    | some front => exact ⟨_, .begin hhand hpop⟩
    | none =>
      rw [Lanes.pop?_eq_none_iff] at hpop
      simp only [haccepted, hturns, hhand, hpop, Option.toList_none, List.append_nil,
        List.map_nil, length_both] at hmore
      exact absurd hmore (Nat.lt_irrefl _)

/-- If enough has been done at a queue, what it had accepted is past. -/
theorem ended_of_length {l : List WaitingJob} (hl : l <+: ofQueue queue c.accepted)
    (hlength : 2 * l.length ≤ (ofQueue queue c.turns).length) {job : WaitingJob} (hjob : job ∈ l) :
    (queue, .ended job) ∈ c.turns := by
  obtain ⟨past, haccepted, hturns⟩ := h.inTurn queue
  rw [hturns, List.length_append, length_both, List.length_map] at hlength
  have hhand : (c.hands queue).toList.length ≤ 1 := by cases c.hands queue <;> simp
  have hpast : l <+: past := by
    refine List.prefix_of_prefix_length_le hl ?_ (by omega)
    rw [haccepted, List.append_assoc]
    exact List.prefix_append _ _
  rw [← mem_ofQueue, hturns]
  refine List.mem_append_left _ (List.mem_flatMap.2 ⟨job, hpast.subset hjob, ?_⟩)
  exact List.mem_cons_of_mem _ List.mem_cons_self

end Sound

/-- At each queue one turn is taken by whoever is there, and none by the others. -/
theorem step_grows (hstep : Step who c c') (queue : QueueName) :
    ofQueue queue c.accepted <+: ofQueue queue c'.accepted ∧
      (ofQueue queue c'.turns).length =
        (ofQueue queue c.turns).length + if who = some queue then 1 else 0 := by
  have htaken : ∀ (at' : QueueName) (t : Turn), (ofQueue queue (c.turns ++ [(at', t)])).length =
      (ofQueue queue c.turns).length + if some at' = some queue then 1 else 0 := by
    intro at' t
    by_cases hqueue : at' = queue
    · subst hqueue
      simp
    · have hother : ¬ some at' = some queue := fun hsame => hqueue (Option.some.inj hsame)
      simp only [ofQueue_other hqueue, if_neg hother, Nat.add_zero]
  cases hstep with
  | @accept _ call id hid =>
    refine ⟨?_, rfl⟩
    by_cases hqueue : (call.place c.backlog.lanes).1 = queue
    · subst hqueue
      simp
    · exact ⟨[], (List.append_nil _).trans (ofQueue_other hqueue _ _).symm⟩
  | refuse call hf => exact ⟨List.prefix_rfl, rfl⟩
  | begin hfree hpop => exact ⟨List.prefix_rfl, htaken _ _⟩
  | finish said outcome hhand => exact ⟨List.prefix_rfl, htaken _ _⟩

theorem step_hands (hstep : Step who c c') (hwho : who ≠ some queue) :
    c'.hands queue = c.hands queue := by
  cases hstep with
  | accept call hid => rfl
  | refuse call hf => rfl
  | begin hfree hpop =>
    exact Function.update_of_ne (fun hsame => hwho (congrArg some hsame.symm)) _ _
  | finish said outcome hhand =>
    exact Function.update_of_ne (fun hsame => hwho (congrArg some hsame.symm)) _ _

/-- A run from the start, in which at times nothing is done. -/
structure Run (run : Nat → Crew) : Prop where
  start : (run 0).New
  step : ∀ n, run (n + 1) = run n ∨ ∃ who, Step who (run n) (run (n + 1))

/-- Whenever whoever is at a queue can go on, a step is taken there at some time. -/
def Attended (run : Nat → Crew) (queue : QueueName) : Prop :=
  ∀ n, (∃ c, Step (some queue) (run n) c) → ∃ m, n ≤ m ∧ Step (some queue) (run m) (run (m + 1))

namespace Run

variable {run : Nat → Crew} (h : Run run)

include h

theorem sound (n : Nat) : (run n).Sound := by
  induction n with
  | zero => exact h.start.sound
  | succ n ih =>
    rcases h.step n with hsame | ⟨who, hstep⟩
    · rw [hsame]
      exact ih
    · exact step_sound ih hstep

theorem grows (queue : QueueName) {m n : Nat} (hmn : m ≤ n) :
    ofQueue queue (run m).accepted <+: ofQueue queue (run n).accepted ∧
      (ofQueue queue (run m).turns).length ≤ (ofQueue queue (run n).turns).length := by
  induction hmn with
  | refl => exact ⟨List.prefix_rfl, Nat.le_refl _⟩
  | @step n hmn ih =>
    rcases h.step n with hsame | ⟨who, hstep⟩
    · rw [hsame]
      exact ih
    · obtain ⟨haccepted, hturns⟩ := step_grows hstep queue
      have hmore : (ofQueue queue (run n).turns).length ≤
          (ofQueue queue (run (n + 1)).turns).length := by omega
      exact ⟨ih.1.trans haccepted, Nat.le_trans ih.2 hmore⟩

/-- An attended queue goes on until all is done that it has accepted by some time. -/
theorem catches_up (hqueue : Attended run queue) (n k : Nat) :
    ∃ m, n ≤ m ∧ min k (2 * (ofQueue queue (run n).accepted).length) ≤
      (ofQueue queue (run m).turns).length := by
  -- on the number of turns: until all is done somebody can go on, and then does so at some time
  induction k with
  | zero => exact ⟨n, Nat.le_refl n, by omega⟩
  | succ k ih =>
    obtain ⟨m, hnm, hm⟩ := ih
    by_cases hdone : 2 * (ofQueue queue (run n).accepted).length ≤
        (ofQueue queue (run m).turns).length
    · exact ⟨m, hnm, by omega⟩
    · have haccepted := (h.grows queue hnm).1.length_le
      obtain ⟨l, hml, hstep⟩ := hqueue m ((h.sound m).ready (by omega))
      have hturns := (h.grows queue hml).2
      have hlater := (step_grows hstep queue).2
      rw [if_pos rfl] at hlater
      exact ⟨l + 1, by omega, by omega⟩

theorem ends (hqueue : Attended run queue) {n : Nat} {job : WaitingJob}
    (hjob : (queue, job) ∈ (run n).accepted) :
    ∃ m, n ≤ m ∧ (queue, .ended job) ∈ (run m).turns := by
  obtain ⟨m, hnm, hm⟩ := h.catches_up hqueue n (2 * (ofQueue queue (run n).accepted).length)
  refine ⟨m, hnm, (h.sound m).ended_of_length (h.grows queue hnm).1 (by omega) ?_⟩
  exact mem_ofQueue.2 hjob

end Run

/-- What there is to say of a crew. -/
structure Regular (c : Crew) : Prop where
  /-- The jobs of a session are done in the order in which they were handed in, and each is ended
  before the next one is begun. -/
  order : ∀ x, turnsFor x c <+: (acceptedFor x c).flatMap Turn.both
  /-- A session has one lane. -/
  lane : ∀ x, ∃ n < c.backlog.lanes.lanes.length,
    ∀ a ∈ c.accepted, a.2.inLane = true → a.2.session = x → a.1 = .lane n
  /-- The control queue is for the jobs that disconnect. -/
  control : ∀ a ∈ c.accepted, a.1 = .control ↔ a.2.action = .disconnect
  /-- What is in hand there or waits there disconnects as well. -/
  apart : ∀ job ∈ (c.hands .control).toList ++ c.backlog.lanes.waiting .control,
    job.action = .disconnect
  /-- Nothing is done twice, and nothing but what has been accepted. -/
  once : c.turns.Nodup
  known : ∀ t ∈ c.turns, (t.1, t.2.job) ∈ c.accepted
  distinct : (c.accepted.map (·.2.id)).Nodup

theorem Sound.regular (h : c.Sound) : c.Regular where
  order := h.session_inTurn
  lane := h.lane
  control _ ha := h.control_iff ha
  apart job hjob := by
    obtain ⟨past, haccepted, -⟩ := h.inTurn .control
    refine (h.control_iff (a := (.control, job)) (mem_ofQueue.1 ?_)).1 rfl
    rw [haccepted, List.append_assoc]
    exact List.mem_append_right _ hjob
  once := h.nodup_turns
  known _ ht := h.turn_accepted ht
  distinct := h.distinct

end Crew

namespace House

open Crew (Step)

variable {τ : Type}

/-- What becomes of a backlog while errands are run. -/
def Meanwhile (o : Outside τ) : Backlog → Backlog → Prop :=
  Relation.ReflTransGen fun b b' => ∃ (α : Type) (errand : Errand τ α) (h : House τ),
    h.floor.backlog = b ∧ ((ask o errand).run h).2.floor.backlog = b'

/-- Whoever runs a queue of an office begins the job at its front and ends it, and nothing is done
to the backlog in between but what others do while errands are run. -/
theorem runNext_turn (o : Outside τ) (queue : QueueName) (h : House τ) {c : Crew}
    (hc : c.backlog = h.floor.backlog) (hfree : c.hands queue = none) :
    let after := ((office o).runNext queue).run h
    after = (none, h) ∧ c.backlog.lanes.waiting queue = [] ∨
    ∃ job c₁ b, after.1 = some job ∧ Step (some queue) c c₁ ∧ c₁.hands queue = some job ∧
      Meanwhile o c₁.backlog b ∧
      ∀ c₂ : Crew, c₂.backlog = b → c₂.hands queue = some job →
        ∃ c₃, Step (some queue) c₂ c₃ ∧ c₃.backlog = after.2.floor.backlog := by
  rw [runNext_run, ← hc]
  cases hpop : c.backlog.lanes.pop? queue with
  | none => exact .inl ⟨rfl, Lanes.pop?_eq_none_iff.1 hpop⟩
  | some front =>
    obtain ⟨job, lanes⟩ := front
    let taken := h.setBacklog { c.backlog with lanes }
    -- between begin and end the job runs errands, and the backlog changes through nothing else
    have hkept : Kept o fun h' : House τ =>
        Meanwhile o (taken.begun job.id).floor.backlog h'.floor.backlog :=
      fun errand h' hsince => hsince.tail ⟨_, errand, h', rfl, rfl⟩
    have hothers : Meanwhile o (taken.begun job.id).floor.backlog
        (attempted o taken job).2.floor.backlog := by
      refine leads_attempt (fun h₁ h₂ hsince hsame => ?_) hkept job (taken.begun job.id) .refl
      rw [hsame]
      exact hsince
    let said := Json.ofText? ((attempted o taken job).2.session job.session).lastMessage
    refine .inr ⟨job, _, _, rfl, .begin hfree hpop, Function.update_self .., hothers,
      fun c₂ hb hhand => ⟨_, .finish said (.ofResult (attempted o taken job).1) hhand, ?_⟩⟩
    dsimp only
    rw [hb]
    rfl

end House

namespace Crew

section Day

def dayJob : WaitingJob := (Call.connect 0 "tcp://front:9100").job "job1"

def dayAccepted : Crew where
  backlog := (Call.enqueue {} (.connect 0 "tcp://front:9100")).2
  accepted := [(.lane 0, dayJob)]

def dayBegun : Crew where
  backlog := { dayAccepted.backlog with
    lanes := dayAccepted.backlog.lanes.setQueue (.lane 0) [] }.note
      dayJob.id [("status", .str JobStatus.running.word)]
  hands := Function.update (fun _ => none) (.lane 0) (some dayJob)
  accepted := [(.lane 0, dayJob)]
  turns := [(.lane 0, .begun dayJob)]

def dayEnded : Crew where
  backlog := dayBegun.backlog.note dayJob.id
    (("message", .null) :: (JobOutcome.state "connected").members)
  hands := Function.update dayBegun.hands (.lane 0) none
  accepted := [(.lane 0, dayJob)]
  turns := [(.lane 0, .begun dayJob), (.lane 0, .ended dayJob)]

def day : Nat → Crew
  | 0 => {}
  | 1 => dayAccepted
  | 2 => dayBegun
  | _ => dayEnded

theorem day_id : ((Call.connect 0 "tcp://front:9100").enqueue {}).1 = .ok "job1" := by
  decide +kernel

theorem dayAccepted_lanes :
    dayAccepted.backlog.lanes = { lanes := [[dayJob], []], assigned := [(0, 0)] } :=
  congrArg Backlog.lanes (Call.enqueue_ok day_id).2

theorem day_accept : Step none (day 0) (day 1) := .accept (c := {}) _ day_id

theorem day_begin : Step (some (.lane 0)) (day 1) (day 2) := by
  refine .begin (c := dayAccepted) rfl ?_
  rw [dayAccepted_lanes]
  rfl

theorem day_finish : Step (some (.lane 0)) (day 2) (day 3) :=
  .finish (c := dayBegun) .null (.state "connected") rfl

theorem day_run : Run day := by
  refine ⟨⟨⟨2, by decide, rfl⟩, fun _ => rfl, rfl, rfl⟩, fun n => ?_⟩
  match n with
  | 0 => exact .inr ⟨_, day_accept⟩
  | 1 => exact .inr ⟨_, day_begin⟩
  | 2 => exact .inr ⟨_, day_finish⟩
  | _ + 3 => exact .inl rfl

theorem day_attended : Attended day (.lane 0) := by
  intro n hn
  match n with
  | 0 => exact ⟨1, by omega, day_begin⟩
  | 1 => exact ⟨1, by omega, day_begin⟩
  | 2 => exact ⟨2, by omega, day_finish⟩
  | n + 3 =>
    obtain ⟨c, hstep⟩ := hn
    cases hstep with
    | begin hfree hpop =>
      have hnone : (dayAccepted.backlog.lanes.setQueue (.lane 0) []).pop? (.lane 0) = none := by
        rw [dayAccepted_lanes]
        rfl
      cases hnone.symm.trans hpop
    | finish said outcome hhand =>
      have hnone : dayEnded.hands (.lane 0) = none := rfl
      cases hnone.symm.trans hhand

end Day

end Crew
end ThermalPrint
