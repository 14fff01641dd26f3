import Mathlib.Logic.Function.Basic
import Mathlib.Logic.Relation
import ThermalPrint.Proofs.Work.Queues
import ThermalPrint.Work.Office

/-
Somebody at each queue.  Whoever is at a queue takes the job at its front, does it, and takes the
next one; meanwhile others are at work at their queues, and jobs are handed in.

The invariant divides what a queue has accepted into what is past, what is in hand and what waits,
in this order, and says that the turns taken at the queue are those of the past and the beginning
of what is in hand.
-/

namespace ThermalPrint

/-- Every job but one that disconnects goes to the lane of its session. -/
def WaitingJob.inLane (job : WaitingJob) : Bool :=
  match job.action with
  | .disconnect => false
  | _ => true

inductive Turn
  | begun (job : WaitingJob)
  | ended (job : WaitingJob)

def Turn.job : Turn → WaitingJob
  | begun job => job
  | ended job => job

def Turn.both (job : WaitingJob) : List Turn := [.begun job, .ended job]

/-- A backlog and the job in hand at each queue; which queue has accepted which job, and what has
been done at it, in order. -/
structure Crew where
  backlog : Backlog := {}
  hands : QueueName → Option WaitingJob := fun _ => none
  accepted : List (QueueName × WaitingJob) := []
  turns : List (QueueName × Turn) := []

namespace Crew

/-- A job that is handed in.  One that prints comes with the slot that is held for it. -/
inductive Call
  | connect (session : SessionId) (address : Text)
  | disconnect (session : SessionId)
  | print (session : SessionId) (request : PrintRequest) (held : Reservation)

namespace Call

def session : Call → SessionId
  | connect x _ => x
  | disconnect x => x
  | print x _ _ => x

def action : Call → JobAction
  | connect _ address => .connect address
  | disconnect _ => .disconnect
  | print _ request held => .print request held

def enqueue (b : Backlog) : Call → Except Fault JobId × Backlog
  | connect x address => b.enqueueConnect x address
  | disconnect x => b.enqueueDisconnect x
  | print x request held => b.enqueuePrint x request held

def place (q : Lanes WaitingJob) : Call → QueueName × Lanes WaitingJob
  | disconnect _ => (.control, q)
  | call => (.lane (q.laneOf call.session).1, (q.laneOf call.session).2)

def job (call : Call) (id : JobId) : WaitingJob := ⟨some id, call.session, call.action⟩

def type : Call → Text
  | connect .. => "connect"
  | disconnect _ => "disconnect"
  | print .. => "print"

def known : Call → List (Text × Json)
  | connect _ address => [("address", .str address)]
  | disconnect _ => []
  | print _ request _ => request.describe

def create (g : Registry) (call : Call) : Except Fault JobId × Registry :=
  g.create (.str call.type) call.known

theorem enqueue_push (b : Backlog) (call : Call) :
    call.enqueue b = b.enqueue call.type call.known fun b' id => { b' with
      lanes := (call.place b'.lanes).2.push (call.place b'.lanes).1 (call.job id) } := by
  cases call <;> rfl

theorem enqueue_eq (b : Backlog) (call : Call) :
    call.enqueue b =
      ((call.create b.registry).1,
        match (call.create b.registry).1 with
        | .ok id => { b with
            registry := (call.create b.registry).2
            lanes := (call.place b.lanes).2.push (call.place b.lanes).1 (call.job id) }
        | .error _ => { b with registry := (call.create b.registry).2 }) := by
  rw [enqueue_push]
  unfold Backlog.enqueue create
  rcases b.registry.create (.str call.type) call.known with ⟨f | id, registry⟩ <;> rfl

theorem enqueue_ok {b : Backlog} {call : Call} {id : JobId} (h : (call.enqueue b).1 = .ok id) :
    id = b.registry.nextId ∧ (call.enqueue b).2 = { b with
      registry := (call.create b.registry).2
      lanes := (call.place b.lanes).2.push (call.place b.lanes).1 (call.job id) } := by
  rw [enqueue_eq] at h ⊢
  dsimp only at h ⊢
  rw [h]
  exact ⟨Registry.create_id _ _ _ h, rfl⟩

theorem enqueue_error {b : Backlog} {call : Call} {f : Fault} (h : (call.enqueue b).1 = .error f) :
    (call.enqueue b).2 = { b with registry := (call.create b.registry).2 } := by
  rw [enqueue_eq] at h ⊢
  dsimp only at h ⊢
  rw [h]

end Call

/-- One step, of nobody at a queue or of whoever is at one: a job is handed in, or refused, or the
one at the front of a queue is begun, or the one in hand is ended with any outcome. -/
inductive Step : Option QueueName → Crew → Crew → Prop
  | accept {c : Crew} (call : Call) {id : JobId} (h : (call.enqueue c.backlog).1 = .ok id) :
    Step none c
      { c with
        backlog := (call.enqueue c.backlog).2
        accepted := c.accepted ++ [((call.place c.backlog.lanes).1, call.job id)] }
  | refuse {c : Crew} (call : Call) {f : Fault} (h : (call.enqueue c.backlog).1 = .error f) :
    Step none c { c with backlog := (call.enqueue c.backlog).2 }
  | begin {c : Crew} {queue : QueueName} {job : WaitingJob} {lanes : Lanes WaitingJob}
      (hfree : c.hands queue = none) (hpop : c.backlog.lanes.pop? queue = some (job, lanes)) :
    Step (some queue) c
      { c with
        backlog := { c.backlog with lanes }.note job.id [("status", .str JobStatus.running.word)]
        hands := Function.update c.hands queue (some job)
        turns := c.turns ++ [(queue, .begun job)] }
  | finish {c : Crew} {queue : QueueName} {job : WaitingJob} (said : Json) (outcome : JobOutcome)
      (hhand : c.hands queue = some job) :
    Step (some queue) c
      { c with
        backlog := c.backlog.note job.id (("message", said) :: outcome.members)
        hands := Function.update c.hands queue none
        turns := c.turns ++ [(queue, .ended job)] }

def Steps : Crew → Crew → Prop := Relation.ReflTransGen fun c c' => ∃ who, Step who c c'

structure New (c : Crew) : Prop where
  lanes : ∃ n, 1 ≤ n ∧ c.backlog.lanes = .ofCount n
  hands : ∀ queue, c.hands queue = none
  accepted : c.accepted = []
  turns : c.turns = []

section At

variable {β : Type} {queue other : QueueName}

/-- What has been written down for one queue, in order. -/
def ofQueue (queue : QueueName) (l : List (QueueName × β)) : List β :=
  l.filterMap fun e => if e.1 = queue then some e.2 else none

theorem mem_ofQueue {l : List (QueueName × β)} {b : β} :
    b ∈ ofQueue queue l ↔ (queue, b) ∈ l := by
  simp only [ofQueue, List.mem_filterMap, Option.ite_none_right_eq_some, Option.some.injEq]
  constructor
  · rintro ⟨⟨_, _⟩, hmem, rfl, rfl⟩
    exact hmem
  · exact fun hmem => ⟨_, hmem, rfl, rfl⟩

@[simp] theorem ofQueue_self (l : List (QueueName × β)) (b : β) :
    ofQueue queue (l ++ [(queue, b)]) = ofQueue queue l ++ [b] := by
  simp [ofQueue]

theorem ofQueue_other (h : queue ≠ other) (l : List (QueueName × β)) (b : β) :
    ofQueue other (l ++ [(queue, b)]) = ofQueue other l := by
  simp [ofQueue, h]

end At

/-- Of what a queue has accepted some is past, one may be in hand, and the rest waits. -/
def InTurn (c : Crew) (queue : QueueName) : Prop :=
  ∃ past, ofQueue queue c.accepted =
      past ++ (c.hands queue).toList ++ c.backlog.lanes.waiting queue ∧
    ofQueue queue c.turns = past.flatMap Turn.both ++ (c.hands queue).toList.map .begun

structure Sound (c : Crew) : Prop where
  lanes : c.backlog.lanes.Sound
  inTurn : ∀ queue, c.InTurn queue
  inLane : ∀ a ∈ c.accepted, a.2.inLane = true →
    ∃ n, c.backlog.lanes.assigned.lookup a.2.session = some n ∧ a.1 = .lane n
  inControl : ∀ a ∈ c.accepted, a.2.inLane = false → a.1 = .control
  issued : ∀ a ∈ c.accepted, ∃ key, a.2.id = some key ∧ c.backlog.registry.Issued key
  distinct : (c.accepted.map (·.2.id)).Nodup

variable {c c' : Crew} {who : Option QueueName} {queue : QueueName}

theorem New.sound (h : c.New) : c.Sound := by
  obtain ⟨⟨n, hn, hlanes⟩, hhands, haccepted, hturns⟩ := h
  refine ⟨hlanes ▸ Lanes.ofCount_sound hn, fun queue => ⟨[], ?_, ?_⟩, ?_, ?_, ?_, ?_⟩
  · simp [haccepted, ofQueue, hhands, hlanes]
  · simp [hturns, ofQueue, hhands]
  · simp [haccepted]
  · simp [haccepted]
  · simp [haccepted]
  · simp [haccepted]

section Accept

variable (call : Call)

theorem place_sound {q : Lanes WaitingJob} (h : q.Sound) :
    (call.place q).2.Sound ∧ (call.place q).2.Has (call.place q).1 := by
  have hlane : ∀ x : SessionId, (q.laneOf x).2.Has (.lane (q.laneOf x).1) := by
    intro x
    show (q.laneOf x).1 < (q.laneOf x).2.lanes.length
    rw [Lanes.laneOf_lanes]
    exact Lanes.laneOf_has h
  cases call with
  | connect x address => exact ⟨Lanes.laneOf_sound h, hlane x⟩
  | disconnect x => exact ⟨h, trivial⟩
  | print x request held => exact ⟨Lanes.laneOf_sound h, hlane x⟩

theorem place_waiting (q : Lanes WaitingJob) (queue : QueueName) :
    (call.place q).2.waiting queue = q.waiting queue := by
  cases call with
  | disconnect x => rfl
  | _ => exact Lanes.laneOf_waiting q _

theorem place_keeps {q : Lanes WaitingJob} {x : SessionId} {n : Nat}
    (h : q.assigned.lookup x = some n) : (call.place q).2.assigned.lookup x = some n := by
  cases call with
  | disconnect x => exact h
  | _ => exact Lanes.laneOf_keeps h

theorem place_inLane (q : Lanes WaitingJob) (id : JobId) (h : (call.job id).inLane = true) :
    ∃ n, (call.place q).2.assigned.lookup (call.job id).session = some n ∧
      (call.place q).1 = .lane n := by
  have hlane : ∀ x : SessionId, (q.laneOf x).2.assigned.lookup x = some (q.laneOf x).1 := by
    intro x
    rw [Lanes.laneOf_assigned, if_pos rfl]
  cases call with
  | connect x address => exact ⟨_, hlane x, rfl⟩
  | disconnect x => cases h
  | print x request held => exact ⟨_, hlane x, rfl⟩

theorem place_inControl (q : Lanes WaitingJob) (id : JobId) (h : (call.job id).inLane = false) :
    (call.place q).1 = .control := by
  cases call with
  | disconnect x => rfl
  | _ => cases h

/-- What is handed in waits behind the rest of its queue. -/
theorem Sound.accept (h : c.Sound) {id : JobId} (hid : (call.enqueue c.backlog).1 = .ok id) :
    Sound { c with
      backlog := (call.enqueue c.backlog).2
      accepted := c.accepted ++ [((call.place c.backlog.lanes).1, call.job id)] } := by
  obtain ⟨rfl, hbacklog⟩ := Call.enqueue_ok hid
  obtain ⟨hplaced, hhas⟩ := place_sound call h.lanes
  have hissued : (call.create c.backlog.registry).2.issued = c.backlog.registry.issued + 1 := rfl
  rw [hbacklog]
  have hnew : ∀ a ∈ c.accepted ++ [((call.place c.backlog.lanes).1,
      call.job c.backlog.registry.nextId)], a ∈ c.accepted ∨
        a = ((call.place c.backlog.lanes).1, call.job c.backlog.registry.nextId) := by
    simp
  constructor
  case lanes => exact Lanes.push_sound hplaced _ _
  case inTurn =>
    intro queue
    obtain ⟨past, haccepted, hturns⟩ := h.inTurn queue
    refine ⟨past, ?_, hturns⟩
    dsimp only
    -- the queue that it goes to gets longer at its end, and the others stay as they are
    by_cases hqueue : (call.place c.backlog.lanes).1 = queue
    · subst hqueue
      rw [ofQueue_self, haccepted, Lanes.push_self hhas, place_waiting]
      simp
    · rw [ofQueue_other hqueue, haccepted, Lanes.push_other (Ne.symm hqueue), place_waiting]
  case inLane =>
    intro a ha hlane
    dsimp only
    rw [Lanes.push, Lanes.setQueue_assigned]
    rcases hnew a ha with hold | rfl
    · obtain ⟨n, hn, hqueue⟩ := h.inLane a hold hlane
      exact ⟨n, place_keeps call hn, hqueue⟩
    · exact place_inLane call _ _ hlane
  case inControl =>
    intro a ha hcontrol
    rcases hnew a ha with hold | rfl
    · exact h.inControl a hold hcontrol
    · exact place_inControl call _ _ hcontrol
  case issued =>
    intro a ha
    rcases hnew a ha with hold | rfl
    · obtain ⟨key, hkey, n, hn, rfl⟩ := h.issued a hold
      exact ⟨_, hkey, n, by dsimp only; omega, rfl⟩
    · exact ⟨_, rfl, c.backlog.registry.issued + 1, by dsimp only; omega, rfl⟩
  case distinct =>
    -- all that has been accepted has an id that was given out before
    rw [List.map_append, List.nodup_append]
    refine ⟨h.distinct, by simp, ?_⟩
    rintro _ hold _ hfresh rfl
    obtain ⟨a, ha, hsame⟩ := List.mem_map.1 hold
    obtain ⟨key, hkey, hknown⟩ := h.issued a ha
    simp only [List.map_cons, List.map_nil, List.mem_singleton] at hfresh
    cases hkey.symm.trans (hsame.trans hfresh)
    exact c.backlog.registry.nextId_fresh hknown

theorem Sound.refuse (h : c.Sound) {f : Fault} (hf : (call.enqueue c.backlog).1 = .error f) :
    Sound { c with backlog := (call.enqueue c.backlog).2 } := by
  have hissued : (call.create c.backlog.registry).2.issued = c.backlog.registry.issued + 1 := rfl
  rw [Call.enqueue_error hf]
  refine ⟨h.lanes, h.inTurn, h.inLane, h.inControl, fun a ha => ?_, h.distinct⟩
  obtain ⟨key, hkey, n, hn, rfl⟩ := h.issued a ha
  exact ⟨_, hkey, n, by dsimp only; omega, rfl⟩

end Accept

theorem Sound.begin (h : c.Sound) {job : WaitingJob} {lanes : Lanes WaitingJob}
    (hfree : c.hands queue = none) (hpop : c.backlog.lanes.pop? queue = some (job, lanes)) :
    Sound { c with
      backlog := { c.backlog with lanes }.note job.id [("status", .str JobStatus.running.word)]
      hands := Function.update c.hands queue (some job)
      turns := c.turns ++ [(queue, .begun job)] } := by
  obtain ⟨hfront, hothers, hassigned, -⟩ := Lanes.pop?_spec hpop
  refine ⟨Lanes.pop?_sound h.lanes hpop, fun other => ?_, ?_, h.inControl, h.issued, h.distinct⟩
  · -- nothing is past by this: the job has come from the front of its queue into the hand
    obtain ⟨past, haccepted, hturns⟩ := h.inTurn other
    refine ⟨past, ?_, ?_⟩
    · show _ = past ++ (Function.update c.hands queue (some job) other).toList ++
        lanes.waiting other
      by_cases hother : other = queue
      · subst hother
        simp [haccepted, hfree, hfront]
      · rw [Function.update_of_ne hother, hothers other hother]
        exact haccepted
    · show ofQueue other (c.turns ++ _) =
        _ ++ (Function.update c.hands queue (some job) other).toList.map _
      by_cases hother : other = queue
      · subst hother
        simp [hturns, hfree]
      · rw [Function.update_of_ne hother, ofQueue_other (Ne.symm hother)]
        exact hturns
  · show ∀ a ∈ c.accepted, _ → ∃ n, lanes.assigned.lookup _ = some n ∧ _
    rw [hassigned]
    exact h.inLane

theorem Sound.finish (h : c.Sound) {job : WaitingJob} (said : Json) (outcome : JobOutcome)
    (hhand : c.hands queue = some job) :
    Sound { c with
      backlog := c.backlog.note job.id (("message", said) :: outcome.members)
      hands := Function.update c.hands queue none
      turns := c.turns ++ [(queue, .ended job)] } := by
  refine ⟨h.lanes, fun other => ?_, h.inLane, h.inControl, h.issued, h.distinct⟩
  obtain ⟨past, haccepted, hturns⟩ := h.inTurn other
  by_cases hother : other = queue
  · subst hother
    refine ⟨past ++ [job], ?_, ?_⟩
    · show _ = past ++ [job] ++ (Function.update c.hands other none other).toList ++
        c.backlog.lanes.waiting other
      simp [haccepted, hhand]
    · simp [hturns, hhand, Turn.both]
  · refine ⟨past, ?_, ?_⟩
    · show _ = past ++ (Function.update c.hands queue none other).toList ++
        c.backlog.lanes.waiting other
      rw [Function.update_of_ne hother]
      exact haccepted
    · show ofQueue other (c.turns ++ _) =
        _ ++ (Function.update c.hands queue none other).toList.map _
      rw [Function.update_of_ne hother, ofQueue_other (Ne.symm hother)]
      exact hturns

theorem step_sound (h : c.Sound) (hstep : Step who c c') : c'.Sound := by
  cases hstep with
  | accept call hid => exact h.accept call hid
  | refuse call hf => exact h.refuse call hf
  | begin hfree hpop => exact h.begin hfree hpop
  | finish said outcome hhand => exact h.finish said outcome hhand

theorem steps_sound (h : c.Sound) (hsteps : Steps c c') : c'.Sound := by
  induction hsteps with
  | refl => exact h
  | tail _ hstep ih =>
    obtain ⟨who, hstep⟩ := hstep
    exact step_sound ih hstep

end Crew
end ThermalPrint
