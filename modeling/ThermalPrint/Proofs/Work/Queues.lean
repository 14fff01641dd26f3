import ThermalPrint.Proofs.Work.Registry

/-
What waits where.  Work is put at the end of one queue and taken from its front, and the other
queues do not see it; a session that has a lane keeps it.
-/

namespace ThermalPrint
namespace Lanes

variable {α : Type} {q q' : Lanes α} {name other : QueueName} {work : α}

def Has (q : Lanes α) : QueueName → Prop
  | .lane n => n < q.lanes.length
  | .control => True

/-- There is a lane, and what is assigned are lanes. -/
structure Sound (q : Lanes α) : Prop where
  some_lane : 0 < q.lanes.length
  assigned : ∀ x ∈ q.assigned, x.2 < q.lanes.length

theorem ofCount_sound {n : Nat} (h : 1 ≤ n) : (ofCount n : Lanes α).Sound := by
  refine ⟨?_, by simp [ofCount]⟩
  show 0 < (List.replicate n ([] : List α)).length
  rw [List.length_replicate]
  exact h

@[simp] theorem ofCount_waiting (n : Nat) (name : QueueName) :
    (ofCount n : Lanes α).waiting name = [] := by
  cases name with
  | control => rfl
  | lane i =>
    show (List.replicate n [])[i]?.getD [] = []
    rw [List.getElem?_replicate]
    split <;> rfl

section SetQueue

variable (q) (name) (l : List α)

@[simp] theorem setQueue_assigned : (q.setQueue name l).assigned = q.assigned := by
  cases name <;> rfl

@[simp] theorem setQueue_length : (q.setQueue name l).lanes.length = q.lanes.length := by
  cases name <;> simp [setQueue]

variable {q name}

theorem setQueue_self (h : q.Has name) : (q.setQueue name l).waiting name = l := by
  cases name with
  | control => rfl
  | lane n =>
    show (q.lanes.set n l)[n]?.getD [] = l
    rw [List.getElem?_set_self h]
    rfl

theorem setQueue_other (h : other ≠ name) :
    (q.setQueue name l).waiting other = q.waiting other := by
  cases name with
  | control =>
    cases other with
    | control => exact absurd rfl h
    | lane m => rfl
  | lane n =>
    cases other with
    | control => rfl
    | lane m =>
      have hm : n ≠ m := fun hn => h (by rw [hn])
      show (q.lanes.set n l)[m]?.getD [] = _
      rw [List.getElem?_set_ne hm]
      rfl

end SetQueue

theorem push_self (h : q.Has name) (work : α) :
    (q.push name work).waiting name = q.waiting name ++ [work] :=
  setQueue_self _ h

theorem push_other (h : other ≠ name) (work : α) :
    (q.push name work).waiting other = q.waiting other :=
  setQueue_other _ h

theorem push_sound (h : q.Sound) (name : QueueName) (work : α) : (q.push name work).Sound := by
  refine ⟨?_, fun x hx => ?_⟩
  · simpa [push] using h.some_lane
  · simpa [push] using h.assigned x (by simpa [push] using hx)

theorem pop?_spec (h : q.pop? name = some (work, q')) :
    q.waiting name = work :: q'.waiting name ∧ (∀ o ≠ name, q'.waiting o = q.waiting o) ∧
      q'.assigned = q.assigned ∧ q'.lanes.length = q.lanes.length := by
  unfold pop? at h
  split at h
  · cases h
  · rename_i front rest hwaiting
    cases h
    have hhas : q.Has name := by
      cases name with
      | control => trivial
      | lane n =>
        by_contra hn
        have hnone : q.lanes[n]? = none := List.getElem?_eq_none (Nat.le_of_not_lt hn)
        simp [waiting, hnone] at hwaiting
    exact ⟨by rw [setQueue_self _ hhas, hwaiting], fun o ho => setQueue_other _ ho,
      by simp, by simp⟩

theorem pop?_eq_none_iff : q.pop? name = none ↔ q.waiting name = [] := by
  unfold pop?
  split <;> simp_all

theorem pop?_sound (h : q.Sound) (hpop : q.pop? name = some (work, q')) : q'.Sound := by
  obtain ⟨-, -, hassigned, hlength⟩ := pop?_spec hpop
  exact ⟨hlength ▸ h.some_lane, hassigned ▸ hlength ▸ h.assigned⟩

section LaneOf

variable (q) (x : SessionId)

@[simp] theorem laneOf_lanes : (q.laneOf x).2.lanes = q.lanes := by
  unfold laneOf
  split <;> rfl

@[simp] theorem laneOf_waiting : (q.laneOf x).2.waiting name = q.waiting name := by
  unfold laneOf
  split <;> rfl

/-- A session has the lane that it is given, and no other session gets another one by it. -/
theorem laneOf_assigned (y : SessionId) :
    (q.laneOf x).2.assigned.lookup y =
      if y = x then some (q.laneOf x).1 else q.assigned.lookup y := by
  unfold laneOf
  cases hx : q.assigned.lookup x with
  | some n =>
    by_cases hy : y = x
    · simp [hy, hx]
    · simp [hy]
  | none =>
    by_cases hy : y = x
    · subst hy
      simp [List.lookup_append, hx]
    · simp [List.lookup_append, hy, beq_false_of_ne hy, List.lookup_cons]

variable {q} {x}

/-- A lane is for life. -/
theorem laneOf_keeps {y : SessionId} {n : Nat} (h : q.assigned.lookup y = some n) :
    (q.laneOf x).2.assigned.lookup y = some n := by
  rw [laneOf_assigned]
  by_cases hy : y = x
  · subst hy
    simp [laneOf, h]
  · simp [hy, h]

theorem laneOf_has (h : q.Sound) : q.Has (.lane (q.laneOf x).1) := by
  show (q.laneOf x).1 < q.lanes.length
  unfold laneOf
  cases hx : q.assigned.lookup x with
  | some n =>
    obtain ⟨front, back, hsplit, -⟩ := List.lookup_eq_some_iff.1 hx
    exact h.assigned (x, n) (by simp [hsplit])
  | none => exact Nat.mod_lt _ h.some_lane

theorem laneOf_sound (h : q.Sound) : (q.laneOf x).2.Sound := by
  refine ⟨by simpa using h.some_lane, fun y hy => ?_⟩
  have hlane : (q.laneOf x).1 < q.lanes.length := laneOf_has h
  rw [laneOf_lanes]
  unfold laneOf at hy hlane
  cases hx : q.assigned.lookup x with
  | some n => exact h.assigned y (by simpa [hx] using hy)
  | none =>
    simp only [hx, List.mem_append, List.mem_singleton] at hy hlane
    rcases hy with hy | rfl
    · exact h.assigned y hy
    · exact hlane

end LaneOf

end Lanes
end ThermalPrint
