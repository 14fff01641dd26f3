import ThermalPrint.Proofs.Outcome
import ThermalPrint.Proofs.Work.Record
import ThermalPrint.Work.Lanes

/-
What is registered and what waits.  Registering a job adds one record under an id that was never
given out, and may forget others.  Putting work into a queue and taking it out moves one piece of
work and leaves the rest.
-/

namespace ThermalPrint

namespace Registry

theorem idOf_inj {m n : Nat} (h : idOf m = idOf n) : m = n := by
  have hid : s!"job{m}" = s!"job{n}" := String.toText_inj.1 h
  have htext : toString m = toString n := String.append_right_inj _ |>.1 hid
  rw [Nat.toString_eq_ofList_toDigits, Nat.toString_eq_ofList_toDigits] at htext
  have hdigits : Nat.toDigits 10 m = Nat.toDigits 10 n := String.ofList_injective htext
  rw [← Nat.ofDigitChars_toDigits (b := 10) (n := m) (by decide) (by decide), hdigits,
    Nat.ofDigitChars_toDigits (by decide) (by decide)]

theorem withoutOldest_sublist {first : JobId × JobRecord} {rest kept : List (JobId × JobRecord)}
    (h : withoutOldest first rest = .ok kept) : kept.Sublist (first :: rest) := by
  obtain ⟨oldest, -, h⟩ := Outcome.bind_ok h
  split at h
  · cases h
    exact List.filter_sublist
  · cases h
  · cases h
  · cases h

theorem prune_sublist (limit : Int) (records : List (JobId × JobRecord)) :
    (prune limit records).1.Sublist records := by
  induction records using prune.induct limit with
  | case1 records hfew =>
    rw [prune.eq_def, if_pos hfew]
  | case2 hmany => rw [prune, if_neg hmany]
  | case3 first rest fault hstuck hmany =>
    rw [prune, if_neg hmany]
    simp only [hstuck]
    exact List.Sublist.refl _
  | case4 first rest kept hkept hfewer hmany ih =>
    rw [prune, if_neg hmany]
    simp only [hkept, dif_pos hfewer]
    exact ih.trans (withoutOldest_sublist hkept)
  | case5 first rest kept hkept hsame hmany =>
    rw [prune, if_neg hmany]
    simp only [hkept, dif_neg hsame]
    exact List.Sublist.refl _

/-- An id has been given out. -/
def Issued (g : Registry) (id : JobId) : Prop := ∃ n ≤ g.issued, id = idOf n

def nextId (g : Registry) : JobId := idOf (g.issued + 1)

theorem nextId_fresh (g : Registry) : ¬ g.Issued g.nextId := by
  rintro ⟨n, hn, hid⟩
  have hsame := idOf_inj hid
  omega

section Create

variable (g : Registry) (type : Json) (known : List (Text × Json))

def nextRecord : JobRecord := JobRecord.new g.nextId type (g.clock (g.issued + 1)) known

theorem create_records :
    (g.create type known).2.records.Sublist (g.records ++ [(g.nextId, g.nextRecord type known)]) :=
  prune_sublist _ _

theorem create_id {id : JobId} (h : (g.create type known).1 = .ok id) : id = g.nextId := by
  unfold create at h
  dsimp only at h
  split at h
  · cases h
    rfl
  · cases h

end Create

theorem mem_of_get? {g : Registry} {id : JobId} {r : JobRecord} (h : g.get? id = some r) :
    (id, r) ∈ g.records := by
  obtain ⟨before, after, hrecords, -⟩ := List.lookup_eq_some_iff.1 h
  rw [hrecords]
  exact List.mem_append_right _ List.mem_cons_self

theorem mem_update {g : Registry} {id : Option JobId} {changes : List (Text × Json)}
    {key : JobId} {r' : JobRecord} (h : (key, r') ∈ (g.update id changes).records) :
    ∃ r, (key, r) ∈ g.records ∧
      (some key ≠ id ∧ r' = r ∨ some key = id ∧ ∃ now, r' = r.revise now changes) := by
  obtain ⟨⟨name, r⟩, hmem, hentry⟩ := List.mem_map.1 h
  dsimp only at hentry
  by_cases hid : some name = id
  · rw [if_pos hid] at hentry
    cases hentry
    exact ⟨_, hmem, .inr ⟨hid, _, rfl⟩⟩
  · rw [if_neg hid] at hentry
    cases hentry
    exact ⟨_, hmem, .inl ⟨hid, rfl⟩⟩

theorem update_keys (g : Registry) (id : Option JobId) (changes : List (Text × Json)) :
    (g.update id changes).records.map (·.1) = g.records.map (·.1) := by
  unfold update
  rw [List.map_map]
  refine List.map_congr_left fun entry _ => ?_
  dsimp only [Function.comp]
  split <;> rfl

end Registry

namespace Lanes

variable {α : Type}

def all (q : Lanes α) : List α := q.lanes.flatten ++ q.control

theorem flatten_set_perm {lanes : List (List α)} {n : Nat} (h : n < lanes.length) (x : List α) :
    ((lanes.set n x).flatten ++ lanes[n]?.getD []).Perm (lanes.flatten ++ x) := by
  induction lanes generalizing n with
  | nil => cases h
  | cons lane rest ih =>
    cases n with
    | zero =>
      show ((x ++ rest.flatten) ++ lane).Perm ((lane ++ rest.flatten) ++ x)
      rw [List.append_assoc lane]
      exact List.perm_append_comm.trans (List.perm_append_comm.append_left lane)
    | succ n =>
      show ((lane ++ (rest.set n x).flatten) ++ rest[n]?.getD []).Perm
        ((lane ++ rest.flatten) ++ x)
      rw [List.append_assoc, List.append_assoc]
      exact (ih (Nat.lt_of_succ_lt_succ h)).append_left lane

theorem setQueue_all (q : Lanes α) (name : QueueName) (work : List α) :
    (q.setQueue name work).all = q.all ∧ q.waiting name = [] ∨
      ((q.setQueue name work).all ++ q.waiting name).Perm (q.all ++ work) := by
  cases name with
  | control =>
    refine .inr ?_
    show ((q.lanes.flatten ++ work) ++ q.control).Perm ((q.lanes.flatten ++ q.control) ++ work)
    rw [List.append_assoc, List.append_assoc]
    exact List.perm_append_comm.append_left _
  | lane n =>
    by_cases hn : n < q.lanes.length
    · refine .inr ?_
      have hflat := flatten_set_perm hn work
      show (((q.lanes.set n work).flatten ++ q.control) ++ q.lanes[n]?.getD []).Perm
        ((q.lanes.flatten ++ q.control) ++ work)
      have hfront : (((q.lanes.set n work).flatten ++ q.control) ++ q.lanes[n]?.getD []).Perm
          (((q.lanes.set n work).flatten ++ q.lanes[n]?.getD []) ++ q.control) := by
        rw [List.append_assoc, List.append_assoc]
        exact List.perm_append_comm.append_left _
      refine hfront.trans ((hflat.append_right q.control).trans ?_)
      rw [List.append_assoc, List.append_assoc]
      exact List.perm_append_comm.append_left _
    · refine .inl ⟨?_, ?_⟩
      · show (q.lanes.set n work).flatten ++ q.control = _
        rw [List.set_eq_of_length_le (Nat.le_of_not_lt hn)]
        rfl
      · show q.lanes[n]?.getD [] = []
        rw [List.getElem?_eq_none (Nat.le_of_not_lt hn)]
        rfl

theorem push_all (q : Lanes α) (name : QueueName) (work : α) :
    (q.push name work).all = q.all ∨ (q.push name work).all.Perm (q.all ++ [work]) := by
  rcases setQueue_all q name (q.waiting name ++ [work]) with ⟨hsame, -⟩ | hset
  · exact .inl hsame
  · refine .inr ?_
    have hback : (q.all ++ (q.waiting name ++ [work])).Perm
        ((q.all ++ [work]) ++ q.waiting name) := by
      rw [List.append_assoc]
      exact List.perm_append_comm.append_left _
    exact (List.perm_append_right_iff _).1 (hset.trans hback)

theorem pop?_all {q q' : Lanes α} {name : QueueName} {work : α}
    (h : q.pop? name = some (work, q')) : q.all.Perm (work :: q'.all) := by
  unfold pop? at h
  split at h
  · cases h
  · rename_i front rest hwaiting
    cases h
    rcases setQueue_all q name rest with ⟨-, hnone⟩ | hset
    · cases hwaiting.symm.trans hnone
    · rw [hwaiting] at hset
      have hfront : ((q.setQueue name rest).all ++ work :: rest).Perm
          ((work :: (q.setQueue name rest).all) ++ rest) := List.perm_middle
      exact (List.perm_append_right_iff _).1 (hset.symm.trans hfront)

theorem laneOf_all (q : Lanes α) (session : SessionId) : (q.laneOf session).2.all = q.all := by
  unfold laneOf
  split <;> rfl

end Lanes
end ThermalPrint
