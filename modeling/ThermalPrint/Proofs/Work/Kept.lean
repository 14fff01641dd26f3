import ThermalPrint.Proofs.Work.Filed

/-
A registry that is kept in order: no more records than it may have, each under the id that it shows
and with the moment of its making.  If its clock never goes back, the oldest record is the one that
goes when there is no room for a new one, and the new one stays.

Order is kept by all that is done on a floor, since what is said of a job never touches its id or
the moment at which it was made.
-/

namespace ThermalPrint

namespace Registry

/-- A registry in order. -/
structure Kept (g : Registry) : Prop where
  limit : 1 ≤ g.limit
  /-- The clock does not go back. -/
  steady : ∀ n, Json.NotAfter (.str (g.clock n)) (.str (g.clock (n + 1)))
  few : (g.records.length : Int) ≤ g.limit
  keys : (g.records.map (·.1)).Nodup
  issued : ∀ e ∈ g.records, g.Issued e.1
  shown : ∀ e ∈ g.records, JobRecord.shownId e.2 = .str e.1
  dated : ∀ e ∈ g.records, (JobRecord.created e.2).NotAfter (.str (g.clock (g.issued + 1)))

/-- What is left of a registry that makes room for one more record: all, or all but the oldest. -/
inductive Room (g : Registry) : List (JobId × JobRecord) → Prop
  | enough (h : (g.records.length : Int) < g.limit) : Room g g.records
  | evicted {before after : List (JobId × JobRecord)} {oldest : JobId × JobRecord}
      (h : (g.records.length : Int) = g.limit) (hsplit : g.records = before ++ oldest :: after)
      (holdest : ∀ e ∈ g.records, (JobRecord.created oldest.2).NotAfter (JobRecord.created e.2)) :
      Room g (before ++ after)

namespace Kept

variable {g : Registry} (h : g.Kept)

include h

theorem filed : g.Filed where
  labelled := ⟨h.keys, h.shown, fun e he => (h.dated e he).imp fun _ ⟨_, ht, _⟩ => ht⟩
  issued := h.issued
  few := Int.le_trans h.few (Int.le_max_left _ _)

theorem timely : g.Timely := ⟨h.steady, h.dated⟩

theorem fresh {e : JobId × JobRecord} (he : e ∈ g.records) : e.1 ≠ g.nextId :=
  h.filed.fresh he

section Create

variable (type : Json) {known : List (Text × Json)} (hknown : JobRecord.Sparing known)

include hknown

theorem create_ok : ∃ kept, g.Room kept ∧ g.create type known =
    (.ok g.nextId, { g with
      records := kept ++ [(g.nextId, g.nextRecord type known)], issued := g.issued + 1 }) := by
  have hlimit := h.limit
  have hfew := h.few
  obtain ⟨kept, hforgets, hlength, hcreate⟩ := h.filed.create_ok type hknown (by omega)
  obtain ⟨others, hothers, rfl⟩ := hforgets.concat
    (fun _ he => h.timely.notAfter_next type hknown he) (by rintro rfl; simp at hlength; omega)
  refine ⟨others, ?_, hcreate⟩
  rw [List.length_append, List.length_singleton] at hlength
  by_cases hroom : (g.records.length : Int) < g.limit
  · rw [hothers.sublist.eq_of_length (by omega)]
    exact .enough hroom
  · have hfull : (g.records.length : Int) = g.limit := by omega
    generalize hrecords : g.records = records at hothers
    rw [hrecords] at hlength hfull
    cases hothers with
    | none => omega
    | oldest holdest _ hmore =>
      -- One had to go, so that behind it nothing else was forgotten.
      rw [List.length_append, List.length_cons] at hlength hfull
      rw [hmore.sublist.eq_of_length (by rw [List.length_append]; omega)]
      refine .evicted ?_ hrecords (hrecords ▸ holdest)
      rw [hrecords, List.length_append, List.length_cons]
      exact hfull

theorem create : Kept (g.create type known).2 := by
  have hfiled := h.filed.create type hknown
  refine ⟨h.limit, h.steady, ?_, hfiled.labelled.keys, hfiled.issued, hfiled.labelled.shown,
    (h.timely.create type hknown).dated⟩
  have hlimit : 1 ≤ (g.create type known).2.limit := h.limit
  have hfew := hfiled.few
  omega

end Create

theorem update (id : Option JobId) {changes : List (Text × Json)}
    (hchanges : JobRecord.Sparing changes) : Kept (g.update id changes) := by
  have hfiled := h.filed.update id hchanges
  refine ⟨h.limit, h.steady, ?_, hfiled.labelled.keys, hfiled.issued, hfiled.labelled.shown,
    (h.timely.update id hchanges).dated⟩
  have hlimit : 1 ≤ (g.update id changes).limit := h.limit
  have hfew := hfiled.few
  omega

end Kept

end Registry

/-- A backlog whose records and lanes are in order. -/
structure Backlog.Kept (b : Backlog) : Prop where
  registry : b.registry.Kept
  lanes : b.lanes.Sound

namespace Backlog.Kept

variable {b : Backlog} (h : b.Kept)

include h

theorem enqueue_ok (call : Crew.Call) :
    ∃ kept, b.registry.Room kept ∧ call.enqueue b = (.ok b.registry.nextId, { b with
      registry := { b.registry with
        records := kept ++ [(b.registry.nextId, b.registry.nextRecord (.str call.type) call.known)]
        issued := b.registry.issued + 1 }
      lanes := (call.place b.lanes).2.push (call.place b.lanes).1
        (call.job b.registry.nextId) }) := by
  obtain ⟨kept, hroom, hcreate⟩ := h.registry.create_ok (.str call.type) call.known_sparing
  refine ⟨kept, hroom, ?_⟩
  rw [Crew.Call.enqueue_eq, Crew.Call.create, hcreate]

theorem enqueue (call : Crew.Call) : (call.enqueue b).2.Kept := by
  obtain ⟨kept, hroom, henqueue⟩ := h.enqueue_ok call
  have hcreated := h.registry.create (.str call.type) call.known_sparing
  rw [Crew.Call.enqueue_eq]
  cases (call.create b.registry).1 with
  | error f => exact ⟨hcreated, h.lanes⟩
  | ok id => exact ⟨hcreated, Lanes.push_sound (Crew.place_sound call h.lanes).1 _ _⟩

theorem note (id : Option JobId) {changes : List (Text × Json)}
    (hchanges : JobRecord.Sparing changes) : (b.note id changes).Kept :=
  ⟨h.registry.update id hchanges, h.lanes⟩

end Backlog.Kept

namespace Floor

variable {f f' : Floor}

theorem step_kept (h : f.backlog.Kept) (hstep : Step f f') : f'.backlog.Kept := by
  cases hstep with
  | connect session address => exact h.enqueue (.connect session address)
  | disconnect session => exact h.enqueue (.disconnect session)
  | print session request held => exact h.enqueue (.print session request held)
  | take hpop _ => exact ⟨h.registry, Lanes.pop?_sound h.lanes hpop⟩
  | begin _ _ => exact h.note _ JobRecord.sparing_running
  | finish said outcome _ => exact h.note _ (JobRecord.sparing_ended said outcome)

theorem steps_kept (h : f.backlog.Kept) (hsteps : Steps f f') : f'.backlog.Kept := by
  induction hsteps with
  | refl => exact h
  | tail _ hstep ih => exact step_kept ih hstep

/-- A floor on which nothing has been done is in order. -/
theorem New.kept (h : f.New) (hlimit : 1 ≤ f.registry.limit)
    (hsteady : ∀ n, Json.NotAfter (.str (f.registry.clock n)) (.str (f.registry.clock (n + 1))))
    {n : Nat} (hn : 1 ≤ n) (hlanes : f.backlog.lanes = .ofCount n) : f.backlog.Kept := by
  have hfiled : f.registry.Filed := h.filed
  refine ⟨⟨hlimit, hsteady, ?_, hfiled.labelled.keys, hfiled.issued, hfiled.labelled.shown,
    (h.timely hsteady).dated⟩, hlanes ▸ Lanes.ofCount_sound hn⟩
  have hfew := hfiled.few
  show (f.registry.records.length : Int) ≤ f.registry.limit
  omega

end Floor
end ThermalPrint
