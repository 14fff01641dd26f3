import ThermalPrint.Proofs.Work.Filed
import ThermalPrint.Proofs.Work.Settled

/-
How many records there may be.  Whatever is handed in and done, there are never more than the limit
says, and the oldest go.  As long as there may be none, or more, no job is refused, so that whoever
has got the slot of a session has a job as well.

A limit below that is another matter.  No number of records is few enough then, and to make a job
fails behind the slot, which nobody will give back.
-/

namespace ThermalPrint

namespace Registry

/-- A job has been registered, and of all records the oldest were forgotten until there were few
enough. -/
structure Took (g : Registry) (call : Crew.Call) (g' : Registry) : Prop where
  forgets : Forgets (g.records ++ [(g.nextId, g.nextRecord (.str call.type) call.known)]) g'.records
  length : (g'.records.length : Int) = min (g.records.length + 1 : Int) g.limit
  /-- Where the clock has not gone back, the new record is not the oldest. -/
  kept : 1 ≤ g.limit → g.Timely →
    (g.nextId, g.nextRecord (.str call.type) call.known) ∈ g'.records

namespace Filed

variable {g : Registry} (h : g.Filed) (call : Crew.Call)

include h

theorem took (hlimit : 0 ≤ g.limit) :
    (call.create g).1 = .ok g.nextId ∧ g.Took call (call.create g).2 := by
  obtain ⟨kept, hforgets, hlength, hcreate⟩ :=
    h.create_ok (.str call.type) call.known_sparing hlimit
  unfold Crew.Call.create
  rw [hcreate]
  refine ⟨rfl, hforgets, hlength, fun hroom htimely => ?_⟩
  have hsome : kept ≠ [] := by
    rintro rfl
    rw [List.length_nil] at hlength
    omega
  obtain ⟨others, -, rfl⟩ := hforgets.concat
    (fun _ he => htimely.notAfter_next _ call.known_sparing he) hsome
  exact List.mem_append_right _ (List.mem_singleton_self _)

end Filed

end Registry

namespace House

variable {τ : Type}

/-- A print job has been handed in for the slot of its session, which is held for it. -/
structure HandedIn (h h' : House τ) (x : SessionId) (request : PrintRequest)
    (held : Reservation) : Prop where
  slot : (h'.session x).locked = true ∧ (h'.session x).active = some held
  registered : h.floor.registry.Took (.print x request held) h'.floor.registry
  /-- It waits behind the rest of its queue. -/
  queued : h'.floor.backlog.lanes =
    (h.floor.backlog.lanes.laneOf x).2.push (.lane (h.floor.backlog.lanes.laneOf x).1)
      ⟨some h.floor.registry.nextId, x, .print request held⟩

/-- A slot has been taken for a job that there is not. -/
structure Stranded (h h' : House τ) (x : SessionId) : Prop where
  slot : (h'.session x).locked = true
  forgotten : h'.floor.registry.records = []
  queued : h'.floor.backlog.lanes = h.floor.backlog.lanes

section EnqueuePrint

variable (o : Outside τ) {h : House τ} (hfiled : h.floor.registry.Filed) (x : SessionId)
  (request : PrintRequest)

include hfiled

theorem enqueuePrint_handedIn (hlimit : 0 ≤ h.floor.registry.limit)
    (hfree : (h.session x).locked = false) :
    ∃ held h', ((office o).enqueuePrint x request).run h = (.ok h.floor.registry.nextId, h') ∧
      h.HandedIn h' x request held := by
  obtain ⟨held, s, hreserve, hrun⟩ := enqueuePrint_free o h x request hfree
  obtain ⟨-, -, rfl⟩ := Session.reserve_eq_ok hreserve
  obtain ⟨hid, htook⟩ := hfiled.took (.print x request held) hlimit
  have hcreated : ((Crew.Call.print x request held).create h.floor.backlog.registry).1 =
      .ok h.floor.registry.nextId := hid
  rw [Crew.Call.enqueue_eq, hcreated] at hrun
  refine ⟨held, _, hrun, ?_, htook, rfl⟩
  exact ⟨congrArg Session.locked (setSession_self ..), congrArg Session.active (setSession_self ..)⟩

theorem enqueuePrint_stranded (hlimit : h.floor.registry.limit < 0)
    (hfree : (h.session x).locked = false) :
    ∃ h', ((office o).enqueuePrint x request).run h =
      (.error PruneFault.nothingLeft.toFault, h') ∧ h.Stranded h' x := by
  obtain ⟨held, s, hreserve, hrun⟩ := enqueuePrint_free o h x request hfree
  obtain ⟨-, -, rfl⟩ := Session.reserve_eq_ok hreserve
  have hrefused : (Crew.Call.print x request held).create h.floor.backlog.registry = _ :=
    hfiled.create_refused (.str (Crew.Call.print x request held).type)
      (Crew.Call.print x request held).known_sparing hlimit
  rw [Crew.Call.enqueue_eq, hrefused] at hrun
  exact ⟨_, hrun, congrArg Session.locked (setSession_self ..), rfl, rfl⟩

end EnqueuePrint

/-- There are never more records than the limit says.  As long as it is not below nothing, every job
is registered and the oldest records go for it, but the new one stays if the clock does not go back;
and nothing is refused to whoever gets the slot of a session.  A lower limit is kept, too, but then
every job is refused, and its slot stays taken. -/
theorem registry_bounded (o : Outside τ) {start : Floor} {h : House τ} (hnew : start.New)
    (hsteps : Floor.Steps start h.floor) :
    let g := h.floor.registry
    g.limit = start.registry.limit ∧ (g.records.length : Int) ≤ max g.limit 0 ∧
      ((∀ n, Json.NotAfter (.str (start.registry.clock n)) (.str (start.registry.clock (n + 1)))) →
        g.Timely) ∧
      (0 ≤ g.limit →
        (∀ call : Crew.Call, (call.create g).1 = .ok g.nextId ∧ g.Took call (call.create g).2) ∧
        ∀ x request, (h.session x).locked = false →
          ∃ held h', ((office o).enqueuePrint x request).run h = (.ok g.nextId, h') ∧
            h.HandedIn h' x request held) ∧
      (g.limit < 0 →
        (∀ call : Crew.Call, call.create g = (.error PruneFault.nothingLeft.toFault,
          { g with records := [], issued := g.issued + 1 })) ∧
        ∀ x request, (h.session x).locked = false →
          ∃ h', ((office o).enqueuePrint x request).run h =
            (.error PruneFault.nothingLeft.toFault, h') ∧ h.Stranded h' x) ∧
      ∀ x request, (h.session x).locked = true →
        ((office o).enqueuePrint x request).run h =
          (.error (.print (.of .jobInProgress "another print job is in progress on this printer")),
            h.spent x) := by
  have hfiled : h.floor.registry.Filed := Floor.steps_filed hnew.filed hsteps
  refine ⟨Floor.steps_limit hsteps, hfiled.few, fun hsteady => ?_, fun hlimit => ?_,
    fun hlimit => ?_, fun x request hlocked => enqueuePrint_locked o h x request hlocked⟩
  · exact Floor.steps_timely (hnew.timely hsteady) hsteps
  · exact ⟨fun call => hfiled.took call hlimit,
      fun x request hfree => enqueuePrint_handedIn o hfiled x request hlimit hfree⟩
  · exact ⟨fun call => hfiled.create_refused (.str call.type) call.known_sparing hlimit,
      fun x request hfree => enqueuePrint_stranded o hfiled x request hlimit hfree⟩

def bounded (limit : Int) (calls : List Crew.Call) : House Nat :=
  let registry : Registry := { limit, clock := fun _ => "now" }
  let backlog := calls.foldl (fun b call => (call.enqueue b).2) { registry }
  { rooms := fun _ => { session := {} }, floor := { backlog } }

theorem registry_bounded_full :
    let house := bounded 1 [.connect 0 "tcp://p:9100"]
    let handed := ((office alone).enqueuePrint 1 { markup := some "[L]x" }).run house
    house.floor.registry.records.map (·.1) = ["job1"] ∧ handed.1 = .ok "job2" ∧
      handed.2.floor.registry.records.map (·.1) = ["job2"] := by
  intro house handed
  have hnew : (bounded 1 []).floor.New := ⟨rfl, rfl, rfl⟩
  obtain ⟨hsame, -, htimely, htakes, -, -⟩ :=
    registry_bounded alone (h := house) hnew (.single (.connect 0 "tcp://p:9100"))
  have hlimit : house.floor.registry.limit = 1 := hsame
  have hids : house.floor.registry.records.map (·.1) = ["job1"] := by decide +kernel
  have hnext : house.floor.registry.nextId = "job2" := by decide +kernel
  obtain ⟨held, h', hrun, hhanded⟩ := (htakes (by omega)).2 1 { markup := some "[L]x" } rfl
  have hhanded' : handed = (.ok house.floor.registry.nextId, h') := hrun
  have hmem := hhanded.registered.kept (by omega) (htimely fun _ => .refl "now")
  have hlength : (h'.floor.registry.records.length : Int) = 1 := by
    rw [hhanded.registered.length, hlimit]
    omega
  obtain ⟨e, he⟩ := List.length_eq_one_iff.1 (Int.ofNat.inj hlength)
  rw [he, List.mem_singleton] at hmem
  rw [hhanded', he, ← hmem, hnext]
  exact ⟨hids, rfl, rfl⟩

/-- To a house that may have fewer records than none a job is refused, but the slot stays taken: the
next one is refused as well. -/
theorem registry_bounded_fewer :
    let house := bounded (-1) []
    let first := ((office alone).enqueuePrint 0 { markup := some "[L]x" }).run house
    let second := ((office alone).enqueuePrint 0 { markup := some "[L]x" }).run first.2
    first.1 = .error (.value .value "min() arg is an empty sequence") ∧
      (first.2.session 0).locked = true ∧ first.2.floor.backlog.lanes.all = [] ∧
      second.1 =
        .error (.print (.of .jobInProgress
          "another print job is in progress on this printer")) := by
  decide +kernel

end House
end ThermalPrint
