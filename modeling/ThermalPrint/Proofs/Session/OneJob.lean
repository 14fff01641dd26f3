import ThermalPrint.Proofs.Session.Cancelled
import ThermalPrint.Proofs.Session.Counter

/-
One job in flight.  Whatever is called, the slot has one holder at most, who keeps it until he
gives it back; a job that finds it taken is refused and leaves no trace, and what has been given
back cannot be given back again.

A run is followed by a single invariant.  It also carries reservations that no caller has in hand,
those of submissions on their way, since these are given back as well.
-/

namespace ThermalPrint

variable {τ : Type}

/-- A call gives back the reservation in a place, if only while it writes. -/
inductive Call.Returns (place : Nat) : Call → Prop
  | release : Call.Returns place (.release place)
  | submitReserved (order : PrintOrder) (meanwhile : List Call) :
      Call.Returns place (.submitReserved order place meanwhile)
  | duringSubmit (order : PrintOrder) (token : Option TokenId) {meanwhile : List Call}
      {call : Call} :
      call ∈ meanwhile → call.Returns place → Call.Returns place (.submit order token meanwhile)
  | duringSubmitReserved (order : PrintOrder) (other : Nat) {meanwhile : List Call} {call : Call} :
      call ∈ meanwhile → call.Returns place →
        Call.Returns place (.submitReserved order other meanwhile)

namespace Counter

/-- A job finds the slot taken, and nothing comes of it but a token that is used up. -/
def Refused {α : Type} (k : Counter τ) (outcome : Id (Except Fault α × Counter τ)) : Prop :=
  ∃ e n, outcome = pure (.error (.print e), k.spent n) ∧ e.kind = .jobInProgress

section Reserve

variable (c : Carrier τ) (meanwhile : Counter τ → Counter τ) {k : Counter τ}

theorem reserve_refused (h : k.scene.session.locked = true) (token : Option TokenId) :
    k.Refused (((desk c meanwhile).reserve token).run k) := by
  obtain ⟨bearer, n, hrun⟩ := reserve_run c meanwhile k token
  rw [Session.reserve_error h] at hrun
  exact ⟨_, n, hrun, PrintError.of_kind _ _⟩

theorem reserve_accepted (h : k.scene.session.locked = false) (token : Option TokenId) :
    ∃ n bearer r x, k.scene.session.reserve bearer = .ok (r, x) ∧
      ((desk c meanwhile).reserve token).run k = pure (.ok r, (k.spent n).setSession x) := by
  obtain ⟨bearer, n, hrun⟩ := reserve_run c meanwhile k token
  have hok : k.scene.session.reserve bearer = _ := Session.reserve_ok h
  rw [hok] at hrun
  exact ⟨n, bearer, _, _, hok, hrun⟩

theorem submit_refused (h : k.scene.session.locked = true) (order : PrintOrder)
    (token : Option TokenId) :
    k.Refused (((desk c meanwhile).submit order none token).run k) := by
  obtain ⟨e, n, hrun, hkind⟩ := reserve_refused c meanwhile h token
  refine ⟨e, n, ?_, hkind⟩
  rw [submit_run, hrun]
  rfl

end Reserve

/-- A sound session, with reservations of its own in the order in which they have been made. -/
structure Tidy (x : Session τ) (given : List Reservation) : Prop where
  sound : x.Sound
  knows : ∀ r ∈ given, x.Knows r
  ordered : given.Pairwise (·.serial < ·.serial)

/-- A counter is tidy and was so whenever somebody called.  Its session knows some reservations,
and the numbers that are gone have been given back. -/
structure InOrder (known : List Reservation) (gone : List Nat) (k : Counter τ) : Prop where
  now : Tidy k.scene.session k.given
  known : ∀ r ∈ known, k.scene.session.Knows r
  gone : ∀ n ∈ gone, k.scene.session.Returned n
  past : ∀ m ∈ k.past, Tidy m.1.session m.2

section InOrder

variable {c : Carrier τ} {meanwhile : Counter τ → Counter τ} {k : Counter τ} {r : Reservation}
  {known : List Reservation} {gone : List Nat}

theorem Tidy.of_slot {x x' : Session τ} {given : List Reservation} (h : Tidy x given)
    (hs : x'.slot = x.slot) : Tidy x' given :=
  ⟨h.sound.of_slot hs, fun r hr => (h.knows r hr).of_slot hs, h.ordered⟩

theorem inOrder_of_slot : OfSlot (InOrder known gone : Counter τ → Prop) := by
  intro k k' h hs hgiven hpast
  refine ⟨?_, fun r hr => (h.known r hr).of_slot hs, fun n hn => (h.gone n hn).of_slot hs, ?_⟩
  · rw [hgiven]
    exact h.now.of_slot hs
  · rw [hpast]
    exact h.past

namespace InOrder

theorem called (h : InOrder known gone k) : InOrder known gone k.called :=
  ⟨h.now, h.known, h.gone, List.forall_mem_cons.2 ⟨h.now, h.past⟩⟩

theorem spent (h : InOrder known gone k) (n : TokenId) : InOrder known gone (k.spent n) :=
  ⟨h.now, h.known, h.gone, h.past⟩

theorem fewer (h : InOrder (r :: known) gone k) : InOrder known gone k :=
  ⟨h.now, fun r' hr' => h.known r' (List.mem_cons_of_mem _ hr'), h.gone, h.past⟩

theorem hold (h : InOrder known gone k) {place : Nat} (hr : k.given[place]? = some r) :
    InOrder (r :: known) gone k :=
  ⟨h.now, List.forall_mem_cons.2 ⟨h.now.knows r (List.mem_of_getElem? hr), h.known⟩, h.gone, h.past⟩

theorem reserve {token : TokenId} {x : Session τ} (h : InOrder known gone k)
    (hr : k.scene.session.reserve token = .ok (r, x)) :
    InOrder (r :: known) gone (k.setSession x) ∧
      InOrder known gone ((k.setSession x).handed (.ok r)) := by
  have hsound := h.now.sound.reserve hr
  have hknows : ∀ r' ∈ k.given, x.Knows r' := fun r' hr' => (h.now.knows r' hr').reserve hr
  have hknown : ∀ r' ∈ known, x.Knows r' := fun r' hr' => (h.known r' hr').reserve hr
  have hgone : ∀ n ∈ gone, x.Returned n := fun n hn => (h.gone n hn).reserve hr
  have hself := Session.knows_reserved hr
  refine ⟨⟨⟨hsound, hknows, h.now.ordered⟩, List.forall_mem_cons.2 ⟨hself, hknown⟩, hgone, h.past⟩,
    ⟨hsound, fun r' hr' => ?_, ?_⟩, hknown, hgone, h.past⟩
  · rcases List.mem_append.1 hr' with hold | hnew
    · exact hknows r' hold
    · rw [List.mem_singleton.1 hnew]
      exact hself
  · refine List.pairwise_append.2 ⟨h.now.ordered, List.pairwise_singleton _ _, ?_⟩
    intro r' hr' new hnew
    rw [List.mem_singleton.1 hnew]
    exact (h.now.knows r' hr').before hr

theorem release (h : InOrder known gone k) (hr : r ∈ known) :
    InOrder known gone (k.setSession (k.scene.session.release r)) :=
  ⟨⟨h.now.sound.release (h.known r hr), fun r' hr' => (h.now.knows r' hr').release r,
      h.now.ordered⟩,
    fun r' hr' => (h.known r' hr').release r, fun n hn => (h.gone n hn).release r, h.past⟩

end InOrder

/-- A counter in order, with a reservation in a place that is out. -/
structure Out (known : List Reservation) (place : Nat) (r : Reservation) (k : Counter τ) :
    Prop where
  order : InOrder known [] k
  given : k.given[place]? = some r
  unreturned : k.scene.session.Unreturned r.serial

theorem out_of_slot {place : Nat} : OfSlot (Out known place r : Counter τ → Prop) := by
  intro k k' h hs hgiven hpast
  exact ⟨inOrder_of_slot k k' h.order hs hgiven hpast, by rw [hgiven]; exact h.given,
    h.unreturned.of_slot hs⟩

namespace Out

variable {place : Nat}

theorem called (h : Out known place r k) : Out known place r k.called :=
  ⟨h.order.called, h.given, h.unreturned⟩

theorem locked (h : Out known place r k) : k.scene.session.locked = true :=
  h.order.now.sound.locked_iff.2 ⟨_, h.unreturned⟩

theorem active (h : Out known place r k) : k.scene.session.active = some r :=
  (h.order.now.sound.active_iff (h.order.now.knows r (List.mem_of_getElem? h.given))).2 h.unreturned

theorem other (h : Out known place r k) {place' : Nat} {r' : Reservation} (hne : place' ≠ place)
    (hr' : k.given[place']? = some r') : r'.serial ≠ r.serial := by
  obtain ⟨hlt, rfl⟩ := List.getElem?_eq_some_iff.1 h.given
  obtain ⟨hlt', rfl⟩ := List.getElem?_eq_some_iff.1 hr'
  have hordered := List.pairwise_iff_getElem.1 h.order.now.ordered
  rcases Nat.lt_or_gt_of_ne hne with hbefore | hbehind
  · exact Nat.ne_of_lt (hordered _ _ hlt' hlt hbefore)
  · exact (Nat.ne_of_lt (hordered _ _ hlt hlt' hbehind)).symm

theorem fewer {r' : Reservation} (h : Out (r' :: known) place r k) : Out known place r k :=
  ⟨h.order.fewer, h.given, h.unreturned⟩

theorem hold (h : Out known place r k) {place' : Nat} {r' : Reservation}
    (hr' : k.given[place']? = some r') : Out (r' :: known) place r k :=
  ⟨h.order.hold hr', h.given, h.unreturned⟩

theorem release (h : Out known place r k) {r' : Reservation} (hr' : r' ∈ known)
    (hne : r'.serial ≠ r.serial) :
    Out known place r (k.setSession (k.scene.session.release r')) :=
  ⟨h.order.release hr', h.given, (Session.unreturned_release _).2 ⟨h.unreturned, hne.symm⟩⟩

end Out

/-- A reservation is given back, which the session knows. -/
theorem release_leads {P Q : Counter τ → Prop} (hr : r ∈ known)
    (hP : ∀ k, P k → InOrder known gone k)
    (hQ : ∀ k, P k → Q (k.setSession (k.scene.session.release r))) :
    Leads P ((desk c meanwhile).release r) Q := by
  intro k hk
  rw [release_run c meanwhile k ((hP k hk).known r hr).session]
  exact hQ k hk

end InOrder

end Counter

open Counter (InOrder inOrder_of_slot Out desk)

section Run

variable (c : Carrier τ)

theorem submitReserved_inOrder {meanwhile : Counter τ → Counter τ} {r : Reservation}
    {known : List Reservation} {gone : List Nat}
    (hmeanwhile : ∀ k, InOrder (r :: known) gone k → InOrder (r :: known) gone (meanwhile k))
    (order : PrintOrder) :
    Leads (InOrder (r :: known) gone) ((desk c meanwhile).submit order (some r))
      (InOrder (r :: known) gone) := by
  refine Counter.leads_submitReserved inOrder_of_slot hmeanwhile inOrder_of_slot ?_ order
  exact Counter.release_leads List.mem_cons_self (fun _ h => h)
    fun _ h => h.release List.mem_cons_self

mutual

theorem Call.run_inOrder {known : List Reservation} {gone : List Nat} :
    ∀ (call : Call) (k : Counter τ), InOrder known gone k → InOrder known gone (call.run c k)
  | .reserve token, k, h => by
    unfold Call.run
    cases hlocked : k.scene.session.locked with
    | true =>
      obtain ⟨e, n, hrun, -⟩ :=
        Counter.reserve_refused c id (k := k.called) hlocked token
      rw [hrun]
      exact h.called.spent n
    | false =>
      obtain ⟨n, bearer, r, x, hr, hrun⟩ :=
        Counter.reserve_accepted c id (k := k.called) hlocked token
      rw [hrun]
      exact ((h.called.spent n).reserve hr).2
  | .release place, k, h => by
    unfold Call.run
    split
    · rename_i r hr
      have hreleased : Leads (InOrder (r :: known) gone) ((desk c id).release r)
          (InOrder (r :: known) gone) :=
        Counter.release_leads List.mem_cons_self (fun _ hk => hk)
          fun _ hk => hk.release List.mem_cons_self
      exact (hreleased _ (h.called.hold hr)).fewer
    · exact h
  | .submit order token meanwhile, k, h => by
    unfold Call.run
    cases hlocked : k.scene.session.locked with
    | true =>
      obtain ⟨e, n, hrun, -⟩ := Counter.submit_refused c
        (Call.runAll c meanwhile) (k := k.called) hlocked order token
      rw [hrun]
      exact h.called.spent n
    | false =>
      obtain ⟨n, bearer, r, x, hr, hrun⟩ := Counter.reserve_accepted c
        (Call.runAll c meanwhile) (k := k.called) hlocked token
      rw [Counter.submit_run, hrun]
      have htaken := ((h.called.spent n).reserve hr).1
      exact (submitReserved_inOrder c (fun k' => Call.runAll_inOrder meanwhile k') order _
        htaken).fewer
  | .submitReserved order place meanwhile, k, h => by
    unfold Call.run
    split
    · rename_i r hr
      exact (submitReserved_inOrder c (fun k' => Call.runAll_inOrder meanwhile k') order _
        (h.called.hold hr)).fewer
    · exact h

theorem Call.runAll_inOrder {known : List Reservation} {gone : List Nat} :
    ∀ (calls : List Call) (k : Counter τ), InOrder known gone k →
      InOrder known gone (Call.runAll c calls k)
  | [], _, h => h
  | call :: rest, k, h => Call.runAll_inOrder rest _ (call.run_inOrder k h)

end

mutual

/-- Whoever has the slot keeps it through a call that does not give it back. -/
theorem Call.run_out {known : List Reservation} {place : Nat} {r : Reservation} :
    ∀ (call : Call) (k : Counter τ), Out known place r k → ¬ call.Returns place →
      Out known place r (call.run c k)
  | .reserve token, k, h, _ => by
    obtain ⟨e, n, hrun, -⟩ :=
      Counter.reserve_refused c id (k := k.called) h.locked token
    unfold Call.run
    rw [hrun]
    exact ⟨h.order.called.spent n, h.given, h.unreturned⟩
  | .release place', k, h, hcall => by
    unfold Call.run
    split
    · rename_i r' hr'
      have hne : r'.serial ≠ r.serial := h.other (fun hp => hcall (hp ▸ .release)) hr'
      have hreleased : Leads (Out (r' :: known) place r) ((desk c id).release r')
          (Out (r' :: known) place r) :=
        Counter.release_leads List.mem_cons_self (fun _ hk => hk.order)
          fun _ hk => hk.release List.mem_cons_self hne
      exact (hreleased _ (h.called.hold hr')).fewer
    · exact h
  | .submit order token meanwhile, k, h, _ => by
    obtain ⟨e, n, hrun, -⟩ := Counter.submit_refused c
      (Call.runAll c meanwhile) (k := k.called) h.locked order token
    unfold Call.run
    rw [hrun]
    exact ⟨h.order.called.spent n, h.given, h.unreturned⟩
  | .submitReserved order place' meanwhile, k, h, hcall => by
    unfold Call.run
    split
    · rename_i r' hr'
      have hne : r'.serial ≠ r.serial := h.other (fun hp => hcall (hp ▸ .submitReserved ..)) hr'
      have hmeanwhile : ∀ k', Out (r' :: known) place r k' →
          Out (r' :: known) place r (Call.runAll c meanwhile k') := fun k' hk' =>
        Call.runAll_out meanwhile k' hk' fun call hmem hreturns =>
          hcall (.duringSubmitReserved _ _ hmem hreturns)
      have hsubmitted : Leads (Out (r' :: known) place r)
          ((desk c (Call.runAll c meanwhile)).submit order (some r')) (Out (r' :: known) place r) :=
        Counter.leads_submitReserved Counter.out_of_slot hmeanwhile Counter.out_of_slot
          (Counter.release_leads List.mem_cons_self (fun _ hk => hk.order)
            fun _ hk => hk.release List.mem_cons_self hne) order
      exact (hsubmitted _ (h.called.hold hr')).fewer
    · exact h

theorem Call.runAll_out {known : List Reservation} {place : Nat} {r : Reservation} :
    ∀ (calls : List Call) (k : Counter τ), Out known place r k →
      (∀ call ∈ calls, ¬ call.Returns place) → Out known place r (Call.runAll c calls k)
  | [], _, h, _ => h
  | call :: rest, k, h, hcalls =>
    Call.runAll_out rest _ (call.run_out k h (hcalls call List.mem_cons_self))
      fun other hother => hcalls other (List.mem_cons_of_mem _ hother)

end

end Run

/-- What there is to say of the slot at a counter. -/
structure OneJob (c : Carrier τ) (k : Counter τ) : Prop where
  one : ∀ m n, k.scene.session.Unreturned m → k.scene.session.Unreturned n → m = n
  busy : k.scene.session.busy = true ↔ ∃ n, k.scene.session.Unreturned n
  /-- While a reservation is out, neither another one nor a job without one gets in. -/
  refused : (∃ n, k.scene.session.Unreturned n) → ∀ meanwhile token,
    k.Refused (((desk c meanwhile).reserve token).run k) ∧
      ∀ order, k.Refused (((desk c meanwhile).submit order none token).run k)
  /-- While none is out, both get in, the job by a reservation of its own. -/
  accepted : (¬ ∃ n, k.scene.session.Unreturned n) → ∀ meanwhile token, ∃ r k',
    ((desk c meanwhile).reserve token).run k = pure (.ok r, k') ∧
      k'.scene.session.active = some r ∧ (∀ n, k'.scene.session.Unreturned n ↔ n = r.serial) ∧
      ∀ order, ((desk c meanwhile).submit order none token).run k =
        ((desk c meanwhile).submit order (some r)).run k'
  active : ∀ r ∈ k.given, k.scene.session.active = some r ↔ k.scene.session.Unreturned r.serial
  kept : ∀ place r, k.given[place]? = some r → k.scene.session.Unreturned r.serial →
    ∀ calls : List Call, (∀ call ∈ calls, ¬ call.Returns place) →
      (Call.runAll c calls k).scene.session.active = some r
  freed : ∀ place r, k.given[place]? = some r → k.scene.session.Unreturned r.serial →
    ((Call.release place).run c k).scene.session.busy = false
  submitted : ∀ place r, k.given[place]? = some r → ∀ order meanwhile,
    ((Call.submitReserved order place meanwhile).run c k).scene.session.Returned r.serial
  /-- What has been given back is given back again at any later time, and nothing changes. -/
  again : ∀ r ∈ k.given, ¬ k.scene.session.Unreturned r.serial → ∀ calls meanwhile,
    ((desk c meanwhile).release r).run (Call.runAll c calls k) = pure ((), Call.runAll c calls k)

namespace Counter

variable (c : Carrier τ) {k : Counter τ}

theorem returned_of_slot {n : Nat} :
    OfSlot fun k : Counter τ => k.scene.session.Returned n :=
  fun _ _ h hs _ _ => h.of_slot hs

/-- A submission gives its reservation back, however it goes. -/
theorem submitReserved_returned {meanwhile : List Call} {r : Reservation} (order : PrintOrder)
    (h : InOrder [r] [] k) :
    (((desk c (Call.runAll c meanwhile)).submit order (some r)).run k).2.scene.session.Returned
      r.serial := by
  refine leads_submitReserved inOrder_of_slot (fun k' => Call.runAll_inOrder c meanwhile k')
    returned_of_slot ?_ order k h
  refine release_leads List.mem_cons_self (fun _ hk => hk) fun k' hk' => ?_
  have hknows := hk'.known r List.mem_cons_self
  refine (hknows.release r).returned_iff.2 fun hout => ?_
  exact ((Session.unreturned_release _).1 hout).2 rfl

theorem InOrder.oneJob (h : InOrder [] [] k) : OneJob c k where
  one _ _ := h.now.sound.one
  busy := h.now.sound.busy_iff
  refused hout meanwhile token :=
    have hlocked := h.now.sound.locked_iff.2 hout
    ⟨reserve_refused c meanwhile hlocked token,
      fun order => submit_refused c meanwhile hlocked order token⟩
  accepted hnone meanwhile token := by
    have hlocked : k.scene.session.locked = false :=
      Bool.eq_false_iff.2 fun hlocked => hnone (h.now.sound.locked_iff.1 hlocked)
    obtain ⟨n, bearer, r, x, hr, hrun⟩ :=
      reserve_accepted c meanwhile hlocked token
    refine ⟨r, _, hrun, ?_, h.now.sound.unreturned_reserve hr, fun order => ?_⟩
    · obtain ⟨-, -, rfl⟩ := Session.reserve_eq_ok hr
      rfl
    · rw [submit_run, hrun]
      rfl
  active r hr := h.now.sound.active_iff (h.now.knows r hr)
  kept place r hplace hout calls hcalls :=
    (Call.runAll_out c calls k ⟨h, hplace, hout⟩ hcalls).active
  freed place r hplace hout := by
    have hr := h.now.knows r (List.mem_of_getElem? hplace)
    have hfree := h.now.sound.release_active hr hout
    unfold Call.run
    rw [hplace]
    dsimp only
    rw [release_run c id k.called hr.session]
    show (k.scene.session.release r).active.isSome = false
    rw [hfree.1]
    rfl
  submitted place r hplace order meanwhile := by
    unfold Call.run
    rw [hplace]
    exact submitReserved_returned c order (h.called.hold hplace)
  again r hr hout calls meanwhile := by
    have hknows := h.now.knows r hr
    have hgone : InOrder [r] [r.serial] k :=
      ⟨h.now, List.forall_mem_singleton.2 hknows,
        List.forall_mem_singleton.2 (hknows.returned_iff.2 hout), h.past⟩
    have hlater := Call.runAll_inOrder c calls k hgone
    have hknows' := hlater.known r List.mem_cons_self
    have hout' := hknows'.returned_iff.1 (hlater.gone _ List.mem_cons_self)
    rw [release_run c meanwhile _ hknows'.session, Session.release_again hout']
    rfl

/-- Whatever is called for a new session, by any number of hands: at the end, and at every call on
the way, one job at most has the slot. -/
theorem one_job_at_a_time (calls : List Call) {start : Scene τ} (hnew : start.session.New) :
    let k := Call.runAll c calls { scene := start }
    OneJob c k ∧ ∀ m ∈ k.past, OneJob c { scene := m.1, given := m.2 } := by
  have htidy : Tidy start.session [] :=
    ⟨hnew.sound, List.forall_mem_nil _, List.Pairwise.nil⟩
  have hstart : InOrder [] [] { scene := start } :=
    ⟨htidy, List.forall_mem_nil _, List.forall_mem_nil _, List.forall_mem_nil _⟩
  have hend := Call.runAll_inOrder c calls _ hstart
  refine ⟨hend.oneJob c, fun m hm => InOrder.oneJob c ?_⟩
  exact ⟨hend.past m hm, List.forall_mem_nil _, List.forall_mem_nil _, List.forall_mem_nil _⟩

/-- While an order is being written its reservation is given back and another one is made.  At the
end of the order, and once more behind it, the old one is given back again. -/
def lateReleases : List Call :=
  [.reserve none,
    .submitReserved { source := .markup "hi".toText } 0 [.release 0, .reserve none],
    .release 0]

theorem one_job_at_a_time_late :
    let k := Call.runAll Scene.stalling lateReleases { scene := Scene.waiting }
    k.given = [⟨0, 0, 0⟩, ⟨0, 1, 1⟩] ∧ k.scene.session.active = some ⟨0, 1, 1⟩ ∧
      ((desk Scene.stalling id).release ⟨0, 0, 0⟩).run k = pure ((), k) ∧
      k.Refused (((desk Scene.stalling id).reserve none).run k) ∧ k.past.length = 5 := by
  intro k
  have hgiven : k.given = [⟨0, 0, 0⟩, ⟨0, 1, 1⟩] := by decide +kernel
  have hreturned : k.scene.session.returned = [true, false] := by decide +kernel
  have hactive : k.scene.session.active = some ⟨0, 1, 1⟩ := by decide +kernel
  have hone : OneJob Scene.stalling k :=
    (one_job_at_a_time Scene.stalling lateReleases ⟨rfl, rfl, rfl⟩).1
  have hout : k.scene.session.Unreturned 1 := by
    unfold Session.Unreturned
    rw [hreturned]
    rfl
  have hback : ¬ k.scene.session.Unreturned 0 := by
    unfold Session.Unreturned
    rw [hreturned]
    decide
  refine ⟨hgiven, hactive, hone.again _ ?_ hback [] id, (hone.refused ⟨1, hout⟩ id none).1, ?_⟩
  · rw [hgiven]
    exact List.mem_cons_self
  · decide +kernel

end Counter
end ThermalPrint
