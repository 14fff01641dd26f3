import ThermalPrint.Proofs.Session.Leads
import ThermalPrint.Work.Office

/-
An office in a house.  The house has a room for each session, and what it needs from outside it
asks for in errands.  Nothing is said of what comes of an errand, and others may be at work in the
house while it is run: they may do jobs, hand in new ones and use the sessions.
-/

namespace ThermalPrint

/-- A backlog and the jobs in hand: those that have been taken from their queues, and those that
have been begun. -/
structure Floor where
  backlog : Backlog := {}
  taken : List WaitingJob := []
  begun : List WaitingJob := []

/-- A room for each session, and the floor on which jobs are done.  The jobs in hand are those of
others. -/
structure House (τ : Type) where
  rooms : SessionId → Room τ
  floor : Floor := {}

/-- What is asked of the world outside. -/
inductive Errand (τ : Type) : Type → Type
  | load (reference : Text) : Errand τ (Except Fault Picture)
  | openAt (session : SessionId) (address : Text) : Errand τ (Except Fault τ)
  | send (session : SessionId) (t : τ) (bytes : List UInt8) : Errand τ (Option Fault)
  | close (session : SessionId) (t : τ) : Errand τ (Option Fault)

/-- The world outside: what comes of an errand, and the house that it leaves. -/
structure Outside (τ : Type) where
  answer : {α : Type} → Errand τ α → House τ → α × House τ

namespace House

variable {τ : Type}

def session (h : House τ) (x : SessionId) : Session τ := (h.rooms x).session

def setRoom (h : House τ) (x : SessionId) (room : Room τ) : House τ :=
  { h with rooms := fun y => if y = x then room else h.rooms y }

def setSession (h : House τ) (x : SessionId) (s : Session τ) : House τ :=
  h.setRoom x { h.rooms x with session := s }

def setBacklog (h : House τ) (b : Backlog) : House τ :=
  { h with floor := { h.floor with backlog := b } }

def noted (h : House τ) (id : Option JobId) (changes : List (Text × Json)) : House τ :=
  h.setBacklog (h.floor.backlog.note id changes)

def released (h : House τ) (x : SessionId) (r : Reservation) : House τ :=
  let y := if r.session = (h.session x).id then x else r.session
  h.setSession y ((h.session y).release r)

def ask {α : Type} (o : Outside τ) (errand : Errand τ α) : StateM (House τ) α := o.answer errand

def desk (o : Outside τ) (x : SessionId) : Desk (StateM (House τ)) τ where
  get h := (h.session x, h)
  set s h := ((), h.setSession x s)
  newToken h :=
    ((h.rooms x).nextToken, h.setRoom x { h.rooms x with nextToken := (h.rooms x).nextToken + 1 })
  cancelled token h := ((h.rooms x).cancelled token, h)
  cancel token f h := ((), h.setRoom x ((h.rooms x).cancel token f))
  openAt address := ask o (.openAt x address)
  send t bytes := ask o (.send x t bytes)
  close t := ask o (.close x t)
  announce _ h := ((), h)
  releaseElsewhere r h := ((), h.setSession r.session ((h.session r.session).release r))

def office (o : Outside τ) : Office (StateM (House τ)) τ where
  get h := (h.floor.backlog, h)
  set b h := ((), h.setBacklog b)
  desk := desk o
  load reference := ask o (.load reference)

section Views

variable (h : House τ) (x : SessionId) (s : Session τ)

@[simp] theorem setSession_self : (h.setSession x s).session x = s :=
  congrArg Room.session (if_pos rfl)

theorem setSession_other {y : SessionId} (hy : y ≠ x) :
    (h.setSession x s).session y = h.session y :=
  congrArg Room.session (if_neg hy)

end Views

section Operations

variable (o : Outside τ) (h : House τ)

@[simp] theorem release_run (x : SessionId) (r : Reservation) :
    ((desk o x).release r).run h = pure ((), h.released x r) := by
  show (if r.session = (h.session x).id then (desk o x).modify (·.release r)
    else (desk o x).releaseElsewhere r : StateM (House τ) Unit).run h = _
  unfold released
  by_cases hown : r.session = (h.session x).id
  · rw [if_pos hown, if_pos hown]
    rfl
  · rw [if_neg hown, if_neg hown]
    rfl

end Operations

section Leads

variable {o : Outside τ} {P : House τ → Prop}

/-- It is left to the slots of the sessions and to the floor whether a house is such a one. -/
def OfSlots (P : House τ → Prop) : Prop :=
  ∀ h h' : House τ, P h → (∀ y, (h'.session y).slot = (h.session y).slot) →
    h'.floor = h.floor → P h'

/-- Whatever is asked of the world outside, a property is kept. -/
def Kept (o : Outside τ) (P : House τ → Prop) : Prop :=
  ∀ {α : Type} (errand : Errand τ α), Leads P (ask o errand) P

theorem setRoom_slot {h : House τ} {x : SessionId} {room : Room τ}
    (hroom : room.session.slot = (h.session x).slot) (y : SessionId) :
    ((h.setRoom x room).session y).slot = (h.session y).slot := by
  unfold setRoom session
  dsimp only
  by_cases hy : y = x
  · rw [if_pos hy, hy]
    exact hroom
  · rw [if_neg hy]

theorem desk_keeps (hP : OfSlots P) (ho : Kept o P) (x : SessionId) : (desk o x).Keeps P where
  get _ hk := hk
  modify _ hf h hk := hP h _ hk (setRoom_slot (hf _)) rfl
  cancelled _ _ hk := hk
  cancel _ _ h hk := hP h _ hk (setRoom_slot rfl) rfl
  send t bytes := ho (.send x t bytes)
  close t := ho (.close x t)
  announce _ _ hk := hk

theorem leads_loadImages (ho : Kept o P) (imageOptional : Bool)
    (references : List (Text × Text)) :
    Leads P ((office o).loadImages imageOptional references) P := by
  induction references with
  | nil => exact leads_pure _
  | cons r rest ih =>
    obtain ⟨handle, reference⟩ := r
    refine leads_bind (ho (.load reference)) fun loaded => ?_
    split
    · exact leads_pure _
    · refine leads_bind ih fun images => ?_
      split
      · exact leads_pure _
      · exact leads_pure _

theorem leads_order (ho : Kept o P) (request : PrintRequest) :
    Leads P ((office o).order request) P := by
  unfold Office.order
  split
  · refine leads_bind (leads_loadImages ho _ _) fun images => ?_
    split
    · exact leads_pure _
    · exact leads_pure _
  · dsimp only
    split
    · exact leads_pure _
    · refine leads_bind (ho (.load _)) fun loaded => ?_
      split
      · exact leads_pure _
      · exact leads_pure _

end Leads

/-- Images are read from their references, and there is nothing else outside. -/
def alone : Outside Nat where
  answer
    | .load reference, h => (Picture.ofBase64 reference, h)
    | .openAt _ address, h => (.error (.print (.unreachable address)), h)
    | .send .., h => (none, h)
    | .close .., h => (none, h)

def new : House Nat where
  rooms _ := { session := {} }

def firstJob (request : PrintRequest) : WaitingJob := ⟨some "job1", 0, .print request ⟨0, 0, 0⟩⟩

def withFirstJob (request : PrintRequest) : House Nat where
  rooms _ := { session := { locked := true, active := some ⟨0, 0, 0⟩, returned := [false] } }
  floor := { backlog := { registry := { issued := 1, records :=
    [("job1", JobRecord.new "job1" (.str "print") "now" request.describe)] } } }

end House
end ThermalPrint
