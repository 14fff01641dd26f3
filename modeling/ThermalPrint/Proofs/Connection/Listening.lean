import ThermalPrint.Proofs.Connection.Ownership
import ThermalPrint.Session.Listeners

/-
The states that a connection tells of, and who listens.

Every call tells of the states that it goes through, in order and each once, so that what has been
told so far is a path through the transitions that leads from idle to the state as it is.  It is
kept by each move of the bench, and so by every run.

When it is told of a state a listener may do as it likes with the listeners and with all that they
share, and it may fail; it does not drive the connection.  So the bench comes to the same with
listeners as without.  Every computation over a line with listeners is followed beside the one over
the line without them, and what has been heard is kept in step with what has been told: each state
that is told reaches everyone who listens then.
-/

namespace ThermalPrint

namespace ConnectionState

/-- The transitions of a connection. -/
inductive Passes : ConnectionState → ConnectionState → Prop
  | dialled : Passes .idle .connecting
  | retried (reason : Text) : Passes (.failed reason) .connecting
  | opened : Passes .connecting .connected
  | refused (reason : Text) : Passes .connecting (.failed reason)
  | ended : Passes .connected .idle
  | timedOut : Passes .connected (.failed timeoutReason)
  | cleared (reason : Text) : Passes (.failed reason) .idle

/-- The states behind the first one on a path through the transitions. -/
inductive Walk (first : ConnectionState) : List ConnectionState → ConnectionState → Prop
  | start : Walk first [] first
  | step {history : List ConnectionState} {s t : ConnectionState} (h : Walk first history s)
      (hpass : Passes s t) : Walk first (history ++ [t]) t

namespace Walk

variable {first s t : ConnectionState} {history more : List ConnectionState}

theorem append (h : Walk first history s) (hmore : Walk s more t) :
    Walk first (history ++ more) t := by
  induction hmore with
  | start => simpa using h
  | step _ hpass ih => simpa using ih.step hpass

theorem single (h : Passes s t) : Walk s [t] t := Walk.start.step h

theorem getLastD_eq (h : Walk first history s) : history.getLastD first = s := by
  cases h with
  | start => rfl
  | step _ _ => simp

end Walk

theorem passes_connecting {s : ConnectionState} (h : s.isOver = true) : Passes s .connecting := by
  cases s with
  | idle => exact .dialled
  | failed reason => exact .retried reason
  | connecting => cases h
  | connected => cases h

end ConnectionState

namespace Connection

variable {τ : Type} {c c' : Connection τ}

theorem hangUp_passes (h : c.hangUp = .ok (some c')) : ConnectionState.Passes c.state .idle := by
  unfold hangUp at h
  cases hs : c.state with
  | idle => simp [hs] at h
  | connecting => simp [hs] at h
  | connected => exact .ended
  | failed reason => exact .cleared reason

theorem dropTo_passes {generation : Nat} {f : Fault} {s : ConnectionState}
    (h : (c.writeFailure generation f).dropTo = some s) :
    ConnectionState.Passes .connected s := by
  rw [writeFailure_dropTo h, Fault.endState]
  split
  · exact .timedOut
  · exact .ended

end Connection

namespace Bench

open ConnectionState (Walk passes_connecting)

def Event.state? : Event → Option ConnectionState
  | told s => some s
  | _ => none

/-- The states that have been told of, in order. -/
def told (b : Bench) : List ConnectionState := b.log.reverse.filterMap Event.state?

@[simp] theorem told_note_wrote (b : Bench) (t : Nat) (bytes : List UInt8) :
    (b.note (.wrote t bytes)).told = b.told := by
  simp [told, note, Event.state?]

/-- What a move tells of leads from the state in front of it to the one behind it. -/
theorem Move.tells {b b' : Bench} {o : Outside} {c : Call} {r : Except Fault Unit}
    (h : Move b o c r b') :
    ∃ news, b'.told = b.told ++ news ∧ Walk b.connection.state news b'.connection.state := by
  cases h with
  | refused _ => exact ⟨[], by simp, .start⟩
  | resting _ => exact ⟨[], by simp, .start⟩
  | connected hd _ =>
    obtain ⟨hover, rfl⟩ := Connection.dial_ok hd
    refine ⟨[.connecting, .connected], by simp [told, Event.state?, List.filterMap_cons], ?_⟩
    exact (Walk.single (passes_connecting hover)).step .opened
  | @unreached _ _ f hd _ =>
    obtain ⟨hover, rfl⟩ := Connection.dial_ok hd
    refine ⟨[.connecting, .failed (OpeningFailure.of f).reason], ?_, ?_⟩
    · simp [told, Event.state?, List.filterMap_cons]
    · exact (Walk.single (passes_connecting hover)).step (.refused _)
  | disconnected hd =>
    have hpass := Connection.hangUp_passes hd
    obtain rfl := Connection.hangUp_some hd
    refine ⟨[.idle], ?_, .single hpass⟩
    -- the transport, if there is one, is closed on the way, and nobody is told of that
    cases b.connection.transport <;> simp [told, Event.state?, List.filterMap_cons]
  | written _ _ => exact ⟨[], by simp, .start⟩
  | spared _ _ _ => exact ⟨[], by simp, .start⟩
  | @dropped _ _ _ s hc _ hf =>
    obtain ⟨hs, ht⟩ := Connection.claim_ok hc
    refine ⟨[s], by simp [told, Event.state?, List.filterMap_cons, ht], ?_⟩
    rw [hs]
    exact .single (Connection.dropTo_passes hf)

theorem run_told (calls : List (Call × Outside)) :
    Walk .idle (run calls).told (run calls).connection.state := by
  refine run_induction (P := fun b => Walk .idle b.told b.connection.state) ?_ calls .start
  intro b b' o c r hb hm
  obtain ⟨news, htold, hpath⟩ := hm.tells
  rw [htold]
  exact hb.append hpath

/-- A call that the connection refuses, or that has nothing to end, tells of nothing. -/
theorem step_silent {b : Bench} {c : Call}
    (h : (refusal? b.connection.state c).isSome ∨ c = .disconnect ∧ b.connection.state = .idle)
    (o : Outside) : (b.step c o).2 = b := by
  rcases h with h | ⟨rfl, hs⟩
  · obtain ⟨kind, hkind⟩ := Option.isSome_iff_exists.1 h
    obtain ⟨e, hr, -⟩ := refused_of_refusal hkind
    rw [step_refused hr]
  · have hrest : b.connection.hangUp = .ok none := by simp [Connection.hangUp, hs]
    rw [show b.step .disconnect o = (line o).disconnect.run b from rfl, disconnect_run, hrest]

end Bench

/-! ## Listeners -/

/-- Listeners and what they share. -/
structure Audience (α σ : Type) where
  listeners : Listeners α
  world : σ

/-- What a listener does when it is told of a state, and the fault, if any, with which it ends. -/
def Reaction (α σ : Type) : Type :=
  α → ConnectionState → Audience α σ → Option Fault × Audience α σ

/-- A bench with its audience, and who has heard what, in order. -/
structure Gallery (α σ : Type) where
  bench : Bench := {}
  audience : Audience α σ
  heard : List (α × ConnectionState) := []

namespace Gallery

open Bench (Call Outside)
open ConnectionState (Walk)

variable {α σ β γ : Type}

def aside (x : StateM Bench β) : StateM (Gallery α σ) β := fun g =>
  ((x.run g.bench).1, { g with bench := (x.run g.bench).2 })

def listeners : StateM (Gallery α σ) (Listeners α) := fun g => (g.audience.listeners, g)

def call (react : Reaction α σ) (a : α) (s : ConnectionState) :
    StateM (Gallery α σ) (Option Fault) := fun g =>
  ((react a s g.audience).1,
    { g with audience := (react a s g.audience).2, heard := g.heard ++ [(a, s)] })

def line (react : Reaction α σ) (o : Outside) : Line (StateM (Gallery α σ)) Nat :=
  Line.heardBy
    { get := aside (Bench.line o).get
      set := fun c => aside ((Bench.line o).set c)
      openAt := fun address => aside ((Bench.line o).openAt address)
      send := fun t bytes => aside ((Bench.line o).send t bytes)
      close := fun t => aside ((Bench.line o).close t)
      tell := fun s => aside ((Bench.line o).tell s) }
    listeners (call react)

def step (react : Reaction α σ) (g : Gallery α σ) (c : Call) (o : Outside) :
    Except Fault Unit × Gallery α σ :=
  match c with
  | .connect address => ((line react o).connect address).run g
  | .disconnect => (line react o).disconnect.run g
  | .write bytes => ((line react o).write bytes).run g

def run (react : Reaction α σ) (calls : List (Call × Outside)) (g : Gallery α σ) : Gallery α σ :=
  calls.foldl (fun g c => (g.step react c.1 c.2).2) g

section Heard

variable [DecidableEq α]

def heardBy (g : Gallery α σ) (a : α) : List ConnectionState :=
  g.heard.filterMap fun h => if h.1 = a then some h.2 else none

def Attends (g : Gallery α σ) (a : α) : Prop := g.audience.listeners.toList.count a = 1

/-- Nobody unsubscribes a listener, or subscribes it again. -/
def Loyal (react : Reaction α σ) (a : α) : Prop :=
  ∀ b s (x : Audience α σ), x.listeners.toList.count a = 1 →
    (react b s x).2.listeners.toList.count a = 1

/-- Between two galleries states have been told of, each to some listeners.  One who listens all
the time is among them each time, and once. -/
def Relay (react : Reaction α σ) (g g' : Gallery α σ) : Prop :=
  ∃ news : List (ConnectionState × List α),
    g'.bench.told = g.bench.told ++ news.map (·.1) ∧
    g'.heard = g.heard ++ news.flatMap (fun n => n.2.map (·, n.1)) ∧
    ∀ a, Loyal react a → g.Attends a → g'.Attends a ∧ ∀ n ∈ news, n.2.count a = 1

variable {react : Reaction α σ} {g g' g'' : Gallery α σ} {a : α}

namespace Relay

theorem quiet (htold : g'.bench.told = g.bench.told) (haudience : g'.audience = g.audience)
    (hheard : g'.heard = g.heard) : Relay react g g' := by
  refine ⟨[], by simp [htold], by simp [hheard], fun a _ ha => ⟨?_, by simp⟩⟩
  simpa [Attends, haudience] using ha

theorem trans (h : Relay react g g') (h' : Relay react g' g'') : Relay react g g'' := by
  obtain ⟨news, htold, hheard, hloyal⟩ := h
  obtain ⟨news', htold', hheard', hloyal'⟩ := h'
  refine ⟨news ++ news', by simp [htold', htold], by simp [hheard', hheard], fun a hl ha => ?_⟩
  obtain ⟨ha', hnews⟩ := hloyal a hl ha
  obtain ⟨ha'', hnews'⟩ := hloyal' a hl ha'
  refine ⟨ha'', fun n hn => ?_⟩
  rcases List.mem_append.1 hn with hn | hn
  · exact hnews n hn
  · exact hnews' n hn

theorem heard_eq (h : Relay react g g') (htold : g'.bench.told = g.bench.told) :
    g'.heard = g.heard := by
  obtain ⟨news, hnews, hheard, -⟩ := h
  rw [htold, List.self_eq_append_right, List.map_eq_nil_iff] at hnews
  simpa [hnews] using hheard

end Relay

theorem filterMap_told (l : List α) (s : ConnectionState) :
    (l.map (·, s)).filterMap (fun h => if h.1 = a then some h.2 else none) =
      List.replicate (l.count a) s := by
  induction l with
  | nil => rfl
  | cons b rest ih =>
    by_cases hb : b = a
    · simp [hb, ih, List.replicate_succ]
    · simp [hb, ih]

/-- One who listens all the time hears each state as it is told. -/
theorem Relay.heardBy_eq (h : Relay react g g') (hl : Loyal react a) (ha : g.Attends a)
    (hg : g.heardBy a = g.bench.told) : g'.heardBy a = g'.bench.told := by
  obtain ⟨news, htold, hheard, hloyal⟩ := h
  have hnews := (hloyal a hl ha).2
  rw [htold, ← hg, heardBy, hheard, List.filterMap_append]
  refine congrArg (g.heardBy a ++ ·) ?_
  clear htold hheard hloyal
  -- each state that is told reaches the listener once
  induction news with
  | nil => rfl
  | cons n rest ih =>
    rw [List.flatMap_cons, List.filterMap_append, filterMap_told, hnews n List.mem_cons_self,
      ih fun m hm => hnews m (List.mem_cons_of_mem _ hm)]
    rfl

/-- A computation with listeners comes to what it comes to without them. -/
def Follows (react : Reaction α σ) (x : StateM Bench β) (y : StateM (Gallery α σ) β) : Prop :=
  ∀ g, (y.run g).1 = (x.run g.bench).1 ∧ (y.run g).2.bench = (x.run g.bench).2 ∧
    Relay react g (y.run g).2

theorem follows_pure (b : β) : Follows react (pure b) (pure b) :=
  fun _ => ⟨rfl, rfl, .quiet rfl rfl rfl⟩

theorem follows_bind {x : StateM Bench β} {y : StateM (Gallery α σ) β} {f : β → StateM Bench γ}
    {k : β → StateM (Gallery α σ) γ} (hx : Follows react x y)
    (hf : ∀ b, Follows react (f b) (k b)) : Follows react (x >>= f) (y >>= k) := by
  intro g
  obtain ⟨hresult, hbench, hrelay⟩ := hx g
  obtain ⟨hresult', hbench', hrelay'⟩ := hf (y.run g).1 (y.run g).2
  refine ⟨?_, ?_, hrelay.trans hrelay'⟩
  · show _ = ((f (x.run g.bench).1).run (x.run g.bench).2).1
    rw [← hresult, ← hbench]
    exact hresult'
  · show _ = ((f (x.run g.bench).1).run (x.run g.bench).2).2
    rw [← hresult, ← hbench]
    exact hbench'

theorem follows_aside {x : StateM Bench β} (hx : ∀ b, (x.run b).2.told = b.told) :
    Follows react x (aside x) :=
  fun g => ⟨rfl, rfl, .quiet (hx g.bench) rfl rfl⟩

/-- Everyone who listens is told, whoever of them fails. -/
theorem tell_run (react : Reaction α σ) (l : List α) (s : ConnectionState) (g : Gallery α σ) :
    ∃ x : Audience α σ,
      ((l.forM fun a => do let _ ← call react a s).run g).2 =
        { g with audience := x, heard := g.heard ++ l.map (·, s) } ∧
      ∀ a, Loyal react a → g.Attends a → x.listeners.toList.count a = 1 := by
  induction l generalizing g with
  | nil => exact ⟨g.audience, by simp; rfl, fun a _ ha => ha⟩
  | cons b rest ih =>
    -- the others are told whatever the first one does to the audience, and whether it fails or not
    obtain ⟨x, hx, hloyal⟩ := ih ((call react b s).run g).2
    refine ⟨x, ?_, fun a hl ha => hloyal a hl (hl b s g.audience ha)⟩
    show ((rest.forM fun a => do let _ ← call react a s).run ((call react b s).run g).2).2 = _
    rw [hx]
    show Gallery.mk g.bench x ((g.heard ++ [(b, s)]) ++ rest.map (·, s)) = _
    simp

theorem follows_tell (react : Reaction α σ) (o : Outside) (s : ConnectionState) :
    Follows react ((Bench.line o).tell s) ((line react o).tell s) := by
  intro g
  obtain ⟨x, hx, hloyal⟩ := tell_run react g.audience.listeners.toList s
    { g with bench := g.bench.note (.told s) }
  have hrun : (((line react o).tell s).run g).2 =
      { bench := g.bench.note (.told s), audience := x
        heard := g.heard ++ g.audience.listeners.toList.map (·, s) } := hx
  refine ⟨rfl, by rw [hrun]; rfl, ?_⟩
  rw [hrun]
  refine ⟨[(s, g.audience.listeners.toList)], ?_, by simp, fun a hl ha => ⟨hloyal a hl ha, ?_⟩⟩
  · simp [Bench.told, Bench.note, Bench.Event.state?]
  · intro n hn
    rw [List.mem_singleton.1 hn]
    exact ha

section Calls

variable (react) (o : Outside)

theorem follows_get : Follows react (Bench.line o).get (line react o).get :=
  follows_aside fun _ => rfl

theorem follows_set (c : Connection Nat) :
    Follows react ((Bench.line o).set c) ((line react o).set c) :=
  follows_aside fun _ => rfl

theorem follows_closeOf (c : Connection Nat) :
    Follows react ((Bench.line o).closeOf c) ((line react o).closeOf c) := by
  unfold Line.closeOf
  cases c.transport with
  | none => exact follows_pure ()
  | some t =>
    refine follows_bind (follows_aside fun b => ?_) fun _ => follows_pure ()
    show (b.note (.closed t)).told = b.told
    simp [Bench.told, Bench.note, Bench.Event.state?]

theorem follows_openAt (address : Text) :
    Follows react ((Bench.line o).openAt address) ((line react o).openAt address) := by
  refine follows_aside fun b => ?_
  show (Bench.dial o address b).2.told = b.told
  unfold Bench.dial
  cases o.opening <;> simp [Bench.told, Bench.note, Bench.Event.state?, List.filterMap_cons]

theorem follows_send (t : Nat) (bytes : List UInt8) :
    Follows react ((Bench.line o).send t bytes) ((line react o).send t bytes) :=
  follows_aside fun b => Bench.told_note_wrote b t bytes

theorem follows_connect (address : Text) :
    Follows react ((Bench.line o).connect address) ((line react o).connect address) := by
  refine follows_bind (follows_get react o) fun c => ?_
  cases c.dial address with
  | error e => exact follows_pure _
  | ok c =>
    refine follows_bind (follows_set react o c) fun _ => ?_
    refine follows_bind (follows_tell react o .connecting) fun _ => ?_
    refine follows_bind (follows_openAt react o address) fun opened? => ?_
    cases opened? with
    | ok t =>
      refine follows_bind (follows_get react o) fun now => ?_
      refine follows_bind (follows_set react o _) fun _ => ?_
      exact follows_bind (follows_tell react o _) fun _ => follows_pure _
    | error f =>
      refine follows_bind (follows_get react o) fun now => ?_
      refine follows_bind (follows_set react o _) fun _ => ?_
      exact follows_bind (follows_tell react o _) fun _ => follows_pure _

theorem follows_disconnect :
    Follows react (Bench.line o).disconnect (line react o).disconnect := by
  refine follows_bind (follows_get react o) fun c => ?_
  cases c.hangUp with
  | error e => exact follows_pure _
  | ok released? =>
    cases released? with
    | none => exact follows_pure _
    | some released =>
      refine follows_bind (follows_set react o released) fun _ => ?_
      refine follows_bind (follows_closeOf react o c) fun _ => ?_
      exact follows_bind (follows_tell react o _) fun _ => follows_pure _

theorem follows_write (bytes : List UInt8) :
    Follows react ((Bench.line o).write bytes) ((line react o).write bytes) := by
  refine follows_bind (follows_get react o) fun c => ?_
  cases c.claim with
  | error e => exact follows_pure _
  | ok t =>
    refine follows_bind (follows_send react o t bytes) fun failure? => ?_
    cases failure? with
    | none => exact follows_pure _
    | some f =>
      refine follows_bind (follows_get react o) fun now => ?_
      dsimp only
      cases (now.writeFailure c.generation f).dropTo with
      | none => exact follows_pure _
      | some s =>
        refine follows_bind (follows_set react o _) fun _ => ?_
        refine follows_bind (follows_closeOf react o now) fun _ => ?_
        exact follows_bind (follows_tell react o s) fun _ => follows_pure _

end Calls

theorem step_follows (react : Reaction α σ) (g : Gallery α σ) (c : Call) (o : Outside) :
    (g.step react c o).1 = (g.bench.step c o).1 ∧
      (g.step react c o).2.bench = (g.bench.step c o).2 ∧
      Relay react g (g.step react c o).2 := by
  cases c with
  | connect address => exact follows_connect react o address g
  | disconnect => exact follows_disconnect react o g
  | write bytes => exact follows_write react o bytes g

theorem run_follows (react : Reaction α σ) (calls : List (Call × Outside)) (g : Gallery α σ) :
    (g.run react calls).bench = Bench.run calls g.bench ∧ Relay react g (g.run react calls) := by
  induction calls generalizing g with
  | nil => exact ⟨rfl, .quiet rfl rfl rfl⟩
  | cons call rest ih =>
    obtain ⟨-, hbench, hrelay⟩ := step_follows react g call.1 call.2
    obtain ⟨hrest, hrelay'⟩ := ih (g.step react call.1 call.2).2
    rw [hbench] at hrest
    exact ⟨hrest, hrelay.trans hrelay'⟩

theorem step_silent (react : Reaction α σ) (g : Gallery α σ) (c : Call) (o : Outside)
    (h : (Bench.refusal? g.bench.connection.state c).isSome ∨
      c = .disconnect ∧ g.bench.connection.state = .idle) :
    (g.step react c o).2.heard = g.heard := by
  obtain ⟨-, hbench, hrelay⟩ := step_follows react g c o
  exact hrelay.heard_eq (by rw [hbench, Bench.step_silent h o])

/-- Listeners see legal histories.  Behind any sequence of calls, whatever the listeners do and
however they fail, the bench is as it is without them, and so is what a call comes to.  One who has
listened from the start has heard a path of transitions from idle to the state that the connection
is in.  A call that is refused, or a disconnecting with nothing to end, is heard by nobody. -/
theorem histories_legal (react : Reaction α σ) (audience : Audience α σ)
    (calls : List (Call × Outside)) :
    let g := run react calls { audience }
    let state := g.bench.connection.state
    g.bench = Bench.run calls ∧
    (∀ c o, (g.step react c o).1 = (g.bench.step c o).1) ∧
    (∀ a, Loyal react a → audience.listeners.toList.count a = 1 →
      Walk .idle (g.heardBy a) state ∧ (g.heardBy a).getLastD .idle = state) ∧
    (∀ c o kind, Bench.refusal? state c = some kind →
      (∃ e : PrintError, e.kind = kind ∧ (g.step react c o).1 = .error (.print e)) ∧
        (g.step react c o).2.heard = g.heard) ∧
    (∀ o, state = .idle → (g.step react .disconnect o).1 = .ok () ∧
      (g.step react .disconnect o).2.heard = g.heard) := by
  intro g state
  obtain ⟨hbench, hrelay⟩ := run_follows react calls { audience }
  have hresult : ∀ c o, (g.step react c o).1 = (g.bench.step c o).1 :=
    fun c o => (step_follows react g c o).1
  refine ⟨hbench, hresult, fun a hl ha => ?_, fun c o kind hkind => ⟨?_, ?_⟩,
    fun o hidle => ⟨?_, ?_⟩⟩
  · have hheard : g.heardBy a = g.bench.told := hrelay.heardBy_eq hl ha rfl
    have hpath : Walk .idle (g.heardBy a) state := by
      rw [hheard, show g.bench = Bench.run calls from hbench]
      simpa only [state, g, hbench] using Bench.run_told calls
    exact ⟨hpath, hpath.getLastD_eq⟩
  · obtain ⟨e, hr, hk⟩ := Bench.refused_of_refusal hkind
    exact ⟨e, hk, by rw [hresult, Bench.step_refused hr]⟩
  · exact step_silent react g c o (.inl (by rw [hkind]; rfl))
  · have hrest : g.bench.connection.hangUp = .ok none := by
      simp [Connection.hangUp, show g.bench.connection.state = .idle from hidle]
    rw [hresult, show g.bench.step .disconnect o = (Bench.line o).disconnect.run g.bench from rfl,
      Bench.disconnect_run, hrest]
  · exact step_silent react g .disconnect o (.inr ⟨rfl, hidle⟩)

end Heard

def failing : Reaction Nat Nat := fun a _ x =>
  (if a = 0 then some (.value .runtime "boom") else none, { x with world := x.world + 1 })

def pair : Audience Nat Nat where
  listeners := (({} : Listeners Nat).subscribe 0).subscribe 1
  world := 0

def lostCalls : List (Call × Outside) :=
  [(.connect "tcp://front:9100", {}),
    (.write [0x41], { writing := some (.print (.of .timeout "late")) })]

theorem histories_legal_lost :
    Loyal failing 1 ∧ pair.listeners.toList.count 1 = 1 ∧
      (run failing lostCalls { audience := pair }).heardBy 1 =
        [.connecting, .connected, .failed "timeout"] ∧
      Walk .idle [.connecting, .connected, .failed "timeout"]
        (run failing lostCalls { audience := pair }).bench.connection.state ∧
      ((run failing lostCalls { audience := pair }).step failing (.write [0x42]) {}).2.heard =
        (run failing lostCalls { audience := pair }).heard := by
  have hloyal : Loyal failing 1 := fun _ _ _ h => h
  have hcount : pair.listeners.toList.count 1 = 1 := rfl
  obtain ⟨-, -, hpath, hrefused, -⟩ := histories_legal failing pair lostCalls
  have hheard : (run failing lostCalls { audience := pair }).heardBy 1 =
      [.connecting, .connected, .failed "timeout"] := by decide +kernel
  refine ⟨hloyal, hcount, hheard, ?_, ?_⟩
  · rw [← hheard]
    exact (hpath 1 hloyal hcount).1
  · exact (hrefused (.write [0x42]) {} .notConnected (by decide +kernel)).2

end Gallery
end ThermalPrint
