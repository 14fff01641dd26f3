import ThermalPrint.Proofs.Connection.Bench
import ThermalPrint.Proofs.Connection.Transitions

/-
Who owns a transport.  A connection holds the transport that it was given until it lets it go,
closes it then and once, and never writes to it afterwards.

The log of a bench is replayed: `Orderly log live n` says that `n` transports were opened in it
and that `live` is the one of them that is still open.  The invariant is that the replay ends
with the transport that the connection holds.
-/

namespace ThermalPrint
namespace Bench

/-- A log, the latest event first, in which no two transports are open at once, every write
goes to the one that is open, and only that one is closed. -/
inductive Orderly : List Event → Option Nat → Nat → Prop
  | start : Orderly [] none 0
  | dialled {log : List Event} {live : Option Nat} {n : Nat} {address : Text} :
    Orderly log live n → Orderly (.dialled address :: log) live n
  | told {log : List Event} {live : Option Nat} {n : Nat} {s : ConnectionState} :
    Orderly log live n → Orderly (.told s :: log) live n
  | opened {log : List Event} {n : Nat} :
    Orderly log none n → Orderly (.opened n :: log) (some n) (n + 1)
  | wrote {log : List Event} {t n : Nat} {bytes : List UInt8} :
    Orderly log (some t) n → Orderly (.wrote t bytes :: log) (some t) n
  | closed {log : List Event} {t n : Nat} :
    Orderly log (some t) n → Orderly (.closed t :: log) none n

/-- A transport has been opened and not been closed. -/
def Open (log : List Event) (t : Nat) : Prop := .opened t ∈ log ∧ .closed t ∉ log

namespace Orderly

variable {log : List Event} {live : Option Nat} {n t : Nat}

theorem live_lt (h : Orderly log live n) : ∀ t, live = some t → t < n := by
  induction h with
  | start => intro t ht; cases ht
  | dialled _ ih => exact ih
  | told _ ih => exact ih
  | opened _ _ => intro t ht; cases ht; exact Nat.lt_succ_self _
  | wrote _ ih => exact ih
  | closed _ _ => intro t ht; cases ht

theorem opened_mem_iff (h : Orderly log live n) (t : Nat) : .opened t ∈ log ↔ t < n := by
  induction h with
  | start => simp
  | dialled _ ih => simpa using ih
  | told _ ih => simpa using ih
  | opened _ ih =>
    rw [List.mem_cons, ih, Event.opened.injEq]
    omega
  | wrote _ ih => simpa using ih
  | closed _ ih => simpa using ih

/-- Every transport but the one that is open has been closed once. -/
theorem count_closed (h : Orderly log live n) (t : Nat) :
    log.count (.closed t) = if t < n ∧ live ≠ some t then 1 else 0 := by
  induction h with
  | start => simp
  | dialled _ ih => simpa [List.count_cons] using ih
  | told _ ih => simpa [List.count_cons] using ih
  | @opened log n h ih =>
    rw [List.count_cons_of_ne (by simp), ih]
    by_cases ht : t = n
    · simp [ht]
    · have hn : t < n + 1 ↔ t < n := by omega
      simp [hn, Ne.symm ht]
  | wrote _ ih => simpa [List.count_cons] using ih
  | @closed log u n h ih =>
    have hu : u < n := h.live_lt u rfl
    by_cases ht : t = u
    · subst ht
      rw [List.count_cons_self, ih]
      simp [hu]
    · rw [List.count_cons_of_ne (by simpa using Ne.symm ht), ih]
      simp [Ne.symm ht]

theorem open_iff (h : Orderly log live n) (t : Nat) : Open log t ↔ live = some t := by
  rw [Open, h.opened_mem_iff, ← List.count_eq_zero, h.count_closed]
  by_cases hl : live = some t
  · simp [hl, h.live_lt t hl]
  · simp [hl]

theorem suffix {newer older : List Event} (h : Orderly (newer ++ older) live n) :
    ∃ live' n', Orderly older live' n' := by
  induction newer generalizing live n with
  | nil => exact ⟨live, n, h⟩
  | cons e newer ih =>
    cases h with
    | dialled h => exact ih h
    | told h => exact ih h
    | opened h => exact ih h
    | wrote h => exact ih h
    | closed h => exact ih h

theorem wrote_open {newer older : List Event} {bytes : List UInt8}
    (h : Orderly (newer ++ .wrote t bytes :: older) live n) : Open older t := by
  obtain ⟨_, _, hw⟩ := h.suffix
  cases hw with
  | wrote hw => exact (hw.open_iff t).2 rfl

theorem closed_open {newer older : List Event}
    (h : Orderly (newer ++ .closed t :: older) live n) : Open older t := by
  obtain ⟨_, _, hc⟩ := h.suffix
  cases hc with
  | closed hc => exact (hc.open_iff t).2 rfl

theorem open_unique {newer older : List Event} (h : Orderly (newer ++ older) live n)
    {t u : Nat} (ht : Open older t) (hu : Open older u) : t = u := by
  obtain ⟨live', _, ho⟩ := h.suffix
  have h1 : live' = some t := (ho.open_iff t).1 ht
  have h2 : live' = some u := (ho.open_iff u).1 hu
  exact Option.some.inj (h1.symm.trans h2)

theorem close (h : Orderly log live n) :
    Orderly (live.toList.map .closed ++ log) none n := by
  cases live with
  | none => exact h
  | some t => exact .closed h

end Orderly

/-- The invariant of a connection on the bench. -/
structure Sound (b : Bench) : Prop where
  holds_iff : b.connection.transport.isSome ↔ b.connection.state = .connected
  orderly : Orderly b.log b.connection.transport b.opened

theorem sound_start : Sound {} :=
  ⟨by simp, .start⟩

/-- A connection that is over holds nothing, so that a new transport is the only one. -/
theorem Sound.empty {b : Bench} (h : Sound b) (hs : b.connection.state.isOver = true) :
    b.connection.transport = none := by
  cases ht : b.connection.transport with
  | none => rfl
  | some t =>
    have hc : b.connection.state = .connected := h.holds_iff.1 (by rw [ht]; rfl)
    rw [hc] at hs
    cases hs

theorem Sound.wrote {b : Bench} {t : Nat} (h : Sound b) (hc : b.connection.claim = .ok t)
    (bytes : List UInt8) : Sound (b.note (.wrote t bytes)) := by
  obtain ⟨_, ht⟩ := Connection.claim_ok hc
  have hlog := h.orderly
  refine ⟨h.holds_iff, ?_⟩
  show Orderly (.wrote t bytes :: b.log) b.connection.transport b.opened
  rw [ht] at hlog ⊢
  exact .wrote hlog

theorem Sound.move {b b' : Bench} {o : Outside} {c : Call} {r : Except Fault Unit}
    (h : Sound b) (hm : Move b o c r b') : Sound b' := by
  have hlog := h.orderly
  cases hm with
  | refused hr => exact h
  | resting hd => exact h
  | connected hd ho =>
    obtain ⟨hs, rfl⟩ := Connection.dial_ok hd
    rw [h.empty hs] at hlog
    exact ⟨by simp [Connection.hold], .told (.opened (.dialled (.told hlog)))⟩
  | unreached hd ho =>
    obtain ⟨hs, rfl⟩ := Connection.dial_ok hd
    have hn : b.connection.transport = none := h.empty hs
    exact ⟨by simp [Connection.fail, hn], .told (.dialled (.told hlog))⟩
  | disconnected hd =>
    rw [Connection.hangUp_some hd]
    exact ⟨by simp [Connection.release], .told hlog.close⟩
  | written hc ho => exact h.wrote hc _
  | spared hc ho hf => exact h.wrote hc _
  | @dropped bytes t f s hc ho hf =>
    obtain ⟨_, ht⟩ := Connection.claim_ok hc
    have hover := Connection.writeFailure_isOver hf
    rw [ht] at hlog
    refine ⟨?_, ?_⟩
    · cases s with
      | connected => cases hover
      | _ => simp [Connection.release]
    · rw [ht]
      exact .told (.closed (.wrote hlog))

theorem run_sound (calls : List (Call × Outside)) : Sound (run calls) :=
  run_induction Sound.move calls sound_start

/-- Each transport has one owner: while the connection is up it holds one, and what it has let
go it has closed. -/
structure Owned (b : Bench) : Prop where
  /-- A transport is held exactly while the connection is up. -/
  holds_iff : b.connection.transport.isSome ↔ b.connection.state = .connected
  /-- A transport that was opened has been closed once if it is not held any more, and else has
  not been closed. -/
  closings : ∀ t, .opened t ∈ b.log →
    b.log.count (.closed t) = if b.connection.transport = some t then 0 else 1
  /-- Only a transport that is open is closed. -/
  closed_open : ∀ newer older t, b.log = newer ++ .closed t :: older → Open older t
  /-- Only a transport that is open is written to. -/
  wrote_open : ∀ newer older t bytes, b.log = newer ++ .wrote t bytes :: older → Open older t
  /-- At no time are two transports open. -/
  open_unique : ∀ newer older t u, b.log = newer ++ older → Open older t → Open older u → t = u

theorem Sound.owned {b : Bench} (h : Sound b) : Owned b where
  holds_iff := h.holds_iff
  closings t ht := by
    rw [h.orderly.count_closed]
    have hn : t < b.opened := (h.orderly.opened_mem_iff t).1 ht
    by_cases hl : b.connection.transport = some t
    · simp [hl]
    · simp [hl, hn]
  closed_open newer older t hb := by
    have ho := h.orderly
    rw [hb] at ho
    exact ho.closed_open
  wrote_open newer older t bytes hb := by
    have ho := h.orderly
    rw [hb] at ho
    exact ho.wrote_open
  open_unique newer older t u hb ht hu := by
    have ho := h.orderly
    rw [hb] at ho
    exact ho.open_unique ht hu

/-- The kind of error with which a connection in a state refuses a call. -/
def refusal? : ConnectionState → Call → Option ErrorKind
  | .connecting, .connect _ => some .alreadyConnecting
  | .connected, .connect _ => some .alreadyConnected
  | .connecting, .disconnect => some .disconnectError
  | .connected, .write _ => none
  | _, .write _ => some .notConnected
  | _, _ => none

def refusals : List ErrorKind :=
  [.alreadyConnected, .alreadyConnecting, .notConnected, .disconnectError]

theorem refused_of_refusal {c : Connection Nat} {call : Call} {kind : ErrorKind}
    (h : refusal? c.state call = some kind) : ∃ e, Refused c call e ∧ e.kind = kind := by
  cases call with
  | connect address =>
    cases hd : c.dial address with
    | error e =>
      rcases Connection.dial_error hd with ⟨hs, hk⟩ | ⟨hs, hk⟩
      · rw [hs] at h
        exact ⟨e, .connect hd, hk.trans (Option.some.inj h)⟩
      · rw [hs] at h
        exact ⟨e, .connect hd, hk.trans (Option.some.inj h)⟩
    | ok d =>
      have hs := (Connection.dial_ok hd).1
      cases hc : c.state <;> rw [hc] at h hs <;> simp [refusal?, ConnectionState.isOver] at h hs
  | disconnect =>
    cases hh : c.hangUp with
    | error e =>
      obtain ⟨hs, hk⟩ := Connection.hangUp_error hh
      rw [hs] at h
      exact ⟨e, .disconnect hh, hk.trans (Option.some.inj h)⟩
    | ok released =>
      have hs := Connection.hangUp_ok hh
      cases hc : c.state <;> rw [hc] at h <;> simp_all [refusal?]
  | write bytes =>
    cases hh : c.claim with
    | error e =>
      refine ⟨e, .write hh, ?_⟩
      rw [(Connection.claim_error hh).2, PrintError.of_kind]
      cases hc : c.state <;> rw [hc] at h <;> simp_all [refusal?]
    | ok t =>
      rw [(Connection.claim_ok hh).1] at h
      cases h

theorem step_refused {b : Bench} {c : Call} {o : Outside} {e : PrintError}
    (h : Refused b.connection c e) : b.step c o = (.error (.print e), b) := by
  cases h with
  | @connect address _ h =>
    rw [show b.step (.connect address) o = ((line o).connect address).run b from rfl,
      connect_run, h]
  | disconnect h =>
    rw [show b.step .disconnect o = (line o).disconnect.run b from rfl, disconnect_run, h]
  | @write bytes _ h =>
    rw [show b.step (.write bytes) o = ((line o).write bytes).run b from rfl, write_run, h]

theorem opening_refusal {f : Fault} {e : PrintError}
    (h : (OpeningFailure.of f).fault = .print e) (he : e.kind ∈ refusals) : f = .print e := by
  rcases OpeningFailure.of_fault f with hf | ⟨reason, hf⟩
  · exact hf.symm.trans h
  · rw [hf] at h
    cases h
    exact absurd he (by simp [refusals, PrintError.unreachable])

theorem writing_refusal {b : Bench} {f : Fault} {e : PrintError}
    (h : (b.failureOf f).fault = .print e) (he : e.kind ∈ refusals) : f = .print e := by
  rcases Connection.writeFailure_fault b.connection b.connection.generation f with
    hf | ⟨e', hf, hk⟩
  · exact hf.symm.trans h
  · have hee : e' = e := Fault.print.inj (hf.symm.trans h)
    subst hee
    rcases hk with hk | hk
    · rw [hk] at he
      exact absurd he (by decide)
    · rw [hk] at he
      exact absurd he (by decide)

/-- An error of a refusal comes from a call that was refused, unless it was itself the fault of
the outside. -/
theorem step_refusals {b : Bench} {c : Call} {o : Outside} {e : PrintError}
    (h : (b.step c o).1 = .error (.print e)) (he : e.kind ∈ refusals) :
    (b.step c o).2 = b ∨ o.opening = some (.print e) ∨ o.writing = some (.print e) := by
  have hm := move_step b c o
  generalize b.step c o = p at h hm
  obtain ⟨r, b'⟩ := p
  dsimp only at h hm ⊢
  subst h
  generalize hr : (Except.error (Fault.print e) : Except Fault Unit) = r at hm
  cases hm with
  | refused hc => exact .inl rfl
  | resting hd => cases hr
  | connected hd ho => cases hr
  | disconnected hd => cases hr
  | written hc ho => cases hr
  | unreached hd ho =>
    rw [ho, opening_refusal (Except.error.inj hr).symm he]
    exact .inr (.inl rfl)
  | spared hc ho hf =>
    rw [ho, writing_refusal (Except.error.inj hr).symm he]
    exact .inr (.inr rfl)
  | dropped hc ho hf =>
    rw [ho, writing_refusal (Except.error.inj hr).symm he]
    exact .inr (.inr rfl)

/-- Behind every sequence of calls each transport has one owner.  A call that a connection
refuses in its state, whatever that is, changes nothing, and no other call ends with the error
of a refusal unless a factory or a transport itself has failed with it. -/
theorem transports_owned (calls : List (Call × Outside)) (b : Bench) (c : Call) (o : Outside) :
    Owned (run calls) ∧
    (∀ kind, refusal? b.connection.state c = some kind →
      ∃ e : PrintError, e.kind = kind ∧ b.step c o = (.error (.print e), b)) ∧
    (∀ e : PrintError, (b.step c o).1 = .error (.print e) → e.kind ∈ refusals →
      (b.step c o).2 = b ∨ o.opening = some (.print e) ∨ o.writing = some (.print e)) := by
  refine ⟨(run_sound calls).owned, fun kind h => ?_, fun e h he => step_refusals h he⟩
  obtain ⟨e, hr, hk⟩ := refused_of_refusal h
  exact ⟨e, hk, step_refused hr⟩

end Bench
end ThermalPrint
