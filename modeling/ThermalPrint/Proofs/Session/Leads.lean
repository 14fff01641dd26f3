import ThermalPrint.Proofs.Session.Scene

/-
What the operations of a desk keep.  A desk keeps a property of the world that it stands in if
every single thing that it does keeps it, and then whatever is made of these keeps it as well.
-/

namespace ThermalPrint

variable {σ τ α β : Type}

/-- What is done leads from states with the one property to states with the other. -/
def Leads (P : σ → Prop) (x : StateM σ α) (Q : σ → Prop) : Prop := ∀ s, P s → Q (x.run s).2

/-- A desk keeps a property of the world, as long as the slot of its session is left alone. -/
structure Desk.Keeps (desk : Desk (StateM σ) τ) (P : σ → Prop) : Prop where
  get : Leads P desk.get P
  modify : ∀ f : Session τ → Session τ, (∀ x, (f x).slot = x.slot) → Leads P (desk.modify f) P
  cancelled : ∀ token, Leads P (desk.cancelled token) P
  cancel : ∀ token f, Leads P (desk.cancel token f) P
  send : ∀ t bytes, Leads P (desk.send t bytes) P
  close : ∀ t, Leads P (desk.close t) P
  announce : ∀ message, Leads P (desk.announce message) P

section Leads

variable {P Q R : σ → Prop}

theorem leads_pure (a : α) : Leads P (pure a : StateM σ α) P := fun _ h => h

theorem leads_bind {x : StateM σ α} {f : α → StateM σ β} (hx : Leads P x Q)
    (hf : ∀ a, Leads Q (f a) R) : Leads P (x >>= f) R := fun s h => hf _ _ (hx s h)

end Leads

/-- Whatever the state, what is done gives a result with a property. -/
def Gives (x : StateM σ α) (P : α → Prop) : Prop := ∀ s, P (x.run s).1

theorem gives_pure {P : α → Prop} {a : α} (h : P a) : Gives (pure a : StateM σ α) P := fun _ => h

theorem gives_bind {P : β → Prop} (x : StateM σ α) {f : α → StateM σ β}
    (h : ∀ a, Gives (f a) P) : Gives (x >>= f) P := fun _ => h _ _

namespace Desk.Keeps

variable {desk : Desk (StateM σ) τ} {P Q : σ → Prop} (h : desk.Keeps P)

include h

theorem publish (message : Text) (error : Option PrintError) :
    Leads P (desk.publish message error) P :=
  leads_bind (h.modify _ fun _ => rfl) fun _ => h.announce message

theorem report (words : Text) (result : Except Fault α) :
    Leads P (desk.report words result) P := by
  unfold Desk.report
  split
  · exact h.publish _ _
  · exact leads_pure ()

theorem tell (state : ConnectionState) : Leads P (desk.line.tell state) P := by
  refine leads_bind h.get fun x => ?_
  split
  · exact h.cancel _ _
  · exact leads_pure ()

theorem lineGet : Leads P desk.line.get P := leads_bind h.get fun _ => leads_pure _

theorem lineSet (x : Connection τ) : Leads P (desk.line.set x) P := h.modify _ fun _ => rfl

theorem closeOf (x : Connection τ) : Leads P (desk.line.closeOf x) P := by
  unfold Line.closeOf
  split
  · exact leads_bind (h.close _) fun _ => leads_pure ()
  · exact leads_pure ()

theorem write (bytes : List UInt8) : Leads P (desk.line.write bytes) P := by
  refine leads_bind h.lineGet fun x => ?_
  split
  · exact leads_pure _
  · refine leads_bind (h.send _ bytes) fun failure? => ?_
    split
    · exact leads_pure _
    · refine leads_bind h.lineGet fun now => ?_
      dsimp only
      split
      · exact leads_pure _
      · refine leads_bind (h.lineSet _) fun _ => leads_bind (h.closeOf now) fun _ => ?_
        exact leads_bind (h.tell _) fun _ => leads_pure _

theorem perform (r : Reservation) (order : PrintOrder) : Leads P (desk.perform r order) P := by
  refine leads_bind (leads_bind h.get fun _ => leads_pure _) fun bytes? => ?_
  split
  · exact leads_pure _
  · refine leads_bind (h.cancelled r.token) fun fault? => ?_
    split
    · exact leads_pure _
    · refine leads_bind (h.write _) fun written? => ?_
      split
      · exact leads_pure _
      · split
        · exact leads_bind (h.cancelled r.token) fun _ => leads_pure _
        · exact leads_pure _

/-- An order is printed by steps that the slot does not see, with the release among them, and
nothing but a message comes behind that. -/
theorem submitReserved {r : Reservation} (hrelease : Leads P (desk.release r) Q)
    (hpublish : ∀ message, Leads Q (desk.publish message) Q) (order : PrintOrder) :
    Leads P (desk.submit order (some r)) Q := by
  show Leads P (do
    let result ← desk.perform r order
    desk.report "Print Failed" result
    desk.release r
    if result.isOk then desk.publish order.success
    return result) Q
  refine leads_bind (h.perform r order) fun result => ?_
  refine leads_bind (h.report _ result) fun _ => leads_bind hrelease fun _ => ?_
  split
  · exact leads_bind (hpublish _) fun _ => leads_pure _
  · exact leads_bind (leads_pure ()) fun _ => leads_pure _

section Connection

variable (hopen : ∀ address, Leads P (desk.openAt address) P)

include hopen

theorem connect (address : Text) : Leads P (desk.connect address) P := by
  have hline : Leads P (desk.line.connect address) P := by
    refine leads_bind h.lineGet fun x => ?_
    split
    · exact leads_pure _
    · refine leads_bind (h.lineSet _) fun _ => leads_bind (h.tell _) fun _ => ?_
      refine leads_bind (hopen address) fun opened? => ?_
      split
      · refine leads_bind h.lineGet fun _ => leads_bind (h.lineSet _) fun _ => ?_
        exact leads_bind (h.tell _) fun _ => leads_pure _
      · refine leads_bind h.lineGet fun _ => leads_bind (h.lineSet _) fun _ => ?_
        exact leads_bind (h.tell _) fun _ => leads_pure _
  refine leads_bind hline fun result => leads_bind (h.report _ result) fun _ => ?_
  split
  · exact leads_bind (h.publish _ _) fun _ => leads_pure _
  · exact leads_bind (leads_pure ()) fun _ => leads_pure _

end Connection

theorem disconnect : Leads P desk.disconnect P := by
  have hline : Leads P desk.line.disconnect P := by
    refine leads_bind h.lineGet fun x => ?_
    split
    · exact leads_pure _
    · exact leads_pure _
    · refine leads_bind (h.lineSet _) fun _ => leads_bind (h.closeOf x) fun _ => ?_
      exact leads_bind (h.tell _) fun _ => leads_pure _
  refine leads_bind hline fun result => leads_bind (h.report _ result) fun _ => ?_
  split
  · exact leads_bind (h.publish _ _) fun _ => leads_pure _
  · exact leads_bind (leads_pure ()) fun _ => leads_pure _

end Desk.Keeps
end ThermalPrint
