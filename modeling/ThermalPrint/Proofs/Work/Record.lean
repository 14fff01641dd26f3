import ThermalPrint.Work.Registry

/-
What a record says.  A change puts members into it and leaves the others as they are, so that what
was said last of a member counts.
-/

namespace ThermalPrint

theorem Json.lookup_member (name key : Text) (value : Json) (rest : List (Text × Json)) :
    ((name, value) :: rest).lookup key = if key = name then some value else rest.lookup key := by
  by_cases hkey : key = name
  · rw [if_pos hkey, hkey, List.lookup_cons_self]
  · rw [if_neg hkey, List.lookup_cons, beq_false_of_ne hkey]

theorem Json.lookup_put (name key : Text) (value : Json) (members : List (Text × Json)) :
    (Json.put name value members).lookup key =
      if key = name then some value else members.lookup key := by
  induction members with
  | nil => exact lookup_member name key value []
  | cons m rest ih =>
    obtain ⟨n, v⟩ := m
    unfold put
    by_cases hn : n = name
    · subst hn
      rw [if_pos (beq_self_eq_true n), lookup_member, lookup_member]
      by_cases hkey : key = n
      · rw [if_pos hkey, if_pos hkey]
      · rw [if_neg hkey, if_neg hkey, if_neg hkey]
    · rw [if_neg (by simpa using hn), lookup_member, lookup_member, ih]
      by_cases hkey : key = n
      · rw [if_pos hkey, if_pos hkey, if_neg (fun h => hn (hkey.symm.trans h))]
      · rw [if_neg hkey, if_neg hkey]

namespace JobRecord

/-- The record has a status. -/
def Has (r : JobRecord) (s : JobStatus) : Prop := r.lookup "status".toText = some (.str s.word)

theorem Has.unique {r : JobRecord} {s s' : JobStatus} (h : r.Has s) (h' : r.Has s') : s = s' := by
  have hword : s.word.toText = s'.word.toText := Json.str.inj (Option.some.inj (h.symm.trans h'))
  revert hword
  cases s <;> cases s' <;> decide

theorem update_cons (r : JobRecord) (name : Text) (value : Json)
    (rest : List (Text × Json)) :
    r.update ((name, value) :: rest) = update (Json.put name value r) rest := rfl

theorem lookup_update {r : JobRecord} {changes : List (Text × Json)} {key : Text}
    (h : ∀ c ∈ changes, c.1 ≠ key) : (r.update changes).lookup key = r.lookup key := by
  induction changes generalizing r with
  | nil => rfl
  | cons change rest ih =>
    rw [update_cons, ih fun c hc => h c (List.mem_cons_of_mem _ hc), Json.lookup_put,
      if_neg (h change List.mem_cons_self).symm]

theorem lookup_revise (r : JobRecord) (now : Text) (changes : List (Text × Json))
    {key : Text} (hkey : key ≠ "updated_at") :
    (r.revise now changes).lookup key = (r.update changes).lookup key := by
  unfold revise
  rw [update_cons, update, List.foldl_nil, Json.lookup_put, if_neg hkey]

/-- The record of a new job waits, if what is known of the job does not name the status. -/
theorem new_has {id : JobId} {type : Json} {now : Text} {known : List (Text × Json)}
    (h : ∀ c ∈ known, c.1 ≠ "status") : (new id type now known).Has .queued := by
  unfold new Has
  rw [lookup_update h]
  rfl

theorem running_has (r : JobRecord) (now : Text) :
    (r.revise now [("status", .str JobStatus.running.word)]).Has .running := by
  unfold Has
  rw [lookup_revise _ _ _ (by decide), update_cons, update, List.foldl_nil, Json.lookup_put,
    if_pos rfl]

section Outcome

variable (r : JobRecord) (now : Text) (said : Json) (outcome : JobOutcome)

theorem members_details : ∃ details,
    outcome.members = ("status".toText, .str outcome.status.word) :: details ∧
      ∀ c ∈ details, c.1 ≠ "status".toText ∧ c.1 ≠ "message".toText := by
  cases outcome <;> exact ⟨_, rfl, by simp⟩

/-- A record that has been told how its job ended has the status of the end. -/
theorem ended_has : (r.revise now (("message", said) :: outcome.members)).Has outcome.status := by
  obtain ⟨details, hmembers, hdetails⟩ := members_details outcome
  unfold Has
  rw [lookup_revise _ _ _ (by decide), hmembers, update_cons, update_cons,
    lookup_update fun c hc => (hdetails c hc).1, Json.lookup_put, if_pos rfl]

theorem ended_message :
    (r.revise now (("message", said) :: outcome.members)).lookup "message".toText = some said := by
  obtain ⟨details, hmembers, hdetails⟩ := members_details outcome
  rw [lookup_revise _ _ _ (by decide), hmembers, update_cons, update_cons,
    lookup_update fun c hc => (hdetails c hc).2, Json.lookup_put, if_neg (by decide),
    Json.lookup_put, if_pos rfl]

theorem ended_kind (message kind : Text) :
    (r.revise now (("message", said) :: (JobOutcome.failed message kind).members)).lookup
      "error_kind".toText = some (.str kind) := by
  rw [lookup_revise _ _ _ (by decide)]
  show (r.update [("message", said), ("status", _), ("error", .str message),
    ("error_kind", .str kind)]).lookup "error_kind".toText = _
  rw [update_cons, update_cons, update_cons, update_cons, update, List.foldl_nil,
    Json.lookup_put, if_pos rfl]

end Outcome

end JobRecord

namespace Registry

theorem get?_update (g : Registry) (id : Option JobId) (changes : List (Text × Json))
    (key : JobId) : ∃ now, (g.update id changes).get? key =
      (g.get? key).map fun r => if some key = id then r.revise now changes else r := by
  refine ⟨g.clock g.issued, ?_⟩
  unfold get? update
  dsimp only
  induction g.records with
  | nil => rfl
  | cons entry rest ih =>
    obtain ⟨name, r⟩ := entry
    rw [List.map_cons]
    dsimp only
    by_cases hkey : key = name
    · subst hkey
      by_cases hid : some key = id
      · rw [if_pos hid, List.lookup_cons_self, List.lookup_cons_self, Option.map_some, if_pos hid]
      · rw [if_neg hid, List.lookup_cons_self, List.lookup_cons_self, Option.map_some, if_neg hid]
    · have hfront : (key == name) = false := beq_false_of_ne hkey
      by_cases hid : some name = id
      · rw [if_pos hid, List.lookup_cons, List.lookup_cons, hfront]
        exact ih
      · rw [if_neg hid, List.lookup_cons, List.lookup_cons, hfront]
        exact ih

end Registry
end ThermalPrint
