import ThermalPrint.Proofs.Json.Least
import ThermalPrint.Proofs.Work.Crew
import ThermalPrint.Proofs.Work.Steps

/-
How records are forgotten.  A record is under an id of its own, which it shows, and it shows the
moment of its making; what is said of a job touches neither.  So the oldest of too many records is
found, and it is found under its id, and the records go one by one until there are few enough.

If no number of records is few enough, all of them go, and then there is no oldest one.
-/

namespace ThermalPrint

namespace JobRecord

theorem lookup_new {id : JobId} {type : Json} {now : Text} {known : List (Text × Json)}
    {name : Text} (h : ∀ c ∈ known, c.1 ≠ name) :
    (new id type now known).lookup name =
      ([("id", .str id), ("type", type), ("status", .str JobStatus.queued.word),
        ("created_at", .str now), ("updated_at", .str now)] : List (Text × Json)).lookup name :=
  lookup_update h

/-- What is said of a job, or known of it, leaves its id and the moment of its making alone. -/
def Sparing (changes : List (Text × Json)) : Prop :=
  ∀ c ∈ changes, c.1 ≠ "id" ∧ c.1 ≠ "created_at"

section Sparing

variable {changes : List (Text × Json)} (h : Sparing changes)

include h

theorem new_shownId (id : JobId) (type : Json) (now : Text) :
    (new id type now changes).shownId = .str id := by
  unfold shownId
  rw [lookup_new fun c hc => (h c hc).1]
  rfl

theorem new_created (id : JobId) (type : Json) (now : Text) :
    (new id type now changes).created = .str now := by
  unfold created
  rw [lookup_new fun c hc => (h c hc).2]
  rfl

theorem revise_shownId (r : JobRecord) (now : Text) :
    (r.revise now changes).shownId = r.shownId := by
  unfold shownId
  rw [lookup_revise _ _ _ (by decide), lookup_update fun c hc => (h c hc).1]

theorem revise_created (r : JobRecord) (now : Text) :
    (r.revise now changes).created = r.created := by
  unfold created
  rw [lookup_revise _ _ _ (by decide), lookup_update fun c hc => (h c hc).2]

end Sparing

theorem sparing_running : Sparing [("status", .str JobStatus.running.word)] := by
  simp [Sparing]

theorem sparing_ended (said : Json) (outcome : JobOutcome) :
    Sparing (("message", said) :: outcome.members) := by
  cases outcome <;> simp [Sparing, JobOutcome.members]

end JobRecord

namespace Registry

theorem filter_split {before after : List (JobId × JobRecord)} {e : JobId × JobRecord}
    (h : ((before ++ e :: after).map (·.1)).Nodup) :
    (before ++ e :: after).filter (·.1 != e.1) = before ++ after := by
  rw [List.map_append, List.map_cons, List.nodup_append, List.nodup_cons] at h
  obtain ⟨-, ⟨hafter, -⟩, hbefore⟩ := h
  have hother : ∀ x ∈ before ++ after, (x.1 != e.1) = true := by
    intro x hx
    rw [bne_iff_ne]
    rcases List.mem_append.1 hx with hx | hx
    · exact hbefore _ (List.mem_map_of_mem hx) _ List.mem_cons_self
    · exact fun hsame => hafter (hsame ▸ List.mem_map_of_mem hx)
  rw [List.filter_append, List.filter_cons_of_neg (by simp), ← List.filter_append,
    List.filter_eq_self.2 hother]

/-- Each record is under an id of its own, shows it, and shows when it was made. -/
structure Labelled (l : List (JobId × JobRecord)) : Prop where
  keys : (l.map (·.1)).Nodup
  shown : ∀ e ∈ l, JobRecord.shownId e.2 = .str e.1
  dated : ∀ e ∈ l, ∃ t, JobRecord.created e.2 = .str t

/-- Records are forgotten one by one, and each time the oldest goes; of those that are equally old
it is the one that came first. -/
inductive Forgets : List (JobId × JobRecord) → List (JobId × JobRecord) → Prop
  | none (l : List (JobId × JobRecord)) : Forgets l l
  | oldest {before after kept : List (JobId × JobRecord)} {e : JobId × JobRecord}
      (holdest : ∀ x ∈ before ++ e :: after,
        (JobRecord.created e.2).NotAfter (JobRecord.created x.2))
      (hfirst : ∀ x ∈ before, ¬ (JobRecord.created x.2).NotAfter (JobRecord.created e.2))
      (hmore : Forgets (before ++ after) kept) : Forgets (before ++ e :: after) kept

theorem Labelled.sublist {l kept : List (JobId × JobRecord)} (h : Labelled l)
    (hsub : kept.Sublist l) : Labelled kept where
  keys := (hsub.map _).nodup h.keys
  shown e he := h.shown e (hsub.subset he)
  dated e he := h.dated e (hsub.subset he)

theorem Labelled.withoutOldest {first : JobId × JobRecord} {rest : List (JobId × JobRecord)}
    (h : Labelled (first :: rest)) :
    ∃ before oldest after, first :: rest = before ++ oldest :: after ∧
      (∀ x ∈ first :: rest, (JobRecord.created oldest.2).NotAfter (JobRecord.created x.2)) ∧
      (∀ x ∈ before, ¬ (JobRecord.created x.2).NotAfter (JobRecord.created oldest.2)) ∧
      Registry.withoutOldest first rest = .ok (before ++ after) ∧
      Labelled (before ++ after) ∧ (before ++ after).length = rest.length := by
  obtain ⟨before, oldest, after, hsplit, hleast, hall, hfirst⟩ := Json.leastBy_first h.dated
  have hshown := h.shown oldest (hsplit ▸ List.mem_append_right _ List.mem_cons_self)
  have hkeys := h.keys
  refine ⟨before, oldest, after, hsplit, hall, hfirst, ?_, ?_, ?_⟩
  · rw [hsplit] at hkeys
    unfold Registry.withoutOldest
    simp only [hleast, Except.mapError, bind, Except.bind, hshown]
    rw [hsplit, filter_split hkeys]
  · refine h.sublist ?_
    rw [hsplit]
    exact (List.sublist_cons_self _ _).append_left _
  · have hlength := congrArg List.length hsplit
    simp only [List.length_cons, List.length_append] at hlength ⊢
    omega

/-- Records are forgotten until there are few enough, and none if there are. -/
theorem Labelled.prune {limit : Int} (hlimit : 0 ≤ limit) :
    ∀ {l : List (JobId × JobRecord)}, Labelled l →
      ∃ kept, Registry.prune limit l = (kept, none) ∧ Forgets l kept ∧
        (kept.length : Int) = min (l.length : Int) limit := by
  intro l h
  induction hn : l.length generalizing l with
  | zero =>
    refine ⟨l, ?_, .none l, by omega⟩
    rw [Registry.prune.eq_def, if_pos (by omega)]
  | succ n ih =>
    by_cases hfew : (l.length : Int) ≤ limit
    · refine ⟨l, ?_, .none l, by omega⟩
      rw [Registry.prune.eq_def, if_pos hfew]
    · cases l with
      | nil => cases hn
      | cons first rest =>
        obtain ⟨before, oldest, after, hsplit, hall, hfirst, hwithout, hmore, hlength⟩ :=
          h.withoutOldest
        obtain ⟨kept, hprune, hforgets, hkept⟩ := ih hmore (by simp at hn; omega)
        refine ⟨kept, ?_, ?_, by simp at hn hfew; omega⟩
        · rw [Registry.prune, if_neg hfew]
          simp only [hwithout]
          rw [dif_pos (by omega), hprune]
        · rw [hsplit] at hall ⊢
          exact .oldest hall hfirst hforgets

/-- If no number of records is few enough, all go, and then an oldest one is missing. -/
theorem Labelled.prune_all {limit : Int} (hlimit : limit < 0) :
    ∀ {l : List (JobId × JobRecord)}, Labelled l →
      Registry.prune limit l = ([], some .nothingLeft) := by
  intro l h
  induction hn : l.length generalizing l with
  | zero =>
    rw [List.length_eq_zero_iff.1 hn, Registry.prune, if_neg (by simp; omega)]
  | succ n ih =>
    cases l with
    | nil => cases hn
    | cons first rest =>
      obtain ⟨before, oldest, after, -, -, -, hwithout, hmore, hlength⟩ := h.withoutOldest
      rw [Registry.prune, if_neg (by omega)]
      simp only [hwithout]
      rw [dif_pos (by omega)]
      exact ih hmore (by simp at hn; omega)

theorem Forgets.sublist {l kept : List (JobId × JobRecord)} (h : Forgets l kept) :
    kept.Sublist l := by
  induction h with
  | none l => exact List.Sublist.refl l
  | oldest _ _ _ ih => exact ih.trans ((List.sublist_cons_self _ _).append_left _)

/-- What came last and is not older than anything else stays, if anything stays, and the others are
forgotten as if it were not there. -/
theorem Forgets.concat {l kept : List (JobId × JobRecord)} {x : JobId × JobRecord}
    (h : Forgets (l ++ [x]) kept)
    (hlater : ∀ e ∈ l, (JobRecord.created e.2).NotAfter (JobRecord.created x.2))
    (hkept : kept ≠ []) : ∃ others, Forgets l others ∧ kept = others ++ [x] := by
  generalize hl : l ++ [x] = whole at h
  induction h generalizing l with
  | none whole => exact ⟨l, .none l, hl.symm⟩
  | @oldest before after kept e holdest hfirst hmore ih =>
    rcases List.eq_nil_or_concat after with rfl | ⟨after, last, rfl⟩
    · obtain ⟨rfl, hx⟩ := List.append_inj' hl rfl
      obtain ⟨rfl, -⟩ := List.cons.inj hx
      -- Were it forgotten, whatever stands before it would be younger.
      cases l with
      | nil => exact absurd (List.sublist_nil.1 hmore.sublist) hkept
      | cons first rest =>
        exact absurd (hlater first List.mem_cons_self) (hfirst first List.mem_cons_self)
    · rw [List.concat_eq_append] at hl holdest ih
      have hsplit : l ++ [x] = (before ++ e :: after) ++ [last] := by
        rw [hl, List.append_assoc]
        rfl
      obtain ⟨rfl, hx⟩ := List.append_inj' hsplit rfl
      obtain ⟨rfl, -⟩ := List.cons.inj hx
      have hrest : (before ++ after).Sublist (before ++ e :: after) :=
        (List.sublist_cons_self e after).append_left before
      obtain ⟨others, hforgets, rfl⟩ := ih (l := before ++ after)
        (fun y hy => hlater y (hrest.subset hy)) hkept (List.append_assoc _ _ _)
      refine ⟨others, .oldest (fun y hy => holdest y ?_) hfirst hforgets, rfl⟩
      rw [← List.cons_append, ← List.append_assoc]
      exact List.mem_append_left _ hy

/-- A registry in which the records of jobs are filed, and no more of them than there may be. -/
structure Filed (g : Registry) : Prop where
  labelled : Labelled g.records
  issued : ∀ e ∈ g.records, g.Issued e.1
  few : (g.records.length : Int) ≤ max g.limit 0

namespace Filed

variable {g : Registry} (h : g.Filed)

include h

theorem fresh {e : JobId × JobRecord} (he : e ∈ g.records) : e.1 ≠ g.nextId :=
  fun hsame => g.nextId_fresh (hsame ▸ h.issued e he)

section Create

variable (type : Json) {known : List (Text × Json)} (hknown : JobRecord.Sparing known)

include hknown

theorem concat : Labelled (g.records ++ [(g.nextId, g.nextRecord type known)]) where
  keys := by
    rw [List.map_append, List.nodup_append]
    refine ⟨h.labelled.keys, List.nodup_singleton _, ?_⟩
    rintro key hkey _ hfresh rfl
    obtain ⟨e, he, rfl⟩ := List.mem_map.1 hkey
    exact h.fresh he (List.mem_singleton.1 hfresh)
  shown e he := by
    rcases List.mem_append.1 he with hold | hnew
    · exact h.labelled.shown e hold
    · rw [List.mem_singleton.1 hnew]
      exact JobRecord.new_shownId hknown _ _ _
  dated e he := by
    rcases List.mem_append.1 he with hold | hnew
    · exact h.labelled.dated e hold
    · rw [List.mem_singleton.1 hnew]
      exact ⟨_, JobRecord.new_created hknown _ _ _⟩

/-- A job is registered under an id of its own, and records go, the oldest first, until there are
few enough. -/
theorem create_ok (hlimit : 0 ≤ g.limit) :
    ∃ kept, Forgets (g.records ++ [(g.nextId, g.nextRecord type known)]) kept ∧
      (kept.length : Int) = min (g.records.length + 1 : Int) g.limit ∧
      g.create type known =
        (.ok g.nextId, { g with records := kept, issued := g.issued + 1 }) := by
  obtain ⟨kept, hprune, hforgets, hlength⟩ := (h.concat type hknown).prune hlimit
  refine ⟨kept, hforgets, by simpa using hlength, ?_⟩
  have hpruned : Registry.prune g.limit (g.records ++ [(idOf (g.issued + 1),
      JobRecord.new (idOf (g.issued + 1)) type (g.clock (g.issued + 1)) known)]) =
        (kept, none) := hprune
  unfold Registry.create
  simp only [hpruned]
  rfl

/-- If no number of records is few enough, a job is refused, and all records are gone. -/
theorem create_refused (hlimit : g.limit < 0) :
    g.create type known = (.error PruneFault.nothingLeft.toFault,
      { g with records := [], issued := g.issued + 1 }) := by
  have hpruned : Registry.prune g.limit (g.records ++ [(idOf (g.issued + 1),
      JobRecord.new (idOf (g.issued + 1)) type (g.clock (g.issued + 1)) known)]) =
        ([], some .nothingLeft) := (h.concat type hknown).prune_all hlimit
  unfold Registry.create
  simp only [hpruned]

theorem create : (g.create type known).2.Filed := by
  have hsub := g.create_records type known
  have hissued : ∀ e ∈ (g.create type known).2.records, (g.create type known).2.Issued e.1 := by
    intro e he
    rcases List.mem_append.1 (hsub.subset he) with hold | hnew
    · obtain ⟨n, hn, hid⟩ := h.issued e hold
      exact ⟨n, Nat.le_succ_of_le hn, hid⟩
    · rw [List.mem_singleton.1 hnew]
      exact ⟨g.issued + 1, Nat.le_refl _, rfl⟩
  refine ⟨(h.concat type hknown).sublist hsub, hissued, ?_⟩
  by_cases hlimit : 0 ≤ g.limit
  · obtain ⟨kept, -, hlength, hcreate⟩ := h.create_ok type hknown hlimit
    rw [hcreate]
    show (kept.length : Int) ≤ max g.limit 0
    omega
  · rw [h.create_refused type hknown (by omega)]
    exact Int.le_max_right _ _

end Create

theorem update (id : Option JobId) {changes : List (Text × Json)}
    (hchanges : JobRecord.Sparing changes) : (g.update id changes).Filed := by
  have hentry : ∀ e' ∈ (g.update id changes).records, ∃ e ∈ g.records, e.1 = e'.1 ∧
      JobRecord.shownId e'.2 = JobRecord.shownId e.2 ∧
      JobRecord.created e'.2 = JobRecord.created e.2 := by
    rintro ⟨key, r'⟩ he'
    obtain ⟨r, hr, ⟨-, rfl⟩ | ⟨-, now, rfl⟩⟩ := mem_update he'
    · exact ⟨_, hr, rfl, rfl, rfl⟩
    · exact ⟨_, hr, rfl, JobRecord.revise_shownId hchanges r now,
        JobRecord.revise_created hchanges r now⟩
  refine ⟨⟨?_, fun e' he' => ?_, fun e' he' => ?_⟩, fun e' he' => ?_, ?_⟩
  · rw [update_keys]
    exact h.labelled.keys
  · obtain ⟨e, he, hkey, hshown, -⟩ := hentry e' he'
    rw [hshown, ← hkey]
    exact h.labelled.shown e he
  · obtain ⟨e, he, -, -, hcreated⟩ := hentry e' he'
    rw [hcreated]
    exact h.labelled.dated e he
  · obtain ⟨e, he, hkey, -⟩ := hentry e' he'
    rw [← hkey]
    exact h.issued e he
  · have hlength : (g.update id changes).records.length = g.records.length :=
      List.length_map _
    rw [hlength]
    exact h.few

end Filed

/-- The clock does not go back, and no record is from a later time than the next one. -/
structure Timely (g : Registry) : Prop where
  steady : ∀ n, Json.NotAfter (.str (g.clock n)) (.str (g.clock (n + 1)))
  dated : ∀ e ∈ g.records, (JobRecord.created e.2).NotAfter (.str (g.clock (g.issued + 1)))

namespace Timely

variable {g : Registry} (h : g.Timely)

include h

theorem notAfter_next (type : Json) {known : List (Text × Json)}
    (hknown : JobRecord.Sparing known) {e : JobId × JobRecord} (he : e ∈ g.records) :
    (JobRecord.created e.2).NotAfter (JobRecord.created (g.nextRecord type known)) := by
  have hmade : (g.nextRecord type known).created = .str (g.clock (g.issued + 1)) :=
    JobRecord.new_created hknown _ _ _
  rw [hmade]
  exact h.dated e he

theorem create (type : Json) {known : List (Text × Json)} (hknown : JobRecord.Sparing known) :
    (g.create type known).2.Timely where
  steady := h.steady
  dated e he := by
    have hsteady : Json.NotAfter (.str (g.clock (g.issued + 1))) (.str (g.clock (g.issued + 2))) :=
      h.steady _
    rcases List.mem_append.1 ((g.create_records type known).subset he) with hold | hnew
    · exact (h.dated e hold).trans hsteady
    · have hmade : (g.nextRecord type known).created = .str (g.clock (g.issued + 1)) :=
        JobRecord.new_created hknown _ _ _
      rw [List.mem_singleton.1 hnew]
      show (JobRecord.created (g.nextRecord type known)).NotAfter _
      rw [hmade]
      exact hsteady

theorem update (id : Option JobId) {changes : List (Text × Json)}
    (hchanges : JobRecord.Sparing changes) : (g.update id changes).Timely where
  steady := h.steady
  dated := by
    rintro ⟨key, r'⟩ he'
    obtain ⟨r, hr, ⟨-, rfl⟩ | ⟨-, now, rfl⟩⟩ := mem_update he'
    · exact h.dated _ hr
    · rw [JobRecord.revise_created hchanges r now]
      exact h.dated _ hr

end Timely

end Registry

theorem Crew.Call.known_sparing (call : Crew.Call) : JobRecord.Sparing call.known := by
  cases call <;> simp [known, JobRecord.Sparing, PrintRequest.describe]

theorem Crew.Call.enqueue_registry (call : Crew.Call) (b : Backlog) :
    (call.enqueue b).2.registry = (call.create b.registry).2 := by
  rw [enqueue_eq]
  cases (call.create b.registry).1 <;> rfl

namespace Floor

variable {f f' : Floor}

/-- What is kept where a job is registered, and where something is said of one, is kept in every
run on a floor. -/
theorem steps_keep {P : Registry → Prop}
    (hcreate : ∀ (call : Crew.Call) {g : Registry}, P g → P (call.create g).2)
    (hupdate : ∀ {g : Registry} (id : Option JobId) {changes : List (Text × Json)},
      JobRecord.Sparing changes → P g → P (g.update id changes))
    (h : P f.registry) (hsteps : Steps f f') : P f'.registry := by
  induction hsteps with
  | refl => exact h
  | tail _ hstep ih =>
    have hcall : ∀ (call : Crew.Call) (b : Backlog), P b.registry →
        P (call.enqueue b).2.registry := by
      intro call b hb
      rw [call.enqueue_registry]
      exact hcreate call hb
    cases hstep with
    | connect session address => exact hcall (.connect session address) _ ih
    | disconnect session => exact hcall (.disconnect session) _ ih
    | print session request held => exact hcall (.print session request held) _ ih
    | take hpop _ => exact ih
    | begin _ _ => exact hupdate _ JobRecord.sparing_running ih
    | finish said outcome _ => exact hupdate _ (JobRecord.sparing_ended said outcome) ih

/-- Whatever is done on a floor, its records stay filed. -/
theorem steps_filed (h : f.registry.Filed) (hsteps : Steps f f') : f'.registry.Filed :=
  steps_keep (fun call _ hg => hg.create (.str call.type) call.known_sparing)
    (fun id _ hchanges hg => hg.update id hchanges) h hsteps

theorem steps_timely (h : f.registry.Timely) (hsteps : Steps f f') : f'.registry.Timely :=
  steps_keep (fun call _ hg => hg.create (.str call.type) call.known_sparing)
    (fun id _ hchanges hg => hg.update id hchanges) h hsteps

theorem steps_limit (hsteps : Steps f f') : f'.registry.limit = f.registry.limit :=
  steps_keep (P := fun g => g.limit = f.registry.limit) (fun _ _ hg => hg) (fun _ _ _ hg => hg) rfl
    hsteps

theorem New.filed (h : f.New) : f.registry.Filed := by
  constructor
  case labelled =>
    rw [h.records]
    exact ⟨List.nodup_nil, nofun, nofun⟩
  case issued =>
    rw [h.records]
    exact nofun
  case few =>
    rw [h.records]
    exact Int.le_max_right _ _

theorem New.timely (h : f.New)
    (hsteady : ∀ n, Json.NotAfter (.str (f.registry.clock n)) (.str (f.registry.clock (n + 1)))) :
    f.registry.Timely := by
  refine ⟨hsteady, ?_⟩
  rw [h.records]
  exact nofun

end Floor
end ThermalPrint
