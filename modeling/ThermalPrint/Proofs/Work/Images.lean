import ThermalPrint.Proofs.Image.Loading
import ThermalPrint.Proofs.Outcome
import ThermalPrint.Proofs.Work.House

/-
The images of a request.  Where images are optional the request goes on without those that cannot
be had, so that no reference stops it that fails in the way that references are to fail.
-/

namespace ThermalPrint
namespace Office

variable {σ τ : Type}

def withWeb (office : Office (StateM σ) τ) (fetch : Fetch (StateM σ)) (limit : Int)
    (seconds : Float) : Office (StateM σ) τ :=
  { office with load := Picture.load fetch limit seconds }

def loads (office : Office (StateM σ) τ) (references : List (Text × Text)) (s : σ) :
    List (Except Fault Picture) × σ :=
  (references.mapM fun r => office.load r.2).run s

def imagesOf (references : List (Text × Text)) (results : List (Except Fault Picture)) :
    List (Text × Option Bitmap) :=
  List.zipWith (fun r result => (r.1, result.toOption.map .picture)) references results

section Loads

variable (office : Office (StateM σ) τ)

theorem loads_cons (r : Text × Text) (rest : List (Text × Text)) (s : σ) :
    office.loads (r :: rest) s =
      (((office.load r.2).run s).1 :: (office.loads rest ((office.load r.2).run s).2).1,
        (office.loads rest ((office.load r.2).run s).2).2) := by
  unfold loads
  rw [List.mapM_cons]
  rfl

theorem loads_length (references : List (Text × Text)) (s : σ) :
    (office.loads references s).1.length = references.length := by
  induction references generalizing s with
  | nil => rfl
  | cons r rest ih => rw [loads_cons, List.length_cons, ih, List.length_cons]

theorem imagesOf_handles {references : List (Text × Text)}
    {results : List (Except Fault Picture)} (h : results.length = references.length) :
    (imagesOf references results).map (·.1) = references.map (·.1) := by
  induction references generalizing results with
  | nil => rfl
  | cons r rest ih =>
    cases results with
    | nil => cases h
    | cons result more =>
      show r.1 :: (imagesOf rest more).map (·.1) = _
      rw [ih (Nat.succ.inj h), List.map_cons]

theorem leftOut_of_settled {result : Except Fault Picture} (h : Picture.Settled result) :
    loadedOrLeftOut true result = .ok (result.toOption.map .picture) := by
  rcases h with ⟨p, rfl⟩ | ⟨e, rfl, hkind⟩
  · rfl
  · show (if (Fault.print e).isA .imageUnavailable && true then _ else _) = _
    rw [Fault.isA_print, hkind]
    rfl

theorem loadImages_cons (imageOptional : Bool) (handle reference : Text)
    (rest : List (Text × Text)) (s : σ) :
    (office.loadImages imageOptional ((handle, reference) :: rest)).run s =
      match loadedOrLeftOut imageOptional ((office.load reference).run s).1 with
      | .error f => pure (.error f, ((office.load reference).run s).2)
      | .ok bitmap =>
        let more := (office.loadImages imageOptional rest).run ((office.load reference).run s).2
        pure (more.1.map ((handle, bitmap) :: ·), more.2) := by
  rw [loadImages, StateT.run_bind]
  generalize (office.load reference).run s = loaded
  obtain ⟨result, s'⟩ := loaded
  show StateT.run (match loadedOrLeftOut imageOptional result with
    | .error f => _
    | .ok bitmap => _ : StateM σ _) s' = _
  cases loadedOrLeftOut imageOptional result with
  | error f => rfl
  | ok bitmap =>
    dsimp only
    rw [StateT.run_bind]
    generalize (office.loadImages imageOptional rest).run s' = more
    obtain ⟨images, s''⟩ := more
    cases images <;> rfl

/-- As long as nothing stops the loading, all images are loaded, each in its turn. -/
theorem loadImages_through {imageOptional : Bool} {references : List (Text × Text)}
    (h : ∀ r ∈ references, Gives (office.load r.2) fun result =>
      loadedOrLeftOut imageOptional result = .ok (result.toOption.map .picture)) (s : σ) :
    (office.loadImages imageOptional references).run s =
      pure (.ok (imagesOf references (office.loads references s).1),
        (office.loads references s).2) := by
  induction references generalizing s with
  | nil => rfl
  | cons r rest ih =>
    obtain ⟨handle, reference⟩ := r
    have hfirst := h (handle, reference) List.mem_cons_self s
    have hrest := ih (fun r hr => h r (List.mem_cons_of_mem _ hr)) ((office.load reference).run s).2
    rw [loads_cons, loadImages_cons, hfirst]
    dsimp only
    rw [hrest]
    rfl

/-- Images that are optional are all loaded, and nothing stops the loading. -/
theorem loadImages_run {references : List (Text × Text)}
    (h : ∀ r ∈ references, Gives (office.load r.2) Picture.Settled) (s : σ) :
    (office.loadImages true references).run s =
      pure (.ok (imagesOf references (office.loads references s).1),
        (office.loads references s).2) :=
  office.loadImages_through (fun r hr s => leftOut_of_settled (h r hr s)) s

theorem loadImages_error {imageOptional : Bool} {references : List (Text × Text)} {s : σ}
    {f : Fault} (h : ((office.loadImages imageOptional references).run s).1 = .error f) :
    ∃ r ∈ references, ∃ s', ((office.load r.2).run s').1 = .error f := by
  induction references generalizing s with
  | nil => cases h
  | cons r rest ih =>
    obtain ⟨handle, reference⟩ := r
    rw [loadImages_cons] at h
    cases hfirst : loadedOrLeftOut imageOptional ((office.load reference).run s).1 with
    | error fault =>
      rw [hfirst] at h
      cases h
      refine ⟨_, List.mem_cons_self, s, ?_⟩
      unfold loadedOrLeftOut at hfirst
      split at hfirst
      · cases hfirst
      · rename_i hresult
        split at hfirst
        · cases hfirst
        · cases hfirst
          exact hresult
    | ok bitmap =>
      rw [hfirst] at h
      obtain ⟨r, hr, hfault⟩ := ih (Outcome.map_error_iff.1 h)
      exact ⟨r, List.mem_cons_of_mem _ hr, hfault⟩

/-- Images are loaded up to the first one with another fault. -/
theorem loadImages_stopped (imageOptional : Bool) {references : List (Text × Text)}
    {r : Text × Text} (hr : r ∈ references)
    (h : ∀ s, ∃ f, ((office.load r.2).run s).1 = .error f ∧ f.isA .imageUnavailable = false)
    (s : σ) :
    ∃ f, ((office.loadImages imageOptional references).run s).1 = .error f := by
  induction references generalizing s with
  | nil => cases hr
  | cons first rest ih =>
    obtain ⟨handle, reference⟩ := first
    rw [loadImages_cons]
    cases hfirst : loadedOrLeftOut imageOptional ((office.load reference).run s).1 with
    | error f => exact ⟨f, rfl⟩
    | ok bitmap =>
      rcases List.mem_cons.1 hr with rfl | hrest
      · obtain ⟨f, hf, hkind⟩ := h s
        rw [hf, loadedOrLeftOut, hkind] at hfirst
        cases hfirst
      · obtain ⟨f, hf⟩ := ih hrest ((office.load reference).run s).2
        refine ⟨f, ?_⟩
        show Except.map _ _ = _
        rw [hf]
        rfl

end Loads

section Order

variable (office : Office (StateM σ) τ) (s : σ)

def ordered (request : PrintRequest) : Except Fault PrintOrder × σ :=
  (office.order request).run s

/-- A request without its images is nothing that a session gets to see. -/
theorem fulfil_run (session : SessionId) (request : PrintRequest) (held : Reservation) :
    (office.fulfil session request held).run s =
      (match (office.ordered s request).1 with
        | .error f => pure (.error f)
        | .ok order => (office.desk session).submit order (some held) : StateM σ _).run
          (office.ordered s request).2 := rfl

section Ordered

variable {office s}
variable {session : SessionId} {request : PrintRequest} {held : Reservation}

theorem fulfil_ordered {order : PrintOrder} (h : (office.ordered s request).1 = .ok order) :
    (office.fulfil session request held).run s =
      ((office.desk session).submit order (some held)).run (office.ordered s request).2 := by
  rw [fulfil_run, h]

theorem fulfil_stopped {f : Fault} (h : (office.ordered s request).1 = .error f) :
    (office.fulfil session request held).run s =
      pure (.error f, (office.ordered s request).2) := by
  rw [fulfil_run, h]
  rfl

end Ordered

theorem ordered_markup {request : PrintRequest} {markup : Text}
    (h : request.markup = some markup) :
    office.ordered s request =
      let loaded := (office.loadImages request.imageOptional request.images).run s
      (loaded.1.map fun images =>
        { source := .markup markup
          options := { images, imageOptional := request.imageOptional, cut := request.cut } },
        loaded.2) := by
  unfold ordered order
  rw [h]
  dsimp only
  rw [StateT.run_bind]
  generalize (office.loadImages request.imageOptional request.images).run s = loaded
  obtain ⟨images, s'⟩ := loaded
  cases images <;> rfl

theorem ordered_image {request : PrintRequest} {reference : Text}
    (hmarkup : request.markup = none) (himage : request.image = some reference)
    (hfilled : reference ≠ []) :
    office.ordered s request =
      let loaded := (office.load reference).run s
      (loaded.1.map fun picture =>
        { source := .image (.picture picture), options := { cut := request.cut } },
        loaded.2) := by
  have hempty : reference.isEmpty = false := by simpa using hfilled
  unfold ordered order
  rw [hmarkup, himage]
  dsimp only
  rw [Option.getD_some, hempty, if_neg Bool.false_ne_true, StateT.run_bind]
  generalize (office.load reference).run s = loaded
  obtain ⟨picture, s'⟩ := loaded
  cases picture <;> rfl

theorem ordered_empty {request : PrintRequest} (hmarkup : request.markup = none)
    (himage : request.image = some "") :
    office.ordered s request = (.error (.print ReferenceFault.noSource.toPrintError), s) := by
  unfold ordered order
  rw [hmarkup, himage]
  rfl

end Order

/-- Loading what a reference names comes to a picture or to the error of an image that is
unavailable, whatever comes over the web and in whatever pieces, as long as the data are taken or
refused as data that cannot be decoded, and unless the reference is a data address that ends before
its data.  Then a request whose images are optional is submitted with the pictures under their
handles and without those that could not be had.  A data address that ends before its data has a
fault of its own, which stops the request. -/
theorem references_load (fetch : Fetch (StateM σ)) (limit : Int) (seconds : Float) :
    (∀ reference, Picture.Readable fetch limit seconds reference → ¬ Picture.CutShort reference →
      Gives (Picture.load fetch limit seconds reference) fun result =>
        (∃ p, result = .ok p) ∨
          ∃ e : PrintError, result = .error (.print e) ∧ e.kind = .imageUnavailable) ∧
    (∀ reference, Picture.CutShort reference →
      Picture.load fetch limit seconds reference =
        pure (.error (.value .index "list index out of range"))) ∧
    (∀ (office : Office (StateM σ) τ) (session : SessionId) (request : PrintRequest)
      (held : Reservation) (markup : Text) (s : σ), request.markup = some markup →
      request.imageOptional = true →
      let office := office.withWeb fetch limit seconds
      ((∀ r ∈ request.images,
          Picture.Readable fetch limit seconds r.2 ∧ ¬ Picture.CutShort r.2) →
        let (results, loaded) := office.loads request.images s
        let images := imagesOf request.images results
        images.map (·.1) = request.images.map (·.1) ∧
          (office.loadImages true request.images).run s = pure (.ok images, loaded) ∧
          (office.fulfil session request held).run s =
            ((office.desk session).submit
              { source := .markup markup
                options := { images, imageOptional := true, cut := request.cut } }
              (some held)).run loaded) ∧
      ((∃ r ∈ request.images, Picture.CutShort r.2) →
        ∃ f, ((office.fulfil session request held).run s).1 = .error f)) := by
  refine ⟨fun reference => Picture.load_settled, fun reference => Picture.load_cutShort, ?_⟩
  intro bare session request held markup s hmarkup hoptional office
  have horder := office.ordered_markup s hmarkup
  rw [hoptional] at horder
  refine ⟨fun h => ?_, fun ⟨r, hr, hcut⟩ => ?_⟩
  · have hsettled : ∀ r ∈ request.images, Gives (office.load r.2) Picture.Settled :=
      fun r hr => Picture.load_settled (h r hr).1 (h r hr).2
    have himages := office.loadImages_run hsettled s
    rw [himages] at horder
    refine ⟨imagesOf_handles (office.loads_length request.images s), himages, ?_⟩
    rw [fulfil_run, horder]
    rfl
  · have hstops : ∀ s, ∃ f, ((office.load r.2).run s).1 = .error f ∧
        f.isA .imageUnavailable = false := by
      intro s
      refine ⟨.value .index "list index out of range", ?_, rfl⟩
      show ((Picture.load fetch limit seconds r.2).run s).1 = _
      rw [Picture.load_cutShort hcut]
      rfl
    obtain ⟨f, hf⟩ := office.loadImages_stopped true hr hstops s
    refine ⟨f, ?_⟩
    rw [fulfil_run, horder]
    dsimp only
    rw [hf]
    rfl

def nowhere : Fetch (StateM (House Nat)) := fun _ _ => pure (.error "no such host".toText)

theorem references_load_mixed :
    let office := (House.office House.alone).withWeb nowhere Picture.maxBytes 1
    let images : List (Text × Text) :=
      [("logo", "UDEgMSAxIDEK"), ("far", "http://far/logo.png"), ("odd", "!")]
    ∃ loaded : List (Text × Option Bitmap), ∃ after,
      (office.loadImages true images).run House.new = pure (.ok loaded, after) ∧
      loaded.map (·.1) = ["logo".toText, "far".toText, "odd".toText] ∧
      loaded.map (·.2.isSome) = [true, false, false] := by
  intro office images
  let request : PrintRequest := { markup := some "hi", images, imageOptional := true }
  have hread : ∀ r ∈ images,
      Picture.Readable nowhere Picture.maxBytes 1 r.2 ∧ ¬ Picture.CutShort r.2 := by
    intro r hr
    simp only [images, List.mem_cons, List.not_mem_nil, or_false] at hr
    rcases hr with rfl | rfl | rfl
    · exact ⟨Picture.readable_of_isOk rfl (by decide +kernel), by decide⟩
    · refine ⟨fun data f hnames => ?_, by decide⟩
      cases hnames with
      | web _ hanswer => cases hanswer
      | base64 hweb => cases hweb
    · refine ⟨fun data f hnames => ?_, by decide⟩
      cases hnames with
      | web hweb => cases hweb
      | base64 _ hbody hbytes =>
        cases hbody
        cases hbytes
  obtain ⟨hhandles, hload, -⟩ := ((references_load nowhere Picture.maxBytes 1).2.2
    (House.office House.alone) 0 request ⟨0, 0, 0⟩ "hi" House.new rfl rfl).1 hread
  exact ⟨_, _, hload, hhandles, by decide +kernel⟩

/-- A data address without a comma is no image that is unavailable. -/
theorem dataAddress_cutShort :
    Picture.load nowhere Picture.maxBytes 1 "data:image/png;base64" =
      pure (.error (.value .index "list index out of range")) :=
  Picture.load_cutShort (by decide)

end Office
end ThermalPrint
