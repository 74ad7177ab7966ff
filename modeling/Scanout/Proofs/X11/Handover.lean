import Mathlib.Data.Prod.Lex
import Scanout.Proofs.Dmabuf.Planes
import Scanout.Proofs.X11.Pacing

/-!
# How a server is handed a buffer

The fields of the requests that make a pixmap of a dmabuf are narrower than the numbers of the
dmabuf: the size has 16 bits, and without layouts so does the stride, and the whole buffer is
counted in 32. A `Handover` is a request in which every number is as it is in the dmabuf, and there
is one for every dmabuf that is `Importable` (`Importable.handover`). A server gets it if nothing is
in its way, neither the files nor the identifiers nor the connection (`HandsOver`); otherwise it
hears nothing of the dmabuf (`importImage_ends`).

`import_exact` adds what a builder sees to: a buffer with too many planes for a server that knows
layouts cannot be built.
-/

namespace Scanout

/-- Every number of the table fits into a byte. -/
theorem Fourcc.layout?_bytes {f : Fourcc} {layout : Fourcc.PixelLayout}
    (h : f.layout? = some layout) :
    layout.depth < UInt8.size ∧ layout.bitsPerPixel < UInt8.size := by
  have hall : ∀ entry ∈ Fourcc.layouts,
      entry.2.depth < UInt8.size ∧ entry.2.bitsPerPixel < UInt8.size := by decide +kernel
  obtain ⟨before, after, htable, -⟩ := List.lookup_eq_some_iff.mp h
  exact hall (f.code, layout) (htable ▸ List.mem_append_right _ List.mem_cons_self)

namespace X11

/-! ## Versions and narrow numbers -/

/-- The numbers of a version, compared by the first and then by the second. -/
def Version.numbers (v : Version) : ℕ ×ₗ ℕ :=
  toLex (v.major.toNat, v.minor.toNat)

theorem Version.atLeast_iff (v least : Version) :
    v.atLeast least = true ↔ least.numbers ≤ v.numbers := by
  simp only [atLeast, numbers, Prod.Lex.toLex_le_toLex, Bool.or_eq_true, Bool.and_eq_true,
    decide_eq_true_eq, beq_iff_eq, UInt32.lt_iff_toNat_lt, UInt32.le_iff_toNat_le,
    ← UInt32.toNat_inj]
  exact or_congr_right (and_congr_left' eq_comm)

/-- A number is narrowed only if it stays what it is. -/
theorem narrow?_eq_some {n : UInt32} {m : UInt16} : narrow? n = some m ↔ m.toNat = n.toNat := by
  have hm := m.toNat_lt
  unfold narrow?
  split
  · next hfits =>
    have hcut : n.toUInt16.toNat = n.toNat := by
      rw [UInt32.toNat_toUInt16]
      exact Nat.mod_eq_of_lt hfits
    rw [Option.some.injEq, ← UInt16.toNat_inj, hcut, eq_comm]
  · next hwide =>
    refine ⟨fun h => absurd h (by simp), fun h => absurd ?_ hwide⟩
    exact h ▸ hm

theorem narrow?_eq_none {n : UInt32} : narrow? n = none ↔ UInt16.size ≤ n.toNat := by
  simp [narrow?]

/-! ## What is sent -/

/-- A request to the extension that makes pixmaps of dmabufs. -/
def Request.isDri3 : Request → Bool
  | queryVersion extension => extension == .dri3
  | dri3Open _ | getSupportedModifiers .. | pixmapFromBuffers .. | pixmapFromBuffer .. => true
  | _ => false

/-- A request that hands a dmabuf over as a pixmap, every number as it is. -/
inductive Handover (dri3 : Version) (screen : Nat) (pixmap : ResourceId) (d : Dmabuf) :
    Request → Prop where
  /-- The server is told the layout. The places without a plane are zero. -/
  | layout {width height : UInt16} {depth bitsPerPixel : Nat}
      (modern : toLex (1, 2) ≤ dri3.numbers)
      (planes : d.planes.length ≤ Dmabuf.maxPlanes)
      (width_eq : width.toNat = d.width.toNat)
      (height_eq : height.toNat = d.height.toNat)
      (depth_eq : d.fourcc.depth? = some depth)
      (bitsPerPixel_eq : d.fourcc.bitsPerPixel? = some bitsPerPixel)
      (bytes : depth < UInt8.size ∧ bitsPerPixel < UInt8.size) :
      Handover dri3 screen pixmap d (.pixmapFromBuffers pixmap screen d.files width height
        (d.strides ++ List.replicate (Dmabuf.maxPlanes - d.planes.length) 0)
        (d.offsets ++ List.replicate (Dmabuf.maxPlanes - d.planes.length) 0)
        depth bitsPerPixel d.modifier)
  /-- There is one plane, and its layout need not be told. -/
  | rows {plane : Plane} {size : UInt32} {width height stride : UInt16} {depth bitsPerPixel : Nat}
      (legacy : dri3.numbers < toLex (1, 2))
      (single : d.planes = [plane])
      (untold : d.modifier = .invalid ∨ d.modifier = .linear)
      (width_eq : width.toNat = d.width.toNat)
      (height_eq : height.toNat = d.height.toNat)
      (stride_eq : stride.toNat = plane.stride.toNat)
      (size_eq : size.toNat = d.height.toNat * plane.stride.toNat)
      (depth_eq : d.fourcc.depth? = some depth)
      (bitsPerPixel_eq : d.fourcc.bitsPerPixel? = some bitsPerPixel)
      (bytes : depth < UInt8.size ∧ bitsPerPixel < UInt8.size) :
      Handover dri3 screen pixmap d (.pixmapFromBuffer pixmap screen plane.file size width height
        stride depth bitsPerPixel)

/-- A dmabuf that a server of a version can be handed. Its size in bytes is no matter: where height
and stride can be told, so can their product. -/
structure Importable (dri3 : Version) (d : Dmabuf) : Prop where
  known : d.fourcc.layout?.isSome
  width : d.width.toNat < UInt16.size
  height : d.height.toNat < UInt16.size
  modern : toLex (1, 2) ≤ dri3.numbers → d.planes.length ≤ Dmabuf.maxPlanes
  legacy : dri3.numbers < toLex (1, 2) → ∃ plane, d.planes = [plane] ∧
    (d.modifier = .invalid ∨ d.modifier = .linear) ∧ plane.stride.toNat < UInt16.size

/-- A dmabuf is handed over if that can be done, its files can be duplicated, there is an identifier
for the pixmap, and the connection takes the request. -/
structure HandsOver (s : Session) (d : Dmabuf) : Prop where
  importable : Importable s.dri3 d
  files : ∀ place < d.planes.length, s.connection.duplicate place = .ok ()
  written : ∃ pixmap request, s.ids.fresh.1 = some pixmap ∧
    Handover s.dri3 s.screen pixmap d request ∧ s.connection.write request = .ok ()

/-- How an import ends: with what result, what was sent, and which identifiers are left. -/
inductive ImportEnds (verdict : Request → Except Refusal Unit) (s : Session) (image : Image) :
    Except AttachError Image → List Request → Session → Prop where
  /-- The server hears nothing of the dmabuf; at most it is asked for a way to get identifiers. -/
  | refused {e : AttachError} {sent : List Request} (ids : ResourceIds)
      (unfit : ¬ HandsOver s image.dmabuf)
      (crowded : ∀ planes limit, e = .tooManyPlanes planes limit →
        toLex (1, 2) ≤ s.dri3.numbers → Dmabuf.maxPlanes < image.dmabuf.planes.length)
      (unduplicated : ∀ cause, e = .descriptor cause → sent = [] ∧
        ∃ place < image.dmabuf.planes.length, s.connection.duplicate place = .error cause)
      (unheard : ∀ request ∈ sent, request = .queryExtension "XC-MISC") :
      ImportEnds verdict s image (.error e) sent { s with ids := ids }
  /-- The server is handed the dmabuf and will not have it, or is not heard of any more. -/
  | declined {request : Request} {pixmap : ResourceId} {refusal : Refusal} (ids : ResourceIds)
      (fit : HandsOver s image.dmabuf) (identifier : s.ids.fresh.1 = some pixmap)
      (handover : Handover s.dri3 s.screen pixmap image.dmabuf request)
      (answer : verdict request = .error refusal) :
      ImportEnds verdict s image (.error (.protocol refusal.cause)) [request] { s with ids := ids }
  | taken {request : Request} {pixmap : ResourceId} (ids : ResourceIds)
      (fit : HandsOver s image.dmabuf) (identifier : s.ids.fresh.1 = some pixmap)
      (handover : Handover s.dri3 s.screen pixmap image.dmabuf request)
      (answer : verdict request = .ok ()) :
      ImportEnds verdict s image (.ok { image with backendData := ⟨some (.pixmap pixmap)⟩ })
        [request] { s with ids := ids }

/-! ## What is settled beforehand -/

theorem ImportPath.select_cases (dri3 : Version) (planes : Nat) :
    (toLex (1, 2) ≤ dri3.numbers ∧
      (planes ≤ Dmabuf.maxPlanes ∧ select dri3 planes = .ok .multiPlane ∨
        Dmabuf.maxPlanes < planes ∧
          select dri3 planes = .error (.tooManyPlanes planes Dmabuf.maxPlanes))) ∨
    dri3.numbers < toLex (1, 2) ∧
      (planes = 1 ∧ select dri3 planes = .ok .singlePlane ∨
        planes ≠ 1 ∧ select dri3 planes = .error (.tooManyPlanes planes 1)) := by
  have hversion : dri3.atLeast modifierVersion = true ↔ toLex (1, 2) ≤ dri3.numbers :=
    Version.atLeast_iff dri3 modifierVersion
  unfold select
  by_cases hmodern : dri3.atLeast modifierVersion = true
  · rw [if_pos hmodern]
    refine .inl ⟨hversion.mp hmodern, ?_⟩
    by_cases hroom : planes > Dmabuf.maxPlanes
    · exact .inr ⟨hroom, if_pos hroom⟩
    · exact .inl ⟨Nat.le_of_not_lt hroom, if_neg hroom⟩
  · rw [if_neg hmodern]
    refine .inr ⟨not_le.mp (mt hversion.mpr hmodern), ?_⟩
    by_cases hone : planes = 1
    · exact .inl ⟨hone, if_neg (not_not.mpr hone)⟩
    · exact .inr ⟨hone, if_pos hone⟩

/-- A plan says of a dmabuf what is true of it. -/
structure ImportPlan.Fits (plan : ImportPlan) (dri3 : Version) (d : Dmabuf) : Prop where
  layout : d.fourcc.layout? = some plan.layout
  width : plan.width.toNat = d.width.toNat
  height : plan.height.toNat = d.height.toNat
  path : (plan.path = .multiPlane ∧ toLex (1, 2) ≤ dri3.numbers ∧
      d.planes.length ≤ Dmabuf.maxPlanes) ∨
    (plan.path = .singlePlane ∧ dri3.numbers < toLex (1, 2) ∧ d.planes.length = 1 ∧
      (d.modifier = .invalid ∨ d.modifier = .linear))

theorem hasModifier_iff (d : Dmabuf) :
    d.hasModifier = false ↔ d.modifier = .invalid ∨ d.modifier = .linear := by
  rw [Dmabuf.hasModifier, Bool.and_eq_false_iff, bne_eq_false_iff_eq, bne_eq_false_iff_eq]

section

variable (dri3 : Version) (d : Dmabuf)

/-- Once the way is chosen, format and size decide. -/
theorem ImportPlan.make_of_path {path : ImportPath}
    (hpath : ImportPath.select dri3 d.numPlanes = .ok path) :
    (make dri3 d = .error (.unsupported d.format) ∧
      (d.fourcc.layout? = none ∨ (path = .singlePlane ∧ d.hasModifier = true) ∨
        UInt16.size ≤ d.width.toNat ∨ UInt16.size ≤ d.height.toNat)) ∨
    ∃ plan, make dri3 d = .ok plan ∧ plan.path = path ∧ d.fourcc.layout? = some plan.layout ∧
      plan.width.toNat = d.width.toNat ∧ plan.height.toNat = d.height.toNat ∧
      (path = .singlePlane → d.hasModifier = false) := by
  cases hlayout : d.fourcc.layout? with
  | none => exact .inl ⟨by simp only [make, hpath, hlayout]; rfl, .inl rfl⟩
  | some layout =>
    by_cases htold : path = .singlePlane ∧ d.hasModifier = true
    · refine .inl ⟨?_, .inr (.inl htold)⟩
      simp only [make, hpath, hlayout, htold]
      rfl
    have hif : ¬ (decide (path = .singlePlane) && d.hasModifier) = true := by simpa using htold
    have huntold : path = .singlePlane → d.hasModifier = false := by simpa using htold
    rcases hwidth : narrow? d.width with _ | width
    · refine .inl ⟨?_, .inr (.inr (.inl (narrow?_eq_none.mp hwidth)))⟩
      simp only [make, hpath, hlayout, hwidth]
      exact if_neg hif
    rcases hheight : narrow? d.height with _ | height
    · refine .inl ⟨?_, .inr (.inr (.inr (narrow?_eq_none.mp hheight)))⟩
      simp only [make, hpath, hlayout, hwidth, hheight]
      exact if_neg hif
    · refine .inr ⟨⟨path, layout, width, height⟩, ?_, rfl, rfl, narrow?_eq_some.mp hwidth,
        narrow?_eq_some.mp hheight, huntold⟩
      simp only [make, hpath, hlayout, hwidth, hheight]
      exact if_neg hif

/-- What can be said beforehand of an import. -/
theorem ImportPlan.make_cases :
    (∃ e, make dri3 d = .error e ∧ ¬ Importable dri3 d ∧ (∀ cause, e ≠ .descriptor cause) ∧
      ∀ planes limit, e = .tooManyPlanes planes limit → toLex (1, 2) ≤ dri3.numbers →
        Dmabuf.maxPlanes < d.planes.length) ∨
    ∃ plan, make dri3 d = .ok plan ∧ plan.Fits dri3 d := by
  have herror : ∀ {e}, ImportPath.select dri3 d.numPlanes = .error e → make dri3 d = .error e := by
    intro e hpath
    simp only [make, hpath]
    rfl
  -- an import that is refused for its format or its size
  have hunfit : ∀ {path}, ImportPath.select dri3 d.numPlanes = .ok path →
      (path = .singlePlane → dri3.numbers < toLex (1, 2)) →
      (d.fourcc.layout? = none ∨ (path = .singlePlane ∧ d.hasModifier = true) ∨
        UInt16.size ≤ d.width.toNat ∨ UInt16.size ≤ d.height.toNat) → ¬ Importable dri3 d := by
    rintro path - hold (hlayout | ⟨rfl, htold⟩ | hwide | htall) h
    · exact absurd h.known (by simp [hlayout])
    · obtain ⟨plane, -, huntold, -⟩ := h.legacy (hold rfl)
      exact absurd ((hasModifier_iff d).mpr huntold) (by simp [htold])
    · exact Nat.not_lt_of_le hwide h.width
    · exact Nat.not_lt_of_le htall h.height
  rcases ImportPath.select_cases dri3 d.numPlanes with
    ⟨hmodern, ⟨hroom, hpath⟩ | ⟨hroom, hpath⟩⟩ | ⟨hlegacy, ⟨hone, hpath⟩ | ⟨hone, hpath⟩⟩
  · rcases make_of_path dri3 d hpath with
      ⟨hmake, hwhy⟩ | ⟨plan, hmake, hplan, hlayout, hwidth, hheight, -⟩
    · exact .inl ⟨_, hmake, hunfit hpath (by simp) hwhy, by simp, by simp⟩
    · exact .inr ⟨plan, hmake, hlayout, hwidth, hheight, .inl ⟨hplan, hmodern, hroom⟩⟩
  · exact .inl ⟨_, herror hpath, fun h => Nat.not_le_of_lt hroom (h.modern hmodern), by simp,
      fun _ _ _ _ => hroom⟩
  · rcases make_of_path dri3 d hpath with
      ⟨hmake, hwhy⟩ | ⟨plan, hmake, hplan, hlayout, hwidth, hheight, huntold⟩
    · exact .inl ⟨_, hmake, hunfit hpath (fun _ => hlegacy) hwhy, by simp, by simp⟩
    · exact .inr ⟨plan, hmake, hlayout, hwidth, hheight,
        .inr ⟨hplan, hlegacy, hone, (hasModifier_iff d).mp (huntold rfl)⟩⟩
  · refine .inl ⟨_, herror hpath, fun h => ?_, by simp, fun _ _ _ hmodern => ?_⟩
    · obtain ⟨plane, hplane, -⟩ := h.legacy hlegacy
      exact hone (congrArg List.length hplane)
    · exact absurd hmodern (not_le.mpr hlegacy)

theorem ImportPlan.fits_of_make {plan : ImportPlan} (hplan : make dri3 d = .ok plan) :
    plan.Fits dri3 d := by
  rcases make_cases dri3 d with ⟨e, herror, -⟩ | ⟨plan', hmade, hfits⟩
  · exact absurd (herror.symm.trans hplan) (by simp)
  · obtain rfl := Except.ok.inj (hmade.symm.trans hplan)
    exact hfits

end

/-! ## The request -/

/-- The request for a single plane is made exactly if stride and size can be told. -/
theorem singlePlaneRequest?_cases {d : Dmabuf} {plane : Plane} (hplane : d.planes = [plane])
    (plan : ImportPlan) (screen : Nat) (pixmap : ResourceId) :
    (∃ (stride : UInt16) (size : UInt32), stride.toNat = plane.stride.toNat ∧
      size.toNat = d.height.toNat * plane.stride.toNat ∧
      singlePlaneRequest? plan screen pixmap d = some (.pixmapFromBuffer pixmap screen plane.file
        size plan.width plan.height stride plan.layout.depth plan.layout.bitsPerPixel)) ∨
    singlePlaneRequest? plan screen pixmap d = none ∧
      ¬ (plane.stride.toNat < UInt16.size ∧
        d.height.toNat * plane.stride.toNat < UInt32.size) := by
  have hhead : d.planes.head? = some plane := by rw [hplane]; rfl
  rcases hstride : narrow? plane.stride with _ | stride
  · refine .inr ⟨?_, fun h => Nat.not_lt_of_le (narrow?_eq_none.mp hstride) h.1⟩
    simp only [singlePlaneRequest?, hhead, Option.bind_eq_bind, Option.bind_some, hstride,
      Option.bind_none]
  by_cases hsize : d.height.toNat * plane.stride.toNat < UInt32.size
  · refine .inl ⟨stride, _, narrow?_eq_some.mp hstride, UInt32.toNat_ofNat_of_lt' hsize, ?_⟩
    simp only [singlePlaneRequest?, hhead, Option.bind_eq_bind, Option.bind_some, hstride]
    exact if_pos hsize
  · refine .inr ⟨?_, fun h => hsize h.2⟩
    simp only [singlePlaneRequest?, hhead, Option.bind_eq_bind, Option.bind_some, hstride]
    exact if_neg hsize

section

variable {plan : ImportPlan} {dri3 : Version} {d : Dmabuf} (h : plan.Fits dri3 d) (screen : Nat)
  (pixmap : ResourceId)

include h

/-- The request is made if the dmabuf can be handed over, and then it says what is true. -/
theorem ImportPlan.Fits.request_cases :
    (∃ request, importRequest? plan screen pixmap d = some request ∧ Importable dri3 d ∧
      Handover dri3 screen pixmap d request) ∨
    importRequest? plan screen pixmap d = none ∧ ¬ Importable dri3 d := by
  have hdepth : d.fourcc.depth? = some plan.layout.depth := by simp [Fourcc.depth?, h.layout]
  have hbits : d.fourcc.bitsPerPixel? = some plan.layout.bitsPerPixel := by
    simp [Fourcc.bitsPerPixel?, h.layout]
  have hbytes := Fourcc.layout?_bytes h.layout
  have hwidth : d.width.toNat < UInt16.size := h.width ▸ plan.width.toNat_lt
  have hheight : d.height.toNat < UInt16.size := h.height ▸ plan.height.toNat_lt
  have hknown : d.fourcc.layout?.isSome := by simp [h.layout]
  rcases h.path with ⟨hpath, hmodern, hroom⟩ | ⟨hpath, hlegacy, hone, huntold⟩
  · refine .inl ⟨_, by simp only [importRequest?, hpath]; rfl,
      ⟨hknown, hwidth, hheight, fun _ => hroom, fun hlegacy => absurd hmodern (not_le.mpr hlegacy)⟩,
      ?_⟩
    have htold : Handover dri3 screen pixmap d _ :=
      .layout hmodern hroom h.width h.height hdepth hbits hbytes
    simpa only [padded, Dmabuf.strides, Dmabuf.offsets, List.length_map] using htold
  · obtain ⟨plane, hplane⟩ := List.length_eq_one_iff.mp hone
    have hrequest : importRequest? plan screen pixmap d
        = singlePlaneRequest? plan screen pixmap d := by
      simp only [importRequest?, hpath]
    rw [hrequest]
    rcases singlePlaneRequest?_cases hplane plan screen pixmap with
      ⟨stride, size, hstride, hsize, hmade⟩ | ⟨hnone, hwide⟩
    · exact .inl ⟨_, hmade,
        ⟨hknown, hwidth, hheight, fun hmodern => absurd hmodern (not_le.mpr hlegacy),
          fun _ => ⟨plane, hplane, huntold, hstride ▸ stride.toNat_lt⟩⟩,
        .rows hlegacy hplane huntold h.width h.height hstride hsize hdepth hbits hbytes⟩
    · refine .inr ⟨hnone, fun himportable => hwide ?_⟩
      obtain ⟨other, hother, -, hfits⟩ := himportable.legacy hlegacy
      obtain rfl : plane = other := by simpa [hplane] using hother
      exact ⟨hfits, Nat.mul_lt_mul'' hheight hfits⟩

theorem ImportPlan.Fits.told {request : Request}
    (htold : importRequest? plan screen pixmap d = some request) :
    Importable dri3 d ∧ Handover dri3 screen pixmap d request := by
  rcases h.request_cases screen pixmap with ⟨other, hother, hfit⟩ | ⟨hnone, -⟩
  · obtain rfl := Option.some.inj (hother.symm.trans htold)
    exact hfit
  · exact absurd (hnone.symm.trans htold) (by simp)

theorem ImportPlan.Fits.untold (huntold : importRequest? plan screen pixmap d = none) :
    ¬ Importable dri3 d := by
  rcases h.request_cases screen pixmap with ⟨other, hother, -⟩ | ⟨-, hunfit⟩
  · exact absurd (hother.symm.trans huntold) (by simp)
  · exact hunfit

end

/-! ## The import -/

theorem ResourceIds.fresh_asks (ids : ResourceIds) :
    ∀ request ∈ ids.fresh.2.1, request = .queryExtension "XC-MISC" := by
  unfold fresh
  split
  · simp
  · split <;> simp

/-- There is a request for every dmabuf that can be handed over. -/
theorem Importable.handover {dri3 : Version} {d : Dmabuf} (h : Importable dri3 d) (screen : Nat)
    (pixmap : ResourceId) : ∃ request, Handover dri3 screen pixmap d request := by
  rcases ImportPlan.make_cases dri3 d with ⟨-, -, hunfit, -⟩ | ⟨plan, -, hfits⟩
  · exact absurd h hunfit
  rcases hfits.request_cases screen pixmap with ⟨request, -, -, hhandover⟩ | ⟨-, hunfit⟩
  · exact ⟨request, hhandover⟩
  · exact absurd h hunfit

/-- There is only one, for its numbers are those of the dmabuf. -/
theorem Handover.unique {dri3 : Version} {screen : Nat} {pixmap : ResourceId} {d : Dmabuf}
    {request request' : Request} (h : Handover dri3 screen pixmap d request)
    (h' : Handover dri3 screen pixmap d request') : request = request' := by
  cases h with
  | @layout width height depth bits modern _ hwidth hheight hdepth hbits =>
    cases h' with
    | @layout width' height' depth' bits' _ _ hwidth' hheight' hdepth' hbits' =>
      obtain rfl : width = width' := UInt16.toNat_inj.mp (hwidth.trans hwidth'.symm)
      obtain rfl : height = height' := UInt16.toNat_inj.mp (hheight.trans hheight'.symm)
      obtain rfl : depth = depth' := Option.some.inj (hdepth.symm.trans hdepth')
      obtain rfl : bits = bits' := Option.some.inj (hbits.symm.trans hbits')
      rfl
    | rows legacy => exact absurd modern (not_le.mpr legacy)
  | @rows plane size width height stride depth bits legacy hplane _ hwidth hheight hstride hsize
      hdepth hbits =>
    cases h' with
    | layout modern => exact absurd modern (not_le.mpr legacy)
    | @rows plane' size' width' height' stride' depth' bits' _ hplane' _ hwidth' hheight'
        hstride' hsize' hdepth' hbits' =>
      obtain rfl : plane = plane' := by simpa [hplane] using hplane'
      obtain rfl : width = width' := UInt16.toNat_inj.mp (hwidth.trans hwidth'.symm)
      obtain rfl : height = height' := UInt16.toNat_inj.mp (hheight.trans hheight'.symm)
      obtain rfl : stride = stride' := UInt16.toNat_inj.mp (hstride.trans hstride'.symm)
      obtain rfl : size = size' := UInt32.toNat_inj.mp (hsize.trans hsize'.symm)
      obtain rfl : depth = depth' := Option.some.inj (hdepth.symm.trans hdepth')
      obtain rfl : bits = bits' := Option.some.inj (hbits.symm.trans hbits')
      rfl

section

variable {s : Session} {image : Image} {plan : ImportPlan} {pixmap : ResourceId}
  {asks : List Request} {ids : ResourceIds} {request : Request}

/-- A request that is written hands the dmabuf over. -/
theorem handsOver_of_written (planned : ImportPlan.make s.dri3 image.dmabuf = .ok plan)
    (duplicated : s.connection.duplicateAll image.dmabuf.files.length = .ok ())
    (fresh : s.ids.fresh = (some pixmap, asks, ids))
    (told : importRequest? plan s.screen pixmap image.dmabuf = some request)
    (written : s.connection.write request = .ok ()) :
    HandsOver s image.dmabuf ∧ Handover s.dri3 s.screen pixmap image.dmabuf request := by
  obtain ⟨himportable, hhandover⟩ := (ImportPlan.fits_of_make _ _ planned).told _ _ told
  refine ⟨⟨himportable, fun place hplace => ?_, pixmap, request, by rw [fresh], hhandover,
    written⟩, hhandover⟩
  rcases s.connection.duplicateAll_cases image.dmabuf.files.length with
    ⟨-, hall⟩ | ⟨cause, hfailed, -⟩
  · exact hall place (by simpa [Dmabuf.files] using hplace)
  · exact absurd (hfailed.symm.trans duplicated) (by simp)

/-- A request that is not written leaves the dmabuf here. -/
theorem not_handsOver_of_unwritten {cause : Failure}
    (planned : ImportPlan.make s.dri3 image.dmabuf = .ok plan)
    (fresh : s.ids.fresh = (some pixmap, asks, ids))
    (told : importRequest? plan s.screen pixmap image.dmabuf = some request)
    (stuck : s.connection.write request = .error cause) : ¬ HandsOver s image.dmabuf := by
  intro h
  obtain ⟨other, request', hother, hhandover', hwritten⟩ := h.written
  obtain ⟨-, hhandover⟩ := (ImportPlan.fits_of_make _ _ planned).told _ _ told
  obtain rfl : pixmap = other := by simpa [fresh] using hother
  obtain rfl := hhandover.unique hhandover'
  exact absurd (hwritten.symm.trans stuck) (by simp)

end

theorem importImage_ends (verdict : Request → Except Refusal Unit) (s : Session) (image : Image) :
    ImportEnds verdict s image (importImage verdict s image).1 (importImage verdict s image).2.1
      (importImage verdict s image).2.2 := by
  obtain ⟨ids, hstops, hids⟩ := importImage_stops verdict s image
  rw [hids]
  generalize (importImage verdict s image).1 = result, (importImage verdict s image).2.1 = sent
    at hstops ⊢
  cases hstops with
  | unplanned unfit =>
    rcases ImportPlan.make_cases s.dri3 image.dmabuf with
      ⟨e, herror, hunfit, hother, hcrowded⟩ | ⟨plan, hmade, -⟩
    · obtain rfl := Except.error.inj (herror.symm.trans unfit)
      exact .refused s.ids (fun h => hunfit h.importable) hcrowded
        (fun cause he => absurd he (hother cause)) (by simp)
    · exact absurd (hmade.symm.trans unfit) (by simp)
  | unduplicated stuck =>
    rcases s.connection.duplicateAll_cases image.dmabuf.files.length with
      ⟨hall, -⟩ | ⟨cause, hfailed, place, hplace, hstuck⟩
    · exact absurd (hall.symm.trans stuck) (by simp)
    obtain rfl := Except.error.inj (hfailed.symm.trans stuck)
    have hplace : place < image.dmabuf.planes.length := by simpa [Dmabuf.files] using hplace
    refine .refused s.ids (fun h => ?_) (by simp) (fun other he => ?_) (by simp)
    · exact absurd (h.files place hplace) (by simp [hstuck])
    · obtain rfl := AttachError.descriptor.inj he
      exact ⟨rfl, place, hplace, hstuck⟩
  | exhausted fresh =>
    have hunheard := s.ids.fresh_asks
    rw [fresh] at hunheard
    refine .refused ids (fun h => ?_) (by simp) (by simp) hunheard
    obtain ⟨pixmap, -, hpixmap, -⟩ := h.written
    exact absurd hpixmap (by simp [fresh])
  | untold planned fresh unfit =>
    obtain ⟨-, rfl, -⟩ := ResourceIds.fresh_eq_some fresh
    have hunfit := (ImportPlan.fits_of_make _ _ planned).untold _ _ unfit
    exact .refused ids (fun h => hunfit h.importable) (by simp) (by simp) (by simp)
  | unwritten planned fresh told stuck =>
    have hunfit := not_handsOver_of_unwritten planned fresh told stuck
    obtain ⟨-, rfl, -⟩ := ResourceIds.fresh_eq_some fresh
    exact .refused ids hunfit (by simp) (by simp) (by simp)
  | declined planned duplicated fresh told written answer =>
    obtain ⟨hfit, hhandover⟩ := handsOver_of_written planned duplicated fresh told written
    obtain ⟨-, rfl, -⟩ := ResourceIds.fresh_eq_some fresh
    exact .declined ids hfit (by rw [fresh]) hhandover answer
  | taken planned duplicated fresh told written answer =>
    obtain ⟨hfit, hhandover⟩ := handsOver_of_written planned duplicated fresh told written
    obtain ⟨-, rfl, -⟩ := ResourceIds.fresh_eq_some fresh
    exact .taken ids hfit (by rw [fresh]) hhandover answer

theorem Handover.request {dri3 : Version} {screen : Nat} {pixmap : ResourceId} {d : Dmabuf}
    {request : Request} (h : Handover dri3 screen pixmap d request) :
    request.isDri3 = true ∧ request.pixmap? = some pixmap := by
  cases h <;> exact ⟨rfl, rfl⟩

/-- A dmabuf that is handed over is heard of, and nothing but the truth. -/
theorem Handover.heard {s : Session} {pixmap : ResourceId} {d : Dmabuf} {request : Request}
    (h : Handover s.dri3 s.screen pixmap d request) (fit : HandsOver s d)
    (identifier : s.ids.fresh.1 = some pixmap) :
    (∀ other ∈ [request], other.isDri3 = true → ∃ pixmap, s.ids.fresh.1 = some pixmap ∧
      Handover s.dri3 s.screen pixmap d other) ∧
    ((∃ other ∈ [request], other.isDri3 = true) ↔ HandsOver s d) := by
  refine ⟨fun other hother _ => ?_, ?_⟩
  · obtain rfl := List.mem_singleton.mp hother
    exact ⟨pixmap, identifier, h⟩
  · exact iff_of_true ⟨request, List.mem_singleton_self _, h.request.1⟩ fit

/-- The image as an import leaves it. -/
def imageAfter (image : Image) (result : Except AttachError Image) : Image :=
  result.toOption.getD image

/-- **A server is handed a buffer as it is, or not at all.** An import that fails leaves the image
as it was, with the pixmap that it carried or without one, and the server heard nothing of the
dmabuf, unless the failure is what was heard of the request once it was written: the server will
not have it, or the connection was lost before it answered. An import that succeeds has sent one
request, and the image carries the pixmap of that request. Whatever the server hears of the dmabuf
is true, and it hears of it exactly if the dmabuf can be handed over, its files can be duplicated,
there is an identifier for the pixmap and the connection takes the request; where a file cannot be
duplicated nothing is sent at all. No buffer that can be built has too many planes for a server that
knows layouts. -/
theorem import_exact (verdict : Request → Except Refusal Unit) (s : Session) (image : Image) :
    let result := (importImage verdict s image).1
    let sent := (importImage verdict s image).2.1
    ((∃ e, result = .error e ∧ imageAfter image result = image ∧
        ((∀ request ∈ sent, request.isDri3 = false) ∨
          ∃ request refusal, sent = [request] ∧ verdict request = .error refusal ∧
            e = .protocol refusal.cause)) ∨
      ∃ request pixmap, sent = [request] ∧ request.pixmap? = some pixmap ∧
        verdict request = .ok () ∧
        result = .ok { image with backendData := ⟨some (.pixmap pixmap)⟩ } ∧
        (imageAfter image result).pixmap? = some pixmap) ∧
    (∀ request ∈ sent, request.isDri3 = true → ∃ pixmap, s.ids.fresh.1 = some pixmap ∧
      Handover s.dri3 s.screen pixmap image.dmabuf request) ∧
    ((∃ request ∈ sent, request.isDri3 = true) ↔ HandsOver s image.dmabuf) ∧
    (∀ cause, result = .error (.descriptor cause) → sent = [] ∧
      ∃ place < image.dmabuf.planes.length, s.connection.duplicate place = .error cause) ∧
    (image.dmabuf.Built → ∀ planes limit, result = .error (.tooManyPlanes planes limit) →
      s.dri3.numbers < toLex (1, 2)) := by
  have hends := importImage_ends verdict s image
  generalize importImage verdict s image = ended at hends ⊢
  obtain ⟨result, sent, s'⟩ := ended
  dsimp only at hends ⊢
  cases hends with
  | refused ids unfit crowded unduplicated unheard =>
    have hnone : ∀ request ∈ sent, request.isDri3 = false :=
      fun request hr => unheard request hr ▸ rfl
    have hsilent : ¬ ∃ request ∈ sent, request.isDri3 = true :=
      fun ⟨request, hr, hheard⟩ => absurd (hnone request hr) (by simp [hheard])
    refine ⟨.inl ⟨_, rfl, rfl, .inl hnone⟩, fun request hr hheard => ?_,
      iff_of_false hsilent unfit, fun cause he => unduplicated cause (Except.error.inj he),
      fun hbuilt planes limit he => ?_⟩
    · exact absurd ⟨request, hr, hheard⟩ hsilent
    · refine not_le.mp fun hmodern => ?_
      exact Nat.not_le_of_lt (crowded planes limit (Except.error.inj he) hmodern)
        ((Dmabuf.built_iff _).mp hbuilt).2.1
  | declined ids fit identifier handover answer =>
    obtain ⟨htrue, hheard⟩ := handover.heard fit identifier
    exact ⟨.inl ⟨_, rfl, rfl, .inr ⟨_, _, rfl, answer, rfl⟩⟩, htrue, hheard,
      fun cause he => absurd he (by simp), fun _ planes limit he => absurd he (by simp)⟩
  | taken ids fit identifier handover answer =>
    obtain ⟨htrue, hheard⟩ := handover.heard fit identifier
    exact ⟨.inr ⟨_, _, rfl, handover.request.2, answer, rfl, rfl⟩, htrue, hheard,
      fun cause he => absurd he (by simp), fun _ planes limit he => absurd he (by simp)⟩

/-- A buffer twice as wide as high. -/
def wideBuffer : Dmabuf :=
  { width := 64, height := 32, format := ⟨.xrgb8888, .linear⟩, flags := .none
    planes := [⟨.null, 0, 0, 256⟩] }

/-- An image of it that carries a pixmap already. -/
def wideImage : Image :=
  { Image.numbered 0 with dmabuf := wideBuffer, backendData := ⟨some (.pixmap 7)⟩ }

/-- A connection that breaks as soon as anything is written. -/
def brokenConnection : Connection :=
  { write := fun _ => .error { message := "broken pipe" } }

/-- What is heard of requests if the connection is lost while their answers are awaited. -/
def unanswered (_ : Request) : Except Refusal Unit :=
  .error (.unanswered { message := "broken pipe" })

/-- The width of the pixmap is the width of the buffer and not its height. An import that fails
before anything is written leaves the pixmap that was there, and one whose answer is never heard
has sent its request, though the server has not rejected it. -/
theorem wide_buffer_stays_wide :
    wideBuffer.Built ∧
    (∃ width height : UInt16,
      (importImage (fun _ => .ok ()) freshClient.session wideImage).2.1
        = [.pixmapFromBuffers 1 0 [.null] width height [256, 0, 0, 0] [0, 0, 0, 0] 24 32 .linear] ∧
      width.toNat ≠ wideBuffer.height.toNat ∧ height.toNat ≠ wideBuffer.width.toNat) ∧
    (let (result, sent, _) :=
      importImage (fun _ => .ok ()) (freshClient.withConnection brokenConnection).session wideImage
    (∃ cause, result = .error (.protocol cause)) ∧ sent = [] ∧
      (imageAfter wideImage result).pixmap? = some 7) ∧
    (let (result, sent, _) := importImage unanswered freshClient.session wideImage
    (∃ cause, result = .error (.protocol cause)) ∧ ∃ request ∈ sent, request.isDri3 = true) := by
  exact ⟨by decide, ⟨64, 32, rfl, by decide, by decide⟩, ⟨⟨_, rfl⟩, rfl, rfl⟩, ⟨_, rfl⟩, _,
    List.mem_singleton_self _, rfl⟩

end X11

end Scanout
