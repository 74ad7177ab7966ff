import Scanout.Proofs.X11.Handover

/-!
# Where the rows of a pixmap start

A server without layouts is told of one plane, of its rows and of their number, and neither of a
layout nor of an offset: it takes the rows to be plain and to start where the file starts. A dmabuf
in a layout that has to be told is refused for that reason. A dmabuf whose plane starts further on
is not, and `told_in_full_iff` says that this is the only gap: whoever is told of a dmabuf without
a layout is told all there is to it exactly if its plane starts where the file does.
-/

namespace Scanout.X11

section

variable (verdict : Request → Except Refusal Unit) (s : Session) (image : Image)

/-- The requests by which an import hands a dmabuf over. -/
def handovers : List Request :=
  (importImage verdict s image).2.1.filter (·.isDri3)

theorem handovers_cases :
    (¬ HandsOver s image.dmabuf ∧ handovers verdict s image = [] ∧
      (∃ e, (importImage verdict s image).1 = .error e) ∧
      ∀ request ∈ (importImage verdict s image).2.1, request = .queryExtension "XC-MISC") ∨
    HandsOver s image.dmabuf ∧ ∃ request pixmap, handovers verdict s image = [request] ∧
      s.ids.fresh.1 = some pixmap ∧ Handover s.dri3 s.screen pixmap image.dmabuf request := by
  have hends := importImage_ends verdict s image
  unfold handovers
  generalize importImage verdict s image = ended at hends ⊢
  obtain ⟨result, sent, s'⟩ := ended
  dsimp only at hends ⊢
  cases hends with
  | refused ids unfit crowded unduplicated unheard =>
    refine .inl ⟨unfit, ?_, ⟨_, rfl⟩, unheard⟩
    exact List.filter_eq_nil_iff.mpr fun request hr => by simp [unheard request hr, Request.isDri3]
  | declined ids fit identifier handover | taken ids fit identifier handover =>
    exact .inr ⟨fit, _, _, List.filter_cons_of_pos handover.request.1, identifier, handover⟩

end

/-- A dmabuf of which a server without layouts can be told all there is: plain rows, or whatever
the device makes of them, that start where the file starts. -/
def Plain (d : Dmabuf) : Prop :=
  ∃ plane, d.planes = [plane] ∧ plane.offset = 0 ∧ (d.modifier = .invalid ∨ d.modifier = .linear)

/-- A server is told of a dmabuf all there is to it, or the dmabuf is refused, with no request but
one for more identifiers. -/
structure ToldInFull (verdict : Request → Except Refusal Unit) (s : Session) (image : Image) :
    Prop where
  complete : ∀ request ∈ handovers verdict s image, Plain image.dmabuf
  refused : ¬ Plain image.dmabuf →
    (∃ e, (importImage verdict s image).1 = .error e) ∧
    ∀ request ∈ (importImage verdict s image).2.1, request = .queryExtension "XC-MISC"

/-- Two dmabufs of one plane that are alike but for where their rows start. -/
structure AlikeButForStart (d d' : Dmabuf) (plane plane' : Plane) : Prop where
  single : d.planes = [plane]
  single' : d'.planes = [plane']
  width : d.width = d'.width
  height : d.height = d'.height
  format : d.format = d'.format
  stride : plane.stride = plane'.stride
  start : (plane.file, plane.offset) ≠ (plane'.file, plane'.offset)

section

variable {verdict : Request → Except Refusal Unit} {s : Session}
  (hlegacy : s.dri3.numbers < toLex (1, 2))

include hlegacy

theorem told_in_full (image : Image) :
    ToldInFull verdict s image ↔
      ¬ (HandsOver s image.dmabuf ∧ ∃ plane ∈ image.dmabuf.planes, plane.offset ≠ 0) := by
  constructor
  · rintro h ⟨hhands, plane, hplane, hoffset⟩
    rcases handovers_cases verdict s image with ⟨hnone, -⟩ | ⟨-, request, -, hsent, -⟩
    · exact hnone hhands
    · obtain ⟨other, hother, hstart, -⟩ := h.complete request (hsent ▸ List.mem_singleton_self _)
      rw [hother, List.mem_singleton] at hplane
      exact hoffset (hplane ▸ hstart)
  · intro h
    have hplain : HandsOver s image.dmabuf → Plain image.dmabuf := by
      intro hhands
      obtain ⟨plane, hplane, huntold, -⟩ := hhands.importable.legacy hlegacy
      refine ⟨plane, hplane, not_not.mp fun hoffset => h ⟨hhands, plane, ?_, hoffset⟩, huntold⟩
      exact hplane ▸ List.mem_singleton_self _
    rcases handovers_cases verdict s image with ⟨-, hsent, hrefused⟩ | ⟨hhands, -⟩
    · exact ⟨by simp [hsent], fun _ => hrefused⟩
    · exact ⟨fun _ _ => hplain hhands, fun hnot => absurd (hplain hhands) hnot⟩

variable {image other : Image} {plane plane' : Plane}

theorem AlikeButForStart.importable (h : AlikeButForStart image.dmabuf other.dmabuf plane plane')
    (himportable : Importable s.dri3 image.dmabuf) : Importable s.dri3 other.dmabuf := by
  obtain ⟨hknown, hwidth, hheight, -, hold⟩ := himportable
  obtain ⟨single, hsingle, huntold, hstride⟩ := hold hlegacy
  obtain rfl : plane = single := by simpa [h.single] using hsingle
  refine ⟨?_, h.width ▸ hwidth, h.height ▸ hheight,
    fun hmodern => absurd hmodern (not_le.mpr hlegacy), fun _ => ⟨plane', h.single', ?_, ?_⟩⟩
  · rwa [Dmabuf.fourcc, ← h.format]
  · rwa [Dmabuf.modifier, ← h.format]
  · rwa [← h.stride]

/-- Without an offset in it the request is the same if the file is. -/
theorem AlikeButForStart.request_eq_iff
    (h : AlikeButForStart image.dmabuf other.dmabuf plane plane')
    {pixmap : ResourceId} {request request' : Request}
    (hrequest : Handover s.dri3 s.screen pixmap image.dmabuf request)
    (hrequest' : Handover s.dri3 s.screen pixmap other.dmabuf request') :
    request = request' ↔ plane.file = plane'.file := by
  cases hrequest with
  | layout modern => exact absurd modern (not_le.mpr hlegacy)
  | @rows single size width height stride depth bits _ hplane _ hwidth hheight hstride hsize
      hdepth hbits =>
    cases hrequest' with
    | layout modern => exact absurd modern (not_le.mpr hlegacy)
    | @rows single' size' width' height' stride' depth' bits' _ hplane' _ hwidth' hheight'
        hstride' hsize' hdepth' hbits' =>
      obtain rfl : plane = single := by simpa [h.single] using hplane
      obtain rfl : plane' = single' := by simpa [h.single'] using hplane'
      rw [Dmabuf.fourcc, ← h.format] at hdepth' hbits'
      rw [← h.width] at hwidth'
      rw [← h.height] at hheight' hsize'
      rw [← h.stride] at hstride' hsize'
      obtain rfl : width = width' := UInt16.toNat_inj.mp (hwidth.trans hwidth'.symm)
      obtain rfl : height = height' := UInt16.toNat_inj.mp (hheight.trans hheight'.symm)
      obtain rfl : stride = stride' := UInt16.toNat_inj.mp (hstride.trans hstride'.symm)
      obtain rfl : size = size' := UInt32.toNat_inj.mp (hsize.trans hsize'.symm)
      obtain rfl : depth = depth' := Option.some.inj (hdepth.symm.trans hdepth')
      obtain rfl : bits = bits' := Option.some.inj (hbits.symm.trans hbits')
      simp

/-- In the same file one is handed over if the other is, for the connection cannot tell them
apart. -/
theorem AlikeButForStart.handsOver (h : AlikeButForStart image.dmabuf other.dmabuf plane plane')
    (hfile : plane.file = plane'.file) (hhands : HandsOver s image.dmabuf) :
    HandsOver s other.dmabuf := by
  obtain ⟨pixmap, request, hpixmap, hrequest, hwritten⟩ := hhands.written
  have himportable := h.importable hlegacy hhands.importable
  obtain ⟨request', hrequest'⟩ := himportable.handover s.screen pixmap
  obtain rfl := (h.request_eq_iff hlegacy hrequest hrequest').mpr hfile
  refine ⟨himportable, fun place hplace => hhands.files place ?_, pixmap, _, hpixmap, hrequest',
    hwritten⟩
  rw [h.single]
  rwa [h.single'] at hplace

end

/-- **Whoever is told without an offset is told all exactly if there is none.** On a server without
layouts, an import that is not refused tells all there is to the dmabuf exactly if its plane starts
where its file does; and of two dmabufs that are alike but for where their rows start the server
cannot be told different things exactly if neither is refused and they lie in the same file. -/
theorem told_in_full_iff (verdict : Request → Except Refusal Unit) (s : Session)
    (hlegacy : s.dri3.numbers < toLex (1, 2)) (image : Image) :
    (ToldInFull verdict s image ↔
      ¬ (HandsOver s image.dmabuf ∧ ∃ plane ∈ image.dmabuf.planes, plane.offset ≠ 0)) ∧
    ∀ other plane plane', AlikeButForStart image.dmabuf other.dmabuf plane plane' →
      ((∀ request ∈ handovers verdict s image, request ∉ handovers verdict s other) ↔
        ¬ (HandsOver s image.dmabuf ∧ plane.file = plane'.file)) := by
  refine ⟨told_in_full hlegacy image, fun other plane plane' halike => ?_⟩
  rcases handovers_cases verdict s image with
    ⟨hnone, hsent, -⟩ | ⟨hhands, request, pixmap, hsent, hpixmap, hrequest⟩
  · exact iff_of_true (by simp [hsent]) fun h => hnone h.1
  rcases handovers_cases verdict s other with
    ⟨hnone, hsent', -⟩ | ⟨-, request', pixmap', hsent', hpixmap', hrequest'⟩
  · refine iff_of_true (by simp [hsent']) fun hsame => ?_
    exact hnone (halike.handsOver hlegacy hsame.2 hhands)
  obtain rfl : pixmap = pixmap' := Option.some.inj (hpixmap.symm.trans hpixmap')
  simp only [hsent, hsent', List.mem_singleton, forall_eq,
    halike.request_eq_iff hlegacy hrequest hrequest', and_iff_right hhands]

/-- A server that knows no layouts. -/
def oldSession : Session :=
  { freshClient.session with dri3 := ⟨1, 0⟩ }

/-- Plain rows in a file, from an offset on. -/
def rowsFrom (offset : UInt32) : Image :=
  { Image.numbered 0 with dmabuf := {
      width := 64, height := 64, format := ⟨.xrgb8888, .linear⟩, flags := .none
      planes := [⟨.null, 0, offset, 256⟩] } }

theorem rows_from_start_told :
    oldSession.dri3.numbers < toLex (1, 2) ∧ ToldInFull (fun _ => .ok ()) oldSession (rowsFrom 0) ∧
    handovers (fun _ => .ok ()) oldSession (rowsFrom 0)
      = [.pixmapFromBuffer 1 0 .null 16384 64 64 256 24 32] := by
  have hlegacy : oldSession.dri3.numbers < toLex (1, 2) := by decide
  refine ⟨hlegacy, (told_in_full_iff _ _ hlegacy (rowsFrom 0)).1.mpr ?_, rfl⟩
  simp [rowsFrom]

/-- Rows that start further on are handed over as if they did not. -/
theorem rows_further_on_untold :
    (rowsFrom 0).dmabuf.Built ∧ (rowsFrom 4096).dmabuf.Built ∧ ¬ Plain (rowsFrom 4096).dmabuf ∧
    (rowsFrom 0).dmabuf.offsets ≠ (rowsFrom 4096).dmabuf.offsets ∧
    (importImage (fun _ => .ok ()) oldSession (rowsFrom 0)).2.1
      = [.pixmapFromBuffer 1 0 .null 16384 64 64 256 24 32] ∧
    (importImage (fun _ => .ok ()) oldSession (rowsFrom 4096)).2.1
      = [.pixmapFromBuffer 1 0 .null 16384 64 64 256 24 32] := by
  refine ⟨by decide, by decide, ?_, by decide, rfl, rfl⟩
  simp [Plain, rowsFrom]

end Scanout.X11
