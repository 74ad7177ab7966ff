import Scanout.Proofs.Display.Course
import Scanout.Proofs.Display.Scene

/-!
# One pacing for all displays

A port `Paces` if each of its operations is seen as that of the pacer: the same outcome, the
same images shown on the same outputs, and a registry that differs from the pacer's in nothing
but what the display keeps in its images and outputs. Then so is every scene (`Scene.Inv.run`),
and two kinds of displays that pace cannot be told apart.
-/

namespace Scanout

namespace Port

variable {κ δ : Type} (P : Port κ δ)

/-- What there is to see of a display. -/
def watched (s : κ) : Pacer :=
  { registry := (P.registry s).seen P.seen P.mode, shown := P.shown s }

/-- What an operation finds: a display in order, and images that are each in one place. `Fit`
is what the kind of display needs in addition, `outputs` is the number of outputs so far,
`images` are the images that were made, and `handed` the one the operation is about. -/
structure Ready (Fit : κ → Nat → List Image → Prop) (s : κ) (outputs : Nat) (images : List Image)
    (handed : List Image) : Prop where
  tidy : (P.registry s).Tidy
  made : ∀ image ∈ (P.registry s).images ++ handed, image ∈ images
  distinct : (((P.registry s).images ++ handed).map (·.id)).Nodup
  fit : Fit s outputs images

/-- An operation that did what the pacer does: `handed` are the images it took, `paced` is the
pacer afterwards. -/
structure Follows (Fit : κ → Nat → List Image → Prop) (s : κ) (outputs : Nat) (images : List Image)
    (handed : List Image) (paced : Pacer) (s' : κ) : Prop where
  move : (P.registry s).Move handed (P.registry s')
  seen : paced = P.watched s'
  fit : Fit s' outputs images

/-- Every operation is seen as that of the pacer. -/
structure Paces (mode : Mode) (Fit : κ → Nat → List Image → Prop) : Prop where
  seen_id : ∀ image, (P.seen image).id = image.id
  adopt_seen : ∀ image, P.seen (P.adopt image) = { image with backendData := .empty }
  adopt_fit : ∀ {s outputs images image}, Fit s outputs images →
    image.id.number = images.length → Fit s outputs (images ++ [P.adopt image])
  createOutput : ∀ {s outputs images}, Fit s outputs images →
    (P.createOutput ⟨outputs⟩ s).1 = true →
    (∃ details, P.mode details = mode ∧ P.registry (P.createOutput ⟨outputs⟩ s).2
      = (P.registry s).insert ⟨outputs⟩ ⟨{}, details⟩) ∧
    P.shown (P.createOutput ⟨outputs⟩ s).2 = P.shown s ∧
    Fit (P.createOutput ⟨outputs⟩ s).2 (outputs + 1) images
  importImage : ∀ {s outputs images image image' s'}, Fit s outputs images →
    image.id.number = images.length → P.importImage image s = (some image', s') →
    P.seen image' = { image with backendData := Pacer.mark } ∧
    P.registry s' = P.registry s ∧ P.shown s' = P.shown s ∧ Fit s' outputs (images ++ [image'])
  scheduleFrame : ∀ {s outputs images image} id, P.Ready Fit s outputs images [image] →
    (P.scheduleFrame id image s).1.handedBack ++ (P.scheduleFrame id image s).1.taken image
      = [image] ∧
    (Pacer.scheduleFrame id (P.seen image) (P.watched s)).1
      = (P.scheduleFrame id image s).1.seen P.seen ∧
    P.Follows Fit s outputs images ((P.scheduleFrame id image s).1.taken image)
      (Pacer.scheduleFrame id (P.seen image) (P.watched s)).2 (P.scheduleFrame id image s).2
  happen : ∀ {s outputs images id incident}, P.Ready Fit s outputs images [] →
    incident.possible (P.registry s) id = true →
    P.Follows Fit s outputs images [] (Pacer.happen id incident (P.watched s))
      (P.happen id incident s)
  connectionClosed : ∀ s, P.watched (P.connectionClosed s)
    = (pacer mode).connectionClosed (P.watched s)
  deliver : ∀ {s outputs images}, Fit s outputs images →
    (P.deliver s).1 = (P.registry s).takeEvents.1 ∧
    P.registry (P.deliver s).2 = (P.registry s).takeEvents.2 ∧
    P.shown (P.deliver s).2 = P.shown s ∧ Fit (P.deliver s).2 outputs images

/-! ### What an operation can rely on -/

section

variable {P : Port κ δ} {Fit : κ → Nat → List Image → Prop} {s : κ} {outputs : Nat}
  {images handed : List Image} {id : OutputId} {o : Output δ}
  (h : P.Ready Fit s outputs images handed) (hget : (P.registry s).get? id = some o)

include h hget

/-- What an output presents or is going to present was made. -/
theorem Ready.kept_made :
    ∀ image ∈ o.scheduler.presented ++ o.scheduler.pending.toList, image ∈ images := by
  intro image himage
  refine h.made image (List.mem_append_left _ (List.mem_append_left _ ?_))
  refine List.mem_flatMap.mpr ⟨_, Registry.mem_of_get? hget, ?_⟩
  rcases List.mem_append.mp himage with hpresented | hpending
  · simp [FrameScheduler.images, hpresented]
  · exact List.mem_append_left _ (List.mem_append_left _ hpending)

theorem Ready.output_distinct : o.scheduler.Distinct := by
  have hapart := h.distinct
  rw [List.map_append] at hapart
  exact Registry.distinct_of_mem (List.nodup_append.mp hapart).1 (Registry.mem_of_get? hget)

end

/-! ### Casting operations into those of the pacer -/

section

variable {P : Port κ δ} {s s' : κ} {id : OutputId} {o : Output δ}

theorem get?_watched (hget : (P.registry s).get? id = some o) :
    (P.watched s).registry.get? id = some (o.seen P.seen P.mode) := by
  simp only [watched, Registry.get?_seen, hget, Option.map_some]

theorem get?_watched_none (hget : (P.registry s).get? id = none) :
    (P.watched s).registry.get? id = none := by
  simp only [watched, Registry.get?_seen, hget, Option.map_none]

variable {f' : FrameScheduler} {details : δ} {shown : Option Image}
  (hregistry : P.registry s' = ((P.registry s).set id ⟨f', details⟩).collect)
  (hshown : P.shown s' = P.shown s ++ shown.toList.map fun image => (some id, some image.id))

include hregistry hshown

/-- An output that is put back is seen to be put back. -/
theorem putBack_watched (hid : ∀ image, (P.seen image).id = image.id) :
    (P.watched s).putBack id ⟨f'.seen P.seen, P.mode details⟩ (shown.map P.seen).toList
      = P.watched s' := by
  have hsame : (shown.map P.seen).toList.map (fun image => ((some id, some image.id) : Presentation))
      = shown.toList.map fun image => (some id, some image.id) := by
    cases shown with
    | none => rfl
    | some image => simp [hid]
  simp only [watched, Pacer.putBack, hregistry, hshown, hsame, Registry.collect_seen,
    Registry.set_seen]
  rfl

theorem scheduleFrame_watched (hid : ∀ image, (P.seen image).id = image.id)
    (hget : (P.registry s).get? id = some o) {image : Image} {submission : Submission}
    (hschedule : (o.scheduler.seen P.seen).schedule (.stage Pacer.marked) (P.seen image) []
      = (submission.seen P.seen, f'.seen P.seen, (shown.map P.seen).toList))
    (hmode : P.mode details = P.mode o.details) :
    Pacer.scheduleFrame id (P.seen image) (P.watched s)
      = (.submitted (submission.seen P.seen), P.watched s') := by
  simp only [Pacer.scheduleFrame, get?_watched hget, Output.seen, hschedule, ← hmode]
  rw [putBack_watched hregistry hshown hid]

theorem complete_watched (hid : ∀ image, (P.seen image).id = image.id)
    (hget : (P.registry s).get? id = some o)
    (hdone : (o.scheduler.seen P.seen).frameDone (.stage Pacer.marked) []
      = (none, f'.seen P.seen, (shown.map P.seen).toList))
    (hmode : P.mode details = P.mode o.details) (refresh : Refresh) :
    Pacer.happen id (.complete refresh) (P.watched s) = P.watched s' := by
  simp only [Pacer.happen, get?_watched hget, Pacer.undergo, Output.seen, hdone, ← hmode]
  rw [putBack_watched hregistry hshown hid]

end

section

variable {P : Port κ δ} {s s' : κ} {id : OutputId} {o : Output δ}
  (hid : ∀ image, (P.seen image).id = image.id) (hget : (P.registry s).get? id = some o)
  (hshown : P.shown s' = P.shown s)

include hid hget hshown

theorem release_watched {image : ImageId} {details : δ}
    (hregistry : P.registry s'
      = ((P.registry s).set id ⟨(o.scheduler.bufferReleased image).2, details⟩).collect)
    (hmode : P.mode details = P.mode o.details) :
    Pacer.happen id (.release image) (P.watched s) = P.watched s' := by
  have hnothing : P.shown s' = P.shown s ++ (none : Option Image).toList.map
      fun image => (some id, some image.id) := by simpa using hshown
  have hput := putBack_watched hregistry hnothing hid
  simp only [Pacer.happen, get?_watched hget, Pacer.undergo, Output.seen,
    FrameScheduler.bufferReleased_seen hid, ← hmode]
  exact hput

theorem resize_watched {width height : UInt16} {mode : Mode} {details : δ}
    (hsize : Mode.ofConfigure? width.toUInt32.toInt32 height.toUInt32.toInt32 = some mode)
    (hnew : P.mode o.details ≠ mode)
    (hregistry : P.registry s'
      = ((P.registry s).set id ⟨o.scheduler.modeChanged mode, details⟩).collect)
    (hmode : P.mode details = mode) :
    Pacer.happen id (.resize width height) (P.watched s) = P.watched s' := by
  have hnothing : P.shown s' = P.shown s ++ (none : Option Image).toList.map
      fun image => (some id, some image.id) := by simpa using hshown
  have hput := putBack_watched hregistry hnothing hid
  simp only [Pacer.happen, get?_watched hget, Pacer.undergo, Output.seen, hsize, if_neg hnew,
    FrameScheduler.modeChanged_seen]
  rw [hmode] at hput
  exact hput

end

/-- An incident that is possible concerns an output that is there, unless the compositor is done
with one that is not. -/
theorem happen_follows {P : Port κ δ} {Fit : κ → Nat → List Image → Prop} {s : κ} {outputs : Nat}
    {images : List Image} {id : OutputId} {incident : Incident}
    (hcan : incident.possible (P.registry s) id = true)
    (hcomplete : ∀ {o}, (P.registry s).get? id = some o → ∀ refresh, o.scheduler.armed = true →
      P.Follows Fit s outputs images [] (Pacer.happen id (.complete refresh) (P.watched s))
        (P.happen id (.complete refresh) s))
    (hrelease : ∀ {o}, (P.registry s).get? id = some o → ∀ image ∈ o.scheduler.presented,
      P.Follows Fit s outputs images [] (Pacer.happen id (.release image.id) (P.watched s))
        (P.happen id (.release image.id) s))
    (hresize : ∀ {o}, (P.registry s).get? id = some o → ∀ width height,
      P.Follows Fit s outputs images [] (Pacer.happen id (.resize width height) (P.watched s))
        (P.happen id (.resize width height) s))
    (hclose : ∀ {o}, (P.registry s).get? id = some o →
      P.Follows Fit s outputs images [] ((P.watched s).destroy id) (P.happen id .close s))
    (hdestroy : P.Follows Fit s outputs images [] ((P.watched s).destroy id)
      (P.happen id .destroy s)) :
    P.Follows Fit s outputs images [] (Pacer.happen id incident (P.watched s))
      (P.happen id incident s) := by
  cases hget : (P.registry s).get? id with
  | none =>
    have hgone := get?_watched_none hget
    cases incident with
    | complete | release | resize | close => simp [Incident.possible, hget] at hcan
    | destroy =>
      have hpaced : Pacer.happen id .destroy (P.watched s) = (P.watched s).destroy id := by
        simp only [Pacer.happen, hgone, Pacer.destroy, Registry.destroy_absent hgone]
      rw [hpaced]
      exact hdestroy
  | some o =>
    have hthere := get?_watched hget
    have hended : ∀ incident, incident = .close ∨ incident = .destroy →
        Pacer.happen id incident (P.watched s) = (P.watched s).destroy id := by
      rintro incident (rfl | rfl) <;> simp only [Pacer.happen, hthere, Pacer.undergo]
    cases incident with
    | complete refresh =>
      refine hcomplete hget refresh ?_
      simpa [Incident.possible, hget] using hcan
    | release image =>
      obtain ⟨shown, hshown, rfl⟩ : ∃ shown ∈ o.scheduler.presented, shown.id = image := by
        simpa [Incident.possible, hget] using hcan
      exact hrelease hget shown hshown
    | resize width height => exact hresize hget width height
    | close =>
      rw [hended .close (.inl rfl)]
      exact hclose hget
    | destroy =>
      rw [hended .destroy (.inr rfl)]
      exact hdestroy

end Port

/-! ## Scenes -/

namespace Scene

variable {κ δ : Type} {P : Port κ δ} {mode : Mode} {Fit : κ → Nat → List Image → Prop}
  {w : Scene κ}

/-- What holds between two actions. -/
structure Inv (P : Port κ δ) (Fit : κ → Nat → List Image → Prop) (w : Scene κ) : Prop where
  tidy : (P.registry w.station).Tidy
  made : ∀ image ∈ w.hand ++ (P.registry w.station).images, image ∈ w.images
  /-- No image is in two places. -/
  distinct : ((w.hand ++ (P.registry w.station).images).map (·.id)).Nodup
  numbered : ∀ image ∈ w.images, image.id.number < w.images.length
  opened : ∀ id ∈ (P.registry w.station).ids, id.number < w.outputs
  fit : Fit w.station w.outputs w.images

/-- The scene as it looks from outside. -/
def mirror (P : Port κ δ) (w : Scene κ) : Scene Pacer :=
  { station := P.watched w.station
    outputs := w.outputs
    images := w.images.map P.seen
    hand := w.hand.map P.seen
    results := w.results.map (·.seen P.seen)
    delivered := w.delivered.map (·.seen P.seen)
    refused := w.refused }

theorem Inv.ready (h : w.Inv P Fit) : P.Ready Fit w.station w.outputs w.images [] := by
  refine ⟨h.tidy, fun image himage => ?_, ?_, h.fit⟩
  · rw [List.append_nil] at himage
    exact h.made image (List.mem_append_right _ himage)
  · rw [List.append_nil]
    exact ((List.sublist_append_right _ _).map _).nodup h.distinct

theorem Inv.ready_with (h : w.Inv P Fit) {image : Image} (himage : image ∈ w.hand) :
    P.Ready Fit w.station w.outputs w.images [image] := by
  have hperm : (image :: (w.hand.erase image ++ (P.registry w.station).images)).Perm
      (w.hand ++ (P.registry w.station).images) :=
    ((List.perm_cons_erase himage).append_right _).symm
  refine ⟨h.tidy, fun other hother => ?_, ?_, h.fit⟩
  · rcases List.mem_append.mp hother with hother | hother
    · exact h.made other (List.mem_append_right _ hother)
    · exact h.made other (List.mem_append_left _ (List.mem_singleton.mp hother ▸ himage))
  · have hdistinct := (hperm.map (·.id)).nodup_iff.mpr h.distinct
    have hsub : (image :: (P.registry w.station).images).Sublist
        (image :: (w.hand.erase image ++ (P.registry w.station).images)) :=
      (List.sublist_append_right _ _).cons_cons image
    exact ((List.perm_append_singleton _ _).map _).nodup_iff.mpr ((hsub.map _).nodup hdistinct)

/-- A move of the registry keeps the images apart. -/
theorem Inv.moved (h : w.Inv P Fit) {s : κ} {hand handed : List Image}
    (hmove : (P.registry w.station).Move handed (P.registry s))
    (hhand : (hand ++ handed).Perm w.hand) (hfit : Fit s w.outputs w.images)
    (results : List ScheduleOutcome) :
    ({ w with station := s, hand := hand, results := results } : Scene κ).Inv P Fit := by
  have hperm : (hand ++ (P.registry s).images).Perm (w.hand ++ (P.registry w.station).images) := by
    have himages := hmove.images_perm h.tidy
    refine (himages.append_left hand).trans (List.Perm.trans ?_ (hhand.append_right _))
    rw [List.append_assoc]
    exact List.perm_append_comm.append_left hand
  refine ⟨hmove.tidy h.tidy, fun image himage => h.made image (hperm.mem_iff.mp himage),
    (hperm.map _).nodup_iff.mpr h.distinct, h.numbered,
    fun id hid => h.opened id (hmove.ids_subset id hid), hfit⟩

/-- A new image is in the compositor's hand and nowhere else. -/
theorem Inv.added (h : w.Inv P Fit) {s : κ} {image : Image}
    (hnumber : image.id.number = w.images.length)
    (hregistry : P.registry s = P.registry w.station)
    (hfit : Fit s w.outputs (w.images ++ [image])) :
    ({ w with station := s, images := w.images ++ [image], hand := w.hand ++ [image] }
      : Scene κ).Inv P Fit := by
  have hperm : ((w.hand ++ [image]) ++ (P.registry s).images).Perm
      (image :: (w.hand ++ (P.registry w.station).images)) := by
    rw [hregistry, List.append_assoc, List.singleton_append]
    exact List.perm_middle
  refine ⟨by rw [hregistry]; exact h.tidy, fun other hother => ?_, ?_, fun other hother => ?_,
    fun id hid => h.opened id (hregistry ▸ hid), hfit⟩
  · rcases List.mem_cons.mp (hperm.mem_iff.mp hother) with rfl | hold
    · exact List.mem_append_right _ List.mem_cons_self
    · exact List.mem_append_left _ (h.made other hold)
  · refine (hperm.map _).nodup_iff.mpr (List.nodup_cons.mpr ⟨fun hmem => ?_, h.distinct⟩)
    obtain ⟨other, hother, heq⟩ := List.mem_map.mp hmem
    have hlt := h.numbered other (h.made other hother)
    rw [show other.id = image.id from heq, hnumber] at hlt
    exact Nat.lt_irrefl _ hlt
  · have hlength : (w.images ++ [image]).length = w.images.length + 1 := by simp
    show other.id.number < (w.images ++ [image]).length
    rw [hlength]
    rcases List.mem_append.mp hother with hold | hself
    · exact Nat.lt_succ_of_lt (h.numbered other hold)
    · rw [List.mem_singleton.mp hself, hnumber]
      exact Nat.lt_succ_self _

theorem returnedImages_seen (events : List BackendEvent) :
    returnedImages (events.map (·.seen P.seen)) = (returnedImages events).map P.seen := by
  induction events with
  | nil => rfl
  | cons e rest ih =>
    cases e with
    | newOutput | disconnected => exact ih
    | output id event =>
      cases event with
      | released image => exact congrArg (P.seen image :: ·) ih
      | frame | mode | destroyed => exact ih

theorem handedBack_seen (outcome : ScheduleOutcome) :
    (outcome.seen P.seen).handedBack = outcome.handedBack.map P.seen := by
  cases outcome <;> rfl

/-- Whether something can happen is seen from outside. -/
theorem possible_seen (hseen : ∀ image, (P.seen image).id = image.id) (r : Registry δ)
    (output : OutputId) (incident : Incident) :
    incident.possible (r.seen P.seen P.mode) output = incident.possible r output := by
  cases incident with
  | complete refresh =>
    simp only [Incident.possible, Registry.get?_seen, Option.any_map]
    rfl
  | release image =>
    simp only [Incident.possible, Registry.get?_seen, Option.any_map]
    refine congrArg (fun p => (r.get? output).any p) (funext fun o => ?_)
    simp only [Function.comp_def, Output.seen, FrameScheduler.seen, List.any_map, hseen]
  | resize | close => simp only [Incident.possible, Registry.get?_seen, Option.isSome_map]
  | destroy => rfl

/-! Each action keeps the scene in order and is seen as the same action of the pacer. -/

section

variable (hP : P.Paces mode Fit) (h : w.Inv P Fit)

include hP h

theorem Inv.createOutput (haccepted : (w.act P .createOutput).refused = false) :
    (w.act P .createOutput).Inv P Fit ∧
      (w.act P .createOutput).mirror P = (w.mirror P).act (pacer mode) .createOutput := by
  have hmade : (P.createOutput ⟨w.outputs⟩ w.station).1 = true := by
    simpa [act] using haccepted
  obtain ⟨⟨details, hmode, hregistry⟩, hshown, hfit⟩ := hP.createOutput h.fit hmade
  obtain ⟨hids, hbelow⟩ := Registry.insert_numbered h.tidy.ids h.opened ⟨{}, details⟩
  have himages : (P.registry (P.createOutput ⟨w.outputs⟩ w.station).2).images
      = (P.registry w.station).images := by
    rw [hregistry, Registry.insert_images]
  have hwatched : P.watched (P.createOutput ⟨w.outputs⟩ w.station).2
      = ((pacer mode).createOutput ⟨w.outputs⟩ (P.watched w.station)).2 := by
    simp only [Port.watched, hregistry, hshown, Registry.insert_seen, hmode]
    rfl
  refine ⟨⟨?_, ?_, ?_, h.numbered, ?_, hfit⟩, ?_⟩
  · show (P.registry (P.createOutput ⟨w.outputs⟩ w.station).2).Tidy
    rw [hregistry]
    exact ⟨h.tidy.settled.insert _ _, hids⟩
  · simpa only [act, himages] using h.made
  · simpa only [act, himages] using h.distinct
  · show ∀ id ∈ (P.registry (P.createOutput ⟨w.outputs⟩ w.station).2).ids, _
    rw [hregistry]
    exact hbelow
  · simp only [act, mirror, hmade, hwatched]
    rfl

theorem Inv.importImage (image : Image)
    (haccepted : (w.act P (.importImage image)).refused = false) :
    (w.act P (.importImage image)).Inv P Fit ∧
      (w.act P (.importImage image)).mirror P
        = (w.mirror P).act (pacer mode) (.importImage image) := by
  rcases himport : P.importImage { image with id := ⟨w.images.length⟩ } w.station with
    ⟨answer, s⟩
  cases answer with
  | none => exact absurd haccepted (by simp [act, himport])
  | some imported =>
    obtain ⟨hseen, hregistry, hshown, hfit⟩ := hP.importImage h.fit rfl himport
    have hnumber : imported.id.number = w.images.length := by
      rw [← hP.seen_id imported, hseen]
    have hwatched : P.watched s = P.watched w.station := by
      simp only [Port.watched, hregistry, hshown]
    simp only [act, himport]
    refine ⟨h.added hnumber hregistry hfit, ?_⟩
    simp only [pacer, mirror, List.length_map, List.map_append, List.map_cons, List.map_nil, hseen,
      hwatched]

theorem Inv.adoptImage (image : Image) :
    (w.act P (.adoptImage image)).Inv P Fit ∧
      (w.act P (.adoptImage image)).mirror P
        = (w.mirror P).act (pacer mode) (.adoptImage image) := by
  have hseen := hP.adopt_seen { image with id := ⟨w.images.length⟩ }
  have hnumber : (P.adopt { image with id := ⟨w.images.length⟩ }).id.number = w.images.length := by
    rw [← hP.seen_id, hseen]
  refine ⟨h.added hnumber rfl (hP.adopt_fit h.fit rfl), ?_⟩
  simp only [act, pacer, mirror, List.length_map, List.map_append, List.map_cons, List.map_nil,
    hseen]

theorem Inv.scheduleFrame (output : OutputId) (id : ImageId) :
    (w.act P (.scheduleFrame output id)).Inv P Fit ∧
      (w.act P (.scheduleFrame output id)).mirror P
        = (w.mirror P).act (pacer mode) (.scheduleFrame output id) := by
  have hfind : (w.mirror P).hand.find? (·.id = id) = (w.hand.find? (·.id = id)).map P.seen :=
    Image.find?_seen hP.seen_id w.hand id
  have herase : (w.mirror P).hand.eraseP (·.id = id) = (w.hand.eraseP (·.id = id)).map P.seen :=
    Image.eraseP_seen hP.seen_id w.hand id
  cases hhand : w.hand.find? (·.id = id) with
  | none =>
    rw [hhand] at hfind
    simp only [act, hhand, hfind, Option.map_none]
    exact ⟨h, trivial⟩
  | some image =>
    rw [hhand] at hfind
    have himage := List.mem_of_find?_eq_some hhand
    obtain ⟨hwhere, htold, hmove, hpaced, hfit⟩ := hP.scheduleFrame output (h.ready_with himage)
    have hplaces : ((w.hand.eraseP (·.id = id)
          ++ (P.scheduleFrame output image w.station).1.handedBack)
        ++ (P.scheduleFrame output image w.station).1.taken image).Perm w.hand := by
      obtain ⟨hid, earlier, later, hsplit, hfirst⟩ := List.find?_eq_some_iff_append.mp hhand
      have herased : w.hand.eraseP (·.id = id) = earlier ++ later := by
        rw [hsplit, List.eraseP_append_right _ (by simpa using hfirst)]
        simp only [List.eraseP_cons, hid, cond_true]
      rw [List.append_assoc, hwhere, herased, hsplit, List.append_assoc]
      exact (List.perm_append_singleton image later).append_left earlier
    simp only [act, hhand, hfind, Option.map_some, herase]
    refine ⟨h.moved hmove hplaces hfit _, ?_⟩
    simp only [mirror, pacer, htold, hpaced, handedBack_seen, List.map_append, List.map_cons,
      List.map_nil]

theorem Inv.happen (output : OutputId) (incident : Incident) :
    (w.act P (.happen output incident)).Inv P Fit ∧
      (w.act P (.happen output incident)).mirror P
        = (w.mirror P).act (pacer mode) (.happen output incident) := by
  have hpossible : incident.possible (w.mirror P).station.registry output
      = incident.possible (P.registry w.station) output :=
    possible_seen hP.seen_id _ output incident
  simp only [act, pacer, hpossible]
  by_cases hcan : incident.possible (P.registry w.station) output = true
  · obtain ⟨hmove, hpaced, hfit⟩ := hP.happen h.ready hcan
    rw [if_pos hcan, if_pos hcan]
    have hplaces : (w.hand ++ []).Perm w.hand := by rw [List.append_nil]
    refine ⟨h.moved hmove hplaces hfit w.results, ?_⟩
    simp only [mirror, hpaced]
  · rw [if_neg hcan, if_neg hcan]
    exact ⟨h, rfl⟩

theorem Inv.deliver :
    (w.act P .deliver).Inv P Fit ∧
      (w.act P .deliver).mirror P = (w.mirror P).act (pacer mode) .deliver := by
  obtain ⟨hevents, hregistry, hshown, hfit⟩ := hP.deliver h.fit
  have hpaced : P.watched (P.deliver w.station).2
      = ((pacer mode).deliver (P.watched w.station)).2 := by
    simp only [Port.watched, hregistry, hshown, Registry.takeEvents_seen]
    rfl
  have hplaces : (w.hand ++ returnedImages (P.deliver w.station).1
      ++ (P.registry (P.deliver w.station).2).images).Perm
      (w.hand ++ (P.registry w.station).images) := by
    rw [hevents, hregistry, List.append_assoc]
    refine List.Perm.append_left w.hand ?_
    simp only [Registry.takeEvents, Registry.images, returnedImages_nil, List.append_nil]
    exact List.perm_append_comm
  refine ⟨⟨?_, fun image himage => h.made image (hplaces.mem_iff.mp himage),
    (hplaces.map _).nodup_iff.mpr h.distinct, h.numbered, ?_, hfit⟩, ?_⟩
  · show (P.registry (P.deliver w.station).2).Tidy
    rw [hregistry]
    exact ⟨h.tidy.settled, h.tidy.ids⟩
  · show ∀ id ∈ (P.registry (P.deliver w.station).2).ids, _
    rw [hregistry]
    exact h.opened
  · have htold : ((pacer mode).deliver (P.watched w.station)).1
        = (P.deliver w.station).1.map (·.seen P.seen) := by
      rw [hevents]
      rfl
    simp only [act, mirror, hpaced, htold, List.map_append, returnedImages_seen]

end

theorem step_refused (hw : w.refused = true) (action : Action) : w.step P action = w := by
  simp only [step, hw, if_true]

/-- One action is seen as the same action of the pacer. -/
theorem Inv.step (hP : P.Paces mode Fit) (h : w.Inv P Fit) (action : Action)
    (haccepted : (w.step P action).refused = false) :
    (w.step P action).Inv P Fit ∧
      (w.step P action).mirror P = (w.mirror P).step (pacer mode) action := by
  have hw : w.refused = false := by
    by_contra hrefused
    rw [Bool.not_eq_false] at hrefused
    rw [step_refused hrefused, hrefused] at haccepted
    exact absurd haccepted (by simp)
  have hlive : (w.mirror P).refused = false := hw
  simp only [Scene.step, hw, hlive, Bool.false_eq_true, if_false] at haccepted ⊢
  cases action with
  | createOutput => exact h.createOutput hP haccepted
  | importImage image => exact h.importImage hP image haccepted
  | adoptImage image => exact h.adoptImage hP image
  | scheduleFrame output id => exact h.scheduleFrame hP output id
  | happen output incident => exact h.happen hP output incident
  | deliver => exact h.deliver hP

theorem run_refused (hw : w.refused = true) (actions : List Action) : w.run P actions = w := by
  induction actions with
  | nil => rfl
  | cons action rest ih =>
    show (w.step P action).run P rest = w
    rw [step_refused hw, ih]

/-- A whole scene is seen as the same scene of the pacer. -/
theorem Inv.run (hP : P.Paces mode Fit) {w : Scene κ} (h : w.Inv P Fit) (actions : List Action)
    (haccepted : (w.run P actions).refused = false) :
    (w.run P actions).Inv P Fit ∧
      (w.run P actions).mirror P = (w.mirror P).run (pacer mode) actions := by
  induction actions generalizing w with
  | nil => exact ⟨h, rfl⟩
  | cons action rest ih =>
    have haccepted' : ((w.step P action).run P rest).refused = false := haccepted
    have hstep : (w.step P action).refused = false := by
      by_contra hrefused
      rw [Bool.not_eq_false] at hrefused
      rw [run_refused hrefused, hrefused] at haccepted'
      exact absurd haccepted' (by simp)
    obtain ⟨hinv, hmirror⟩ := h.step hP action hstep
    obtain ⟨hinv', hmirror'⟩ := ih hinv haccepted'
    refine ⟨hinv', hmirror'.trans ?_⟩
    rw [hmirror]
    rfl

theorem mirror_lose (hP : P.Paces mode Fit) (w : Scene κ) :
    (w.lose P).mirror P = (w.mirror P).lose (pacer mode) := by
  simp only [lose, mirror, hP.connectionClosed]

/-- Before the first output and the first image, a scene is in order. -/
theorem start_inv {s : κ} (hempty : P.registry s = {}) (hfit : Fit s 0 []) :
    (start s).Inv P Fit := by
  have houtputs : (P.registry s).outputs = [] := by rw [hempty]
  have himages : (P.registry s).images = [] := by rw [hempty]; rfl
  refine ⟨⟨?_, ?_⟩, ?_, ?_, ?_, ?_, hfit⟩
  · intro entry he
    simp [start, houtputs] at he
  · simp [start, Registry.ids, houtputs]
  · simp [start, himages]
  · simp [start, himages]
  · simp [start]
  · simp [start, Registry.ids, houtputs]

theorem mirror_play (hP : P.Paces mode Fit) {s : κ} (hempty : P.registry s = {})
    (hfit : Fit s 0 []) {actions : List Action} {lost : Bool}
    (haccepted : (play P s actions lost).refused = false) :
    (play P s actions lost).mirror P = play (pacer mode) (P.watched s) actions lost := by
  have hrefused : (play P s actions lost).refused = ((start s).run P actions).refused := by
    cases lost <;> rfl
  obtain ⟨-, hrun⟩ := (start_inv hempty hfit).run hP actions (hrefused.symm.trans haccepted)
  cases lost with
  | false => exact hrun
  | true => exact (mirror_lose hP _).trans (congrArg (lose (pacer mode)) hrun)

/-- The events of a scene can be told from the scene as it looks from outside. -/
theorem events_eq (w : Scene κ) :
    w.events P = (w.mirror P).delivered ++ (w.mirror P).station.registry.events :=
  List.map_append

end Scene

end Scanout
