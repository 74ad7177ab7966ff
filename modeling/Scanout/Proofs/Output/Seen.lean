import Scanout.Proofs.Output.Settled

/-!
# Registries seen through their images

A display keeps something of its own in every image it imported, so two displays never hold
the same images. `seen` shows a scheduler or a registry through a function on images that
hides the difference. No operation looks at what is hidden, as long as the identifiers are
left alone, so each commutes with it.

The one thing that depends on the display is presenting. A surface that `Decides` by the
image alone whether to show it is as good as the `stage`, which keeps nothing but the list of
what it showed.
-/

namespace Scanout

variable {σ τ δ δ' : Type}

namespace Image

variable {g : Image → Image}

theorem find?_seen (hg : ∀ image, (g image).id = image.id) (images : List Image) (id : ImageId) :
    (images.map g).find? (·.id = id) = (images.find? (·.id = id)).map g := by
  have hsame : (fun image => decide ((g image).id = id)) = fun image => decide (image.id = id) := by
    funext image
    rw [hg image]
  rw [List.find?_map]
  exact congrArg (fun p => (images.find? p).map g) hsame

theorem eraseP_seen (hg : ∀ image, (g image).id = image.id) (images : List Image) (id : ImageId) :
    (images.map g).eraseP (·.id = id) = (images.eraseP (·.id = id)).map g := by
  have hsame : (fun image => decide ((g image).id = id)) = fun image => decide (image.id = id) := by
    funext image
    rw [hg image]
  rw [List.eraseP_map]
  exact congrArg (fun p => (images.eraseP p).map g) hsame

end Image

namespace OutputEvent

def seen (g : Image → Image) : OutputEvent → OutputEvent
  | frame => frame
  | released image => released (g image)
  | mode m => mode m
  | destroyed => destroyed

end OutputEvent

namespace BackendEvent

def seen (g : Image → Image) : BackendEvent → BackendEvent
  | newOutput id => newOutput id
  | output id event => output id (event.seen g)
  | disconnected => disconnected

theorem seen_map_output (g : Image → Image) (id : OutputId) (events : List OutputEvent) :
    (events.map (output id)).map (seen g) = (events.map (·.seen g)).map (output id) := by
  rw [List.map_map, List.map_map]
  rfl

end BackendEvent

/-- The text of a refusal is the display's own as well. -/
def Submission.seen (g : Image → Image) : Submission → Submission
  | accepted => accepted
  | refused _ => refused { message := "" }
  | fault e lost => fault e (g lost)

def ScheduleOutcome.seen (g : Image → Image) : ScheduleOutcome → ScheduleOutcome
  | submitted submission => submitted (submission.seen g)
  | unknownOutput image => unknownOutput (g image)

namespace Surface

/-- A surface that shows what it is meant to show. -/
def stage (ok : Image → Bool) : Surface (List Image) :=
  { present := fun image shown =>
      if ok image then (.done (), shown ++ [image]) else (.failed { message := "" }, shown)
    cancel := id }

/-- Whether the surface shows an image depends on the image alone. -/
structure Decides (surface : Surface σ) (ok : Image → Bool) (Ready : σ → Prop) : Prop where
  shows : ∀ image s, Ready s → ok image = true → (surface.present image s).1 = .done ()
  refuses : ∀ image s, Ready s → ok image = false →
    ∃ cause, surface.present image s = (.failed cause, s)

/-- The surface after it showed an image, if there was one to show. -/
def after (surface : Surface σ) (shown : Option Image) (s : σ) : σ :=
  match shown with
  | none => s
  | some image => (surface.present image s).2

end Surface

namespace FrameScheduler

variable {g : Image → Image} {f : FrameScheduler} {surface : Surface σ} {ok : Image → Bool}
  {Ready : σ → Prop} {s : σ}

def seen (g : Image → Image) (f : FrameScheduler) : FrameScheduler :=
  { armed := f.armed
    pending := f.pending.map g
    presented := f.presented.map g
    events := f.events.map (·.seen g) }

theorem kept_seen : (f.seen g).kept = f.kept.map g := by
  cases hw : f.pending <;> simp [kept, seen, hw]

theorem remains_seen : f.remains.seen g = (f.seen g).remains := by
  have hback : (f.kept.map OutputEvent.released).map (·.seen g)
      = (f.seen g).kept.map .released := by
    rw [kept_seen, List.map_map, List.map_map]
    rfl
  have hevents : f.remains.events.map (OutputEvent.seen g) = (f.seen g).remains.events := by
    rw [remains, List.map_append, List.map_append]
    exact congrArg (fun back => f.events.map (OutputEvent.seen g) ++ (back ++ [.destroyed])) hback
  simp only [seen] at hevents ⊢
  rw [hevents]
  rfl

/-- How a call shows an image from `among`, or none. -/
structure Shows (f : FrameScheduler) (among : List Image) (ok : Image → Bool)
    (shown : Option Image) (f' : FrameScheduler) : Prop where
  presented_eq : f'.presented = f.presented ++ shown.toList
  mem : ∀ image ∈ shown, image ∈ among
  ok : ∀ image ∈ shown, ok image = true

/-- A call on a surface that decides by the image goes as it does on the stage. -/
theorem schedule_seen (hs : surface.Decides (fun image => ok (g image)) Ready) (hready : Ready s)
    (image : Image) :
    ∃ submission f' shown,
      f.schedule surface image s = (submission, f', surface.after shown s) ∧
      (f.seen g).schedule (.stage ok) (g image) []
        = (submission.seen g, f'.seen g, (shown.map g).toList) ∧
      (∀ e lost, submission ≠ .fault e lost) ∧
      f.Shows [image] (fun image => ok (g image)) shown f' ∧
      (f'.armed = true → f.armed = true ∨ shown.isSome = true) := by
  cases ha : f.armed with
  | true =>
    refine ⟨.accepted, _, none, by simp only [schedule, ha, if_true]; rfl, ?_, by simp,
      ⟨by simp, by simp, by simp⟩, fun _ => .inl rfl⟩
    cases hw : f.pending <;> simp [schedule, seen, ha, hw, Submission.seen, OutputEvent.seen]
  | false =>
    cases hok : ok (g image) with
    | true =>
      have hshown := hs.shows image s hready hok
      rcases hp : surface.present image s with ⟨answer, s'⟩
      rw [hp] at hshown
      obtain rfl : answer = .done () := hshown
      refine ⟨.accepted, { f with armed := true, presented := f.presented ++ [image] }, some image,
        ?_, ?_, by simp, ⟨rfl, by simp, by simpa using hok⟩, fun _ => .inr rfl⟩
      · simp [schedule, ha, commit, hp, Surface.after]
      · simp [schedule, seen, ha, commit, Surface.stage, hok, Submission.seen]
    | false =>
      obtain ⟨cause, hp⟩ := hs.refuses image s hready hok
      refine ⟨.refused cause, f.push (.released image), none, ?_, ?_, by simp,
        ⟨by simp [push], by simp, by simp⟩, fun harmed => absurd harmed (by simp [push, ha])⟩
      · simp [schedule, ha, commit, hp, Surface.after]
      · simp [schedule, seen, ha, commit, Surface.stage, hok, Submission.seen, push,
          OutputEvent.seen]

theorem frameDone_seen (hs : surface.Decides (fun image => ok (g image)) Ready) (hready : Ready s) :
    ∃ f' shown,
      f.frameDone surface s = (none, f', surface.after shown s) ∧
      (f.seen g).frameDone (.stage ok) [] = (none, f'.seen g, (shown.map g).toList) ∧
      f.Shows f.pending.toList (fun image => ok (g image)) shown f' ∧
      (f'.armed = true → shown.isSome = true) := by
  cases ha : f.armed with
  | false =>
    refine ⟨f, none, by simp [frameDone, ha, Surface.after], ?_, ⟨by simp, by simp, by simp⟩,
      fun harmed => absurd harmed (by simp [ha])⟩
    simp [frameDone, seen, ha]
  | true =>
    cases hw : f.pending with
    | none =>
      refine ⟨{ f with armed := false }.push .frame, none, ?_, ?_,
        ⟨by simp [push], by simp, by simp⟩, fun harmed => absurd harmed (by simp [push])⟩
      · simp [frameDone, ha, hw, Surface.after]
      · simp [frameDone, seen, ha, hw, push, OutputEvent.seen]
    | some image =>
      cases hok : ok (g image) with
      | true =>
        have hshown := hs.shows image s hready hok
        rcases hp : surface.present image s with ⟨answer, s'⟩
        rw [hp] at hshown
        obtain rfl : answer = .done () := hshown
        refine ⟨{ f with
            pending := none
            presented := f.presented ++ [image]
            events := f.events ++ [.frame] }, some image, ?_, ?_,
          ⟨rfl, by simp, by simpa using hok⟩, fun _ => rfl⟩
        · simp [frameDone, ha, hw, commit, hp, push, Surface.after]
        · simp [frameDone, seen, ha, hw, commit, Surface.stage, hok, push, OutputEvent.seen]
      | false =>
        obtain ⟨cause, hp⟩ := hs.refuses image s hready hok
        refine ⟨{ f with
            armed := false
            pending := none
            events := f.events ++ [.released image] ++ [.frame] }, none, ?_, ?_,
          ⟨by simp, by simp, by simp⟩, fun harmed => absurd harmed (by simp)⟩
        · simp [frameDone, ha, hw, commit, hp, push, Surface.after]
        · simp [frameDone, seen, ha, hw, commit, Surface.stage, hok, push, OutputEvent.seen]

theorem bufferReleased_seen (hg : ∀ image, (g image).id = image.id) (id : ImageId) :
    (f.seen g).bufferReleased id = ((f.bufferReleased id).1, (f.bufferReleased id).2.seen g) := by
  have hfind := Image.find?_seen hg f.presented id
  have herase := Image.eraseP_seen hg f.presented id
  cases hshown : f.presented.find? (·.id = id) with
  | none => simp [bufferReleased, seen, hfind, hshown]
  | some image => simp [bufferReleased, seen, hfind, hshown, herase, OutputEvent.seen]

theorem bufferReleased_presented (f : FrameScheduler) (id : ImageId) :
    (f.bufferReleased id).2.presented = f.presented.eraseP (·.id = id) := by
  unfold bufferReleased
  cases hshown : f.presented.find? (·.id = id) with
  | some image => rfl
  | none => exact (List.eraseP_of_forall_not (by simpa using hshown)).symm

theorem bufferReleased_armed (f : FrameScheduler) (id : ImageId) :
    (f.bufferReleased id).2.armed = f.armed := by
  unfold bufferReleased
  split <;> rfl

/-- A released image is no longer presented. -/
theorem bufferReleased_mem (hf : f.Distinct) {id : ImageId} {image : Image}
    (himage : image ∈ (f.bufferReleased id).2.presented) :
    image ∈ f.presented ∧ image.id ≠ id := by
  rw [bufferReleased_presented] at himage
  have hold := List.mem_of_mem_eraseP himage
  refine ⟨hold, fun heq => ?_⟩
  have hids : (f.presented.map (·.id)).Nodup :=
    (((List.sublist_append_right _ _).trans (List.sublist_append_left _ _)).map _).nodup hf
  obtain ⟨released, earlier, later, hfirst, hreleased, hsplit, herased⟩ :=
    List.exists_of_eraseP (p := fun other => decide (other.id = id)) hold (decide_eq_true heq)
  rw [hsplit, List.map_append, List.map_cons, List.nodup_append] at hids
  rw [herased] at himage
  rcases List.mem_append.mp himage with hearlier | hlater
  · exact hfirst image hearlier (decide_eq_true heq)
  · have hsame : released.id = image.id := (of_decide_eq_true hreleased).trans heq.symm
    exact (List.nodup_cons.mp hids.2.1).1 (hsame ▸ List.mem_map_of_mem hlater)

theorem modeChanged_seen (mode : Mode) : (f.seen g).modeChanged mode = (f.modeChanged mode).seen g := by
  simp [modeChanged, push, seen, OutputEvent.seen]

end FrameScheduler

def Output.seen (g : Image → Image) (h : δ → δ') (o : Output δ) : Output δ' :=
  { scheduler := o.scheduler.seen g, details := h o.details }

namespace Registry

def seen (g : Image → Image) (h : δ → δ') (r : Registry δ) : Registry δ' :=
  { outputs := r.outputs.map fun entry => (entry.1, entry.2.seen g h)
    events := r.events.map (·.seen g)
    awake := r.awake
    disconnected := r.disconnected }

variable {g : Image → Image} {h : δ → δ'} {r : Registry δ}

theorem ids_seen : (r.seen g h).ids = r.ids := by
  simp [ids, seen]

theorem get?_seen (id : OutputId) : (r.seen g h).get? id = (r.get? id).map (·.seen g h) := by
  simp only [get?, seen, List.find?_map, Option.map_map]
  rfl

theorem set_seen (id : OutputId) (o : Output δ) :
    (r.set id o).seen g h = (r.seen g h).set id (o.seen g h) := by
  simp only [set, seen, List.map_map]
  congr 1
  refine List.map_congr_left fun entry _ => ?_
  by_cases heq : entry.1 = id
  · simp [heq]
  · simp [heq]

theorem collect_seen : r.collect.seen g h = (r.seen g h).collect := by
  have hmoved : (r.outputs.flatMap waiting).map (·.seen g)
      = (r.outputs.map fun entry => (entry.1, entry.2.seen g h)).flatMap waiting := by
    rw [List.map_flatMap, List.flatMap_map]
    refine List.flatMap_congr fun entry _ => ?_
    exact BackendEvent.seen_map_output g entry.1 entry.2.scheduler.events
  have hempty : (r.outputs.flatMap waiting).isEmpty
      = ((r.outputs.map fun entry => (entry.1, entry.2.seen g h)).flatMap waiting).isEmpty := by
    rw [← hmoved, List.isEmpty_map]
  simp only [collect, seen, List.map_append, hmoved, hempty, List.map_map]
  rfl

/-- What holds of every output holds after one was replaced and the events were collected. -/
theorem forall_set_collect (p : OutputId → Output δ → Prop)
    (hdrained : ∀ {id o}, p id o → p id (drained o)) {id : OutputId} {o : Output δ} (ho : p id o)
    (hothers : ∀ entry ∈ r.outputs, entry.1 ≠ id → p entry.1 entry.2) :
    ∀ entry ∈ (r.set id o).collect.outputs, p entry.1 entry.2 := by
  intro entry he
  obtain ⟨replaced, hreplaced, rfl⟩ := List.mem_map.mp he
  refine hdrained ?_
  obtain ⟨old, hold, rfl⟩ := List.mem_map.mp hreplaced
  split
  · exact ho
  · next hne => exact hothers old hold hne

theorem insert_seen (id : OutputId) (details : δ) :
    (r.insert id ⟨{}, details⟩).seen g h = (r.seen g h).insert id ⟨{}, h details⟩ := by
  simp [insert, queue, seen, Output.seen, FrameScheduler.seen, BackendEvent.seen]

theorem takeEvents_seen : r.takeEvents.2.seen g h = (r.seen g h).takeEvents.2 := rfl

/-- Ways to tear an output down differ only in what they do to the display. -/
theorem destroy_seen {teardown : Output δ → σ → FrameScheduler × σ} (hends : Ends teardown)
    {teardown' : Output δ' → τ → FrameScheduler × τ} (hends' : Ends teardown') (id : OutputId)
    (s : σ) (t : τ) :
    (r.destroy id teardown s).2.1.seen g h = ((r.seen g h).destroy id teardown' t).2.1 := by
  cases hget : r.get? id with
  | none =>
    have hget' : (r.seen g h).get? id = none := by rw [get?_seen, hget]; rfl
    rw [destroy_absent hget, destroy_absent hget']
  | some o =>
    have hget' : (r.seen g h).get? id = some (o.seen g h) := by rw [get?_seen, hget]; rfl
    have hlast : (o.scheduler.remains.events.map (BackendEvent.output id)).map (·.seen g)
        = (o.scheduler.seen g).remains.events.map (.output id) := by
      rw [BackendEvent.seen_map_output, ← FrameScheduler.remains_seen]
      rfl
    have hafter : ((r.seen g h).destroy id teardown' t).2.1
        = { r.seen g h with
          outputs := (r.seen g h).outputs.filter (·.1 ≠ id)
          events := (r.seen g h).events ++ (o.scheduler.seen g).remains.events.map (.output id)
          awake := true } := by
      simp only [destroy, hget', hends' (o.seen g h) t]
      rfl
    rw [hafter, ← hlast]
    simp only [destroy, hget, hends o s, seen, List.map_append, List.filter_map]
    rfl

theorem destroyAll_seen {teardown : Output δ → σ → FrameScheduler × σ} (hends : Ends teardown)
    {teardown' : Output δ' → τ → FrameScheduler × τ} (hends' : Ends teardown')
    (gone : List OutputId) : ∀ (r : Registry δ) (s : σ) (t : τ),
      (destroyAll teardown gone r s).1.seen g h = (destroyAll teardown' gone (r.seen g h) t).1 := by
  induction gone with
  | nil => intro r s t; rfl
  | cons id rest ih =>
    intro r s t
    rw [destroyAll, destroyAll, ih _ _ ((r.seen g h).destroy id teardown' t).2.2,
      destroy_seen hends hends' id s t]

theorem disconnect_seen {teardown : Output δ → σ → FrameScheduler × σ} (hends : Ends teardown)
    {teardown' : Output δ' → τ → FrameScheduler × τ} (hends' : Ends teardown') (s : σ) (t : τ) :
    (r.disconnect teardown s).2.1.seen g h = ((r.seen g h).disconnect teardown' t).2.1 := by
  have hlost : (r.seen g h).disconnected = r.disconnected := rfl
  cases hr : r.disconnected with
  | true => rw [disconnect_again hr, disconnect_again (hlost.trans hr)]
  | false =>
    have hall := destroyAll_seen (g := g) (h := h) hends hends' r.ids { r with disconnected := true }
      s t
    simp only [disconnect, hlost, hr, Bool.false_eq_true, if_false, ids_seen]
    simp only [queue, seen, List.map_append] at hall ⊢
    rw [← hall]
    rfl

end Registry

end Scanout
