import Scanout.Proofs.Output.Turns

/-!
# Every image is in one place

An image handed to a scheduler waits, is presented, or has come back in an
event; it is never in two of these places and never in none. `kept_perm` is the
law of one turn: what is kept afterwards and what the turn gave back are exactly
what was kept before and what was handed in. `OnePlace` sums that up over a
course, and `every_image_in_one_place` is the result.
-/

namespace Scanout

/-! ## Lists without repetitions -/

/-- The two parts of a list without repetitions have nothing in common. -/
theorem map_ne_of_nodup_append {α β : Type} {f : α → β} {l l' : List α}
    (h : ((l ++ l').map f).Nodup) {a b : α} (ha : a ∈ l) (hb : b ∈ l') : f a ≠ f b := by
  rw [List.map_append, List.nodup_append] at h
  exact h.2.2 (f a) (List.mem_map_of_mem ha) (f b) (List.mem_map_of_mem hb)

theorem nodup_map_append_new {α β : Type} {f : α → β} {l : List α} {a : α}
    (h : (l.map f).Nodup) (hnew : ∀ b ∈ l, f b ≠ f a) : ((l ++ [a]).map f).Nodup := by
  rw [List.map_append, List.nodup_append]
  refine ⟨h, by simp, fun x hx y hy => ?_⟩
  obtain ⟨b, hb, rfl⟩ := List.mem_map.mp hx
  obtain rfl : y = f a := by simpa using hy
  exact hnew b hb

namespace FrameScheduler

variable {σ : Type}

/-! ## One turn -/

theorem images_eq (f : FrameScheduler) : f.images = f.kept ++ eventImages f.events := rfl

/-- **One turn conserves images.** What is kept, given back or lost after a turn is what
was kept before and what the turn handed in. -/
theorem Effect.kept_perm {f f' : FrameScheduler} {t : Turn} (h : Effect f t f') :
    (f'.kept ++ eventImages t.queued ++ t.lost).Perm (f.kept ++ t.handedIn) := by
  rw [List.perm_iff_count]
  intro x
  cases h with
  | shown | refused | lost | ignored | completed | unknown | resized | told =>
    simp [kept, Turn.handedIn, Turn.lost]
  | queued image =>
    -- the image that waited is the one given back
    simp only [kept, Turn.handedIn, Turn.lost, List.filterMap_nil, eventImages_map_released,
      Option.toList_some, List.count_append, List.count_cons, List.count_nil]
    omega
  | followed image _ hw | followerRefused image _ _ hw | followerLost image _ _ hw =>
    simp [kept, Turn.handedIn, Turn.lost, hw, List.count_cons]
  | returned image before after hsplit =>
    simp [kept, Turn.handedIn, Turn.lost, hsplit, List.count_cons]
  | ended =>
    cases ha : f.armed <;> simp [kept, Turn.handedIn, Turn.lost]

/-- The same for everything the scheduler holds, undelivered events included, as long as
the events are not taken. -/
theorem Effect.images_perm {f f' : FrameScheduler} {t : Turn} (h : Effect f t f')
    (hcall : t.call ≠ .takeEvents) : (f'.images ++ t.lost).Perm (f.images ++ t.handedIn) := by
  have hkept := List.perm_iff_count.mp h.kept_perm
  rw [images_eq, images_eq, h.events_eq hcall, List.perm_iff_count]
  intro x
  have := hkept x
  simp only [eventImages_append, List.count_append] at this ⊢
  omega

/-- A surface that always answers loses no image. -/
theorem Turn.lost_of_answers {surface : Surface σ} (hs : surface.Answers) {t : Turn} {s s' : σ}
    (h : surface.Used t.asked s s') : t.lost = [] := by
  unfold Turn.lost
  rw [List.filterMap_eq_nil_iff]
  intro a ha
  rcases a with ⟨image, _ | _ | e⟩ | _
  · rfl
  · rfl
  · obtain ⟨s₁, hs₁⟩ := h.gave ha
    exact absurd hs₁ (hs image s₁ e)
  · rfl

/-- An image waits only behind a frame in flight. -/
def Waits (f : FrameScheduler) : Prop :=
  f.pending.isSome → f.armed

theorem Effect.waits {f f' : FrameScheduler} {t : Turn} (h : Effect f t f') (hf : f.Waits) :
    f'.Waits := by
  unfold Waits at hf ⊢
  cases h with
  | shown | queued => simp_all
  | completed _ hw => simp [hw]
  | followed | followerRefused | followerLost | ended => simp
  | refused | lost | ignored | returned | unknown | resized | told => exact hf

/-- No image is in two places of the scheduler. -/
def Distinct (f : FrameScheduler) : Prop :=
  (f.images.map (·.id)).Nodup

theorem Effect.distinct {f f' : FrameScheduler} {t : Turn} (h : Effect f t f')
    (hnew : ∀ image ∈ t.handedIn, image.id ∉ f.images.map (·.id)) (hf : f.Distinct) :
    f'.Distinct := by
  unfold Distinct at hf ⊢
  by_cases hcall : t.call = .takeEvents
  · obtain ⟨-, rfl⟩ := h.eq_of_take hcall
    -- taking the events only forgets images
    have hsub : (f.kept ++ []).Sublist (f.kept ++ eventImages f.events) :=
      (List.nil_sublist _).append_left _
    exact (hsub.map _).nodup hf
  · have hin : ((f.images ++ t.handedIn).map (·.id)).Nodup := by
      unfold Turn.handedIn at hnew ⊢
      split at hnew
      next image _ =>
        refine nodup_map_append_new hf fun other hother heq => ?_
        exact hnew image List.mem_cons_self (heq ▸ List.mem_map_of_mem hother)
      next => rwa [List.append_nil]
    have hout := ((h.images_perm hcall).map (·.id)).nodup_iff.mpr hin
    rw [List.map_append] at hout
    exact (List.sublist_append_left _ _).nodup hout

theorem Distinct.not_presented_of_pending {f : FrameScheduler} (hf : f.Distinct) {image : Image}
    (h : image ∈ f.pending.toList) : image ∉ f.presented := by
  intro hp
  have hids : ((f.pending.toList ++ f.presented).map (·.id)).Nodup :=
    ((List.sublist_append_left _ _).map _).nodup hf
  exact map_ne_of_nodup_append hids h hp rfl

/-- A turn presents behind what was presented before, and keeps the order of the rest. -/
theorem Effect.presented_sublist {f f' : FrameScheduler} {t : Turn} (h : Effect f t f') :
    f'.presented.Sublist (f.presented ++ t.committed) := by
  cases h with
  | shown | followed => exact List.Sublist.refl _
  | returned image before after hsplit =>
    rw [hsplit]
    exact ((List.sublist_cons_self image after).append_left before).trans
      (List.sublist_append_left _ _)
  | ended => exact List.nil_sublist _
  | _ => exact List.sublist_append_left _ _

/-! ## The release of one image -/

/-- The display lets go of a presented image: exactly that image comes back, and the
others stay as they are. -/
theorem Distinct.bufferReleased_eq {f : FrameScheduler} (hf : f.Distinct) {image : Image}
    {before after : List Image} (hsplit : f.presented = before ++ image :: after) :
    f.bufferReleased image.id
      = (true, { f with
          presented := before ++ after
          events := f.events ++ [.released image] }) := by
  have hsub : f.presented.Sublist f.images :=
    (List.sublist_append_right _ _).trans (List.sublist_append_left _ _)
  have hids : (f.presented.map (·.id)).Nodup := (hsub.map _).nodup hf
  refine bufferReleased_first hsplit fun other hother heq => ?_
  rw [hsplit] at hids
  exact map_ne_of_nodup_append hids hother List.mem_cons_self heq

/-! ## A whole course -/

namespace Course

/-- The images handed to the scheduler, once for every time. -/
def handedIn (c : Course σ) : List Image := c.turns.flatMap Turn.handedIn

/-- The images committed to the surface, in order. -/
def committed (c : Course σ) : List Image := c.turns.flatMap Turn.committed

/-- The images lost to presents that broke a contract. -/
def lost (c : Course σ) : List Image := c.turns.flatMap Turn.lost

/-- The images that came back, in events taken or still to be taken. -/
def cameBack (c : Course σ) : List Image := eventImages (c.taken ++ c.scheduler.events)

/-- Where the images of a course are. -/
structure OnePlace (c : Course σ) : Prop where
  waits : c.scheduler.Waits
  distinct : c.scheduler.Distinct
  /-- For each time an image was handed in, it waits, is presented, came back in one
  event, or was lost to a broken contract. -/
  conserved : c.handedIn.Perm (c.scheduler.kept ++ c.cameBack ++ c.lost)
  /-- The presented images stand in the order of their commits. -/
  ordered : c.scheduler.presented.Sublist c.committed

/-- Every image scheduled along the way is one the scheduler does not hold. -/
def Unheld (surface : Surface σ) : Course σ → List Call → Prop
  | _, [] => True
  | c, call :: rest =>
    (∀ image, call = .schedule image → image.id ∉ c.scheduler.images.map (·.id)) ∧
      Unheld surface (c.step surface call) rest

instance decidableUnheld (surface : Surface σ) :
    (c : Course σ) → (calls : List Call) → Decidable (Unheld surface c calls)
  | _, [] => isTrue trivial
  | c, call :: rest =>
    let first : Decidable
        (∀ image, call = .schedule image → image.id ∉ c.scheduler.images.map (·.id)) :=
      match call with
      | .schedule image =>
        decidable_of_iff (image.id ∉ c.scheduler.images.map (·.id))
          ⟨fun h _ heq => by cases heq; exact h, fun h => h image rfl⟩
      | .frameDone | .bufferReleased _ | .modeChanged _ | .takeEvents | .destroy =>
        isTrue fun _ heq => by cases heq
    have := decidableUnheld surface (c.step surface call) rest
    inferInstanceAs (Decidable (_ ∧ _))

theorem start_onePlace (s : σ) : (start s).OnePlace where
  waits := by simp [start, Waits]
  distinct := List.nodup_nil
  conserved := List.Perm.refl _
  ordered := List.Sublist.refl _

theorem Advance.onePlace {surface : Surface σ} {c c' : Course σ} {t : Turn}
    (h : Advance surface c t c')
    (hnew : ∀ image, t.call = .schedule image → image.id ∉ c.scheduler.images.map (·.id))
    (hc : c.OnePlace) : c'.OnePlace where
  waits := h.effect.waits hc.waits
  distinct := by
    refine h.effect.distinct (fun image himage => ?_) hc.distinct
    unfold Turn.handedIn at himage
    split at himage
    next other hcall =>
      obtain rfl : image = other := by simpa using himage
      exact hnew image hcall
    next => exact absurd himage List.not_mem_nil
  conserved := by
    -- the law of the turn is added to what held before it
    have hbefore := List.perm_iff_count.mp hc.conserved
    have hturn := List.perm_iff_count.mp h.effect.kept_perm
    rw [List.perm_iff_count]
    intro x
    have h1 := hbefore x
    have h2 := hturn x
    simp only [handedIn, cameBack, lost, h.turns_eq, h.told_eq, eventImages_append,
      List.flatMap_append, List.flatMap_singleton, List.count_append] at h1 h2 ⊢
    omega
  ordered := by
    have hsub := h.effect.presented_sublist.trans (hc.ordered.append_right _)
    simpa [committed, h.turns_eq] using hsub

theorem run_onePlace {surface : Surface σ} :
    ∀ (calls : List Call) {c : Course σ}, Unheld surface c calls → c.OnePlace →
      (c.run surface calls).OnePlace := by
  intro calls
  induction calls with
  | nil => intro c _ hc; exact hc
  | cons call rest ih =>
    intro c hun hc
    obtain ⟨t, rfl, hadvance⟩ := step_advance surface c call
    exact ih hun.2 (hadvance.onePlace hun.1 hc)

theorem run_lost_of_answers {surface : Surface σ} (hs : surface.Answers) (s : σ)
    (calls : List Call) : ((start s).run surface calls).lost = [] := by
  refine run_keeps (P := fun c => c.lost = []) ?_ rfl calls
  intro c t c' hadvance hc
  show c'.turns.flatMap Turn.lost = []
  rw [hadvance.turns_eq, List.flatMap_append]
  show c.lost ++ [t].flatMap Turn.lost = []
  rw [hc, List.flatMap_singleton, Turn.lost_of_answers hs hadvance.used]
  rfl

/-- An image that came back as often as it was handed in is not presented. -/
theorem OnePlace.not_presented {c : Course σ} (hc : c.OnePlace) {id : ImageId}
    (h : (c.handedIn.map (·.id)).count id = (c.cameBack.map (·.id)).count id) :
    ∀ image ∈ c.scheduler.presented, image.id ≠ id := by
  intro image himage heq
  -- counted by identifiers: everything handed in came back, so nothing is left to present
  have hcount := List.perm_iff_count.mp (hc.conserved.map (·.id)) id
  have hpos : 0 < (c.scheduler.presented.map (·.id)).count id :=
    List.count_pos_iff.mpr (heq ▸ List.mem_map_of_mem himage)
  simp only [kept, List.map_append, List.count_append] at hcount
  omega

/-- An image that waits, or is on its way back, is not presented as well. -/
theorem OnePlace.not_presented_of_mem {c : Course σ} (hc : c.OnePlace) {image : Image}
    (h : image ∈ c.scheduler.pending.toList ++ eventImages c.scheduler.events) :
    ∀ other ∈ c.scheduler.presented, other.id ≠ image.id := by
  intro other hother heq
  have hids := List.nodup_iff_count.mp hc.distinct image.id
  have hp : 0 < (c.scheduler.presented.map (·.id)).count image.id :=
    List.count_pos_iff.mpr (heq ▸ List.mem_map_of_mem hother)
  have hq : 0 < ((c.scheduler.pending.toList ++ eventImages c.scheduler.events).map (·.id)).count
      image.id := List.count_pos_iff.mpr (List.mem_map_of_mem h)
  simp only [images, List.map_append, List.count_append] at hids hq
  omega

theorem step_destroy_scheduler (surface : Surface σ) (c : Course σ) :
    (c.step surface .destroy).scheduler
      = { armed := false
          pending := none
          presented := []
          events := c.scheduler.events
            ++ (c.scheduler.pending.toList ++ c.scheduler.presented).map .released
            ++ [.destroyed] } := rfl

/-- **Every image is in exactly one place.** However a scheduler was used and whatever its
surface answered: an image waits only behind a frame in flight; each time an image
was handed in it waits, is presented, or came back in exactly one event (or a present
broke its contract, which a surface that answers never does); and no image is in two
places. The display's release of an image hands back exactly the presented image of
that identifier, and does nothing for one that waits, that came back as often as it was
handed in, or that was never handed in. Destroying gives back the waiting image, then
the presented ones in the order of their commits, then reports the end. -/
theorem every_image_in_one_place (surface : Surface σ) (s : σ) (calls : List Call)
    (hcalls : Unheld surface (start s) calls) :
    let c := (start s).run surface calls
    let f := c.scheduler
    c.OnePlace ∧
    (surface.Answers → c.lost = []) ∧
    (∀ before image after, f.presented = before ++ image :: after →
      f.bufferReleased image.id
        = (true, { f with
            presented := before ++ after
            events := f.events ++ [.released image] })) ∧
    (∀ image ∈ f.pending.toList ++ eventImages f.events,
      f.bufferReleased image.id = (false, f)) ∧
    (∀ id, (c.handedIn.map (·.id)).count id = (c.cameBack.map (·.id)).count id →
      f.bufferReleased id = (false, f)) ∧
    (c.step surface .destroy).scheduler
      = { armed := false
          pending := none
          presented := []
          events := f.events ++ (f.pending.toList ++ f.presented).map .released
            ++ [.destroyed] } := by
  intro c f
  have hc : c.OnePlace := run_onePlace calls hcalls (start_onePlace s)
  refine ⟨hc, fun hs => run_lost_of_answers hs s calls, ?_, ?_, ?_,
    step_destroy_scheduler surface c⟩
  · intro before image after hsplit
    exact hc.distinct.bufferReleased_eq hsplit
  · intro image himage
    exact bufferReleased_absent (hc.not_presented_of_mem himage)
  · intro id hcount
    exact bufferReleased_absent (hc.not_presented hcount)

/-- A second image takes the place of a first that waited, is refused when its turn comes,
and the first is scheduled again after it came back. -/
def errands : List Call :=
  [.schedule (.numbered 0), .schedule (.numbered 1), .schedule (.numbered 2), .frameDone,
    .takeEvents, .schedule (.numbered 1)]

theorem errands_in_one_place :
    Unheld .fickle (start 0) errands ∧
    ((start 0).run .fickle errands).OnePlace ∧
    ((start 0).run .fickle errands).cameBack = [.numbered 1, .numbered 2] ∧
    ((start 0).run .fickle errands).scheduler.bufferReleased ⟨0⟩
      = (true, { armed := true, presented := [.numbered 1], events := [.released (.numbered 0)] }) :=
  have h := every_image_in_one_place .fickle 0 errands (by decide)
  ⟨by decide, h.1, by decide, h.2.2.1 [] (.numbered 0) [.numbered 1] (by decide)⟩

end Course

end FrameScheduler

end Scanout
