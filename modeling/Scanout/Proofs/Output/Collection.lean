import Mathlib.Data.List.Nodup
import Mathlib.Data.List.Pairwise
import Mathlib.Data.List.Perm.Basic
import Scanout.Output.Registry
import Scanout.Proofs.Output.Conservation

/-!
# The images of a display

What the outputs of a display hold, and what is on its way back in the display's
queue, are all the images the display has. Moving events between the outputs and
the queue, releasing an image and tearing outputs down only move images around;
a turn of one output adds what the turn was handed.

An operation on one output changes the list of outputs in one place. `At` names
that place, and the laws of the operations are stated over it.
-/

namespace Scanout

/-- The images inside the events of a display. -/
def returnedImages (events : List BackendEvent) : List Image :=
  events.filterMap fun
    | .output _ (.released image) => some image
    | _ => none

@[simp] theorem returnedImages_nil : returnedImages [] = [] := rfl

@[simp] theorem returnedImages_append (es es' : List BackendEvent) :
    returnedImages (es ++ es') = returnedImages es ++ returnedImages es' :=
  List.filterMap_append

@[simp] theorem returnedImages_newOutput (id : OutputId) : returnedImages [.newOutput id] = [] := rfl

@[simp] theorem returnedImages_disconnected : returnedImages [.disconnected] = [] := rfl

@[simp] theorem returnedImages_map_output (id : OutputId) (es : List OutputEvent) :
    returnedImages (es.map (.output id)) = FrameScheduler.eventImages es := by
  induction es with
  | nil => rfl
  | cons e rest ih =>
    cases e with
    | released image => exact congrArg (image :: ·) ih
    | frame | mode | destroyed => exact ih

/-- What is left of a scheduler whose output is gone: its events, with the images it
gave back and the end. -/
def FrameScheduler.remains (f : FrameScheduler) : FrameScheduler :=
  { events := f.events ++ (f.kept.map .released ++ [.destroyed]) }

theorem FrameScheduler.destroy_remains {σ : Type} (surface : Surface σ) (f : FrameScheduler)
    (s : σ) : (f.destroy surface s).1 = f.remains := by
  simp [destroy, remains, kept]

theorem FrameScheduler.remains_images (f : FrameScheduler) :
    (eventImages f.remains.events).Perm f.images := by
  simpa [remains, images_eq] using List.perm_append_comm

/-- The image a call gives back at once because it named no output. -/
def ScheduleOutcome.handedBack : ScheduleOutcome → List Image
  | submitted _ => []
  | unknownOutput image => [image]

namespace Registry

variable {δ σ : Type}

/-- Every image that an output holds or that is about to be delivered. -/
def images (r : Registry δ) : List Image :=
  r.outputs.flatMap (·.2.scheduler.images) ++ returnedImages r.events

theorem mem_images_of_presented {r : Registry δ} {entry : OutputId × Output δ}
    (he : entry ∈ r.outputs) {image : Image} (hi : image ∈ entry.2.scheduler.presented) :
    image ∈ r.images := by
  refine List.mem_append_left _ (List.mem_flatMap.mpr ⟨entry, he, ?_⟩)
  simp [FrameScheduler.images, hi]

/-! ## One output among the others -/

/-- Where an output stands in the list. -/
structure At (r : Registry δ) (id : OutputId) (o : Output δ)
    (before after : List (OutputId × Output δ)) : Prop where
  outputs_eq : r.outputs = before ++ (id, o) :: after
  before_ne : ∀ entry ∈ before, entry.1 ≠ id
  after_ne : ∀ entry ∈ after, entry.1 ≠ id

/-- With distinct identifiers, every output has its place. -/
theorem at_of_split {r : Registry δ} (hids : r.ids.Nodup) {id : OutputId} {o : Output δ}
    {before after : List (OutputId × Output δ)} (hsplit : r.outputs = before ++ (id, o) :: after) :
    r.At id o before after := by
  have hids' : (before.map (·.1) ++ id :: after.map (·.1)).Nodup := by
    simpa [ids, hsplit] using hids
  obtain ⟨-, hafter, hbefore⟩ := List.nodup_append.mp hids'
  refine ⟨hsplit, fun entry he => ?_, fun entry he heq => ?_⟩
  · exact hbefore entry.1 (List.mem_map_of_mem he) id List.mem_cons_self
  · exact (List.nodup_cons.mp hafter).1 (heq ▸ List.mem_map_of_mem he)

theorem at_of_mem {r : Registry δ} (hids : r.ids.Nodup) {id : OutputId} {o : Output δ}
    (h : (id, o) ∈ r.outputs) : ∃ before after, r.At id o before after := by
  obtain ⟨before, after, hsplit⟩ := List.append_of_mem h
  exact ⟨before, after, at_of_split hids hsplit⟩

theorem mem_of_get? {r : Registry δ} {id : OutputId} {o : Output δ} (h : r.get? id = some o) :
    (id, o) ∈ r.outputs := by
  obtain ⟨entry, hfind, rfl⟩ := Option.map_eq_some_iff.mp h
  obtain rfl : entry.1 = id := by simpa using List.find?_some hfind
  exact List.mem_of_find?_eq_some hfind

theorem At.get? {r : Registry δ} {id : OutputId} {o : Output δ}
    {before after : List (OutputId × Output δ)} (h : r.At id o before after) :
    r.get? id = some o := by
  have hnone : before.find? (·.1 = id) = none := by simpa using h.before_ne
  simp [Registry.get?, h.outputs_eq, List.find?_append, hnone]

theorem get?_of_mem {r : Registry δ} (hids : r.ids.Nodup) {id : OutputId} {o : Output δ}
    (h : (id, o) ∈ r.outputs) : r.get? id = some o := by
  obtain ⟨before, after, hat⟩ := at_of_mem hids h
  exact hat.get?

theorem get?_eq_none {r : Registry δ} {id : OutputId} : r.get? id = none ↔ id ∉ r.ids := by
  rw [get?, ids, Option.map_eq_none_iff, List.find?_eq_none, List.mem_map]
  constructor
  · rintro h ⟨entry, he, heq⟩
    exact h entry he (decide_eq_true heq)
  · intro h entry he heq
    exact h ⟨entry, he, of_decide_eq_true heq⟩

/-- A search finds the one output that it can find. -/
theorem find?_of_unique {r : Registry δ} (hids : r.ids.Nodup) {id : OutputId} {o : Output δ}
    (hget : r.get? id = some o) {p : Output δ → Bool} (ho : p o = true)
    (honly : ∀ entry ∈ r.outputs, p entry.2 = true → entry.1 = id) :
    r.find? p = some (id, o) := by
  cases hfound : r.find? p with
  | none => exact absurd ho (List.find?_eq_none.mp hfound _ (mem_of_get? hget))
  | some entry =>
    obtain ⟨id', o'⟩ := entry
    have hmem : (id', o') ∈ r.outputs := List.mem_of_find?_eq_some hfound
    have hp : p o' = true := by simpa using List.find?_some hfound
    obtain rfl : id' = id := honly _ hmem hp
    have hsame : o' = o := Option.some.inj ((get?_of_mem hids hmem).symm.trans hget)
    rw [hsame]

/-- Replacing an output leaves the others where they are. -/
theorem At.set_eq {r : Registry δ} {id : OutputId} {o : Output δ}
    {before after : List (OutputId × Output δ)} (h : r.At id o before after) (o' : Output δ) :
    r.set id o' = { r with outputs := before ++ (id, o') :: after } := by
  have hkeep : ∀ entries : List (OutputId × Output δ), (∀ entry ∈ entries, entry.1 ≠ id) →
      entries.map (fun entry => if entry.1 = id then (id, o') else entry) = entries := by
    intro entries hne
    exact (List.map_congr_left fun entry he => if_neg (hne entry he)).trans (List.map_id' _)
  unfold set
  rw [h.outputs_eq, List.map_append, List.map_cons, hkeep before h.before_ne,
    hkeep after h.after_ne, if_pos rfl]

/-- Removing an output leaves the others where they are. -/
theorem At.filter_eq {r : Registry δ} {id : OutputId} {o : Output δ}
    {before after : List (OutputId × Output δ)} (h : r.At id o before after) :
    r.outputs.filter (·.1 ≠ id) = before ++ after := by
  have hkeep : ∀ entries : List (OutputId × Output δ), (∀ entry ∈ entries, entry.1 ≠ id) →
      entries.filter (·.1 ≠ id) = entries := by
    intro entries hne
    exact List.filter_eq_self.mpr fun entry he => decide_eq_true (hne entry he)
  rw [h.outputs_eq, List.filter_append, List.filter_cons_of_neg (by simp),
    hkeep before h.before_ne, hkeep after h.after_ne]

theorem At.ids_set {r : Registry δ} {id : OutputId} {o : Output δ}
    {before after : List (OutputId × Output δ)} (h : r.At id o before after) (o' : Output δ) :
    (r.set id o').ids = r.ids := by
  simp [h.set_eq, ids, h.outputs_eq]

theorem distinct_of_mem {r : Registry δ} (hd : (r.images.map (·.id)).Nodup)
    {entry : OutputId × Output δ} (he : entry ∈ r.outputs) : entry.2.scheduler.Distinct := by
  have hall : ((r.outputs.flatMap (·.2.scheduler.images)).map (·.id)).Nodup :=
    ((List.sublist_append_left _ _).map _).nodup hd
  rw [List.map_flatMap, List.nodup_flatMap] at hall
  exact hall.1 entry he

/-- No two presented images have one identifier, whatever outputs present them. -/
theorem presented_unique {r : Registry δ} (hd : (r.images.map (·.id)).Nodup)
    {entry entry' : OutputId × Output δ} (he : entry ∈ r.outputs) (he' : entry' ∈ r.outputs)
    {image image' : Image} (hi : image ∈ entry.2.scheduler.presented)
    (hi' : image' ∈ entry'.2.scheduler.presented) (heq : image.id = image'.id) :
    entry = entry' ∧ image = image' := by
  have hall : ((r.outputs.flatMap (·.2.scheduler.images)).map (·.id)).Nodup :=
    ((List.sublist_append_left _ _).map _).nodup hd
  rw [List.map_flatMap, List.nodup_flatMap] at hall
  obtain ⟨hone, hpair⟩ := hall
  have hmem : ∀ {e : OutputId × Output δ} {i : Image}, i ∈ e.2.scheduler.presented →
      i ∈ e.2.scheduler.images := by
    intro e i h
    simp [FrameScheduler.images, h]
  -- an image of another output has another identifier
  have hsame : entry = entry' := by
    by_contra hne
    have : Std.Symm (Function.onFun List.Disjoint fun entry : OutputId × Output δ =>
        entry.2.scheduler.images.map (·.id)) := ⟨fun _ _ h => List.disjoint_symm h⟩
    have hdisj := hpair.forall he he' hne
    exact hdisj (List.mem_map_of_mem (hmem hi)) (heq ▸ List.mem_map_of_mem (hmem hi'))
  subst hsame
  exact ⟨rfl, List.inj_on_of_nodup_map (hone entry he) (hmem hi) (hmem hi') heq⟩

/-! ## Moving images -/

/-- After an output was replaced, its old images are gone and its new ones are there. -/
theorem At.set_images {r : Registry δ} {id : OutputId} {o : Output δ}
    {before after : List (OutputId × Output δ)} (h : r.At id o before after) (o' : Output δ) :
    ((r.set id o').images ++ o.scheduler.images).Perm (r.images ++ o'.scheduler.images) := by
  rw [List.perm_iff_count]
  intro x
  simp only [images, h.set_eq, h.outputs_eq, List.flatMap_append, List.flatMap_cons,
    List.count_append]
  omega

/-- A turn of one output adds to the display what the turn was handed. -/
theorem At.turn_images {r : Registry δ} {id : OutputId} {o : Output δ}
    {before after : List (OutputId × Output δ)} (h : r.At id o before after)
    {t : FrameScheduler.Turn} {f : FrameScheduler} (heffect : o.scheduler.Effect t f)
    (hcall : t.call ≠ .takeEvents) (details : δ) :
    ((r.set id ⟨f, details⟩).images ++ t.lost).Perm (r.images ++ t.handedIn) := by
  have hset := List.perm_iff_count.mp (h.set_images ⟨f, details⟩)
  have hturn := List.perm_iff_count.mp (heffect.images_perm hcall)
  rw [List.perm_iff_count]
  intro x
  have h1 := hset x
  have h2 := hturn x
  simp only [List.count_append] at h1 h2 ⊢
  omega

/-- The same for a call on a scheduler, over a surface that always answers. -/
theorem perform_images {r : Registry δ} (hids : r.ids.Nodup) {surface : Surface σ}
    (hs : surface.Answers) {id : OutputId} {o : Output δ} (hget : r.get? id = some o)
    {call : FrameScheduler.Call} (hcall : call ≠ .takeEvents) (s : σ) (details : δ) :
    (r.set id ⟨(call.perform surface o.scheduler s).1, details⟩).images.Perm
      (r.images ++ FrameScheduler.Turn.handedIn ⟨call, [], []⟩) := by
  obtain ⟨before, after, hat⟩ := at_of_mem hids (mem_of_get? hget)
  obtain ⟨asked, queued, -, hused, heffect⟩ :=
    FrameScheduler.perform_effect surface call o.scheduler s []
  have hperm := hat.turn_images heffect hcall details
  rwa [FrameScheduler.Turn.lost_of_answers hs hused, List.append_nil] at hperm

theorem insert_ids (r : Registry δ) (id : OutputId) (o : Output δ) :
    (r.insert id o).ids = r.ids ++ [id] := by
  simp [insert, queue, ids]

/-- A new output with the next number keeps the identifiers distinct. -/
theorem insert_numbered {r : Registry δ} {n : Nat} (hids : r.ids.Nodup)
    (hbelow : ∀ id ∈ r.ids, id.number < n) (o : Output δ) :
    (r.insert ⟨n⟩ o).ids.Nodup ∧ ∀ id ∈ (r.insert ⟨n⟩ o).ids, id.number < n + 1 := by
  rw [insert_ids]
  refine ⟨?_, fun id hid => ?_⟩
  · have hnew : ∀ id ∈ r.ids, id ≠ ⟨n⟩ := by
      rintro id hid rfl
      exact Nat.lt_irrefl n (hbelow _ hid)
    simpa using nodup_map_append_new (f := fun id => id) (by simpa using hids) hnew
  · rcases List.mem_append.mp hid with hid | hid
    · exact Nat.lt_succ_of_lt (hbelow id hid)
    · obtain rfl := List.mem_singleton.mp hid
      exact Nat.lt_succ_self n

theorem insert_images (r : Registry δ) (id : OutputId) (details : δ) :
    (r.insert id ⟨{}, details⟩).images = r.images := by
  simp [insert, queue, images, FrameScheduler.images]

theorem waiting_images (entry : OutputId × Output δ) :
    returnedImages (waiting entry) = FrameScheduler.eventImages entry.2.scheduler.events := by
  simp [waiting]

theorem collect_ids (r : Registry δ) : r.collect.ids = r.ids := List.map_map

/-- Collecting the events moves images from the outputs into the queue. -/
theorem collect_images (r : Registry δ) : r.collect.images.Perm r.images := by
  have hmoved : ∀ entries : List (OutputId × Output δ),
      ((entries.map fun entry => (entry.1, drained entry.2)).flatMap (·.2.scheduler.images)
        ++ returnedImages (entries.flatMap waiting)).Perm
      (entries.flatMap (·.2.scheduler.images)) := by
    intro entries
    rw [List.perm_iff_count]
    intro x
    induction entries with
    | nil => simp
    | cons entry rest ih =>
      simp only [List.map_cons, List.flatMap_cons, returnedImages_append, List.count_append,
        waiting_images, drained, FrameScheduler.takeEvents, FrameScheduler.images,
        FrameScheduler.eventImages_nil, List.count_nil] at ih ⊢
      omega
  have h := List.perm_iff_count.mp (hmoved r.outputs)
  rw [List.perm_iff_count]
  intro x
  have hx := h x
  simp only [collect, images, returnedImages_append, List.count_append] at hx ⊢
  omega

/-! ## The release of an image -/

/-- A release goes to the first output that presents the image, if there is one. -/
theorem releaseIn_cases (image : ImageId) (entries : List (OutputId × Output δ)) :
    ((∀ entry ∈ entries, ∀ shown ∈ entry.2.scheduler.presented, shown.id ≠ image) ∧
      releaseIn image entries = (false, entries)) ∨
    ∃ before id o after shown earlier later,
      entries = before ++ (id, o) :: after ∧ shown.id = image ∧
      o.scheduler.presented = earlier ++ shown :: later ∧
      (∀ other ∈ earlier, other.id ≠ image) ∧
      releaseIn image entries
        = (true, before ++ (id, { o with scheduler := { o.scheduler with
            presented := earlier ++ later
            events := o.scheduler.events ++ [.released shown] } }) :: after) := by
  induction entries with
  | nil => exact .inl ⟨fun _ h => absurd h List.not_mem_nil, rfl⟩
  | cons entry rest ih =>
    obtain ⟨id, o⟩ := entry
    cases hfind : o.scheduler.presented.find? (·.id = image) with
    | some shown =>
      obtain ⟨hid, earlier, later, hsplit, hearlier⟩ := List.find?_eq_some_iff_append.mp hfind
      obtain rfl : shown.id = image := by simpa using hid
      have hfirst : ∀ other ∈ earlier, other.id ≠ shown.id := by simpa using hearlier
      refine .inr ⟨[], id, o, rest, shown, earlier, later, rfl, rfl, hsplit, hfirst, ?_⟩
      simp [releaseIn, FrameScheduler.bufferReleased_first hsplit hfirst]
    | none =>
      -- this output does not present the image, so the release goes on to the rest
      have habsent : ∀ shown ∈ o.scheduler.presented, shown.id ≠ image := by simpa using hfind
      rcases ih with ⟨hrest, hsame⟩ |
        ⟨before, id', o', after, shown, earlier, later, rfl, hid, hsplit, hfirst, hrel⟩
      · refine .inl ⟨?_, by simp [releaseIn, FrameScheduler.bufferReleased_absent habsent, hsame]⟩
        intro entry he
        rcases List.mem_cons.mp he with rfl | he
        · exact habsent
        · exact hrest entry he
      · refine .inr ⟨(id, o) :: before, id', o', after, shown, earlier, later, rfl, hid, hsplit,
          hfirst, ?_⟩
        simp [releaseIn, FrameScheduler.bufferReleased_absent habsent, hrel]

/-- A release goes to the output that presents the image. -/
theorem bufferReleased_eq {r : Registry δ} (hids : r.ids.Nodup)
    (hd : (r.images.map (·.id)).Nodup) {id : OutputId} {o : Output δ} (hget : r.get? id = some o)
    {image : Image} (himage : image ∈ o.scheduler.presented) :
    (r.bufferReleased image.id).2
      = (r.set id ⟨(o.scheduler.bufferReleased image.id).2, o.details⟩).collect := by
  have hmem := mem_of_get? hget
  rcases releaseIn_cases image.id r.outputs with ⟨hnone, -⟩ |
    ⟨before, id', o', after, shown, earlier, later, hout, hshown, hsplit, hfirst, hrel⟩
  · exact absurd rfl (hnone _ hmem image himage)
  · have hmem' : (id', o') ∈ r.outputs := by simp [hout]
    obtain ⟨hsame, rfl⟩ := presented_unique hd hmem' hmem
      (show shown ∈ o'.scheduler.presented by simp [hsplit]) himage hshown
    obtain ⟨rfl, rfl⟩ := Prod.mk.inj hsame
    have hreleased := FrameScheduler.bufferReleased_first hsplit hfirst
    rw [(at_of_split hids hout).set_eq, hreleased]
    simp only [bufferReleased, hrel]

/-- A release moves an image from an output into the queue, if it does anything. -/
theorem bufferReleased_images (r : Registry δ) (image : ImageId) :
    (r.bufferReleased image).2.images.Perm r.images := by
  rcases releaseIn_cases image r.outputs with ⟨-, hsame⟩ |
    ⟨before, id, o, after, shown, earlier, later, hout, -, hsplit, -, hrel⟩
  · simp [bufferReleased, hsame]
  · simp only [bufferReleased, hrel]
    refine (collect_images _).trans ?_
    rw [List.perm_iff_count]
    intro x
    simp only [images, hout, List.flatMap_append, List.flatMap_cons, FrameScheduler.images, hsplit,
      FrameScheduler.eventImages_append, FrameScheduler.eventImages_released,
      FrameScheduler.eventImages_nil, List.count_append, List.count_cons, List.count_nil]
    omega

theorem bufferReleased_ids (r : Registry δ) (image : ImageId) :
    (r.bufferReleased image).2.ids = r.ids := by
  rcases releaseIn_cases image r.outputs with ⟨-, hsame⟩ |
    ⟨before, id, o, after, shown, earlier, later, hout, -, -, -, hrel⟩
  · simp [bufferReleased, hsame]
  · simp only [bufferReleased, hrel]
    rw [collect_ids]
    simp [ids, hout]

theorem bufferReleased_disconnected (r : Registry δ) (image : ImageId) :
    (r.bufferReleased image).2.disconnected = r.disconnected := by
  unfold bufferReleased
  split <;> rfl

/-! ## Teardown -/

/-- A teardown that ends the output's scheduler, whatever else it does. -/
def Ends (teardown : Output δ → σ → FrameScheduler × σ) : Prop :=
  ∀ o s, (teardown o s).1 = o.scheduler.remains

/-- The last events of an output. -/
def lastEvents (entry : OutputId × Output δ) : List BackendEvent :=
  entry.2.scheduler.remains.events.map (.output entry.1)

theorem lastEvents_images (entry : OutputId × Output δ) :
    (returnedImages (lastEvents entry)).Perm entry.2.scheduler.images := by
  rw [lastEvents, returnedImages_map_output]
  exact entry.2.scheduler.remains_images

/-- Removing an output queues its last events. -/
theorem At.destroy_eq {r : Registry δ} {id : OutputId} {o : Output δ}
    {before after : List (OutputId × Output δ)} (h : r.At id o before after)
    {teardown : Output δ → σ → FrameScheduler × σ} (hends : Ends teardown) (s : σ) :
    r.destroy id teardown s
      = (true,
        { r with
          outputs := before ++ after
          events := r.events ++ lastEvents (id, o)
          awake := true },
        (teardown o s).2) := by
  simp only [destroy, h.get?, h.filter_eq, lastEvents, hends o s]

theorem destroy_disconnected (r : Registry δ) (id : OutputId)
    (teardown : Output δ → σ → FrameScheduler × σ) (s : σ) :
    (r.destroy id teardown s).2.1.disconnected = r.disconnected := by
  unfold destroy
  split <;> rfl

/-- What is removed is gone. -/
theorem get?_destroy (r : Registry δ) (id : OutputId)
    (teardown : Output δ → σ → FrameScheduler × σ) (s : σ) :
    (r.destroy id teardown s).2.1.get? id = none := by
  unfold destroy
  split
  · next h => exact h
  · rw [get?_eq_none]
    intro hid
    obtain ⟨entry, he, heq⟩ := List.mem_map.mp hid
    exact of_decide_eq_true (List.mem_filter.mp he).2 heq

theorem destroy_absent {r : Registry δ} {id : OutputId} (h : r.get? id = none)
    (teardown : Output δ → σ → FrameScheduler × σ) (s : σ) :
    r.destroy id teardown s = (false, r, s) := by
  simp [destroy, h]

/-- Removing an output moves its images into the queue. -/
theorem destroy_images {r : Registry δ} (hids : r.ids.Nodup)
    {teardown : Output δ → σ → FrameScheduler × σ} (hends : Ends teardown) (id : OutputId) (s : σ) :
    (r.destroy id teardown s).2.1.images.Perm r.images := by
  cases hget : r.get? id with
  | none => rw [destroy_absent hget]
  | some o =>
    obtain ⟨before, after, hat⟩ := at_of_mem hids (mem_of_get? hget)
    have hlast := List.perm_iff_count.mp (lastEvents_images (id, o))
    rw [hat.destroy_eq hends, List.perm_iff_count]
    intro x
    have hx := hlast x
    simp only [images, hat.outputs_eq, List.flatMap_append, List.flatMap_cons,
      returnedImages_append, List.count_append] at hx ⊢
    omega

/-- Removing an output adds none and changes none. -/
theorem destroy_outputs (r : Registry δ) (id : OutputId)
    (teardown : Output δ → σ → FrameScheduler × σ) (s : σ) :
    (r.destroy id teardown s).2.1.outputs.Sublist r.outputs := by
  unfold destroy
  split
  · exact List.Sublist.refl _
  · exact List.filter_sublist

theorem destroy_ids (r : Registry δ) (id : OutputId)
    (teardown : Output δ → σ → FrameScheduler × σ) (s : σ) :
    (r.destroy id teardown s).2.1.ids = r.ids.filter (· ≠ id) := by
  unfold destroy
  split
  · next hget =>
    refine (List.filter_eq_self.mpr fun other hother => decide_eq_true ?_).symm
    rintro rfl
    exact get?_eq_none.mp hget hother
  · rw [ids, ids, List.filter_map]
    rfl

/-- What every teardown keeps is kept when outputs are removed. -/
theorem destroy_keeps {P : σ → Prop} {teardown : Output δ → σ → FrameScheduler × σ}
    (hkeeps : ∀ o s, P s → P (teardown o s).2) (r : Registry δ) (id : OutputId) {s : σ} (h : P s) :
    P (r.destroy id teardown s).2.2 := by
  unfold destroy
  split
  · exact h
  · next o _ => exact hkeeps o s h

theorem disconnect_keeps {P : σ → Prop} {teardown : Output δ → σ → FrameScheduler × σ}
    (hkeeps : ∀ o s, P s → P (teardown o s).2) (r : Registry δ) {s : σ} (h : P s) :
    P (r.disconnect teardown s).2.2 := by
  have hall : ∀ (ids : List OutputId) (r : Registry δ) {s : σ}, P s →
      P (destroyAll teardown ids r s).2 := by
    intro ids
    induction ids with
    | nil => exact fun _ _ h => h
    | cons id rest ih => exact fun r _ h => ih _ (destroy_keeps hkeeps r id h)
  unfold disconnect
  split
  · exact h
  · exact hall _ _ h

/-- Removing all outputs empties the list and queues their last events in order. -/
theorem destroyAll_eq {teardown : Output δ → σ → FrameScheduler × σ} (hends : Ends teardown) :
    ∀ (entries : List (OutputId × Output δ)) (r : Registry δ) (s : σ), r.outputs = entries →
      r.ids.Nodup →
      (destroyAll teardown (entries.map (·.1)) r s).1
        = { r with
          outputs := []
          events := r.events ++ entries.flatMap lastEvents
          awake := r.awake || !entries.isEmpty } := by
  intro entries
  induction entries with
  | nil =>
    intro r s hout _
    show r = { r with outputs := [], events := r.events ++ [], awake := r.awake || false }
    rw [← hout, List.append_nil, Bool.or_false]
  | cons entry rest ih =>
    intro r s hout hids
    have hat : r.At entry.1 entry.2 [] rest := at_of_split hids hout
    have hnodup : (rest.map (·.1)).Nodup := by
      have hnd : (entry.1 :: rest.map (·.1)).Nodup := by simpa [ids, hout] using hids
      exact (List.nodup_cons.mp hnd).2
    simp only [List.map_cons, destroyAll, hat.destroy_eq hends, List.nil_append]
    rw [ih { r with outputs := rest, events := r.events ++ lastEvents entry, awake := true }
      (teardown entry.2 s).2 rfl hnodup]
    simp [List.flatMap_cons, List.append_assoc]

/-- When the connection is lost, every output is gone and has queued its last events, and
the loss is queued behind them. -/
theorem disconnect_eq {r : Registry δ} (hids : r.ids.Nodup)
    {teardown : Output δ → σ → FrameScheduler × σ} (hends : Ends teardown)
    (hlive : r.disconnected = false) (s : σ) :
    (r.disconnect teardown s).2.1
      = { outputs := []
          events := r.events ++ r.outputs.flatMap lastEvents ++ [.disconnected]
          awake := true
          disconnected := true } := by
  have h := destroyAll_eq hends r.outputs { r with disconnected := true } s rfl hids
  simp only [disconnect, hlive, Bool.false_eq_true, if_false]
  show Registry.queue (destroyAll teardown (r.outputs.map (·.1)) _ s).1 .disconnected = _
  rw [h]
  rfl

theorem disconnect_again {r : Registry δ} (hlost : r.disconnected = true)
    (teardown : Output δ → σ → FrameScheduler × σ) (s : σ) :
    r.disconnect teardown s = (false, r, s) := by
  simp [disconnect, hlost]

theorem disconnect_outputs {r : Registry δ} (hids : r.ids.Nodup)
    {teardown : Output δ → σ → FrameScheduler × σ} (hends : Ends teardown) (s : σ) :
    (r.disconnect teardown s).2.1.outputs.Sublist r.outputs := by
  cases hlive : r.disconnected with
  | true => rw [disconnect_again hlive]
  | false =>
    rw [disconnect_eq hids hends hlive]
    exact List.nil_sublist _

/-- Losing the connection moves every image into the queue. -/
theorem disconnect_images {r : Registry δ} (hids : r.ids.Nodup)
    {teardown : Output δ → σ → FrameScheduler × σ} (hends : Ends teardown) (s : σ) :
    (r.disconnect teardown s).2.1.images.Perm r.images := by
  cases hlive : r.disconnected with
  | true => rw [disconnect_again hlive]
  | false =>
    have hlast : (r.outputs.flatMap fun entry => returnedImages (lastEvents entry)).Perm
        (r.outputs.flatMap (·.2.scheduler.images)) :=
      List.Perm.flatMap_left _ fun entry _ => lastEvents_images entry
    have hmoved : ∀ entries : List (OutputId × Output δ),
        returnedImages (entries.flatMap lastEvents)
          = entries.flatMap fun entry => returnedImages (lastEvents entry) := by
      intro entries
      induction entries with
      | nil => rfl
      | cons entry rest ih => simp only [List.flatMap_cons, returnedImages_append, ih]
    rw [disconnect_eq hids hends hlive]
    simp only [images, List.flatMap_nil, List.nil_append, returnedImages_append, hmoved,
      returnedImages_disconnected, List.append_nil]
    exact List.perm_append_comm.trans (hlast.append_right _)

end Registry

end Scanout
