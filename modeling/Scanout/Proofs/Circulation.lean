import Scanout.Proofs.Output.Collection
import Scanout.Proofs.Swapchain.Slots

/-!
# Images going around

A compositor acquires images from a swapchain, schedules them on the outputs of a
display and gives every image that comes back to the swapchain. An image that is out
is in its hand or with the display: it waits, is presented, or is on its way back in
an event. `Inv` says that these images and those in the slots are together the ones
the swapchain was made with, each with the identifier and the owner it had then, and
`images_come_around` draws the consequences: no release is ever a fault, and once everything
has come back the swapchain can be destroyed.
-/

namespace Scanout

variable {δ σ : Type}

namespace Registry

/-- Shows an image on an output, over surfaces with what they keep for each output and
what they share. -/
def scheduleFrame (surface : Surface (δ × σ)) (r : Registry δ) (id : OutputId) (image : Image)
    (shared : σ) : ScheduleOutcome × Registry δ × σ :=
  match r.get? id with
  | none => (.unknownOutput image, r, shared)
  | some o =>
    let (submission, f, details, shared) := o.scheduler.schedule surface image (o.details, shared)
    (.submitted submission, r.set id ⟨f, details⟩, shared)

/-- Makes a call on the scheduler of an output, if the output is there. -/
def callOn (surface : Surface (δ × σ)) (r : Registry δ) (id : OutputId)
    (call : FrameScheduler.Call) (shared : σ) : Registry δ × σ :=
  match r.get? id with
  | none => (r, shared)
  | some o =>
    let (f, details, shared) := call.perform surface o.scheduler (o.details, shared)
    (r.set id ⟨f, details⟩, shared)

/-- Ends an output by destroying its scheduler. -/
def teardownWith (surface : Surface (δ × σ)) (o : Output δ) (shared : σ) : FrameScheduler × σ :=
  let (f, _, shared) := o.scheduler.destroy surface (o.details, shared)
  (f, shared)

end Registry

/-- A compositor with its swapchain and its display. -/
structure Circulation (δ σ : Type) where
  chain : Swapchain
  registry : Registry δ := {}
  /-- What the surfaces of the display share. -/
  shared : σ
  /-- The images the compositor holds. -/
  hand : List Image := []
  outputsMade : Nat := 0
  /-- The images scheduled so far, as they were then. -/
  scheduled : List Image := []
  /-- The images that came back from the display so far, as they were then. -/
  returned : List Image := []
  deriving DecidableEq, Repr

namespace Circulation

/-- What can happen next. -/
inductive Move (δ : Type) where
  | acquire
  /-- A held image goes back to the swapchain. -/
  | release (image : Image)
  /-- The compositor changes what is kept in the slots of a held image. -/
  | change (image : Image) (backend renderer user : DataSlot)
  | createOutput (details : δ)
  | schedule (id : OutputId) (image : Image)
  | frameDone (id : OutputId)
  /-- The display lets go of an image, and says on which output. -/
  | letGoOn (id : OutputId) (image : ImageId)
  /-- The display lets go of an image. -/
  | letGo (image : ImageId)
  | modeChanged (id : OutputId) (mode : Mode)
  | collect
  | destroyOutput (id : OutputId)
  | loseConnection
  | takeEvents
  deriving DecidableEq, Repr

def start (chain : Swapchain) (shared : σ) : Circulation δ σ :=
  { chain := chain, shared := shared }

def call (surface : Surface (δ × σ)) (w : Circulation δ σ) (id : OutputId)
    (call : FrameScheduler.Call) : Circulation δ σ :=
  let (registry, shared) := w.registry.callOn surface id call w.shared
  { w with registry := registry, shared := shared }

def step (surface : Surface (δ × σ)) (w : Circulation δ σ) : Move δ → Circulation δ σ
  | .acquire =>
    let (image, chain) := w.chain.acquire
    { w with chain := chain, hand := w.hand ++ image.toList }
  | .release image =>
    if image ∈ w.hand then
      match w.chain.release image with
      | .ok chain => { w with chain := chain, hand := w.hand.erase image }
      -- excluded by `Inv.release_ok`
      | .error _ => w
    else w
  | .change image backend renderer user =>
    if image ∈ w.hand then
      { w with hand := w.hand.erase image ++
          [{ image with backendData := backend, rendererData := renderer, userData := user }] }
    else w
  | .createOutput details =>
    if w.registry.disconnected then w
    else
      { w with
        registry := w.registry.insert ⟨w.outputsMade⟩ ⟨{}, details⟩
        outputsMade := w.outputsMade + 1 }
  | .schedule id image =>
    if image ∈ w.hand then
      let (outcome, registry, shared) := w.registry.scheduleFrame surface id image w.shared
      { w with
        registry := registry
        shared := shared
        hand := w.hand.erase image ++ outcome.handedBack
        scheduled := w.scheduled ++ [image]
        returned := w.returned ++ outcome.handedBack }
    else w
  | .frameDone id => w.call surface id .frameDone
  | .letGoOn id image => w.call surface id (.bufferReleased image)
  | .letGo image => { w with registry := (w.registry.bufferReleased image).2 }
  | .modeChanged id mode => w.call surface id (.modeChanged mode)
  | .collect => { w with registry := w.registry.collect }
  | .destroyOutput id =>
    let (_, registry, shared) := w.registry.destroy id (Registry.teardownWith surface) w.shared
    { w with registry := registry, shared := shared }
  | .loseConnection =>
    let (_, registry, shared) := w.registry.disconnect (Registry.teardownWith surface) w.shared
    { w with registry := registry, shared := shared }
  | .takeEvents =>
    let (events, registry) := w.registry.takeEvents
    { w with
      registry := registry
      hand := w.hand ++ returnedImages events
      returned := w.returned ++ returnedImages events }

def run (surface : Surface (δ × σ)) (w : Circulation δ σ) (moves : List (Move δ)) :
    Circulation δ σ :=
  moves.foldl (step surface) w

/-- The images that are out. -/
def out (w : Circulation δ σ) : List Image :=
  w.hand ++ w.registry.images

/-- What tells an image from all others of its swapchain, and never changes. -/
def badge (image : Image) : ImageId × Option SlotRef := (image.id, image.owner)

/-- What is true at every moment, for a swapchain made as `c`. -/
structure Inv (c : Swapchain) (w : Circulation δ σ) : Prop where
  ids : w.registry.ids.Nodup
  opened : ∀ id ∈ w.registry.ids, id.number < w.outputsMade
  /-- After the loss of the connection no output is left. -/
  closed : w.registry.disconnected → w.registry.outputs = []
  id_eq : w.chain.id = c.id
  size_eq : w.chain.size = c.size
  homed : w.chain.Homed
  /-- Every image is in its slot or out, and there are no others. -/
  badges : ((w.chain.images ++ w.out).map badge).Perm (c.images.map badge)
  /-- What was scheduled is with the display as it was then, or came back so. -/
  conserved : w.scheduled.Perm (w.registry.images ++ w.returned)

/-- A move gives out one number at most. -/
theorem step_numbered (surface : Surface (δ × σ)) {w : Circulation δ σ} {moves : Nat}
    (h : w.chain.Numbered moves) (move : Move δ) :
    (w.step surface move).chain.Numbered (moves + 1) := by
  cases move with
  | acquire => exact h.acquire.more
  | release image =>
    simp only [step]
    split
    · split
      · next chain hreleased => exact h.release hreleased
      · exact h.more
    · exact h.more
  | change | schedule =>
    simp only [step]
    split <;> exact h.more
  | createOutput =>
    simp only [step]
    split <;> exact h.more
  | frameDone | letGoOn | letGo | modeChanged | collect => exact h.more
  | destroyOutput | loseConnection | takeEvents => exact h.more

theorem run_numbered {surface : Surface (δ × σ)} (moves : List (Move δ)) :
    ∀ {w : Circulation δ σ} {before : Nat}, w.chain.Numbered before →
      (w.run surface moves).chain.Numbered (before + moves.length) := by
  induction moves with
  | nil => exact id
  | cons move rest ih =>
    intro w before h
    have hrest := ih (step_numbered surface h move)
    rwa [List.length_cons, ← Nat.add_assoc, Nat.add_right_comm]

theorem start_inv {c : Swapchain} (hc : c.Fresh) (shared : σ) :
    (start c shared : Circulation δ σ).Inv c where
  ids := List.nodup_nil
  opened := fun _ h => absurd h List.not_mem_nil
  closed := fun _ => rfl
  id_eq := rfl
  size_eq := rfl
  homed := hc.homed
  badges := by simp [start, out, Registry.images]
  conserved := by simp [start, Registry.images]

/-! ## Who owns what -/

section

variable {c : Swapchain} {w : Circulation δ σ}

theorem Inv.owners (h : w.Inv c) (hc : c.Fresh) :
    ((w.chain.images ++ w.out).map (·.owner)).Perm (Swapchain.homes w.chain.id w.chain.size) := by
  -- forgetting the identifiers leaves the owners, which are all slots of the swapchain
  have howners := h.badges.map Prod.snd
  rw [List.map_map, List.map_map] at howners
  rw [h.id_eq, h.size_eq, ← hc.owners]
  exact howners

theorem Inv.owners_nodup (h : w.Inv c) (hc : c.Fresh) :
    ((w.chain.images ++ w.out).map (·.owner)).Nodup :=
  (h.owners hc).nodup_iff.mpr (Swapchain.homes_nodup _ _)

/-- As many images are acquired as are out. -/
theorem Inv.acquired_eq (h : w.Inv c) (hc : c.Fresh) : w.chain.acquired = w.out.length := by
  have hlength := (h.owners hc).length_eq
  have hcount := w.chain.acquired_add_images
  simp only [List.length_map, List.length_append, Swapchain.homes, List.length_range] at hlength
  omega

/-- An image that is out belongs to a slot of the swapchain, and the slot is empty. -/
theorem Inv.slot_empty (h : w.Inv c) (hc : c.Fresh) {image : Image} (himage : image ∈ w.out) :
    ∃ i sequence, image.owner = some ⟨w.chain.id, i⟩ ∧
      w.chain.slots[i]? = some ⟨none, sequence⟩ :=
  h.homed.slot_empty (h.owners hc) himage

/-- What comes out of the swapchain is not out already. -/
theorem Inv.owner_ne (h : w.Inv c) (hc : c.Fresh) {image other : Image}
    (himage : image ∈ w.chain.images) (hother : other ∈ w.out) : other.owner ≠ image.owner := by
  exact (map_ne_of_nodup_append (h.owners_nodup hc) himage hother).symm

theorem Inv.id_ne (h : w.Inv c) (hids : (c.images.map (·.id)).Nodup) {image other : Image}
    (himage : image ∈ w.chain.images) (hother : other ∈ w.out) : other.id ≠ image.id := by
  have hperm := h.badges.map Prod.fst
  rw [List.map_map, List.map_map] at hperm
  have hnodup : ((w.chain.images ++ w.out).map (·.id)).Nodup := hperm.nodup_iff.mpr hids
  exact (map_ne_of_nodup_append hnodup himage hother).symm

end

/-! ## What every move keeps -/

section

variable {c : Swapchain} {w : Circulation δ σ} {surface : Surface (δ × σ)}

/-- Whatever the display does with its images, as long as it has the same ones. -/
theorem Inv.with_registry (h : w.Inv c) {r : Registry δ}
    (hids : r.ids.Sublist w.registry.ids) (hclosed : r.disconnected → r.outputs = [])
    (himages : r.images.Perm w.registry.images) (shared : σ) :
    Inv c { w with registry := r, shared := shared } where
  ids := hids.nodup h.ids
  opened := fun id hid => h.opened id (hids.subset hid)
  closed := hclosed
  id_eq := h.id_eq
  size_eq := h.size_eq
  homed := h.homed
  badges := (((himages.append_left w.hand).append_left _).map badge).trans h.badges
  conserved := h.conserved.trans (himages.symm.append_right _)

theorem Inv.acquire_inv (h : w.Inv c) : (w.step surface .acquire).Inv c := by
  simp only [step]
  rcases w.chain.acquire_cases with ⟨hnone, -⟩ | ⟨i, image, sequence, hslot, hacquire⟩
  · rw [hnone]
    simpa using h
  · rw [hacquire]
    -- the image goes from its slot into the hand
    have himages := List.perm_iff_count.mp
      (Swapchain.images_set_perm hslot ⟨none, sequence⟩ w.chain.counter)
    refine ⟨h.ids, h.opened, h.closed, h.id_eq, ?_, h.homed.set (by simp) _, ?_, h.conserved⟩
    · simpa [Swapchain.size] using h.size_eq
    · refine List.Perm.trans (List.Perm.map _ (List.perm_iff_count.mpr fun x => ?_)) h.badges
      have hx := himages x
      simp only [out, Option.toList_some, Option.toList_none, List.count_append, List.nil_append]
        at hx ⊢
      omega

/-- Every image that is out can be released, and then it is in. -/
theorem Inv.release_ok (h : w.Inv c) (hc : c.Fresh) {image : Image} (himage : image ∈ w.out) :
    ∃ chain, w.chain.release image = .ok chain ∧ chain.id = w.chain.id ∧
      chain.size = w.chain.size ∧ chain.Homed ∧ chain.images.Perm (image :: w.chain.images) := by
  obtain ⟨i, sequence, howner, hslot⟩ := h.slot_empty hc himage
  refine ⟨_, Swapchain.release_eq howner hslot, rfl, by simp [Swapchain.size],
    h.homed.set (fun other hother => ?_) _, ?_⟩
  · obtain rfl : image = other := by simpa using hother
    exact howner
  · exact Swapchain.images_set_perm hslot ⟨some image, w.chain.counter + 1⟩ _

theorem Inv.release_inv (h : w.Inv c) (hc : c.Fresh) (image : Image) :
    (w.step surface (.release image)).Inv c := by
  simp only [step]
  split
  · next hheld =>
    obtain ⟨chain, hrelease, hid, hsize, hhomed, himages⟩ :=
      h.release_ok hc (List.mem_append_left _ hheld)
    rw [hrelease]
    refine ⟨h.ids, h.opened, h.closed, hid.trans h.id_eq, hsize.trans h.size_eq, hhomed, ?_,
      h.conserved⟩
    refine List.Perm.trans (List.Perm.map _ ?_) h.badges
    -- the image goes from the hand into its slot
    refine (himages.append_right _).trans ?_
    refine List.perm_middle.symm.trans (List.Perm.append_left _ ?_)
    exact (List.perm_cons_erase hheld).symm.append_right _
  · exact h

theorem Inv.change_inv (h : w.Inv c) (image : Image) (backend renderer user : DataSlot) :
    (w.step surface (.change image backend renderer user)).Inv c := by
  simp only [step]
  split
  · next hheld =>
    refine ⟨h.ids, h.opened, h.closed, h.id_eq, h.size_eq, h.homed, ?_, h.conserved⟩
    refine List.Perm.trans ?_ h.badges
    -- the changed image still has its badge
    have hperm := (List.perm_cons_erase hheld).map badge
    have hchanged := List.perm_append_singleton (badge image) ((w.hand.erase image).map badge)
    simp only [out, List.map_append, List.map_cons, List.map_nil] at hperm ⊢
    exact ((hchanged.trans hperm.symm).append_right _).append_left _
  · exact h

theorem Inv.createOutput_inv (h : w.Inv c) (details : δ) :
    (w.step surface (.createOutput details)).Inv c := by
  simp only [step]
  split
  · exact h
  · next hlive =>
    obtain ⟨hids, hopened⟩ :=
      Registry.insert_numbered h.ids h.opened (⟨{}, details⟩ : Output δ)
    refine ⟨hids, hopened, fun hlost => absurd hlost hlive, h.id_eq, h.size_eq, h.homed, ?_, ?_⟩
    · simpa only [out, Registry.insert_images] using h.badges
    · simpa only [Registry.insert_images] using h.conserved

/-- A call on an output of a display keeps the outputs and adds what it handed over. -/
theorem callOn_registry (h : w.Inv c) (hs : surface.Answers) (id : OutputId) {o : Output δ}
    (hget : w.registry.get? id = some o) (call : FrameScheduler.Call)
    (hcall : call ≠ .takeEvents) (details : δ) :
    let f := (call.perform surface o.scheduler (o.details, w.shared)).1
    (w.registry.set id ⟨f, details⟩).ids = w.registry.ids ∧
      (w.registry.set id ⟨f, details⟩).images.Perm
        (w.registry.images ++ FrameScheduler.Turn.handedIn ⟨call, [], []⟩) ∧
      (w.registry.disconnected → (w.registry.set id ⟨f, details⟩).outputs = []) := by
  obtain ⟨before, after, hat⟩ := Registry.at_of_mem h.ids (Registry.mem_of_get? hget)
  refine ⟨hat.ids_set _, Registry.perform_images h.ids hs hget hcall _ details, fun hlost => ?_⟩
  rw [Registry.set, h.closed hlost]
  rfl

theorem Inv.schedule_inv (h : w.Inv c) (hs : surface.Answers) (id : OutputId) (image : Image) :
    (w.step surface (.schedule id image)).Inv c := by
  simp only [step]
  split
  · next hheld =>
    have hhand := List.perm_iff_count.mp (List.perm_cons_erase hheld)
    cases hget : w.registry.get? id with
    | none =>
      -- the image is back in the hand at once
      simp only [Registry.scheduleFrame, hget, ScheduleOutcome.handedBack]
      refine ⟨h.ids, h.opened, h.closed, h.id_eq, h.size_eq, h.homed, ?_, ?_⟩
      · refine List.Perm.trans (List.Perm.map _ (List.perm_iff_count.mpr fun x => ?_)) h.badges
        have hx := hhand x
        simp only [out, List.count_append, List.count_cons, List.count_nil] at hx ⊢
        omega
      · simpa only [List.append_assoc] using h.conserved.append_right [image]
    | some o =>
      rcases hdo : o.scheduler.schedule surface image (o.details, w.shared) with
        ⟨submission, f, details, shared⟩
      have hf : (FrameScheduler.Call.perform surface (.schedule image) o.scheduler
          (o.details, w.shared)).1 = f := by
        simp only [FrameScheduler.Call.perform, hdo]
      obtain ⟨hids, himages, hclosed⟩ :=
        callOn_registry h hs id hget (.schedule image) (by simp) details
      rw [hf] at hids himages hclosed
      -- what leaves the hand is what the display gains
      have himages' := List.perm_iff_count.mp himages
      have hconserved := List.perm_iff_count.mp h.conserved
      simp only [Registry.scheduleFrame, hget, hdo, ScheduleOutcome.handedBack, List.append_nil]
      refine ⟨hids ▸ h.ids, hids ▸ h.opened, hclosed, h.id_eq, h.size_eq, h.homed, ?_, ?_⟩
      · refine List.Perm.trans (List.Perm.map _ (List.perm_iff_count.mpr fun x => ?_)) h.badges
        have h1 := hhand x
        have h2 := himages' x
        simp only [out, FrameScheduler.Turn.handedIn, List.count_append, List.count_cons,
          List.count_nil] at h1 h2 ⊢
        omega
      · refine List.perm_iff_count.mpr fun x => ?_
        have h1 := hconserved x
        have h2 := himages' x
        simp only [FrameScheduler.Turn.handedIn, List.count_append] at h1 h2 ⊢
        omega
  · exact h

theorem Inv.call_inv (h : w.Inv c) (hs : surface.Answers) (id : OutputId)
    (call : FrameScheduler.Call) (hcall : call ≠ .takeEvents)
    (hnothing : FrameScheduler.Turn.handedIn ⟨call, [], []⟩ = []) :
    (w.call surface id call).Inv c := by
  unfold Circulation.call Registry.callOn
  cases hget : w.registry.get? id with
  | none => exact h
  | some o =>
    obtain ⟨hids, himages, hclosed⟩ := callOn_registry h hs id hget call hcall
      (call.perform surface o.scheduler (o.details, w.shared)).2.1
    rw [hnothing, List.append_nil] at himages
    exact h.with_registry (by rw [hids]) hclosed himages _

theorem Inv.takeEvents_inv (h : w.Inv c) : (w.step surface .takeEvents).Inv c := by
  refine ⟨h.ids, h.opened, h.closed, h.id_eq, h.size_eq, h.homed, ?_, ?_⟩
  · refine List.Perm.trans (List.Perm.map _ (List.perm_iff_count.mpr fun x => ?_)) h.badges
    simp only [step, Registry.takeEvents, out, Registry.images, returnedImages_nil,
      List.count_append, List.count_nil]
    omega
  · refine h.conserved.trans (List.perm_iff_count.mpr fun x => ?_)
    simp only [step, Registry.takeEvents, Registry.images, returnedImages_nil,
      List.count_append, List.count_nil]
    omega

theorem teardownWith_ends (surface : Surface (δ × σ)) :
    Registry.Ends (Registry.teardownWith surface) := by
  intro o shared
  exact FrameScheduler.destroy_remains surface o.scheduler (o.details, shared)

theorem Inv.step_inv (h : w.Inv c) (hc : c.Fresh) (hs : surface.Answers) (move : Move δ) :
    (w.step surface move).Inv c := by
  cases move with
  | acquire => exact h.acquire_inv
  | release image => exact h.release_inv hc image
  | change image backend renderer user => exact h.change_inv image backend renderer user
  | createOutput details => exact h.createOutput_inv details
  | schedule id image => exact h.schedule_inv hs id image
  | frameDone id => exact h.call_inv hs id .frameDone (by simp) rfl
  | letGoOn id image => exact h.call_inv hs id (.bufferReleased image) (by simp) rfl
  | modeChanged id mode => exact h.call_inv hs id (.modeChanged mode) (by simp) rfl
  | letGo image =>
    refine h.with_registry (by rw [Registry.bufferReleased_ids]) (fun hlost => ?_)
      (Registry.bufferReleased_images _ _) w.shared
    rw [Registry.bufferReleased_disconnected] at hlost
    have hnone : w.registry.ids = [] := by rw [Registry.ids, h.closed hlost, List.map_nil]
    rw [← Registry.bufferReleased_ids w.registry image] at hnone
    exact List.map_eq_nil_iff.mp hnone
  | collect =>
    refine h.with_registry (by rw [Registry.collect_ids]) (fun hlost => ?_)
      (Registry.collect_images _) w.shared
    rw [Registry.collect, h.closed hlost]
    rfl
  | destroyOutput id =>
    have hsub := Registry.destroy_outputs w.registry id (Registry.teardownWith surface) w.shared
    refine h.with_registry (hsub.map _) (fun hlost => ?_)
      (Registry.destroy_images h.ids (teardownWith_ends surface) id w.shared) _
    rw [Registry.destroy_disconnected] at hlost
    exact List.sublist_nil.mp (h.closed hlost ▸ hsub)
  | loseConnection =>
    have hsub := Registry.disconnect_outputs h.ids (teardownWith_ends surface) w.shared
    refine h.with_registry (hsub.map _) (fun _ => ?_)
      (Registry.disconnect_images h.ids (teardownWith_ends surface) w.shared) _
    cases hlive : w.registry.disconnected with
    | true => exact List.sublist_nil.mp (h.closed hlive ▸ hsub)
    | false => rw [Registry.disconnect_eq h.ids (teardownWith_ends surface) hlive]
  | takeEvents => exact h.takeEvents_inv

theorem Inv.run_inv (h : w.Inv c) (hc : c.Fresh) (hs : surface.Answers) (moves : List (Move δ)) :
    (w.run surface moves).Inv c := by
  induction moves generalizing w with
  | nil => exact h
  | cons move rest ih => exact ih (h.step_inv hc hs move)

end

/-! ## Coming around -/

/-- **Every image comes around.** However a compositor uses a swapchain and the outputs of a
display, whatever its surfaces refuse and however outputs and the connection end:
releasing an image it holds is never a fault; as many images are acquired as it holds
or the display has, waiting, presented or in events not yet delivered; what it
acquires is none of those; and what it scheduled is with the display, or came back,
exactly as it was. After the loss of the connection no output is left; and when none
is left, all events are delivered and the compositor holds nothing, then nothing is
acquired and the swapchain can be destroyed, on the allocator it was made by or any
other that has its images out. The number of releases that the swapchain counts, and
with it every number it gave out, is at most that of the moves. -/
theorem images_come_around {τ : Type} {host : Host τ} {id : SwapchainId} {width height : UInt32}
    {fourcc : Fourcc} {modifiers : List Modifier} {flags : SwapchainFlags} {a₀ a : Allocator}
    {t₀ t : τ} {c : Swapchain}
    (hmade : Swapchain.create host id width height fourcc modifiers flags a₀ t₀ = (.done c, a, t))
    {surface : Surface (δ × σ)} (hs : surface.Answers) (shared : σ) (moves : List (Move δ)) :
    let w := (start c shared).run surface moves
    (∀ image ∈ w.hand, ∃ chain, w.chain.release image = .ok chain) ∧
    w.chain.acquired = w.hand.length + w.registry.images.length ∧
    (∀ image, w.chain.acquire.1 = some image → ∀ other ∈ w.hand ++ w.registry.images,
      other.owner ≠ image.owner ∧ ((c.images.map (·.id)).Nodup → other.id ≠ image.id)) ∧
    w.scheduled.Perm (w.registry.images ++ w.returned) ∧
    (w.registry.disconnected → w.registry.outputs = []) ∧
    (w.registry.outputs = [] → w.registry.events = [] → w.hand = [] →
      w.chain.acquired = 0 ∧
      ∀ (a' : Allocator) (t' : τ), c.size ≤ a'.outstanding →
        (w.chain.destroy host a' t').1 = none) ∧
    c.size ≤ a.outstanding ∧
    w.chain.Numbered moves.length := by
  intro w
  obtain ⟨hnew, hout⟩ := Swapchain.create_new hmade
  have hc := hnew.fresh
  have hnumbered : w.chain.Numbered (0 + moves.length) := run_numbered moves hnew.numbered
  rw [Nat.zero_add] at hnumbered
  have h : w.Inv c := (start_inv hc shared).run_inv hc hs moves
  have hacquired : w.chain.acquired = w.hand.length + w.registry.images.length := by
    rw [h.acquired_eq hc, out, List.length_append]
  refine ⟨?_, hacquired, ?_, h.conserved, h.closed, ?_, by omega, hnumbered⟩
  · intro image himage
    obtain ⟨chain, hrelease, -⟩ := h.release_ok hc (List.mem_append_left _ himage)
    exact ⟨chain, hrelease⟩
  · intro image hacquire other hother
    -- the acquired image was in a slot
    have hin : image ∈ w.chain.images := by
      rcases w.chain.acquire_cases with ⟨hnone, -⟩ | ⟨i, image', sequence, hslot, hsome⟩
      · rw [hnone] at hacquire
        exact absurd hacquire (by simp)
      · rw [hsome] at hacquire
        obtain rfl := Option.some.inj hacquire
        exact List.mem_filterMap.mpr ⟨_, List.mem_of_getElem? hslot, rfl⟩
    exact ⟨h.owner_ne hc hin hother, fun hids => h.id_ne hids hin hother⟩
  · intro houtputs hevents hhand
    have hzero : w.chain.acquired = 0 := by
      simp [hacquired, hhand, Registry.images, houtputs, hevents]
    refine ⟨hzero, fun a' t' ha' => ?_⟩
    exact Swapchain.destroy_of_acquired_eq_zero host hzero (h.size_eq ▸ ha') t'

/-- A device whose buffers and images are numbered as they are made. -/
def plainHost : Host Nat :=
  { createExplicit := fun _ _ _ _ n => (.failed { message := "no modifiers" }, n)
    createImplicit := fun _ _ _ _ n => (.done (Image.numbered n).buffer, n)
    exportBuffer := fun _ n => (.ok (Image.numbered n).dmabuf, n)
    freeBuffer := fun _ n => n
    nextImageId := fun n => (⟨n⟩, n + 1)
    hooks := none
    attach := fun image n => (.ok image, n)
    detach := fun image n => (image, n) }

/-- The surfaces of all outputs share one that shows every other image. -/
def fickleOutputs : Surface (Unit × Nat) :=
  { present := fun image s =>
      let (answer, n) := Surface.fickle.present image s.2
      (answer, s.1, n)
    cancel := fun s => (s.1, Surface.fickle.cancel s.2) }

/-- The double-buffered swapchain of the device. -/
def pair : Swapchain :=
  { id := ⟨0⟩, width := 64, height := 64, fourcc := .xrgb8888, modifiers := []
    slots := [⟨some { Image.numbered 0 with owner := some ⟨⟨0⟩, 0⟩ }, 0⟩,
      ⟨some { Image.numbered 1 with owner := some ⟨⟨0⟩, 1⟩ }, 0⟩]
    counter := 0 }

/-- Both images are scheduled, one on an output that is not there; the other is presented,
and the connection is lost. -/
def errand : List (Move Unit) :=
  [.createOutput (), .acquire, .acquire,
    .schedule ⟨0⟩ { Image.numbered 0 with owner := some ⟨⟨0⟩, 0⟩ },
    .schedule ⟨7⟩ { Image.numbered 1 with owner := some ⟨⟨0⟩, 1⟩ },
    .loseConnection]

theorem errand_comes_around :
    Swapchain.create plainHost ⟨0⟩ 64 64 .xrgb8888 [] ⟨0⟩ {} 0 = (.done pair, ⟨2⟩, 2) ∧
    fickleOutputs.Answers ∧
    ((start pair 0).run fickleOutputs errand).chain.acquired = 2 ∧
    ((start pair 0).run fickleOutputs errand).hand.length = 1 ∧
    ((start pair 0).run fickleOutputs errand).registry.images.length = 1 ∧
    ((start pair 0).run fickleOutputs errand).registry.outputs = [] := by
  have hmade : Swapchain.create plainHost ⟨0⟩ 64 64 .xrgb8888 [] ⟨0⟩ {} 0
      = (.done pair, ⟨2⟩, 2) := by
    decide +kernel
  have hs : fickleOutputs.Answers := by
    intro image s e
    simp only [fickleOutputs, Surface.fickle]
    split <;> simp
  have hhand : ((start pair 0).run fickleOutputs errand).hand.length = 1 := by decide +kernel
  have himages : ((start pair 0).run fickleOutputs errand).registry.images.length = 1 := by
    decide +kernel
  obtain ⟨-, hacquired, -, -, hclosed, -⟩ := images_come_around hmade hs 0 errand
  refine ⟨hmade, hs, by rw [hacquired, hhand, himages], hhand, himages, hclosed ?_⟩
  decide +kernel

end Circulation

end Scanout
