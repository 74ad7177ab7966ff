import Scanout.Proofs.Allocator.Neighbours
import Scanout.Proofs.Wayland.Custody

/-!
# Allocators over a display

An allocator imports its images into a display and gives them up to it, between the other things
it does with its own host. `Host.onDisplay` is a host with the display at a counter for its own, and
what allocators and swapchains do over it is told as dealings with the images around the counter:
allocating brings new ones in (`Counter.Brings`), giving images back gives them up, and making a
swapchain does one or the other. Nothing is assumed of the hosts.
-/

namespace Scanout

variable {σ : Type}

namespace Wayland

/-- A display, with the images that were given up to it. -/
structure Counter where
  display : Display.Course Recorded
  given : List Image := []

namespace Counter

/-- The counter and the images around it. -/
def stock (c : Counter) (pool strayed : List Image) : Stock :=
  { display := c.display, pool := pool, given := c.given, strayed := strayed }

/-- How many buffers were made. -/
def made (c : Counter) : Nat := c.display.client.client.buffersMade

/-- The counter after another call of the display. -/
def call (c : Counter) (call : Display.Call Happening) : Counter :=
  { c with display := c.display.step recording call }

end Counter

end Wayland

open Wayland

/-! ## Allocators over a display -/

/-- The hooks over a display as well. They do not touch it. -/
def Hooks.besideDisplay (hooks : Hooks σ) : Hooks (σ × Counter) where
  create := fun image r =>
    let (result, s) := hooks.create image r.1
    (result, s, r.2)
  destroy := fun image r =>
    let (image', s) := hooks.destroy image r.1
    (image', s, r.2)

/-- The host with the display at the counter for its own. -/
def Host.onDisplay (host : Host σ) : Host (σ × Counter) where
  createExplicit := fun width height fourcc modifiers r =>
    let (result, s) := host.createExplicit width height fourcc modifiers r.1
    (result, s, r.2)
  createImplicit := fun width height fourcc usage r =>
    let (result, s) := host.createImplicit width height fourcc usage r.1
    (result, s, r.2)
  exportBuffer := fun buffer r =>
    let (result, s) := host.exportBuffer buffer r.1
    (result, s, r.2)
  freeBuffer := fun buffer r => (host.freeBuffer buffer r.1, r.2)
  nextImageId := fun r =>
    let (id, s) := host.nextImageId r.1
    (id, s, r.2)
  hooks := host.hooks.map Hooks.besideDisplay
  attach := fun image r =>
    ((r.2.display.client.client.attach image).1, r.1, r.2.call (.other (.attach image)))
  detach := fun image r =>
    ((r.2.display.client.client.detach image).1, r.1,
      { r.2.call (.other (.detach image)) with given := r.2.given ++ [image] })

namespace Host

variable (host : Host σ) (s : σ) (c : Counter)

/-! ### What does not concern the display -/

@[simp]
theorem onDisplay_createExplicit (width height : UInt32) (fourcc : Fourcc)
    (modifiers : List Modifier) :
    host.onDisplay.createExplicit width height fourcc modifiers (s, c)
      = ((host.createExplicit width height fourcc modifiers s).1,
        (host.createExplicit width height fourcc modifiers s).2, c) :=
  rfl

@[simp]
theorem onDisplay_createImplicit (width height : UInt32) (fourcc : Fourcc) (usage : BufferUsage) :
    host.onDisplay.createImplicit width height fourcc usage (s, c)
      = ((host.createImplicit width height fourcc usage s).1,
        (host.createImplicit width height fourcc usage s).2, c) :=
  rfl

@[simp]
theorem onDisplay_exportBuffer (buffer : Buffer) :
    host.onDisplay.exportBuffer buffer (s, c)
      = ((host.exportBuffer buffer s).1, (host.exportBuffer buffer s).2, c) :=
  rfl

@[simp]
theorem onDisplay_freeBuffer (buffer : Buffer) :
    host.onDisplay.freeBuffer buffer (s, c) = (host.freeBuffer buffer s, c) :=
  rfl

@[simp]
theorem onDisplay_nextImageId :
    host.onDisplay.nextImageId (s, c) = ((host.nextImageId s).1, (host.nextImageId s).2, c) :=
  rfl

@[simp]
theorem onDisplay_attach (image : Image) :
    host.onDisplay.attach image (s, c)
      = ((c.display.client.client.attach image).1, s, c.call (.other (.attach image))) :=
  rfl

@[simp]
theorem onDisplay_detach (image : Image) :
    host.onDisplay.detach image (s, c)
      = ((c.display.client.client.detach image).1, s,
        { c.call (.other (.detach image)) with given := c.given ++ [image] }) :=
  rfl

@[simp]
theorem onDisplay_dropImage (image : Image) :
    host.onDisplay.dropImage image (s, c) = (host.dropImage image s, c) :=
  rfl

theorem onDisplay_createBuffer (width height : UInt32) (fourcc : Fourcc)
    (requested : List Modifier) :
    host.onDisplay.createBuffer width height fourcc requested (s, c)
      = ((host.createBuffer width height fourcc requested s).1,
        (host.createBuffer width height fourcc requested s).2, c) := by
  have hexplicit : host.onDisplay.tryExplicit width height fourcc requested (s, c)
      = ((host.tryExplicit width height fourcc requested s).1,
        (host.tryExplicit width height fourcc requested s).2, c) := by
    by_cases hnone : (explicitModifiers requested).isEmpty
    · simp [tryExplicit, hnone]
    · rcases hmade : host.createExplicit width height fourcc (explicitModifiers requested) s with
        ⟨buffer | e | f, s'⟩
      · by_cases haccepted : buffer.format.modifier ∈ requested <;>
          simp [tryExplicit, hnone, hmade, haccepted]
      all_goals simp [tryExplicit, hnone, hmade]
  have himplicit : ∀ s', host.onDisplay.tryImplicit width height fourcc requested (s', c)
      = ((host.tryImplicit width height fourcc requested s').1,
        (host.tryImplicit width height fourcc requested s').2, c) := by
    intro s'
    rcases hmade : host.createImplicit width height fourcc usage s' with ⟨buffer | e | f, s''⟩
    · by_cases haccepted : requested.isEmpty || buffer.format.modifier = .invalid <;>
        simp [tryImplicit, hmade, haccepted]
    all_goals simp [tryImplicit, hmade]
  rcases htry : host.tryExplicit width height fourcc requested s with ⟨buffer | e | f, s'⟩
  · simp [createBuffer, hexplicit, htry]
  · by_cases hagain : requested.isEmpty || .invalid ∈ requested
    · simp [createBuffer, hexplicit, htry, hagain, himplicit]
    · cases e <;> simp [createBuffer, hexplicit, htry, hagain]
  · simp [createBuffer, hexplicit, htry]

theorem onDisplay_hookCreate (image : Image) :
    host.onDisplay.hookCreate image (s, c)
      = ((host.hookCreate image s).1, (host.hookCreate image s).2, c) := by
  unfold hookCreate
  cases hhooks : host.hooks <;> simp [onDisplay, hhooks, Hooks.besideDisplay]

theorem onDisplay_hookDestroy (image : Image) :
    host.onDisplay.hookDestroy image (s, c)
      = ((host.hookDestroy image s).1, (host.hookDestroy image s).2, c) := by
  unfold hookDestroy
  cases hhooks : host.hooks <;> simp [onDisplay, hhooks, Hooks.besideDisplay]

theorem onDisplay_dropImages (images : List Image) :
    host.onDisplay.dropImages images (s, c) = (host.dropImages images s, c) := by
  induction images generalizing s with
  | nil => rfl
  | cons image rest ih => exact ih (host.dropImage image s)

end Host

open Stock (Deals)

namespace Wayland

/-- An image that was given up has no buffer any more. -/
theorem Client.detach_remoteBuffer? (c : Client) (image : Image) :
    (c.detach image).1.remoteBuffer? = none := by
  cases hbuffer : image.remoteBuffer? with
  | none =>
    rcases c.detach_cases image with ⟨-, hdetach⟩ | ⟨buffer, hsome, -⟩
    · rw [hdetach]
      exact hbuffer
    · exact absurd (hbuffer.symm.trans hsome) (by simp)
  | some buffer =>
    have hvalue := Image.remoteBuffer?_eq_some.mp hbuffer
    simp only [detach, DataSlot.take, DataSlot.get?, hvalue]
    rfl

/-- Where the images stand outside the display does not matter. -/
theorem Stock.Deals.arranged {c c' : Counter} {pool pool' first last strayed strayed' : List Image}
    (h : Deals (c.stock first strayed) (c'.stock last strayed')) (hfirst : first.Perm pool)
    (hlast : pool'.Perm last) : Deals (c.stock pool strayed) (c'.stock pool' strayed') :=
  (Deals.nothing (s := c.stock pool strayed) hfirst).also
    (h.also (.nothing (s := c'.stock last strayed') hlast))

/-- An image goes in any other way. -/
theorem Stock.Deals.lost (c : Counter) (image : Image) (pool strayed : List Image) :
    Deals (c.stock (image :: pool) strayed) (c.stock pool (strayed ++ [image])) :=
  .left rfl

/-- Images can go so one after the other. -/
theorem Stock.Deals.all_left (c : Counter) (images pool strayed : List Image) :
    Deals (c.stock (images ++ pool) strayed) (c.stock pool (strayed ++ images)) := by
  induction images generalizing strayed with
  | nil =>
    rw [List.append_nil]
    exact .nothing (s := c.stock pool strayed) (.refl _)
  | cons image rest ih =>
    rw [List.append_cons strayed image rest]
    exact (lost c image (rest ++ pool) strayed).also (ih _)

/-- New images come in, and nothing is given up. -/
structure Counter.Brings (c : Counter) (new : List Image) (c' : Counter) : Prop where
  deals : ∀ pool strayed, Deals (c.stock pool strayed) (c'.stock (new ++ pool) strayed)
  given : c'.given = c.given
  made : c.made ≤ c'.made
  fresh : ∀ b ∈ buffersOf new, c.made ≤ b

theorem Counter.Brings.nothing (c : Counter) : c.Brings [] c where
  deals := fun pool strayed => .nothing (s := c.stock pool strayed) (.refl _)
  given := rfl
  made := Nat.le_refl _
  fresh := fun _ hb => absurd hb List.not_mem_nil

theorem Counter.attach_brings (c : Counter) (image : Image) :
    c.Brings (c.display.client.client.attach image).1.toOption.toList
      (c.call (.other (.attach image))) := by
  have hmade : c.made ≤ (c.call (.other (.attach image))).made := by
    unfold made call Display.Course.step
    split
    · exact Nat.le_refl _
    · rcases c.display.client.client.attach_refused_or_made image with
        ⟨e, hattach⟩ | ⟨dmabuf, -, hattach⟩ <;> simp [recording, Recorded.next, hattach]
  rcases c.display.client.client.attach_refused_or_made image with
    ⟨e, hattach⟩ | ⟨dmabuf, -, hattach⟩
  · rw [hattach]
    exact ⟨fun pool strayed => .refused (s := c.stock pool strayed) (congrArg Prod.fst hattach),
      rfl, hmade, fun _ hb => absurd hb List.not_mem_nil⟩
  · rw [hattach]
    refine ⟨fun pool strayed => .imported (s := c.stock pool strayed) (congrArg Prod.fst hattach),
      rfl, hmade, fun b hb => ?_⟩
    obtain rfl : b = c.made := List.mem_singleton.mp hb
    exact Nat.le_refl _

end Wayland

namespace Allocator

variable (host : Host σ) (s : σ) (c : Counter) (pool strayed : List Image)

/-- The image of an import that succeeds is a new one. -/
theorem importImage_brings (image : Image) :
    c.Brings (host.onDisplay.importImage image (s, c)).1.toOption.toList
      (host.onDisplay.importImage image (s, c)).2.2 := by
  rcases hcreate : host.hookCreate image s with ⟨e | hooked, s'⟩
  · simp only [Host.importImage, host.onDisplay_hookCreate, hcreate]
    exact .nothing c
  · have hbrings := c.attach_brings hooked
    rcases hattach : (c.display.client.client.attach hooked).1 with e | attached <;>
      rw [hattach] at hbrings <;>
      simp only [Host.importImage, host.onDisplay_hookCreate, hcreate, host.onDisplay_attach,
        hattach, host.onDisplay_hookDestroy, host.onDisplay_dropImage] <;>
      exact hbrings

/-- An allocation brings the image that it hands out. -/
theorem allocate_brings (q : ImageRequest) (a : Allocator) :
    c.Brings
      (handedOut (allocate host.onDisplay q.width q.height q.fourcc q.modifiers a (s, c)).1)
      (allocate host.onDisplay q.width q.height q.fourcc q.modifiers a (s, c)).2.2.2 := by
  by_cases hsize : q.width = 0 ∨ q.height = 0
  · simp only [allocate, if_pos hsize]
    exact .nothing c
  rcases hmade : host.createBuffer q.width q.height q.fourcc q.modifiers s with
    ⟨buffer | e | f, s₁⟩
  · rcases hexport : host.exportBuffer buffer s₁ with ⟨e | dmabuf, s₂⟩
    · simp only [allocate, if_neg hsize, host.onDisplay_createBuffer, hmade,
        host.onDisplay_exportBuffer, hexport]
      exact .nothing c
    · rcases hid : host.nextImageId s₂ with ⟨id, s₃⟩
      have himport := importImage_brings host s₃ c { id := id, dmabuf := dmabuf, buffer := buffer }
      rcases hresult : host.onDisplay.importImage
          { id := id, dmabuf := dmabuf, buffer := buffer } (s₃, c) with ⟨e | image, s₄, c'⟩ <;>
        rw [hresult] at himport <;>
        simp only [allocate, if_neg hsize, host.onDisplay_createBuffer, hmade,
          host.onDisplay_exportBuffer, hexport, host.onDisplay_nextImageId, hid, hresult] <;>
        exact himport
  all_goals
    simp only [allocate, if_neg hsize, host.onDisplay_createBuffer, hmade]
    exact .nothing c

/-- An image that is given back is given up, even if that breaks the contract. -/
theorem deallocate_counter (image : Image) (a : Allocator) :
    (deallocate host.onDisplay image a (s, c)).2.2.2
      = { c.call (.other (.detach image)) with given := c.given ++ [image] } := by
  cases hcount : a.outstanding <;>
    simp [deallocate, hcount, Host.onDisplay_hookDestroy]

theorem deallocate_deals (image : Image) (a : Allocator) :
    Deals (c.stock (image :: pool) strayed)
      ((deallocate host.onDisplay image a (s, c)).2.2.2.stock pool strayed) := by
  rw [deallocate_counter]
  exact .givenUp (s := c.stock (image :: pool) strayed) rfl

/-- Images are given back one by one until the contract is broken, and those left then go
otherwise. -/
theorem deallocateAll_deals (images : List Image) (a : Allocator) :
    (deallocateAll host.onDisplay images a (s, c)).2.2.2.given
        = c.given ++ images.take (a.outstanding + 1) ∧
    ∃ left, ((deallocateAll host.onDisplay images a (s, c)).1 = none → left = []) ∧
      Deals (c.stock (images ++ pool) strayed)
        ((deallocateAll host.onDisplay images a (s, c)).2.2.2.stock pool (strayed ++ left)) := by
  induction images generalizing a s c with
  | nil =>
    refine ⟨by simp [deallocateAll], [], fun _ => rfl, ?_⟩
    rw [List.append_nil]
    exact .nothing (s := c.stock pool strayed) (.refl _)
  | cons image rest ih =>
    have hfirst := deallocate_deals host s c (rest ++ pool) strayed image a
    have hgiven : (deallocate host.onDisplay image a (s, c)).2.2.2.given = c.given ++ [image] :=
      congrArg Counter.given (deallocate_counter host s c image a)
    have houtcome := deallocate_outcome host.onDisplay image a (s, c)
    rcases hgave : deallocate host.onDisplay image a (s, c) with ⟨_ | fault, a', s', c'⟩ <;>
      rw [hgave] at hfirst hgiven houtcome
    · obtain ⟨-, hfault⟩ | ⟨_, _, hsame, hcount⟩ := houtcome
      · exact absurd hfault (by simp)
      · obtain ⟨rfl, -⟩ := Prod.mk.inj (Prod.mk.inj hsame).2
        obtain ⟨hrest, left, hwhole, hothers⟩ := ih s' c' a'
        rw [show c'.given = c.given ++ [image] from hgiven] at hrest
        simp only [deallocateAll, hgave]
        refine ⟨?_, left, hwhole, hfirst.also hothers⟩
        rw [hrest, hcount, List.take_succ_cons, ← List.append_cons]
    · obtain ⟨hcount, -⟩ | ⟨_, _, hsame, -⟩ := houtcome
      · simp only [deallocateAll, hgave, host.onDisplay_dropImages]
        refine ⟨?_, rest, by simp, hfirst.also (.all_left c' rest pool strayed)⟩
        rw [show c'.given = c.given ++ [image] from hgiven, hcount]
        rfl
      · exact absurd (Prod.mk.inj hsame).1 (by simp)

end Allocator

namespace Swapchain

open Allocator

/-- The images that were made, if all were. -/
def madeBy : Outcome AllocationError (List Image) → List Image
  | .done images => images
  | .failed _ | .fault _ => []

variable (host : Host σ) (id : SwapchainId) (q : ImageRequest) (pool strayed : List Image)

/-- The images of a swapchain are all new, or those made so far are given up, unless a contract
was broken. -/
theorem allocateSlots_deals (missing : Nat) (made : List Image) (a : Allocator) (s : σ)
    (c : Counter) {least : Nat} (hmade : ∀ b ∈ buffersOf made, least ≤ b)
    (hleast : least ≤ c.made) :
    ∃ outcome a' s' c' left given,
      allocateSlots host.onDisplay id q.width q.height q.fourcc q.modifiers missing made a (s, c)
        = (outcome, a', s', c') ∧
      ((∀ f, outcome ≠ .fault f) → left = []) ∧
      Deals (c.stock (made ++ pool) strayed)
        (c'.stock (madeBy outcome ++ pool) (strayed ++ left)) ∧
      c'.given = c.given ++ given ∧ ∀ b ∈ buffersOf given, least ≤ b := by
  induction missing generalizing made a s c with
  | zero =>
    refine ⟨_, _, _, _, [], [], rfl, fun _ => rfl, ?_, (List.append_nil _).symm,
      fun _ hb => absurd hb List.not_mem_nil⟩
    rw [List.append_nil]
    exact .nothing (s := c.stock (made ++ pool) strayed) (.refl _)
  | succ missing ih =>
    have hbrings := allocate_brings host s c q a
    have hfirst := hbrings.deals (made ++ pool) strayed
    rcases hallocate : allocate host.onDisplay q.width q.height q.fourcc q.modifiers a (s, c) with
      ⟨image | e | f, a', s', c'⟩ <;> rw [hallocate] at hbrings hfirst
    · let owned : Image := { image with owner := some ⟨id, made.length⟩ }
      have howned : Deals (c'.stock (image :: (made ++ pool)) strayed)
          (c'.stock (owned :: (made ++ pool)) strayed) := .changed rfl rfl
      have hnew : ∀ b ∈ buffersOf (made ++ [owned]), least ≤ b := by
        intro b hb
        rw [buffersOf_append] at hb
        rcases List.mem_append.mp hb with hb | hb
        · exact hmade b hb
        · exact Nat.le_trans hleast (hbrings.fresh b hb)
      obtain ⟨outcome, a'', s'', c'', left, given, hslots, hwhole, hothers, hgiven, hrecent⟩ :=
        ih (made ++ [owned]) a' s' c' hnew (Nat.le_trans hleast hbrings.made)
      refine ⟨outcome, a'', s'', c'', left, given, ?_, hwhole, (hfirst.also howned).also ?_,
        hgiven.trans (by rw [hbrings.given]), hrecent⟩
      · simp only [allocateSlots, hallocate]
        exact hslots
      · refine hothers.arranged ?_ (.refl _)
        rw [List.append_assoc]
        exact List.perm_middle
    · obtain ⟨hgiven, left, hwhole, hback⟩ := deallocateAll_deals host s' c' pool strayed made a'
      have hrecent : ∀ b ∈ buffersOf (made.take (a'.outstanding + 1)), least ≤ b := fun b hb =>
        hmade b (((List.take_sublist _ _).filterMap _).subset hb)
      rw [show c'.given = c.given from hbrings.given] at hgiven
      rcases hgave : deallocateAll host.onDisplay made a' (s', c') with
        ⟨_ | fault, a'', s'', c''⟩ <;>
        rw [hgave] at hwhole hback hgiven
      · refine ⟨.failed e, a'', s'', c'', left, _, ?_, fun _ => hwhole rfl, hfirst.also hback,
          hgiven, hrecent⟩
        simp only [allocateSlots, hallocate, hgave]
      · refine ⟨.fault fault, a'', s'', c'', left, _, ?_, fun hnone => absurd rfl (hnone fault),
          hfirst.also hback, hgiven, hrecent⟩
        simp only [allocateSlots, hallocate, hgave]
    · refine ⟨.fault f, a', host.dropImages made s', c', made, [], ?_,
        fun hnone => absurd rfl (hnone f), hfirst.also (.all_left c' made pool strayed),
        hbrings.given.trans (List.append_nil _).symm, fun _ hb => absurd hb List.not_mem_nil⟩
      simp only [allocateSlots, hallocate, host.onDisplay_dropImages]

/-- Destroying a swapchain gives all its images up, unless that breaks a contract. -/
theorem destroy_deals (chain : Swapchain) (a : Allocator) (s : σ) (c : Counter) :
    (destroy host.onDisplay chain a (s, c)).2.2.2.given = c.given
      ++ (if chain.acquired = 0 then chain.images.take (a.outstanding + 1) else []) ∧
    ∃ left, ((destroy host.onDisplay chain a (s, c)).1 = none → left = []) ∧
      Deals (c.stock (chain.images ++ pool) strayed)
        ((destroy host.onDisplay chain a (s, c)).2.2.2.stock pool (strayed ++ left)) := by
  by_cases hin : chain.acquired = 0
  · simp only [destroy, hin, ne_eq, not_true, if_false, if_true]
    exact deallocateAll_deals host s c pool strayed chain.images a
  · simp only [destroy, ne_eq, hin, not_false_iff, if_true, if_false, List.append_nil,
      host.onDisplay_dropImages]
    exact ⟨trivial, chain.images, by simp, .all_left c chain.images pool strayed⟩

/-- An image that is acquired comes out of the slots. -/
theorem acquire_images (chain : Swapchain) :
    (chain.acquire.1.toList ++ chain.acquire.2.images).Perm chain.images := by
  rcases chain.acquire_cases with ⟨hnone, -⟩ | ⟨i, image, sequence, hslot, hacquire⟩
  · rw [hnone]
    exact .refl _
  · rw [hacquire]
    exact images_set_perm hslot ⟨none, sequence⟩ chain.counter

/-- An image that is released goes into the slots. -/
theorem release_images {chain chain' : Swapchain} {image : Image}
    (h : chain.release image = .ok chain') : chain'.images.Perm (image :: chain.images) := by
  unfold release at h
  split at h
  · exact absurd h (by simp)
  · next owner _ =>
    split at h
    · exact absurd h (by simp)
    · split at h
      · exact absurd h (by simp)
      · next slot hslot =>
        split at h
        · exact absurd h (by simp)
        · next hempty =>
          obtain rfl := Except.ok.inj h
          have hperm := images_set_perm hslot ⟨some image, chain.counter + 1⟩ (chain.counter + 1)
          rwa [show slot.image = none by simpa using hempty] at hperm

end Swapchain

end Scanout
