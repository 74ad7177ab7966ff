import Scanout.Proofs.Circulation
import Scanout.Proofs.Wayland.Counter

/-!
# A program with its display, its allocators and its swapchains

`Program` is everything that has to do with the images of a display: allocators that import their
images into it, swapchains made on them, outputs that show the images, and a program in between,
which may do with an image whatever its owner can, but for what the display keeps in it. Calls may
fail in whatever way the hosts of the allocators please, and after a call that broke a contract the
program goes on with what is left.

`step_dealt` shows that each step deals with the images as `Stock.Deals` has it, and
`lifetimes_respected` draws the conclusion.
-/

namespace Scanout

variable {σ : Type}

open Wayland.Stock (Deals)

namespace Wayland

/-! ## The program -/

/-- A swapchain, with the number of the allocator it was made on. -/
structure Tenancy where
  side : Nat
  chain : Swapchain
  deriving DecidableEq, Repr

structure Program (σ : Type) where
  allocators : Nat → Allocator := fun _ => {}
  /-- What the hosts of the allocators share. -/
  device : σ
  counter : Counter
  chains : List Tenancy := []
  /-- The images in the hand of the program. -/
  hand : List Image := []
  /-- Whether an image with a buffer may have gone without being given up: it was thrown away,
  imported once more, or lost in a call that broke a contract. -/
  careless : Bool := false

namespace Program

/-- What can happen next. -/
inductive Step where
  | createOutput (skipped : Nat)
  | destroyOutput (id : OutputId)
  | connectionClosed
  | event (e : Event)
  | takeEvents
  | schedule (id : OutputId) (image : Image)
  | allocate (side : Nat) (q : ImageRequest)
  | deallocate (side : Nat) (image : Image)
  | attach (image : Image)
  | detach (image : Image)
  | createSwapchain (side : Nat) (id : SwapchainId) (q : ImageRequest) (flags : SwapchainFlags)
  | acquire (t : Tenancy)
  | release (t : Tenancy) (image : Image)
  | destroySwapchain (t : Tenancy)
  /-- An image comes from elsewhere that the display knows nothing of. -/
  | adopt (image : Image)
  /-- Anything about an image changes but what it is made of. -/
  | change (image changed : Image)
  | throwAway (image : Image)

def start (s : σ) (appId : String) (mode : Mode) : Program σ where
  device := s
  counter := { display := .start ⟨{ appId := appId, mode := mode }, []⟩ }

section

variable (w : Program σ)

def client : Client := w.counter.display.client.client

/-- All that went over the connection. -/
def log : List Entry := w.counter.display.client.log

/-- The images outside the display. -/
def pool : List Image := w.hand ++ w.chains.flatMap (·.chain.images)

/-- All images there are. -/
def images : List Image := w.pool ++ w.client.registry.images

/-- The images given up so far, each as it was then. -/
def given : List Image := w.counter.given

/-- The program after another call of the display. -/
def call (c : Display.Call Happening) : Program σ :=
  { w with counter := w.counter.call c }

end

def step (hosts : Nat → Host σ) (w : Program σ) : Step → Program σ
  | .createOutput skipped => w.call (.createOutput skipped)
  | .destroyOutput id => w.call (.destroyOutput id)
  | .connectionClosed => w.call .connectionClosed
  | .event e => w.call (.other (.event e))
  | .takeEvents =>
    { w.call .deliver with hand := w.hand ++ returnedImages w.client.registry.events }
  | .schedule id image =>
    if image ∈ w.hand then
      { w.call (.scheduleFrame id image) with
        hand := w.hand.erase image ++ (w.client.scheduleFrame id image).1.handedBack }
    else w
  | .allocate side q =>
    let (outcome, a, s, c) := Allocator.allocate (hosts side).onDisplay q.width q.height q.fourcc
      q.modifiers (w.allocators side) (w.device, w.counter)
    { w with
      allocators := Function.update w.allocators side a
      device := s
      counter := c
      hand := w.hand ++ Allocator.handedOut outcome }
  | .deallocate side image =>
    if image ∈ w.hand then
      -- the image is gone even if the contract was broken
      let (_, a, s, c) := Allocator.deallocate (hosts side).onDisplay image (w.allocators side)
        (w.device, w.counter)
      { w with
        allocators := Function.update w.allocators side a
        device := s
        counter := c
        hand := w.hand.erase image }
    else w
  | .attach image =>
    if image ∈ w.hand then
      match (w.client.attach image).1 with
      | .error _ => w.call (.other (.attach image))
      | .ok attached =>
        { w.call (.other (.attach image)) with
          hand := w.hand.erase image ++ [attached]
          careless := w.careless || image.remoteBuffer?.isSome }
    else w
  | .detach image =>
    if image ∈ w.hand then
      { w with
        counter := { w.counter.call (.other (.detach image)) with given := w.given ++ [image] }
        hand := w.hand.erase image ++ [(w.client.detach image).1] }
    else w
  | .createSwapchain side id q flags =>
    let (outcome, a, s, c) := Swapchain.create (hosts side).onDisplay id q.width q.height q.fourcc
      q.modifiers flags (w.allocators side) (w.device, w.counter)
    let w := { w with
      allocators := Function.update w.allocators side a
      device := s
      counter := c }
    match outcome with
    | .done chain => { w with chains := w.chains ++ [⟨side, chain⟩] }
    | .failed _ => w
    | .fault _ => { w with careless := true }
  | .acquire t =>
    if t ∈ w.chains then
      { w with
        chains := w.chains.erase t ++ [⟨t.side, t.chain.acquire.2⟩]
        hand := w.hand ++ t.chain.acquire.1.toList }
    else w
  | .release t image =>
    if t ∈ w.chains ∧ image ∈ w.hand then
      match t.chain.release image with
      | .ok chain =>
        { w with
          chains := w.chains.erase t ++ [⟨t.side, chain⟩]
          hand := w.hand.erase image }
      | .error _ => { w with hand := w.hand.erase image, careless := true }
    else w
  | .destroySwapchain t =>
    if t ∈ w.chains then
      let (fault, a, s, c) := t.chain.destroy (hosts t.side).onDisplay (w.allocators t.side)
        (w.device, w.counter)
      { w with
        allocators := Function.update w.allocators t.side a
        device := s
        counter := c
        chains := w.chains.erase t
        careless := w.careless || fault.isSome }
    else w
  | .adopt image =>
    if image.remoteBuffer? = none then { w with hand := w.hand ++ [image] } else w
  | .change image changed =>
    if image ∈ w.hand ∧ changed.backing = image.backing then
      { w with hand := w.hand.erase image ++ [changed] }
    else w
  | .throwAway image =>
    if image ∈ w.hand then { w with hand := w.hand.erase image, careless := true } else w

def run (hosts : Nat → Host σ) (w : Program σ) (steps : List Step) : Program σ :=
  steps.foldl (step hosts) w

/-- What a step does to the images. Only a careless one may lose buffers. -/
def Dealt (w w' : Program σ) : Prop :=
  ∀ strayed, ∃ more,
    (w'.careless = false → w.careless = false ∧ buffersOf more = []) ∧
    Deals (w.counter.stock w.pool strayed) (w'.counter.stock w'.pool (strayed ++ more))

section

variable {hosts : Nat → Host σ} {w w' : Program σ}

theorem Dealt.refl (w : Program σ) : w.Dealt w := by
  refine fun strayed => ⟨[], fun hsame => ⟨hsame, rfl⟩, ?_⟩
  rw [List.append_nil]
  exact .nothing (s := w.counter.stock w.pool strayed) (.refl _)

/-- No image goes astray. -/
theorem Dealt.whole (hcareless : w'.careless = w.careless) (h : ∀ strayed,
    Deals (w.counter.stock w.pool strayed) (w'.counter.stock w'.pool strayed)) : w.Dealt w' := by
  refine fun strayed => ⟨[], fun hcareful => ⟨hcareless ▸ hcareful, rfl⟩, ?_⟩
  rw [List.append_nil]
  exact h strayed

theorem pool_perm_hand {image : Image} (himage : image ∈ w.hand) :
    (image :: (w.hand.erase image ++ w.chains.flatMap (·.chain.images))).Perm w.pool := by
  have hhand := (List.perm_cons_erase himage).symm
  exact hhand.append_right _

theorem pool_perm_chain {t : Tenancy} (ht : t ∈ w.chains) :
    (t.chain.images ++ (w.hand ++ (w.chains.erase t).flatMap (·.chain.images))).Perm w.pool := by
  have hchains := (List.perm_cons_erase ht).flatMap_right (·.chain.images)
  refine List.perm_iff_count.mpr fun image => ?_
  have hcount := hchains.count_eq image
  simp only [pool, List.flatMap_cons, List.count_append] at hcount ⊢
  omega

/-- A call of the display takes images out of the hand, and puts others in. -/
theorem Dealt.called {c : Display.Call Happening} (taken rest : List Image)
    (told : List BackendEvent) (hcounter : w'.counter = w.counter.call c)
    (hchains : w'.chains = w.chains) (hcareless : w'.careless = w.careless)
    (hsparing : Recorded.Sparing c) (hbefore : w.hand.Perm (taken ++ rest))
    (hafter : w'.hand.Perm (rest ++ returnedImages told))
    (htakes : (w.counter.call c).display.taken = w.counter.display.taken ++ taken)
    (htells : (w.counter.call c).display.delivered = w.counter.display.delivered ++ told) :
    w.Dealt w' := by
  refine .whole hcareless fun strayed => ?_
  have hpool : w.pool.Perm (taken ++ (rest ++ w.chains.flatMap (·.chain.images))) := by
    rw [← List.append_assoc]
    exact hbefore.append_right _
  have hcalled : Deals (w.counter.stock w.pool strayed)
      ((w.counter.call c).stock (rest ++ w.chains.flatMap (·.chain.images) ++ returnedImages told)
        strayed) := .called (s := w.counter.stock w.pool strayed) hsparing hpool htakes htells
  rw [hcounter]
  refine hcalled.arranged (.refl _) (List.perm_iff_count.mpr fun image => ?_)
  have hcount := hafter.count_eq image
  simp only [pool, hchains, List.count_append] at hcount ⊢
  omega

/-- An image that is in the hand is dealt with, and perhaps another one is there then. -/
theorem Dealt.of_hand {image : Image} {new : List Image} (himage : image ∈ w.hand)
    (hhand : w'.hand = w.hand.erase image ++ new) (hchains : w'.chains = w.chains)
    (hcareless : w'.careless = w.careless)
    (h : ∀ pool strayed, Deals (w.counter.stock (image :: pool) strayed)
      (w'.counter.stock (new ++ pool) strayed)) : w.Dealt w' := by
  refine .whole hcareless fun strayed => (h _ strayed).arranged (pool_perm_hand himage) ?_
  refine List.perm_iff_count.mpr fun other => ?_
  simp only [pool, hhand, hchains, List.count_append]
  omega

/-- An image that is in the hand goes astray. -/
theorem Dealt.lost {image : Image} (himage : image ∈ w.hand) (hcounter : w'.counter = w.counter)
    (hhand : w'.hand = w.hand.erase image) (hchains : w'.chains = w.chains)
    (hcareless : w'.careless = true) : w.Dealt w' := by
  have hpool : w'.pool = w.hand.erase image ++ w.chains.flatMap (·.chain.images) := by
    rw [pool, hhand, hchains]
  refine fun strayed => ⟨[image], fun hcareful => absurd (hcareless.symm.trans hcareful) (by simp),
    ?_⟩
  rw [hcounter, hpool]
  exact (Deals.lost _ image _ strayed).arranged (pool_perm_hand himage) (.refl _)

/-- A call that neither takes images nor hands any back. -/
theorem Dealt.idle {c : Display.Call Happening} (hsparing : Recorded.Sparing c)
    (htakes : (w.counter.call c).display.taken = w.counter.display.taken)
    (htells : (w.counter.call c).display.delivered = w.counter.display.delivered) :
    w.Dealt (w.call c) := by
  refine .called [] w.hand [] rfl rfl rfl hsparing (.refl _) ?_ ?_ ?_
  · rw [returnedImages_nil, List.append_nil]
    exact .refl _
  · rw [htakes, List.append_nil]
  · rw [htells, List.append_nil]

theorem schedule_dealt (hw : w.counter.display.broken = false) (id : OutputId) (image : Image) :
    w.Dealt (w.step hosts (.schedule id image)) := by
  by_cases himage : image ∈ w.hand
  · simp only [step, if_pos himage]
    have hone : (w.client.scheduleFrame id image).1.handedBack
        ++ (w.client.scheduleFrame id image).1.taken image = [image] := by
      cases hget : w.client.registry.get? id with
      | none =>
        rw [Client.scheduleFrame_unknown hget]
        rfl
      | some o =>
        simp only [Client.scheduleFrame, hget, ScheduleOutcome.handedBack, ScheduleOutcome.taken]
        rfl
    refine .called (c := .scheduleFrame id image) ((w.client.scheduleFrame id image).1.taken image)
      (w.hand.erase image ++ (w.client.scheduleFrame id image).1.handedBack) [] rfl rfl rfl trivial
      ?_ (by simp) (by simp [Counter.call, Display.Course.step, hw, recording, client])
      (by simp [Counter.call, Display.Course.step, hw])
    refine (List.perm_cons_erase himage).trans (List.perm_iff_count.mpr fun other => ?_)
    have hcount := congrArg (List.count other) hone
    simp only [List.count_append, List.count_cons, List.count_nil] at hcount ⊢
    omega
  · simp only [step, if_neg himage]
    exact .refl w

/-- If the image has a buffer already, the buffer is left behind. -/
theorem attach_dealt (image : Image) : w.Dealt (w.step hosts (.attach image)) := by
  by_cases himage : image ∈ w.hand
  · simp only [step, if_pos himage]
    rcases hattach : (w.client.attach image).1 with e | attached
    · refine .whole rfl fun strayed => ?_
      exact .refused (s := w.counter.stock w.pool strayed) hattach
    · intro strayed
      have hcame : ∀ pool, Deals (w.counter.stock pool (strayed ++ [image]))
          ((w.counter.call (.other (.attach image))).stock (attached :: pool)
            (strayed ++ [image])) :=
        fun pool => .imported (s := w.counter.stock pool (strayed ++ [image])) hattach
      refine ⟨[image], fun hcareful => ?_, ((Deals.lost _ image _ strayed).also
        (hcame _)).arranged (pool_perm_hand himage) ?_⟩
      · simp only [Bool.or_eq_false_iff, Option.isSome_eq_false_iff, Option.isNone_iff_eq_none]
          at hcareful
        exact ⟨hcareful.1, by simp [buffersOf, hcareful.2]⟩
      · refine List.perm_iff_count.mpr fun other => ?_
        simp only [pool, call, List.count_append, List.count_cons, List.count_nil]
        omega
  · simp only [step, if_neg himage]
    exact .refl w

theorem create_dealt (side : Nat) (id : SwapchainId) (q : ImageRequest) (flags : SwapchainFlags) :
    w.Dealt (w.step hosts (.createSwapchain side id q flags)) := by
  intro strayed
  obtain ⟨outcome, a, s, c, left, -, hslots, hwhole, hdeals, -⟩ := Swapchain.allocateSlots_deals
    (hosts side) id q w.pool strayed flags.imageCount [] (w.allocators side) w.device w.counter
    (fun _ hb => absurd hb List.not_mem_nil) (Nat.le_refl _)
  rcases outcome with images | e | f <;> simp only [step, Swapchain.create, hslots]
  · refine ⟨left, fun hcareful => ⟨hcareful, ?_⟩, hdeals.arranged (.refl _) ?_⟩
    · rw [hwhole (by simp)]
      rfl
    · refine List.perm_iff_count.mpr fun other => ?_
      simp only [pool, Swapchain.madeBy, List.flatMap_append, List.flatMap_cons, List.flatMap_nil,
        Swapchain.images, Swapchain.images_filled, List.count_append, List.count_nil]
      omega
  · refine ⟨left, fun hcareful => ⟨hcareful, ?_⟩, hdeals⟩
    rw [hwhole (by simp)]
    rfl
  · exact ⟨left, fun hcareful => absurd hcareful (by simp), hdeals⟩

theorem destroy_dealt (t : Tenancy) : w.Dealt (w.step hosts (.destroySwapchain t)) := by
  by_cases ht : t ∈ w.chains
  · intro strayed
    obtain ⟨-, left, hwhole, hdeals⟩ := Swapchain.destroy_deals (hosts t.side)
      (w.hand ++ (w.chains.erase t).flatMap (·.chain.images)) strayed t.chain (w.allocators t.side)
      w.device w.counter
    simp only [step, if_pos ht]
    refine ⟨left, fun hcareful => ?_, hdeals.arranged (pool_perm_chain ht) (.refl _)⟩
    simp only [Bool.or_eq_false_iff, Option.isSome_eq_false_iff, Option.isNone_iff_eq_none]
      at hcareful
    rw [hwhole hcareful.2]
    exact ⟨hcareful.1, rfl⟩
  · simp only [step, if_neg ht]
    exact .refl w

theorem acquire_dealt (t : Tenancy) : w.Dealt (w.step hosts (.acquire t)) := by
  by_cases ht : t ∈ w.chains
  · simp only [step, if_pos ht]
    refine .whole rfl fun strayed => .nothing (s := w.counter.stock w.pool strayed) ?_
    refine List.Perm.trans (List.perm_iff_count.mpr fun image => ?_) (pool_perm_chain ht)
    have hcount := t.chain.acquire_images.count_eq image
    simp only [pool, List.flatMap_append, List.flatMap_cons, List.flatMap_nil, List.count_append,
      List.count_nil] at hcount ⊢
    omega
  · simp only [step, if_neg ht]
    exact .refl w

/-- An image that does not belong there is lost. -/
theorem release_dealt (t : Tenancy) (image : Image) :
    w.Dealt (w.step hosts (.release t image)) := by
  by_cases hboth : t ∈ w.chains ∧ image ∈ w.hand
  · obtain ⟨ht, himage⟩ := hboth
    simp only [step, if_pos (And.intro ht himage)]
    rcases hrelease : t.chain.release image with f | chain
    · exact .lost himage rfl rfl rfl rfl
    · refine .whole rfl fun strayed => .nothing (s := w.counter.stock w.pool strayed) ?_
      refine List.Perm.trans (List.perm_iff_count.mpr fun other => ?_) (pool_perm_chain ht)
      have hcount := (Swapchain.release_images hrelease).count_eq other
      have hhand := (List.perm_cons_erase himage).count_eq other
      simp only [pool, List.flatMap_append, List.flatMap_cons, List.flatMap_nil, List.count_append,
        List.count_cons, List.count_nil] at hcount hhand ⊢
      omega
  · simp only [step, if_neg hboth]
    exact .refl w

/-- Whatever the program does, it deals with images in one of the few ways there are. -/
theorem step_dealt (hw : w.counter.display.broken = false) (s : Step) :
    w.Dealt (w.step hosts s) := by
  cases s with
  | createOutput | destroyOutput | connectionClosed =>
    exact .idle trivial (by simp [Counter.call, Display.Course.step, hw])
      (by simp [Counter.call, Display.Course.step, hw])
  | event =>
    exact .idle trivial (by simp [Counter.call, Display.Course.step, hw])
      (by simp [Counter.call, Display.Course.step, hw])
  | takeEvents =>
    refine .called (c := .deliver) [] w.hand w.client.registry.events rfl rfl rfl trivial (.refl _)
      (.refl _) ?_ ?_
    · simp [Counter.call, Display.Course.step, hw]
    · simp [Counter.call, Display.Course.step, hw, recording, Registry.takeEvents, client]
  | schedule id image => exact schedule_dealt hw id image
  | allocate side q =>
    refine .whole rfl fun strayed => ?_
    refine ((Allocator.allocate_brings (hosts side) w.device w.counter q (w.allocators side)).deals
      w.pool strayed).arranged (.refl _) (List.perm_iff_count.mpr fun image => ?_)
    simp only [step, pool, List.count_append]
    omega
  | deallocate side image =>
    by_cases himage : image ∈ w.hand
    · simp only [step, if_pos himage]
      refine .of_hand himage (List.append_nil _).symm rfl rfl fun pool strayed => ?_
      exact Allocator.deallocate_deals (hosts side) w.device w.counter pool strayed image
        (w.allocators side)
    · simp only [step, if_neg himage]
      exact .refl w
  | attach image => exact attach_dealt image
  | detach image =>
    by_cases himage : image ∈ w.hand
    · simp only [step, if_pos himage]
      refine .of_hand himage rfl rfl rfl fun pool strayed => ?_
      have hgiven : Deals (w.counter.stock (image :: pool) strayed)
          ({ w.counter.call (.other (.detach image)) with given := w.given ++ [image] }.stock pool
            strayed) := .givenUp (s := w.counter.stock (image :: pool) strayed) rfl
      exact hgiven.also (.came (w.client.detach_remoteBuffer? image))
    · simp only [step, if_neg himage]
      exact .refl w
  | createSwapchain side id q flags => exact create_dealt side id q flags
  | acquire t => exact acquire_dealt t
  | release t image => exact release_dealt t image
  | destroySwapchain t => exact destroy_dealt t
  | adopt image =>
    by_cases hnew : image.remoteBuffer? = none
    · simp only [step, if_pos hnew]
      refine .whole rfl fun strayed => ?_
      have hcame : Deals (w.counter.stock w.pool strayed)
          (w.counter.stock (image :: w.pool) strayed) :=
        .came (s := w.counter.stock w.pool strayed) hnew
      refine hcame.arranged (.refl _) (List.perm_iff_count.mpr fun other => ?_)
      simp only [pool, List.count_append, List.count_cons, List.count_nil]
      omega
    · simp only [step, if_neg hnew]
      exact .refl w
  | change image changed =>
    by_cases hboth : image ∈ w.hand ∧ changed.backing = image.backing
    · simp only [step, if_pos hboth]
      exact .of_hand hboth.1 rfl rfl rfl fun pool strayed => .changed rfl hboth.2
    · simp only [step, if_neg hboth]
      exact .refl w
  | throwAway image =>
    by_cases himage : image ∈ w.hand
    · simp only [step, if_pos himage]
      exact .lost himage rfl rfl rfl rfl
    · simp only [step, if_neg himage]
      exact .refl w

/-! ## All steps -/

/-- What holds all along: the images that went astray, whichever they are, had no buffers if the
program was careful. -/
def Kept (w : Program σ) : Prop :=
  ∃ strayed, (w.careless = false → buffersOf strayed = []) ∧ (w.counter.stock w.pool strayed).Kept

theorem Kept.step (h : w.Kept) (s : Step) : (w.step hosts s).Kept := by
  obtain ⟨strayed, hcareful, hkept⟩ := h
  have hdealt : w.Dealt (w.step hosts s) := step_dealt hkept.whole s
  obtain ⟨more, hstep, hdeals⟩ := hdealt strayed
  refine ⟨strayed ++ more, fun hnext => ?_, hdeals.kept hkept⟩
  obtain ⟨hbefore, hmore⟩ := hstep hnext
  rw [buffersOf_append, hcareful hbefore, hmore, List.append_nil]

theorem Kept.run (h : w.Kept) (steps : List Step) : (w.run hosts steps).Kept := by
  induction steps generalizing w with
  | nil => exact h
  | cons s rest ih => exact ih (h.step s)

/-- How the objects of a display live. -/
structure Orderly (w : Program σ) : Prop where
  /-- Each window is made whole, used, and, if it went with its output, closed in order. -/
  windows : ∀ n, Window.Fate n w.client.holdings (traffic (Object.ofWindow n) w.log)
  /-- No two outputs share a window. -/
  apart : (w.client.holdings.windows.map (·.object)).Nodup
  /-- The buffer of an image that is anywhere was made of the image and never destroyed. -/
  there : ∀ image ∈ w.images, ∀ b ∈ image.remoteBuffer?, Lifetime b image.dmabuf [] w.log
  /-- The buffer of an image that was given up ended with being destroyed. -/
  gone : ∀ image ∈ w.given, ∀ b ∈ image.remoteBuffer?,
    Lifetime b image.dmabuf [.destroyBuffer b] w.log
  /-- No buffer is with two images, and none is given up twice. -/
  once : (buffersOf (w.images ++ w.given)).Nodup
  /-- The buffers destroyed are those of the images given up, in that order. -/
  destroyed : destroyed w.log = buffersOf w.given
  /-- Every buffer that was made has a life, which did not end unless the buffer was destroyed. -/
  made : ∀ b < w.counter.made, ∃ d,
    Lifetime b d (if b ∈ Wayland.destroyed w.log then [.destroyBuffer b] else []) w.log
  /-- No other buffer is ever named. -/
  unmade : ∀ b, w.counter.made ≤ b →
    traffic (Object.isParams b) w.log = [] ∧ traffic (Object.isBuffer b) w.log = []
  /-- If the program was careful, every buffer is with an image or was given up with one. -/
  careful : w.careless = false →
    (buffersOf (w.images ++ w.given)).Perm (List.range w.counter.made)

theorem Kept.orderly (h : w.Kept) : w.Orderly := by
  obtain ⟨strayed, hcareful, hkept⟩ := h
  have hledger : Ledger w.log w.counter.made w.images w.given strayed := hkept.ledger
  have hnodup := hledger.places.nodup_iff.mpr List.nodup_range
  refine ⟨hkept.transcript.fate, hkept.transcript.numbered.distinct,
    fun image himage => hledger.alive image (List.mem_append_left _ himage), hledger.ended, ?_,
    hledger.destroyed, fun b hb => ?_, hledger.unmade, fun hcareless => ?_⟩
  · rw [buffersOf_append _ strayed] at hnodup
    exact hnodup.of_append_left
  · obtain ⟨image, himage, hbuffer⟩ :=
      mem_buffersOf.mp (hledger.places.symm.subset (List.mem_range.mpr hb))
    refine ⟨image.dmabuf, ?_⟩
    rw [hledger.destroyed]
    by_cases hgiven : image ∈ w.given
    · rw [if_pos (mem_buffersOf.mpr ⟨image, hgiven, hbuffer⟩)]
      exact hledger.ended image hgiven b hbuffer
    · have hhere : image ∈ w.images ++ strayed := by
        rcases List.mem_append.mp himage with himage | himage
        · exact List.mem_append_left _ ((List.mem_append.mp himage).resolve_right hgiven)
        · exact List.mem_append_right _ himage
      rw [if_neg (hledger.apart (mem_buffersOf.mpr ⟨image, hhere, hbuffer⟩))]
      exact hledger.alive image hhere b hbuffer
  · have hplaces := hledger.places
    rwa [buffersOf_append _ strayed, hcareful hcareless, List.append_nil] at hplaces

end

end Program

end Wayland

end Scanout
