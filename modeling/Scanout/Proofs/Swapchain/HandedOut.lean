import Scanout.Proofs.Allocator.Requests
import Scanout.Proofs.Swapchain.Queue

/-!
# What a swapchain hands out

A swapchain tells its size, its format and its layouts as they were asked for when it was
made; its images tell theirs as they were exported. The images it hands out, however it is
used, are those it was made with (`Rotation.Inv.handed_out`), and each of them is handed out in
some run (`Rotation.handed_out_of_mem`). So the two agree exactly if every export on the way
was as asked for: `handed_out_as_exported`, for single images and for swapchains.
-/

namespace Scanout

variable {σ : Type}

namespace Swapchain

/-- What the images of a swapchain were asked to be. -/
def request (c : Swapchain) : ImageRequest :=
  { width := c.width, height := c.height, fourcc := c.fourcc, modifiers := c.modifiers }

/-- The dmabufs of the buffers settled for in a number of allocations, one after the other. -/
def exports (host : Host σ) (q : ImageRequest) : Nat → Allocator → σ → List Dmabuf
  | 0, _, _ => []
  | missing + 1, a, s =>
    let (_, a', s') := Allocator.allocate host q.width q.height q.fourcc q.modifiers a s
    (host.exported? q s).toList ++ exports host q missing a' s'

theorem acquire_request (c : Swapchain) : c.acquire.2.request = c.request := by
  rcases c.acquire_cases with ⟨hacquire, -⟩ | ⟨i, image, sequence, -, hacquire⟩
  · rw [hacquire]
  · rw [hacquire]
    rfl

theorem release_request {c chain : Swapchain} {image : Image} (h : c.release image = .ok chain) :
    chain.request = c.request := by
  unfold release at h
  split at h
  · exact absurd h (by simp)
  split at h
  · exact absurd h (by simp)
  split at h
  · exact absurd h (by simp)
  split at h
  · exact absurd h (by simp)
  · rw [← Except.ok.inj h]
    rfl

/-! ## The images it was made with -/

section

variable {host : Host σ} {id : SwapchainId} {q : ImageRequest} {flags : SwapchainFlags}
  {a a' : Allocator} {s s' : σ}

theorem allocateSlots_exports (hk : host.KeepsDmabufs) (missing : Nat) :
    ∀ {made images : List Image} {a a' : Allocator} {s s' : σ},
      allocateSlots host id q.width q.height q.fourcc q.modifiers missing made a s
        = (.done images, a', s') →
      images.map (·.dmabuf) = made.map (·.dmabuf) ++ exports host q missing a s := by
  induction missing with
  | zero =>
    intro made images a a' s s' h
    obtain ⟨rfl, -, -⟩ : made = images ∧ a = a' ∧ s = s' := by simpa [allocateSlots] using h
    rw [exports, List.append_nil]
  | succ missing ih =>
    intro made images a a' s s' h
    rw [allocateSlots] at h
    split at h
    · next image a₁ s₁ hone =>
      have hexported := Allocator.allocate_exported hk hone
      rw [ih h]
      simp only [exports, hone, hexported, Option.toList_some, List.map_append, List.map_cons,
        List.map_nil, List.append_assoc]
    · exact absurd (congrArg Prod.fst h) (by simp)
    · split at h <;> exact absurd (congrArg Prod.fst h) (by simp)

/-- A new swapchain remembers what was asked for, and has the images that were exported. -/
theorem create_exports (hk : host.KeepsDmabufs) {c : Swapchain}
    (h : create host id q.width q.height q.fourcc q.modifiers flags a s = (.done c, a', s')) :
    c.request = q ∧ c.images.map (·.dmabuf) = exports host q flags.imageCount a s := by
  unfold create at h
  split at h
  · exact absurd (congrArg Prod.fst h) (by simp)
  · exact absurd (congrArg Prod.fst h) (by simp)
  · next images a₁ s₁ hslots =>
    have hexports := allocateSlots_exports hk flags.imageCount hslots
    have hc := Outcome.done.inj (congrArg Prod.fst h)
    have himages : c.images = images := by
      rw [← hc]
      exact images_filled images
    refine ⟨by rw [← hc]; rfl, ?_⟩
    rw [himages, hexports, List.map_nil, List.nil_append]

end

namespace Rotation

variable {c : Swapchain} {w : Rotation}

/-! ## The images it hands out -/

theorem step_request (w : Rotation) (use : Use) :
    (w.step use).chain.request = w.chain.request := by
  cases use with
  | acquire => exact acquire_request w.chain
  | release image =>
    simp only [step]
    split
    · split
      · next chain hrelease => exact release_request hrelease
      · rfl
    · rfl
  | change image backend renderer user =>
    simp only [step]
    split <;> rfl

theorem run_request (w : Rotation) (uses : List Use) :
    (w.run uses).chain.request = w.chain.request := by
  induction uses generalizing w with
  | nil => rfl
  | cons use rest ih => exact (ih (w.step use)).trans (w.step_request use)

/-- What is handed out is one of the images the swapchain was made with. -/
theorem Inv.handed_out (h : w.Inv c) {image : Image} (himage : w.chain.acquire.1 = some image) :
    ∃ original ∈ c.images, image.body = original.body := by
  rcases h.acquire_cases with ⟨-, hacquire⟩ | ⟨i, rest, out, sequence, -, hslot, hacquire⟩
  · rw [hacquire] at himage
    exact absurd himage (by simp)
  · rw [hacquire] at himage
    obtain rfl := Option.some.inj himage
    have hin : out ∈ w.chain.images :=
      List.mem_filterMap.mpr ⟨_, List.mem_of_getElem? hslot, rfl⟩
    have hmem : out.body ∈ c.images.map Image.body :=
      h.bodies.mem_iff.mp (List.mem_map_of_mem (List.mem_append_left _ hin))
    obtain ⟨original, horiginal, hbody⟩ := List.mem_map.mp hmem
    exact ⟨original, horiginal, hbody.symm⟩

theorem run_acquire_queue (w : Rotation) (n : Nat) :
    (w.run (List.replicate n .acquire)).queue = w.queue.drop n := by
  induction n generalizing w with
  | zero => rfl
  | succ n ih =>
    rw [List.replicate_succ]
    show ((w.step .acquire).run (List.replicate n .acquire)).queue = _
    rw [ih]
    simp [step]

/-- Every image the swapchain was made with is handed out, if only those before it were
acquired. -/
theorem handed_out_of_mem (hc : c.New) {original : Image} (horiginal : original ∈ c.images) :
    ∃ n image, ((start c).run (List.replicate n .acquire)).chain.acquire.1 = some image ∧
      image.body = original.body := by
  obtain ⟨slot, hmem, hin⟩ := List.mem_filterMap.mp horiginal
  obtain ⟨n, hn, rfl⟩ := List.getElem_of_mem hmem
  have hslot : c.slots[n]? = some c.slots[n] := List.getElem?_eq_getElem hn
  have h : ((start c).run (List.replicate n .acquire)).Inv c := (start_inv hc).run_inv hc _
  have hqueue := run_acquire_queue (start c) n
  rcases h.acquire_cases with ⟨hnil, -⟩ | ⟨i, rest, image, sequence, hcons, hout, hacquire⟩
  · rw [hqueue, start, List.drop_eq_nil_iff, List.length_range] at hnil
    exact absurd hn (Nat.not_lt.mpr hnil)
  · refine ⟨n, image, by rw [hacquire], ?_⟩
    -- the queue was not changed but at its head, and so the slot is the one with that number
    obtain rfl : n = i := by
      have hhead := congrArg List.head? (hqueue.symm.trans hcons)
      rw [List.head?_drop, List.head?_cons] at hhead
      exact Option.some.inj ((List.getElem?_range hn).symm.trans hhead)
    have hmade : image ∈ ((start c).run (List.replicate n .acquire)).chain.images :=
      List.mem_filterMap.mpr ⟨_, List.mem_of_getElem? hout, rfl⟩
    obtain ⟨other, hother, hbody⟩ :=
      h.original hc (List.mem_append_left _ hmade) (h.homed n _ image hout rfl)
    rw [hslot] at hother
    obtain rfl : other = original := by simpa [Option.some.inj hother] using hin
    exact hbody

theorem fits_of_body {image other : Image} (h : image.body = other.body) (q : ImageRequest) :
    image.Fits q ↔ other.Fits q := by
  have hdmabuf := congrArg Image.dmabuf h
  rw [Image.fits_iff, Image.fits_iff, show image.dmabuf = other.dmabuf from hdmabuf]

/-- All images that are ever handed out are as asked for, exactly if those the swapchain was
made with are. -/
theorem handed_out_fit_iff (hc : c.New) (q : ImageRequest) :
    (∀ uses image, ((start c).run uses).chain.acquire.1 = some image → image.Fits q) ↔
      ∀ original ∈ c.images, original.Fits q := by
  constructor
  · intro h original horiginal
    obtain ⟨n, image, hacquire, hbody⟩ := handed_out_of_mem hc horiginal
    exact (fits_of_body hbody q).mp (h _ image hacquire)
  · intro h uses image hacquire
    have hinv : ((start c).run uses).Inv c := (start_inv hc).run_inv hc uses
    obtain ⟨original, horiginal, hbody⟩ := hinv.handed_out hacquire
    exact (fits_of_body hbody q).mpr (h original horiginal)

end Rotation

end Swapchain

open Swapchain Allocator BufferAction

/-- **An image is what its buffer was exported as.** For every device, renderer and display and
every request: an image that is allocated consists of a buffer in one of the layouts named, if
any were, and has size, format and one of the layouts asked for exactly if its buffer was
exported so. An allocation that fails frees every buffer it made. A swapchain tells what was
asked for however it is used, and all images it ever hands out are that, exactly if all the
buffers it was made with were exported so. -/
theorem handed_out_as_exported {host : Host σ} (hk : host.KeepsDmabufs) (q : ImageRequest)
    (a : Allocator) (s : σ) :
    (∀ image a' s',
      allocate host q.width q.height q.fourcc q.modifiers a s = (.done image, a', s') →
      q.Admits image.buffer.format.modifier ∧
        ∃ d, host.exported? q s = some d ∧ (image.Fits q ↔ d.Fits q)) ∧
    (∀ log,
      let result := allocate host q.width q.height q.fourcc q.modifiers a s
      (∀ image, result.1 ≠ .done image) →
      ∃ spent, AllSpent host.hooked spent ∧
        allocate host.recording q.width q.height q.fourcc q.modifiers a (s, log)
          = (result.1, a, result.2.2, log ++ spent)) ∧
    ∀ id flags c a' s',
      create host id q.width q.height q.fourcc q.modifiers flags a s = (.done c, a', s') →
      (∀ uses, ((Rotation.start c).run uses).chain.request = q) ∧
      ((∀ uses image, ((Rotation.start c).run uses).chain.acquire.1 = some image →
          image.Fits q) ↔
        ∀ d ∈ exports host q flags.imageCount a s, d.Fits q) := by
  refine ⟨fun image a' s' h => ?_, fun log => ?_, fun id flags c a' s' h => ?_⟩
  · exact ⟨allocate_layout hk h, image.dmabuf, allocate_exported hk h, image.fits_iff q⟩
  · intro result hnone
    obtain ⟨outcome, a', s', spent, hspent, hplain, hcases⟩ :=
      allocate_cases hk.toKeepsBuffers q.width q.height q.fourcc q.modifiers a s log
    have hresult : result = (outcome, a', s') := hplain
    refine ⟨spent, hspent, ?_⟩
    rcases hcases with ⟨image, rfl, -⟩ | ⟨-, rfl, hrec⟩
    · exact absurd (congrArg Prod.fst hresult) (hnone image)
    · rw [hrec, hresult]
  · obtain ⟨hrequest, himages⟩ := create_exports hk h
    refine ⟨fun uses => (Rotation.run_request _ uses).trans hrequest, ?_⟩
    rw [Rotation.handed_out_fit_iff (create_new h).1, ← himages, List.forall_mem_map]
    exact forall₂_congr fun image _ => image.fits_iff q

/-- A device that makes every buffer of plain rows, and says of it what it likes when it
exports it. -/
def exportingAs (layout : Modifier) : Host Nat :=
  { createExplicit := fun _ _ _ _ n => (.done (Image.numbered n).buffer, n)
    createImplicit := fun _ _ _ _ n => (.done (Image.numbered n).buffer, n)
    exportBuffer := fun _ n =>
      (.ok { (Image.numbered n).dmabuf with format := ⟨.xrgb8888, layout⟩ }, n)
    freeBuffer := fun _ n => n
    nextImageId := fun n => (⟨n⟩, n + 1)
    hooks := none
    attach := fun image n => (.ok image, n)
    detach := fun image n => (image, n) }

/-- The pair of images, asked for in plain rows. -/
def plainPair : Swapchain := { Circulation.pair with modifiers := [.linear] }

theorem plain_pair_as_exported :
    (exportingAs .linear).KeepsDmabufs ∧
    create (exportingAs .linear) ⟨0⟩ 64 64 .xrgb8888 [.linear] ⟨0⟩ {} 0
      = (.done plainPair, ⟨2⟩, 2) ∧
    ∀ uses image, ((Rotation.start plainPair).run uses).chain.acquire.1 = some image →
      image.Fits ⟨64, 64, .xrgb8888, [.linear]⟩ := by
  have hk : (exportingAs .linear).KeepsDmabufs := by
    refine ⟨⟨?_, ?_, ?_, fun _ _ => rfl⟩, ?_, ?_⟩
    · rintro hooks ⟨⟩
    · rintro hooks ⟨⟩
    · rintro image s image' ⟨⟩
      rfl
    · rintro hooks ⟨⟩
    · rintro image s image' ⟨⟩
      rfl
  have hmade : create (exportingAs .linear) ⟨0⟩ 64 64 .xrgb8888 [.linear] ⟨0⟩ {} 0
      = (.done plainPair, ⟨2⟩, 2) := by
    decide +kernel
  obtain ⟨-, -, hchain⟩ := handed_out_as_exported hk ⟨64, 64, .xrgb8888, [.linear]⟩ {} 0
  obtain ⟨-, hfit⟩ := hchain ⟨0⟩ ⟨0⟩ plainPair ⟨2⟩ 2 hmade
  exact ⟨hk, hmade, hfit.mpr (by decide +kernel)⟩

/-- Plain rows are asked for and the buffer has them, but it is exported as tiled: the image is
handed out all the same. -/
theorem tiled_for_plain :
    let result := allocate (exportingAs ⟨0x0100000000000001⟩) 64 64 .xrgb8888 [.linear] {} 0
    ∃ image, result.1 = .done image ∧ image.format.modifier = ⟨0x0100000000000001⟩ ∧
      ¬ image.Fits ⟨64, 64, .xrgb8888, [.linear]⟩ := by
  refine ⟨{ Image.numbered 0 with dmabuf := { (Image.numbered 0).dmabuf with
    format := ⟨.xrgb8888, ⟨0x0100000000000001⟩⟩ } }, by decide +kernel, rfl, ?_⟩
  rw [Image.fits_iff]
  decide +kernel

end Scanout
