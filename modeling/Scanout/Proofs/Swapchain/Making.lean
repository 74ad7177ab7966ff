import Scanout.Proofs.Allocator.Lives
import Scanout.Proofs.Allocator.Requests
import Scanout.Proofs.Swapchain.Slots

/-!
# Making all images of a swapchain, or none

A swapchain is made on an allocator that others use as well, image by image, and if one of
the images cannot be had those made before go back. Both are told as changes of an
`Allocator.Course`: `Inv.allocate` and `Inv.deallocateAll` say what becomes of the images that
are out, and `allocateSlots_cases` puts them together. The images of others are `rest`
throughout, and what is out in the end is `rest` with all the new images or `rest` alone.

The only thing that can go wrong beyond that is a device that breaks its contract while it is
asked for a buffer (`Host.Faults`).
-/

namespace Scanout

variable {σ : Type}

theorem Host.dropImages_recording {host : Host σ} (images : List Image) (s : σ) (log : ActionLog) :
    host.recording.dropImages images (s, log)
      = (host.dropImages images s, log ++ images.map fun image => (image.buffer, .freed)) := by
  induction images generalizing s log with
  | nil => simp [dropImages]
  | cons image rest ih =>
    have hrest := ih (host.dropImage image s) (log ++ [(image.buffer, .freed)])
    rw [List.map_cons, List.append_cons]
    exact hrest

/-! ## What is out during a course -/

namespace Allocator.Course

variable {host : Host σ} {w : Course σ}

/-- Only the buffers of the images that are out matter. -/
theorem Inv.with_hand (h : w.Inv host) {hand : List Image}
    (hp : (hand.map (·.buffer)).Perm (w.hand.map (·.buffer))) :
    ({ w with hand := hand } : Course σ).Inv host where
  outstanding := by simpa [h.outstanding] using hp.length_eq.symm
  bracketed := h.bracketed
  living := h.living.trans hp.symm

/-- An allocation adds its image to those that are out, if it hands one out. -/
theorem Inv.allocate (h : w.Inv host) (hk : host.KeepsBuffers) (q : ImageRequest) :
    ∃ outcome a s log,
      allocate host q.width q.height q.fourcc q.modifiers w.allocator w.host = (outcome, a, s) ∧
      allocate host.recording q.width q.height q.fourcc q.modifiers w.allocator (w.host, w.log)
        = (outcome, a, s, log) ∧
      ({ allocator := a, host := s, log := log, hand := w.hand ++ handedOut outcome }
        : Course σ).Inv host := by
  have hstep := h.step_inv hk (.allocate q.width q.height q.fourcc q.modifiers)
  obtain ⟨outcome, a, s, spent, -, hplain, hcases⟩ :=
    allocate_cases hk q.width q.height q.fourcc q.modifiers w.allocator w.host w.log
  rcases hcases with ⟨image, -, -, hrec⟩ | ⟨-, -, hrec⟩
  · simp only [step, hrec] at hstep
    exact ⟨outcome, a, s, _, hplain, hrec, hstep⟩
  · simp only [step, hrec] at hstep
    exact ⟨outcome, a, s, _, hplain, hrec, hstep⟩

/-- An image that is out can be given back, and then the others are out. -/
theorem Inv.deallocate (h : w.Inv host) (hk : host.KeepsBuffers) {image : Image}
    {rest : List Image} (hhand : w.hand.Perm (image :: rest)) :
    ∃ a s log,
      Allocator.deallocate host image w.allocator w.host = (none, a, s) ∧
      Allocator.deallocate host.recording image w.allocator (w.host, w.log)
        = (none, a, s, log) ∧
      ({ allocator := a, host := s, log := log, hand := rest } : Course σ).Inv host := by
  have himage : image ∈ w.hand := hhand.mem_iff.mpr List.mem_cons_self
  obtain ⟨a, s, -, hplain, hstep⟩ := h.step_deallocate hk himage
  have hrec := deallocate_recording hk image w.allocator w.host w.log
  rw [hplain] at hrec
  have hnext := h.step_inv hk (.deallocate image)
  rw [hstep] at hnext
  have hothers : (w.hand.erase image).Perm rest := by
    simpa using hhand.erase image
  exact ⟨a, s, _, hplain, hrec, hnext.with_hand (hothers.symm.map _)⟩

/-- Images that are out can be given back all together, and then the others are out. -/
theorem Inv.deallocateAll (hk : host.KeepsBuffers) (images : List Image) {rest : List Image} :
    ∀ {w : Course σ}, w.Inv host → w.hand.Perm (images ++ rest) →
      ∃ a s log,
        Allocator.deallocateAll host images w.allocator w.host = (none, a, s) ∧
        Allocator.deallocateAll host.recording images w.allocator (w.host, w.log)
          = (none, a, s, log) ∧
        ({ allocator := a, host := s, log := log, hand := rest } : Course σ).Inv host := by
  induction images with
  | nil =>
    intro w h hhand
    exact ⟨w.allocator, w.host, w.log, rfl, rfl, h.with_hand (hhand.symm.map _)⟩
  | cons image images ih =>
    intro w h hhand
    obtain ⟨a, s, log, hplain, hrec, hnext⟩ := h.deallocate hk hhand
    obtain ⟨a', s', log', hplain', hrec', hinv⟩ := ih hnext (.refl _)
    refine ⟨a', s', log', ?_, ?_, hinv⟩
    · simp only [Allocator.deallocateAll, hplain, hplain']
    · simp only [Allocator.deallocateAll, hrec, hrec']

end Allocator.Course

/-! ## Making the images -/

namespace Swapchain

open Allocator

/-- The error of the first allocation that fails, of a number of them made one after the other. -/
def firstFailure? (host : Host σ) (q : ImageRequest) :
    Nat → Allocator → σ → Option AllocationError
  | 0, _, _ => none
  | missing + 1, a, s =>
    match allocate host q.width q.height q.fourcc q.modifiers a s with
    | (.done _, a, s) => firstFailure? host q missing a s
    | (.failed e, _, _) => some e
    | (.fault _, _, _) => none

variable {host : Host σ}

/-- Either all missing images are made, or the first of them that cannot be had is the reason
why the others went back, or the device broke its contract. -/
theorem allocateSlots_cases (hk : host.KeepsBuffers) (id : SwapchainId) (q : ImageRequest)
    {rest : List Image} (missing : Nat) :
    ∀ {made : List Image} {w : Course σ}, w.Inv host → w.hand.Perm (made ++ rest) →
      ∃ outcome a s log,
        allocateSlots host id q.width q.height q.fourcc q.modifiers missing made w.allocator
          w.host = (outcome, a, s) ∧
        allocateSlots host.recording id q.width q.height q.fourcc q.modifiers missing made
          w.allocator (w.host, w.log) = (outcome, a, s, log) ∧
        ((∃ images, outcome = .done images ∧ images.length = made.length + missing ∧
            ({ allocator := a, host := s, log := log, hand := images ++ rest }
              : Course σ).Inv host) ∨
          (∃ e, outcome = .failed e ∧
            firstFailure? host q missing w.allocator w.host = some e ∧
            ({ allocator := a, host := s, log := log, hand := rest } : Course σ).Inv host) ∨
          ∃ f, outcome = .fault f ∧ host.Faults f) := by
  induction missing with
  | zero =>
    intro made w h hhand
    exact ⟨.done made, w.allocator, w.host, w.log, rfl, rfl,
      .inl ⟨made, rfl, rfl, h.with_hand (hhand.symm.map _)⟩⟩
  | succ missing ih =>
    intro made w h hhand
    obtain ⟨outcome, a, s, log, hplain, hrec, hinv⟩ := h.allocate hk q
    cases outcome with
    | done image =>
      let owned : Image := { image with owner := some ⟨id, made.length⟩ }
      -- the new image is out, and it is no other for being owned
      have hout : ({ allocator := a, host := s, log := log, hand := made ++ [owned] ++ rest }
          : Course σ).Inv host := by
        refine hinv.with_hand ?_
        have hbuffers : (made ++ [owned] ++ rest).map (·.buffer)
            = (made ++ [image] ++ rest).map (·.buffer) := by simp [owned]
        rw [hbuffers]
        refine List.Perm.map _ ?_
        have hsplit : (made ++ [image] ++ rest).Perm (made ++ rest ++ [image]) := by
          rw [List.append_assoc, List.append_assoc]
          exact List.perm_append_comm.append_left made
        exact hsplit.trans (hhand.symm.append_right [image])
      obtain ⟨outcome', a', s', log', hplain', hrec', hcases⟩ := ih hout (.refl _)
      refine ⟨outcome', a', s', log', ?_, ?_, ?_⟩
      · simp only [allocateSlots, hplain]
        exact hplain'
      · simp only [allocateSlots, hrec]
        exact hrec'
      · simpa only [firstFailure?, hplain, List.length_append, List.length_singleton,
          Nat.add_assoc, Nat.add_comm 1] using hcases
    | failed e =>
      rw [handedOut, List.append_nil] at hinv
      obtain ⟨a', s', log', hplain', hrec', hback⟩ := hinv.deallocateAll hk made hhand
      refine ⟨.failed e, a', s', log', ?_, ?_, .inr (.inl ⟨e, rfl, ?_, hback⟩)⟩
      · simp only [allocateSlots, hplain, hplain']
      · simp only [allocateSlots, hrec, hrec']
      · simp only [firstFailure?, hplain]
    | fault f =>
      have hfault : host.Faults f := allocate_fault (congrArg Prod.fst hplain)
      refine ⟨.fault f, a, host.dropImages made s,
        log ++ made.map fun image => (image.buffer, .freed), ?_, ?_,
        .inr (.inr ⟨f, rfl, hfault⟩)⟩
      · simp only [allocateSlots, hplain]
      · simp only [allocateSlots, hrec, Host.dropImages_recording]

/-- A swapchain is made with as many images as its flags ask for and the images of others stay
out, or those are out alone and the reason is that of the first allocation that failed, or the
device broke its contract. -/
theorem create_cases (hk : host.KeepsBuffers) (id : SwapchainId) (q : ImageRequest)
    (flags : SwapchainFlags) {w : Course σ} (h : w.Inv host) :
    ∃ outcome a s log,
      create host id q.width q.height q.fourcc q.modifiers flags w.allocator w.host
        = (outcome, a, s) ∧
      create host.recording id q.width q.height q.fourcc q.modifiers flags w.allocator
        (w.host, w.log) = (outcome, a, s, log) ∧
      ((∃ c, outcome = .done c ∧ c.size = flags.imageCount ∧ c.images.length = c.size ∧
          ({ allocator := a, host := s, log := log, hand := c.images ++ w.hand }
            : Course σ).Inv host) ∨
        (∃ e, outcome = .failed e ∧
          firstFailure? host q flags.imageCount w.allocator w.host = some e ∧
          ({ allocator := a, host := s, log := log, hand := w.hand } : Course σ).Inv host) ∨
        ∃ f, outcome = .fault f ∧ host.Faults f) := by
  have hnone : w.hand.Perm ([] ++ w.hand) := .refl _
  obtain ⟨outcome, a, s, log, hplain, hrec, hcases⟩ :=
    allocateSlots_cases hk id q flags.imageCount h hnone
  rcases hcases with ⟨images, rfl, hlength, hinv⟩ | ⟨e, rfl, hfirst, hinv⟩ | ⟨f, rfl, hfault⟩
  · let c : Swapchain := {
      id := id, width := q.width, height := q.height, fourcc := q.fourcc
      modifiers := q.modifiers
      slots := images.map fun image => ⟨some image, 0⟩, counter := 0 }
    have himages : c.images = images := images_filled images
    have hsize : c.size = images.length := List.length_map _
    refine ⟨.done c, a, s, log, ?_, ?_, .inl ⟨c, rfl, ?_, ?_, ?_⟩⟩
    · simp only [create, hplain, c]
    · simp only [create, hrec, c]
    · rw [hsize, hlength, List.length_nil, Nat.zero_add]
    · rw [himages, hsize]
    · rw [himages]
      exact hinv
  · refine ⟨.failed e, a, s, log, ?_, ?_, .inr (.inl ⟨e, rfl, hfirst, hinv⟩)⟩
    · simp only [create, hplain]
    · simp only [create, hrec]
  · refine ⟨.fault f, a, s, log, ?_, ?_, .inr (.inr ⟨f, rfl, hfault⟩)⟩
    · simp only [create, hplain]
    · simp only [create, hrec]

end Swapchain

end Scanout
