import Mathlib.Algebra.GroupWithZero.Nat
import Scanout.Proofs.Swapchain.Making
import Scanout.Proofs.Swapchain.Queue

/-!
# The tenants of an allocator

Several swapchains and any number of single images share an allocator, and each of them makes
and ends images without knowing of the others. `Tenants` is what there is at a moment: the
swapchains that are in use, each run as a `Rotation`, and the single images. The images of all
of them are what is out of the allocator, so that a swapchain counts with all its slots,
however many of its images are acquired.

`Inv.step_cases` takes one move apart: it keeps the invariant, or the device broke its
contract. `all_accounted_for` is the result, for every run.
-/

namespace Scanout

variable {σ : Type}

open Swapchain (Rotation)
open BufferAction

namespace Allocator.Course

/-- The buffers that are live are those of the images that are out, and each was imported by
renderer and display and not yet taken back. -/
theorem Inv.live_perm {host : Host σ} {w : Course σ} (h : w.Inv host) :
    ((BufferLife.ofLog w.log).filter (·.live)).Perm
      (w.hand.map fun image => ⟨image.buffer, opening host.hooked⟩) := by
  have hopen : (BufferLife.ofLog w.log).filter (·.live)
      = (((BufferLife.ofLog w.log).filter (·.live)).map (·.buffer)).map
          fun buffer => ⟨buffer, opening host.hooked⟩ := by
    rw [List.map_map]
    refine (List.map_id _).symm.trans (List.map_congr_left fun l hl => ?_)
    obtain ⟨hmem, hlive⟩ := List.mem_filter.mp hl
    have hactions := (h.bracketed l hmem).opening_of_live hlive
    simp only [Function.comp_apply, ← hactions, id_eq]
  have hhand : w.hand.map (fun image => (⟨image.buffer, opening host.hooked⟩ : BufferLife))
      = (w.hand.map (·.buffer)).map fun buffer => ⟨buffer, opening host.hooked⟩ := by
    rw [List.map_map]
    rfl
  rw [hopen, hhand]
  exact h.living.map _

end Allocator.Course

namespace Swapchain.Rotation

/-- The images of a swapchain, in its slots or out of them. -/
def images (r : Rotation) : List Image := r.chain.images ++ r.hand

variable {c : Swapchain} {r : Rotation}

/-- Whatever is done with a swapchain, its images have the buffers they were made with. -/
theorem Inv.buffers (h : r.Inv c) : (r.images.map (·.buffer)).Perm (c.images.map (·.buffer)) := by
  have hbuffers := h.bodies.map Image.buffer
  rw [List.map_map, List.map_map] at hbuffers
  exact hbuffers

theorem Inv.images_length (h : r.Inv c) (hc : c.New) : r.images.length = r.chain.size := by
  have hcount := r.chain.acquired_add_images
  have hout := h.acquired_eq_hand hc
  rw [images, List.length_append]
  omega

end Swapchain.Rotation

/-- The swapchains and the single images that share an allocator. -/
structure Tenants (σ : Type) where
  allocator : Allocator := {}
  host : σ
  /-- Everything done to buffers so far. -/
  log : ActionLog := []
  /-- The swapchains in use, each with the images that are out of it. -/
  chains : List Rotation := []
  /-- The single images. -/
  singles : List Image := []
  /-- How many swapchains were asked for so far. -/
  asked : Nat := 0
  deriving DecidableEq, Repr

namespace Tenants

/-- What can happen next. -/
inductive Move where
  /-- A swapchain is asked for. -/
  | create (q : ImageRequest) (flags : SwapchainFlags)
  /-- An image is acquired from a swapchain or released to it, or what it keeps changes. -/
  | use (id : SwapchainId) (use : Swapchain.Use)
  /-- A swapchain of which nothing is acquired is destroyed. -/
  | destroy (id : SwapchainId)
  /-- A single image is asked for. -/
  | allocate (q : ImageRequest)
  /-- A single image goes back. -/
  | deallocate (image : Image)
  /-- What a single image keeps in its slots changes. -/
  | change (image : Image) (backend renderer user : DataSlot)
  deriving DecidableEq, Repr

def start (s : σ) : Tenants σ := { host := s }

def chain? (w : Tenants σ) (id : SwapchainId) : Option Rotation :=
  w.chains.find? (·.chain.id = id)

/-- One move; a fault ends everything. What is not there is not moved. -/
def step (host : Host σ) (w : Tenants σ) : Move → Except Fault (Tenants σ)
  | .create q flags =>
    match Swapchain.create host.recording ⟨w.asked⟩ q.width q.height q.fourcc q.modifiers flags
        w.allocator (w.host, w.log) with
    | (.done c, a, s, log) => .ok { w with
        allocator := a, host := s, log := log
        chains := w.chains ++ [.start c], asked := w.asked + 1 }
    | (.failed _, a, s, log) => .ok { w with
        allocator := a, host := s, log := log, asked := w.asked + 1 }
    | (.fault f, _, _) => .error f
  | .use id use =>
    match w.chain? id with
    | none => .ok w
    | some r => .ok { w with chains := w.chains.erase r ++ [r.step use] }
  | .destroy id =>
    match w.chain? id with
    | none => .ok w
    | some r =>
      if r.chain.acquired ≠ 0 then .ok w
      else
        match r.chain.destroy host.recording w.allocator (w.host, w.log) with
        | (none, a, s, log) => .ok { w with
            allocator := a, host := s, log := log, chains := w.chains.erase r }
        | (some f, _, _) => .error f
  | .allocate q =>
    match Allocator.allocate host.recording q.width q.height q.fourcc q.modifiers w.allocator
        (w.host, w.log) with
    | (.done image, a, s, log) => .ok { w with
        allocator := a, host := s, log := log, singles := w.singles ++ [image] }
    | (.failed _, a, s, log) => .ok { w with allocator := a, host := s, log := log }
    | (.fault f, _, _) => .error f
  | .deallocate image =>
    if image ∈ w.singles then
      match Allocator.deallocate host.recording image w.allocator (w.host, w.log) with
      | (none, a, s, log) => .ok { w with
          allocator := a, host := s, log := log, singles := w.singles.erase image }
      | (some f, _, _) => .error f
    else .ok w
  | .change image backend renderer user =>
    if image ∈ w.singles then
      .ok { w with singles := w.singles.erase image ++
          [{ image with backendData := backend, rendererData := renderer, userData := user }] }
    else .ok w

def run (host : Host σ) (w : Tenants σ) : List Move → Except Fault (Tenants σ)
  | [] => .ok w
  | move :: rest =>
    match w.step host move with
    | .ok w => w.run host rest
    | .error f => .error f

/-- The images of all of them. -/
def images (w : Tenants σ) : List Image :=
  w.chains.flatMap Rotation.images ++ w.singles

/-- How many images there are: those of the swapchains by their sizes, and the single ones. -/
def size (w : Tenants σ) : Nat :=
  (w.chains.map (·.chain.size)).sum + w.singles.length

/-- What all of them come to for the allocator. -/
def course (w : Tenants σ) : Allocator.Course σ :=
  { allocator := w.allocator, host := w.host, log := w.log, hand := w.images }

/-- The buffers not freed yet, with what was done to each. -/
def living (w : Tenants σ) : List BufferLife :=
  (BufferLife.ofLog w.log).filter (·.live)

structure Inv (host : Host σ) (w : Tenants σ) : Prop where
  course : w.course.Inv host
  /-- Every swapchain was a new one when it came into use. -/
  chains : ∀ r ∈ w.chains, ∃ c : Swapchain, c.New ∧ r.Inv c

theorem start_inv (host : Host σ) (s : σ) : (start s).Inv host where
  course := Allocator.Course.start_inv host s
  chains := fun _ h => absurd h List.not_mem_nil

variable {host : Host σ} {w : Tenants σ}

/-! ## The images of one tenant and those of the others -/

theorem mem_of_chain? {id : SwapchainId} {r : Rotation} (h : w.chain? id = some r) :
    r ∈ w.chains :=
  List.mem_of_find?_eq_some h

/-- The images of all but one swapchain. -/
def besides (w : Tenants σ) (r : Rotation) : List Image :=
  (w.chains.erase r).flatMap Rotation.images ++ w.singles

theorem images_perm_of_mem {r : Rotation} (hr : r ∈ w.chains) :
    w.images.Perm (r.images ++ w.besides r) := by
  have hchains := (List.perm_cons_erase hr).flatMap_right Rotation.images
  rw [List.flatMap_cons] at hchains
  rw [besides, ← List.append_assoc]
  exact hchains.append_right w.singles

theorem images_perm_concat (chains : List Rotation) (r : Rotation) (singles : List Image) :
    ((chains ++ [r]).flatMap Rotation.images ++ singles).Perm
      (r.images ++ (chains.flatMap Rotation.images ++ singles)) := by
  rw [List.flatMap_append, List.flatMap_singleton, ← List.append_assoc]
  exact List.perm_append_comm.append_right singles

theorem Inv.images_length (h : w.Inv host) : w.images.length = w.size := by
  have hlengths : w.chains.map (fun r => r.images.length) = w.chains.map (·.chain.size) := by
    refine List.map_congr_left fun r hr => ?_
    obtain ⟨c, hc, hinv⟩ := h.chains r hr
    exact hinv.images_length hc
  rw [images, size, List.length_append, List.length_flatMap, hlengths]

/-! ## One move -/

theorem Inv.create_cases (h : w.Inv host) (hk : host.KeepsBuffers) (q : ImageRequest)
    (flags : SwapchainFlags) :
    ∃ outcome a s,
      Swapchain.create host ⟨w.asked⟩ q.width q.height q.fourcc q.modifiers flags w.allocator
        w.host = (outcome, a, s) ∧
      ((∃ c w', outcome = .done c ∧ c.size = flags.imageCount ∧ c.images.length = c.size ∧
          w.step host (.create q flags) = .ok w' ∧ (w'.allocator, w'.host) = (a, s) ∧
          w'.chains = w.chains ++ [.start c] ∧ w'.singles = w.singles ∧ w'.Inv host) ∨
        (∃ e w', outcome = .failed e ∧
          Swapchain.firstFailure? host q flags.imageCount w.allocator w.host = some e ∧
          w.step host (.create q flags) = .ok w' ∧ (w'.allocator, w'.host) = (a, s) ∧
          w'.chains = w.chains ∧ w'.singles = w.singles ∧ w'.Inv host) ∨
        ∃ f, outcome = .fault f ∧ w.step host (.create q flags) = .error f ∧ host.Faults f) := by
  obtain ⟨outcome, a, s, log, hplain, hrec, hcases⟩ :=
    Swapchain.create_cases hk ⟨w.asked⟩ q flags h.course
  have hrec' : Swapchain.create host.recording ⟨w.asked⟩ q.width q.height q.fourcc q.modifiers
      flags w.allocator (w.host, w.log) = (outcome, a, s, log) := hrec
  refine ⟨outcome, a, s, hplain, ?_⟩
  rcases hcases with ⟨c, rfl, hsize, hfull, hinv⟩ | ⟨e, rfl, hfirst, hinv⟩ | ⟨f, rfl, hfault⟩
  · have hnew : c.New := (Swapchain.create_new hrec').1
    let w' : Tenants σ := { w with
      allocator := a, host := s, log := log
      chains := w.chains ++ [.start c], asked := w.asked + 1 }
    have hstep : w.step host (.create q flags) = .ok w' := by simp only [step, hrec', w']
    refine .inl ⟨c, w', rfl, hsize, hfull, hstep, rfl, rfl, rfl, ?_, ?_⟩
    · -- the new swapchain comes last, and its images are all in their slots
      have hnone : (Rotation.start c).images = c.images := List.append_nil _
      have hperm := images_perm_concat w.chains (.start c) w.singles
      rw [hnone] at hperm
      exact hinv.with_hand (hperm.map _)
    · intro r hr
      rcases List.mem_append.mp hr with hr | hr
      · exact h.chains r hr
      · obtain rfl := List.mem_singleton.mp hr
        exact ⟨c, hnew, Rotation.start_inv hnew⟩
  · have hstep : w.step host (.create q flags) = .ok { w with
        allocator := a, host := s, log := log, asked := w.asked + 1 } := by
      simp only [step, hrec']
    exact .inr (.inl ⟨e, _, rfl, hfirst, hstep, rfl, rfl, rfl, hinv, h.chains⟩)
  · exact .inr (.inr ⟨f, rfl, by simp only [step, hrec'], hfault⟩)

theorem Inv.use_inv (h : w.Inv host) {id : SwapchainId} {r : Rotation}
    (hr : w.chain? id = some r) (use : Swapchain.Use) :
    ({ w with chains := w.chains.erase r ++ [r.step use] } : Tenants σ).Inv host := by
  have hmem := mem_of_chain? hr
  obtain ⟨c, hc, hinv⟩ := h.chains r hmem
  refine ⟨?_, fun other hother => ?_⟩
  · -- the images of the swapchain may have changed places, but not their buffers
    have hbuffers : ((r.step use).images.map (·.buffer)).Perm (r.images.map (·.buffer)) :=
      (hinv.step_inv hc use).buffers.trans hinv.buffers.symm
    have hjoined : (((r.step use).images ++ w.besides r).map (·.buffer)).Perm
        ((r.images ++ w.besides r).map (·.buffer)) := by
      rw [List.map_append, List.map_append]
      exact hbuffers.append_right _
    have hbefore := (images_perm_of_mem hmem).map (·.buffer)
    have hafter := (images_perm_concat (w.chains.erase r) (r.step use) w.singles).map (·.buffer)
    exact h.course.with_hand (hafter.trans (hjoined.trans hbefore.symm))
  · rcases List.mem_append.mp hother with hother | hother
    · exact h.chains other (List.mem_of_mem_erase hother)
    · obtain rfl := List.mem_singleton.mp hother
      exact ⟨c, hc, hinv.step_inv hc use⟩

/-- A swapchain of which nothing is acquired can be destroyed, and all its images go back. -/
theorem Inv.destroy_ok (h : w.Inv host) (hk : host.KeepsBuffers) {r : Rotation}
    (hr : r ∈ w.chains) (hidle : r.chain.acquired = 0) :
    ∃ a s log,
      r.chain.destroy host w.allocator w.host = (none, a, s) ∧
      r.chain.destroy host.recording w.allocator (w.host, w.log) = (none, a, s, log) ∧
      ({ w with allocator := a, host := s, log := log, chains := w.chains.erase r }
        : Tenants σ).Inv host := by
  obtain ⟨c, hc, hinv⟩ := h.chains r hr
  have hhand : r.hand = [] := by
    rw [hinv.acquired_eq_hand hc] at hidle
    exact List.length_eq_zero_iff.mp hidle
  have himages : w.course.hand.Perm (r.chain.images ++ w.besides r) := by
    have hperm := images_perm_of_mem hr
    rwa [Rotation.images, hhand, List.append_nil] at hperm
  obtain ⟨a, s, log, hplain, hrec, hback⟩ :=
    Allocator.Course.Inv.deallocateAll hk r.chain.images h.course himages
  have hdestroy : ∀ {τ : Type} (host : Host τ) (a : Allocator) (s : τ),
      r.chain.destroy host a s = Allocator.deallocateAll host r.chain.images a s := by
    intro τ host a s
    rw [Swapchain.destroy, if_neg (by simp [hidle])]
  refine ⟨a, s, log, (hdestroy host _ _).trans hplain, (hdestroy host.recording _ _).trans hrec,
    hback, fun other hother => h.chains other (List.mem_of_mem_erase hother)⟩

theorem Inv.allocate_cases (h : w.Inv host) (hk : host.KeepsBuffers) (q : ImageRequest) :
    (∃ w', w.step host (.allocate q) = .ok w' ∧ w'.Inv host) ∨
      ∃ f, w.step host (.allocate q) = .error f ∧ host.Faults f := by
  obtain ⟨outcome, a, s, log, hplain, hrec, hinv⟩ := h.course.allocate hk q
  have hrec' : Allocator.allocate host.recording q.width q.height q.fourcc q.modifiers
      w.allocator (w.host, w.log) = (outcome, a, s, log) := hrec
  cases outcome with
  | done image =>
    have hstep : w.step host (.allocate q) = .ok { w with
        allocator := a, host := s, log := log, singles := w.singles ++ [image] } := by
      simp only [step, hrec']
    have hhand : w.course.hand ++ [image]
        = w.chains.flatMap Rotation.images ++ (w.singles ++ [image]) := List.append_assoc _ _ _
    rw [Allocator.handedOut, hhand] at hinv
    exact .inl ⟨_, hstep, hinv, h.chains⟩
  | failed e =>
    have hstep : w.step host (.allocate q) = .ok { w with
        allocator := a, host := s, log := log } := by
      simp only [step, hrec']
    rw [Allocator.handedOut, List.append_nil] at hinv
    exact .inl ⟨_, hstep, hinv, h.chains⟩
  | fault f =>
    exact .inr ⟨f, by simp only [step, hrec'],
      Allocator.allocate_fault (congrArg Prod.fst hplain)⟩

/-- The images of all, with a single image named first. -/
theorem images_perm_of_single {image : Image} (himage : image ∈ w.singles) :
    w.images.Perm (image :: (w.chains.flatMap Rotation.images ++ w.singles.erase image)) := by
  have hsingles := (List.perm_cons_erase himage).append_left (w.chains.flatMap Rotation.images)
  exact hsingles.trans List.perm_middle

/-- Every single image can be given back. -/
theorem Inv.deallocate_ok (h : w.Inv host) (hk : host.KeepsBuffers) {image : Image}
    (himage : image ∈ w.singles) :
    ∃ a s log,
      Allocator.deallocate host image w.allocator w.host = (none, a, s) ∧
      Allocator.deallocate host.recording image w.allocator (w.host, w.log) = (none, a, s, log) ∧
      ({ w with allocator := a, host := s, log := log, singles := w.singles.erase image }
        : Tenants σ).Inv host := by
  obtain ⟨a, s, log, hplain, hrec, hinv⟩ :=
    h.course.deallocate hk (images_perm_of_single himage)
  exact ⟨a, s, log, hplain, hrec, hinv, h.chains⟩

theorem Inv.change_inv (h : w.Inv host) {image : Image} (himage : image ∈ w.singles)
    (backend renderer user : DataSlot) :
    ({ w with singles := w.singles.erase image ++
        [{ image with backendData := backend, rendererData := renderer, userData := user }] }
      : Tenants σ).Inv host := by
  refine ⟨h.course.with_hand ?_, h.chains⟩
  have hbefore := (images_perm_of_single himage).map Image.buffer
  refine List.Perm.trans ?_ hbefore.symm
  rw [images, ← List.append_assoc, List.map_append]
  exact List.perm_append_singleton image.buffer _

/-- A move keeps the invariant, or the device broke its contract. -/
theorem Inv.step_cases (h : w.Inv host) (hk : host.KeepsBuffers) (move : Move) :
    (∃ w', w.step host move = .ok w' ∧ w'.Inv host) ∨
      ∃ f, w.step host move = .error f ∧ host.Faults f := by
  cases move with
  | create q flags =>
    obtain ⟨-, -, -, -, ⟨-, w', -, -, -, hstep, -, -, -, hinv⟩ |
      ⟨-, w', -, -, hstep, -, -, -, hinv⟩ | ⟨f, -, hstep, hfault⟩⟩ := h.create_cases hk q flags
    · exact .inl ⟨w', hstep, hinv⟩
    · exact .inl ⟨w', hstep, hinv⟩
    · exact .inr ⟨f, hstep, hfault⟩
  | use id use =>
    cases hr : w.chain? id with
    | none => exact .inl ⟨w, by simp only [step, hr], h⟩
    | some r => exact .inl ⟨_, by simp only [step, hr], h.use_inv hr use⟩
  | destroy id =>
    cases hr : w.chain? id with
    | none => exact .inl ⟨w, by simp only [step, hr], h⟩
    | some r =>
      by_cases hidle : r.chain.acquired = 0
      · obtain ⟨a, s, log, -, hrec, hinv⟩ := h.destroy_ok hk (mem_of_chain? hr) hidle
        exact .inl ⟨_, by simp only [step, hr, hidle, hrec]; rfl, hinv⟩
      · exact .inl ⟨w, by simp only [step, hr, if_pos hidle], h⟩
  | allocate q => exact h.allocate_cases hk q
  | deallocate image =>
    by_cases himage : image ∈ w.singles
    · obtain ⟨a, s, log, -, hrec, hinv⟩ := h.deallocate_ok hk himage
      exact .inl ⟨_, by simp only [step, if_pos himage, hrec], hinv⟩
    · exact .inl ⟨w, by simp only [step, if_neg himage], h⟩
  | change image backend renderer user =>
    by_cases himage : image ∈ w.singles
    · exact .inl ⟨_, by simp only [step, if_pos himage],
        h.change_inv himage backend renderer user⟩
    · exact .inl ⟨w, by simp only [step, if_neg himage], h⟩

theorem Inv.run_inv (h : w.Inv host) (hk : host.KeepsBuffers) {moves : List Move}
    {w' : Tenants σ} (hrun : w.run host moves = .ok w') : w'.Inv host := by
  induction moves generalizing w with
  | nil =>
    obtain rfl : w = w' := Except.ok.inj hrun
    exact h
  | cons move rest ih =>
    rcases h.step_cases hk move with ⟨w₁, hstep, hinv⟩ | ⟨f, hstep, -⟩
    · simp only [run, hstep] at hrun
      exact ih hinv hrun
    · simp only [run, hstep] at hrun
      exact absurd hrun (by simp)

/-- Only the device can bring a run to an end. -/
theorem Inv.run_fault (h : w.Inv host) (hk : host.KeepsBuffers) {moves : List Move} {f : Fault}
    (hrun : w.run host moves = .error f) : host.Faults f := by
  induction moves generalizing w with
  | nil => exact absurd hrun (by simp [run])
  | cons move rest ih =>
    rcases h.step_cases hk move with ⟨w₁, hstep, hinv⟩ | ⟨f₁, hstep, hfault⟩
    · simp only [run, hstep] at hrun
      exact ih hinv hrun
    · simp only [run, hstep] at hrun
      rwa [← Except.error.inj hrun]

/-! ## What it comes to -/

/-- Everything there is counts once, by the sizes of the swapchains. -/
theorem Inv.tally_eq (h : w.Inv host) :
    w.course.tally
      = { outstanding := w.size
          buffers := w.size
          attachments := w.size
          imports := if host.hooked then w.size else 0 } := by
  have hlength : w.course.hand.length = w.size := h.images_length
  rw [h.course.tally_eq, hlength]

/-- With the same swapchains and single images, the account is the same. -/
theorem Inv.same_account (h : w.Inv host) {w' : Tenants σ} (h' : w'.Inv host)
    (hchains : w'.chains = w.chains) (hsingles : w'.singles = w.singles) :
    w'.course.tally = w.course.tally ∧ w'.living.Perm w.living := by
  have hsize : w'.size = w.size := by rw [size, size, hchains, hsingles]
  have himages : w'.course.hand = w.course.hand := by
    show w'.images = w.images
    rw [images, images, hchains, hsingles]
  refine ⟨by rw [h'.tally_eq, h.tally_eq, hsize], ?_⟩
  have hliving := h'.course.live_perm
  rw [himages] at hliving
  exact hliving.trans h.course.live_perm.symm

/-- **All images are accounted for.** Any number of swapchains and single images share an
allocator, and swapchains are asked for, used and destroyed and single images asked for and
given back in any order, while device, renderer and display may refuse whatever they like.
Nothing goes wrong unless the device breaks its contract. At every moment the count of the
allocator is the sum of the sizes of the swapchains and the number of single images, however
many are acquired, and so are the buffers not freed, the attachments and the imports; each
buffer not freed is that of one of these images. An image that is out can be released, a
swapchain of which nothing is acquired can be destroyed and a single image can be given back.
A swapchain that is asked for has as many images as its flags say; or there is none, for the
reason of the first allocation that failed, and nothing has changed for anybody. -/
theorem all_accounted_for (hk : host.KeepsBuffers) (s : σ) (moves : List Move) :
    (∀ f, (start s).run host moves = .error f → host.Faults f) ∧
    ∀ w, (start s).run host moves = .ok w →
      w.course.tally
        = { outstanding := w.size
            buffers := w.size
            attachments := w.size
            imports := if host.hooked then w.size else 0 } ∧
      w.living.Perm (w.images.map fun image => ⟨image.buffer, opening host.hooked⟩) ∧
      (∀ r ∈ w.chains,
        (∀ image ∈ r.hand, ∃ chain, r.chain.release image = .ok chain) ∧
        (r.chain.acquired = 0 → (r.chain.destroy host w.allocator w.host).1 = none)) ∧
      (∀ image ∈ w.singles, (Allocator.deallocate host image w.allocator w.host).1 = none) ∧
      ∀ q flags,
        let result := Swapchain.create host ⟨w.asked⟩ q.width q.height q.fourcc q.modifiers flags
          w.allocator w.host
        (∀ c, result.1 = .done c → c.size = flags.imageCount ∧ c.images.length = c.size ∧
          ∃ w', w.step host (.create q flags) = .ok w' ∧ (w'.allocator, w'.host) = result.2 ∧
            w'.chains = w.chains ++ [.start c] ∧ w'.singles = w.singles) ∧
        (∀ e, result.1 = .failed e →
          Swapchain.firstFailure? host q flags.imageCount w.allocator w.host = some e ∧
          ∃ w', w.step host (.create q flags) = .ok w' ∧ (w'.allocator, w'.host) = result.2 ∧
            w'.chains = w.chains ∧ w'.singles = w.singles ∧
            w'.course.tally = w.course.tally ∧ w'.living.Perm w.living) := by
  refine ⟨fun f hrun => (start_inv host s).run_fault hk hrun, fun w hrun => ?_⟩
  have h : w.Inv host := (start_inv host s).run_inv hk hrun
  refine ⟨h.tally_eq, h.course.live_perm, fun r hr => ⟨fun image himage => ?_, fun hidle => ?_⟩,
    fun image himage => ?_, fun q flags => ?_⟩
  · obtain ⟨c, hc, hinv⟩ := h.chains r hr
    obtain ⟨i, sequence, -, -, -, hrelease⟩ := hinv.release_ok hc himage
    exact ⟨_, hrelease⟩
  · obtain ⟨a, s', log, hplain, -⟩ := h.destroy_ok hk hr hidle
    rw [hplain]
  · obtain ⟨a, s', log, hplain, -⟩ := h.deallocate_ok hk himage
    rw [hplain]
  · obtain ⟨outcome, a, s', hplain, hcases⟩ := h.create_cases hk q flags
    simp only [hplain]
    rcases hcases with ⟨c, w', rfl, hsize, hfull, hstep, hafter, hchains, hsingles, -⟩ |
      ⟨e, w', rfl, hfirst, hstep, hafter, hchains, hsingles, hinv⟩ | ⟨f, rfl, -⟩
    · refine ⟨fun c' hc' => ?_, by simp⟩
      obtain rfl := Outcome.done.inj hc'
      exact ⟨hsize, hfull, w', hstep, hafter, hchains, hsingles⟩
    · refine ⟨by simp, fun e' he' => ?_⟩
      obtain rfl := Outcome.failed.inj he'
      exact ⟨hfirst, w', hstep, hafter, hchains, hsingles, h.same_account hinv hchains hsingles⟩
    · exact ⟨by simp, by simp⟩

/-- A host whose display refuses the fifth image. -/
def fullHost : Host Nat :=
  { Circulation.plainHost with
    attach := fun image n =>
      if image.id.number = 4 then (.error .disconnected, n) else (.ok image, n) }

def small : ImageRequest :=
  { width := 64, height := 64, fourcc := .xrgb8888, modifiers := [] }

/-- A single image and a pair, of which one image is acquired. -/
def movingIn : List Move :=
  [.allocate small, .create small ⟨0⟩, .use ⟨0⟩ .acquire]

/-- For another pair there is room for the first image only, so it goes back. -/
theorem second_pair_turned_away :
    fullHost.KeepsBuffers ∧
    ∃ w w', (start 0).run fullHost movingIn = .ok w ∧
      w.course.tally = ⟨3, 3, 3, 0⟩ ∧ w.chains.map (·.chain.acquired) = [1] ∧
      Swapchain.firstFailure? fullHost small 2 w.allocator w.host
        = some (.importImage .disconnected) ∧
      w.step fullHost (.create small ⟨0⟩) = .ok w' ∧ w'.course.tally = ⟨3, 3, 3, 0⟩ := by
  have hk : fullHost.KeepsBuffers := by
    refine ⟨?_, ?_, ?_, fun _ _ => rfl⟩
    · rintro hooks ⟨⟩
    · rintro hooks ⟨⟩
    · intro image s image' hok
      simp only [fullHost] at hok
      split at hok
      · exact absurd hok (by simp)
      · rw [Except.ok.inj hok]
  cases hrun : (start 0).run fullHost movingIn with
  | error f =>
    have hok : ((start 0).run fullHost movingIn).isOk = true := by decide +kernel
    rw [hrun] at hok
    exact absurd hok (by simp [Except.isOk, Except.toBool])
  | ok w =>
    obtain ⟨-, hall⟩ := all_accounted_for hk 0 movingIn
    obtain ⟨htally, -, -, -, hcreate⟩ := hall w hrun
    -- what the run comes to, as far as it is looked at
    have hview : ((start 0).run fullHost movingIn).toOption.map (fun w =>
          (w.size, w.chains.map (·.chain.acquired), w.asked, w.allocator, w.host))
        = some (3, [1], 1, ⟨3⟩, 3) := by
      decide +kernel
    simp only [hrun, Except.toOption, Option.map_some, Option.some.injEq, Prod.mk.injEq] at hview
    obtain ⟨hsize, hacquired, hasked, ha, hs⟩ := hview
    have hrefused : (Swapchain.create fullHost ⟨1⟩ 64 64 .xrgb8888 [] ⟨0⟩ ⟨3⟩ 3).1
        = .failed (.importImage .disconnected) := by
      decide +kernel
    obtain ⟨-, hfailed⟩ := hcreate small ⟨0⟩
    rw [hasked, ha, hs] at hfailed
    obtain ⟨hfirst, w', hstep, -, -, -, hsame, -⟩ := hfailed _ hrefused
    have htally' : w.course.tally = ⟨3, 3, 3, 0⟩ := by
      rw [htally, hsize]
      rfl
    refine ⟨hk, w, w', rfl, htally', hacquired, ?_, hstep, hsame.trans htally'⟩
    rw [ha, hs]
    exact hfirst

end Tenants

end Scanout
