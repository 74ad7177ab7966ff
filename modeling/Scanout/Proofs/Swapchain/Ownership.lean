import Mathlib.Data.List.Perm.Subperm
import Mathlib.Logic.Function.Basic
import Scanout.Proofs.Allocator.Requests
import Scanout.Proofs.Circulation

/-!
# Whose images are taken back

An image says which slot of which swapchain owns it, and a swapchain looks at nothing else when
the image is released to it. Whether what it says is where it is from, and whether its slot is
empty, the swapchain cannot know.

`Ownership` is any number of swapchains on any number of allocators, with the images that are out
of them. Every image, in a slot or out, carries its `Provenance` from the call that made it, which
nothing reads. The owners of the images that are from a swapchain, in its slots or out, are each
another one of its slots (`Dock.Sound`), also after some of them were lost. From this follows what
a release does, by the provenance alone: `taken_back_iff_own`.
-/

namespace Scanout

variable {ι σ : Type}

/-- Renderer and display keep what they make of a new image in its slots; whose image it is stays
as it was. -/
structure Host.KeepsOwners (host : Host σ) : Prop where
  create : ∀ hooks ∈ host.hooks, ∀ image s image',
    (hooks.create image s).1 = .ok image' → image'.owner = image.owner
  attach : ∀ image s image', (host.attach image s).1 = .ok image' → image'.owner = image.owner

theorem Host.importImage_owner {host : Host σ} (hk : host.KeepsOwners) {image image' : Image}
    {s : σ} (h : (host.importImage image s).1 = .ok image') : image'.owner = image.owner := by
  unfold importImage at h
  split at h
  · exact absurd h (by simp)
  · next hooked s₁ hhook =>
    have howner : hooked.owner = image.owner := by
      unfold hookCreate at hhook
      split at hhook
      · rw [Except.ok.inj (congrArg Prod.fst hhook)]
      · next hooks hhooks => exact hk.create hooks hhooks image s hooked (congrArg Prod.fst hhook)
    split at h
    · next attached s₂ hattach =>
      rw [← Except.ok.inj h]
      exact (hk.attach hooked s₁ attached (congrArg Prod.fst hattach)).trans howner
    · exact absurd h (by simp)

/-- What an allocator hands out belongs to no swapchain. -/
theorem Allocator.allocate_owner {host : Host σ} (hk : host.KeepsOwners) {q : ImageRequest}
    {a a' : Allocator} {s s' : σ} {image : Image}
    (h : allocate host q.width q.height q.fourcc q.modifiers a s = (.done image, a', s')) :
    image.owner = none := by
  unfold allocate at h
  split at h
  · exact absurd (congrArg Prod.fst h) (by simp)
  split at h
  · exact absurd (congrArg Prod.fst h) (by simp)
  · exact absurd (congrArg Prod.fst h) (by simp)
  split at h
  · exact absurd (congrArg Prod.fst h) (by simp)
  dsimp only at h
  split at h
  · exact absurd (congrArg Prod.fst h) (by simp)
  next imported s₁ himport =>
  rw [← Outcome.done.inj (congrArg Prod.fst h)]
  exact Host.importImage_owner hk (congrArg Prod.fst himport)

/-- Where an image is from. -/
structure Provenance (ι : Type) where
  /-- The allocator that made it. -/
  maker : ι
  /-- The swapchain it was made for, if it was. -/
  chain : Option SwapchainId
  deriving DecidableEq, Repr

/-- An image that is out, with where it is from. -/
structure Held (ι : Type) where
  image : Image
  origin : Provenance ι
  deriving DecidableEq, Repr

/-- A swapchain with its allocator, and where the images in its slots are from. -/
structure Dock (ι : Type) where
  side : ι
  chain : Swapchain
  origins : Nat → Provenance ι

namespace Dock

/-- A new swapchain, all images of which were made for it. -/
def new (side : ι) (id : SwapchainId) (c : Swapchain) : Dock ι :=
  { side := side, chain := c, origins := fun _ => ⟨side, some id⟩ }

/-- An image was taken back into the slot that owns it, and where it is from is known there. -/
def put (dock : Dock ι) (chain : Swapchain) (held : Held ι) : Dock ι :=
  { dock with
    chain := chain
    origins := match held.image.owner with
      | none => dock.origins
      | some owner => Function.update dock.origins owner.index held.origin }

theorem put_origins {dock : Dock ι} {held : Held ι} {chain : Option SwapchainId}
    (h : ∀ i, (dock.origins i).chain = chain) (hheld : held.origin.chain = chain)
    (after : Swapchain) (i : Nat) : ((dock.put after held).origins i).chain = chain := by
  cases howner : held.image.owner with
  | none =>
    simp only [put, howner]
    exact h i
  | some owner =>
    simp only [put, howner]
    by_cases hi : i = owner.index
    · rw [hi, Function.update_self]
      exact hheld
    · rw [Function.update_of_ne hi]
      exact h i

end Dock

/-- The owners of the images that are out and were made for a swapchain. -/
def Held.ownersOf (hand : List (Held ι)) (id : SwapchainId) : List (Option SlotRef) :=
  (hand.filter (·.origin.chain = some id)).map (·.image.owner)

/-- An image says that the swapchain owns it that it was made for, which was asked for before. -/
structure Held.Known (asked : Nat) (held : Held ι) : Prop where
  owner : held.image.owner.map (·.swapchain) = held.origin.chain
  asked : ∀ id, held.origin.chain = some id → id.number < asked

/-- What is known of a swapchain after so many moves, given the owners of the images that are out
and were made for it: with those in its slots they are slots of this swapchain, none of them
twice. -/
structure Dock.Sound (moves asked : Nat) (id : SwapchainId) (out : List (Option SlotRef))
    (dock : Dock ι) : Prop where
  chain_id : dock.chain.id = id
  asked : id.number < asked
  homed : dock.chain.Homed
  origins : ∀ i, (dock.origins i).chain = some id
  owners : (dock.chain.images.map (·.owner) ++ out).Subperm (Swapchain.homes id dock.chain.size)
  counter : dock.chain.counter ≤ moves

namespace Held

variable {held : Held ι} {id : SwapchainId} {asked asked' : Nat}

theorem ownersOf_perm {hand hand' : List (Held ι)} (h : hand.Perm hand') (id : SwapchainId) :
    (ownersOf hand id).Perm (ownersOf hand' id) :=
  (h.filter _).map _

theorem ownersOf_cons_own (h : held.origin.chain = some id) (hand : List (Held ι)) :
    ownersOf (held :: hand) id = held.image.owner :: ownersOf hand id := by
  rw [ownersOf, List.filter_cons_of_pos (by simpa using h)]
  rfl

theorem ownersOf_cons_other (h : held.origin.chain ≠ some id) (hand : List (Held ι)) :
    ownersOf (held :: hand) id = ownersOf hand id := by
  rw [ownersOf, List.filter_cons_of_neg (by simpa using h)]
  rfl

/-- Taking an image out of the hand leaves no owner that was not there. -/
theorem ownersOf_erase [DecidableEq ι] (hand : List (Held ι)) (held : Held ι) (id : SwapchainId) :
    (ownersOf (hand.erase held) id).Subperm (ownersOf hand id) :=
  ((List.erase_sublist.filter _).map _).subperm

theorem Known.mono (h : held.Known asked) (hasked : asked ≤ asked') : held.Known asked' where
  owner := h.owner
  asked := fun id hid => Nat.lt_of_lt_of_le (h.asked id hid) hasked

end Held

namespace Dock

open Swapchain

variable {dock : Dock ι} {held : Held ι} {id : SwapchainId} {moves moves' asked asked' : Nat}
  {out out' : List (Option SlotRef)}

theorem Sound.mono (h : dock.Sound moves asked id out) (hmoves : moves ≤ moves')
    (hasked : asked ≤ asked') (hout : out'.Subperm out) : dock.Sound moves' asked' id out' where
  chain_id := h.chain_id
  asked := Nat.lt_of_lt_of_le h.asked hasked
  homed := h.homed
  origins := h.origins
  owners := ((List.subperm_append_left _).mpr hout).trans h.owners
  counter := Nat.le_trans h.counter hmoves

theorem Sound.nodup (h : dock.Sound moves asked id out) :
    (dock.chain.images.map (·.owner) ++ out).Nodup := by
  obtain ⟨owners, hperm, hsublist⟩ := h.owners
  exact hperm.nodup_iff.mp (hsublist.nodup (homes_nodup _ _))

/-- A swapchain was just made, and none of its images is out. -/
theorem Sound.of_new {c : Swapchain} (hc : c.New) (hid : c.id = id) (hasked : id.number < asked)
    (side : ι) : (Dock.new side id c).Sound moves asked id [] where
  chain_id := hid
  asked := hasked
  homed := hc.fresh.homed
  origins := fun _ => rfl
  owners := by
    rw [List.append_nil, ← hid]
    exact (List.Perm.of_eq hc.owners).subperm
  counter := by
    rw [Dock.new, hc.counter_eq]
    exact Nat.zero_le _

/-- The slot of an image that is out and was made for the swapchain is there, and it is empty. -/
theorem Sound.slot_empty (h : dock.Sound moves asked id out) {owner : Option SlotRef}
    (howner : owner ∈ out) :
    ∃ i sequence, owner = some ⟨id, i⟩ ∧ i < dock.chain.size ∧
      dock.chain.slots[i]? = some ⟨none, sequence⟩ := by
  obtain ⟨i, hi, rfl⟩ := mem_homes.mp (h.owners.subset (List.mem_append_right _ howner))
  obtain ⟨sequence, hempty⟩ := h.homed.slot_empty_of_out h.nodup hi (h.chain_id ▸ howner)
  exact ⟨i, sequence, rfl, hi, hempty⟩

/-- What is acquired was made for the swapchain, and says so. -/
theorem Sound.acquired (h : dock.Sound moves asked id out) {i : Nat}
    (holdest : oldest? dock.chain.slots = some i) :
    ∃ image chain, dock.chain.acquire = (some image, chain) ∧ image.owner = some ⟨id, i⟩ ∧
      ({ dock with chain := chain } : Dock ι).Sound moves asked id (image.owner :: out) := by
  obtain ⟨image, sequence, hslot, hacquire⟩ := acquire_of_oldest? holdest
  have howner : image.owner = some ⟨id, i⟩ := h.chain_id ▸ h.homed i _ image hslot rfl
  refine ⟨image, _, hacquire, howner, h.chain_id, h.asked, ?_, h.origins, ?_, h.counter⟩
  · exact h.homed.set (by simp) _
  · have hmoved := (images_set_perm hslot ⟨none, sequence⟩ dock.chain.counter).map (·.owner)
    have hsize : size { dock.chain with slots := dock.chain.slots.set i ⟨none, sequence⟩ }
        = dock.chain.size := List.length_set
    rw [hsize]
    refine List.Subperm.trans (List.Perm.subperm ?_) h.owners
    exact List.perm_middle.trans (hmoved.append_right out)

/-- An image that was made for the swapchain is taken back into its slot. -/
theorem Sound.released (h : dock.Sound moves asked id (held.image.owner :: out))
    (hown : held.origin.chain = some id) :
    ∃ i sequence, held.image.owner = some ⟨id, i⟩ ∧ i < dock.chain.size ∧
      dock.chain.slots[i]? = some ⟨none, sequence⟩ ∧
      dock.chain.release held.image = .ok { dock.chain with
        slots := dock.chain.slots.set i ⟨some held.image, dock.chain.counter + 1⟩
        counter := dock.chain.counter + 1 } ∧
      (dock.put { dock.chain with
        slots := dock.chain.slots.set i ⟨some held.image, dock.chain.counter + 1⟩
        counter := dock.chain.counter + 1 } held).Sound (moves + 1) asked id out := by
  obtain ⟨i, sequence, howner, hi, hslot⟩ := h.slot_empty List.mem_cons_self
  have howner' : held.image.owner = some ⟨dock.chain.id, i⟩ := by rw [howner, h.chain_id]
  refine ⟨i, sequence, howner, hi, hslot, release_eq howner' hslot, h.chain_id, h.asked, ?_, ?_,
    ?_, Nat.succ_le_succ h.counter⟩
  · refine h.homed.set (fun image himage => ?_) _
    rw [← Option.some.inj himage]
    exact howner'
  · exact put_origins h.origins hown _
  · let slot : SwapchainSlot := ⟨some held.image, dock.chain.counter + 1⟩
    have hmoved := (images_set_perm hslot slot (dock.chain.counter + 1)).map (·.owner)
    have hsize : size { dock.chain with
        slots := dock.chain.slots.set i slot, counter := dock.chain.counter + 1 }
        = dock.chain.size := List.length_set
    rw [put, hsize]
    refine List.Subperm.trans (List.Perm.subperm ?_) h.owners
    exact (hmoved.append_right out).trans List.perm_middle.symm

/-- An image that was not made for the swapchain is turned away. -/
theorem Sound.release_other (h : dock.Sound moves asked id out) (hheld : held.Known asked)
    (hother : held.origin.chain ≠ some id) :
    dock.chain.release held.image = .error
      (if held.origin.chain = none then .releasedStandalone else .releasedForeign) := by
  have howner := hheld.owner
  cases howned : held.image.owner with
  | none =>
    rw [howned] at howner
    simp [release, howned, ← howner]
  | some owner =>
    rw [howned] at howner
    have hforeign : owner.swapchain ≠ dock.chain.id := by
      rintro hsame
      rw [h.chain_id] at hsame
      exact hother (by rw [← howner, ← hsame]; rfl)
    simp [release, howned, ← howner, hforeign]

end Dock

/-- Swapchains on allocators, and the images that are out of them. -/
structure Ownership (ι σ : Type) where
  allocators : ι → Allocator := fun _ => {}
  /-- What the hosts of the allocators share. -/
  host : σ
  /-- The swapchains there are. -/
  docks : SwapchainId → Option (Dock ι) := fun _ => none
  /-- The images that are out. -/
  hand : List (Held ι) := []
  /-- How many swapchains were asked for so far. -/
  asked : Nat := 0

namespace Ownership

/-- What can happen next. -/
inductive Move (ι : Type) where
  | create (side : ι) (q : ImageRequest) (flags : SwapchainFlags)
  /-- A swapchain is destroyed, whether or not images are out of it. -/
  | destroy (id : SwapchainId)
  | acquire (id : SwapchainId)
  /-- An image that is out is released to a swapchain, be it its own or not. -/
  | release (id : SwapchainId) (held : Held ι)
  | allocate (side : ι) (q : ImageRequest)
  /-- An image is made of a buffer and its planes, without an allocator. -/
  | wrap (side : ι) (buffer : Buffer) (dmabuf : Dmabuf)
  /-- An image that is out is given to an allocator, be it its own or not. -/
  | deallocate (side : ι) (held : Held ι)
  | drop (held : Held ι)
  /-- What an image that is out keeps in its slots changes. -/
  | change (held : Held ι) (backend renderer user : DataSlot)
  deriving DecidableEq, Repr

section Running

variable [DecidableEq ι]

def start (s : σ) : Ownership ι σ := { host := s }

/-- An allocator was called. -/
def called (w : Ownership ι σ) (side : ι) (a : Allocator) (s : σ) : Ownership ι σ :=
  { w with allocators := Function.update w.allocators side a, host := s }

/-- One move, with the fault it ends in if it does. The caller catches a fault and goes on. An
image that is not out cannot be given away, and a swapchain that is not there cannot be used. -/
def step (hosts : ι → Host σ) (w : Ownership ι σ) : Move ι → Option Fault × Ownership ι σ
  | .create side q flags =>
    match Swapchain.create (hosts side) ⟨w.asked⟩ q.width q.height q.fourcc q.modifiers flags
        (w.allocators side) w.host with
    | (.done c, a, s) => (none, { w.called side a s with
        docks := Function.update w.docks ⟨w.asked⟩ (some (.new side ⟨w.asked⟩ c))
        asked := w.asked + 1 })
    | (.failed _, a, s) => (none, { w.called side a s with asked := w.asked + 1 })
    | (.fault f, a, s) => (some f, { w.called side a s with asked := w.asked + 1 })
  | .destroy id =>
    match w.docks id with
    | none => (none, w)
    | some dock =>
      match dock.chain.destroy (hosts dock.side) (w.allocators dock.side) w.host with
      | (fault, a, s) =>
        (fault, { w.called dock.side a s with docks := Function.update w.docks id none })
  | .acquire id =>
    match w.docks id with
    | none => (none, w)
    | some dock =>
      match dock.chain.acquire, Swapchain.oldest? dock.chain.slots with
      | (some image, chain), some i => (none, { w with
          docks := Function.update w.docks id (some { dock with chain := chain })
          hand := w.hand ++ [⟨image, dock.origins i⟩] })
      | _, _ => (none, w)
  | .release id held =>
    if held ∈ w.hand then
      match w.docks id with
      | none => (none, w)
      | some dock =>
        match dock.chain.release held.image with
        | .ok chain => (none, { w with
            docks := Function.update w.docks id (some (dock.put chain held))
            hand := w.hand.erase held })
        | .error f => (some f, { w with
            host := (hosts held.origin.maker).dropImage held.image w.host
            hand := w.hand.erase held })
    else (none, w)
  | .allocate side q =>
    match Allocator.allocate (hosts side) q.width q.height q.fourcc q.modifiers
        (w.allocators side) w.host with
    | (.done image, a, s) =>
      (none, { w.called side a s with hand := w.hand ++ [⟨image, ⟨side, none⟩⟩] })
    | (.failed _, a, s) => (none, w.called side a s)
    | (.fault f, a, s) => (some f, w.called side a s)
  | .wrap side buffer dmabuf =>
    let (id, s) := (hosts side).nextImageId w.host
    (none, { w with
      host := s
      hand := w.hand ++ [⟨{ id := id, dmabuf := dmabuf, buffer := buffer }, ⟨side, none⟩⟩] })
  | .deallocate side held =>
    if held ∈ w.hand then
      match Allocator.deallocate (hosts side) held.image (w.allocators side) w.host with
      | (fault, a, s) => (fault, { w.called side a s with hand := w.hand.erase held })
    else (none, w)
  | .drop held =>
    if held ∈ w.hand then (none, { w with
      host := (hosts held.origin.maker).dropImage held.image w.host
      hand := w.hand.erase held })
    else (none, w)
  | .change held backend renderer user =>
    if held ∈ w.hand then (none, { w with
      hand := w.hand.erase held ++ [{ held with image := { held.image with
        backendData := backend, rendererData := renderer, userData := user } }] })
    else (none, w)

def run (hosts : ι → Host σ) (w : Ownership ι σ) (moves : List (Move ι)) : Ownership ι σ :=
  moves.foldl (fun w move => (w.step hosts move).2) w

end Running

/-! ## What a run keeps -/

/-- After so many moves, every swapchain and every image that is out is as it should be. -/
structure Inv (moves : Nat) (w : Ownership ι σ) : Prop where
  docks : ∀ id dock, w.docks id = some dock →
    dock.Sound moves w.asked id (Held.ownersOf w.hand id)
  hand : ∀ held ∈ w.hand, held.Known w.asked

theorem start_inv (s : σ) : (start s : Ownership ι σ).Inv 0 where
  docks := by
    intro id dock hdock
    exact absurd hdock (by simp [start])
  hand := by
    intro held hheld
    exact absurd hheld (by simp [start])

section Keeping

variable {w next : Ownership ι σ} {moves : Nat}

open Held

/-- What a move has to keep: a swapchain that it left alone has no more images out than before, and
what it changed or added is as it should be. -/
theorem Inv.next_inv (h : w.Inv moves) (hasked : w.asked ≤ next.asked)
    (hdocks : ∀ id dock, next.docks id = some dock →
      (w.docks id = some dock ∧ (ownersOf next.hand id).Subperm (ownersOf w.hand id)) ∨
      dock.Sound (moves + 1) next.asked id (ownersOf next.hand id))
    (hhand : ∀ held ∈ next.hand, held ∈ w.hand ∨ held.Known next.asked) :
    next.Inv (moves + 1) where
  docks := by
    intro id dock hdock
    rcases hdocks id dock hdock with ⟨hbefore, hout⟩ | hsound
    · exact (h.docks id dock hbefore).mono (Nat.le_succ _) hasked hout
    · exact hsound
  hand := by
    intro held hheld
    rcases hhand held hheld with hbefore | hknown
    · exact (h.hand held hbefore).mono hasked
    · exact hknown

/-- A move after which nothing is held that was not, and no swapchain is there that was not. -/
theorem Inv.less_inv (h : w.Inv moves) (hasked : w.asked ≤ next.asked)
    (hdocks : ∀ id dock, next.docks id = some dock → w.docks id = some dock)
    (hhand : next.hand.Sublist w.hand) : next.Inv (moves + 1) :=
  h.next_inv hasked
    (fun id dock hdock => .inl ⟨hdocks id dock hdock, ((hhand.filter _).map _).subperm⟩)
    fun _ hheld => .inl (hhand.subset hheld)

theorem Inv.later (h : w.Inv moves) : w.Inv (moves + 1) :=
  h.less_inv (Nat.le_refl _) (fun _ _ hdock => hdock) (List.Sublist.refl _)

/-- A move that adds an image which no swapchain made. -/
theorem Inv.single_inv (h : w.Inv moves) (hdocks : next.docks = w.docks)
    (hasked : next.asked = w.asked) {image : Image} {side : ι} (howner : image.owner = none)
    (hhand : next.hand = w.hand ++ [⟨image, ⟨side, none⟩⟩]) : next.Inv (moves + 1) := by
  refine h.next_inv (Nat.le_of_eq hasked.symm) (fun id dock hdock => .inl ⟨hdocks ▸ hdock, ?_⟩)
    fun held hheld => ?_
  · have hmoved := ownersOf_perm (List.perm_append_singleton ⟨image, ⟨side, none⟩⟩ w.hand) id
    rw [ownersOf_cons_other (by simp)] at hmoved
    rw [hhand]
    exact hmoved.subperm
  · rw [hhand, List.mem_append, List.mem_singleton] at hheld
    rcases hheld with hheld | rfl
    · exact .inl hheld
    · exact .inr ⟨by rw [howner]; rfl, by simp⟩

/-- No image is held that was made for a swapchain still to be asked for. -/
theorem Inv.ownersOf_asked (h : w.Inv moves) : ownersOf w.hand ⟨w.asked⟩ = [] := by
  rw [ownersOf, List.map_eq_nil_iff, List.filter_eq_nil_iff]
  intro held hheld hfrom
  exact Nat.lt_irrefl _ ((h.hand held hheld).asked ⟨w.asked⟩ (by simpa using hfrom))

end Keeping

section Steps

variable [DecidableEq ι] {hosts : ι → Host σ} {w : Ownership ι σ} {moves : Nat}
  {id : SwapchainId} {dock : Dock ι} {held : Held ι}

open Held

theorem Inv.create_inv (h : w.Inv moves) (side : ι) (q : ImageRequest) (flags : SwapchainFlags) :
    ((w.step hosts (.create side q flags)).2).Inv (moves + 1) := by
  simp only [step]
  split
  · next c a s hmade =>
    refine h.next_inv (Nat.le_succ _) (fun id dock hdock => ?_) fun _ hheld => .inl hheld
    by_cases hid : id = ⟨w.asked⟩
    · subst hid
      obtain rfl : Dock.new side ⟨w.asked⟩ c = dock := by simpa using hdock
      have hnone : ownersOf w.hand ⟨w.asked⟩ = [] := h.ownersOf_asked
      refine .inr ?_
      show (Dock.new side ⟨w.asked⟩ c).Sound (moves + 1) (w.asked + 1) ⟨w.asked⟩
        (ownersOf w.hand ⟨w.asked⟩)
      rw [hnone]
      exact Dock.Sound.of_new (Swapchain.create_new hmade).1 (Swapchain.create_id hmade)
        (Nat.lt_succ_self _) side
    · exact .inl ⟨by simpa [Function.update_of_ne hid] using hdock, List.Subperm.refl _⟩
  · exact h.less_inv (Nat.le_succ _) (fun _ _ hdock => hdock) (List.Sublist.refl _)
  · exact h.less_inv (Nat.le_succ _) (fun _ _ hdock => hdock) (List.Sublist.refl _)

theorem Inv.destroy_inv (h : w.Inv moves) (id : SwapchainId) :
    ((w.step hosts (.destroy id)).2).Inv (moves + 1) := by
  simp only [step]
  split
  · exact h.less_inv (Nat.le_refl _) (fun _ _ hdock => hdock) (List.Sublist.refl _)
  · refine h.less_inv (Nat.le_refl _) (fun other dock hdock => ?_) (List.Sublist.refl _)
    by_cases hid : other = id
    · subst hid
      exact absurd hdock (by simp)
    · simpa [Function.update_of_ne hid] using hdock

theorem Inv.acquire_inv (h : w.Inv moves) (id : SwapchainId) :
    ((w.step hosts (.acquire id)).2).Inv (moves + 1) := by
  simp only [step]
  cases hdock : w.docks id with
  | none => exact h.later
  | some dock =>
    dsimp only
    split
    · next image chain i hacquire holdest =>
      have hsound := h.docks id dock hdock
      obtain ⟨image', chain', hacquire', howner, hafter⟩ := hsound.acquired holdest
      obtain ⟨rfl, rfl⟩ : image' = image ∧ chain' = chain := by
        simpa using hacquire'.symm.trans hacquire
      have hfrom : (⟨image', dock.origins i⟩ : Held ι).origin.chain = some id := hsound.origins i
      have hmoved := fun other => ownersOf_perm
        (List.perm_append_singleton (⟨image', dock.origins i⟩ : Held ι) w.hand) other
      refine h.next_inv (Nat.le_refl _) (fun other dock' hdock' => ?_) fun held hheld => ?_
      · by_cases hid : other = id
        · subst hid
          obtain rfl : { dock with chain := chain' } = dock' := by simpa using hdock'
          refine .inr (hafter.mono (Nat.le_succ _) (Nat.le_refl _) ?_)
          exact ((hmoved other).trans (.of_eq (ownersOf_cons_own hfrom _))).subperm
        · refine .inl ⟨by simpa [Function.update_of_ne hid] using hdock', ?_⟩
          refine ((hmoved other).trans (.of_eq (ownersOf_cons_other ?_ _))).subperm
          rw [hfrom]
          simpa using Ne.symm hid
      · rw [List.mem_append, List.mem_singleton] at hheld
        rcases hheld with hheld | rfl
        · exact .inl hheld
        · refine .inr ⟨by rw [howner, hfrom]; rfl, fun other hother => ?_⟩
          rw [hfrom] at hother
          rw [← Option.some.inj hother]
          exact hsound.asked
    · exact h.later

/-- What is known of a swapchain, with an image that was made for it named first. -/
theorem Inv.sound_of_own (h : w.Inv moves) (hdock : w.docks id = some dock)
    (hheld : held ∈ w.hand) (hown : held.origin.chain = some id) :
    dock.Sound moves w.asked id (held.image.owner :: ownersOf (w.hand.erase held) id) := by
  have hperm := (ownersOf_perm (List.perm_cons_erase hheld) id).symm
  rw [ownersOf_cons_own hown] at hperm
  exact (h.docks id dock hdock).mono (Nat.le_refl _) (Nat.le_refl _) hperm.subperm

theorem Inv.release_inv (h : w.Inv moves) (id : SwapchainId) (held : Held ι) :
    ((w.step hosts (.release id held)).2).Inv (moves + 1) := by
  simp only [step]
  by_cases hheld : held ∈ w.hand
  · rw [if_pos hheld]
    cases hdock : w.docks id with
    | none => exact h.later
    | some dock =>
      dsimp only
      split
      · next chain hrelease =>
        by_cases hown : held.origin.chain = some id
        · obtain ⟨i, sequence, -, -, -, hrelease', hafter⟩ :=
            (h.sound_of_own hdock hheld hown).released hown
          obtain rfl := Except.ok.inj (hrelease'.symm.trans hrelease)
          refine h.next_inv (Nat.le_refl _) (fun other dock' hdock' => ?_) fun other hother =>
            .inl (List.mem_of_mem_erase hother)
          by_cases hid : other = id
          · subst hid
            simp only [Function.update_self] at hdock'
            obtain rfl := Option.some.inj hdock'
            exact .inr hafter
          · exact .inl ⟨by simpa [Function.update_of_ne hid] using hdock',
              ownersOf_erase _ _ _⟩
        · have hother := (h.docks id dock hdock).release_other (h.hand held hheld) hown
          exact absurd (hother.symm.trans hrelease) (by simp)
      · exact h.less_inv (Nat.le_refl _) (fun _ _ hdock => hdock) List.erase_sublist
  · rw [if_neg hheld]
    exact h.later

theorem Inv.change_inv (h : w.Inv moves) (held : Held ι) (backend renderer user : DataSlot) :
    ((w.step hosts (.change held backend renderer user)).2).Inv (moves + 1) := by
  simp only [step]
  split
  · next hheld =>
    let changed : Held ι := { held with image := { held.image with
      backendData := backend, rendererData := renderer, userData := user } }
    have hbefore := List.perm_cons_erase hheld
    have hafter := List.perm_append_singleton changed (w.hand.erase held)
    refine h.next_inv (Nat.le_refl _) (fun id dock hdock => .inl ⟨hdock, ?_⟩) fun other hother => ?_
    · -- the changed image has the owner and the provenance it had
      have hsame : ownersOf (changed :: w.hand.erase held) id
          = ownersOf (held :: w.hand.erase held) id := by
        by_cases hown : held.origin.chain = some id
        · have hown' : changed.origin.chain = some id := hown
          rw [ownersOf_cons_own hown, ownersOf_cons_own hown']
        · have hother' : changed.origin.chain ≠ some id := hown
          rw [ownersOf_cons_other hown, ownersOf_cons_other hother']
      exact ((ownersOf_perm hafter id).trans
        ((List.Perm.of_eq hsame).trans (ownersOf_perm hbefore id).symm)).subperm
    · rw [List.mem_append, List.mem_singleton] at hother
      rcases hother with hother | rfl
      · exact .inl (List.mem_of_mem_erase hother)
      · have hknown := h.hand held hheld
        exact .inr ⟨hknown.owner, hknown.asked⟩
  · exact h.less_inv (Nat.le_refl _) (fun _ _ hdock => hdock) (List.Sublist.refl _)

theorem Inv.step_inv (hk : ∀ side, (hosts side).KeepsOwners) (h : w.Inv moves) (move : Move ι) :
    ((w.step hosts move).2).Inv (moves + 1) := by
  cases move with
  | create side q flags => exact h.create_inv side q flags
  | destroy id => exact h.destroy_inv id
  | acquire id => exact h.acquire_inv id
  | release id held => exact h.release_inv id held
  | allocate side q =>
    simp only [step]
    split
    · next image a s hmade =>
      exact h.single_inv rfl rfl (Allocator.allocate_owner (hk side) hmade) rfl
    · exact h.less_inv (Nat.le_refl _) (fun _ _ hdock => hdock) (List.Sublist.refl _)
    · exact h.less_inv (Nat.le_refl _) (fun _ _ hdock => hdock) (List.Sublist.refl _)
  | wrap side buffer dmabuf => exact h.single_inv rfl rfl rfl rfl
  | deallocate side held =>
    simp only [step]
    split
    · exact h.less_inv (Nat.le_refl _) (fun _ _ hdock => hdock) List.erase_sublist
    · exact h.later
  | drop held =>
    simp only [step]
    split
    · exact h.less_inv (Nat.le_refl _) (fun _ _ hdock => hdock) List.erase_sublist
    · exact h.later
  | change held backend renderer user => exact h.change_inv held backend renderer user

theorem Inv.run_inv (hk : ∀ side, (hosts side).KeepsOwners) (h : w.Inv moves)
    (more : List (Move ι)) : (w.run hosts more).Inv (moves + more.length) := by
  induction more generalizing w moves with
  | nil => exact h
  | cons move rest ih =>
    have hrest := ih (h.step_inv hk move)
    rwa [List.length_cons, ← Nat.add_assoc, Nat.add_right_comm]

/-- **A swapchain takes back the images that were made for it, and turns away all others.** Any
number of swapchains and single images share any number of allocators, whose devices, renderers
and displays answer as they like; whoever holds an image may give it to whichever swapchain or
allocator, and swapchains are destroyed also while images are out. After any run a release of an
image that is held is a fault exactly if the image was not made for this very swapchain: if it was
made for none, or for another one, there or destroyed. After such a fault every swapchain is as it
was. Any other image names a slot of this swapchain, which is empty; it is taken back into this
slot, with the next number, and no other swapchain changes. The number of releases that a
swapchain counts is at most that of the moves. -/
theorem taken_back_iff_own (hk : ∀ side, (hosts side).KeepsOwners) (s : σ)
    (moves : List (Move ι)) :
    ∀ w, w = (start s).run hosts moves →
    ∀ id dock, w.docks id = some dock → ∀ held ∈ w.hand,
      ((∃ f, dock.chain.release held.image = .error f) ↔ held.origin.chain ≠ some id) ∧
      (∀ f, dock.chain.release held.image = .error f →
        f = (if held.origin.chain = none then .releasedStandalone else .releasedForeign) ∧
        (w.step hosts (.release id held)).1 = some f ∧
        (w.step hosts (.release id held)).2.docks = w.docks) ∧
      (held.origin.chain = some id → ∃ i sequence chain,
        held.image.owner = some ⟨id, i⟩ ∧ i < dock.chain.size ∧
        dock.chain.slots[i]? = some ⟨none, sequence⟩ ∧
        chain = { dock.chain with
          slots := dock.chain.slots.set i ⟨some held.image, dock.chain.counter + 1⟩
          counter := dock.chain.counter + 1 } ∧
        dock.chain.release held.image = .ok chain ∧
        (w.step hosts (.release id held)).1 = none ∧
        (w.step hosts (.release id held)).2.docks
          = Function.update w.docks id (some (dock.put chain held))) ∧
      dock.chain.counter ≤ moves.length := by
  rintro w rfl id dock hdock held hheld
  have h : ((start s).run hosts moves).Inv (0 + moves.length) := (start_inv s).run_inv hk moves
  have hsound := h.docks id dock hdock
  have hcounter : dock.chain.counter ≤ moves.length := Nat.zero_add moves.length ▸ hsound.counter
  by_cases hown : held.origin.chain = some id
  · obtain ⟨i, sequence, howner, hi, hslot, hrelease, -⟩ :=
      (h.sound_of_own hdock hheld hown).released hown
    refine ⟨?_, ?_, fun _ => ⟨i, sequence, _, howner, hi, hslot, rfl, hrelease, ?_, ?_⟩, hcounter⟩
    · rw [hrelease]
      simp [hown]
    · intro f hf
      exact absurd (hrelease.symm.trans hf) (by simp)
    · simp only [step, if_pos hheld, hdock, hrelease]
    · simp only [step, if_pos hheld, hdock, hrelease]
  · have hrelease := hsound.release_other (h.hand held hheld) hown
    refine ⟨⟨fun _ => hown, fun _ => ⟨_, hrelease⟩⟩, fun f hf => ?_, fun hyes => absurd hyes hown,
      hcounter⟩
    obtain rfl := Except.error.inj (hrelease.symm.trans hf)
    exact ⟨rfl, by simp only [step, if_pos hheld, hdock, hrelease],
      by simp only [step, if_pos hheld, hdock, hrelease]⟩

end Steps

def window : ImageRequest :=
  { width := 64, height := 64, fourcc := .xrgb8888, modifiers := [] }

/-- A single image and two pairs, one of which is destroyed with an image out. -/
def mixed : List (Move Bool) :=
  [.allocate false window, .create false window ⟨0⟩, .create true window ⟨0⟩,
    .acquire ⟨0⟩, .acquire ⟨1⟩, .destroy ⟨0⟩]

/-- Of three images that are out, the pair that is left takes back its own. -/
theorem only_own_taken_back :
    Circulation.plainHost.KeepsOwners ∧
    ∃ w dock single stray own, w = (start 0).run (fun _ => Circulation.plainHost) mixed ∧
      (w.docks ⟨0⟩).isNone ∧ w.docks ⟨1⟩ = some dock ∧ w.hand = [single, stray, own] ∧
      dock.chain.release single.image = .error .releasedStandalone ∧
      dock.chain.release stray.image = .error .releasedForeign ∧
      ∃ chain, dock.chain.release own.image = .ok chain := by
  have hk : Circulation.plainHost.KeepsOwners := by
    refine ⟨?_, fun _ _ _ hok => ?_⟩
    · rintro hooks ⟨⟩
    · rw [← Except.ok.inj hok]
  obtain ⟨w, hw⟩ : ∃ w, w = (start 0).run (fun _ : Bool => Circulation.plainHost) mixed := ⟨_, rfl⟩
  have hview : (w.docks ⟨0⟩).isNone = true ∧ (w.docks ⟨1⟩).isSome = true ∧
      w.hand.map (·.origin.chain) = [none, some ⟨0⟩, some ⟨1⟩] := by
    subst hw
    decide +kernel
  obtain ⟨hgone, hthere, horigins⟩ := hview
  obtain ⟨dock, hdock⟩ := Option.isSome_iff_exists.mp hthere
  obtain ⟨single, stray, own, hhand⟩ := List.length_eq_three.mp
    (by simpa using congrArg List.length horigins : w.hand.length = 3)
  obtain ⟨hsingle, hstray, hown⟩ : single.origin.chain = none ∧ stray.origin.chain = some ⟨0⟩ ∧
      own.origin.chain = some ⟨1⟩ := by
    simpa [hhand] using horigins
  have hall := taken_back_iff_own (fun _ : Bool => hk) 0 mixed w hw ⟨1⟩ dock hdock
  obtain ⟨hfaults, hwhich, -⟩ := hall single (by simp [hhand])
  obtain ⟨f, hf⟩ := hfaults.mpr (by simp [hsingle])
  obtain ⟨hfaults', hwhich', -⟩ := hall stray (by simp [hhand])
  obtain ⟨f', hf'⟩ := hfaults'.mpr (by simp [hstray])
  obtain ⟨-, -, hback, -⟩ := hall own (by simp [hhand])
  obtain ⟨-, -, chain, -, -, -, -, hrelease, -⟩ := hback hown
  refine ⟨hk, w, dock, single, stray, own, hw, hgone, hdock, hhand, ?_, ?_, chain, hrelease⟩
  · rw [hf, (hwhich f hf).1, hsingle]
    rfl
  · rw [hf', (hwhich' f' hf').1, hstray]
    rfl

end Ownership

end Scanout
