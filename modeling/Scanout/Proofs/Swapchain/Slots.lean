import Mathlib.Data.List.Nodup
import Mathlib.Data.List.Perm.Basic
import Scanout.Proofs.Allocator.Actions
import Scanout.Swapchain

/-!
# The slots of a swapchain

Acquiring takes the image out of one slot and releasing puts it back into the slot
that owns it, so a swapchain is described by which of its slots are empty. `Homed`
says that every image that is in lies in the slot that owns it; a swapchain is `New`
when it was just made and `Fresh` when every image is in its slot, and the owners of its
images are all the slots there are, each once.
-/

namespace Scanout

namespace Swapchain

variable {σ : Type}

/-! ## Choosing a slot -/

/-- There is nothing to acquire only if every slot is empty. -/
theorem image_eq_none_of_oldest? {slots : List SwapchainSlot} (h : oldest? slots = none) :
    ∀ slot ∈ slots, slot.image = none := by
  intro slot hslot
  by_contra hfull
  have hsome : slot.image.isSome = true := Option.isSome_iff_ne_none.mpr hfull
  cases hmin : ((slots.filter (·.image.isSome)).map (·.sequence)).min? with
  | none =>
    have hempty := List.min?_eq_none_iff.mp hmin
    have hmem : slot.sequence ∈ (slots.filter (·.image.isSome)).map (·.sequence) :=
      List.mem_map_of_mem (List.mem_filter.mpr ⟨hslot, hsome⟩)
    rw [hempty] at hmem
    exact absurd hmem List.not_mem_nil
  | some least =>
    obtain ⟨other, hother, hseq⟩ := List.mem_map.mp (List.min?_mem hmin)
    obtain ⟨hmem, hin⟩ := List.mem_filter.mp hother
    have hfind : slots.findIdx? (fun slot => slot.image.isSome && slot.sequence == least) = none := by
      simpa [oldest?, hmin] using h
    have hnone := List.findIdx?_eq_none_iff.mp hfind other hmem
    simp [hin, hseq] at hnone

/-- What is acquired is in. -/
theorem image_of_oldest? {slots : List SwapchainSlot} {i : Nat} (h : oldest? slots = some i) :
    ∃ image sequence, slots[i]? = some ⟨some image, sequence⟩ := by
  unfold oldest? at h
  obtain ⟨least, -, hfind⟩ := Option.bind_eq_some_iff.mp h
  obtain ⟨hi, hp, -⟩ := List.findIdx?_eq_some_iff_getElem.mp hfind
  obtain ⟨hsome, -⟩ : slots[i].image.isSome = true ∧ _ := by simpa using hp
  obtain ⟨image, himage⟩ := Option.isSome_iff_exists.mp hsome
  refine ⟨image, slots[i].sequence, ?_⟩
  rw [List.getElem?_eq_getElem hi, ← himage]

/-! ## Changing one slot -/

/-- A slot that changes gives up its image and takes in the new one. -/
theorem set_images_perm {slots : List SwapchainSlot} {i : Nat} {slot : SwapchainSlot}
    (h : slots[i]? = some slot) (slot' : SwapchainSlot) :
    (slot.image.toList ++ (slots.set i slot').filterMap (·.image)).Perm
      (slot'.image.toList ++ slots.filterMap (·.image)) := by
  induction slots generalizing i with
  | nil => exact absurd h (by simp)
  | cons first rest ih =>
    have hcons : ∀ (s : SwapchainSlot) (l : List SwapchainSlot),
        (s :: l).filterMap (·.image) = s.image.toList ++ l.filterMap (·.image) := by
      intro s l
      cases hs : s.image <;> simp [hs]
    cases i with
    | zero =>
      obtain rfl : first = slot := by simpa using h
      rw [List.set_cons_zero, hcons, hcons, List.perm_iff_count]
      intro x
      simp only [List.count_append]
      omega
    | succ i =>
      have hrest := List.perm_iff_count.mp (ih (by simpa using h))
      rw [List.set_cons_succ, hcons, hcons, List.perm_iff_count]
      intro x
      have hx := hrest x
      simp only [List.count_append] at hx ⊢
      omega

theorem images_set_perm {c : Swapchain} {i : Nat} {slot : SwapchainSlot}
    (h : c.slots[i]? = some slot) (slot' : SwapchainSlot) (counter : Nat) :
    (slot.image.toList ++ images { c with slots := c.slots.set i slot', counter := counter }).Perm
      (slot'.image.toList ++ c.images) :=
  set_images_perm h slot'

/-- As many images are out as are missing from the slots. -/
theorem acquired_add_images (c : Swapchain) : c.acquired + c.images.length = c.size := by
  unfold acquired images size
  induction c.slots with
  | nil => rfl
  | cons slot rest ih =>
    cases hs : slot.image <;> simp [hs] <;> omega

/-- The images of slots that were just filled. -/
theorem images_filled (images : List Image) :
    (images.map fun image => (⟨some image, 0⟩ : SwapchainSlot)).filterMap (·.image) = images := by
  simp [List.filterMap_map]

/-- Every image that is in lies in the slot that owns it. -/
def Homed (c : Swapchain) : Prop :=
  ∀ (i : Nat) (slot : SwapchainSlot) (image : Image), c.slots[i]? = some slot →
    slot.image = some image → image.owner = some ⟨c.id, i⟩

/-! ## Acquiring and releasing -/

/-- Acquiring from a slot empties it. -/
theorem acquire_of_oldest? {c : Swapchain} {i : Nat} (h : oldest? c.slots = some i) :
    ∃ image sequence, c.slots[i]? = some ⟨some image, sequence⟩ ∧
      c.acquire = (some image, { c with slots := c.slots.set i ⟨none, sequence⟩ }) := by
  obtain ⟨image, sequence, hslot⟩ := image_of_oldest? h
  refine ⟨image, sequence, hslot, ?_⟩
  have hmodify : (c.slots.modify i fun slot => { slot with image := none })
      = c.slots.set i ⟨none, sequence⟩ := by
    rw [List.modify_eq_set_getElem?, hslot]
    rfl
  simp only [acquire, h, hslot, hmodify, Option.bind_some]

/-- Acquiring empties one slot, or finds all of them empty. -/
theorem acquire_cases (c : Swapchain) :
    (c.acquire = (none, c) ∧ c.images = []) ∨
    ∃ i image sequence, c.slots[i]? = some ⟨some image, sequence⟩ ∧
      c.acquire = (some image, { c with slots := c.slots.set i ⟨none, sequence⟩ }) := by
  cases hold : oldest? c.slots with
  | none =>
    refine .inl ⟨by simp only [acquire, hold], ?_⟩
    rw [images, List.filterMap_eq_nil_iff]
    exact image_eq_none_of_oldest? hold
  | some i => exact .inr ⟨i, acquire_of_oldest? hold⟩

/-- An image goes back into the empty slot that owns it. -/
theorem release_eq {c : Swapchain} {image : Image} {i sequence : Nat}
    (howner : image.owner = some ⟨c.id, i⟩) (hslot : c.slots[i]? = some ⟨none, sequence⟩) :
    c.release image = .ok { c with
      slots := c.slots.set i ⟨some image, c.counter + 1⟩
      counter := c.counter + 1 } := by
  simp [release, howner, hslot]

theorem Homed.set {c : Swapchain} (h : c.Homed) {i : Nat} {slot : SwapchainSlot}
    (hslot : ∀ image, slot.image = some image → image.owner = some ⟨c.id, i⟩) (counter : Nat) :
    Homed { c with slots := c.slots.set i slot, counter := counter } := by
  intro j slot' image hj himage
  by_cases hij : i = j
  · subst hij
    obtain rfl : slot = slot' := by
      have hlt : i < c.slots.length := by
        by_contra hge
        rw [List.getElem?_eq_none (by simpa using hge)] at hj
        exact absurd hj (by simp)
      simpa [List.getElem?_set_self hlt] using hj
    exact hslot image himage
  · rw [List.getElem?_set_ne hij] at hj
    exact h j slot' image hj himage

/-! ## New swapchains -/

/-- All the slots of a swapchain of some size, as the owners of images. -/
def homes (id : SwapchainId) (size : Nat) : List (Option SlotRef) :=
  (List.range size).map fun i => some ⟨id, i⟩

theorem homes_succ (id : SwapchainId) (size : Nat) :
    homes id (size + 1) = homes id size ++ [some ⟨id, size⟩] := by
  simp [homes, List.range_succ]

theorem homes_nodup (id : SwapchainId) (size : Nat) : (homes id size).Nodup := by
  unfold homes
  refine List.Nodup.map ?_ List.nodup_range
  intro i j h
  simpa using h

theorem mem_homes {id : SwapchainId} {size : Nat} {owner : Option SlotRef} :
    owner ∈ homes id size ↔ ∃ i < size, owner = some ⟨id, i⟩ := by
  simp [homes, eq_comm]

/-- No image is out, and the images are owned by the slots in order. -/
structure Fresh (c : Swapchain) : Prop where
  homed : c.Homed
  owners : c.images.map (·.owner) = homes c.id c.size

/-- The images of the slots are made one after the other, each for its slot. -/
theorem allocateSlots_done {host : Host σ} {id : SwapchainId} {width height : UInt32}
    {fourcc : Fourcc} {modifiers : List Modifier} (missing : Nat) :
    ∀ {made images : List Image} {a a' : Allocator} {s s' : σ},
      made.map (·.owner) = homes id made.length →
      allocateSlots host id width height fourcc modifiers missing made a s
        = (.done images, a', s') →
      images.map (·.owner) = homes id (made.length + missing) ∧
        a'.outstanding = a.outstanding + missing := by
  induction missing with
  | zero =>
    intro made images a a' s s' hmade h
    obtain ⟨rfl, rfl, rfl⟩ : made = images ∧ a = a' ∧ s = s' := by simpa [allocateSlots] using h
    exact ⟨hmade, rfl⟩
  | succ missing ih =>
    intro made images a a' s s' hmade h
    rw [allocateSlots] at h
    split at h
    · next image a₁ s₁ hone =>
      -- the next slot is the one behind those filled so far
      let owned : Image := { image with owner := some ⟨id, made.length⟩ }
      have hmade' : (made ++ [owned]).map (·.owner) = homes id (made ++ [owned]).length := by
        rw [List.map_append, hmade, List.length_append, List.length_singleton, homes_succ]
        rfl
      obtain ⟨howners, hout⟩ := ih hmade' h
      have hcount : a₁.outstanding = a.outstanding + 1 := Allocator.allocate_outstanding hone
      rw [hcount] at hout
      refine ⟨?_, by omega⟩
      rw [howners, List.length_append, List.length_singleton, Nat.add_assoc, Nat.add_comm 1]
    · exact absurd (congrArg Prod.fst h) (by simp)
    · split at h <;> exact absurd (congrArg Prod.fst h) (by simp)

/-- No image was acquired yet: every slot holds the image that was made for it, and none
was released so far. -/
structure New (c : Swapchain) : Prop where
  counter_eq : c.counter = 0
  slots_eq : c.slots = c.images.map fun image => ⟨some image, 0⟩
  owners : c.images.map (·.owner) = homes c.id c.size

/-- The image in a slot of a new swapchain is owned by that slot. -/
theorem New.slot {c : Swapchain} (h : c.New) {i : Nat} {slot : SwapchainSlot}
    (hslot : c.slots[i]? = some slot) :
    ∃ image, slot = ⟨some image, 0⟩ ∧ image ∈ c.images ∧ image.owner = some ⟨c.id, i⟩ := by
  have hi : i < c.size := (List.getElem?_eq_some_iff.mp hslot).1
  rw [h.slots_eq] at hslot
  obtain ⟨image, hget, rfl⟩ : ∃ image, c.images[i]? = some image ∧ ⟨some image, 0⟩ = slot := by
    simpa using hslot
  have howner : (c.images.map (·.owner))[i]? = some image.owner := by simp [hget]
  rw [h.owners] at howner
  exact ⟨image, rfl, List.mem_of_getElem? hget, by simpa [homes, hi] using howner.symm⟩

theorem New.fresh {c : Swapchain} (h : c.New) : c.Fresh where
  homed := by
    intro i slot image hslot himage
    obtain ⟨other, rfl, -, howner⟩ := h.slot hslot
    obtain rfl : other = image := by simpa using himage
    exact howner
  owners := h.owners

/-- What is made is a new swapchain, and its allocator has all of its images out. -/
theorem create_new {host : Host σ} {id : SwapchainId} {width height : UInt32} {fourcc : Fourcc}
    {modifiers : List Modifier} {flags : SwapchainFlags} {a a' : Allocator} {s s' : σ}
    {c : Swapchain}
    (h : create host id width height fourcc modifiers flags a s = (.done c, a', s')) :
    c.New ∧ a'.outstanding = a.outstanding + c.size := by
  unfold create at h
  split at h
  · exact absurd (congrArg Prod.fst h) (by simp)
  · exact absurd (congrArg Prod.fst h) (by simp)
  · next images a₁ s₁ hslots =>
    obtain ⟨howners, hout⟩ := allocateSlots_done flags.imageCount (by rfl) hslots
    have hc : c = {
        id := id, width := width, height := height, fourcc := fourcc, modifiers := modifiers
        slots := images.map fun image => ⟨some image, 0⟩, counter := 0 } := by
      simpa using (congrArg Prod.fst h).symm
    have ha : a' = a₁ := (congrArg (·.2.1) h).symm
    have hlength : images.length = flags.imageCount := by
      simpa [homes] using congrArg List.length howners
    subst hc ha
    have himages := images_filled images
    refine ⟨⟨rfl, ?_, ?_⟩, ?_⟩
    · show images.map (fun image => (⟨some image, 0⟩ : SwapchainSlot)) = List.map _ (List.filterMap
        (·.image) (images.map fun image => (⟨some image, 0⟩ : SwapchainSlot)))
      rw [himages]
    · show ((images.map fun image => (⟨some image, 0⟩ : SwapchainSlot)).filterMap (·.image)).map
        (·.owner) = homes id _
      rw [himages, howners]
      simp [size, hlength]
    · rw [hout]
      simp [size, hlength]

/-- The numbers of a swapchain after so many uses at most. -/
structure Numbered (uses : Nat) (c : Swapchain) : Prop where
  counter : c.counter ≤ uses
  slots : ∀ slot ∈ c.slots, slot.sequence ≤ c.counter

theorem New.numbered {c : Swapchain} (h : c.New) : c.Numbered 0 where
  counter := Nat.le_of_eq h.counter_eq
  slots := by
    intro slot hslot
    obtain ⟨i, hi⟩ := List.mem_iff_getElem?.mp hslot
    obtain ⟨image, rfl, -, -⟩ := h.slot hi
    exact Nat.zero_le _

theorem Numbered.more {uses : Nat} {c : Swapchain} (h : c.Numbered uses) : c.Numbered (uses + 1) :=
  ⟨Nat.le_succ_of_le h.counter, h.slots⟩

/-- Acquiring gives out no number. -/
theorem Numbered.acquire {uses : Nat} {c : Swapchain} (h : c.Numbered uses) :
    c.acquire.2.Numbered uses := by
  rcases c.acquire_cases with ⟨hsame, -⟩ | ⟨i, image, sequence, hslot, htaken⟩
  · rwa [hsame]
  · rw [htaken]
    refine ⟨h.counter, fun slot hmem => ?_⟩
    rcases List.mem_or_eq_of_mem_set hmem with hold | rfl
    · exact h.slots slot hold
    · have hle : sequence ≤ c.counter := h.slots _ (List.mem_of_getElem? hslot)
      exact hle

/-- A release gives out the next number. -/
theorem Numbered.release {uses : Nat} {c c' : Swapchain} (h : c.Numbered uses) {image : Image}
    (hreleased : c.release image = .ok c') : c'.Numbered (uses + 1) := by
  unfold Swapchain.release at hreleased
  split at hreleased
  · exact absurd hreleased (by simp)
  split at hreleased
  · exact absurd hreleased (by simp)
  split at hreleased
  · exact absurd hreleased (by simp)
  split at hreleased
  · exact absurd hreleased (by simp)
  · obtain rfl := Except.ok.inj hreleased
    refine ⟨Nat.succ_le_succ h.counter, fun slot hmem => ?_⟩
    rcases List.mem_or_eq_of_mem_set hmem with hold | rfl
    · exact Nat.le_succ_of_le (h.slots slot hold)
    · exact Nat.le_refl _

theorem create_id {host : Host σ} {id : SwapchainId} {width height : UInt32} {fourcc : Fourcc}
    {modifiers : List Modifier} {flags : SwapchainFlags} {a a' : Allocator} {s s' : σ}
    {c : Swapchain}
    (h : create host id width height fourcc modifiers flags a s = (.done c, a', s')) :
    c.id = id := by
  unfold create at h
  split at h
  · exact absurd (congrArg Prod.fst h) (by simp)
  · exact absurd (congrArg Prod.fst h) (by simp)
  · rw [← Outcome.done.inj (congrArg Prod.fst h)]

/-- A slot is empty if the image it owns is out, where no two images have one owner. -/
theorem Homed.slot_empty_of_out {c : Swapchain} (h : c.Homed) {out : List (Option SlotRef)}
    (hnodup : (c.images.map (·.owner) ++ out).Nodup) {i : Nat} (hi : i < c.size)
    (hout : some ⟨c.id, i⟩ ∈ out) : ∃ sequence, c.slots[i]? = some ⟨none, sequence⟩ := by
  have hslot : c.slots[i]? = some c.slots[i] := List.getElem?_eq_getElem hi
  refine ⟨c.slots[i].sequence, ?_⟩
  cases hin : c.slots[i].image with
  | none => rw [hslot, ← hin]
  | some other =>
    -- the image in the slot would have the same owner
    have hother : other ∈ c.images := List.mem_filterMap.mpr ⟨_, List.mem_of_getElem? hslot, hin⟩
    exact absurd (h i _ other hslot hin)
      ((List.nodup_append.mp hnodup).2.2 _ (List.mem_map_of_mem hother) _ hout)

/-- With every image in its slot or out, an image that is out has left its slot empty. -/
theorem Homed.slot_empty {c : Swapchain} (h : c.Homed) {out : List Image}
    (howners : ((c.images ++ out).map (·.owner)).Perm (homes c.id c.size)) {image : Image}
    (himage : image ∈ out) :
    ∃ i sequence, image.owner = some ⟨c.id, i⟩ ∧ c.slots[i]? = some ⟨none, sequence⟩ := by
  have hmem : image.owner ∈ (c.images ++ out).map (·.owner) :=
    List.mem_map_of_mem (List.mem_append_right _ himage)
  obtain ⟨i, hi, howner⟩ := mem_homes.mp (howners.mem_iff.mp hmem)
  have hnodup : (c.images.map (·.owner) ++ out.map (·.owner)).Nodup := by
    rw [← List.map_append]
    exact howners.nodup_iff.mpr (homes_nodup _ _)
  obtain ⟨sequence, hempty⟩ :=
    h.slot_empty_of_out hnodup hi (howner ▸ List.mem_map_of_mem himage)
  exact ⟨i, sequence, howner, hempty⟩

/-! ## Ending a swapchain -/

/-- An allocator takes back as many images as it has out. -/
theorem deallocateAll_of_le (host : Host σ) (images : List Image) :
    ∀ (a : Allocator) (s : σ), images.length ≤ a.outstanding →
      (Allocator.deallocateAll host images a s).1 = none := by
  induction images with
  | nil => exact fun _ _ _ => rfl
  | cons image rest ih =>
    intro a s h
    obtain ⟨n, hn⟩ : ∃ n, a.outstanding = n + 1 := ⟨a.outstanding - 1, by
      simp only [List.length_cons] at h
      omega⟩
    have hrest : rest.length ≤ n := by
      simp only [List.length_cons] at h
      omega
    simp only [Allocator.deallocateAll, Allocator.deallocate, hn]
    exact ih _ _ hrest

/-- A swapchain with no image out can be destroyed, if its allocator still counts them. -/
theorem destroy_of_acquired_eq_zero (host : Host σ) {c : Swapchain} (h : c.acquired = 0)
    {a : Allocator} (ha : c.size ≤ a.outstanding) (s : σ) : (c.destroy host a s).1 = none := by
  have hlength := c.acquired_add_images
  rw [destroy, if_neg (by simp [h])]
  exact deallocateAll_of_le host c.images a s (by omega)

end Swapchain

end Scanout
