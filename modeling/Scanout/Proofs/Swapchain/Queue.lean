import Scanout.Proofs.Circulation
import Scanout.Proofs.Swapchain.Slots

/-!
# A swapchain is a queue of its slots

The swapchain remembers the order of releases in sequence numbers and finds the image to
hand out by looking for the least one among the slots that are not empty. Seen from outside
it is a queue: acquiring takes the slot at the head, releasing puts the slot of the image
at the end, and at first all slots wait in index order.

`Rotation` uses a swapchain and such a queue side by side. What ties them together is that
the queue lists the filled slots in the order of their numbers, equal numbers by index
(`Inv.ordered`); a slot that is released gets a number above all others, so it belongs at the
end, and the slots that were never acquired share the number zero, which leaves them in index
order. `refines_queue` is the result.
-/

namespace Scanout

/-- An image without what display, renderer and compositor keep in its slots: all of it that
stays the same while the image goes around. -/
def Image.body (image : Image) : Image :=
  { image with backendData := .empty, rendererData := .empty, userData := .empty }

theorem Image.owner_eq_of_body {image other : Image} (h : image.body = other.body) :
    image.owner = other.owner := by
  have howner := congrArg Image.owner h
  exact howner

namespace Swapchain

/-! ## The slot to acquire from -/

/-- Of two slots the first to be acquired: the one with the lower number, of equals the one
with the lower index. -/
def Before (c : Swapchain) (i j : Nat) : Prop :=
  ∃ s t, c.slots[i]? = some s ∧ c.slots[j]? = some t ∧
    (s.sequence < t.sequence ∨ s.sequence = t.sequence ∧ i < j)

theorem Before.asymm {c : Swapchain} {i j : Nat} (h : c.Before i j) : ¬ c.Before j i := by
  rintro ⟨s, t, hs, ht, hst⟩
  obtain ⟨s', t', hs', ht', hst'⟩ := h
  obtain rfl : t' = s := Option.some.inj (ht'.symm.trans hs)
  obtain rfl : s' = t := Option.some.inj (hs'.symm.trans ht)
  omega

/-- The order of two slots depends on nothing but their numbers. -/
theorem Before.of_sequences {c c' : Swapchain} {i j : Nat} (h : c.Before i j)
    (hsame : ∀ k slot, k = i ∨ k = j → c.slots[k]? = some slot →
      ∃ slot', c'.slots[k]? = some slot' ∧ slot'.sequence = slot.sequence) : c'.Before i j := by
  obtain ⟨s, t, hs, ht, hst⟩ := h
  obtain ⟨s', hs', hseq⟩ := hsame i s (.inl rfl) hs
  obtain ⟨t', ht', hteq⟩ := hsame j t (.inr rfl) ht
  exact ⟨s', t', hs', ht', by rwa [hseq, hteq]⟩

/-- The least number of a filled slot is that of one of them, and none has a lower one. -/
theorem least_spec {slots : List SwapchainSlot} {least : Nat}
    (h : ((slots.filter (·.image.isSome)).map (·.sequence)).min? = some least)
    {slot : SwapchainSlot} (hmem : slot ∈ slots) (hin : slot.image.isSome = true) :
    least ≤ slot.sequence := by
  have hspec := (List.min?_eq_some_iff.mp h).2
  exact hspec slot.sequence (List.mem_map_of_mem (List.mem_filter.mpr ⟨hmem, hin⟩))

/-- The slot chosen comes before every other slot with an image. -/
theorem oldest?_before {c : Swapchain} {i : Nat} (h : oldest? c.slots = some i) {j : Nat}
    {image : Image} {sequence : Nat} (hj : c.slots[j]? = some ⟨some image, sequence⟩)
    (hne : i ≠ j) : c.Before i j := by
  unfold oldest? at h
  obtain ⟨least, hmin, hfind⟩ := Option.bind_eq_some_iff.mp h
  obtain ⟨hi, hp, hfirst⟩ := List.findIdx?_eq_some_iff_getElem.mp hfind
  obtain ⟨-, hseq⟩ : c.slots[i].image.isSome = true ∧ c.slots[i].sequence = least := by
    simpa using hp
  obtain ⟨hjlt, hjslot⟩ := List.getElem?_eq_some_iff.mp hj
  have hle : least ≤ sequence :=
    least_spec hmin (List.mem_of_getElem? hj) rfl
  refine ⟨c.slots[i], ⟨some image, sequence⟩, List.getElem?_eq_getElem hi, hj, ?_⟩
  by_cases heq : least = sequence
  · -- of the slots with the least number the first is chosen
    have hlt : i < j := by
      by_contra hge
      have hjfirst := hfirst j (by omega)
      simp [hjslot, heq] at hjfirst
    exact .inr ⟨hseq.trans heq, hlt⟩
  · exact .inl (by show c.slots[i].sequence < sequence; omega)

theorem oldest?_ne_none {slots : List SwapchainSlot} {i : Nat} {image : Image} {sequence : Nat}
    (hi : slots[i]? = some ⟨some image, sequence⟩) : oldest? slots ≠ none := by
  intro hnone
  have himage := image_eq_none_of_oldest? hnone _ (List.mem_of_getElem? hi)
  exact absurd himage (by simp)

/-! ## Using a swapchain -/

/-- What the owner of a swapchain does. -/
inductive Use where
  | acquire
  /-- An image that is out goes back. -/
  | release (image : Image)
  /-- What is kept in the slots of an image that is out changes. -/
  | change (image : Image) (backend renderer user : DataSlot)
  deriving DecidableEq, Repr

/-- A swapchain in use, and beside it a queue of the slots that are not empty. -/
structure Rotation where
  chain : Swapchain
  /-- The images that are out. -/
  hand : List Image := []
  /-- Runs beside the swapchain and never looks at it: a slot is taken at the head and put
  back at the end. -/
  queue : List Nat
  /-- How many images were released so far. -/
  releases : Nat := 0
  deriving DecidableEq, Repr

namespace Rotation

/-- At first every slot waits, in index order. -/
def start (c : Swapchain) : Rotation :=
  { chain := c, queue := List.range c.size }

/-- The slot that an image belongs to. -/
def slotOf (image : Image) : List Nat :=
  (image.owner.map (·.index)).toList

def step (w : Rotation) : Use → Rotation
  | .acquire =>
    let (image, chain) := w.chain.acquire
    { w with chain := chain, hand := w.hand ++ image.toList, queue := w.queue.tail }
  | .release image =>
    if image ∈ w.hand then
      match w.chain.release image with
      | .ok chain => { w with
          chain := chain
          hand := w.hand.erase image
          queue := w.queue ++ slotOf image
          releases := w.releases + 1 }
      -- excluded by `Inv.release_ok`
      | .error _ => w
    else w
  | .change image backend renderer user =>
    if image ∈ w.hand then
      { w with hand := w.hand.erase image ++
          [{ image with backendData := backend, rendererData := renderer, userData := user }] }
    else w

def run (w : Rotation) (uses : List Use) : Rotation :=
  uses.foldl step w

/-- What ties a swapchain to the queue, for a swapchain made as `c`. -/
structure Inv (c : Swapchain) (w : Rotation) : Prop where
  id_eq : w.chain.id = c.id
  size_eq : w.chain.size = c.size
  homed : w.chain.Homed
  /-- Every image is in its slot or out, and there are no others. -/
  bodies : ((w.chain.images ++ w.hand).map Image.body).Perm (c.images.map Image.body)
  /-- The slots in the queue are those that are not empty. -/
  filled : ∀ i, i ∈ w.queue ↔ ∃ image sequence, w.chain.slots[i]? = some ⟨some image, sequence⟩
  ordered : w.queue.Pairwise w.chain.Before
  /-- No slot has a number above that of the latest release. -/
  bounded : ∀ slot ∈ w.chain.slots, slot.sequence ≤ w.chain.counter
  counter_eq : w.chain.counter = w.releases

theorem start_inv {c : Swapchain} (hc : c.New) : (start c).Inv c where
  id_eq := rfl
  size_eq := rfl
  homed := hc.fresh.homed
  bodies := by simp [start]
  filled := by
    intro i
    show i ∈ List.range c.size ↔ _
    rw [List.mem_range]
    constructor
    · intro hi
      obtain ⟨image, hslot, -⟩ := hc.slot (List.getElem?_eq_getElem hi)
      refine ⟨image, 0, ?_⟩
      show c.slots[i]? = _
      rw [List.getElem?_eq_getElem hi, hslot]
    · rintro ⟨image, sequence, hslot⟩
      exact (List.getElem?_eq_some_iff.mp hslot).1
  ordered := by
    -- all numbers are zero, so the order is that of the indices
    show (List.range c.size).Pairwise c.Before
    refine List.pairwise_lt_range.imp_of_mem fun {i j} hi hj hlt => ?_
    have hi' : i < c.slots.length := List.mem_range.mp hi
    have hj' : j < c.slots.length := List.mem_range.mp hj
    obtain ⟨first, hfirst, -⟩ := hc.slot (List.getElem?_eq_getElem hi')
    obtain ⟨second, hsecond, -⟩ := hc.slot (List.getElem?_eq_getElem hj')
    refine ⟨_, _, List.getElem?_eq_getElem hi', List.getElem?_eq_getElem hj', .inr ⟨?_, hlt⟩⟩
    rw [hfirst, hsecond]
  bounded := by
    intro slot hslot
    obtain ⟨i, hi, rfl⟩ := List.getElem_of_mem hslot
    obtain ⟨image, hsame, -⟩ := hc.slot (List.getElem?_eq_getElem hi)
    rw [hsame]
    exact Nat.zero_le _
  counter_eq := hc.counter_eq

section

variable {c : Swapchain} {w : Rotation}

theorem Inv.owners (h : w.Inv c) (hc : c.New) :
    ((w.chain.images ++ w.hand).map (·.owner)).Perm (homes w.chain.id w.chain.size) := by
  have howners := h.bodies.map Image.owner
  rw [List.map_map, List.map_map] at howners
  rw [h.id_eq, h.size_eq, ← hc.owners]
  exact howners

/-- An image that is out belongs to an empty slot. -/
theorem Inv.slot_empty (h : w.Inv c) (hc : c.New) {image : Image} (himage : image ∈ w.hand) :
    ∃ i sequence, image.owner = some ⟨w.chain.id, i⟩ ∧
      w.chain.slots[i]? = some ⟨none, sequence⟩ :=
  h.homed.slot_empty (h.owners hc) himage

/-- The image in a slot, or on its way there, is the one made for the slot. -/
theorem Inv.original (h : w.Inv c) (hc : c.New) {image : Image} {i : Nat}
    (himage : image ∈ w.chain.images ++ w.hand) (howner : image.owner = some ⟨w.chain.id, i⟩) :
    ∃ original, c.slots[i]? = some ⟨some original, 0⟩ ∧ image.body = original.body := by
  have hmem : image.body ∈ c.images.map Image.body :=
    h.bodies.mem_iff.mp (List.mem_map_of_mem himage)
  obtain ⟨original, horiginal, hbody⟩ := List.mem_map.mp hmem
  obtain ⟨slot, hslot, hin⟩ := List.mem_filterMap.mp horiginal
  obtain ⟨j, hj, rfl⟩ := List.getElem_of_mem hslot
  obtain ⟨other, hsame, -, hhome⟩ := hc.slot (List.getElem?_eq_getElem hj)
  obtain rfl : other = original := by simpa [hsame] using hin
  -- both have the same owner, so it is the slot `i`
  have hij : j = i := by
    have heq := (Image.owner_eq_of_body hbody).symm.trans hhome
    rw [howner] at heq
    simpa using (congrArg (Option.map SlotRef.index) heq).symm
  subst hij
  exact ⟨other, by rw [List.getElem?_eq_getElem hj, hsame], hbody.symm⟩

theorem Inv.nodup (h : w.Inv c) : w.queue.Nodup := by
  refine h.ordered.imp ?_
  rintro i j hbefore rfl
  exact hbefore.asymm hbefore

/-! ## Acquiring -/

/-- The slot chosen is the head of the queue. -/
theorem Inv.oldest?_eq (h : w.Inv c) : oldest? w.chain.slots = w.queue.head? := by
  cases hq : w.queue with
  | nil =>
    cases hold : oldest? w.chain.slots with
    | none => rfl
    | some k =>
      have hk : k ∈ w.queue := (h.filled k).mpr (image_of_oldest? hold)
      rw [hq] at hk
      exact absurd hk List.not_mem_nil
  | cons i rest =>
    obtain ⟨image, sequence, hslot⟩ := (h.filled i).mp (by simp [hq])
    cases hold : oldest? w.chain.slots with
    | none => exact absurd hold (oldest?_ne_none hslot)
    | some k =>
      have hk : k ∈ w.queue := (h.filled k).mpr (image_of_oldest? hold)
      have hordered := h.ordered
      rw [hq] at hk hordered
      by_cases hki : k = i
      · rw [hki, List.head?_cons]
      · -- the head comes before all others in the queue, and the chosen slot before the head
        have hrest : k ∈ rest := (List.mem_cons.mp hk).resolve_left hki
        have hhead : w.chain.Before i k := (List.pairwise_cons.mp hordered).1 k hrest
        exact absurd (oldest?_before hold hslot hki) hhead.asymm

/-- Acquiring takes the slot at the head of the queue, if there is one. -/
theorem Inv.acquire_cases (h : w.Inv c) :
    (w.queue = [] ∧ w.chain.acquire = (none, w.chain)) ∨
    ∃ i rest image sequence, w.queue = i :: rest ∧
      w.chain.slots[i]? = some ⟨some image, sequence⟩ ∧
      w.chain.acquire
        = (some image, { w.chain with slots := w.chain.slots.set i ⟨none, sequence⟩ }) := by
  have hold := h.oldest?_eq
  cases hq : w.queue with
  | nil =>
    rw [hq, List.head?_nil] at hold
    exact .inl ⟨rfl, by simp only [acquire, hold]⟩
  | cons i rest =>
    obtain ⟨image, sequence, hslot⟩ := (h.filled i).mp (by simp [hq])
    rw [hq, List.head?_cons] at hold
    refine .inr ⟨i, rest, image, sequence, rfl, hslot, ?_⟩
    have hmodify : (w.chain.slots.modify i fun slot => { slot with image := none })
        = w.chain.slots.set i ⟨none, sequence⟩ := by
      rw [List.modify_eq_set_getElem?, hslot]
      rfl
    simp only [acquire, hold, hslot, hmodify, Option.bind_some]

/-- Emptying a slot leaves its number, and so the order of the slots. -/
theorem sequence_of_set {slots : List SwapchainSlot} {i : Nat} {slot : SwapchainSlot}
    (hi : slots[i]? = some slot) (image : Option Image) {k : Nat} {other : SwapchainSlot}
    (hk : slots[k]? = some other) :
    ∃ other', (slots.set i ⟨image, slot.sequence⟩)[k]? = some other' ∧
      other'.sequence = other.sequence := by
  by_cases hik : i = k
  · subst hik
    obtain rfl : slot = other := Option.some.inj (hi.symm.trans hk)
    have hlt : i < slots.length := (List.getElem?_eq_some_iff.mp hi).1
    exact ⟨_, List.getElem?_set_self hlt, rfl⟩
  · exact ⟨other, by rw [List.getElem?_set_ne hik, hk], rfl⟩

theorem Inv.acquire_inv (h : w.Inv c) : (w.step .acquire).Inv c := by
  rcases h.acquire_cases with ⟨hq, hacquire⟩ | ⟨i, rest, image, sequence, hq, hslot, hacquire⟩
  · obtain ⟨chain, hand, queue, releases⟩ := w
    obtain rfl : queue = [] := hq
    simpa [step, hacquire] using h
  · have hlt : i < w.chain.slots.length := (List.getElem?_eq_some_iff.mp hslot).1
    have hnodup := h.nodup
    have hordered := h.ordered
    rw [hq] at hnodup hordered
    have himages := List.perm_iff_count.mp
      (images_set_perm hslot ⟨none, sequence⟩ w.chain.counter)
    simp only [step, hacquire, hq, List.tail_cons, Option.toList_some]
    refine ⟨h.id_eq, ?_, h.homed.set (by simp) _, ?_, fun j => ?_, ?_, ?_, h.counter_eq⟩
    · simpa [size] using h.size_eq
    · -- the image goes from its slot into the hand
      refine List.Perm.trans (List.Perm.map _ (List.perm_iff_count.mpr fun x => ?_)) h.bodies
      have hx := himages x
      simp only [Option.toList_some, Option.toList_none, List.count_append, List.nil_append]
        at hx ⊢
      omega
    · by_cases hij : i = j
      · subst hij
        refine ⟨fun hmem => absurd hmem (List.nodup_cons.mp hnodup).1, ?_⟩
        rintro ⟨other, number, hother⟩
        rw [List.getElem?_set_self hlt] at hother
        exact absurd hother (by simp)
      · rw [List.getElem?_set_ne hij, ← h.filled j, hq, List.mem_cons]
        exact ⟨.inr, fun hj => hj.resolve_left (Ne.symm hij)⟩
    · refine (List.pairwise_cons.mp hordered).2.imp fun hbefore => ?_
      exact hbefore.of_sequences fun k slot _ hk => sequence_of_set hslot none hk
    · intro slot hmem
      rcases List.mem_or_eq_of_mem_set hmem with hold | rfl
      · exact h.bounded slot hold
      · have hle := h.bounded _ (List.mem_of_getElem? hslot)
        exact hle

/-! ## Releasing -/

/-- Every image that is out can be released. -/
theorem Inv.release_ok (h : w.Inv c) (hc : c.New) {image : Image} (himage : image ∈ w.hand) :
    ∃ i sequence, image.owner = some ⟨w.chain.id, i⟩ ∧
      w.chain.slots[i]? = some ⟨none, sequence⟩ ∧ i ∉ w.queue ∧
      w.chain.release image = .ok { w.chain with
        slots := w.chain.slots.set i ⟨some image, w.chain.counter + 1⟩
        counter := w.chain.counter + 1 } := by
  obtain ⟨i, sequence, howner, hslot⟩ := h.slot_empty hc himage
  refine ⟨i, sequence, howner, hslot, fun hmem => ?_, release_eq howner hslot⟩
  obtain ⟨other, number, hother⟩ := (h.filled i).mp hmem
  rw [hslot] at hother
  exact absurd hother (by simp)

theorem Inv.release_inv (h : w.Inv c) (hc : c.New) (image : Image) :
    (w.step (.release image)).Inv c := by
  by_cases hheld : image ∈ w.hand
  swap
  · simpa only [step, if_neg hheld] using h
  obtain ⟨i, sequence, howner, hslot, habsent, hrelease⟩ := h.release_ok hc hheld
  have hlt : i < w.chain.slots.length := (List.getElem?_eq_some_iff.mp hslot).1
  have himages := images_set_perm hslot ⟨some image, w.chain.counter + 1⟩ (w.chain.counter + 1)
  have hslotOf : slotOf image = [i] := by simp [slotOf, howner]
  simp only [step, if_pos hheld, hrelease, hslotOf]
  refine ⟨h.id_eq, ?_, h.homed.set ?_ _, ?_, fun j => ?_, ?_, ?_, congrArg (· + 1) h.counter_eq⟩
  · simpa [size] using h.size_eq
  · intro other hother
    obtain rfl : image = other := by simpa using hother
    exact howner
  · refine List.Perm.trans (List.Perm.map _ ?_) h.bodies
    -- the image goes from the hand into its slot
    refine (himages.append_right _).trans ?_
    refine List.perm_middle.symm.trans (List.Perm.append_left _ ?_)
    exact (List.perm_cons_erase hheld).symm
  · by_cases hij : i = j
    · subst hij
      rw [List.getElem?_set_self hlt]
      simp
    · rw [List.getElem?_set_ne hij, ← h.filled j]
      simp [Ne.symm hij]
  · -- the order of the others stays, and the released slot has the highest number of all
    have hkeep : ∀ k slot, k ∈ w.queue → w.chain.slots[k]? = some slot →
        (w.chain.slots.set i ⟨some image, w.chain.counter + 1⟩)[k]? = some slot := by
      intro k slot hk hget
      have hne : i ≠ k := fun heq => habsent (heq ▸ hk)
      rw [List.getElem?_set_ne hne, hget]
    rw [List.pairwise_append]
    refine ⟨h.ordered.imp_of_mem fun {j k} hj hk hbefore => ?_, by simp, fun j hj k hk => ?_⟩
    · refine hbefore.of_sequences fun l slot hl hget => ⟨slot, hkeep l slot ?_ hget, rfl⟩
      rcases hl with rfl | rfl
      · exact hj
      · exact hk
    · obtain rfl := List.mem_singleton.mp hk
      obtain ⟨other, number, hother⟩ := (h.filled j).mp hj
      have hle : number ≤ w.chain.counter := h.bounded _ (List.mem_of_getElem? hother)
      exact ⟨_, _, hkeep j _ hj hother, List.getElem?_set_self hlt, .inl (Nat.lt_succ_of_le hle)⟩
  · intro slot hmem
    rcases List.mem_or_eq_of_mem_set hmem with hold | rfl
    · exact Nat.le_succ_of_le (h.bounded slot hold)
    · exact Nat.le_refl _

theorem Inv.change_inv (h : w.Inv c) (image : Image) (backend renderer user : DataSlot) :
    (w.step (.change image backend renderer user)).Inv c := by
  simp only [step]
  split
  · next hheld =>
    refine ⟨h.id_eq, h.size_eq, h.homed, ?_, h.filled, h.ordered, h.bounded, h.counter_eq⟩
    refine List.Perm.trans ?_ h.bodies
    -- the changed image still has its body
    have hperm := (List.perm_cons_erase hheld).map Image.body
    have hchanged := List.perm_append_singleton image.body ((w.hand.erase image).map Image.body)
    simp only [List.map_append, List.map_cons, List.map_nil] at hperm ⊢
    exact (hchanged.trans hperm.symm).append_left _
  · exact h

/-! ## A whole run -/

theorem Inv.step_inv (h : w.Inv c) (hc : c.New) (use : Use) : (w.step use).Inv c := by
  cases use with
  | acquire => exact h.acquire_inv
  | release image => exact h.release_inv hc image
  | change image backend renderer user => exact h.change_inv image backend renderer user

theorem Inv.run_inv (h : w.Inv c) (hc : c.New) (uses : List Use) : (w.run uses).Inv c := by
  induction uses generalizing w with
  | nil => exact h
  | cons use rest ih => exact ih (h.step_inv hc use)

/-- Counting the entries of a list is counting their positions. -/
theorem countP_eq_range {α : Type} {l : List α} {p : α → Bool} {q : Nat → Bool}
    (h : ∀ (i : Nat) (hi : i < l.length), p l[i] = q i) :
    l.countP p = (List.range l.length).countP q := by
  have hmap : l.map p = (List.range l.length).map q := by
    refine List.ext_getElem (by simp) fun i hi _ => ?_
    simpa using h i (by simpa using hi)
  have hcount := congrArg (List.countP fun b => b) hmap
  rwa [List.countP_map, List.countP_map] at hcount

/-- The slots that are missing from the queue are those whose images are out. -/
theorem Inv.acquired_eq (h : w.Inv c) :
    w.chain.acquired = (List.range c.size).countP fun i => i ∉ w.queue := by
  rw [← h.size_eq]
  refine countP_eq_range fun i hi => ?_
  have hslot : w.chain.slots[i]? = some w.chain.slots[i] := List.getElem?_eq_getElem hi
  have hfilled := h.filled i
  rw [hslot] at hfilled
  cases hin : w.chain.slots[i].image with
  | none =>
    have hout : i ∉ w.queue := by
      intro hmem
      obtain ⟨image, sequence, heq⟩ := hfilled.mp hmem
      rw [Option.some.inj heq] at hin
      exact absurd hin (by simp)
    simp [hout]
  | some image =>
    have hmem : i ∈ w.queue := by
      refine hfilled.mpr ⟨image, w.chain.slots[i].sequence, ?_⟩
      rw [← hin]
    simp [hmem]

theorem Inv.acquired_eq_hand (h : w.Inv c) (hc : c.New) : w.chain.acquired = w.hand.length := by
  have hlength := (h.owners hc).length_eq
  have hcount := w.chain.acquired_add_images
  simp only [List.length_map, List.length_append, homes, List.length_range] at hlength
  omega

theorem Inv.queue_length (h : w.Inv c) : w.chain.acquired + w.queue.length = c.size := by
  have hperm : ((List.range c.size).filter (· ∈ w.queue)).Perm w.queue := by
    rw [List.perm_ext_iff_of_nodup (List.nodup_range.filter _) h.nodup]
    intro i
    have hlt : i ∈ w.queue → i < c.size := by
      intro hmem
      obtain ⟨image, sequence, hslot⟩ := (h.filled i).mp hmem
      rw [← h.size_eq]
      exact (List.getElem?_eq_some_iff.mp hslot).1
    simpa using hlt
  have hin : (List.range c.size).countP (fun i => i ∈ w.queue) = w.queue.length := by
    rw [List.countP_eq_length_filter, hperm.length_eq]
  have hsplit := List.length_eq_countP_add_countP (fun i => decide (i ∈ w.queue))
    (l := List.range c.size)
  rw [h.acquired_eq, ← hin]
  simp only [List.length_range, decide_eq_true_eq] at hsplit
  omega

/-- **A swapchain is a queue of its slots.** However images are acquired from a swapchain with
any number of slots and released to it, and whatever is done to what their slots keep: there
is nothing to acquire exactly if the queue is empty, and that is if all images are out;
otherwise the image at the head is handed out. An image that is out can be released, and
then its slot is the last of the queue and has a number above all others. Every slot hands
out and takes back the image that was made for it. The slots missing from the queue are those
counted as acquired, and the numbers go up to the number of releases, so that a word holds
them for as many releases as it has values. -/
theorem refines_queue {c : Swapchain} (hc : c.New) (uses : List Use) :
    let w := (start c).run uses
    (w.chain.acquire.1 = none ↔ w.queue = []) ∧
    (w.queue = [] ↔ w.hand.length = c.size) ∧
    (∀ i rest, w.queue = i :: rest → ∃ image original sequence,
      c.slots[i]? = some ⟨some original, 0⟩ ∧ image.body = original.body ∧
      w.chain.slots[i]? = some ⟨some image, sequence⟩ ∧
      w.chain.acquire
        = (some image, { w.chain with slots := w.chain.slots.set i ⟨none, sequence⟩ })) ∧
    (∀ image ∈ w.hand, ∃ i original chain,
      c.slots[i]? = some ⟨some original, 0⟩ ∧ image.body = original.body ∧ i ∉ w.queue ∧
      w.chain.release image = .ok chain ∧
      chain.slots = w.chain.slots.set i ⟨some image, chain.counter⟩ ∧
      (w.step (.release image)).queue = w.queue ++ [i] ∧
      ∀ j slot, j ≠ i → chain.slots[j]? = some slot → slot.sequence < chain.counter) ∧
    w.chain.acquired = w.hand.length ∧
    w.chain.acquired = (List.range c.size).countP (fun i => i ∉ w.queue) ∧
    w.chain.counter = w.releases := by
  intro w
  have h : w.Inv c := (start_inv hc).run_inv hc uses
  have hlength := h.queue_length
  have hhand := h.acquired_eq_hand hc
  refine ⟨?_, ?_, fun i rest hq => ?_, fun image himage => ?_, hhand, h.acquired_eq, h.counter_eq⟩
  · rcases h.acquire_cases with ⟨hq, hacquire⟩ | ⟨i, rest, image, sequence, hq, -, hacquire⟩
    · simp [hq, hacquire]
    · simp [hq, hacquire]
  · rw [← List.length_eq_zero_iff]
    omega
  · rcases h.acquire_cases with ⟨hnil, -⟩ | ⟨j, tail, image, sequence, hcons, hslot, hacquire⟩
    · rw [hq] at hnil
      exact absurd hnil (List.cons_ne_nil i rest)
    · obtain ⟨rfl, rfl⟩ := List.cons.inj (hq.symm.trans hcons)
      have hin : image ∈ w.chain.images :=
        List.mem_filterMap.mpr ⟨_, List.mem_of_getElem? hslot, rfl⟩
      obtain ⟨original, horiginal, hbody⟩ :=
        h.original hc (List.mem_append_left _ hin) (h.homed i _ image hslot rfl)
      exact ⟨image, original, sequence, horiginal, hbody, hslot, hacquire⟩
  · obtain ⟨i, sequence, howner, hslot, habsent, hrelease⟩ := h.release_ok hc himage
    obtain ⟨original, horiginal, hbody⟩ :=
      h.original hc (List.mem_append_right _ himage) howner
    refine ⟨i, original, _, horiginal, hbody, habsent, hrelease, rfl, ?_, fun j slot hne hj => ?_⟩
    · simp [step, himage, hrelease, slotOf, howner]
    · have hold : w.chain.slots[j]? = some slot := by
        rwa [List.getElem?_set_ne (Ne.symm hne)] at hj
      exact Nat.lt_succ_of_le (h.bounded slot (List.mem_of_getElem? hold))

end

/-- Both images of a pair are acquired, and come back in the other order. -/
def exchange : List Use :=
  [.acquire, .acquire,
    .release { Image.numbered 1 with owner := some ⟨⟨0⟩, 1⟩ },
    .release { Image.numbered 0 with owner := some ⟨⟨0⟩, 0⟩ }]

theorem exchange_turns_around :
    Circulation.pair.New ∧
    ((start Circulation.pair).run exchange).queue = [1, 0] ∧
    ((start Circulation.pair).run exchange).chain.acquire.1.map Image.body
      = some { Image.numbered 1 with owner := some ⟨⟨0⟩, 1⟩ } := by
  have hmade : Swapchain.create Circulation.plainHost ⟨0⟩ 64 64 .xrgb8888 [] ⟨0⟩ {} 0
      = (.done Circulation.pair, ⟨2⟩, 2) := by
    decide +kernel
  have hnew : Circulation.pair.New := (create_new hmade).1
  have hqueue : ((start Circulation.pair).run exchange).queue = [1, 0] := by decide +kernel
  obtain ⟨-, -, hhead, -⟩ := refines_queue hnew exchange
  obtain ⟨image, original, sequence, horiginal, hbody, -, hacquire⟩ := hhead 1 [0] hqueue
  refine ⟨hnew, hqueue, ?_⟩
  -- the second slot was made with the second image
  have hsecond : { Image.numbered 1 with owner := some ⟨⟨0⟩, 1⟩ } = original := by
    simpa [Circulation.pair] using horiginal
  rw [hacquire, Option.map_some, hbody, ← hsecond]
  rfl

end Rotation

end Swapchain

end Scanout
