import Scanout.Proofs.Swapchain.Making
import Scanout.Proofs.Circulation

/-!
# In which order a failed swapchain is given up

What is taken on one after the other is to be given up backwards, the latest first.
`ActionLog.owed?` reads a list of actions that way: each acquisition puts what undoes it on top of
what is still owed, and only what is on top may be done. A list is `Unwound` if it can be read to
its end and nothing is owed then.

An allocation that fails unwinds on its own, whatever it had got to (`spent_owed`). A swapchain
that cannot get one of its images gives back those it has got, in the order it got them. So what
is owed when it starts to do so and what it then does are each other's mirror image in the images
(`allocateSlots_unwinds`), and the whole is unwound exactly if there is no order to speak of: with
one image at most, or with a device that gave out the same buffer object twice (`unwound_iff`).
-/

namespace Scanout

variable {σ : Type}

namespace BufferAction

/-- What undoes an action, if it acquired something. -/
def undoing? : BufferAction → Option BufferAction
  | .created => some .freed
  | .imported => some .unimported
  | .attached => some .detached
  | .importRefused | .attachRefused | .detached | .unimported | .freed => none

/-- Whether it undoes another. -/
def undoes : BufferAction → Bool
  | .detached | .unimported | .freed => true
  | .created | .imported | .importRefused | .attached | .attachRefused => false

end BufferAction

open BufferAction

namespace ActionLog

/-- What is owed after an action, the next first; nothing if the action was not its turn. -/
def owedAfter? (owed : ActionLog) (action : Buffer × BufferAction) : Option ActionLog :=
  if action.2.undoes then
    if owed.head? = some action then some owed.tail else none
  else some ((action.2.undoing?.map (action.1, ·)).toList ++ owed)

/-- What is owed after a list of actions, if each of them that undoes another undoes the latest. -/
def owed? : ActionLog → ActionLog → Option ActionLog
  | [], owed => some owed
  | action :: rest, owed => (owedAfter? owed action).bind (owed? rest)

/-- All that was acquired was given up again, in strictly the reverse order. -/
def Unwound (log : ActionLog) : Prop :=
  owed? log [] = some []

instance (log : ActionLog) : Decidable log.Unwound :=
  inferInstanceAs (Decidable (_ = _))

/-- The closings of a number of buffers, one after the other. -/
def closings (hooked : Bool) (buffers : List Buffer) : ActionLog :=
  buffers.flatMap fun buffer => (closing hooked).map (buffer, ·)

theorem closings_append (hooked : Bool) (buffers more : List Buffer) :
    closings hooked (buffers ++ more) = closings hooked buffers ++ closings hooked more :=
  List.flatMap_append

theorem owed?_append (log more owed : ActionLog) :
    owed? (log ++ more) owed = (owed? log owed).bind (owed? more) := by
  induction log generalizing owed with
  | nil => rfl
  | cons action rest ih =>
    show (owedAfter? owed action).bind (owed? (rest ++ more)) = _
    rw [owed?, Option.bind_assoc]
    exact Option.bind_congr fun owed _ => ih owed

/-- Opening a buffer owes its closing. -/
theorem opening_owed (hooked : Bool) (buffer : Buffer) (owed : ActionLog) :
    owed? ((opening hooked).map (buffer, ·)) owed
      = some ((closing hooked).map (buffer, ·) ++ owed) := by
  cases hooked <;> rfl

/-- A buffer that came to nothing was unwound on the way. -/
theorem spent_owed {hooked : Bool} {actions : List BufferAction} (h : Spent hooked actions)
    (buffer : Buffer) (owed : ActionLog) :
    owed? (actions.map (buffer, ·)) owed = some owed := by
  cases h with
  | unused => simp [owed?, owedAfter?, undoes, undoing?]
  | importRefused => simp [owed?, owedAfter?, undoes, undoing?]
  | attachRefused => cases hooked <;> simp [owed?, owedAfter?, rendering, undoes, undoing?]

theorem allSpent_owed {hooked : Bool} {log : ActionLog} (h : AllSpent hooked log)
    (owed : ActionLog) : owed? log owed = some owed := by
  induction h with
  | nil => rfl
  | append _ buffer spent ih => rw [owed?_append, ih, Option.bind_some, spent_owed spent]

/-- Actions that only undo others leave nothing owed exactly if they are what was owed. -/
theorem owed?_of_undoes {log : ActionLog} (hundoes : ∀ action ∈ log, action.2.undoes = true)
    (owed : ActionLog) : owed? log owed = some [] ↔ log = owed := by
  induction log generalizing owed with
  | nil => exact ⟨fun h => (Option.some.inj h).symm, fun h => congrArg some h.symm⟩
  | cons action rest ih =>
    obtain ⟨hfirst, hrest⟩ := List.forall_mem_cons.mp hundoes
    rw [owed?, owedAfter?, if_pos hfirst]
    cases owed with
    | nil => simp
    | cons next owed =>
      by_cases hturn : next = action
      · simpa [hturn] using ih hrest owed
      · simp [hturn, Ne.symm hturn]

theorem closing_undoes (hooked : Bool) : ∀ action ∈ closing hooked, action.undoes = true := by
  cases hooked <;> decide

theorem closings_owed_iff (hooked : Bool) (buffers : List Buffer) (owed : ActionLog) :
    owed? (closings hooked buffers) owed = some [] ↔ closings hooked buffers = owed := by
  refine owed?_of_undoes (fun action haction => ?_) owed
  obtain ⟨buffer, -, haction⟩ := List.mem_flatMap.mp haction
  obtain ⟨undoing, hundoing, rfl⟩ := List.mem_map.mp haction
  exact closing_undoes hooked undoing hundoing

/-- The closings of buffers tell which buffers they were. -/
theorem closings_inj {hooked : Bool} {buffers others : List Buffer} :
    closings hooked buffers = closings hooked others ↔ buffers = others := by
  refine ⟨fun h => ?_, congrArg _⟩
  induction buffers generalizing others with
  | nil =>
    cases others with
    | nil => rfl
    | cons other others => cases h
  | cons buffer buffers ih =>
    cases others with
    | nil => cases h
    | cons other others =>
      obtain ⟨hfirst, hrest⟩ := List.append_inj h (by simp)
      have hsame : buffer = other := congrArg Prod.fst (List.cons.inj hfirst).1
      rw [hsame, ih hrest]

end ActionLog

/-! ## Images that go back -/

open ActionLog

namespace Allocator

variable {host : Host σ}

theorem deallocate_counted (host : Host σ) (image : Image) (n : Nat) (s : σ) :
    ∃ s', deallocate host image ⟨n + 1⟩ s = (none, ⟨n⟩, s') :=
  ⟨_, rfl⟩

/-- Images an allocator counts are given back one after the other, each closed at once. -/
theorem deallocateAll_recording (hk : host.KeepsBuffers) (images : List Image) :
    ∀ (n : Nat) (s : σ) (log : ActionLog), ∃ s',
      deallocateAll host images ⟨n + images.length⟩ s = (none, ⟨n⟩, s') ∧
      deallocateAll host.recording images ⟨n + images.length⟩ (s, log)
        = (none, ⟨n⟩, s', log ++ closings host.hooked (images.map (·.buffer))) := by
  induction images with
  | nil => exact fun n s log => ⟨s, rfl, by simp [deallocateAll, closings]⟩
  | cons image rest ih =>
    intro n s log
    rw [List.length_cons, ← Nat.add_assoc]
    obtain ⟨s₁, hone⟩ := deallocate_counted host image (n + rest.length) s
    have hrec := deallocate_recording hk image ⟨n + rest.length + 1⟩ s log
    rw [hone] at hrec
    obtain ⟨s', hplain', hrec'⟩ := ih n s₁ (log ++ (closing host.hooked).map (image.buffer, ·))
    refine ⟨s', ?_, ?_⟩
    · simp only [deallocateAll, hone, hplain']
    · simp only [deallocateAll, hrec, hrec', closings, List.map_cons, List.flatMap_cons,
        List.append_assoc]

end Allocator

namespace Swapchain

open Allocator

/-- The buffers of the images that are made one after the other before one cannot be had. -/
def madeFirst (host : Host σ) (q : ImageRequest) : Nat → Allocator → σ → List Buffer
  | 0, _, _ => []
  | missing + 1, a, s =>
    match allocate host q.width q.height q.fourcc q.modifiers a s with
    | (.done image, a, s) => image.buffer :: madeFirst host q missing a s
    | (.failed _, _, _) | (.fault _, _, _) => []

variable {host : Host σ}

theorem madeFirst_length_lt (q : ImageRequest) {e : AllocationError} (missing : Nat) :
    ∀ {a : Allocator} {s : σ}, firstFailure? host q missing a s = some e →
      (madeFirst host q missing a s).length < missing := by
  induction missing with
  | zero => exact fun h => by cases h
  | succ missing ih =>
    intro a s h
    rcases hone : allocate host q.width q.height q.fourcc q.modifiers a s with
      ⟨image | e' | f, a₁, s₁⟩
    · simp only [firstFailure?, hone] at h
      simp only [madeFirst, hone]
      exact Nat.succ_lt_succ (ih h)
    · simp [madeFirst, hone]
    · simp [madeFirst, hone]

/-- When an image cannot be had, the closings owed are those of the images made on the way, the
latest first; what follows are the closings of all images made, the earliest first. -/
theorem allocateSlots_unwinds (hk : host.KeepsBuffers) (id : SwapchainId) (q : ImageRequest)
    {e : AllocationError} (missing : Nat) :
    ∀ (made : List Image) {n : Nat} {a : Allocator} {s : σ} (log : ActionLog),
      a.outstanding = n + made.length → firstFailure? host q missing a s = some e →
      ∃ taken s',
        allocateSlots host id q.width q.height q.fourcc q.modifiers missing made a s
          = (.failed e, ⟨n⟩, s') ∧
        allocateSlots host.recording id q.width q.height q.fourcc q.modifiers missing made a
            (s, log)
          = (.failed e, ⟨n⟩, s', log ++ taken ++
              closings host.hooked (made.map (·.buffer) ++ madeFirst host q missing a s)) ∧
        ∀ owed, owed? taken owed
          = some (closings host.hooked (madeFirst host q missing a s).reverse ++ owed) := by
  induction missing with
  | zero => exact fun _ _ _ _ _ _ h => by cases h
  | succ missing ih =>
    intro made n a s log hcounted hfails
    obtain ⟨outcome, a₁, s₁, spent, hspent, hplain, hcases⟩ :=
      allocate_cases hk q.width q.height q.fourcc q.modifiers a s log
    rcases hcases with ⟨image, rfl, hmore, hrec⟩ | ⟨hnone, rfl, hrec⟩
    · -- One image more is made, and the failure comes after it.
      simp only [firstFailure?, hplain] at hfails
      let owned : Image := { image with owner := some ⟨id, made.length⟩ }
      have hcounted₁ : a₁.outstanding = n + (made ++ [owned]).length := by
        rw [hmore, hcounted, List.length_append, List.length_singleton, Nat.add_assoc]
      obtain ⟨taken, s', hplain', hrec', howed⟩ := ih (made ++ [owned])
        (log ++ spent ++ (opening host.hooked).map (image.buffer, ·)) hcounted₁ hfails
      refine ⟨spent ++ (opening host.hooked).map (image.buffer, ·) ++ taken, s', ?_, ?_, ?_⟩
      · simp only [allocateSlots, hplain]
        exact hplain'
      · simp only [allocateSlots, hrec, madeFirst, hplain]
        rw [hrec']
        simp [owned]
      · intro owed
        simp only [madeFirst, hplain, owed?_append, allSpent_owed hspent, opening_owed, howed,
          Option.bind_some, List.reverse_cons, closings_append, List.append_assoc]
        simp [closings]
    · -- This image cannot be had, so all others go back.
      cases outcome with
      | done image => exact absurd rfl (hnone image)
      | fault f =>
        simp only [firstFailure?, hplain] at hfails
        cases hfails
      | failed e' =>
        simp only [firstFailure?, hplain] at hfails
        obtain rfl := Option.some.inj hfails
        obtain ⟨outstanding⟩ := a₁
        obtain rfl : outstanding = n + made.length := hcounted
        obtain ⟨s', hplain', hrec'⟩ := deallocateAll_recording hk made n s₁ (log ++ spent)
        refine ⟨spent, s', ?_, ?_, ?_⟩
        · simp only [allocateSlots, hplain, hplain']
        · simp only [allocateSlots, hrec, hrec', madeFirst, hplain, List.append_nil]
        · intro owed
          simp only [madeFirst, hplain]
          exact allSpent_owed hspent owed

/-- Up to two buffers are the same in either order exactly if there is no second other buffer. -/
theorem eq_reverse_iff {made : List Buffer} (h : made.length ≤ 2) :
    made = made.reverse ↔ made.length ≤ 1 ∨ ¬ made.Nodup := by
  match made, h with
  | [], _ => simp
  | [_], _ => simp
  | [first, second], _ => simp [eq_comm]

/-- **A failed swapchain is given up in the order it was made.** For every device, renderer and
display and whichever allocation fails, the images made before go back, the earliest first, and
the allocator counts as many as before. When it starts to do so only these images are owed, the
latest first: every allocation has undone what of it came to nothing. So all of it is undone in
reverse exactly if there was one image at most, or the device gave out one buffer object twice;
with two images, that is when the third of three fails, it is not. -/
theorem unwound_iff (hk : host.KeepsBuffers) (id : SwapchainId) (q : ImageRequest)
    (flags : SwapchainFlags) (a : Allocator) (s : σ) (log : ActionLog) {e : AllocationError}
    (hfails : firstFailure? host q flags.imageCount a s = some e) :
    let made := madeFirst host q flags.imageCount a s
    ∃ taken s',
      create host id q.width q.height q.fourcc q.modifiers flags a s = (.failed e, a, s') ∧
      create host.recording id q.width q.height q.fourcc q.modifiers flags a (s, log)
        = (.failed e, a, s', log ++ taken ++ closings host.hooked made) ∧
      owed? taken [] = some (closings host.hooked made.reverse) ∧
      made.length < flags.imageCount ∧
      ((taken ++ closings host.hooked made).Unwound ↔ made.length ≤ 1 ∨ ¬ made.Nodup) := by
  intro made
  obtain ⟨taken, s', hplain, hrec, howed⟩ :=
    allocateSlots_unwinds hk id q flags.imageCount [] log (Nat.add_zero a.outstanding).symm hfails
  have howed := howed []
  rw [List.append_nil] at howed
  have hfewer : made.length < flags.imageCount := madeFirst_length_lt q _ hfails
  refine ⟨taken, s', ?_, ?_, howed, hfewer, ?_⟩
  · simp only [create, hplain]
  · simp only [create, hrec, List.map_nil, List.nil_append, made]
  · have htwo : made.length ≤ 2 := by
      have hcount : flags.imageCount ≤ 3 := by
        rw [SwapchainFlags.imageCount]
        split <;> omega
      omega
    rw [ActionLog.Unwound, owed?_append, howed, Option.bind_some, closings_owed_iff, closings_inj]
    exact eq_reverse_iff htwo

/-- A host with a renderer, whose display has room for a number of images. -/
def crampedHost (room : Nat) : Host Nat :=
  { Circulation.plainHost with
    hooks := some {
      create := fun image n => (.ok image, n)
      destroy := fun image n => (image, n) }
    attach := fun image n =>
      if image.id.number < room then (.ok image, n) else (.error .disconnected, n) }

theorem crampedHost_keeps (room : Nat) : (crampedHost room).KeepsBuffers := by
  refine ⟨?_, ?_, ?_, fun _ _ => rfl⟩
  · rintro hooks ⟨⟩ image s image' hok
    rw [Except.ok.inj hok]
  · rintro hooks ⟨⟩ image s
    rfl
  · intro image s image' hok
    simp only [crampedHost] at hok
    split at hok
    · rw [Except.ok.inj hok]
    · exact absurd hok (by simp)

/-- What is asked for in every slot. -/
def modest : ImageRequest :=
  { width := 64, height := 64, fourcc := .xrgb8888, modifiers := [] }

/-- Without room for a second image the first goes back, and all is undone in reverse. -/
theorem single_image_unwound :
    firstFailure? (crampedHost 1) modest 2 {} 0 = some (.importImage .disconnected) ∧
    ∃ s log, create (crampedHost 1).recording ⟨0⟩ 64 64 .xrgb8888 [] ⟨0⟩ {} (0, [])
        = (.failed (.importImage .disconnected), {}, s, log) ∧ log.Unwound := by
  have hfails : firstFailure? (crampedHost 1) modest 2 {} 0
      = some (.importImage .disconnected) := by decide +kernel
  obtain ⟨taken, s, -, hrec, -, -, hiff⟩ :=
    unwound_iff (crampedHost_keeps 1) ⟨0⟩ modest ⟨0⟩ {} 0 [] hfails
  exact ⟨hfails, s, _, hrec, hiff.mpr (.inl (by decide +kernel))⟩

/-- With room for two images of three, the third undoes itself in reverse, and then the first goes
back before the second. -/
theorem pair_undone_forwards :
    let buffer (n : Nat) := (Image.numbered n).buffer
    (crampedHost 2).KeepsBuffers ∧
    firstFailure? (crampedHost 2) modest 3 {} 0 = some (.importImage .disconnected) ∧
    ∃ log, create (crampedHost 2).recording ⟨0⟩ 64 64 .xrgb8888 [] ⟨1⟩ {} (0, [])
        = (.failed (.importImage .disconnected), {}, 3, log) ∧
      log = [(buffer 0, .created), (buffer 0, .imported), (buffer 0, .attached),
        (buffer 1, .created), (buffer 1, .imported), (buffer 1, .attached),
        (buffer 2, .created), (buffer 2, .imported), (buffer 2, .attachRefused),
        (buffer 2, .unimported), (buffer 2, .freed),
        (buffer 0, .detached), (buffer 0, .unimported), (buffer 0, .freed),
        (buffer 1, .detached), (buffer 1, .unimported), (buffer 1, .freed)] ∧
      ¬ log.Unwound := by
  refine ⟨crampedHost_keeps 2, by decide +kernel, _, rfl, by decide +kernel, by decide +kernel⟩

end Swapchain

end Scanout
