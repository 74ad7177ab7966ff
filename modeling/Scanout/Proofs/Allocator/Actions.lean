import Scanout.Proofs.Allocator.Writing

/-!
# What an allocator does to its buffers

A buffer object is made, imported into the renderer and attached to the display, and later
all of that is undone. `Host.recording` is a host that behaves like a given one and writes
down each of these actions, the refused ones too, with the buffer they were done to.

The two calls of an allocator are described by what they add to that list. `allocate_cases`:
a call that succeeds opens the buffer of its image, and all other buffers it made are spent
by then, that is made and undone again; a call that fails leaves spent buffers only.
`deallocate_recording`: giving an image back closes its buffer.
-/

namespace Scanout

variable {σ : Type}

/-- One thing that is done to a buffer object, or was tried. -/
inductive BufferAction where
  | created
  /-- The renderer imported it. -/
  | imported
  | importRefused
  /-- The display imported it. -/
  | attached
  | attachRefused
  | detached
  /-- The renderer let go of it. -/
  | unimported
  | freed
  deriving DecidableEq, Repr

/-- Actions in order, each with the buffer it was done to. -/
abbrev ActionLog := List (Buffer × BufferAction)

/-- Writing down that a buffer was made, if one was. -/
def ActionLog.ofMade {ε : Type} : Outcome ε Buffer → ActionLog
  | .done buffer => [(buffer, .created)]
  | .failed _ | .fault _ => []

/-- Writing down an import into the renderer. -/
def ActionLog.ofImport (buffer : Buffer) : Except Failure Image → ActionLog
  | .ok _ => [(buffer, .imported)]
  | .error _ => [(buffer, .importRefused)]

/-- Writing down an import into the display. -/
def ActionLog.ofAttach (buffer : Buffer) : Except AttachError Image → ActionLog
  | .ok _ => [(buffer, .attached)]
  | .error _ => [(buffer, .attachRefused)]

/-- The hooks with a list of what they did. -/
def Hooks.recording (hooks : Hooks σ) : Hooks (σ × ActionLog) :=
  { create := fun image r =>
      let (result, s) := hooks.create image r.1
      (result, s, r.2 ++ .ofImport image.buffer result)
    destroy := fun image r =>
      let (image', s) := hooks.destroy image r.1
      (image', s, r.2 ++ [(image.buffer, .unimported)]) }

/-- The host with a list of what was done to its buffers. -/
def Host.recording (host : Host σ) : Host (σ × ActionLog) :=
  { createExplicit := fun width height fourcc modifiers r =>
      let (result, s) := host.createExplicit width height fourcc modifiers r.1
      (result, s, r.2 ++ .ofMade result)
    createImplicit := fun width height fourcc usage r =>
      let (result, s) := host.createImplicit width height fourcc usage r.1
      (result, s, r.2 ++ .ofMade result)
    exportBuffer := fun buffer r =>
      let (result, s) := host.exportBuffer buffer r.1
      (result, s, r.2)
    freeBuffer := fun buffer r => (host.freeBuffer buffer r.1, r.2 ++ [(buffer, .freed)])
    nextImageId := fun r =>
      let (id, s) := host.nextImageId r.1
      (id, s, r.2)
    hooks := host.hooks.map Hooks.recording
    attach := fun image r =>
      let (result, s) := host.attach image r.1
      (result, s, r.2 ++ .ofAttach image.buffer result)
    detach := fun image r =>
      let (image', s) := host.detach image r.1
      (image', s, r.2 ++ [(image.buffer, .detached)]) }

/-- Renderer and display keep what they make of an image in its slots; the buffer object it
consists of stays the same. -/
structure Host.KeepsBuffers (host : Host σ) : Prop where
  create : ∀ hooks ∈ host.hooks, ∀ image s image',
    (hooks.create image s).1 = .ok image' → image'.buffer = image.buffer
  destroy : ∀ hooks ∈ host.hooks, ∀ image s, (hooks.destroy image s).1.buffer = image.buffer
  attach : ∀ image s image', (host.attach image s).1 = .ok image' → image'.buffer = image.buffer
  detach : ∀ image s, (host.detach image s).1.buffer = image.buffer

namespace BufferAction

/-- Actions that only take place with a renderer. -/
def rendering (hooked : Bool) (actions : List BufferAction) : List BufferAction :=
  if hooked then actions else []

/-- What was done to the buffer of an image that is out. -/
def opening (hooked : Bool) : List BufferAction :=
  [.created] ++ rendering hooked [.imported] ++ [.attached]

/-- What undoes it, backwards. -/
def closing (hooked : Bool) : List BufferAction :=
  [.detached] ++ rendering hooked [.unimported] ++ [.freed]

/-- What was done to a buffer that never became part of an image that was out. -/
inductive Spent (hooked : Bool) : List BufferAction → Prop where
  /-- Its layout was not asked for, or it could not be exported. -/
  | unused : Spent hooked [.created, .freed]
  | importRefused (renderer : hooked = true) : Spent hooked [.created, .importRefused, .freed]
  | attachRefused :
    Spent hooked ([.created] ++ rendering hooked [.imported] ++ [.attachRefused]
      ++ rendering hooked [.unimported] ++ [.freed])

/-- The actions on the buffers of one call that all came to nothing. -/
inductive AllSpent (hooked : Bool) : ActionLog → Prop where
  | nil : AllSpent hooked []
  | append {log : ActionLog} {actions : List BufferAction} (before : AllSpent hooked log)
      (buffer : Buffer) (spent : Spent hooked actions) :
    AllSpent hooked (log ++ actions.map (buffer, ·))

theorem AllSpent.single {hooked : Bool} {actions : List BufferAction} (buffer : Buffer)
    (h : Spent hooked actions) : AllSpent hooked (actions.map (buffer, ·)) :=
  AllSpent.nil.append buffer h

theorem AllSpent.trans {hooked : Bool} {log more : ActionLog} (h : AllSpent hooked log)
    (h' : AllSpent hooked more) : AllSpent hooked (log ++ more) := by
  induction h' with
  | nil => rwa [List.append_nil]
  | append _ buffer spent ih =>
    rw [← List.append_assoc]
    exact ih.append buffer spent

end BufferAction

open BufferAction

namespace Host

variable {host : Host σ}

/-- Whether a renderer imports the images. -/
def hooked (host : Host σ) : Bool := host.hooks.isSome

section

variable (host) (r : σ × ActionLog)

@[simp] theorem recording_createExplicit (width height : UInt32) (fourcc : Fourcc)
    (modifiers : List Modifier) :
    host.recording.createExplicit width height fourcc modifiers r
      = ((host.createExplicit width height fourcc modifiers r.1).1,
        (host.createExplicit width height fourcc modifiers r.1).2,
        r.2 ++ .ofMade (host.createExplicit width height fourcc modifiers r.1).1) := rfl

@[simp] theorem recording_createImplicit (width height : UInt32) (fourcc : Fourcc)
    (usage : BufferUsage) :
    host.recording.createImplicit width height fourcc usage r
      = ((host.createImplicit width height fourcc usage r.1).1,
        (host.createImplicit width height fourcc usage r.1).2,
        r.2 ++ .ofMade (host.createImplicit width height fourcc usage r.1).1) := rfl

@[simp] theorem recording_exportBuffer (buffer : Buffer) :
    host.recording.exportBuffer buffer r
      = ((host.exportBuffer buffer r.1).1, (host.exportBuffer buffer r.1).2, r.2) := rfl

@[simp] theorem recording_freeBuffer (buffer : Buffer) :
    host.recording.freeBuffer buffer r
      = (host.freeBuffer buffer r.1, r.2 ++ [(buffer, .freed)]) := rfl

@[simp] theorem recording_nextImageId :
    host.recording.nextImageId r = ((host.nextImageId r.1).1, (host.nextImageId r.1).2, r.2) := rfl

@[simp] theorem recording_attach (image : Image) :
    host.recording.attach image r
      = ((host.attach image r.1).1, (host.attach image r.1).2,
        r.2 ++ .ofAttach image.buffer (host.attach image r.1).1) := rfl

@[simp] theorem recording_detach (image : Image) :
    host.recording.detach image r
      = ((host.detach image r.1).1, (host.detach image r.1).2,
        r.2 ++ [(image.buffer, .detached)]) := rfl

end

/-! ## The steps of an allocation -/

section

variable (host) (width height : UInt32) (fourcc : Fourcc) (requested : List Modifier) (s : σ)
  (log : ActionLog)

theorem recording_writes : host.Writes host.recording (·, .created) (·, .freed) where
  createExplicit := by
    intro width height fourcc modifiers s log
    rw [recording_createExplicit]
    rcases host.createExplicit width height fourcc modifiers s with ⟨_ | _ | _, _⟩ <;> rfl
  createImplicit := by
    intro width height fourcc usage s log
    rw [recording_createImplicit]
    rcases host.createImplicit width height fourcc usage s with ⟨_ | _ | _, _⟩ <;> rfl
  freeBuffer := fun _ _ _ => rfl

/-- A buffer that was made and freed at once is spent. -/
theorem allSpent_unused (buffers : List Buffer) :
    AllSpent host.hooked
      (buffers.flatMap fun buffer => [(buffer, BufferAction.created), (buffer, .freed)]) := by
  induction buffers with
  | nil => exact .nil
  | cons buffer rest ih => exact (AllSpent.single buffer .unused).trans ih

theorem createBuffer_recording :
    ∃ spent, AllSpent host.hooked spent ∧
      host.recording.createBuffer width height fourcc requested (s, log)
        = ((host.createBuffer width height fourcc requested s).1,
          (host.createBuffer width height fourcc requested s).2,
          log ++ spent ++ .ofMade (host.createBuffer width height fourcc requested s).1) := by
  obtain ⟨buffers, hrec⟩ :=
    host.recording_writes.createBuffer width height fourcc requested s log
  refine ⟨_, host.allSpent_unused buffers, hrec.trans ?_⟩
  rcases host.createBuffer width height fourcc requested s with ⟨_ | _ | _, _⟩ <;> rfl

end

/-! ## Importing -/

section

variable (hk : host.KeepsBuffers) (image : Image) (s : σ) (log : ActionLog)

include hk in
/-- The renderer imports the image, or refuses it. Without a renderer nothing is done. -/
theorem hookCreate_recording :
    (∃ image', (host.hookCreate image s).1 = .ok image' ∧ image'.buffer = image.buffer ∧
      host.recording.hookCreate image (s, log)
        = (.ok image', (host.hookCreate image s).2,
          log ++ (rendering host.hooked [.imported]).map (image.buffer, ·))) ∨
    (∃ e, (host.hookCreate image s).1 = .error e ∧ host.hooked = true ∧
      host.recording.hookCreate image (s, log)
        = (.error e, (host.hookCreate image s).2, log ++ [(image.buffer, .importRefused)])) := by
  cases hhooks : host.hooks with
  | none =>
    refine .inl ⟨image, by simp [hookCreate, hhooks], rfl, ?_⟩
    simp [hookCreate, recording, hhooks, hooked, rendering]
  | some hooks =>
    rcases hcreate : hooks.create image s with ⟨e | image', s'⟩
    · refine .inr ⟨e, by simp [hookCreate, hhooks, hcreate], by simp [hooked, hhooks], ?_⟩
      simp [hookCreate, recording, Hooks.recording, hhooks, hcreate, ActionLog.ofImport]
    · have hsame : image'.buffer = image.buffer :=
        hk.create hooks hhooks image s image' (by rw [hcreate])
      refine .inl ⟨image', by simp [hookCreate, hhooks, hcreate], hsame, ?_⟩
      simp [hookCreate, recording, Hooks.recording, hhooks, hcreate, ActionLog.ofImport, hooked,
        rendering]

include hk in
/-- The renderer lets go of the image. Without a renderer nothing is done. -/
theorem hookDestroy_recording :
    (host.hookDestroy image s).1.buffer = image.buffer ∧
    host.recording.hookDestroy image (s, log)
      = ((host.hookDestroy image s).1, (host.hookDestroy image s).2,
        log ++ (rendering host.hooked [.unimported]).map (image.buffer, ·)) := by
  cases hhooks : host.hooks with
  | none => simp [hookDestroy, recording, hhooks, hooked, rendering]
  | some hooks =>
    refine ⟨?_, ?_⟩
    · simpa [hookDestroy, hhooks] using hk.destroy hooks hhooks image s
    · simp [hookDestroy, recording, Hooks.recording, hhooks, hooked, rendering]

include hk in
/-- The import of an image that was just made opens its buffer, or undoes itself and leaves
the buffer spent. -/
theorem importImage_recording :
    ∃ actions,
      host.recording.importImage image (s, log)
        = ((host.importImage image s).1, (host.importImage image s).2,
          log ++ actions.map (image.buffer, ·)) ∧
      ((∃ image', (host.importImage image s).1 = .ok image' ∧ image'.buffer = image.buffer ∧
          .created :: actions = opening host.hooked) ∨
        ((∃ e, (host.importImage image s).1 = .error e) ∧
          Spent host.hooked (.created :: actions))) := by
  rcases host.hookCreate_recording hk image s log with
    ⟨image₁, hfirst, hsame₁, hrec₁⟩ | ⟨e, hfirst, hhooked, hrec₁⟩
  · obtain ⟨s₁, hs₁⟩ : ∃ s₁, host.hookCreate image s = (.ok image₁, s₁) :=
      ⟨_, Prod.ext hfirst rfl⟩
    rw [hs₁] at hrec₁
    rcases hattach : host.attach image₁ s₁ with ⟨e | image₂, s₂⟩
    · -- the display refuses the image, so the renderer lets go of it again
      have hsame₂ := (host.hookDestroy_recording hk image₁ s₂ log).1
      have hrec₂ := fun log => (host.hookDestroy_recording hk image₁ s₂ log).2
      refine ⟨rendering host.hooked [.imported] ++ [.attachRefused]
        ++ rendering host.hooked [.unimported] ++ [.freed], ?_, .inr ⟨?_, ?_⟩⟩
      · simp [importImage, hs₁, hrec₁, hattach, hrec₂, dropImage, ActionLog.ofAttach, hsame₁,
          hsame₂]
      · exact ⟨.importImage e, by simp [importImage, hs₁, hattach]⟩
      · have hrefused : Spent host.hooked _ := .attachRefused
        simpa using hrefused
    · have hsame₂ : image₂.buffer = image₁.buffer :=
        hk.attach image₁ s₁ image₂ (by rw [hattach])
      refine ⟨rendering host.hooked [.imported] ++ [.attached], ?_, .inl ⟨image₂, ?_, ?_, ?_⟩⟩
      · simp [importImage, hs₁, hrec₁, hattach, ActionLog.ofAttach, hsame₁]
      · simp [importImage, hs₁, hattach]
      · rw [hsame₂, hsame₁]
      · simp [opening]
  · obtain ⟨s₁, hs₁⟩ : ∃ s₁, host.hookCreate image s = (.error e, s₁) :=
      ⟨_, Prod.ext hfirst rfl⟩
    rw [hs₁] at hrec₁
    refine ⟨[.importRefused, .freed], ?_, .inr ⟨?_, .importRefused hhooked⟩⟩
    · simp [importImage, hs₁, hrec₁, dropImage]
    · exact ⟨.renderer e, by simp [importImage, hs₁]⟩

end

end Host

namespace Allocator

/-- The image a call hands out, if it does. -/
def handedOut : Outcome AllocationError Image → List Image
  | .done image => [image]
  | .failed _ | .fault _ => []

/-- Asked for an image, an allocator counts one more exactly if it hands one out. -/
theorem allocate_outstanding {host : Host σ} {width height : UInt32} {fourcc : Fourcc}
    {modifiers : List Modifier} {a a' : Allocator} {s s' : σ}
    {outcome : Outcome AllocationError Image}
    (h : allocate host width height fourcc modifiers a s = (outcome, a', s')) :
    a'.outstanding = a.outstanding + (handedOut outcome).length := by
  unfold allocate at h
  repeat' split at h
  all_goals
    simp only [Prod.mk.injEq] at h
    obtain ⟨rfl, rfl, -⟩ := h
    rfl

variable {host : Host σ} (hk : host.KeepsBuffers)

include hk

/-- **What an allocation leaves.** Recording changes nothing else. A call that succeeds opens
the buffer of its image, one that fails changes no count, and every other buffer that was
made on the way is spent. -/
theorem allocate_cases (width height : UInt32) (fourcc : Fourcc) (requested : List Modifier)
    (a : Allocator) (s : σ) (log : ActionLog) :
    ∃ outcome a' s' spent, AllSpent host.hooked spent ∧
      allocate host width height fourcc requested a s = (outcome, a', s') ∧
      ((∃ image, outcome = .done image ∧ a'.outstanding = a.outstanding + 1 ∧
          allocate host.recording width height fourcc requested a (s, log)
            = (outcome, a', s',
              log ++ spent ++ (opening host.hooked).map (image.buffer, ·))) ∨
        ((∀ image, outcome ≠ .done image) ∧ a' = a ∧
          allocate host.recording width height fourcc requested a (s, log)
            = (outcome, a', s', log ++ spent))) := by
  by_cases hsize : width = 0 ∨ height = 0
  · refine ⟨.failed (.invalidSize width height), a, s, [], .nil, ?_, .inr ⟨by simp, rfl, ?_⟩⟩
    · simp [allocate, hsize]
    · simp [allocate, hsize]
  obtain ⟨spent, hspent, hrec⟩ := host.createBuffer_recording width height fourcc requested s log
  rcases hmade : host.createBuffer width height fourcc requested s with ⟨buffer | e | f, s₁⟩
  · rcases hexport : host.exportBuffer buffer s₁ with ⟨e | dmabuf, s₂⟩
    · refine ⟨.failed (.exportBuffer e), a, host.freeBuffer buffer s₂,
        spent ++ [.created, .freed].map (buffer, ·), hspent.append buffer .unused, ?_,
        .inr ⟨by simp, rfl, ?_⟩⟩
      · simp only [allocate, if_neg hsize, hmade, hexport]
      · simp [allocate, hsize, hrec, hmade, hexport, ActionLog.ofMade]
    · rcases hid : host.nextImageId s₂ with ⟨id, s₃⟩
      obtain ⟨actions, hrec₂, hcases⟩ := host.importImage_recording hk
        { id := id, dmabuf := dmabuf, buffer := buffer } s₃ (log ++ (spent ++ [(buffer, .created)]))
      rcases himport : host.importImage { id := id, dmabuf := dmabuf, buffer := buffer } s₃ with
        ⟨e | image, s₄⟩
      · have hspent₂ : Spent host.hooked (.created :: actions) := by
          rcases hcases with ⟨image, hok, -⟩ | ⟨-, hspent₂⟩
          · rw [himport] at hok
            exact absurd hok (by simp)
          · exact hspent₂
        refine ⟨.failed e, a, s₄, spent ++ (BufferAction.created :: actions).map (buffer, ·),
          hspent.append buffer hspent₂, ?_, .inr ⟨by simp, rfl, ?_⟩⟩
        · simp only [allocate, if_neg hsize, hmade, hexport, hid, himport]
        · simp [allocate, hsize, hrec, hmade, hexport, hid, hrec₂, himport, ActionLog.ofMade]
      · obtain ⟨hsame, hopening⟩ : image.buffer = buffer ∧
            .created :: actions = opening host.hooked := by
          rcases hcases with ⟨image', hok, hsame, hopening⟩ | ⟨⟨e, herror⟩, -⟩
          · rw [himport] at hok
            obtain rfl := Except.ok.inj hok
            exact ⟨hsame, hopening⟩
          · rw [himport] at herror
            exact absurd herror (by simp)
        refine ⟨.done image, { outstanding := a.outstanding + 1 }, s₄, spent, hspent, ?_,
          .inl ⟨image, rfl, rfl, ?_⟩⟩
        · simp only [allocate, if_neg hsize, hmade, hexport, hid, himport]
        · simp [allocate, hsize, hrec, hmade, hexport, hid, hrec₂, himport, ActionLog.ofMade,
              hsame, ← hopening]
  · refine ⟨.failed e, a, s₁, spent, hspent, ?_, .inr ⟨by simp, rfl, ?_⟩⟩
    · simp only [allocate, if_neg hsize, hmade]
    · simp [allocate, hsize, hrec, hmade, ActionLog.ofMade]
  · refine ⟨.fault f, a, s₁, spent, hspent, ?_, .inr ⟨by simp, rfl, ?_⟩⟩
    · simp only [allocate, if_neg hsize, hmade]
    · simp [allocate, hsize, hrec, hmade, ActionLog.ofMade]

/-- Giving an image back closes its buffer, and recording that changes nothing else. -/
theorem deallocate_recording (image : Image) (a : Allocator) (s : σ) (log : ActionLog) :
    deallocate host.recording image a (s, log)
      = ((deallocate host image a s).1, (deallocate host image a s).2.1,
        (deallocate host image a s).2.2,
        log ++ (closing host.hooked).map (image.buffer, ·)) := by
  rcases hdetach : host.detach image s with ⟨image₁, s₁⟩
  have hsame₁ : image₁.buffer = image.buffer := by
    rw [← hk.detach image s, hdetach]
  have hrec := fun log => (host.hookDestroy_recording hk image₁ s₁ log).2
  have hsame₂ := (host.hookDestroy_recording hk image₁ s₁ log).1
  cases hout : a.outstanding <;>
    simp [deallocate, hdetach, hrec, hsame₁, hsame₂, Host.dropImage, hout, closing]

end Allocator

end Scanout
