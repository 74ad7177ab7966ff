import Scanout.Output.Scheduler

/-!
# A scheduler turn by turn

Everything that can be said about a run of a scheduler is said about what is
seen of it from outside: the calls made on it, what it asks of its surface and
the events it queues. `Turn` is one such observation, and a `Course` is a run
with all of its turns.

`Effect` lists every way a call can go, one rule for each, and `perform_effect`
shows that there is no other: the laws of pacing are proved by going through
the rules and never look into the operations again. The surface is an arbitrary
one throughout; `Surface.recording` only adds the list of what it was asked, which
the scheduler does not notice.
-/

namespace Scanout

variable {σ : Type}

/-- One use a scheduler makes of its surface, with the surface's answer. -/
inductive SurfaceCall where
  | present (image : Image) (answer : Outcome Failure Unit)
  | cancel
  deriving DecidableEq, Repr

/-- The surface with a list of how it was used. -/
def Surface.recording (surface : Surface σ) : Surface (σ × List SurfaceCall) :=
  { present := fun image r =>
      let (answer, s) := surface.present image r.1
      (answer, s, r.2 ++ [.present image answer])
    cancel := fun r => (surface.cancel r.1, r.2 ++ [.cancel]) }

/-- A surface that always answers, with success or with failure. -/
def Surface.Answers (surface : Surface σ) : Prop :=
  ∀ image s e, (surface.present image s).1 ≠ .fault e

/-- Using a surface like this takes it from one state to another. -/
def Surface.Used (surface : Surface σ) : List SurfaceCall → σ → σ → Prop
  | [], s, s' => s' = s
  | .present image answer :: rest, s, s' =>
    (surface.present image s).1 = answer ∧ surface.Used rest (surface.present image s).2 s'
  | .cancel :: rest, s, s' => surface.Used rest (surface.cancel s) s'

theorem Surface.Used.gave {surface : Surface σ} {image : Image} {answer : Outcome Failure Unit} :
    ∀ {asked : List SurfaceCall} {s s' : σ}, surface.Used asked s s' →
      .present image answer ∈ asked → ∃ s, (surface.present image s).1 = answer := by
  intro asked
  induction asked with
  | nil => intro s s' _ hmem; exact absurd hmem List.not_mem_nil
  | cons a rest ih =>
    intro s s' h hmem
    cases a with
    | present image' answer' =>
      rcases List.mem_cons.mp hmem with heq | hmem
      · obtain ⟨rfl, rfl⟩ := SurfaceCall.present.inj heq
        exact ⟨s, h.1⟩
      · exact ih h.2 hmem
    | cancel =>
      rcases List.mem_cons.mp hmem with heq | hmem
      · exact absurd heq (by simp)
      · exact ih h hmem

/-- A surface that shows one image, refuses the next, and so on. -/
def Surface.fickle : Surface Nat :=
  { present := fun _ n => (if n % 2 = 0 then .done () else .failed { message := "busy" }, n + 1)
    cancel := id }

/-- A small image, told from others by its number. -/
def Image.numbered (n : Nat) : Image :=
  { id := ⟨n⟩
    dmabuf := {
      width := 64, height := 64, format := ⟨.xrgb8888, .linear⟩, flags := .none
      planes := [⟨.null, 0, 0, 256⟩] }
    buffer := .device 0 n 64 64 ⟨.xrgb8888, .linear⟩ }

namespace FrameScheduler

/-- A call on a scheduler. -/
inductive Call where
  | schedule (image : Image)
  | frameDone
  | bufferReleased (id : ImageId)
  | modeChanged (mode : Mode)
  | takeEvents
  | destroy
  deriving DecidableEq, Repr

/-- The scheduler and its surface after a call. -/
def Call.perform (surface : Surface σ) : Call → FrameScheduler → σ → FrameScheduler × σ
  | schedule image, f, s => (f.schedule surface image s).2
  | frameDone, f, s => (f.frameDone surface s).2
  | bufferReleased id, f, s => ((f.bufferReleased id).2, s)
  | modeChanged mode, f, s => (f.modeChanged mode, s)
  | takeEvents, f, s => (f.takeEvents.2, s)
  | destroy, f, s => f.destroy surface s

/-- What is seen of one call: the call, what it asked of the surface and the
events it queued, both in order. -/
structure Turn where
  call : Call
  asked : List SurfaceCall
  queued : List OutputEvent
  deriving DecidableEq, Repr

namespace Turn

/-- The image a turn hands to the scheduler, if it is one that does. -/
def handedIn (t : Turn) : List Image :=
  match t.call with
  | .schedule image => [image]
  | _ => []

/-- The images a turn commits to the surface. -/
def committed (t : Turn) : List Image :=
  t.asked.filterMap fun
    | .present image (.done _) => some image
    | _ => none

/-- The images a turn loses because presenting them broke a contract. -/
def lost (t : Turn) : List Image :=
  t.asked.filterMap fun
    | .present image (.fault _) => some image
    | _ => none

end Turn

/-- The images that wait or are presented. -/
def kept (f : FrameScheduler) : List Image :=
  f.pending.toList ++ f.presented

/-- Every way a call can go: the scheduler before it, what is seen of it, and the
scheduler after it. -/
inductive Effect (f : FrameScheduler) : Turn → FrameScheduler → Prop where
  /-- Nothing was in flight, and the surface shows the image. -/
  | shown (image : Image) (idle : f.armed = false) :
    Effect f ⟨.schedule image, [.present image (.done ())], []⟩
      { f with armed := true, presented := f.presented ++ [image] }
  | refused (image : Image) (e : Failure) (idle : f.armed = false) :
    Effect f ⟨.schedule image, [.present image (.failed e)], [.released image]⟩
      { f with events := f.events ++ [.released image] }
  | lost (image : Image) (e : Fault) (idle : f.armed = false) :
    Effect f ⟨.schedule image, [.present image (.fault e)], []⟩ f
  /-- A frame is in flight, and the image takes the place of the one that waited. -/
  | queued (image : Image) (busy : f.armed = true) :
    Effect f ⟨.schedule image, [], f.pending.toList.map .released⟩
      { f with
        pending := some image
        events := f.events ++ f.pending.toList.map .released }
  /-- A completion without a frame in flight. -/
  | ignored (idle : f.armed = false) : Effect f ⟨.frameDone, [], []⟩ f
  | completed (busy : f.armed = true) (empty : f.pending = none) :
    Effect f ⟨.frameDone, [], [.frame]⟩ { f with armed := false, events := f.events ++ [.frame] }
  /-- The waiting image follows the frame that was completed. -/
  | followed (image : Image) (busy : f.armed = true) (waiting : f.pending = some image) :
    Effect f ⟨.frameDone, [.present image (.done ())], [.frame]⟩
      { f with
        pending := none
        presented := f.presented ++ [image]
        events := f.events ++ [.frame] }
  | followerRefused (image : Image) (e : Failure) (busy : f.armed = true)
      (waiting : f.pending = some image) :
    Effect f ⟨.frameDone, [.present image (.failed e)], [.released image, .frame]⟩
      { f with
        armed := false
        pending := none
        events := f.events ++ [.released image, .frame] }
  | followerLost (image : Image) (e : Fault) (busy : f.armed = true)
      (waiting : f.pending = some image) :
    Effect f ⟨.frameDone, [.present image (.fault e)], []⟩
      { f with armed := false, pending := none }
  /-- The first presented image with the identifier comes back. -/
  | returned (image : Image) (before after : List Image)
      (split : f.presented = before ++ image :: after)
      (first : ∀ other ∈ before, other.id ≠ image.id) :
    Effect f ⟨.bufferReleased image.id, [], [.released image]⟩
      { f with
        presented := before ++ after
        events := f.events ++ [.released image] }
  | unknown (id : ImageId) (absent : ∀ image ∈ f.presented, image.id ≠ id) :
    Effect f ⟨.bufferReleased id, [], []⟩ f
  | resized (mode : Mode) :
    Effect f ⟨.modeChanged mode, [], [.mode mode]⟩ { f with events := f.events ++ [.mode mode] }
  | told : Effect f ⟨.takeEvents, [], []⟩ { f with events := [] }
  | ended :
    Effect f
      ⟨.destroy, if f.armed then [.cancel] else [], f.kept.map .released ++ [.destroyed]⟩
      { events := f.events ++ (f.kept.map .released ++ [.destroyed]) }

/-! ## The images in events -/

@[simp] theorem eventImages_nil : eventImages [] = [] := rfl

@[simp] theorem eventImages_append (es es' : List OutputEvent) :
    eventImages (es ++ es') = eventImages es ++ eventImages es' :=
  List.filterMap_append

@[simp] theorem eventImages_map_released (images : List Image) :
    eventImages (images.map .released) = images := by
  induction images with
  | nil => rfl
  | cons image rest ih => exact congrArg (image :: ·) ih

@[simp] theorem eventImages_released (image : Image) (es : List OutputEvent) :
    eventImages (.released image :: es) = image :: eventImages es := rfl

@[simp] theorem eventImages_frame (es : List OutputEvent) :
    eventImages (.frame :: es) = eventImages es := rfl

@[simp] theorem eventImages_mode (mode : Mode) (es : List OutputEvent) :
    eventImages (.mode mode :: es) = eventImages es := rfl

@[simp] theorem eventImages_destroyed (es : List OutputEvent) :
    eventImages (.destroyed :: es) = eventImages es := rfl

/-! ## The rules cover the operations -/

/-- A recording surface answers as the surface does, and writes the answer down. -/
theorem present_recording {surface : Surface σ} {image : Image} {s s' : σ}
    {answer : Outcome Failure Unit} (h : surface.present image s = (answer, s'))
    (log : List SurfaceCall) :
    surface.recording.present image (s, log) = (answer, s', log ++ [.present image answer]) := by
  simp [Surface.recording, h]

theorem schedule_effect (surface : Surface σ) (image : Image) (f : FrameScheduler) (s : σ)
    (log : List SurfaceCall) :
    ∃ asked queued,
      (f.schedule surface.recording image (s, log)).2
        = ((f.schedule surface image s).2.1, (f.schedule surface image s).2.2, log ++ asked) ∧
      surface.Used asked s (f.schedule surface image s).2.2 ∧
      Effect f ⟨.schedule image, asked, queued⟩ (f.schedule surface image s).2.1 := by
  cases ha : f.armed with
  | true =>
    -- behind a frame in flight the surface is not asked at all
    refine ⟨[], f.pending.toList.map .released, by simp [schedule, ha],
      by simp [schedule, ha, Surface.Used], ?_⟩
    have hf : (f.schedule surface image s).2.1
        = { f with
            pending := some image
            events := f.events ++ f.pending.toList.map .released } := by
      cases hw : f.pending <;> simp [schedule, ha, hw]
    rw [hf]
    exact .queued image ha
  | false =>
    -- with nothing in flight it is asked at once, and may answer in three ways
    rcases hp : surface.present image s with ⟨_ | e | e, s'⟩
    · refine ⟨[.present image (.done ())], [], ?_, ?_, ?_⟩
      · simp [schedule, ha, commit, hp, present_recording hp]
      · simp [schedule, ha, commit, hp, Surface.Used]
      · simpa [schedule, ha, commit, hp] using Effect.shown image ha
    · refine ⟨[.present image (.failed e)], [.released image], ?_, ?_, ?_⟩
      · simp [schedule, ha, commit, hp, present_recording hp]
      · simp [schedule, ha, commit, hp, Surface.Used]
      · simpa [schedule, ha, commit, hp, push] using Effect.refused image e ha
    · refine ⟨[.present image (.fault e)], [], ?_, ?_, ?_⟩
      · simp [schedule, ha, commit, hp, present_recording hp]
      · simp [schedule, ha, commit, hp, Surface.Used]
      · simpa [schedule, ha, commit, hp] using Effect.lost image e ha

theorem frameDone_effect (surface : Surface σ) (f : FrameScheduler) (s : σ)
    (log : List SurfaceCall) :
    ∃ asked queued,
      (f.frameDone surface.recording (s, log)).2
        = ((f.frameDone surface s).2.1, (f.frameDone surface s).2.2, log ++ asked) ∧
      surface.Used asked s (f.frameDone surface s).2.2 ∧
      Effect f ⟨.frameDone, asked, queued⟩ (f.frameDone surface s).2.1 := by
  cases ha : f.armed with
  | false =>
    refine ⟨[], [], by simp [frameDone, ha],
      by simp [frameDone, ha, Surface.Used], ?_⟩
    simpa [frameDone, ha] using Effect.ignored ha
  | true =>
    cases hw : f.pending with
    | none =>
      refine ⟨[], [.frame], by simp [frameDone, ha, hw],
        by simp [frameDone, ha, hw, Surface.Used], ?_⟩
      simpa [frameDone, ha, hw, push] using Effect.completed ha hw
    | some image =>
      -- the completion commits the waiting image, and the surface may answer in three ways
      rcases hp : surface.present image s with ⟨_ | e | e, s'⟩
      · refine ⟨[.present image (.done ())], [.frame], ?_, ?_, ?_⟩
        · simp [frameDone, ha, hw, commit, hp, present_recording hp]
        · simp [frameDone, ha, hw, commit, hp, Surface.Used]
        · simpa [frameDone, ha, hw, commit, hp, push] using Effect.followed image ha hw
      · refine ⟨[.present image (.failed e)], [.released image, .frame], ?_, ?_, ?_⟩
        · simp [frameDone, ha, hw, commit, hp, present_recording hp]
        · simp [frameDone, ha, hw, commit, hp, Surface.Used]
        · simpa [frameDone, ha, hw, commit, hp, push] using Effect.followerRefused image e ha hw
      · refine ⟨[.present image (.fault e)], [], ?_, ?_, ?_⟩
        · simp [frameDone, ha, hw, commit, hp, present_recording hp]
        · simp [frameDone, ha, hw, commit, hp, Surface.Used]
        · simpa [frameDone, ha, hw, commit, hp] using Effect.followerLost image e ha hw

/-- The first presented image with the identifier is the one that comes back. -/
theorem bufferReleased_first {f : FrameScheduler} {image : Image} {before after : List Image}
    (hsplit : f.presented = before ++ image :: after)
    (hfirst : ∀ other ∈ before, other.id ≠ image.id) :
    f.bufferReleased image.id
      = (true, { f with
          presented := before ++ after
          events := f.events ++ [.released image] }) := by
  have hfind : f.presented.find? (·.id = image.id) = some image :=
    List.find?_eq_some_iff_append.mpr
      ⟨by simp, before, after, hsplit, by simpa using hfirst⟩
  have herase : f.presented.eraseP (·.id = image.id) = before ++ after := by
    rw [hsplit, List.eraseP_append_right _ (by simpa using hfirst)]
    simp
  simp [bufferReleased, hfind, herase]

/-- The release of an image that is not presented is no concern of the scheduler. -/
theorem bufferReleased_absent {f : FrameScheduler} {id : ImageId}
    (habsent : ∀ image ∈ f.presented, image.id ≠ id) : f.bufferReleased id = (false, f) := by
  have hfind : f.presented.find? (·.id = id) = none := by simpa using habsent
  simp [bufferReleased, hfind]

theorem bufferReleased_effect (id : ImageId) (f : FrameScheduler) :
    ∃ queued, Effect f ⟨.bufferReleased id, [], queued⟩ (f.bufferReleased id).2 := by
  cases hfind : f.presented.find? (·.id = id) with
  | none =>
    have habsent : ∀ image ∈ f.presented, image.id ≠ id := by simpa using hfind
    exact ⟨[], by simpa [bufferReleased_absent habsent] using Effect.unknown id habsent⟩
  | some image =>
    obtain ⟨hid, before, after, hsplit, hbefore⟩ := List.find?_eq_some_iff_append.mp hfind
    obtain rfl : image.id = id := by simpa using hid
    have hfirst : ∀ other ∈ before, other.id ≠ image.id := by simpa using hbefore
    refine ⟨[.released image], ?_⟩
    rw [bufferReleased_first hsplit hfirst]
    exact .returned image before after hsplit hfirst

/-- Every call goes by one of the rules and uses the surface as it says, and recording what
it asks of the surface changes nothing else. -/
theorem perform_effect (surface : Surface σ) (call : Call) (f : FrameScheduler) (s : σ)
    (log : List SurfaceCall) :
    ∃ asked queued,
      call.perform surface.recording f (s, log)
        = ((call.perform surface f s).1, (call.perform surface f s).2, log ++ asked) ∧
      surface.Used asked s (call.perform surface f s).2 ∧
      Effect f ⟨call, asked, queued⟩ (call.perform surface f s).1 := by
  cases call with
  | schedule image => exact schedule_effect surface image f s log
  | frameDone => exact frameDone_effect surface f s log
  | bufferReleased id =>
    obtain ⟨queued, h⟩ := bufferReleased_effect id f
    exact ⟨[], queued, by simp [Call.perform], rfl, h⟩
  | modeChanged mode => exact ⟨[], _, by simp [Call.perform], rfl, .resized mode⟩
  | takeEvents => exact ⟨[], _, by simp [Call.perform], rfl, .told⟩
  | destroy =>
    refine ⟨if f.armed then [.cancel] else [], f.kept.map .released ++ [.destroyed], ?_, ?_, ?_⟩
    · cases ha : f.armed <;> simp [Call.perform, destroy, Surface.recording, ha]
    · cases ha : f.armed <;> simp [Call.perform, destroy, Surface.Used, ha]
    · simpa [Call.perform, destroy, kept] using Effect.ended (f := f)

/-- Events are only ever added at the end, except when they are handed over. -/
theorem Effect.events_eq {f f' : FrameScheduler} {t : Turn} (h : Effect f t f')
    (hcall : t.call ≠ .takeEvents) : f'.events = f.events ++ t.queued := by
  cases h with
  | told => exact absurd rfl hcall
  | shown | lost | ignored | followerLost | unknown => exact (List.append_nil _).symm
  | refused | queued | completed | followed | followerRefused | returned | resized | ended => rfl

/-- Handing the events over leaves none behind, and changes nothing else. -/
theorem Effect.eq_of_take {f f' : FrameScheduler} {t : Turn} (h : Effect f t f')
    (hcall : t.call = .takeEvents) : t = ⟨.takeEvents, [], []⟩ ∧ f' = { f with events := [] } := by
  cases h with
  | told => exact ⟨rfl, rfl⟩
  | _ => exact absurd hcall (by simp)

/-- What a turn queued is what the scheduler's events grew by. -/
theorem Effect.drop_events {f f' : FrameScheduler} {t : Turn} (h : Effect f t f') :
    f'.events.drop f.events.length = t.queued := by
  by_cases hcall : t.call = .takeEvents
  · obtain ⟨rfl, rfl⟩ := h.eq_of_take hcall
    exact List.drop_nil
  · rw [h.events_eq hcall, List.drop_left]

/-- A turn asks the surface for one thing at most. -/
theorem Effect.asked_cases {f f' : FrameScheduler} {t : Turn} (h : Effect f t f') :
    t.asked = [] ∨ t.asked = [.cancel] ∨ ∃ image answer, t.asked = [.present image answer] := by
  cases h with
  | shown | refused | lost | followed | followerRefused | followerLost =>
    exact .inr (.inr ⟨_, _, rfl⟩)
  | ended =>
    cases f.armed with
    | true => exact .inr (.inl rfl)
    | false => exact .inl rfl
  | _ => exact .inl rfl

/-- A turn presents what it commits. -/
theorem Effect.committed_subset {f f' : FrameScheduler} {t : Turn} (h : Effect f t f') :
    ∀ image ∈ t.committed, image ∈ f'.presented := by
  cases h with
  | shown image | followed image =>
    intro other ho
    obtain rfl : other = image := by simpa [Turn.committed] using ho
    simp
  | ended =>
    intro other ho
    cases ha : f.armed <;> simp [Turn.committed, ha] at ho
  | _ => exact fun other ho => absurd ho (by simp [Turn.committed])

/-- While the output lives, only its display's release gives a presented image back; the
other images given back were just handed in, or waited. -/
theorem Effect.released_cases {f f' : FrameScheduler} {t : Turn} (h : Effect f t f')
    {image : Image} (himage : .released image ∈ t.queued) :
    t.call = .destroy ∨ t.call = .bufferReleased image.id ∨ image ∈ t.handedIn ∨
      image ∈ f.pending.toList := by
  cases h with
  | refused other =>
    obtain rfl : image = other := by simpa using himage
    exact .inr (.inr (.inl (by simp [Turn.handedIn])))
  | queued =>
    refine .inr (.inr (.inr ?_))
    simpa using himage
  | followerRefused other e _ hw =>
    obtain rfl : image = other := by simpa using himage
    exact .inr (.inr (.inr (by simp [hw])))
  | returned other =>
    obtain rfl : image = other := by simpa using himage
    exact .inr (.inl rfl)
  | ended => exact .inl rfl
  | _ => simp at himage

/-! ## Courses -/

/-- A run of a scheduler: where it stands, the events its owner has taken so far,
and every turn it took. -/
structure Course (σ : Type) where
  scheduler : FrameScheduler := {}
  surface : σ
  taken : List OutputEvent := []
  turns : List Turn := []
  deriving DecidableEq, Repr

namespace Course

def start (s : σ) : Course σ := { surface := s }

/-- Makes one call and writes down what is seen of it. -/
def step (surface : Surface σ) (c : Course σ) (call : Call) : Course σ :=
  let (f, s, asked) := call.perform surface.recording c.scheduler (c.surface, [])
  { scheduler := f
    surface := s
    taken := if call = .takeEvents then c.taken ++ c.scheduler.takeEvents.1 else c.taken
    turns := c.turns ++ [⟨call, asked, f.events.drop c.scheduler.events.length⟩] }

def run (surface : Surface σ) (c : Course σ) (calls : List Call) : Course σ :=
  calls.foldl (step surface) c

/-- What the laws of a course need of one step: the turn it adds goes by the rules, on
answers of the surface, and every event so far was taken or still waits. -/
structure Advance (surface : Surface σ) (c : Course σ) (t : Turn) (c' : Course σ) : Prop where
  used : surface.Used t.asked c.surface c'.surface
  effect : Effect c.scheduler t c'.scheduler
  turns_eq : c'.turns = c.turns ++ [t]
  told_eq : c'.taken ++ c'.scheduler.events = c.taken ++ c.scheduler.events ++ t.queued

theorem step_advance (surface : Surface σ) (c : Course σ) (call : Call) :
    ∃ t, t.call = call ∧ Advance surface c t (c.step surface call) := by
  obtain ⟨asked, queued, hrec, hused, heffect⟩ :=
    perform_effect surface call c.scheduler c.surface []
  have hdrop : (call.perform surface c.scheduler c.surface).1.events.drop
      c.scheduler.events.length = queued := heffect.drop_events
  refine ⟨⟨call, asked, queued⟩, rfl, ⟨?_, ?_, ?_, ?_⟩⟩
  · simpa [step, hrec] using hused
  · simpa [step, hrec] using heffect
  · simp [step, hrec, hdrop]
  · by_cases hcall : call = .takeEvents
    · obtain ⟨ht, hf⟩ := heffect.eq_of_take hcall
      have hqueued : queued = [] := congrArg Turn.queued ht
      simp [step, hcall, hqueued, takeEvents, Call.perform]
    · have hevents := heffect.events_eq hcall
      simp only at hevents
      simp [step, hrec, hcall, hevents, List.append_assoc]

/-- What every step keeps, a run keeps. -/
theorem run_keeps {surface : Surface σ} {P : Course σ → Prop}
    (hstep : ∀ {c t c'}, Advance surface c t c' → P c → P c') {c : Course σ} (h : P c)
    (calls : List Call) : P (c.run surface calls) := by
  induction calls generalizing c with
  | nil => exact h
  | cons call rest ih =>
    obtain ⟨t, -, hadvance⟩ := step_advance surface c call
    exact ih (hstep hadvance h)

end Course

end FrameScheduler

end Scanout
