import Mathlib.Data.List.Induction
import Scanout.Proofs.Output.Turns

/-!
# A scheduler is a mailbox with one place

Seen from outside, a scheduler is a mailbox in front of a display: while a frame
is in flight it takes images in, and when the frame is completed it passes on the
latest of them. `Mailbox` is that machine. It remembers everything handed in
since the frame in flight was committed, and it is computed from the turns alone;
`Mailbox.Allows` says what it lets a turn do.

`Effect.simulates` is the simulation, one case for each rule: the scheduler's two
fields are the mailbox's state, and every turn is one that the mailbox allows.
What follows from that for whole histories, with no scheduler in sight, is
`Mailbox.Orderly`; `refines_mailbox` puts both together.
-/

namespace Scanout

namespace FrameScheduler

variable {σ : Type}

/-- A mailbox in front of a display. While a frame is in flight it holds the images handed
in since that frame was committed, oldest first. -/
structure Mailbox where
  since? : Option (List Image) := none
  deriving DecidableEq, Repr

namespace Mailbox

def inFlight (m : Mailbox) : Bool := m.since?.isSome

/-- The one place: of everything handed in, the latest image is the one that counts. -/
def content (m : Mailbox) : Option Image := m.since?.bind (·.getLast?)

/-- The mailbox after a turn. A commit puts a frame in flight behind which nothing waits
yet; without one, a completion or the end leaves no frame in flight. -/
def next (m : Mailbox) (t : Turn) : Mailbox :=
  match t.call with
  | .schedule image =>
    if t.committed = [] then ⟨m.since?.map (· ++ [image])⟩ else ⟨some []⟩
  | .frameDone | .destroy => if t.committed = [] then ⟨none⟩ else ⟨some []⟩
  | .bufferReleased _ | .modeChanged _ | .takeEvents => m

def after (m : Mailbox) (turns : List Turn) : Mailbox := turns.foldl next m

/-- What is queued once the display answered a present: a refused image comes back. -/
def handedBack (image : Image) : Outcome Failure Unit → List OutputEvent
  | .failed _ => [.released image]
  | .done _ | .fault _ => []

/-- The frame event a completion owes after presenting the image that waited: always one,
unless the present broke its contract and ended the call. -/
def announced : Outcome Failure Unit → List OutputEvent
  | .done _ | .failed _ => [.frame]
  | .fault _ => []

/-- What the mailbox lets a turn do. -/
inductive Allows : Mailbox → Turn → Prop where
  /-- With no frame in flight an image is presented at once. -/
  | present (image : Image) (answer : Outcome Failure Unit) :
    Allows ⟨none⟩ ⟨.schedule image, [.present image answer], handedBack image answer⟩
  /-- Behind a frame in flight an image waits, and the one that waited comes back. -/
  | wait (since : List Image) (image : Image) :
    Allows ⟨some since⟩ ⟨.schedule image, [], since.getLast?.toList.map .released⟩
  /-- A completion without a frame in flight does nothing. -/
  | spurious : Allows ⟨none⟩ ⟨.frameDone, [], []⟩
  | complete : Allows ⟨some []⟩ ⟨.frameDone, [], [.frame]⟩
  /-- A completion presents the latest image, and announces the frame after that. -/
  | passOn (earlier : List Image) (image : Image) (answer : Outcome Failure Unit) :
    Allows ⟨some (earlier ++ [image])⟩
      ⟨.frameDone, [.present image answer], handedBack image answer ++ announced answer⟩
  /-- The end cancels a frame in flight and gives back what waits and what is shown. -/
  | stop (m : Mailbox) (shown : List Image) :
    Allows m ⟨.destroy, if m.inFlight then [.cancel] else [],
      (m.content.toList ++ shown).map .released ++ [.destroyed]⟩
  | giveBack (m : Mailbox) (id : ImageId) (back : List Image) :
    Allows m ⟨.bufferReleased id, [], back.map .released⟩
  | resize (m : Mailbox) (mode : Mode) : Allows m ⟨.modeChanged mode, [], [.mode mode]⟩
  | tell (m : Mailbox) : Allows m ⟨.takeEvents, [], []⟩

/-- After the end nothing is in flight: all it asks of the display is to cancel. -/
theorem next_stop (m : Mailbox) (b : Bool) (queued : List OutputEvent) :
    m.next ⟨.destroy, if b then [.cancel] else [], queued⟩ = ⟨none⟩ := by
  cases b <;> rfl

/-- The scheduler's flag and its pending slot show the state of the mailbox. -/
def Matches (m : Mailbox) (f : FrameScheduler) : Prop :=
  m.inFlight = f.armed ∧ m.content = f.pending

theorem matches_idle {f : FrameScheduler} (idle : f.armed = false) (empty : f.pending = none) :
    Matches ⟨none⟩ f :=
  ⟨idle.symm, empty.symm⟩

theorem matches_busy {f : FrameScheduler} {since : List Image} (busy : f.armed = true)
    (latest : since.getLast? = f.pending) : Matches ⟨some since⟩ f :=
  ⟨busy.symm, latest⟩

theorem Matches.idle {m : Mailbox} {f : FrameScheduler} (h : m.Matches f)
    (idle : f.armed = false) : m = ⟨none⟩ ∧ f.pending = none := by
  have hflight := h.1
  rw [idle] at hflight
  obtain ⟨_ | since⟩ := m
  · exact ⟨rfl, h.2.symm⟩
  · exact absurd hflight (by simp [inFlight])

theorem Matches.busy {m : Mailbox} {f : FrameScheduler} (h : m.Matches f)
    (busy : f.armed = true) : ∃ since, m = ⟨some since⟩ ∧ since.getLast? = f.pending := by
  have hflight := h.1
  rw [busy] at hflight
  obtain ⟨_ | since⟩ := m
  · exact absurd hflight (by simp [inFlight])
  · exact ⟨since, rfl, h.2⟩

end Mailbox

open Mailbox (handedBack announced matches_idle matches_busy)

/-- **The simulation.** A turn that a scheduler takes is one its mailbox allows, and both
stay in step. -/
theorem Effect.simulates {f f' : FrameScheduler} {t : Turn} {m : Mailbox} (h : Effect f t f')
    (hm : m.Matches f) : m.Allows t ∧ (m.next t).Matches f' := by
  cases h with
  | shown image idle =>
    obtain ⟨rfl, empty⟩ := hm.idle idle
    exact ⟨.present image (.done ()), matches_busy rfl empty.symm⟩
  | refused image e idle =>
    obtain ⟨rfl, empty⟩ := hm.idle idle
    exact ⟨.present image (.failed e), matches_idle idle empty⟩
  | lost image e idle =>
    obtain ⟨rfl, empty⟩ := hm.idle idle
    exact ⟨.present image (.fault e), matches_idle idle empty⟩
  | queued image busy =>
    obtain ⟨since, rfl, latest⟩ := hm.busy busy
    rw [← latest]
    -- the image is the latest now
    exact ⟨.wait since image, matches_busy busy List.getLast?_concat⟩
  | ignored idle =>
    obtain ⟨rfl, empty⟩ := hm.idle idle
    exact ⟨.spurious, matches_idle idle empty⟩
  | completed busy empty =>
    obtain ⟨since, rfl, latest⟩ := hm.busy busy
    obtain rfl : since = [] := List.getLast?_eq_none_iff.mp (latest.trans empty)
    exact ⟨.complete, matches_idle rfl empty⟩
  | followed image busy waiting =>
    obtain ⟨since, rfl, latest⟩ := hm.busy busy
    -- the pending image is the last of those handed in since the commit
    obtain ⟨earlier, rfl⟩ := List.getLast?_eq_some_iff.mp (latest.trans waiting)
    exact ⟨.passOn earlier image (.done ()), matches_busy busy rfl⟩
  | followerRefused image e busy waiting =>
    obtain ⟨since, rfl, latest⟩ := hm.busy busy
    obtain ⟨earlier, rfl⟩ := List.getLast?_eq_some_iff.mp (latest.trans waiting)
    exact ⟨.passOn earlier image (.failed e), matches_idle rfl rfl⟩
  | followerLost image e busy waiting =>
    obtain ⟨since, rfl, latest⟩ := hm.busy busy
    obtain ⟨earlier, rfl⟩ := List.getLast?_eq_some_iff.mp (latest.trans waiting)
    exact ⟨.passOn earlier image (.fault e), matches_idle rfl rfl⟩
  | returned image before after split first => exact ⟨.giveBack m image.id [image], hm⟩
  | unknown id absent => exact ⟨.giveBack m id [], hm⟩
  | resized mode => exact ⟨.resize m mode, hm⟩
  | told => exact ⟨.tell m, hm⟩
  | ended =>
    have hkept : f.kept = m.content.toList ++ f.presented := by rw [hm.2]; rfl
    rw [hkept, ← hm.1]
    refine ⟨.stop m f.presented, ?_⟩
    rw [Mailbox.next_stop]
    exact matches_idle rfl rfl

namespace Mailbox

/-! ## Histories -/

/-- A history every turn of which is allowed. -/
def Keeps (m : Mailbox) : List Turn → Prop
  | [] => True
  | t :: rest => m.Allows t ∧ (m.next t).Keeps rest

theorem after_append (m : Mailbox) (before rest : List Turn) :
    m.after (before ++ rest) = (m.after before).after rest :=
  List.foldl_append

theorem keeps_append {m : Mailbox} {before rest : List Turn} :
    m.Keeps (before ++ rest) ↔ m.Keeps before ∧ (m.after before).Keeps rest := by
  induction before generalizing m with
  | nil => exact ⟨fun h => ⟨trivial, h⟩, fun h => h.2⟩
  | cons t before ih =>
    show m.Allows t ∧ (m.next t).Keeps (before ++ rest) ↔ _
    rw [ih]
    exact and_assoc.symm

/-- In a history that is kept, each turn is allowed by the mailbox before it. -/
theorem Keeps.allows {m : Mailbox} {turns pre : List Turn} {t : Turn} (h : m.Keeps turns)
    (hpre : pre ++ [t] <+: turns) : (m.after pre).Allows t := by
  obtain ⟨post, rfl⟩ := hpre
  exact (keeps_append.mp (keeps_append.mp h).1).2.1

/-! ## What one turn may do -/

/-- A turn that commits presents one image and leaves it in flight with nothing behind it. -/
theorem Allows.next_of_committed {m : Mailbox} {t : Turn} (h : m.Allows t)
    (hc : t.committed ≠ []) : m.next t = ⟨some []⟩ ∧ t.committed.length = 1 := by
  cases h with
  | present image answer | passOn earlier image answer =>
    cases answer with
    | done => exact ⟨rfl, rfl⟩
    | failed | fault => exact absurd rfl hc
  | stop m shown => cases hflight : m.inFlight <;> simp [Turn.committed, hflight] at hc
  | _ => exact absurd rfl hc

/-- The display is asked to present when an image is handed in while no frame is in flight,
or by the completion of the frame in flight for the image that waited. -/
theorem Allows.of_present {m : Mailbox} {t : Turn} (h : m.Allows t) {image : Image}
    {answer : Outcome Failure Unit} (hp : .present image answer ∈ t.asked) :
    t.asked = [.present image answer] ∧
      (t.call = .schedule image ∧ m.inFlight = false ∨
        t.call = .frameDone ∧ m.content = some image) := by
  cases h with
  | present image' answer' =>
    obtain ⟨rfl, rfl⟩ : image = image' ∧ answer = answer' := by simpa using hp
    exact ⟨rfl, .inl ⟨rfl, rfl⟩⟩
  | passOn earlier image' answer' =>
    obtain ⟨rfl, rfl⟩ : image = image' ∧ answer = answer' := by simpa using hp
    exact ⟨rfl, .inr ⟨rfl, List.getLast?_concat⟩⟩
  | stop m shown => cases hflight : m.inFlight <;> simp [hflight] at hp
  | _ => exact absurd hp List.not_mem_nil

theorem Allows.cancel_mem_iff {m : Mailbox} {t : Turn} (h : m.Allows t) :
    .cancel ∈ t.asked ↔ t.call = .destroy ∧ m.inFlight := by
  cases h with
  | stop m shown => cases hflight : m.inFlight <;> simp
  | _ => simp

/-- One frame event for each completion of a frame in flight, and none otherwise. Only a
present that breaks its contract keeps it back. -/
theorem Allows.count_frame {m : Mailbox} {t : Turn} (h : m.Allows t) :
    t.queued.count .frame = if t.call = .frameDone ∧ m.inFlight ∧ t.lost = [] then 1 else 0 := by
  have hreleased : ∀ images : List Image, (images.map OutputEvent.released).count .frame = 0 := by
    intro images
    rw [List.count_eq_zero]
    simp
  cases h with
  | present image answer => cases answer <;> rfl
  | passOn earlier image answer => cases answer <;> rfl
  | wait | giveBack => simp [hreleased]
  | stop m shown => simp [List.count_append, hreleased]
  | spurious | complete | resize | tell => rfl

/-! ## Commits and endings -/

/-- Whether a turn ends a frame in flight, as its completion or as the end of the output. -/
def ends (m : Mailbox) (t : Turn) : Bool :=
  m.inFlight &&
    match t.call with
    | .frameDone | .destroy => true
    | _ => false

/-- How often a frame in flight ends. -/
def endings (m : Mailbox) : List Turn → Nat
  | [] => 0
  | t :: rest => (m.ends t).toNat + (m.next t).endings rest

def frames (m : Mailbox) : Nat := m.inFlight.toNat

/-- Each commit puts one frame in flight and each ending takes one away. -/
theorem Allows.frames_eq {m : Mailbox} {t : Turn} (h : m.Allows t) :
    m.frames + t.committed.length = (m.next t).frames + (m.ends t).toNat := by
  cases h with
  | present image answer | passOn earlier image answer => cases answer <;> rfl
  | stop m shown =>
    obtain ⟨_ | since⟩ := m <;> rfl
  | wait | spurious | complete => rfl
  | giveBack | resize | tell =>
    simp [frames, ends, next, Turn.committed]

theorem Keeps.frames_eq {turns : List Turn} :
    ∀ {m : Mailbox}, m.Keeps turns →
      m.frames + (turns.flatMap Turn.committed).length = (m.after turns).frames + m.endings turns := by
  induction turns with
  | nil => intro m _; rfl
  | cons t rest ih =>
    intro m h
    have hfirst := h.1.frames_eq
    have hrest := ih h.2
    have hafter : m.after (t :: rest) = (m.next t).after rest := rfl
    simp only [List.flatMap_cons, List.length_append, endings, hafter]
    omega

/-- Between two commits the frame in flight ends exactly once. -/
theorem Keeps.endings_between {m : Mailbox} {mid : List Turn} {first second : Turn}
    (h : m.Keeps (first :: mid ++ [second])) (hfirst : first.committed ≠ [])
    (hsecond : second.committed ≠ []) (hmid : ∀ t ∈ mid, t.committed = []) :
    (m.next first).endings (mid ++ [second]) = 1 := by
  have hkeeps : (m.next first).Keeps (mid ++ [second]) := h.2
  obtain ⟨hnext, -⟩ := h.1.next_of_committed hfirst
  have hlast : ((m.next first).after mid).Allows second := (keeps_append.mp hkeeps).2.1
  obtain ⟨hlast, hone⟩ := hlast.next_of_committed hsecond
  -- one frame is in flight after either commit, and the second one put one there
  have hcount := hkeeps.frames_eq
  have hafter : (m.next first).after (mid ++ [second]) = ⟨some []⟩ := by
    rw [after_append]
    exact hlast
  have hsilent : mid.flatMap Turn.committed = [] := by
    rw [List.flatMap_eq_nil_iff]
    exact hmid
  rw [hafter, hnext, List.flatMap_append, hsilent, List.nil_append, List.flatMap_singleton,
    hone] at hcount
  rw [hnext]
  simp only [frames, inFlight, Option.isSome_some, Bool.toNat_true] at hcount
  omega

/-! ## What a completion serves -/

/-- The images that came back because a later one took their place. -/
def displaced (turns : List Turn) : List Image :=
  turns.flatMap fun t =>
    match t.call with
    | .schedule _ => eventImages t.queued
    | _ => []

theorem dropLast_append_latest (images : List Image) :
    images.dropLast ++ images.getLast?.toList = images := by
  rcases List.eq_nil_or_concat images with rfl | ⟨earlier, image, rfl⟩
  · rfl
  · simp

/-- A turn that leaves a frame in flight without a commit only hands an image in, if that. -/
theorem Allows.stays {m : Mailbox} {t : Turn} {since : List Image} (h : m.Allows t)
    (hc : t.committed = []) (hnext : m.next t = ⟨some since⟩) :
    ∃ earlier, m = ⟨some earlier⟩ ∧
      (t.asked = [] ∧ t.call ≠ .frameDone ∧ t.call ≠ .destroy) ∧
      earlier ++ t.handedIn = since ∧ earlier.dropLast ++ displaced [t] = since.dropLast := by
  cases h with
  | present image answer => simp [next, hc] at hnext
  | wait earlier image =>
    obtain rfl : earlier ++ [image] = since := by simpa [next, Turn.committed] using hnext
    refine ⟨earlier, rfl, by simp, rfl, ?_⟩
    simp [displaced, dropLast_append_latest]
  | spurious | complete | passOn => simp [next, hc] at hnext
  | stop m shown =>
    rw [next_stop] at hnext
    exact absurd hnext (by simp)
  | giveBack | resize | tell =>
    exact ⟨since, hnext, by simp, List.append_nil _, by simp [displaced]⟩

/-- While a frame is in flight, the history ends in its commit and turns that asked nothing of
the display; what was handed in since is what the mailbox holds, and all of it but the latest
came back in order. -/
theorem Keeps.latest_commit {turns : List Turn} {since : List Image}
    (h : ({} : Mailbox).Keeps turns) (hafter : ({} : Mailbox).after turns = ⟨some since⟩) :
    ∃ before commit mid, turns = before ++ commit :: mid ∧ commit.committed ≠ [] ∧
      (∀ u ∈ mid, u.asked = [] ∧ u.call ≠ .frameDone ∧ u.call ≠ .destroy) ∧
      mid.flatMap Turn.handedIn = since ∧ displaced mid = since.dropLast := by
  induction turns using List.reverseRecOn generalizing since with
  | nil => exact absurd hafter (by simp [after])
  | append_singleton pre t ih =>
    rw [after_append] at hafter
    -- the induction is on the history from its end, the last turn being `t`
    obtain ⟨hpre, ht, -⟩ := keeps_append.mp h
    by_cases hc : t.committed = []
    · -- the frame was in flight before, and the turn is one that leaves it there
      obtain ⟨earlier, hearlier, hquiet, hsince, hback⟩ := ht.stays hc hafter
      obtain ⟨before, commit, mid, rfl, hcommit, hmid, hhanded, hdisplaced⟩ := ih hpre hearlier
      refine ⟨before, commit, mid ++ [t], by simp, hcommit, ?_, ?_, ?_⟩
      · intro u hu
        rcases List.mem_append.mp hu with hu | hu
        · exact hmid u hu
        · obtain rfl := List.mem_singleton.mp hu
          exact hquiet
      · rw [List.flatMap_append, hhanded, List.flatMap_singleton, hsince]
      · show displaced (mid ++ [t]) = since.dropLast
        rw [← hback, ← hdisplaced]
        exact List.flatMap_append
    · have hnext := (ht.next_of_committed hc).1
      obtain rfl : [] = since := by
        have heq : (⟨some []⟩ : Mailbox) = ⟨some since⟩ := hnext.symm.trans hafter
        simpa using heq
      exact ⟨pre, t, [], rfl, hc, by simp, rfl, rfl⟩

theorem Allows.of_idle_completion {m : Mailbox} {t : Turn} (h : m.Allows t)
    (hm : m.inFlight = false) (hcall : t.call = .frameDone) : t = ⟨.frameDone, [], []⟩ := by
  cases h with
  | spurious => rfl
  | complete | passOn => exact absurd hm (by simp [inFlight])
  | _ => exact absurd hcall (by simp)

theorem Allows.next_of_destroy {m : Mailbox} {t : Turn} (h : m.Allows t)
    (hcall : t.call = .destroy) : m.next t = ⟨none⟩ := by
  cases h with
  | stop => exact next_stop _ _ _
  | _ => exact absurd hcall (by simp)

/-- With nothing in flight nothing gets in flight but by handing an image in. -/
theorem Keeps.stays_idle {turns : List Turn} (h : (⟨none⟩ : Mailbox).Keeps turns)
    (hcalls : ∀ u ∈ turns, ∀ image, u.call ≠ .schedule image) :
    (⟨none⟩ : Mailbox).after turns = ⟨none⟩ := by
  induction turns with
  | nil => rfl
  | cons t rest ih =>
    have hnext : (⟨none⟩ : Mailbox).next t = ⟨none⟩ := by
      have hfirst := hcalls t List.mem_cons_self
      cases h.1 with
      | present image answer => exact absurd rfl (hfirst image)
      | stop => exact next_stop _ _ _
      | spurious | giveBack | resize | tell => rfl
    show ((⟨none⟩ : Mailbox).next t).after rest = ⟨none⟩
    rw [hnext]
    exact ih (hnext ▸ h.2) fun u hu => hcalls u (List.mem_cons_of_mem t hu)

/-! ## What follows for a history -/

/-- What a mailbox with one place promises of its history. Each promise is about a turn and
the mailbox before it, which is computed from the earlier turns. -/
structure Orderly (turns : List Turn) : Prop where
  /-- Presents happen only while no frame is in flight: when an image is handed in to an
  idle output, or in the completion that has ended the frame in flight. -/
  presents_when_free : ∀ pre t, pre ++ [t] <+: turns → ∀ image answer,
    .present image answer ∈ t.asked →
      t.asked = [.present image answer] ∧
        (t.call = .schedule image ∧ (after {} pre).inFlight = false ∨
          t.call = .frameDone ∧ (after {} pre).content = some image)
  /-- Between two successful presents there is exactly one completion of a frame in
  flight, or one end of the output with a frame in flight. -/
  ends_once_between : ∀ pre first mid second,
    pre ++ first :: mid ++ [second] <+: turns → first.committed ≠ [] → second.committed ≠ [] →
      (∀ t ∈ mid, t.committed = []) → (after {} (pre ++ [first])).endings (mid ++ [second]) = 1
  /-- The completion of a frame in flight presents the latest image handed in since its
  commit. Nothing was presented in between, and the earlier images came back in order. A
  refused image comes back before the frame is announced. -/
  serves_latest : ∀ pre t, pre ++ [t] <+: turns → t.call = .frameDone → (after {} pre).inFlight →
    ∃ before commit mid, pre = before ++ commit :: mid ∧ commit.committed ≠ [] ∧
      (∀ u ∈ mid, u.asked = [] ∧ u.call ≠ .frameDone ∧ u.call ≠ .destroy) ∧
      displaced mid = (mid.flatMap Turn.handedIn).dropLast ∧
      match (mid.flatMap Turn.handedIn).getLast? with
      | none => t.asked = [] ∧ t.queued = [.frame]
      | some image => ∃ answer, t.asked = [.present image answer] ∧
          t.queued = handedBack image answer ++ announced answer
  /-- Each completion of a frame in flight emits one frame event, and nothing else does. -/
  announces_once : ∀ pre t, pre ++ [t] <+: turns →
    t.queued.count .frame
      = if t.call = .frameDone ∧ (after {} pre).inFlight ∧ t.lost = [] then 1 else 0
  /-- A completion with nothing in flight asks nothing and tells nothing. -/
  ignores_spurious : ∀ pre t, pre ++ [t] <+: turns → t.call = .frameDone →
    (after {} pre).inFlight = false → t.asked = [] ∧ t.queued = []
  /-- The end of the output cancels the frame if there is one in flight, and nothing else
  cancels. -/
  cancels : ∀ pre t, pre ++ [t] <+: turns →
    (.cancel ∈ t.asked ↔ t.call = .destroy ∧ (after {} pre).inFlight)
  /-- After the end a completion commits nothing and emits nothing, as long as no image is
  handed in again. -/
  silent_after_end : ∀ pre last mid t, pre ++ last :: mid ++ [t] <+: turns →
    last.call = .destroy → (∀ u ∈ mid, ∀ image, u.call ≠ .schedule image) →
      t.call = .frameDone → t.asked = [] ∧ t.queued = []

theorem Keeps.orderly {turns : List Turn} (h : ({} : Mailbox).Keeps turns) : Orderly turns where
  presents_when_free pre t hpre image answer hp := (h.allows hpre).of_present hp
  ends_once_between pre first mid second hpre hfirst hsecond hmid := by
    obtain ⟨post, rfl⟩ := hpre
    have hkeeps : (after {} pre).Keeps (first :: mid ++ [second]) := by
      have hall := (keeps_append.mp h).1
      rw [List.append_assoc] at hall
      exact (keeps_append.mp hall).2
    rw [after_append]
    exact hkeeps.endings_between hfirst hsecond hmid
  serves_latest pre t hpre hcall hflight := by
    have hpre' : ({} : Mailbox).Keeps pre := by
      obtain ⟨post, rfl⟩ := hpre
      exact (keeps_append.mp (keeps_append.mp h).1).1
    obtain ⟨since, hsince⟩ := Option.isSome_iff_exists.mp hflight
    have hafter : after {} pre = ⟨some since⟩ := congrArg Mailbox.mk hsince
    obtain ⟨before, commit, mid, heq, hcommit, hmid, hhanded, hdisplaced⟩ :=
      hpre'.latest_commit hafter
    refine ⟨before, commit, mid, heq, hcommit, hmid, by rw [hhanded, hdisplaced], ?_⟩
    have hallows := h.allows hpre
    rw [hafter] at hallows
    rw [hhanded]
    cases hallows with
    | complete => exact ⟨rfl, rfl⟩
    | passOn earlier image answer =>
      rw [List.getLast?_concat]
      exact ⟨answer, rfl, rfl⟩
    | _ => exact absurd hcall (by simp)
  announces_once pre t hpre := (h.allows hpre).count_frame
  ignores_spurious pre t hpre hcall hflight := by
    rw [(h.allows hpre).of_idle_completion hflight hcall]
    exact ⟨rfl, rfl⟩
  cancels pre t hpre := (h.allows hpre).cancel_mem_iff
  silent_after_end pre last mid t hpre hlast hmid hcall := by
    obtain ⟨post, rfl⟩ := hpre
    obtain ⟨hkeeps, -⟩ := keeps_append.mp h
    rw [List.append_assoc] at hkeeps
    obtain ⟨-, hlastAllowed, hrest⟩ := keeps_append.mp hkeeps
    -- the end leaves nothing in flight, and without a new image it stays that way
    rw [hlastAllowed.next_of_destroy hlast] at hrest
    obtain ⟨hmidKept, ht, -⟩ := keeps_append.mp hrest
    rw [hmidKept.stays_idle hmid] at ht
    rw [ht.of_idle_completion rfl hcall]
    exact ⟨rfl, rfl⟩

end Mailbox

namespace Course

/-- The history of a course is kept by the mailbox, and both show the same state. -/
def Simulated (c : Course σ) : Prop :=
  ({} : Mailbox).Keeps c.turns ∧ (({} : Mailbox).after c.turns).Matches c.scheduler

theorem Advance.simulated {surface : Surface σ} {c c' : Course σ} {t : Turn}
    (h : Advance surface c t c') (hc : c.Simulated) : c'.Simulated := by
  obtain ⟨hallows, hmatches⟩ := h.effect.simulates hc.2
  unfold Simulated
  rw [h.turns_eq, Mailbox.keeps_append, Mailbox.after_append]
  exact ⟨⟨hc.1, hallows, trivial⟩, hmatches⟩

theorem run_simulated (surface : Surface σ) (s : σ) (calls : List Call) :
    ((start s).run surface calls).Simulated := by
  have hstart : (start s).Simulated := ⟨trivial, rfl, rfl⟩
  exact run_keeps (P := Simulated) (fun h hc => h.simulated hc) hstart calls

/-- **A scheduler refines a mailbox with one place.** Whatever is called on it, in whatever
order, and whatever its surface answers: its turns are turns of the mailbox, its state
is the mailbox's state, its history keeps every promise of the mailbox, and a completion
with nothing in flight leaves scheduler and surface as they are. -/
theorem refines_mailbox (surface : Surface σ) (s : σ) (calls : List Call) :
    let c := (start s).run surface calls
    ({} : Mailbox).Keeps c.turns ∧
    (({} : Mailbox).after c.turns).inFlight = c.scheduler.armed ∧
    (({} : Mailbox).after c.turns).content = c.scheduler.pending ∧
    Mailbox.Orderly c.turns ∧
    (c.scheduler.armed = false →
      c.scheduler.frameDone surface c.surface = (none, c.scheduler, c.surface)) := by
  intro c
  obtain ⟨hkeeps, hflight, hcontent⟩ := run_simulated surface s calls
  refine ⟨hkeeps, hflight, hcontent, hkeeps.orderly, fun hidle => ?_⟩
  simp [frameDone, hidle]

end Course

end FrameScheduler

end Scanout
