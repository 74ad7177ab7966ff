import Mathlib.Data.List.Chain
import Scanout.Proofs.Allocator.Requests

/-!
# How a layout is negotiated

Whoever asks for an image lists the layouts that will do, and what the device makes of that is
settled in two calls at most: one that names the explicit layouts of the list, and one that leaves
the layout to the device. `Host.overheard` is a host that behaves like a given one and writes down
what its device hears, every call with its answer and every buffer that is freed.

A `Negotiation` is what such a list looks like while a buffer is looked for. The attempt with
explicit layouts and what comes after it are described one by one, `FirstTry` and `Ending`, and
put together in `Negotiation.of_attempts`; `buffer_negotiated` says of every allocation that its
device hears a negotiation first, that a negotiation that comes to nothing is the failure of the
allocation, and that the device is called no more after it.
-/

namespace Scanout

variable {σ : Type}

/-- One thing a device hears: a call, which it answers, or that a buffer is freed. -/
inductive DeviceEntry where
  | explicit (width height : UInt32) (fourcc : Fourcc) (modifiers : List Modifier)
      (answer : Outcome Failure Buffer)
  | implicit (width height : UInt32) (fourcc : Fourcc) (usage : BufferUsage)
      (answer : Outcome Failure Buffer)
  | freed (buffer : Buffer)
  deriving DecidableEq, Repr

/-- What a device heard, in order. -/
abbrev DeviceLog := List DeviceEntry

namespace DeviceEntry

def isExplicit : DeviceEntry → Bool
  | explicit .. => true
  | implicit .. | freed _ => false

def isImplicit : DeviceEntry → Bool
  | implicit .. => true
  | explicit .. | freed _ => false

/-- The answer to a call. -/
def answer? : DeviceEntry → Option (Outcome Failure Buffer)
  | explicit _ _ _ _ answer | implicit _ _ _ _ answer => some answer
  | freed _ => none

/-- The call made a buffer that will do: in a layout that was listed, or, where the layout was left
to the device, in an implicit one or in any if none was listed. -/
def Accepted (q : ImageRequest) : DeviceEntry → Prop
  | explicit _ _ _ _ (.done buffer) => buffer.format.modifier ∈ q.modifiers
  | implicit _ _ _ _ (.done buffer) => q.modifiers = [] ∨ buffer.format.modifier = .invalid
  | _ => False

end DeviceEntry

/-- The last call a device got. -/
def DeviceLog.lastCall? (log : DeviceLog) : Option DeviceEntry :=
  (log.filter (·.answer?.isSome)).getLast?

/-- What comes of the search for a buffer whose last call was `e`. -/
inductive DeviceEntry.Concludes (q : ImageRequest) (e : DeviceEntry) :
    Outcome AllocationError Buffer → Prop where
  | found {buffer : Buffer} (made : e.answer? = some (.done buffer)) (will : e.Accepted q) :
    e.Concludes q (.done buffer)
  | refused {buffer : Buffer} (made : e.answer? = some (.done buffer)) (wont : ¬ e.Accepted q) :
    e.Concludes q (.failed (.unsupportedModifiers q.fourcc q.modifiers))
  | failed {cause : Failure} (failed : e.answer? = some (.failed cause)) :
    e.Concludes q (.failed (.createBuffer cause))
  | fault {f : Fault} (broken : e.answer? = some (.fault f)) : e.Concludes q (.fault f)

/-- What a device hears while a buffer is looked for, and what comes of it. -/
structure Negotiation (q : ImageRequest) (log : DeviceLog)
    (outcome : Outcome AllocationError Buffer) : Prop where
  /-- The call with explicit layouts comes before the one without. -/
  order : log.filter (·.answer?.isSome) = log.filter (·.isExplicit) ++ log.filter (·.isImplicit)
  explicit_once : (log.filter (·.isExplicit)).length ≤ 1
  implicit_once : (log.filter (·.isImplicit)).length ≤ 1
  explicit_iff : (∃ e ∈ log, e.isExplicit) ↔ ∃ m ∈ q.modifiers, m ≠ .invalid
  /-- The explicit layouts are passed on as they were listed. -/
  explicit_passed : ∀ width height fourcc modifiers answer,
    .explicit width height fourcc modifiers answer ∈ log →
      width = q.width ∧ height = q.height ∧ fourcc = q.fourcc ∧
      modifiers = q.modifiers.filter (· ≠ .invalid) ∧ modifiers ≠ [] ∧ .invalid ∉ modifiers
  /-- The layout is left to the device only if that will do, and only if the first call, where it
  was made, came to nothing. -/
  implicit_iff : (∃ e ∈ log, e.isImplicit) ↔ (q.modifiers = [] ∨ .invalid ∈ q.modifiers) ∧
    ∀ e ∈ log, e.isExplicit → ¬ e.Accepted q ∧ ∀ f, e.answer? ≠ some (.fault f)
  implicit_passed : ∀ width height fourcc usage answer,
    .implicit width height fourcc usage answer ∈ log →
      width = q.width ∧ height = q.height ∧ fourcc = q.fourcc ∧ usage = Host.usage
  /-- Whatever follows a call that made a buffer, that buffer was refused and is freed first. -/
  freed_at_once : log.IsChain fun e next => ∀ buffer, e.answer? = some (.done buffer) →
    ¬ e.Accepted q ∧ next = .freed buffer
  refused_freed : ∀ e ∈ log, ∀ buffer, e.answer? = some (.done buffer) → ¬ e.Accepted q →
    .freed buffer ∈ log
  layout : ∀ buffer, outcome = .done buffer → q.modifiers ≠ [] →
    buffer.format.modifier ∈ q.modifiers
  /-- The last call decides, and there is one. -/
  conclusion : ∃ e, log.lastCall? = some e ∧ e.Concludes q outcome

/-! ## Writing down what the device hears -/

/-- The hooks beside a list they leave alone. -/
def Hooks.overheard (hooks : Hooks σ) : Hooks (σ × DeviceLog) :=
  { create := fun image r =>
      let (result, s) := hooks.create image r.1
      (result, s, r.2)
    destroy := fun image r =>
      let (image', s) := hooks.destroy image r.1
      (image', s, r.2) }

/-- The host with a list of what its device heard. -/
def Host.overheard (host : Host σ) : Host (σ × DeviceLog) :=
  { createExplicit := fun width height fourcc modifiers r =>
      let (answer, s) := host.createExplicit width height fourcc modifiers r.1
      (answer, s, r.2 ++ [.explicit width height fourcc modifiers answer])
    createImplicit := fun width height fourcc usage r =>
      let (answer, s) := host.createImplicit width height fourcc usage r.1
      (answer, s, r.2 ++ [.implicit width height fourcc usage answer])
    exportBuffer := fun buffer r =>
      let (result, s) := host.exportBuffer buffer r.1
      (result, s, r.2)
    freeBuffer := fun buffer r => (host.freeBuffer buffer r.1, r.2 ++ [.freed buffer])
    nextImageId := fun r =>
      let (id, s) := host.nextImageId r.1
      (id, s, r.2)
    hooks := host.hooks.map Hooks.overheard
    attach := fun image r =>
      let (result, s) := host.attach image r.1
      (result, s, r.2)
    detach := fun image r =>
      let (image', s) := host.detach image r.1
      (image', s, r.2) }

/-! ## The two attempts -/

/-- The call that names the explicit layouts of a request, with an answer. -/
@[simp] def ImageRequest.explicitCall (q : ImageRequest) (answer : Outcome Failure Buffer) :
    DeviceEntry :=
  .explicit q.width q.height q.fourcc (Host.explicitModifiers q.modifiers) answer

/-- The call that leaves the layout to the device, with an answer. -/
@[simp] def ImageRequest.implicitCall (q : ImageRequest) (answer : Outcome Failure Buffer) :
    DeviceEntry :=
  .implicit q.width q.height q.fourcc Host.usage answer

/-- Some layout of a request is an explicit one. -/
def ImageRequest.Names (q : ImageRequest) : Prop := ∃ m ∈ q.modifiers, m ≠ .invalid

/-- The layout of a buffer may be left to the device. -/
def ImageRequest.Leaves (q : ImageRequest) : Prop := q.modifiers = [] ∨ .invalid ∈ q.modifiers

/-- What is heard of the attempt with explicit layouts, by how it ends. -/
inductive FirstTry (q : ImageRequest) : DeviceLog → Host.Attempt → Prop where
  | unasked (names : ¬ q.Names) : FirstTry q [] (.refused none)
  | accepted {buffer : Buffer} (names : q.Names) (listed : buffer.format.modifier ∈ q.modifiers) :
    FirstTry q [q.explicitCall (.done buffer)] (.accepted buffer)
  | unwanted {buffer : Buffer} (names : q.Names)
      (unlisted : buffer.format.modifier ∉ q.modifiers) :
    FirstTry q [q.explicitCall (.done buffer), .freed buffer] (.refused none)
  | failed (cause : Failure) (names : q.Names) :
    FirstTry q [q.explicitCall (.failed cause)]
      (.refused (if .invalid ∈ q.modifiers then none else some cause))
  | fault (f : Fault) (names : q.Names) : FirstTry q [q.explicitCall (.fault f)] (.fault f)

/-- What is heard after the first attempt, and what comes of it all. -/
inductive Ending (q : ImageRequest) :
    Host.Attempt → DeviceLog → Outcome AllocationError Buffer → Prop where
  | settled (buffer : Buffer) : Ending q (.accepted buffer) [] (.done buffer)
  | broken (f : Fault) : Ending q (.fault f) [] (.fault f)
  /-- There is no second attempt. -/
  | exhausted (error : Option Failure) (leaves : ¬ q.Leaves) :
    Ending q (.refused error) [] (.failed (match error with
      | some cause => .createBuffer cause
      | none => .unsupportedModifiers q.fourcc q.modifiers))
  | accepted {buffer : Buffer} (error : Option Failure) (leaves : q.Leaves)
      (will : q.modifiers = [] ∨ buffer.format.modifier = .invalid) :
    Ending q (.refused error) [q.implicitCall (.done buffer)] (.done buffer)
  | unwanted {buffer : Buffer} (error : Option Failure) (leaves : q.Leaves)
      (wont : ¬ (q.modifiers = [] ∨ buffer.format.modifier = .invalid)) :
    Ending q (.refused error) [q.implicitCall (.done buffer), .freed buffer]
      (.failed (.unsupportedModifiers q.fourcc q.modifiers))
  | failed (error : Option Failure) (leaves : q.Leaves) (cause : Failure) :
    Ending q (.refused error) [q.implicitCall (.failed cause)] (.failed (.createBuffer cause))
  | fault (error : Option Failure) (leaves : q.Leaves) (f : Fault) :
    Ending q (.refused error) [q.implicitCall (.fault f)] (.fault f)

namespace ImageRequest

variable {q : ImageRequest}

theorem names_iff : q.Names ↔ Host.explicitModifiers q.modifiers ≠ [] := by
  simp [Names, Host.explicitModifiers, List.filter_eq_nil_iff]

/-- There is something to ask a device for. -/
theorem names_or_leaves (q : ImageRequest) : q.Names ∨ q.Leaves := by
  rcases hmodifiers : q.modifiers with _ | ⟨m, rest⟩
  · exact .inr (.inl hmodifiers)
  · have hm : m ∈ q.modifiers := hmodifiers ▸ List.mem_cons_self
    by_cases hinvalid : m = .invalid
    · exact .inr (.inr (hinvalid ▸ hm))
    · exact .inl ⟨m, hm, hinvalid⟩

end ImageRequest

namespace Host

variable (host : Host σ) (q : ImageRequest) (s : σ) (log : DeviceLog)

@[simp] theorem overheard_createExplicit (width height : UInt32) (fourcc : Fourcc)
    (modifiers : List Modifier) :
    host.overheard.createExplicit width height fourcc modifiers (s, log)
      = ((host.createExplicit width height fourcc modifiers s).1,
        (host.createExplicit width height fourcc modifiers s).2,
        log ++ [.explicit width height fourcc modifiers
          (host.createExplicit width height fourcc modifiers s).1]) := rfl

@[simp] theorem overheard_createImplicit (width height : UInt32) (fourcc : Fourcc)
    (usage : BufferUsage) :
    host.overheard.createImplicit width height fourcc usage (s, log)
      = ((host.createImplicit width height fourcc usage s).1,
        (host.createImplicit width height fourcc usage s).2,
        log ++ [.implicit width height fourcc usage
          (host.createImplicit width height fourcc usage s).1]) := rfl

@[simp] theorem overheard_freeBuffer (buffer : Buffer) :
    host.overheard.freeBuffer buffer (s, log)
      = (host.freeBuffer buffer s, log ++ [.freed buffer]) := rfl

theorem tryExplicit_overheard :
    ∃ attempt s' heard, FirstTry q heard attempt ∧
      host.tryExplicit q.width q.height q.fourcc q.modifiers s = (attempt, s') ∧
      host.overheard.tryExplicit q.width q.height q.fourcc q.modifiers (s, log)
        = (attempt, s', log ++ heard) := by
  by_cases hnone : (explicitModifiers q.modifiers).isEmpty
  · have hnames : ¬ q.Names := by
      rw [ImageRequest.names_iff, not_not]
      exact List.isEmpty_iff.mp hnone
    exact ⟨_, _, _, .unasked hnames, if_pos hnone, by simp [tryExplicit, hnone]⟩
  have hnames : q.Names := ImageRequest.names_iff.mpr (mt List.isEmpty_iff.mpr hnone)
  rcases hmade : host.createExplicit q.width q.height q.fourcc (explicitModifiers q.modifiers) s
    with ⟨buffer | cause | f, s'⟩
  · by_cases hlisted : buffer.format.modifier ∈ q.modifiers
    · refine ⟨_, s', _, .accepted hnames hlisted, ?_, ?_⟩ <;>
        simp [tryExplicit, hnone, hmade, hlisted]
    · refine ⟨_, host.freeBuffer buffer s', _, .unwanted hnames hlisted, ?_, ?_⟩ <;>
        simp [tryExplicit, hnone, hmade, hlisted]
  · refine ⟨_, s', _, .failed cause hnames, ?_, ?_⟩ <;> simp [tryExplicit, hnone, hmade]
  · refine ⟨_, s', _, .fault f hnames, ?_, ?_⟩ <;> simp [tryExplicit, hnone, hmade]

theorem tryImplicit_overheard (error : Option Failure) (leaves : q.Leaves) :
    ∃ outcome s' heard, Ending q (.refused error) heard outcome ∧
      host.tryImplicit q.width q.height q.fourcc q.modifiers s = (outcome, s') ∧
      host.overheard.tryImplicit q.width q.height q.fourcc q.modifiers (s, log)
        = (outcome, s', log ++ heard) := by
  rcases hmade : host.createImplicit q.width q.height q.fourcc usage s with
    ⟨buffer | cause | f, s'⟩
  · by_cases hwill : q.modifiers = [] ∨ buffer.format.modifier = .invalid
    · refine ⟨_, s', _, .accepted error leaves hwill, ?_, ?_⟩ <;> simp [tryImplicit, hmade, hwill]
    · refine ⟨_, host.freeBuffer buffer s', _, .unwanted error leaves hwill, ?_, ?_⟩ <;>
        simp [tryImplicit, hmade, hwill]
  · refine ⟨_, s', _, .failed error leaves cause, ?_, ?_⟩ <;> simp [tryImplicit, hmade]
  · refine ⟨_, s', _, .fault error leaves f, ?_, ?_⟩ <;> simp [tryImplicit, hmade]

end Host

/-! ## The two attempts together -/

theorem DeviceLog.lastCall?_append {log more : DeviceLog} {e : DeviceEntry}
    (h : more.lastCall? = some e) : (log ++ more).lastCall? = some e := by
  rw [lastCall?] at h ⊢
  rw [List.filter_append, List.getLast?_append, h]
  rfl

section

variable {q : ImageRequest} {heard more : DeviceLog} {attempt : Host.Attempt}
  {outcome : Outcome AllocationError Buffer}

open DeviceEntry

theorem FirstTry.entries (h : FirstTry q heard attempt) :
    ∀ e ∈ heard, (q.Names ∧ ∃ answer, e = q.explicitCall answer) ∨ ∃ buffer, e = .freed buffer := by
  cases h with
  | unasked => exact List.forall_mem_nil _
  | accepted names | failed _ names | fault _ names =>
    exact List.forall_mem_singleton.mpr (.inl ⟨names, _, rfl⟩)
  | unwanted names =>
    exact List.forall_mem_cons.mpr ⟨.inl ⟨names, _, rfl⟩,
      List.forall_mem_singleton.mpr (.inr ⟨_, rfl⟩)⟩

theorem Ending.entries (h : Ending q attempt more outcome) :
    ∀ e ∈ more, (∃ answer, e = q.implicitCall answer) ∨ ∃ buffer, e = .freed buffer := by
  cases h with
  | settled | broken | exhausted => exact List.forall_mem_nil _
  | accepted | failed | fault => exact List.forall_mem_singleton.mpr (.inl ⟨_, rfl⟩)
  | unwanted =>
    exact List.forall_mem_cons.mpr ⟨.inl ⟨_, rfl⟩, List.forall_mem_singleton.mpr (.inr ⟨_, rfl⟩)⟩

theorem FirstTry.explicit_iff (h : FirstTry q heard attempt) :
    (∃ e ∈ heard, e.isExplicit) ↔ q.Names := by
  cases h with
  | unasked names => exact iff_of_false (fun ⟨_, h, _⟩ => List.not_mem_nil h) names
  | accepted names | unwanted names | failed _ names | fault _ names =>
    exact iff_of_true ⟨_, List.mem_cons_self, rfl⟩ names

/-- The first attempt leaves it at that exactly if its call came to nothing. -/
theorem FirstTry.refused_iff (h : FirstTry q heard attempt) :
    (∀ e ∈ heard, e.isExplicit → ¬ e.Accepted q ∧ ∀ f, e.answer? ≠ some (.fault f)) ↔
      ∃ error, attempt = .refused error := by
  cases h with
  | unasked => exact iff_of_true (List.forall_mem_nil _) ⟨none, rfl⟩
  | accepted _ listed =>
    refine iff_of_false (fun h => ?_) (fun ⟨_, h⟩ => nomatch h)
    exact (h _ List.mem_cons_self rfl).1 listed
  | unwanted _ unlisted =>
    refine iff_of_true (List.forall_mem_cons.mpr ⟨fun _ => ⟨unlisted, nofun⟩, ?_⟩) ⟨none, rfl⟩
    exact List.forall_mem_singleton.mpr nofun
  | failed cause =>
    exact iff_of_true (List.forall_mem_singleton.mpr fun _ => ⟨id, nofun⟩) ⟨_, rfl⟩
  | fault f =>
    refine iff_of_false (fun h => ?_) (fun ⟨_, h⟩ => nomatch h)
    exact (h _ List.mem_cons_self rfl).2 f rfl

theorem Ending.implicit_iff (h : Ending q attempt more outcome) :
    (∃ e ∈ more, e.isImplicit) ↔ q.Leaves ∧ ∃ error, attempt = .refused error := by
  cases h with
  | settled | broken =>
    exact iff_of_false (fun ⟨_, h, _⟩ => List.not_mem_nil h) (fun ⟨_, _, h⟩ => nomatch h)
  | exhausted error leaves =>
    exact iff_of_false (fun ⟨_, h, _⟩ => List.not_mem_nil h) (fun h => leaves h.1)
  | accepted error leaves | unwanted error leaves | failed error leaves | fault error leaves =>
    exact iff_of_true ⟨_, List.mem_cons_self, rfl⟩ ⟨leaves, error, rfl⟩

theorem FirstTry.calls (h : FirstTry q heard attempt) :
    heard.filter (·.answer?.isSome) = heard.filter (·.isExplicit) ∧
      heard.filter (·.isImplicit) = [] ∧ (heard.filter (·.isExplicit)).length ≤ 1 := by
  cases h with
  | unasked => exact ⟨rfl, rfl, Nat.zero_le 1⟩
  | accepted | unwanted | failed | fault => exact ⟨rfl, rfl, Nat.le_refl 1⟩

theorem Ending.calls (h : Ending q attempt more outcome) :
    more.filter (·.answer?.isSome) = more.filter (·.isImplicit) ∧
      more.filter (·.isExplicit) = [] ∧ (more.filter (·.isImplicit)).length ≤ 1 := by
  cases h with
  | settled | broken | exhausted => exact ⟨rfl, rfl, Nat.zero_le 1⟩
  | accepted | unwanted | failed | fault => exact ⟨rfl, rfl, Nat.le_refl 1⟩

/-- A buffer that was just made and not freed is the one that is accepted. -/
theorem FirstTry.unfreed (h : FirstTry q heard attempt) :
    ∀ e ∈ heard.getLast?, ∀ buffer, e.answer? = some (.done buffer) →
      attempt = .accepted buffer := by
  rintro e he buffer hmade
  cases h with
  | unasked => nomatch he
  | accepted =>
    obtain rfl := Option.some.inj he
    cases hmade
    rfl
  | unwanted | failed | fault =>
    obtain rfl := Option.some.inj he
    nomatch hmade

theorem FirstTry.freed_at_once (h : FirstTry q heard attempt) :
    heard.IsChain fun e next => ∀ buffer, e.answer? = some (.done buffer) →
      ¬ e.Accepted q ∧ next = .freed buffer := by
  cases h with
  | unasked => exact .nil
  | accepted | failed | fault => exact .singleton _
  | unwanted _ unlisted =>
    refine List.isChain_pair.mpr fun buffer hmade => ?_
    cases hmade
    exact ⟨unlisted, rfl⟩

theorem Ending.freed_at_once (h : Ending q attempt more outcome) :
    more.IsChain fun e next => ∀ buffer, e.answer? = some (.done buffer) →
      ¬ e.Accepted q ∧ next = .freed buffer := by
  cases h with
  | settled | broken | exhausted => exact .nil
  | accepted | failed | fault => exact .singleton _
  | unwanted _ _ wont =>
    refine List.isChain_pair.mpr fun buffer hmade => ?_
    cases hmade
    exact ⟨wont, rfl⟩

theorem FirstTry.refused_freed (h : FirstTry q heard attempt) :
    ∀ e ∈ heard, ∀ buffer, e.answer? = some (.done buffer) → ¬ e.Accepted q →
      .freed buffer ∈ heard := by
  cases h with
  | unasked => exact List.forall_mem_nil _
  | accepted _ listed =>
    refine List.forall_mem_singleton.mpr fun buffer hmade hrefused => ?_
    exact absurd listed hrefused
  | unwanted =>
    refine List.forall_mem_cons.mpr ⟨fun buffer hmade _ => ?_, List.forall_mem_singleton.mpr nofun⟩
    cases hmade
    exact List.mem_cons_of_mem _ List.mem_cons_self
  | failed | fault => exact List.forall_mem_singleton.mpr nofun

theorem Ending.refused_freed (h : Ending q attempt more outcome) :
    ∀ e ∈ more, ∀ buffer, e.answer? = some (.done buffer) → ¬ e.Accepted q →
      .freed buffer ∈ more := by
  cases h with
  | settled | broken | exhausted => exact List.forall_mem_nil _
  | accepted _ _ will =>
    refine List.forall_mem_singleton.mpr fun buffer hmade hrefused => ?_
    exact absurd will hrefused
  | unwanted =>
    refine List.forall_mem_cons.mpr ⟨fun buffer hmade _ => ?_, List.forall_mem_singleton.mpr nofun⟩
    cases hmade
    exact List.mem_cons_of_mem _ List.mem_cons_self
  | failed | fault => exact List.forall_mem_singleton.mpr nofun

variable (first : FirstTry q heard attempt) (ending : Ending q attempt more outcome)

include first ending

/-- The two attempts make a negotiation. -/
theorem Negotiation.of_attempts : Negotiation q (heard ++ more) outcome where
  order := by
    obtain ⟨hfirst, hnone, -⟩ := first.calls
    obtain ⟨hsecond, hnone', -⟩ := ending.calls
    simp only [List.filter_append, hfirst, hsecond, hnone, hnone', List.append_nil,
      List.nil_append]
  explicit_once := by
    rw [List.filter_append, ending.calls.2.1, List.append_nil]
    exact first.calls.2.2
  implicit_once := by
    rw [List.filter_append, first.calls.2.1, List.nil_append]
    exact ending.calls.2.2
  explicit_iff := by
    have hmore : ¬ ∃ e ∈ more, e.isExplicit := by
      simpa [List.filter_eq_nil_iff] using ending.calls.2.1
    simp only [List.mem_append, or_and_right, exists_or, or_iff_left hmore]
    exact first.explicit_iff
  explicit_passed := by
    intro width height fourcc modifiers answer h
    have hcall : q.Names ∧ ∃ answer', DeviceEntry.explicit width height fourcc modifiers answer
        = q.explicitCall answer' := by
      rcases List.mem_append.mp h with h | h
      · exact (first.entries _ h).resolve_right (by simp)
      · exact absurd (ending.entries _ h) (by simp)
    obtain ⟨names, answer', hcall⟩ := hcall
    obtain ⟨rfl, rfl, rfl, rfl, -⟩ := DeviceEntry.explicit.inj hcall
    exact ⟨rfl, rfl, rfl, rfl, ImageRequest.names_iff.mp names, by simp [Host.explicitModifiers]⟩
  implicit_iff := by
    have hheard : ¬ ∃ e ∈ heard, e.isImplicit := by
      simpa [List.filter_eq_nil_iff] using first.calls.2.1
    have hmore : ∀ e ∈ more, e.isExplicit → ¬ e.Accepted q ∧ ∀ f, e.answer? ≠ some (.fault f) :=
      fun e he hexplicit => absurd hexplicit (List.filter_eq_nil_iff.mp ending.calls.2.1 e he)
    have hasked : (∃ e ∈ heard ++ more, e.isImplicit) ↔ ∃ e ∈ more, e.isImplicit := by
      simp only [List.mem_append, or_and_right, exists_or, or_iff_right hheard]
    rw [hasked, List.forall_mem_append, and_iff_left hmore, first.refused_iff]
    exact ending.implicit_iff
  implicit_passed := by
    intro width height fourcc usage answer h
    have hcall : ∃ answer', DeviceEntry.implicit width height fourcc usage answer
        = q.implicitCall answer' := by
      rcases List.mem_append.mp h with h | h
      · exact absurd (first.entries _ h) (by simp)
      · exact (ending.entries _ h).resolve_right (by simp)
    obtain ⟨answer', hcall⟩ := hcall
    obtain ⟨rfl, rfl, rfl, rfl, -⟩ := DeviceEntry.implicit.inj hcall
    exact ⟨rfl, rfl, rfl, rfl⟩
  freed_at_once := by
    refine List.isChain_append.mpr ⟨first.freed_at_once, ending.freed_at_once, ?_⟩
    intro e he next hnext buffer hmade
    -- after an accepted buffer nothing more is heard
    obtain rfl := first.unfreed e he buffer hmade
    cases ending
    simp at hnext
  refused_freed := by
    intro e he buffer hmade hrefused
    rcases List.mem_append.mp he with he | he
    · exact List.mem_append_left _ (first.refused_freed e he buffer hmade hrefused)
    · exact List.mem_append_right _ (ending.refused_freed e he buffer hmade hrefused)
  layout := by
    rintro buffer rfl hsome
    cases ending with
    | settled =>
      cases first with
      | accepted _ listed => exact listed
    | accepted _ leaves will =>
      rw [will.resolve_left hsome]
      exact leaves.resolve_left hsome
  conclusion := by
    cases ending with
    | settled buffer =>
      cases first with
      | accepted _ listed => exact ⟨_, rfl, .found rfl listed⟩
    | broken f =>
      cases first
      exact ⟨_, rfl, .fault rfl⟩
    | exhausted error leaves =>
      cases first with
      | unasked names => exact absurd q.names_or_leaves (not_or.mpr ⟨names, leaves⟩)
      | unwanted _ unlisted => exact ⟨_, rfl, .refused rfl unlisted⟩
      | failed cause =>
        rw [if_neg fun hinvalid => leaves (.inr hinvalid)]
        exact ⟨_, rfl, .failed rfl⟩
    | accepted _ _ will => exact ⟨_, DeviceLog.lastCall?_append rfl, .found rfl will⟩
    | unwanted _ _ wont => exact ⟨_, DeviceLog.lastCall?_append rfl, .refused rfl wont⟩
    | failed _ _ cause => exact ⟨_, DeviceLog.lastCall?_append rfl, .failed rfl⟩
    | fault _ _ f => exact ⟨_, DeviceLog.lastCall?_append rfl, .fault rfl⟩

end

/-! ## The search for a buffer, and the allocation -/

theorem Host.createBuffer_overheard (host : Host σ) (q : ImageRequest) (s : σ) (log : DeviceLog) :
    ∃ outcome s' heard, Negotiation q heard outcome ∧
      host.createBuffer q.width q.height q.fourcc q.modifiers s = (outcome, s') ∧
      host.overheard.createBuffer q.width q.height q.fourcc q.modifiers (s, log)
        = (outcome, s', log ++ heard) := by
  obtain ⟨attempt, s₁, heard, hfirst, hplain, hover⟩ := host.tryExplicit_overheard q s log
  rcases attempt with buffer | error | f
  · refine ⟨_, s₁, _, .of_attempts hfirst (.settled buffer), ?_, ?_⟩
    · simp only [createBuffer, hplain]
    · simp only [createBuffer, hover, List.append_nil]
  · by_cases hleaves : q.Leaves
    · have hif : (q.modifiers.isEmpty || .invalid ∈ q.modifiers) = true := by
        simpa [ImageRequest.Leaves] using hleaves
      obtain ⟨outcome, s₂, more, hending, hplain₂, hover₂⟩ :=
        host.tryImplicit_overheard q s₁ (log ++ heard) error hleaves
      refine ⟨outcome, s₂, heard ++ more, .of_attempts hfirst hending, ?_, ?_⟩
      · simp only [createBuffer, hplain, hif, if_true, hplain₂]
      · simp only [createBuffer, hover, hif, if_true, hover₂, List.append_assoc]
    · have hif : (q.modifiers.isEmpty || .invalid ∈ q.modifiers) = false := by
        simpa [ImageRequest.Leaves] using hleaves
      refine ⟨_, s₁, _, .of_attempts hfirst (.exhausted error hleaves), ?_, ?_⟩
      · simp only [createBuffer, hplain, hif]
        cases error <;> rfl
      · simp only [createBuffer, hover, hif, List.append_nil]
        cases error <;> rfl
  · refine ⟨_, s₁, _, .of_attempts hfirst (.broken f), ?_, ?_⟩
    · simp only [createBuffer, hplain]
    · simp only [createBuffer, hover, List.append_nil]

namespace Host

variable (host : Host σ) (image : Image) (s : σ) (log : DeviceLog)

theorem hookCreate_overheard :
    host.overheard.hookCreate image (s, log)
      = ((host.hookCreate image s).1, (host.hookCreate image s).2, log) := by
  cases hhooks : host.hooks <;> simp [hookCreate, overheard, Hooks.overheard, hhooks]

theorem hookDestroy_overheard :
    host.overheard.hookDestroy image (s, log)
      = ((host.hookDestroy image s).1, (host.hookDestroy image s).2, log) := by
  cases hhooks : host.hooks <;> simp [hookDestroy, overheard, Hooks.overheard, hhooks]

@[simp] theorem overheard_attach :
    host.overheard.attach image (s, log)
      = ((host.attach image s).1, (host.attach image s).2, log) := rfl

@[simp] theorem overheard_exportBuffer (buffer : Buffer) :
    host.overheard.exportBuffer buffer (s, log)
      = ((host.exportBuffer buffer s).1, (host.exportBuffer buffer s).2, log) := rfl

@[simp] theorem overheard_nextImageId :
    host.overheard.nextImageId (s, log)
      = ((host.nextImageId s).1, (host.nextImageId s).2, log) := rfl

/-- While an image is imported the device is not called; if that fails, it gets the buffer back. -/
theorem importImage_overheard :
    ∃ freed : List Buffer, host.overheard.importImage image (s, log)
      = ((host.importImage image s).1, (host.importImage image s).2,
        log ++ freed.map .freed) := by
  rcases hhook : host.hookCreate image s with ⟨e | hooked, s₁⟩
  · refine ⟨[image.buffer], ?_⟩
    simp [importImage, hookCreate_overheard, hhook, dropImage]
  rcases hattach : host.attach hooked s₁ with ⟨e | attached, s₂⟩
  · refine ⟨[(host.hookDestroy hooked s₂).1.buffer], ?_⟩
    simp [importImage, hookCreate_overheard, hookDestroy_overheard, hhook, hattach, dropImage]
  · refine ⟨[], ?_⟩
    simp [importImage, hookCreate_overheard, hhook, hattach]

end Host

namespace Allocator

variable {host : Host σ} {q : ImageRequest} {s s₁ : σ} {log log' : DeviceLog}

/-- Once a buffer is found, the device hears of it only that it is freed. -/
theorem allocate_overheard {buffer : Buffer} (hsize : ¬ (q.width = 0 ∨ q.height = 0))
    (hplain : host.createBuffer q.width q.height q.fourcc q.modifiers s = (.done buffer, s₁))
    (hover : host.overheard.createBuffer q.width q.height q.fourcc q.modifiers (s, log)
      = (.done buffer, s₁, log')) (a : Allocator) :
    let result := allocate host q.width q.height q.fourcc q.modifiers a s
    ∃ freed : List Buffer,
      allocate host.overheard q.width q.height q.fourcc q.modifiers a (s, log)
        = (result.1, result.2.1, result.2.2, log' ++ freed.map .freed) := by
  rcases hexport : host.exportBuffer buffer s₁ with ⟨e | dmabuf, s₂⟩
  · refine ⟨[buffer], ?_⟩
    simp [allocate, hsize, hplain, hover, hexport]
  rcases hid : host.nextImageId s₂ with ⟨id, s₃⟩
  obtain ⟨freed, himport⟩ := host.importImage_overheard
    { id := id, dmabuf := dmabuf, buffer := buffer } s₃ log'
  refine ⟨freed, ?_⟩
  simp only [allocate, if_neg hsize, hplain, hover, Host.overheard_exportBuffer, hexport,
    Host.overheard_nextImageId, hid, himport]
  rcases host.importImage { id := id, dmabuf := dmabuf, buffer := buffer } s₃ with
    ⟨e | image, s₄⟩ <;> rfl

/-- **The device is asked for the layouts that were listed, and for nothing else.** Whatever the
device answers, what it hears of an allocation is a negotiation, and after that at most the freeing
of buffers. A search for a buffer that fails is the failure of the allocation, and then the device
hears nothing more. -/
theorem buffer_negotiated (host : Host σ) (q : ImageRequest) (hwidth : q.width ≠ 0)
    (hheight : q.height ≠ 0) (a : Allocator) (s : σ) (log : DeviceLog) :
    let result := allocate host q.width q.height q.fourcc q.modifiers a s
    ∃ outcome s₁ heard, ∃ freed : List Buffer, Negotiation q heard outcome ∧
      host.createBuffer q.width q.height q.fourcc q.modifiers s = (outcome, s₁) ∧
      allocate host.overheard q.width q.height q.fourcc q.modifiers a (s, log)
        = (result.1, result.2.1, result.2.2, log ++ heard ++ freed.map .freed) ∧
      (∀ e, outcome = .failed e → result.1 = .failed e ∧ freed = []) ∧
      (∀ f, outcome = .fault f → result.1 = .fault f ∧ freed = []) := by
  have hsize : ¬ (q.width = 0 ∨ q.height = 0) := not_or.mpr ⟨hwidth, hheight⟩
  obtain ⟨outcome, s₁, heard, hnegotiation, hplain, hover⟩ := host.createBuffer_overheard q s log
  rcases outcome with buffer | e | f
  · obtain ⟨freed, hend⟩ := allocate_overheard hsize hplain hover a
    exact ⟨_, s₁, heard, freed, hnegotiation, hplain, hend, by simp, by simp⟩
  · refine ⟨_, s₁, heard, [], hnegotiation, hplain, ?_, ?_, by simp⟩ <;>
      simp [allocate, hsize, hplain, hover]
  · refine ⟨_, s₁, heard, [], hnegotiation, hplain, ?_, by simp, ?_⟩ <;>
      simp [allocate, hsize, hplain, hover]

/-- A device that cannot make what is named, and otherwise makes a tiled buffer. -/
def contraryHost : Host Nat :=
  { createExplicit := fun _ _ _ _ n => (.failed { message := "no modifier support" }, n)
    createImplicit := fun width height fourcc _ n =>
      (.done (.device 0 n width height ⟨fourcc, ⟨0x0100000000000001⟩⟩), n + 1)
    exportBuffer := fun _ n => (.error { message := "no export" }, n)
    freeBuffer := fun _ n => n
    nextImageId := fun n => (⟨n⟩, n + 1)
    hooks := none
    attach := fun image n => (.ok image, n)
    detach := fun image n => (image, n) }

/-- Plain rows, or an implicit layout, or tiles that the device does not have. -/
def mixedRequest : ImageRequest :=
  ⟨64, 64, .xrgb8888, [.linear, .invalid, ⟨0x0100000000000002⟩, .linear]⟩

def tiledBuffer : Buffer := .device 0 0 64 64 ⟨.xrgb8888, ⟨0x0100000000000001⟩⟩

/-- Both calls come to nothing: the second one made a buffer, and in a layout that will not do. -/
theorem contrary_device_negotiated :
    mixedRequest.width ≠ 0 ∧ mixedRequest.height ≠ 0 ∧
    Negotiation mixedRequest
      [.explicit 64 64 .xrgb8888 [.linear, ⟨0x0100000000000002⟩, .linear]
          (.failed { message := "no modifier support" }),
        .implicit 64 64 .xrgb8888 ⟨3⟩ (.done tiledBuffer), .freed tiledBuffer]
      (.failed (.unsupportedModifiers .xrgb8888 mixedRequest.modifiers)) ∧
    (allocate contraryHost 64 64 .xrgb8888 mixedRequest.modifiers {} 0).1
      = .failed (.unsupportedModifiers .xrgb8888 mixedRequest.modifiers) := by
  have hwidth : mixedRequest.width ≠ 0 := by decide
  have hheight : mixedRequest.height ≠ 0 := by decide
  obtain ⟨outcome, s₁, heard, freed, hnegotiation, hsearch, hlog, hfailed, -⟩ :=
    buffer_negotiated contraryHost mixedRequest hwidth hheight {} 0 []
  obtain rfl : outcome = .failed (.unsupportedModifiers .xrgb8888 mixedRequest.modifiers) := by
    refine (congrArg Prod.fst hsearch).symm.trans ?_
    decide +kernel
  obtain ⟨hresult, rfl⟩ := hfailed _ rfl
  have hheard : heard = [.explicit 64 64 .xrgb8888 [.linear, ⟨0x0100000000000002⟩, .linear]
      (.failed { message := "no modifier support" }),
      .implicit 64 64 .xrgb8888 ⟨3⟩ (.done tiledBuffer), .freed tiledBuffer] := by
    have hwritten := congrArg (·.2.2.2) hlog
    simp only [List.nil_append, List.map_nil, List.append_nil] at hwritten
    rw [← hwritten]
    decide +kernel
  exact ⟨hwidth, hheight, hheard ▸ hnegotiation, hresult⟩

end Allocator

end Scanout
