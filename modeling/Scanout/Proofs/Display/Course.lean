import Scanout.Proofs.Output.Settled

/-!
# A display and its compositor

Both kinds of displays offer a compositor the same calls, and both keep their outputs in a
registry. `Display` is what they have in common, with events of a server that are a display's
own affair, and `Lawful` says how each operation is seen in the registry: a `Move`, a new
output, or the loss of the connection. A `Course` is a run of a display: calls and events in
any order, the loss of the connection at any time and as often as one likes, and now and then
the compositor has the events delivered.

The rest of this file takes one step of a lawful display apart (`step_advance`), shows that
the registry stays tidy, and that the images a display took are all still there.
-/

namespace Scanout

namespace Registry

variable {δ σ : Type}

/-- What holds of the registry of a display between two of its operations. -/
structure Tidy (r : Registry δ) : Prop where
  settled : r.Settled
  ids : r.ids.Nodup

/-- What an operation does that makes no output and does not lose the connection; `handed`
are the images it was handed. -/
inductive Move (r : Registry δ) : List Image → Registry δ → Prop where
  | still : Move r [] r
  | turned {id : OutputId} {o : Output δ} {t : FrameScheduler.Turn} {details : δ}
      {r' : Registry δ} (turn : r.Turned id o t details r') (lives : t.call ≠ .destroy)
      (whole : t.lost = []) : Move r t.handedIn r'
  | ended {σ : Type} (id : OutputId) {teardown : Output δ → σ → FrameScheduler × σ}
      (ends : Ends teardown) (s : σ) : Move r [] (r.destroy id teardown s).2.1

variable {r r' : Registry δ} {handed : List Image}

/-- Collecting the events of a settled registry does nothing. -/
theorem Settled.collect_eq (hr : r.Settled) : r.collect = r := by
  simp only [collect, waiting_eq_nil hr, map_drained_eq hr, List.append_nil, List.isEmpty_nil,
    Bool.not_true, Bool.or_false]

theorem Settled.destroy (hr : r.Settled) (id : OutputId)
    (teardown : Output δ → σ → FrameScheduler × σ) (s : σ) :
    (r.destroy id teardown s).2.1.Settled :=
  fun entry he => hr entry ((destroy_outputs r id teardown s).subset he)

theorem Tidy.destroy (hr : r.Tidy) (id : OutputId)
    (teardown : Output δ → σ → FrameScheduler × σ) (s : σ) :
    (r.destroy id teardown s).2.1.Tidy :=
  ⟨hr.settled.destroy id teardown s, ((destroy_outputs r id teardown s).map _).nodup hr.ids⟩

theorem Move.tidy (h : r.Move handed r') (hr : r.Tidy) : r'.Tidy := by
  cases h with
  | still => exact hr
  | turned turn => exact ⟨turn.settled hr.settled, turn.ids_eq ▸ hr.ids⟩
  | ended id ends s => exact hr.destroy id _ s

theorem Move.ids_subset (h : r.Move handed r') : ∀ id ∈ r'.ids, id ∈ r.ids := by
  cases h with
  | still => exact fun _ hid => hid
  | turned turn => exact fun id hid => turn.ids_eq ▸ hid
  | ended id ends s => exact fun _ hid => ((destroy_outputs r id _ s).map _).subset hid

theorem Tidy.insert (hr : r.Tidy) {id : OutputId} (hnew : id ∉ r.ids) (details : δ) :
    (r.insert id ⟨{}, details⟩).Tidy := by
  refine ⟨hr.settled.insert id details, ?_⟩
  rw [insert_ids]
  exact List.nodup_append.mpr ⟨hr.ids, List.nodup_singleton id,
    fun other hother x hx heq => hnew (List.mem_singleton.mp hx ▸ heq ▸ hother)⟩

theorem Tidy.disconnect (hr : r.Tidy) {teardown : Output δ → σ → FrameScheduler × σ}
    (hends : Ends teardown) (s : σ) : (r.disconnect teardown s).2.1.Tidy := by
  have hsub := disconnect_outputs hr.ids hends s
  exact ⟨fun entry he => hr.settled entry (hsub.subset he), (hsub.map _).nodup hr.ids⟩

/-- The images of a display are those it had and those it was handed. -/
theorem Move.images_perm (h : r.Move handed r') (hr : r.Tidy) :
    r'.images.Perm (r.images ++ handed) := by
  cases h with
  | still => rw [List.append_nil]
  | turned turn lives whole =>
    have hperm := turn.images_perm hr.settled
    rwa [whole, List.append_nil] at hperm
  | ended id ends s =>
    rw [List.append_nil]
    exact destroy_images hr.ids ends id s

theorem Move.disconnected_eq (h : r.Move handed r') : r'.disconnected = r.disconnected := by
  cases h with
  | still => rfl
  | turned turn =>
    obtain ⟨-, -, -⟩ := turn
    rfl
  | ended id ends s => exact destroy_disconnected r id _ s

/-- Where there is no output, nothing can happen. -/
theorem Move.of_empty (h : r.Move handed r') (hr : r.outputs = []) : r' = r ∧ handed = [] := by
  cases h with
  | still => exact ⟨rfl, rfl⟩
  | turned turn =>
    have hget := turn.get?
    rw [Registry.get?, hr] at hget
    exact absurd hget (by simp)
  | ended id ends s =>
    have hget : r.get? id = none := by rw [Registry.get?, hr]; rfl
    rw [destroy_absent hget]
    exact ⟨rfl, rfl⟩

end Registry

namespace ScheduleOutcome

/-- Whether the call broke a contract. -/
def broke : ScheduleOutcome → Bool
  | submitted (.fault ..) => true
  | _ => false

/-- The image, if the display took it. -/
def taken (image : Image) : ScheduleOutcome → List Image
  | submitted _ => [image]
  | unknownOutput _ => []

end ScheduleOutcome

/-- What a compositor sees of a display. -/
structure Display (κ δ ε : Type) where
  registry : κ → Registry δ
  /-- Whether an output was made. -/
  createOutput : OutputId → κ → Bool × κ
  scheduleFrame : OutputId → Image → κ → ScheduleOutcome × κ
  destroyOutput : OutputId → κ → κ
  connectionClosed : κ → κ
  /-- Hands the queued events over. -/
  deliver : κ → List BackendEvent × κ
  /-- Something else happens; says whether no contract was broken. -/
  handle : ε → κ → Bool × κ

namespace Display

variable {κ δ ε : Type}

/-- How the operations of a display are seen in its registry. -/
structure Lawful (D : Display κ δ ε) : Prop where
  createOutput : ∀ id c,
    ((D.createOutput id c).1 = false ∧
      D.registry (D.createOutput id c).2 = D.registry c) ∨
    ((D.createOutput id c).1 = true ∧ (D.registry c).disconnected = false ∧
      ∃ details, D.registry (D.createOutput id c).2
        = (D.registry c).insert id ⟨{}, details⟩)
  scheduleFrame : ∀ id image c, (D.registry c).Tidy →
    (D.scheduleFrame id image c).1.broke = false →
    (D.registry c).Move ((D.scheduleFrame id image c).1.taken image)
      (D.registry (D.scheduleFrame id image c).2)
  destroyOutput : ∀ id c, (D.registry c).Move [] (D.registry (D.destroyOutput id c))
  connectionClosed : ∃ (σ : Type) (teardown : Output δ → σ → FrameScheduler × σ) (s : σ),
    Registry.Ends teardown ∧
    ∀ c, D.registry (D.connectionClosed c) = ((D.registry c).disconnect teardown s).2.1
  deliver : ∀ c, (D.deliver c).1 = (D.registry c).takeEvents.1 ∧
    D.registry (D.deliver c).2 = (D.registry c).takeEvents.2
  handle : ∀ e c, (D.registry c).Tidy → (D.handle e c).1 = true →
    (D.registry c).Move [] (D.registry (D.handle e c).2)

/-- What can happen to a display. -/
inductive Call (ε : Type) where
  /-- Identifiers are drawn from one source, others may have drawn some meanwhile. -/
  | createOutput (skipped : Nat)
  | scheduleFrame (id : OutputId) (image : Image)
  | destroyOutput (id : OutputId)
  | connectionClosed
  | deliver
  | other (e : ε)
  deriving DecidableEq, Repr

/-- A run of a display. -/
structure Course (κ : Type) where
  client : κ
  /-- The number the next output has at least. -/
  next : Nat := 0
  /-- The outputs that were made. -/
  made : List OutputId := []
  /-- The images the display took, accepted or refused. -/
  taken : List Image := []
  delivered : List BackendEvent := []
  /-- Whether a call broke a contract. Nothing happens afterwards. -/
  broken : Bool := false
  deriving DecidableEq, Repr

namespace Course

def start (c : κ) : Course κ := { client := c }

def step (D : Display κ δ ε) (w : Course κ) (call : Call ε) : Course κ :=
  if w.broken then w
  else
    match call with
    | .createOutput skipped =>
      let id : OutputId := ⟨w.next + skipped⟩
      let (made, c) := D.createOutput id w.client
      { w with
        client := c
        next := id.number + 1
        made := if made then w.made ++ [id] else w.made }
    | .scheduleFrame id image =>
      let (outcome, c) := D.scheduleFrame id image w.client
      { w with
        client := c
        taken := w.taken ++ outcome.taken image
        broken := outcome.broke }
    | .destroyOutput id => { w with client := D.destroyOutput id w.client }
    | .connectionClosed => { w with client := D.connectionClosed w.client }
    | .deliver =>
      let (events, c) := D.deliver w.client
      { w with client := c, delivered := w.delivered ++ events }
    | .other e =>
      let (held, c) := D.handle e w.client
      { w with client := c, broken := !held }

def run (D : Display κ δ ε) (w : Course κ) (calls : List (Call ε)) : Course κ :=
  calls.foldl (step D) w

/-- Every event so far: those delivered, and those that wait to be. -/
def history (D : Display κ δ ε) (w : Course κ) : List BackendEvent :=
  w.delivered ++ (D.registry w.client).events

/-- What one step of a lawful display can be. -/
inductive Advance (D : Display κ δ ε) (w : Course κ) : Course κ → Prop where
  | moved {handed : List Image} {c : κ} {next : Nat}
      (move : (D.registry w.client).Move handed (D.registry c)) (next_le : w.next ≤ next) :
    Advance D w { w with client := c, next := next, taken := w.taken ++ handed }
  | opened {id : OutputId} {c : κ} {details : δ} (new : w.next ≤ id.number)
      (connected : (D.registry w.client).disconnected = false)
      (registry_eq : D.registry c = (D.registry w.client).insert id ⟨{}, details⟩) :
    Advance D w { w with client := c, next := id.number + 1, made := w.made ++ [id] }
  | lost {c : κ} {σ : Type} {teardown : Output δ → σ → FrameScheduler × σ} {s : σ}
      (ends : Registry.Ends teardown)
      (registry_eq : D.registry c = ((D.registry w.client).disconnect teardown s).2.1) :
    Advance D w { w with client := c }
  | told {c : κ} (registry_eq : D.registry c = (D.registry w.client).takeEvents.2) :
    Advance D w { w with
      client := c
      delivered := w.delivered ++ (D.registry w.client).events }

variable {D : Display κ δ ε} {w w' : Course κ}

theorem step_broken (h : w.broken = true) (call : Call ε) : w.step D call = w := by
  simp only [step, h, if_true]

/-- A step that breaks no contract is one of the few there are. -/
theorem step_advance (hD : D.Lawful) (hr : (D.registry w.client).Tidy) (call : Call ε)
    (hholds : (w.step D call).broken = false) : w.Advance D (w.step D call) := by
  have hw : w.broken = false := by
    by_contra hbroken
    rw [Bool.not_eq_false] at hbroken
    rw [step_broken hbroken, hbroken] at hholds
    exact absurd hholds (by simp)
  have hstep := hholds
  cases call with
  | createOutput skipped =>
    rcases hD.createOutput ⟨w.next + skipped⟩ w.client with ⟨hmade, hsame⟩ | ⟨hmade, hlive, _, hnew⟩
    · have hmove : (D.registry w.client).Move []
          (D.registry (D.createOutput ⟨w.next + skipped⟩ w.client).2) := by
        rw [hsame]
        exact .still
      have hadvance := Advance.moved hmove (show w.next ≤ w.next + skipped + 1 by omega)
      simpa only [step, hw, Bool.false_eq_true, if_false, hmade, List.append_nil] using hadvance
    · have hadvance := Advance.opened (w := w) (Nat.le_add_right w.next skipped) hlive hnew
      simpa only [step, hw, Bool.false_eq_true, if_false, hmade, if_true] using hadvance
  | scheduleFrame id image =>
    simp only [step, hw, Bool.false_eq_true, if_false] at hstep ⊢
    have hadvance := Advance.moved (hD.scheduleFrame id image w.client hr hstep) (Nat.le_refl w.next)
    rw [hstep]
    simpa only [hw] using hadvance
  | destroyOutput id =>
    have hadvance := Advance.moved (hD.destroyOutput id w.client) (Nat.le_refl w.next)
    simpa only [step, hw, Bool.false_eq_true, if_false, List.append_nil] using hadvance
  | connectionClosed =>
    obtain ⟨σ, teardown, s, hends, hlost⟩ := hD.connectionClosed
    have hadvance := Advance.lost (w := w) hends (hlost w.client)
    simpa only [step, hw, Bool.false_eq_true, if_false] using hadvance
  | deliver =>
    obtain ⟨hevents, hrest⟩ := hD.deliver w.client
    have hadvance := Advance.told (w := w) hrest
    simpa only [step, hw, Bool.false_eq_true, if_false, hevents, Registry.takeEvents] using hadvance
  | other e =>
    simp only [step, hw, Bool.false_eq_true, if_false] at hstep ⊢
    have hadvance := Advance.moved (hD.handle e w.client hr (by simpa using hstep))
      (Nat.le_refl w.next)
    rw [hstep]
    simpa only [hw, List.append_nil] using hadvance

end Course

end Display

end Scanout
