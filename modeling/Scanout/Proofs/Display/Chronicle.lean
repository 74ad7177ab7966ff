import Scanout.Proofs.Display.Course

/-!
# What a compositor is told

A compositor learns of the outputs of a display through one stream of events. Of every output
it is told in three phases: nothing, then its announcement and what happens on it, and at last
its end. The loss of the connection ends the stream. `Orderly` collects what a compositor can
rely on, and `Lawful.orderly` proves it of every run of every lawful display.

The proof keeps the phase of every output in step with the registry (`Inv.told`): an output is
in its second phase as long as the registry has it.
-/

namespace Scanout

/-- Whether an event is about an output. -/
def BackendEvent.concerns (id : OutputId) : BackendEvent → Bool
  | newOutput other => other = id
  | output other _ => other = id
  | disconnected => false

/-- What was told of one output. -/
def story (id : OutputId) (events : List BackendEvent) : List BackendEvent :=
  events.filter (·.concerns id)

/-- The outputs that were announced. -/
def announced (events : List BackendEvent) : List OutputId :=
  events.filterMap fun
    | .newOutput id => some id
    | _ => none

/-- How far the story of an output is. -/
inductive Phase where
  | unheard
  | live
  | gone
  deriving DecidableEq, Repr

/-- An output that was made is gone when it is not live any more. -/
def Phase.of (live made : Bool) : Phase :=
  if live then .live else if made then .gone else .unheard

/-- What can have been told of an output in each of its phases. -/
inductive Told (id : OutputId) : Phase → List BackendEvent → Prop where
  | unheard : Told id .unheard []
  | live (events : List OutputEvent) (lives : OutputEvent.destroyed ∉ events) :
    Told id .live (.newOutput id :: events.map (.output id))
  | gone (events : List OutputEvent) (lives : OutputEvent.destroyed ∉ events) :
    Told id .gone (.newOutput id :: (events ++ [OutputEvent.destroyed]).map (.output id))

/-- What is told next of an output that was live or not, and is live or not afterwards. -/
inductive Sequel (id : OutputId) : Bool → Bool → List BackendEvent → Prop where
  | absent : Sequel id false false []
  | goesOn (queued : List OutputEvent) (lives : OutputEvent.destroyed ∉ queued) :
    Sequel id true true (queued.map (.output id))
  | ends (queued : List OutputEvent) (lives : OutputEvent.destroyed ∉ queued) :
    Sequel id true false ((queued ++ [OutputEvent.destroyed]).map (.output id))

section

variable {id other : OutputId} {events more : List BackendEvent} {queued : List OutputEvent}

theorem story_append : story id (events ++ more) = story id events ++ story id more :=
  List.filter_append ..

theorem story_own : story id (queued.map (.output id)) = queued.map (.output id) := by
  rw [story, List.filter_eq_self]
  intro e he
  obtain ⟨_, -, rfl⟩ := List.mem_map.mp he
  exact decide_eq_true rfl

theorem story_foreign (hne : other ≠ id) : story id (queued.map (.output other)) = [] := by
  rw [story, List.filter_eq_nil_iff]
  intro e he
  obtain ⟨_, -, rfl⟩ := List.mem_map.mp he
  simpa [BackendEvent.concerns] using hne

theorem announced_append : announced (events ++ more) = announced events ++ announced more :=
  List.filterMap_append

/-- Events of outputs announce nothing, and not the loss either. -/
theorem quiet_of_outputs (h : ∀ e ∈ events, ∃ id told, e = .output id told) :
    announced events = [] ∧ .disconnected ∉ events := by
  refine ⟨List.filterMap_eq_nil_iff.mpr fun e he => ?_, fun hmem => ?_⟩
  · obtain ⟨id, told, rfl⟩ := h e he
    rfl
  · obtain ⟨id, told, heq⟩ := h _ hmem
    exact absurd heq (by simp)

theorem mem_map_output {e : BackendEvent} (h : e ∈ queued.map (.output id)) :
    ∃ id told, e = .output id told := by
  obtain ⟨told, -, rfl⟩ := List.mem_map.mp h
  exact ⟨id, told, rfl⟩

/-- What is told next carries the story on. -/
theorem Told.append {before after made : Bool} (h : Told id (.of before made) events)
    (hnext : Sequel id before after more) (hmade : before = true → made = true) :
    Told id (.of after made) (events ++ more) := by
  cases hnext with
  | absent => rwa [List.append_nil]
  | goesOn queued lives =>
    obtain ⟨⟩ | ⟨earlier, hearlier⟩ := h
    rw [List.cons_append, ← List.map_append]
    exact .live _ fun hmem => (List.mem_append.mp hmem).elim hearlier lives
  | ends queued lives =>
    rw [hmade rfl]
    obtain ⟨⟩ | ⟨earlier, hearlier⟩ := h
    rw [List.cons_append, ← List.map_append, ← List.append_assoc]
    exact .gone _ fun hmem => (List.mem_append.mp hmem).elim hearlier lives

/-- What was told earlier is the story of an earlier phase. -/
theorem Told.of_earlier {phase : Phase} (h : Told id phase more) (hearlier : events <+: more) :
    ∃ phase, Told id phase events := by
  cases events with
  | nil => exact ⟨_, .unheard⟩
  | cons e rest =>
    cases h with
    | unheard => exact absurd hearlier.length_le (by simp)
    | live told lives =>
      obtain ⟨rfl, hrest⟩ := List.cons_prefix_cons.mp hearlier
      obtain ⟨told', htold', rfl⟩ := List.prefix_map_iff.mp hrest
      exact ⟨_, .live told' fun hmem => lives (htold'.subset hmem)⟩
    | gone told lives =>
      obtain ⟨rfl, hrest⟩ := List.cons_prefix_cons.mp hearlier
      obtain ⟨told', htold', rfl⟩ := List.prefix_map_iff.mp hrest
      -- either the end is not there yet, or all of it is
      rcases List.prefix_concat_iff.mp htold' with rfl | hshort
      · exact ⟨_, .gone told lives⟩
      · exact ⟨_, .live told' fun hmem => lives (hshort.subset hmem)⟩

theorem Told.destroyed_mem (h : Told id .gone events) : .output id .destroyed ∈ events := by
  cases h
  simp

end

/-- Only the end of an output is announced as its end. -/
theorem FrameScheduler.Effect.lives {f f' : FrameScheduler} {t : FrameScheduler.Turn}
    (h : f.Effect t f') (hcall : t.call ≠ .destroy) : OutputEvent.destroyed ∉ t.queued := by
  cases h with
  | ended => exact absurd rfl hcall
  | _ => simp

namespace Registry

variable {δ : Type} {r r' : Registry δ} {handed : List Image}

theorem Settled.lastEvents_eq (hr : r.Settled) {entry : OutputId × Output δ}
    (hentry : entry ∈ r.outputs) :
    ∃ queued, OutputEvent.destroyed ∉ queued ∧
      lastEvents entry = (queued ++ [OutputEvent.destroyed]).map (.output entry.1) := by
  refine ⟨entry.2.scheduler.kept.map .released, by simp, ?_⟩
  rw [lastEvents, FrameScheduler.remains, hr entry hentry, List.nil_append]

/-- An output of which nothing is told stays as it is. -/
theorem sequel_of_same (hids : ∀ id, id ∈ r'.ids ↔ id ∈ r.ids) (id : OutputId) :
    Sequel id (id ∈ r.ids) (id ∈ r'.ids) [] := by
  simp only [hids]
  by_cases hid : id ∈ r.ids
  · simp only [hid, decide_true]
    exact .goesOn [] List.not_mem_nil
  · simp only [hid, decide_false]
    exact .absent

/-- A turn tells of its own output, and not of the end. -/
theorem Turned.sequel {id : OutputId} {o : Output δ} {t : FrameScheduler.Turn} {details : δ}
    (h : r.Turned id o t details r') (hlives : t.call ≠ .destroy) (other : OutputId) :
    Sequel other (other ∈ r.ids) (other ∈ r'.ids) (story other (t.queued.map (.output id))) := by
  obtain ⟨f, heffect⟩ := h.effect
  have hid : id ∈ r.ids := List.mem_map_of_mem (mem_of_get? h.get?)
  by_cases heq : id = other
  · subst heq
    simp only [h.ids_eq, hid, decide_true, story_own]
    exact .goesOn t.queued (heffect.lives hlives)
  · rw [story_foreign heq]
    exact sequel_of_same (fun _ => by rw [h.ids_eq]) other

/-- A move tells of one output at most, and of its end only if the output goes. -/
theorem Move.sequel (h : r.Move handed r') (hr : r.Tidy) :
    ∃ more, r'.events = r.events ++ more ∧
      (∀ e ∈ more, ∃ id told, e = .output id told) ∧
      ∀ id, Sequel id (id ∈ r.ids) (id ∈ r'.ids) (story id more) := by
  cases h with
  | still =>
    exact ⟨[], (List.append_nil _).symm, by simp, sequel_of_same fun _ => .rfl⟩
  | @turned id o t details _ turn lives =>
    exact ⟨t.queued.map (.output id), turn.events_eq, fun e => mem_map_output, turn.sequel lives⟩
  | @ended _ id teardown ends s =>
    cases hget : r.get? id with
    | none =>
      rw [destroy_absent hget]
      exact ⟨[], (List.append_nil _).symm, by simp, sequel_of_same fun _ => .rfl⟩
    | some o =>
      have hmem := mem_of_get? hget
      obtain ⟨before, after, hat⟩ := at_of_mem hr.ids hmem
      obtain ⟨queued, hlives, hlast⟩ := hr.settled.lastEvents_eq hmem
      have hids : ∀ other, other ∈ (r.destroy id teardown s).2.1.ids ↔ other ≠ id ∧ other ∈ r.ids := by
        intro other
        rw [destroy_ids]
        simp [and_comm]
      refine ⟨(queued ++ [OutputEvent.destroyed]).map (.output id), by rw [hat.destroy_eq ends, hlast],
        fun e => mem_map_output, fun other => ?_⟩
      by_cases heq : id = other
      · subst heq
        have hid : id ∈ r.ids := List.mem_map_of_mem hmem
        have hgone : id ∉ (r.destroy id teardown s).2.1.ids := fun h => ((hids id).mp h).1 rfl
        simp only [hid, hgone, decide_true, decide_false, story_own]
        exact .ends queued hlives
      · rw [story_foreign heq]
        have hsame : other ∈ (r.destroy id teardown s).2.1.ids ↔ other ∈ r.ids := by
          rw [hids other]
          exact and_iff_right (Ne.symm heq)
        simp only [hsame]
        exact sequel_of_same (fun _ => .rfl) other

theorem mem_flatMap_lastEvents {e : BackendEvent} (h : e ∈ r.outputs.flatMap lastEvents) :
    ∃ id told, e = .output id told := by
  obtain ⟨entry, -, he⟩ := List.mem_flatMap.mp h
  exact mem_map_output he

/-- When all outputs go, each of them gets its own last events. -/
theorem Tidy.sequel_lastEvents (hr : r.Tidy) (id : OutputId) :
    Sequel id (id ∈ r.ids) false (story id (r.outputs.flatMap lastEvents)) := by
  have hforeign : ∀ entries : List (OutputId × Output δ), (∀ entry ∈ entries, entry.1 ≠ id) →
      story id (entries.flatMap lastEvents) = [] := by
    intro entries hne
    rw [story, List.filter_eq_nil_iff]
    intro e he
    obtain ⟨entry, hentry, he⟩ := List.mem_flatMap.mp he
    obtain ⟨told, -, rfl⟩ := List.mem_map.mp he
    simpa [BackendEvent.concerns] using hne entry hentry
  by_cases hid : id ∈ r.ids
  · obtain ⟨⟨id, o⟩, hmem, rfl⟩ := List.mem_map.mp hid
    obtain ⟨before, after, hat⟩ := at_of_mem hr.ids hmem
    obtain ⟨queued, hlives, hlast⟩ := hr.settled.lastEvents_eq hmem
    rw [hat.outputs_eq, List.flatMap_append, List.flatMap_cons, story_append, story_append,
      hforeign before hat.before_ne, hforeign after hat.after_ne, hlast, story_own,
      List.nil_append, List.append_nil]
    simp only [hid, decide_true]
    exact .ends queued hlives
  · rw [hforeign r.outputs fun entry he heq => hid (heq ▸ List.mem_map_of_mem he)]
    simp only [hid, decide_false]
    exact .absent

end Registry

namespace Display

variable {κ δ ε : Type}

namespace Course

variable {D : Display κ δ ε} {w w' : Course κ}

/-- How far an output is, going by the registry. -/
def phase (D : Display κ δ ε) (w : Course κ) (id : OutputId) : Phase :=
  .of (id ∈ (D.registry w.client).ids) (id ∈ w.made)

/-- The loss of the connection, if it was reported, is the last event, and no output is
left. -/
inductive Loss (D : Display κ δ ε) (w : Course κ) : Prop where
  | unreported (connected : (D.registry w.client).disconnected = false)
      (none : .disconnected ∉ w.history D)
  | reported (before : List BackendEvent)
      (disconnected : (D.registry w.client).disconnected = true)
      (empty : (D.registry w.client).outputs = [])
      (last : w.history D = before ++ [.disconnected]) (once : .disconnected ∉ before)

/-- How the events so far stand to the registry. -/
structure Inv (D : Display κ δ ε) (w : Course κ) : Prop where
  tidy : (D.registry w.client).Tidy
  known : ∀ id ∈ (D.registry w.client).ids, id ∈ w.made
  below : ∀ id ∈ w.made, id.number < w.next
  distinct : w.made.Nodup
  told : ∀ id, Told id (w.phase D id) (story id (w.history D))
  announced : announced (w.history D) = w.made
  loss : w.Loss D
  /-- Every image the display took is still with it or came back. -/
  images : w.taken.Perm ((D.registry w.client).images ++ returnedImages w.delivered)

theorem start_inv {c : κ} (hc : D.registry c = {}) : (start c).Inv D where
  tidy := by rw [start, hc]; exact ⟨fun _ h => absurd h List.not_mem_nil, List.nodup_nil⟩
  known := by rw [start, hc]; exact fun _ h => absurd h List.not_mem_nil
  below := fun _ h => absurd h List.not_mem_nil
  distinct := List.nodup_nil
  told := by
    intro id
    simp only [phase, history, start, hc]
    exact .unheard
  announced := by rw [history, start, hc]; rfl
  loss := .unreported (by rw [start, hc]) (by rw [history, start, hc]; exact List.not_mem_nil)
  images := by rw [start, hc]; exact .refl _

/-! ## One step -/

section

variable (h : w.Inv D)

include h

theorem Inv.known_of_decide {id : OutputId}
    (hid : decide (id ∈ (D.registry w.client).ids) = true) : decide (id ∈ w.made) = true :=
  decide_eq_true (h.known id (of_decide_eq_true hid))

theorem Inv.moved {handed : List Image} {c : κ} {next : Nat}
    (hmove : (D.registry w.client).Move handed (D.registry c)) (hnext : w.next ≤ next) :
    ({ w with client := c, next := next, taken := w.taken ++ handed } : Course κ).Inv D := by
  obtain ⟨more, hevents, houtputs, hsequel⟩ := hmove.sequel h.tidy
  obtain ⟨hannounced, hquiet⟩ := quiet_of_outputs houtputs
  have hhistory : w.delivered ++ (D.registry c).events = w.history D ++ more := by
    rw [hevents, history, List.append_assoc]
  refine ⟨hmove.tidy h.tidy, fun id hid => h.known id (hmove.ids_subset id hid),
    fun id hid => Nat.lt_of_lt_of_le (h.below id hid) hnext, h.distinct, fun id => ?_, ?_, ?_, ?_⟩
  · show Told id _ (story id (w.delivered ++ (D.registry c).events))
    rw [hhistory, story_append]
    exact (h.told id).append (hsequel id) h.known_of_decide
  · show Scanout.announced (w.delivered ++ (D.registry c).events) = w.made
    rw [hhistory, announced_append, hannounced, List.append_nil, h.announced]
  · rcases h.loss with ⟨hconnected, hnone⟩ | ⟨before, hlost, hempty, hlast, honce⟩
    · refine .unreported (hmove.disconnected_eq.trans hconnected) ?_
      show .disconnected ∉ w.delivered ++ (D.registry c).events
      rw [hhistory, List.mem_append]
      exact fun hmem => hmem.elim hnone hquiet
    · -- without outputs the registry stays as it is
      obtain ⟨hsame, -⟩ := hmove.of_empty hempty
      refine .reported before ?_ ?_ ?_ honce
      · show (D.registry c).disconnected = true
        rw [hsame, hlost]
      · show (D.registry c).outputs = []
        rw [hsame, hempty]
      · show w.delivered ++ (D.registry c).events = _
        rw [hsame]
        exact hlast
  · have hmoved := (hmove.images_perm h.tidy).append_right (returnedImages w.delivered)
    refine (h.images.append_right handed).trans (List.Perm.trans ?_ hmoved.symm)
    rw [List.append_assoc, List.append_assoc]
    exact List.perm_append_comm.append_left _

theorem Inv.opened {id : OutputId} {c : κ} {details : δ} (hnew : w.next ≤ id.number)
    (hconnected : (D.registry w.client).disconnected = false)
    (hregistry : D.registry c = (D.registry w.client).insert id ⟨{}, details⟩) :
    ({ w with client := c, next := id.number + 1, made := w.made ++ [id] } : Course κ).Inv D := by
  have hfresh : id ∉ w.made := fun hid => absurd (h.below id hid) (Nat.not_lt.mpr hnew)
  have hunlisted : id ∉ (D.registry w.client).ids := fun hid => hfresh (h.known id hid)
  have hids : (D.registry c).ids = (D.registry w.client).ids ++ [id] := by
    rw [hregistry, Registry.insert_ids]
  have hhistory : w.delivered ++ (D.registry c).events = w.history D ++ [.newOutput id] := by
    rw [hregistry, history, List.append_assoc]
    rfl
  refine ⟨?_, fun other hother => ?_, fun other hother => ?_, ?_, fun other => ?_, ?_, ?_, ?_⟩
  · rw [hregistry]
    exact h.tidy.insert hunlisted details
  · rw [hids] at hother
    rcases List.mem_append.mp hother with hold | hself
    · exact List.mem_append_left _ (h.known other hold)
    · exact List.mem_append_right _ hself
  · show other.number < id.number + 1
    rcases List.mem_append.mp hother with hold | hself
    · have hlt := h.below other hold
      omega
    · rw [List.mem_singleton.mp hself]
      exact Nat.lt_succ_self _
  · exact List.nodup_append.mpr ⟨h.distinct, List.nodup_singleton id,
      fun x hx y hy heq => hfresh (List.mem_singleton.mp hy ▸ heq ▸ hx)⟩
  · show Told other (.of (decide (other ∈ (D.registry c).ids)) (decide (other ∈ w.made ++ [id])))
      (story other (w.delivered ++ (D.registry c).events))
    have htold := h.told other
    rw [hhistory, story_append, hids]
    by_cases heq : other = id
    · subst heq
      -- nothing was told of it so far
      rw [phase, decide_eq_false hunlisted, decide_eq_false hfresh] at htold
      generalize story other (w.history D) = before at htold ⊢
      cases htold
      have hstory : story other [.newOutput other] = [.newOutput other] := by
        simp [story, BackendEvent.concerns]
      rw [hstory, decide_eq_true (List.mem_append_right _ (List.mem_singleton_self other))]
      exact .live [] List.not_mem_nil
    · have hstory : story other [.newOutput id] = [] := by
        simp [story, BackendEvent.concerns, Ne.symm heq]
      rw [hstory, List.append_nil]
      simpa only [phase, List.mem_append, List.mem_singleton, heq, or_false] using htold
  · show Scanout.announced (w.delivered ++ (D.registry c).events) = w.made ++ [id]
    rw [hhistory, announced_append, h.announced]
    rfl
  · rcases h.loss with ⟨-, hnone⟩ | ⟨-, hlost, -⟩
    · refine .unreported (by rw [hregistry]; exact hconnected) ?_
      show .disconnected ∉ w.delivered ++ (D.registry c).events
      rw [hhistory, List.mem_append]
      exact fun hmem => hmem.elim hnone (by simp)
    · rw [hconnected] at hlost
      exact absurd hlost (by simp)
  · rw [hregistry, Registry.insert_images]
    exact h.images

theorem Inv.lost {c : κ} {σ : Type} {teardown : Output δ → σ → FrameScheduler × σ} {s : σ}
    (hends : Registry.Ends teardown)
    (hregistry : D.registry c = ((D.registry w.client).disconnect teardown s).2.1) :
    ({ w with client := c } : Course κ).Inv D := by
  rcases h.loss with ⟨hconnected, hnone⟩ | ⟨before, hlost, -⟩
  · have heq := hregistry.trans (Registry.disconnect_eq h.tidy.ids hends hconnected s)
    have hids : (D.registry c).ids = [] := by rw [heq]; rfl
    have hhistory : w.delivered ++ (D.registry c).events
        = w.history D ++ (D.registry w.client).outputs.flatMap Registry.lastEvents
          ++ [.disconnected] := by
      rw [heq, history]
      simp only [List.append_assoc]
    obtain ⟨hannounced, hquiet⟩ := quiet_of_outputs fun e he =>
      Registry.mem_flatMap_lastEvents (r := D.registry w.client) he
    refine ⟨?_, fun id hid => ?_, h.below, h.distinct, fun id => ?_, ?_, ?_, ?_⟩
    · rw [hregistry]
      exact h.tidy.disconnect hends s
    · rw [hids] at hid
      exact absurd hid List.not_mem_nil
    · show Told id (.of (decide (id ∈ (D.registry c).ids)) (decide (id ∈ w.made)))
        (story id (w.delivered ++ (D.registry c).events))
      have hloss : story id [.disconnected] = [] := rfl
      rw [hhistory, story_append, story_append, hloss, List.append_nil, hids]
      exact (h.told id).append (h.tidy.sequel_lastEvents id) h.known_of_decide
    · show Scanout.announced (w.delivered ++ (D.registry c).events) = w.made
      rw [hhistory, announced_append, announced_append, hannounced, h.announced]
      simp [Scanout.announced]
    · refine .reported _ ?_ ?_ hhistory ?_
      · show (D.registry c).disconnected = true
        rw [heq]
      · show (D.registry c).outputs = []
        rw [heq]
      · rw [List.mem_append]
        exact fun hmem => hmem.elim hnone hquiet
    · rw [hregistry]
      have hperm := Registry.disconnect_images h.tidy.ids hends s
      exact h.images.trans (hperm.symm.append_right _)
  · -- reported again, the loss changes nothing
    rw [Registry.disconnect_again hlost] at hregistry
    have hsame : (D.registry w.client).Move [] (D.registry c) := by
      rw [hregistry]
      exact .still
    simpa only [List.append_nil] using h.moved hsame (Nat.le_refl w.next)

theorem Inv.delivered {c : κ} (hregistry : D.registry c = (D.registry w.client).takeEvents.2) :
    ({ w with client := c, delivered := w.delivered ++ (D.registry w.client).events }
      : Course κ).Inv D := by
  have houtputs : (D.registry c).outputs = (D.registry w.client).outputs := by rw [hregistry]; rfl
  have hids : (D.registry c).ids = (D.registry w.client).ids := by rw [hregistry]; rfl
  have hhistory : w.delivered ++ (D.registry w.client).events ++ (D.registry c).events
      = w.history D := by
    rw [hregistry]
    exact List.append_nil _
  refine ⟨⟨?_, hids ▸ h.tidy.ids⟩, fun id hid => h.known id (hids ▸ hid), h.below, h.distinct,
    fun id => ?_, ?_, ?_, ?_⟩
  · intro entry he
    exact h.tidy.settled entry (houtputs ▸ he)
  · show Told id (.of (decide (id ∈ (D.registry c).ids)) (decide (id ∈ w.made)))
      (story id (w.delivered ++ (D.registry w.client).events ++ (D.registry c).events))
    rw [hhistory, hids]
    exact h.told id
  · show Scanout.announced (w.delivered ++ (D.registry w.client).events ++ (D.registry c).events)
      = w.made
    rw [hhistory, h.announced]
  · rcases h.loss with ⟨hconnected, hnone⟩ | ⟨before, hlost, hempty, hlast, honce⟩
    · exact .unreported (by rw [hregistry]; exact hconnected) (fun hmem => hnone (hhistory ▸ hmem))
    · exact .reported before (by rw [hregistry]; exact hlost) (houtputs.trans hempty)
        (hhistory.trans hlast) honce
  · -- the images move from the queue to those that came back
    refine h.images.trans ?_
    have hnow : (D.registry c).images
        = (D.registry w.client).outputs.flatMap (·.2.scheduler.images) := by
      rw [hregistry]
      exact List.append_nil _
    show List.Perm _ ((D.registry c).images
      ++ returnedImages (w.delivered ++ (D.registry w.client).events))
    rw [hnow, returnedImages_append, Registry.images, List.append_assoc]
    exact List.perm_append_comm.append_left _

theorem Inv.advance_inv (hadvance : w.Advance D w') : w'.Inv D := by
  cases hadvance with
  | moved move next_le => exact h.moved move next_le
  | opened new connected registry_eq => exact h.opened new connected registry_eq
  | lost ends registry_eq => exact h.lost ends registry_eq
  | told registry_eq => exact h.delivered registry_eq

/-- After the loss was reported, nothing follows. -/
theorem Inv.advance_final (hadvance : w.Advance D w') (hlost : .disconnected ∈ w.history D) :
    w'.history D = w.history D ∧ w'.made = w.made ∧ w'.taken = w.taken := by
  rcases h.loss with ⟨-, hnone⟩ | ⟨-, hdisconnected, hempty, -⟩
  · exact absurd hlost hnone
  cases hadvance with
  | moved move =>
    obtain ⟨hsame, rfl⟩ := move.of_empty hempty
    exact ⟨by simp only [history, hsame], rfl, List.append_nil _⟩
  | opened _ connected =>
    rw [hdisconnected] at connected
    exact absurd connected (by simp)
  | lost ends registry_eq =>
    rw [Registry.disconnect_again hdisconnected] at registry_eq
    exact ⟨by simp only [history, registry_eq], rfl, rfl⟩
  | told registry_eq =>
    refine ⟨?_, rfl, rfl⟩
    simp only [history, registry_eq]
    exact List.append_nil _

end

/-! ## A whole run -/

theorem run_broken (h : w.broken = true) (calls : List (Call ε)) : w.run D calls = w := by
  induction calls with
  | nil => rfl
  | cons call rest ih =>
    show (w.step D call).run D rest = w
    rw [step_broken h, ih]

/-- A run that breaks no contract is made of steps that break none. -/
theorem run_keeps {P : Course κ → Prop}
    (hstep : ∀ {w : Course κ} (call : Call ε), (w.step D call).broken = false → P w →
      P (w.step D call))
    (h : P w) (calls : List (Call ε)) (hholds : (w.run D calls).broken = false) :
    P (w.run D calls) := by
  induction calls generalizing w with
  | nil => exact h
  | cons call rest ih =>
    have hone : (w.step D call).broken = false := by
      by_contra hbroken
      rw [Bool.not_eq_false] at hbroken
      have hrest : (w.step D call).run D rest = w.step D call := run_broken hbroken rest
      have hrun : (w.step D call).run D rest = w.run D (call :: rest) := rfl
      rw [← hrun, hrest, hbroken] at hholds
      exact absurd hholds (by simp)
    exact ih (hstep call hone h) hholds

theorem Inv.run_inv (hD : D.Lawful) (h : w.Inv D) (calls : List (Call ε))
    (hholds : (w.run D calls).broken = false) : (w.run D calls).Inv D :=
  run_keeps (fun call hone hinv => hinv.advance_inv (step_advance hD hinv.tidy call hone)) h calls
    hholds

theorem Inv.run_final (hD : D.Lawful) (h : w.Inv D) (hlost : .disconnected ∈ w.history D)
    (calls : List (Call ε)) (hholds : (w.run D calls).broken = false) :
    (w.run D calls).history D = w.history D ∧ (w.run D calls).made = w.made ∧
      (w.run D calls).taken = w.taken := by
  have hboth := run_keeps (D := D) (w := w)
    (P := fun w' => w'.Inv D ∧ w'.history D = w.history D ∧ w'.made = w.made ∧ w'.taken = w.taken)
    (fun {w'} call hone ⟨hinv, hhistory, hmade, htaken⟩ => by
      have hadvance := step_advance hD hinv.tidy call hone
      obtain ⟨hhistory', hmade', htaken'⟩ := hinv.advance_final hadvance (hhistory ▸ hlost)
      exact ⟨hinv.advance_inv hadvance, hhistory'.trans hhistory, hmade'.trans hmade,
        htaken'.trans htaken⟩)
    ⟨h, rfl, rfl, rfl⟩ calls hholds
  exact hboth.2

/-- What a compositor can rely on. -/
structure Orderly (D : Display κ δ ε) (w : Course κ) : Prop where
  /-- Of every output the compositor hears its announcement first, then frames, sizes and
  images that come back, and then at most its end. -/
  told : ∀ id, ∃ phase, Told id phase (story id w.delivered)
  /-- The same with what is still to be delivered: the end is told when the output is gone. -/
  phases : ∀ id, Told id (w.phase D id) (story id (w.history D))
  /-- The outputs that were made are announced once each, in order. -/
  announced : announced (w.history D) = w.made
  distinct : w.made.Nodup
  /-- The loss of the connection is the last event, and by then every output has ended and
  every image has come back. -/
  last : ∀ before after, w.history D = before ++ .disconnected :: after →
    after = [] ∧ .disconnected ∉ before ∧ (∀ id ∈ w.made, .output id .destroyed ∈ before) ∧
      w.taken.Perm (returnedImages before)
  /-- After it there are no events, no outputs and no images any more. -/
  final : .disconnected ∈ w.history D → ∀ calls, (w.run D calls).broken = false →
    (w.run D calls).history D = w.history D ∧ (w.run D calls).made = w.made ∧
      (w.run D calls).taken = w.taken

theorem Inv.last (h : w.Inv D) {before after : List BackendEvent}
    (hsplit : w.history D = before ++ .disconnected :: after) :
    after = [] ∧ .disconnected ∉ before ∧ (∀ id ∈ w.made, .output id .destroyed ∈ before) ∧
      w.taken.Perm (returnedImages before) := by
  rcases h.loss with ⟨-, hnone⟩ | ⟨before', -, hempty, hlast, honce⟩
  · rw [hsplit] at hnone
    exact absurd (List.mem_append_right _ List.mem_cons_self) hnone
  obtain ⟨rfl, rfl⟩ : before = before' ∧ after = [] := by
    rw [hsplit] at hlast
    rcases List.append_eq_append_iff.mp hlast with ⟨more, hmore, hrest⟩ | ⟨more, hmore, hrest⟩
    · cases more with
      | nil =>
        rw [List.append_nil] at hmore
        exact ⟨hmore.symm, (List.cons.inj hrest).2⟩
      | cons e more =>
        -- then the loss would have been reported before
        obtain ⟨rfl, -⟩ := List.cons.inj hrest
        rw [hmore] at honce
        exact absurd (List.mem_append_right _ List.mem_cons_self) honce
    · cases more with
      | nil =>
        rw [List.append_nil] at hmore
        exact ⟨hmore, (List.cons.inj hrest).2.symm⟩
      | cons e more => exact absurd (List.cons.inj hrest).2 (by simp)
  refine ⟨rfl, honce, fun id hid => ?_, ?_⟩
  · have hnolonger : id ∉ (D.registry w.client).ids := by
      rw [Registry.ids, hempty]
      exact List.not_mem_nil
    have htold := h.told id
    rw [phase, decide_eq_false hnolonger, decide_eq_true hid, hsplit] at htold
    have hmem := (List.mem_filter.mp htold.destroyed_mem).1
    rcases List.mem_append.mp hmem with hmem | hmem
    · exact hmem
    · exact absurd hmem (by simp)
  · have himages := h.images
    have hback : returnedImages (w.history D) = returnedImages before := by
      rw [hsplit, returnedImages_append]
      exact List.append_nil _
    rw [← hback, history, returnedImages_append]
    rw [Registry.images, hempty] at himages
    exact himages.trans List.perm_append_comm

theorem Inv.orderly (hD : D.Lawful) (h : w.Inv D) : w.Orderly D where
  told := fun id => (h.told id).of_earlier ((List.prefix_append ..).filter _)
  phases := h.told
  announced := h.announced
  distinct := h.distinct
  last := fun _ _ hsplit => h.last hsplit
  final := fun hlost calls hholds => h.run_final hD hlost calls hholds

end Course

/-- **The events of a display are in order.** Whatever is called and whatever happens, as
long as no contract is broken. -/
theorem Lawful.orderly {D : Display κ δ ε} (hD : D.Lawful) {c : κ} (hc : D.registry c = {})
    (calls : List (Call ε)) (hholds : ((Course.start c).run D calls).broken = false) :
    ((Course.start c).run D calls).Orderly D :=
  ((Course.start_inv hc).run_inv hD calls hholds).orderly hD

end Display

end Scanout
