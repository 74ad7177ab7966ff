import Scanout.Proofs.Output.Collection

/-!
# Settled registries

A display collects the events of its outputs at the end of everything it does, so
between two of its operations no output has events of its own left: the registry
is `Settled`. In a settled registry an operation on one output is seen as one turn
of that output, with the events of that turn, and only those, behind the queue.
`Turned` says so, and the displays' operations are cast into it.
-/

namespace Scanout

namespace Registry

variable {δ σ : Type}

/-- No output has events that are not in the queue. -/
def Settled (r : Registry δ) : Prop :=
  ∀ entry ∈ r.outputs, entry.2.scheduler.events = []

/-- One output took a turn and its events were collected. -/
inductive Turned (r : Registry δ) (id : OutputId) (o : Output δ) (t : FrameScheduler.Turn)
    (details : δ) : Registry δ → Prop where
  | intro {before after : List (OutputId × Output δ)} {f : FrameScheduler} {awake : Bool}
      (place : r.At id o before after) (effect : o.scheduler.Effect t f)
      (call : t.call ≠ .takeEvents) :
    Turned r id o t details
      { r with
        outputs := before ++ (id, ⟨{ f with events := [] }, details⟩) :: after
        events := r.events ++ t.queued.map (.output id)
        awake := awake }

section

variable {r r' : Registry δ} {id : OutputId} {o : Output δ} {t : FrameScheduler.Turn} {details : δ}

theorem Turned.get? (h : r.Turned id o t details r') : r.get? id = some o := by
  obtain ⟨hat, -, -⟩ := h
  exact hat.get?

theorem Turned.effect (h : r.Turned id o t details r') : ∃ f, o.scheduler.Effect t f := by
  obtain ⟨-, heffect, -⟩ := h
  exact ⟨_, heffect⟩

/-- Where the output that took the turn stands, before and after. -/
theorem Turned.place (h : r.Turned id o t details r') :
    ∃ before after f, r.At id o before after ∧ o.scheduler.Effect t f ∧
      r'.outputs = before ++ (id, ⟨{ f with events := [] }, details⟩) :: after := by
  obtain ⟨hat, heffect, -⟩ := h
  exact ⟨_, _, _, hat, heffect, rfl⟩

theorem Turned.ids_eq (h : r.Turned id o t details r') : r'.ids = r.ids := by
  obtain ⟨hat, -, -⟩ := h
  simp [ids, hat.outputs_eq]

theorem Turned.events_eq (h : r.Turned id o t details r') :
    r'.events = r.events ++ t.queued.map (.output id) := by
  obtain ⟨-, -, -⟩ := h
  rfl

theorem Turned.settled (h : r.Turned id o t details r') (hr : r.Settled) : r'.Settled := by
  obtain ⟨hat, -, -⟩ := h
  intro entry he
  simp only [List.mem_append, List.mem_cons] at he
  rcases he with he | rfl | he
  · exact hr entry (by simp [hat.outputs_eq, he])
  · rfl
  · exact hr entry (by simp [hat.outputs_eq, he])

/-- The outputs afterwards: the one that took the turn, and the others as they were. -/
theorem Turned.mem_outputs (h : r.Turned id o t details r') {id' : OutputId} {o' : Output δ}
    (hmem : (id', o') ∈ r'.outputs) :
    (id' = id ∧ o'.details = details ∧ ∃ f, o.scheduler.Effect t f ∧
      o'.scheduler = { f with events := [] }) ∨
    (id' ≠ id ∧ (id', o') ∈ r.outputs) := by
  obtain ⟨hat, heffect, -⟩ := h
  simp only [List.mem_append, List.mem_cons] at hmem
  rcases hmem with he | heq | he
  · exact .inr ⟨hat.before_ne _ he, by simp [hat.outputs_eq, he]⟩
  · obtain ⟨rfl, rfl⟩ := Prod.mk.inj heq
    exact .inl ⟨rfl, rfl, _, heffect, rfl⟩
  · exact .inr ⟨hat.after_ne _ he, by simp [hat.outputs_eq, he]⟩

/-- The output that took the turn is still there. -/
theorem Turned.mem_self (h : r.Turned id o t details r') :
    ∃ f, o.scheduler.Effect t f ∧ (id, ⟨{ f with events := [] }, details⟩) ∈ r'.outputs := by
  obtain ⟨-, heffect, -⟩ := h
  exact ⟨_, heffect, by simp⟩

/-- The turn adds to the display what it was handed. -/
theorem Turned.images_perm (h : r.Turned id o t details r') (hr : r.Settled) :
    (r'.images ++ t.lost).Perm (r.images ++ t.handedIn) := by
  obtain ⟨hat, heffect, hcall⟩ := h
  have ho : o.scheduler.events = [] := hr (id, o) (by simp [hat.outputs_eq])
  have hturn := List.perm_iff_count.mp heffect.kept_perm
  rw [List.perm_iff_count]
  intro x
  have hx := hturn x
  simp only [images, hat.outputs_eq, List.flatMap_append, List.flatMap_cons,
    FrameScheduler.images_eq, ho, FrameScheduler.eventImages_nil, FrameScheduler.kept,
    returnedImages_append, returnedImages_map_output, List.count_append, List.count_nil] at hx ⊢
  omega

end

/-! ## Casting operations into turns -/

theorem waiting_eq_nil {entries : List (OutputId × Output δ)}
    (h : ∀ entry ∈ entries, entry.2.scheduler.events = []) : entries.flatMap waiting = [] := by
  rw [List.flatMap_eq_nil_iff]
  intro entry he
  rw [waiting, h entry he, List.map_nil]

theorem map_drained_eq {entries : List (OutputId × Output δ)}
    (h : ∀ entry ∈ entries, entry.2.scheduler.events = []) :
    entries.map (fun entry => (entry.1, drained entry.2)) = entries := by
  have hsame : ∀ entry ∈ entries, (entry.1, drained entry.2) = entry := by
    intro entry he
    have hnil := h entry he
    obtain ⟨id, ⟨armed, pending, presented, events⟩, details⟩ := entry
    obtain rfl : events = [] := hnil
    rfl
  exact (List.map_congr_left hsame).trans (List.map_id' _)

/-- Storing what an output became in a turn, and collecting the events, is a turn. -/
theorem Settled.turned {r : Registry δ} (hr : r.Settled) {id : OutputId} {o : Output δ}
    {before after : List (OutputId × Output δ)} (hat : r.At id o before after)
    {t : FrameScheduler.Turn} {f : FrameScheduler} (heffect : o.scheduler.Effect t f)
    (hcall : t.call ≠ .takeEvents) (details : δ) :
    r.Turned id o t details
      { r with outputs := before ++ (id, ⟨f, details⟩) :: after : Registry δ }.collect := by
  have hevents : f.events = t.queued := by
    rw [heffect.events_eq hcall, hr (id, o) (by simp [hat.outputs_eq]), List.nil_append]
  have hbefore : ∀ entry ∈ before, entry.2.scheduler.events = [] :=
    fun entry he => hr entry (by simp [hat.outputs_eq, he])
  have hafter : ∀ entry ∈ after, entry.2.scheduler.events = [] :=
    fun entry he => hr entry (by simp [hat.outputs_eq, he])
  -- only the output that took the turn has anything to collect
  have hmoved : (before ++ (id, (⟨f, details⟩ : Output δ)) :: after).flatMap waiting
      = t.queued.map (.output id) := by
    rw [List.flatMap_append, List.flatMap_cons, waiting_eq_nil hbefore, waiting_eq_nil hafter,
      List.nil_append, List.append_nil]
    show f.events.map (BackendEvent.output id) = _
    rw [hevents]
  have hdrained : (before ++ (id, (⟨f, details⟩ : Output δ)) :: after).map
        (fun entry => (entry.1, drained entry.2))
      = before ++ (id, ⟨{ f with events := [] }, details⟩) :: after := by
    rw [List.map_append, List.map_cons, map_drained_eq hbefore, map_drained_eq hafter]
    rfl
  simp only [collect, hmoved, hdrained]
  exact .intro hat heffect hcall

/-- The same for an output that is replaced under its identifier. -/
theorem Settled.turned_set {r : Registry δ} (hr : r.Settled) (hids : r.ids.Nodup) {id : OutputId}
    {o : Output δ} (hget : r.get? id = some o) {t : FrameScheduler.Turn} {f : FrameScheduler}
    (heffect : o.scheduler.Effect t f) (hcall : t.call ≠ .takeEvents) (details : δ) :
    r.Turned id o t details (r.set id ⟨f, details⟩).collect := by
  obtain ⟨before, after, hat⟩ := at_of_mem hids (mem_of_get? hget)
  rw [hat.set_eq]
  exact hr.turned hat heffect hcall details

/-- A release is the turn of an output that presents the image, or nothing at all. -/
theorem Settled.bufferReleased {r : Registry δ} (hr : r.Settled) (hids : r.ids.Nodup)
    (image : ImageId) :
    ((∀ entry ∈ r.outputs, ∀ shown ∈ entry.2.scheduler.presented, shown.id ≠ image) ∧
      (r.bufferReleased image).2 = r) ∨
    ∃ id o shown,
      shown ∈ o.scheduler.presented ∧ shown.id = image ∧
      r.Turned id o ⟨.bufferReleased image, [], [.released shown]⟩ o.details
        (r.bufferReleased image).2 := by
  rcases releaseIn_cases image r.outputs with ⟨hnone, hsame⟩ |
    ⟨before, id, o, after, shown, earlier, later, hout, rfl, hsplit, hfirst, hrel⟩
  · exact .inl ⟨hnone, by simp only [Registry.bufferReleased, hsame]⟩
  · refine .inr ⟨id, o, shown, by simp [hsplit], rfl, ?_⟩
    simp only [Registry.bufferReleased, hrel]
    exact hr.turned (at_of_split hids hout) (.returned shown earlier later hsplit hfirst)
      (by simp) o.details

theorem Settled.insert {r : Registry δ} (hr : r.Settled) (id : OutputId) (details : δ) :
    (r.insert id ⟨{}, details⟩).Settled := by
  intro entry he
  rcases List.mem_append.mp he with he | he
  · exact hr entry he
  · obtain rfl := List.mem_singleton.mp he
    rfl

end Registry

end Scanout
