import Scanout.Proofs.Display.Course

/-!
# What is told of the outputs

An operation of a display leaves nothing with a scheduler: what its outputs have to tell is put
behind what waits in the queue already. `Tells` is one such operation with its news, in the order
in which they happened, and `Recounts` is the story a display has told from its beginning, however
much of it was taken out of the queue on the way.

The registry is asked to wake somebody up whenever it queues something. `Turned` and `Move` leave
open whether it did, so this is shown apart: `Wakes`, for each operation of the registry.
-/

namespace Scanout.Registry

variable {δ σ : Type} {r r' r'' : Registry δ} {news more told : List BackendEvent}

/-! ## Waking up -/

/-- Something may be put behind what is in the queue, and then somebody is woken up. -/
def Wakes (r r' : Registry δ) : Prop :=
  ∃ news, r'.events = r.events ++ news ∧ r'.awake = (r.awake || !news.isEmpty)

namespace Wakes

theorem refl (r : Registry δ) : r.Wakes r :=
  ⟨[], by rw [List.append_nil], by rw [List.isEmpty_nil, Bool.not_true, Bool.or_false]⟩

theorem trans (h : r.Wakes r') (h' : r'.Wakes r'') : r.Wakes r'' := by
  obtain ⟨news, hevents, hawake⟩ := h
  obtain ⟨more, hevents', hawake'⟩ := h'
  refine ⟨news ++ more, ?_, ?_⟩
  · rw [hevents', hevents, List.append_assoc]
  · rw [hawake', hawake, Bool.or_assoc]
    cases news <;> rfl

theorem set (r : Registry δ) (id : OutputId) (o : Output δ) : r.Wakes (r.set id o) :=
  Wakes.refl r

theorem collect (r : Registry δ) : r.Wakes r.collect :=
  ⟨_, rfl, rfl⟩

theorem set_collect (r : Registry δ) (id : OutputId) (o : Output δ) :
    r.Wakes (r.set id o).collect :=
  (set r id o).trans (collect _)

theorem bufferReleased (r : Registry δ) (image : ImageId) :
    r.Wakes (r.bufferReleased image).2 := by
  unfold Registry.bufferReleased
  split
  · next outputs _ => exact collect { r with outputs := outputs }
  · exact refl r

/-- An output never ends without a word. -/
theorem destroy (r : Registry δ) (id : OutputId) {teardown : Output δ → σ → FrameScheduler × σ}
    (hends : Ends teardown) (s : σ) : r.Wakes (r.destroy id teardown s).2.1 := by
  unfold Registry.destroy
  split
  · exact refl r
  · next o _ =>
    refine ⟨(teardown o s).1.events.map (.output id), rfl, ?_⟩
    rw [hends o s, FrameScheduler.remains]
    simp

end Wakes

/-! ## One operation -/

/-- What an operation does to a registry, with the news it puts behind what is in the queue. -/
inductive Tells (r : Registry δ) : List BackendEvent → Registry δ → Prop where
  | nothing : Tells r [] r
  | opened {id : OutputId} {details : δ} (new : id ∉ r.ids) (connected : r.disconnected = false) :
    Tells r [.newOutput id] (r.insert id ⟨{}, details⟩)
  /-- One output takes a turn, and its scheduler has news. -/
  | turned {id : OutputId} {o : Output δ} {t : FrameScheduler.Turn} {details : δ}
      {r' : Registry δ} (turn : r.Turned id o t details r')
      (awake : r'.awake = (r.awake || !t.queued.isEmpty)) :
    Tells r (t.queued.map (.output id)) r'
  /-- One output ends: its images come back and the end is told. -/
  | ended {id : OutputId} {o : Output δ} {before after : List (OutputId × Output δ)}
      (place : r.At id o before after) :
    Tells r (lastEvents (id, o))
      { r with
        outputs := before ++ after
        events := r.events ++ lastEvents (id, o)
        awake := true }
  /-- All outputs end, the oldest first, and then the loss of the connection is told. -/
  | lost (connected : r.disconnected = false) :
    Tells r (r.outputs.flatMap lastEvents ++ [.disconnected])
      { outputs := []
        events := r.events ++ r.outputs.flatMap lastEvents ++ [.disconnected]
        awake := true
        disconnected := true }

/-- The last events of an output are some. -/
theorem lastEvents_ne_nil (entry : OutputId × Output δ) : lastEvents entry ≠ [] := by
  simp [lastEvents, FrameScheduler.remains]

namespace Tells

/-- The news go behind what is in the queue. -/
theorem events_eq (h : r.Tells news r') : r'.events = r.events ++ news := by
  cases h with
  | nothing => rw [List.append_nil]
  | opened => rfl
  | turned turn => exact turn.events_eq
  | ended => rfl
  | lost => exact List.append_assoc ..

/-- Somebody is woken up for news. -/
theorem awake_eq (h : r.Tells news r') : r'.awake = (r.awake || !news.isEmpty) := by
  cases h with
  | nothing => rw [List.isEmpty_nil, Bool.not_true, Bool.or_false]
  | opened => exact (Bool.or_true _).symm
  | turned _ awake => rw [awake, List.isEmpty_map]
  | @ended id o =>
    rw [List.isEmpty_eq_false_iff.mpr (lastEvents_ne_nil (id, o)), Bool.not_false, Bool.or_true]
  | lost => simp

theorem tidy (h : r.Tells news r') (hr : r.Tidy) : r'.Tidy := by
  cases h with
  | nothing => exact hr
  | opened new => exact hr.insert new _
  | turned turn => exact ⟨turn.settled hr.settled, turn.ids_eq ▸ hr.ids⟩
  | @ended id o before after place =>
    have hsub : (before ++ after).Sublist r.outputs := by
      rw [place.outputs_eq]
      exact (List.sublist_cons_self _ _).append_left before
    exact ⟨fun entry he => hr.settled entry (hsub.subset he), (hsub.map _).nodup hr.ids⟩
  | lost => exact ⟨fun _ he => absurd he List.not_mem_nil, List.nodup_nil⟩

/-- No output is there that was not before, but for a new one. -/
theorem ids_subset (h : r.Tells news r') {id : OutputId} (hid : id ∈ r'.ids) :
    id ∈ r.ids ∨ .newOutput id ∈ news := by
  cases h with
  | nothing => exact .inl hid
  | opened =>
    rw [insert_ids] at hid
    rcases List.mem_append.mp hid with hold | hnew
    · exact .inl hold
    · rw [List.mem_singleton.mp hnew]
      exact .inr List.mem_cons_self
  | turned turn => exact .inl (turn.ids_eq ▸ hid)
  | @ended _ o before after place =>
    refine .inl ?_
    have hsub : (before ++ after).Sublist r.outputs := by
      rw [place.outputs_eq]
      exact (List.sublist_cons_self _ _).append_left before
    exact (hsub.map (·.1)).subset hid
  | lost => exact absurd hid List.not_mem_nil

/-- With the connection every output is gone, and nothing happens any more. -/
theorem silent (h : r.Tells news r') (hlost : r.disconnected = true) (hnone : r.outputs = []) :
    news = [] ∧ r' = r := by
  cases h with
  | nothing => exact ⟨rfl, rfl⟩
  | opened _ connected => exact absurd hlost (by simp [connected])
  | turned turn =>
    obtain ⟨before, after, f, hat, -, -⟩ := turn.place
    have hsome := hat.outputs_eq
    rw [hnone] at hsome
    exact absurd hsome (by simp)
  | ended place =>
    have hsome := place.outputs_eq
    rw [hnone] at hsome
    exact absurd hsome (by simp)
  | lost connected => exact absurd hlost (by simp [connected])

/-- Where the loss of the connection is told, it is lost and no output is left. -/
theorem lost_of_told (h : r.Tells news r') (htold : .disconnected ∈ news) :
    r'.disconnected = true ∧ r'.outputs = [] := by
  cases h with
  | lost => exact ⟨rfl, rfl⟩
  | nothing => exact absurd htold List.not_mem_nil
  | opened => exact absurd htold (by simp)
  | turned | ended =>
    obtain ⟨_, -, heq⟩ := List.mem_map.mp htold
    exact absurd heq (by simp)

/-- Once the connection is lost it stays so, and no output is made. -/
theorem stays_lost (h : r.Tells news r') (hlost : r.disconnected = true ∧ r.outputs = []) :
    r'.disconnected = true ∧ r'.outputs = [] := by
  rw [(h.silent hlost.1 hlost.2).2]
  exact hlost

/-- A turn that is known to wake somebody up. -/
theorem of_turned {id : OutputId} {o : Output δ} {t : FrameScheduler.Turn} {details : δ}
    (hturn : r.Turned id o t details r') (hwakes : r.Wakes r') :
    r.Tells (t.queued.map (.output id)) r' := by
  obtain ⟨news, hevents, hawake⟩ := hwakes
  have hnews : t.queued.map (.output id) = news :=
    List.append_cancel_left (hturn.events_eq.symm.trans hevents)
  refine .turned hturn ?_
  rw [hawake, ← hnews, List.isEmpty_map]

end Tells

/-- An operation that makes no output. -/
def Reports (r r' : Registry δ) : Prop :=
  ∃ news, r.Tells news r' ∧ ∀ id, .newOutput id ∉ news

namespace Reports

theorem refl (r : Registry δ) : r.Reports r :=
  ⟨[], .nothing, fun _ => List.not_mem_nil⟩

theorem of_turned {id : OutputId} {o : Output δ} {t : FrameScheduler.Turn} {details : δ}
    (hturn : r.Turned id o t details r') (hwakes : r.Wakes r') : r.Reports r' :=
  ⟨_, .of_turned hturn hwakes, fun _ => by simp⟩

theorem of_destroy (hr : r.Tidy) (id : OutputId) {teardown : Output δ → σ → FrameScheduler × σ}
    (hends : Ends teardown) (s : σ) : r.Reports (r.destroy id teardown s).2.1 := by
  cases hget : r.get? id with
  | none =>
    rw [destroy_absent hget]
    exact refl r
  | some o =>
    obtain ⟨before, after, hat⟩ := at_of_mem hr.ids (mem_of_get? hget)
    rw [hat.destroy_eq hends]
    exact ⟨_, .ended hat, fun _ => by simp [lastEvents]⟩

theorem of_disconnect (hr : r.Tidy) {teardown : Output δ → σ → FrameScheduler × σ}
    (hends : Ends teardown) (s : σ) : r.Reports (r.disconnect teardown s).2.1 := by
  cases hlive : r.disconnected with
  | true =>
    rw [disconnect_again hlive]
    exact refl r
  | false =>
    rw [disconnect_eq hr.ids hends hlive]
    exact ⟨_, .lost hlive, fun _ => by simp [lastEvents]⟩

theorem of_move {handed : List Image} (h : r.Move handed r') (hr : r.Tidy) (hwakes : r.Wakes r') :
    r.Reports r' := by
  cases h with
  | still => exact refl r
  | turned turn => exact of_turned turn hwakes
  | ended id ends s => exact of_destroy hr id ends s

end Reports

/-! ## Several operations -/

/-- What several operations do, with all their news. -/
inductive Tales (r : Registry δ) : List BackendEvent → Registry δ → Prop where
  | done : Tales r [] r
  | next {r' r'' : Registry δ} {news more : List BackendEvent} (before : Tales r news r')
      (last : r'.Tells more r'') : Tales r (news ++ more) r''

namespace Tales

theorem of_tells (h : r.Tells news r') : r.Tales news r' := by
  have hnext := Tales.done.next h
  rwa [List.nil_append] at hnext

theorem trans (h : r.Tales news r') (h' : r'.Tales more r'') : r.Tales (news ++ more) r'' := by
  induction h' with
  | done => rwa [List.append_nil]
  | next _ last ih =>
    rw [← List.append_assoc]
    exact ih.next last

theorem events_eq (h : r.Tales news r') : r'.events = r.events ++ news := by
  induction h with
  | done => rw [List.append_nil]
  | next _ last ih => rw [last.events_eq, ih, List.append_assoc]

theorem silent (h : r.Tales news r') (hlost : r.disconnected = true) (hnone : r.outputs = []) :
    news = [] ∧ r' = r := by
  induction h with
  | done => exact ⟨rfl, rfl⟩
  | next _ last ih =>
    obtain ⟨rfl, rfl⟩ := ih
    obtain ⟨rfl, rfl⟩ := last.silent hlost hnone
    exact ⟨rfl, rfl⟩

end Tales

/-- All that was told by a registry since it was empty, in the order in which it happened. -/
inductive Recounts : List BackendEvent → Registry δ → Prop where
  | start : Recounts [] {}
  | told {r r' : Registry δ} {told news : List BackendEvent} (before : Recounts told r)
      (last : r.Tells news r') : Recounts (told ++ news) r'
  /-- The queue is emptied. -/
  | taken {r : Registry δ} {told : List BackendEvent} (before : Recounts told r) :
    Recounts told r.takeEvents.2

namespace Recounts

/-- Once the loss of the connection was told, no output is left. -/
theorem lost (h : Recounts told r) (htold : .disconnected ∈ told) :
    r.disconnected = true ∧ r.outputs = [] := by
  induction h with
  | start => exact absurd htold List.not_mem_nil
  | told _ last ih =>
    rcases List.mem_append.mp htold with hold | hnew
    · exact last.stays_lost (ih hold)
    · exact last.lost_of_told hnew
  | taken _ ih => exact ih htold

end Recounts

end Scanout.Registry
