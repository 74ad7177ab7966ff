import Scanout.Proofs.Display.Chronicle

/-!
# Registries that agree beside one output

Two registries agree beside an output if they differ in that output and in what is told of it,
and perhaps in whether somebody was woken up for it. What happens to the output in one of them
leaves them agreeing, and so does what happens to another output in both of them. This is how
a display with an output is compared to the same display without it.
-/

namespace Scanout.Registry

variable {δ σ : Type}

/-- The same other outputs, and the same events of others. -/
structure AgreesBeside (id : OutputId) (r r' : Registry δ) : Prop where
  outputs : r.outputs.filter (·.1 ≠ id) = r'.outputs.filter (·.1 ≠ id)
  events : r.events.filter (!·.concerns id) = r'.events.filter (!·.concerns id)
  disconnected : r.disconnected = r'.disconnected

namespace AgreesBeside

variable {id other : OutputId} {r r' r'' : Registry δ}

theorem refl (id : OutputId) (r : Registry δ) : r.AgreesBeside id r := ⟨rfl, rfl, rfl⟩

theorem trans (h : r.AgreesBeside id r') (h' : r'.AgreesBeside id r'') : r.AgreesBeside id r'' :=
  ⟨h.outputs.trans h'.outputs, h.events.trans h'.events, h.disconnected.trans h'.disconnected⟩

/-! ## What is found -/

theorem mem_iff (h : r.AgreesBeside id r') {entry : OutputId × Output δ} (hne : entry.1 ≠ id) :
    entry ∈ r.outputs ↔ entry ∈ r'.outputs := by
  have hmem : ∀ r : Registry δ, entry ∈ r.outputs ↔ entry ∈ r.outputs.filter (·.1 ≠ id) := by
    intro r
    simp [hne]
  rw [hmem r, hmem r', h.outputs]

/-- A search that cannot find the output finds the same in both. -/
theorem find?_eq (h : r.AgreesBeside id r') {p : OutputId × Output δ → Bool}
    (hr : ∀ entry ∈ r.outputs, p entry = true → entry.1 ≠ id)
    (hr' : ∀ entry ∈ r'.outputs, p entry = true → entry.1 ≠ id) :
    r.outputs.find? p = r'.outputs.find? p := by
  have hfilter : ∀ l : List (OutputId × Output δ),
      (∀ entry ∈ l, p entry = true → entry.1 ≠ id) →
      (l.filter (·.1 ≠ id)).find? p = l.find? p := by
    intro l
    induction l with
    | nil => exact fun _ => rfl
    | cons entry l ih =>
      intro hl
      have hrest := ih fun other hother => hl other (List.mem_cons_of_mem entry hother)
      by_cases hid : entry.1 = id
      · have hnot : ¬ p entry = true := fun hp => hl entry List.mem_cons_self hp hid
        rw [List.filter_cons_of_neg (by simp [hid]), List.find?_cons_of_neg hnot, hrest]
      · rw [List.filter_cons_of_pos (by simp [hid])]
        simp only [List.find?_cons, hrest]
  rw [← hfilter r.outputs hr, ← hfilter r'.outputs hr', h.outputs]

theorem get?_eq (h : r.AgreesBeside id r') (hne : other ≠ id) : r.get? other = r'.get? other := by
  have hother : ∀ entry : OutputId × Output δ, decide (entry.1 = other) = true → entry.1 ≠ id :=
    fun entry he => of_decide_eq_true he ▸ hne
  rw [get?, get?, h.find?_eq (fun entry _ => hother entry) fun entry _ => hother entry]

/-! ## What happens to the output itself -/

theorem insert_left (r : Registry δ) (id : OutputId) (o : Output δ) :
    (r.insert id o).AgreesBeside id r := by
  refine ⟨?_, ?_, rfl⟩
  · simp [insert, queue, List.filter_append]
  · simp [insert, queue, List.filter_append, BackendEvent.concerns]

theorem map_keys_filter (id : OutputId) {f : OutputId × Output δ → OutputId × Output δ}
    (hf : ∀ entry, (f entry).1 = entry.1) (l : List (OutputId × Output δ)) :
    (l.map f).filter (·.1 ≠ id) = (l.filter (·.1 ≠ id)).map f := by
  rw [List.filter_map]
  congr 1
  exact List.filter_congr fun entry _ => by simp [hf]

theorem set_key (o : Output δ) (entry : OutputId × Output δ) :
    (if entry.1 = other then (other, o) else entry).1 = entry.1 := by
  split
  · next h => exact h.symm
  · rfl

theorem set_left (r : Registry δ) (id : OutputId) (o : Output δ) :
    (r.set id o).AgreesBeside id r := by
  refine ⟨?_, rfl, rfl⟩
  rw [set, map_keys_filter id (set_key o)]
  refine (List.map_congr_left fun entry he => if_neg ?_).trans (List.map_id' _)
  simpa using (List.mem_filter.mp he).2

theorem filter_map_output (id : OutputId) (queued : List OutputEvent) :
    (queued.map (BackendEvent.output id)).filter (!·.concerns id) = [] := by
  rw [List.filter_eq_nil_iff]
  intro e he
  obtain ⟨_, -, rfl⟩ := List.mem_map.mp he
  simp [BackendEvent.concerns]

theorem destroy_left (r : Registry δ) (id : OutputId)
    (teardown : Output δ → σ → FrameScheduler × σ) (s : σ) :
    (r.destroy id teardown s).2.1.AgreesBeside id r := by
  cases hget : r.get? id with
  | none =>
    rw [destroy_absent hget]
    exact .refl id r
  | some o =>
    simp only [destroy, hget]
    refine ⟨?_, ?_, rfl⟩
    · simp only [List.filter_filter, Bool.and_self]
    · simp only [List.filter_append, filter_map_output, List.append_nil]

theorem turned_left {o : Output δ} {t : FrameScheduler.Turn} {details : δ}
    (h : r.Turned id o t details r') : r'.AgreesBeside id r := by
  obtain ⟨hat, -, -⟩ := h
  refine ⟨?_, ?_, rfl⟩
  · simp [hat.outputs_eq]
  · simp only [List.filter_append, filter_map_output, List.append_nil]

/-! ## What happens to the others -/

theorem set (h : r.AgreesBeside id r') (other : OutputId) (o : Output δ) :
    (r.set other o).AgreesBeside id (r'.set other o) := by
  refine ⟨?_, h.events, h.disconnected⟩
  rw [Registry.set, Registry.set, map_keys_filter id (set_key o), map_keys_filter id (set_key o),
    h.outputs]

theorem waiting_filter (l : List (OutputId × Output δ)) :
    (l.flatMap waiting).filter (!·.concerns id) = (l.filter (·.1 ≠ id)).flatMap waiting := by
  induction l with
  | nil => rfl
  | cons entry l ih =>
    rw [List.flatMap_cons, List.filter_append, ih]
    by_cases hid : entry.1 = id
    · rw [List.filter_cons_of_neg (by simp [hid]), waiting, hid, filter_map_output,
        List.nil_append]
    · rw [List.filter_cons_of_pos (by simp [hid]), List.flatMap_cons]
      congr 1
      rw [List.filter_eq_self]
      intro e he
      obtain ⟨_, -, rfl⟩ := List.mem_map.mp he
      simp [BackendEvent.concerns, hid]

theorem collect (h : r.AgreesBeside id r') : r.collect.AgreesBeside id r'.collect := by
  refine ⟨?_, ?_, h.disconnected⟩
  · have hdrained := map_keys_filter id
      (f := fun entry : OutputId × Output δ => (entry.1, drained entry.2)) fun _ => rfl
    rw [Registry.collect, Registry.collect, hdrained, hdrained, h.outputs]
  · simp only [Registry.collect, List.filter_append, waiting_filter, h.events, h.outputs]

theorem destroy (h : r.AgreesBeside id r') (hne : other ≠ id)
    (teardown : Output δ → σ → FrameScheduler × σ) (s : σ) :
    (r.destroy other teardown s).2.1.AgreesBeside id (r'.destroy other teardown s).2.1 := by
  have hget := h.get?_eq hne
  cases hfound : r.get? other with
  | none =>
    rw [destroy_absent hfound, destroy_absent (hget ▸ hfound)]
    exact h
  | some o =>
    simp only [Registry.destroy, hfound, hget ▸ hfound]
    refine ⟨?_, ?_, h.disconnected⟩
    · rw [List.filter_filter, List.filter_filter]
      simp only [Bool.and_comm (x := decide (_ ≠ id))]
      rw [← List.filter_filter, ← List.filter_filter, h.outputs]
    · rw [List.filter_append, List.filter_append, h.events]

/-- A release that the output has no part in. -/
theorem releaseIn_filter {image : ImageId} {l : List (OutputId × Output δ)}
    (hl : ∀ entry ∈ l, entry.1 = id → ∀ shown ∈ entry.2.scheduler.presented, shown.id ≠ image) :
    releaseIn image (l.filter (·.1 ≠ id))
      = ((releaseIn image l).1, (releaseIn image l).2.filter (·.1 ≠ id)) := by
  induction l with
  | nil => rfl
  | cons entry l ih =>
    obtain ⟨name, o⟩ := entry
    have hrest := ih fun other hother => hl other (List.mem_cons_of_mem _ hother)
    by_cases hid : name = id
    · have habsent := FrameScheduler.bufferReleased_absent (hl _ List.mem_cons_self hid)
      rw [List.filter_cons_of_neg (by simp [hid]), hrest]
      simp only [releaseIn, habsent]
      rw [List.filter_cons_of_neg (by simp [hid])]
    · rw [List.filter_cons_of_pos (by simp [hid])]
      rcases hreleased : o.scheduler.bufferReleased image with ⟨_ | _, f⟩
      · simp only [releaseIn, hreleased, hrest]
        rw [List.filter_cons_of_pos (by simp [hid])]
      · simp only [releaseIn, hreleased]
        rw [List.filter_cons_of_pos (by simp [hid])]

theorem bufferReleased (h : r.AgreesBeside id r') {image : ImageId}
    (hr : ∀ entry ∈ r.outputs, entry.1 = id →
      ∀ shown ∈ entry.2.scheduler.presented, shown.id ≠ image)
    (hr' : ∀ entry ∈ r'.outputs, entry.1 = id →
      ∀ shown ∈ entry.2.scheduler.presented, shown.id ≠ image) :
    (r.bufferReleased image).2.AgreesBeside id (r'.bufferReleased image).2 := by
  have hboth := releaseIn_filter hr
  rw [h.outputs, releaseIn_filter hr', Prod.mk.injEq] at hboth
  obtain ⟨hfound, houtputs⟩ := hboth
  rcases hleft : releaseIn image r.outputs with ⟨found, outputs⟩
  rcases hright : releaseIn image r'.outputs with ⟨found', outputs'⟩
  rw [hleft, hright] at hfound houtputs
  subst hfound
  cases found' with
  | true =>
    simp only [Registry.bufferReleased, hleft, hright]
    exact collect ⟨houtputs.symm, h.events, h.disconnected⟩
  | false => simpa only [Registry.bufferReleased, hleft, hright] using h

end AgreesBeside

end Scanout.Registry
