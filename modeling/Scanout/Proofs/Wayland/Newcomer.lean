import Scanout.Proofs.Output.Beside
import Scanout.Proofs.Wayland.Keeping
import Scanout.Proofs.Wayland.RoundTrips

/-!
# A new output is a matter of its own

While the answer to the making of an output is awaited, events of all kinds are handled. They find
the new output among the others, but they do to the others, and to all else a display knows, what
they would have done without it (`Hosts.handleAll`). For its identifier and the number of its
objects are new (`Sound`), so no event that is about another output can reach it.
-/

namespace Scanout.Wayland

namespace Client

variable {c c' : Client} {next : Nat}

/-- Identifiers from `next` on and objects not yet made are nobody's. -/
structure Sound (c : Client) (next : Nat) : Prop where
  tidy : c.registry.Tidy
  below : ∀ id ∈ c.registry.ids, id.number < next
  objects : ∀ entry ∈ c.registry.outputs, entry.2.details.object < c.created
  waits : ∀ id ∈ c.waiting, id.number < next

theorem Sound.keeps (h : c.Sound next) {scheduled : List OutputId} (hkeeps : c.Keeps scheduled c')
    (hscheduled : ∀ id ∈ scheduled, id.number < next) (htidy : c'.registry.Tidy) :
    c'.Sound next where
  tidy := htidy
  below := by
    intro id hid
    obtain ⟨entry, he, rfl⟩ := List.mem_map.mp hid
    obtain ⟨o, ho, -⟩ := hkeeps.outputs entry he
    exact h.below entry.1 (List.mem_map.mpr ⟨_, ho, rfl⟩)
  objects := by
    intro entry he
    obtain ⟨o, ho, hobject, -⟩ := hkeeps.outputs entry he
    rw [hkeeps.created, ← hobject]
    exact h.objects _ ho
  waits := by
    intro id hid
    rcases List.mem_append.mp (hkeeps.waits hid) with hold | hnew
    · exact h.waits id hold
    · exact hscheduled id hnew

theorem Sound.mono (h : c.Sound next) {later : Nat} (hle : next ≤ later) : c.Sound later :=
  ⟨h.tidy, fun id hid => Nat.lt_of_lt_of_le (h.below id hid) hle, h.objects,
    fun id hid => Nat.lt_of_lt_of_le (h.waits id hid) hle⟩

theorem Sound.handle (h : c.Sound next) (e : Event) : (c.handle e).2.Sound next :=
  h.keeps (handle_keeps h.tidy.ids e) (by simp) ((handle_move h.tidy e).tidy h.tidy)

theorem Sound.handleAll (h : c.Sound next) (events : List Event) :
    (c.handleAll events).2.Sound next := by
  induction events generalizing c with
  | nil => exact h
  | cons e rest ih => exact ih (h.handle e)

theorem Sound.createOutput (h : c.Sound next) {id : OutputId} (hnew : next ≤ id.number) :
    (c.createOutput id).2.2.Sound (id.number + 1) := by
  have hold := h.mono (Nat.le_succ_of_le hnew)
  have hfresh : id ∉ c.registry.ids := fun hid => absurd (h.below id hid) (Nat.not_lt.mpr hnew)
  unfold Client.createOutput
  split
  · exact hold
  · split
    · refine ⟨h.tidy.insert hfresh _, fun other hother => ?_, fun entry he => ?_, hold.waits⟩
      · rw [Registry.insert_ids] at hother
        rcases List.mem_append.mp hother with hother | hother
        · exact hold.below other hother
        · rw [List.mem_singleton.mp hother]
          exact Nat.lt_succ_self _
      · rcases List.mem_append.mp he with he | he
        · exact Nat.lt_succ_of_lt (h.objects entry he)
        · rw [List.mem_singleton.mp he]
          exact Nat.lt_succ_self _
    · exact hold

theorem Sound.scheduleFrame (h : c.Sound next) (id : OutputId) (image : Image) :
    (c.scheduleFrame id image).2.2.Sound next := by
  cases hget : c.registry.get? id with
  | none =>
    rw [scheduleFrame_unknown hget]
    exact h
  | some o =>
    refine h.keeps (scheduleFrame_keeps c id image) (fun other hother => ?_)
      ((scheduleFrame_move h.tidy id image).tidy h.tidy)
    rw [List.mem_singleton.mp hother]
    exact h.below id (List.mem_map_of_mem (Registry.mem_of_get? hget))

end Client

/-- What is called and what is heard leave a sound display sound. -/
theorem step_sound {w : Display.Course Client} (h : w.client.Sound w.next)
    (call : Display.Call Happening) :
    (w.step display call).client.Sound (w.step display call).next := by
  unfold Display.Course.step
  split
  · exact h
  cases call with
  | createOutput skipped => exact h.createOutput (Nat.le_add_right w.next skipped)
  | scheduleFrame id image => exact h.scheduleFrame id image
  | destroyOutput id =>
    have htidy := h.tidy.destroy id Client.teardown []
    exact h.keeps (Client.destroyOutput_keeps w.client id) (by simp) htidy
  | connectionClosed =>
    have htidy := h.tidy.disconnect Client.teardown_ends []
    exact h.keeps (Client.connectionClosed_keeps h.tidy.ids) (by simp) htidy
  | deliver => exact ⟨⟨h.tidy.settled, h.tidy.ids⟩, h.below, h.objects, h.waits⟩
  | other happening =>
    cases happening with
    | event e => exact h.handle e
    | attach image =>
      show (w.client.attach image).2.2.Sound w.next
      rcases Client.attach_cases w.client image with ⟨_, heq⟩ | ⟨_, -, heq⟩
      · rwa [heq]
      · rw [heq]
        exact ⟨h.tidy, h.below, h.objects, h.waits⟩
    | detach image =>
      show (w.client.detach image).2.2.Sound w.next
      rcases Client.detach_cases w.client image with ⟨-, heq⟩ | ⟨_, -, heq⟩
      · rwa [heq]
      · rw [heq]
        exact ⟨h.tidy, h.below, h.objects, h.waits⟩

theorem run_sound {w : Display.Course Client} (h : w.client.Sound w.next)
    (calls : List (Display.Call Happening)) :
    (w.run display calls).client.Sound (w.run display calls).next := by
  induction calls generalizing w with
  | nil => exact h
  | cons call rest ih => exact ih (step_sound h call)

theorem Opening.client_sound (o : Opening) : o.client.Sound 0 := by
  have hstart : ({ appId := o.appId, mode := o.mode } : Client).Sound 0 :=
    ⟨⟨fun _ h => absurd h List.not_mem_nil, List.nodup_nil⟩, fun _ h => absurd h List.not_mem_nil,
      fun _ h => absurd h List.not_mem_nil, fun _ h => absurd h List.not_mem_nil⟩
  exact (hstart.handleAll o.globals).handleAll o.answers

namespace Client

variable {c : Client} {id : OutputId} {object n : Nat} {r : Registry Toplevel}

/-- The same display with other outputs. -/
def withOutputs (c : Client) (r : Registry Toplevel) (created : Nat) : Client :=
  { c with registry := r, created := created }

/-- The outputs `r` are those of the display without one that shows nothing, waits for nothing
and has objects of a number of its own. -/
structure Hosts (c : Client) (id : OutputId) (object : Nat) (r : Registry Toplevel) : Prop where
  agrees : c.registry.AgreesBeside id r
  tidy : c.registry.Tidy
  others_tidy : r.Tidy
  absent : id ∉ r.ids
  own : ∀ o, (id, o) ∈ c.registry.outputs →
    o.details.object = object ∧ o.scheduler.presented = []
  others : ∀ entry ∈ r.outputs, entry.2.details.object ≠ object
  waits : id ∉ c.waiting

namespace Hosts

section

variable (h : c.Hosts id object r)

include h

theorem key_ne {entry : OutputId × Output Toplevel} (he : entry ∈ r.outputs) : entry.1 ≠ id :=
  fun heq => h.absent (heq ▸ List.mem_map_of_mem he)

theorem outputOf?_object (n : Nat) : (c.withOutputs r n).outputOf? object = none := by
  refine List.find?_eq_none.mpr fun entry he => ?_
  simpa using h.others entry he

theorem of_outputOf?_object {other : OutputId} {o : Output Toplevel}
    (hout : c.outputOf? object = some (other, o)) : other = id := by
  by_contra hne
  have hmem := (h.agrees.mem_iff hne).mp (outputOf?_mem hout)
  exact h.others _ hmem (eq_of_beq (by simpa using List.find?_some hout))

theorem outputOf?_eq (n : Nat) {number : Nat} (hne : number ≠ object) :
    (c.withOutputs r n).outputOf? number = c.outputOf? number := by
  refine (h.agrees.find?_eq (fun entry he hfound heq => ?_) fun entry he _ => h.key_ne he).symm
  have hobject : entry.2.details.object = number := eq_of_beq hfound
  have hown := (h.own entry.2 (heq ▸ he)).1
  exact hne (hobject.symm.trans hown)

theorem of_outputOf? {number : Nat} (hne : number ≠ object) {other : OutputId}
    {o : Output Toplevel} (hout : c.outputOf? number = some (other, o)) : other ≠ id := by
  rintro rfl
  have hobject : o.details.object = number := eq_of_beq (by simpa using List.find?_some hout)
  exact hne (hobject.symm.trans (h.own o (outputOf?_mem hout)).1)

/-- What happens to the new output is collected, and the others have nothing to collect. -/
theorem set_agrees (o : Output Toplevel) :
    (c.registry.set id o).collect.AgreesBeside id r := by
  have hset := ((Registry.AgreesBeside.set_left c.registry id o).trans h.agrees).collect
  rwa [h.others_tidy.settled.collect_eq] at hset

end

/-- What an event does to a display with the new output, beside what it does to the same display
without it: the same, but for the new output. -/
structure Alike (c d : Client) (id : OutputId) : Prop where
  agrees : c.registry.AgreesBeside id d.registry
  rest : d = c.withOutputs d.registry d.created

section

variable (h : c.Hosts id object r) (n : Nat)

include h

theorem alike : Alike c (c.withOutputs r n) id := ⟨h.agrees, rfl⟩

theorem configure_alike (toplevel : Nat) (width height : Int32) :
    Alike (c.configure toplevel width height)
      ((c.withOutputs r n).configure toplevel width height) id := by
  cases hmode : Mode.ofConfigure? width height with
  | none =>
    simp only [configure, hmode]
    exact h.alike n
  | some mode =>
    by_cases hobject : toplevel = object
    · subst hobject
      simp only [configure, hmode, h.outputOf?_object n]
      cases hout : c.outputOf? toplevel with
      | none => exact h.alike n
      | some found =>
        obtain ⟨other, o⟩ := found
        obtain rfl := h.of_outputOf?_object hout
        simp only
        split
        · exact h.alike n
        · exact ⟨h.set_agrees _, rfl⟩
    · simp only [configure, hmode, h.outputOf?_eq n hobject]
      cases hout : c.outputOf? toplevel with
      | none => exact h.alike n
      | some found =>
        obtain ⟨other, o⟩ := found
        simp only
        split
        · exact h.alike n
        · exact ⟨(h.agrees.set other _).collect, rfl⟩

theorem close_alike (toplevel : Nat) :
    Alike (c.close toplevel).2 ((c.withOutputs r n).close toplevel).2 id := by
  by_cases hobject : toplevel = object
  · subst hobject
    simp only [close, h.outputOf?_object n]
    cases hout : c.outputOf? toplevel with
    | none => exact h.alike n
    | some found =>
      obtain ⟨other, o⟩ := found
      obtain rfl := h.of_outputOf?_object hout
      have hself := Registry.AgreesBeside.destroy_left c.registry other teardown []
      exact ⟨hself.trans h.agrees, rfl⟩
  · simp only [close, h.outputOf?_eq n hobject]
    cases hout : c.outputOf? toplevel with
    | none => exact h.alike n
    | some found =>
      obtain ⟨other, o⟩ := found
      exact ⟨h.agrees.destroy (h.of_outputOf? hobject hout) teardown [], rfl⟩

theorem done_alike (callback : Nat) :
    Alike (c.done callback).2 ((c.withOutputs r n).done callback).2 id := by
  have hcallbacks : (c.withOutputs r n).callbacks = c.callbacks := rfl
  cases hwait : c.callbacks.unanswered.lookup callback with
  | none =>
    simp only [done, hcallbacks, hwait]
    exact h.alike n
  | some other =>
    have hne : other ≠ id := by
      rintro rfl
      obtain ⟨front, back, heq, -⟩ := List.lookup_eq_some_iff.mp hwait
      exact h.waits (by simp [waiting, heq])
    have hregistry : (c.withOutputs r n).registry = r := rfl
    cases hget : c.registry.get? other with
    | none =>
      simp only [done, hcallbacks, hwait, hregistry, ← h.agrees.get?_eq hne, hget]
      exact ⟨h.agrees, rfl⟩
    | some o =>
      -- both displays hand the same canvas to the same scheduler
      simp only [done, hcallbacks, hwait, hregistry, ← h.agrees.get?_eq hne, hget]
      exact ⟨(h.agrees.set _ _).collect, rfl⟩

theorem release_alike (buffer : Nat) :
    Alike (c.release buffer) ((c.withOutputs r n).release buffer) id := by
  have hbuffers : (c.withOutputs r n).buffers = c.buffers := rfl
  cases hlookup : c.buffers.lookup buffer with
  | none =>
    simp only [release, hbuffers, hlookup]
    exact h.alike n
  | some image =>
    simp only [release, hbuffers, hlookup]
    refine ⟨h.agrees.bufferReleased (fun entry he heq => ?_) fun entry he heq => ?_, rfl⟩
    · simp [(h.own entry.2 (heq ▸ he)).2]
    · exact absurd heq (h.key_ne he)

theorem handle_alike (e : Event) : Alike (c.handle e).2 ((c.withOutputs r n).handle e).2 id := by
  cases e with
  | global name interface version =>
    simp only [handle]
    split
    · exact h.alike n
    · next i _ => cases i <;> exact ⟨h.agrees, rfl⟩
  | format code | modifier code high low =>
    simp only [handle, advertise]
    split <;> exact ⟨h.agrees, rfl⟩
  | toplevelConfigure toplevel width height => exact h.configure_alike n toplevel width height
  | toplevelClose toplevel => exact h.close_alike n toplevel
  | surfaceConfigure xdgSurface serial =>
    simp only [handle]
    split <;> split <;> exact h.alike n
  | globalRemove | ping => exact h.alike n
  | done callback => exact h.done_alike n callback
  | release buffer => exact h.release_alike n buffer

/-- After an event the new output is still one that nothing else has to do with. -/
theorem handle (e : Event) :
    (c.handle e).2.Hosts id object ((c.withOutputs r n).handle e).2.registry := by
  have hkeeps := handle_keeps h.tidy.ids e
  have hothers := handle_keeps (c := c.withOutputs r n) h.others_tidy.ids e
  refine ⟨(h.handle_alike n e).agrees, (handle_move h.tidy e).tidy h.tidy,
    (handle_move (c := c.withOutputs r n) h.others_tidy e).tidy h.others_tidy, fun hid => ?_,
    fun o ho => ?_, fun entry he => ?_, fun hid => ?_⟩
  · obtain ⟨entry, he, rfl⟩ := List.mem_map.mp hid
    obtain ⟨o, ho, -⟩ := hothers.outputs entry he
    exact h.absent (List.mem_map.mpr ⟨_, ho, rfl⟩)
  · obtain ⟨old, hold, hobject, hshown⟩ := hkeeps.outputs _ ho
    obtain ⟨hown, hempty⟩ := h.own old hold
    have hnone := hshown (by simpa using h.waits)
    rw [hempty] at hnone
    exact ⟨hobject.symm.trans hown, List.subset_nil.mp hnone⟩
  · obtain ⟨o, ho, hobject, -⟩ := hothers.outputs entry he
    rw [← hobject]
    exact h.others _ ho
  · exact h.waits (by simpa using hkeeps.waits hid)

end

/-- Whatever is heard, all but the new output is as it would have been without it. -/
theorem handleAll (h : c.Hosts id object r) (n : Nat) (events : List Event) :
    Alike (c.handleAll events).2 ((c.withOutputs r n).handleAll events).2 id := by
  induction events generalizing c r n with
  | nil => exact h.alike n
  | cons e rest ih =>
    have hnext := ih (h.handle n e) ((c.withOutputs r n).handle e).2.created
    rwa [← (h.handle_alike n e).rest] at hnext

/-! ## Whether the new output stays -/

/-- Only a request to close its window ends the new output. -/
theorem mem_ids_handle (h : c.Hosts id object r) (e : Event) :
    id ∈ (c.handle e).2.registry.ids ↔ id ∈ c.registry.ids ∧ e ≠ .toplevelClose object := by
  have hset : ∀ other (o : Output Toplevel),
      (c.registry.set other o).collect.ids = c.registry.ids := by
    intro other o
    rw [Registry.collect_ids, Registry.ids, Registry.set, List.map_map]
    exact List.map_congr_left fun entry _ => Registry.AgreesBeside.set_key o entry
  cases e with
  | toplevelClose toplevel =>
    simp only [Client.handle, close]
    by_cases hobject : toplevel = object
    · subst hobject
      simp only [ne_eq, not_true, and_false, iff_false]
      cases hout : c.outputOf? toplevel with
      | none =>
        intro hid
        obtain ⟨entry, he, rfl⟩ := List.mem_map.mp hid
        exact List.find?_eq_none.mp hout entry he (by simp [(h.own entry.2 he).1])
      | some found =>
        obtain ⟨other, o⟩ := found
        obtain rfl := h.of_outputOf?_object hout
        exact Registry.get?_eq_none.mp (Registry.get?_destroy c.registry other teardown [])
    · have hstays : Event.toplevelClose toplevel ≠ .toplevelClose object := by simpa using hobject
      simp only [ne_eq, hstays, not_false_eq_true, and_true]
      cases hout : c.outputOf? toplevel with
      | none => rfl
      | some found =>
        obtain ⟨other, o⟩ := found
        have hne := h.of_outputOf? hobject hout
        have hagrees := Registry.AgreesBeside.destroy_left c.registry other teardown []
        simp only [Registry.ids, List.mem_map]
        constructor
        · rintro ⟨entry, he, heq⟩
          exact ⟨entry, (hagrees.mem_iff (heq ▸ hne.symm)).mp he, heq⟩
        · rintro ⟨entry, he, heq⟩
          exact ⟨entry, (hagrees.mem_iff (heq ▸ hne.symm)).mpr he, heq⟩
  | toplevelConfigure toplevel width height =>
    simp only [Client.handle, configure]
    split
    · split
      · simp
      · simp [hset]
    · simp
  | done callback =>
    cases hwait : c.callbacks.unanswered.lookup callback with
    | none => simp [Client.handle, done, hwait]
    | some other =>
      cases hget : c.registry.get? other <;> simp [Client.handle, done, hwait, hget, putBack, hset]
  | release buffer =>
    simp only [Client.handle, release]
    split
    · simp
    · simp [Registry.bufferReleased_ids]
  | global name interface version =>
    simp only [Client.handle]
    split
    · simp
    · next i _ => cases i <;> simp [bindGlobal, setBound]
  | format code | modifier code high low =>
    simp only [Client.handle, advertise]
    split <;> simp
  | surfaceConfigure xdgSurface serial =>
    simp only [Client.handle]
    split <;> simp
  | globalRemove | ping => simp [Client.handle]

theorem mem_ids_handleAll (h : c.Hosts id object r) (events : List Event) :
    id ∈ (c.handleAll events).2.registry.ids ↔
      id ∈ c.registry.ids ∧ .toplevelClose object ∉ events := by
  induction events generalizing c r with
  | nil => simp [Client.handleAll]
  | cons e rest ih =>
    show id ∈ ((c.handle e).2.handleAll rest).2.registry.ids ↔ _
    rw [ih (h.handle 0 e), h.mem_ids_handle e, List.mem_cons, not_or, and_assoc]
    exact and_congr_right fun _ => and_congr_left fun _ => ne_comm

end Hosts

/-- What is queued stays queued until it is delivered. -/
theorem handleAll_events (hc : c.registry.Tidy) (events : List Event) :
    c.registry.events <+: (c.handleAll events).2.registry.events := by
  induction events generalizing c with
  | nil => exact List.prefix_refl _
  | cons e rest ih =>
    have hmove := handle_move hc e
    obtain ⟨more, hmore, -⟩ := hmove.sequel hc
    exact (hmore ▸ List.prefix_append _ _).trans (ih (hmove.tidy hc))

/-- A new output is hosted by a sound display. -/
theorem Sound.hosts {next : Nat} (h : c.Sound next) {id id' : OutputId} (hnew : next ≤ id.number)
    {sent : List Request} {c' : Client} (hmade : c.createOutput id = (.ok id', sent, c')) :
    c'.Hosts id c.created c.registry ∧ c'.withOutputs c.registry c.created = c ∧
      id ∈ c'.registry.ids ∧ .newOutput id ∈ c'.registry.events := by
  have hsound := h.createOutput hnew
  have hfresh : id ∉ c.registry.ids := fun hid => absurd (h.below id hid) (Nat.not_lt.mpr hnew)
  rw [hmade] at hsound
  unfold Client.createOutput at hmade
  split at hmade
  · cases hmade
  · split at hmade
    · cases hmade
      refine ⟨⟨Registry.AgreesBeside.insert_left _ id _, hsound.tidy, h.tidy, hfresh, fun o ho => ?_,
        fun entry he => Nat.ne_of_lt (h.objects entry he), fun hid => ?_⟩, rfl, ?_, ?_⟩
      · rcases List.mem_append.mp ho with hold | hself
        · exact absurd (List.mem_map_of_mem hold) hfresh
        · obtain ⟨-, rfl⟩ : True ∧ o = _ := by simpa using hself
          exact ⟨rfl, rfl⟩
      · exact absurd (h.waits id hid) (Nat.not_lt.mpr hnew)
      · rw [Registry.insert_ids]
        exact List.mem_append_right _ (List.mem_singleton_self id)
      · exact List.mem_append_right _ (List.mem_singleton_self _)
    · cases hmade

end Client

end Scanout.Wayland
