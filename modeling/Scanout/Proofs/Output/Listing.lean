import Mathlib.Data.List.Perm.Subperm
import Scanout.Proofs.Display.Chronicle

/-!
# The list of outputs

A display lists its outputs in the order in which they were made. Nobody keeps that list apart: it
is what the removals left of the registry. But everybody who hears what is told can keep one, by
adding an output when it is announced and taking it out when its end is told (`alive`), and it is
the same list at every moment (`Lists`).
-/

namespace Scanout

/-- The outputs that were announced and whose end was not told, in the order of their
announcements. -/
def alive (told : List BackendEvent) : List OutputId :=
  (announced told).filter fun id => .output id .destroyed ∉ told

/-- Where nobody is announced, some may end. -/
theorem alive_append {told more : List BackendEvent} (hquiet : announced more = []) :
    alive (told ++ more) = (alive told).filter fun id => .output id .destroyed ∉ more := by
  rw [alive, announced_append, hquiet, List.append_nil, alive, List.filter_filter]
  refine List.filter_congr fun id _ => ?_
  rw [← Bool.decide_and]
  simp only [List.mem_append, not_or, and_comm]

namespace Sequel

variable {id : OutputId} {before after : Bool} {more : List BackendEvent}

/-- The end of an output is told when the output goes. -/
theorem destroyed_mem_iff (h : Sequel id before after more) :
    .output id .destroyed ∈ more ↔ before = true ∧ after = false := by
  cases h with
  | absent => simp
  | goesOn queued lives => simpa using lives
  | ends queued => simp

theorem eq_nil_of_absent (h : Sequel id false after more) : more = [] := by
  cases h with
  | absent => rfl

end Sequel

/-- What is left of a list without repetitions, as a condition. -/
theorem filter_mem_of_sublist {α : Type} [DecidableEq α] {l l' : List α} (hsub : l'.Sublist l)
    (hl : l.Nodup) : l.filter (· ∈ l') = l' := by
  have hkept : l'.filter (· ∈ l') = l' := List.filter_eq_self.mpr fun _ h => decide_eq_true h
  have hinside : l'.Sublist (l.filter (· ∈ l')) := by
    have hboth := hsub.filter (· ∈ l')
    rwa [hkept] at hboth
  refine (hinside.eq_of_length_le ?_).symm
  refine ((hl.filter _).subperm fun x hx => ?_).length_le
  exact of_decide_eq_true (List.mem_filter.mp hx).2

namespace Registry

variable {δ σ : Type} {r r' : Registry δ} {delivered : List BackendEvent} {next : Nat}

/-- The registry lists those that are alive by all that was told. What was delivered is not in the
queue any more, and an output that is made from now on has at least the number `next`. -/
structure Lists (delivered : List BackendEvent) (next : Nat) (r : Registry δ) : Prop where
  ids_eq : r.ids = alive (delivered ++ r.events)
  below : ∀ e ∈ delivered ++ r.events, ∀ id, e.concerns id = true → id.number < next

namespace Lists

theorem start : Lists (δ := δ) [] 0 {} :=
  ⟨rfl, fun _ h => absurd h List.not_mem_nil⟩

section

variable (h : r.Lists delivered next)

include h

theorem mono {next' : Nat} (hnext : next ≤ next') : r.Lists delivered next' :=
  ⟨h.ids_eq, fun e he id hid => Nat.lt_of_lt_of_le (h.below e he id hid) hnext⟩

/-- A listed output was announced. -/
theorem number_lt {id : OutputId} (hid : id ∈ r.ids) : id.number < next := by
  rw [h.ids_eq] at hid
  obtain ⟨e, he, hannounces⟩ := List.mem_filterMap.mp (List.mem_filter.mp hid).1
  refine h.below e he id ?_
  cases e with
  | newOutput other => exact decide_eq_true (Option.some.inj hannounces)
  | output | disconnected => exact absurd hannounces (by simp)

/-- Some outputs go, and it is told of them and of no other that they end. -/
theorem goesOn {more : List BackendEvent} (hids : r.ids.Nodup)
    (hevents : r'.events = r.events ++ more) (hsub : r'.ids.Sublist r.ids)
    (hquiet : announced more = [])
    (hsequel : ∀ id, Sequel id (id ∈ r.ids) (id ∈ r'.ids) (story id more)) :
    r'.Lists delivered next where
  ids_eq := by
    rw [hevents, ← List.append_assoc, alive_append hquiet, ← h.ids_eq]
    refine (filter_mem_of_sublist hsub hids).symm.trans (List.filter_congr fun id hid => ?_)
    have hend : .output id .destroyed ∈ more ↔ .output id .destroyed ∈ story id more := by
      simp [story, BackendEvent.concerns]
    rw [decide_eq_decide, hend, (hsequel id).destroyed_mem_iff, decide_eq_true_iff,
      decide_eq_false_iff_not]
    simp [hid]
  below := by
    intro e he id hid
    rw [hevents, ← List.append_assoc] at he
    rcases List.mem_append.mp he with hold | hnew
    · exact h.below e hold id hid
    · refine h.number_lt ?_
      by_contra hnot
      have hnothing := hsequel id
      rw [decide_eq_false hnot] at hnothing
      have hstory : e ∈ story id more := List.mem_filter.mpr ⟨hnew, hid⟩
      rw [hnothing.eq_nil_of_absent] at hstory
      exact List.not_mem_nil hstory

theorem turned {id : OutputId} {o : Output δ} {t : FrameScheduler.Turn} {details : δ}
    (hr : r.Tidy) (hturn : r.Turned id o t details r') (hlives : t.call ≠ .destroy) :
    r'.Lists delivered next :=
  h.goesOn hr.ids hturn.events_eq (hturn.ids_eq ▸ List.Sublist.refl _)
    (quiet_of_outputs fun _ => mem_map_output).1 (hturn.sequel hlives)

theorem destroy (hr : r.Tidy) (id : OutputId) {teardown : Output δ → σ → FrameScheduler × σ}
    (hends : Ends teardown) (s : σ) : (r.destroy id teardown s).2.1.Lists delivered next := by
  obtain ⟨more, hevents, houtputs, hsequel⟩ := (Move.ended id hends s).sequel hr
  exact h.goesOn hr.ids hevents ((destroy_outputs r id teardown s).map _)
    (quiet_of_outputs houtputs).1 hsequel

theorem move {handed : List Image} (hr : r.Tidy) (hmove : r.Move handed r') :
    r'.Lists delivered next := by
  cases hmove with
  | still => exact h
  | turned turn lives => exact h.turned hr turn lives
  | ended id ends s => exact h.destroy hr id ends s

theorem disconnect (hr : r.Tidy) {teardown : Output δ → σ → FrameScheduler × σ}
    (hends : Ends teardown) (s : σ) : (r.disconnect teardown s).2.1.Lists delivered next := by
  cases hlive : r.disconnected with
  | true =>
    rw [disconnect_again hlive]
    exact h
  | false =>
    rw [disconnect_eq hr.ids hends hlive]
    have hquiet := (quiet_of_outputs fun e he => mem_flatMap_lastEvents (r := r) he).1
    refine h.goesOn hr.ids (List.append_assoc ..) (List.nil_sublist _) ?_ fun id => ?_
    · rw [announced_append, hquiet]
      rfl
    · rw [story_append, show story id [.disconnected] = [] from rfl, List.append_nil]
      exact hr.sequel_lastEvents id

/-- A new output is the last of the list. -/
theorem opened (id : OutputId) (hnew : next ≤ id.number) (o : Output δ) :
    (r.insert id o).Lists delivered (id.number + 1) := by
  have hevents : (r.insert id o).events = r.events ++ [.newOutput id] := rfl
  have hfresh : ∀ e ∈ delivered ++ r.events, e.concerns id = false := by
    intro e he
    by_contra hid
    have hlt := h.below e he id (by simpa using hid)
    omega
  have hlives : .output id .destroyed ∉ delivered ++ r.events := fun hmem =>
    absurd (hfresh _ hmem) (by simp [BackendEvent.concerns])
  constructor
  · have hends : ∀ other, .output other .destroyed ∈ delivered ++ r.events ++ [.newOutput id] ↔
        .output other .destroyed ∈ delivered ++ r.events := by simp
    have hannounced : announced (delivered ++ r.events ++ [.newOutput id])
        = announced (delivered ++ r.events) ++ [id] := announced_append
    rw [insert_ids, hevents, ← List.append_assoc, h.ids_eq, alive, alive, hannounced]
    simp only [hends]
    rw [List.filter_append, List.filter_cons_of_pos (by simpa using hlives), List.filter_nil]
  · intro e he other hother
    rw [hevents, ← List.append_assoc] at he
    rcases List.mem_append.mp he with hold | hself
    · have hlt := h.below e hold other hother
      omega
    · rw [List.mem_singleton.mp hself] at hother
      obtain rfl : id = other := of_decide_eq_true hother
      exact Nat.lt_succ_self _

/-- The queue is emptied. -/
theorem taken : r.takeEvents.2.Lists (delivered ++ r.events) next := by
  constructor
  · rw [show r.takeEvents.2.events = [] from rfl, List.append_nil]
    exact h.ids_eq
  · rw [show r.takeEvents.2.events = [] from rfl, List.append_nil]
    exact h.below

end

end Lists

end Registry

end Scanout
