import Scanout.Proofs.Wayland.Newcomer

/-!
# Outputs that could not be made

A call that makes an output and reports a failure should leave nothing of it. On an X server it
does, at whichever request the connection fails: the output is inserted after all that can fail.
On a Wayland compositor the output is inserted before its first configuration is awaited, so it
stays, announced under an identifier that the caller was never told, exactly if the connection
breaks during that round trip (`failed_output_leaves_nothing_iff`). In no case is any other output
touched, beyond what the compositor's own events do to it.
-/

namespace Scanout

/-- Nothing of an output is to be seen: it is not listed, and nobody will be told of it. -/
structure Registry.LeavesNothing {δ : Type} (r : Registry δ) (id : OutputId) : Prop where
  unlisted : id ∉ r.ids
  unannounced : .newOutput id ∉ r.events

/-- An identifier that is not drawn yet is nowhere to be seen. -/
theorem Display.Course.Inv.leavesNothing {κ δ ε : Type} {D : Display κ δ ε} {w : Display.Course κ}
    (h : w.Inv D) {id : OutputId} (hnew : w.next ≤ id.number) :
    (D.registry w.client).LeavesNothing id where
  unlisted := fun hid => absurd (h.below id (h.known id hid)) (Nat.not_lt.mpr hnew)
  unannounced := by
    intro hmem
    have hmade : id ∈ Scanout.announced (w.history D) :=
      List.mem_filterMap.mpr ⟨_, List.mem_append_right _ hmem, rfl⟩
    rw [h.announced] at hmade
    exact absurd (h.below id hmade) (Nat.not_lt.mpr hnew)

/-- However making its window failed, an output that could not be made leaves the registry as it
was. -/
theorem X11.Client.createOutput_failed {c : X11.Client} {id : OutputId}
    (hfailed : (c.createOutput id).1.isOk = false) :
    (c.createOutput id).2.2.registry = c.registry := by
  obtain ⟨-, hsame⟩ | ⟨hok, -⟩ := c.createOutput_cases id
  · exact hsame
  · rw [hok] at hfailed
    exact absurd hfailed (by decide)

namespace Wayland

/-- Nothing that is heard makes an output, so an opened display has none. -/
theorem Opening.client_registry (o : Opening) : o.client.registry = {} := by
  have hnone : ∀ (events : List Event) {c : Client}, c.registry = {} →
      (c.handleAll events).2.registry = {} := by
    intro events
    induction events with
    | nil => exact fun hc => hc
    | cons e rest ih =>
      intro c hc
      have htidy : c.registry.Tidy := by
        rw [hc]
        exact ⟨fun _ h => absurd h List.not_mem_nil, List.nodup_nil⟩
      have hsame := ((Client.handle_move htidy e).of_empty (by rw [hc])).1
      exact ih (hsame.trans hc)
  exact hnone _ (hnone _ rfl)

/-- An output that could not be made, by how it failed: either nothing was done at all, or all was
done, and the connection broke before the answer came. -/
theorem Client.Sound.failed_cases {c : Client} {next : Nat} (h : c.Sound next) {id : OutputId}
    (hnew : next ≤ id.number) (trip : RoundTrip)
    (hfailed : (c.openOutput id trip).1.isOk = false) :
    ((c.openOutput id trip).1 ≠ .error .dispatch ∧ (c.openOutput id trip).2.2 = c) ∨
    ((c.openOutput id trip).1 = .error .dispatch ∧
      .newOutput id ∈ (c.openOutput id trip).2.2.registry.events ∧
      (id ∈ (c.openOutput id trip).2.2.registry.ids ↔ .toplevelClose c.created ∉ trip.heard) ∧
      (c.openOutput id trip).2.2.registry.AgreesBeside id (c.handleAll trip.heard).2.registry) := by
  rcases hmade : c.createOutput id with ⟨e | id', sent, c'⟩
  · refine .inl ?_
    simp only [openOutput, hmade]
    unfold Client.createOutput at hmade
    split at hmade
    · cases hmade
      exact ⟨by simp, rfl⟩
    · split at hmade
      · cases hmade
      · cases hmade
        exact ⟨by simp, rfl⟩
  · obtain ⟨hhosts, hsame, hlisted, hannounced⟩ := h.hosts hnew hmade
    have halike := (hhosts.handleAll c.created trip.heard).agrees
    have hstays := hhosts.mem_ids_handleAll trip.heard
    rw [hsame] at halike
    refine .inr ?_
    simp only [openOutput, hmade] at hfailed ⊢
    cases hheld : trip.held with
    | true =>
      rw [hheld] at hfailed
      exact absurd hfailed (by simp [Except.isOk, Except.toBool])
    | false =>
      refine ⟨rfl, (handleAll_events hhosts.tidy trip.heard).subset hannounced, ?_, halike⟩
      rw [hstays]
      exact and_iff_right hlisted

end Wayland

/-- **What is left of an output that could not be made.** On an X server, in whatever state and
however the connection takes what is written for the window, everything is as before. On a Wayland
compositor nothing is left either, unless the connection breaks while the first configuration is
awaited; then the output is announced and stays, unless its window was closed meanwhile, and the
others are as the events that were heard would have left them anyway. -/
theorem failed_output_leaves_nothing_iff (x : X11.Client)
    (notices : List (Display.Call X11.Happening)) (other : OutputId)
    (connection : X11.Connection) (o : Wayland.Opening)
    (calls : List (Display.Call Wayland.Happening)) (skipped : Nat) (trip : Wayland.RoundTrip) :
    let c := ((Display.Course.start x).run X11.display notices).client.withConnection connection
    let w := (Display.Course.start o.client).run Wayland.display calls
    let id : OutputId := ⟨w.next + skipped⟩
    let result := (w.client.openOutput id trip).1
    let left := (w.client.openOutput id trip).2.2.registry
    ((c.createOutput other).1.isOk = false →
      (c.createOutput other).2.2.registry = c.registry) ∧
    (result.isOk = false →
      (left.LeavesNothing id ↔ result ≠ .error .dispatch) ∧
      (result ≠ .error .dispatch → (w.client.openOutput id trip).2.2 = w.client) ∧
      (result = .error .dispatch →
        .newOutput id ∈ left.events ∧
        (id ∈ left.ids ↔ .toplevelClose w.client.created ∉ trip.heard) ∧
        left.AgreesBeside id (w.client.handleAll trip.heard).2.registry)) := by
  intro c w id result left
  have hsound : w.client.Sound w.next := Wayland.run_sound o.client_sound calls
  have hnew : w.next ≤ id.number := Nat.le_add_right w.next skipped
  refine ⟨X11.Client.createOutput_failed, fun hfailed => ?_⟩
  rcases hsound.failed_cases hnew trip hfailed with
    ⟨hother, hsame⟩ | ⟨hbroke, hannounced, hlisted, hagrees⟩
  · have hinv := (Display.Course.start_inv (D := Wayland.display) o.client_registry).run_inv
      Wayland.display_lawful calls (Wayland.run_holds o.client calls)
    have hnothing : left.LeavesNothing id := by
      have hbefore := hinv.leavesNothing hnew
      rwa [← hsame] at hbefore
    exact ⟨iff_of_true hnothing hother, fun _ => hsame, fun hbroke => absurd hbroke hother⟩
  · refine ⟨iff_of_false (fun hnothing => hnothing.unannounced hannounced)
      (fun hne => hne hbroke), fun hne => absurd hbroke hne, fun _ => ⟨hannounced, hlisted, hagrees⟩⟩

/-- A connection on which everything can be written, but nothing is flushed. -/
def X11.stuckConnection : X11.Connection :=
  { flush := fun _ => .error { message := "broken pipe" } }

/-- On an X server whose connection breaks when the window is to be shown nothing is left, and on
a compositor that hangs up during the round trip something is. -/
theorem failed_outputs_of_both :
    let stuck := X11.freshClient.withConnection X11.stuckConnection
    let left := (Wayland.shortOpening.client.openOutput ⟨0⟩ ⟨[], false⟩).2.2.registry
    (stuck.createOutput ⟨0⟩).2.1.length = 6 ∧
    (stuck.createOutput ⟨0⟩).2.2.registry = stuck.registry ∧
    ¬ left.LeavesNothing ⟨0⟩ ∧ .newOutput ⟨0⟩ ∈ left.events ∧ ⟨0⟩ ∈ left.ids := by
  intro stuck left
  obtain ⟨hx, hw⟩ := failed_output_leaves_nothing_iff X11.freshClient [] ⟨0⟩
    X11.stuckConnection Wayland.shortOpening [] 0 ⟨[], false⟩
  have hbroke : (Wayland.shortOpening.client.openOutput ⟨0⟩ ⟨[], false⟩).1 = .error .dispatch := by
    decide +kernel
  obtain ⟨hnothing, -, hleft⟩ := hw (by decide +kernel)
  obtain ⟨hannounced, hlisted, -⟩ := hleft hbroke
  exact ⟨by decide +kernel, hx (by decide +kernel), fun h => hnothing.mp h hbroke, hannounced,
    hlisted.mpr (by simp)⟩

/-- The call fails, and the output it was to make is listed and announced all the same. -/
theorem unanswered_output_stays :
    let (result, _, c) := Wayland.shortOpening.client.openOutput ⟨0⟩ ⟨[], false⟩
    Wayland.shortOpening.client.missing? = none ∧ result = .error .dispatch ∧
      c.registry.ids = [⟨0⟩] ∧ c.registry.events = [.newOutput ⟨0⟩] := by
  decide +kernel

end Scanout
