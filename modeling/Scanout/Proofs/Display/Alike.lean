import Scanout.Proofs.Wayland.Pacing
import Scanout.Proofs.X11.Pacing

/-!
# A compositor cannot tell its displays apart

The display on an X server and the one on a Wayland compositor have their own event handlers,
which keep different things: times, serial numbers and the pixmaps in flight on one side, the
callbacks that were asked for on the other. Both pace, so the same scene looks the same on both
(`paced_alike`).
-/

namespace Scanout

/-- A display that was just opened on an X server is in order, while nothing fails that it
writes. -/
theorem X11.fresh_fit {c : X11.Client} (hempty : c.registry = {})
    (hstep : 0 < c.session.ids.step) (hsound : c.session.connection.Sound) :
    X11.Fit c.mode { client := c } 0 [] where
  mode_eq := rfl
  sound := hsound
  apart := hstep
  windows := .nil
  windows_old := .nil
  pixmaps := .nil
  pixmaps_old := .nil
  imported := by simp
  placed := by simp [hempty]

/-- So is one that was just opened on a Wayland compositor. -/
theorem Wayland.fresh_fit {c : Wayland.Client} (hempty : c.registry = {})
    (hbuffers : c.buffers = []) (hcallbacks : c.callbacks.unanswered = []) :
    Wayland.Fit c.mode { client := c } 0 [] where
  mode_eq := rfl
  idle := rfl
  surfaces := .nil
  surfaces_old := .nil
  buffers := .nil
  buffers_eq := hbuffers
  buffers_old := .nil
  imported := by simp
  callbacks_old := by simp [hcallbacks]
  placed := by simp [hempty]

/-- **Frames are paced alike on both kinds of displays.** A display was just opened on an X server
and another one on a Wayland compositor, with the same size for new outputs, and the same actions
happen on both, in any order and as many as one likes, over connections that are alive; then they
may be lost. As long as neither refuses an output or an import, the compositor is told the same
events in the same order and the same outcomes of scheduling, and both servers were asked to show
the same images on the same outputs in the same order. Images are compared but for what a display
keeps in them, refusals but for their texts. That identifiers are apart holds of every display that
was opened on an X server (`X11.openSession_apart`). -/
theorem paced_alike {x : X11.Client} (hx : x.registry = {}) (hstep : 0 < x.session.ids.step)
    (hsound : x.session.connection.Sound) {w : Wayland.Client} (hw : w.registry = {})
    (hbuffers : w.buffers = []) (hcallbacks : w.callbacks.unanswered = []) (hmode : x.mode = w.mode)
    (verdict : X11.Request → Except X11.Refusal Unit) (actions : List Action) (lost : Bool)
    (hxs : (Scene.play (X11.port verdict) { client := x } actions lost).refused = false)
    (hws : (Scene.play Wayland.port { client := w } actions lost).refused = false) :
    let onX11 := Scene.play (X11.port verdict) { client := x } actions lost
    let onWayland := Scene.play Wayland.port { client := w } actions lost
    onX11.events (X11.port verdict) = onWayland.events Wayland.port ∧
    onX11.told (X11.port verdict) = onWayland.told Wayland.port ∧
    ∃ shown : List (OutputId × ImageId),
      onX11.station.shown = shown.map (fun p => (some p.1, some p.2)) ∧
      onWayland.station.shown = shown.map (fun p => (some p.1, some p.2)) := by
  intro onX11 onWayland
  have hmirrorX := Scene.mirror_play (s := { client := x }) (X11.port_paces verdict x.mode) hx
    (X11.fresh_fit hx hstep hsound) hxs
  have hmirrorW := Scene.mirror_play (s := { client := w }) (Wayland.port_paces w.mode) hw
    (Wayland.fresh_fit hw hbuffers hcallbacks) hws
  have hstartX : (X11.port verdict).watched { client := x } = {} := by
    simp only [Port.watched, X11.port, hx]
    rfl
  have hstartW : Wayland.port.watched { client := w } = {} := by
    simp only [Port.watched, Wayland.port, hw]
    rfl
  have hsame : onX11.mirror (X11.port verdict) = onWayland.mirror Wayland.port := by
    rw [hmirrorX, hmirrorW, hmode, hstartX, hstartW]
  have hknown : (onX11.mirror (X11.port verdict)).station.Known := by
    rw [hmirrorX, hstartX]
    exact Scene.known_play (fun p hp => absurd hp List.not_mem_nil) actions lost
  obtain ⟨shown, hshown⟩ := hknown.shown_eq
  have hshown' : (onWayland.mirror Wayland.port).station.shown
      = shown.map fun p => (some p.1, some p.2) := by
    rw [← hsame]
    exact hshown
  refine ⟨?_, congrArg Scene.results hsame, shown, hshown, hshown'⟩
  rw [Scene.events_eq, Scene.events_eq, hsame]

/-- A busy life of two outputs: a waiting image is displaced by another one, an image that was
not imported is refused when its turn comes, a window is resized and closed, and an image is
scheduled on the output that is gone. -/
def busyLife : List Action :=
  [.createOutput, .importImage (Image.numbered 0), .importImage (Image.numbered 0),
    .importImage (Image.numbered 0), .adoptImage (Image.numbered 0),
    .scheduleFrame ⟨0⟩ ⟨0⟩, .scheduleFrame ⟨0⟩ ⟨1⟩, .scheduleFrame ⟨0⟩ ⟨2⟩,
    .happen ⟨0⟩ (.complete ⟨5, by decide⟩), .happen ⟨0⟩ (.release ⟨0⟩), .deliver,
    .scheduleFrame ⟨0⟩ ⟨3⟩, .happen ⟨0⟩ (.complete ⟨6, by decide⟩),
    .happen ⟨0⟩ (.resize 300 200), .createOutput, .scheduleFrame ⟨1⟩ ⟨0⟩, .happen ⟨0⟩ .close,
    .scheduleFrame ⟨0⟩ ⟨1⟩]

theorem busy_lives_alike :
    let onX11 := Scene.play (X11.port fun _ => .ok ()) { client := X11.freshClient } busyLife true
    let onWayland := Scene.play Wayland.port { client := Wayland.freshClient } busyLife true
    onX11.refused = false ∧ onWayland.refused = false ∧
    onX11.events (X11.port fun _ => .ok ()) = onWayland.events Wayland.port ∧
    onX11.told (X11.port fun _ => .ok ()) = onWayland.told Wayland.port ∧
    (onX11.events (X11.port fun _ => .ok ())).length = 13 ∧
    onX11.station.shown = [(some ⟨0⟩, some ⟨0⟩), (some ⟨0⟩, some ⟨2⟩), (some ⟨1⟩, some ⟨0⟩)] := by
  have hxs : (Scene.play (X11.port fun _ => .ok ()) { client := X11.freshClient } busyLife
      true).refused = false := by decide +kernel
  have hws : (Scene.play Wayland.port { client := Wayland.freshClient } busyLife true).refused
      = false := by decide +kernel
  obtain ⟨hevents, htold, -⟩ := paced_alike (x := X11.freshClient) rfl (by decide)
    ⟨fun _ => rfl, fun _ => rfl⟩ rfl rfl rfl rfl _ busyLife true hxs hws
  exact ⟨hxs, hws, hevents, htold, by decide +kernel, by decide +kernel⟩

end Scanout
