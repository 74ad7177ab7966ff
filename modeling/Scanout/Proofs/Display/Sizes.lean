import Scanout.Proofs.Display.Isolation
import Scanout.Proofs.Wayland.Sizes
import Scanout.Proofs.X11.Sizes

/-!
# What compositors are told of sizes

The two kinds of displays take the sizes that are proposed to their outputs in code of their own,
one by the window and one by the toplevel. They do the same with them (`modes_follow_proposals`).
-/

namespace Scanout

/-- **The modes of an output are the sizes that were proposed to it**, on either kind of display and
whatever else happens to it and to others. A proposal without a positive width and height is
discarded, and so is one that repeats the mode in force; all others are told, in order, and the mode
that is known of an output is the last of them, or the one the display was made with if there is
none yet. A proposal that is discarded, and one that is about no output, because the output is gone
or there never was one, changes nothing and sends nothing. -/
theorem modes_follow_proposals (session : X11.Session) (hapart : 0 < session.ids.step)
    (title : String) (mode : Mode) (steps : List X11.Step) (appId : String)
    (calls : List (Display.Call Wayland.Happening)) :
    let opened := X11.World.start session title mode
    let x := opened.run steps
    let connected := Display.Course.start ({ appId := appId, mode := mode } : Wayland.Client)
    let w := connected.run Wayland.display calls
    (∀ id, Heeds mode id (X11.sizing.proposals id opened steps)
      (x.delivered ++ x.client.registry.events) ((x.client.outputInfo? id).map (·.mode))) ∧
    (∀ window width height,
      (∀ entry ∈ x.client.registry.outputs, entry.2.details.window = window →
        entry.2.details.info.mode.Moot width.toUInt32.toInt32 height.toUInt32.toInt32) →
      x.client.handle (.configure window width height) = (none, [], x.client)) ∧
    (∀ id, Heeds mode id (Wayland.sizing.proposals id connected calls)
      (w.history Wayland.display) ((w.client.outputInfo? id).map (·.mode))) ∧
    ∀ toplevel width height,
      (∀ entry ∈ w.client.registry.outputs, entry.2.details.object = toplevel →
        entry.2.details.info.mode.Moot width height) →
      w.client.handle (.toplevelConfigure toplevel width height) = ([], w.client) := by
  intro opened x connected w
  have hx : opened.Inv := X11.World.start_inv hapart title mode
  have hw : Wayland.Steady connected := .start appId mode
  refine ⟨fun id => ?_, fun window width height hmoot =>
    X11.Client.configure_moot (hx.run_inv steps).tidy hmoot, fun id => ?_,
    fun toplevel width height hmoot => ?_⟩
  · rw [X11.Client.outputInfo?, Option.map_map]
    exact (X11.sizing_lawful mode).heeds ⟨hx, rfl⟩ (.start rfl 0) steps (hx.run_ids .start steps)
  · have halive := Display.Course.run_ids Wayland.display_lawful (c := connected.client) rfl calls
      (Wayland.run_holds _ calls)
    rw [Wayland.Client.outputInfo?, Option.map_map]
    exact (Wayland.sizing_lawful mode).heeds ⟨hw, rfl⟩ (.start rfl 0) calls halive
  · exact congrArg (([] : List Wayland.Request), ·) (Wayland.Client.configure_moot hmoot)

/-- Two outputs. The first one is proposed a size, the same again, none, and the one it was made
with; the second one is proposed a size when it is gone. -/
def X11.World.resizings : List X11.Step :=
  [.createOutput, .createOutput, .event 1 (.configure 1 300 200), .event 2 (.configure 1 300 200),
    .takeEvents, .event 3 (.configure 1 0 200), .destroyOutput ⟨1⟩,
    .event 4 (.configure 3 300 200), .event 5 (.configure 1 1280 720)]

def X11.World.resized : X11.World :=
  (start freshClient.session standardTitle .standard).run resizings

/-- The same on a compositor. -/
def Wayland.resizings : List (Display.Call Wayland.Happening) :=
  shortOpening.globals.map (.other <| .event ·) ++
    [.createOutput 0, .createOutput 0, .other (.event (.toplevelConfigure 0 300 200)),
      .other (.event (.toplevelConfigure 0 300 200)), .deliver,
      .other (.event (.toplevelConfigure 0 (-1) 200)), .destroyOutput ⟨1⟩,
      .other (.event (.toplevelConfigure 1 300 200)),
      .other (.event (.toplevelConfigure 0 1280 720))]

def Wayland.resized : Display.Course Wayland.Client :=
  (Display.Course.start { appId := standardAppId, mode := .standard }).run display resizings

theorem sizes_told_once :
    0 < X11.freshClient.session.ids.step ∧
    modesTold ⟨0⟩ (X11.World.resized.delivered ++ X11.World.resized.client.registry.events)
      = [⟨300, 200, 0⟩, .standard] ∧
    (X11.World.resized.client.outputInfo? ⟨0⟩).map (·.mode) = some .standard ∧
    (∀ width height, X11.World.resized.client.handle (.configure 3 width height)
      = (none, [], X11.World.resized.client)) ∧
    modesTold ⟨0⟩ (Wayland.resized.history Wayland.display) = [⟨300, 200, 0⟩, .standard] ∧
    (Wayland.resized.client.outputInfo? ⟨0⟩).map (·.mode) = some .standard ∧
    ∀ width height, Wayland.resized.client.handle (.toplevelConfigure 1 width height)
      = ([], Wayland.resized.client) := by
  obtain ⟨hx, hstray, hw, hstray'⟩ := modes_follow_proposals X11.freshClient.session (by decide)
    X11.standardTitle .standard X11.World.resizings Wayland.standardAppId Wayland.resizings
  have hwindow : Heeds .standard ⟨0⟩ [(300, 200), (300, 200), (0, 200), (1280, 720)]
      (X11.World.resized.delivered ++ X11.World.resized.client.registry.events)
      ((X11.World.resized.client.outputInfo? ⟨0⟩).map (·.mode)) := by
    have hproposals : X11.sizing.proposals ⟨0⟩
          (.start X11.freshClient.session X11.standardTitle .standard) X11.World.resizings
        = [(300, 200), (300, 200), (0, 200), (1280, 720)] := by decide +kernel
    rw [← hproposals]
    exact hx ⟨0⟩
  have htoplevel : Heeds .standard ⟨0⟩ [(300, 200), (300, 200), (-1, 200), (1280, 720)]
      (Wayland.resized.history Wayland.display)
      ((Wayland.resized.client.outputInfo? ⟨0⟩).map (·.mode)) := by
    have hproposals : Wayland.sizing.proposals ⟨0⟩
          (.start { appId := Wayland.standardAppId, mode := .standard }) Wayland.resizings
        = [(300, 200), (300, 200), (-1, 200), (1280, 720)] := by decide +kernel
    rw [← hproposals]
    exact hw ⟨0⟩
  have htold : modesTold ⟨0⟩ (X11.World.resized.delivered
      ++ X11.World.resized.client.registry.events) = [⟨300, 200, 0⟩, .standard] :=
    hwindow.told_eq (by decide +kernel)
  have htold' : modesTold ⟨0⟩ (Wayland.resized.history Wayland.display)
      = [⟨300, 200, 0⟩, .standard] := htoplevel.told_eq (by decide +kernel)
  refine ⟨by decide, htold, ?_, fun width height => hstray 3 width height ?_, htold', ?_,
    fun width height => hstray' 1 width height ?_⟩
  · rw [hwindow.current, htold, if_pos (by decide +kernel)]
    rfl
  · intro entry he heq
    have hmem : entry.2.details.window ∈ X11.World.resized.windows := List.mem_map_of_mem he
    rw [show X11.World.resized.windows = [1] by decide +kernel, heq] at hmem
    exact absurd hmem (by decide)
  · rw [htoplevel.current, htold', if_pos (by decide +kernel)]
    rfl
  · intro entry he heq
    have hmem : entry.2.details.object
        ∈ Wayland.resized.client.registry.outputs.map (·.2.details.object) :=
      List.mem_map_of_mem he
    rw [show Wayland.resized.client.registry.outputs.map (·.2.details.object) = [0] by
      decide +kernel, heq] at hmem
    exact absurd hmem (by decide)

end Scanout
