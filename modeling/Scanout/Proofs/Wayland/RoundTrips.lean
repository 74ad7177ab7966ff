import Scanout.Bench.Compositor

/-!
# Round trips to a Wayland compositor

Opening a display and making an output await answers of the compositor, and what it sends in the
meantime is handled before the call returns. `Opening` and `RoundTrip` take what is heard as
given, so that they stand for any compositor. The scripted compositor is one of them
(`connect_opening`, `roundTrip_openOutput`).
-/

namespace Scanout

namespace Wayland

/-- How awaiting an answer went. -/
structure RoundTrip where
  /-- The events that came and were handled. -/
  heard : List Event
  /-- Whether the answer came, too. If it did not, the connection broke. -/
  held : Bool
  deriving DecidableEq, Repr

/-- Makes an output and awaits its first configuration. -/
def Client.openOutput (c : Client) (id : OutputId) (trip : RoundTrip) :
    Except Error OutputId × List Request × Client :=
  match c.createOutput id with
  | (.error e, sent, c) => (.error e, sent, c)
  | (.ok id, sent, c) =>
    let (more, c) := c.handleAll trip.heard
    (if trip.held then .ok id else .error .dispatch, sent ++ more, c)

/-- How a display is opened: the compositor announces its globals in one round trip and what
they tell of in another. -/
structure Opening where
  appId : String
  mode : Mode
  globals : List Event
  answers : List Event
  deriving DecidableEq, Repr

/-- The display as it is when it is opened. -/
def Opening.client (o : Opening) : Client :=
  ((({ appId := o.appId, mode := o.mode } : Client).handleAll o.globals).2.handleAll o.answers).2

/-- A compositor that tells of one format while the display is opened. -/
def shortOpening : Opening :=
  { appId := standardAppId
    mode := .standard
    globals := [.global 1 "wl_compositor" 4, .global 2 "zwp_linux_dmabuf_v1" 3,
      .global 3 "xdg_wm_base" 1]
    answers := [.modifier Fourcc.xrgb8888.code 0 0] }

end Wayland

namespace Bench.WaylandStation

open Wayland

variable (st : WaylandStation)

/-! ## What the compositor does changes nothing in the client -/

theorem foldl_client {α : Type} {f : WaylandStation → α → WaylandStation}
    (hf : ∀ st a, (f st a).client = st.client) (l : List α) :
    (l.foldl f st).client = st.client := by
  induction l generalizing st with
  | nil => rfl
  | cons a l ih => exact (ih (f st a)).trans (hf st a)

theorem send_client (e : Event) : (st.send e).client = st.client := by
  unfold send
  split <;> rfl

theorem announce_client (g : String × UInt32) : (st.announce g).client = st.client :=
  send_client _ _

theorem configure_client (object : Nat) (width height : Int32) :
    (st.configure object width height).client = st.client :=
  (send_client _ _).trans (send_client _ _)

theorem greet_client (object : Nat) : (st.greet object).client = st.client := by
  have hsizes := foldl_client st (f := fun st (size : Int32 × Int32) =>
    st.configure object size.1 size.2) (fun st size => st.configure_client object size.1 size.2)
    st.server.onCreate
  simp only [greet]
  split
  · exact (send_client _ _).trans hsizes
  · exact hsizes

theorem effect_client (r : Request) : (st.effect r).client = st.client := by
  unfold effect
  split
  · exact foldl_client st (fun st f => st.send_client (formatEvent f)) st.server.formats
  · rfl
  · rfl
  · rfl
  · rfl
  · rfl
  · split
    · rfl
    · exact greet_client _ _
  · rfl

theorem receive_client (r : Request) : (st.receive r).client = st.client := by
  simp only [receive]
  split
  · split
    · rfl
    · exact effect_client _ r
  · rfl

theorem receiveAll_client (rs : List Request) : (st.receiveAll rs).client = st.client :=
  foldl_client st receive_client rs

/-! ## Round trips on the scripted compositor -/

/-- What a round trip hears: what is on its way when the answer is, or nothing at all. -/
def trip : RoundTrip :=
  let asked := st.receive .sync
  { heard := if asked.connected then asked.queue else [], held := asked.connected }

theorem roundTrip_eq : st.roundTrip.1 = st.trip.held ∧
    st.roundTrip.2.client = (st.client.handleAll st.trip.heard).2 := by
  simp only [roundTrip, trip]
  split
  · refine ⟨by simp [*], ?_⟩
    rw [← st.receive_client .sync]
    exact receiveAll_client _ _
  · exact ⟨by simp [*], st.receive_client .sync⟩

theorem client_of_roundTrip {st st' : WaylandStation} {held : Bool}
    (h : st.roundTrip = (held, st')) : st'.client = (st.client.handleAll st.trip.heard).2 := by
  rw [← (roundTrip_eq st).2, h]

/-- Whatever its settings are, a compositor on which a display opens well gives an opening in
which no global is missing. -/
theorem connect_opening {server : CompositorSettings} {appId : String} {mode : Mode}
    {stopsLoop : Bool} {st : WaylandStation}
    (h : (connect server appId mode stopsLoop).1 = .ok st) :
    ∃ o : Opening, o.appId = appId ∧ o.mode = mode ∧ st.client = o.client ∧
      o.client.missing? = none := by
  simp only [connect] at h
  have hgreeted := (foldl_client
    (receive { server := server, client := { appId := appId, mode := mode }, stopsLoop := stopsLoop }
      .getRegistry) announce_client server.globals).trans (receive_client _ _)
  split at h
  · cases h
  · next first hfirst =>
    have hglobals := client_of_roundTrip hfirst
    rw [hgreeted] at hglobals
    split at h
    · cases h
    · next second hsecond =>
      have hanswers := client_of_roundTrip hsecond
      rw [hglobals] at hanswers
      split at h
      · cases h
      · next hcomplete =>
        cases h
        rw [hanswers] at hcomplete
        exact ⟨⟨appId, mode, _, _⟩, rfl, rfl, hanswers, hcomplete⟩

/-- The call that makes an output on the scripted compositor: it receives the requests, and
then the round trip is made. -/
theorem roundTrip_openOutput {id id' : OutputId} {sent : List Request} {c : Client}
    (h : st.client.createOutput id = (.ok id', sent, c)) :
    let asked := { st with client := c }.receiveAll sent
    (st.client.openOutput id asked.trip).1
      = (if asked.roundTrip.1 then .ok id' else .error .dispatch) ∧
    (st.client.openOutput id asked.trip).2.2 = asked.roundTrip.2.client := by
  simp only [Client.openOutput, h, (roundTrip_eq _).1, (roundTrip_eq _).2, receiveAll_client]
  trivial

end Bench.WaylandStation

end Scanout
