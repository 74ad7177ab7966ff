import Scanout.Bench.Scene.Pacing
/-!
# Steps on a Wayland compositor

A scene has at most one display on a compositor. Outputs keep their names when
they are gone, so that they can still be asked about.
-/

namespace Scanout.Bench.Scene.OnWayland

def station : Script WaylandStation := do
  expect (← get).surroundings.wayland

def put (st : WaylandStation) : Script Unit :=
  surround fun w => { w with wayland := some st }

/-- The compositor receives what the client sent, and the client is stored. -/
def settle (st : WaylandStation) (client : Wayland.Client) (sent : List Wayland.Request) :
    Script Unit :=
  put ({ st with client := client }.receiveAll sent)

def outputNamed (st : WaylandStation) (name : String) : Script OutputId := do
  return (← expect (st.names.get? name)).1

/-- Opens a display. A second one cannot be opened. -/
def openDisplay (server : CompositorSettings) (appId : String) (mode : Mode)
    (stopsLoop : Bool) : Script Answer := do
  if (← get).surroundings.wayland.isSome then failure
  match WaylandStation.connect server appId mode stopsLoop with
  | (.error e, log) =>
    surround fun w => log.foldl Surroundings.write w
    return .waylandFailed e
  | (.ok st, log) =>
    put { st with log := log }
    return .waylandOpened st.client.formats

/-- Makes an output and awaits its first configuration. If the connection breaks
meanwhile, the output is there all the same. -/
def createOutput (name : String) : Script Answer := do
  let st ← station
  let s ← get
  let (result, sent, client) := st.client.createOutput ⟨s.nextOutput⟩
  match result with
  | .error e =>
    settle st client sent
    return .waylandFailed e
  | .ok id =>
    set { s with nextOutput := s.nextOutput + 1 }
    let object := ((client.registry.get? id).map (·.details.object)).getD 0
    let st := { st with client := client, names := st.names.put name (id, object) }
    let (held, st) := (st.receiveAll sent).roundTrip
    put st
    return if held then .number id.number else .waylandFailed .dispatch

def scheduleFrame (output imageName : String) : Script Answer := do
  let st ← station
  let id ← outputNamed st output
  let image ← give imageName
  let (outcome, sent, client) := st.client.scheduleFrame id image
  settle st client sent
  frameAnswer outcome

def destroyOutput (output : String) : Script Answer := do
  let st ← station
  let id ← outputNamed st output
  let (found, sent, client) := st.client.destroyOutput id
  settle st client sent
  return .flag found

def showOutput (output : String) : Script Answer := do
  let st ← station
  let id ← outputNamed st output
  return ((st.client.outputInfo? id).map .outputInfo).getD .nothing

def showOutputs : Script Answer := do
  return .outputs (← station).client.registry.ids

def showFormats : Script Answer := do
  return .formats (← station).client.formats

/-- Changes what the compositor does from now on. -/
def changeSettings (changes : List CompositorSetting) : Script Answer := do
  let st ← station
  put { st with server := st.server.applyAll changes }
  return .nothing

/-- Runs the loop and shows what it delivered. -/
def runLoop (st : WaylandStation)
    (answer : List BackendEvent → List NamedBackendEvent → Answer) : Script Answer := do
  let (events, st) := st.run
  put st
  return answer events (← events.mapM deliverBackend)

/-- The compositor sends events, and the loop runs until they are handled. An event
that cannot be sent ends the step; those before it stay on their way. -/
def sendEvents (notices : List WaylandStation.Notice) : Script Answer := do
  let (complete, st) := (← station).notifyAll notices
  if complete then runLoop st fun _ shown => .backendEvents shown
  else
    put st
    return .badRequest

def hangUp : Script Answer := do
  let st ← station
  if st.watch = .dropped then failure
  if st.connected then
    runLoop st.hangUp fun events shown => .hungUp shown (st.stopped events)
  else return .hungUp [] false

def dropLoop : Script Answer := do
  put (← station).dropLoop
  return .nothing

def actOnLoop (action : WatchAction) : Script Answer := do
  let st ← station
  let (suitable, watch) ← expect (st.watch.perform? action)
  put { st with watch := watch }
  return .flag suitable

end Scanout.Bench.Scene.OnWayland
