import Scanout.Bench.Scene.Pacing
/-!
# Steps on an X server

A scene has at most one display on an X server. Outputs keep their names when
they are gone, so that they can still be asked about.
-/

namespace Scanout.Bench.Scene.OnX11

def station : Script XStation := do
  expect (← get).surroundings.x11

def put (st : XStation) : Script Unit :=
  surround fun w => { w with x11 := some st }

/-- The server receives what the client sent, and the client is stored. -/
def settle (st : XStation) (client : X11.Client) (sent : List X11.Request) : Script Unit :=
  put ({ st with client := client }.receiveAll sent)

def outputNamed (st : XStation) (name : String) : Script OutputId := do
  return (← expect (st.names.get? name)).1

def writeLines (lines : List String) : Script Unit :=
  surround fun w => lines.foldl Surroundings.write w

/-- Opens a display. A second one cannot be opened. -/
def openDisplay (server : XServerSettings) (options : XStation.Options) : Script Answer := do
  if (← get).surroundings.x11.isSome then failure
  match XStation.connect server options with
  | (.error e, log) =>
    writeLines log
    return .x11Failed e
  | (.ok st, log) =>
    put { st with log := log }
    return .x11Opened st.client.session

def createOutput (name : String) : Script Answer := do
  let st ← station
  let s ← get
  let (result, sent, client) := st.client.createOutput ⟨s.nextOutput⟩
  match result with
  | .error e =>
    settle st client sent
    return .x11Failed e
  | .ok id =>
    set { s with nextOutput := s.nextOutput + 1 }
    let window := ((client.registry.get? id).map (·.details.window)).getD 0
    settle { st with names := st.names.put name (id, window) } client sent
    return .number id.number

def scheduleFrame (output imageName : String) : Script Answer := do
  let st ← station
  let id ← outputNamed st output
  let image ← give imageName
  let (outcome, sent, client) := st.client.scheduleFrame id image
  settle st client sent
  frameAnswer outcome

def destroyOutput (output : String) : Script Answer := do
  let st ← station
  let id ← outputNamed st output
  let (found, sent, client) := st.client.destroyOutput id
  settle st client sent
  return .flag found

def showOutput (output : String) : Script Answer := do
  let st ← station
  let id ← outputNamed st output
  return ((st.client.outputInfo? id).map .outputInfo).getD .nothing

def showOutputs : Script Answer := do
  return .outputs (← station).client.registry.ids

def changeErrors (errors : List (String × Nat)) : Script Answer := do
  let st ← station
  put { st with server := { st.server with errorOn := errors } }
  return .nothing

/-- Runs the loop and shows what it delivered. -/
def runLoop (st : XStation)
    (answer : List BackendEvent → List NamedBackendEvent → Answer) : Script Answer := do
  let (result, st) := st.run
  put st
  match result with
  | .error (f, image) =>
    lose [image]
    return .fault f
  | .ok events => return answer events (← events.mapM deliverBackend)

/-- The server sends events, and the loop runs until they are handled. -/
def sendEvents (notices : List XStation.Notice) : Script Answer := do
  let st ← expect ((← station).send? notices)
  runLoop st fun _ shown => .backendEvents shown

def hangUp : Script Answer := do
  let st ← station
  if st.watch = .dropped then failure
  if st.connected then
    runLoop st.hangUp fun events shown => .hungUp shown (st.stopped events)
  else return .hungUp [] false

def dropLoop : Script Answer := do
  put (← station).dropLoop
  return .nothing

def actOnLoop (action : WatchAction) : Script Answer := do
  let st ← station
  let (suitable, watch) ← expect (st.watch.perform? action)
  put { st with watch := watch }
  return .flag suitable

end Scanout.Bench.Scene.OnX11
