import Scanout.Bench.Scene.Basic
/-!
# Steps on schedulers and on collections of outputs

The surfaces here show nothing. They write down what they are given and refuse
it if they are told to.
-/

namespace Scanout.Bench

/-- A surface of the given name, which refuses every image if it has a refusal. -/
def scriptedSurface (name : String) (refusal : Option String) : Surface Surroundings :=
  { present := fun image s =>
      match refusal with
      | some text => (.failed (plainFailure text), s.write s!"{name} refuse i{image.id.number}")
      | none => (.done (), s.write s!"{name} present i{image.id.number}")
    cancel := fun s => s.write s!"{name} cancel" }

namespace Scene

def pacerNamed (name : String) : Script Pacer := do
  expect ((← get).pacers.get? name)

def putPacer (name : String) (p : Pacer) : Script Unit :=
  modify fun s => { s with pacers := s.pacers.put name p }

/-- The state of a scheduler and what it presents. -/
def pacing (f : FrameScheduler) : Answer :=
  .pacing f.state (f.presented.map (·.id))

def makePacer (name : String) : Script Answer := do
  let before := (← get).pacers.get? name
  putPacer name {}
  lose ((before.map (·.scheduler.images)).getD [])
  return .nothing

/-- The answer to a scheduled frame: the state afterwards, or why it was refused. -/
def submissionAnswer (submission : Submission) (f : FrameScheduler) : Script Answer := do
  match submission with
  | .accepted => return .state f.state
  | .refused cause => return .presentFailed (presentFailure cause)
  | .fault e lost =>
    lose [lost]
    return .fault e

def schedule (name imageName : String) : Script Answer := do
  let p ← pacerNamed name
  let image ← give imageName
  let s ← get
  let (submission, f, w) :=
    p.scheduler.schedule (scriptedSurface name p.refusal) image s.surroundings
  set { s with surroundings := w }
  putPacer name { p with scheduler := f }
  submissionAnswer submission f

def bufferReleased (name imageName : String) : Script Answer := do
  let p ← pacerNamed name
  let id ← imageNamed imageName
  let (found, f) := p.scheduler.bufferReleased id
  putPacer name { p with scheduler := f }
  return .flag found

def frameDone (name : String) : Script Answer := do
  let p ← pacerNamed name
  let s ← get
  let (lost, f, w) := p.scheduler.frameDone (scriptedSurface name p.refusal) s.surroundings
  set { s with surroundings := w }
  putPacer name { p with scheduler := f }
  match lost with
  | some (e, image) =>
    lose [image]
    return .fault e
  | none => return pacing f

def destroyPacing (name : String) : Script Answer := do
  let p ← pacerNamed name
  let s ← get
  let (f, w) := p.scheduler.destroy (scriptedSurface name p.refusal) s.surroundings
  set { s with surroundings := w }
  putPacer name { p with scheduler := f }
  return pacing f

def changeMode (name : String) (mode : Mode) : Script Answer := do
  let p ← pacerNamed name
  let f := p.scheduler.modeChanged mode
  putPacer name { p with scheduler := f }
  return pacing f

def changeSurface (name : String) (refusal : Option String) : Script Answer := do
  let p ← pacerNamed name
  putPacer name { p with refusal := refusal }
  return pacing p.scheduler

def showState (name : String) : Script Answer := do
  return pacing (← pacerNamed name).scheduler

def takeEvents (name : String) : Script Answer := do
  let p ← pacerNamed name
  let (events, f) := p.scheduler.takeEvents
  putPacer name { p with scheduler := f }
  return .events (← events.mapM deliver)

/-! ## Collections -/

def collectionNamed (name : String) : Script Collection := do
  expect ((← get).collections.get? name)

def putCollection (name : String) (c : Collection) : Script Unit :=
  modify fun s => { s with collections := s.collections.put name c }

def putRegistry (name : String) (c : Collection) (r : Registry ScriptedOutput) : Script Unit :=
  putCollection name { c with registry := r }

def backendImages (events : List BackendEvent) : List Image :=
  events.filterMap fun
    | .output _ (.released image) => some image
    | _ => none

def collectionImages (c : Collection) : List Image :=
  c.registry.outputs.flatMap (·.2.scheduler.images) ++ backendImages c.registry.events

def makeCollection (name : String) : Script Answer := do
  let before := (← get).collections.get? name
  putCollection name {}
  lose ((before.map collectionImages).getD [])
  return .nothing

def newOutputId : Script OutputId := do
  let s ← get
  set { s with nextOutput := s.nextOutput + 1 }
  return ⟨s.nextOutput⟩

/-- The surface of an output in a collection. -/
def surfaceOf (o : Output ScriptedOutput) : Surface Surroundings :=
  scriptedSurface o.details.name o.details.refusal

def teardown (o : Output ScriptedOutput) (s : Surroundings) : FrameScheduler × Surroundings :=
  o.scheduler.destroy (surfaceOf o) s

def addOutput (name output : String) : Script Answer := do
  let c ← collectionNamed name
  let id ← newOutputId
  let o : Output ScriptedOutput := { scheduler := {}, details := { name := output } }
  putCollection name
    { registry := c.registry.insert id o, names := c.names.put output id }
  return .number id.number

/-- Acts on an output of a collection; one that was destroyed is gone. -/
def onOutput (c : Collection) (output : String)
    (act : OutputId → Output ScriptedOutput → Script Answer) : Script Answer := do
  let id ← expect (c.names.get? output)
  match c.registry.get? id with
  | none => return .gone
  | some o => act id o

def scheduleOn (name output imageName : String) : Script Answer := do
  let c ← collectionNamed name
  let _ ← imageHeld imageName
  onOutput c output fun id o => do
    let image ← give imageName
    let s ← get
    let (submission, f, w) := o.scheduler.schedule (surfaceOf o) image s.surroundings
    set { s with surroundings := w }
    putRegistry name c (c.registry.set id { o with scheduler := f })
    submissionAnswer submission f

def frameDoneOn (name output : String) : Script Answer := do
  let c ← collectionNamed name
  onOutput c output fun id o => do
    let s ← get
    let (lost, f, w) := o.scheduler.frameDone (surfaceOf o) s.surroundings
    set { s with surroundings := w }
    putRegistry name c (c.registry.set id { o with scheduler := f })
    match lost with
    | some (e, image) =>
      lose [image]
      return .fault e
    | none => return .state f.state

def changeSurfaceOf (name output : String) (refusal : Option String) : Script Answer := do
  let c ← collectionNamed name
  onOutput c output fun id o => do
    let o := { o with details := { o.details with refusal := refusal } }
    putRegistry name c (c.registry.set id o)
    return .state o.scheduler.state

def changeModeOf (name output : String) (mode : Mode) : Script Answer := do
  let c ← collectionNamed name
  onOutput c output fun id o => do
    let o := { o with scheduler := o.scheduler.modeChanged mode }
    putRegistry name c (c.registry.set id o)
    return .state o.scheduler.state

def collect (name : String) : Script Answer := do
  let c ← collectionNamed name
  putRegistry name c c.registry.collect
  return .nothing

def releasedIn (name imageName : String) : Script Answer := do
  let c ← collectionNamed name
  let id ← imageNamed imageName
  let (found, r) := c.registry.bufferReleased id
  putRegistry name c r
  return .flag found

def destroyOutput (name output : String) : Script Answer := do
  let c ← collectionNamed name
  let id ← expect (c.names.get? output)
  let s ← get
  let (found, r, w) := c.registry.destroy id teardown s.surroundings
  set { s with surroundings := w }
  putRegistry name c r
  return .flag found

def disconnect (name : String) : Script Answer := do
  let c ← collectionNamed name
  let s ← get
  let (first, r, w) := c.registry.disconnect teardown s.surroundings
  set { s with surroundings := w }
  putRegistry name c r
  return .flag first

def takeBackendEvents (name : String) : Script Answer := do
  let c ← collectionNamed name
  let (events, r) := c.registry.takeEvents
  putRegistry name c r
  return .backendEvents (← events.mapM deliverBackend)

def showCollection (name : String) : Script Answer := do
  let r := (← collectionNamed name).registry
  return .registry r.ids (r.outputs.map (·.2.scheduler.state)) r.disconnected

def findState (name : String) (state : FrameState) : Script Answer := do
  let r := (← collectionNamed name).registry
  return .found ((r.find? fun o => o.scheduler.state == state).map (·.1))

end Scene

end Scanout.Bench
