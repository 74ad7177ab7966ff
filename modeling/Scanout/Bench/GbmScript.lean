import Scanout.Bench.GbmDevice
/-!
# Calls on a GBM device

A script opens a device, makes buffers, closes the device and looks at the
buffers once more: what they say of themselves stays, exporting them fails.
A broken contract ends the script without an answer of its own.
-/

namespace Scanout.Bench

inductive GbmCall where
  | byUsage (width height : UInt32) (fourcc : Fourcc) (usage : BufferUsage)
  | byModifiers (width height : UInt32) (fourcc : Fourcc) (modifiers : List Modifier)

/-- What a buffer says of itself, and what exporting it gives. -/
structure GbmReport where
  width : UInt32
  height : UInt32
  format : Format
  exported : Except Failure Dmabuf

/-- The report on a buffer whose device is alive or gone. -/
def GbmReport.ofBuffer (alive : Bool) (b : GbmBuffer) : GbmReport :=
  { width := b.width, height := b.height, format := b.format, exported := b.exportDmabuf alive }

structure GbmReports where
  calls : List (Except Failure GbmReport)
  afterDevice : List GbmReport

def GbmCall.perform (settings : GbmSettings) (t : GbmTrace) :
    GbmCall → Outcome Failure (Nat × GbmBuffer) × GbmTrace
  | byUsage width height fourcc usage => t.createImplicit settings width height fourcc usage
  | byModifiers width height fourcc modifiers =>
    t.createExplicit settings width height fourcc modifiers

/-- Carries out calls in order, up to the first fault. -/
def performCalls (settings : GbmSettings) :
    List GbmCall → GbmTrace → Except Fault (List (Except Failure (Nat × GbmBuffer)) × GbmTrace)
  | [], t => .ok ([], t)
  | call :: rest, t =>
    match call.perform settings t with
    | (.fault f, _) => .error f
    | (.failed e, t) => do
      let (others, t) ← performCalls settings rest t
      return (.error e :: others, t)
    | (.done made, t) => do
      let (others, t) ← performCalls settings rest t
      return (.ok made :: others, t)

def madeBuffers (results : List (Except Failure (Nat × GbmBuffer))) : List (Nat × GbmBuffer) :=
  results.filterMap (·.toOption)

/-- Runs a script. The log says what the device was asked to do, whatever came of it. -/
def runGbmScript (settings : GbmSettings) (calls : List GbmCall) :
    Except Fault (Except Failure GbmReports × List String) :=
  match GbmTrace.openDevice {} settings with
  | (some e, t) => .ok (.error e, t.log)
  | (none, t) => do
    let (results, t) ← performCalls settings calls t
    let made := madeBuffers results
    let t := made.foldl (fun t b => t.destroyObject b.1) t.closeDevice
    return (.ok {
      calls := results.map fun r => r.map fun b => .ofBuffer true b.2
      afterDevice := made.map fun b => .ofBuffer false b.2 }, t.log)

end Scanout.Bench
