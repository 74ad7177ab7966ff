import Scanout.Bench.Named
import Scanout.Pixel.FormatSet
/-!
# Named format sets

A script that builds format sets under names, changes them and asks about
them. A step on a name that was never given is not carried out.
-/

namespace Scanout.Bench

inductive FormatSetAction where
  /-- An empty set, in place of whatever the name stood for. -/
  | new
  /-- A set of the given formats, in place of whatever the name stood for. -/
  | collect (formats : List Format)
  | clone (source : String)
  | add (format : Format)
  | extend (formats : List Format)
  | get (code : Fourcc)
  | contains (format : Format)
  /-- Whether the entry of the format's code has the format's layout. -/
  | entryContains (format : Format)
  | size
  | formats
  | entries
  | sameAs (other : String)

inductive FormatSetReply where
  | nothing
  | flag (b : Bool)
  | count (n : Nat)
  | size (n : Nat) (empty : Bool)
  | entry (e : FormatEntry)
  | entries (es : List FormatEntry)
  | formats (fs : List Format)

/-- Carries out one step on the set of a name; `none` if a name is unknown. -/
def FormatSetAction.perform? (sets : Named FormatSet) (name : String) :
    FormatSetAction → Option (FormatSetReply × Named FormatSet)
  | new => some (.nothing, sets.put name .empty)
  | collect fs =>
    let s := FormatSet.ofList fs
    some (.count s.size, sets.put name s)
  | clone source => do
    let s ← sets.get? source
    return (.nothing, sets.put name s)
  | add f => do
    let (isNew, s) := (← sets.get? name).add f
    return (.flag isNew, sets.put name s)
  | extend fs => do
    let s := (← sets.get? name).extend fs
    return (.count s.size, sets.put name s)
  | get code => do
    let s ← sets.get? name
    return (((s.get? code).map .entry).getD .nothing, sets)
  | contains f => do
    let s ← sets.get? name
    return (.flag (s.contains f), sets)
  | entryContains f => do
    let s ← sets.get? name
    return (((s.get? f.code).map fun e => .flag (e.contains f.modifier)).getD .nothing, sets)
  | size => do
    let s ← sets.get? name
    return (.size s.size s.isEmpty, sets)
  | formats => do
    let s ← sets.get? name
    return (.formats s.toList, sets)
  | entries => do
    let s ← sets.get? name
    return (.entries s.entries, sets)
  | sameAs other => do
    let s ← sets.get? name
    let o ← sets.get? other
    return (.flag (s.sameAs o), sets)

/-- Runs steps in order; a step that is not carried out answers `none`. A step that
could not be read is `none` too. -/
def runFormatSets :
    Named FormatSet → List (Option (String × FormatSetAction)) → List (Option FormatSetReply)
  | _, [] => []
  | sets, none :: rest => none :: runFormatSets sets rest
  | sets, some (name, action) :: rest =>
    match action.perform? sets name with
    | none => none :: runFormatSets sets rest
    | some (reply, sets) => some reply :: runFormatSets sets rest

end Scanout.Bench
