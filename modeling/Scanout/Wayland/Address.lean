import Scanout.Text.Quoted
import Scanout.Outcome
/-!
# Finding a compositor

A compositor is named by an absolute socket path, or by a name inside the
runtime directory. The render node is opened before the name is looked at,
so of two faults the render node's is the one reported.
-/

namespace Scanout.Wayland

/-- Where a client looks for its compositor. -/
structure Address where
  name : Option String
  runtimeDir : Option String
  renderNode : String
  deriving DecidableEq, Repr

/-- Why no compositor was reached. -/
inductive AddressError where
  | renderNode (path : String)
  | noRuntimeDir
  | socket (path : String)
  | noCompositor
  deriving DecidableEq, Repr

/-- The text of an error, where it has one of its own. -/
def AddressError.failure : AddressError → Failure
  | renderNode path =>
    { message := "Failed to open render node " ++ Text.Quoted.render path
      causes := ["No such file or directory (os error 2)"] }
  | noRuntimeDir => { message := "XDG_RUNTIME_DIR is not set" }
  | socket path => { message := "Failed to open the socket " ++ Text.Quoted.render path }
  | noCompositor => { message := "Could not find wayland compositor" }

/-- A name inside a directory: one separator between them, none after an empty directory. -/
def joinPath (dir name : String) : String :=
  if dir.isEmpty || dir.endsWith "/" then dir ++ name else dir ++ "/" ++ name

/-- The socket a name stands for; a relative one needs a runtime directory. -/
def socketPath? (name : String) (runtimeDir : Option String) : Option String :=
  if name.startsWith "/" then some name else runtimeDir.map (joinPath · name)

/-- Why an address leads nowhere, when no compositor listens; `opens` tells which
render nodes can be opened. -/
def Address.failsWith (a : Address) (opens : String → Bool) : AddressError :=
  if !opens a.renderNode then .renderNode a.renderNode
  else
    match a.name with
    | none => .noCompositor
    | some name =>
      match socketPath? name a.runtimeDir with
      | none => .noRuntimeDir
      | some path => .socket path

end Scanout.Wayland
