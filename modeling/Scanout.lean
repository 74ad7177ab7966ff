import Scanout.Bench.FormatSets
import Scanout.Bench.GbmScript
import Scanout.Bench.Scene.Run
import Scanout.Bench.SlotScript
import Scanout.Wayland.Address
import Scanout.Proofs.Output.Conservation
import Scanout.Proofs.Output.Mailbox
import Scanout.Proofs.Output.Collection
import Scanout.Proofs.Output.Settled
import Scanout.Proofs.Wayland.Moves
import Scanout.Proofs.Wayland.Remote
import Scanout.Proofs.Wayland.World
import Scanout.Proofs.Wayland.LateRelease
import Scanout.Proofs.Swapchain.Slots
import Scanout.Proofs.Circulation
import Scanout.Proofs.Swapchain.Queue
import Scanout.Proofs.Allocator.Actions
import Scanout.Proofs.Allocator.Lives
import Scanout.Proofs.Display.Chronicle
import Scanout.Proofs.Display.Kinds
import Scanout.Proofs.Display.Pacing
import Scanout.Proofs.X11.Pacing
import Scanout.Proofs.X11.InFlight
import Scanout.Proofs.X11.Repetition
import Scanout.Proofs.X11.LastRefresh
import Scanout.Proofs.Wayland.Station
import Scanout.Proofs.Wayland.Pacing
import Scanout.Proofs.Wayland.FirstConfigure
import Scanout.Proofs.Display.Alike
import Scanout.Proofs.Pixel.FormatSets
import Scanout.Proofs.Wayland.RoundTrips
import Scanout.Proofs.Wayland.Formats
import Scanout.Proofs.Output.Beside
import Scanout.Proofs.Wayland.Keeping
import Scanout.Proofs.Wayland.Newcomer
import Scanout.Proofs.Display.FailedOutput
import Scanout.Proofs.Allocator.Requests
import Scanout.Proofs.Swapchain.HandedOut
import Scanout.Proofs.Swapchain.Making
import Scanout.Proofs.Swapchain.Tenants
import Scanout.Proofs.Allocator.Neighbours
import Scanout.Proofs.Wayland.Callbacks
import Scanout.Proofs.Output.Telling
import Scanout.Proofs.Display.Loop
import Scanout.Proofs.Output.Listing
import Scanout.Proofs.Display.Apart
import Scanout.Proofs.Display.Isolation
import Scanout.Proofs.Dmabuf.Planes
import Scanout.Proofs.Dmabuf.Wires
import Scanout.Proofs.Allocator.Handles
import Scanout.Proofs.Wayland.Versions
import Scanout.Proofs.Wayland.Program
import Scanout.Proofs.Allocator.Negotiation
import Scanout.Proofs.X11.Handover
import Scanout.Proofs.X11.Offsets
import Scanout.Proofs.Wayland.Buffers
import Scanout.Proofs.Pixel.Additions
import Scanout.Proofs.Pixel.Sameness
import Scanout.Proofs.Wayland.FormatOrder
import Scanout.Proofs.Dmabuf.Export
import Scanout.Proofs.Swapchain.Ownership
import Scanout.Proofs.Dmabuf.Assembly
import Scanout.Proofs.Swapchain.Unwinding
import Scanout.Proofs.X11.Opening
import Scanout.Proofs.X11.Versions
import Scanout.Proofs.Output.Sizes
import Scanout.Proofs.X11.Sizes
import Scanout.Proofs.Wayland.Sizes
import Scanout.Proofs.Display.Sizes
