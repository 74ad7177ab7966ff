import Mathlib.Data.List.Induction
import Scanout.Proofs.Display.Kinds
import Scanout.Proofs.Pixel.FormatSets
import Scanout.Proofs.Wayland.RoundTrips

/-!
# The formats a Wayland display accepts

A display is opened in two round trips, one for the globals and one for the formats that the
dmabuf global tells of. The same handler goes on to run when the display is open, so the formats
of a display are at any time all those the compositor ever told of, in the order in which it told
of them (`Opening.formats_eq`). They stay what they were at the opening exactly as long as the
compositor tells of nothing new, and an image that was refused is taken once its format has been
told of (`formats_kept_iff_nothing_new`).
-/

namespace Scanout.Wayland

/-- The format an event tells of, if its number names one. -/
def Event.advertised? : Event → Option Format
  | .format code => (Fourcc.ofCode? code).map (⟨·, .invalid⟩)
  | .modifier code high low => (Fourcc.ofCode? code).map (⟨·, .join high low⟩)
  | _ => none

/-- The formats that a compositor tells of in the course of a run. -/
def advertised (calls : List (Display.Call Happening)) : List Format :=
  calls.filterMap fun
    | .other (.event e) => e.advertised?
    | _ => none

namespace Client

variable (c : Client)

theorem advertise_formats (code : UInt32) (m : Modifier) :
    (c.advertise code m).formats
      = c.formats.extend ((Fourcc.ofCode? code).map fun code => ⟨code, m⟩).toList := by
  unfold advertise
  split
  · next h => rw [h]; rfl
  · next h => rw [h]; rfl

@[simp] theorem setBound_formats (i : Interface) (b : Bound) :
    (c.setBound i b).formats = c.formats := by
  cases i <;> rfl

@[simp] theorem scheduleFrame_formats (id : OutputId) (image : Image) :
    (c.scheduleFrame id image).2.2.formats = c.formats := by
  unfold scheduleFrame
  split <;> rfl

@[simp] theorem createOutput_formats (id : OutputId) :
    (c.createOutput id).2.2.formats = c.formats := by
  unfold createOutput
  split
  · rfl
  · split <;> rfl

@[simp] theorem done_formats (callback : Nat) : (c.done callback).2.formats = c.formats := by
  cases hwait : c.callbacks.unanswered.lookup callback with
  | none => simp only [done, hwait]
  | some id => cases hget : c.registry.get? id <;> simp only [done, hwait, hget, putBack]

@[simp] theorem configure_formats (toplevel : Nat) (width height : Int32) :
    (c.configure toplevel width height).formats = c.formats := by
  unfold configure
  split
  · split <;> rfl
  · rfl

@[simp] theorem close_formats (toplevel : Nat) : (c.close toplevel).2.formats = c.formats := by
  unfold close
  split <;> rfl

@[simp] theorem release_formats (buffer : Nat) : (c.release buffer).formats = c.formats := by
  unfold release
  split <;> rfl

@[simp] theorem attach_formats (image : Image) : (c.attach image).2.2.formats = c.formats := by
  unfold attach
  split
  · rfl
  · split
    · rfl
    · split <;> rfl

@[simp] theorem detach_formats (image : Image) : (c.detach image).2.2.formats = c.formats := by
  unfold detach
  split <;> rfl

/-- Only the two events that tell of formats do anything to them. -/
theorem handle_formats (e : Event) :
    (c.handle e).2.formats = c.formats.extend e.advertised?.toList := by
  cases e with
  | format code => exact c.advertise_formats code .invalid
  | modifier code high low => exact c.advertise_formats code (.join high low)
  | global name interface version =>
    simp only [handle]
    split
    · rfl
    · exact c.setBound_formats _ _
  | surfaceConfigure xdgSurface serial =>
    simp only [handle]
    split <;> rfl
  | toplevelConfigure toplevel width height => exact c.configure_formats toplevel width height
  | toplevelClose toplevel => exact c.close_formats toplevel
  | done callback => exact c.done_formats callback
  | release buffer => exact c.release_formats buffer
  | globalRemove | ping => rfl

theorem handleAll_formats (events : List Event) :
    (c.handleAll events).2.formats
      = c.formats.extend (events.filterMap Event.advertised?) := by
  induction events generalizing c with
  | nil => rfl
  | cons e rest ih =>
    rw [← List.singleton_append, List.filterMap_append, FormatSet.extend_append]
    show ((c.handle e).2.handleAll rest).2.formats = _
    rw [ih, c.handle_formats e]
    cases h : e.advertised? <;> simp [h]

/-- Whether images of a pixel format are taken. -/
def accepts (code : Fourcc) : Bool :=
  (c.formats.get? code).isSome

/-- An image is refused for its format exactly if its pixel format was never told of. -/
theorem attach_unsupported_iff (image : Image) :
    (c.attach image).1 = .error (.unsupported image.format) ↔
      c.registry.disconnected = false ∧ c.accepts image.format.code = false := by
  unfold attach accepts
  split
  · next h => simp [h]
  · next hlive =>
    split
    · next hnone => simpa using And.intro hlive hnone
    · next hsome =>
      have hknown : (c.formats.get? image.format.code).isSome = true := by
        simpa [Option.isSome_iff_ne_none] using hsome
      split <;> simp [hknown]

end Client

/-- One step adds to the formats what it tells of. -/
theorem step_formats (w : Display.Course Client) (hw : w.broken = false)
    (call : Display.Call Happening) :
    (w.step display call).client.formats = w.client.formats.extend (advertised [call]) := by
  unfold Display.Course.step
  rw [if_neg (by simp [hw])]
  cases call with
  | createOutput skipped => exact w.client.createOutput_formats _
  | scheduleFrame id image => exact w.client.scheduleFrame_formats id image
  | destroyOutput | connectionClosed | deliver => rfl
  | other e =>
    cases e with
    | event e =>
      show (w.client.handle e).2.formats = _
      rw [w.client.handle_formats e]
      cases h : e.advertised? <;> simp [advertised, h]
    | attach image => exact w.client.attach_formats image
    | detach image => exact w.client.detach_formats image

/-- After a run the formats are those of the beginning and all that were told of since. -/
theorem run_formats (c : Client) (calls : List (Display.Call Happening)) :
    ((Display.Course.start c).run display calls).client.formats
      = c.formats.extend (advertised calls) := by
  induction calls using List.reverseRecOn with
  | nil => rfl
  | append_singleton calls call ih =>
    have hlast := step_formats ((Display.Course.start c).run display calls) (run_holds c calls) call
    rw [Display.Course.run, List.foldl_append]
    show (((Display.Course.start c).run display calls).step display call).client.formats = _
    rw [hlast, ih, ← FormatSet.extend_append, advertised, advertised, advertised,
      ← List.filterMap_append]

namespace Opening

variable (o : Opening)

/-- The display after a run. -/
def after (calls : List (Display.Call Happening)) : Client :=
  ((Display.Course.start o.client).run display calls).client

/-- The formats that the compositor told of while the display was opened. -/
def told : List Format :=
  (o.globals ++ o.answers).filterMap Event.advertised?

/-- An opened display accepts what it was told of while it was opened. -/
theorem client_formats : o.client.formats = .ofList o.told := by
  rw [client, Client.handleAll_formats, Client.handleAll_formats, ← FormatSet.extend_append,
    ← List.filterMap_append]
  rfl

theorem after_formats (calls : List (Display.Call Happening)) :
    (o.after calls).formats = .ofList (o.told ++ advertised calls) := by
  rw [after, run_formats, client_formats, FormatSet.ofList, FormatSet.ofList,
    FormatSet.extend_append]

theorem after_accepts (calls : List (Display.Call Happening)) (code : Fourcc) :
    (o.after calls).accepts code = true ↔
      (∃ f ∈ advertised calls, f.code = code) ∨ o.client.accepts code = true := by
  rw [Client.accepts, after, run_formats]
  exact FormatSet.get?_extend_isSome o.client.formats (advertised calls) code

theorem advertised_take {calls : List (Display.Call Happening)} {k : Nat} {f : Format}
    (hf : f ∈ advertised (calls.take k)) : f ∈ advertised calls :=
  ((List.take_sublist k calls).filterMap _).subset hf

/-- The formats never change exactly if nothing is told of that was not told of before. -/
theorem formats_kept_iff (calls : List (Display.Call Happening)) :
    (∀ k, (o.after (calls.take k)).formats = o.client.formats) ↔
      ∀ f ∈ advertised calls, f ∈ o.told := by
  have hkept : ∀ calls', (o.after calls').formats = o.client.formats ↔
      ∀ f ∈ advertised calls', f ∈ o.told := by
    intro calls'
    rw [after, run_formats, FormatSet.extend_eq_self_iff]
    simp only [client_formats, FormatSet.contains_ofList]
  constructor
  · intro hall
    have hlast := (hkept _).mp (hall calls.length)
    rwa [List.take_length] at hlast
  · intro hnone k
    exact (hkept _).mpr fun f hf => hnone f (advertised_take hf)

/-- The pixel formats that are taken never change exactly if none is told of that was not
taken from the beginning. -/
theorem accepts_kept_iff (calls : List (Display.Call Happening)) :
    (∀ k code, (o.after (calls.take k)).accepts code = o.client.accepts code) ↔
      ∀ f ∈ advertised calls, o.client.accepts f.code = true := by
  constructor
  · intro hall f hf
    rw [← hall calls.length f.code, List.take_length]
    exact (o.after_accepts calls f.code).mpr (.inl ⟨f, hf, rfl⟩)
  · intro hnone k code
    rw [Bool.eq_iff_iff, after_accepts]
    constructor
    · rintro (⟨f, hf, rfl⟩ | h)
      · exact hnone f (advertised_take hf)
      · exact h
    · exact .inr

end Opening

/-- **The formats of a display stay what they were at its opening only as long as the
compositor tells of nothing new.** Calls, imports and events of the compositor come in any
order. At any time the formats are all those that were ever told of, and an image is refused
for its format exactly if the connection stands and its pixel format is of none of them. -/
theorem formats_kept_iff_nothing_new (o : Opening) (calls : List (Display.Call Happening)) :
    o.client.formats = .ofList o.told ∧
    (∀ k, (o.after (calls.take k)).formats = .ofList (o.told ++ advertised (calls.take k))) ∧
    ((∀ k, (o.after (calls.take k)).formats = o.client.formats) ↔
      ∀ f ∈ advertised calls, f ∈ o.told) ∧
    ((∀ k code, (o.after (calls.take k)).accepts code = o.client.accepts code) ↔
      ∀ f ∈ advertised calls, o.client.accepts f.code = true) ∧
    ∀ image, ((o.after calls).attach image).1 = .error (.unsupported image.format) ↔
      (o.after calls).registry.disconnected = false ∧
        ∀ f ∈ o.told ++ advertised calls, f.code ≠ image.format.code := by
  refine ⟨o.client_formats, fun k => o.after_formats _, o.formats_kept_iff calls,
    o.accepts_kept_iff calls, fun image => ?_⟩
  rw [Client.attach_unsupported_iff, ← Bool.not_eq_true ((o.after calls).accepts _),
    Client.accepts, o.after_formats calls]
  refine and_congr_right fun _ => ?_
  rw [FormatSet.ofList, FormatSet.get?_extend_isSome]
  simp [FormatSet.empty, FormatSet.get?]

/-- A pixel format with an alpha channel. -/
def translucent : Fourcc := ⟨Fourcc.word 'A' 'R' '2' '4', by decide⟩

/-- One event of the open display adds a format, and an image that was refused is taken. -/
theorem late_format_is_taken :
    let image := { Image.numbered 0 with
      dmabuf := { (Image.numbered 0).dmabuf with format := ⟨translucent, .linear⟩ } }
    let late := [Display.Call.other (.event (.modifier translucent.code 0 0))]
    shortOpening.client.missing? = none ∧
    shortOpening.client.formats = .ofList [⟨.xrgb8888, .linear⟩] ∧
    (shortOpening.after late).formats = .ofList [⟨.xrgb8888, .linear⟩, ⟨translucent, .linear⟩] ∧
    (shortOpening.client.attach image).1 = .error (.unsupported ⟨translucent, .linear⟩) ∧
    ((shortOpening.after late).attach image).1.isOk = true := by
  decide +kernel

end Scanout.Wayland
