import Mathlib.Data.List.Infix
import Scanout.X11.Client

/-!
# What gets through a connection

A connection may fail at any request and at any flush. This file says once how writing can end, for
one request (`Posted`) and for several (`writeAll_cases`), and what that makes of a new window and
of an import: `Opened` and `ImportStops` have one constructor for each place where it ends.
-/

namespace Scanout.X11

namespace Connection

/-- A connection on which nothing fails that is written. -/
structure Sound (connection : Connection) : Prop where
  write : ∀ request, connection.write request = .ok ()
  flush : ∀ requests, connection.flush requests = .ok ()

variable {connection : Connection}

/-- Either all was written, or an earlier part of it. -/
theorem writeAll_cases (connection : Connection) (rs : List Request) :
    connection.writeAll rs = (.ok (), rs) ∨
    ∃ e written, connection.writeAll rs = (.error e, written) ∧ written <+: rs := by
  induction rs with
  | nil => exact .inl rfl
  | cons r rest ih =>
    unfold writeAll
    cases connection.write r with
    | error e => exact .inr ⟨e, [], rfl, List.nil_prefix⟩
    | ok =>
      rcases ih with hall | ⟨e, written, hsome, hprefix⟩
      · rw [hall]
        exact .inl rfl
      · rw [hsome]
        exact .inr ⟨e, r :: written, rfl, List.cons_prefix_cons.mpr ⟨rfl, hprefix⟩⟩

theorem postAll_cases (connection : Connection) (rs : List Request) :
    connection.postAll rs = (.ok (), rs) ∨
    ∃ e written, connection.postAll rs = (.error e, written) ∧ written <+: rs := by
  unfold postAll
  rcases connection.writeAll_cases rs with hall | ⟨e, written, hsome, hprefix⟩
  · rw [hall]
    cases hflush : connection.flush rs with
    | error e => exact .inr ⟨e, rs, rfl, List.prefix_refl rs⟩
    | ok => exact .inl rfl
  · rw [hsome]
    exact .inr ⟨e, written, rfl, hprefix⟩

/-- How posting one request ends. -/
inductive Posted (connection : Connection) (r : Request) :
    Except Failure Unit → List Request → Prop where
  | through (flushed : connection.flush [r] = .ok ()) : Posted connection r (.ok ()) [r]
  | unwritten (e : Failure) : Posted connection r (.error e) []
  | unflushed (e : Failure) (stuck : connection.flush [r] = .error e) :
    Posted connection r (.error e) [r]

theorem posted (connection : Connection) (r : Request) :
    connection.Posted r (connection.postAll [r]).1 (connection.postAll [r]).2 := by
  unfold postAll writeAll
  cases connection.write r with
  | error e => exact .unwritten e
  | ok =>
    cases hflush : connection.flush [r] with
    | error e =>
      simp only [writeAll]
      exact .unflushed e hflush
    | ok =>
      simp only [writeAll]
      exact .through hflush

/-- All files are duplicated, or the attempt fails as one of them does. -/
theorem duplicateAll_cases (connection : Connection) (files : Nat) :
    (connection.duplicateAll files = .ok () ∧
      ∀ place < files, connection.duplicate place = .ok ()) ∨
    ∃ cause, connection.duplicateAll files = .error cause ∧
      ∃ place < files, connection.duplicate place = .error cause := by
  induction files with
  | zero => exact .inl ⟨rfl, fun _ h => absurd h (Nat.not_lt_zero _)⟩
  | succ n ih =>
    have hstep : connection.duplicateAll (n + 1)
        = connection.duplicateAll n >>= fun _ => connection.duplicate n := by
      simp [duplicateAll, List.range_succ, List.forM_eq_forM]
    rw [hstep]
    rcases ih with ⟨hall, hone⟩ | ⟨cause, hfailed, place, hplace, hone⟩
    · rw [hall]
      cases hlast : connection.duplicate n with
      | error cause => exact .inr ⟨cause, rfl, n, Nat.lt_succ_self n, hlast⟩
      | ok => exact .inl ⟨rfl, Nat.forall_lt_succ_right.mpr ⟨hone, hlast⟩⟩
    · rw [hfailed]
      exact .inr ⟨cause, rfl, place, Nat.lt_succ_of_lt hplace, hone⟩

theorem Sound.writeAll (h : connection.Sound) (rs : List Request) :
    connection.writeAll rs = (.ok (), rs) := by
  induction rs with
  | nil => rfl
  | cons r rest ih => simp only [Connection.writeAll, h.write, ih]

theorem Sound.postAll (h : connection.Sound) (rs : List Request) :
    connection.postAll rs = (.ok (), rs) := by
  simp only [Connection.postAll, h.writeAll, h.flush]

end Connection

namespace Client

/-- How making a window ends: the result, what was written, and the identifiers that are left. -/
inductive Opened (c : Client) (name : String) :
    Except Error Window → List Request → ResourceIds → Prop where
  | noWindow {asks : List Request} {ids : ResourceIds}
      (fresh : c.session.ids.fresh = (none, asks, ids)) : Opened c name (.error .protocol) asks ids
  | unmade {window : ResourceId} {asks written : List Request} {ids : ResourceIds}
      (fresh : c.session.ids.fresh = (some window, asks, ids))
      (part : written <+: c.windowRequests window (c.title ++ " - " ++ name)) :
    Opened c name (.error .protocol) (asks ++ written) ids
  | noEvent {window : ResourceId} {asks more : List Request} {ids ids' : ResourceIds}
      (fresh : c.session.ids.fresh = (some window, asks, ids))
      (next : ids.fresh = (none, more, ids')) :
    Opened c name (.error .protocol)
      (asks ++ c.windowRequests window (c.title ++ " - " ++ name) ++ more) ids'
  | unshown {window event : ResourceId} {asks more last : List Request} {ids ids' : ResourceIds}
      (fresh : c.session.ids.fresh = (some window, asks, ids))
      (next : ids.fresh = (some event, more, ids')) (part : last <+: showRequests window event) :
    Opened c name (.error .protocol)
      (asks ++ c.windowRequests window (c.title ++ " - " ++ name) ++ more ++ last) ids'
  | shown {window event : ResourceId} {asks more : List Request} {ids ids' : ResourceIds}
      (fresh : c.session.ids.fresh = (some window, asks, ids))
      (next : ids.fresh = (some event, more, ids')) :
    Opened c name
      (.ok {
        window := window, presentEvent := event
        info := { name := name, make := "X11", model := "X11 window", mode := c.mode } })
      (asks ++ c.windowRequests window (c.title ++ " - " ++ name) ++ more
        ++ showRequests window event) ids'

/-- There is no other end, and nothing but the identifiers of the client changes. -/
theorem openWindow_opened (c : Client) (name : String) :
    ∃ ids, c.Opened name (c.openWindow name).1 (c.openWindow name).2.1 ids ∧
      (c.openWindow name).2.2 = c.withIds ids := by
  unfold openWindow
  rcases hwindow : c.session.ids.fresh with ⟨_ | window, asks, ids⟩
  · exact ⟨ids, .noWindow hwindow, rfl⟩
  simp only
  rcases c.session.connection.writeAll_cases
    (c.windowRequests window (c.title ++ " - " ++ name)) with hall | ⟨e, written, hsome, hpart⟩
  swap
  · rw [hsome]
    exact ⟨ids, .unmade hwindow hpart, rfl⟩
  rw [hall]
  rcases hevent : ids.fresh with ⟨_ | event, more, ids'⟩
  · exact ⟨ids', .noEvent hwindow hevent, rfl⟩
  simp only
  rcases c.session.connection.postAll_cases (showRequests window event) with
    hall | ⟨e, last, hsome, hpart⟩
  · rw [hall]
    exact ⟨ids', .shown hwindow hevent, rfl⟩
  · rw [hsome]
    exact ⟨ids', .unshown hwindow hevent hpart, rfl⟩

theorem openWindow_registry (c : Client) (name : String) :
    (c.openWindow name).2.2.registry = c.registry := by
  obtain ⟨ids, -, hids⟩ := c.openWindow_opened name
  rw [hids]
  rfl

end Client

/-! ## Importing -/

/-- Where an import ends: the result, what was sent, and the identifiers that are left. -/
inductive ImportStops (verdict : Request → Except Refusal Unit) (s : Session) (image : Image) :
    Except AttachError Image → List Request → ResourceIds → Prop where
  | unplanned {e : AttachError} (unfit : ImportPlan.make s.dri3 image.dmabuf = .error e) :
    ImportStops verdict s image (.error e) [] s.ids
  | unduplicated {cause : Failure}
      (stuck : s.connection.duplicateAll image.dmabuf.files.length = .error cause) :
    ImportStops verdict s image (.error (.descriptor cause)) [] s.ids
  | exhausted {asks : List Request} {ids : ResourceIds} (fresh : s.ids.fresh = (none, asks, ids)) :
    ImportStops verdict s image (.error (.protocol s.connection.exhausted)) asks ids
  | untold {plan : ImportPlan} {pixmap : ResourceId} {asks : List Request} {ids : ResourceIds}
      (planned : ImportPlan.make s.dri3 image.dmabuf = .ok plan)
      (fresh : s.ids.fresh = (some pixmap, asks, ids))
      (unfit : importRequest? plan s.screen pixmap image.dmabuf = none) :
    ImportStops verdict s image (.error (.unsupported image.dmabuf.format)) asks ids
  | unwritten {plan : ImportPlan} {pixmap : ResourceId} {asks : List Request} {ids : ResourceIds}
      {request : Request} {cause : Failure}
      (planned : ImportPlan.make s.dri3 image.dmabuf = .ok plan)
      (fresh : s.ids.fresh = (some pixmap, asks, ids))
      (told : importRequest? plan s.screen pixmap image.dmabuf = some request)
      (stuck : s.connection.write request = .error cause) :
    ImportStops verdict s image (.error (.protocol cause)) asks ids
  | declined {plan : ImportPlan} {pixmap : ResourceId} {asks : List Request} {ids : ResourceIds}
      {request : Request} {refusal : Refusal}
      (planned : ImportPlan.make s.dri3 image.dmabuf = .ok plan)
      (duplicated : s.connection.duplicateAll image.dmabuf.files.length = .ok ())
      (fresh : s.ids.fresh = (some pixmap, asks, ids))
      (told : importRequest? plan s.screen pixmap image.dmabuf = some request)
      (written : s.connection.write request = .ok ()) (answer : verdict request = .error refusal) :
    ImportStops verdict s image (.error (.protocol refusal.cause)) (asks ++ [request]) ids
  | taken {plan : ImportPlan} {pixmap : ResourceId} {asks : List Request} {ids : ResourceIds}
      {request : Request}
      (planned : ImportPlan.make s.dri3 image.dmabuf = .ok plan)
      (duplicated : s.connection.duplicateAll image.dmabuf.files.length = .ok ())
      (fresh : s.ids.fresh = (some pixmap, asks, ids))
      (told : importRequest? plan s.screen pixmap image.dmabuf = some request)
      (written : s.connection.write request = .ok ()) (answer : verdict request = .ok ()) :
    ImportStops verdict s image (.ok { image with backendData := ⟨some (.pixmap pixmap)⟩ })
      (asks ++ [request]) ids

/-- It ends nowhere else, and nothing but the identifiers of the session changes. -/
theorem importImage_stops (verdict : Request → Except Refusal Unit) (s : Session) (image : Image) :
    ∃ ids, ImportStops verdict s image (importImage verdict s image).1
        (importImage verdict s image).2.1 ids ∧
      (importImage verdict s image).2.2 = { s with ids := ids } := by
  unfold importImage
  rcases hplan : ImportPlan.make s.dri3 image.dmabuf with e | plan
  · exact ⟨s.ids, .unplanned hplan, rfl⟩
  rcases hfiles : s.connection.duplicateAll image.dmabuf.files.length with cause | _
  · exact ⟨s.ids, .unduplicated hfiles, rfl⟩
  rcases hfresh : s.ids.fresh with ⟨_ | pixmap, asks, ids⟩
  · exact ⟨ids, .exhausted hfresh, rfl⟩
  simp only
  rcases hrequest : importRequest? plan s.screen pixmap image.dmabuf with _ | request
  · exact ⟨ids, .untold hplan hfresh hrequest, rfl⟩
  simp only
  rcases hwrite : s.connection.write request with cause | _
  · exact ⟨ids, .unwritten hplan hfresh hrequest hwrite, rfl⟩
  simp only
  rcases hanswer : verdict request with refusal | _
  · exact ⟨ids, .declined hplan hfiles hfresh hrequest hwrite hanswer, rfl⟩
  · exact ⟨ids, .taken hplan hfiles hfresh hrequest hwrite hanswer, rfl⟩

end Scanout.X11
