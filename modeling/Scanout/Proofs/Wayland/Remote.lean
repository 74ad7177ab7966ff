import Scanout.Proofs.Wayland.Moves

/-!
# The compositor on the other side

A remote compositor shows the buffers it is given and releases them. It counts its
commits: every commit of a buffer may be answered by one release, at any later
time, whatever became of the surface in between. On the wire a release names the
buffer alone, so the display is told the buffer of the commit and nothing more.
-/

namespace Scanout.Wayland

/-- A commit by which a surface shows a buffer. -/
structure Commit where
  number : Nat
  surface : Nat
  buffer : Nat
  deriving DecidableEq, Repr

/-- What a compositor knows of the buffers it was given. -/
structure Remote where
  /-- The buffers attached to surfaces and not yet committed, by surface. -/
  attached : List (Nat × Nat) := []
  /-- All commits of buffers, in order. -/
  history : List Commit := []
  /-- The commits whose buffer was not yet released. -/
  inUse : List Commit := []
  deriving DecidableEq, Repr

namespace Remote

/-- A surface shows a buffer from now on. -/
def commit (r : Remote) (surface buffer : Nat) : Remote :=
  { r with
    history := r.history ++ [⟨r.history.length, surface, buffer⟩]
    inUse := r.inUse ++ [⟨r.history.length, surface, buffer⟩] }

def receive (r : Remote) : Request → Remote
  | .attach surface buffer =>
    { r with attached := (surface, buffer) :: r.attached.filter (·.1 ≠ surface) }
  | .commit surface =>
    match r.attached.lookup surface with
    | none => r
    | some buffer =>
      { r with attached := r.attached.filter (·.1 ≠ surface) }.commit surface buffer
  | _ => r

def receiveAll (r : Remote) (sent : List Request) : Remote :=
  sent.foldl receive r

/-- The release of a commit was sent. -/
def release (r : Remote) (c : Commit) : Remote :=
  { r with inUse := r.inUse.filter (· ≠ c) }

/-- The commit by which a surface shows a buffer: the last one of the buffer there. -/
def standing? (r : Remote) (surface buffer : Nat) : Option Commit :=
  r.history.reverse.find? fun c => c.surface = surface ∧ c.buffer = buffer

theorem standing?_commit (r : Remote) (surface buffer : Nat) :
    (r.commit surface buffer).standing? surface buffer
      = some ⟨r.history.length, surface, buffer⟩ := by
  simp [standing?, commit]

theorem standing?_commit_of_ne (r : Remote) (surface : Nat) {buffer other : Nat}
    (hne : buffer ≠ other) (surface' : Nat) :
    (r.commit surface buffer).standing? surface' other = r.standing? surface' other := by
  simp [standing?, commit, hne]

theorem receiveAll_quiet {sent : List Request} (h : Quiet sent) (r : Remote) :
    r.receiveAll sent = r := by
  induction sent with
  | nil => rfl
  | cons request rest ih =>
    have hr : r.receive request = r := by
      cases request with
      | attach | commit => exact absurd (h _ List.mem_cons_self) (by simp [Request.shows])
      | _ => rfl
    show (r.receive request).receiveAll rest = r
    rw [hr]
    exact ih fun other ho => h other (List.mem_cons_of_mem _ ho)

/-- The requests of a presentation make one commit. -/
theorem receiveAll_present {r : Remote} (hr : r.attached = []) (surface buffer callback : Nat)
    {damage : List Request} (hdamage : Quiet damage) :
    r.receiveAll ([.attach surface buffer] ++ damage ++ [.frame surface callback, .commit surface])
      = r.commit surface buffer := by
  have hall : ∀ (sent sent' : List Request) (r' : Remote),
      r'.receiveAll (sent ++ sent') = (r'.receiveAll sent).receiveAll sent' :=
    fun sent sent' r' => List.foldl_append
  rw [hall, hall, receiveAll_quiet hdamage]
  obtain ⟨attached, history, inUse⟩ := r
  obtain rfl : attached = [] := hr
  simp [receiveAll, receive, commit]

end Remote

/-- What a turn of an output makes of the compositor: at most one commit, of the buffer
of the image that the turn committed. -/
theorem Client.Acted.received {c c' : Client} {id : OutputId} {o : Output Toplevel}
    {t : FrameScheduler.Turn} {sent : List Request} (h : c.Acted id o t sent c') {r : Remote}
    (hr : r.attached = []) :
    (t.committed = [] ∧ r.receiveAll sent = r) ∨
    ∃ image buffer, t.committed = [image] ∧ image.remoteBuffer? = some buffer ∧
      r.receiveAll sent = r.commit o.details.object buffer := by
  obtain ⟨canvas, used, hobject, hempty, hused, rfl⟩ := h.uses
  obtain ⟨details, -, hturn⟩ := h.turn
  obtain ⟨f, heffect⟩ := hturn.effect
  have hasked := heffect.asked_cases
  rcases t with ⟨call, asked, queued⟩
  rcases hasked with rfl | rfl | ⟨image, answer, rfl⟩
  · obtain rfl : used = canvas := hused
    exact .inl ⟨rfl, by rw [hempty]; rfl⟩
  · obtain rfl : used = canvas.cancel := hused
    exact .inl ⟨rfl, by rw [show canvas.cancel.sent = [] from hempty]; rfl⟩
  · obtain ⟨rfl, rfl⟩ : (Canvas.present image canvas).1 = answer ∧
      used = (Canvas.present image canvas).2 := hused
    rcases Canvas.present_cases image canvas with
      ⟨buffer, damage, hbuffer, hdamage, hp⟩ | ⟨-, hp⟩
    · refine .inr ⟨image, buffer, by simp [FrameScheduler.Turn.committed, hp], hbuffer, ?_⟩
      rw [hp]
      simp only [hempty, hobject, List.nil_append]
      exact Remote.receiveAll_present hr o.details.object buffer canvas.callbacks.next hdamage
    · refine .inl ⟨by simp [FrameScheduler.Turn.committed, hp], ?_⟩
      rw [hp, hempty]
      rfl

end Scanout.Wayland
