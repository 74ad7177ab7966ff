import Mathlib.Data.List.Induction
import Scanout.Proofs.Allocator.Actions
import Scanout.Proofs.Output.Turns

/-!
# The lives of buffers

An action names a buffer, and it is done to the latest buffer object of that name that was
not freed yet: so the list of all actions falls apart into the lives of the buffer objects.
`Course` is a run of an allocator on a host that may refuse anything, and `Inv` says how the
lives stand to the images that are out: every life is one of the few there can be, and the
ones not ended yet belong to those images, one to one. All the counts an allocator could be
held to follow from that, as sums over lives: `every_buffer_is_undone`.
-/

namespace Scanout

variable {σ : Type}

open BufferAction

/-- What was done to one buffer object, in order. -/
structure BufferLife where
  buffer : Buffer
  actions : List BufferAction
  deriving DecidableEq, Repr

namespace BufferLife

/-- Whether the buffer object was not freed yet. -/
def live (l : BufferLife) : Bool := .freed ∉ l.actions

/-- Adds an action to the latest live buffer object of that name. An action on none is a life
of its own, which no law allows. -/
def note (buffer : Buffer) (action : BufferAction) : List BufferLife → List BufferLife
  | [] => [⟨buffer, [action]⟩]
  | l :: rest =>
    if l.buffer = buffer ∧ l.live then ⟨buffer, l.actions ++ [action]⟩ :: rest
    else l :: note buffer action rest

def record (lives : List BufferLife) (entry : Buffer × BufferAction) : List BufferLife :=
  if entry.2 = .created then ⟨entry.1, [.created]⟩ :: lives else note entry.1 entry.2 lives

/-- The lives of all buffer objects, latest first. -/
def ofLog (log : ActionLog) : List BufferLife := log.foldl record []

theorem ofLog_append (log more : ActionLog) :
    ofLog (log ++ more) = more.foldl record (ofLog log) :=
  List.foldl_append

/-- Every action belongs to one life. -/
theorem note_perm (buffer : Buffer) (action : BufferAction) (lives : List BufferLife) :
    ((note buffer action lives).flatMap (·.actions)).Perm
      (action :: lives.flatMap (·.actions)) := by
  induction lives with
  | nil => exact .refl _
  | cons l rest ih =>
    unfold note
    split
    · show (l.actions ++ [action] ++ rest.flatMap (·.actions)).Perm _
      rw [List.append_assoc, List.singleton_append]
      exact List.perm_middle
    · exact (ih.append_left l.actions).trans List.perm_middle

theorem ofLog_perm (log : ActionLog) :
    ((ofLog log).flatMap (·.actions)).Perm (log.map (·.2)) := by
  induction log using List.reverseRecOn with
  | nil => exact .refl _
  | append_singleton log entry ih =>
    have hstep : ((record (ofLog log) entry).flatMap (·.actions)).Perm
        (entry.2 :: (ofLog log).flatMap (·.actions)) := by
      unfold record
      split
      · next hcreated => rw [hcreated]; exact .refl _
      · exact note_perm entry.1 entry.2 (ofLog log)
    rw [ofLog_append, List.map_append]
    exact hstep.trans ((ih.cons entry.2).trans (List.perm_append_singleton _ _).symm)

/-! ## Actions on one buffer -/

/-- Actions after which a buffer object may be gone, but not before the last of them. -/
def Continues (actions : List BufferAction) : Prop :=
  .created ∉ actions ∧ .freed ∉ actions.dropLast

instance (actions : List BufferAction) : Decidable (Continues actions) :=
  inferInstanceAs (Decidable (_ ∧ _))

theorem note_at {before after : List BufferLife} {l : BufferLife}
    (hbefore : ∀ other ∈ before, other.buffer = l.buffer → other.live = false)
    (hlive : l.live = true) (action : BufferAction) :
    note l.buffer action (before ++ l :: after)
      = before ++ ⟨l.buffer, l.actions ++ [action]⟩ :: after := by
  induction before with
  | nil => simp [note, hlive]
  | cons first rest ih =>
    have hskip : ¬ (first.buffer = l.buffer ∧ first.live = true) := by
      rintro ⟨heq, hl⟩
      rw [hbefore first List.mem_cons_self heq] at hl
      exact absurd hl (by simp)
    have hrest := ih fun other hother => hbefore other (List.mem_cons_of_mem _ hother)
    simp only [List.cons_append, note, if_neg hskip, hrest]

/-- The actions go to the buffer object that is live. -/
theorem record_continues {before after : List BufferLife} {actions : List BufferAction}
    (hactions : Continues actions) :
    ∀ {l : BufferLife}, (∀ other ∈ before, other.buffer = l.buffer → other.live = false) →
      l.live = true →
      (actions.map (l.buffer, ·)).foldl record (before ++ l :: after)
        = before ++ ⟨l.buffer, l.actions ++ actions⟩ :: after := by
  induction actions with
  | nil => intro l _ _; simp
  | cons action rest ih =>
    intro l hbefore hlive
    obtain ⟨hcreated, hfreed⟩ := hactions
    have hone : record (before ++ l :: after) (l.buffer, action)
        = before ++ ⟨l.buffer, l.actions ++ [action]⟩ :: after := by
      rw [record, if_neg (by rintro rfl; exact hcreated List.mem_cons_self)]
      exact note_at hbefore hlive action
    rw [List.map_cons, List.foldl_cons, hone]
    cases rest with
    | nil => rfl
    | cons next more =>
      rw [List.dropLast_cons_of_ne_nil (List.cons_ne_nil next more)] at hfreed
      -- the object is not gone yet, so the rest goes to it as well
      have hstill : (⟨l.buffer, l.actions ++ [action]⟩ : BufferLife).live = true := by
        have hne : action ≠ .freed := by
          rintro rfl
          exact hfreed List.mem_cons_self
        simpa [live, hne.symm] using hlive
      have hmore := ih ⟨fun h => hcreated (List.mem_cons_of_mem _ h),
        fun h => hfreed (List.mem_cons_of_mem _ h)⟩ (l := ⟨l.buffer, l.actions ++ [action]⟩)
        hbefore hstill
      rw [hmore, List.append_assoc, List.singleton_append]

/-- A buffer object that is made has a life of its own from then on. -/
theorem ofLog_created {actions : List BufferAction} (hactions : Continues actions)
    (log : ActionLog) (buffer : Buffer) :
    ofLog (log ++ (BufferAction.created :: actions).map (buffer, ·))
      = ⟨buffer, .created :: actions⟩ :: ofLog log := by
  rw [ofLog_append, List.map_cons, List.foldl_cons]
  have hnew : (⟨buffer, [.created]⟩ : BufferLife).live = true := rfl
  have hnone : ∀ other ∈ ([] : List BufferLife), other.buffer = buffer → other.live = false :=
    fun _ h => absurd h List.not_mem_nil
  exact record_continues hactions hnone hnew

end BufferLife

namespace BufferAction

/-- All that can have been done to a buffer object between two calls of its allocator. -/
inductive Bracketed (hooked : Bool) : List BufferAction → Prop where
  | spent {actions : List BufferAction} (h : Spent hooked actions) : Bracketed hooked actions
  | opened : Bracketed hooked (opening hooked)
  | closed : Bracketed hooked (opening hooked ++ closing hooked)

/-- The life of a spent buffer is over. -/
theorem Spent.cases {hooked : Bool} {actions : List BufferAction} (h : Spent hooked actions) :
    ∃ rest, actions = .created :: rest ∧ BufferLife.Continues rest ∧ .freed ∈ actions := by
  cases h with
  | unused => exact ⟨_, rfl, by decide, by decide⟩
  | importRefused => exact ⟨_, rfl, by decide, by decide⟩
  | attachRefused =>
    cases hooked with
    | true => exact ⟨_, rfl, by decide, by decide⟩
    | false => exact ⟨_, rfl, by decide, by decide⟩

theorem AllSpent.ofLog_append {hooked : Bool} {spent : ActionLog} (h : AllSpent hooked spent)
    (log : ActionLog) :
    ∃ gone, BufferLife.ofLog (log ++ spent) = gone ++ BufferLife.ofLog log ∧
      ∀ l ∈ gone, Spent hooked l.actions := by
  induction h with
  | nil => exact ⟨[], by rw [List.append_nil, List.nil_append], by simp⟩
  | append _ buffer hspent ih =>
    obtain ⟨gone, hgone, hall⟩ := ih
    obtain ⟨rest, rfl, hrest, -⟩ := hspent.cases
    refine ⟨⟨buffer, .created :: rest⟩ :: gone, ?_, ?_⟩
    · rw [← List.append_assoc, BufferLife.ofLog_created hrest, hgone, List.cons_append]
    · intro l hl
      rcases List.mem_cons.mp hl with rfl | hl
      · exact hspent
      · exact hall l hl

theorem Spent.not_live {hooked : Bool} {l : BufferLife} (h : Spent hooked l.actions) :
    l.live = false := by
  obtain ⟨-, -, -, hfreed⟩ := h.cases
  simpa [BufferLife.live] using hfreed

theorem opening_continues (hooked : Bool) :
    ∃ rest, opening hooked = .created :: rest ∧ BufferLife.Continues rest := by
  cases hooked with
  | true => exact ⟨_, rfl, by decide⟩
  | false => exact ⟨_, rfl, by decide⟩

theorem closing_continues (hooked : Bool) : BufferLife.Continues (closing hooked) := by
  cases hooked <;> decide

/-- The only life that is not over is that of an image which is out. -/
theorem Bracketed.opening_of_live {hooked : Bool} {l : BufferLife}
    (h : Bracketed hooked l.actions) (hlive : l.live = true) : l.actions = opening hooked := by
  obtain ⟨buffer, actions⟩ := l
  have hunfreed : .freed ∉ actions := by simpa [BufferLife.live] using hlive
  cases h with
  | spent hspent =>
    obtain ⟨-, -, -, hfreed⟩ := hspent.cases
    exact absurd hfreed hunfreed
  | opened => rfl
  | closed => exact absurd (by simp [closing]) hunfreed

/-- In every life, what was done and has to be undone was undone, unless the buffer is live. -/
structure Undone (hooked live : Bool) (actions : List BufferAction) : Prop where
  buffers : actions.count .created = actions.count .freed + live.toNat
  attachments : actions.count .attached = actions.count .detached + live.toNat
  imports : actions.count .imported = actions.count .unimported + (hooked && live).toNat

instance (hooked live : Bool) (actions : List BufferAction) :
    Decidable (Undone hooked live actions) :=
  decidable_of_iff (actions.count .created = actions.count .freed + live.toNat ∧
      actions.count .attached = actions.count .detached + live.toNat ∧
      actions.count .imported = actions.count .unimported + (hooked && live).toNat)
    ⟨fun ⟨buffers, attachments, imports⟩ => ⟨buffers, attachments, imports⟩,
      fun ⟨buffers, attachments, imports⟩ => ⟨buffers, attachments, imports⟩⟩

theorem Bracketed.undone {hooked : Bool} {actions : List BufferAction}
    (h : Bracketed hooked actions) : Undone hooked (.freed ∉ actions) actions := by
  cases h with
  | spent hspent =>
    cases hspent with
    | unused => cases hooked <;> decide
    | importRefused renderer => subst renderer; decide
    | attachRefused => cases hooked <;> decide
  | opened => cases hooked <;> decide
  | closed => cases hooked <;> decide

/-- Without a renderer nothing is imported into one. -/
theorem Bracketed.unrendered {actions : List BufferAction} (h : Bracketed false actions) :
    .imported ∉ actions ∧ .importRefused ∉ actions ∧ .unimported ∉ actions := by
  cases h with
  | spent hspent =>
    cases hspent with
    | unused => decide
    | importRefused renderer => exact absurd renderer (by simp)
    | attachRefused => decide
  | opened => decide
  | closed => decide

end BufferAction

namespace BufferLife

/-- What holds of every life holds of all actions: what was done and has to be undone was
undone, except for the buffers that are live. -/
theorem undone_sum {hooked : Bool} {lives : List BufferLife}
    (h : ∀ l ∈ lives, Bracketed hooked l.actions) :
    let actions := lives.flatMap (·.actions)
    let living := (lives.filter live).length
    actions.count .created = actions.count .freed + living ∧
    actions.count .attached = actions.count .detached + living ∧
    actions.count .imported = actions.count .unimported + (if hooked then living else 0) := by
  induction lives with
  | nil => cases hooked <;> exact ⟨rfl, rfl, rfl⟩
  | cons l rest ih =>
    obtain ⟨hbuffers, hattachments, himports⟩ := ih fun other hother =>
      h other (List.mem_cons_of_mem _ hother)
    have hl := (h l List.mem_cons_self).undone
    have hsplit : ((l :: rest).filter live).length = l.live.toNat + (rest.filter live).length := by
      cases hlive : l.live <;> simp [hlive, Nat.add_comm]
    have hlive : decide (.freed ∉ l.actions) = l.live := rfl
    have hb := hl.buffers
    have ha := hl.attachments
    have hi := hl.imports
    rw [hlive] at hb ha hi
    simp only [List.flatMap_cons, List.count_append, hsplit]
    refine ⟨by omega, by omega, ?_⟩
    cases hooked with
    | true =>
      simp only [Bool.true_and, if_true] at hi himports ⊢
      omega
    | false =>
      simp only [Bool.false_and, Bool.toNat_false, Bool.false_eq_true, if_false] at hi himports ⊢
      omega

end BufferLife

namespace Allocator

/-- What is asked of an allocator. -/
inductive Call where
  | allocate (width height : UInt32) (fourcc : Fourcc) (requested : List Modifier)
  /-- An image that is out goes back. -/
  | deallocate (image : Image)
  /-- What is kept beside the buffer of an image that is out changes. -/
  | change (image changed : Image)
  deriving DecidableEq, Repr

/-- A run of an allocator on a host. -/
structure Course (σ : Type) where
  allocator : Allocator := {}
  host : σ
  /-- Everything done to buffers so far. -/
  log : ActionLog := []
  /-- The images that are out. -/
  hand : List Image := []
  deriving DecidableEq, Repr

namespace Course

def start (s : σ) : Course σ := { host := s }

def step (host : Host σ) (w : Course σ) : Call → Course σ
  | .allocate width height fourcc requested =>
    let (outcome, a, s, log) :=
      allocate host.recording width height fourcc requested w.allocator (w.host, w.log)
    { allocator := a, host := s, log := log, hand := w.hand ++ handedOut outcome }
  | .deallocate image =>
    if image ∈ w.hand then
      let (_, a, s, log) := deallocate host.recording image w.allocator (w.host, w.log)
      { allocator := a, host := s, log := log, hand := w.hand.erase image }
    else w
  | .change image changed =>
    if image ∈ w.hand ∧ changed.buffer = image.buffer then
      { w with hand := w.hand.erase image ++ [changed] }
    else w

def run (host : Host σ) (w : Course σ) (calls : List Call) : Course σ :=
  calls.foldl (step host) w

/-- What an allocator is held to. -/
structure Tally where
  outstanding : Nat
  /-- Buffers made and not freed. -/
  buffers : Int
  /-- Images attached to the display and not detached. -/
  attachments : Int
  /-- Images imported into the renderer and not taken back. -/
  imports : Int
  deriving DecidableEq, Repr

def tally (w : Course σ) : Tally :=
  let actions := w.log.map (·.2)
  { outstanding := w.allocator.outstanding
    buffers := actions.count .created - actions.count .freed
    attachments := actions.count .attached - actions.count .detached
    imports := actions.count .imported - actions.count .unimported }

/-- How the lives of the buffers stand to the images that are out. -/
structure Inv (host : Host σ) (w : Course σ) : Prop where
  outstanding : w.allocator.outstanding = w.hand.length
  bracketed : ∀ l ∈ BufferLife.ofLog w.log, Bracketed host.hooked l.actions
  /-- The live buffers are those of the images that are out. -/
  living : (((BufferLife.ofLog w.log).filter (·.live)).map (·.buffer)).Perm
    (w.hand.map (·.buffer))

theorem start_inv (host : Host σ) (s : σ) : (start s).Inv host where
  outstanding := rfl
  bracketed := fun _ h => absurd h List.not_mem_nil
  living := .refl _

variable {host : Host σ} {w : Course σ}

/-- Buffers that came to nothing change nothing. -/
theorem Inv.spent (h : w.Inv host) {spent : ActionLog} (hspent : AllSpent host.hooked spent) :
    ({ w with log := w.log ++ spent } : Course σ).Inv host := by
  obtain ⟨gone, hgone, hall⟩ := hspent.ofLog_append w.log
  refine ⟨h.outstanding, fun l hl => ?_, ?_⟩
  · rw [hgone] at hl
    rcases List.mem_append.mp hl with hl | hl
    · exact .spent (hall l hl)
    · exact h.bracketed l hl
  · have hnone : gone.filter (·.live) = [] :=
      List.filter_eq_nil_iff.mpr fun l hl => by simp [(hall l hl).not_live]
    show (((BufferLife.ofLog (w.log ++ spent)).filter (·.live)).map (·.buffer)).Perm _
    rw [hgone, List.filter_append, hnone, List.nil_append]
    exact h.living

theorem Inv.opened (h : w.Inv host) (image : Image) :
    ({ allocator := { outstanding := w.allocator.outstanding + 1 }
       host := w.host
       log := w.log ++ (opening host.hooked).map (image.buffer, ·)
       hand := w.hand ++ [image] } : Course σ).Inv host := by
  obtain ⟨rest, hopening, hrest⟩ := opening_continues host.hooked
  have hlives := BufferLife.ofLog_created hrest w.log image.buffer
  rw [← hopening] at hlives
  refine ⟨?_, fun l hl => ?_, ?_⟩
  · simpa using h.outstanding
  · rw [hlives] at hl
    rcases List.mem_cons.mp hl with rfl | hl
    · exact .opened
    · exact h.bracketed l hl
  · have hlive : (⟨image.buffer, opening host.hooked⟩ : BufferLife).live = true := by
      cases host.hooked <;> rfl
    show (((BufferLife.ofLog (w.log ++ _)).filter (·.live)).map (·.buffer)).Perm _
    rw [hlives, List.filter_cons_of_pos hlive, List.map_cons, List.map_append]
    exact (h.living.cons image.buffer).trans (List.perm_append_singleton _ _).symm

/-- Of every image that is out there is a live buffer, and no later one of its name is. -/
theorem Inv.live_buffer (h : w.Inv host) {image : Image} (himage : image ∈ w.hand) :
    ∃ before after, BufferLife.ofLog w.log
        = before ++ ⟨image.buffer, opening host.hooked⟩ :: after ∧
      ∀ other ∈ before, other.buffer = image.buffer → other.live = false := by
  have hsome : ((BufferLife.ofLog w.log).find? fun l => l.buffer = image.buffer ∧ l.live).isSome := by
    have hbuffer := h.living.mem_iff.mpr (List.mem_map_of_mem himage)
    obtain ⟨l, hl, hsame⟩ := List.mem_map.mp hbuffer
    obtain ⟨hl, hlive⟩ := List.mem_filter.mp hl
    exact List.find?_isSome.mpr ⟨l, hl, by simp [hsame, hlive]⟩
  obtain ⟨l, hfind⟩ := Option.isSome_iff_exists.mp hsome
  obtain ⟨hl, before, after, hsplit, hfirst⟩ := List.find?_eq_some_iff_append.mp hfind
  obtain ⟨hsame, hlive⟩ : l.buffer = image.buffer ∧ l.live = true := by simpa using hl
  have hactions : l.actions = opening host.hooked :=
    (h.bracketed l (by rw [hsplit]; exact List.mem_append_right _ List.mem_cons_self)).opening_of_live
      hlive
  refine ⟨before, after, ?_, fun other hother heq => ?_⟩
  · rw [hsplit, ← hsame, ← hactions]
  · simpa [heq] using hfirst other hother

theorem Inv.closed (h : w.Inv host) {image : Image} (himage : image ∈ w.hand) :
    ({ allocator := { outstanding := w.allocator.outstanding - 1 }
       host := w.host
       log := w.log ++ (closing host.hooked).map (image.buffer, ·)
       hand := w.hand.erase image } : Course σ).Inv host := by
  obtain ⟨before, after, hsplit, hfirst⟩ := h.live_buffer himage
  have hlive : (⟨image.buffer, opening host.hooked⟩ : BufferLife).live = true := by
    cases host.hooked <;> rfl
  have hgone : (⟨image.buffer, opening host.hooked ++ closing host.hooked⟩ : BufferLife).live
      = false := by
    cases host.hooked <;> rfl
  have hlives : BufferLife.ofLog (w.log ++ (closing host.hooked).map (image.buffer, ·))
      = before ++ ⟨image.buffer, opening host.hooked ++ closing host.hooked⟩ :: after := by
    rw [BufferLife.ofLog_append, hsplit]
    exact BufferLife.record_continues (l := ⟨image.buffer, opening host.hooked⟩)
      (closing_continues host.hooked) hfirst hlive
  refine ⟨?_, fun l hl => ?_, ?_⟩
  · show w.allocator.outstanding - 1 = (w.hand.erase image).length
    rw [List.length_erase_of_mem himage, h.outstanding]
  · rw [hlives] at hl
    have hold := fun l hl => h.bracketed l (hsplit ▸ hl)
    rcases List.mem_append.mp hl with hl | hl
    · exact hold l (List.mem_append_left _ hl)
    · rcases List.mem_cons.mp hl with rfl | hl
      · exact .closed
      · exact hold l (List.mem_append_right _ (List.mem_cons_of_mem _ hl))
  · -- one buffer is less on either side
    have hliving := h.living
    rw [hsplit, List.filter_append, List.filter_cons_of_pos hlive, List.map_append,
      List.map_cons] at hliving
    have hhand := (List.perm_cons_erase himage).map (·.buffer)
    show (((BufferLife.ofLog (w.log ++ _)).filter (·.live)).map (·.buffer)).Perm _
    rw [hlives, List.filter_append, List.filter_cons_of_neg (by simp [hgone]), List.map_append]
    exact (List.perm_middle.symm.trans (hliving.trans hhand)).cons_inv

/-- An allocation goes as it would without being recorded, and adds one image or none. -/
theorem step_allocate (hk : host.KeepsBuffers) (w : Course σ) (width height : UInt32)
    (fourcc : Fourcc) (requested : List Modifier) :
    ∃ outcome a s spent, AllSpent host.hooked spent ∧
      allocate host width height fourcc requested w.allocator w.host = (outcome, a, s) ∧
      ((∃ image, outcome = .done image ∧
          w.step host (.allocate width height fourcc requested)
            = { allocator := { outstanding := w.allocator.outstanding + 1 }
                host := s
                log := w.log ++ spent ++ (opening host.hooked).map (image.buffer, ·)
                hand := w.hand ++ [image] } ∧ a = { outstanding := w.allocator.outstanding + 1 }) ∨
        (handedOut outcome = [] ∧ a = w.allocator ∧
          w.step host (.allocate width height fourcc requested)
            = { w with host := s, log := w.log ++ spent })) := by
  obtain ⟨outcome, a, s, spent, hspent, hplain, hcases⟩ :=
    allocate_cases hk width height fourcc requested w.allocator w.host w.log
  refine ⟨outcome, a, s, spent, hspent, hplain, ?_⟩
  rcases hcases with ⟨image, rfl, hout, hrec⟩ | ⟨hnone, rfl, hrec⟩
  · obtain rfl : a = { outstanding := w.allocator.outstanding + 1 } := by
      rw [← hout]
    refine .inl ⟨image, rfl, ?_, rfl⟩
    simp only [step, hrec, handedOut]
  · have hempty : handedOut outcome = [] := by
      cases outcome with
      | done image => exact absurd rfl (hnone image)
      | failed => rfl
      | fault => rfl
    refine .inr ⟨hempty, rfl, ?_⟩
    simp only [step, hrec, hempty, List.append_nil]

/-- The count is never too low to take an image back. -/
theorem Inv.step_deallocate (h : w.Inv host) (hk : host.KeepsBuffers) {image : Image}
    (himage : image ∈ w.hand) :
    ∃ a s, a = { outstanding := w.allocator.outstanding - 1 } ∧
      deallocate host image w.allocator w.host = (none, a, s) ∧
      w.step host (.deallocate image)
        = { allocator := a
            host := s
            log := w.log ++ (closing host.hooked).map (image.buffer, ·)
            hand := w.hand.erase image } := by
  obtain ⟨n, hn⟩ : ∃ n, w.allocator.outstanding = n + 1 := by
    have hpos := List.length_pos_of_mem himage
    rw [← h.outstanding] at hpos
    exact ⟨w.allocator.outstanding - 1, by omega⟩
  obtain ⟨s, hplain⟩ : ∃ s, deallocate host image w.allocator w.host
      = (none, { outstanding := n }, s) := by
    simp [deallocate, hn]
  refine ⟨{ outstanding := n }, s, by rw [hn, Nat.add_sub_cancel], hplain, ?_⟩
  simp only [step, if_pos himage, deallocate_recording hk, hplain]

theorem Inv.step_inv (h : w.Inv host) (hk : host.KeepsBuffers) (call : Call) :
    (w.step host call).Inv host := by
  cases call with
  | allocate width height fourcc requested =>
    obtain ⟨outcome, a, s, spent, hspent, -, hcases⟩ :=
      w.step_allocate hk width height fourcc requested
    have hquiet : ({ w with host := s, log := w.log ++ spent } : Course σ).Inv host :=
      { h.spent hspent with }
    rcases hcases with ⟨image, -, hstep, -⟩ | ⟨-, -, hstep⟩
    · rw [hstep]
      exact hquiet.opened image
    · rw [hstep]
      exact hquiet
  | deallocate image =>
    by_cases himage : image ∈ w.hand
    · obtain ⟨a, s, rfl, -, hstep⟩ := h.step_deallocate hk himage
      rw [hstep]
      exact { h.closed himage with }
    · simpa only [step, if_neg himage] using h
  | change image changed =>
    simp only [step]
    split
    · next hchange =>
      obtain ⟨himage, hsame⟩ := hchange
      have hhand := (List.perm_cons_erase himage).map (·.buffer)
      refine ⟨?_, h.bracketed, h.living.trans (hhand.trans ?_)⟩
      · rw [List.length_append, List.length_erase_of_mem himage, h.outstanding]
        have hpos := List.length_pos_of_mem himage
        simp only [List.length_singleton]
        omega
      · rw [List.map_cons, ← hsame, List.map_append]
        exact (List.perm_append_singleton _ _).symm
    · exact h

theorem Inv.run_inv (h : w.Inv host) (hk : host.KeepsBuffers) (calls : List Call) :
    (w.run host calls).Inv host := by
  induction calls generalizing w with
  | nil => exact h
  | cons call rest ih => exact ih (h.step_inv hk call)

/-- All of it comes to the number of images that are out. -/
theorem Inv.tally_eq (h : w.Inv host) :
    w.tally
      = { outstanding := w.hand.length
          buffers := w.hand.length
          attachments := w.hand.length
          imports := if host.hooked then w.hand.length else 0 } := by
  obtain ⟨hbuffers, hattachments, himports⟩ := BufferLife.undone_sum h.bracketed
  have hliving : ((BufferLife.ofLog w.log).filter (·.live)).length = w.hand.length := by
    simpa using h.living.length_eq
  have hcount := fun action => (BufferLife.ofLog_perm w.log).count_eq action
  simp only [hcount, hliving] at hbuffers hattachments himports
  simp only [tally, h.outstanding, Tally.mk.injEq, true_and]
  refine ⟨by omega, by omega, ?_⟩
  by_cases hhooked : host.hooked
  · rw [if_pos hhooked] at himports ⊢
    omega
  · rw [if_neg hhooked] at himports ⊢
    omega

/-- **Everything done to a buffer is undone.** The renderer, the display and the device may
refuse whatever they like, and images may come back in any order: what was done to a buffer
object is one of the few things that can be, with each import and each attachment that
succeeded undone once, backwards and before the buffer is freed, and no other undone. The
buffers that are live are those of the images that are out, and the count, the attachments
and the imports stand at their number. A call that hands out nothing leaves all of them as
they were, and an image that is out can be given back. -/
theorem every_buffer_is_undone (hk : host.KeepsBuffers) (s : σ) (calls : List Call) :
    let w := (start s).run host calls
    (∀ l ∈ BufferLife.ofLog w.log, Bracketed host.hooked l.actions ∧
      (l.live = true → l.actions = opening host.hooked)) ∧
    (host.hooked = false → ∀ entry ∈ w.log,
      entry.2 ≠ .imported ∧ entry.2 ≠ .importRefused ∧ entry.2 ≠ .unimported) ∧
    (((BufferLife.ofLog w.log).filter (·.live)).map (·.buffer)).Perm (w.hand.map (·.buffer)) ∧
    w.tally
      = { outstanding := w.hand.length
          buffers := w.hand.length
          attachments := w.hand.length
          imports := if host.hooked then w.hand.length else 0 } ∧
    (∀ width height fourcc requested,
      let result := allocate host width height fourcc requested w.allocator w.host
      let next := w.step host (.allocate width height fourcc requested)
      (next.allocator, next.host) = result.2 ∧ next.hand = w.hand ++ handedOut result.1 ∧
      (handedOut result.1 = [] → next.tally = w.tally)) ∧
    ∀ image ∈ w.hand,
      let result := deallocate host image w.allocator w.host
      let next := w.step host (.deallocate image)
      result.1 = none ∧ (next.allocator, next.host) = result.2 := by
  intro w
  have h : w.Inv host := (start_inv host s).run_inv hk calls
  refine ⟨fun l hl => ?_, fun hhooks entry hentry => ?_, h.living, h.tally_eq,
    fun width height fourcc requested => ?_, fun image himage => ?_⟩
  · exact ⟨h.bracketed l hl, (h.bracketed l hl).opening_of_live⟩
  · -- every action is in some life
    have hmem := (BufferLife.ofLog_perm w.log).mem_iff.mpr (List.mem_map_of_mem hentry)
    obtain ⟨l, hl, haction⟩ := List.mem_flatMap.mp hmem
    obtain ⟨himported, hrefused, hunimported⟩ := (hhooks ▸ h.bracketed l hl).unrendered
    exact ⟨fun heq => himported (heq ▸ haction), fun heq => hrefused (heq ▸ haction),
      fun heq => hunimported (heq ▸ haction)⟩
  · obtain ⟨outcome, a, s', spent, -, hplain, hcases⟩ :=
      w.step_allocate hk width height fourcc requested
    have hnext := (h.step_inv hk (.allocate width height fourcc requested)).tally_eq
    rw [hplain]
    rcases hcases with ⟨image, rfl, hstep, rfl⟩ | ⟨hempty, rfl, hstep⟩
    · rw [hstep]
      exact ⟨rfl, rfl, fun hnone => absurd hnone (List.cons_ne_nil image [])⟩
    · rw [hstep] at hnext ⊢
      refine ⟨rfl, by rw [hempty, List.append_nil], fun _ => ?_⟩
      rw [hnext, h.tally_eq]
  · obtain ⟨a, s', -, hplain, hstep⟩ := h.step_deallocate hk himage
    rw [hplain, hstep]
    exact ⟨rfl, rfl⟩

/-- A host whose renderer refuses the second image and whose display refuses the third. -/
def pickyHost : Host Nat :=
  { createExplicit := fun _ _ _ _ n => (.done (Image.numbered n).buffer, n)
    createImplicit := fun _ _ _ _ n => (.failed { message := "no layout" }, n)
    exportBuffer := fun _ n => (.ok (Image.numbered n).dmabuf, n)
    freeBuffer := fun _ n => n
    nextImageId := fun n => (⟨n⟩, n + 1)
    hooks := some {
      create := fun image n =>
        if image.id.number = 1 then (.error { message := "no import" }, n) else (.ok image, n)
      destroy := fun image n => (image, n) }
    attach := fun image n => if image.id.number = 2 then (.error .disconnected, n) else (.ok image, n)
    detach := fun image n => (image, n) }

/-- Four images are asked for, two of them in vain, and the first one is given back. -/
def refusals : List Call :=
  List.replicate 4 (.allocate 64 64 .xrgb8888 [.linear]) ++ [.deallocate (.numbered 0)]

theorem refusals_are_undone :
    pickyHost.KeepsBuffers ∧
    BufferLife.ofLog ((start 0).run pickyHost refusals).log
      = [⟨(Image.numbered 3).buffer, [.created, .imported, .attached]⟩,
        ⟨(Image.numbered 2).buffer, [.created, .imported, .attachRefused, .unimported, .freed]⟩,
        ⟨(Image.numbered 1).buffer, [.created, .importRefused, .freed]⟩,
        ⟨(Image.numbered 0).buffer,
          [.created, .imported, .attached, .detached, .unimported, .freed]⟩] ∧
    ((start 0).run pickyHost refusals).tally = ⟨1, 1, 1, 1⟩ := by
  have hk : pickyHost.KeepsBuffers := by
    refine ⟨?_, ?_, ?_, fun _ _ => rfl⟩
    · rintro hooks ⟨⟩ image s image' hok
      simp only at hok
      split at hok
      · exact absurd hok (by simp)
      · rw [Except.ok.inj hok]
    · rintro hooks ⟨⟩ image s
      rfl
    · intro image s image' hok
      simp only [pickyHost] at hok
      split at hok
      · exact absurd hok (by simp)
      · rw [Except.ok.inj hok]
  have hhand : ((start 0).run pickyHost refusals).hand.length = 1 := by decide +kernel
  obtain ⟨-, -, -, htally, -⟩ := every_buffer_is_undone hk 0 refusals
  refine ⟨hk, by decide +kernel, ?_⟩
  rw [htally, hhand]
  rfl

end Course

end Allocator

end Scanout
