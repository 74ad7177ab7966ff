import Mathlib.Data.List.Induction
import Scanout.Proofs.LastWord
import Scanout.Proofs.Wayland.Holdings
import Scanout.Proofs.Wayland.RoundTrips

/-!
# The versions of objects

A global is bound in the version announced, up to the highest that the display speaks, and every
object made through another is of the version of that one. A request that came in with a later
version must not be made on it. Of the requests a display makes, two came late: telling the damage
in buffer coordinates, which it only does where it may, and making a buffer at once, which it does
whenever an image is imported.

`respected_iff_modest` says what follows: all requests are made on objects recent enough if and
only if no image is imported while the global for it is announced in its first version.
-/

namespace Scanout.Wayland

/-! ## Objects -/

/-- What requests are made on. Callbacks take none. -/
inductive Object where
  | display
  | registry
  | global (interface : Interface) (number : Nat)
  | surface (number : Nat)
  | xdgSurface (number : Nat)
  | toplevel (number : Nat)
  | params (number : Nat)
  | buffer (number : Nat)
  deriving DecidableEq, Repr

def Object.name : Object → String
  | display => "display0"
  | registry => "registry0"
  | global i n => s!"{i.objectKind}{n}"
  | surface n => s!"surface{n}"
  | xdgSurface n => s!"xdg_surface{n}"
  | toplevel n => s!"toplevel{n}"
  | params n => s!"params{n}"
  | buffer n => s!"buffer{n}"

/-- The objects that are made for a buffer. -/
def Object.ofBuffer : Object → Bool
  | params _ | buffer _ => true
  | _ => false

namespace Request

/-- The object a request is made on. -/
def target : Request → Object
  | getRegistry | sync => .display
  | bind .. => .registry
  | createSurface compositor _ => .global .compositor compositor
  | getXdgSurface wmBase _ _ | pong wmBase _ => .global .wmBase wmBase
  | createParams dmabuf _ => .global .dmabuf dmabuf
  | attach s _ | damageBuffer s | frame s _ | commit s | destroySurface s => .surface s
  | getToplevel x _ | ackConfigure x _ | destroyXdgSurface x => .xdgSurface x
  | setTitle t _ | setAppId t _ | destroyToplevel t => .toplevel t
  | addPlane p .. | createImmed p .. | destroyParams p => .params p
  | destroyBuffer b => .buffer b

theorem object_eq (r : Request) : r.object = r.target.name := by
  cases r <;> rfl

/-- The object a request makes. -/
def made? : Request → Option Object
  | getRegistry => some .registry
  | bind i _ _ n => some (.global i n)
  | createSurface _ s => some (.surface s)
  | getXdgSurface _ x _ => some (.xdgSurface x)
  | getToplevel _ t => some (.toplevel t)
  | createParams _ p => some (.params p)
  | createImmed _ b .. => some (.buffer b)
  | _ => none

/-- The version that a request asks for. Only binding does. -/
def asks? : Request → Option UInt32
  | bind _ _ version _ => some version
  | _ => none

/-- The version of its interface that brought a request in. -/
def since : Request → UInt32
  | damageBuffer _ => 4
  | createImmed .. => 2
  | _ => 1

theorem one_le_since (r : Request) : 1 ≤ r.since := by
  unfold since
  split <;> decide

/-- An object answers a ping, and the image that is given up names its buffer. -/
def replies : Request → Bool
  | pong .. | destroyBuffer _ => true
  | _ => false

end Request

/-- The versions of the objects there are. -/
abbrev Versions : Type := Object → Option UInt32

namespace Versions

/-- The display is there from the beginning, and its registry is made first of all. -/
def first : Versions
  | .display | .registry => some 1
  | _ => none

theorem first_eq {o : Object} {version : UInt32} (h : first o = some version) : version = 1 := by
  unfold first at h
  split at h <;> simp_all

/-- A new object is of the version asked for, or else of that of the object it was made through. -/
def after (known : Versions) (r : Request) : Versions :=
  match r.made? with
  | none => known
  | some o => Function.update known o (r.asks?.or (known r.target))

end Versions

/-- The versions of the objects that were made so far. -/
def versions (log : List Entry) : Versions :=
  (requests log).foldl Versions.after .first

/-- An object, if it is there, is of a version that has the request. -/
def Allows (version? : Option UInt32) (r : Request) : Prop :=
  ∀ version ∈ version?, r.since ≤ version

-- Named, as `UInt32` may also be a `Fintype`, and all its values be tried.
instance : DecidableRel Allows := fun version? r =>
  show Decidable (∀ version ∈ version?, r.since ≤ version) from Option.decidableForallMem version?

/-- An object is there, unless somebody else named it. -/
def Addresses (version? : Option UInt32) (r : Request) : Prop :=
  r.replies = true ∨ version?.isSome = true

/-- Each request is as the version that its object has at the time wants it. -/
def Throughout (P : Option UInt32 → Request → Prop) (known : Versions) : List Request → Prop
  | [] => True
  | r :: rest => P (known r.target) r ∧ Throughout P (known.after r) rest

instance Throughout.decidable {P : Option UInt32 → Request → Prop} [DecidableRel P]
    (known : Versions) : (sent : List Request) → Decidable (Throughout P known sent)
  | [] => inferInstanceAs (Decidable True)
  | r :: rest =>
    have := Throughout.decidable (P := P) (known.after r) rest
    inferInstanceAs (Decidable (P (known r.target) r ∧ Throughout P (known.after r) rest))

/-- No request is made on an object that is too old for it. -/
def Respected (log : List Entry) : Prop :=
  Throughout Allows .first (requests log)

instance : DecidablePred Respected := fun log =>
  Throughout.decidable .first (requests log)

/-- Every request is made on an object that was made before. -/
def Addressed (log : List Entry) : Prop :=
  Throughout Addresses .first (requests log)

section

variable {P : Option UInt32 → Request → Prop} {known : Versions} {log news : List Entry}

theorem throughout_append (sent more : List Request) :
    Throughout P known (sent ++ more) ↔
      Throughout P known sent ∧ Throughout P (sent.foldl Versions.after known) more := by
  induction sent generalizing known with
  | nil => exact (and_iff_right trivial).symm
  | cons r rest ih => simp only [List.cons_append, Throughout, List.foldl_cons, ih, and_assoc]

theorem throughout_log (log news : List Entry) :
    Throughout P .first (requests (log ++ news)) ↔
      Throughout P .first (requests log) ∧ Throughout P (versions log) (requests news) := by
  rw [requests_append, throughout_append]
  rfl

theorem versions_append (log news : List Entry) :
    versions (log ++ news) = (requests news).foldl Versions.after (versions log) := by
  rw [versions, requests_append, List.foldl_append]
  rfl

theorem Versions.after_self {r : Request} {o : Object} (h : r.made? = some o) :
    known.after r o = r.asks?.or (known r.target) := by
  simp only [after, h, Function.update_self]

theorem Versions.after_other {r : Request} {o : Object} (h : r.made? ≠ some o) :
    known.after r o = known o := by
  cases hmade : r.made? with
  | none => simp only [after, hmade]
  | some other =>
    have hne : o ≠ other := fun heq => h (heq ▸ hmade)
    simp only [after, hmade, Function.update_of_ne hne]

theorem foldl_after_other {sent : List Request} {o : Object} (h : ∀ r ∈ sent, r.made? ≠ some o) :
    sent.foldl Versions.after known o = known o := by
  induction sent generalizing known with
  | nil => rfl
  | cons r rest ih =>
    rw [List.foldl_cons, ih fun r hr => h r (List.mem_cons_of_mem _ hr),
      Versions.after_other (h r List.mem_cons_self)]

/-- The objects that are not made anew keep their versions. -/
theorem throughout_of_made {sent : List Request}
    (h : ∀ r ∈ sent, ∀ other ∈ sent, r.made? ≠ some other.target) :
    Throughout P known sent ↔ ∀ r ∈ sent, P (known r.target) r := by
  induction sent generalizing known with
  | nil => exact iff_of_true trivial fun _ hr => absurd hr List.not_mem_nil
  | cons r rest ih =>
    rw [Throughout, List.forall_mem_cons, ih fun r hr other hother =>
      h r (List.mem_cons_of_mem _ hr) other (List.mem_cons_of_mem _ hother)]
    refine and_congr_right fun _ => forall₂_congr fun other hother => ?_
    rw [Versions.after_other (h r List.mem_cons_self other (List.mem_cons_of_mem _ hother))]

/-- What was made by requests that their objects have is of the first version at least. -/
theorem Respected.one_le (h : Respected log) {o : Object} (hmade : ∀ i n, o ≠ .global i n)
    {version : UInt32} (hversion : versions log o = some version) : 1 ≤ version := by
  have hsent : ∀ sent : List Request, Throughout Allows .first sent →
      ∀ version, sent.foldl Versions.after .first o = some version → 1 ≤ version := by
    intro sent
    induction sent using List.reverseRecOn with
    | nil =>
      intro _ version hfirst
      exact UInt32.le_of_eq (Versions.first_eq hfirst).symm
    | append_singleton sent r ih =>
      intro hall version hlast
      obtain ⟨hbefore, hallows, -⟩ := (throughout_append sent [r]).mp hall
      rw [List.foldl_append, List.foldl_cons, List.foldl_nil] at hlast
      by_cases hself : r.made? = some o
      · -- it was made now, and not by binding a global
        have hinherits : r.asks? = none := by
          cases r with
          | bind i global version number =>
            exact absurd (Option.some.inj hself).symm (hmade i number)
          | _ => rfl
        rw [Versions.after_self hself, hinherits, Option.none_or] at hlast
        exact UInt32.le_trans r.one_le_since (hallows version hlast)
      · rw [Versions.after_other hself] at hlast
        exact ih hbefore version hlast
  exact hsent (requests log) h version hversion

end

/-! ## What a display knows of the versions -/

/-- The version a global is announced in. -/
def Entry.announces (i : Interface) : Entry → Option UInt32
  | .heard e => e.announced?.bind fun (other, version) => if other = i then some version else none
  | .sent _ => none

/-- The version a global was announced in last. -/
def announced (i : Interface) (log : List Entry) : Option UInt32 :=
  lastSaid (Entry.announces i) log

/-- The objects of a window are of the versions the display takes them for. -/
structure Window.Known (known : Versions) (w : Window) : Prop where
  surface : known (.surface w.object) = some w.version
  xdgSurface : known (.xdgSurface w.object) = some 1
  toplevel : known (.toplevel w.object) = some 1

/-- What a display holds is of the versions that its connection tells of. -/
structure Tied (log : List Entry) (h : Holdings) : Prop where
  registry : versions log .registry = some 1
  announced : ∀ i, (h.bound i).map (·.version) = (announced i log).map i.boundVersion
  globals : ∀ {i b}, h.bound i = some b → versions log (.global i b.object) = some b.version
  shell : ∀ {n version}, versions log (.global .wmBase n) = some version → version = 1
  windows : ∀ w ∈ h.windows, w.Known (versions log)

namespace Window

variable {w : Window} {r : Request}

/-- Damage is told only in a window that is recent enough. -/
theorem mem_shows {buffer callback : Nat} (hr : r ∈ w.shows buffer callback) :
    r.target = .surface w.object ∧ r.made? = none ∧ (1 ≤ w.version → r.since ≤ w.version) := by
  simp only [shows, List.cons_append, List.mem_cons, List.mem_append, List.not_mem_nil,
    or_false] at hr
  rcases hr with rfl | hr | rfl | rfl
  · exact ⟨rfl, rfl, id⟩
  · split at hr
    · next hrecent =>
      obtain rfl := List.mem_singleton.mp hr
      exact ⟨rfl, rfl, fun _ => hrecent⟩
    · exact absurd hr List.not_mem_nil
  · exact ⟨rfl, rfl, id⟩
  · exact ⟨rfl, rfl, id⟩

theorem mem_closes (hr : r ∈ w.closes) :
    r.made? = none ∧ r.since = 1 ∧ (r.target = .toplevel w.object ∨
      r.target = .xdgSurface w.object ∨ r.target = .surface w.object) := by
  simp only [closes, List.mem_cons, List.not_mem_nil, or_false] at hr
  rcases hr with rfl | rfl | rfl
  · exact ⟨rfl, rfl, .inl rfl⟩
  · exact ⟨rfl, rfl, .inr (.inl rfl)⟩
  · exact ⟨rfl, rfl, .inr (.inr rfl)⟩

end Window

section

variable {log news : List Entry} {h h' : Holdings}

theorem Tied.start : Tied [] {} where
  registry := rfl
  announced := fun _ => rfl
  globals := fun hb => absurd hb (by simp)
  shell := fun hversion => absurd hversion (by simp [versions, Versions.first])
  windows := fun _ hw => absurd hw List.not_mem_nil

/-- A window is known as long as nothing with its number is made. -/
theorem Window.Known.of_eq {known known' : Versions} {w : Window} (hw : w.Known known)
    (hsurface : known' (.surface w.object) = known (.surface w.object))
    (hxdgSurface : known' (.xdgSurface w.object) = known (.xdgSurface w.object))
    (htoplevel : known' (.toplevel w.object) = known (.toplevel w.object)) : w.Known known' :=
  ⟨hsurface.trans hw.surface, hxdgSurface.trans hw.xdgSurface, htoplevel.trans hw.toplevel⟩

/-- At most windows go, and at most a buffer is made. -/
theorem Tied.still (ht : Tied log h)
    (hmade : ∀ r ∈ requests news, ∀ o ∈ r.made?, o.ofBuffer = true)
    (hsilent : ∀ i, ∀ e ∈ news, e.announces i = none) (hbound : h'.bound = h.bound)
    (hwindows : h'.windows ⊆ h.windows) : Tied (log ++ news) h' := by
  have hsame : ∀ {o : Object}, o.ofBuffer = false → versions (log ++ news) o = versions log o := by
    intro o ho
    rw [versions_append]
    exact foldl_after_other fun r hr heq => absurd (hmade r hr o heq) (by simp [ho])
  refine ⟨?_, fun i => ?_, fun {i b} hb => ?_, fun {n version} hn => ?_, fun w hw => ?_⟩
  · rw [hsame rfl]
    exact ht.registry
  · rw [hbound, Wayland.announced, lastSaid_of_silent (hsilent i)]
    exact ht.announced i
  · rw [hbound] at hb
    rw [hsame rfl]
    exact ht.globals hb
  · rw [hsame rfl] at hn
    exact ht.shell hn
  · exact (ht.windows w (hwindows hw)).of_eq (hsame rfl) (hsame rfl) (hsame rfl)

theorem announces_sent (sent : List Request) (i : Interface) :
    ∀ e ∈ sent.map Entry.sent, e.announces i = none := by
  intro e he
  obtain ⟨_, -, rfl⟩ := List.mem_map.mp he
  rfl

/-- A global is bound in a version that goes with the one announced. -/
theorem Tied.bound (ht : Tied log h) (i : Interface) (name version : UInt32) :
    Tied (log ++ [.heard (.global name i.name version),
        .sent (.bind i name (i.boundVersion version) (h.free i))])
      (h.bind i ⟨h.free i, i.boundVersion version⟩) := by
  let made : Request := .bind i name (i.boundVersion version) (h.free i)
  have hnow : versions (log ++ [.heard (.global name i.name version), .sent made])
      = (versions log).after made := versions_append _ _
  have hother : ∀ {o}, o ≠ .global i (h.free i) → (versions log).after made o = versions log o :=
    fun hne => Versions.after_other fun heq => hne (Option.some.inj heq).symm
  have hself : (versions log).after made (.global i (h.free i)) = some (i.boundVersion version) :=
    Versions.after_self rfl
  refine ⟨?_, fun j => ?_, fun {j b} hb => ?_, fun {n other} hn => ?_, fun w hw => ?_⟩
  · rw [hnow, hother (by simp)]
    exact ht.registry
  · have hsaid : (Entry.heard (.global name i.name version)).announces j
        = if i = j then some version else none := by
      simp [Entry.announces, Event.announced?, Interface.ofName?_name]
    have hsilent : (Entry.sent made).announces j = none := rfl
    rw [Wayland.announced, List.append_cons, lastSaid_add, hsilent, Option.none_or, lastSaid_add,
      hsaid]
    by_cases hij : j = i
    · rw [hij, if_pos rfl, Option.some_or, h.bind_self]
      rfl
    · rw [if_neg (Ne.symm hij), Option.none_or, h.bind_of_ne hij]
      exact ht.announced j
  · rw [hnow]
    by_cases hij : j = i
    · subst hij
      obtain rfl : ⟨h.free j, j.boundVersion version⟩ = b := by simpa using hb
      exact hself
    · rw [hother (by simp [hij])]
      rw [h.bind_of_ne hij] at hb
      exact ht.globals hb
  · rw [hnow] at hn
    by_cases heq : Object.global .wmBase n = .global i (h.free i)
    · -- of the shell only the first version is bound
      obtain ⟨rfl, -⟩ : Interface.wmBase = i ∧ n = h.free i := by simpa using heq
      rw [heq, hself] at hn
      exact (Option.some.inj hn).symm
    · rw [hother heq] at hn
      exact ht.shell hn
  · rw [hnow]
    exact (ht.windows w hw).of_eq (hother (by simp)) (hother (by simp)) (hother (by simp))

theorem Tied.upkeep (hupkeep : Holdings.Upkeep h news h') {log : List Entry} (ht : Tied log h) :
    Tied (log ++ news) h' := by
  induction hupkeep generalizing log with
  | nothing => rwa [List.append_nil]
  | also _ _ first rest =>
    rw [← List.append_assoc]
    exact rest (first ht)
  | @heard h e strange =>
    refine ht.still (by simp) (fun i e he => ?_) rfl (List.Subset.refl _)
    obtain rfl := List.mem_singleton.mp he
    simp [Entry.announces, strange]
  | bound i name version => exact ht.bound i name version
  | answered | acknowledged =>
    exact ht.still (by simp [Request.made?]) (by simp [Entry.announces]) rfl (List.Subset.refl _)
  | shown =>
    refine ht.still (fun r hr => ?_) (announces_sent _) rfl (List.Subset.refl _)
    rw [requests_sent] at hr
    simp [(Window.mem_shows hr).2.1]
  | @closed h before after w split =>
    refine ht.still (fun r hr => ?_) (announces_sent _) rfl (fun other hother => ?_)
    · rw [requests_sent] at hr
      simp [(Window.mem_closes hr).1]
    rw [split]
    rcases List.mem_append.mp hother with hother | hother
    · exact List.mem_append_left _ hother
    · exact List.mem_append_right _ (List.mem_cons_of_mem _ hother)

/-- Upkeep is made on objects that are there. -/
theorem Tied.upkeep_addressed (hupkeep : Holdings.Upkeep h news h') {log : List Entry}
    (ht : Tied log h) : Throughout Addresses (versions log) (requests news) := by
  induction hupkeep generalizing log with
  | nothing | heard => trivial
  | also first _ ih ihrest =>
    rw [requests_append, throughout_append, ← versions_append]
    exact ⟨ih ht, ihrest (ht.upkeep first)⟩
  | bound => exact ⟨.inr (by simp [Request.target, ht.registry]), trivial⟩
  | answered => exact ⟨.inl rfl, trivial⟩
  | acknowledged there =>
    exact ⟨.inr (by simp [Request.target, (ht.windows _ there).xdgSurface]), trivial⟩
  | shown there =>
    rw [requests_sent, throughout_of_made fun r hr _ _ => by simp [(Window.mem_shows hr).2.1]]
    intro r hr
    exact .inr (by simp [(Window.mem_shows hr).1, (ht.windows _ there).surface])
  | @closed h before after w split =>
    rw [requests_sent, throughout_of_made fun r hr _ _ => by simp [(Window.mem_closes hr).1]]
    intro r hr
    have hw := ht.windows w (by simp [split])
    obtain ⟨-, -, htarget | htarget | htarget⟩ := Window.mem_closes hr
    · exact .inr (by simp [htarget, hw.toplevel])
    · exact .inr (by simp [htarget, hw.xdgSurface])
    · exact .inr (by simp [htarget, hw.surface])

/-- Upkeep asks nothing of an object that is too old for it, if all objects are recent enough to
have been made. -/
theorem Tied.upkeep_respected (hupkeep : Holdings.Upkeep h news h') {log : List Entry}
    (ht : Tied log h) (hr : Respected log) : Respected (log ++ news) := by
  rw [Respected, throughout_log]
  refine ⟨hr, ?_⟩
  induction hupkeep generalizing log with
  | nothing | heard => trivial
  | also first _ ih ihrest =>
    rw [requests_append, throughout_append, ← versions_append]
    have hfirst := ih ht hr
    exact ⟨hfirst, ihrest (ht.upkeep first) ((throughout_log _ _).mpr ⟨hr, hfirst⟩)⟩
  | bound =>
    refine ⟨fun version hversion => ?_, trivial⟩
    obtain rfl : 1 = version := by simpa [Request.target, ht.registry] using hversion
    exact UInt32.le_refl 1
  | answered =>
    refine ⟨fun version hversion => ?_, trivial⟩
    obtain rfl := ht.shell hversion
    exact UInt32.le_refl 1
  | acknowledged =>
    exact ⟨fun version hversion => hr.one_le (by simp [Request.target]) hversion, trivial⟩
  | @shown h w there buffer callback =>
    rw [requests_sent, throughout_of_made fun r hr _ _ => by simp [(Window.mem_shows hr).2.1]]
    intro r hshows version hversion
    obtain ⟨htarget, -, hsince⟩ := Window.mem_shows hshows
    obtain rfl : w.version = version := by
      simpa [htarget, (ht.windows w there).surface] using hversion
    exact hsince (hr.one_le (by simp) (htarget ▸ hversion))
  | closed =>
    rw [requests_sent, throughout_of_made fun r hr _ _ => by simp [(Window.mem_closes hr).1]]
    intro r hcloses version hversion
    obtain ⟨-, hsince, htarget⟩ := Window.mem_closes hcloses
    rw [hsince]
    refine hr.one_le (fun i n heq => ?_) hversion
    rcases htarget with htarget | htarget | htarget <;> exact absurd (htarget ▸ heq) (by simp)

/-! ### New windows -/

/-- The objects of a new window come from the globals bound last. -/
theorem foldl_after_opens (known : Versions) (w : Window) (compositor wmBase : Nat)
    (title appId : String) :
    (w.opens compositor wmBase title appId).foldl Versions.after known
      = Function.update (Function.update (Function.update known
          (.surface w.object) (known (.global .compositor compositor)))
          (.xdgSurface w.object) (known (.global .wmBase wmBase)))
          (.toplevel w.object) (known (.global .wmBase wmBase)) := by
  simp [Window.opens, Versions.after, Request.made?, Request.asks?, Request.target]

section

variable {compositor wmBase : Bound} (hcompositor : h.bound .compositor = some compositor)
  (hwmBase : h.bound .wmBase = some wmBase) (title appId : String)

include hcompositor hwmBase

theorem Tied.versions_opens (ht : Tied log h) (w : Window) :
    versions (log ++ (w.opens compositor.object wmBase.object title appId).map .sent)
      = Function.update (Function.update (Function.update (versions log)
          (.surface w.object) (some compositor.version)) (.xdgSurface w.object) (some 1))
          (.toplevel w.object) (some 1) := by
  have hshell := ht.globals hwmBase
  rw [ht.shell hshell] at hshell
  rw [versions_append, requests_sent, foldl_after_opens, ht.globals hcompositor, hshell]

theorem Tied.opened (ht : Tied log h) (hn : h.Numbered) :
    Tied (log ++ (Window.opens ⟨h.windowsMade, compositor.version⟩ compositor.object wmBase.object
        title appId).map .sent)
      { h with
        windows := h.windows ++ [⟨h.windowsMade, compositor.version⟩]
        windowsMade := h.windowsMade + 1 } := by
  have hnow := ht.versions_opens hcompositor hwmBase title appId
    ⟨h.windowsMade, compositor.version⟩
  refine ⟨?_, fun i => ?_, fun {i b} hb => ?_, fun {n version} hwas => ?_, fun w hw => ?_⟩
  · simpa [hnow] using ht.registry
  · rw [Wayland.announced, lastSaid_of_silent (announces_sent _ i)]
    exact ht.announced i
  · simpa [hnow] using ht.globals hb
  · exact ht.shell (n := n) (by simpa [hnow] using hwas)
  · rcases List.mem_append.mp hw with hw | hw
    · have hne := Nat.ne_of_lt (hn.older w hw)
      refine (ht.windows w hw).of_eq ?_ ?_ ?_ <;> simp [hnow, hne]
    · rw [List.mem_singleton.mp hw]
      constructor <;> simp [hnow]

theorem Tied.opens_addressed (ht : Tied log h) (w : Window) :
    Throughout Addresses (versions log)
      (w.opens compositor.object wmBase.object title appId) := by
  simp [Window.opens, Throughout, Addresses, Versions.after, Request.made?, Request.asks?,
    Request.target, ht.globals hcompositor, ht.globals hwmBase]

/-- A window can be made of any global that can be bound at all. -/
theorem Tied.opens_allowed (ht : Tied log h) (w : Window) :
    Throughout Allows (versions log) (w.opens compositor.object wmBase.object title appId) ↔
      1 ≤ compositor.version := by
  have hshell := ht.globals hwmBase
  rw [ht.shell hshell] at hshell
  simp [Window.opens, Throughout, Allows, Versions.after, Request.made?, Request.asks?,
    Request.target, Request.since, ht.globals hcompositor, hshell]

end

/-! ### New buffers -/

/-- Everything that makes a buffer but the first request is made on its parameters. -/
theorem importRequests_parts (dmabuf n : Nat) (d : Dmabuf) :
    ∃ rest, Client.importRequests dmabuf n d = .createParams dmabuf n :: rest ∧
      (∀ r ∈ rest, r.target = .params n ∧ r.since ≤ 2 ∧ ∀ o ∈ r.made?, o = .buffer n) ∧
      ∃ r ∈ rest, r.since = 2 := by
  refine ⟨d.planes.map (fun p => .addPlane n p.file p.index p.offset p.stride d.modifier.split.1
      d.modifier.split.2) ++ [.createImmed n n d.width.toInt32 d.height.toInt32 d.fourcc.code
      (Client.bufferFlags d.flags), .destroyParams n], rfl, fun r hr => ?_, _,
    List.mem_append_right _ List.mem_cons_self, rfl⟩
  simp only [List.mem_append, List.mem_map, List.mem_cons, List.not_mem_nil, or_false] at hr
  rcases hr with ⟨p, -, rfl⟩ | rfl | rfl
  · exact ⟨rfl, by simp [Request.since], by simp [Request.made?]⟩
  · exact ⟨rfl, by simp [Request.since], by simp [Request.made?]⟩
  · exact ⟨rfl, by simp [Request.since], by simp [Request.made?]⟩

/-- The parameters are of the version of the global they were made with. -/
theorem throughout_imports {P : Option UInt32 → Request → Prop} {known : Versions}
    (dmabuf n : Nat) (d : Dmabuf) :
    Throughout P known (Client.importRequests dmabuf n d) ↔
      ∀ r ∈ Client.importRequests dmabuf n d, P (known (.global .dmabuf dmabuf)) r := by
  obtain ⟨rest, hparts, hrest, -⟩ := importRequests_parts dmabuf n d
  have hmade : ∀ r ∈ rest, ∀ other ∈ rest, r.made? ≠ some other.target := by
    intro r hr other hother heq
    rw [(hrest other hother).1] at heq
    exact absurd ((hrest r hr).2.2 _ heq) (by simp)
  rw [hparts, Throughout, List.forall_mem_cons, throughout_of_made hmade]
  refine and_congr_right fun _ => forall₂_congr fun r hr => ?_
  rw [(hrest r hr).1, Versions.after_self rfl]
  rfl

section

variable {dmabuf : Bound} (hdmabuf : h.bound .dmabuf = some dmabuf) (n : Nat) (d : Dmabuf)

theorem Tied.imported (ht : Tied log h) :
    Tied (log ++ (Client.importRequests dmabuf.object n d).map .sent)
      { h with buffersMade := h.buffersMade + 1 } := by
  refine ht.still (fun r hr o ho => ?_) (announces_sent _) rfl (List.Subset.refl _)
  obtain ⟨rest, hparts, hrest, -⟩ := importRequests_parts dmabuf.object n d
  rw [requests_sent, hparts] at hr
  rcases List.mem_cons.mp hr with rfl | hr
  · obtain rfl : .params n = o := by simpa [Request.made?] using ho
    rfl
  · rw [(hrest r hr).2.2 o ho]
    rfl

include hdmabuf

theorem Tied.imports_addressed (ht : Tied log h) :
    Throughout Addresses (versions log) (Client.importRequests dmabuf.object n d) := by
  rw [throughout_imports, ht.globals hdmabuf]
  exact fun _ _ => .inr rfl

/-- A buffer can be made of a global of the second version. -/
theorem Tied.imports_allowed (ht : Tied log h) :
    Throughout Allows (versions log) (Client.importRequests dmabuf.object n d) ↔
      2 ≤ dmabuf.version := by
  obtain ⟨rest, hparts, hrest, r, hr, hsecond⟩ := importRequests_parts dmabuf.object n d
  rw [throughout_imports, ht.globals hdmabuf]
  simp only [Allows, Option.mem_some_iff, forall_eq']
  refine ⟨fun hall => hsecond ▸ hall r (hparts ▸ List.mem_cons_of_mem _ hr),
    fun hversion r hr => ?_⟩
  rw [hparts] at hr
  refine UInt32.le_trans ?_ hversion
  rcases List.mem_cons.mp hr with rfl | hr
  · exact show (1 : UInt32) ≤ 2 by decide
  · exact (hrest r hr).2.1

end

/-- Whatever a display says fits what it holds, and is said to objects that are there. -/
theorem Tied.speaks (ht : Tied log h) (hn : h.Numbered) (hspeaks : h.Speaks news h') :
    Tied (log ++ news) h' ∧ Throughout Addresses (versions log) (requests news) := by
  cases hspeaks with
  | keeps upkeep => exact ⟨ht.upkeep upkeep, ht.upkeep_addressed upkeep⟩
  | opened surfaces shell title appId =>
    rw [requests_sent]
    exact ⟨ht.opened surfaces shell title appId hn, ht.opens_addressed surfaces shell title appId _⟩
  | imported buffers d =>
    rw [requests_sent]
    exact ⟨ht.imported _ d, ht.imports_addressed buffers _ d⟩
  | destroyed =>
    refine ⟨ht.still ?_ (by simp [Entry.announces]) rfl (List.Subset.refl _), .inl rfl, trivial⟩
    simp [Request.made?]

theorem Holdings.Transcript.tied (hlog : Holdings.Transcript log h) : Tied log h := by
  induction hlog with
  | start => exact .start
  | spoken before last ih => exact (ih.speaks before.numbered last).1

theorem Holdings.Transcript.addressed (hlog : Holdings.Transcript log h) : Addressed log := by
  induction hlog with
  | start => trivial
  | spoken before last ih =>
    exact (throughout_log _ _).mpr ⟨ih, (before.tied.speaks before.numbered last).2⟩

end

namespace Recorded

/-! ## What a program asks for -/

variable {w : Display.Course Recorded}

/-- A call that makes a buffer or an output through a global announced in a version that has no
request for it. -/
def Overreaches (w : Display.Course Recorded) : Display.Call Happening → Prop
  | .other (.attach image) => (w.client.client.attach image).1.isOk = true ∧
    ∃ version ∈ announced .dmabuf w.client.log, version < 2
  | .createOutput skipped => (w.client.client.createOutput ⟨w.next + skipped⟩).1.isOk = true ∧
    ∃ version ∈ announced .compositor w.client.log, version < 1
  | _ => False

/-- No call in the run overreaches. -/
def Modest (w : Display.Course Recorded) : List (Display.Call Happening) → Prop
  | [] => True
  | call :: rest => ¬ Overreaches w call ∧ Modest (w.step recording call) rest

theorem Overreaches.changes {call : Display.Call Happening} (h : Overreaches w call) :
    Changes call := by
  cases call with
  | createOutput => trivial
  | other happening =>
    cases happening with
    | attach => trivial
    | _ => exact h.elim
  | _ => exact h.elim

/-- A bound global is recent enough if the version announced is, up to what the display speaks. -/
theorem bound_recent {log : List Entry} {h : Holdings} (ht : Tied log h) {i : Interface} {b : Bound}
    (hb : h.bound i = some b) (hi : i ≠ .wmBase) {least : UInt32} (hleast : least ≤ i.spoken) :
    least ≤ b.version ↔ ¬ ∃ version ∈ announced i log, version < least := by
  obtain ⟨version, hsaid, hversion⟩ : ∃ version, announced i log = some version ∧
      i.boundVersion version = b.version := by
    have hannounced := ht.announced i
    rw [hb, Option.map_some, eq_comm, Option.map_eq_some_iff] at hannounced
    exact hannounced
  have hmin : i.boundVersion version = min version i.spoken := by
    cases i with
    | wmBase => exact absurd rfl hi
    | _ => rfl
  rw [← hversion, hmin, hsaid]
  simp [Std.le_min_iff, hleast]

/-- Whether a call keeps to the versions depends on its modesty alone. -/
theorem step_respected (ht : Tied w.client.log (held w)) (hr : w.client.client.registry.Tidy)
    (hw : w.broken = false) (call : Display.Call Happening) :
    Respected (w.step recording call).client.log ↔
      Respected w.client.log ∧ ¬ Overreaches w call := by
  by_cases hcall : Changes call
  · unfold Display.Course.step
    rw [if_neg (by simp [hw])]
    cases call with
    | createOutput skipped =>
      show Respected (w.client.log ++ (w.client.client.createOutput _).2.1.map .sent) ↔ _
      simp only [Overreaches]
      rcases Client.createOutput_speaks (c := w.client.client) ⟨w.next + skipped⟩ with
        ⟨hrefused, hsame⟩ |
        ⟨hmade, compositor, wmBase, title, appId, hcompositor, hwmBase, hsent, -⟩
      · simp [hrefused, hsame]
      · rw [hsent, Respected, throughout_log, requests_sent, ht.opens_allowed hcompositor hwmBase,
          bound_recent ht hcompositor (by decide) (by decide)]
        simp only [hmade, true_and]
        rfl
    | other happening =>
      cases happening with
      | attach image =>
        show Respected (w.client.log ++ (w.client.client.attach image).2.1.map .sent) ↔ _
        simp only [Overreaches]
        rcases w.client.client.attach_refused_or_made image with
          ⟨e, hattach⟩ | ⟨dmabuf, hbound, hattach⟩
        · simp [hattach, Except.isOk, Except.toBool]
        · have hdmabuf : (held w).bound .dmabuf = some dmabuf := hbound
          rw [hattach, Respected, throughout_log, requests_sent, ht.imports_allowed hdmabuf,
            bound_recent ht hdmabuf (by decide) (by decide)]
          simp only [Except.isOk, Except.toBool, true_and]
          rfl
      | detach image =>
        show Respected (w.client.log ++ (w.client.client.detach image).2.1.map .sent) ↔ _
        rw [and_iff_left (show ¬ Overreaches w (.other (.detach image)) from id)]
        rcases Client.detach_cases w.client.client image with ⟨-, hdetach⟩ | ⟨buffer, -, hdetach⟩
        · simp [hdetach]
        · rw [hdetach, Respected, throughout_log, requests_sent]
          refine and_iff_left_of_imp fun hlog => ⟨fun version hversion => ?_, trivial⟩
          exact Respected.one_le hlog (by simp [Request.target]) hversion
      | event e => exact absurd hcall id
    | _ => exact absurd hcall id
  · obtain ⟨news, hlog, hupkeep⟩ := step_upkeep hr hw hcall
    rw [hlog]
    exact ⟨fun hall => ⟨((throughout_log _ _).mp hall).1, fun hover => hcall hover.changes⟩,
      fun hall => ht.upkeep_respected hupkeep hall.1⟩

theorem run_respected (h : Holdings.Transcript w.client.log (held w)) (hinv : w.Inv recording)
    (hw : w.broken = false) (calls : List (Display.Call Happening)) :
    Respected (w.run recording calls).client.log ↔ Respected w.client.log ∧ Modest w calls := by
  induction calls generalizing w with
  | nil => exact (and_iff_left trivial).symm
  | cons call rest ih =>
    have hholds := step_holds hw call
    have hadvance := Display.Course.step_advance recording_lawful hinv.tidy call hholds
    obtain ⟨news, hlog, hspeaks⟩ := step_speaks hinv.tidy hw call
    have hrest := ih (hlog ▸ .spoken h hspeaks) (hinv.advance_inv hadvance) hholds
    rw [step_respected h.tied hinv.tidy hw call, and_assoc] at hrest
    exact hrest

end Recorded

/-- **Requests keep to the versions if and only if no old global is used to make something.**
Whatever versions the compositor announces, and whatever the program calls and the compositor
sends, in whatever order: every request is made on an object that was made before, and no request
is made on an object of a version that does not have it yet, if and only if no image is imported
while `zwp_linux_dmabuf_v1` is announced in a version below the second, and no output is made while
`wl_compositor` is announced in no version at all. Of `xdg_wm_base` any version will do. -/
theorem respected_iff_modest (appId : String) (mode : Mode)
    (calls : List (Display.Call Happening)) :
    Addressed ((Display.Course.start (⟨{ appId := appId, mode := mode }, []⟩ : Recorded)).run
      recording calls).client.log ∧
    (Respected ((Display.Course.start (⟨{ appId := appId, mode := mode }, []⟩ : Recorded)).run
        recording calls).client.log ↔
      Recorded.Modest (Display.Course.start ⟨{ appId := appId, mode := mode }, []⟩) calls) := by
  refine ⟨(Recorded.log_transcript appId mode calls).addressed, ?_⟩
  have hstart := Recorded.log_transcript appId mode []
  rw [Recorded.run_respected (w := .start ⟨{ appId := appId, mode := mode }, []⟩) hstart
    (Display.Course.start_inv rfl) rfl]
  exact and_iff_right trivial

/-- A compositor that announces `zwp_linux_dmabuf_v1` in its first version. -/
def oldCompositor : Opening :=
  { appId := standardAppId
    mode := .standard
    globals := [.global 1 "wl_compositor" 4, .global 2 "zwp_linux_dmabuf_v1" 1,
      .global 3 "xdg_wm_base" 1]
    answers := [.format Fourcc.xrgb8888.code] }

/-- What goes over the connection to it while the display is opened and an image imported. -/
def oldLog : List Entry :=
  ((Display.Course.start (⟨{ appId := standardAppId, mode := .standard }, []⟩ : Recorded)).run
    recording ((oldCompositor.globals ++ oldCompositor.answers).map (.other ∘ .event)
      ++ [.other (.attach (Image.numbered 0))])).client.log

/-- No global is missing, so the display is opened, and then a buffer is made of parameters that
do not have the request. -/
theorem old_compositor_is_accepted :
    oldCompositor.client.missing? = none ∧
    .sent (.bind .dmabuf 2 1 0) ∈ oldLog ∧
    .sent (.createImmed 0 0 64 64 Fourcc.xrgb8888.code ⟨false, false, false⟩) ∈ oldLog ∧
    versions oldLog (.params 0) = some 1 ∧ ¬ Respected oldLog := by
  decide +kernel

end Scanout.Wayland
