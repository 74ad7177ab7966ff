import Mathlib.Data.List.Induction
import Scanout.Proofs.Wayland.Newcomer
import Scanout.Proofs.Wayland.Recorded

/-!
# One callback for each frame in flight

That a frame of an output is in flight is written down three times: the scheduler is armed, the
toplevel keeps the callback that will end the frame, and the compositor owes an answer to the last
commit on the surface. The answer is routed by the output it was asked for and nobody compares it
with the callback that is kept, so all depends on the three agreeing (`Inv`). They do in every run,
whatever the compositor sends (`one_callback_per_frame`): an answer to a question that was not
asked, or was answered before, is nobody's.
-/

namespace Scanout.Wayland

namespace Entry

/-- The surface that is drawn on. -/
def drawn? : Entry → Option Nat
  | sent (.attach s _) | sent (.damageBuffer s) | sent (.frame s _) | sent (.commit s) => some s
  | _ => none

/-- The callback that is answered. -/
def answered? : Entry → Option Nat
  | heard (.done callback) => some callback
  | _ => none

/-- The callbacks a surface still waits for, after one more message. -/
def opens (surface : Nat) (waits : List Nat) : Entry → List Nat
  | sent (.frame s callback) => if s = surface then waits ++ [callback] else waits
  | heard (.done callback) => waits.filter (· ≠ callback)
  | _ => waits

end Entry

/-- The callbacks that were asked for on a surface and not answered since. -/
def openFrames (surface : Nat) (log : List Entry) : List Nat :=
  log.foldl (Entry.opens surface) []

/-- What was last drawn on a surface is a commit that asked for the callback. -/
def LastCommit (surface callback : Nat) (log : List Entry) : Prop :=
  ∃ earlier buffer damage later,
    log = earlier ++ .sent (.attach surface buffer) :: damage
      ++ [.sent (.frame surface callback), .sent (.commit surface)] ++ later ∧
    (∀ e ∈ damage, e = .sent (.damageBuffer surface)) ∧ ∀ e ∈ later, e.drawn? ≠ some surface

/-! ## Messages -/

section

variable {surface : Nat} {log news : List Entry}

/-- Messages that neither draw on a surface nor answer what it waits for. -/
theorem openFrames_append (hdrawn : ∀ e ∈ news, e.drawn? ≠ some surface)
    (hanswered : ∀ e ∈ news, ∀ callback ∈ openFrames surface log, e.answered? ≠ some callback) :
    openFrames surface (log ++ news) = openFrames surface log := by
  rw [openFrames, List.foldl_append]
  show news.foldl (Entry.opens surface) (openFrames surface log) = _
  induction news with
  | nil => rfl
  | cons e rest ih =>
    have hsame : e.opens surface (openFrames surface log) = openFrames surface log := by
      have hd := hdrawn e List.mem_cons_self
      have ha := hanswered e List.mem_cons_self
      unfold Entry.opens
      split
      · next s callback =>
        have hne : s ≠ surface := fun heq => hd (by simp [Entry.drawn?, heq])
        exact if_neg hne
      · next callback =>
        refine List.filter_eq_self.mpr fun other hother => ?_
        have hne : callback ≠ other := fun heq => ha other hother (by simp [Entry.answered?, heq])
        simpa using Ne.symm hne
      · rfl
    rw [List.foldl_cons, hsame]
    exact ih (fun e he => hdrawn e (List.mem_cons_of_mem _ he))
      fun e he => hanswered e (List.mem_cons_of_mem _ he)

theorem openFrames_done (callback : Nat) :
    openFrames surface (log ++ [.heard (.done callback)])
      = (openFrames surface log).filter (· ≠ callback) := by
  rw [openFrames, List.foldl_append]
  rfl

theorem openFrames_eq_nil (h : ∀ callback, .sent (.frame surface callback) ∉ log) :
    openFrames surface log = [] := by
  induction log using List.reverseRecOn with
  | nil => rfl
  | append_singleton log e ih =>
    have hlog := ih fun callback hmem => h callback (List.mem_append_left _ hmem)
    have he : ∀ callback, e ≠ .sent (.frame surface callback) :=
      fun callback heq => h callback (by simp [heq])
    rw [openFrames, List.foldl_append]
    show Entry.opens surface (openFrames surface log) e = []
    rw [hlog]
    unfold Entry.opens
    split
    · next s callback => exact if_neg fun heq => he callback (by rw [heq])
    · rfl
    · rfl

theorem LastCommit.append {callback : Nat} (h : LastCommit surface callback log)
    (hnews : ∀ e ∈ news, e.drawn? ≠ some surface) : LastCommit surface callback (log ++ news) := by
  obtain ⟨earlier, buffer, damage, later, rfl, hdamage, hlater⟩ := h
  refine ⟨earlier, buffer, damage, later ++ news, by simp only [List.append_assoc], hdamage, ?_⟩
  intro e he
  rcases List.mem_append.mp he with he | he
  · exact hlater e he
  · exact hnews e he

end

namespace Canvas

variable (c : Canvas) (buffer : Nat)

/-- A commit draws on the surface of its canvas. -/
theorem commitOf_drawn :
    ∀ e ∈ (c.commitOf buffer).map Entry.sent, e.drawn? = some c.toplevel.object := by
  intro e he
  obtain ⟨request, hrequest, rfl⟩ := List.mem_map.mp he
  obtain ⟨damage, hdamage, hcommit⟩ := c.commitOf_eq buffer
  simp only [hcommit, List.mem_append, List.mem_cons, List.not_mem_nil, or_false] at hrequest
  rcases hrequest with (rfl | hrequest) | rfl | rfl
  · rfl
  · rw [hdamage request hrequest]
    rfl
  · rfl
  · rfl

theorem commitOf_answered (e : Entry) (he : e ∈ (c.commitOf buffer).map Entry.sent) :
    e.answered? = none := by
  obtain ⟨request, -, rfl⟩ := List.mem_map.mp he
  rfl

theorem commitOf_lastCommit (log : List Entry) :
    LastCommit c.toplevel.object c.callbacks.next
      (log ++ (c.commitOf buffer).map Entry.sent) := by
  obtain ⟨damage, hdamage, hcommit⟩ := c.commitOf_eq buffer
  refine ⟨log, buffer, damage.map .sent, [], ?_, fun e he => ?_, by simp⟩
  · simp only [hcommit, List.map_append, List.map_cons, List.map_nil, List.append_nil,
      List.append_assoc, List.cons_append]
  · obtain ⟨request, hrequest, rfl⟩ := List.mem_map.mp he
    rw [hdamage request hrequest]

theorem openFrames_commitOf (log : List Entry) :
    openFrames c.toplevel.object (log ++ (c.commitOf buffer).map Entry.sent)
      = openFrames c.toplevel.object log ++ [c.callbacks.next] := by
  rw [openFrames, List.foldl_append, commitOf]
  split <;> simp [Entry.opens, openFrames]

end Canvas

/-! ## Keeping track of one output -/

/-- What is known of the callbacks of one output, in the display and from the messages. -/
structure Tracked (callbacks : Callbacks) (log : List Entry) (id : OutputId) (d : Toplevel) :
    Prop where
  open_eq : openFrames d.object log = d.frameCallback.toList
  waits : ∀ callback, (callback, id) ∈ callbacks.unanswered ↔ d.frameCallback = some callback
  committed : ∀ callback, d.frameCallback = some callback → LastCommit d.object callback log

namespace Tracked

variable {callbacks callbacks' : Callbacks} {log news : List Entry} {id : OutputId} {d : Toplevel}

/-- An output that was not heard of before waits for nothing. -/
theorem fresh (hasked : ∀ callback, .sent (.frame d.object callback) ∉ log)
    (hwaits : id ∉ callbacks.unanswered.map (·.2)) (hnone : d.frameCallback = none) :
    Tracked callbacks log id d where
  open_eq := by
    rw [openFrames_eq_nil hasked, hnone]
    rfl
  waits := by
    intro callback
    rw [hnone]
    exact iff_of_false (fun hwait => hwaits (List.mem_map_of_mem (f := (·.2)) hwait)) (by simp)
  committed := fun callback hcallback => absurd hcallback (by simp [hnone])

/-- Messages that do not concern the output, which waits for what it waited for. -/
theorem beside (h : Tracked callbacks log id d) (hdrawn : ∀ e ∈ news, e.drawn? ≠ some d.object)
    (hanswered : ∀ e ∈ news, ∀ callback, d.frameCallback = some callback →
      e.answered? ≠ some callback)
    (hwaits : ∀ callback, (callback, id) ∈ callbacks'.unanswered ↔
      (callback, id) ∈ callbacks.unanswered) : Tracked callbacks' (log ++ news) id d where
  open_eq := by
    rw [openFrames_append hdrawn, h.open_eq]
    intro e he callback hcallback
    rw [h.open_eq, Option.mem_toList] at hcallback
    exact hanswered e he callback hcallback
  waits := fun callback => (hwaits callback).trans (h.waits callback)
  committed := fun callback hcallback => (h.committed callback hcallback).append hdrawn

/-- What an output makes of its own information is no matter of its callbacks. -/
theorem of_info {d' : Toplevel} (h : Tracked callbacks log id d) (hobject : d'.object = d.object)
    (hcallback : d'.frameCallback = d.frameCallback) : Tracked callbacks log id d' := by
  refine ⟨?_, ?_, ?_⟩
  · rw [hobject, hcallback]
    exact h.open_eq
  · simpa only [hcallback] using h.waits
  · simpa only [hobject, hcallback] using h.committed

/-- The callback of the output was answered. -/
theorem answered {callback : Nat} (h : Tracked callbacks log id d)
    (hcallback : d.frameCallback = some callback) :
    Tracked (callbacks.answer callback) (log ++ [.heard (.done callback)]) id
      { d with frameCallback := none } where
  open_eq := by
    rw [openFrames_done, h.open_eq, hcallback]
    simp
  waits := by
    intro other
    have hother := h.waits other
    rw [hcallback, Option.some.injEq] at hother
    simp only [Callbacks.answer, List.mem_filter, hother, decide_eq_true_eq]
    exact iff_of_false (fun ⟨heq, hne⟩ => hne heq.symm) (by simp)
  committed := fun other hother => absurd hother (by simp)

/-- The callback of another output, or of none, was answered. -/
theorem unanswered {callback : Nat} (h : Tracked callbacks log id d)
    (hcallback : d.frameCallback ≠ some callback) :
    Tracked (callbacks.answer callback) (log ++ [.heard (.done callback)]) id d := by
  refine h.beside (by simp [Entry.drawn?]) ?_ fun other => ?_
  · simp only [List.mem_singleton, forall_eq, Entry.answered?, ne_eq, Option.some.injEq]
    rintro other hother rfl
    exact hcallback hother
  · simp only [Callbacks.answer, List.mem_filter, decide_eq_true_eq, and_iff_left_iff_imp]
    rintro hother rfl
    exact hcallback ((h.waits _).mp hother)

/-- A buffer is shown on the canvas of the output. -/
theorem showing {c : Canvas} (h : Tracked c.callbacks log c.id c.toplevel)
    (hnone : c.toplevel.frameCallback = none) (buffer : Nat) :
    Tracked (c.showing buffer).callbacks (log ++ (c.commitOf buffer).map .sent) c.id
      (c.showing buffer).toplevel where
  open_eq := by
    show openFrames c.toplevel.object _ = [c.callbacks.next]
    rw [c.openFrames_commitOf, h.open_eq, hnone]
    rfl
  waits := by
    intro callback
    have hold := h.waits callback
    rw [hnone] at hold
    simp only [Canvas.showing, List.mem_append, List.mem_singleton, hold, Prod.mk.injEq, and_true,
      reduceCtorEq, false_or, Option.some.injEq]
    exact eq_comm
  committed := by
    intro callback hcallback
    obtain rfl : c.callbacks.next = callback := by simpa [Canvas.showing] using hcallback
    exact c.commitOf_lastCommit buffer log

/-- A buffer is shown on the canvas of another output. -/
theorem besideShowing {c : Canvas} (h : Tracked c.callbacks log id d) (hid : id ≠ c.id)
    (hobject : d.object ≠ c.toplevel.object) (buffer : Nat) :
    Tracked (c.showing buffer).callbacks (log ++ (c.commitOf buffer).map .sent) id d := by
  refine h.beside (fun e he => ?_) (fun e he callback _ => ?_) fun callback => ?_
  · rw [c.commitOf_drawn buffer e he, ne_eq, Option.some.injEq]
    exact Ne.symm hobject
  · rw [c.commitOf_answered buffer e he]
    simp
  · simp [Canvas.showing, hid]

end Tracked

/-! ## Keeping track of all outputs -/

/-- Every callback is waited for at most once, and the next one is new. -/
structure Callbacks.Distinct (cs : Callbacks) : Prop where
  keys : (cs.unanswered.map (·.1)).Nodup
  fresh : ∀ wait ∈ cs.unanswered, wait.1 < cs.next

namespace Callbacks.Distinct

variable {cs : Callbacks} (h : cs.Distinct)

include h

theorem answer (callback : Nat) : (cs.answer callback).Distinct where
  keys := (List.filter_sublist.map _).nodup h.keys
  fresh := fun wait hwait => h.fresh wait (List.mem_of_mem_filter hwait)

theorem showing {c : Canvas} (hc : c.callbacks = cs) (buffer : Nat) :
    (c.showing buffer).callbacks.Distinct := by
  subst hc
  refine ⟨?_, fun wait hwait => ?_⟩
  · exact nodup_map_append_new h.keys fun wait hwait => Nat.ne_of_lt (h.fresh wait hwait)
  · rcases List.mem_append.mp hwait with hold | hnew
    · exact Nat.lt_succ_of_lt (h.fresh wait hold)
    · rw [List.mem_singleton.mp hnew]
      exact Nat.lt_succ_self _

theorem lookup_eq {callback : Nat} {id : OutputId} :
    cs.unanswered.lookup callback = some id ↔ (callback, id) ∈ cs.unanswered := by
  constructor
  · intro hlookup
    obtain ⟨front, back, heq, -⟩ := List.lookup_eq_some_iff.mp hlookup
    simp [heq]
  · intro hmem
    obtain ⟨front, back, heq⟩ := List.append_of_mem hmem
    refine List.lookup_eq_some_iff.mpr ⟨front, back, heq, fun wait hwait => ?_⟩
    have hkeys := h.keys
    rw [heq, List.map_append, List.map_cons] at hkeys
    have hne := (List.nodup_append.mp hkeys).2.2 wait.1 (List.mem_map_of_mem hwait) callback
      List.mem_cons_self
    simpa using Ne.symm hne

end Callbacks.Distinct

namespace Recorded

structure Inv (w : Recorded) : Prop where
  tracked : ∀ entry ∈ w.client.registry.outputs,
    Tracked w.client.callbacks w.log entry.1 entry.2.details
  armed : ∀ entry ∈ w.client.registry.outputs,
    entry.2.scheduler.armed = entry.2.details.frameCallback.isSome
  objects : (w.client.registry.outputs.map (·.2.details.object)).Nodup
  distinct : w.client.callbacks.Distinct
  numbered : ∀ surface callback, .sent (.frame surface callback) ∈ w.log →
    surface < w.client.created

theorem start_inv {c : Client} (houtputs : c.registry.outputs = [])
    (hwaits : c.callbacks.unanswered = []) : Inv { client := c } where
  tracked := by rw [houtputs]; exact fun _ h => absurd h List.not_mem_nil
  armed := by rw [houtputs]; exact fun _ h => absurd h List.not_mem_nil
  objects := by rw [houtputs]; exact List.nodup_nil
  distinct := by
    constructor
    · rw [hwaits]
      exact List.nodup_nil
    · rw [hwaits]
      exact fun _ h => absurd h List.not_mem_nil
  numbered := fun _ _ h => absurd h List.not_mem_nil

/-- Messages that neither draw nor answer. -/
def Calm (news : List Entry) : Prop :=
  ∀ e ∈ news, e.drawn? = none ∧ e.answered? = none

theorem calm_of_aloof {sent : List Request} (h : Aloof sent) : Calm (sent.map .sent) := by
  intro e he
  obtain ⟨request, hrequest, rfl⟩ := List.mem_map.mp he
  have haloof := h request hrequest
  cases request <;> first | exact ⟨rfl, rfl⟩ | exact absurd haloof (by simp [Request.aloof])

theorem Calm.not_frame {news : List Entry} (h : Calm news) (surface callback : Nat) :
    .sent (.frame surface callback) ∉ news :=
  fun hmem => absurd (h _ hmem).1 (by simp [Entry.drawn?])

theorem Calm.tracked {callbacks : Callbacks} {log news : List Entry} {id : OutputId} {d : Toplevel}
    (hcalm : Calm news) (h : Tracked callbacks log id d) : Tracked callbacks (log ++ news) id d := by
  refine h.beside (fun e hmem => ?_) (fun e hmem callback _ => ?_) fun _ => Iff.rfl
  · rw [(hcalm e hmem).1]
    simp
  · rw [(hcalm e hmem).2]
    simp

variable {w : Recorded} {next : Nat}

/-- At most outputs go. -/
theorem Inv.aside (h : w.Inv) {heard : List Entry} {sent : List Request} {c : Client}
    (houtputs : c.registry.outputs.Sublist w.client.registry.outputs)
    (hcallbacks : c.callbacks = w.client.callbacks) (hcreated : c.created = w.client.created)
    (hcalm : Calm (heard ++ sent.map .sent)) : (w.next heard sent c).Inv where
  tracked := by
    intro entry he
    rw [show (w.next heard sent c).client.callbacks = w.client.callbacks from hcallbacks]
    exact hcalm.tracked (h.tracked entry (houtputs.subset he))
  armed := fun entry he => h.armed entry (houtputs.subset he)
  objects := (houtputs.map _).nodup h.objects
  distinct := by
    rw [show (w.next heard sent c).client.callbacks = w.client.callbacks from hcallbacks]
    exact h.distinct
  numbered := by
    intro surface callback hmem
    rw [show (w.next heard sent c).client.created = w.client.created from hcreated]
    rcases List.mem_append.mp hmem with hmem | hmem
    · exact h.numbered surface callback hmem
    · exact absurd hmem (hcalm.not_frame surface callback)

/-- A new output waits for nothing, and nobody else has its objects. -/
theorem Inv.createOutput (h : w.Inv) (hsound : w.client.Sound next) {id : OutputId}
    (hnew : next ≤ id.number) :
    (w.next [] (w.client.createOutput id).2.1 (w.client.createOutput id).2.2).Inv := by
  unfold Client.createOutput
  split
  · exact h.aside (List.Sublist.refl _) rfl rfl (by simp [Calm])
  split
  · next compositor wmBase _ _ =>
    have hnews : ∀ e ∈ [Request.createSurface compositor.object w.client.created,
        .getXdgSurface wmBase.object w.client.created w.client.created,
        .getToplevel w.client.created w.client.created,
        .setTitle w.client.created (w.client.appId ++ " - " ++ s!"WL-{w.client.created + 1}"),
        .setAppId w.client.created w.client.appId, .commit w.client.created].map Entry.sent,
        (e.drawn? = none ∨ e.drawn? = some w.client.created) ∧ e.answered? = none ∧
          ∀ surface callback, e ≠ .sent (.frame surface callback) := by
      simp [Entry.drawn?, Entry.answered?]
    have hframes : ∀ surface callback, .sent (.frame surface callback) ∈ w.log ++ _ →
        surface < w.client.created := fun surface callback hmem =>
      (List.mem_append.mp hmem).elim (h.numbered surface callback)
        fun hmem => absurd rfl ((hnews _ hmem).2.2 surface callback)
    refine ⟨fun entry he => ?_, fun entry he => ?_, ?_, h.distinct, fun surface callback hmem =>
      Nat.lt_succ_of_lt (hframes surface callback hmem)⟩
    · rcases List.mem_append.mp he with he | he
      · refine (h.tracked entry he).beside (fun e hmem => ?_) (fun e hmem callback _ => ?_)
          fun _ => Iff.rfl
        · have hlt := hsound.objects entry he
          rcases (hnews e hmem).1 with hnone | hown
          · rw [hnone]
            simp
          · rw [hown, ne_eq, Option.some.injEq]
            omega
        · rw [(hnews e hmem).2.1]
          simp
      · rw [List.mem_singleton.mp he]
        refine .fresh (fun callback hmem => Nat.lt_irrefl _ (hframes _ callback hmem))
          (fun hwait => ?_) rfl
        have hlt := hsound.waits id hwait
        omega
    · rcases List.mem_append.mp he with he | he
      · exact h.armed entry he
      · rw [List.mem_singleton.mp he]
        rfl
    · exact nodup_map_append_new h.objects fun entry he => Nat.ne_of_lt (hsound.objects entry he)
  · exact h.aside (List.Sublist.refl _) rfl rfl (by simp [Calm])

/-- What a turn makes of the callbacks: those of the output are kept track of, and no others are
concerned. -/
theorem stroke_tracked {f f' : FrameScheduler} {t : FrameScheduler.Turn} {start used : Canvas}
    (heffect : f.Effect t f') (hused : Canvas.surface.Used t.asked start used)
    (hlives : t.call ≠ .destroy)
    (hstart : if t.call = .frameDone then start.toplevel.frameCallback = none
      else f.armed = start.toplevel.frameCallback.isSome)
    (hsent : start.sent = []) (hdistinct : start.callbacks.Distinct) {log : List Entry}
    (hself : Tracked start.callbacks log start.id start.toplevel) :
    used.callbacks.Distinct ∧ f'.armed = used.toplevel.frameCallback.isSome ∧
    (∀ surface callback, .sent (.frame surface callback) ∈ used.sent.map Entry.sent →
      surface = start.toplevel.object) ∧
    Tracked used.callbacks (log ++ used.sent.map .sent) start.id used.toplevel ∧
    ∀ id d, id ≠ start.id → d.object ≠ start.toplevel.object → Tracked start.callbacks log id d →
      Tracked used.callbacks (log ++ used.sent.map .sent) id d := by
  rcases Canvas.stroke_cases heffect hused hlives hstart with
    ⟨rfl, harmed⟩ | ⟨hnone, harmed, buffer, rfl⟩
  · rw [hsent, List.map_nil, List.append_nil]
    exact ⟨hdistinct, harmed, by simp, hself, fun _ _ _ _ h => h⟩
  · have hnews : (start.showing buffer).sent = start.commitOf buffer := by
      rw [Canvas.showing, hsent, List.nil_append]
    rw [hnews]
    refine ⟨hdistinct.showing rfl buffer, harmed, fun surface callback hmem => ?_,
      hself.showing hnone buffer, fun id d hne hapart h => h.besideShowing hne hapart buffer⟩
    exact Option.some.inj (start.commitOf_drawn buffer _ hmem)

/-- What an output's turn makes of the callbacks, once what was heard is reckoned with. -/
theorem Inv.drew (h : w.Inv) (hsound : w.client.Sound next) {id : OutputId} {o : Output Toplevel}
    {t : FrameScheduler.Turn} {start : Canvas} {heard : List Entry} {sent : List Request}
    {c : Client} (hdrew : w.client.Drew id o t start sent c) (hlives : t.call ≠ .destroy)
    (hstart : if t.call = .frameDone then start.toplevel.frameCallback = none
      else o.scheduler.armed = start.toplevel.frameCallback.isSome)
    (hid : start.id = id) (hobject : start.toplevel.object = o.details.object)
    (hsent : start.sent = []) (hdistinct : start.callbacks.Distinct)
    (hheard : ∀ surface callback, .sent (.frame surface callback) ∉ heard)
    (hself : Tracked start.callbacks (w.log ++ heard) id start.toplevel)
    (hothers : ∀ entry ∈ w.client.registry.outputs, entry.1 ≠ id →
      Tracked start.callbacks (w.log ++ heard) entry.1 entry.2.details) :
    (w.next heard sent c).Inv := by
  subst hid
  obtain ⟨used, hused, hturn, rfl, hc⟩ := hdrew
  obtain ⟨before, after, f, hat, heffect, houtputs⟩ := hturn.place
  have ho : (start.id, o) ∈ w.client.registry.outputs := by simp [hat.outputs_eq]
  have hcallbacks : c.callbacks = used.callbacks := by rw [hc]
  have hcreated : c.created = w.client.created := by rw [hc]
  have hkept : used.toplevel.object = o.details.object :=
    (Canvas.used_frame hused).2.1.trans hobject
  -- the other outputs have other objects
  have hapart : ∀ entry ∈ w.client.registry.outputs, entry.1 ≠ start.id →
      entry.2.details.object ≠ start.toplevel.object := by
    intro entry he hne heq
    exact hne (congrArg Prod.fst
      (List.inj_on_of_nodup_map h.objects he ho (heq.trans hobject)))
  obtain ⟨hdistinct', harmed, hframes, hself', hbeside⟩ :=
    stroke_tracked heffect hused hlives hstart hsent hdistinct hself
  rw [List.append_assoc] at hself' hbeside
  refine ⟨fun entry he => ?_, fun entry he => ?_, ?_, ?_, fun surface callback hmem => ?_⟩
  · rw [show (w.next heard used.sent c).client.callbacks = used.callbacks from hcallbacks]
    obtain ⟨other, o'⟩ := entry
    rcases hturn.mem_outputs he with ⟨rfl, hdetails, -⟩ | ⟨hne, hold⟩
    · rw [hdetails]
      exact hself'
    · exact hbeside _ _ hne (hapart _ hold hne) (hothers _ hold hne)
  · rw [show (w.next heard used.sent c).client.registry.outputs = _ from houtputs] at he
    rcases List.mem_append.mp he with he | he
    · exact h.armed entry (by simp [hat.outputs_eq, he])
    · rcases List.mem_cons.mp he with rfl | he
      · exact harmed
      · exact h.armed entry (by simp [hat.outputs_eq, he])
  · have hsame : c.registry.outputs.map (·.2.details.object)
        = w.client.registry.outputs.map (·.2.details.object) := by
      rw [houtputs, hat.outputs_eq]
      simp [hkept]
    exact hsame ▸ h.objects
  · exact hcallbacks ▸ hdistinct'
  · rw [show (w.next heard used.sent c).client.created = w.client.created from hcreated]
    rcases List.mem_append.mp hmem with hmem | hmem
    · exact h.numbered surface callback hmem
    · rcases List.mem_append.mp hmem with hmem | hmem
      · exact absurd hmem (hheard surface callback)
      · rw [hframes surface callback hmem, hobject]
        exact hsound.objects _ ho

/-! ## Calls and events -/

/-- Drawing on the canvas an output has. -/
theorem Inv.drew_canvas (h : w.Inv) (hsound : w.client.Sound next) {id : OutputId}
    {o : Output Toplevel} (ho : (id, o) ∈ w.client.registry.outputs) {t : FrameScheduler.Turn}
    (d : Toplevel) (hobject : d.object = o.details.object)
    (hcallback : d.frameCallback = o.details.frameCallback) {heard : List Entry}
    {sent : List Request} {c : Client}
    (hdrew : w.client.Drew id o t (w.client.canvas id d) sent c) (hlives : t.call ≠ .destroy)
    (hcall : t.call ≠ .frameDone) (hcalm : Calm heard) : (w.next heard sent c).Inv := by
  have hkeep : ∀ entry ∈ w.client.registry.outputs,
      Tracked w.client.callbacks (w.log ++ heard) entry.1 entry.2.details :=
    fun entry he => hcalm.tracked (h.tracked entry he)
  refine h.drew hsound hdrew hlives ?_ rfl hobject rfl h.distinct hcalm.not_frame
    ((hkeep _ ho).of_info hobject hcallback) fun entry he _ => hkeep entry he
  rw [if_neg hcall]
  exact (h.armed _ ho).trans (congrArg Option.isSome hcallback.symm)

theorem Inv.scheduleFrame (h : w.Inv) (hsound : w.client.Sound next) (id : OutputId)
    (image : Image) :
    (w.next [] (w.client.scheduleFrame id image).2.1 (w.client.scheduleFrame id image).2.2).Inv := by
  cases hget : w.client.registry.get? id with
  | none =>
    rw [Client.scheduleFrame_unknown hget]
    exact h.aside (List.Sublist.refl _) rfl rfl (by simp [Calm])
  | some o =>
    obtain ⟨t, hcall, hdrew⟩ :=
      Client.scheduleFrame_drew hsound.tidy.settled hsound.tidy.ids hget image
    exact h.drew_canvas hsound (Registry.mem_of_get? hget) _ rfl rfl hdrew (by simp [hcall])
      (by simp [hcall]) (by simp [Calm])

/-- The output that waits for a callback is the one that keeps it. -/
theorem Inv.lookup_iff (h : w.Inv) {id : OutputId} {o : Output Toplevel}
    (ho : (id, o) ∈ w.client.registry.outputs) (callback : Nat) :
    w.client.callbacks.unanswered.lookup callback = some id ↔
      o.details.frameCallback = some callback :=
  h.distinct.lookup_eq.trans ((h.tracked _ ho).waits callback)

/-- An answer no output waits for is nobody's. -/
theorem Inv.done_unheard (h : w.Inv) {callback : Nat}
    (hnone : ∀ entry ∈ w.client.registry.outputs,
      entry.2.details.frameCallback ≠ some callback) :
    ∃ callbacks, w.client.done callback = ([], { w.client with callbacks := callbacks }) ∧
      (w.next [.heard (.done callback)] [] { w.client with callbacks := callbacks }).Inv := by
  obtain ⟨callbacks, hdone, hcallbacks⟩ := Client.done_unheard (c := w.client) callback
    fun id hlookup => by
      by_contra hsome
      obtain ⟨o, hget⟩ := Option.ne_none_iff_exists'.mp hsome
      have ho := Registry.mem_of_get? hget
      exact hnone _ ho ((h.lookup_iff ho callback).mp hlookup)
  refine ⟨callbacks, hdone, fun entry he => ?_, h.armed, h.objects, ?_, fun surface other hmem => ?_⟩
  · rcases hcallbacks with ⟨rfl, -⟩ | rfl
    · refine (h.tracked entry he).beside (by simp [Entry.drawn?]) ?_ fun _ => Iff.rfl
      simp only [List.map_nil, List.append_nil, List.mem_singleton, forall_eq, Entry.answered?,
        ne_eq, Option.some.injEq]
      rintro other hother rfl
      exact hnone entry he hother
    · exact (h.tracked entry he).unanswered (hnone entry he)
  · rcases hcallbacks with ⟨rfl, -⟩ | rfl
    · exact h.distinct
    · exact h.distinct.answer callback
  · rcases List.mem_append.mp hmem with hmem | hmem
    · exact h.numbered surface other hmem
    · simp at hmem

/-- An answer an output waits for completes its frame. -/
theorem Inv.done_drew (h : w.Inv) (hsound : w.client.Sound next) {callback : Nat} {id : OutputId}
    {o : Output Toplevel} (ho : (id, o) ∈ w.client.registry.outputs)
    (hcallback : o.details.frameCallback = some callback) :
    (∃ t, t.call = .frameDone ∧
      w.client.Drew id o t (w.client.doneCanvas callback id o.details)
        (w.client.done callback).1 (w.client.done callback).2) ∧
    (w.next [.heard (.done callback)] (w.client.done callback).1
      (w.client.done callback).2).Inv := by
  have hlookup := (h.lookup_iff ho callback).mpr hcallback
  obtain ⟨t, hcall, hdrew⟩ := Client.done_drew hsound.tidy.settled hsound.tidy.ids hlookup
    (Registry.get?_of_mem hsound.tidy.ids ho)
  refine ⟨⟨t, hcall, hdrew⟩, h.drew hsound hdrew (by simp [hcall]) (by simp [hcall]; rfl) rfl rfl
    rfl (h.distinct.answer callback) (by simp) ((h.tracked _ ho).answered hcallback) ?_⟩
  intro entry he hne
  refine (h.tracked entry he).unanswered fun hother => hne ?_
  have hsame := ((h.lookup_iff (o := entry.2) he callback).mpr hother).symm.trans hlookup
  exact Option.some.inj hsame

theorem Inv.destroyOutput (h : w.Inv) (id : OutputId) {heard : List Entry} (hcalm : Calm heard) :
    (w.next heard (w.client.destroyOutput id).2.1 (w.client.destroyOutput id).2.2).Inv := by
  refine h.aside (Registry.destroy_outputs _ id Client.teardown []) rfl rfl fun e he => ?_
  rcases List.mem_append.mp he with he | he
  · exact hcalm e he
  · exact calm_of_aloof (Client.destroyOutput_aloof w.client id) e he

theorem Inv.connectionClosed (h : w.Inv) (hsound : w.client.Sound next) :
    (w.next [] w.client.connectionClosed.1 w.client.connectionClosed.2).Inv :=
  h.aside (Registry.disconnect_outputs hsound.tidy.ids Client.teardown_ends []) rfl rfl
    (calm_of_aloof (Client.connectionClosed_aloof w.client))

/-- Whatever the compositor sends. -/
theorem Inv.handle (h : w.Inv) (hsound : w.client.Sound next) (e : Event) :
    (w.next [.heard e] (w.client.handle e).1 (w.client.handle e).2).Inv := by
  have hstill : ∀ {sent}, Calm (.heard e :: sent.map .sent) →
      (w.next [.heard e] sent w.client).Inv :=
    fun hcalm => h.aside (List.Sublist.refl _) rfl rfl hcalm
  cases e with
  | global name interface version =>
    simp only [Client.handle]
    split
    · exact hstill (by simp [Calm, Entry.drawn?, Entry.answered?])
    · next i _ =>
      have hcalm : Calm (.heard (.global name interface version)
          :: (w.client.bindGlobal i name version).1.map .sent) := by
        simp [Client.bindGlobal, Calm, Entry.drawn?, Entry.answered?]
      cases i <;> exact h.aside (List.Sublist.refl _) rfl rfl hcalm
  | format code | modifier code high low =>
    simp only [Client.handle, Client.advertise]
    split
    · exact hstill (by simp [Calm, Entry.drawn?, Entry.answered?])
    · exact h.aside (List.Sublist.refl _) rfl rfl (by simp [Calm, Entry.drawn?, Entry.answered?])
  | toplevelConfigure toplevel width height =>
    have hcalm : Calm [.heard (.toplevelConfigure toplevel width height)] := by
      simp [Calm, Entry.drawn?, Entry.answered?]
    rcases Client.configure_drew hsound.tidy.settled hsound.tidy.ids toplevel width height with
      hsame | ⟨id, o, mode, hout, hdrew⟩
    · simp only [Client.handle, hsame]
      exact hstill (by simpa using hcalm)
    · exact h.drew_canvas hsound (Client.outputOf?_mem hout)
        { o.details with info := { o.details.info with mode := mode } } rfl rfl hdrew (by simp)
        (by simp) hcalm
  | toplevelClose toplevel =>
    simp only [Client.handle, Client.close]
    split
    · exact hstill (by simp [Calm, Entry.drawn?, Entry.answered?])
    · exact h.destroyOutput _ (by simp [Calm, Entry.drawn?, Entry.answered?])
  | surfaceConfigure =>
    simp only [Client.handle]
    split <;> exact hstill (by simp [Calm, Entry.drawn?, Entry.answered?])
  | globalRemove =>
    exact h.aside (List.Sublist.refl _) rfl rfl (by
      simp [Client.handle, Calm, Entry.drawn?, Entry.answered?])
  | ping wmBase serial =>
    have hcalm : Calm [.heard (.ping wmBase serial), .sent (.pong wmBase serial)] := by
      simp [Calm, Entry.drawn?, Entry.answered?]
    exact hstill hcalm
  | done callback =>
    by_cases hsome : ∃ entry ∈ w.client.registry.outputs,
        entry.2.details.frameCallback = some callback
    · obtain ⟨entry, he, hcallback⟩ := hsome
      exact (h.done_drew hsound he hcallback).2
    · obtain ⟨callbacks, hdone, hinv⟩ :=
        h.done_unheard fun entry he hcallback => hsome ⟨entry, he, hcallback⟩
      simp only [Client.handle, hdone]
      exact hinv
  | release buffer =>
    have hcalm : Calm [.heard (.release buffer)] := by simp [Calm, Entry.drawn?, Entry.answered?]
    rcases Client.release_drew hsound.tidy.settled hsound.tidy.ids buffer with
      ⟨hsame, -⟩ | ⟨id, o, shown, -, -, hdrew⟩
    · simp only [Client.handle, hsame]
      exact hstill (by simpa using hcalm)
    · have ho : (id, o) ∈ w.client.registry.outputs := by
        obtain ⟨_, _, hturn, -, -⟩ := hdrew
        exact Registry.mem_of_get? hturn.get?
      exact h.drew_canvas hsound ho _ rfl rfl hdrew (by simp) (by simp) hcalm

theorem Inv.attach (h : w.Inv) (image : Image) :
    (w.next [] (w.client.attach image).2.1 (w.client.attach image).2.2).Inv := by
  rcases Client.attach_cases w.client image with ⟨_, heq⟩ | ⟨_, haloof, heq⟩
  · rw [heq]
    exact h.aside (List.Sublist.refl _) rfl rfl (by simp [Calm])
  · rw [heq]
    exact h.aside (List.Sublist.refl _) rfl rfl (calm_of_aloof haloof)

theorem Inv.detach (h : w.Inv) (image : Image) :
    (w.next [] (w.client.detach image).2.1 (w.client.detach image).2.2).Inv := by
  rcases Client.detach_cases w.client image with ⟨-, heq⟩ | ⟨_, -, heq⟩
  · rw [heq]
    exact h.aside (List.Sublist.refl _) rfl rfl (by simp [Calm])
  · rw [heq]
    exact h.aside (List.Sublist.refl _) rfl rfl (by simp [Calm, Entry.drawn?, Entry.answered?])

end Recorded

namespace Recorded

variable {w : Display.Course Recorded}

/-- The same run without its record. -/
def plainly (w : Display.Course Recorded) : Display.Course Client :=
  { client := w.client.client
    next := w.next
    made := w.made
    taken := w.taken
    delivered := w.delivered
    broken := w.broken }

/-- The display does not know that it is recorded. -/
theorem step_plainly (w : Display.Course Recorded) (call : Display.Call Happening) :
    plainly (w.step recording call) = (plainly w).step display call := by
  unfold Display.Course.step
  by_cases hw : w.broken = true
  · simp only [plainly, hw, if_true]
  · simp only [plainly, hw, if_false, Bool.false_eq_true]
    cases call with
    | other happening => cases happening <;> rfl
    | _ => rfl

theorem step_inv (h : w.client.Inv) (hsound : w.client.client.Sound w.next)
    (call : Display.Call Happening) :
    (w.step recording call).client.Inv ∧
      (w.step recording call).client.client.Sound (w.step recording call).next := by
  refine ⟨?_, ?_⟩
  · unfold Display.Course.step
    split
    · exact h
    cases call with
    | createOutput skipped => exact h.createOutput hsound (Nat.le_add_right w.next skipped)
    | scheduleFrame id image => exact h.scheduleFrame hsound id image
    | destroyOutput id => exact h.destroyOutput id (by simp [Calm])
    | connectionClosed => exact h.connectionClosed hsound
    | deliver => exact h.aside (List.Sublist.refl _) rfl rfl (by simp [Calm])
    | other happening =>
      cases happening with
      | event e => exact h.handle hsound e
      | attach image => exact h.attach image
      | detach image => exact h.detach image
  · have hplain := step_sound (w := plainly w) hsound call
    rwa [← step_plainly] at hplain

theorem run_inv (h : w.client.Inv) (hsound : w.client.client.Sound w.next)
    (calls : List (Display.Call Happening)) :
    (w.run recording calls).client.Inv ∧
      (w.run recording calls).client.client.Sound (w.run recording calls).next := by
  induction calls generalizing w with
  | nil => exact ⟨h, hsound⟩
  | cons call rest ih =>
    obtain ⟨h, hsound⟩ := step_inv h hsound call
    exact ih h hsound

theorem run_holds (hw : w.broken = false) (calls : List (Display.Call Happening)) :
    (w.run recording calls).broken = false := by
  induction calls generalizing w with
  | nil => exact hw
  | cons call rest ih => exact ih (step_holds hw call)

/-- The image that waited, if the compositor knows it. -/
def follower (f : FrameScheduler) : Option Image :=
  f.pending.filter (·.remoteBuffer?.isSome)

/-- The image that waited, if it has no buffer. -/
def stranded (f : FrameScheduler) : Option Image :=
  f.pending.filter (·.remoteBuffer?.isNone)

/-- The frame in flight of an output is over: the image that waited follows or comes back, and
there is one frame event. -/
structure Completed (w : Recorded) (id : OutputId) (o : Output Toplevel) (w' : Recorded) : Prop where
  events : w'.client.registry.events = w.client.registry.events
    ++ ((stranded o.scheduler).toList.map OutputEvent.released ++ [OutputEvent.frame]).map
      (.output id)
  output : ∃ d, w'.client.registry.get? id = some ⟨{
      armed := (follower o.scheduler).isSome
      pending := none
      presented := o.scheduler.presented ++ (follower o.scheduler).toList
      events := [] }, d⟩ ∧ d.object = o.details.object
  asked : openFrames o.details.object w'.log
    = (follower o.scheduler).toList.map fun _ => w.client.callbacks.next
  beside : w'.client.registry.AgreesBeside id w.client.registry

/-- The three ways of a completion: nothing waited, what waited follows, or it comes back. -/
theorem completion_eq {f f' : FrameScheduler} {t : FrameScheduler.Turn} (heffect : f.Effect t f')
    (hcall : t.call = .frameDone) (hbusy : f.armed = true) {start used : Canvas}
    (hused : Canvas.surface.Used t.asked start used) (hnone : start.toplevel.frameCallback = none) :
    t.queued = (stranded f).toList.map .released ++ [.frame] ∧
    f'.armed = (follower f).isSome ∧ f'.pending = none ∧
    f'.presented = f.presented ++ (follower f).toList ∧
    used.toplevel.frameCallback = (follower f).map fun _ => start.callbacks.next := by
  cases heffect with
  | ignored idle => exact absurd hbusy (by simp [idle])
  | completed _ empty =>
    obtain rfl : used = start := hused
    simp [stranded, follower, empty, hnone]
  | followed image _ waiting =>
    rcases Canvas.used_present hused with ⟨buffer, hbuffer, -, rfl⟩ | ⟨-, hanswer, -⟩
    · simp [stranded, follower, waiting, Option.filter, hbuffer, hbusy, Canvas.showing]
    · exact absurd hanswer (by simp)
  | followerRefused image _ _ waiting =>
    rcases Canvas.used_present hused with ⟨-, -, hanswer, -⟩ | ⟨hbuffer, -, rfl⟩
    · exact absurd hanswer (by simp)
    · simp [stranded, follower, waiting, Option.filter, hbuffer, hnone]
  | followerLost =>
    rcases Canvas.used_present hused with ⟨-, -, hanswer, -⟩ | ⟨-, hanswer, -⟩ <;>
      exact absurd hanswer (by simp)
  | _ => exact absurd hcall (by simp)

/-- What an answer does to the output that waits for it. -/
theorem Inv.completed {w : Recorded} {next : Nat} (h : w.Inv) (hsound : w.client.Sound next)
    {callback : Nat} {id : OutputId} {o : Output Toplevel}
    (ho : (id, o) ∈ w.client.registry.outputs)
    (hcallback : o.details.frameCallback = some callback) :
    w.Completed id o (w.next [.heard (.done callback)] (w.client.done callback).1
      (w.client.done callback).2) := by
  obtain ⟨⟨t, hcall, used, hused, hturn, -, -⟩, hinv⟩ := h.done_drew hsound ho hcallback
  have hbusy : o.scheduler.armed = true := by
    rw [h.armed _ ho]
    exact hcallback ▸ rfl
  obtain ⟨f, heffect, hself⟩ := hturn.mem_self
  have hobject : used.toplevel.object = o.details.object := (Canvas.used_frame hused).2.1
  obtain ⟨hqueued, harmed, hpending, hpresented, hnew⟩ :=
    completion_eq heffect hcall hbusy hused rfl
  have hids : (w.client.done callback).2.registry.ids.Nodup := hturn.ids_eq ▸ hsound.tidy.ids
  refine ⟨?_, ⟨used.toplevel, ?_, hobject⟩, ?_, .turned_left hturn⟩
  · rw [← hqueued]
    exact hturn.events_eq
  · have hget := Registry.get?_of_mem hids hself
    obtain ⟨armed, pending, presented, events⟩ := f
    simp only at harmed hpending hpresented
    subst harmed hpending hpresented
    exact hget
  · rw [← hobject, (hinv.tracked _ hself).open_eq, hnew]
    cases follower o.scheduler <;> rfl

end Recorded

open Recorded in
/-- **One callback for each frame in flight.** Whatever is called and whatever the compositor
sends, in whatever order: of every live output a frame is in flight if and only if a callback is
kept, and if and only if exactly one of the callbacks that were asked for on its surface is
unanswered; there are never more. That one was asked for by what was last drawn on the surface,
and once it is answered there is one frame event: the image that waited follows with a new
callback, or comes back before that event if it has no buffer, and no other output is concerned.
The answer to any other callback, be it of an output that was destroyed, does nothing at all. -/
theorem one_callback_per_frame (appId : String) (mode : Mode)
    (calls : List (Display.Call Happening)) :
    let w := (Display.Course.start ({ client := { appId, mode } } : Recorded)).run recording calls
    let outputs := w.client.client.registry.outputs
    let log := w.client.log
    let answered callback := (w.step recording (.other (.event (.done callback)))).client
    (∀ id o, (id, o) ∈ outputs →
      (o.scheduler.armed = true ↔ o.details.frameCallback.isSome) ∧
      (o.details.frameCallback.isSome ↔ (openFrames o.details.object log).length = 1) ∧
      (openFrames o.details.object log).length ≤ 1 ∧
      openFrames o.details.object log = o.details.frameCallback.toList ∧
      ∀ callback ∈ openFrames o.details.object log,
        LastCommit o.details.object callback log ∧
        w.client.Completed id o (answered callback)) ∧
    ∀ callback, (∀ id o, (id, o) ∈ outputs → callback ∉ openFrames o.details.object log) →
      (answered callback).client.registry = w.client.client.registry ∧
      (answered callback).log = log ++ [.heard (.done callback)] := by
  intro w outputs log answered
  have hstart : Client.Sound { appId, mode } 0 :=
    (⟨appId, mode, [], []⟩ : Opening).client_sound
  obtain ⟨h, hsound⟩ : w.client.Inv ∧ w.client.client.Sound w.next :=
    run_inv (w := .start { client := { appId, mode } }) (start_inv rfl rfl) hstart calls
  have hholds : w.broken = false := Recorded.run_holds rfl calls
  have hanswered : ∀ callback, answered callback = w.client.next [.heard (.done callback)]
      (w.client.client.done callback).1 (w.client.client.done callback).2 := by
    intro callback
    simp only [answered, Display.Course.step, hholds, Bool.false_eq_true, if_false]
    rfl
  refine ⟨fun id o ho => ?_, fun callback hnone => ?_⟩
  · have hopen := (h.tracked _ ho).open_eq
    simp only at hopen
    rw [show openFrames o.details.object log = _ from hopen, h.armed _ ho]
    refine ⟨Iff.rfl, ?_, ?_, rfl, fun callback hcallback => ?_⟩
    · cases o.details.frameCallback <;> simp
    · cases o.details.frameCallback <;> simp
    · have hcallback := Option.mem_toList.mp hcallback
      rw [hanswered]
      exact ⟨(h.tracked _ ho).committed callback hcallback, h.completed hsound ho hcallback⟩
  · have hothers : ∀ entry ∈ w.client.client.registry.outputs,
        entry.2.details.frameCallback ≠ some callback := by
      intro entry he hcallback
      refine hnone entry.1 entry.2 he ?_
      rw [show openFrames entry.2.details.object log = _ from (h.tracked entry he).open_eq]
      exact Option.mem_toList.mpr hcallback
    obtain ⟨callbacks, hdone, -⟩ := h.done_unheard hothers
    rw [hanswered, hdone]
    exact ⟨rfl, rfl⟩

/-- Of two images scheduled on one output the second has no buffer; it waits while a frame of
another output is completed. -/
def strandedRun : List (Display.Call Happening) :=
  let imported (n : Nat) : Image :=
    { Image.numbered n with backendData := ⟨some (.remoteBuffer n)⟩ }
  shortOpening.globals.map (.other <| .event ·) ++ shortOpening.answers.map (.other <| .event ·) ++
    [.createOutput 0, .createOutput 0, .other (.attach (.numbered 0)), .other (.attach (.numbered 1)),
      .scheduleFrame ⟨0⟩ (imported 0), .scheduleFrame ⟨1⟩ (imported 1),
      .scheduleFrame ⟨0⟩ (.numbered 2), .other (.event (.done 1)), .deliver]

theorem stranded_image_comes_back :
    let w := (Display.Course.start
      ({ client := { appId := standardAppId, mode := .standard } } : Recorded)).run
      recording strandedRun
    ∃ o, (⟨0⟩, o) ∈ w.client.client.registry.outputs ∧
      openFrames o.details.object w.client.log = [0] ∧
      LastCommit o.details.object 0 w.client.log ∧
      (w.step recording (.other (.event (.done 0)))).client.client.registry.events
        = [.output ⟨0⟩ (.released (.numbered 2)), .output ⟨0⟩ .frame] := by
  intro w
  let o : Output Toplevel := {
    scheduler := {
      armed := true
      pending := some (.numbered 2)
      presented := [{ Image.numbered 0 with backendData := ⟨some (.remoteBuffer 0)⟩ }] }
    details := {
      object := 0
      version := 4
      frameCallback := some 0
      info := { name := "WL-1", make := "wayland", model := "wayland", mode := .standard } } }
  have ho : (⟨0⟩, o) ∈ w.client.client.registry.outputs := by decide +kernel
  have hevents : w.client.client.registry.events = [] := by decide +kernel
  obtain ⟨houtputs, -⟩ := one_callback_per_frame standardAppId .standard strandedRun
  obtain ⟨-, -, -, hopen, hasked⟩ := houtputs ⟨0⟩ o ho
  obtain ⟨hlast, hcompleted⟩ := hasked 0 (by rw [hopen]; exact List.mem_cons_self)
  exact ⟨o, ho, hopen, hlast, by rw [hcompleted.events, hevents]; rfl⟩

end Scanout.Wayland
