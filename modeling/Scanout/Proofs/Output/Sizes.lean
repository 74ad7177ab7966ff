import Mathlib.Data.List.Destutter
import Scanout.Proofs.Output.Listing

/-!
# The sizes of an output

A display proposes sizes to its outputs. A proposal without a positive width and height is no
size, and a size that is in force already is no news; every other one is in force from then on, and
the compositor is told. So the modes of an output, from the one it was made with on, are the sizes
that were proposed to it, without immediate repetitions (`Heeds`).

What happens to others, and what happens to the output in between, has no part in this. `Resizes`
lists what a step of a display can mean for the size of one output, and `Lawful.heeds` draws the law
of whole runs from it, for every system whose steps mean nothing else.
-/

namespace Scanout

/-! ## Modes and what is told of them -/

/-- What is left of a list without immediate repetitions tells whether one more element is
kept. -/
theorem destutter_concat {α : Type} [DecidableEq α] (a : α) (l : List α) :
    ∃ kept, (a :: l).destutter (· ≠ ·) = a :: kept ∧ ∀ b,
      (a :: (l ++ [b])).destutter (· ≠ ·)
        = a :: (kept ++ if kept.getLastD a = b then [] else [b]) := by
  simp only [List.destutter_cons']
  induction l generalizing a with
  | nil =>
    refine ⟨[], rfl, fun b => ?_⟩
    by_cases h : a = b <;> simp [h]
  | cons c rest ih =>
    obtain ⟨kept, hkept, hnext⟩ := ih c
    by_cases h : a = c
    · subst h
      have hsame : ¬ (a ≠ a) := fun hne => hne rfl
      refine ⟨kept, ?_, fun b => ?_⟩
      · rw [List.destutter'_cons_neg _ hsame, hkept]
      · rw [List.cons_append, List.destutter'_cons_neg _ hsame, hnext b]
    · refine ⟨c :: kept, ?_, fun b => ?_⟩
      · rw [List.destutter'_cons_pos _ h, hkept]
      · rw [List.cons_append, List.destutter'_cons_pos _ h, hnext b, List.getLastD_cons,
          List.cons_append]

namespace Mode

/-- The sizes among proposals. -/
def proper (proposals : List (Int32 × Int32)) : List Mode :=
  (proposals.filter fun p => 0 < p.1 ∧ 0 < p.2).map fun p => ⟨p.1, p.2, 0⟩

/-- A proposal that is no size, or the one that is in force. -/
def Moot (current : Mode) (width height : Int32) : Prop :=
  0 < width → 0 < height → current = ⟨width, height, 0⟩

theorem proper_append (proposals more : List (Int32 × Int32)) :
    proper (proposals ++ more) = proper proposals ++ proper more := by
  simp only [proper, List.filter_append, List.map_append]

theorem proper_singleton (width height : Int32) :
    proper [(width, height)] = (ofConfigure? width height).toList := by
  by_cases h : 0 < width ∧ 0 < height <;> simp [proper, ofConfigure?, h]

theorem moot_iff {current : Mode} {width height : Int32} :
    current.Moot width height ↔ ∀ mode, ofConfigure? width height = some mode → current = mode := by
  by_cases h : 0 < width ∧ 0 < height
  · simp [Moot, ofConfigure?, h]
  · simp only [Moot, ofConfigure?, if_neg h]
    exact ⟨fun _ _ hnone => absurd hnone (by simp), fun _ hw hh => absurd ⟨hw, hh⟩ h⟩

end Mode

/-- The modes that were told of an output. -/
def modesTold (id : OutputId) (events : List BackendEvent) : List Mode :=
  events.filterMap fun
    | .output other (.mode mode) => if other = id then some mode else none
    | _ => none

@[simp] theorem modesTold_append (id : OutputId) (events more : List BackendEvent) :
    modesTold id (events ++ more) = modesTold id events ++ modesTold id more :=
  List.filterMap_append

theorem modesTold_eq_nil {id : OutputId} {events : List BackendEvent}
    (h : ∀ mode, .output id (.mode mode) ∉ events) : modesTold id events = [] := by
  refine List.filterMap_eq_nil_iff.mpr fun e he => ?_
  split
  · next other mode =>
    refine if_neg ?_
    rintro rfl
    exact h mode he
  · rfl

/-- A turn of an output tells of a mode only if the mode is changed. -/
theorem FrameScheduler.Effect.mode_not_mem {f f' : FrameScheduler} {t : FrameScheduler.Turn}
    (h : f.Effect t f') (hcall : ∀ mode, t.call ≠ .modeChanged mode) (mode : Mode) :
    .mode mode ∉ t.queued := by
  cases h with
  | resized mode => exact absurd rfl (hcall mode)
  | _ => simp

/-- What an output is proposed and what the compositor is told agree: the modes of the output, from
the first one on, are the sizes among the proposals, each of them that is not in force already, in
order; and an output that is there has the last of them. -/
structure Heeds (initial : Mode) (id : OutputId) (proposals : List (Int32 × Int32))
    (history : List BackendEvent) (current : Option Mode) : Prop where
  modes : initial :: modesTold id history
    = (initial :: Mode.proper proposals).destutter (· ≠ ·)
  current : current
    = if id ∈ alive history then some ((modesTold id history).getLastD initial) else none

theorem Heeds.told_eq {initial : Mode} {id : OutputId} {proposals : List (Int32 × Int32)}
    {history : List BackendEvent} {current : Option Mode} {sizes : List Mode}
    (h : Heeds initial id proposals history current)
    (hsizes : (initial :: Mode.proper proposals).destutter (· ≠ ·) = initial :: sizes) :
    modesTold id history = sizes :=
  (List.cons.inj (h.modes.trans hsizes)).2

namespace Registry

variable {δ σ : Type} {r r' : Registry δ} {mode : δ → Mode} {p : δ → Bool} {id : OutputId}

/-- What an output is proposed when a size is proposed to the owner of something. -/
def proposed (r : Registry δ) (p : δ → Bool) (width height : Int32) (id : OutputId) :
    List (Int32 × Int32) :=
  if (r.get? id).any fun o => p o.details then [(width, height)] else []

/-! ## Operations that propose nothing -/

/-- No output is new, all have the modes they had, and nothing is told of modes. -/
structure SameSizes (mode : δ → Mode) (r r' : Registry δ) : Prop where
  outputs : ∀ entry ∈ r'.outputs, ∃ o, (entry.1, o) ∈ r.outputs ∧
    mode entry.2.details = mode o.details
  told : ∀ id, modesTold id r'.events = modesTold id r.events

namespace SameSizes

theorem refl (r : Registry δ) : r.SameSizes mode r :=
  ⟨fun entry he => ⟨entry.2, he, rfl⟩, fun _ => rfl⟩

theorem of_eq (h : r' = r) : r.SameSizes mode r' := by
  rw [h]
  exact refl r

/-- Some outputs go, and what is told is not about modes. -/
theorem of_sublist {more : List BackendEvent} (houtputs : r'.outputs.Sublist r.outputs)
    (hevents : r'.events = r.events ++ more) (hmore : ∀ id mode, .output id (.mode mode) ∉ more) :
    r.SameSizes mode r' := by
  refine ⟨fun entry he => ⟨entry.2, houtputs.subset he, rfl⟩, fun id => ?_⟩
  rw [hevents, modesTold_append, modesTold_eq_nil (hmore id), List.append_nil]

/-- A turn of an output that is not about its mode. -/
theorem turned {o : Output δ} {t : FrameScheduler.Turn} {details : δ}
    (h : r.Turned id o t details r') (hmode : mode details = mode o.details)
    (hcall : ∀ mode, t.call ≠ .modeChanged mode) : r.SameSizes mode r' where
  outputs := by
    rintro ⟨other, o'⟩ he
    rcases h.mem_outputs he with ⟨rfl, hdetails, -⟩ | ⟨-, hold⟩
    · exact ⟨o, mem_of_get? h.get?, by rw [hdetails, hmode]⟩
    · exact ⟨o', hold, rfl⟩
  told := by
    intro other
    obtain ⟨f, heffect⟩ := h.effect
    have hqueued : modesTold other (t.queued.map (.output id)) = [] := by
      refine modesTold_eq_nil fun m hmem => ?_
      obtain ⟨e, he, heq⟩ := List.mem_map.mp hmem
      obtain ⟨-, rfl⟩ := BackendEvent.output.inj heq
      exact heffect.mode_not_mem hcall m he
    rw [h.events_eq, modesTold_append, hqueued, List.append_nil]

theorem mode_not_mem_lastEvents {entry : OutputId × Output δ}
    (hsettled : entry.2.scheduler.events = []) (id : OutputId) (m : Mode) :
    .output id (.mode m) ∉ lastEvents entry := by
  simp [lastEvents, FrameScheduler.remains, hsettled]

theorem destroy (hr : r.Tidy) (id : OutputId) {teardown : Output δ → σ → FrameScheduler × σ}
    (hends : Ends teardown) (s : σ) : r.SameSizes mode (r.destroy id teardown s).2.1 := by
  cases hget : r.get? id with
  | none => exact of_eq (by rw [destroy_absent hget])
  | some o =>
    have hmem := mem_of_get? hget
    obtain ⟨before, after, hat⟩ := at_of_mem hr.ids hmem
    refine of_sublist (destroy_outputs r id teardown s) ?_
      (mode_not_mem_lastEvents (hr.settled _ hmem))
    rw [hat.destroy_eq hends]

theorem disconnect (hr : r.Tidy) {teardown : Output δ → σ → FrameScheduler × σ}
    (hends : Ends teardown) (s : σ) : r.SameSizes mode (r.disconnect teardown s).2.1 := by
  cases hlive : r.disconnected with
  | true => exact of_eq (by rw [disconnect_again hlive])
  | false =>
    rw [disconnect_eq hr.ids hends hlive]
    refine of_sublist (List.nil_sublist _) (List.append_assoc ..) fun id m hmem => ?_
    rcases List.mem_append.mp hmem with hlast | hlost
    · obtain ⟨entry, hentry, hlast⟩ := List.mem_flatMap.mp hlast
      exact mode_not_mem_lastEvents (hr.settled entry hentry) id m hlast
    · exact absurd hlost (by simp)

end SameSizes

/-! ## Proposals -/

/-- What becomes of a size that is proposed to the owner of something: nothing, if nobody owns it
or the proposal is moot for the owner; otherwise it is the owner's new mode, which is told. -/
inductive Proposed (mode : δ → Mode) (p : δ → Bool) (width height : Int32) (r : Registry δ) :
    Registry δ → Prop where
  | moot (moot : ∀ entry ∈ r.outputs, p entry.2.details = true →
      (mode entry.2.details).Moot width height) : Proposed mode p width height r r
  | resized {r' : Registry δ} {id : OutputId} {o : Output δ} {details : δ} {size : Mode}
      (owns : p o.details = true) (proper : Mode.ofConfigure? width height = some size)
      (news : mode o.details ≠ size) (mode_eq : mode details = size)
      (turn : r.Turned id o ⟨.modeChanged size, [], [.mode size]⟩ details r') :
    Proposed mode p width height r r'

end Registry

/-! ## Runs -/

/-- What is to be seen of a display. -/
structure Outlook (δ : Type) where
  registry : Registry δ
  delivered : List BackendEvent
  /-- The number the next output has at least. -/
  next : Nat

namespace Outlook

variable {δ : Type} {v v' : Outlook δ} {mode : δ → Mode} {initial : Mode} {id : OutputId}
  {proposals more : List (Int32 × Int32)}

/-- Every event so far: those delivered, and those that wait to be. -/
def history (v : Outlook δ) : List BackendEvent :=
  v.delivered ++ v.registry.events

/-- The outputs are in order, and the numbers from `next` on are nobody's. -/
structure Sound (v : Outlook δ) : Prop where
  tidy : v.registry.Tidy
  below : ∀ id ∈ v.registry.ids, id.number < v.next

/-- What a step can mean for the size of one output, with what it proposed to it. -/
inductive Resizes (mode : δ → Mode) (initial : Mode) (id : OutputId) (v : Outlook δ) :
    List (Int32 × Int32) → Outlook δ → Prop where
  /-- Nothing is proposed to it, and if it is there it was before and keeps its mode. -/
  | aside {v' : Outlook δ} (next_le : v.next ≤ v'.next)
      (told : modesTold id v'.history = modesTold id v.history)
      (outputs : ∀ o', (id, o') ∈ v'.registry.outputs →
        ∃ o, (id, o) ∈ v.registry.outputs ∧ mode o'.details = mode o.details) :
    Resizes mode initial id v [] v'
  | opened {v' : Outlook δ} (new : v.next ≤ id.number) (number_lt : id.number < v'.next)
      (told : modesTold id v'.history = modesTold id v.history)
      (outputs : ∀ o', (id, o') ∈ v'.registry.outputs → mode o'.details = initial) :
    Resizes mode initial id v [] v'
  | moot {o : Output δ} {width height : Int32} (there : (id, o) ∈ v.registry.outputs)
      (number_lt : id.number < v.next) (moot : (mode o.details).Moot width height) :
    Resizes mode initial id v [(width, height)] v
  | resized {v' : Outlook δ} {o : Output δ} {width height : Int32} {size : Mode}
      (there : (id, o) ∈ v.registry.outputs) (number_lt : id.number < v'.next)
      (proper : Mode.ofConfigure? width height = some size) (news : mode o.details ≠ size)
      (told : modesTold id v'.history = modesTold id v.history ++ [size])
      (outputs : ∀ o', (id, o') ∈ v'.registry.outputs → mode o'.details = size) :
    Resizes mode initial id v [(width, height)] v'

/-- What was proposed to an output so far, what was told of its modes, and the one it has. -/
structure Sized (mode : δ → Mode) (initial : Mode) (id : OutputId)
    (proposals : List (Int32 × Int32)) (v : Outlook δ) : Prop where
  modes : initial :: modesTold id v.history
    = (initial :: Mode.proper proposals).destutter (· ≠ ·)
  current : ∀ o, (id, o) ∈ v.registry.outputs →
    mode o.details = (modesTold id v.history).getLastD initial
  /-- To an output that is not made yet nothing was proposed. -/
  unmade : v.next ≤ id.number → proposals = []

theorem Sized.start {registry : Registry δ} (hr : registry = {}) (next : Nat) :
    Sized mode initial id [] ⟨registry, [], next⟩ := by
  subst hr
  exact ⟨rfl, fun _ h => absurd h List.not_mem_nil, fun _ => rfl⟩

/-- What was told so far says whether one more size is told. -/
theorem Sized.modes_concat (h : Sized mode initial id proposals v) {width height : Int32}
    {size : Mode} (hproper : Mode.ofConfigure? width height = some size) :
    (initial :: Mode.proper (proposals ++ [(width, height)])).destutter (· ≠ ·)
      = initial :: (modesTold id v.history
        ++ if (modesTold id v.history).getLastD initial = size then [] else [size]) := by
  obtain ⟨kept, hkept, hnext⟩ := destutter_concat initial (Mode.proper proposals)
  obtain rfl : modesTold id v.history = kept := (List.cons.inj (h.modes.trans hkept)).2
  rw [Mode.proper_append, Mode.proper_singleton, hproper, Option.toList_some, hnext size]

/-- One step keeps to the law. -/
theorem Sized.step (h : Sized mode initial id proposals v)
    (hstep : v.Resizes mode initial id more v') :
    Sized mode initial id (proposals ++ more) v' := by
  cases hstep with
  | aside next_le told outputs =>
    rw [List.append_nil]
    refine ⟨by rw [told, h.modes], fun o' ho' => ?_, fun hnext =>
      h.unmade (Nat.le_trans next_le hnext)⟩
    obtain ⟨o, ho, hmode⟩ := outputs o' ho'
    rw [hmode, told, h.current o ho]
  | opened new number_lt told outputs =>
    -- nothing was proposed to it yet, so no mode was told either
    obtain rfl := h.unmade new
    have hnone : modesTold id v.history = [] := (List.cons.inj h.modes).2
    refine ⟨by rw [told, h.modes, List.append_nil], fun o' ho' => ?_, fun _ => rfl⟩
    rw [told, hnone, outputs o' ho', List.getLastD_nil]
  | @moot o width height there number_lt hmoot =>
    -- the proposal is left out of the sizes, or repeats the last one
    refine ⟨?_, h.current, fun hnext => absurd number_lt (Nat.not_lt.mpr hnext)⟩
    cases hproper : Mode.ofConfigure? width height with
    | none =>
      rw [Mode.proper_append, Mode.proper_singleton, hproper, Option.toList_none, List.append_nil,
        h.modes]
    | some size =>
      have hcurrent := Mode.moot_iff.mp hmoot size hproper
      rw [h.modes_concat hproper, ← h.current o there, if_pos hcurrent, List.append_nil]
  | @resized _ o width height size there number_lt proper news told outputs =>
    refine ⟨?_, fun o' ho' => ?_, fun hnext => absurd number_lt (Nat.not_lt.mpr hnext)⟩
    · rw [h.modes_concat proper, ← h.current o there, if_neg news, told]
    · rw [outputs o' ho', told, List.getLastD_concat]

/-- An output that is there has the mode it should have, and one that is not has none. -/
theorem Sized.heeds (h : Sized mode initial id proposals v)
    (halive : v.registry.ids = alive v.history) :
    Heeds initial id proposals v.history ((v.registry.get? id).map fun o => mode o.details) := by
  refine ⟨h.modes, ?_⟩
  rw [← halive]
  cases hget : v.registry.get? id with
  | none => rw [if_neg (Registry.get?_eq_none.mp hget), Option.map_none]
  | some o =>
    have hmem := Registry.mem_of_get? hget
    have hid : id ∈ v.registry.ids := List.mem_map_of_mem hmem
    rw [if_pos hid, Option.map_some, h.current o hmem]

/-! ### What a step can be -/

theorem Resizes.of_same {r : Registry δ} (h : v.registry.SameSizes mode r) {next : Nat}
    (hnext : v.next ≤ next) : v.Resizes mode initial id [] ⟨r, v.delivered, next⟩ := by
  refine .aside hnext ?_ fun o' ho' => h.outputs (id, o') ho'
  simp only [history, modesTold_append, h.told]

/-- To hand the events over is no matter of sizes. -/
theorem Resizes.of_delivered : v.Resizes mode initial id []
    ⟨v.registry.takeEvents.2, v.delivered ++ v.registry.events, v.next⟩ := by
  refine .aside (Nat.le_refl _) ?_ fun o' ho' => ⟨o', ho', rfl⟩
  simp only [history, Registry.takeEvents, List.append_nil]

/-- A new output has the mode that is given to all new ones. -/
theorem Resizes.of_insert (hv : v.Sound) {new : OutputId} (hnew : v.next ≤ new.number) {details : δ}
    (hmode : mode details = initial) :
    v.Resizes mode initial id []
      ⟨v.registry.insert new ⟨{}, details⟩, v.delivered, new.number + 1⟩ := by
  have htold : modesTold id (v.delivered ++ (v.registry.insert new ⟨{}, details⟩).events)
      = modesTold id v.history := by
    simp [history, Registry.insert, Registry.queue, modesTold]
  by_cases hid : id = new
  · subst hid
    refine .opened hnew (Nat.lt_succ_self _) htold fun o' ho' => ?_
    rcases List.mem_append.mp ho' with hold | hself
    · exact absurd (hv.below id (List.mem_map_of_mem hold)) (Nat.not_lt.mpr hnew)
    · obtain ⟨-, rfl⟩ := Prod.mk.inj (List.mem_singleton.mp hself)
      exact hmode
  · refine .aside (Nat.le_succ_of_le hnew) htold fun o' ho' => ?_
    rcases List.mem_append.mp ho' with hold | hself
    · exact ⟨o', hold, rfl⟩
    · exact absurd (Prod.mk.inj (List.mem_singleton.mp hself)).1 hid

section

variable {p : δ → Bool} {width height : Int32} {r : Registry δ}
  (h : v.registry.Proposed mode p width height r)

include h

/-- A size is proposed to an output that is the only owner. -/
theorem Resizes.of_owner (hv : v.Sound)
    (honly : ∀ entry ∈ v.registry.outputs, ∀ entry' ∈ v.registry.outputs,
      p entry.2.details = true → p entry'.2.details = true → entry.1 = entry'.1)
    {o : Output δ} (hget : v.registry.get? id = some o) (hp : p o.details = true) :
    v.Resizes mode initial id [(width, height)] ⟨r, v.delivered, v.next⟩ := by
  have hmem := Registry.mem_of_get? hget
  have hbelow := hv.below id (List.mem_map_of_mem hmem)
  cases h with
  | moot hmoot => exact .moot hmem hbelow (hmoot _ hmem hp)
  | @resized _ owner o' details size owns proper news mode_eq turn =>
    -- the turn that is taken is that of this output
    obtain rfl : owner = id := honly _ (Registry.mem_of_get? turn.get?) _ hmem owns hp
    obtain rfl := Option.some.inj (turn.get?.symm.trans hget)
    refine .resized hmem hbelow proper news ?_ fun after hafter => ?_
    · simp [history, turn.events_eq, modesTold]
    · rcases turn.mem_outputs hafter with ⟨-, hdetails, -⟩ | ⟨hne, -⟩
      · rw [hdetails, mode_eq]
      · exact absurd rfl hne

/-- A size that is proposed to somebody else is no matter of an output. -/
theorem Resizes.of_stranger (hnot : ∀ o, v.registry.get? id = some o → p o.details ≠ true) :
    v.Resizes mode initial id [] ⟨r, v.delivered, v.next⟩ := by
  cases h with
  | moot => exact .of_same (.refl _) (Nat.le_refl _)
  | @resized _ owner o' details size owns proper news mode_eq turn =>
    have hne : owner ≠ id := by
      rintro rfl
      exact hnot o' turn.get? owns
    refine .aside (Nat.le_refl _) ?_ fun after hafter => ?_
    · simp [history, turn.events_eq, modesTold, hne]
    · rcases turn.mem_outputs hafter with ⟨heq, -⟩ | ⟨-, hold⟩
      · exact absurd heq.symm hne
      · exact ⟨after, hold, rfl⟩

theorem Resizes.of_proposed (hv : v.Sound)
    (honly : ∀ entry ∈ v.registry.outputs, ∀ entry' ∈ v.registry.outputs,
      p entry.2.details = true → p entry'.2.details = true → entry.1 = entry'.1) :
    v.Resizes mode initial id (v.registry.proposed p width height id) ⟨r, v.delivered, v.next⟩ := by
  by_cases howns : (v.registry.get? id).any (fun o => p o.details) = true
  · rw [Registry.proposed, if_pos howns]
    obtain ⟨o, hget, hp⟩ := (Option.any_eq_true _ _).mp howns
    exact .of_owner h hv honly hget hp
  · rw [Registry.proposed, if_neg howns]
    exact .of_stranger h fun o hget hp => howns ((Option.any_eq_true _ _).mpr ⟨o, hget, hp⟩)

end

end Outlook

/-- A system whose steps may propose sizes to outputs. -/
structure Sizing (ω ι δ : Type) where
  step : ω → ι → ω
  outlook : ω → Outlook δ
  mode : δ → Mode
  /-- What a step proposes to an output. -/
  proposed : ω → ι → OutputId → List (Int32 × Int32)

namespace Sizing

variable {ω ι δ : Type}

/-- What is proposed to an output in the course of a run. -/
def proposals (S : Sizing ω ι δ) (id : OutputId) (w : ω) : List ι → List (Int32 × Int32)
  | [] => []
  | i :: rest => S.proposed w i id ++ proposals S id (S.step w i) rest

/-- A system in which nothing but proposals has to do with sizes. -/
structure Lawful (S : Sizing ω ι δ) (initial : Mode) (Inv : ω → Prop) : Prop where
  step : ∀ {w} i, Inv w → Inv (S.step w i)
  resizes : ∀ {w} i, Inv w → ∀ id,
    (S.outlook w).Resizes S.mode initial id (S.proposed w i id) (S.outlook (S.step w i))

variable {S : Sizing ω ι δ} {initial : Mode} {Inv : ω → Prop} {w : ω}

/-- What one step keeps to, a run keeps to. -/
theorem Lawful.run_sized (hS : S.Lawful initial Inv) {id : OutputId}
    {before : List (Int32 × Int32)} (h : (S.outlook w).Sized S.mode initial id before) (hw : Inv w)
    (inputs : List ι) :
    (S.outlook (inputs.foldl S.step w)).Sized S.mode initial id
      (before ++ S.proposals id w inputs) := by
  induction inputs generalizing w before with
  | nil =>
    rw [proposals, List.append_nil]
    exact h
  | cons i rest ih =>
    rw [proposals, ← List.append_assoc]
    exact ih (h.step (hS.resizes i hw id)) (hS.step i hw)

/-- From the beginning on, all outputs heed what they are proposed. -/
theorem Lawful.heeds (hS : S.Lawful initial Inv) (hw : Inv w) {id : OutputId}
    (hstart : (S.outlook w).Sized S.mode initial id []) (inputs : List ι)
    (halive : (S.outlook (inputs.foldl S.step w)).registry.ids
      = alive (S.outlook (inputs.foldl S.step w)).history) :
    Heeds initial id (S.proposals id w inputs) (S.outlook (inputs.foldl S.step w)).history
      (((S.outlook (inputs.foldl S.step w)).registry.get? id).map fun o => S.mode o.details) := by
  have hsized := hS.run_sized hstart hw inputs
  rw [List.nil_append] at hsized
  exact hsized.heeds halive

end Sizing

end Scanout
