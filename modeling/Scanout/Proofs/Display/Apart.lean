import Mathlib.Data.List.Flatten
import Scanout.Proofs.Output.Beside
import Scanout.Proofs.Output.Listing

/-!
# Outputs that are kept apart

A display does everything to one output at a time, and finds the output by the number the program
gives, by a window or a surface, or by an image. `Display.Apart` says that this goes well: whatever
happens is about one output at most, and the others do not notice. It can go well only if no image
is with two outputs. The program sees to that by owning its images: it can hand over only what it
holds (`Course.runOwned`), and what the display has it does not hold.
-/

namespace Scanout

namespace Registry

variable {δ : Type} {r : Registry δ}

/-- Where no two images of a display have one identifier, no two of those do that wait or are
presented. -/
theorem kept_nodup (hd : (r.images.map (·.id)).Nodup) :
    ((r.outputs.flatMap (·.2.scheduler.kept)).map (·.id)).Nodup := by
  have hkept : (r.outputs.flatMap (·.2.scheduler.kept)).Sublist
      (r.outputs.flatMap (·.2.scheduler.images)) :=
    List.Sublist.flatMap_right _ fun _ _ => List.sublist_append_left _ _
  exact ((hkept.trans (List.sublist_append_left _ _)).map _).nodup hd

end Registry

namespace Display

variable {κ δ ε : Type} {D : Display κ δ ε}

/-- What is done to one output of a display is no matter of the others, where `touches` says which
outputs a happening is about. -/
structure Apart (D : Display κ δ ε) (touches : κ → ε → OutputId × Output δ → Prop) (c : κ) : Prop
    where
  /-- No image waits or is presented in two places. -/
  images : (((D.registry c).outputs.flatMap (·.2.scheduler.kept)).map (·.id)).Nodup
  createOutput : ∀ id, (D.registry (D.createOutput id c).2).AgreesBeside id (D.registry c)
  /-- A new output is the last of the list. -/
  created : ∀ id, (D.registry (D.createOutput id c).2).ids
    = (D.registry c).ids ++ if (D.createOutput id c).1 then [id] else []
  scheduleFrame : ∀ id image,
    (D.registry (D.scheduleFrame id image c).2).AgreesBeside id (D.registry c)
  destroyOutput : ∀ id, (D.registry (D.destroyOutput id c)).AgreesBeside id (D.registry c)
  destroyed : ∀ id, (D.registry (D.destroyOutput id c)).ids = (D.registry c).ids.filter (· ≠ id)
  /-- What happens is about one output at most. -/
  one : ∀ e, ∀ entry ∈ (D.registry c).outputs, ∀ entry' ∈ (D.registry c).outputs,
    touches c e entry → touches c e entry' → entry = entry'
  /-- The others stay as they are, and nothing is told of them. -/
  handle : ∀ e, ∀ entry ∈ (D.registry c).outputs, touches c e entry →
    (D.registry (D.handle e c).2).AgreesBeside entry.1 (D.registry c)
  /-- What is about no output changes none, and nothing is told. -/
  aside : ∀ e, (∀ entry ∈ (D.registry c).outputs, ¬ touches c e entry) →
    D.registry (D.handle e c).2 = D.registry c

/-- Making an output is no matter of those that are there. -/
theorem Lawful.createOutput_beside (hD : D.Lawful) (id : OutputId) (c : κ) :
    (D.registry (D.createOutput id c).2).AgreesBeside id (D.registry c) := by
  rcases hD.createOutput id c with ⟨-, hsame⟩ | ⟨-, -, details, hinsert⟩
  · rw [hsame]
    exact .refl id _
  · rw [hinsert]
    exact .insert_left _ id _

theorem Lawful.createOutput_ids (hD : D.Lawful) (id : OutputId) (c : κ) :
    (D.registry (D.createOutput id c).2).ids
      = (D.registry c).ids ++ if (D.createOutput id c).1 then [id] else [] := by
  rcases hD.createOutput id c with ⟨hmade, hsame⟩ | ⟨hmade, -, details, hinsert⟩
  · rw [hmade, hsame, if_neg (by simp), List.append_nil]
  · rw [hmade, hinsert, if_pos rfl, Registry.insert_ids]

namespace Course

variable {w : Course κ}

/-- Whether a program can make a call: an image that the display has it cannot hand over.
Identifiers of images are drawn from one source, so there is no other image with that
identifier. -/
def Owns (D : Display κ δ ε) (w : Course κ) : Call ε → Prop
  | .scheduleFrame _ image => ∀ other ∈ (D.registry w.client).images, other.id ≠ image.id
  | _ => True

instance (D : Display κ δ ε) (w : Course κ) (call : Call ε) : Decidable (w.Owns D call) := by
  unfold Owns
  split <;> infer_instance

/-- The calls that a program makes which owns its images, the others being left out. -/
def owned (D : Display κ δ ε) (w : Course κ) : List (Call ε) → List (Call ε)
  | [] => []
  | call :: rest =>
    if w.Owns D call then call :: (w.step D call).owned D rest else w.owned D rest

/-- The run of a program that owns its images. -/
def runOwned (D : Display κ δ ε) (w : Course κ) (calls : List (Call ε)) : Course κ :=
  w.run D (w.owned D calls)

theorem unbroken_of_run (calls : List (Call ε)) (h : (w.run D calls).broken = false) :
    w.broken = false := by
  by_contra hbroken
  rw [Bool.not_eq_false] at hbroken
  rw [run_broken hbroken, hbroken] at h
  exact absurd h (by simp)

/-- Nobody gets an image twice. -/
theorem step_distinct (hD : D.Lawful) (hr : (D.registry w.client).Tidy)
    (hd : ((D.registry w.client).images.map (·.id)).Nodup) {call : Call ε}
    (howns : w.Owns D call) (hholds : (w.step D call).broken = false) :
    ((D.registry (w.step D call).client).images.map (·.id)).Nodup := by
  have hw : w.broken = false := unbroken_of_run [call] hholds
  have hmoved : ∀ {handed : List Image} {r : Registry δ}, (D.registry w.client).Move handed r →
      (((D.registry w.client).images ++ handed).map (·.id)).Nodup → (r.images.map (·.id)).Nodup :=
    fun hmove hall => ((hmove.images_perm hr).map _).nodup_iff.mpr hall
  have hnothing : (((D.registry w.client).images ++ []).map Image.id).Nodup := by
    rwa [List.append_nil]
  simp only [step, hw, Bool.false_eq_true, if_false] at hholds ⊢
  cases call with
  | createOutput skipped =>
    rcases hD.createOutput ⟨w.next + skipped⟩ w.client with ⟨-, hsame⟩ | ⟨-, -, details, hinsert⟩
    · simpa only [hsame] using hd
    · simpa only [hinsert, Registry.insert_images] using hd
  | scheduleFrame id image =>
    refine hmoved (hD.scheduleFrame id image w.client hr hholds) ?_
    rcases houtcome : (D.scheduleFrame id image w.client).1 with submission | other
    · exact nodup_map_append_new hd fun other hother => howns other hother
    · exact hnothing
  | destroyOutput id => exact hmoved (hD.destroyOutput id w.client) hnothing
  | connectionClosed =>
    obtain ⟨σ, teardown, s, hends, hlost⟩ := hD.connectionClosed
    have hperm := Registry.disconnect_images hr.ids hends s
    simp only [hlost]
    exact (hperm.map _).nodup_iff.mpr hd
  | deliver =>
    simp only [(hD.deliver w.client).2]
    have hsub : (D.registry w.client).takeEvents.2.images.Sublist (D.registry w.client).images :=
      (List.Sublist.refl _).append (List.nil_sublist _)
    exact (hsub.map _).nodup hd
  | other e => exact hmoved (hD.handle e w.client hr (by simpa using hholds)) hnothing

theorem Inv.runOwned_distinct (hD : D.Lawful) (calls : List (Call ε)) :
    ∀ {w : Course κ}, w.Inv D → ((D.registry w.client).images.map (·.id)).Nodup →
      (w.runOwned D calls).broken = false →
      ((D.registry (w.runOwned D calls).client).images.map (·.id)).Nodup := by
  induction calls with
  | nil => exact fun _ hd _ => hd
  | cons call rest ih =>
    intro w h hd
    unfold runOwned owned
    split
    · next howns =>
      intro hholds
      have hone : (w.step D call).broken = false := unbroken_of_run _ hholds
      exact ih (h.advance_inv (step_advance hD h.tidy call hone))
        (step_distinct hD h.tidy hd howns hone) hholds
    · exact ih h hd

theorem Advance.lists {w' : Course κ} (hadvance : w.Advance D w') (h : w.Inv D)
    (hlists : (D.registry w.client).Lists w.delivered w.next) :
    (D.registry w'.client).Lists w'.delivered w'.next := by
  cases hadvance with
  | moved move next_le => exact (hlists.move h.tidy move).mono next_le
  | opened new connected registry_eq =>
    simp only [registry_eq]
    exact hlists.opened _ new _
  | lost ends registry_eq =>
    simp only [registry_eq]
    exact hlists.disconnect h.tidy ends _
  | told registry_eq =>
    simp only [registry_eq]
    exact hlists.taken

/-- The outputs are listed in the order in which they were made. -/
theorem run_ids (hD : D.Lawful) {c : κ} (hc : D.registry c = {}) (calls : List (Call ε))
    (hholds : ((start c).run D calls).broken = false) :
    (D.registry ((start c).run D calls).client).ids
      = alive (((start c).run D calls).history D) := by
  have hstart : (D.registry (start c).client).Lists (start c).delivered (start c).next := by
    simp only [start, hc]
    exact .start
  have hboth := run_keeps (D := D)
    (P := fun w => w.Inv D ∧ (D.registry w.client).Lists w.delivered w.next)
    (fun {w} call hone hboth => by
      obtain ⟨h, hlists⟩ := hboth
      have hadvance := step_advance hD h.tidy call hone
      exact ⟨h.advance_inv hadvance, hadvance.lists h hlists⟩)
    ⟨start_inv hc, hstart⟩ calls hholds
  exact hboth.2.ids_eq

end Course

end Display

end Scanout
