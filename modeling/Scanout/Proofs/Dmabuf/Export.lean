import Mathlib.Data.List.Nodup
import Scanout.Gbm
import Scanout.Proofs.Dmabuf.Planes

/-!
# Exporting the planes of a buffer object

An export asks the object for its planes and adds one after the other to a builder, which takes
four and refuses the others without the export looking. So the planes that come out are the first
ones of those that were asked for (`exportBy_eq_ok_iff`), and they are all of them exactly if there
are not more than the builder takes (`exported_in_full_iff`). A count that is negative as a signed
word is no such case, since then none is asked for and the export fails.
-/

namespace Scanout

theorem bind_eq_ok_iff {ε α β : Type} {x : Except ε α} {f : α → Except ε β} {b : β} :
    (x >>= f) = .ok b ↔ ∃ a, x = .ok a ∧ f a = .ok b := by
  cases x with
  | error e => simp [bind, Except.bind]
  | ok a => simp [bind, Except.bind]

namespace Gbm.PlaneAnswers

variable (q : PlaneAnswers)

/-- The object answers all questions about the plane at a place, and this is the plane. -/
structure Reports (place : Nat) (p : Plane) : Prop where
  index : p.index.toNat = place
  file : q.file place = .ok p.file
  offset : q.offset place = .ok p.offset
  stride : q.stride place = .ok p.stride

/-- The object answers all questions about the plane at a place. -/
def Answered (place : Nat) : Prop :=
  (q.file place).isOk ∧ (q.offset place).isOk ∧ (q.stride place).isOk

/-- The object has and describes more planes than a dmabuf has room for. -/
def Overfull : Prop :=
  ∃ count, q.count = .ok count ∧ Dmabuf.maxPlanes < count.toNat ∧ count.toNat < 2 ^ 31 ∧
    ∀ place < count.toNat, q.Answered place

variable {q}

theorem asked_eq (count : UInt32) :
    asked count = if count.toNat < 2 ^ 31 then count.toNat else 0 := by
  have hbound := count.toNat_lt
  show count.toInt32.toInt.toNat = _
  rw [toInt_toInt32_eq]
  split <;> omega

theorem asked_lt (count : UInt32) : asked count < 2 ^ 31 := by
  rw [asked_eq]
  split <;> omega

theorem plane_eq_ok_iff {place : Nat} {p : Plane} (hplace : place < 2 ^ 31) :
    q.plane place = .ok p ↔ q.Reports place p := by
  have hindex : place.toUInt32.toNat = place :=
    Nat.mod_eq_of_lt (Nat.lt_of_lt_of_le hplace (by decide))
  simp only [plane, bind_eq_ok_iff]
  constructor
  · rintro ⟨file, hfile, offset, hoffset, stride, hstride, hp⟩
    obtain rfl := Except.ok.inj hp
    exact ⟨hindex, hfile, hoffset, hstride⟩
  · rintro ⟨hat, hfile, hoffset, hstride⟩
    refine ⟨_, hfile, _, hoffset, _, hstride, ?_⟩
    have hsame : place.toUInt32 = p.index := UInt32.toNat_inj.mp (hindex.trans hat.symm)
    rw [hsame]
    rfl

theorem answered_iff {place : Nat} : q.Answered place ↔ ∃ p, q.plane place = .ok p := by
  have hok : ∀ {α : Type} (x : Except Failure α), x.isOk = true ↔ ∃ a, x = .ok a := by
    intro α x
    cases x <;> simp [Except.isOk, Except.toBool]
  simp only [Answered, hok, plane, bind_eq_ok_iff]
  constructor
  · rintro ⟨⟨file, hfile⟩, ⟨offset, hoffset⟩, stride, hstride⟩
    exact ⟨_, file, hfile, offset, hoffset, stride, hstride, rfl⟩
  · rintro ⟨_, file, hfile, offset, hoffset, stride, hstride, -⟩
    exact ⟨⟨file, hfile⟩, ⟨offset, hoffset⟩, stride, hstride⟩

/-- What is answered at all the first places is answered with a list of planes. -/
theorem exists_planes {n : Nat} (h : ∀ place < n, q.Answered place) :
    ∃ planes : List Plane, planes.length = n ∧
      ∀ i p, planes[i]? = some p → q.plane i = .ok p := by
  induction n with
  | zero => exact ⟨[], rfl, by simp⟩
  | succ n ih =>
    obtain ⟨planes, hlength, hplanes⟩ := ih fun place hlt => h place (Nat.lt_succ_of_lt hlt)
    obtain ⟨last, hlast⟩ := answered_iff.mp (h n (Nat.lt_succ_self n))
    refine ⟨planes ++ [last], by simp [hlength], fun i p hp => ?_⟩
    by_cases hi : i < planes.length
    · rw [List.getElem?_append_left hi] at hp
      exact hplanes i p hp
    · have hat : i = planes.length := by
        have hbound := (List.getElem?_eq_some_iff.mp hp).1
        rw [List.length_append, List.length_singleton] at hbound
        omega
      subst hat
      obtain rfl : last = p := by simpa using hp
      rw [hlength]
      exact hlast

end Gbm.PlaneAnswers

namespace GbmBuffer

open Gbm.PlaneAnswers Dmabuf

variable {q : Gbm.PlaneAnswers} {b : GbmBuffer} {d : Dmabuf}

/-- Asking for planes and adding them comes to adding the planes that are answered. -/
theorem addPlanesFrom_eq_ok_iff {left : Nat} : ∀ {place : Nat} {builder builder' : Builder},
    addPlanesFrom q left place builder = .ok builder' ↔
      ∃ planes : List Plane, planes.length = left ∧
        (∀ i p, planes[i]? = some p → q.plane (place + i) = .ok p) ∧
        (builder.addPlanes planes).2 = builder' := by
  induction left with
  | zero =>
    intro place builder builder'
    simp [addPlanesFrom, Builder.addPlanes]
  | succ left ih =>
    intro place builder builder'
    simp only [addPlanesFrom, bind_eq_ok_iff, ih]
    constructor
    · rintro ⟨first, hfirst, rest, hlength, hrest, hadded⟩
      refine ⟨first :: rest, by simp [hlength], fun i p hp => ?_, hadded⟩
      cases i with
      | zero =>
        obtain rfl : first = p := by simpa using hp
        exact hfirst
      | succ i =>
        have hlater := hrest i p (by simpa using hp)
        rwa [Nat.add_assoc, Nat.add_comm 1] at hlater
    · rintro ⟨planes, hlength, hplanes, hadded⟩
      obtain ⟨first, rest, rfl⟩ := List.exists_cons_of_length_eq_add_one hlength
      refine ⟨first, hplanes 0 first rfl, rest, by simpa using hlength, fun i p hp => ?_, hadded⟩
      rw [Nat.add_assoc, Nat.add_comm 1]
      exact hplanes (i + 1) p (by simpa using hp)

/-- The buffer as a dmabuf of the first of some planes. -/
def ofFirst (b : GbmBuffer) (planes : List Plane) : Dmabuf :=
  { width := b.width, height := b.height, format := b.format, flags := .none
    planes := planes.take maxPlanes }

/-- Planes at their places are in order, so there is nothing to sort. -/
theorem build?_of_reports {planes : List Plane} (hsome : planes ≠ [])
    (hplanes : ∀ i p, planes[i]? = some p → q.Reports i p) :
    (b.builder.addPlanes planes).2.build? = some (b.ofFirst planes) := by
  have htaken : (b.builder.addPlanes planes).2
      = { b.builder with planes := planes.take maxPlanes } := by
    rw [Builder.addPlanes_taken]
    rfl
  have hsorted : (planes.take maxPlanes).Pairwise fun p r => p.index ≤ r.index := by
    rw [List.pairwise_iff_getElem]
    intro i j hi hj hlt
    rw [List.length_take] at hi hj
    have hfirst := hplanes i _ (List.getElem?_eq_getElem (by omega))
    have hsecond := hplanes j _ (List.getElem?_eq_getElem (by omega))
    rw [List.getElem_take, List.getElem_take, UInt32.le_iff_toNat_le, hfirst.index, hsecond.index]
    exact Nat.le_of_lt hlt
  have hmerge : ((planes.take maxPlanes).mergeSort fun p r => p.index ≤ r.index)
      = planes.take maxPlanes :=
    List.mergeSort_of_pairwise (hsorted.imp fun h => decide_eq_true h)
  rw [htaken, Builder.build?, if_neg (by simp [hsome, maxPlanes]), hmerge]
  rfl

/-- What comes out of an export are the first planes of those that were asked for. -/
theorem exportBy_eq_ok_iff :
    b.exportBy q = .ok d ↔
      ∃ (count : UInt32) (planes : List Plane), q.count = .ok count ∧
        planes.length = asked count ∧ planes ≠ [] ∧
        (∀ i p, planes[i]? = some p → q.Reports i p) ∧ d = b.ofFirst planes := by
  have hreports : ∀ {count : UInt32} {planes : List Plane}, planes.length = asked count →
      ((∀ i p, planes[i]? = some p → q.plane (0 + i) = .ok p) ↔
        ∀ i p, planes[i]? = some p → q.Reports i p) := by
    intro count planes hlength
    refine forall₃_congr fun i p hp => ?_
    have hi := (List.getElem?_eq_some_iff.mp hp).1
    rw [hlength] at hi
    rw [Nat.zero_add, plane_eq_ok_iff (Nat.lt_trans hi (asked_lt count))]
  simp only [exportBy, bind_eq_ok_iff, addPlanesFrom_eq_ok_iff]
  constructor
  · rintro ⟨count, hcount, builder, ⟨planes, hlength, hplanes, rfl⟩, hbuilt⟩
    rw [hreports hlength] at hplanes
    by_cases hsome : planes = []
    · subst hsome
      exact absurd hbuilt (by simp [Builder.addPlanes, GbmBuffer.builder, Builder.build?])
    · rw [build?_of_reports hsome hplanes] at hbuilt
      exact ⟨count, planes, hcount, hlength, hsome, hplanes, (Except.ok.inj hbuilt).symm⟩
  · rintro ⟨count, planes, hcount, hlength, hsome, hplanes, rfl⟩
    refine ⟨count, hcount, _, ⟨planes, hlength, (hreports hlength).mpr hplanes, rfl⟩, ?_⟩
    rw [build?_of_reports hsome hplanes]

/-- An export succeeds if there are planes and every question about them is answered. -/
theorem exportBy_succeeds_iff :
    (∃ d, b.exportBy q = .ok d) ↔
      ∃ count, q.count = .ok count ∧ 0 < count.toNat ∧ count.toNat < 2 ^ 31 ∧
        ∀ place < count.toNat, q.Answered place := by
  simp only [exportBy_eq_ok_iff]
  constructor
  · rintro ⟨d, count, planes, hcount, hlength, hsome, hplanes, -⟩
    have hpos := List.length_pos_of_ne_nil hsome
    have hcount' := asked_eq count
    refine ⟨count, hcount, by split at hcount' <;> omega, by split at hcount' <;> omega,
      fun place hplace => ?_⟩
    have hlt : place < planes.length := by split at hcount' <;> omega
    have hreported := hplanes place _ (List.getElem?_eq_getElem hlt)
    exact answered_iff.mpr ⟨_, (plane_eq_ok_iff (Nat.lt_trans (hlength ▸ hlt)
      (asked_lt count))).mpr hreported⟩
  · rintro ⟨count, hcount, hpos, hbound, hanswered⟩
    have hasked : asked count = count.toNat := (asked_eq count).trans (if_pos hbound)
    obtain ⟨planes, hlength, hplanes⟩ := exists_planes hanswered
    refine ⟨_, count, planes, hcount, hlength.trans hasked.symm,
      List.ne_nil_of_length_pos (by omega), fun i p hp => ?_, rfl⟩
    have hi := (List.getElem?_eq_some_iff.mp hp).1
    exact (plane_eq_ok_iff (by omega)).mp (hplanes i p hp)

/-- What comes out has the size and the format of the buffer and, up to four, the planes of the
object. -/
theorem exportBy_first (h : b.exportBy q = .ok d) :
    d.width = b.width ∧ d.height = b.height ∧ d.format = b.format ∧ d.flags = .none ∧
    (∃ count, q.count = .ok count ∧ d.planes.length = min maxPlanes count.toNat) ∧
    ∀ i p, d.planes[i]? = some p → q.Reports i p := by
  obtain ⟨count, planes, hcount, hlength, hsome, hplanes, rfl⟩ := exportBy_eq_ok_iff.mp h
  refine ⟨rfl, rfl, rfl, rfl, ⟨count, hcount, ?_⟩, fun i p hp => ?_⟩
  · -- some plane was asked for, so the count was not negative
    have hpos := List.length_pos_of_ne_nil hsome
    have hasked := asked_eq count
    have htaken : (b.ofFirst planes).planes.length = min maxPlanes planes.length :=
      List.length_take
    split at hasked <;> omega
  · have htaken : (planes.take maxPlanes)[i]? = some p := hp
    rw [List.getElem?_take] at htaken
    split at htaken
    · exact hplanes i p htaken
    · exact absurd htaken (by simp)

/-- The format is the one that was read when the buffer was made of an object. -/
theorem exportBy_of_object (h : b.exportBy q = .ok d) (o : Gbm.Object) (rule : Gbm.LayoutRule) :
    ofObject o rule = .ok b →
      d.width = o.width ∧ d.height = o.height ∧ d.fourcc.code = o.formatCode ∧
      d.modifier = match rule with
        | .reported => o.modifier
        | .implicit => .invalid
        | .linear => .linear := by
  intro hmade
  obtain ⟨hwidth, hheight, hformat, -⟩ := exportBy_first h
  unfold ofObject at hmade
  split at hmade
  · exact absurd hmade (by simp)
  · next code hcode =>
    obtain rfl := Except.ok.inj hmade
    rw [Dmabuf.fourcc, Dmabuf.modifier, hformat]
    exact ⟨hwidth, hheight, Fourcc.code_of_ofCode? hcode, rfl⟩

/-- A dmabuf has every plane of the object it was exported from, at its place and as the object
reports it, and is otherwise what the buffer is. -/
structure InFull (b : GbmBuffer) (q : Gbm.PlaneAnswers) (d : Dmabuf) : Prop where
  width : d.width = b.width
  height : d.height = b.height
  format : d.format = b.format
  flags : d.flags = .none
  count : ∃ count, q.count = .ok count ∧ d.planes.length = count.toNat
  planes : ∀ i p, d.planes[i]? = some p → q.Reports i p

/-- **An export has all planes of the object, or fails, unless the object has more than fit.** This
is so whatever number of planes the object reports, whatever it says of each and whichever question
it does not answer: only if there are five or more, as many as a signed word can count, and all of
them are described, the export succeeds and leaves out those behind the fourth. An export succeeds
exactly if there is a plane, the count is not negative as a signed word and all questions are
answered. What comes out has in any case the size and the format of the buffer, and the planes in
it, up to four, stand at their places as reported. The layout is the one that the object reported
when it was made for a list of layouts, and otherwise the implicit one or that of plain rows,
whatever it reported. -/
theorem exported_in_full_iff (b : GbmBuffer) (q : Gbm.PlaneAnswers) :
    ((∀ d, b.exportBy q = .ok d → b.InFull q d) ↔ ¬ q.Overfull) ∧
    ((∃ d, b.exportBy q = .ok d) ↔
      ∃ count, q.count = .ok count ∧ 0 < count.toNat ∧ count.toNat < 2 ^ 31 ∧
        ∀ place < count.toNat, q.Answered place) ∧
    (∀ d, b.exportBy q = .ok d →
      d.width = b.width ∧ d.height = b.height ∧ d.format = b.format ∧ d.flags = .none ∧
      (∃ count, q.count = .ok count ∧ d.planes.length = min maxPlanes count.toNat) ∧
      ∀ i p, d.planes[i]? = some p → q.Reports i p) ∧
    ∀ o rule, ofObject o rule = .ok b → ∀ d, b.exportBy q = .ok d →
      d.width = o.width ∧ d.height = o.height ∧ d.fourcc.code = o.formatCode ∧
      d.modifier = match rule with
        | .reported => o.modifier
        | .implicit => .invalid
        | .linear => .linear := by
  refine ⟨⟨?_, fun hroom d hd => ?_⟩, exportBy_succeeds_iff, fun d hd => exportBy_first hd,
    fun o rule hmade d hd => exportBy_of_object hd o rule hmade⟩
  · rintro hall ⟨count, hcount, hmany, hbound, hanswered⟩
    obtain ⟨d, hd⟩ := (exportBy_succeeds_iff (b := b)).mpr
      ⟨count, hcount, Nat.zero_lt_of_lt hmany, hbound, hanswered⟩
    obtain ⟨-, -, -, -, ⟨count', hcount', hfour⟩, -⟩ := exportBy_first hd
    obtain ⟨count'', hcount'', hfull⟩ := (hall d hd).count
    obtain rfl := Except.ok.inj (hcount.symm.trans hcount')
    obtain rfl := Except.ok.inj (hcount.symm.trans hcount'')
    omega
  · obtain ⟨hwidth, hheight, hformat, hflags, ⟨count, hcount, hlength⟩, hplanes⟩ :=
      exportBy_first hd
    refine ⟨hwidth, hheight, hformat, hflags, ⟨count, hcount, ?_⟩, hplanes⟩
    obtain ⟨count', hcount', -, hbound, hanswered⟩ := exportBy_succeeds_iff.mp ⟨d, hd⟩
    obtain rfl := Except.ok.inj (hcount.symm.trans hcount')
    have hfew : ¬ maxPlanes < count.toNat := fun hmany =>
      hroom ⟨count, hcount, hmany, hbound, hanswered⟩
    omega

/-- An object of five planes that answers every question. -/
def fivePlanes : GbmBuffer :=
  { object := {
      width := 64, height := 64, formatCode := Fourcc.xrgb8888.code, modifier := .linear
      planes := [(0, 256), (16384, 256), (32768, 256), (49152, 256), (65536, 256)]
      badPlane := none }
    width := 64, height := 64, format := ⟨.xrgb8888, .linear⟩ }

/-- The export of five planes succeeds and has four. -/
theorem fifth_plane_left_out :
    (planeAnswers fivePlanes.object true).count = .ok 5 ∧
    ∃ d, fivePlanes.exportDmabuf true = .ok d ∧ d.planes.length = 4 ∧
      ¬ fivePlanes.InFull (planeAnswers fivePlanes.object true) d := by
  have hcount : (planeAnswers fivePlanes.object true).count = .ok 5 := rfl
  have hreports : ∀ (i : Nat) (p : Plane), ([⟨.null, 0, 0, 256⟩, ⟨.null, 1, 16384, 256⟩,
      ⟨.null, 2, 32768, 256⟩, ⟨.null, 3, 49152, 256⟩, ⟨.null, 4, 65536, 256⟩] : List Plane)[i]?
        = some p → (planeAnswers fivePlanes.object true).Reports i p := by
    intro i p hp
    match i with
    | 0 | 1 | 2 | 3 | 4 =>
      obtain rfl := Option.some.inj hp
      exact ⟨rfl, rfl, rfl, rfl⟩
    | _ + 5 => exact absurd hp (by simp)
  have hexport := (exportBy_eq_ok_iff (b := fivePlanes)).mpr
    ⟨5, _, hcount, by decide, by simp, hreports, rfl⟩
  refine ⟨hcount, _, hexport, rfl, fun hfull => ?_⟩
  obtain ⟨count, hcount', hlength⟩ := hfull.count
  obtain rfl := Except.ok.inj (hcount.symm.trans hcount')
  exact absurd hlength (by decide)

end GbmBuffer

end Scanout
