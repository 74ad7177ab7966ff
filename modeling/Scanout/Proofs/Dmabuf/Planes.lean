import Mathlib.Algebra.GroupWithZero.Nat
import Scanout.Dmabuf

/-!
# The planes of a finished dmabuf

Planes come to the builder in any order. What it hands out lists them by their index, so that
whoever takes the planes by position and whoever takes them by index mean the same ones, provided
the indices are those of the positions (`Dense`).
-/

namespace Scanout

/-- Read as a signed number, a word with its highest bit set is negative. -/
theorem toInt_toInt32_eq (n : UInt32) :
    n.toInt32.toInt = if n.toNat < 2 ^ 31 then (n.toNat : Int) else n.toNat - (2 ^ 32 : Nat) := by
  have hcases : n.toInt32.toInt = if 2 * n.toNat < 2 ^ 32 then (n.toNat : Int)
      else (n.toNat : Int) - (2 ^ 32 : Nat) := BitVec.toInt_eq_toNat_cond n.toBitVec
  rw [hcases]
  split <;> split <;> omega

/-- The planes of one buffer, in any order: their indices count from zero without a gap. -/
def Dense (planes : List Plane) : Prop :=
  (planes.map (·.index.toNat)).Perm (List.range planes.length)

instance (planes : List Plane) : Decidable (Dense planes) :=
  inferInstanceAs (Decidable (List.Perm _ _))

/-- A list of planes brought in order: by index, and within one index as the planes came. -/
structure Arranged (came planes : List Plane) : Prop where
  perm : planes.Perm came
  ordered : planes.Pairwise fun p q => p.index ≤ q.index
  kept (index : UInt32) :
    planes.filter (fun p => p.index = index) = came.filter (fun p => p.index = index)

namespace Dmabuf.Builder

/-- Planes for which there is room are all taken, in the order they come. -/
theorem addPlanes_room (planes : List Plane) :
    ∀ b : Builder, b.planes.length + planes.length ≤ maxPlanes →
      b.addPlanes planes
        = (planes.map fun _ => true, { b with planes := b.planes ++ planes }) := by
  induction planes with
  | nil =>
    intro b _
    simp [addPlanes]
  | cons p rest ih =>
    intro b hroom
    rw [List.length_cons] at hroom
    have hone : b.addPlane p = (true, { b with planes := b.planes ++ [p] }) :=
      if_pos (by omega)
    have hrest := ih { b with planes := b.planes ++ [p] } (by simp; omega)
    simp only [addPlanes, hone, hrest, List.append_assoc, List.singleton_append, List.map_cons]

/-- Of planes that are added one after the other as many are taken as there is room for. -/
theorem addPlanes_taken (planes : List Plane) :
    ∀ b : Builder, (b.addPlanes planes).2
      = { b with planes := b.planes ++ planes.take (maxPlanes - b.planes.length) } := by
  induction planes with
  | nil =>
    intro b
    simp [addPlanes]
  | cons p rest ih =>
    intro b
    show ((b.addPlane p).2.addPlanes rest).2 = _
    rw [ih]
    by_cases hroom : b.planes.length < maxPlanes
    · have hone : (b.addPlane p).2 = { b with planes := b.planes ++ [p] } := by
        rw [addPlane, if_pos hroom]
      obtain ⟨room, hleft⟩ := Nat.exists_eq_add_of_lt hroom
      have hroom' : maxPlanes - b.planes.length = room + 1 := by omega
      have hrest : maxPlanes - (b.planes ++ [p]).length = room := by simp; omega
      rw [hone, hroom', hrest, List.take_succ_cons, List.append_assoc, List.singleton_append]
    · have hnone : maxPlanes - b.planes.length = 0 := by omega
      rw [addPlane, if_neg hroom, hnone, List.take_zero, List.take_zero]

/-- Planes for which there is no room are left out. -/
theorem addPlanes_length_le (planes : List Plane) (b : Builder)
    (hroom : b.planes.length ≤ maxPlanes) : (b.addPlanes planes).2.planes.length ≤ maxPlanes := by
  rw [addPlanes_taken, List.length_append, List.length_take]
  omega

/-- The planes of a finished dmabuf are those of the builder, brought in order. -/
theorem build?_arranged {b : Builder} (hsome : b.planes ≠ []) :
    ∃ d, b.build? = some d ∧ d.width = b.width ∧ d.height = b.height ∧ d.format = b.format ∧
      d.flags = b.flags ∧ Arranged b.planes d.planes := by
  have htrans (p q r : Plane) (hpq : decide (p.index ≤ q.index) = true)
      (hqr : decide (q.index ≤ r.index) = true) : decide (p.index ≤ r.index) = true :=
    decide_eq_true (UInt32.le_trans (of_decide_eq_true hpq) (of_decide_eq_true hqr))
  have htotal (p q : Plane) :
      (decide (p.index ≤ q.index) || decide (q.index ≤ p.index)) = true := by
    simpa using UInt32.le_total p.index q.index
  have hperm := List.mergeSort_perm b.planes fun p q => decide (p.index ≤ q.index)
  refine ⟨_, if_neg (by simpa using hsome), rfl, rfl, rfl, rfl, hperm, ?_, fun index => ?_⟩
  · exact (List.pairwise_mergeSort htrans htotal b.planes).imp of_decide_eq_true
  -- Planes of one index are in order as they came, and the sort keeps what is in order.
  · have hinorder : (b.planes.filter fun p => p.index = index).Pairwise
        fun p q => decide (p.index ≤ q.index) = true := by
      refine List.pairwise_iff_forall_sublist.mpr fun {p q} hpair => ?_
      have hp : p.index = index := by simpa using (List.mem_filter.mp (hpair.subset (by simp))).2
      have hq : q.index = index := by simpa using (List.mem_filter.mp (hpair.subset (by simp))).2
      rw [hp, hq]
      exact decide_eq_true (UInt32.le_refl _)
    have hsublist := (List.sublist_mergeSort htrans htotal hinorder List.filter_sublist).filter
      fun p => p.index = index
    rw [List.filter_filter] at hsublist
    simp only [Bool.and_self] at hsublist
    exact (hsublist.eq_of_length (hperm.filter _).length_eq.symm).symm

/-- A builder with planes gives a dmabuf that has them all, each after those of smaller index. -/
theorem build?_planes {b : Builder} (hsome : b.planes ≠ []) :
    ∃ d, b.build? = some d ∧ d.width = b.width ∧ d.height = b.height ∧ d.format = b.format ∧
      d.planes.Perm b.planes ∧ d.planes.Pairwise fun p q => p.index.toNat ≤ q.index.toNat := by
  obtain ⟨d, hbuilt, hwidth, hheight, hformat, -, harranged⟩ := build?_arranged hsome
  exact ⟨d, hbuilt, hwidth, hheight, hformat, harranged.perm,
    harranged.ordered.imp UInt32.le_iff_toNat_le.mp⟩

/-- If the indices are without a gap, they are the places of the planes. -/
theorem build?_dense {b : Builder} (hsome : b.planes ≠ []) (hdense : Dense b.planes) :
    ∃ d, b.build? = some d ∧ d.width = b.width ∧ d.height = b.height ∧ d.format = b.format ∧
      d.planes.Perm b.planes ∧ d.planes.map (·.index.toNat) = List.range b.planes.length := by
  obtain ⟨d, hbuilt, hwidth, hheight, hformat, hperm, hsorted⟩ := build?_planes hsome
  refine ⟨d, hbuilt, hwidth, hheight, hformat, hperm, ?_⟩
  refine List.Perm.eq_of_pairwise (fun i j _ _ => Nat.le_antisymm) (List.pairwise_map.mpr hsorted)
    List.pairwise_le_range ?_
  exact (hperm.map _).trans hdense

end Dmabuf.Builder

namespace Dmabuf

/-- Some builder gave the dmabuf, whatever it was told. -/
def Built (d : Dmabuf) : Prop :=
  ∃ (b : Builder) (planes : List Plane), b.planes = [] ∧ (b.addPlanes planes).2.build? = some d

/-- The builder gives every list of one to four planes that is sorted by index, and no other. -/
theorem built_iff (d : Dmabuf) :
    d.Built ↔ d.planes ≠ [] ∧ d.planes.length ≤ maxPlanes ∧
      d.planes.Pairwise fun p q => p.index.toNat ≤ q.index.toNat := by
  constructor
  · rintro ⟨b, planes, hempty, hbuilt⟩
    have hroom := b.addPlanes_length_le planes (by simp [hempty])
    have hsome : (b.addPlanes planes).2.planes ≠ [] := by
      intro hnone
      simp [Builder.build?, hnone] at hbuilt
    obtain ⟨d', hbuilt', -, -, -, hperm, hsorted⟩ := Builder.build?_planes hsome
    obtain rfl := Option.some.inj (hbuilt.symm.trans hbuilt')
    refine ⟨fun hnone => hsome (List.perm_nil.mp (hnone ▸ hperm).symm), ?_, hsorted⟩
    rwa [hperm.length_eq]
  · rintro ⟨hsome, hroom, hsorted⟩
    refine ⟨⟨d.width, d.height, d.format, d.flags, []⟩, d.planes, rfl, ?_⟩
    rw [Builder.addPlanes_room _ _ (by simpa using hroom)]
    have hmerge : (d.planes.mergeSort fun p q => p.index ≤ q.index) = d.planes :=
      List.mergeSort_of_pairwise (hsorted.imp fun h =>
        decide_eq_true (UInt32.le_iff_toNat_le.mpr h))
    simp [Builder.build?, hsome, hmerge]

instance (d : Dmabuf) : Decidable d.Built :=
  decidable_of_iff _ d.built_iff.symm

end Dmabuf

end Scanout
