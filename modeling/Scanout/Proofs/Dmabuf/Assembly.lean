import Scanout.Proofs.Dmabuf.Planes

/-!
# A dmabuf put together

A builder is given planes in any order and with any indices: some may come twice, others never.
It takes the first four and refuses the rest, and what it hands out lists the planes it took by
their index, those of one index as they came. `Arranged` says this of two lists of planes. It
leaves no choice (`Arranged.unique`), so that what a builder gives is told in full by saying that
its planes are the accepted ones, arranged. The files, offsets and strides that importers read
side by side are drawn from this one list and agree position by position.
-/

namespace Scanout

namespace Arranged

variable {came planes : List Plane}

/-- Lists that are sorted by index are equal if they agree on the planes of each index. -/
theorem eq_of_kept : ∀ {ps qs : List Plane},
    (ps.Pairwise fun p q => p.index ≤ q.index) → (qs.Pairwise fun p q => p.index ≤ q.index) →
    (∀ index, ps.filter (fun p => p.index = index) = qs.filter (fun p => p.index = index)) →
    ps = qs
  | [], [], _, _, _ => rfl
  | [], q :: qs, _, _, hkept => by simpa using hkept q.index
  | p :: ps, [], _, _, hkept => by simpa using hkept p.index
  | p :: ps, q :: qs, hps, hqs, hkept => by
    obtain ⟨hp, hps'⟩ := List.pairwise_cons.mp hps
    obtain ⟨hq, hqs'⟩ := List.pairwise_cons.mp hqs
    have hmem (r : Plane) : r ∈ p :: ps ↔ r ∈ q :: qs := by
      have := congrArg (r ∈ ·) (hkept r.index)
      simpa only [List.mem_filter, decide_true, and_true, eq_iff_iff] using this
    -- Each head is among the other's planes, and so neither index is above the other.
    have hpq : p.index ≤ q.index := by
      rcases List.mem_cons.mp ((hmem q).mpr List.mem_cons_self) with rfl | hlater
      · exact UInt32.le_refl _
      · exact hp q hlater
    have hqp : q.index ≤ p.index := by
      rcases List.mem_cons.mp ((hmem p).mp List.mem_cons_self) with rfl | hlater
      · exact UInt32.le_refl _
      · exact hq p hlater
    have hsame : p.index = q.index := UInt32.le_antisymm hpq hqp
    have hheads := hkept p.index
    rw [List.filter_cons_of_pos (by simp), List.filter_cons_of_pos (by simp [hsame])] at hheads
    obtain ⟨rfl, -⟩ := List.cons.inj hheads
    refine congrArg (p :: ·) (eq_of_kept hps' hqs' fun index => ?_)
    have htails := hkept index
    by_cases hindex : p.index = index
    · rw [List.filter_cons_of_pos (by simpa using hindex),
        List.filter_cons_of_pos (by simpa using hindex)] at htails
      exact (List.cons.inj htails).2
    · rwa [List.filter_cons_of_neg (by simpa using hindex),
        List.filter_cons_of_neg (by simpa using hindex)] at htails

/-- There is one way to bring planes in order. -/
theorem unique {others : List Plane} (h : Arranged came planes) (h' : Arranged came others) :
    planes = others :=
  eq_of_kept h.ordered h'.ordered fun index => (h.kept index).trans (h'.kept index).symm

end Arranged

namespace Dmabuf.Builder

/-- Only an empty builder gives nothing. -/
theorem build?_eq_none_iff (b : Builder) : b.build? = none ↔ b.planes = [] := by
  rw [build?]
  split
  case isTrue hempty => simpa using hempty
  case isFalse hsome => simpa using hsome

/-- Of planes that are added one after the other those are taken that still find room. -/
theorem addPlanes_flags (planes : List Plane) :
    ∀ b : Builder, (b.addPlanes planes).1
      = (List.range planes.length).map fun i => decide (b.planes.length + i < maxPlanes) := by
  induction planes with
  | nil =>
    intro b
    rfl
  | cons p rest ih =>
    intro b
    show (b.addPlane p).1 :: ((b.addPlane p).2.addPlanes rest).1 = _
    rw [ih, List.length_cons, List.range_succ_eq_map, List.map_cons, List.map_map]
    by_cases hroom : b.planes.length < maxPlanes
    · have hadded : b.addPlane p = (true, { b with planes := b.planes ++ [p] }) := if_pos hroom
      refine congrArg₂ List.cons ?_ (List.map_congr_left fun i _ => ?_)
      · rw [hadded, Nat.add_zero, decide_eq_true hroom]
      · rw [hadded, List.length_append, List.length_singleton, Function.comp_apply,
          Nat.add_assoc, Nat.add_comm 1 i]
    · have hrefused : b.addPlane p = (false, b) := if_neg hroom
      refine congrArg₂ List.cons ?_ (List.map_congr_left fun i _ => ?_)
      · rw [hrefused, Nat.add_zero, decide_eq_false hroom]
      · have hfull (n : Nat) : ¬ b.planes.length + n < maxPlanes := by omega
        rw [hrefused, Function.comp_apply, decide_eq_false (hfull i), decide_eq_false (hfull _)]

end Dmabuf.Builder

namespace Dmabuf

/-- The files, offsets and strides of a dmabuf are those of its planes, place by place. -/
theorem views_agree (d : Dmabuf) (i : Nat) :
    d.files[i]? = d.planes[i]?.map (·.file) ∧ d.offsets[i]? = d.planes[i]?.map (·.offset) ∧
      d.strides[i]? = d.planes[i]?.map (·.stride) :=
  ⟨List.getElem?_map .., List.getElem?_map .., List.getElem?_map ..⟩

/-- **What a builder is given is what it hands out.** Of any planes, added one after the other,
the first four are taken and the others refused. Nothing comes of it exactly if there was no plane
at all; otherwise one dmabuf does, with the size, format and flags the builder was made with and
the planes that were taken, whole and brought in order: by index, and within one index as they were
added. Files, offsets and strides list the fields of these planes in the same order. -/
theorem assembled (width height : UInt32) (format : Format) (flags : DmabufFlags)
    (planes : List Plane) :
    let (taken, b) := (Builder.mk width height format flags []).addPlanes planes
    taken = (List.range planes.length).map (fun i => decide (i < 4)) ∧
      (b.build? = none ↔ planes = []) ∧
      ∀ d, b.build? = some d ↔
        planes ≠ [] ∧ Arranged (planes.take 4) d.planes ∧ d.width = width ∧ d.height = height ∧
        d.format = format ∧ d.flags = flags ∧
        (∀ i : Nat, d.files[i]? = d.planes[i]?.map (·.file) ∧
          d.offsets[i]? = d.planes[i]?.map (·.offset) ∧
          d.strides[i]? = d.planes[i]?.map (·.stride)) := by
  have hflags := Builder.addPlanes_flags planes ⟨width, height, format, flags, []⟩
  have htaken := Builder.addPlanes_taken planes ⟨width, height, format, flags, []⟩
  simp only [List.length_nil, Nat.zero_add, Nat.sub_zero, List.nil_append] at hflags htaken
  have hempty : planes.take maxPlanes = [] ↔ planes = [] := by simp [maxPlanes]
  refine ⟨hflags, ?_, fun d => ?_⟩
  · rw [Builder.build?_eq_none_iff, htaken]
    exact hempty
  rw [htaken]
  constructor
  · intro hbuilt
    have hsome : planes ≠ [] := by
      rintro rfl
      cases hbuilt
    obtain ⟨d', hbuilt', hwidth, hheight, hformat, hflags, harranged⟩ :=
      Builder.build?_arranged (b := ⟨width, height, format, flags, planes.take maxPlanes⟩)
        (mt hempty.mp hsome)
    obtain rfl := Option.some.inj (hbuilt.symm.trans hbuilt')
    exact ⟨hsome, harranged, hwidth, hheight, hformat, hflags, d.views_agree⟩
  · rintro ⟨hsome, harranged, hwidth, hheight, hformat, hflags, -⟩
    obtain ⟨d', hbuilt', hwidth', hheight', hformat', hflags', harranged'⟩ :=
      Builder.build?_arranged (b := ⟨width, height, format, flags, planes.take maxPlanes⟩)
        (mt hempty.mp hsome)
    have hplanes := harranged.unique harranged'
    rw [hbuilt']
    cases d
    cases d'
    simp_all

end Dmabuf

end Scanout
