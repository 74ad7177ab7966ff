import Scanout.Pixel.FormatSet

/-!
# Format sets only grow

Adding formats to a set loses none, and it changes the set exactly if one of them was not in
it. Nothing is assumed of the set: an entry that stands behind another one of its code is never
looked at.
-/

namespace Scanout

theorem FormatEntry.contains_insert (e : FormatEntry) (m n : Modifier) :
    (e.insert m).contains n = true ↔ n = m ∨ e.contains n = true := by
  unfold insert
  split
  · next hm =>
    constructor
    · exact .inr
    · rintro (rfl | hn)
      · exact hm
      · exact hn
  · simp only [contains, List.contains_eq_mem, List.mem_append, List.mem_singleton,
      decide_eq_true_eq, or_comm]

/-- Inserting a layout always gives another entry, unless it was there. -/
theorem FormatEntry.insert_eq_self_iff (e : FormatEntry) (m : Modifier) :
    e.insert m = e ↔ e.contains m = true := by
  constructor
  · intro heq
    rw [← heq]
    exact (contains_insert e m m).mpr (.inl rfl)
  · intro hm
    simp only [insert, hm, if_true]

namespace FormatSet

theorem find?_insertEntry_self (f : Format) (es : List (Fourcc × FormatEntry)) :
    ((insertEntry f es).find? (·.1 = f.code)).map (·.2)
      = some (match (es.find? (·.1 = f.code)).map (·.2) with
        | some e => e.insert f.modifier
        | none => ⟨f.code, [f.modifier]⟩) := by
  induction es with
  | nil => simp [insertEntry]
  | cons entry es ih =>
    obtain ⟨code, e⟩ := entry
    by_cases hcode : code = f.code
    · simp [insertEntry, hcode]
    · simpa [insertEntry, hcode] using ih

theorem find?_insertEntry_of_ne {f : Format} {code : Fourcc} (hne : f.code ≠ code)
    (es : List (Fourcc × FormatEntry)) :
    (insertEntry f es).find? (·.1 = code) = es.find? (·.1 = code) := by
  induction es with
  | nil => simp [insertEntry, hne]
  | cons entry es ih =>
    obtain ⟨other, e⟩ := entry
    by_cases hcode : other = f.code
    · simp [insertEntry, hcode, hne]
    · simp only [insertEntry, hcode, if_false, List.find?_cons, ih]

variable (s : FormatSet)

theorem get?_insert_of_ne {f : Format} {code : Fourcc} (hne : f.code ≠ code) :
    (s.insert f).get? code = s.get? code :=
  congrArg (·.map (·.2)) (find?_insertEntry_of_ne hne s.filed)

theorem get?_insert_self (f : Format) :
    (s.insert f).get? f.code = some (match s.get? f.code with
      | some e => e.insert f.modifier
      | none => ⟨f.code, [f.modifier]⟩) :=
  find?_insertEntry_self f s.filed

theorem contains_insert (f g : Format) :
    (s.insert f).contains g = true ↔ g = f ∨ s.contains g = true := by
  by_cases hcode : f.code = g.code
  · have hformat : g = f ↔ g.modifier = f.modifier := by
      cases f
      cases g
      simp_all
    rw [hformat, contains, ← hcode, get?_insert_self, contains, ← hcode]
    cases s.get? f.code with
    | none => simp [FormatEntry.contains]
    | some e => simpa using e.contains_insert f.modifier g.modifier
  · have hne : g ≠ f := fun h => hcode (congrArg Format.code h.symm)
    simp only [contains, get?_insert_of_ne s hcode, hne, false_or]

/-- Adding a format that is there changes nothing. -/
theorem insert_of_contains {f : Format} (h : s.contains f = true) : s.insert f = s := by
  obtain ⟨es⟩ := s
  simp only [insert, FormatSet.mk.injEq]
  induction es with
  | nil => exact absurd h (by simp [contains, get?])
  | cons entry es ih =>
    obtain ⟨code, e⟩ := entry
    by_cases hcode : code = f.code
    · have he : e.contains f.modifier = true := by simpa [contains, get?, hcode] using h
      simp only [insertEntry, hcode, if_true, (e.insert_eq_self_iff f.modifier).mpr he]
    · have hrest : (FormatSet.mk es).contains f = true := by
        simpa [contains, get?, hcode] using h
      simp only [insertEntry, hcode, if_false, ih hrest]

theorem get?_insert_isSome (f : Format) (code : Fourcc) :
    ((s.insert f).get? code).isSome = true ↔ f.code = code ∨ (s.get? code).isSome = true := by
  by_cases hcode : f.code = code
  · subst hcode
    simp [get?_insert_self]
  · simp [get?_insert_of_ne s hcode, hcode]

theorem extend_append (fs gs : List Format) : s.extend (fs ++ gs) = (s.extend fs).extend gs :=
  List.foldl_append

theorem contains_extend (fs : List Format) (g : Format) :
    (s.extend fs).contains g = true ↔ g ∈ fs ∨ s.contains g = true := by
  induction fs generalizing s with
  | nil => simp [extend]
  | cons f fs ih =>
    show ((s.insert f).extend fs).contains g = true ↔ _
    rw [ih, contains_insert, List.mem_cons, or_assoc, or_left_comm]

theorem get?_extend_isSome (fs : List Format) (code : Fourcc) :
    ((s.extend fs).get? code).isSome = true ↔
      (∃ f ∈ fs, f.code = code) ∨ (s.get? code).isSome = true := by
  induction fs generalizing s with
  | nil => simp [extend]
  | cons f fs ih =>
    show (((s.insert f).extend fs).get? code).isSome = true ↔ _
    simp only [ih, get?_insert_isSome, List.mem_cons, exists_eq_or_imp]
    rw [or_assoc, or_left_comm]

omit s in
theorem contains_ofList (fs : List Format) (g : Format) :
    (ofList fs).contains g = true ↔ g ∈ fs := by
  rw [ofList, contains_extend]
  simp [empty, contains, get?]

/-- A set is left as it is by what it contains, and by nothing else. -/
theorem extend_eq_self_iff (fs : List Format) :
    s.extend fs = s ↔ ∀ f ∈ fs, s.contains f = true := by
  constructor
  · intro heq f hf
    rw [← heq]
    exact (s.contains_extend fs f).mpr (.inl hf)
  · intro hall
    induction fs with
    | nil => rfl
    | cons f fs ih =>
      show (s.insert f).extend fs = s
      rw [s.insert_of_contains (hall f List.mem_cons_self)]
      exact ih fun g hg => hall g (List.mem_cons_of_mem f hg)

end FormatSet

end Scanout
