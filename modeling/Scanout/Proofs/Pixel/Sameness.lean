import Mathlib.Data.List.Nodup
import Scanout.Proofs.Pixel.Additions

/-!
# When two format sets are the same

Sets are compared as if they had no order. With tidy entries that comes to comparing what they
contain (`Tidy.sameAs_iff`): two lists without repetitions and of one length have the same members
if one is part of the other. And what comes out of a tidy set makes the same set again, down to
its order, since each entry is put together at the end of those before it (`Tidy.ofList_toList`).
-/

namespace Scanout

/-- Of lists without repetitions, one is part of the other and as long exactly if both have the
same members. -/
theorem subset_of_length_iff {α : Type} {as bs : List α} (ha : as.Nodup) (hb : bs.Nodup) :
    (as.length = bs.length ∧ ∀ a ∈ as, a ∈ bs) ↔ ∀ a, a ∈ as ↔ a ∈ bs := by
  constructor
  · rintro ⟨hlength, hsubset⟩ a
    have hperm : as.Perm bs :=
      (List.subperm_of_subset ha hsubset).perm_of_length_le (Nat.le_of_eq hlength.symm)
    exact hperm.mem_iff
  · intro hsame
    exact ⟨((List.perm_ext_iff_of_nodup ha hb).mpr hsame).length_eq, fun a => (hsame a).mp⟩

theorem FormatEntry.sameAs_iff {a b : FormatEntry} (ha : a.modifiers.Nodup)
    (hb : b.modifiers.Nodup) :
    a.sameAs b = true ↔ a.code = b.code ∧ ∀ m, m ∈ a.modifiers ↔ m ∈ b.modifiers := by
  rw [← subset_of_length_iff ha hb]
  simp [sameAs, contains, and_assoc]

namespace FormatSet

variable {s a b : FormatSet}

/-! ## The contents of a tidy set -/

theorem Tidy.contains_iff (h : s.Tidy) {f : Format} :
    s.contains f = true ↔ ∃ e ∈ s.entries, e.code = f.code ∧ f.modifier ∈ e.modifiers := by
  simp only [contains, Option.any_eq_true, h.get?_eq_some_iff, FormatEntry.contains,
    List.contains_eq_mem, decide_eq_true_eq, and_assoc]

/-- The pixel formats of the entries are those of the contents, as no entry is empty. -/
theorem Tidy.mem_codes_iff (h : s.Tidy) {code : Fourcc} :
    code ∈ s.entries.map (·.code) ↔ ∃ m, s.contains ⟨code, m⟩ = true := by
  simp only [h.contains_iff, List.mem_map]
  constructor
  · rintro ⟨e, he, hcode⟩
    obtain ⟨m, hm⟩ := List.exists_mem_of_ne_nil _ (h.nonempty e he)
    exact ⟨m, e, he, hcode, hm⟩
  · rintro ⟨m, e, he, hcode, -⟩
    exact ⟨e, he, hcode⟩

/-- An entry has the layouts that the set contains under its pixel format. -/
theorem Tidy.mem_modifiers_iff (h : s.Tidy) {e : FormatEntry} (he : e ∈ s.entries)
    {m : Modifier} : m ∈ e.modifiers ↔ s.contains ⟨e.code, m⟩ = true := by
  rw [h.contains_iff]
  constructor
  · exact fun hm => ⟨e, he, rfl, hm⟩
  · rintro ⟨other, hother, hcode, hm⟩
    rwa [← List.inj_on_of_nodup_map h.entry_codes hother he hcode]

/-- Two tidy sets are the same exactly if they contain the same formats. -/
theorem Tidy.sameAs_iff (ha : a.Tidy) (hb : b.Tidy) :
    a.sameAs b = true ↔ ∀ f, a.contains f = true ↔ b.contains f = true := by
  have hsplit : a.sameAs b = true ↔ (a.entries.map (·.code)).length
      = (b.entries.map (·.code)).length ∧
      ∀ e ∈ a.entries, ∃ e' ∈ b.entries, e'.code = e.code ∧ e.sameAs e' = true := by
    rw [ha.codes_eq, hb.codes_eq]
    simp only [sameAs, size, Bool.and_eq_true, beq_iff_eq, List.length_map, List.all_eq_true,
      Option.any_eq_true, hb.get?_eq_some_iff, and_assoc]
    refine and_congr_right fun _ => ⟨fun hall e he => ?_, fun hall entry he => ?_⟩
    · exact hall (e.code, e) (ha.mem_filed_iff.mpr ⟨he, rfl⟩)
    · rw [← ha.own entry he]
      exact hall entry.2 (List.mem_map_of_mem he)
  rw [hsplit]
  constructor
  · rintro ⟨hlength, hentries⟩ f
    have hcodes := (subset_of_length_iff ha.entry_codes hb.entry_codes).mp ⟨hlength, fun code hcode => by
      obtain ⟨e, he, rfl⟩ := List.mem_map.mp hcode
      obtain ⟨e', he', hsame, -⟩ := hentries e he
      exact List.mem_map.mpr ⟨e', he', hsame⟩⟩
    by_cases hcode : f.code ∈ a.entries.map (·.code)
    · -- the two entries of the pixel format have the same layouts
      obtain ⟨e, he, hof⟩ := List.mem_map.mp hcode
      obtain ⟨e', he', heq, hsame⟩ := hentries e he
      obtain ⟨-, hlayouts⟩ :=
        (FormatEntry.sameAs_iff (ha.modifiers e he) (hb.modifiers e' he')).mp hsame
      have hlayout := hlayouts f.modifier
      rwa [ha.mem_modifiers_iff he, hb.mem_modifiers_iff he', heq, hof] at hlayout
    · have hcode' : f.code ∉ b.entries.map (·.code) := fun hmem =>
        hcode ((hcodes f.code).mpr hmem)
      rw [ha.mem_codes_iff, not_exists] at hcode
      rw [hb.mem_codes_iff, not_exists] at hcode'
      exact iff_of_false (hcode f.modifier) (hcode' f.modifier)
  · intro hsame
    have hcodes : ∀ code, code ∈ a.entries.map (·.code) ↔ code ∈ b.entries.map (·.code) := by
      intro code
      rw [ha.mem_codes_iff, hb.mem_codes_iff]
      exact exists_congr fun m => hsame ⟨code, m⟩
    obtain ⟨hlength, hsubset⟩ := (subset_of_length_iff ha.entry_codes hb.entry_codes).mpr hcodes
    refine ⟨hlength, fun e he => ?_⟩
    obtain ⟨e', he', heq⟩ := List.mem_map.mp (hsubset e.code (List.mem_map_of_mem he))
    refine ⟨e', he', heq,
      (FormatEntry.sameAs_iff (ha.modifiers e he) (hb.modifiers e' he')).mpr ⟨heq.symm, ?_⟩⟩
    intro m
    rw [ha.mem_modifiers_iff he, hb.mem_modifiers_iff he', hsame, heq]

/-! ## Collecting what comes out -/

/-- The formats of an entry, added behind entries of other pixel formats, make the entry. -/
theorem extend_formats {es : List (Fourcc × FormatEntry)} {code : Fourcc} {ms : List Modifier}
    (hnew : code ∉ es.map (·.1)) (hsome : ms ≠ []) (hnodup : ms.Nodup) :
    extend ⟨es⟩ (FormatEntry.formats ⟨code, ms⟩) = ⟨es ++ [(code, ⟨code, ms⟩)]⟩ := by
  induction ms using List.reverseRecOn with
  | nil => exact absurd rfl hsome
  | append_singleton ms m ih =>
    have hlast : extend ⟨es⟩ (FormatEntry.formats ⟨code, ms ++ [m]⟩)
        = (extend ⟨es⟩ (FormatEntry.formats ⟨code, ms⟩)).insert ⟨code, m⟩ := by
      rw [FormatEntry.formats, List.map_append, extend_append]
      rfl
    rw [hlast]
    obtain ⟨hms, -, hm⟩ := List.nodup_append.mp hnodup
    by_cases hnil : ms = []
    · subst hnil
      exact congrArg FormatSet.mk (insertEntry_of_notMem hnew)
    · have hfresh : m ∉ ms := fun hmem => hm m hmem m (List.mem_singleton_self m) rfl
      rw [ih hnil hms, insert, insertEntry_append_of_notMem hnew]
      simp [insertEntry, FormatEntry.insert, FormatEntry.contains, hfresh]

theorem extend_filed (todo : List (Fourcc × FormatEntry)) {done : List (Fourcc × FormatEntry)}
    (h : Tidy ⟨done ++ todo⟩) :
    extend ⟨done⟩ ((todo.map (·.2)).flatMap (·.formats)) = ⟨done ++ todo⟩ := by
  induction todo generalizing done with
  | nil => simp [extend]
  | cons entry todo ih =>
    obtain ⟨code, e⟩ := entry
    have hmem : (code, e) ∈ done ++ (code, e) :: todo := by simp
    obtain rfl : e.code = code := h.own _ hmem
    have hnew : e.code ∉ done.map (·.1) := by
      have hcodes := h.codes
      rw [List.map_append, List.nodup_append] at hcodes
      exact fun hdone => hcodes.2.2 _ hdone e.code List.mem_cons_self rfl
    have hnext : extend ⟨done⟩ e.formats = ⟨done ++ [(e.code, e)]⟩ :=
      extend_formats hnew (h.nonempty e (List.mem_map_of_mem hmem))
        (h.modifiers e (List.mem_map_of_mem hmem))
    rw [List.map_cons, List.flatMap_cons, extend_append, hnext,
      ih (by rwa [List.append_cons] at h), ← List.append_cons]

/-- What comes out of a tidy set makes the same set again, in the same order. -/
theorem Tidy.ofList_toList (h : s.Tidy) : ofList s.toList = s :=
  extend_filed s.filed (show Tidy ⟨[] ++ s.filed⟩ from h)

end FormatSet

end Scanout
