import Mathlib.Data.Finset.Card
import Mathlib.Data.List.Induction
import Scanout.Proofs.Pixel.FormatSets

/-!
# A format set is the list of what was added to it

A set that was filled by adding, extending and collecting in any order is told from the plain list
of the formats added, repetitions and all: its pixel formats are those of the list in the order of
their first addition, and the layouts of each are those added under it in the order of theirs
(`entries_ofList`). What is asked of the set is then asked of the list (`agrees_with_additions`).
The entries are `Tidy`: of different pixel formats, none of them empty and none with a layout twice.
-/

namespace Scanout

/-! ## First occurrences -/

section

variable {α : Type} [DecidableEq α]

theorem eraseDups_concat (l : List α) (a : α) :
    (l ++ [a]).eraseDups = if a ∈ l then l.eraseDups else l.eraseDups ++ [a] := by
  rw [List.eraseDups_append]
  by_cases h : a ∈ l <;> simp [List.removeAll, h, List.eraseDups_cons]

theorem nodup_eraseDups (l : List α) : l.eraseDups.Nodup := by
  induction l using List.reverseRecOn with
  | nil => exact List.nodup_nil
  | append_singleton l a ih =>
    rw [eraseDups_concat]
    split
    · exact ih
    · next h =>
      rw [← List.concat_eq_append, List.nodup_concat]
      exact ⟨fun hmem => h (List.mem_eraseDups.mp hmem), ih⟩

/-- Marking all elements of a list in the same way does not change which of them came before. -/
theorem eraseDups_map {β : Type} [DecidableEq β] {g : α → β} (hg : Function.Injective g)
    (l : List α) : (l.map g).eraseDups = l.eraseDups.map g := by
  induction l using List.reverseRecOn with
  | nil => rfl
  | append_singleton l a ih =>
    rw [List.map_append, List.map_singleton, eraseDups_concat, eraseDups_concat, ih]
    simp only [List.mem_map_of_injective hg]
    split <;> simp

end

namespace FormatSet

/-! ## Where an addition goes -/

section

variable {f : Format} {es : List (Fourcc × FormatEntry)}

theorem insertEntry_append_of_notMem (h : f.code ∉ es.map (·.1))
    (rest : List (Fourcc × FormatEntry)) :
    insertEntry f (es ++ rest) = es ++ insertEntry f rest := by
  induction es with
  | nil => rfl
  | cons entry es ih =>
    obtain ⟨code, e⟩ := entry
    obtain ⟨hfirst, hrest⟩ : f.code ≠ code ∧ f.code ∉ es.map (·.1) := by simpa using h
    rw [List.cons_append, insertEntry, if_neg (Ne.symm hfirst), ih hrest, List.cons_append]

theorem insertEntry_of_notMem (h : f.code ∉ es.map (·.1)) :
    insertEntry f es = es ++ [(f.code, ⟨f.code, [f.modifier]⟩)] := by
  have happend := insertEntry_append_of_notMem h []
  rwa [List.append_nil] at happend

theorem insertEntry_of_mem (hcodes : (es.map (·.1)).Nodup) (h : f.code ∈ es.map (·.1)) :
    insertEntry f es = es.map fun entry =>
      if entry.1 = f.code then (entry.1, entry.2.insert f.modifier) else entry := by
  induction es with
  | nil => exact absurd h List.not_mem_nil
  | cons entry es ih =>
    obtain ⟨code, e⟩ := entry
    rw [List.map_cons, List.nodup_cons] at hcodes
    rw [List.map_cons]
    by_cases hcode : code = f.code
    · -- nothing else is filed under the code
      have hrest : es.map (fun entry => if entry.1 = f.code
          then (entry.1, entry.2.insert f.modifier) else entry) = es := by
        refine (List.map_congr_left fun other hother => if_neg fun heq => hcodes.1 ?_).trans
          (List.map_id es)
        show code ∈ es.map (·.1)
        rw [hcode, ← heq]
        exact List.mem_map_of_mem hother
      rw [insertEntry, if_pos hcode, if_pos hcode, hrest]
    · have hmem : f.code ∈ es.map (·.1) := by
        rcases List.mem_cons.mp h with heq | hmem
        · exact absurd heq.symm hcode
        · exact hmem
      rw [insertEntry, if_neg hcode, if_neg hcode, ih hcodes.2 hmem]

end

/-! ## The entries, from the list of additions -/

/-- The layouts added under a pixel format, in the order of their first addition. -/
def layoutsOf (fs : List Format) (code : Fourcc) : List Modifier :=
  ((fs.filter (·.code = code)).map (·.modifier)).eraseDups

/-- The pixel formats added, in the order of their first addition. -/
def codesOf (fs : List Format) : List Fourcc :=
  (fs.map (·.code)).eraseDups

theorem mem_codesOf {fs : List Format} {code : Fourcc} :
    code ∈ codesOf fs ↔ ∃ f ∈ fs, f.code = code := by
  rw [codesOf, List.mem_eraseDups, List.mem_map]

theorem mem_layoutsOf {fs : List Format} {f : Format} :
    f.modifier ∈ layoutsOf fs f.code ↔ f ∈ fs := by
  rw [layoutsOf, List.mem_eraseDups, List.mem_map]
  constructor
  · rintro ⟨g, hg, hmodifier⟩
    obtain ⟨hmem, hcode⟩ := List.mem_filter.mp hg
    obtain rfl : g = f := by
      cases g
      cases f
      simp_all
    exact hmem
  · intro hmem
    exact ⟨f, List.mem_filter.mpr ⟨hmem, by simp⟩, rfl⟩

theorem layoutsOf_concat_of_ne {fs : List Format} {f : Format} {code : Fourcc}
    (h : f.code ≠ code) : layoutsOf (fs ++ [f]) code = layoutsOf fs code := by
  simp [layoutsOf, List.filter_append, h]

theorem layoutsOf_concat_self (fs : List Format) (f : Format) :
    layoutsOf (fs ++ [f]) f.code
      = if f ∈ fs then layoutsOf fs f.code else layoutsOf fs f.code ++ [f.modifier] := by
  have hmem : f.modifier ∈ (fs.filter (·.code = f.code)).map (·.modifier) ↔ f ∈ fs :=
    List.mem_eraseDups.symm.trans mem_layoutsOf
  have hlast : (fs ++ [f]).filter (·.code = f.code) = fs.filter (·.code = f.code) ++ [f] := by
    simp [List.filter_append]
  rw [layoutsOf, hlast, List.map_append, List.map_singleton, eraseDups_concat]
  simp only [hmem]
  rfl

theorem ofList_concat (fs : List Format) (f : Format) :
    ofList (fs ++ [f]) = (ofList fs).insert f := by
  rw [ofList, extend_append]
  rfl

/-- The entry with the layouts added under a pixel format, filed under that format. -/
def entryOf (fs : List Format) (code : Fourcc) : Fourcc × FormatEntry :=
  (code, ⟨code, layoutsOf fs code⟩)

/-- What is filed under are the pixel formats added. -/
theorem map_entryOf (fs : List Format) (codes : List Fourcc) :
    (codes.map (entryOf fs)).map (·.1) = codes := by
  rw [List.map_map]
  exact List.map_id _

/-- The entries of a set are the pixel formats added to it, each with the layouts added under it. -/
theorem filed_ofList (fs : List Format) : (ofList fs).filed = (codesOf fs).map (entryOf fs) := by
  induction fs using List.reverseRecOn with
  | nil => rfl
  | append_singleton fs f ih =>
    have hcodes := map_entryOf fs (codesOf fs)
    have hlast : codesOf (fs ++ [f])
        = if f.code ∈ fs.map (·.code) then codesOf fs else codesOf fs ++ [f.code] := by
      rw [codesOf, List.map_append, List.map_singleton, eraseDups_concat]
      rfl
    rw [ofList_concat, insert, ih, hlast]
    by_cases hcode : f.code ∈ codesOf fs
    · rw [insertEntry_of_mem (by rw [hcodes]; exact nodup_eraseDups _) (by rwa [hcodes]),
        if_pos (List.mem_eraseDups.mp hcode), List.map_map]
      refine List.map_congr_left fun code _ => ?_
      by_cases hsame : code = f.code
      · subst hsame
        rw [entryOf, layoutsOf_concat_self]
        simp only [Function.comp_apply, entryOf, if_true, FormatEntry.insert,
          FormatEntry.contains, List.contains_eq_mem, decide_eq_true_eq, mem_layoutsOf]
        split <;> rfl
      · rw [entryOf, layoutsOf_concat_of_ne (Ne.symm hsame)]
        exact if_neg hsame
    · -- a pixel format that is new comes last, with this one layout
      rw [insertEntry_of_notMem (by rwa [hcodes]),
        if_neg fun hmem => hcode (List.mem_eraseDups.mpr hmem), List.map_append,
        List.map_singleton]
      have hfirst : layoutsOf fs f.code = [] := by
        rw [layoutsOf, List.filter_eq_nil_iff.mpr fun g hg heq => hcode
          (mem_codesOf.mpr ⟨g, hg, of_decide_eq_true heq⟩)]
        rfl
      have hnew : f ∉ fs := fun hmem => hcode (mem_codesOf.mpr ⟨f, hmem, rfl⟩)
      have hothers : (codesOf fs).map (entryOf fs) = (codesOf fs).map (entryOf (fs ++ [f])) := by
        refine List.map_congr_left fun code hmem => ?_
        rw [entryOf, entryOf, layoutsOf_concat_of_ne fun heq => hcode (heq ▸ hmem)]
      rw [entryOf, layoutsOf_concat_self, if_neg hnew, hfirst, List.nil_append, hothers]

/-! ## What holds of the entries -/

/-- The entries are filed under their own pixel formats, each under another one. None is empty, and
none has a layout twice. -/
structure Tidy (s : FormatSet) : Prop where
  codes : (s.filed.map (·.1)).Nodup
  own : ∀ entry ∈ s.filed, entry.2.code = entry.1
  nonempty : ∀ e ∈ s.entries, e.modifiers ≠ []
  modifiers : ∀ e ∈ s.entries, e.modifiers.Nodup

theorem codes_ofList (fs : List Format) : (ofList fs).filed.map (·.1) = codesOf fs := by
  rw [filed_ofList]
  exact map_entryOf fs _

theorem entries_ofList (fs : List Format) :
    (ofList fs).entries = (codesOf fs).map fun code => ⟨code, layoutsOf fs code⟩ := by
  rw [entries, filed_ofList, List.map_map]
  rfl

theorem tidy_ofList (fs : List Format) : (ofList fs).Tidy where
  codes := by
    rw [codes_ofList]
    exact nodup_eraseDups _
  own := by
    intro entry he
    rw [filed_ofList] at he
    obtain ⟨code, -, rfl⟩ := List.mem_map.mp he
    rfl
  nonempty := by
    intro e he hempty
    rw [entries_ofList] at he
    obtain ⟨code, hcode, rfl⟩ := List.mem_map.mp he
    obtain ⟨f, hf, rfl⟩ := mem_codesOf.mp hcode
    exact List.ne_nil_of_mem (mem_layoutsOf.mpr hf) hempty
  modifiers := by
    intro e he
    rw [entries_ofList] at he
    obtain ⟨code, -, rfl⟩ := List.mem_map.mp he
    exact nodup_eraseDups _

/-- The pixel formats of the entries are those they are filed under. -/
theorem Tidy.codes_eq {s : FormatSet} (h : s.Tidy) :
    s.entries.map (·.code) = s.filed.map (·.1) := by
  rw [entries, List.map_map]
  exact List.map_congr_left h.own

theorem Tidy.entry_codes {s : FormatSet} (h : s.Tidy) : (s.entries.map (·.code)).Nodup :=
  h.codes_eq ▸ h.codes

theorem Tidy.mem_filed_iff {s : FormatSet} (h : s.Tidy) {code : Fourcc} {e : FormatEntry} :
    (code, e) ∈ s.filed ↔ e ∈ s.entries ∧ e.code = code := by
  constructor
  · exact fun hmem => ⟨List.mem_map_of_mem hmem, h.own _ hmem⟩
  · rintro ⟨hmem, rfl⟩
    obtain ⟨⟨other, e'⟩, hentry, rfl⟩ := List.mem_map.mp hmem
    rwa [show e'.code = other from h.own _ hentry]

/-- An entry is found under its own pixel format, and under no other. -/
theorem Tidy.get?_eq_some_iff {s : FormatSet} (h : s.Tidy) {code : Fourcc} {e : FormatEntry} :
    s.get? code = some e ↔ e ∈ s.entries ∧ e.code = code := by
  rw [← h.mem_filed_iff, get?, Option.map_eq_some_iff]
  constructor
  · rintro ⟨⟨other, e'⟩, hfound, rfl⟩
    obtain rfl : other = code := of_decide_eq_true (List.find?_some hfound :)
    exact List.mem_of_find?_eq_some hfound
  · intro hmem
    obtain ⟨found, hfound⟩ : ∃ found, s.filed.find? (·.1 = code) = some found :=
      Option.isSome_iff_exists.mp (List.find?_isSome.mpr ⟨_, hmem, decide_eq_true rfl⟩)
    have hcode : found.1 = code := of_decide_eq_true (List.find?_some hfound :)
    have hsame : found = (code, e) :=
      List.inj_on_of_nodup_map h.codes (List.mem_of_find?_eq_some hfound) hmem hcode
    exact ⟨found, hfound, congrArg Prod.snd hsame⟩

/-! ## Any way of filling a set -/

/-- The ways to change a set. -/
inductive Change where
  | add (format : Format)
  | extend (formats : List Format)
  /-- The set is collected anew, from what comes out of it or from anything else. -/
  | collect (formats : List Format)
  deriving DecidableEq, Repr

def change (s : FormatSet) : Change → FormatSet
  | .add f => (s.add f).2
  | .extend fs => s.extend fs
  | .collect fs => .ofList fs

/-- The set after a number of changes. -/
def filled (changes : List Change) : FormatSet :=
  changes.foldl change empty

/-- The formats added in all, to a set to which some were added before. -/
def addedBy (fs : List Format) : Change → List Format
  | .add f => fs ++ [f]
  | .extend gs => fs ++ gs
  | .collect gs => gs

/-- The formats that were added to the set, one after the other. -/
def additions (changes : List Change) : List Format :=
  changes.foldl addedBy []

theorem change_ofList (fs : List Format) (c : Change) :
    (ofList fs).change c = ofList (addedBy fs c) := by
  cases c with
  | add f => exact (ofList_concat fs f).symm
  | extend gs => exact (extend_append empty fs gs).symm
  | collect gs => rfl

/-- However a set is filled, it is the one collected from what was added. -/
theorem filled_eq_ofList (changes : List Change) : filled changes = ofList (additions changes) := by
  induction changes using List.reverseRecOn with
  | nil => rfl
  | append_singleton changes c ih =>
    have hrun : filled (changes ++ [c]) = (filled changes).change c := by
      simp [filled, List.foldl_append]
    have hlist : additions (changes ++ [c]) = addedBy (additions changes) c := by
      simp [additions, List.foldl_append]
    rw [hrun, ih, change_ofList, hlist]

/-- The formats of a set, grouped by the pixel formats, each in the order of first addition. -/
theorem toList_ofList (fs : List Format) :
    (ofList fs).toList
      = (fs.map (·.code)).eraseDups.flatMap fun code => (fs.filter (·.code = code)).eraseDups := by
  rw [toList, entries_ofList, List.flatMap_map]
  refine List.flatMap_congr fun code _ => ?_
  have hpair : Function.Injective (Format.mk code) := fun m n h => congrArg Format.modifier h
  show (layoutsOf fs code).map (Format.mk code) = _
  rw [layoutsOf, ← eraseDups_map hpair, List.map_map]
  congr 1
  refine (List.map_congr_left fun f hf => ?_).trans (List.map_id _)
  obtain ⟨-, hcode⟩ := List.mem_filter.mp hf
  obtain rfl : f.code = code := of_decide_eq_true hcode
  rfl

theorem nodup_toList_ofList (fs : List Format) : (ofList fs).toList.Nodup := by
  rw [toList_ofList, List.nodup_flatMap]
  refine ⟨fun code _ => nodup_eraseDups _, (nodup_eraseDups (fs.map (·.code))).imp ?_⟩
  intro a b hne f hfa hfb
  have ha := (List.mem_filter.mp (List.mem_eraseDups.mp hfa)).2
  have hb := (List.mem_filter.mp (List.mem_eraseDups.mp hfb)).2
  exact hne ((of_decide_eq_true ha).symm.trans (of_decide_eq_true hb))

theorem mem_toList_ofList {fs : List Format} {f : Format} : f ∈ (ofList fs).toList ↔ f ∈ fs := by
  rw [toList_ofList, List.mem_flatMap]
  constructor
  · rintro ⟨code, -, hf⟩
    exact (List.mem_filter.mp (List.mem_eraseDups.mp hf)).1
  · intro hf
    exact ⟨f.code, mem_codesOf.mpr ⟨f, hf, rfl⟩,
      List.mem_eraseDups.mpr (List.mem_filter.mpr ⟨hf, by simp⟩)⟩

/-- **A set agrees with the list of what was added to it**, however the adding, extending and
collecting took turns. It contains what is in the list. Adding says whether a format was missing
from the list, and if not leaves the set as it is, order and all. What is in the list comes out
once, the pixel formats in the order in which they were first added and under each the layouts in
the order of theirs. The size is the number of different pixel formats. An entry is found for those
that were added, it is never empty, and it stands under its own pixel format and no other. -/
theorem agrees_with_additions (changes : List Change) :
    let s := filled changes
    let fs := additions changes
    (∀ f, s.contains f = true ↔ f ∈ fs) ∧
    (∀ f, ((s.add f).1 = true ↔ f ∉ fs) ∧ (f ∈ fs → (s.add f).2 = s)) ∧
    (s.toList.Nodup ∧ (∀ f, f ∈ s.toList ↔ f ∈ fs) ∧
      s.toList = (fs.map (·.code)).eraseDups.flatMap fun code =>
        (fs.filter (·.code = code)).eraseDups) ∧
    s.size = (fs.map (·.code)).toFinset.card ∧
    (∀ code, (s.get? code).isSome = true ↔ ∃ f ∈ fs, f.code = code) ∧
    (∀ code e, s.get? code = some e ↔ e ∈ s.entries ∧ e.code = code) ∧
    (∀ e ∈ s.entries, e.modifiers ≠ []) ∧
    ∀ entry ∈ s.filed, entry.2.code = entry.1 := by
  intro s fs
  have hs : s = ofList fs := filled_eq_ofList changes
  have htidy : s.Tidy := hs ▸ tidy_ofList fs
  have hcontains : ∀ f, s.contains f = true ↔ f ∈ fs := fun f => hs ▸ contains_ofList fs f
  refine ⟨hcontains, fun f => ⟨?_, fun hf => ?_⟩, ⟨?_, fun f => ?_, ?_⟩, ?_, fun code => ?_,
    fun code e => htidy.get?_eq_some_iff, htidy.nonempty, htidy.own⟩
  · rw [← hcontains, add, Bool.not_eq_true', Bool.not_eq_true]
  · exact s.insert_of_contains ((hcontains f).mpr hf)
  · rw [hs]
    exact nodup_toList_ofList fs
  · rw [hs]
    exact mem_toList_ofList
  · rw [hs]
    exact toList_ofList fs
  · have hcodes : (codesOf fs).toFinset = (fs.map (·.code)).toFinset := by
      ext code
      simp [codesOf]
    have hnodup : (codesOf fs).Nodup := nodup_eraseDups _
    rw [← hcodes, List.toFinset_card_of_nodup hnodup, hs, size, filed_ofList, List.length_map]
  · rw [hs, ofList, get?_extend_isSome]
    simp [empty, get?]

/-- Two pixel formats by turns, one of the formats twice. -/
example :
    let translucent : Fourcc := ⟨Fourcc.word 'A' 'R' '2' '4', by decide⟩
    (ofList [⟨.xrgb8888, .linear⟩, ⟨translucent, .invalid⟩, ⟨.xrgb8888, .invalid⟩,
      ⟨.xrgb8888, .linear⟩]).toList
      = [⟨.xrgb8888, .linear⟩, ⟨.xrgb8888, .invalid⟩, ⟨translucent, .invalid⟩] := by
  decide +kernel

end FormatSet

end Scanout
