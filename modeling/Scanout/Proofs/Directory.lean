import Mathlib.Data.List.Nodup

/-!
# Directories

A display and its server know things by numbers. A `Directory` says what they are. Whoever
hands the numbers out never hands one out twice, so looking a number up in a directory that
grew finds what it found before.
-/

namespace Scanout

/-- Numbers with what they stand for. -/
abbrev Directory (τ : Type) := List (Nat × τ)

namespace Directory

variable {τ : Type} {d more : Directory τ} {number other : Nat} {thing : τ}

theorem mem_of_lookup (h : d.lookup number = some thing) : (number, thing) ∈ d := by
  obtain ⟨before, after, hsplit, -⟩ := List.lookup_eq_some_iff.mp h
  simp [hsplit]

theorem lookup_filter_ne (hne : other ≠ number) :
    (d.filter (·.1 ≠ number)).lookup other = d.lookup other := by
  induction d with
  | nil => rfl
  | cons entry rest ih =>
    obtain ⟨n, thing⟩ := entry
    by_cases hn : n = number
    · subst hn
      have hskip : (other == n) = false := beq_false_of_ne hne
      rw [List.filter_cons_of_neg (by simp), ih]
      simp only [List.lookup_cons, hskip]
    · rw [List.filter_cons_of_pos (by simpa using hn)]
      simp only [List.lookup_cons, ih]

theorem lookup_append_of_some (h : d.lookup number = some thing) :
    (d ++ more).lookup number = some thing := by
  rw [List.lookup_append, h, Option.some_or]

theorem lookup_append_self (hnew : ∀ entry ∈ d, entry.1 ≠ number) (thing : τ) :
    (d ++ [(number, thing)]).lookup number = some thing := by
  have hnone : d.lookup number = none := by
    rw [List.lookup_eq_none_iff]
    intro entry he
    simpa using (hnew entry he).symm
  simp [List.lookup_append, hnone]

theorem lookup_append_ne (hne : other ≠ number) (thing : τ) :
    (d ++ [(number, thing)]).lookup other = d.lookup other := by
  have hskip : (other == number) = false := beq_false_of_ne hne
  simp [List.lookup_append, List.lookup_cons, hskip]

/-! ## Both ways -/

/-- The number of a thing. -/
def number? [DecidableEq τ] (d : Directory τ) (thing : τ) : Option Nat :=
  (d.find? (·.2 = thing)).map (·.1)

/-- Every number stands for one thing, and every thing has one number. -/
structure OneToOne (d : Directory τ) : Prop where
  numbers : (d.map (·.1)).Nodup
  things : (d.map (·.2)).Nodup

theorem OneToOne.nil : OneToOne ([] : Directory τ) := ⟨List.nodup_nil, List.nodup_nil⟩

theorem OneToOne.thing_eq (h : d.OneToOne) {thing' : τ} (hmem : (number, thing) ∈ d)
    (hmem' : (number, thing') ∈ d) : thing = thing' :=
  congrArg Prod.snd (List.inj_on_of_nodup_map h.numbers hmem hmem' rfl)

theorem OneToOne.number_eq (h : d.OneToOne) (hmem : (number, thing) ∈ d)
    (hmem' : (other, thing) ∈ d) : number = other :=
  congrArg Prod.fst (List.inj_on_of_nodup_map h.things hmem hmem' rfl)

theorem OneToOne.lookup (h : d.OneToOne) (hmem : (number, thing) ∈ d) :
    d.lookup number = some thing := by
  cases hfound : d.lookup number with
  | none =>
    have habsent := List.lookup_eq_none_iff.mp hfound (number, thing) hmem
    exact absurd habsent (by simp)
  | some thing' => rw [h.thing_eq hmem (mem_of_lookup hfound)]

theorem OneToOne.number? [DecidableEq τ] (h : d.OneToOne) (hmem : (number, thing) ∈ d) :
    d.number? thing = some number := by
  unfold Directory.number?
  cases hfound : d.find? (·.2 = thing) with
  | none =>
    have habsent := List.find?_eq_none.mp hfound (number, thing) hmem
    simp at habsent
  | some entry =>
    obtain ⟨n, thing'⟩ := entry
    obtain rfl : thing' = thing := by simpa using List.find?_some hfound
    rw [h.number_eq hmem (List.mem_of_find?_eq_some hfound)]
    rfl

theorem OneToOne.add (h : d.OneToOne) (hnumber : ∀ entry ∈ d, entry.1 ≠ number)
    (hthing : ∀ entry ∈ d, entry.2 ≠ thing) : (d ++ [(number, thing)]).OneToOne := by
  constructor
  · rw [List.map_append]
    refine List.nodup_append.mpr ⟨h.numbers, List.nodup_singleton number, fun n hn n' hn' => ?_⟩
    obtain ⟨entry, he, rfl⟩ := List.mem_map.mp hn
    exact List.mem_singleton.mp hn' ▸ hnumber entry he
  · rw [List.map_append]
    refine List.nodup_append.mpr ⟨h.things, List.nodup_singleton thing, fun t ht t' ht' => ?_⟩
    obtain ⟨entry, he, rfl⟩ := List.mem_map.mp ht
    exact List.mem_singleton.mp ht' ▸ hthing entry he

/-! ## Numbers in order -/

/-- Every number was handed out before the next one, and to a thing of lower rank than the
bound. -/
def Below (rank : τ → Nat) (next bound : Nat) (d : Directory τ) : Prop :=
  ∀ entry ∈ d, entry.1 < next ∧ rank entry.2 < bound

section

variable {rank : τ → Nat} {next next' bound bound' : Nat}

theorem Below.nil : Below rank next bound ([] : Directory τ) := fun _ he => absurd he (by simp)

theorem Below.mono (h : d.Below rank next bound) (hnext : next ≤ next') (hbound : bound ≤ bound') :
    d.Below rank next' bound' := by
  intro entry he
  obtain ⟨hnumber, hrank⟩ := h entry he
  exact ⟨Nat.lt_of_lt_of_le hnumber hnext, Nat.lt_of_lt_of_le hrank hbound⟩

/-- The next number is handed out to a thing that was not there. -/
theorem Below.add (h : d.Below rank next bound) (hrank : rank thing = bound) (hnext : next < next')
    (hbound : bound < bound') : (d ++ [(next, thing)]).Below rank next' bound' := by
  intro entry he
  rcases List.mem_append.mp he with hold | hself
  · exact h.mono (Nat.le_of_lt hnext) (Nat.le_of_lt hbound) entry hold
  · obtain rfl := List.mem_singleton.mp hself
    exact ⟨hnext, hrank ▸ hbound⟩

theorem OneToOne.add_next (h : d.OneToOne) (hbelow : d.Below rank next bound)
    (hrank : rank thing = bound) : (d ++ [(next, thing)]).OneToOne := by
  refine h.add (fun entry he => Nat.ne_of_lt (hbelow entry he).1) fun entry he hsame => ?_
  have hlt := (hbelow entry he).2
  rw [hsame, hrank] at hlt
  exact Nat.lt_irrefl _ hlt

end

end Directory

end Scanout
