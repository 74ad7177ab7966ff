import Mathlib.Data.List.Basic

/-!
# The last word

Whoever reads along on a connection knows of a matter what the last entry about it said. A matter
is a reading of entries: what an entry says about it, if it says anything.
-/

namespace Scanout

variable {ε α : Type} {matter : ε → Option α} {log more : List ε} {e : ε} {value : α}

/-- What the last entry about a matter says, if there is one. -/
def lastSaid (matter : ε → Option α) (log : List ε) : Option α :=
  log.reverse.findSome? matter

theorem lastSaid_append :
    lastSaid matter (log ++ more) = (lastSaid matter more).or (lastSaid matter log) := by
  simp [lastSaid, List.findSome?_append]

theorem lastSaid_add : lastSaid matter (log ++ [e]) = (matter e).or (lastSaid matter log) := by
  rw [lastSaid_append]
  simp [lastSaid]

theorem lastSaid_mem (h : lastSaid matter log = some value) : ∃ e ∈ log, matter e = some value := by
  obtain ⟨e, he, hsaid⟩ := List.exists_of_findSome?_eq_some h
  exact ⟨e, List.mem_reverse.mp he, hsaid⟩

/-- Entries on other matters change nothing. -/
theorem lastSaid_of_silent (h : ∀ e ∈ more, matter e = none) :
    lastSaid matter (log ++ more) = lastSaid matter log := by
  have hnone : lastSaid matter more = none := by
    simpa [lastSaid, List.findSome?_eq_none_iff] using h
  rw [lastSaid_append, hnone, Option.none_or]

/-- What no entry says does not become the last word. -/
theorem lastSaid_ne (h : ∀ e ∈ more, matter e ≠ some value)
    (hlog : lastSaid matter log ≠ some value) : lastSaid matter (log ++ more) ≠ some value := by
  rw [lastSaid_append]
  cases hmore : lastSaid matter more with
  | none => simpa using hlog
  | some other =>
    obtain ⟨e, he, hsaid⟩ := lastSaid_mem hmore
    rintro heq
    obtain rfl : other = value := by simpa using heq
    exact h e he hsaid

/-- Where all who speak say the same, that is the last word. -/
theorem lastSaid_of_agreed (h : ∀ e ∈ more, matter e = none ∨ matter e = some value)
    (hone : ∃ e ∈ more, matter e = some value) : lastSaid matter (log ++ more) = some value := by
  rw [lastSaid_append]
  cases hmore : lastSaid matter more with
  | none =>
    obtain ⟨e, he, hsaid⟩ := hone
    have hnone : ∀ e ∈ more, matter e = none := by
      simpa [lastSaid, List.findSome?_eq_none_iff] using hmore
    exact absurd (hsaid.symm.trans (hnone e he)) (by simp)
  | some other =>
    obtain ⟨e, he, hsaid⟩ := lastSaid_mem hmore
    rcases h e he with hnone | hvalue
    · exact absurd (hsaid.symm.trans hnone) (by simp)
    · rw [← hsaid, hvalue, Option.some_or]

/-- After an entry that says something else, only later entries can bring a value up. -/
theorem lastSaid_since {other : α} (he : matter e = some other) (hne : other ≠ value) :
    lastSaid matter (log ++ e :: more) = some value ↔ lastSaid matter more = some value := by
  rw [List.append_cons, lastSaid_append, lastSaid_add, he]
  cases lastSaid matter more with
  | none => simpa using hne
  | some latest => simp

end Scanout
