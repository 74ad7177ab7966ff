import Scanout.Allocator

/-!
# Hosts that write down what they do

To say what an allocator did to its host, the host is replaced by one that behaves the same and
writes a list. Whatever else goes into the list, if the making and the freeing of buffers do, then
the search for a buffer leaves a trace of one shape only: pairs of a buffer made and the same
buffer freed, and at the end the buffer that was found (`Writes.createBuffer`).
-/

namespace Scanout

variable {σ α : Type}

/-- What is written when a buffer is made, if one is. -/
def Outcome.written {ε : Type} (made : Buffer → α) : Outcome ε Buffer → List α
  | .done buffer => [made buffer]
  | .failed _ | .fault _ => []

namespace Host

/-- What is written of a buffer that an attempt with explicit layouts settles for. -/
def Attempt.written (made : Buffer → α) : Attempt → List α
  | .accepted buffer => [made buffer]
  | .refused _ | .fault _ => []

/-- `writing` does to buffers what `host` does, and writes it down. -/
structure Writes (host : Host σ) (writing : Host (σ × List α)) (made freed : Buffer → α) :
    Prop where
  createExplicit : ∀ width height fourcc modifiers s log,
    writing.createExplicit width height fourcc modifiers (s, log)
      = ((host.createExplicit width height fourcc modifiers s).1,
        (host.createExplicit width height fourcc modifiers s).2,
        log ++ (host.createExplicit width height fourcc modifiers s).1.written made)
  createImplicit : ∀ width height fourcc usage s log,
    writing.createImplicit width height fourcc usage (s, log)
      = ((host.createImplicit width height fourcc usage s).1,
        (host.createImplicit width height fourcc usage s).2,
        log ++ (host.createImplicit width height fourcc usage s).1.written made)
  freeBuffer : ∀ buffer s log,
    writing.freeBuffer buffer (s, log) = (host.freeBuffer buffer s, log ++ [freed buffer])

namespace Writes

variable {host : Host σ} {writing : Host (σ × List α)} {made freed : Buffer → α}
  (h : host.Writes writing made freed) (width height : UInt32) (fourcc : Fourcc)
  (requested : List Modifier) (s : σ) (log : List α)

include h

/-- A buffer that is not accepted is freed at once. -/
theorem tryExplicit :
    ∃ spent : List Buffer, writing.tryExplicit width height fourcc requested (s, log)
      = ((host.tryExplicit width height fourcc requested s).1,
        (host.tryExplicit width height fourcc requested s).2,
        log ++ spent.flatMap (fun buffer => [made buffer, freed buffer])
          ++ (host.tryExplicit width height fourcc requested s).1.written made) := by
  by_cases hnone : (explicitModifiers requested).isEmpty
  · exact ⟨[], by simp [Host.tryExplicit, hnone, Attempt.written]⟩
  · rcases hmade : host.createExplicit width height fourcc (explicitModifiers requested) s with
      ⟨buffer | e | f, s'⟩
    · by_cases haccepted : buffer.format.modifier ∈ requested
      · refine ⟨[], ?_⟩
        simp [Host.tryExplicit, hnone, h.createExplicit, hmade, haccepted, Outcome.written,
          Attempt.written]
      · refine ⟨[buffer], ?_⟩
        simp [Host.tryExplicit, hnone, h.createExplicit, h.freeBuffer, hmade, haccepted,
          Outcome.written, Attempt.written]
    all_goals
      refine ⟨[], ?_⟩
      simp [Host.tryExplicit, hnone, h.createExplicit, hmade, Outcome.written, Attempt.written]

theorem tryImplicit :
    ∃ spent : List Buffer, writing.tryImplicit width height fourcc requested (s, log)
      = ((host.tryImplicit width height fourcc requested s).1,
        (host.tryImplicit width height fourcc requested s).2,
        log ++ spent.flatMap (fun buffer => [made buffer, freed buffer])
          ++ (host.tryImplicit width height fourcc requested s).1.written made) := by
  rcases hmade : host.createImplicit width height fourcc usage s with ⟨buffer | e | f, s'⟩
  · by_cases haccepted : requested.isEmpty || buffer.format.modifier = .invalid
    · refine ⟨[], ?_⟩
      simp [Host.tryImplicit, h.createImplicit, hmade, haccepted, Outcome.written]
    · refine ⟨[buffer], ?_⟩
      simp [Host.tryImplicit, h.createImplicit, h.freeBuffer, hmade, haccepted, Outcome.written]
  · exact ⟨[], by simp [Host.tryImplicit, h.createImplicit, hmade, Outcome.written]⟩
  · exact ⟨[], by simp [Host.tryImplicit, h.createImplicit, hmade, Outcome.written]⟩

/-- Looking for a buffer, nothing goes unnoticed: a buffer that is found was made last, and
all others were freed. -/
theorem createBuffer :
    ∃ spent : List Buffer, writing.createBuffer width height fourcc requested (s, log)
      = ((host.createBuffer width height fourcc requested s).1,
        (host.createBuffer width height fourcc requested s).2,
        log ++ spent.flatMap (fun buffer => [made buffer, freed buffer])
          ++ (host.createBuffer width height fourcc requested s).1.written made) := by
  obtain ⟨spent, hexplicit⟩ := h.tryExplicit width height fourcc requested s log
  rcases htry : host.tryExplicit width height fourcc requested s with ⟨buffer | e | f, s'⟩
  · refine ⟨spent, ?_⟩
    simp [Host.createBuffer, hexplicit, htry, Outcome.written, Attempt.written]
  · by_cases himplicit : requested.isEmpty || .invalid ∈ requested
    · -- the second attempt adds its own spent buffer to that of the first
      obtain ⟨more, hsecond⟩ := h.tryImplicit width height fourcc requested s'
        (log ++ spent.flatMap fun buffer => [made buffer, freed buffer])
      refine ⟨spent ++ more, ?_⟩
      simp [Host.createBuffer, hexplicit, htry, himplicit, Attempt.written, hsecond]
    · refine ⟨spent, ?_⟩
      cases e <;>
        simp [Host.createBuffer, hexplicit, htry, himplicit, Outcome.written, Attempt.written]
  · refine ⟨spent, ?_⟩
    simp [Host.createBuffer, hexplicit, htry, Outcome.written, Attempt.written]

end Writes

end Host

end Scanout
