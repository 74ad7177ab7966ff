import Mathlib.Logic.Function.Basic
import Scanout.Proofs.Circulation
import Scanout.Proofs.Swapchain.Making

/-!
# Allocators side by side

An image goes back to the allocator that made it. Nothing in an image says which one that is, and
what an allocator knows of its images is their number, so an image that comes to the wrong
allocator is noticed if that one counts none as out, and taken for one of its own otherwise.

`Neighbours` is any number of allocators whose hosts share one state, with the images that are out
of them. `Inv.step_inv` says how the counts are wrong after images have strayed: an allocator that
took some in counts too few, and one whose images others took counts too many.
`strangers_caught_iff` is the result: all strays of a run are caught exactly if each comes to an
allocator that has nothing out, and then the counts are right.
-/

namespace Scanout

variable {ι σ : Type}

namespace Allocator

/-- Taking an image back ends well exactly if some are counted as out; the count is one less. -/
theorem deallocate_outcome (host : Host σ) (image : Image) (a : Allocator) (s : σ) :
    (a.outstanding = 0 ∧ (deallocate host image a s).1 = some .deallocatedTooOften) ∨
    ∃ a' s', deallocate host image a s = (none, a', s') ∧
      a.outstanding = a'.outstanding + 1 := by
  cases h : a.outstanding with
  | zero => exact .inl ⟨rfl, by simp only [deallocate, h]⟩
  | succ n =>
    refine .inr ⟨⟨n⟩, (deallocate host image a s).2.2, ?_, rfl⟩
    simp only [deallocate, h]

end Allocator

open Allocator (handedOut)

/-- An image that is out, with the allocator that made it. -/
structure Loan (ι : Type) where
  maker : ι
  image : Image
  deriving DecidableEq, Repr

/-- Allocators side by side, and what is out of them. -/
structure Neighbours (ι σ : Type) where
  allocators : ι → Allocator := fun _ => {}
  /-- What their hosts share. -/
  host : σ
  /-- The images that are out. -/
  out : List (Loan ι) := []
  /-- The images that were taken by another allocator than made them: the maker, then the taker. -/
  strayed : List (ι × ι) := []

namespace Neighbours

/-- What can happen next. -/
inductive Move (ι : Type) where
  | allocate (side : ι) (q : ImageRequest)
  /-- An image that is out is given to an allocator, be it the one that made it or another. -/
  | deallocate (side : ι) (loan : Loan ι)
  /-- What an image that is out is or keeps changes; its maker stays the same. -/
  | change (loan : Loan ι) (changed : Image)
  deriving DecidableEq, Repr

section Running

variable [DecidableEq ι]

def start (s : σ) : Neighbours ι σ := { host := s }

/-- One move; a fault ends everything. An image that is not out is not given to anyone. -/
def step (hosts : ι → Host σ) (w : Neighbours ι σ) : Move ι → Except Fault (Neighbours ι σ)
  | .allocate side q =>
    match Allocator.allocate (hosts side) q.width q.height q.fourcc q.modifiers
        (w.allocators side) w.host with
    | (.fault f, _) => .error f
    | (outcome, a, s) => .ok { w with
        allocators := Function.update w.allocators side a
        host := s
        out := w.out ++ (handedOut outcome).map (⟨side, ·⟩) }
  | .deallocate side loan =>
    if loan ∈ w.out then
      match Allocator.deallocate (hosts side) loan.image (w.allocators side) w.host with
      | (some f, _) => .error f
      | (none, a, s) => .ok {
          allocators := Function.update w.allocators side a
          host := s
          out := w.out.erase loan
          strayed := if loan.maker = side then w.strayed else w.strayed ++ [(loan.maker, side)] }
    else .ok w
  | .change loan changed =>
    if loan ∈ w.out then .ok { w with out := w.out.erase loan ++ [⟨loan.maker, changed⟩] }
    else .ok w

def run (hosts : ι → Host σ) (w : Neighbours ι σ) : List (Move ι) → Except Fault (Neighbours ι σ)
  | [] => .ok w
  | move :: rest =>
    match w.step hosts move with
    | .ok w => w.run hosts rest
    | .error f => .error f

/-- Whenever a run gives an image to another allocator than made it, `P` holds of that one. -/
def OnStrays (hosts : ι → Host σ) (P : Neighbours ι σ → ι → Loan ι → Prop) :
    Neighbours ι σ → List (Move ι) → Prop
  | _, [] => True
  | w, move :: rest =>
    (∀ side loan, move = .deallocate side loan → loan ∈ w.out → loan.maker ≠ side →
      P w side loan) ∧
    ∀ next, w.step hosts move = .ok next → next.OnStrays hosts P rest

/-- Giving the image to this allocator is caught. -/
def Caught (hosts : ι → Host σ) (w : Neighbours ι σ) (side : ι) (loan : Loan ι) : Prop :=
  w.step hosts (.deallocate side loan) = .error .deallocatedTooOften

/-- Nothing that this allocator made is out. -/
def Bare (w : Neighbours ι σ) (side : ι) : Prop :=
  ∀ loan ∈ w.out, loan.maker ≠ side

/-- How many images of an allocator are out. -/
def own (w : Neighbours ι σ) (side : ι) : Nat := (w.out.map (·.maker)).count side

/-- How many images of an allocator were taken by others. -/
def gone (w : Neighbours ι σ) (side : ι) : Nat := (w.strayed.map (·.1)).count side

/-- How many images of others an allocator has taken. -/
def taken (w : Neighbours ι σ) (side : ι) : Nat := (w.strayed.map (·.2)).count side

/-- What an allocator counts as out is what it has out, too few by the images of others that it
took and too many by its own that others took. -/
def Inv (w : Neighbours ι σ) : Prop :=
  ∀ side, (w.allocators side).outstanding + w.taken side = w.own side + w.gone side

theorem start_inv (s : σ) : (start s : Neighbours ι σ).Inv :=
  fun _ => rfl

variable {hosts : ι → Host σ} {w next : Neighbours ι σ} {side : ι} {loan : Loan ι}

theorem bare_iff : w.Bare side ↔ w.own side = 0 := by
  simp [Bare, own, List.count_eq_zero]

/-- Handing an image back goes wrong exactly if the allocator counts nothing as out. -/
theorem caught_iff (hout : loan ∈ w.out) :
    w.Caught hosts side loan ↔ (w.allocators side).outstanding = 0 := by
  simp only [Caught, step, if_pos hout]
  rcases Allocator.deallocate_outcome (hosts side) loan.image (w.allocators side) w.host with
    ⟨hzero, hfault⟩ | ⟨a, s, hdone, hcount⟩
  · split
    · next f _ heq =>
      rw [heq] at hfault
      exact iff_of_true (by rw [Option.some.inj hfault]) hzero
    · next heq => rw [heq] at hfault; exact absurd hfault (by simp)
  · rw [hdone]
    exact iff_of_false (by simp) (by omega)

/-- An image is taken back as long as something is counted as out. -/
theorem step_deallocate_ok (hout : loan ∈ w.out) (hpos : 0 < (w.allocators side).outstanding) :
    ∃ next, w.step hosts (.deallocate side loan) = .ok next := by
  rcases Allocator.deallocate_outcome (hosts side) loan.image (w.allocators side) w.host with
    ⟨hzero, -⟩ | ⟨a, s, hdone, -⟩
  · omega
  · simp only [step, if_pos hout, hdone]
    exact ⟨_, rfl⟩

/-- A move that does not fail hands out what an allocator then counts, gives an image to an
allocator that counts it off, or leaves the numbers of all as they are. -/
theorem step_cases {move : Move ι} (hstep : w.step hosts move = .ok next) :
    (∃ maker images a s,
      a.outstanding = (w.allocators maker).outstanding + List.length images ∧
      next = { w with
        allocators := Function.update w.allocators maker a
        host := s
        out := w.out ++ images.map (⟨maker, ·⟩) }) ∨
    (∃ taker loan a s, move = .deallocate taker loan ∧ loan ∈ w.out ∧
      (w.allocators taker).outstanding = a.outstanding + 1 ∧
      next = {
        allocators := Function.update w.allocators taker a
        host := s
        out := w.out.erase loan
        strayed := if loan.maker = taker then w.strayed
          else w.strayed ++ [(loan.maker, taker)] }) ∨
    ∃ out : List (Loan ι), (w.out.map (·.maker)).Perm (out.map (·.maker)) ∧
      next = { w with out := out } := by
  cases move with
  | allocate maker q =>
    simp only [step] at hstep
    split at hstep
    · exact absurd hstep (by simp)
    · next outcome a s _ heq =>
      exact .inl ⟨maker, handedOut outcome, a, s, Allocator.allocate_outstanding heq,
        (Except.ok.inj hstep).symm⟩
  | deallocate taker loan =>
    by_cases hout : loan ∈ w.out
    · simp only [step, if_pos hout] at hstep
      rcases Allocator.deallocate_outcome (hosts taker) loan.image (w.allocators taker) w.host with
        ⟨-, hfault⟩ | ⟨a, s, hdone, hcount⟩
      · split at hstep
        · exact absurd hstep (by simp)
        · next heq => rw [heq] at hfault; exact absurd hfault (by simp)
      · rw [hdone] at hstep
        exact .inr (.inl ⟨taker, loan, a, s, rfl, hout, hcount, (Except.ok.inj hstep).symm⟩)
    · simp only [step, if_neg hout] at hstep
      exact .inr (.inr ⟨w.out, .refl _, (Except.ok.inj hstep).symm⟩)
  | change loan changed =>
    simp only [step] at hstep
    split at hstep
    · next hout =>
      refine .inr (.inr ⟨_, ?_, (Except.ok.inj hstep).symm⟩)
      have hperm := (List.perm_cons_erase hout).map (·.maker)
      rw [List.map_cons] at hperm
      rw [List.map_append]
      exact hperm.trans (List.perm_append_singleton _ _).symm
    · exact .inr (.inr ⟨w.out, .refl _, (Except.ok.inj hstep).symm⟩)

theorem Inv.step_inv (h : w.Inv) {move : Move ι} (hstep : w.step hosts move = .ok next) :
    next.Inv := by
  intro side
  have hside := h side
  rcases step_cases hstep with ⟨maker, images, a, s, hcount, rfl⟩ |
    ⟨taker, loan, a, s, -, hout, hcount, rfl⟩ | ⟨out, hperm, rfl⟩
  · simp only [own, taken, gone, List.map_append, List.map_map, List.count_append] at hside ⊢
    have hmakers : (images.map ((·.maker) ∘ fun image => (⟨maker, image⟩ : Loan ι)))
        = List.replicate images.length maker := List.map_const ..
    rw [hmakers, List.count_replicate]
    by_cases hmaker : maker = side
    · subst hmaker
      rw [Function.update_self, if_pos (by simp)]
      omega
    · rw [Function.update_of_ne (Ne.symm hmaker), if_neg (by simpa using hmaker)]
      omega
  · -- the maker has one image less out, and the taker counts one less
    have hown : w.own side = ((w.out.erase loan).map (·.maker)).count side
        + if loan.maker = side then 1 else 0 := by
      rw [own, ((List.perm_cons_erase hout).map _).count_eq, List.map_cons, List.count_cons]
      simp only [beq_iff_eq]
    have hoff : (w.allocators side).outstanding
        = (Function.update w.allocators taker a side).outstanding
          + if taker = side then 1 else 0 := by
      by_cases htaker : taker = side
      · subst htaker
        rw [Function.update_self, if_pos rfl, hcount]
      · rw [Function.update_of_ne (Ne.symm htaker), if_neg htaker, Nat.add_zero]
    rw [hown, hoff] at hside
    by_cases hmaker : loan.maker = taker
    · simp only [own, taken, gone, if_pos hmaker] at hside ⊢
      rw [hmaker] at hside
      omega
    · simp only [own, taken, gone, if_neg hmaker, List.map_append, List.map_singleton,
        List.count_append, List.count_singleton, beq_iff_eq] at hside ⊢
      omega
  · rw [own, hperm.count_eq] at hside
    exact hside

theorem Inv.run_inv (h : w.Inv) {moves : List (Move ι)} (hrun : w.run hosts moves = .ok next) :
    next.Inv := by
  induction moves generalizing w with
  | nil => exact Except.ok.inj hrun ▸ h
  | cons move rest ih =>
    simp only [run] at hrun
    split at hrun
    · next hstep => exact ih (h.step_inv hstep) hrun
    · exact absurd hrun (by simp)

/-- As long as nothing has strayed, the counts are right. -/
theorem Inv.outstanding_eq (h : w.Inv) (hnone : w.strayed = []) (side : ι) :
    (w.allocators side).outstanding = w.own side := by
  have hside := h side
  simpa [taken, gone, hnone] using hside

/-- As long as nothing has strayed, an image of another is caught by who has nothing out. -/
theorem Inv.caught_iff_bare (h : w.Inv) (hnone : w.strayed = []) (hout : loan ∈ w.out) :
    w.Caught hosts side loan ↔ w.Bare side := by
  rw [caught_iff hout, bare_iff, h.outstanding_eq hnone]

/-- If an image that another made is caught, it does not stray. -/
theorem strayed_eq_of_caught {move : Move ι}
    (hcaught : ∀ side loan, move = .deallocate side loan → loan ∈ w.out → loan.maker ≠ side →
      w.Caught hosts side loan)
    (hstep : w.step hosts move = .ok next) : next.strayed = w.strayed := by
  rcases step_cases hstep with ⟨_, _, _, _, -, rfl⟩ | ⟨taker, loan, a, s, rfl, hout, -, rfl⟩ |
    ⟨_, -, rfl⟩
  · rfl
  · by_cases hmaker : loan.maker = taker
    · exact if_pos hmaker
    · rw [hcaught taker loan rfl hout hmaker] at hstep
      exact absurd hstep (by simp)
  · rfl

theorem OnStrays.strayed_eq {moves : List (Move ι)} (h : w.OnStrays hosts (Caught hosts) moves)
    (hrun : w.run hosts moves = .ok next) : next.strayed = w.strayed := by
  induction moves generalizing w with
  | nil => exact Except.ok.inj hrun ▸ rfl
  | cons move rest ih =>
    simp only [run] at hrun
    split at hrun
    · next w' hstep => rw [ih (h.2 w' hstep) hrun, strayed_eq_of_caught h.1 hstep]
    · exact absurd hrun (by simp)

theorem Inv.onStrays_iff (h : w.Inv) (hnone : w.strayed = []) (moves : List (Move ι)) :
    w.OnStrays hosts (Caught hosts) moves ↔
      w.OnStrays hosts (fun w side _ => w.Bare side) moves := by
  induction moves generalizing w with
  | nil => exact Iff.rfl
  | cons move rest ih =>
    have hfirst : (∀ side loan, move = .deallocate side loan → loan ∈ w.out →
        loan.maker ≠ side → w.Caught hosts side loan) ↔
        ∀ side loan, move = .deallocate side loan → loan ∈ w.out →
          loan.maker ≠ side → w.Bare side :=
      forall₄_congr fun side loan _ hout => imp_congr_right fun _ => h.caught_iff_bare hnone hout
    -- on either side nothing strays at the first move, so the rest starts as this run does
    have hrest : (∀ side loan, move = .deallocate side loan → loan ∈ w.out →
        loan.maker ≠ side → w.Caught hosts side loan) → ∀ next, w.step hosts move = .ok next →
          (next.OnStrays hosts (Caught hosts) rest ↔
            next.OnStrays hosts (fun w side _ => w.Bare side) rest) :=
      fun hcaught next hstep =>
        ih (h.step_inv hstep) ((strayed_eq_of_caught hcaught hstep).trans hnone)
    constructor
    · rintro ⟨hcaught, hlater⟩
      exact ⟨hfirst.mp hcaught, fun next hstep => (hrest hcaught next hstep).mp (hlater next hstep)⟩
    · rintro ⟨hbare, hlater⟩
      have hcaught := hfirst.mpr hbare
      exact ⟨hcaught, fun next hstep => (hrest hcaught next hstep).mpr (hlater next hstep)⟩

/-- **A stranger's image is caught by who has nothing out.** Any number of allocators may share
devices, renderers and displays, which answer as they like, and images are given to whichever
allocator. In a run every image that comes to another allocator than made it is caught exactly if
each comes to one of which nothing is out at that moment; up to its first fault such a run leaves
every allocator with the number of its own images that are out, and taking one of them back does
not fail. In any run an allocator counts too few by the images of others it took, and too many by
its own that others took, and it fails to take back what is out, its own or not, exactly if that
comes to nothing. -/
theorem strangers_caught_iff (hosts : ι → Host σ) (s : σ) (moves : List (Move ι)) :
    ((start s).OnStrays hosts (Caught hosts) moves ↔
      (start s).OnStrays hosts (fun w side _ => w.Bare side) moves) ∧
    ((start s).OnStrays hosts (fun w side _ => w.Bare side) moves →
      ∀ w, (start s).run hosts moves = .ok w → ∀ side,
        (w.allocators side).outstanding = w.own side ∧
        ∀ image, ⟨side, image⟩ ∈ w.out →
          ∃ next, w.step hosts (.deallocate side ⟨side, image⟩) = .ok next) ∧
    ∀ w, (start s).run hosts moves = .ok w → ∀ side,
      (w.allocators side).outstanding + w.taken side = w.own side + w.gone side ∧
      ∀ loan ∈ w.out,
        (w.step hosts (.deallocate side loan) = .error .deallocatedTooOften ↔
          w.own side + w.gone side = w.taken side) := by
  have hstart : (start s : Neighbours ι σ).Inv := start_inv s
  have hiff : (start s).OnStrays hosts (Caught hosts) moves ↔ _ := hstart.onStrays_iff rfl moves
  refine ⟨hiff, fun hbare w hrun side => ?_, fun w hrun side => ?_⟩
  · have hnone := (hiff.mpr hbare).strayed_eq hrun
    have hcount := (hstart.run_inv hrun).outstanding_eq hnone side
    refine ⟨hcount, fun image hout => ?_⟩
    have hpos : 0 < (w.allocators side).outstanding :=
      hcount ▸ List.count_pos_iff.mpr (List.mem_map_of_mem hout)
    exact step_deallocate_ok hout hpos
  · have hside := hstart.run_inv hrun side
    refine ⟨hside, fun loan hout => ?_⟩
    rw [← Caught, caught_iff hout]
    omega

/-- One of two allocators is given what the other made, while an image of its own is out. -/
def mixup : List (Move Bool) :=
  let q : ImageRequest := ⟨64, 64, .xrgb8888, []⟩
  [.allocate true q, .allocate false q, .deallocate true ⟨false, .numbered 1⟩]

theorem mixup_not_caught :
    (((start 0).run (fun _ => Circulation.plainHost) mixup).map fun w =>
      (w.out, (w.allocators true).outstanding, w.own true))
      = .ok ([⟨true, .numbered 0⟩], 0, 1) ∧
    (((start 0).run (fun _ => Circulation.plainHost)
      (mixup ++ [.deallocate true ⟨true, .numbered 0⟩])).map fun w => w.out)
      = .error .deallocatedTooOften := by
  decide +kernel

end Running

end Neighbours

end Scanout
