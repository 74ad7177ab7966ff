import Scanout.Proofs.Pixel.Sameness
import Scanout.Proofs.Wayland.Formats

/-!
# The order in which formats are told does not matter

A compositor tells of formats one by one, by their numbers alone for the implicit layout or with
the halves of a modifier, and it may use numbers that name no pixel format. `TellsOf` says which
formats are told of by a number of events, whatever their order; two displays accept the same
formats exactly if they were told of the same ones (`same_formats_iff_same_told`).
-/

namespace Scanout.Wayland

/-- The events tell of the format: by its number alone, which means the implicit layout, or with
the halves of its modifier. -/
def TellsOf (events : List Event) (f : Format) : Prop :=
  (f.modifier = .invalid ∧ .format f.code.code ∈ events) ∨
    ∃ high low, f.modifier = .join high low ∧ .modifier f.code.code high low ∈ events

theorem advertised?_eq_some_iff {e : Event} {f : Format} :
    e.advertised? = some f ↔ TellsOf [e] f := by
  have hcode : ∀ {code : UInt32} {m : Modifier},
      (Fourcc.ofCode? code).map (⟨·, m⟩) = some f ↔ code = f.code.code ∧ f.modifier = m := by
    intro code m
    rw [Option.map_eq_some_iff]
    constructor
    · rintro ⟨fourcc, hfourcc, rfl⟩
      exact ⟨(Fourcc.code_of_ofCode? hfourcc).symm, rfl⟩
    · rintro ⟨rfl, rfl⟩
      exact ⟨f.code, f.code.ofCode?_code, rfl⟩
  cases e with
  | format code => simp [Event.advertised?, hcode, TellsOf, and_comm, eq_comm]
  | modifier code high low =>
    simp only [Event.advertised?, hcode, TellsOf, List.mem_singleton, reduceCtorEq, and_false,
      false_or, Event.modifier.injEq]
    constructor
    · rintro ⟨rfl, hjoin⟩
      exact ⟨high, low, hjoin, rfl, rfl, rfl⟩
    · rintro ⟨_, _, hjoin, rfl, rfl, rfl⟩
      exact ⟨rfl, hjoin⟩
  | _ => simp [Event.advertised?, TellsOf]

/-- What the events tell of, taken together. -/
theorem mem_advertised_iff {events : List Event} {f : Format} :
    f ∈ events.filterMap Event.advertised? ↔ TellsOf events f := by
  simp only [List.mem_filterMap, advertised?_eq_some_iff, TellsOf, List.mem_singleton]
  constructor
  · rintro ⟨e, he, ⟨hmodifier, rfl⟩ | ⟨high, low, hmodifier, rfl⟩⟩
    · exact .inl ⟨hmodifier, he⟩
    · exact .inr ⟨high, low, hmodifier, he⟩
  · rintro (⟨hmodifier, he⟩ | ⟨high, low, hmodifier, he⟩)
    · exact ⟨_, he, .inl ⟨hmodifier, rfl⟩⟩
    · exact ⟨_, he, .inr ⟨high, low, hmodifier, rfl⟩⟩

/-- The events that an open display hears of in the course of a run. -/
def heard (calls : List (Display.Call Happening)) : List Event :=
  calls.filterMap fun
    | .other (.event e) => some e
    | _ => none

theorem advertised_eq_heard (calls : List (Display.Call Happening)) :
    advertised calls = (heard calls).filterMap Event.advertised? := by
  rw [heard, List.filterMap_filterMap, advertised]
  refine List.filterMap_congr fun call _ => ?_
  split <;> simp_all

/-- All events that a display heard of, from its opening on. -/
def Opening.heard (o : Opening) (calls : List (Display.Call Happening)) : List Event :=
  o.globals ++ o.answers ++ Wayland.heard calls

theorem Opening.after_formats_eq (o : Opening) (calls : List (Display.Call Happening)) :
    (o.after calls).formats = .ofList ((o.heard calls).filterMap Event.advertised?) := by
  rw [after_formats, told, advertised_eq_heard, ← List.filterMap_append, Opening.heard]

open FormatSet in
/-- **Format sets are compared by what they contain.** Two sets, each filled by adding, extending
and collecting in any order, are the same exactly if they contain the same formats; so two lists
make the same set exactly if they have the same members, in whatever order and however often. What
comes out of a set makes the same set, in the very same order. The formats that a display accepts
are, up to their order, those its compositor told of by a number that names a pixel format: two
displays, however they were opened and used, accept the same formats exactly if they were told of
the same ones. An event that tells of no format leaves the set as it is. -/
theorem same_formats_iff_same_told :
    (∀ changes changes' : List Change,
      (filled changes).sameAs (filled changes') = true ↔
        ∀ f, (filled changes).contains f = true ↔ (filled changes').contains f = true) ∧
    (∀ fs gs : List Format, (ofList fs).sameAs (ofList gs) = true ↔ ∀ f, f ∈ fs ↔ f ∈ gs) ∧
    (∀ changes : List Change, ofList (filled changes).toList = filled changes) ∧
    (∀ (o o' : Opening) (calls calls' : List (Display.Call Happening)),
      (o.after calls).formats.sameAs (o'.after calls').formats = true ↔
        ∀ f, TellsOf (o.heard calls) f ↔ TellsOf (o'.heard calls') f) ∧
    ∀ (c : Client) (e : Event), (c.handle e).2.formats = c.formats ↔
      ∀ f, TellsOf [e] f → c.formats.contains f = true := by
  have htidy : ∀ changes, (filled changes).Tidy := fun changes => by
    rw [filled_eq_ofList]
    exact tidy_ofList _
  have hlists : ∀ fs gs : List Format,
      (ofList fs).sameAs (ofList gs) = true ↔ ∀ f, f ∈ fs ↔ f ∈ gs := fun fs gs => by
    rw [(tidy_ofList fs).sameAs_iff (tidy_ofList gs)]
    simp only [contains_ofList]
  refine ⟨fun changes changes' => (htidy changes).sameAs_iff (htidy changes'), hlists,
    fun changes => (htidy changes).ofList_toList, fun o o' calls calls' => ?_, fun c e => ?_⟩
  · rw [o.after_formats_eq, o'.after_formats_eq, hlists]
    simp only [mem_advertised_iff]
  · rw [c.handle_formats, extend_eq_self_iff]
    simp only [Option.mem_toList, advertised?_eq_some_iff]

end Scanout.Wayland
