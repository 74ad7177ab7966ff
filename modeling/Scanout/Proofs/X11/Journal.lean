import Scanout.Proofs.LastWord
import Scanout.Proofs.X11.Station

/-!
# What passes between a display and its X server

Whoever reads along on the connection sees requests and events. What they know at any moment is
what the last entry about the matter says: whether a pixmap is with the server, whether a frame
waits for its completion, and how many refreshes the server has counted for a window.

`Booked` says that a window and its scheduler agree with the journal, and that what is in flight
are the presented images, each under its own pixmap. Every entry that can be added keeps it.
-/

namespace Scanout.X11

/-- One message on the connection. -/
inductive Entry where
  | sent (request : Request)
  /-- A presentation that was written and not flushed. The server may find it later on, but the
  display has taken its image back. -/
  | withdrawn (request : Request)
  /-- An event, with the serial number of the presentation if it is about one. The display does
  not read that number. -/
  | heard (serial : UInt32) (event : Event)
  deriving DecidableEq, Repr

namespace Entry

/-- The request that was written. -/
def request? : Entry → Option Request
  | sent request | withdrawn request => some request
  | heard .. => none

/-- The window that is made, shown on, told of or destroyed. -/
def window? : Entry → Option ResourceId
  | sent (.createWindow window ..) => some window
  | sent (.presentPixmap window ..) => some window
  | sent (.destroyWindow window) => some window
  | heard _ (.complete window kind _) => if kind = pixmapCompletion then some window else none
  | heard _ (.idle window _) => some window
  | _ => none

/-- Whether a pixmap is with the server to be shown in a window. -/
def flight (window pixmap : ResourceId) : Entry → Option Bool
  | sent (.createWindow w ..) => if w = window then some false else none
  | sent (.presentPixmap w p ..) => if w = window ∧ p = pixmap then some true else none
  | sent (.destroyWindow w) => if w = window then some false else none
  | heard _ (.idle w p) => if w = window ∧ p = pixmap then some false else none
  | _ => none

/-- Whether a frame in a window waits for its completion. -/
def frame (window : ResourceId) : Entry → Option Bool
  | sent (.createWindow w ..) => if w = window then some false else none
  | sent (.presentPixmap w ..) => if w = window then some true else none
  | sent (.destroyWindow w) => if w = window then some false else none
  | heard _ (.complete w kind _) =>
    if w = window ∧ kind = pixmapCompletion then some false else none
  | _ => none

/-- The refresh count of a window, which begins at zero. -/
def count (window : ResourceId) : Entry → Option UInt64
  | sent (.createWindow w ..) => if w = window then some 0 else none
  | heard _ (.complete w kind msc) =>
    if w = window ∧ kind = pixmapCompletion then some msc else none
  | _ => none

section

variable {e : Entry} {window : ResourceId}

theorem flight_foreign (h : e.window? ≠ some window) (pixmap : ResourceId) :
    e.flight window pixmap = none := by
  unfold flight
  split <;> grind [window?]

theorem frame_foreign (h : e.window? ≠ some window) : e.frame window = none := by
  unfold frame
  split <;> grind [window?]

theorem count_foreign (h : e.window? ≠ some window) : e.count window = none := by
  unfold count
  split <;> grind [window?]

/-- Only a presentation begins a flight. -/
theorem flight_eq_true {pixmap : ResourceId} (h : e.flight window pixmap = some true) :
    ∃ serial target, e = .sent (.presentPixmap window pixmap serial target) := by
  unfold flight at h
  split at h <;> simp_all

/-- Only a presentation begins a frame. -/
theorem frame_eq_true (h : e.frame window = some true) :
    ∃ pixmap serial target, e = .sent (.presentPixmap window pixmap serial target) := by
  unfold frame at h
  split at h <;> simp_all

end

end Entry

/-! ## A window and its scheduler -/

/-- What is in flight, once a pixmap is that was not. -/
theorem Window.inFlight_remember {d : Window} {pixmap : ResourceId}
    (hnew : pixmap ∉ d.inFlight.map (·.1)) (image : ImageId) :
    (d.remember pixmap image).inFlight = d.inFlight ++ [(pixmap, image)] := by
  have hkept : d.inFlight.filter (·.1 ≠ pixmap) = d.inFlight := by
    refine List.filter_eq_self.mpr fun entry he => decide_eq_true ?_
    rintro rfl
    exact hnew (List.mem_map_of_mem he)
  rw [remember, hkept]

/-- What is in flight, once the pixmap of one image is not any more. -/
theorem Window.inFlight_forget {d : Window} {pixmap : ResourceId} {image : ImageId}
    {earlier later : List (ResourceId × ImageId)}
    (hsplit : d.inFlight = earlier ++ (pixmap, image) :: later)
    (hnodup : (d.inFlight.map (·.1)).Nodup) : (d.forget pixmap).inFlight = earlier ++ later := by
  have hkept : ∀ entries : List (ResourceId × ImageId), (∀ entry ∈ entries, entry.1 ≠ pixmap) →
      entries.filter (·.1 ≠ pixmap) = entries :=
    fun entries hall => List.filter_eq_self.mpr fun entry he => decide_eq_true (hall entry he)
  rw [hsplit, List.map_append, List.map_cons] at hnodup
  obtain ⟨-, hlater, hearlier⟩ := List.nodup_append.mp hnodup
  rw [forget, hsplit, List.filter_append, List.filter_cons_of_neg (by simp),
    hkept earlier fun entry he => hearlier _ (List.mem_map_of_mem he) _ List.mem_cons_self,
    hkept later fun entry he heq =>
      (List.nodup_cons.mp hlater).1 (List.mem_map.mpr ⟨entry, he, heq⟩)]

/-- A window and the images that its scheduler has presented agree with the journal. -/
structure Booked (log : List Entry) (d : Window) (presented : List Image) (armed : Bool) :
    Prop where
  /-- The images are in flight in the order they were presented, each under its own pixmap. -/
  matched : d.inFlight.map (fun entry => (some entry.1, entry.2))
    = presented.map fun image => (image.pixmap?, image.id)
  flight : ∀ pixmap, lastSaid (Entry.flight d.window pixmap) log = some true ↔
    pixmap ∈ d.inFlight.map (·.1)
  frame : lastSaid (Entry.frame d.window) log = some true ↔ armed = true
  count : (lastSaid (Entry.count d.window) log).getD 0 = d.lastMsc

namespace Booked

variable {log news : List Entry} {d : Window} {presented : List Image} {armed : Bool}

theorem pixmaps_eq (h : Booked log d presented armed) :
    d.inFlight.map (·.1) = presented.filterMap Image.pixmap? := by
  have hfirst := congrArg (List.filterMap fun entry : Option ResourceId × ImageId => entry.1)
    h.matched
  simpa [List.filterMap_map, Function.comp_def] using hfirst

theorem ids_eq (h : Booked log d presented armed) :
    d.inFlight.map (·.2) = presented.map (·.id) := by
  have hsecond := congrArg (List.map fun entry : Option ResourceId × ImageId => entry.2) h.matched
  simpa [Function.comp_def] using hsecond

/-- What is in flight are the presented images under their pixmaps. -/
theorem mem_iff (h : Booked log d presented armed) {pixmap : ResourceId} {id : ImageId} :
    (pixmap, id) ∈ d.inFlight ↔
      ∃ image ∈ presented, image.pixmap? = some pixmap ∧ image.id = id := by
  have hmem : (some pixmap, id) ∈ d.inFlight.map (fun entry => (some entry.1, entry.2)) ↔
      (some pixmap, id) ∈ presented.map fun image => (image.pixmap?, image.id) := by
    rw [h.matched]
  simpa using hmem

/-- Messages about other windows are of no concern. -/
theorem elsewhere (h : Booked log d presented armed)
    (hnews : ∀ e ∈ news, e.window? ≠ some d.window) : Booked (log ++ news) d presented armed where
  matched := h.matched
  flight := by
    intro pixmap
    rw [lastSaid_of_silent fun e he => Entry.flight_foreign (hnews e he) pixmap]
    exact h.flight pixmap
  frame := by
    rw [lastSaid_of_silent fun e he => Entry.frame_foreign (hnews e he)]
    exact h.frame
  count := by
    rw [lastSaid_of_silent fun e he => Entry.count_foreign (hnews e he)]
    exact h.count

/-- A window that was just made. -/
theorem opened (d : Window) (hempty : d.inFlight = []) (hmsc : d.lastMsc = 0) (log : List Entry)
    (hnews : ∀ e ∈ news, e.window? = none ∨ ∃ screen width height mask,
      e = .sent (.createWindow d.window screen width height mask))
    (hmade : ∃ screen width height mask,
      .sent (.createWindow d.window screen width height mask) ∈ news) :
    Booked (log ++ news) d [] false := by
  obtain ⟨screen, width, height, mask, hmem⟩ := hmade
  have hsaid : ∀ {α : Type} (matter : Entry → Option α) (value : α),
      (∀ e, e.window? = none → matter e = none) →
      (∀ screen width height mask,
        matter (.sent (.createWindow d.window screen width height mask)) = some value) →
      lastSaid matter (log ++ news) = some value := by
    intro α matter value hsilent hvalue
    refine lastSaid_of_agreed (fun e he => ?_) ⟨_, hmem, hvalue _ _ _ _⟩
    rcases hnews e he with hnone | ⟨_, _, _, _, rfl⟩
    · exact .inl (hsilent e hnone)
    · exact .inr (hvalue _ _ _ _)
  refine ⟨by rw [hempty]; rfl, fun pixmap => ?_, ?_, ?_⟩
  · rw [hsaid _ false (fun e he => Entry.flight_foreign (by simp [he]) pixmap)
      (fun _ _ _ _ => by simp [Entry.flight]), hempty]
    simp
  · rw [hsaid _ false (fun e he => Entry.frame_foreign (by simp [he]))
      (fun _ _ _ _ => by simp [Entry.frame])]
    simp
  · rw [hsaid _ 0 (fun e he => Entry.count_foreign (by simp [he]))
      (fun _ _ _ _ => by simp [Entry.count]), hmsc]
    rfl

/-- A pixmap that is not in flight is presented. -/
theorem presents (h : Booked log d presented armed) {image : Image} {pixmap : ResourceId}
    (himage : image.pixmap? = some pixmap) (hnew : pixmap ∉ d.inFlight.map (·.1)) :
    Booked (log ++ [.sent (.presentPixmap d.window pixmap (d.serial + 1) (d.lastMsc + 1))])
      ({ d with serial := d.serial + 1 }.remember pixmap image.id) (presented ++ [image]) true := by
  have hflight := Window.inFlight_remember (d := { d with serial := d.serial + 1 }) hnew image.id
  refine ⟨?_, fun other => ?_, ?_, ?_⟩
  · rw [hflight, List.map_append, List.map_append, h.matched, List.map_singleton,
      List.map_singleton, himage]
  · rw [hflight]
    by_cases hsame : pixmap = other
    · subst hsame
      simp [lastSaid_add, Window.remember, Entry.flight]
    · simpa [lastSaid_add, Window.remember, Entry.flight, hsame, Ne.symm hsame] using h.flight other
  · simp [lastSaid_add, Window.remember, Entry.frame]
  · simpa [lastSaid_add, Window.remember, Entry.count] using h.count

/-- The frame is completed at a refresh. -/
theorem completes (h : Booked log d presented armed) (serial : UInt32) (msc : UInt64) :
    Booked (log ++ [.heard serial (.complete d.window pixmapCompletion msc)])
      { d with lastMsc := msc } presented false := by
  refine ⟨h.matched, fun pixmap => ?_, ?_, ?_⟩
  · simpa [lastSaid_add, Entry.flight] using h.flight pixmap
  · simp [lastSaid_add, Entry.frame]
  · simp [lastSaid_add, Entry.count]

/-- A pixmap comes back. -/
theorem idles {image : Image} {before after : List Image}
    (h : Booked log d (before ++ image :: after) armed) (hnodup : (d.inFlight.map (·.1)).Nodup)
    {pixmap : ResourceId} (himage : image.pixmap? = some pixmap) (serial : UInt32) :
    Booked (log ++ [.heard serial (.idle d.window pixmap)]) (d.forget pixmap) (before ++ after)
      armed := by
  -- the entry of the image stands where the image stands
  obtain ⟨earlier, rest, hsplit, hearlier, hrest⟩ := List.map_eq_append_iff.mp
    (h.matched.trans List.map_append)
  obtain ⟨entry, later, rfl, hentry, hlater⟩ := List.map_eq_cons_iff.mp hrest
  obtain ⟨number, id⟩ := entry
  obtain rfl : number = pixmap := by
    simp only [himage, Prod.mk.injEq, Option.some.injEq] at hentry
    exact hentry.1
  have hflight := Window.inFlight_forget hsplit hnodup
  refine ⟨?_, fun other => ?_, ?_, ?_⟩
  · rw [hflight, List.map_append, hearlier, hlater, List.map_append]
  · by_cases hsame : number = other
    · subst hsame
      simp [lastSaid_add, Window.forget, Entry.flight]
    · simpa [lastSaid_add, Window.forget, Entry.flight, hsame, Ne.symm hsame] using h.flight other
  · simpa [lastSaid_add, Window.forget, Entry.frame] using h.frame
  · simpa [lastSaid_add, Window.forget, Entry.count] using h.count

/-- A pixmap that is not in flight is given back. -/
theorem stray (h : Booked log d presented armed) {pixmap : ResourceId}
    (habsent : pixmap ∉ d.inFlight.map (·.1)) (serial : UInt32) :
    Booked (log ++ [.heard serial (.idle d.window pixmap)]) d presented armed := by
  refine ⟨h.matched, fun other => ?_, ?_, ?_⟩
  · by_cases hsame : pixmap = other
    · subst hsame
      simpa [lastSaid_add, Entry.flight] using habsent
    · simpa [lastSaid_add, Entry.flight, hsame] using h.flight other
  · simpa [lastSaid_add, Entry.frame] using h.frame
  · simpa [lastSaid_add, Entry.count] using h.count

end Booked

end Scanout.X11
