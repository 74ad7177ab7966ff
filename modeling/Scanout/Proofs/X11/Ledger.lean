import Scanout.Proofs.X11.Moves

/-!
# Who owns what, and what was written down

Two things are true of an X server's display at every moment. Its images and windows are apart
from each other and from the identifiers still to come (`Stock`). And its windows agree with the
journal of the connection: what is in flight was presented and not given back, and a window that
is not there has nothing on its way (`Ledger`). This file says what the operations make of the two.
-/

namespace Scanout.X11

/-! ## Who owns what -/

/-- Images and windows are apart from each other, and from the identifiers still to come. -/
structure Stock (images : List Image) (made : Nat) (windows : List ResourceId)
    (ids : ResourceIds) : Prop where
  /-- No image is in two places. -/
  distinct : (images.map (·.id)).Nodup
  numbered : ∀ image ∈ images, image.id.number < made
  /-- No pixmap is that of two images. -/
  pixmaps : (images.filterMap Image.pixmap?).Nodup
  single : windows.Nodup
  apart : 0 < ids.step
  unused : ∀ number ∈ windows ++ images.filterMap Image.pixmap?, ¬ ids.Offers number

namespace Stock

variable {images images' gone : List Image} {made : Nat} {windows windows' : List ResourceId}
  {ids ids' : ResourceIds} {image image' : Image} {window : ResourceId}

/-- Fewer images and fewer windows are apart as well. -/
theorem fewer (h : Stock images made windows ids) (himages : (images' ++ gone).Perm images)
    (hwindows : windows'.Sublist windows) : Stock images' made windows' ids where
  distinct := by
    have hall := (himages.map (·.id)).nodup_iff.mpr h.distinct
    rw [List.map_append] at hall
    exact (List.sublist_append_left _ _).nodup hall
  numbered := fun image he => h.numbered image (himages.subset (List.mem_append_left _ he))
  pixmaps := by
    have hall := (himages.filterMap Image.pixmap?).nodup_iff.mpr h.pixmaps
    rw [List.filterMap_append] at hall
    exact (List.sublist_append_left _ _).nodup hall
  single := hwindows.nodup h.single
  apart := h.apart
  unused := by
    intro number hnumber
    refine h.unused number ?_
    rcases List.mem_append.mp hnumber with hw | hp
    · exact List.mem_append_left _ (hwindows.subset hw)
    · refine List.mem_append_right _ ((himages.filterMap Image.pixmap?).subset ?_)
      rw [List.filterMap_append]
      exact List.mem_append_left _ hp

theorem perm (h : Stock images made windows ids) (himages : images'.Perm images) :
    Stock images' made windows ids := by
  have hall : (images' ++ []).Perm images := by rwa [List.append_nil]
  exact h.fewer hall (.refl _)

theorem tail (h : Stock (image :: images) made windows ids) : Stock images made windows ids := by
  have hrest : (images ++ [image]).Perm (image :: images) := List.perm_append_comm
  exact h.fewer hrest (.refl _)

theorem later (h : Stock images made windows ids) (hlater : ids.Later ids') :
    Stock images made windows ids' :=
  { h with
    apart := hlater.apart
    unused := fun number hnumber hoffers => h.unused number hnumber (hlater.offers number hoffers) }

/-- An image is made. -/
theorem add (h : Stock images made windows ids) (hid : image.id = ⟨made⟩)
    (hpixmap : image.pixmap? = none) : Stock (image :: images) (made + 1) windows ids where
  distinct := by
    refine List.nodup_cons.mpr ⟨fun hmem => ?_, h.distinct⟩
    obtain ⟨other, hother, heq⟩ := List.mem_map.mp hmem
    have hlt := h.numbered other hother
    rw [show other.id = ⟨made⟩ from heq.trans hid] at hlt
    exact Nat.lt_irrefl _ hlt
  numbered := by
    intro other hother
    rcases List.mem_cons.mp hother with rfl | hother
    · rw [hid]
      exact Nat.lt_succ_self made
    · exact Nat.lt_succ_of_lt (h.numbered other hother)
  pixmaps := by rw [List.filterMap_cons_none hpixmap]; exact h.pixmaps
  single := h.single
  apart := h.apart
  unused := by rw [List.filterMap_cons_none hpixmap]; exact h.unused

/-- An image gets another pixmap, or loses the one it has, or changes in other ways. -/
theorem replace (h : Stock (image :: images) made windows ids) (hid : image'.id = image.id)
    (hnew : ∀ pixmap, image'.pixmap? = some pixmap →
      pixmap ∉ images.filterMap Image.pixmap? ∧ ¬ ids.Offers pixmap) :
    Stock (image' :: images) made windows ids := by
  have hrest := h.tail
  refine {
    distinct := by rw [List.map_cons, hid]; exact h.distinct
    numbered := fun other hother => ?_
    pixmaps := ?_, single := h.single, apart := h.apart, unused := ?_ }
  · rcases List.mem_cons.mp hother with rfl | hother
    · rw [hid]
      exact h.numbered image List.mem_cons_self
    · exact hrest.numbered other hother
  · cases hpixmap : image'.pixmap? with
    | none => rw [List.filterMap_cons_none hpixmap]; exact hrest.pixmaps
    | some pixmap =>
      rw [List.filterMap_cons_some hpixmap]
      exact List.nodup_cons.mpr ⟨(hnew pixmap hpixmap).1, hrest.pixmaps⟩
  · cases hpixmap : image'.pixmap? with
    | none => rw [List.filterMap_cons_none hpixmap]; exact hrest.unused
    | some pixmap =>
      rw [List.filterMap_cons_some hpixmap]
      intro number hnumber
      rcases List.mem_append.mp hnumber with hw | hp
      · exact hrest.unused number (List.mem_append_left _ hw)
      · rcases List.mem_cons.mp hp with rfl | hp
        · exact (hnew number hpixmap).2
        · exact hrest.unused number (List.mem_append_right _ hp)

/-- A window is made. -/
theorem opens (h : Stock images made windows ids) (hnew : window ∉ windows)
    (hout : ¬ ids.Offers window) : Stock images made (windows ++ [window]) ids :=
  { h with
    single := List.nodup_append.mpr ⟨h.single, List.nodup_singleton window, fun other ho last hl =>
      fun heq => hnew (List.mem_singleton.mp hl ▸ heq ▸ ho)⟩
    unused := by
      intro number hnumber
      rcases List.mem_append.mp hnumber with hw | hp
      · rcases List.mem_append.mp hw with hw | hw
        · exact h.unused number (List.mem_append_left _ hw)
        · rwa [List.mem_singleton.mp hw]
      · exact h.unused number (List.mem_append_right _ hp) }

end Stock

/-! ## A turn of one output -/

/-- What is heard before a turn is about the window. -/
theorem Occasion.about {d d' : Window} {call : FrameScheduler.Call} {heard : List Entry}
    (h : Occasion d call heard d') : d'.window = d.window ∧
      ∀ e ∈ heard, ∀ window, e.window? = some window → window = d.window := by
  cases h with
  | schedule => exact ⟨rfl, fun _ he => absurd he List.not_mem_nil⟩
  | complete | idle =>
    refine ⟨rfl, fun e he window hsome => ?_⟩
    obtain rfl := List.mem_singleton.mp he
    exact (Option.some.inj hsome).symm
  | configure =>
    refine ⟨rfl, fun e he window hsome => ?_⟩
    obtain rfl := List.mem_singleton.mp he
    exact absurd hsome (by simp [Entry.window?])

/-- What is sent in a turn is about the window. -/
theorem Window.Answer.about {connection : Connection} {image : Image}
    {answer : Outcome Failure Unit} {d d' : Window} {sent : List Request}
    (h : d.Answer connection image answer d' sent) : d'.window = d.window ∧
      ∀ e ∈ connection.entries sent, ∀ window, e.window? = some window → window = d.window := by
  cases h with
  | shown pixmap imported fits flushed =>
    refine ⟨rfl, fun e he window hsome => ?_⟩
    obtain rfl := List.mem_singleton.mp he
    rw [Connection.entry_flushed flushed] at hsome
    exact (Option.some.inj hsome).symm
  | unflushed pixmap imported fits cause stuck =>
    refine ⟨rfl, fun e he window hsome => ?_⟩
    obtain rfl := List.mem_singleton.mp he
    rw [Connection.entry_stuck stuck] at hsome
    exact absurd hsome (by simp [Entry.window?])
  | refused | unwritten | overdue => exact ⟨rfl, fun _ he => absurd he List.not_mem_nil⟩

/-- All messages of a turn are about the window. -/
theorem Occasion.turn_about {connection : Connection} {o : Output Window} {heard : List Entry}
    {t : FrameScheduler.Turn} {f : FrameScheduler} {d d' : Window} {sent : List Request}
    (h : Occasion o.details t.call heard d)
    (hused : (Window.surface connection).Used t.asked (d, []) (d', sent))
    (heffect : o.scheduler.Effect t f) :
    d'.window = o.details.window ∧ ∀ e ∈ heard ++ connection.entries sent, ∀ window,
      e.window? = some window → window = o.details.window := by
  obtain ⟨hwindow, hheard⟩ := h.about
  have hsent : d'.window = d.window ∧ ∀ e ∈ connection.entries sent, ∀ window,
      e.window? = some window → window = d.window := by
    rcases heffect.asked_cases with hasked | hasked | ⟨image, answer, hasked⟩
    all_goals rw [hasked] at hused
    · obtain ⟨rfl, rfl⟩ := Prod.mk.inj hused
      exact ⟨rfl, fun _ he => absurd he List.not_mem_nil⟩
    · obtain ⟨rfl, rfl⟩ := Prod.mk.inj hused
      exact ⟨rfl, fun _ he => absurd he List.not_mem_nil⟩
    · exact (Window.used_answer hused).about
  refine ⟨hsent.1.trans hwindow, fun e he window hsome => ?_⟩
  rcases List.mem_append.mp he with he | he
  · exact hheard e he window hsome
  · exact (hsent.2 e he window hsome).trans hwindow

/-- The image in flight under a pixmap is the presented image of that pixmap. -/
theorem Booked.image_of_lookup {log : List Entry} {d : Window} {presented : List Image}
    {armed : Bool} (h : Booked log d presented armed) (hids : (presented.map (·.id)).Nodup)
    {pixmap : ResourceId} {image : Image} (himage : image ∈ presented)
    (hfound : d.inFlight.lookup pixmap = some image.id) : image.pixmap? = some pixmap := by
  obtain ⟨other, hother, hpixmap, hid⟩ := h.mem_iff.mp (Directory.mem_of_lookup hfound)
  rwa [← List.inj_on_of_nodup_map hids hother himage hid]

/-- An image that a window does not take leaves nothing behind but a serial number that is used
up. -/
theorem Booked.declines {log : List Entry} {d d' : Window} {presented : List Image} {armed : Bool}
    (h : Booked log d presented armed) {connection : Connection} {image : Image}
    {answer : Outcome Failure Unit} {sent : List Request}
    (hanswer : d.Answer connection image answer d' sent) (hdeclined : answer ≠ .done ()) :
    Booked (log ++ connection.entries sent) d' presented armed := by
  cases hanswer with
  | shown => exact absurd rfl hdeclined
  | unflushed pixmap imported fits cause stuck =>
    have hnews : ∀ e ∈ connection.entries [d.countUp.request pixmap],
        e.window? ≠ some d.window := by
      intro e he
      rw [List.mem_singleton.mp he, Connection.entry_stuck stuck]
      simp [Entry.window?]
    have hsame := h.elsewhere hnews
    exact ⟨hsame.matched, hsame.flight, hsame.frame, hsame.count⟩
  | refused | unwritten | overdue =>
    rw [Connection.entries_nil, List.append_nil]
    exact ⟨h.matched, h.flight, h.frame, h.count⟩

/-- An image that a window takes is in flight under its pixmap. -/
theorem Booked.takes {log : List Entry} {d d' : Window} {presented : List Image} {armed : Bool}
    (h : Booked log d presented armed) {connection : Connection} {image : Image}
    {sent : List Request} (hanswer : d.Answer connection image (.done ()) d' sent)
    (hnew : ∀ pixmap, image.pixmap? = some pixmap → pixmap ∉ d.inFlight.map (·.1)) :
    Booked (log ++ connection.entries sent) d' (presented ++ [image]) true := by
  cases hanswer with
  | shown pixmap imported fits flushed =>
    rw [Connection.entries, List.map_singleton, Connection.entry_flushed flushed]
    exact h.presents imported (hnew pixmap imported)

/-- A window that agrees with the journal does so after a turn of its output, if the pixmap of an
image that may be shown is not in flight. -/
theorem Booked.turn {log : List Entry} {connection : Connection} {o : Output Window}
    (h : Booked log o.details o.scheduler.presented o.scheduler.armed)
    (hpixmaps : (o.details.inFlight.map (·.1)).Nodup)
    (hids : (o.scheduler.presented.map (·.id)).Nodup)
    {heard : List Entry} {t : FrameScheduler.Turn} {f : FrameScheduler} {d d' : Window}
    {sent : List Request} (hoccasion : Occasion o.details t.call heard d)
    (hused : (Window.surface connection).Used t.asked (d, []) (d', sent))
    (heffect : o.scheduler.Effect t f)
    (hnew : ∀ image ∈ t.handedIn ++ o.scheduler.pending.toList, ∀ pixmap,
      image.pixmap? = some pixmap → pixmap ∉ o.details.inFlight.map (·.1)) :
    Booked (log ++ (heard ++ connection.entries sent)) d' f.presented f.armed := by
  cases heffect with
  | shown image =>
    cases hoccasion
    exact h.takes (Window.used_answer hused)
      (hnew image (List.mem_append_left _ List.mem_cons_self))
  | refused | lost =>
    cases hoccasion
    exact h.declines (Window.used_answer hused) (by simp)
  | queued =>
    cases hoccasion
    obtain ⟨rfl, rfl⟩ := Prod.mk.inj hused
    rwa [List.nil_append, Connection.entries_nil, List.append_nil]
  | ignored idle =>
    cases hoccasion with
    | complete serial msc =>
      obtain ⟨rfl, rfl⟩ := Prod.mk.inj hused
      rw [idle, Connection.entries_nil, List.append_nil]
      exact h.completes serial msc
  | completed =>
    cases hoccasion with
    | complete serial msc =>
      obtain ⟨rfl, rfl⟩ := Prod.mk.inj hused
      rw [Connection.entries_nil, List.append_nil]
      exact h.completes serial msc
  | followed image busy waiting =>
    cases hoccasion with
    | complete serial msc =>
      have hfresh := hnew image (List.mem_append_right _ (by simp [waiting]))
      rw [busy, ← List.append_assoc]
      exact (h.completes serial msc).takes (Window.used_answer hused) hfresh
  | followerRefused | followerLost =>
    cases hoccasion with
    | complete serial msc =>
      rw [← List.append_assoc]
      exact (h.completes serial msc).declines (Window.used_answer hused) (by simp)
  | returned image before after split =>
    cases hoccasion with
    | idle serial pixmap _ found =>
      obtain ⟨rfl, rfl⟩ := Prod.mk.inj hused
      have himage := h.image_of_lookup hids (by simp [split]) found
      rw [split] at h
      rw [Connection.entries_nil, List.append_nil]
      exact h.idles hpixmaps himage serial
  | unknown id absent =>
    cases hoccasion with
    | idle serial pixmap _ found =>
      -- what is in flight is presented
      obtain ⟨image, himage, -, hid⟩ := h.mem_iff.mp (Directory.mem_of_lookup found)
      exact absurd hid (absent image himage)
  | resized =>
    cases hoccasion with
    | configure serial width height =>
      obtain ⟨rfl, rfl⟩ := Prod.mk.inj hused
      have hnews : ∀ e ∈ [Entry.heard serial (.configure o.details.window width height)],
          e.window? ≠ some o.details.window := by simp [Entry.window?]
      have hsame := h.elsewhere hnews
      rw [Connection.entries_nil, List.append_nil]
      exact ⟨hsame.matched, hsame.flight, hsame.frame, hsame.count⟩
  | told | ended => cases hoccasion

/-! ## The windows and the journal -/

/-- Nothing is on its way to a window. -/
structure Vacant (log : List Entry) (window : ResourceId) : Prop where
  frame : lastSaid (Entry.frame window) log ≠ some true
  flight : ∀ pixmap, lastSaid (Entry.flight window pixmap) log ≠ some true

namespace Vacant

variable {log news : List Entry} {window : ResourceId}

/-- Only presentations are on their way. -/
theorem append (h : Vacant log window) (hnews : ∀ e ∈ news, ∀ target pixmap serial msc,
      e ≠ .sent (.presentPixmap target pixmap serial msc)) : Vacant (log ++ news) window := by
  refine ⟨lastSaid_ne (fun e he htrue => ?_) h.frame,
    fun pixmap => lastSaid_ne (fun e he htrue => ?_) (h.flight pixmap)⟩
  · obtain ⟨pixmap, serial, msc, heq⟩ := Entry.frame_eq_true htrue
    exact hnews e he _ _ _ _ heq
  · obtain ⟨serial, msc, heq⟩ := Entry.flight_eq_true htrue
    exact hnews e he _ _ _ _ heq

theorem elsewhere (h : Vacant log window) (hnews : ∀ e ∈ news, e.window? ≠ some window) :
    Vacant (log ++ news) window := by
  refine ⟨?_, fun pixmap => ?_⟩
  · rw [lastSaid_of_silent fun e he => Entry.frame_foreign (hnews e he)]
    exact h.frame
  · rw [lastSaid_of_silent fun e he => Entry.flight_foreign (hnews e he) pixmap]
    exact h.flight pixmap

/-- The window is destroyed, maybe with others. -/
theorem destroyed (log : List Entry)
    (hnews : ∀ e ∈ news, e.window? = none ∨ ∃ other, e = .sent (.destroyWindow other))
    (hmem : .sent (.destroyWindow window) ∈ news) : Vacant (log ++ news) window := by
  have hlast : ∀ matter : Entry → Option Bool, (∀ e, e.window? ≠ some window → matter e = none) →
      matter (.sent (.destroyWindow window)) = some false →
      lastSaid matter (log ++ news) = some false := by
    intro matter hforeign hown
    refine lastSaid_of_agreed (fun e he => ?_) ⟨_, hmem, hown⟩
    rcases hnews e he with hnone | ⟨other, rfl⟩
    · exact .inl (hforeign e (by simp [hnone]))
    · by_cases hsame : other = window
      · exact .inr (hsame ▸ hown)
      · exact .inl (hforeign _ (by simpa [Entry.window?] using hsame))
  refine ⟨?_, fun pixmap => ?_⟩
  · rw [hlast _ (fun e he => Entry.frame_foreign he) (by simp [Entry.frame])]
    simp
  · rw [hlast _ (fun e he => Entry.flight_foreign he pixmap) (by simp [Entry.flight])]
    simp

end Vacant

/-- Every window agrees with the journal, and nothing is on its way to a window that is not
there. -/
structure Ledger (log : List Entry) (outputs : List (OutputId × Output Window)) : Prop where
  booked : ∀ entry ∈ outputs,
    Booked log entry.2.details entry.2.scheduler.presented entry.2.scheduler.armed
  closed : ∀ window, (∀ entry ∈ outputs, entry.2.details.window ≠ window) → Vacant log window

/-- A message that is of no concern to any output. -/
inductive Harmless (outputs : List (OutputId × Output Window)) : Entry → Prop where
  | foreign {e : Entry}
      (shows : ∀ window pixmap serial target,
        e ≠ .sent (.presentPixmap window pixmap serial target))
      (elsewhere : ∀ entry ∈ outputs, e.window? ≠ some entry.2.details.window) : Harmless outputs e
  /-- A pixmap is given back that is not in flight. -/
  | stray {serial : UInt32} {window pixmap : ResourceId}
      (absent : ∀ entry ∈ outputs, entry.2.details.window = window →
        pixmap ∉ entry.2.details.inFlight.map (·.1)) :
    Harmless outputs (.heard serial (.idle window pixmap))

theorem Harmless.not_shows {outputs : List (OutputId × Output Window)} {e : Entry}
    (h : Harmless outputs e) (window pixmap : ResourceId) (serial : UInt32) (target : UInt64) :
    e ≠ .sent (.presentPixmap window pixmap serial target) := by
  cases h with
  | foreign shows => exact shows window pixmap serial target
  | stray => simp

theorem Harmless.of_silent (outputs : List (OutputId × Output Window)) {e : Entry}
    (h : e.window? = none) : Harmless outputs e := by
  refine .foreign (fun window pixmap serial target heq => ?_) fun _ _ => by simp [h]
  subst heq
  exact absurd h (by simp [Entry.window?])

namespace Ledger

variable {log news : List Entry} {outputs : List (OutputId × Output Window)}

theorem add (h : Ledger log outputs) {e : Entry} (he : Harmless outputs e) :
    Ledger (log ++ [e]) outputs := by
  constructor
  · intro entry hentry
    cases he with
    | foreign shows elsewhere =>
      refine (h.booked entry hentry).elsewhere fun other hother => ?_
      rw [List.mem_singleton.mp hother]
      exact elsewhere entry hentry
    | @stray serial window pixmap absent =>
      by_cases hwindow : entry.2.details.window = window
      · subst hwindow
        exact (h.booked entry hentry).stray (absent entry hentry rfl) serial
      · refine (h.booked entry hentry).elsewhere fun other hother => ?_
        rw [List.mem_singleton.mp hother]
        simpa [Entry.window?] using Ne.symm hwindow
  · intro window hwindow
    refine (h.closed window hwindow).append fun other hother => ?_
    rw [List.mem_singleton.mp hother]
    exact he.not_shows

/-- Messages that are of no concern to any output. -/
theorem aside (h : Ledger log outputs) (hnews : ∀ e ∈ news, Harmless outputs e) :
    Ledger (log ++ news) outputs := by
  induction news generalizing log with
  | nil => rwa [List.append_nil]
  | cons e rest ih =>
    have hrest := ih (h.add (hnews e List.mem_cons_self)) fun other ho =>
      hnews other (List.mem_cons_of_mem _ ho)
    rwa [List.append_assoc, List.singleton_append] at hrest

/-- An output changes, and the messages are about its window only. -/
theorem turn {before after : List (OutputId × Output Window)} {id : OutputId} {o o' : Output Window}
    (h : Ledger log (before ++ (id, o) :: after))
    (hwindows : ((before ++ (id, o) :: after).map (·.2.details.window)).Nodup)
    (hbooked : Booked (log ++ news) o'.details o'.scheduler.presented o'.scheduler.armed)
    (hwindow : o'.details.window = o.details.window)
    (hnews : ∀ e ∈ news, ∀ window, e.window? = some window → window = o.details.window) :
    Ledger (log ++ news) (before ++ (id, o') :: after) := by
  have hother : ∀ entry ∈ before ++ after, entry.2.details.window ≠ o.details.window := by
    intro entry hentry heq
    rw [List.map_append, List.map_cons, List.nodup_middle, List.nodup_cons, ← List.map_append]
      at hwindows
    exact hwindows.1 (List.mem_map.mpr ⟨entry, hentry, heq⟩)
  have hforeign : ∀ window, window ≠ o.details.window → ∀ e ∈ news, e.window? ≠ some window :=
    fun window hne e he hsome => hne (hnews e he window hsome)
  have hkept : ∀ entry ∈ before ++ after,
      Booked (log ++ news) entry.2.details entry.2.scheduler.presented entry.2.scheduler.armed := by
    intro entry hentry
    refine (h.booked entry ?_).elsewhere (hforeign _ (hother entry hentry))
    exact List.perm_middle.symm.subset (List.mem_cons_of_mem _ hentry)
  constructor
  · intro entry hentry
    rcases List.mem_cons.mp (List.perm_middle.subset hentry) with rfl | hentry
    · exact hbooked
    · exact hkept entry hentry
  · intro window hgone
    have hne : window ≠ o.details.window := by
      rintro rfl
      exact hgone (id, o') (by simp) hwindow
    have hvacant : Vacant log window := by
      refine h.closed window fun entry hentry => ?_
      rcases List.mem_cons.mp (List.perm_middle.subset hentry) with rfl | hentry
      · exact Ne.symm hne
      · exact hgone entry (List.perm_middle.symm.subset (List.mem_cons_of_mem _ hentry))
    exact hvacant.elsewhere (hforeign window hne)

/-- A new output is added. -/
theorem opens (h : Ledger (log ++ news) outputs) {id : OutputId} {o : Output Window}
    (hbooked : Booked (log ++ news) o.details o.scheduler.presented o.scheduler.armed) :
    Ledger (log ++ news) (outputs ++ [(id, o)]) := by
  constructor
  · intro entry hentry
    rcases List.mem_append.mp hentry with hentry | hentry
    · exact h.booked entry hentry
    · rw [List.mem_singleton.mp hentry]
      exact hbooked
  · exact fun window hgone => h.closed window fun entry hentry =>
      hgone entry (List.mem_append_left _ hentry)

/-- Outputs are gone, and their windows destroyed. -/
theorem ends {outputs' gone : List (OutputId × Output Window)} (h : Ledger log outputs)
    (hsplit : (gone ++ outputs').Perm outputs)
    (hwindows : (outputs.map (·.2.details.window)).Nodup) :
    Ledger (log ++ sentEntries (gone.flatMap Client.lastRequests)) outputs' := by
  have hnews : ∀ e ∈ sentEntries (gone.flatMap Client.lastRequests), e.window? = none ∨
      ∃ entry ∈ gone, e = .sent (.destroyWindow entry.2.details.window) := by
    intro e he
    obtain ⟨request, hrequest, rfl⟩ := List.mem_map.mp he
    obtain ⟨entry, hentry, hlast⟩ := List.mem_flatMap.mp hrequest
    simp only [Client.lastRequests, List.mem_cons, List.not_mem_nil, or_false] at hlast
    rcases hlast with rfl | rfl
    · exact .inl rfl
    · exact .inr ⟨entry, hentry, rfl⟩
  constructor
  · intro entry hentry
    refine (h.booked entry (hsplit.subset (List.mem_append_right _ hentry))).elsewhere
      fun e he hsome => ?_
    rcases hnews e he with hnone | ⟨other, hother, rfl⟩
    · exact absurd (hnone.symm.trans hsome) (by simp)
    · -- the windows of those that are gone are not those that stay
      have hall := (hsplit.map (·.2.details.window)).nodup_iff.mpr hwindows
      exact map_ne_of_nodup_append hall hother hentry (by simpa [Entry.window?] using hsome)
  · intro window hgone
    by_cases hwindow : ∃ entry ∈ gone, entry.2.details.window = window
    · obtain ⟨entry, hentry, rfl⟩ := hwindow
      refine .destroyed log (fun e he => ?_) (List.mem_map_of_mem
        (List.mem_flatMap.mpr ⟨entry, hentry, by simp [Client.lastRequests]⟩))
      rcases hnews e he with hnone | ⟨other, -, heq⟩
      · exact .inl hnone
      · exact .inr ⟨_, heq⟩
    · have hvacant : Vacant log window := by
        refine h.closed window fun entry hentry heq => ?_
        rcases List.mem_append.mp (hsplit.symm.subset hentry) with hentry | hentry
        · exact hwindow ⟨entry, hentry, heq⟩
        · exact hgone entry hentry heq
      refine hvacant.append fun e he _ _ _ _ heq => ?_
      rcases hnews e he with hnone | ⟨entry, -, hdestroys⟩
      · exact absurd hnone (by simp [heq, Entry.window?])
      · exact absurd (heq.symm.trans hdestroys) (by simp)

end Ledger

end Scanout.X11
