import Scanout.Proofs.Display.FailedOutput
import Scanout.Proofs.Output.Telling
import Scanout.Proofs.X11.LastRefresh

/-!
# The event loop

A program hears of its display through an event loop. Whenever the display's connection has
something to read, or the registry asked to be woken up, the loop dispatches the display: what was
heard is handled, the queue is emptied, and each of its events is passed to the program, which may
make any calls before it returns. A call may also be made outside of the loop. Calls can break a
contract, which ends the dispatch they are made in; the program may go on nevertheless. Nothing else
ends a dispatch: it goes through exactly if each of its `moments` does.

`Loop` is such a run of a display. The display only has to collect after everything it does:
`Prompt` says so, operation by operation and also for those that break a contract, and
`no_event_stranded` says for both kinds of displays what follows for the program. On a Wayland
compositor no call breaks a contract, and on an X server only one that is `Overdue`.
-/

namespace Scanout

namespace Display

variable {κ δ ε : Type}

/-- A display whose operations leave nothing with its schedulers, however they end. -/
structure Prompt (D : Display κ δ ε) : Prop where
  createOutput : ∀ id c, D.registry (D.createOutput id c).2 = D.registry c ∨
    ((D.registry c).disconnected = false ∧
      ∃ details, D.registry (D.createOutput id c).2 = (D.registry c).insert id ⟨{}, details⟩)
  scheduleFrame : ∀ id image c, (D.registry c).Tidy →
    (D.registry c).Reports (D.registry (D.scheduleFrame id image c).2)
  destroyOutput : ∀ id c, (D.registry c).Tidy →
    (D.registry c).Reports (D.registry (D.destroyOutput id c))
  connectionClosed : ∀ c, (D.registry c).Tidy →
    (D.registry c).Reports (D.registry (D.connectionClosed c))
  handle : ∀ e c, (D.registry c).Tidy →
    (D.registry c).Reports (D.registry (D.handle e c).2)
  deliver : ∀ c, (D.deliver c).1 = (D.registry c).takeEvents.1 ∧
    D.registry (D.deliver c).2 = (D.registry c).takeEvents.2

/-- Something that is done with a display, by the program or from outside. -/
inductive Deed (ε : Type) where
  /-- Identifiers are drawn from one source, others may have drawn some meanwhile. -/
  | createOutput (skipped : Nat)
  | scheduleFrame (id : OutputId) (image : Image)
  | destroyOutput (id : OutputId)
  | connectionClosed
  | other (e : ε)
  deriving DecidableEq, Repr

/-- A display in an event loop. -/
structure Loop (κ : Type) where
  client : κ
  /-- The number the next output has at least. -/
  next : Nat := 0
  /-- What was taken out of the queue. -/
  taken : List BackendEvent := []
  /-- What was passed to the program. -/
  passed : List BackendEvent := []
  /-- Whether the loop has let go of the display. -/
  removed : Bool := false
  /-- Whether no contract was broken so far. -/
  whole : Bool := true
  deriving DecidableEq, Repr

namespace Loop

def start (c : κ) : Loop κ := { client := c }

/-- Does something, and says whether no contract was broken. -/
def perform (D : Display κ δ ε) (w : Loop κ) : Deed ε → Bool × Loop κ
  | .createOutput skipped =>
    let id : OutputId := ⟨w.next + skipped⟩
    (true, { w with client := (D.createOutput id w.client).2, next := id.number + 1 })
  | .scheduleFrame id image =>
    let (outcome, c) := D.scheduleFrame id image w.client
    (!outcome.broke, { w with client := c })
  | .destroyOutput id => (true, { w with client := D.destroyOutput id w.client })
  | .connectionClosed => (true, { w with client := D.connectionClosed w.client })
  | .other e =>
    let (held, c) := D.handle e w.client
    (held, { w with client := c })

/-- Does one thing after the other, until a contract is broken. -/
def performAll (D : Display κ δ ε) (w : Loop κ) : List (Deed ε) → Bool × Loop κ
  | [] => (true, w)
  | deed :: rest =>
    match w.perform D deed with
    | (false, w) => (false, w)
    | (true, w) => w.performAll D rest

/-- Passes events to the program, which replies to each before it gets the next. -/
def passAll (D : Display κ δ ε) (w : Loop κ) :
    List BackendEvent → List (List (Deed ε)) → Bool × Loop κ
  | [], _ => (true, w)
  | e :: rest, replies =>
    match { w with passed := w.passed ++ [e] }.performAll D (replies.headD []) with
    | (false, w) => (false, w)
    | (true, w) => w.passAll D rest replies.tail

/-- Passes on what is in the queue. After the loss of the connection the display is let go of. -/
def passOn (D : Display κ δ ε) (w : Loop κ) (replies : List (List (Deed ε))) : Bool × Loop κ :=
  let (events, c) := D.deliver w.client
  match { w with client := c, taken := w.taken ++ events }.passAll D events replies with
  | (false, w) => (false, w)
  | (true, w) => (true, { w with removed := events.contains .disconnected })

/-- Handles what was heard, and passes on what is in the queue then. -/
def dispatch (D : Display κ δ ε) (w : Loop κ) (heard : List (Deed ε))
    (replies : List (List (Deed ε))) : Bool × Loop κ :=
  if w.removed then (true, w)
  else
    match w.performAll D heard with
    | (false, w) => (false, w)
    | (true, w) => w.passOn D replies

/-- What is done one after the other, each with the loop it is done in if nothing before it broke a
contract. -/
def moments (D : Display κ δ ε) (w : Loop κ) : List (Deed ε) → List (Loop κ × Deed ε)
  | [] => []
  | deed :: rest => (w, deed) :: (w.perform D deed).2.moments D rest

/-- The replies to events that are passed on. -/
def passMoments (D : Display κ δ ε) (w : Loop κ) :
    List BackendEvent → List (List (Deed ε)) → List (Loop κ × Deed ε)
  | [], _ => []
  | e :: rest, replies =>
    let asked := { w with passed := w.passed ++ [e] }
    asked.moments D (replies.headD [])
      ++ (asked.performAll D (replies.headD [])).2.passMoments D rest replies.tail

/-- All that is done in a dispatch: what was heard, and then the replies to what is in the queue. -/
def dispatchMoments (D : Display κ δ ε) (w : Loop κ) (heard : List (Deed ε))
    (replies : List (List (Deed ε))) : List (Loop κ × Deed ε) :=
  if w.removed then []
  else
    let due := (w.performAll D heard).2
    let (events, c) := D.deliver due.client
    w.moments D heard
      ++ { due with client := c, taken := due.taken ++ events }.passMoments D events replies

/-- What can happen next. -/
inductive Turn (ε : Type) where
  | deed (deed : Deed ε)
  | dispatch (heard : List (Deed ε)) (replies : List (List (Deed ε)))

/-- What happens, and whether it breaks no contract. -/
def turn (D : Display κ δ ε) (w : Loop κ) : Turn ε → Bool × Loop κ
  | .deed deed => w.perform D deed
  | .dispatch heard replies => w.dispatch D heard replies

/-- The run goes on whatever happens. -/
def step (D : Display κ δ ε) (w : Loop κ) (t : Turn ε) : Loop κ :=
  let (held, w') := w.turn D t
  { w' with whole := w'.whole && held }

def run (D : Display κ δ ε) (w : Loop κ) (turns : List (Turn ε)) : Loop κ :=
  turns.foldl (step D) w

/-- A dispatch that ended well, where `due` are the outputs once all that was heard is handled. -/
structure Dispatched (D : Display κ δ ε) (w : Loop κ) (due : Registry δ) (after : Loop κ) : Prop where
  /-- The news of what was heard wait behind those that waited before. -/
  heard : ∃ news, (D.registry w.client).Tales news due ∧
    due.events = (D.registry w.client).events ++ news
  taken : after.taken = w.taken ++ due.events
  /-- Each event of the queue is passed on, once and in order. -/
  passed : after.passed = w.passed ++ due.events
  /-- The news of the replies are what is in the queue now. -/
  replied : ∃ news, due.takeEvents.2.Tales news (D.registry after.client) ∧
    (D.registry after.client).events = news
  removed : after.removed = due.events.contains .disconnected

/-- No event is stranded between two calls. -/
structure Unstranded (D : Display κ δ ε) (w : Loop κ) : Prop where
  /-- Nothing is left with a scheduler. -/
  settled : (D.registry w.client).Settled
  /-- If something is in the queue, somebody was woken up since it was emptied, and will come for
  it. -/
  awake : (D.registry w.client).events ≠ [] →
    (D.registry w.client).awake = true ∧ w.removed = false
  /-- What was taken and what is in the queue is all there was to tell, in order. -/
  recounts : (D.registry w.client).Recounts (w.taken ++ (D.registry w.client).events)
  /-- Unless a contract was broken, what was taken was passed on. -/
  passed : w.whole = true → w.passed = w.taken
  /-- Whatever is done, its news go behind the queue. -/
  deed : ∀ deed, ∃ news,
    (D.registry w.client).Tells news (D.registry (w.perform D deed).2.client)
  /-- A dispatch goes through exactly if nothing that is done in it breaks a contract. -/
  held : ∀ heard replies, (w.dispatch D heard replies).1 = true ↔
    ∀ moment ∈ w.dispatchMoments D heard replies, (moment.1.perform D moment.2).1 = true
  /-- So it does if nothing was heard and the program makes no calls. -/
  idle : (w.dispatch D [] []).1 = true
  dispatch : ∀ heard replies, w.removed = false → (w.dispatch D heard replies).1 = true →
    w.Dispatched D (D.registry (w.performAll D heard).2.client) (w.dispatch D heard replies).2

/-! ## When a dispatch goes through -/

section

variable (D : Display κ δ ε)

theorem performAll_held_iff (deeds : List (Deed ε)) :
    ∀ w : Loop κ, (w.performAll D deeds).1 = true ↔
      ∀ moment ∈ w.moments D deeds, (moment.1.perform D moment.2).1 = true := by
  induction deeds with
  | nil => exact fun w => iff_of_true rfl (by simp [moments])
  | cons deed rest ih =>
    intro w
    rw [moments, List.forall_mem_cons, ← ih, performAll]
    rcases w.perform D deed with ⟨_ | _, w'⟩
    · simp
    · simp

theorem passAll_held_iff (events : List BackendEvent) :
    ∀ (w : Loop κ) (replies : List (List (Deed ε))), (w.passAll D events replies).1 = true ↔
      ∀ moment ∈ w.passMoments D events replies, (moment.1.perform D moment.2).1 = true := by
  induction events with
  | nil => exact fun w replies => iff_of_true rfl (by simp [passMoments])
  | cons e rest ih =>
    intro w replies
    rw [passMoments, List.forall_mem_append, ← ih, ← performAll_held_iff, passAll]
    rcases performAll D { w with passed := w.passed ++ [e] } (replies.headD []) with ⟨_ | _, w'⟩
    · simp
    · simp

theorem dispatch_held_iff (w : Loop κ) (heard : List (Deed ε)) (replies : List (List (Deed ε))) :
    (w.dispatch D heard replies).1 = true ↔
      ∀ moment ∈ w.dispatchMoments D heard replies, (moment.1.perform D moment.2).1 = true := by
  unfold dispatch dispatchMoments
  split
  · simp
  rw [List.forall_mem_append, ← performAll_held_iff, ← passAll_held_iff]
  rcases w.performAll D heard with ⟨_ | _, due⟩
  · simp
  simp only [passOn, true_and]
  split <;> next hpass => simp [hpass]

/-- Without replies nothing is done while events are passed on. -/
theorem passMoments_nil (events : List BackendEvent) :
    ∀ w : Loop κ, w.passMoments D events [] = [] := by
  induction events with
  | nil => exact fun w => rfl
  | cons e rest ih => exact fun w => ih _

theorem dispatch_idle (w : Loop κ) : (w.dispatch D [] []).1 = true := by
  rw [dispatch_held_iff]
  unfold dispatchMoments
  split
  · simp
  · simp [performAll, moments, passMoments_nil]

end

/-! ## What every call keeps -/

structure Inv (D : Display κ δ ε) (w : Loop κ) : Prop where
  tidy : (D.registry w.client).Tidy
  below : ∀ id ∈ (D.registry w.client).ids, id.number < w.next
  awake : (D.registry w.client).events ≠ [] → (D.registry w.client).awake = true
  recounts : (D.registry w.client).Recounts (w.taken ++ (D.registry w.client).events)
  gone : w.removed = true → (D.registry w.client).disconnected = true ∧
    (D.registry w.client).outputs = [] ∧ (D.registry w.client).events = []

variable {D : Display κ δ ε} {w : Loop κ}

theorem start_inv {c : κ} (hc : D.registry c = {}) : (start c).Inv D := by
  have hregistry : D.registry (start c).client = {} := hc
  constructor
  · rw [hregistry]
    exact ⟨fun _ h => absurd h List.not_mem_nil, List.nodup_nil⟩
  · rw [hregistry]
    exact fun _ h => absurd h List.not_mem_nil
  · rw [hregistry]
    exact fun h => absurd rfl h
  · rw [hregistry]
    exact .start
  · exact fun h => absurd h (by simp [start])

/-- Only the queue and what is in it matter of the record. -/
theorem Inv.record (h : w.Inv D) (passed : List BackendEvent) (whole : Bool) :
    { w with passed := passed, whole := whole : Loop κ }.Inv D :=
  ⟨h.tidy, h.below, h.awake, h.recounts, h.gone⟩

/-- A call that puts its news behind the queue. -/
theorem Inv.tells (h : w.Inv D) {c : κ} {next : Nat} {news : List BackendEvent}
    (htells : (D.registry w.client).Tells news (D.registry c)) (hnext : w.next ≤ next)
    (hnew : ∀ id, .newOutput id ∈ news → id.number < next) :
    { w with client := c, next := next : Loop κ }.Inv D where
  tidy := htells.tidy h.tidy
  below := by
    intro id hid
    rcases htells.ids_subset hid with hold | hfresh
    · exact Nat.lt_of_lt_of_le (h.below id hold) hnext
    · exact hnew id hfresh
  awake := by
    intro hsome
    show (D.registry c).awake = true
    rw [htells.awake_eq]
    cases hnews : news with
    | nil =>
      have hevents : (D.registry c).events = (D.registry w.client).events := by
        rw [htells.events_eq, hnews, List.append_nil]
      rw [h.awake (hevents ▸ hsome), Bool.true_or]
    | cons e rest => exact Bool.or_true _
  recounts := by
    show (D.registry c).Recounts (w.taken ++ (D.registry c).events)
    rw [htells.events_eq, ← List.append_assoc]
    exact h.recounts.told htells
  gone := by
    intro hremoved
    obtain ⟨hlost, hnone, hempty⟩ := h.gone hremoved
    have hsame := (htells.silent hlost hnone).2
    show (D.registry c).disconnected = true ∧ (D.registry c).outputs = [] ∧
      (D.registry c).events = []
    rw [hsame]
    exact ⟨hlost, hnone, hempty⟩

/-- A call that makes no output. -/
theorem Inv.reports (h : w.Inv D) {c : κ} (hreports : (D.registry w.client).Reports (D.registry c)) :
    { w with client := c : Loop κ }.Inv D := by
  obtain ⟨news, htells, hnone⟩ := hreports
  exact h.tells htells (Nat.le_refl w.next) fun id hid => absurd hid (hnone id)

theorem Inv.perform (h : w.Inv D) (hD : D.Prompt) (deed : Deed ε) :
    (w.perform D deed).2.Inv D ∧
      ∃ news, (D.registry w.client).Tells news (D.registry (w.perform D deed).2.client) := by
  cases deed with
  | createOutput skipped =>
    have hbelow : w.next ≤ w.next + skipped + 1 := by omega
    rcases hD.createOutput ⟨w.next + skipped⟩ w.client with hsame | ⟨hlive, details, hinsert⟩
    · have htells : (D.registry w.client).Tells []
          (D.registry (D.createOutput ⟨w.next + skipped⟩ w.client).2) := hsame ▸ .nothing
      exact ⟨h.tells htells hbelow fun _ hid => absurd hid List.not_mem_nil, _, htells⟩
    · have hnew : (⟨w.next + skipped⟩ : OutputId) ∉ (D.registry w.client).ids := by
        intro hid
        have hlt : w.next + skipped < w.next := h.below _ hid
        omega
      have htells : (D.registry w.client).Tells [.newOutput ⟨w.next + skipped⟩]
          (D.registry (D.createOutput ⟨w.next + skipped⟩ w.client).2) :=
        hinsert ▸ .opened hnew hlive
      refine ⟨h.tells htells hbelow fun id hid => ?_, _, htells⟩
      obtain rfl : id = ⟨w.next + skipped⟩ := by simpa using hid
      exact Nat.lt_succ_self _
  | scheduleFrame id image =>
    have hreports := hD.scheduleFrame id image w.client h.tidy
    exact ⟨h.reports hreports, hreports.imp fun _ hnews => hnews.1⟩
  | destroyOutput id =>
    have hreports := hD.destroyOutput id w.client h.tidy
    exact ⟨h.reports hreports, hreports.imp fun _ hnews => hnews.1⟩
  | connectionClosed =>
    have hreports := hD.connectionClosed w.client h.tidy
    exact ⟨h.reports hreports, hreports.imp fun _ hnews => hnews.1⟩
  | other e =>
    have hreports := hD.handle e w.client h.tidy
    exact ⟨h.reports hreports, hreports.imp fun _ hnews => hnews.1⟩

/-- The display and its identifiers apart, nothing of the record is changed. -/
structure Alongside (w w' : Loop κ) : Prop where
  taken : w'.taken = w.taken
  passed : w'.passed = w.passed
  removed : w'.removed = w.removed
  whole : w'.whole = w.whole

theorem Alongside.refl (w : Loop κ) : w.Alongside w :=
  ⟨rfl, rfl, rfl, rfl⟩

theorem Alongside.trans {w' w'' : Loop κ} (h : w.Alongside w') (h' : w'.Alongside w'') :
    w.Alongside w'' :=
  ⟨h'.taken.trans h.taken, h'.passed.trans h.passed, h'.removed.trans h.removed,
    h'.whole.trans h.whole⟩

theorem perform_alongside (D : Display κ δ ε) (w : Loop κ) (deed : Deed ε) :
    w.Alongside (w.perform D deed).2 := by
  cases deed <;> exact ⟨rfl, rfl, rfl, rfl⟩

theorem performAll_alongside (D : Display κ δ ε) (deeds : List (Deed ε)) :
    ∀ w : Loop κ, w.Alongside (w.performAll D deeds).2 := by
  induction deeds with
  | nil => exact Alongside.refl
  | cons deed rest ih =>
    intro w
    have hdeed := perform_alongside D w deed
    unfold performAll
    split
    · next w' hperform =>
      rw [hperform] at hdeed
      exact hdeed
    · next w' hperform =>
      rw [hperform] at hdeed
      exact hdeed.trans (ih w')

/-- One thing after the other: what each has to tell goes behind the queue. -/
theorem Inv.performAll (hD : D.Prompt) (deeds : List (Deed ε)) :
    ∀ {w : Loop κ}, w.Inv D → (w.performAll D deeds).2.Inv D ∧
      ∃ news, (D.registry w.client).Tales news (D.registry (w.performAll D deeds).2.client) := by
  induction deeds with
  | nil => exact fun h => ⟨h, [], .done⟩
  | cons deed rest ih =>
    intro w h
    obtain ⟨hinv, news, htells⟩ := h.perform hD deed
    unfold Loop.performAll
    split
    · next w' hperform =>
      rw [hperform] at hinv htells
      exact ⟨hinv, news, .of_tells htells⟩
    · next w' hperform =>
      rw [hperform] at hinv htells
      obtain ⟨hrest, more, htales⟩ := ih hinv
      exact ⟨hrest, news ++ more, (Registry.Tales.of_tells htells).trans htales⟩

/-- What comes of passing events on, whether or not a reply breaks a contract. -/
structure Passing (D : Display κ δ ε) (w : Loop κ) (events : List BackendEvent)
    (result : Bool × Loop κ) : Prop where
  inv : result.2.Inv D
  taken : result.2.taken = w.taken
  whole : result.2.whole = w.whole
  passed : result.1 = true → result.2.passed = w.passed ++ events
  tales : ∃ news, (D.registry w.client).Tales news (D.registry result.2.client)

/-- Events are passed on once and in order, and what the replies tell goes behind the queue. -/
theorem Inv.passAll (hD : D.Prompt) (events : List BackendEvent) :
    ∀ {w : Loop κ} (replies : List (List (Deed ε))), w.Inv D →
      w.Passing D events (w.passAll D events replies) := by
  induction events with
  | nil => exact fun _ h => ⟨h, rfl, rfl, fun _ => (List.append_nil _).symm, [], .done⟩
  | cons e rest ih =>
    intro w replies h
    obtain ⟨hinv, news, htales⟩ := (h.record (w.passed ++ [e]) w.whole).performAll hD
      (replies.headD [])
    have hreply := performAll_alongside D (replies.headD []) { w with passed := w.passed ++ [e] }
    unfold Loop.passAll
    split
    · next w' hperform =>
      rw [hperform] at hinv htales hreply
      exact ⟨hinv, hreply.taken, hreply.whole, fun h => absurd h (by simp), news, htales⟩
    · next w' hperform =>
      rw [hperform] at hinv htales hreply
      have hrest := ih replies.tail hinv
      obtain ⟨more, hmore⟩ := hrest.tales
      refine ⟨hrest.inv, hrest.taken.trans hreply.taken, hrest.whole.trans hreply.whole,
        fun hheld => ?_, news ++ more, htales.trans hmore⟩
      rw [hrest.passed hheld, hreply.passed, List.append_assoc, List.singleton_append]

/-- The queue is emptied. -/
theorem Inv.deliver (hD : D.Prompt) (h : w.Inv D) :
    { w with
      client := (D.deliver w.client).2
      taken := w.taken ++ (D.deliver w.client).1 : Loop κ }.Inv D := by
  obtain ⟨hevents, hrest⟩ := hD.deliver w.client
  constructor
  · show (D.registry (D.deliver w.client).2).Tidy
    rw [hrest]
    exact ⟨h.tidy.settled, h.tidy.ids⟩
  · show ∀ id ∈ (D.registry (D.deliver w.client).2).ids, id.number < w.next
    rw [hrest]
    exact h.below
  · show (D.registry (D.deliver w.client).2).events ≠ [] → _
    rw [hrest]
    exact fun hsome => absurd rfl hsome
  · show (D.registry (D.deliver w.client).2).Recounts
      (w.taken ++ (D.deliver w.client).1 ++ (D.registry (D.deliver w.client).2).events)
    rw [hevents, hrest]
    show (D.registry w.client).takeEvents.2.Recounts
      (w.taken ++ (D.registry w.client).events ++ [])
    rw [List.append_nil]
    exact h.recounts.taken
  · intro hremoved
    obtain ⟨hlost, hnone, -⟩ := h.gone hremoved
    show (D.registry (D.deliver w.client).2).disconnected = true ∧
      (D.registry (D.deliver w.client).2).outputs = [] ∧
      (D.registry (D.deliver w.client).2).events = []
    rw [hrest]
    exact ⟨hlost, hnone, rfl⟩

/-- Once the loss of the connection was passed on, nothing is heard of the display any more. -/
theorem Inv.letGo {events : List BackendEvent} (h : w.Inv D)
    (htaken : events ⊆ w.taken) (hqueue : .disconnected ∈ events →
      (D.registry w.client).events = []) :
    { w with removed := events.contains .disconnected : Loop κ }.Inv D where
  tidy := h.tidy
  below := h.below
  awake := h.awake
  recounts := h.recounts
  gone := by
    intro hcontains
    have htold : .disconnected ∈ events := List.contains_iff_mem.mp hcontains
    obtain ⟨hlost, hnone⟩ := h.recounts.lost (List.mem_append_left _ (htaken htold))
    exact ⟨hlost, hnone, hqueue htold⟩

theorem Inv.passOn (hD : D.Prompt) (h : w.Inv D) (replies : List (List (Deed ε))) :
    (w.passOn D replies).2.Inv D ∧ (w.passOn D replies).2.whole = w.whole ∧
    ((w.passOn D replies).1 = true →
      w.Dispatched D (D.registry w.client) (w.passOn D replies).2) := by
  obtain ⟨hevents, hrest⟩ := hD.deliver w.client
  have hpassing := (h.deliver hD).passAll hD (D.deliver w.client).1 replies
  unfold Loop.passOn
  simp only
  split
  · next w' hpass =>
    rw [hpass] at hpassing
    exact ⟨hpassing.inv, hpassing.whole, fun h => absurd h (by simp)⟩
  · next w' hpass =>
    rw [hpass] at hpassing
    obtain ⟨news, htales⟩ := hpassing.tales
    simp only [hrest] at htales
    have hqueue : (D.registry w'.client).events = news := htales.events_eq
    have htaken := hpassing.taken
    have hpassed := hpassing.passed rfl
    simp only [hevents, Registry.takeEvents] at htaken hpassed ⊢
    refine ⟨hpassing.inv.letGo (htaken ▸ List.subset_append_right _ _) fun hlost => ?_,
      hpassing.whole, fun _ => ⟨⟨[], .done, (List.append_nil _).symm⟩, htaken, hpassed,
        ⟨news, htales, hqueue⟩, rfl⟩⟩
    have hgone := h.recounts.lost (List.mem_append_right _ hlost)
    rw [hqueue]
    exact (htales.silent hgone.1 hgone.2).1

/-- A dispatch begins with what was heard. -/
theorem Dispatched.heard_before {w' after : Loop κ} {due : Registry δ} {news : List BackendEvent}
    (h : w'.Dispatched D due after) (hbeside : w.Alongside w')
    (htales : (D.registry w.client).Tales news (D.registry w'.client)) :
    w.Dispatched D due after := by
  obtain ⟨more, hmore, -⟩ := h.heard
  have hall := htales.trans hmore
  exact ⟨⟨_, hall, hall.events_eq⟩, hbeside.taken ▸ h.taken, hbeside.passed ▸ h.passed, h.replied,
    h.removed⟩

/-- A dispatch leaves the display as a call does, and if it ends well every event of the queue was
passed on. -/
theorem Inv.dispatch (hD : D.Prompt) (h : w.Inv D) (heard : List (Deed ε))
    (replies : List (List (Deed ε))) :
    (w.dispatch D heard replies).2.Inv D ∧ (w.dispatch D heard replies).2.whole = w.whole ∧
    (w.removed = false → (w.dispatch D heard replies).1 = true →
      w.Dispatched D (D.registry (w.performAll D heard).2.client)
        (w.dispatch D heard replies).2) := by
  obtain ⟨hinv, news, htales⟩ := h.performAll hD heard
  have hheard := performAll_alongside D heard w
  unfold Loop.dispatch
  split
  · next hremoved => exact ⟨h, rfl, fun hlive => absurd hremoved (by simp [hlive])⟩
  · rcases hperform : w.performAll D heard with ⟨_ | _, w'⟩
    · rw [hperform] at hinv hheard
      exact ⟨hinv, hheard.whole, fun _ h => absurd h (by simp)⟩
    · rw [hperform] at hinv htales hheard
      obtain ⟨hafter, hwhole, hdispatched⟩ := hinv.passOn hD replies
      exact ⟨hafter, hwhole.trans hheard.whole,
        fun _ hheld => (hdispatched hheld).heard_before hheard htales⟩

/-! ## Whole runs -/

/-- What a run keeps. -/
structure Kept (D : Display κ δ ε) (w : Loop κ) : Prop where
  inv : w.Inv D
  passed : w.whole = true → w.passed = w.taken

theorem Kept.step (hD : D.Prompt) (h : w.Kept D) (t : Turn ε) : (w.step D t).Kept D := by
  cases t with
  | deed deed =>
    have hbeside := perform_alongside D w deed
    have hinv := (h.inv.perform hD deed).1
    refine ⟨hinv.record _ _, fun hwhole => ?_⟩
    show (w.perform D deed).2.passed = (w.perform D deed).2.taken
    have hbefore : (w.perform D deed).2.whole = true := (Bool.and_eq_true_iff.mp hwhole).1
    rw [hbeside.passed, hbeside.taken]
    exact h.passed (hbeside.whole ▸ hbefore)
  | dispatch heard replies =>
    obtain ⟨hinv, hsame, hdispatched⟩ := h.inv.dispatch hD heard replies
    refine ⟨hinv.record _ _, fun hwhole => ?_⟩
    show (w.dispatch D heard replies).2.passed = (w.dispatch D heard replies).2.taken
    obtain ⟨hbefore, hheld⟩ := Bool.and_eq_true_iff.mp hwhole
    have hpassed := h.passed (hsame ▸ hbefore)
    cases hremoved : w.removed with
    | true =>
      simp only [dispatch, hremoved, if_true]
      exact hpassed
    | false =>
      have hafter := hdispatched hremoved hheld
      rw [hafter.passed, hafter.taken, hpassed]

theorem Kept.run (hD : D.Prompt) (turns : List (Turn ε)) :
    ∀ {w : Loop κ}, w.Kept D → (w.run D turns).Kept D := by
  induction turns with
  | nil => exact fun h => h
  | cons t rest ih => exact fun h => ih (h.step hD t)

theorem Kept.unstranded (hD : D.Prompt) (h : w.Kept D) : w.Unstranded D where
  settled := h.inv.tidy.settled
  awake := by
    intro hsome
    refine ⟨h.inv.awake hsome, ?_⟩
    by_contra hremoved
    exact hsome (h.inv.gone (by simpa using hremoved)).2.2
  recounts := h.inv.recounts
  passed := h.passed
  deed := fun deed => (h.inv.perform hD deed).2
  held := w.dispatch_held_iff D
  idle := w.dispatch_idle D
  dispatch := fun heard replies => (h.inv.dispatch hD heard replies).2.2

theorem run_unstranded (hD : D.Prompt) {c : κ} (hc : D.registry c = {}) (turns : List (Turn ε)) :
    ((start c).run D turns).Unstranded D :=
  (Kept.run hD turns ⟨start_inv hc, fun _ => rfl⟩).unstranded hD

end Loop

end Display

/-! ## Both kinds of displays -/

namespace X11

namespace Client

theorem scheduleFrame_wakes (c : Client) (id : OutputId) (image : Image) :
    c.registry.Wakes (c.scheduleFrame id image).2.2.registry := by
  unfold scheduleFrame
  split
  · exact .refl c.registry
  · simp only
    split
    · exact .set c.registry id _
    · exact .set_collect c.registry id _

theorem complete_wakes (c : Client) (window : ResourceId) (msc : UInt64) :
    c.registry.Wakes (c.complete window msc).2.2.registry := by
  unfold complete
  split
  · exact .collect c.registry
  · simp only
    split
    · exact .set c.registry _ _
    · exact .set_collect c.registry _ _

theorem handle_wakes (c : Client) (e : Event) :
    c.registry.Wakes (c.handle e).2.2.registry := by
  cases e with
  | complete window kind msc =>
    simp only [handle]
    split
    · exact c.complete_wakes window msc
    · exact .refl c.registry
  | idle window pixmap =>
    simp only [handle, idle]
    split
    · exact .collect c.registry
    · split
      · exact .collect c.registry
      · exact .set_collect c.registry _ _
  | configure window width height =>
    simp only [handle, configure]
    split
    · exact .refl c.registry
    · split
      · exact .collect c.registry
      · split
        · exact .collect c.registry
        · exact .set_collect c.registry _ _
  | message window format data =>
    simp only [handle, close]
    split
    · split
      · exact .collect c.registry
      · next id o _ => exact (Registry.Wakes.destroy c.registry id teardown_ends []).trans (.collect _)
    · exact .refl c.registry
  | error | unhandled => exact .collect c.registry

/-- A broken contract is no exception. -/
theorem scheduleFrame_reports {c : Client} (hr : c.registry.Tidy) (id : OutputId) (image : Image) :
    c.registry.Reports (c.scheduleFrame id image).2.2.registry := by
  cases hget : c.registry.get? id with
  | none =>
    rw [scheduleFrame_unknown hget]
    exact .refl c.registry
  | some o =>
    obtain ⟨t, -, ⟨⟨d, d', -, -, hturn⟩, -⟩, -, -, -⟩ := scheduleFrame_acted hr hget image
    exact .of_turned hturn (c.scheduleFrame_wakes id image)

theorem complete_reports {c : Client} (hr : c.registry.Tidy) (window : ResourceId)
    (msc : UInt64) : c.registry.Reports (c.complete window msc).2.2.registry := by
  rcases complete_cases hr 0 window msc with
    ⟨-, hsame⟩ | ⟨id, o, t, -, -, ⟨⟨d, d', -, -, hturn⟩, -⟩, -⟩
  · rw [hsame]
    exact .refl c.registry
  · exact .of_turned hturn (c.complete_wakes window msc)

theorem handle_reports {c : Client} (hr : c.registry.Tidy) (e : Event) :
    c.registry.Reports (c.handle e).2.2.registry := by
  cases e with
  | complete window kind msc =>
    simp only [handle]
    split
    · exact complete_reports hr window msc
    · exact .refl c.registry
  | idle window pixmap =>
    exact .of_move (idle_move hr window pixmap) hr (c.handle_wakes (.idle window pixmap))
  | configure window width height =>
    exact .of_move (configure_move hr window width height) hr
      (c.handle_wakes (.configure window width height))
  | message window format data =>
    have hwakes := c.handle_wakes (.message window format data)
    simp only [handle] at hwakes ⊢
    by_cases hcloses : asksToClose format data
    · rw [if_pos hcloses] at hwakes ⊢
      exact .of_move (close_move hr window) hr hwakes
    · rw [if_neg hcloses]
      exact .refl c.registry
  | error | unhandled =>
    simp only [handle, settled_eq hr]
    exact .refl c.registry

end Client

/-- What presents an imported image in a window after its last refresh: an image is scheduled and
no frame waits, or the frame that waits is just completed and an image waits to follow it. -/
def Client.Overdue (c : Client) : Display.Deed Happening → Prop
  | .scheduleFrame id image => ∃ o, c.registry.get? id = some o ∧ o.scheduler.armed = false ∧
    image.pixmap?.isSome ∧ o.details.lastMsc = lastRefresh
  | .other (.event (.complete window kind msc)) => kind = pixmapCompletion ∧ msc = lastRefresh ∧
    ∃ id o image, c.outputOf? window = some (id, o) ∧ o.scheduler.armed = true ∧
      o.scheduler.pending = some image ∧ image.pixmap?.isSome
  | _ => False

theorem Client.scheduleFrame_broke_iff (c : Client) (id : OutputId) (image : Image) :
    (c.scheduleFrame id image).1.broke = true ↔ c.Overdue (.scheduleFrame id image) := by
  cases hget : c.registry.get? id with
  | none => simp [scheduleFrame_unknown hget, Overdue, hget, ScheduleOutcome.broke]
  | some o =>
    obtain ⟨asked, queued, -, hused, heffect⟩ := FrameScheduler.schedule_effect
      (Window.surface c.session.connection) image o.scheduler (o.details, []) []
    have hfaults := heffect.schedule_faults hused
    rw [Window.schedule_faults heffect hused] at hfaults
    simp only [Overdue, hget, Option.some.injEq, exists_eq_left', scheduleFrame]
    rcases hschedule : o.scheduler.schedule (Window.surface c.session.connection) image
      (o.details, []) with ⟨submission, f, d, sent⟩
    rw [hschedule] at hfaults
    cases submission with
    | accepted | refused =>
      refine iff_of_false (by simp [ScheduleOutcome.broke]) fun hlate => ?_
      rw [if_pos hlate] at hfaults
      exact absurd hfaults (by simp [Submission.fault?])
    | fault e lost =>
      refine iff_of_true rfl (not_not.mp fun hearly => ?_)
      rw [if_neg hearly] at hfaults
      exact absurd hfaults (by simp [Submission.fault?])

theorem Client.complete_broke_iff (c : Client) (window : ResourceId) (msc : UInt64) :
    (c.complete window msc).1.isSome = true ↔
      c.Overdue (.other (.event (.complete window pixmapCompletion msc))) := by
  cases hout : c.outputOf? window with
  | none => simp [complete, hout, Overdue, settled]
  | some entry =>
    obtain ⟨id, o⟩ := entry
    obtain ⟨asked, queued, -, hused, heffect⟩ := FrameScheduler.frameDone_effect
      (Window.surface c.session.connection) o.scheduler ({ o.details with lastMsc := msc }, []) []
    have hfaults := heffect.frameDone_faults hused
    rw [Window.frameDone_faults heffect hused] at hfaults
    have hlost : (c.complete window msc).1.toList
        = if o.scheduler.armed = true ∧ msc = lastRefresh
          then (o.scheduler.pending.filter (·.pixmap?.isSome)).toList.map (.additionOverflow, ·)
          else [] := by
      rw [← hfaults]
      simp only [complete, hout]
      rcases o.scheduler.frameDone (Window.surface c.session.connection)
        ({ o.details with lastMsc := msc }, []) with ⟨_ | lost, f, d, sent⟩ <;> rfl
    rw [Option.isSome_iff_ne_none, ne_eq, ← Option.toList_eq_nil_iff, hlost]
    simp only [Overdue, hout, Option.some.injEq, Prod.mk.injEq, true_and]
    by_cases hnow : o.scheduler.armed = true ∧ msc = lastRefresh
    · rw [if_pos hnow]
      simp [hnow.1, hnow.2, Option.filter_eq_none_iff, Option.isSome_iff_ne_none]
    · rw [if_neg hnow]
      refine iff_of_false (by simp) ?_
      rintro ⟨hlast, _, _, image, ⟨rfl, rfl⟩, hbusy, -⟩
      exact hnow ⟨hbusy, hlast⟩

/-- Nothing breaks a contract but what is overdue. -/
theorem perform_holds_iff (w : Display.Loop Client) (deed : Display.Deed Happening) :
    (w.perform display deed).1 = true ↔ ¬ w.client.Overdue deed := by
  cases deed with
  | createOutput | destroyOutput | connectionClosed => exact iff_of_true rfl id
  | scheduleFrame id image =>
    rw [← w.client.scheduleFrame_broke_iff id image, Bool.not_eq_true, ← Bool.not_eq_true']
    rfl
  | other e =>
    cases e with
    | attach | connection => exact iff_of_true rfl id
    | event e =>
      have hheld : (w.perform display (.other (.event e))).1 = (w.client.handle e).1.isNone := rfl
      rw [hheld]
      by_cases he : ∃ window msc, e = .complete window pixmapCompletion msc
      · obtain ⟨window, msc, rfl⟩ := he
        rw [← w.client.complete_broke_iff window msc, Client.handle_complete,
          Bool.not_eq_true, Option.isSome_eq_false_iff, Option.isNone_iff_eq_none]
      · have hother : ∀ window msc, e ≠ .complete window pixmapCompletion msc :=
          fun window msc heq => he ⟨window, msc, heq⟩
        refine iff_of_true (by rw [w.client.handle_whole hother]; rfl) fun hoverdue => ?_
        cases e with
        | complete window kind msc => exact hother window msc (by rw [hoverdue.1])
        | _ => exact hoverdue

theorem display_prompt : display.Prompt where
  createOutput := by
    intro id c
    rcases Client.createOutput_cases id c with ⟨-, hsame⟩ | ⟨-, hinsert⟩
    · exact .inl hsame
    · exact .inr hinsert
  scheduleFrame := fun id image _ hr => Client.scheduleFrame_reports hr id image
  destroyOutput := fun id _ hr => .of_destroy hr id Client.teardown_ends []
  connectionClosed := fun _ hr => .of_disconnect hr Client.teardown_ends []
  handle := by
    intro e c hr
    cases e with
    | event e => exact Client.handle_reports hr e
    | attach verdict image =>
      have hsame := Client.attach_registry verdict c image
      show c.registry.Reports (c.attach verdict image).2.2.registry
      rw [hsame]
      exact .refl c.registry
    | connection => exact .refl c.registry
  deliver := fun _ => ⟨rfl, rfl⟩

end X11

namespace Wayland

namespace Client

theorem scheduleFrame_wakes (c : Client) (id : OutputId) (image : Image) :
    c.registry.Wakes (c.scheduleFrame id image).2.2.registry := by
  unfold scheduleFrame
  split
  · exact .refl c.registry
  · exact .set_collect c.registry _ _

theorem handle_wakes (c : Client) (e : Event) : c.registry.Wakes (c.handle e).2.registry := by
  cases e with
  | global name interface version =>
    simp only [handle]
    split
    · exact .refl c.registry
    · next i _ => cases i <;> exact .refl c.registry
  | format | modifier =>
    simp only [handle, advertise]
    split <;> exact .refl c.registry
  | toplevelConfigure toplevel width height =>
    simp only [handle, configure]
    split
    · split
      · exact .refl c.registry
      · exact .set_collect c.registry _ _
    · exact .refl c.registry
  | toplevelClose toplevel =>
    simp only [handle, close]
    split
    · exact .refl c.registry
    · next id _ _ => exact .destroy c.registry id teardown_ends []
  | surfaceConfigure xdgSurface serial =>
    simp only [handle]
    split <;> exact .refl c.registry
  | globalRemove | ping => exact .refl c.registry
  | done callback =>
    simp only [handle, done]
    split
    · exact .refl c.registry
    · split
      · exact .refl c.registry
      · exact .set_collect c.registry _ _
  | release buffer =>
    simp only [handle, release]
    split
    · exact .refl c.registry
    · next image _ => exact .bufferReleased c.registry image

end Client

/-- There is no contract that could be broken. -/
theorem perform_holds (w : Display.Loop Client) (deed : Display.Deed Happening) :
    (w.perform display deed).1 = true := by
  cases deed with
  | createOutput | destroyOutput | connectionClosed => rfl
  | scheduleFrame id image =>
    show (!(w.client.scheduleFrame id image).1.broke) = true
    rw [w.client.scheduleFrame_holds id image]
    rfl
  | other e => cases e <;> rfl

theorem display_prompt : display.Prompt where
  createOutput := by
    intro id c
    rcases Client.createOutput_cases id c with ⟨-, hsame⟩ | ⟨-, hinsert⟩
    · exact .inl hsame
    · exact .inr hinsert
  scheduleFrame := fun id image c hr =>
    .of_move (Client.scheduleFrame_move hr id image) hr (c.scheduleFrame_wakes id image)
  destroyOutput := fun id _ hr => .of_destroy hr id Client.teardown_ends []
  connectionClosed := fun _ hr => .of_disconnect hr Client.teardown_ends []
  handle := by
    intro e c hr
    cases e with
    | event e => exact .of_move (Client.handle_move hr e) hr (c.handle_wakes e)
    | attach image =>
      show c.registry.Reports (c.attach image).2.2.registry
      rw [c.attach_registry image]
      exact .refl c.registry
    | detach image =>
      show c.registry.Reports (c.detach image).2.2.registry
      rw [c.detach_registry image]
      exact .refl c.registry
  deliver := fun _ => ⟨rfl, rfl⟩

end Wayland

/-- **No event is stranded or reordered**, on either kind of display, whatever a program does in
its event loop and outside of it, and also after a call that broke a contract. Nothing is left with
a scheduler, the queue has the events of all outputs in the order in which they happened, and while
there is one, the loop was woken up and comes back. A dispatch passes every event that is in the
queue once, in order, and what the program does meanwhile is told by a later dispatch. On a Wayland
compositor every dispatch goes through; on an X server a dispatch does exactly if nothing that is
done in it presents an image after the last refresh, and in particular if nothing is done. -/
theorem no_event_stranded (session : X11.Session) (title : String) (mode : Mode)
    (turns : List (Display.Loop.Turn X11.Happening)) (o : Wayland.Opening)
    (others : List (Display.Loop.Turn Wayland.Happening)) :
    let x := (Display.Loop.start { session := session, title := title, mode := mode }).run
      X11.display turns
    let w := (Display.Loop.start o.client).run Wayland.display others
    x.Unstranded X11.display ∧ w.Unstranded Wayland.display ∧
    (∀ heard replies, (x.dispatch X11.display heard replies).1 = true ↔
      ∀ moment ∈ x.dispatchMoments X11.display heard replies,
        ¬ moment.1.client.Overdue moment.2) ∧
    ∀ heard replies, (w.dispatch Wayland.display heard replies).1 = true := by
  intro x w
  have hx : x.Unstranded X11.display := Display.Loop.run_unstranded X11.display_prompt rfl turns
  have hw : w.Unstranded Wayland.display :=
    Display.Loop.run_unstranded Wayland.display_prompt o.client_registry others
  refine ⟨hx, hw, fun heard replies => ?_, fun heard replies => ?_⟩
  · simp only [hx.held, X11.perform_holds_iff]
  · exact (hw.held heard replies).mpr fun moment _ => Wayland.perform_holds moment.1 moment.2

/-- An output is destroyed in reply to its announcement. The dispatch goes through, and the end of
the output waits for the next one, which also tells of the loss of the connection. -/
theorem reply_told_by_next_dispatch :
    let w := (Display.Loop.start X11.freshClient).run X11.display [.deed (.createOutput 0)]
    let (held, w') := w.dispatch X11.display [] [[.destroyOutput ⟨0⟩]]
    let (held', w'') := w'.dispatch X11.display [.connectionClosed] []
    held = true ∧ w'.passed = [.newOutput ⟨0⟩] ∧
    w'.client.registry.events = [.output ⟨0⟩ .destroyed] ∧ w'.client.registry.awake = true ∧
    held' = true ∧ w''.passed = [.newOutput ⟨0⟩, .output ⟨0⟩ .destroyed, .disconnected] ∧
    w''.removed = true := by
  intro w
  obtain ⟨hunstranded, -, hgoes, -⟩ := no_event_stranded X11.freshClient.session X11.standardTitle
    .standard [.deed (.createOutput 0)] Wayland.shortOpening []
  have hheld : (w.dispatch X11.display [] [[.destroyOutput ⟨0⟩]]).1 = true := by
    refine (hgoes _ _).mpr fun moment hmoment => ?_
    have hone : (w.dispatchMoments X11.display [] [[.destroyOutput ⟨0⟩]]).map Prod.snd
        = [.destroyOutput ⟨0⟩] := rfl
    have hdeed : moment.2 ∈ (w.dispatchMoments X11.display [] [[.destroyOutput ⟨0⟩]]).map Prod.snd :=
      List.mem_map_of_mem hmoment
    rw [hone] at hdeed
    rw [List.mem_singleton.mp hdeed]
    exact id
  have hpassed := (hunstranded.dispatch [] [[.destroyOutput ⟨0⟩]] rfl hheld).passed
  exact ⟨hheld, hpassed.trans (by decide +kernel), by decide +kernel, by decide +kernel,
    by decide +kernel, by decide +kernel, by decide +kernel⟩

end Scanout
