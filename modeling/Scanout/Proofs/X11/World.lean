import Scanout.Proofs.X11.Ledger

/-!
# A program, its display and an X server

The program owns its images: it can import, change, schedule and give up only those it holds, and
it gets them back by taking events. The server may send any event at any time, with any numbers
in it. A call that breaks a contract loses an image, and the program goes on. Identifiers are
those of the connection; when the server grants new ones, none of them stands for anything at
that time.

`Move` lists what a step of this world can do, and `step_move` shows that there is nothing else.
From it come the facts that hold in every world (`Inv`): no image is in two places, no pixmap and
no window has two owners, every window agrees with the journal of the connection, and every image
that was scheduled is accounted for.
-/

namespace Scanout.X11

structure World where
  client : Client
  /-- The images the program holds. -/
  hand : List Image := []
  /-- How many images were made. -/
  imagesMade : Nat := 0
  /-- How many outputs were asked for. -/
  outputsMade : Nat := 0
  /-- The images that the display took, accepted or refused. -/
  taken : List Image := []
  delivered : List BackendEvent := []
  /-- The contracts that were broken, each with the image that was lost. -/
  faults : List (Fault × Image) := []
  /-- Everything that went over the connection. -/
  log : List Entry := []

/-- What can happen next. -/
inductive Step where
  | createOutput
  /-- An image like the given one is made that the display knows nothing of. -/
  | make (image : Image)
  /-- An image is imported, and the server answers. -/
  | attach (answer : Except Refusal Unit) (image : Image)
  /-- The pixmap of an image is freed. -/
  | letGo (image : Image)
  /-- An image becomes another one in what the display does not read. -/
  | change (image changed : Image)
  | schedule (id : OutputId) (image : Image)
  | destroyOutput (id : OutputId)
  | takeEvents
  | loseConnection
  /-- From now on the connection takes what is done to it in another way. -/
  | connection (connection : Connection)
  /-- The connection gets a new range of identifiers. -/
  | renew (ids : ResourceIds)
  /-- Any event of the server, with the serial number it carries. -/
  | event (serial : UInt32) (e : Event)

namespace World

/-- A program on a connection that was just opened. -/
def start (session : Session) (title : String) (mode : Mode) : World :=
  { client := { session := session, title := title, mode := mode } }

/-- Every image there is, in the hand of the program or in the display's. -/
def images (w : World) : List Image :=
  w.hand ++ w.client.registry.images

/-- The windows of the outputs. -/
def windows (w : World) : List ResourceId :=
  w.client.registry.outputs.map (·.2.details.window)

/-- An image with its number that no server knows yet. -/
def newImage (number : Nat) (image : Image) : Image :=
  { image with id := ⟨number⟩, backendData := (image.backendData.take .pixmap).2 }

def step (w : World) : Step → World
  | .createOutput =>
    let (_, sent, client) := w.client.createOutput ⟨w.outputsMade⟩
    { w with
      client := client
      log := w.log ++ sentEntries sent
      outputsMade := w.outputsMade + 1 }
  | .make image =>
    { w with hand := w.hand ++ [newImage w.imagesMade image], imagesMade := w.imagesMade + 1 }
  | .attach answer image =>
    if image ∈ w.hand then
      let (result, sent, client) := w.client.attach (fun _ => answer) image
      let kept := match result with
        | .ok imported => imported
        | .error _ => image
      { w with
        client := client
        log := w.log ++ sentEntries sent
        hand := kept :: w.hand.erase image }
    else w
  | .letGo image =>
    if image ∈ w.hand then
      let (rest, sent) := releaseImage image
      { w with log := w.log ++ sentEntries sent, hand := rest :: w.hand.erase image }
    else w
  | .change image changed =>
    if image ∈ w.hand ∧ changed.id = image.id ∧ changed.backendData = image.backendData then
      { w with hand := changed :: w.hand.erase image }
    else w
  | .schedule id image =>
    if image ∈ w.hand then
      let (outcome, sent, client) := w.client.scheduleFrame id image
      { w with
        client := client
        log := w.log ++ w.client.session.connection.entries sent
        hand := w.hand.erase image ++ outcome.handedBack
        taken := w.taken ++ outcome.taken image
        faults := w.faults ++ outcome.fault?.toList }
    else w
  | .destroyOutput id =>
    let (_, sent, client) := w.client.destroyOutput id
    { w with client := client, log := w.log ++ sentEntries sent }
  | .takeEvents =>
    let (events, registry) := w.client.registry.takeEvents
    { w with
      client := { w.client with registry := registry }
      hand := w.hand ++ returnedImages events
      delivered := w.delivered ++ events }
  | .loseConnection =>
    let (sent, client) := w.client.connectionClosed
    { w with client := client, log := w.log ++ sentEntries sent }
  | .connection connection => { w with client := w.client.withConnection connection }
  | .renew ids =>
    if 0 < ids.step ∧ ∀ number ∈ w.windows ++ w.images.filterMap Image.pixmap?, ¬ ids.Offers number
    then { w with client := { w.client with session := { w.client.session with ids := ids } } }
    else w
  | .event serial e =>
    let (lost, sent, client) := w.client.handle e
    { w with
      client := client
      log := w.log ++ .heard serial e :: w.client.session.connection.entries sent
      faults := w.faults ++ lost.toList }

def run (w : World) (steps : List Step) : World :=
  steps.foldl step w

/-- What is true in every world. -/
structure Inv (w : World) : Prop where
  tidy : w.client.registry.Tidy
  opened : ∀ id ∈ w.client.registry.ids, id.number < w.outputsMade
  stock : Stock w.images w.imagesMade w.windows w.client.session.ids
  ledger : Ledger w.log w.client.registry.outputs
  /-- An image that the display took is still there, came back, or was lost to a broken contract. -/
  accounted : w.taken.Perm
    (w.client.registry.images ++ returnedImages w.delivered ++ w.faults.map (·.2))

section

variable {w : World} {id : OutputId} {o : Output Window}

theorem Inv.registry_distinct (h : w.Inv) : (w.client.registry.images.map (·.id)).Nodup :=
  ((List.sublist_append_right _ _).map _).nodup h.stock.distinct

/-- No pixmap is that of two images that an output or the program holds. -/
theorem Inv.pixmaps_apart (h : w.Inv) (hmem : (id, o) ∈ w.client.registry.outputs) :
    ((w.hand ++ o.scheduler.kept).filterMap Image.pixmap?).Nodup := by
  have hkept : o.scheduler.kept.Sublist w.client.registry.images := by
    obtain ⟨before, after, hsplit⟩ := List.append_of_mem hmem
    have himages : w.client.registry.outputs.flatMap (·.2.scheduler.images)
        = before.flatMap (·.2.scheduler.images) ++ (o.scheduler.images
          ++ after.flatMap (·.2.scheduler.images)) := by
      rw [hsplit, List.flatMap_append, List.flatMap_cons]
    have hone : o.scheduler.kept.Sublist o.scheduler.images := List.sublist_append_left _ _
    refine hone.trans (List.Sublist.trans ?_ (List.sublist_append_left _ _))
    rw [himages]
    exact (List.sublist_append_left _ _).trans (List.sublist_append_right _ _)
  exact ((hkept.append_left w.hand).filterMap Image.pixmap?).nodup h.stock.pixmaps

theorem Inv.booked (h : w.Inv) (hmem : (id, o) ∈ w.client.registry.outputs) :
    Booked w.log o.details o.scheduler.presented o.scheduler.armed :=
  h.ledger.booked (id, o) hmem

theorem Inv.inFlight_nodup (h : w.Inv) (hmem : (id, o) ∈ w.client.registry.outputs) :
    (o.details.inFlight.map (·.1)).Nodup := by
  rw [(h.booked hmem).pixmaps_eq]
  have hpresented : o.scheduler.presented.Sublist (w.hand ++ o.scheduler.kept) :=
    (List.sublist_append_right _ _).trans (List.sublist_append_right _ _)
  exact (hpresented.filterMap Image.pixmap?).nodup (h.pixmaps_apart hmem)

theorem Inv.presented_nodup (h : w.Inv) (hmem : (id, o) ∈ w.client.registry.outputs) :
    (o.scheduler.presented.map (·.id)).Nodup := by
  have hpresented : o.scheduler.presented.Sublist o.scheduler.images :=
    (List.sublist_append_right _ _).trans (List.sublist_append_left _ _)
  exact (hpresented.map _).nodup (Registry.distinct_of_mem h.registry_distinct hmem)

/-- The pixmap of an image that waits, or that the program holds, is not in flight. -/
theorem Inv.not_inFlight (h : w.Inv) (hmem : (id, o) ∈ w.client.registry.outputs) {image : Image}
    (himage : image ∈ w.hand ++ o.scheduler.pending.toList) {pixmap : ResourceId}
    (hpixmap : image.pixmap? = some pixmap) : pixmap ∉ o.details.inFlight.map (·.1) := by
  have hapart := h.pixmaps_apart hmem
  rw [FrameScheduler.kept, ← List.append_assoc, List.filterMap_append] at hapart
  rw [(h.booked hmem).pixmaps_eq]
  intro hflight
  exact (List.nodup_append.mp hapart).2.2 pixmap
    (List.mem_filterMap.mpr ⟨image, himage, hpixmap⟩) pixmap hflight rfl

end

/-! ## What a step can do -/

/-- Everything a step can do. -/
inductive Move (w : World) : World → Prop where
  /-- Nothing happens to the outputs. -/
  | aside {w' : World} {news : List Entry} (registry : w'.client.registry = w.client.registry)
      (stock : Stock w'.images w'.imagesMade w'.windows w'.client.session.ids)
      (log : w'.log = w.log ++ news)
      (harmless : ∀ e ∈ news, Harmless w.client.registry.outputs e)
      (outputs : w.outputsMade ≤ w'.outputsMade) (taken : w'.taken = w.taken)
      (delivered : w'.delivered = w.delivered) (faults : w'.faults = w.faults) : Move w w'
  | created {w' : World} {news : List Entry} {d : Window}
      (registry : w'.client.registry = w.client.registry.insert ⟨w.outputsMade⟩ ⟨{}, d⟩)
      (stock : Stock w'.images w'.imagesMade w'.windows w'.client.session.ids)
      (log : w'.log = w.log ++ news)
      (harmless : ∀ e ∈ news, Harmless w.client.registry.outputs e)
      (booked : Booked w'.log d [] false)
      (outputs : w'.outputsMade = w.outputsMade + 1) (taken : w'.taken = w.taken)
      (delivered : w'.delivered = w.delivered) (faults : w'.faults = w.faults) : Move w w'
  /-- An output takes a turn, by the program or by an event. -/
  | turned {w' : World} {id : OutputId} {o : Output Window} {heard : List Entry}
      {t : FrameScheduler.Turn} {sent : List Request}
      (acted : w.client.Acted id o heard t sent w'.client)
      (hand : (t.handedIn ++ w'.hand).Perm w.hand)
      (log : w'.log = w.log ++ (heard ++ w.client.session.connection.entries sent))
      (images : w'.imagesMade = w.imagesMade) (outputs : w'.outputsMade = w.outputsMade)
      (taken : w'.taken = w.taken ++ t.handedIn) (delivered : w'.delivered = w.delivered)
      (faults : w'.faults = w.faults ++ t.faults) : Move w w'
  | ended {heard : List Entry} {id : OutputId} {o : Output Window}
      (there : w.client.registry.get? id = some o)
      (harmless : ∀ e ∈ heard, Harmless w.client.registry.outputs e) :
    Move w { w with
      client := (w.client.destroyOutput id).2.2
      log := w.log ++ heard ++ sentEntries (Client.lastRequests (id, o)) }
  | lost (live : w.client.registry.disconnected = false) :
    Move w { w with
      client := w.client.connectionClosed.2
      log := w.log ++ sentEntries (w.client.registry.outputs.flatMap Client.lastRequests) }
  | told :
    Move w { w with
      client := { w.client with registry := w.client.registry.takeEvents.2 }
      hand := w.hand ++ returnedImages w.client.registry.events
      delivered := w.delivered ++ w.client.registry.events }

theorem Move.still (w : World) (h : w.Inv) : w.Move w :=
  .aside rfl h.stock (List.append_nil _).symm (fun _ he => absurd he List.not_mem_nil)
    (Nat.le_refl _) rfl rfl rfl

theorem Inv.createOutput_move {w : World} (h : w.Inv) : w.Move (w.step .createOutput) := by
  obtain ⟨hlater, hopens, hregistry⟩ :=
    Client.createOutput_draws w.client ⟨w.outputsMade⟩ h.stock.apart
  -- the window that is made, if any, is that of no output
  have hharmless : ∀ e ∈ sentEntries (w.client.createOutput ⟨w.outputsMade⟩).2.1,
      Harmless w.client.registry.outputs e := by
    intro e he
    obtain ⟨request, hrequest, rfl⟩ := List.mem_map.mp he
    rcases hopens request hrequest with hnone | ⟨hoffers, screen, width, height, mask, rfl⟩
    · exact .of_silent _ hnone
    · refine .foreign (by simp) fun entry hentry hsame => ?_
      have hsame : w.client.session.ids.next = entry.2.details.window := Option.some.inj hsame
      exact h.stock.unused entry.2.details.window
        (List.mem_append_left _ (List.mem_map_of_mem hentry)) (hsame ▸ hoffers)
  rcases hregistry with hsame | ⟨d, hinsert, hwindow, hflight, hmsc, hoffers, hused, hmade⟩
  · refine .aside hsame ?_ rfl hharmless (Nat.le_succ _) rfl rfl rfl
    simp only [step, images, windows, hsame]
    exact h.stock.later hlater
  · refine .created hinsert ?_ rfl hharmless (.opened d hflight hmsc w.log (fun e he => ?_) ?_)
      rfl rfl rfl rfl
    · have himages : (w.step .createOutput).images = w.images := by
        simp only [step, images, hinsert, Registry.insert_images]
      have hwindows : (w.step .createOutput).windows = w.windows ++ [d.window] := by
        simp [step, windows, hinsert, Registry.insert, Registry.queue]
      have hnew : d.window ∉ w.windows := fun hmem =>
        h.stock.unused _ (List.mem_append_left _ hmem) hoffers
      rw [himages, hwindows]
      exact (h.stock.later hlater).opens hnew hused
    · obtain ⟨request, hrequest, rfl⟩ := List.mem_map.mp he
      rcases hopens request hrequest with hnone | ⟨-, screen, width, height, mask, rfl⟩
      · exact .inl hnone
      · exact .inr ⟨screen, width, height, mask, by rw [hwindow]⟩
    · obtain ⟨screen, width, height, mask, hmem⟩ := hmade
      exact ⟨screen, width, height, mask, List.mem_map_of_mem hmem⟩

/-- The stock with an image of the program in front. -/
theorem Inv.stock_of_held {w : World} (h : w.Inv) {image : Image} (held : image ∈ w.hand) :
    Stock (image :: (w.hand.erase image ++ w.client.registry.images)) w.imagesMade w.windows
      w.client.session.ids :=
  h.stock.perm ((List.perm_cons_erase held).symm.append_right w.client.registry.images)

theorem Inv.make_move {w : World} (h : w.Inv) (image : Image) : w.Move (w.step (.make image)) := by
  refine .aside rfl ?_ (List.append_nil _).symm (fun _ he => absurd he List.not_mem_nil)
    (Nat.le_refl _) rfl rfl rfl
  have hpixmap : (newImage w.imagesMade image).pixmap? = none := adopt_pixmap? _
  refine (h.stock.add rfl hpixmap).perm ?_
  simp only [step, images]
  rw [List.append_assoc]
  exact List.perm_middle

theorem Inv.attach_move {w : World} (h : w.Inv) (answer : Except Refusal Unit) (image : Image) :
    w.Move (w.step (.attach answer image)) := by
  simp only [step]
  split
  · next held =>
    obtain ⟨ids, hclient, hlater, hsilent, himported⟩ :=
      Client.attach_draws (fun _ => answer) w.client image h.stock.apart
    rcases hattach : w.client.attach (fun _ => answer) image with ⟨result, sent, client⟩
    rw [hattach] at hclient hsilent himported
    obtain rfl : client = _ := hclient
    have hheld := h.stock_of_held held
    refine .aside rfl ?_ rfl (fun e he => ?_) (Nat.le_refl _) rfl rfl rfl
    · cases result with
      | error e => exact hheld.later hlater
      | ok imported =>
        obtain ⟨hid, hpixmap, hoffers, hused⟩ := himported imported rfl
        refine (hheld.later hlater).replace hid fun pixmap hsome => ?_
        obtain rfl := Option.some.inj (hpixmap.symm.trans hsome)
        -- the new pixmap was not in use before it was handed out
        exact ⟨fun hmem => hheld.tail.unused _ (List.mem_append_right _ hmem) hoffers, hused⟩
    · obtain ⟨request, hrequest, rfl⟩ := List.mem_map.mp he
      exact .of_silent _ (hsilent request hrequest)
  · exact .still w h

theorem Inv.letGo_move {w : World} (h : w.Inv) (image : Image) :
    w.Move (w.step (.letGo image)) := by
  simp only [step]
  split
  · next held =>
    obtain ⟨hid, hpixmap, hsilent⟩ := releaseImage_cases image
    refine .aside rfl ?_ rfl (fun e he => ?_) (Nat.le_refl _) rfl rfl rfl
    · exact (h.stock_of_held held).replace hid fun pixmap hsome =>
        absurd (hpixmap.symm.trans hsome) (by simp)
    · obtain ⟨request, hrequest, rfl⟩ := List.mem_map.mp he
      exact .of_silent _ (hsilent request hrequest)
  · exact .still w h

theorem Inv.change_move {w : World} (h : w.Inv) (image changed : Image) :
    w.Move (w.step (.change image changed)) := by
  simp only [step]
  split
  · next hguard =>
    obtain ⟨held, hid, hdata⟩ := hguard
    have hheld := h.stock_of_held held
    have hsame : changed.pixmap? = image.pixmap? := by simp only [Image.pixmap?, hdata]
    refine .aside rfl ?_ (List.append_nil _).symm (fun _ he => absurd he List.not_mem_nil)
      (Nat.le_refl _) rfl rfl rfl
    refine hheld.replace hid fun pixmap hsome => ?_
    have hpixmaps := hheld.pixmaps
    have hunused := hheld.unused pixmap
    rw [List.filterMap_cons_some (hsame.symm.trans hsome)] at hpixmaps hunused
    exact ⟨(List.nodup_cons.mp hpixmaps).1, hunused (by simp)⟩
  · exact .still w h

theorem Inv.schedule_move {w : World} (h : w.Inv) (id : OutputId) (image : Image) :
    w.Move (w.step (.schedule id image)) := by
  simp only [step]
  split
  · next held =>
    cases hget : w.client.registry.get? id with
    | none =>
      rw [Client.scheduleFrame_unknown hget]
      refine .aside rfl ?_ rfl (fun _ he => absurd he List.not_mem_nil) (Nat.le_refl _)
        (List.append_nil _) rfl (List.append_nil _)
      refine (h.stock_of_held held).perm ?_
      simp only [images, ScheduleOutcome.handedBack]
      rw [List.append_assoc]
      exact List.perm_middle
    | some o =>
      obtain ⟨t, hcall, hacted, hfaults, htaken, hback⟩ :=
        Client.scheduleFrame_acted h.tidy hget image
      have hhanded : t.handedIn = [image] := by simp only [FrameScheduler.Turn.handedIn, hcall]
      refine .turned hacted ?_ rfl rfl rfl (by rw [hhanded, htaken]) rfl (by rw [hfaults])
      rw [hhanded, hback, List.append_nil]
      exact (List.perm_cons_erase held).symm
  · exact .still w h

/-- An output is destroyed, if there is one. -/
theorem Inv.destroy_move {w : World} (h : w.Inv) (id : OutputId) (heard : List Entry)
    (harmless : ∀ e ∈ heard, Harmless w.client.registry.outputs e) :
    w.Move { w with
      client := (w.client.destroyOutput id).2.2
      log := w.log ++ (heard ++ sentEntries (w.client.destroyOutput id).2.1) } := by
  cases hget : w.client.registry.get? id with
  | none =>
    have habsent : w.client.destroyOutput id = (false, [], w.client) := by
      simp only [Client.destroyOutput, Registry.destroy_absent hget]
    rw [habsent]
    refine .aside rfl h.stock rfl (fun e he => harmless e ?_) (Nat.le_refl _) rfl rfl rfl
    simpa [sentEntries] using he
  | some o =>
    rw [Client.destroyOutput_sent hget, ← List.append_assoc]
    exact .ended hget harmless

/-- An event that changes nothing is still heard. -/
theorem Inv.heard_move {w : World} (h : w.Inv) {serial : UInt32} {e : Event}
    (hsame : w.client.handle e = (none, [], w.client))
    (harmless : Harmless w.client.registry.outputs (.heard serial e)) :
    w.Move (w.step (.event serial e)) := by
  simp only [step, hsame]
  refine .aside rfl h.stock rfl (fun other ho => ?_) (Nat.le_refl _) rfl rfl (List.append_nil _)
  rw [List.mem_singleton.mp ho]
  exact harmless

/-- An event is a turn of one output. -/
theorem turned_move {w : World} {serial : UInt32} {e : Event} {id : OutputId} {o : Output Window}
    {t : FrameScheduler.Turn}
    (hacted : w.client.Acted id o [.heard serial e] t (w.client.handle e).2.1
      (w.client.handle e).2.2)
    (hhanded : t.handedIn = []) (hfaults : (w.client.handle e).1.toList = t.faults) :
    w.Move (w.step (.event serial e)) := by
  refine .turned hacted (by rw [hhanded]; exact .refl _) rfl rfl rfl ?_ rfl ?_
  · rw [hhanded, List.append_nil]
    rfl
  · simp only [step, hfaults]

theorem Inv.event_move {w : World} (h : w.Inv) (serial : UInt32) (e : Event) :
    w.Move (w.step (.event serial e)) := by
  cases e with
  | complete window kind msc =>
    by_cases hkind : kind = pixmapCompletion
    · subst hkind
      have hhandle := Client.handle_complete (c := w.client) window msc
      rcases Client.complete_cases h.tidy serial window msc with
        ⟨hnone, hsame⟩ | ⟨id, o, t, -, hcall, hacted, hfaults⟩
      · refine h.heard_move (hhandle.trans hsame) (.foreign (by simp) fun entry hentry heq => ?_)
        obtain rfl : window = entry.2.details.window := Option.some.inj heq
        exact Client.outputOf?_eq_none hnone entry hentry rfl
      · refine turned_move (hhandle ▸ hacted) ?_ (hhandle ▸ hfaults)
        simp only [FrameScheduler.Turn.handedIn, hcall]
    · refine h.heard_move (if_neg hkind) (.of_silent _ ?_)
      simp [Entry.window?, hkind]
  | idle window pixmap =>
    rcases Client.idle_cases h.tidy serial window pixmap with
      ⟨hsame, habsent⟩ | ⟨id, o, image, queued, -, -, hacted, hlost, hsent⟩
    · refine h.heard_move hsame (.stray fun entry hentry heq => ?_)
      have hout := Client.outputOf?_of_mem h.tidy h.stock.single hentry
      have hnone := habsent entry.1 entry.2 (heq ▸ hout)
      intro hmem
      obtain ⟨record, hrecord, rfl⟩ := List.mem_map.mp hmem
      exact absurd (List.lookup_eq_none_iff.mp hnone record hrecord) (by simp)
    · rw [← hsent] at hacted
      exact turned_move hacted rfl (by simp only [Client.handle, hlost]; rfl)
  | configure window width height =>
    rcases Client.configure_cases h.tidy serial window width height with
      hsame | ⟨id, o, mode, -, hacted, hlost, hsent⟩
    · exact h.heard_move hsame (.of_silent _ rfl)
    · rw [← hsent] at hacted
      exact turned_move hacted rfl (by simp only [Client.handle, hlost]; rfl)
  | message window format data =>
    by_cases hasks : Client.asksToClose format data = true
    · have hhandle : w.client.handle (.message window format data) = w.client.close window :=
        if_pos hasks
      rcases Client.close_cases h.tidy window with hsame | ⟨id, hdestroys⟩
      · exact h.heard_move (hhandle.trans hsame) (.of_silent _ rfl)
      · simp only [step, hhandle, hdestroys, Option.toList_none, List.append_nil,
          Client.destroyOutput_entries]
        exact h.destroy_move id [.heard serial (.message window format data)]
          fun other ho => List.mem_singleton.mp ho ▸ .of_silent _ rfl
    · exact h.heard_move (if_neg hasks) (.of_silent _ rfl)
  | error code => exact h.heard_move (Client.settled_eq h.tidy) (.of_silent _ rfl)
  | unhandled => exact h.heard_move (Client.settled_eq h.tidy) (.of_silent _ rfl)

/-- Whatever happens next is one of the moves. -/
theorem Inv.step_move {w : World} (h : w.Inv) (step : Step) : w.Move (w.step step) := by
  cases step with
  | createOutput => exact h.createOutput_move
  | make image => exact h.make_move image
  | attach answer image => exact h.attach_move answer image
  | letGo image => exact h.letGo_move image
  | change image changed => exact h.change_move image changed
  | schedule id image => exact h.schedule_move id image
  | destroyOutput id =>
    exact h.destroy_move id [] fun _ he => absurd he List.not_mem_nil
  | takeEvents => exact .told
  | loseConnection =>
    cases hlive : w.client.registry.disconnected with
    | true =>
      have hagain : w.client.connectionClosed = ([], w.client) := by
        simp only [Client.connectionClosed, Registry.disconnect_again hlive]
      simp only [World.step, hagain]
      exact .aside rfl h.stock rfl (fun _ he => absurd he List.not_mem_nil) (Nat.le_refl _)
        rfl rfl rfl
    | false =>
      have hsent := Client.connectionClosed_sent h.tidy.ids hlive
      simp only [World.step, hsent]
      exact .lost hlive
  | connection connection =>
    exact .aside rfl h.stock (List.append_nil _).symm (fun _ he => absurd he List.not_mem_nil)
      (Nat.le_refl _) rfl rfl rfl
  | renew ids =>
    simp only [World.step]
    split
    · next hguard =>
      exact .aside rfl { h.stock with apart := hguard.1, unused := hguard.2 }
        (List.append_nil _).symm (fun _ he => absurd he List.not_mem_nil) (Nat.le_refl _)
        rfl rfl rfl
    · exact .still w h
  | event serial e => exact h.event_move serial e

/-! ## What every step keeps -/

section

variable {w w' : World}

/-- The outputs keep to their identifiers, and their events to the queue. -/
theorem Move.registry (h : w.Inv) (hm : w.Move w') :
    w'.client.registry.Tidy ∧ ∀ id ∈ w'.client.registry.ids, id.number < w'.outputsMade := by
  have hfewer : ∀ {r : Registry Window}, r.outputs.Sublist w.client.registry.outputs →
      ∀ id ∈ r.ids, id.number < w.outputsMade :=
    fun hsub id hid => h.opened id ((hsub.map _).subset hid)
  cases hm with
  | aside registry _ _ _ outputs =>
    rw [registry]
    exact ⟨h.tidy, fun id hid => Nat.lt_of_lt_of_le (h.opened id hid) outputs⟩
  | created registry _ _ _ _ outputs =>
    rw [registry, outputs]
    have hnew : (⟨w.outputsMade⟩ : OutputId) ∉ w.client.registry.ids := fun hmem =>
      Nat.lt_irrefl _ (h.opened _ hmem)
    exact ⟨h.tidy.insert hnew _, (Registry.insert_numbered h.tidy.ids h.opened _).2⟩
  | turned acted _ _ _ outputs =>
    obtain ⟨_, _, -, -, hturn⟩ := acted.turn
    refine ⟨⟨hturn.settled h.tidy.settled, hturn.ids_eq ▸ h.tidy.ids⟩, ?_⟩
    rw [hturn.ids_eq, outputs]
    exact h.opened
  | @ended _ id =>
    exact ⟨h.tidy.destroy id Client.teardown [],
      hfewer (Registry.destroy_outputs w.client.registry id Client.teardown [])⟩
  | lost =>
    exact ⟨h.tidy.disconnect Client.teardown_ends [],
      hfewer (Registry.disconnect_outputs h.tidy.ids Client.teardown_ends [])⟩
  | told => exact ⟨⟨h.tidy.settled, h.tidy.ids⟩, h.opened⟩

/-- Nobody gets what is another's. -/
theorem Move.stock (h : w.Inv) (hm : w.Move w') :
    Stock w'.images w'.imagesMade w'.windows w'.client.session.ids := by
  cases hm with
  | aside _ stock => exact stock
  | created _ stock => exact stock
  | @turned _ id o heard t sent acted hand _ images =>
    obtain ⟨d, d', hoccasion, hused, hturn⟩ := acted.turn
    -- the display has what the program handed it, but for what was lost
    have hperm : (w'.images ++ t.lost).Perm w.images := by
      have hhand := List.perm_iff_count.mp hand
      have hregistry := List.perm_iff_count.mp (hturn.images_perm h.tidy.settled)
      rw [List.perm_iff_count]
      intro x
      have h1 := hhand x
      have h2 := hregistry x
      simp only [World.images, List.count_append] at h1 h2 ⊢
      omega
    have hwindows : w'.windows = w.windows := by
      obtain ⟨before, after, f, hat, heffect, hout⟩ := hturn.place
      obtain ⟨hkept, -⟩ := hoccasion.turn_about hused heffect
      simp only [windows, hout, hat.outputs_eq, List.map_append, List.map_cons, hkept]
    rw [images, hwindows, acted.rest]
    exact h.stock.fewer hperm (.refl _)
  | @ended _ id =>
    have himages := Registry.destroy_images h.tidy.ids Client.teardown_ends id []
    have hout := Registry.destroy_outputs w.client.registry id Client.teardown []
    have hall : ((w.hand ++ (w.client.destroyOutput id).2.2.registry.images) ++ []).Perm
        w.images := by
      rw [List.append_nil]
      exact himages.append_left w.hand
    exact h.stock.fewer hall (hout.map _)
  | lost =>
    have himages := Registry.disconnect_images h.tidy.ids Client.teardown_ends []
    have hout := Registry.disconnect_outputs h.tidy.ids Client.teardown_ends []
    have hall : ((w.hand ++ w.client.connectionClosed.2.registry.images) ++ []).Perm w.images := by
      rw [List.append_nil]
      exact himages.append_left w.hand
    exact h.stock.fewer hall (hout.map _)
  | told =>
    refine h.stock.perm ?_
    simp only [images, Registry.images, Registry.takeEvents, returnedImages_nil, List.append_nil,
      List.append_assoc]
    exact List.perm_append_comm.append_left _

/-- Every window goes on to agree with the journal. -/
theorem Move.ledger (h : w.Inv) (hm : w.Move w') : Ledger w'.log w'.client.registry.outputs := by
  cases hm with
  | aside registry _ log harmless =>
    rw [log, registry]
    exact h.ledger.aside harmless
  | created registry _ log harmless booked =>
    rw [log] at booked ⊢
    rw [registry]
    exact (h.ledger.aside harmless).opens booked
  | @turned _ id o heard t sent acted hand log =>
    obtain ⟨d, d', hoccasion, hused, hturn⟩ := acted.turn
    have hmem := Registry.mem_of_get? hturn.get?
    have hnew : ∀ image ∈ t.handedIn ++ o.scheduler.pending.toList, ∀ pixmap,
        image.pixmap? = some pixmap → pixmap ∉ o.details.inFlight.map (·.1) := by
      intro image himage pixmap hpixmap
      refine h.not_inFlight hmem ?_ hpixmap
      rcases List.mem_append.mp himage with hin | hwaits
      · exact List.mem_append_left _ (hand.subset (List.mem_append_left _ hin))
      · exact List.mem_append_right _ hwaits
    have hledger := h.ledger
    have hwindows := h.stock.single
    obtain ⟨before, after, f, hat, heffect, hout⟩ := hturn.place
    have hbooked := (h.booked hmem).turn (h.inFlight_nodup hmem) (h.presented_nodup hmem)
      hoccasion hused heffect hnew
    obtain ⟨hkept, habout⟩ := hoccasion.turn_about hused heffect
    rw [windows, hat.outputs_eq] at hwindows
    rw [hat.outputs_eq] at hledger
    rw [log, hout]
    exact hledger.turn hwindows hbooked hkept habout
  | @ended heard id o there harmless =>
    obtain ⟨before, after, hat⟩ := Registry.at_of_mem h.tidy.ids (Registry.mem_of_get? there)
    have hout : (w.client.destroyOutput id).2.2.registry.outputs = before ++ after :=
      congrArg (·.2.1.outputs) (hat.destroy_eq Client.teardown_ends [])
    have hsplit : ([(id, o)] ++ (before ++ after)).Perm w.client.registry.outputs := by
      rw [hat.outputs_eq, List.singleton_append]
      exact List.perm_middle.symm
    have hends := (h.ledger.aside harmless).ends hsplit h.stock.single
    simp only [List.flatMap_singleton] at hends
    rwa [hout]
  | lost live =>
    have hout : w.client.connectionClosed.2.registry.outputs = [] :=
      congrArg (·.outputs) (Registry.disconnect_eq h.tidy.ids Client.teardown_ends live [])
    have hsplit : (w.client.registry.outputs ++ []).Perm w.client.registry.outputs := by
      rw [List.append_nil]
    rw [hout]
    exact h.ledger.ends hsplit h.stock.single
  | told => exact h.ledger

/-- No image gets out of sight. -/
theorem Move.accounted (h : w.Inv) (hm : w.Move w') : w'.taken.Perm
    (w'.client.registry.images ++ returnedImages w'.delivered ++ w'.faults.map (·.2)) := by
  cases hm with
  | aside registry _ _ _ _ taken delivered faults =>
    rw [registry, taken, delivered, faults]
    exact h.accounted
  | created registry _ _ _ _ _ taken delivered faults =>
    rw [registry, Registry.insert_images, taken, delivered, faults]
    exact h.accounted
  | @turned _ _ _ _ t _ acted _ _ _ _ taken delivered faults =>
    obtain ⟨_, _, -, -, hturn⟩ := acted.turn
    have hregistry := List.perm_iff_count.mp (hturn.images_perm h.tidy.settled)
    have hbefore := List.perm_iff_count.mp h.accounted
    rw [taken, delivered, faults, List.map_append, t.faults_images, List.perm_iff_count]
    intro x
    have h1 := hregistry x
    have h2 := hbefore x
    simp only [List.count_append] at h1 h2 ⊢
    omega
  | @ended _ id =>
    have himages := Registry.destroy_images h.tidy.ids Client.teardown_ends id []
    exact h.accounted.trans ((himages.symm.append_right _).append_right _)
  | lost =>
    have himages := Registry.disconnect_images h.tidy.ids Client.teardown_ends []
    exact h.accounted.trans ((himages.symm.append_right _).append_right _)
  | told =>
    have hbefore := List.perm_iff_count.mp h.accounted
    rw [List.perm_iff_count]
    intro x
    have h1 := hbefore x
    simp only [Registry.images, Registry.takeEvents, returnedImages_append, returnedImages_nil,
      List.append_nil, List.count_append] at h1 ⊢
    omega

theorem start_inv {session : Session} (hapart : 0 < session.ids.step) (title : String)
    (mode : Mode) : (start session title mode).Inv where
  tidy := ⟨fun _ h => absurd h List.not_mem_nil, List.nodup_nil⟩
  opened := fun _ h => absurd h List.not_mem_nil
  stock := {
    distinct := List.nodup_nil
    numbered := fun _ h => absurd h List.not_mem_nil
    pixmaps := List.nodup_nil
    single := List.nodup_nil
    apart := hapart
    unused := fun _ h => absurd h List.not_mem_nil }
  ledger := ⟨fun _ h => absurd h List.not_mem_nil, fun _ _ => ⟨by simp [start, lastSaid],
    by simp [start, lastSaid]⟩⟩
  accounted := List.Perm.refl _

theorem Inv.step_inv (h : w.Inv) (step : Step) : (w.step step).Inv := by
  have hm := h.step_move step
  obtain ⟨htidy, hopened⟩ := hm.registry h
  exact ⟨htidy, hopened, hm.stock h, hm.ledger h, hm.accounted h⟩

theorem Inv.run_inv (h : w.Inv) (steps : List Step) : (w.run steps).Inv := by
  induction steps generalizing w with
  | nil => exact h
  | cons step rest ih => exact ih (h.step_inv step)

/-- The journal only grows. -/
theorem Move.log (hm : w.Move w') : w.log <+: w'.log := by
  cases hm with
  | aside _ _ log => exact ⟨_, log.symm⟩
  | created _ _ log => exact ⟨_, log.symm⟩
  | turned _ _ log => exact ⟨_, log.symm⟩
  | ended => exact ⟨_, (List.append_assoc _ _ _).symm⟩
  | lost => exact ⟨_, rfl⟩
  | told => exact List.prefix_refl _

theorem Inv.run_log (h : w.Inv) (steps : List Step) : w.log <+: (w.run steps).log := by
  induction steps generalizing w with
  | nil => exact List.prefix_refl _
  | cons step rest ih => exact (h.step_move step).log.trans (ih (h.step_inv step))

/-- What is in flight in a window was presented there and did not come back. -/
theorem Inv.inFlight_iff (h : w.Inv) (window pixmap : ResourceId) :
    lastSaid (Entry.flight window pixmap) w.log = some true ↔
      ∃ entry ∈ w.client.registry.outputs, entry.2.details.window = window ∧
        pixmap ∈ entry.2.details.inFlight.map (·.1) := by
  constructor
  · intro hflight
    by_contra hnone
    by_cases hwindow : ∃ entry ∈ w.client.registry.outputs, entry.2.details.window = window
    · obtain ⟨entry, hentry, rfl⟩ := hwindow
      exact hnone ⟨entry, hentry, rfl, ((h.ledger.booked entry hentry).flight pixmap).mp hflight⟩
    · refine (h.ledger.closed window fun entry hentry heq => ?_).flight pixmap hflight
      exact hwindow ⟨entry, hentry, heq⟩
  · rintro ⟨entry, hentry, rfl, hmem⟩
    exact ((h.ledger.booked entry hentry).flight pixmap).mpr hmem

/-- A frame waits where an output has one in flight. -/
theorem Inv.frame_iff (h : w.Inv) (window : ResourceId) :
    lastSaid (Entry.frame window) w.log = some true ↔
      ∃ entry ∈ w.client.registry.outputs, entry.2.details.window = window ∧
        entry.2.scheduler.armed = true := by
  constructor
  · intro hframe
    by_contra hnone
    refine (h.ledger.closed window fun entry hentry heq => ?_).frame hframe
    subst heq
    exact hnone ⟨entry, hentry, rfl, (h.ledger.booked entry hentry).frame.mp hframe⟩
  · rintro ⟨entry, hentry, rfl, harmed⟩
    exact (h.ledger.booked entry hentry).frame.mpr harmed

/-- A notice about a pixmap that is not in flight in the window changes nothing. -/
theorem Inv.idle_stray (h : w.Inv) {window pixmap : ResourceId}
    (hflight : lastSaid (Entry.flight window pixmap) w.log ≠ some true) :
    w.client.handle (.idle window pixmap) = (none, [], w.client) := by
  rcases Client.idle_cases h.tidy 0 window pixmap with
    ⟨hsame, -⟩ | ⟨id, o, image, queued, hout, hfound, -⟩
  · exact hsame
  · obtain ⟨hmem, hwindow⟩ := Client.outputOf?_eq_some hout
    exact absurd ((h.inFlight_iff window pixmap).mpr ⟨(id, o), hmem, hwindow,
      List.mem_map.mpr ⟨_, Directory.mem_of_lookup hfound, rfl⟩⟩) hflight

/-- A notice about a pixmap in flight hands back the image of that pixmap, and nothing else
happens. -/
theorem Inv.idle_landed (h : w.Inv) {id : OutputId} {o : Output Window}
    (hmem : (id, o) ∈ w.client.registry.outputs) {pixmap : ResourceId}
    (hflight : pixmap ∈ o.details.inFlight.map (·.1)) :
    ∃ image ∈ o.scheduler.presented, image.pixmap? = some pixmap ∧
      (w.client.handle (.idle o.details.window pixmap)).1 = none ∧
      (w.client.handle (.idle o.details.window pixmap)).2.1 = [] ∧
      (w.client.handle (.idle o.details.window pixmap)).2.2.registry.events
        = w.client.registry.events ++ [.output id (.released image)] := by
  have hout := Client.outputOf?_of_mem h.tidy h.stock.single hmem
  rcases Client.idle_cases h.tidy 0 o.details.window pixmap with
    ⟨-, hnone⟩ | ⟨id', o', number, queued, hout', hfound, hacted, hlost, hsent⟩
  · obtain ⟨record, hrecord, rfl⟩ := List.mem_map.mp hflight
    exact absurd (List.lookup_eq_none_iff.mp (hnone id o hout) record hrecord) (by simp)
  · obtain ⟨rfl, rfl⟩ := Prod.mk.inj (Option.some.inj (hout'.symm.trans hout))
    obtain ⟨d, d', -, -, hturn⟩ := hacted.turn
    obtain ⟨f, heffect⟩ := hturn.effect
    have hevents := hturn.events_eq
    cases heffect with
    | returned image before after split =>
      have himage : image ∈ o'.scheduler.presented := by simp [split]
      have hpixmap := (h.booked hmem).image_of_lookup (h.presented_nodup hmem) himage hfound
      exact ⟨image, himage, hpixmap, hlost, hsent, hevents⟩
    | unknown _ absent =>
      -- what is in flight is presented
      obtain ⟨image, himage, -, hid⟩ :=
        (h.booked hmem).mem_iff.mp (Directory.mem_of_lookup hfound)
      exact absurd hid (absent image himage)

end

end World

end Scanout.X11
