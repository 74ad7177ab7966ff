import Scanout.Proofs.X11.Opening
import Scanout.Proofs.X11.World

/-!
# A client keeps to the version its server reported

The version of the extension that makes pixmaps of dmabufs is looked at in two places: when a
session is opened, to ask for layouts, and at every import, to choose the request. What a client
sends it sends in one of its operations, and each of them suits the version of the session and
leaves version and formats as they are (`Client.Abides`). So does every step of a program on its
display, and with what is known of the opening, everything that is ever said suits what the server
reported in the beginning (`versions_respected`).
-/

namespace Scanout.X11

/-- Up to the identifiers, an operation leaves the session as it is, and what it sends suits the
version of the session. -/
structure Client.Abides (c : Client) (sent : List Request) (c' : Client) : Prop where
  dri3 : c'.session.dri3 = c.session.dri3
  formats : c'.session.formats = c.session.formats
  suits : ∀ r ∈ sent, r.Suits c.session.dri3

theorem ResourceIds.fresh_suits (ids : ResourceIds) (dri3 : Version) :
    ∀ r ∈ ids.fresh.2.1, r.Suits dri3 :=
  fun r hr => ids.fresh_asks r hr ▸ trivial

theorem Handover.suits {dri3 : Version} {screen : Nat} {pixmap : ResourceId} {d : Dmabuf}
    {r : Request} (h : Handover dri3 screen pixmap d r) : r.Suits dri3 := by
  cases h with
  | layout modern => exact modern
  | rows legacy => exact legacy

theorem Window.present_suits (dri3 : Version) (connection : Connection) (image : Image) (d : Window)
    {sent : List Request} (hsent : ∀ r ∈ sent, r.Suits dri3) :
    ∀ r ∈ ((Window.surface connection).present image (d, sent)).2.2, r.Suits dri3 := by
  simp only [Window.surface, Window.present]
  split
  swap
  · exact hsent
  next pixmap _ =>
  split
  swap
  · exact hsent
  have hposted : ∀ r ∈ (connection.postAll [d.countUp.request pixmap]).2, r.Suits dri3 := by
    intro r hr
    obtain hall | ⟨e, written, hsome, hpart⟩ :=
      connection.postAll_cases [d.countUp.request pixmap]
    · rw [hall] at hr
      exact List.mem_singleton.mp hr ▸ trivial
    · rw [hsome] at hr
      exact List.mem_singleton.mp (hpart.subset hr) ▸ trivial
  split <;> next hpost =>
    rw [hpost] at hposted
    exact List.forall_mem_append.mpr ⟨hsent, hposted⟩

/-- Showing images in a window sends nothing but presentations. -/
theorem Window.used_suits (dri3 : Version) {connection : Connection} {asked : List SurfaceCall} :
    ∀ {d d' : Window} {sent sent' : List Request},
      (Window.surface connection).Used asked (d, sent) (d', sent') → (∀ r ∈ sent, r.Suits dri3) →
      ∀ r ∈ sent', r.Suits dri3 := by
  induction asked with
  | nil =>
    intro d d' sent sent' hused hsent
    obtain ⟨-, rfl⟩ := Prod.mk.inj hused
    exact hsent
  | cons call rest ih =>
    intro d d' sent sent' hused hsent
    cases call with
    | cancel => exact ih hused hsent
    | present image answer =>
      obtain ⟨-, hrest⟩ := hused
      exact ih hrest (present_suits dri3 connection image d hsent)

namespace Client

variable (c : Client)

theorem windowRequests_suit (dri3 : Version) (window : ResourceId) (title : String) :
    ∀ r ∈ c.windowRequests window title, r.Suits dri3 := by
  simp [windowRequests, Request.Suits]

theorem showRequests_suit (dri3 : Version) (window event : ResourceId) :
    ∀ r ∈ showRequests window event, r.Suits dri3 := by
  simp [showRequests, Request.Suits]

/-- However far making a window gets, what is written for it is of no particular version. -/
theorem Opened.suits {name : String} {result : Except Error Window} {sent : List Request}
    {ids : ResourceIds} (h : c.Opened name result sent ids) (dri3 : Version) :
    ∀ r ∈ sent, r.Suits dri3 := by
  have hasks : ∀ {ids ids' : ResourceIds} {found : Option ResourceId} {asks : List Request},
      ids.fresh = (found, asks, ids') → ∀ r ∈ asks, r.Suits dri3 := by
    intro ids ids' found asks hfresh
    have hsuits := ids.fresh_suits dri3
    rwa [hfresh] at hsuits
  cases h with
  | noWindow fresh => exact hasks fresh
  | unmade fresh part =>
    exact List.forall_mem_append.mpr
      ⟨hasks fresh, fun r hr => windowRequests_suit c dri3 _ _ r (part.subset hr)⟩
  | noEvent fresh next =>
    simp only [List.forall_mem_append]
    exact ⟨⟨hasks fresh, windowRequests_suit c dri3 _ _⟩, hasks next⟩
  | unshown fresh next part =>
    simp only [List.forall_mem_append]
    exact ⟨⟨⟨hasks fresh, windowRequests_suit c dri3 _ _⟩, hasks next⟩,
      fun r hr => showRequests_suit dri3 _ _ r (part.subset hr)⟩
  | shown fresh next =>
    simp only [List.forall_mem_append]
    exact ⟨⟨⟨hasks fresh, windowRequests_suit c dri3 _ _⟩, hasks next⟩,
      showRequests_suit dri3 _ _⟩

theorem createOutput_abides (id : OutputId) :
    c.Abides (c.createOutput id).2.1 (c.createOutput id).2.2 := by
  unfold createOutput
  split
  · exact ⟨rfl, rfl, by simp⟩
  obtain ⟨ids, hopened, hids⟩ :=
    openWindow_opened { c with created := c.created + 1 } s!"X11-{c.created + 1}"
  have hsuits := hopened.suits _ c.session.dri3
  rcases hopen : ({ c with created := c.created + 1 } : Client).openWindow
    s!"X11-{c.created + 1}" with ⟨e | window, sent, opened⟩
  all_goals
    rw [hopen] at hids hsuits
    simp only [hopen]
    obtain rfl : opened = _ := hids
    exact ⟨rfl, rfl, hsuits⟩

theorem attach_abides (verdict : Request → Except Refusal Unit) (image : Image) :
    c.Abides (c.attach verdict image).2.1 (c.attach verdict image).2.2 := by
  unfold attach
  split
  · exact ⟨rfl, rfl, by simp⟩
  split
  · exact ⟨rfl, rfl, by simp⟩
  have hends := importImage_ends verdict c.session image
  generalize importImage verdict c.session image = ended at hends
  obtain ⟨result, sent, session⟩ := ended
  cases hends with
  | refused ids unfit crowded unduplicated unheard =>
    exact ⟨rfl, rfl, fun r hr => unheard r hr ▸ trivial⟩
  | declined ids fit identifier handover | taken ids fit identifier handover =>
    exact ⟨rfl, rfl, fun r hr => List.mem_singleton.mp hr ▸ handover.suits⟩

theorem scheduleFrame_abides (id : OutputId) (image : Image) :
    c.Abides (c.scheduleFrame id image).2.1 (c.scheduleFrame id image).2.2 := by
  unfold scheduleFrame
  split
  · exact ⟨rfl, rfl, by simp⟩
  next o _ =>
    obtain ⟨asked, queued, -, hused, -⟩ := FrameScheduler.schedule_effect
      (Window.surface c.session.connection) image o.scheduler (o.details, []) []
    have hsuits := Window.used_suits c.session.dri3 hused (by simp)
    split
    next submission f d sent hschedule =>
      rw [hschedule] at hsuits
      split <;> exact ⟨rfl, rfl, hsuits⟩

theorem destroyOutput_abides (id : OutputId) :
    c.Abides (c.destroyOutput id).2.1 (c.destroyOutput id).2.2 := by
  refine ⟨rfl, rfl, ?_⟩
  cases hget : c.registry.get? id with
  | none => simp [destroyOutput, Registry.destroy_absent hget]
  | some o => simp [destroyOutput_sent hget, lastRequests, Request.Suits]

/-- However many windows are destroyed, the requests that do so are of no particular version. -/
theorem destroyAll_suits (dri3 : Version) (ids : List OutputId) :
    ∀ {r : Registry Window} {sent : List Request}, (∀ q ∈ sent, q.Suits dri3) →
      ∀ q ∈ (Registry.destroyAll teardown ids r sent).2, q.Suits dri3 := by
  induction ids with
  | nil => exact fun h => h
  | cons id rest ih =>
    intro r sent hsent
    have hone : ∀ q ∈ (r.destroy id teardown sent).2.2, q.Suits dri3 := by
      rw [Registry.destroy]
      split
      · exact hsent
      · next o _ =>
        show ∀ q ∈ (teardown o sent).2, q.Suits dri3
        rw [teardown_sent (id, o)]
        exact List.forall_mem_append.mpr ⟨hsent, by simp [lastRequests, Request.Suits]⟩
    exact ih hone

theorem connectionClosed_abides :
    c.Abides c.connectionClosed.1 c.connectionClosed.2 := by
  refine ⟨rfl, rfl, ?_⟩
  simp only [connectionClosed, Registry.disconnect]
  split
  · simp
  · exact destroyAll_suits c.session.dri3 _ (by simp)

theorem complete_abides (window : ResourceId) (msc : UInt64) :
    c.Abides (c.complete window msc).2.1 (c.complete window msc).2.2 := by
  unfold complete
  split
  · exact ⟨rfl, rfl, by simp [settled]⟩
  next id o _ =>
    obtain ⟨asked, queued, -, hused, -⟩ := FrameScheduler.frameDone_effect
      (Window.surface c.session.connection) o.scheduler ({ o.details with lastMsc := msc }, []) []
    have hsuits := Window.used_suits c.session.dri3 hused (by simp)
    split
    next lost f d sent hdone =>
      rw [hdone] at hsuits
      split <;> exact ⟨rfl, rfl, hsuits⟩

theorem handle_abides (e : Event) : c.Abides (c.handle e).2.1 (c.handle e).2.2 := by
  cases e with
  | complete window kind msc =>
    rw [handle]
    split
    · exact c.complete_abides window msc
    · exact ⟨rfl, rfl, by simp⟩
  | idle window pixmap =>
    rw [handle, idle]
    split
    · exact ⟨rfl, rfl, by simp [settled]⟩
    · split <;> exact ⟨rfl, rfl, by simp [settled]⟩
  | configure window width height =>
    rw [handle, configure]
    split
    · exact ⟨rfl, rfl, by simp⟩
    · split
      · exact ⟨rfl, rfl, by simp [settled]⟩
      · split <;> exact ⟨rfl, rfl, by simp [settled]⟩
  | message window format data =>
    rw [handle]
    split
    · rw [close]
      split
      · exact ⟨rfl, rfl, by simp [settled]⟩
      · next id _ _ => exact ⟨rfl, rfl, (c.destroyOutput_abides id).suits⟩
    · exact ⟨rfl, rfl, by simp⟩
  | error code => exact ⟨rfl, rfl, by simp [handle, settled]⟩
  | unhandled => exact ⟨rfl, rfl, by simp [handle, settled]⟩

end Client

/-! ## Everything that is said on a connection -/

namespace World

/-- A world in which everything written suits a version, whose client goes by that version and by
these formats. -/
structure Minds (dri3 : Version) (formats : FormatSet) (w : World) : Prop where
  version : w.client.session.dri3 = dri3
  formats : w.client.session.formats = formats
  suits : ∀ r ∈ w.log.filterMap Entry.request?, r.Suits dri3

variable {dri3 : Version} {formats : FormatSet} {w : World}

/-- What a client sends in an operation is added to the log, and no other requests are. -/
theorem Minds.abides (h : w.Minds dri3 formats) {sent : List Request} {client : Client}
    (habides : w.client.Abides sent client) {w' : World} (hclient : w'.client = client)
    {news : List Entry} (hlog : w'.log = w.log ++ news)
    (hnews : news.filterMap Entry.request? = sent) : w'.Minds dri3 formats where
  version := by rw [hclient, habides.dri3, h.version]
  formats := by rw [hclient, habides.formats, h.formats]
  suits := by
    rw [hlog, List.filterMap_append, hnews, List.forall_mem_append]
    exact ⟨h.suits, fun r hr => h.version ▸ habides.suits r hr⟩

theorem Minds.step (h : w.Minds dri3 formats) (step : Step) : (w.step step).Minds dri3 formats := by
  cases step with
  | createOutput =>
    exact h.abides (w.client.createOutput_abides _) rfl rfl (sentEntries_requests _)
  | make image => exact ⟨h.version, h.formats, h.suits⟩
  | attach answer image =>
    simp only [World.step]
    split
    · exact h.abides (w.client.attach_abides _ image) rfl rfl (sentEntries_requests _)
    · exact h
  | letGo image =>
    simp only [World.step]
    split
    · have hfrees : w.client.Abides (releaseImage image).2 w.client := by
        refine ⟨rfl, rfl, fun r hr => ?_⟩
        unfold releaseImage at hr
        split at hr
        · exact List.mem_singleton.mp hr ▸ trivial
        · exact absurd hr List.not_mem_nil
      exact h.abides hfrees rfl rfl (sentEntries_requests _)
    · exact h
  | change image changed =>
    simp only [World.step]
    split <;> exact ⟨h.version, h.formats, h.suits⟩
  | schedule id image =>
    simp only [World.step]
    split
    · exact h.abides (w.client.scheduleFrame_abides id image) rfl rfl
        (Connection.entries_requests _ _)
    · exact h
  | destroyOutput id =>
    exact h.abides (w.client.destroyOutput_abides id) rfl rfl (sentEntries_requests _)
  | takeEvents | connection => exact ⟨h.version, h.formats, h.suits⟩
  | loseConnection =>
    exact h.abides w.client.connectionClosed_abides rfl rfl (sentEntries_requests _)
  | renew ids =>
    simp only [World.step]
    split <;> exact ⟨h.version, h.formats, h.suits⟩
  | event serial e =>
    exact h.abides (w.client.handle_abides e) rfl rfl (Connection.entries_requests _ _)

theorem Minds.run (h : w.Minds dri3 formats) (steps : List Step) :
    (w.run steps).Minds dri3 formats := by
  induction steps generalizing w with
  | nil => exact h
  | cons step rest ih => exact ih (h.step step)

end World

/-! ## What a session knows -/

theorem eraseDups_map_const {α β : Type} [DecidableEq β] (b : β) {l : List α} (h : l ≠ []) :
    (l.map fun _ => b).eraseDups = [b] := by
  obtain ⟨a, rest, rfl⟩ := List.exists_cons_of_ne_nil h
  simp [List.eraseDups_cons]

/-- The formats of a screen are its layouts, each once and in the order told, or plain rows. -/
theorem supportedFormats_toList (layouts : List Modifier) :
    (supportedFormats layouts).toList
      = if layouts = [] then [⟨.xrgb8888, .linear⟩]
        else layouts.eraseDups.map (Format.mk .xrgb8888) := by
  cases layouts with
  | nil => rfl
  | cons layout rest =>
    have hformats : supportedFormats (layout :: rest)
        = .ofList ((layout :: rest).map (Format.mk .xrgb8888)) := rfl
    have hinjective : Function.Injective (Format.mk .xrgb8888) :=
      fun _ _ h => congrArg Format.modifier h
    rw [hformats, FormatSet.toList_ofList, List.map_map, if_neg (List.cons_ne_nil _ _)]
    have hcodes := eraseDups_map_const Fourcc.xrgb8888 (List.cons_ne_nil layout rest)
    rw [show (fun f : Format => f.code) ∘ Format.mk .xrgb8888 = fun _ => .xrgb8888 from rfl, hcodes,
      List.flatMap_singleton, List.filter_eq_self.mpr (by simp), eraseDups_map hinjective]

variable {answer : Request → Reply}

theorem Short.not_usable {e : Extension} {available : Option Version}
    (h : Short answer e available) : ¬ Usable answer e := by
  rintro ⟨v, hreported, henough⟩
  exact not_lt.mpr henough (h.low v (h.reported.unique hreported))

/-- Only one extension is the first that is not usable. -/
theorem first_unique {e other : Extension}
    (he : ∀ e' ∈ Extension.all.takeWhile (· ≠ e), Usable answer e') (hnot : ¬ Usable answer e)
    (hother : ∀ e' ∈ Extension.all.takeWhile (· ≠ other), Usable answer e')
    (hnot' : ¬ Usable answer other) : e = other := by
  cases e <;> cases other <;> simp_all [Extension.all]

/-- An opening blames an extension exactly if that is the first that will not do. -/
theorem Opening.blames_iff {screen : Nat} {result : Except Error Session} {said : List Request}
    (h : Opening answer screen result said) (e : Extension) (available : Option Version) :
    result = .error (.missingExtension e available) ↔ Short answer e available := by
  cases h with
  | @barred first error _ before checked =>
    have hfirst := checked.not_usable
    constructor
    · intro hblames
      obtain rfl := Except.error.inj hblames
      cases checked with
      | missing reported => exact ⟨before, reported, by simp⟩
      | old reported short => exact ⟨before, reported, fun v hv => Option.some.inj hv ▸ short⟩
    · intro hshort
      obtain rfl := first_unique before hfirst hshort.before hshort.not_usable
      cases checked with
      | missing reported => rw [reported.unique hshort.reported]
      | old reported => rw [reported.unique hshort.reported]
      | unanswered silent => exact absurd hshort.reported (silent available)
  | failed usable other =>
    exact iff_of_false (fun hblames => other e available (Except.error.inj hblames))
      fun hshort => hshort.not_usable (usable e)
  | opened usable =>
    exact iff_of_false (by simp) fun hshort => hshort.not_usable (usable e)

/-- The atoms are asked for exactly if the extensions are found in order. -/
theorem Opening.interned_iff {screen : Nat} {result : Except Error Session} {said : List Request}
    (h : Opening answer screen result said) :
    (∀ e, Usable answer e) ↔ ∃ atom, .internAtom atom ∈ said := by
  cases h with
  | barred before checked probing =>
    refine iff_of_false (fun husable => checked.not_usable (husable _)) ?_
    rintro ⟨atom, hatom⟩
    obtain ⟨e, h | h⟩ := probing _ hatom <;> cases h
  | failed usable _ interned => exact iff_of_true usable ⟨.wmProtocols, interned _⟩
  | opened usable _ _ interned => exact iff_of_true usable ⟨.wmProtocols, interned _⟩

/-- **A client speaks as its server does.** The opening of a session gets past the extensions
exactly if Present, XFIXES and DRI3 are there in a version of at least 1.0, 4.0 and 1.0, by the
first number and then the second. It blames an extension exactly if that is the first of them which
is missing or too old, and tells the version that was reported; if the server says how each of them
stands, there is nothing else that can go wrong with them. From a session that was opened on,
whatever the program and the server do, what was asked in the opening and all that is sent suits
the version the server reported: from 1.2 on it is asked for layouts and told them, before that it
is handed single planes. The formats are always the layouts the screen was reported to have, each
once and in that order, or plain rows if there are none or the server could not be asked. -/
theorem versions_respected (answer : Request → Reply) (screen : Nat) (ids : ResourceIds) :
    let opening := (openSession answer screen ids).run.run []
    Extension.all.map (fun e => (e, e.minimum.numbers))
      = [(.present, toLex (1, 0)), (.xfixes, toLex (4, 0)), (.dri3, toLex (1, 0))] ∧
    ((∀ e, Usable answer e) ↔ ∃ atom, .internAtom atom ∈ opening.2) ∧
    (∀ e available, opening.1 = .error (.missingExtension e available)
      ↔ Short answer e available) ∧
    ((∀ e, ∃ available, Reports answer e available) →
      (∀ e, Usable answer e) ∨
        ∃ e available, opening.1 = .error (.missingExtension e available)) ∧
    ∀ session, opening.1 = .ok session → ∀ title mode steps,
      let w := (World.start session title mode).run steps
      Reports answer .dri3 (some session.dri3) ∧
      (∀ r, (r ∈ opening.2 ∨ r ∈ w.log.filterMap Entry.request?) → r.Suits session.dri3) ∧
      (toLex (1, 2) ≤ session.dri3.numbers → ∃ window layouts,
        answer (.getSupportedModifiers screen 24 32) = .modifiers window layouts ∧
        w.client.session.formats.toList
          = if layouts = [] then [⟨.xrgb8888, .linear⟩]
            else layouts.eraseDups.map (Format.mk .xrgb8888)) ∧
      (session.dri3.numbers < toLex (1, 2) →
        w.client.session.formats.toList = [⟨.xrgb8888, .linear⟩]) := by
  intro opening
  obtain ⟨result, said, hrun, hopening⟩ := openSession_opening answer screen ids []
  obtain ⟨hresult, hsaid⟩ : opening.1 = result ∧ opening.2 = said := by
    rw [show opening = (result, [] ++ said) from hrun]
    exact ⟨rfl, rfl⟩
  rw [hresult, hsaid]
  refine ⟨rfl, hopening.interned_iff, hopening.blames_iff, fun hreports => ?_, ?_⟩
  · rcases usable_or_short hreports with husable | ⟨e, available, hshort⟩
    · exact .inl husable
    · exact .inr ⟨e, available, (hopening.blames_iff e available).mpr hshort⟩
  rintro session rfl title mode steps w
  cases hopening with
  | opened usable reported shows interned suits =>
    have hstart : (World.start session title mode).Minds session.dri3 session.formats :=
      ⟨rfl, rfl, fun _ hr => absurd hr List.not_mem_nil⟩
    have hminds : w.Minds session.dri3 session.formats := hstart.run steps
    refine ⟨reported, fun r hr => hr.elim (suits r) (hminds.suits r), fun hmodern => ?_,
      fun hold => ?_⟩
    · obtain ⟨window, layouts, hlayouts, hformats⟩ := shows.asked hmodern
      refine ⟨window, layouts, hlayouts, ?_⟩
      rw [hminds.formats, hformats, supportedFormats_toList]
    · rw [hminds.formats, shows.unasked hold, supportedFormats_toList]
      rfl

/-- A server that has all extensions, and of the last one a version of which it depends what it can
be asked. -/
def serverWith (dri3 : Version) (layouts : List Modifier) : Request → Reply
  | .queryExtension _ => .extension true
  | .queryVersion .dri3 => .version dri3
  | .queryVersion e => .version e.wanted
  | .internAtom _ => .atom
  | .dri3Open _ => .renderNode .null
  | .getSupportedModifiers .. => .modifiers [] layouts
  | _ => .lost

def tiled : Modifier := ⟨0x0100000000000001⟩

/-- A server of version 1.2 tells its layouts, one of them twice, and is handed an image with its
layout. -/
theorem layouts_told_once :
    ∃ session, ((openSession (serverWith ⟨1, 2⟩ [.linear, tiled, .linear]) 0 { last := 9 }).run.run
        []).1 = .ok session ∧
      let w := (World.start session standardTitle ⟨64, 64, 0⟩).run
        [.make (.numbered 0), .attach (.ok ()) (World.newImage 0 (.numbered 0))]
      w.log.map (fun entry => match entry with
        | .sent request | .withdrawn request => request.name
        | .heard .. => "") = ["dri3_pixmap_from_buffers"] ∧
      (∀ r ∈ w.log.filterMap Entry.request?, r.Suits ⟨1, 2⟩) ∧
      w.client.session.formats.toList = [⟨.xrgb8888, .linear⟩, ⟨.xrgb8888, tiled⟩] := by
  obtain ⟨-, -, -, -, hopened⟩ :=
    versions_respected (serverWith ⟨1, 2⟩ [.linear, tiled, .linear]) 0 { last := 9 }
  refine ⟨_, rfl, ?_⟩
  obtain ⟨-, hsuits, hasked, -⟩ := hopened _ rfl standardTitle ⟨64, 64, 0⟩
    [.make (.numbered 0), .attach (.ok ()) (World.newImage 0 (.numbered 0))]
  refine ⟨by decide +kernel, fun r hr => hsuits r (.inr hr), ?_⟩
  obtain ⟨window, layouts, hlayouts, hformats⟩ := hasked (by decide)
  obtain ⟨-, rfl⟩ := Reply.modifiers.inj hlayouts
  rw [hformats]
  decide +kernel

end Scanout.X11
