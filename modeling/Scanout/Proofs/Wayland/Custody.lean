import Scanout.Proofs.Wayland.Lifetimes

/-!
# Who has the buffers

Every buffer that a display made belongs to one image, and wherever the image goes the buffer goes
with it: to the outputs of the display, back from there in an event, into the slots of a
swapchain, to an allocator. `Stock` is a display with all the images there are, in the display or
outside of it, and those that are gone. `Deals` lists the things that can be done to it, one by one
or one after the other.

`Ledger` says what the log of the connection has to do with the images: each buffer is with exactly
one of them, and its requests tell the life that the image had (`Deals.kept`).
-/

namespace Scanout

/-- The buffers of images. -/
def buffersOf (images : List Image) : List Nat :=
  images.filterMap Image.remoteBuffer?

@[simp]
theorem buffersOf_append (images more : List Image) :
    buffersOf (images ++ more) = buffersOf images ++ buffersOf more :=
  List.filterMap_append

theorem mem_buffersOf {images : List Image} {b : Nat} :
    b ∈ buffersOf images ↔ ∃ image ∈ images, image.remoteBuffer? = some b :=
  List.mem_filterMap

/-- What an image is made of: its buffer at the display, and the memory behind it. -/
def Image.backing (image : Image) : Option Nat × Dmabuf := (image.remoteBuffer?, image.dmabuf)

namespace Wayland

/-- The buffer that a request destroys. -/
def Request.destroyed? : Request → Option Nat
  | destroyBuffer b => some b
  | _ => none

/-- The buffers that were destroyed, in order. -/
def destroyed (log : List Entry) : List Nat :=
  (requests log).filterMap Request.destroyed?

theorem destroyed_append (log news : List Entry) :
    destroyed (log ++ news) = destroyed log ++ destroyed news := by
  simp only [destroyed, requests_append, List.filterMap_append]

theorem destroyed_spares {news : List Entry} (h : ∀ r ∈ requests news, r.spares = true) :
    destroyed news = [] := by
  refine List.filterMap_eq_nil_iff.mpr fun r hr => ?_
  have hspares := h r hr
  cases r <;> first | rfl | exact absurd hspares (by simp [Request.spares])

/-! ## The ledger -/

/-- The log of a connection on which `made` buffers were made, while some images are there, some
were given up and some have gone astray. -/
structure Ledger (log : List Entry) (made : Nat) (images given strayed : List Image) : Prop where
  /-- Each buffer is with one image. -/
  places : (buffersOf (images ++ given ++ strayed)).Perm (List.range made)
  alive : ∀ image ∈ images ++ strayed, ∀ b ∈ image.remoteBuffer?, Lifetime b image.dmabuf [] log
  ended : ∀ image ∈ given, ∀ b ∈ image.remoteBuffer?,
    Lifetime b image.dmabuf [.destroyBuffer b] log
  unmade : ∀ b, made ≤ b →
    traffic (Object.isParams b) log = [] ∧ traffic (Object.isBuffer b) log = []
  /-- The buffers are destroyed that are given up, as they are given up. -/
  destroyed : destroyed log = buffersOf given

namespace Ledger

variable {log news : List Entry} {made : Nat} {images images' given strayed rest : List Image}
  {image : Image}

theorem start : Ledger [] 0 [] [] [] where
  places := .refl _
  alive := fun _ h => absurd h List.not_mem_nil
  ended := fun _ h => absurd h List.not_mem_nil
  unmade := fun _ _ => ⟨rfl, rfl⟩
  destroyed := rfl

theorem older (h : Ledger log made images given strayed)
    (himage : image ∈ images ++ given ++ strayed) {b : Nat} (hb : b ∈ image.remoteBuffer?) :
    b < made :=
  List.mem_range.mp (h.places.subset (mem_buffersOf.mpr ⟨image, himage, hb⟩))

theorem unmade_append (h : Ledger log made images given strayed) {b : Nat}
    (hnews : Unmentioned b news) (hb : made ≤ b) :
    traffic (Object.isParams b) (log ++ news) = [] ∧
      traffic (Object.isBuffer b) (log ++ news) = [] := by
  rw [hnews.params, hnews.buffer]
  exact h.unmade b hb

/-- No image that was not given up has the buffer of one that was. -/
theorem apart (h : Ledger log made images given strayed) {b : Nat}
    (hb : b ∈ buffersOf (images ++ strayed)) : b ∉ buffersOf given := by
  have hnodup := h.places.nodup_iff.mpr List.nodup_range
  simp only [buffersOf_append] at hb hnodup
  intro hgiven
  rcases List.mem_append.mp hb with hb | hb
  · exact List.disjoint_of_nodup_append hnodup.of_append_left hb hgiven
  · exact List.disjoint_of_nodup_append hnodup (List.mem_append_right _ hgiven) hb

/-- Buffer and memory of an image decide. -/
theorem replaced (h : Ledger log made images given strayed)
    (hp : (images'.map Image.backing).Perm (images.map Image.backing)) :
    Ledger log made images' given strayed where
  places := by
    have hbuffers : (buffersOf images').Perm (buffersOf images) := by
      have hall := hp.filterMap Prod.fst
      rwa [List.filterMap_map, List.filterMap_map] at hall
    have hplaces := h.places
    rw [List.append_assoc, buffersOf_append] at hplaces ⊢
    exact (hbuffers.append_right _).trans hplaces
  alive := by
    intro image himage b hb
    rcases List.mem_append.mp himage with himage | himage
    · obtain ⟨old, hold, hsame⟩ := List.mem_map.mp (hp.subset (List.mem_map_of_mem himage))
      obtain ⟨hbuffer, hmemory⟩ := Prod.mk.inj hsame
      rw [← hmemory]
      exact h.alive old (List.mem_append_left _ hold) b (hbuffer ▸ hb)
    · exact h.alive image (List.mem_append_right _ himage) b hb
  ended := h.ended
  unmade := h.unmade
  destroyed := h.destroyed

theorem perm (h : Ledger log made images given strayed) (hp : images'.Perm images) :
    Ledger log made images' given strayed :=
  h.replaced (hp.map _)

/-- An image without a buffer is of no account. -/
theorem came (h : Ledger log made images given strayed) (hnone : image.remoteBuffer? = none) :
    Ledger log made (image :: images) given strayed where
  places := by
    have hsame : buffersOf (image :: images ++ given ++ strayed)
        = buffersOf (images ++ given ++ strayed) := List.filterMap_cons_none hnone
    rw [hsame]
    exact h.places
  alive := by
    intro other hother b hb
    rcases List.mem_cons.mp hother with rfl | hother
    · exact absurd (hnone.symm.trans hb) (by simp)
    · exact h.alive other hother b hb
  ended := h.ended
  unmade := h.unmade
  destroyed := h.destroyed

theorem left (h : Ledger log made (image :: rest) given strayed) :
    Ledger log made rest given (strayed ++ [image]) where
  places := by
    refine (List.Perm.filterMap _ ?_).trans h.places
    rw [← List.append_assoc]
    exact List.perm_append_singleton image _
  alive := by
    rw [← List.append_assoc]
    exact fun other hother =>
      h.alive other ((List.perm_append_singleton image (rest ++ strayed)).subset hother)
  ended := h.ended
  unmade := h.unmade
  destroyed := h.destroyed

/-- What is said about no buffer, or attaches those of images that are there. -/
theorem used (h : Ledger log made images given strayed)
    (hspares : ∀ r ∈ requests news, r.spares = true)
    (hattached : ∀ s b, .attach s b ∈ requests news → b ∈ buffersOf images) :
    Ledger (log ++ news) made images given strayed := by
  have hsilent : ∀ {b}, b ∉ buffersOf images → Unmentioned b news := by
    intro b hb r hr
    obtain ⟨hparams, hbuffer⟩ := Request.about_of_spares (hspares r hr) b
    refine ⟨hparams, Bool.eq_false_iff.mpr fun habout => hb ?_⟩
    obtain ⟨s, rfl⟩ := hbuffer habout
    exact hattached s b hr
  have hplaces := h.places
  rw [List.append_assoc, buffersOf_append] at hplaces
  refine ⟨h.places, fun image himage b hb => (h.alive image himage b hb).used hspares,
    fun image himage b hb => (h.ended image himage b hb).elsewhere (hsilent ?_),
    fun b hb => ?_, ?_⟩
  · refine fun hmem => h.apart ?_ (mem_buffersOf.mpr ⟨image, himage, hb⟩)
    rw [buffersOf_append]
    exact List.mem_append_left _ hmem
  · have hnone : b ∉ buffersOf images := fun hmem => by
      have hlt := List.mem_range.mp (hplaces.subset (List.mem_append_left _ hmem))
      omega
    exact h.unmade_append (hsilent hnone) hb
  · rw [destroyed_append, destroyed_spares hspares, List.append_nil]
    exact h.destroyed

/-- The next buffer is made for an image. -/
theorem imported (h : Ledger log made images given strayed) (dmabuf : Nat)
    (hbuffer : image.remoteBuffer? = some made) :
    Ledger (log ++ (Client.importRequests dmabuf made image.dmabuf).map .sent) (made + 1)
      (image :: images) given strayed := by
  have hsilent : ∀ {b}, b ≠ made →
      Unmentioned b ((Client.importRequests dmabuf made image.dmabuf).map .sent) := by
    intro b hb r hr
    rw [requests_sent] at hr
    obtain ⟨-, hparams, habout⟩ := Client.importRequests_about hr b
    exact ⟨by simp [hparams, Ne.symm hb],
      Bool.eq_false_iff.mpr fun hsome => hb (habout hsome).1.symm⟩
  have hthere : images ++ strayed ⊆ images ++ given ++ strayed :=
    ((List.sublist_append_left images given).append_right strayed).subset
  refine ⟨?_, fun other hother b hb => ?_, fun other hother b hb => ?_, fun b hb => ?_, ?_⟩
  · have hnew : buffersOf (image :: images ++ given ++ strayed)
        = made :: buffersOf (images ++ given ++ strayed) := List.filterMap_cons_some hbuffer
    rw [hnew, List.range_succ]
    exact (h.places.cons made).trans (List.perm_append_singleton made _).symm
  · rcases List.mem_cons.mp hother with rfl | hother
    · obtain rfl : made = b := by simpa [hbuffer] using hb
      obtain ⟨hparams, hnone⟩ := h.unmade made (Nat.le_refl made)
      exact .created dmabuf hparams hnone
    · exact (h.alive other hother b hb).elsewhere
        (hsilent (Nat.ne_of_lt (h.older (hthere hother) hb)))
  · exact (h.ended other hother b hb).elsewhere
      (hsilent (Nat.ne_of_lt (h.older (by simp [hother]) hb)))
  · exact h.unmade_append (hsilent (by omega)) (by omega)
  · have hnone : Wayland.destroyed
        ((Client.importRequests dmabuf made image.dmabuf).map .sent) = [] := by
      rw [Wayland.destroyed, requests_sent]
      refine List.filterMap_eq_nil_iff.mpr fun r hr => ?_
      simp only [Client.importRequests, List.cons_append, List.mem_cons, List.mem_append,
        List.mem_map, List.not_mem_nil, or_false] at hr
      rcases hr with rfl | ⟨p, -, rfl⟩ | rfl | rfl <;> rfl
    rw [destroyed_append, hnone, List.append_nil]
    exact h.destroyed

/-- An image is given up, and with it its buffer. -/
theorem givenUp (h : Ledger log made (image :: rest) given strayed) :
    Ledger (log ++ (image.remoteBuffer?.map (Entry.sent <| .destroyBuffer ·)).toList) made rest
      (given ++ [image]) strayed := by
  have hmoved : (buffersOf (rest ++ (given ++ [image]) ++ strayed)).Perm
      (buffersOf (image :: rest ++ given ++ strayed)) := by
    refine List.Perm.filterMap _ (List.Perm.append_right _ ?_)
    rw [← List.append_assoc]
    exact List.perm_append_singleton image _
  cases hbuffer : image.remoteBuffer? with
  | none =>
    have hgiven : buffersOf (given ++ [image]) = buffersOf given := by
      simp [buffersOf, hbuffer]
    rw [Option.map_none, Option.toList_none, List.append_nil]
    refine ⟨hmoved.trans h.places,
      fun other hother => h.alive other (List.mem_cons_of_mem _ hother),
      fun other hother b hb => ?_, h.unmade, h.destroyed.trans hgiven.symm⟩
    rcases List.mem_append.mp hother with hother | hother
    · exact h.ended other hother b hb
    · rw [List.mem_singleton.mp hother, hbuffer] at hb
      exact absurd hb (by simp)
  | some old =>
    -- the buffer is with no other image
    have hunique : ∀ other ∈ rest ++ given ++ strayed, ∀ b ∈ other.remoteBuffer?, b ≠ old := by
      have hnodup : (buffersOf (image :: rest ++ given ++ strayed)).Nodup :=
        h.places.nodup_iff.mpr List.nodup_range
      have hcons : buffersOf (image :: rest ++ given ++ strayed)
          = old :: buffersOf (rest ++ given ++ strayed) := List.filterMap_cons_some hbuffer
      rw [hcons, List.nodup_cons] at hnodup
      rintro other hother b hb rfl
      exact hnodup.1 (mem_buffersOf.mpr ⟨other, hother, hb⟩)
    have hsilent : ∀ {b}, b ≠ old → Unmentioned b [.sent (.destroyBuffer old)] := by
      intro b hb r hr
      obtain rfl : r = .destroyBuffer old := by simpa using hr
      simp [Request.objects, Request.target, Request.made?, Request.named?, Object.isParams,
        Object.isBuffer, Ne.symm hb]
    rw [Option.map_some, Option.toList_some]
    refine ⟨hmoved.trans h.places, fun other hother b hb => ?_, fun other hother b hb => ?_,
      fun b hb => ?_, ?_⟩
    · have hthere := ((List.sublist_append_left rest given).append_right strayed).subset hother
      exact (h.alive other (List.mem_cons_of_mem _ hother) b hb).elsewhere
        (hsilent (hunique other hthere b hb))
    · rcases List.mem_append.mp hother with hother | hother
      · exact (h.ended other hother b hb).elsewhere
          (hsilent (hunique other (by simp [hother]) b hb))
      · obtain rfl := List.mem_singleton.mp hother
        obtain rfl : old = b := by simpa [hbuffer] using hb
        exact (h.alive other (by simp) old hbuffer).destroyed
    · have hne : b ≠ old := fun heq => by
        have hlt := h.older (List.mem_append_left _ (List.mem_append_left _ List.mem_cons_self))
          hbuffer
        omega
      exact h.unmade_append (hsilent hne) hb
    · rw [destroyed_append, h.destroyed, buffersOf_append]
      simp [Wayland.destroyed, Request.destroyed?, buffersOf, hbuffer]

end Ledger

namespace Recorded

variable {w : Display.Course Recorded}

/-- A call that neither makes a buffer nor destroys one. -/
def Sparing : Display.Call Happening → Prop
  | .other (.attach _) | .other (.detach _) => False
  | _ => True

/-- Buffers are attached of images that the display has. -/
theorem step_attached (hr : w.client.client.registry.Tidy) (hw : w.broken = false)
    (call : Display.Call Happening) :
    ∃ news, (w.step recording call).client.log = w.client.log ++ news ∧
      ∀ s b, .attach s b ∈ requests news →
        b ∈ buffersOf (w.step recording call).client.client.registry.images := by
  have hplain : ∀ {news : List Entry}, (∀ e ∈ news, e.surface? = none) →
      ∀ s b, .attach s b ∉ requests news := by
    intro news hnone s b hmem
    obtain ⟨e, he, hrequest⟩ := List.mem_filterMap.mp hmem
    cases e with
    | sent r =>
      obtain rfl : r = .attach s b := by simpa [Entry.request?] using hrequest
      exact absurd (hnone _ he) (by simp [Entry.surface?])
    | heard e => exact absurd hrequest (by simp [Entry.request?])
  have hrest : ∀ {rest : List Request}, Plain rest → ∀ s b, .attach s b ∉ rest :=
    fun hplain s b hmem => absurd (hplain _ hmem) (by simp [Entry.surface?])
  cases step_move hr hw call with
  | aside _ _ log plain => exact ⟨_, log, fun s b hmem => absurd hmem (hplain plain s b)⟩
  | opened _ _ _ log plain =>
    refine ⟨_, log, fun s b hmem => ?_⟩
    rw [← List.map_cons, requests_sent] at hmem
    exact absurd ((List.mem_cons.mp hmem).resolve_left (by simp)) (hrest plain s b)
  | turned acted _ log plain =>
    refine ⟨_, log, fun s b hmem => ?_⟩
    rw [requests_append, requests_sent] at hmem
    have hmem := (List.mem_append.mp hmem).resolve_left (hplain plain s b)
    rcases acted.sent_cases with ⟨rfl, -⟩ | ⟨image, buffer, rest, hasked, hbuffer, rfl, hnone⟩
    · exact absurd hmem List.not_mem_nil
    · obtain ⟨-, rfl⟩ : s = _ ∧ b = buffer := by
        simpa using (List.mem_cons.mp hmem).resolve_right (hrest hnone s b)
      -- the image that is shown is presented from now on
      obtain ⟨details, -, hturn⟩ := acted.turn
      obtain ⟨f, heffect, hself⟩ := hturn.mem_self
      have himage := heffect.committed_subset image
        (by simp [FrameScheduler.Turn.committed, hasked])
      exact mem_buffersOf.mpr ⟨image, Registry.mem_images_of_presented hself himage, hbuffer⟩
  | configured _ _ log =>
    exact ⟨_, log, fun s b hmem => absurd hmem (by simp)⟩
  | missed _ _ log =>
    exact ⟨_, log, fun s b hmem => absurd hmem (by simp)⟩

/-- What a call says that neither makes a buffer nor destroys one. -/
theorem step_spares (hr : w.client.client.registry.Tidy) (hw : w.broken = false)
    {call : Display.Call Happening} (hcall : Sparing call) :
    (held (w.step recording call)).buffersMade = (held w).buffersMade ∧
    ∃ news, (w.step recording call).client.log = w.client.log ++ news ∧
      (∀ r ∈ requests news, r.spares = true) ∧
      ∀ s b, .attach s b ∈ requests news →
        b ∈ buffersOf (w.step recording call).client.client.registry.images := by
  obtain ⟨news, hlog, hattached⟩ := step_attached hr hw call
  by_cases hchanges : Changes call
  · cases call with
    | createOutput skipped =>
      have hstep : (w.step recording (.createOutput skipped)).client = w.client.next []
          (w.client.client.createOutput ⟨w.next + skipped⟩).2.1
          (w.client.client.createOutput ⟨w.next + skipped⟩).2.2 := by
        unfold Display.Course.step
        rw [if_neg (by simp [hw])]
        rfl
      have hsent : news = (w.client.client.createOutput ⟨w.next + skipped⟩).2.1.map .sent :=
        List.append_cancel_left (hlog.symm.trans (by rw [hstep]; rfl))
      have hheld : held (w.step recording (.createOutput skipped))
          = (w.client.client.createOutput ⟨w.next + skipped⟩).2.2.holdings := by
        rw [held, hstep]
        rfl
      rcases Client.createOutput_speaks (c := w.client.client) ⟨w.next + skipped⟩ with
        ⟨-, hsame⟩ | ⟨-, compositor, wmBase, title, appId, -, -, hopens, hholds⟩
      · rw [hsame] at hsent hheld
        exact ⟨by rw [hheld]; rfl, news, hlog, by simp [hsent], hattached⟩
      · rw [hholds] at hheld
        rw [hopens] at hsent
        refine ⟨by rw [hheld]; rfl, news, hlog, ?_, hattached⟩
        rw [hsent, requests_sent]
        exact Window.opens_spares _ _ _ _ _
    | other happening => cases happening <;> first | exact hcall.elim | exact hchanges.elim
    | _ => exact hchanges.elim
  · obtain ⟨said, hsaid, hupkeep⟩ := step_upkeep hr hw hchanges
    obtain rfl : news = said := List.append_cancel_left (hlog.symm.trans hsaid)
    exact ⟨hupkeep.spares.1, news, hlog, hupkeep.spares.2, hattached⟩

end Recorded

/-! ## Dealings with images -/

/-- A display, with the images that are outside of it and those that are gone. -/
structure Stock where
  display : Display.Course Recorded
  pool : List Image := []
  /-- The images that were given up to the display, as they were then. -/
  given : List Image := []
  /-- The images that went in any other way. -/
  strayed : List Image := []

namespace Stock

/-- All images there are. -/
def images (s : Stock) : List Image :=
  s.pool ++ s.display.client.client.registry.images

/-- The stock after another call of the display. -/
def call (s : Stock) (c : Display.Call Happening) : Stock :=
  { s with display := s.display.step recording c }

@[simp]
theorem call_given (s : Stock) (c : Display.Call Happening) : (s.call c).given = s.given :=
  rfl

@[simp]
theorem call_strayed (s : Stock) (c : Display.Call Happening) : (s.call c).strayed = s.strayed :=
  rfl

/-- The number of buffers made. -/
def made (s : Stock) : Nat := s.display.client.client.buffersMade

/-- What can be done with images, at once or one after the other. -/
inductive Deals : Stock → Stock → Prop where
  | nothing {s : Stock} {pool : List Image} (same : pool.Perm s.pool) :
    Deals s { s with pool := pool }
  | also {s s' s'' : Stock} (first : Deals s s') (rest : Deals s' s'') : Deals s s''
  /-- A call that makes and destroys no buffer takes images, hands some back, or both. -/
  | called {s : Stock} {c : Display.Call Happening} {taken rest : List Image}
      {told : List BackendEvent} (sparing : Recorded.Sparing c)
      (there : s.pool.Perm (taken ++ rest))
      (takes : (s.call c).display.taken = s.display.taken ++ taken)
      (tells : (s.call c).display.delivered = s.display.delivered ++ told) :
    Deals s { s.call c with pool := rest ++ returnedImages told }
  | refused {s : Stock} {image : Image} {e : AttachError}
      (refuses : (s.display.client.client.attach image).1 = .error e) :
    Deals s (s.call (.other (.attach image)))
  /-- An image that was not there is imported. -/
  | imported {s : Stock} {image attached : Image}
      (imports : (s.display.client.client.attach image).1 = .ok attached) :
    Deals s { s.call (.other (.attach image)) with pool := attached :: s.pool }
  | givenUp {s : Stock} {image : Image} {rest : List Image} (there : s.pool = image :: rest) :
    Deals s { s.call (.other (.detach image)) with pool := rest, given := s.given ++ [image] }
  /-- An image comes in that the display knows nothing of. -/
  | came {s : Stock} {image : Image} (new : image.remoteBuffer? = none) :
    Deals s { s with pool := image :: s.pool }
  /-- What the others keep of an image changes. -/
  | changed {s : Stock} {image changed : Image} {rest : List Image} (there : s.pool = image :: rest)
      (same : changed.backing = image.backing) : Deals s { s with pool := changed :: rest }
  | left {s : Stock} {image : Image} {rest : List Image} (there : s.pool = image :: rest) :
    Deals s { s with pool := rest, strayed := s.strayed ++ [image] }

/-- What always holds. -/
structure Kept (s : Stock) : Prop where
  course : s.display.Inv recording
  whole : s.display.broken = false
  transcript : Holdings.Transcript s.display.client.log (Recorded.held s.display)
  ledger : Ledger s.display.client.log s.made s.images s.given s.strayed

section

variable {s s' : Stock}

/-- What happens is written down. -/
theorem Kept.happens (h : s.Kept) (happening : Happening) :
    (s.call (.other happening)).display.client
      = (recording.handle happening s.display.client).2 := by
  unfold Stock.call Display.Course.step
  rw [if_neg (by simp [h.whole])]

/-- Whatever is called, the ledger is what matters. -/
theorem Kept.call (h : s.Kept) (c : Display.Call Happening) {pool given strayed : List Image}
    (hledger : Ledger (s.call c).display.client.log (s.call c).made
      (pool ++ (s.call c).display.client.client.registry.images) given strayed) :
    Kept { s.call c with pool := pool, given := given, strayed := strayed } := by
  have hholds := Recorded.step_holds h.whole c
  have hadvance := Display.Course.step_advance recording_lawful h.course.tidy c hholds
  obtain ⟨news, hlog, hspeaks⟩ := Recorded.step_speaks h.course.tidy h.whole c
  exact ⟨h.course.advance_inv hadvance, hholds, hlog ▸ .spoken h.transcript hspeaks, hledger⟩

theorem Kept.with_pool (h : s.Kept) {pool given strayed : List Image}
    (hledger : Ledger s.display.client.log s.made
      (pool ++ s.display.client.client.registry.images) given strayed) :
    Kept { s with pool := pool, given := given, strayed := strayed } :=
  ⟨h.course, h.whole, h.transcript, hledger⟩

/-- The images that a call takes are with the display, and those it hands back no longer. -/
theorem Kept.called_perm (h : s.Kept) {c : Display.Call Happening} {taken rest : List Image}
    {told : List BackendEvent} (there : s.pool.Perm (taken ++ rest))
    (takes : (s.call c).display.taken = s.display.taken ++ taken)
    (tells : (s.call c).display.delivered = s.display.delivered ++ told) :
    (rest ++ returnedImages told ++ (s.call c).display.client.client.registry.images).Perm
      s.images := by
  have hholds := Recorded.step_holds h.whole c
  have hadvance := Display.Course.step_advance recording_lawful h.course.tidy c hholds
  have hnow : ((s.call c).display.taken).Perm _ := (h.course.advance_inv hadvance).images
  refine List.perm_iff_count.mpr fun image => ?_
  have hbefore := h.course.images.count_eq image
  have hafter := hnow.count_eq image
  have hpool := there.count_eq image
  rw [takes, show (Display.Course.step recording s.display c).delivered
    = s.display.delivered ++ told from tells] at hafter
  simp only [images, List.count_append, returnedImages_append] at hbefore hafter hpool ⊢
  simp only [recording, Stock.call] at hbefore hafter ⊢
  omega

theorem Deals.kept (hdeals : Deals s s') (h : s.Kept) : s'.Kept := by
  induction hdeals with
  | nothing same => exact h.with_pool (h.ledger.perm (same.append_right _))
  | also _ _ first rest => exact rest (first h)
  | called sparing there takes tells =>
    obtain ⟨hmade, news, hlog, hspares, hattached⟩ :=
      Recorded.step_spares h.course.tidy h.whole sparing
    have hperm := h.called_perm there takes tells
    have hledger := (h.ledger.perm hperm).used hspares fun s b hmem => by
      rw [buffersOf_append]
      exact List.mem_append_right _ (hattached s b hmem)
    rw [← hlog] at hledger
    refine h.call _ ?_
    rwa [show (Stock.call _ _).made = _ from hmade]
  | @refused s image e refuses =>
    rcases s.display.client.client.attach_refused_or_made image with ⟨_, hattach⟩ | ⟨_, -, hattach⟩
    · have hsame : (s.call (.other (.attach image))).display.client = s.display.client := by
        rw [h.happens]
        simp [recording, Recorded.next, hattach]
      have hkept := h.call (.other (.attach image)) (by rw [made, hsame]; exact h.ledger)
      exact hkept
    · rw [hattach] at refuses
      exact absurd refuses (by simp)
  | @imported s image attached imports =>
    rcases s.display.client.client.attach_refused_or_made image with
      ⟨_, hattach⟩ | ⟨dmabuf, -, hattach⟩
    · rw [hattach] at imports
      exact absurd imports (by simp)
    · rw [hattach] at imports
      obtain rfl := Except.ok.inj imports
      have hledger : Ledger _ _
          ({ image with backendData := ⟨some (.remoteBuffer s.made)⟩ } :: s.images) _ _ :=
        h.ledger.imported dmabuf.object rfl
      refine h.call _ ?_
      rw [made, h.happens]
      simpa [recording, Recorded.next, hattach, images, made] using hledger
  | @givenUp s image rest there =>
    have hledger := h.ledger
    rw [images, there] at hledger
    refine h.call _ ?_
    rw [made, h.happens]
    rcases s.display.client.client.detach_cases image with
      ⟨hnone, hdetach⟩ | ⟨buffer, hsome, hdetach⟩
    · simpa [recording, Recorded.next, hdetach, hnone, made] using hledger.givenUp
    · simpa [recording, Recorded.next, hdetach, hsome, made] using hledger.givenUp
  | came new => exact h.with_pool (h.ledger.came new)
  | changed there same =>
    refine h.with_pool (h.ledger.replaced ?_)
    simp [images, there, same]
  | left there =>
    refine h.with_pool (.left ?_)
    have hledger := h.ledger
    rwa [images, there] at hledger

end

end Stock

end Wayland

end Scanout
