import Scanout.Proofs.Wayland.Versions

/-!
# How long objects live

The requests about an object, or about objects that belong together, tell its life: some request
makes it, others are made on it or name it, and one ends it. `Window.Fate` tells the lives of
windows. Each of them is made whole, shows buffers and acknowledges configurations, and if it goes,
its toplevel, its shell surface and its surface are destroyed in this order, and that is the end.
`Lifetime` tells the life of a buffer, request by request: the parameters that describe it, the
windows it is attached in, and its end.
-/

namespace Scanout.Wayland

namespace Object

/-- The objects of a window. -/
def ofWindow (n : Nat) : Object → Bool
  | surface m | xdgSurface m | toplevel m => m = n
  | _ => false

/-- The parameters of a buffer. -/
def isParams (n : Nat) : Object → Bool
  | params m => m = n
  | _ => false

def isBuffer (n : Nat) : Object → Bool
  | buffer m => m = n
  | _ => false

end Object

namespace Request

/-- The object that a request names besides. -/
def named? : Request → Option Object
  | getXdgSurface _ _ s => some (.surface s)
  | attach _ b => some (.buffer b)
  | _ => none

/-- The objects a request is about: the one it is made on, the one it makes, the one it names. -/
def objects (r : Request) : List Object :=
  r.target :: (r.made?.toList ++ r.named?.toList)

/-- Whether a request ends an object. -/
def ends : Request → Bool
  | destroyToplevel _ | destroyXdgSurface _ | destroySurface _ => true
  | destroyParams _ | destroyBuffer _ => true
  | _ => false

end Request

/-- The requests about some objects, in order. -/
def traffic (p : Object → Bool) (log : List Entry) : List Request :=
  (requests log).filter (·.objects.any p)

section

variable {p : Object → Bool} {log : List Entry} {sent : List Request}

theorem traffic_append (p : Object → Bool) (log news : List Entry) :
    traffic p (log ++ news) = traffic p log ++ traffic p news := by
  simp only [traffic, requests_append, List.filter_append]

theorem traffic_all (h : ∀ r ∈ sent, r.objects.any p = true) :
    traffic p (log ++ sent.map .sent) = traffic p log ++ sent := by
  rw [traffic_append, traffic, traffic, requests_sent, List.filter_eq_self.mpr h]

theorem traffic_silent {news : List Entry} (h : ∀ r ∈ requests news, r.objects.any p = false) :
    traffic p (log ++ news) = traffic p log := by
  have hnone : traffic p news = [] := List.filter_eq_nil_iff.mpr fun r hr => by simp [h r hr]
  rw [traffic_append, hnone, List.append_nil]

theorem traffic_none (h : ∀ r ∈ sent, r.objects.any p = false) :
    traffic p (log ++ sent.map .sent) = traffic p log :=
  traffic_silent (by rwa [requests_sent])

end

/-! ## Windows -/

namespace Window

variable {w : Window} {r : Request}

theorem opens_about {compositor wmBase : Nat} {title appId : String}
    (hr : r ∈ w.opens compositor wmBase title appId) (n : Nat) :
    r.objects.any (Object.ofWindow n) = decide (w.object = n) := by
  simp only [opens, List.mem_cons, List.not_mem_nil, or_false] at hr
  rcases hr with rfl | rfl | rfl | rfl | rfl | rfl <;>
    simp [Request.objects, Request.target, Request.made?, Request.named?, Object.ofWindow]

theorem shows_about {buffer callback : Nat} (hr : r ∈ w.shows buffer callback) (n : Nat) :
    r.objects.any (Object.ofWindow n) = decide (w.object = n) ∧ r.ends = false := by
  simp only [shows, List.cons_append, List.mem_cons, List.mem_append, List.not_mem_nil,
    or_false] at hr
  rcases hr with rfl | hr | rfl | rfl
  · simp [Request.objects, Request.target, Request.made?, Request.named?, Object.ofWindow,
      Request.ends]
  · split at hr
    · obtain rfl := List.mem_singleton.mp hr
      simp [Request.objects, Request.target, Request.made?, Request.named?, Object.ofWindow,
        Request.ends]
    · exact absurd hr List.not_mem_nil
  all_goals simp [Request.objects, Request.target, Request.made?, Request.named?,
    Object.ofWindow, Request.ends]

theorem closes_about (hr : r ∈ w.closes) (n : Nat) :
    r.objects.any (Object.ofWindow n) = decide (w.object = n) := by
  simp only [closes, List.mem_cons, List.not_mem_nil, or_false] at hr
  rcases hr with rfl | rfl | rfl <;>
    simp [Request.objects, Request.target, Request.made?, Request.named?, Object.ofWindow]

/-- A window was made whole, and nothing of it was destroyed. -/
def Lives (n : Nat) (sent : List Request) : Prop :=
  ∃ version compositor wmBase title appId used,
    sent = opens ⟨n, version⟩ compositor wmBase title appId ++ used ∧ ∀ r ∈ used, r.ends = false

/-- What became of a window, by the requests about it: it is not made yet, or it is there, or it
is gone. -/
inductive Fate (n : Nat) (h : Holdings) (sent : List Request) : Prop where
  | unmade (late : h.windowsMade ≤ n) (silent : sent = [])
  | there (w : Window) (held : w ∈ h.windows) (number : w.object = n) (lives : Lives n sent)
  | gone (early : n < h.windowsMade) (absent : ∀ w ∈ h.windows, w.object ≠ n)
      (before : List Request) (lived : Lives n before)
      (closed : sent = before ++ [.destroyToplevel n, .destroyXdgSurface n, .destroySurface n])

variable {n : Nat} {h h' : Holdings} {sent news : List Request} {log entries : List Entry}

theorem Lives.append (hlives : Lives n sent) (hnews : ∀ r ∈ news, r.ends = false) :
    Lives n (sent ++ news) := by
  obtain ⟨version, compositor, wmBase, title, appId, used, rfl, hused⟩ := hlives
  refine ⟨version, compositor, wmBase, title, appId, used ++ news, List.append_assoc _ _ _, ?_⟩
  exact fun r hr => (List.mem_append.mp hr).elim (hused r) (hnews r)

/-- A window is not concerned by what is done to others. -/
theorem Fate.elsewhere (hf : Fate n h sent) (hmade : h'.windowsMade = h.windowsMade)
    (hwindows : ∀ w, w.object = n → (w ∈ h'.windows ↔ w ∈ h.windows)) : Fate n h' sent := by
  cases hf with
  | unmade late silent => exact .unmade (hmade ▸ late) silent
  | there w held number lives => exact .there w ((hwindows w number).mpr held) number lives
  | gone early absent before lived closed =>
    exact .gone (hmade ▸ early) (fun w hw number => absent w ((hwindows w number).mp hw) number)
      before lived closed

/-- What is done to a window that is there. -/
theorem Fate.lives (hf : Fate n h sent) (hn : h.Numbered) {w : Window} (hw : w ∈ h.windows)
    (hnumber : w.object = n) : Lives n sent := by
  cases hf with
  | unmade late => exact absurd (hn.older w hw) (by omega)
  | there _ _ _ lives => exact lives
  | gone _ absent => exact absurd hnumber (absent w hw)

/-- Requests to a window that is there, none of which ends it. -/
theorem Fate.used (hf : Fate n h (traffic (Object.ofWindow n) log)) (hn : h.Numbered) {w : Window}
    (hw : w ∈ h.windows) (hnews : ∀ r ∈ news,
      r.objects.any (Object.ofWindow n) = decide (w.object = n) ∧ r.ends = false) :
    Fate n h (traffic (Object.ofWindow n) (log ++ news.map .sent)) := by
  by_cases hnumber : w.object = n
  · rw [traffic_all fun r hr => by simp [(hnews r hr).1, hnumber]]
    exact .there w hw hnumber ((hf.lives hn hw hnumber).append fun r hr => (hnews r hr).2)
  · rw [traffic_none fun r hr => by simp [(hnews r hr).1, hnumber]]
    exact hf

theorem Fate.closed (hf : Fate n h (traffic (Object.ofWindow n) log)) (hn : h.Numbered)
    {before after : List Window} {w : Window} (hsplit : h.windows = before ++ w :: after) :
    Fate n { h with windows := before ++ after }
      (traffic (Object.ofWindow n) (log ++ w.closes.map .sent)) := by
  have hw : w ∈ h.windows := by simp [hsplit]
  by_cases hnumber : w.object = n
  · rw [traffic_all fun r hr => by simp [closes_about hr, hnumber]]
    subst hnumber
    refine .gone (hn.older w hw) (fun other hother => ?_) _ (hf.lives hn hw rfl) rfl
    -- no other window has the number
    have hdistinct := hn.distinct
    rw [hsplit, List.map_append, List.map_cons, List.nodup_middle, List.nodup_cons,
      ← List.map_append] at hdistinct
    exact fun heq => hdistinct.1 (heq ▸ List.mem_map_of_mem hother)
  · rw [traffic_none fun r hr => by simp [closes_about hr, hnumber]]
    refine hf.elsewhere rfl fun other hother => ?_
    have hne : other ≠ w := fun heq => hnumber (heq ▸ hother)
    simp [hsplit, hne]

theorem Fate.upkeep (hupkeep : Holdings.Upkeep h entries h') {log : List Entry}
    (hf : Fate n h (traffic (Object.ofWindow n) log)) (hn : h.Numbered) :
    Fate n h' (traffic (Object.ofWindow n) (log ++ entries)) := by
  induction hupkeep generalizing log with
  | nothing => rwa [List.append_nil]
  | also first _ ih ihrest =>
    rw [← List.append_assoc]
    exact ihrest (ih hf hn) (hn.upkeep first)
  | heard => rwa [traffic_silent (by simp)]
  | bound =>
    rw [traffic_silent (List.forall_mem_singleton.mpr (by rfl))]
    exact hf.elsewhere rfl fun _ _ => Iff.rfl
  | answered =>
    rwa [traffic_silent (List.forall_mem_singleton.mpr (by rfl))]
  | @acknowledged h w there serial =>
    have hnews : ∀ r ∈ [Request.ackConfigure w.object serial],
        r.objects.any (Object.ofWindow n) = decide (w.object = n) ∧ r.ends = false := by
      simp [Request.objects, Request.target, Request.made?, Request.named?, Object.ofWindow,
        Request.ends]
    exact hf.used hn there hnews
  | shown there => exact hf.used hn there fun r hr => shows_about hr n
  | closed split => exact hf.closed hn split

/-- The next window is made whole. -/
theorem Fate.opened (hf : Fate n h (traffic (Object.ofWindow n) log)) (hn : h.Numbered)
    (version : UInt32) (compositor wmBase : Nat) (title appId : String) :
    Fate n
      { h with
        windows := h.windows ++ [⟨h.windowsMade, version⟩]
        windowsMade := h.windowsMade + 1 }
      (traffic (Object.ofWindow n) (log ++
        (opens ⟨h.windowsMade, version⟩ compositor wmBase title appId).map .sent)) := by
  by_cases hnumber : h.windowsMade = n
  · rw [traffic_all fun r hr => by simp [opens_about hr, hnumber]]
    refine .there ⟨h.windowsMade, version⟩ (List.mem_append_right _ List.mem_cons_self) hnumber ?_
    cases hf with
    | unmade _ silent =>
      rw [silent]
      exact ⟨version, compositor, wmBase, title, appId, [], by simp [hnumber], by simp⟩
    | there w held number => exact absurd (hn.older w held) (by omega)
    | gone early => exact absurd hnumber (Nat.ne_of_gt early)
  · rw [traffic_none fun r hr => by simp [opens_about hr, hnumber]]
    cases hf with
    | unmade late silent => exact .unmade (by simp; omega) silent
    | there w held number lives => exact .there w (List.mem_append_left _ held) number lives
    | gone early absent before lived closed =>
      refine .gone (Nat.lt_succ_of_lt early) (fun w hw => ?_) before lived closed
      rcases List.mem_append.mp hw with hw | hw
      · exact absent w hw
      · rw [List.mem_singleton.mp hw]
        exact hnumber

end Window

/-! ## Buffers -/

namespace Client

/-- The request that makes a buffer of the parameters it was described by. -/
def creation (n : Nat) (d : Dmabuf) : Request :=
  .createImmed n n d.width.toInt32 d.height.toInt32 d.fourcc.code (bufferFlags d.flags)

/-- What a request that makes a buffer is about: its parameters, and one of them the buffer. -/
theorem importRequests_about {dmabuf n : Nat} {d : Dmabuf} {r : Request}
    (hr : r ∈ importRequests dmabuf n d) (m : Nat) :
    r.objects.any (Object.ofWindow m) = false ∧
    r.objects.any (Object.isParams m) = decide (n = m) ∧
    (r.objects.any (Object.isBuffer m) = true → n = m ∧ r = creation n d) := by
  simp only [importRequests, List.cons_append, List.mem_cons, List.mem_append, List.mem_map,
    List.not_mem_nil, or_false] at hr
  rcases hr with rfl | ⟨p, -, rfl⟩ | rfl | rfl <;>
    simp [Request.objects, Request.target, Request.made?, Request.named?, Object.ofWindow,
      Object.isParams, Object.isBuffer, creation]

/-- One of them is about the buffer. -/
theorem importRequests_filter (dmabuf n : Nat) (d : Dmabuf) :
    (importRequests dmabuf n d).filter (·.objects.any (Object.isBuffer n)) = [creation n d] := by
  simp [importRequests, creation, Request.objects, Request.target, Request.made?, Request.named?,
    Object.isBuffer]

end Client

theorem Window.Fate.speaks {n : Nat} {h h' : Holdings} {log entries : List Entry}
    (hspeaks : h.Speaks entries h') (hf : Fate n h (traffic (Object.ofWindow n) log))
    (hn : h.Numbered) : Fate n h' (traffic (Object.ofWindow n) (log ++ entries)) := by
  cases hspeaks with
  | keeps upkeep => exact hf.upkeep upkeep hn
  | opened surfaces shell title appId => exact hf.opened hn _ _ _ _ _
  | imported =>
    rw [traffic_none fun r hr => (Client.importRequests_about hr n).1]
    exact hf.elsewhere rfl fun _ _ => Iff.rfl
  | destroyed =>
    rwa [traffic_silent (List.forall_mem_singleton.mpr (by rfl))]

/-- Every window has one of the fates at any time. -/
theorem Holdings.Transcript.fate {log : List Entry} {h : Holdings} (hlog : Transcript log h)
    (n : Nat) : Window.Fate n h (traffic (Object.ofWindow n) log) := by
  induction hlog with
  | start => exact .unmade (Nat.zero_le n) rfl
  | spoken before last ih => exact ih.speaks last before.numbered

/-- A request that makes no buffer and destroys none. -/
def Request.spares : Request → Bool
  | createParams .. | addPlane .. | createImmed .. | destroyParams _ | destroyBuffer _ => false
  | _ => true

/-- Such a request is about no parameters, and attaches a buffer if it is about one. -/
theorem Request.about_of_spares {r : Request} (h : r.spares = true) (b : Nat) :
    r.objects.any (Object.isParams b) = false ∧
    (r.objects.any (Object.isBuffer b) = true → ∃ s, r = .attach s b) := by
  cases r with
  | createParams | addPlane | createImmed | destroyParams | destroyBuffer =>
    exact absurd h (by simp [spares])
  | _ => simp [objects, target, made?, named?, Object.isParams, Object.isBuffer]

/-- What keeps things up makes no buffer and destroys none. -/
theorem Holdings.Upkeep.spares {h h' : Holdings} {entries : List Entry}
    (hupkeep : Upkeep h entries h') :
    h'.buffersMade = h.buffersMade ∧ ∀ r ∈ requests entries, r.spares = true := by
  induction hupkeep with
  | nothing | heard => exact ⟨rfl, fun r hr => absurd hr List.not_mem_nil⟩
  | also _ _ first rest =>
    rw [requests_append]
    exact ⟨rest.1.trans first.1, fun r hr =>
      (List.mem_append.mp hr).elim (first.2 r) (rest.2 r)⟩
  | bound | answered | acknowledged =>
    exact ⟨rfl, by simp [Request.spares]⟩
  | shown =>
    rw [requests_sent]
    refine ⟨rfl, fun r hr => ?_⟩
    simp only [Window.shows, List.cons_append, List.mem_cons, List.mem_append, List.not_mem_nil,
      or_false] at hr
    rcases hr with rfl | hr | rfl | rfl
    · rfl
    · split at hr
      · rw [List.mem_singleton.mp hr]
        rfl
      · exact absurd hr List.not_mem_nil
    all_goals rfl
  | closed =>
    rw [requests_sent]
    exact ⟨rfl, by simp [Window.closes, Request.spares]⟩

theorem Window.opens_spares (w : Window) (compositor wmBase : Nat) (title appId : String) :
    ∀ r ∈ w.opens compositor wmBase title appId, r.spares = true := by
  simp [opens, Request.spares]

/-- Nothing is said about a buffer and its parameters. -/
def Unmentioned (b : Nat) (news : List Entry) : Prop :=
  ∀ r ∈ requests news,
    r.objects.any (Object.isParams b) = false ∧ r.objects.any (Object.isBuffer b) = false

theorem Unmentioned.params {b : Nat} {news : List Entry} (h : Unmentioned b news)
    (log : List Entry) :
    traffic (Object.isParams b) (log ++ news) = traffic (Object.isParams b) log :=
  traffic_silent fun r hr => (h r hr).1

theorem Unmentioned.buffer {b : Nat} {news : List Entry} (h : Unmentioned b news)
    (log : List Entry) :
    traffic (Object.isBuffer b) (log ++ news) = traffic (Object.isBuffer b) log :=
  traffic_silent fun r hr => (h r hr).2

/-- The request that gives the parameters of a buffer one of its planes, with the halves of the
modifier. -/
def Client.addition (b : Nat) (m : Modifier) (p : Plane) : Request :=
  .addPlane b p.file p.index p.offset p.stride (m.value >>> 32).toUInt32 m.value.toUInt32

/-- The life of a buffer made of a dmabuf: its parameters were created, got all planes, made it and
were destroyed, and it was attached any number of times before it came to its end, if it did. -/
structure Lifetime (b : Nat) (d : Dmabuf) (ending : List Request) (log : List Entry) : Prop where
  params : ∃ dmabuf, traffic (Object.isParams b) log =
    [.createParams dmabuf b] ++ d.planes.map (Client.addition b d.modifier)
      ++ [Client.creation b d, .destroyParams b]
  uses : ∃ uses, (∀ r ∈ uses, ∃ s, r = .attach s b) ∧
    traffic (Object.isBuffer b) log = Client.creation b d :: (uses ++ ending)

namespace Lifetime

variable {b : Nat} {d : Dmabuf} {ending : List Request} {log news : List Entry}

theorem elsewhere (h : Lifetime b d ending log) (hnews : Unmentioned b news) :
    Lifetime b d ending (log ++ news) where
  params := by
    rw [hnews.params]
    exact h.params
  uses := by
    rw [hnews.buffer]
    exact h.uses

theorem used (h : Lifetime b d [] log) (hnews : ∀ r ∈ requests news, r.spares = true) :
    Lifetime b d [] (log ++ news) where
  params := by
    rw [traffic_silent fun r hr => (Request.about_of_spares (hnews r hr) b).1]
    exact h.params
  uses := by
    obtain ⟨uses, huses, htraffic⟩ := h.uses
    refine ⟨uses ++ traffic (Object.isBuffer b) news, fun r hr => ?_, ?_⟩
    · rcases List.mem_append.mp hr with hr | hr
      · exact huses r hr
      · obtain ⟨hsent, habout⟩ := List.mem_filter.mp hr
        exact (Request.about_of_spares (hnews r hsent) b).2 habout
    · rw [traffic_append, htraffic, List.append_nil, List.append_nil, List.cons_append]

theorem created (dmabuf : Nat) (hparams : traffic (Object.isParams b) log = [])
    (hbuffer : traffic (Object.isBuffer b) log = []) :
    Lifetime b d [] (log ++ (Client.importRequests dmabuf b d).map .sent) where
  params := by
    refine ⟨dmabuf, ?_⟩
    rw [traffic_all fun r hr => by simp [(Client.importRequests_about hr b).2.1], hparams,
      List.nil_append]
    rfl
  uses := by
    refine ⟨[], fun r hr => absurd hr List.not_mem_nil, ?_⟩
    rw [traffic_append, hbuffer, traffic, requests_sent, Client.importRequests_filter]
    rfl

theorem destroyed (h : Lifetime b d [] log) :
    Lifetime b d [.destroyBuffer b] (log ++ [.sent (.destroyBuffer b)]) where
  params := by
    rw [traffic_silent (List.forall_mem_singleton.mpr (by rfl))]
    exact h.params
  uses := by
    obtain ⟨uses, huses, htraffic⟩ := h.uses
    refine ⟨uses, huses, ?_⟩
    rw [traffic_append, htraffic]
    simp [traffic, Request.objects, Request.target, Request.made?, Request.named?,
      Object.isBuffer]

end Lifetime

end Scanout.Wayland
