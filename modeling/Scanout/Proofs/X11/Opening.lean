import Scanout.Proofs.Pixel.Additions
import Scanout.Proofs.X11.Handover

/-!
# How the opening of a session ends

A server is asked for three extensions, one after the other, and each has to be there in a version
that is high enough. `Reports` is what it says of one, `Checked` how the check of one ends and
`Short` that an extension is the first that will not do. The rest of the opening is sequenced from
what its parts say and how they end (`Dialog.Ends`), so that `openSession_opening` lists the ways
the whole can end: an extension falls short, something else goes wrong after the extensions were
found in order, or there is a session. That session knows the version the server reported, and its
formats are those the server was asked for, if it could be asked.
-/

namespace Scanout.X11

variable {α β : Type}

/-! ## Dialogs -/

namespace Dialog

/-- Whatever was said before, this is true of how the dialog ends and of what is said in it. -/
def Ends (d : Dialog α) (p : Except Error α → List Request → Prop) : Prop :=
  ∀ sent, ∃ result said, d.run.run sent = (result, sent ++ said) ∧ p result said

theorem Ends.imp {d : Dialog α} {p q : Except Error α → List Request → Prop} (h : d.Ends p)
    (himp : ∀ result said, p result said → q result said) : d.Ends q := by
  intro sent
  obtain ⟨result, said, hrun, hp⟩ := h sent
  exact ⟨result, said, hrun, himp result said hp⟩

theorem ends_pure (a : α) :
    (pure a : Dialog α).Ends fun result said => result = .ok a ∧ said = [] :=
  fun sent => ⟨.ok a, [], by rw [List.append_nil]; rfl, rfl, rfl⟩

theorem ends_throw (e : Error) :
    (throw e : Dialog α).Ends fun result said => result = .error e ∧ said = [] :=
  fun sent => ⟨.error e, [], by rw [List.append_nil]; rfl, rfl, rfl⟩

theorem ends_say (requests : List Request) :
    (modify (· ++ requests) : Dialog Unit).Ends fun result said =>
      result = .ok () ∧ said = requests :=
  fun _ => ⟨.ok (), requests, rfl, rfl, rfl⟩

theorem ends_ask (answer : Request → Reply) (r : Request) :
    (ask answer r).Ends fun result said => result = .ok (answer r) ∧ said = [r] :=
  fun _ => ⟨.ok (answer r), [r], rfl, rfl, rfl⟩

/-- One dialog after the other: an error ends both, and otherwise what is said adds up. -/
theorem Ends.bind {first : Dialog α} {next : α → Dialog β}
    {p : Except Error α → List Request → Prop} {q : Except Error β → List Request → Prop}
    (hfirst : first.Ends p) (herror : ∀ e said, p (.error e) said → q (.error e) said)
    (hnext : ∀ a said, p (.ok a) said → (next a).Ends fun result more => q result (said ++ more)) :
    (first >>= next).Ends q := by
  intro sent
  obtain ⟨result, said, hrun, hp⟩ := hfirst sent
  cases result with
  | error e =>
    refine ⟨.error e, said, ?_, herror e said hp⟩
    rw [ExceptT.run_bind, StateT.run_bind, hrun]
    rfl
  | ok a =>
    obtain ⟨result', more, hrun', hq⟩ := hnext a said hp (sent ++ said)
    refine ⟨result', said ++ more, ?_, hq⟩
    rw [ExceptT.run_bind, StateT.run_bind, hrun, ← List.append_assoc]
    exact hrun'

end Dialog

open Dialog

/-! ## One extension -/

/-- All extensions, in the order they are asked for. -/
def Extension.all : List Extension := [.present, .xfixes, .dri3]

/-- What a server says of an extension: that it is not there, or its version. -/
def Reports (answer : Request → Reply) (e : Extension) : Option Version → Prop
  | none => answer (.queryExtension e.name) = .extension false
  | some v =>
    answer (.queryExtension e.name) = .extension true ∧ answer (.queryVersion e) = .version v

/-- The extension is there in a version that is high enough. -/
def Usable (answer : Request → Reply) (e : Extension) : Prop :=
  ∃ v, Reports answer e (some v) ∧ e.minimum.numbers ≤ v.numbers

/-- How the check of an extension ends. -/
inductive Checked (answer : Request → Reply) (e : Extension) : Except Error Version → Prop where
  | usable {v : Version} (reported : Reports answer e (some v))
      (enough : e.minimum.numbers ≤ v.numbers) : Checked answer e (.ok v)
  | missing (reported : Reports answer e none) :
      Checked answer e (.error (.missingExtension e none))
  | old {v : Version} (reported : Reports answer e (some v))
      (short : v.numbers < e.minimum.numbers) :
      Checked answer e (.error (.missingExtension e (some v)))
  /-- The server does not say. -/
  | unanswered (silent : ∀ available, ¬ Reports answer e available) :
      Checked answer e (.error .protocol)

/-- A request about an extension as such. -/
def Request.probes (r : Request) : Prop :=
  ∃ e : Extension, r = .queryExtension e.name ∨ r = .queryVersion e

variable {answer : Request → Reply}

/-- A server says one thing of an extension. -/
theorem Reports.unique {e : Extension} {available other : Option Version}
    (h : Reports answer e available) (h' : Reports answer e other) : available = other := by
  cases available <;> cases other <;> simp_all [Reports]

theorem checkExtension_ends (answer : Request → Reply) (e : Extension) :
    (checkExtension answer e).Ends fun result said =>
      Checked answer e result ∧ ∀ r ∈ said, r.probes := by
  refine (ends_ask answer _).bind (fun _ _ h => absurd h.1 (by simp)) ?_
  rintro _ _ ⟨hreply, rfl⟩
  obtain rfl := Except.ok.inj hreply
  have hname : ∀ r ∈ [Request.queryExtension e.name] ++ [], r.probes :=
    fun r hr => ⟨e, .inl (List.mem_singleton.mp hr)⟩
  split
  next hpresent =>
    refine (ends_ask answer _).bind (fun _ _ h => absurd h.1 (by simp)) ?_
    rintro _ _ ⟨hreply, rfl⟩
    obtain rfl := Except.ok.inj hreply
    have hboth : ∀ r ∈ [Request.queryExtension e.name] ++ ([.queryVersion e] ++ []), r.probes := by
      intro r hr
      simp only [List.append_nil, List.mem_append, List.mem_singleton] at hr
      exact ⟨e, hr⟩
    split
    next v hversion =>
      split
      next henough =>
        refine (ends_pure v).imp ?_
        rintro _ _ ⟨rfl, rfl⟩
        exact ⟨.usable ⟨hpresent, hversion⟩ ((v.atLeast_iff e.minimum).mp henough), hboth⟩
      next hshort =>
        refine (ends_throw _).imp ?_
        rintro _ _ ⟨rfl, rfl⟩
        have hlow := not_le.mp (mt (v.atLeast_iff e.minimum).mpr hshort)
        exact ⟨.old ⟨hpresent, hversion⟩ hlow, hboth⟩
    next hother =>
      refine (ends_throw _).imp ?_
      rintro _ _ ⟨rfl, rfl⟩
      refine ⟨.unanswered fun available h => ?_, hboth⟩
      cases available with
      | none => simp [Reports, hpresent] at h
      | some v => exact hother v h.2
  next habsent =>
    refine (ends_throw _).imp ?_
    rintro _ _ ⟨rfl, rfl⟩
    exact ⟨.missing habsent, hname⟩
  next hpresent habsent =>
    refine (ends_throw _).imp ?_
    rintro _ _ ⟨rfl, rfl⟩
    refine ⟨.unanswered fun available h => ?_, hname⟩
    cases available with
    | none => exact habsent h
    | some v => exact hpresent h.1

/-- A check that ends well found the extension usable. -/
theorem Checked.usable_of_ok {e : Extension} {v : Version} (h : Checked answer e (.ok v)) :
    Usable answer e ∧ Reports answer e (some v) := by
  cases h with
  | usable reported enough => exact ⟨⟨v, reported, enough⟩, reported⟩

theorem Checked.not_usable {e : Extension} {error : Error} (h : Checked answer e (.error error)) :
    ¬ Usable answer e := by
  rintro ⟨v, hreported, henough⟩
  cases h with
  | missing reported => exact absurd (hreported.unique reported) (by simp)
  | old reported short =>
    obtain rfl := Option.some.inj (hreported.unique reported)
    exact not_lt.mpr henough short
  | unanswered silent => exact silent _ hreported

/-- The extension is the first that will not do: those before it are usable, and the server says
that it is not there, or reports a version that is too low. -/
structure Short (answer : Request → Reply) (e : Extension) (available : Option Version) : Prop where
  before : ∀ other ∈ Extension.all.takeWhile (· ≠ e), Usable answer other
  reported : Reports answer e available
  low : ∀ v, available = some v → v.numbers < e.minimum.numbers

/-- If a server says of every extension how it stands, all are usable or one is the first that
will not do. -/
theorem usable_or_short (hreports : ∀ e, ∃ available, Reports answer e available) :
    (∀ e, Usable answer e) ∨ ∃ e available, Short answer e available := by
  have hone (e : Extension) : Usable answer e ∨ ∃ available, Reports answer e available ∧
      ∀ v, available = some v → v.numbers < e.minimum.numbers := by
    obtain ⟨_ | v, hreported⟩ := hreports e
    · exact .inr ⟨none, hreported, by simp⟩
    · rcases le_or_gt e.minimum.numbers v.numbers with henough | hlow
      · exact .inl ⟨v, hreported, henough⟩
      · refine .inr ⟨some v, hreported, fun other hother => ?_⟩
        rwa [← Option.some.inj hother]
  rcases hone .present with hpresent | ⟨available, hreported, hlow⟩
  · rcases hone .xfixes with hxfixes | ⟨available, hreported, hlow⟩
    · rcases hone .dri3 with hdri3 | ⟨available, hreported, hlow⟩
      · refine .inl fun e => ?_
        cases e <;> assumption
      · exact .inr ⟨.dri3, available, by simp [Extension.all, hpresent, hxfixes], hreported, hlow⟩
    · exact .inr ⟨.xfixes, available, by simp [Extension.all, hpresent], hreported, hlow⟩
  · exact .inr ⟨.present, available, by simp [Extension.all], hreported, hlow⟩

/-! ## The rest of the opening -/

/-- A server whose extension has the version knows the request: it can be asked for layouts and be
told one from 1.2 on, and before that takes single planes. -/
def Request.Suits (dri3 : Version) : Request → Prop
  | .getSupportedModifiers .. | .pixmapFromBuffers .. => toLex (1, 2) ≤ dri3.numbers
  | .pixmapFromBuffer .. => dri3.numbers < toLex (1, 2)
  | _ => True

/-- The formats are those of the layouts a screen has, if the server can be asked for them. -/
structure Shows (answer : Request → Reply) (screen : Nat) (dri3 : Version) (formats : FormatSet) :
    Prop where
  asked : toLex (1, 2) ≤ dri3.numbers → ∃ window layouts,
    answer (.getSupportedModifiers screen 24 32) = .modifiers window layouts ∧
      formats = supportedFormats layouts
  unasked : dri3.numbers < toLex (1, 2) → formats = supportedFormats []

/-- A part of the opening that asks for nothing the server does not know and blames no extension,
and with what it ends if it ends well. -/
structure Proper (dri3 : Version) (p : α → Prop) (result : Except Error α) (said : List Request) :
    Prop where
  suits : ∀ r ∈ said, r.Suits dri3
  other : ∀ e available, result ≠ .error (.missingExtension e available)
  good : ∀ a, result = .ok a → p a

section

variable {dri3 : Version} {p : α → Prop} {q : β → Prop}

theorem proper_pure {a : α} (h : p a) : (pure a : Dialog α).Ends (Proper dri3 p) := by
  refine (ends_pure a).imp ?_
  rintro _ _ ⟨rfl, rfl⟩
  exact ⟨by simp, by simp, fun _ h' => Except.ok.inj h' ▸ h⟩

theorem proper_throw {error : Error} (h : ∀ e available, error ≠ .missingExtension e available) :
    (throw error : Dialog α).Ends (Proper dri3 p) := by
  refine (ends_throw error).imp ?_
  rintro _ _ ⟨rfl, rfl⟩
  exact ⟨by simp, fun e available h' => h e available (Except.error.inj h'), by simp⟩

theorem proper_say {requests : List Request} (h : ∀ r ∈ requests, r.Suits dri3) :
    (modify (· ++ requests) : Dialog Unit).Ends (Proper dri3 fun _ => True) := by
  refine (ends_say requests).imp ?_
  rintro _ _ ⟨rfl, rfl⟩
  exact ⟨h, by simp, fun _ _ => trivial⟩

theorem proper_ask {r : Request} (h : r.Suits dri3) :
    (ask answer r).Ends (Proper dri3 (· = answer r)) := by
  refine (ends_ask answer r).imp ?_
  rintro _ _ ⟨rfl, rfl⟩
  exact ⟨by simpa using h, by simp, fun _ h' => (Except.ok.inj h').symm⟩

theorem proper_bind {first : Dialog α} {next : α → Dialog β} (hfirst : first.Ends (Proper dri3 p))
    (hnext : ∀ a, p a → (next a).Ends (Proper dri3 q)) :
    (first >>= next).Ends (Proper dri3 q) := by
  refine hfirst.bind (fun e said h => ⟨h.suits, fun e' available h' => ?_, by simp⟩)
    fun a said h => (hnext a (h.good a rfl)).imp fun result more h' =>
      ⟨List.forall_mem_append.mpr ⟨h.suits, h'.suits⟩, h'.other, h'.good⟩
  exact h.other e' available (congrArg Except.error (Except.error.inj h'))

end

/-- A request of no particular version. -/
theorem Request.probes.suits {r : Request} (h : r.probes) (dri3 : Version) : r.Suits dri3 := by
  obtain ⟨e, rfl | rfl⟩ := h <;> trivial

theorem internAtoms_ends (answer : Request → Reply) (dri3 : Version) :
    (internAtoms answer).Ends fun result said =>
      Proper dri3 (fun _ => True) result said ∧ ∀ atom, .internAtom atom ∈ said := by
  refine (ends_say _).bind (fun _ _ h => absurd h.1 (by simp)) ?_
  rintro _ _ ⟨-, rfl⟩
  have hsuits : ∀ r ∈ Atom.all.map Request.internAtom ++ [], r.Suits dri3 := by
    rw [List.append_nil]
    exact List.forall_mem_map.mpr fun _ _ => trivial
  have hatoms (atom : Atom) : .internAtom atom ∈ Atom.all.map Request.internAtom ++ [] := by
    cases atom <;> decide
  split
  · refine (ends_pure _).imp ?_
    rintro _ _ ⟨rfl, rfl⟩
    exact ⟨⟨hsuits, by simp, fun _ _ => trivial⟩, hatoms⟩
  · refine (ends_throw _).imp ?_
    rintro _ _ ⟨rfl, rfl⟩
    exact ⟨⟨hsuits, by simp, by simp⟩, hatoms⟩

theorem openRenderNode_ends (answer : Request → Reply) (screen : Nat) (dri3 : Version) :
    (openRenderNode answer screen).Ends (Proper dri3 fun _ => True) := by
  refine proper_bind (proper_ask trivial) fun reply _ => ?_
  split
  · exact proper_pure trivial
  · refine proper_throw fun e available h => ?_
    split at h <;> cases h
  · exact proper_throw (by simp)

theorem queryFormats_ends (answer : Request → Reply) (dri3 : Version) (screen : Nat) :
    (queryFormats answer dri3 screen).Ends (Proper dri3 (Shows answer screen dri3)) := by
  unfold queryFormats
  split
  next hmodern =>
    have hmodern : toLex (1, 2) ≤ dri3.numbers := (dri3.atLeast_iff modifierVersion).mp hmodern
    refine proper_bind (proper_ask hmodern) fun reply hreply => ?_
    split
    next window layouts =>
      exact proper_pure ⟨fun _ => ⟨window, layouts, hreply.symm, rfl⟩,
        fun hold => absurd hmodern (not_le.mpr hold)⟩
    next => exact proper_throw (by simp)
  next hold =>
    have hold : dri3.numbers < toLex (1, 2) :=
      not_le.mp (mt (dri3.atLeast_iff modifierVersion).mpr hold)
    exact proper_pure ⟨fun hmodern => absurd hmodern (not_le.mpr hold), fun _ => rfl⟩

/-- The ways the opening of a session can end, with what was said in it. -/
inductive Opening (answer : Request → Reply) (screen : Nat) :
    Except Error Session → List Request → Prop where
  /-- The first extension that is not usable ends it. -/
  | barred {e : Extension} {error : Error} {said : List Request}
      (before : ∀ other ∈ Extension.all.takeWhile (· ≠ e), Usable answer other)
      (checked : Checked answer e (.error error)) (probing : ∀ r ∈ said, r.probes) :
      Opening answer screen (.error error) said
  /-- All extensions are usable, and something else goes wrong. -/
  | failed {error : Error} {said : List Request} (usable : ∀ e, Usable answer e)
      (other : ∀ e available, error ≠ .missingExtension e available)
      (interned : ∀ atom, .internAtom atom ∈ said) :
      Opening answer screen (.error error) said
  | opened {session : Session} {said : List Request} (usable : ∀ e, Usable answer e)
      (reported : Reports answer .dri3 (some session.dri3))
      (shows : Shows answer screen session.dri3 session.formats)
      (interned : ∀ atom, .internAtom atom ∈ said) (suits : ∀ r ∈ said, r.Suits session.dri3) :
      Opening answer screen (.ok session) said

theorem openSession_opening (answer : Request → Reply) (screen : Nat) (ids : ResourceIds) :
    (openSession answer screen ids).Ends (Opening answer screen) := by
  refine (checkExtension_ends answer .present).bind ?_ ?_
  · rintro error said ⟨hchecked, hprobing⟩
    exact .barred (by simp [Extension.all]) hchecked hprobing
  rintro _ said₁ ⟨hchecked₁, hprobing₁⟩
  have hpresent := hchecked₁.usable_of_ok.1
  refine (checkExtension_ends answer .xfixes).bind ?_ ?_
  · rintro error said ⟨hchecked, hprobing⟩
    exact .barred (by simp [Extension.all, hpresent]) hchecked
      (List.forall_mem_append.mpr ⟨hprobing₁, hprobing⟩)
  rintro _ said₂ ⟨hchecked₂, hprobing₂⟩
  have hxfixes := hchecked₂.usable_of_ok.1
  refine (checkExtension_ends answer .dri3).bind ?_ ?_
  · rintro error said ⟨hchecked, hprobing⟩
    exact .barred (by simp [Extension.all, hpresent, hxfixes]) hchecked
      (List.forall_mem_append.mpr ⟨hprobing₁, List.forall_mem_append.mpr ⟨hprobing₂, hprobing⟩⟩)
  rintro dri3 said₃ ⟨hchecked₃, hprobing₃⟩
  obtain ⟨hdri3, hreported⟩ := hchecked₃.usable_of_ok
  have husable (e : Extension) : Usable answer e := by cases e <;> assumption
  -- With the extensions in order, nothing is asked that the server does not know.
  refine (internAtoms_ends answer dri3).bind ?_ ?_
  · rintro error said ⟨hproper, hatoms⟩
    refine .failed husable (fun e available h => ?_) fun atom => ?_
    · exact hproper.other e available (congrArg Except.error h)
    · simp [hatoms atom]
  rintro _ said₄ ⟨hproper₄, hatoms⟩
  refine Ends.imp (p := Proper dri3 fun session : Session =>
    session.dri3 = dri3 ∧ Shows answer screen dri3 session.formats) ?_ ?_
  · refine proper_bind (openRenderNode_ends answer screen dri3) fun renderNode _ => ?_
    refine proper_bind (queryFormats_ends answer dri3 screen) fun formats hshows => ?_
    have hasks : ∀ r ∈ ids.fresh.2.1, r.Suits dri3 :=
      fun r hr => ids.fresh_asks r hr ▸ trivial
    refine proper_bind (proper_say hasks) fun _ _ => ?_
    split
    · exact proper_throw (by simp)
    · refine proper_bind (proper_say (by simp [Request.Suits])) fun _ _ => ?_
      exact proper_pure ⟨rfl, hshows⟩
  · intro result said₅ hproper
    have hatoms (atom : Atom) :
        .internAtom atom ∈ said₁ ++ (said₂ ++ (said₃ ++ (said₄ ++ said₅))) := by
      simp [hatoms atom]
    cases result with
    | error error =>
      exact .failed husable (fun e available h => hproper.other e available (congrArg _ h)) hatoms
    | ok session =>
      obtain ⟨rfl, hshows⟩ := hproper.good session rfl
      refine .opened husable hreported hshows hatoms ?_
      have hprobing : ∀ r ∈ said₁ ++ (said₂ ++ said₃), r.Suits session.dri3 := fun r hr =>
        Request.probes.suits (List.forall_mem_append.mpr
          ⟨hprobing₁, List.forall_mem_append.mpr ⟨hprobing₂, hprobing₃⟩⟩ r hr) _
      have hrest := List.forall_mem_append.mpr ⟨hproper₄.suits, hproper.suits⟩
      simpa only [List.append_assoc] using List.forall_mem_append.mpr ⟨hprobing, hrest⟩

end Scanout.X11
