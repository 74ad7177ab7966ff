import Scanout.Proofs.Dmabuf.Wires

/-!
# What a compositor is told of a buffer

A compositor is told of every plane of a dmabuf and then of the buffer they make. Most of that is
as it is in the dmabuf, whatever the dmabuf (`Told`). The compositor reads the size as signed
numbers, though, and knows four places for planes, each to be filled at most once, and an import
checks none of that: `told_truly_iff` says that what it hears is `Faithful` exactly if the dmabuf
is `Tellable` to begin with.
-/

namespace Scanout.Wayland

/-- What a compositor is told of a buffer as a whole. -/
structure BufferTold where
  width : Int32
  height : Int32
  format : UInt32
  flags : BufferFlags
  deriving DecidableEq, Repr

/-- The buffer a request makes. -/
def Request.bufferTold? : Request → Option BufferTold
  | createImmed _ _ width height format flags => some ⟨width, height, format, flags⟩
  | _ => none

/-- The object that collects the planes, for a request that concerns one. -/
def Request.params? : Request → Option Nat
  | createParams _ params | addPlane params .. | createImmed params .. | destroyParams params =>
    some params
  | _ => none

/-- The plane that a compositor is told of. -/
def PlaneTold.plane (told : PlaneTold) : Plane :=
  ⟨told.file, told.index, told.offset, told.stride⟩

/-- What is told of any dmabuf: its planes one by one, and a buffer of them with the format and the
flags of the dmabuf. -/
structure Told (d : Dmabuf) (sent : List Request) (told : BufferTold) : Prop where
  /-- One object is told of it all. -/
  params : ∃ params, ∀ request ∈ sent, request.params? = some params
  planes : (sent.filterMap Request.plane?).map PlaneTold.plane = d.planes
  modifier : ∀ plane ∈ sent.filterMap Request.plane?,
    plane.high.toNat * 2 ^ 32 + plane.low.toNat = d.modifier.value.toNat
  buffer : sent.filterMap Request.bufferTold? = [told]
  format : told.format = d.fourcc.code
  yInvert : told.flags.yInvert = d.flags.yInvert
  interlaced : told.flags.interlaced = d.flags.interlaced
  bottomFirst : told.flags.bottomFirst = d.flags.bottomFirst
  /-- The words of the size are right, if they are read as unsigned numbers. -/
  words : told.width.toUInt32 = d.width ∧ told.height.toUInt32 = d.height

/-- What is told is what is true of the dmabuf, and what a compositor allows. -/
structure Faithful (d : Dmabuf) (sent : List Request) (told : BufferTold) : Prop
    extends Told d sent told where
  width : told.width.toInt = d.width.toNat
  height : told.height.toInt = d.height.toNat
  places : ∀ plane ∈ sent.filterMap Request.plane?, plane.index.toNat < Dmabuf.maxPlanes
  once : ((sent.filterMap Request.plane?).map (·.index)).Nodup

/-- A dmabuf that a compositor can be told of. -/
structure Tellable (d : Dmabuf) : Prop where
  width : d.width.toNat < 2 ^ 31
  height : d.height.toNat < 2 ^ 31
  places : ∀ plane ∈ d.planes, plane.index.toNat < Dmabuf.maxPlanes
  once : (d.planes.map (·.index)).Nodup

/-- A word stays what it is as a signed number exactly if its highest bit is not set. -/
theorem toInt_toInt32 (n : UInt32) : n.toInt32.toInt = n.toNat ↔ n.toNat < 2 ^ 31 := by
  rw [toInt_toInt32_eq]
  split <;> omega

section

variable (dmabuf params : Nat) (d : Dmabuf)

theorem importRequests_params :
    ∀ request ∈ Client.importRequests dmabuf params d, request.params? = some params := by
  intro request h
  simp only [Client.importRequests, List.mem_append, List.mem_cons, List.mem_map,
    List.not_mem_nil, or_false] at h
  rcases h with (rfl | ⟨plane, -, rfl⟩) | rfl | rfl <;> rfl

theorem importRequests_buffer :
    (Client.importRequests dmabuf params d).filterMap Request.bufferTold?
      = [⟨d.width.toInt32, d.height.toInt32, d.fourcc.code, Client.bufferFlags d.flags⟩] := by
  have hplanes : (d.planes.map fun p : Plane => Request.addPlane params p.file p.index p.offset
      p.stride d.modifier.split.1 d.modifier.split.2).filterMap Request.bufferTold? = [] := by
    rw [List.filterMap_map]
    exact List.filterMap_eq_nil_iff.mpr fun _ _ => rfl
  simp only [Client.importRequests, List.filterMap_append, List.filterMap_cons, Request.bufferTold?,
    hplanes, List.filterMap_nil, List.nil_append]

/-- What is told of any dmabuf at all. -/
theorem importRequests_told :
    Told d (Client.importRequests dmabuf params d)
      ⟨d.width.toInt32, d.height.toInt32, d.fourcc.code, Client.bufferFlags d.flags⟩ where
  params := ⟨params, importRequests_params dmabuf params d⟩
  planes := by
    rw [importRequests_planes, List.map_map]
    exact List.map_id' d.planes
  modifier := by
    intro told htold
    rw [importRequests_planes] at htold
    obtain ⟨plane, -, rfl⟩ := List.mem_map.mp htold
    rw [← Modifier.join_toNat]
    exact congrArg (·.value.toNat) d.modifier.join_split
  buffer := importRequests_buffer dmabuf params d
  format := rfl
  yInvert := rfl
  interlaced := rfl
  bottomFirst := rfl
  words := ⟨rfl, rfl⟩

/-- What is told is true and allowed exactly if the dmabuf can be told of. -/
theorem importRequests_faithful_iff :
    (∃ told, Faithful d (Client.importRequests dmabuf params d) told) ↔ Tellable d := by
  have hplaces : (∀ told ∈ (Client.importRequests dmabuf params d).filterMap Request.plane?,
      told.index.toNat < Dmabuf.maxPlanes) ↔
      ∀ plane ∈ d.planes, plane.index.toNat < Dmabuf.maxPlanes := by
    rw [importRequests_planes, List.forall_mem_map]
    rfl
  have honce : ((Client.importRequests dmabuf params d).filterMap Request.plane?).map (·.index)
      = d.planes.map (·.index) := by
    rw [importRequests_planes, List.map_map]
    rfl
  constructor
  · rintro ⟨told, h⟩
    obtain rfl : _ = told := by simpa [importRequests_buffer] using h.buffer
    exact ⟨(toInt_toInt32 d.width).mp h.width, (toInt_toInt32 d.height).mp h.height,
      hplaces.mp h.places, honce ▸ h.once⟩
  · intro h
    exact ⟨_, importRequests_told dmabuf params d, (toInt_toInt32 d.width).mpr h.width,
      (toInt_toInt32 d.height).mpr h.height, hplaces.mpr h.places, honce ▸ h.once⟩

end

theorem Client.attach_isOk_iff (c : Client) (image : Image) :
    (c.attach image).1.isOk = true ↔ c.Tells image := by
  refine ⟨fun h => ?_, fun h => h.attach_isOk⟩
  unfold attach at h
  split at h
  · exact absurd h (by simp [Except.isOk, Except.toBool])
  next hconnected =>
  split at h
  · exact absurd h (by simp [Except.isOk, Except.toBool])
  next hshown =>
  split at h
  · exact absurd h (by simp [Except.isOk, Except.toBool])
  next dmabuf hbound =>
  exact ⟨by simpa using hconnected, by simpa [Option.isSome_iff_ne_none] using hshown,
    by simp [hbound]⟩

/-- **What a compositor hears of a buffer is true, as far as the compositor can be told.** Of every
image that is imported it hears what is `Told`. Either an import fails and nothing was sent, or what
was sent is true and allowed: that is so exactly if the compositor takes no such image or the size
of the buffer is small enough for signed numbers and its planes have different places below
four. -/
theorem told_truly_iff (c : Client) (image : Image) :
    let result := (c.attach image).1
    let sent := (c.attach image).2.1
    (result.isOk = true → ∃ told, Told image.dmabuf sent told) ∧
    (((∃ e, result = .error e ∧ sent = []) ∨
        (result.isOk = true ∧ ∃ told, Faithful image.dmabuf sent told)) ↔
      (c.Tells image → Tellable image.dmabuf)) := by
  intro result sent
  rcases c.attach_refused_or_made image with ⟨e, hattach⟩ | ⟨dmabuf, -, hattach⟩
  · have hresult : result = .error e := congrArg Prod.fst hattach
    have hfailed : ¬ result.isOk = true := by simp [hresult, Except.isOk, Except.toBool]
    have hsent : sent = [] := congrArg (·.2.1) hattach
    refine ⟨fun hok => absurd hok hfailed, iff_of_true (.inl ⟨e, hresult, hsent⟩) fun htells => ?_⟩
    exact absurd htells.attach_isOk hfailed
  · have hok : result.isOk = true := congrArg (·.1.isOk) hattach
    have hsent : sent = Client.importRequests dmabuf.object c.buffersMade image.dmabuf :=
      congrArg (·.2.1) hattach
    have hnone : ¬ ∃ e, result = .error e ∧ sent = [] := by
      rintro ⟨e, he, -⟩
      exact absurd hok (by simp [he, Except.isOk, Except.toBool])
    rw [or_iff_right hnone, and_iff_right hok, hsent, importRequests_faithful_iff,
      imp_iff_right ((c.attach_isOk_iff image).mp hok)]
    exact ⟨fun _ => ⟨_, importRequests_told dmabuf.object c.buffersMade image.dmabuf⟩, Iff.rfl⟩

/-- A buffer whose width is too large for a signed number. -/
def vastBuffer : Dmabuf :=
  { width := 0x80000000, height := 64, format := ⟨.xrgb8888, .linear⟩, flags := .none
    planes := [⟨.null, 0, 0, 256⟩] }

/-- A buffer of two planes with one place between them, and no such place at that. -/
def misplacedBuffer : Dmabuf :=
  { width := 64, height := 64, format := ⟨.xrgb8888, .linear⟩, flags := .none
    planes := [⟨.null, 7, 0, 256⟩, ⟨.null, 7, 16384, 256⟩] }

/-- Both are told of, the one with a negative width, the other with a place that does not exist and
is filled twice. -/
theorem vast_and_misplaced_told :
    vastBuffer.Built ∧ misplacedBuffer.Built ∧
    (freshClient.formats.get? Fourcc.xrgb8888).isSome = true ∧
    (freshClient.attach { Image.numbered 0 with dmabuf := vastBuffer }).2.1
      = [.createParams 0 0, .addPlane 0 .null 0 0 256 0 0,
        .createImmed 0 0 (-2147483648) 64 Fourcc.xrgb8888.code ⟨false, false, false⟩,
        .destroyParams 0] ∧
    (freshClient.attach { Image.numbered 0 with dmabuf := misplacedBuffer }).2.1
      = [.createParams 0 0, .addPlane 0 .null 7 0 256 0 0, .addPlane 0 .null 7 16384 256 0 0,
        .createImmed 0 0 64 64 Fourcc.xrgb8888.code ⟨false, false, false⟩, .destroyParams 0] := by
  exact ⟨by decide, by decide, by decide, by decide +kernel, by decide +kernel⟩

end Scanout.Wayland
