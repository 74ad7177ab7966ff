import Mathlib.Algebra.GroupWithZero.Nat
import Scanout.Proofs.Display.Kinds
import Scanout.Proofs.Dmabuf.Planes
import Scanout.Proofs.Pixel.FormatSets
import Scanout.Proofs.X11.Connection

/-!
# A buffer on two wires

An X server is handed the planes of a buffer by position, four places of each kind with the unused
ones zero, and the modifier as one word. A Wayland compositor is told of one plane after the other,
each with its index and both halves of the modifier. `wires_agree` says that these are two
descriptions of the same buffer, in whatever order the planes were added: the builder sorts them, so
the position of a plane is its index, and the halves of a modifier are the modifier.
-/

namespace Scanout

/-! ## The halves of a modifier -/

namespace Modifier

theorem join_toNat (high low : UInt32) :
    (join high low).value.toNat = high.toNat * 2 ^ 32 + low.toNat := by
  have hhigh := high.toNat_lt
  have hfits : high.toNat <<< 32 < 2 ^ 64 := by
    rw [Nat.shiftLeft_eq]
    omega
  rw [join, UInt64.toNat_or, UInt64.toNat_shiftLeft, UInt32.toNat_toUInt64, UInt32.toNat_toUInt64,
    show (32 : UInt64).toNat % 64 = 32 from rfl, Nat.mod_eq_of_lt hfits,
    ← Nat.shiftLeft_add_eq_or_of_lt low.toNat_lt, Nat.shiftLeft_eq]

theorem split_toNat (m : Modifier) :
    m.split.1.toNat = m.value.toNat / 2 ^ 32 ∧ m.split.2.toNat = m.value.toNat % 2 ^ 32 := by
  have hvalue := m.value.toNat_lt
  refine ⟨?_, UInt64.toNat_toUInt32 _⟩
  rw [split, UInt64.toNat_toUInt32, UInt64.toNat_shiftRight, Nat.shiftRight_eq_div_pow,
    show (32 : UInt64).toNat % 64 = 32 from rfl]
  omega

/-- Two words sent as halves come back as they were. -/
theorem split_join (high low : UInt32) : (join high low).split = (high, low) := by
  obtain ⟨hhigh, hlow⟩ := split_toNat (join high low)
  have hbound := low.toNat_lt
  rw [join_toNat] at hhigh hlow
  refine Prod.ext (UInt32.toNat_inj.mp ?_) (UInt32.toNat_inj.mp ?_)
  · show (join high low).split.1.toNat = high.toNat
    omega
  · show (join high low).split.2.toNat = low.toNat
    omega

/-- A modifier is the word its halves make. -/
theorem join_split (m : Modifier) : join m.split.1 m.split.2 = m := by
  obtain ⟨hhigh, hlow⟩ := split_toNat m
  have hnat := join_toNat m.split.1 m.split.2
  rw [hhigh, hlow] at hnat
  have hvalue : (join m.split.1 m.split.2).value = m.value := UInt64.toNat_inj.mp (by omega)
  exact congrArg Modifier.mk hvalue

end Modifier

/-! ## The two descriptions -/

namespace X11

/-- What an X server is told of the layout of a buffer. -/
structure BufferLayout where
  files : List DeviceFile
  strides : List UInt32
  offsets : List UInt32
  modifier : Modifier
  deriving DecidableEq, Repr

/-- The layout of a dmabuf, four places of each kind. -/
def BufferLayout.of (d : Dmabuf) : BufferLayout :=
  ⟨d.files, padded d.strides, padded d.offsets, d.modifier⟩

/-- The layout a request tells, if it hands over a buffer with its layout. -/
def Request.layout? : Request → Option BufferLayout
  | pixmapFromBuffers _ _ files _ _ strides offsets _ _ modifier =>
    some ⟨files, strides, offsets, modifier⟩
  | _ => none

/-- The server can be told layouts, and it takes the image: it shows the format, the size can be
told, an identifier is left for the pixmap, and the connection takes the request and its files. -/
structure Client.Tells (c : Client) (image : Image) : Prop where
  connected : c.registry.disconnected = false
  shown : (c.session.formats.get? image.format.code).isSome
  layouts : c.session.dri3.atLeast modifierVersion
  known : image.dmabuf.fourcc.layout?.isSome
  width : image.dmabuf.width.toNat < UInt16.size
  height : image.dmabuf.height.toNat < UInt16.size
  identifier : c.session.ids.fresh.1.isSome
  files : c.session.connection.duplicateAll image.dmabuf.files.length = .ok ()
  written : ∀ request, c.session.connection.write request = .ok ()

end X11

namespace Wayland

/-- What a compositor is told of one plane. -/
structure PlaneTold where
  file : DeviceFile
  index : UInt32
  offset : UInt32
  stride : UInt32
  high : UInt32
  low : UInt32
  deriving DecidableEq, Repr

/-- The plane a request tells of, if it is about one. -/
def Request.plane? : Request → Option PlaneTold
  | addPlane _ file index offset stride high low => some ⟨file, index, offset, stride, high, low⟩
  | _ => none

/-- A plane of a buffer as the compositor is told of it. -/
def PlaneTold.of (m : Modifier) (p : Plane) : PlaneTold :=
  ⟨p.file, p.index, p.offset, p.stride, m.split.1, m.split.2⟩

/-- The compositor takes the image. -/
structure Client.Tells (c : Client) (image : Image) : Prop where
  connected : c.registry.disconnected = false
  shown : (c.formats.get? image.format.code).isSome
  bound : c.dmabuf.isSome

end Wayland

/-- What an X server and a Wayland compositor are told is the same buffer of `n` planes. -/
structure SameLayout (n : Nat) (layout : X11.BufferLayout) (planes : List Wayland.PlaneTold) :
    Prop where
  files : layout.files.length = n
  strides : layout.strides.length = Dmabuf.maxPlanes
  offsets : layout.offsets.length = Dmabuf.maxPlanes
  /-- The places without a plane. -/
  blank : ∀ i, n ≤ i → i < Dmabuf.maxPlanes →
    layout.strides[i]? = some 0 ∧ layout.offsets[i]? = some 0
  /-- The compositor is told of every plane once. -/
  indices : (planes.map (·.index.toNat)).Perm (List.range n)
  same : ∀ p ∈ planes, layout.files[p.index.toNat]? = some p.file ∧
    layout.offsets[p.index.toNat]? = some p.offset ∧
    layout.strides[p.index.toNat]? = some p.stride
  modifier : ∀ p ∈ planes, .join p.high p.low = layout.modifier

section

variable {d : Dmabuf}

theorem X11.padded_length {ws : List UInt32} (h : ws.length ≤ Dmabuf.maxPlanes) :
    (padded ws).length = Dmabuf.maxPlanes := by
  simp only [padded, List.length_append, List.length_replicate]
  omega

theorem X11.padded_blank {ws : List UInt32} {i : Nat} (hbeyond : ws.length ≤ i)
    (h : i < Dmabuf.maxPlanes) : (padded ws)[i]? = some 0 := by
  rw [padded, List.getElem?_append_right hbeyond, List.getElem?_replicate, if_pos (by omega)]

theorem X11.padded_told {ws : List UInt32} {i : Nat} {word : UInt32} (h : ws[i]? = some word) :
    (padded ws)[i]? = some word := by
  rw [padded, List.getElem?_append_left (List.getElem?_eq_some_iff.mp h).1, h]

/-- Planes that are listed in the order of their indices are the same by position and by index. -/
theorem sameLayout_of_sorted (hroom : d.planes.length ≤ Dmabuf.maxPlanes)
    (hplaces : d.planes.map (·.index.toNat) = List.range d.planes.length) :
    SameLayout d.planes.length (.of d) (d.planes.map (.of d.modifier)) where
  files := List.length_map _
  strides := X11.padded_length (by rwa [Dmabuf.strides, List.length_map])
  offsets := X11.padded_length (by rwa [Dmabuf.offsets, List.length_map])
  blank := fun i hbeyond hi =>
    ⟨X11.padded_blank (by rwa [Dmabuf.strides, List.length_map]) hi,
      X11.padded_blank (by rwa [Dmabuf.offsets, List.length_map]) hi⟩
  indices := by
    rw [← hplaces, List.map_map]
    exact .refl _
  same := by
    intro told htold
    obtain ⟨p, hp, rfl⟩ := List.mem_map.mp htold
    obtain ⟨i, hi⟩ := List.mem_iff_getElem?.mp hp
    -- the plane stands where its index says
    have hplace : p.index.toNat = i := by
      have hindex := congrArg (·[i]?) hplaces
      simp only [List.getElem?_map, hi, Option.map_some] at hindex
      rw [List.getElem?_range (List.getElem?_eq_some_iff.mp hi).1] at hindex
      exact Option.some.inj hindex
    simp only [Wayland.PlaneTold.of, hplace]
    refine ⟨?_, X11.padded_told ?_, X11.padded_told ?_⟩ <;>
    · refine List.getElem?_map.trans ?_
      rw [hi]
      rfl
  modifier := by
    intro told htold
    obtain ⟨p, -, rfl⟩ := List.mem_map.mp htold
    exact d.modifier.join_split

end

/-! ## What the displays send -/

namespace X11

/-- To look for an identifier tells no layout. -/
theorem ResourceIds.fresh_tells (ids : ResourceIds) :
    ids.fresh.2.1.filterMap Request.layout? = [] := by
  unfold fresh
  split
  · rfl
  · split <;> rfl

/-- A request that imports a dmabuf tells its layout or none. -/
theorem importRequest?_tells {plan : ImportPlan} {screen : Nat} {pixmap : ResourceId} {d : Dmabuf}
    {request : Request} (h : importRequest? plan screen pixmap d = some request) :
    request.layout? = if plan.path = .multiPlane then some (.of d) else none := by
  unfold importRequest? at h
  split at h
  · next hpath =>
    obtain rfl := Option.some.inj h
    rw [if_pos hpath]
    rfl
  · next hpath =>
    rw [if_neg (by simp [hpath])]
    unfold singlePlaneRequest? at h
    obtain ⟨plane, -, h⟩ := Option.bind_eq_some_iff.mp h
    obtain ⟨stride, -, h⟩ := Option.bind_eq_some_iff.mp h
    dsimp only at h
    split at h
    · obtain rfl := Option.some.inj h
      rfl
    · exact absurd h (by simp)

section

variable (c : Client) (image : Image) (verdict : Request → Except Refusal Unit)

/-- An import tells the server the layout of the dmabuf once, or none at all. -/
theorem importImage_tells (s : Session) :
    (importImage verdict s image).2.1.filterMap Request.layout? = [] ∨
      (importImage verdict s image).2.1.filterMap Request.layout? = [.of image.dmabuf] := by
  have hasks := s.ids.fresh_tells
  obtain ⟨ids, hstops, -⟩ := importImage_stops verdict s image
  generalize (importImage verdict s image).1 = result, (importImage verdict s image).2.1 = sent
    at hstops ⊢
  cases hstops with
  | unplanned | unduplicated => exact .inl rfl
  | exhausted fresh | untold _ fresh | unwritten _ fresh =>
    rw [fresh] at hasks
    exact .inl hasks
  -- the verdict changes nothing in what was sent
  | @declined plan _ _ _ _ _ _ _ fresh told | @taken plan _ _ _ _ _ _ fresh told =>
    rw [fresh] at hasks
    simp only [List.filterMap_append, hasks, List.filterMap_cons, importRequest?_tells told,
      List.filterMap_nil]
    by_cases hpath : plan.path = .multiPlane <;> simp [hpath]

theorem Client.attach_tells :
    (c.attach verdict image).2.1.filterMap Request.layout? = [] ∨
      (c.attach verdict image).2.1.filterMap Request.layout? = [.of image.dmabuf] := by
  unfold Client.attach
  split
  · exact .inl rfl
  split
  · exact .inl rfl
  · exact importImage_tells image verdict c.session

variable {c image}

/-- A server that takes the image is told. -/
theorem Client.Tells.attach_tells (h : c.Tells image)
    (hroom : image.dmabuf.planes.length ≤ Dmabuf.maxPlanes) :
    (c.attach verdict image).2.1.filterMap Request.layout? = [.of image.dmabuf] := by
  have hnarrow : ∀ {n : UInt32}, n.toNat < UInt16.size → narrow? n = some n.toUInt16 :=
    fun hn => if_pos hn
  obtain ⟨layout, hlayout⟩ := Option.isSome_iff_exists.mp h.known
  have hpath : ImportPath.select c.session.dri3 image.dmabuf.numPlanes = .ok .multiPlane := by
    rw [ImportPath.select, if_pos h.layouts]
    exact if_neg (Nat.not_lt.mpr hroom)
  have hplan : ImportPlan.make c.session.dri3 image.dmabuf
      = .ok ⟨.multiPlane, layout, image.dmabuf.width.toUInt16, image.dmabuf.height.toUInt16⟩ := by
    simp only [ImportPlan.make, hpath, hlayout, hnarrow h.width, hnarrow h.height]
    rfl
  obtain ⟨pixmap, hpixmap⟩ := Option.isSome_iff_exists.mp h.identifier
  have hasks := c.session.ids.fresh_tells
  have hshown : (c.session.formats.get? image.format.code).isNone = false := by
    simpa using h.shown
  rcases hfresh : c.session.ids.fresh with ⟨found, asks, ids⟩
  rw [hfresh] at hpixmap hasks
  obtain rfl : found = some pixmap := hpixmap
  simp only [Client.attach, h.connected, hshown, importImage, hplan, h.files, hfresh,
    importRequest?, h.written, Bool.false_eq_true, if_false]
  split <;> simp [hasks, Request.layout?, BufferLayout.of]

end

end X11

namespace Wayland

variable {c : Client} {image : Image}

theorem importRequests_planes (dmabuf buffer : Nat) (d : Dmabuf) :
    (Client.importRequests dmabuf buffer d).filterMap Request.plane?
      = d.planes.map (.of d.modifier) := by
  have hplanes : (d.planes.map fun p : Plane => Request.addPlane buffer p.file p.index p.offset
      p.stride d.modifier.split.1 d.modifier.split.2).filterMap Request.plane?
      = d.planes.map (.of d.modifier) := by
    rw [List.filterMap_map]
    exact congrFun List.filterMap_eq_map d.planes
  simp only [Client.importRequests, List.filterMap_append, List.filterMap_cons, Request.plane?,
    hplanes, List.filterMap_nil, List.append_nil, List.cons_append]

theorem Client.attach_planes (h : (c.attach image).1.isOk = true) :
    (c.attach image).2.1.filterMap Request.plane?
      = image.dmabuf.planes.map (.of image.dmabuf.modifier) := by
  rcases c.attach_refused_or_made image with ⟨e, hattach⟩ | ⟨dmabuf, -, hattach⟩
  · rw [hattach] at h
    exact absurd h (by simp [Except.isOk, Except.toBool])
  · rw [hattach]
    exact importRequests_planes dmabuf.object c.buffersMade image.dmabuf

theorem Client.Tells.attach_isOk (h : c.Tells image) : (c.attach image).1.isOk = true := by
  obtain ⟨dmabuf, hbound⟩ := Option.isSome_iff_exists.mp h.bound
  have hshown : (c.formats.get? image.format.code).isNone = false := by
    simpa using h.shown
  simp only [Client.attach, h.connected, hshown, hbound, Bool.false_eq_true, if_false]
  rfl

/-- A layout the compositor advertises is one the display knows it shows. -/
theorem Client.handle_modifier {code high low : UInt32} {fourcc : Fourcc}
    (h : Fourcc.ofCode? code = some fourcc) :
    (c.handle (.modifier code high low)).2.formats.contains ⟨fourcc, .join high low⟩ = true := by
  simp only [Client.handle, Client.advertise, h]
  exact (FormatSet.contains_insert _ _ _).mpr (.inl rfl)

end Wayland

/-- **Both wires describe the same buffer.** Planes whose indices count from zero without a gap, at
least one and at most four of them, are all taken by the builder, in whatever order they come. Of an
image with the dmabuf that is built an X server is told a layout at most once, and a Wayland
compositor that takes the image is told the same one: of each plane the file, offset and stride
that the server is told at the place of its index, and the halves of the modifier. Where a display
takes the image, it is told. The halves are what a compositor sent if the modifier is one it
advertised. -/
theorem wires_agree {b : Dmabuf.Builder} (hempty : b.planes = []) {planes : List Plane}
    (hsome : 1 ≤ planes.length) (hroom : planes.length ≤ Dmabuf.maxPlanes) (hdense : Dense planes) :
    (b.addPlanes planes).1 = planes.map (fun _ => true) ∧
    (∃ d, (b.addPlanes planes).2.build? = some d ∧ d.modifier = b.format.modifier ∧
      d.planes.Perm planes ∧
      ∀ (image : Image) (verdict : X11.Request → Except X11.Refusal Unit) (x : X11.Client)
        (w : Wayland.Client), image.dmabuf = d →
        let onX11 := (x.attach verdict image).2.1.filterMap X11.Request.layout?
        let onWayland := (w.attach image).2.1.filterMap Wayland.Request.plane?
        onX11.length ≤ 1 ∧ (x.Tells image → onX11.length = 1) ∧
        (w.Tells image → (w.attach image).1.isOk = true) ∧
        ((w.attach image).1.isOk = true →
          (∀ layout ∈ onX11, SameLayout planes.length layout onWayland) ∧
          ∀ high low, d.modifier = .join high low →
            ∀ p ∈ onWayland, p.high = high ∧ p.low = low)) ∧
    (∀ high low, (Modifier.join high low).split = (high, low)) ∧
    (∀ m : Modifier, .join m.split.1 m.split.2 = m) ∧
    ∀ (w : Wayland.Client) code high low fourcc, Fourcc.ofCode? code = some fourcc →
      (w.handle (.modifier code high low)).2.formats.contains ⟨fourcc, .join high low⟩ = true := by
  have hadded := b.addPlanes_room planes (by rw [hempty]; simpa using hroom)
  rw [hempty, List.nil_append] at hadded
  obtain ⟨d, hbuilt, -, -, hformat, hperm, hplaces⟩ := Dmabuf.Builder.build?_dense
    (b := { b with planes := planes }) (List.ne_nil_of_length_pos hsome) hdense
  rw [hadded]
  refine ⟨rfl, ⟨d, hbuilt, congrArg Format.modifier hformat, hperm, ?_⟩, Modifier.split_join,
    Modifier.join_split, fun w code high low fourcc => Wayland.Client.handle_modifier⟩
  intro image verdict x w himage onX11 onWayland
  subst himage
  have hlength : image.dmabuf.planes.length = planes.length := hperm.length_eq
  have hfits : image.dmabuf.planes.length ≤ Dmabuf.maxPlanes := hlength ▸ hroom
  refine ⟨?_, fun htells => ?_, Wayland.Client.Tells.attach_isOk, fun hok => ⟨?_, ?_⟩⟩
  · rcases x.attach_tells image verdict with hnone | hone <;> simp [onX11, *]
  · simp [onX11, htells.attach_tells verdict hfits]
  · intro layout hlayout
    obtain rfl : layout = .of image.dmabuf := by
      rcases x.attach_tells image verdict with hnone | hone
      · simp [onX11, hnone] at hlayout
      · simpa [onX11, hone] using hlayout
    have hsame := sameLayout_of_sorted hfits (by rw [hplaces, hlength])
    rw [show onWayland = _ from Wayland.Client.attach_planes hok]
    rwa [hlength] at hsame
  · intro high low hmodifier p hp
    rw [show onWayland = _ from Wayland.Client.attach_planes hok] at hp
    obtain ⟨plane, -, rfl⟩ := List.mem_map.mp hp
    simp [Wayland.PlaneTold.of, hmodifier, Modifier.split_join]

/-- A buffer of three planes in a tiled layout, without its planes. -/
def tiledBuilder : Dmabuf.Builder :=
  { width := 64, height := 64, format := ⟨.xrgb8888, ⟨0x0100000000000002⟩⟩, flags := .none }

/-- The three planes, the last one first. -/
def tiledPlanes : List Plane :=
  [⟨.zero, 2, 6144, 64⟩, ⟨.null, 0, 0, 256⟩, ⟨.full, 1, 4096, 128⟩]

theorem tiled_planes_agree :
    Dense tiledPlanes ∧
    ∃ d, (tiledBuilder.addPlanes tiledPlanes).2.build? = some d ∧
      let image := { Image.numbered 0 with dmabuf := d }
      let layout : X11.BufferLayout :=
        ⟨[.null, .full, .zero], [256, 128, 64, 0], [0, 4096, 6144, 0], ⟨0x0100000000000002⟩⟩
      let planes : List Wayland.PlaneTold := [⟨.null, 0, 0, 256, 0x01000000, 2⟩,
        ⟨.full, 1, 4096, 128, 0x01000000, 2⟩, ⟨.zero, 2, 6144, 64, 0x01000000, 2⟩]
      (X11.freshClient.attach (fun _ => .ok ()) image).2.1.filterMap X11.Request.layout?
        = [layout] ∧
      (Wayland.freshClient.attach image).2.1.filterMap Wayland.Request.plane? = planes ∧
      SameLayout 3 layout planes := by
  have hdense : Dense tiledPlanes := by decide
  have hsorted : (tiledBuilder.addPlanes tiledPlanes).2.build? = some {
      width := 64, height := 64, format := ⟨.xrgb8888, ⟨0x0100000000000002⟩⟩, flags := .none
      planes := [⟨.null, 0, 0, 256⟩, ⟨.full, 1, 4096, 128⟩, ⟨.zero, 2, 6144, 64⟩] } := by
    rw [Dmabuf.Builder.addPlanes_room tiledPlanes tiledBuilder (by decide)]
    simp [Dmabuf.Builder.build?, tiledBuilder, tiledPlanes, List.mergeSort,
      List.MergeSort.Internal.splitInTwo]
  obtain ⟨-, ⟨d, hbuilt, -, -, hagree⟩, -⟩ := wires_agree (b := tiledBuilder) rfl
    (by decide) (by decide) hdense
  obtain rfl := Option.some.inj (hbuilt.symm.trans hsorted)
  obtain ⟨-, -, -, hsame⟩ := hagree { Image.numbered 0 with dmabuf := _ } (fun _ => .ok ())
    X11.freshClient Wayland.freshClient rfl
  obtain ⟨hlayouts, -⟩ := hsame rfl
  exact ⟨hdense, _, hbuilt, rfl, rfl, hlayouts _ (List.mem_singleton_self _)⟩

end Scanout
