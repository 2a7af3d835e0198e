import Cyphesis.Simulation.MeshReading
import Mathlib.Data.List.Basic

/-!
# Decoding meshes

What each part of the file of a mesh adds: positions, indices, or nothing.
-/

namespace Cyphesis.Simulation

open Cyphesis.Foundation List Option

namespace OgreMeshDeserializer

variable {reader : OgreMeshDeserializer} {rest : List UInt8} {state : List UInt32 × List UInt32}

theorem Ready.readElement {element : VertexElement}
    (ready : Ready reader (element.payload ++ rest) state) :
    reader.readGeometryVertexElement.1 = element ∧
      Ready reader.readGeometryVertexElement.2 rest state := by
  simp only [VertexElement.payload, append_assoc] at ready
  have second := ready.afterShort
  have third := second.afterShort
  have fourth := third.afterShort
  have fifth := fourth.afterShort
  simp only [readGeometryVertexElement, ready.readShort, second.readShort, third.readShort,
    fourth.readShort, fifth.readShort, getD_some]
  exact ⟨trivial, fifth.afterShort⟩

theorem foldlM_append_elements (elements found : List VertexElement) :
    elements.foldlM (fun (found : List VertexElement × List UInt32 × List UInt32) element =>
        (.ok (found.1 ++ [element], found.2) :
          Except MeshFailure (List VertexElement × List UInt32 × List UInt32))) (found, state) =
      .ok (found ++ elements, state) := by
  induction elements generalizing found with
  | nil => simp [pure, Except.pure]
  | cons element others ih =>
    simp only [foldlM_cons, bind, Except.bind]
    rw [ih]
    simp

variable {fuel : Nat} (mesh : Mesh)

theorem yields_declaration {elements : List VertexElement} (enough : elements.length < fuel)
    (follows : Follows (· ≠ MeshChunkID.geometryVertexElement) rest)
    (ready : Ready reader ((GeometryPart.declaration elements).payload ++ rest) state) :
    Yields (reader.readGeometryVertexDeclaration fuel) (.ok (elements, state))
      (Stands · rest ·) := by
  have turns := @chunks_yields _ _ reader rest state [MeshChunkID.geometryVertexElement]
    (fun _ elements reader =>
      .ok (elements ++ [reader.readGeometryVertexElement.1], reader.readGeometryVertexElement.2))
    (fun element found => .ok (found.1 ++ [element], found.2))
    (fun _ => MeshChunkID.geometryVertexElement) VertexElement.payload
    (· ≠ MeshChunkID.geometryVertexElement) (by simp) follows elements (by simp)
    (by
      intro element _ found state reader rest' _ ready _
      rcases ready.readElement with ⟨isElement, after⟩
      refine ⟨reader.readGeometryVertexElement.2, ?_, after.stands⟩
      simp [isElement])
    fuel enough [] ready
  rw [foldlM_append_elements] at turns
  rcases turns with ⟨reader', isRead, past⟩
  refine ⟨reader'.backpedalChunkHeader, ?_, past.stands⟩
  have isLoop : reader.readGeometryVertexDeclaration fuel =
      (chunks [MeshChunkID.geometryVertexElement]
        (fun _ elements reader =>
          .ok (elements ++ [reader.readGeometryVertexElement.1],
            reader.readGeometryVertexElement.2)) fuel [] reader).bind
        fun found => .ok (found.1, found.2.backpedalChunkHeader) := by
    rw [readGeometryVertexDeclaration, if_neg (by simp [ready.isAt.good.1])]
    rfl
  rw [isLoop, isRead]
  simp [Except.bind]

variable {vertexCount : UInt32}

theorem toNat_mul_toUInt32 {vertexSize : UInt16}
    (fits : vertexCount.toNat * vertexSize.toNat < 2 ^ 32) :
    (vertexCount * vertexSize.toUInt32).toNat = vertexCount.toNat * vertexSize.toNat := by
  rw [UInt32.toNat_mul, UInt16.toNat_toUInt32, Nat.mod_eq_of_lt fits]

theorem yields_buffer {buffer : VertexBuffer}
    (sized : buffer.data.length = vertexCount.toNat * buffer.vertexSize.toNat)
    (fits : buffer.data.length + 6 < 2 ^ 32)
    (ready : Ready reader ((GeometryPart.buffer buffer).payload ++ rest) state) :
    Yields (reader.readGeometryVertexBuffer vertexCount) (.ok (buffer.data, state))
      (Stands · rest ·) := by
  simp only [GeometryPart.payload, chunkBytes, append_assoc] at ready
  have second := ready.afterShort
  have header := second.afterShort
  have data := header.intoChunk
  have isSize : (vertexCount * buffer.vertexSize.toUInt32).toNat = buffer.data.length := by
    rw [toNat_mul_toUInt32 (by omega), sized]
  refine ⟨_, ?_, data.advance.stands⟩
  simp only [readGeometryVertexBuffer, ready.readShort, second.readShort, header.readChunk,
    defined, bind, Except.bind, ne_eq, not_true_eq_false, if_false, isSize, data.isAt.read]
  simp [OgreMeshDeserializer.advance]

/-- Added to those before. -/
def geometryStep (part : GeometryPart)
    (found : (List VertexElement × List (List UInt8)) × List UInt32 × List UInt32) :
    Except MeshFailure ((List VertexElement × List (List UInt8)) × List UInt32 × List UInt32) :=
  match part with
  | .declaration elements => .ok ((elements, found.1.2), found.2)
  | .buffer entry => .ok ((found.1.1, found.1.2 ++ [entry.data]), found.2)

theorem foldlM_buffers (buffers : List VertexBuffer) (elements : List VertexElement)
    (found : List (List UInt8)) :
    (buffers.map GeometryPart.buffer).foldlM (fun found part => geometryStep part found)
        ((elements, found), state) =
      .ok ((elements, found ++ buffers.map VertexBuffer.data), state) := by
  induction buffers generalizing found with
  | nil => simp [pure, Except.pure]
  | cons buffer others ih =>
    have turn : geometryStep (.buffer buffer) ((elements, found), state) =
        .ok ((elements, found ++ [buffer.data]), state) := rfl
    simp only [map_cons, foldlM_cons, turn, bind, Except.bind]
    rw [ih]
    simp

/-- What may follow a geometry. -/
def AfterGeometry (id : UInt16) : Prop :=
  id ∈ MeshChunkID.ofSubMesh ∨ id ∈ MeshChunkID.ofMesh

theorem AfterGeometry.not_mem {id : UInt16} (isAfter : AfterGeometry id) :
    id ∉ MeshChunkID.ofGeometry ∧ id ≠ MeshChunkID.geometryVertexElement := by
  have apart : ∀ id ∈ MeshChunkID.ofSubMesh ++ MeshChunkID.ofMesh,
      id ∉ MeshChunkID.ofGeometry ∧ id ≠ MeshChunkID.geometryVertexElement :=
    List.forall_iff_forall_mem.mp (by decide)
  exact apart id (List.mem_append.mpr isAfter)

variable (geometry : MeshGeometry)

/-- What a geometry adds to the vertices. -/
def decodeGeometry (state : List UInt32 × List UInt32) :
    Except MeshFailure (Unit × List UInt32 × List UInt32) :=
  (readPositions geometry.vertexCount (geometry.buffers.map VertexBuffer.data) geometry.elements
    state.1).map fun vertices => ((), vertices, state.2)

/-- Loop of `readGeometry`. -/
def geometryBody (fuel : Nat) (vertexCount : UInt32) :
    UInt16 → List VertexElement × List (List UInt8) → OgreMeshDeserializer →
      Except MeshFailure ((List VertexElement × List (List UInt8)) × OgreMeshDeserializer) :=
  fun id (elements, vertexBuffers) reader =>
    if id = MeshChunkID.geometryVertexDeclaration then do
      let (elements, reader) ← reader.readGeometryVertexDeclaration fuel
      .ok ((elements, vertexBuffers), reader)
    else do
      let (vertexBuffer, reader) ← reader.readGeometryVertexBuffer vertexCount
      .ok ((elements, vertexBuffers ++ [vertexBuffer]), reader)

theorem yields_geometryBody (enough : geometry.payload.length < fuel)
    {part : GeometryPart} (isPart : part ∈ geometry.parts)
    (found : List VertexElement × List (List UInt8))
    (follows : Follows (fun id => id ∈ MeshChunkID.ofGeometry ∨ AfterGeometry id) rest)
    (ready : Ready reader (part.payload ++ rest) state) :
    Yields (geometryBody fuel geometry.vertexCount part.id found reader)
      (geometryStep part (found, state)) (Stands · rest ·) := by
  rcases List.mem_cons.mp isPart with rfl | isBuffer
  · have long : geometry.elements.length ≤
        (GeometryPart.declaration geometry.elements).payload.length :=
      length_le_chunks geometry.elements (fun _ => MeshChunkID.geometryVertexElement)
        VertexElement.payload
    have inside := payload_length_le_chunks isPart GeometryPart.id GeometryPart.payload
    simp only [MeshGeometry.payload, length_append, length_intBytes] at enough
    have few : geometry.elements.length < fuel := by omega
    have notElement : ∀ id, id ∈ MeshChunkID.ofGeometry ∨ AfterGeometry id →
        id ≠ MeshChunkID.geometryVertexElement := by
      rintro id (isOwn | isAfter)
      · have apart : ∀ id ∈ MeshChunkID.ofGeometry, id ≠ MeshChunkID.geometryVertexElement :=
          List.forall_iff_forall_mem.mp (by decide)
        exact apart id isOwn
      · exact isAfter.not_mem.2
    rcases yields_declaration few (follows.mono notElement) ready with
      ⟨reader', isRead, stands⟩
    refine ⟨reader', ?_, stands⟩
    simp [geometryBody, GeometryPart.id, isRead, bind, Except.bind]
  · rcases List.mem_map.mp isBuffer with ⟨buffer, inBuffers, rfl⟩
    rcases yields_buffer (geometry.sized buffer inBuffers) (geometry.fits buffer inBuffers) ready
      with ⟨reader', isRead, stands⟩
    have notDeclaration : ¬ MeshChunkID.geometryVertexBuffer =
        MeshChunkID.geometryVertexDeclaration := by decide
    refine ⟨reader', ?_, stands⟩
    simp [geometryBody, GeometryPart.id, notDeclaration, isRead, bind, Except.bind]

theorem yields_geometry (enough : geometry.payload.length < fuel)
    (follows : Follows AfterGeometry rest) (ready : Ready reader (geometry.payload ++ rest) state) :
    Yields (reader.readGeometry fuel) (decodeGeometry geometry state) (Stands · rest ·) := by
  have wide := enough
  simp only [MeshGeometry.payload, append_assoc] at ready
  have inside := ready.afterInt
  have long := length_le_chunks geometry.parts GeometryPart.id GeometryPart.payload
  simp only [MeshGeometry.payload, length_append, length_intBytes] at wide
  have known : ∀ part ∈ geometry.parts, part.id ∈ MeshChunkID.ofGeometry := by
    intro part _
    cases part with
    | declaration elements => simp [GeometryPart.id, MeshChunkID.ofGeometry]
    | buffer entry => simp [GeometryPart.id, MeshChunkID.ofGeometry]
  have turns : Yields
      (chunks MeshChunkID.ofGeometry (geometryBody fuel geometry.vertexCount) fuel ([], [])
        (reader.advance 4))
      (geometry.parts.foldlM (fun found part => geometryStep part found) (([], []), state))
      (Past · rest ·) :=
    chunks_yields (fun id isAfter => isAfter.not_mem.1) follows known
      (fun part isPart found state reader rest' follows ready _ =>
        yields_geometryBody geometry enough isPart found follows ready)
      (by omega) ([], []) inside
  have isFold : geometry.parts.foldlM (fun found part => geometryStep part found)
      ((([] : List VertexElement), ([] : List (List UInt8))), state) =
        .ok ((geometry.elements, geometry.buffers.map VertexBuffer.data), state) := by
    have first : geometryStep (.declaration geometry.elements)
        ((([] : List VertexElement), ([] : List (List UInt8))), state) =
          .ok ((geometry.elements, []), state) := rfl
    simp only [MeshGeometry.parts, foldlM_cons, first, bind, Except.bind]
    rw [foldlM_buffers]
    simp
  rw [isFold] at turns
  rcases turns with ⟨reader', isRead, past⟩
  have isGeometry : reader.readGeometry fuel =
      (chunks MeshChunkID.ofGeometry (geometryBody fuel geometry.vertexCount) fuel ([], [])
        (reader.advance 4)).bind fun found =>
          (readPositions geometry.vertexCount found.1.2 found.1.1 found.2.vertices).bind
            fun vertices =>
              .ok ((), { found.2 with vertices := vertices }.backpedalChunkHeader) := by
    rw [readGeometry, ready.readInt]
    simp only [inside.isAt.good.1, Bool.false_eq_true, if_false]
    rfl
  rw [isGeometry, isRead]
  simp only [Except.bind, decodeGeometry, past.vertices]
  cases readPositions geometry.vertexCount (geometry.buffers.map VertexBuffer.data)
    geometry.elements state.1 with
  | error failure => rfl
  | ok vertices =>
    have added : Past { reader' with vertices := vertices } rest (vertices, state.2) :=
      ⟨past.flip, past.isPast, rfl, past.indices⟩
    exact ⟨_, rfl, added.stands⟩

variable (subMesh : SubMesh)

/-- What a submesh adds to the indices. -/
def shifted (state : List UInt32 × List UInt32) : List UInt32 :=
  state.2 ++ subMesh.indices.values.map fun index =>
    UInt32.ofNat (index + if subMesh.geometry.isNone then 0 else state.1.length / 3)

/-- Added if its material has a name. -/
def decodeSubMesh (state : List UInt32 × List UInt32) :
    Except MeshFailure (Unit × List UInt32 × List UInt32) :=
  if subMesh.materialName = [] then .error .undefined
  else
    match subMesh.geometry with
    | none => .ok ((), state.1, shifted subMesh state)
    | some geometry => decodeGeometry geometry (state.1, shifted subMesh state)

theorem groups_shorts (indices : List UInt16) :
    (groups 2 indices.length (indices.flatMap shortBytes)).map ofBytes =
      indices.map UInt16.toNat := by
  rw [groups_flatMap length_shortBytes, List.map_map]
  apply map_congr_left
  intro index _
  exact ofBytes_toBytes_of_lt index.toNat_lt

theorem groups_ints (indices : List UInt32) :
    (groups 4 indices.length (indices.flatMap intBytes)).map ofBytes =
      indices.map UInt32.toNat := by
  rw [groups_flatMap length_intBytes, List.map_map]
  apply map_congr_left
  intro index _
  exact ofBytes_toBytes_of_lt index.toNat_lt

theorem length_flatMap_of_sized {α : Type} {size : Nat} {encode : α → List UInt8}
    (sized : ∀ value, (encode value).length = size) (values : List α) :
    (values.flatMap encode).length = size * values.length := by
  induction values with
  | nil => rfl
  | cons value others ih =>
    rw [flatMap_cons, length_append, sized, ih, length_cons, Nat.mul_succ, Nat.add_comm]

theorem indices_bytes (indices : MeshIndices) :
    indices.bytes.length = (if indices.idx32bit then 4 else 2) * indices.values.length ∧
      (groups (if indices.idx32bit then 4 else 2) indices.values.length indices.bytes).map ofBytes =
        indices.values := by
  cases indices with
  | shorts indices =>
    constructor
    · simpa [MeshIndices.bytes, MeshIndices.values, MeshIndices.idx32bit] using
        length_flatMap_of_sized length_shortBytes indices
    · simpa [MeshIndices.bytes, MeshIndices.values, MeshIndices.idx32bit] using
        groups_shorts indices
  | ints indices =>
    constructor
    · simpa [MeshIndices.bytes, MeshIndices.values, MeshIndices.idx32bit] using
        length_flatMap_of_sized length_intBytes indices
    · simpa [MeshIndices.bytes, MeshIndices.values, MeshIndices.idx32bit] using groups_ints indices

theorem Ready.readIndices {indices : MeshIndices} (countable : indices.values.length < 2 ^ 32)
    (offset : Nat) (ready : Ready reader (indices.bytes ++ rest) state) :
    Ready (readIndices (UInt32.ofNat indices.values.length) indices.idx32bit offset reader) rest
      (state.1, state.2 ++ indices.values.map fun index => UInt32.ofNat (index + offset)) := by
  rcases indices_bytes indices with ⟨length, numbers⟩
  have isCount : (UInt32.ofNat indices.values.length).toNat = indices.values.length :=
    UInt32.toNat_ofNat_of_lt' countable
  unfold OgreMeshDeserializer.readIndices
  by_cases some : UInt32.ofNat indices.values.length > 0
  · rw [if_pos some]
    have read := ready.isAt.read
    rw [length] at read
    have after := ready.advance
    simp only [readNumbers, isCount, read, length, Nat.sub_self, replicate_zero,
      append_nil, flipFromLittleEndian, ready.flip, Bool.false_eq_true, if_false, numbers]
    refine ⟨rfl, ?_, after.vertices, ?_⟩
    · rw [← length]
      exact after.isAt
    · rw [← after.indices]
      rfl
  · have isZero : indices.values.length = 0 := by
      have notPositive : ¬ 0 < (UInt32.ofNat indices.values.length).toNat := some
      omega
    rw [if_neg some]
    have noBytes : indices.bytes = [] := by
      apply List.length_eq_zero_iff.mp
      rw [length, isZero, Nat.mul_zero]
    have noValues := List.length_eq_zero_iff.mp isZero
    rw [noBytes] at ready
    simpa [noValues] using ready

/-- The end of `readSubMesh`, after the geometry. -/
def subMeshEnd (fuel : Nat) (reader : OgreMeshDeserializer) :
    Except MeshFailure (Unit × OgreMeshDeserializer) :=
  if reader.stream.eof then .ok ((), reader)
  else do
    let ((), reader) ← chunks MeshChunkID.ofSubMesh
      (fun _ _ reader => .ok ((), reader.skipChunk)) fuel () reader
    .ok ((), reader.backpedalChunkHeader)

theorem foldlM_skip {π : Type} (parts : List π) :
    parts.foldlM (fun (found : Unit × List UInt32 × List UInt32) _ =>
        (.ok found : Except MeshFailure (Unit × List UInt32 × List UInt32))) ((), state) =
      .ok ((), state) := by
  induction parts with
  | nil => rfl
  | cons part others ih =>
    rw [foldlM_cons]
    exact ih

theorem not_mem_ofSubMesh {id : UInt16} (isMesh : id ∈ MeshChunkID.ofMesh) :
    id ∉ MeshChunkID.ofSubMesh := by
  have apart : ∀ id ∈ MeshChunkID.ofMesh, id ∉ MeshChunkID.ofSubMesh :=
    List.forall_iff_forall_mem.mp (by decide)
  exact apart id isMesh

theorem yields_subMeshEnd {parts : List OptionalChunk} (enough : parts.length < fuel)
    (allowed : ∀ part ∈ parts, part.id ∈ MeshChunkID.ofSubMesh)
    (follows : Follows (· ∈ MeshChunkID.ofMesh) rest)
    (stands : Stands reader ((parts.flatMap fun part => chunkBytes part.id part.payload) ++ rest)
      state) :
    Yields (subMeshEnd fuel reader) (.ok ((), state)) (Stands · rest ·) := by
  unfold subMeshEnd
  cases isEnd : reader.stream.eof with
  | true =>
    have isNil : (parts.flatMap fun part => chunkBytes part.id part.payload) ++ rest = [] := by
      rcases stands.isAt with isAt | ⟨isNil, -⟩
      · simp [isAt.good.1] at isEnd
      · exact isNil
    refine ⟨reader, rfl, ?_⟩
    rw [isNil] at stands
    rw [(List.append_eq_nil_iff.mp isNil).2]
    exact stands
  | false =>
    have turns : Yields
        (chunks MeshChunkID.ofSubMesh (fun _ _ reader => .ok ((), reader.skipChunk)) fuel () reader)
        (parts.foldlM (fun found _ => .ok found) ((), state)) (Past · rest ·) := by
      refine chunks_yields (fun _ => not_mem_ofSubMesh) follows allowed ?_ enough ()
        (stands.ready isEnd)
      intro part _ found state reader rest' _ ready isLength
      exact ⟨reader.skipChunk, rfl, (ready.skipChunk isLength part.fits).stands⟩
    rw [foldlM_skip] at turns
    rcases turns with ⟨reader', isRead, past⟩
    refine ⟨reader'.backpedalChunkHeader, ?_, past.stands⟩
    rw [isRead]
    rfl

theorem yields_subMesh (enough : subMesh.payload.length < fuel)
    (follows : Follows (· ∈ MeshChunkID.ofMesh) rest)
    (ready : Ready reader (subMesh.payload ++ rest) state) :
    Yields (reader.readSubMesh fuel) (decodeSubMesh subMesh state) (Stands · rest ·) := by
  have long := length_le_chunks subMesh.parts OptionalChunk.id OptionalChunk.payload
  simp only [SubMesh.payload, length_append, length_cons] at enough
  have few : subMesh.parts.length < fuel := by omega
  simp only [SubMesh.payload, append_assoc, cons_append] at ready
  by_cases noName : subMesh.materialName = []
  · -- Nothing can be read after the empty name.
    rw [noName, nil_append] at ready
    have unread := readBool_of_failed ready.readString_nil
    rw [decodeSubMesh, if_pos noName]
    simp only [Yields, readSubMesh, unread, defined, bind, Except.bind]
  · rcases ready.readString noName subMesh.oneLine with ⟨-, named⟩
    have shared := named.afterBool
    have counted := shared.afterInt
    have wide := counted.afterBool
    have vertices : (reader.readString.2.advance 1).vertices = state.1 := shared.vertices
    have indexed := wide.readIndices subMesh.countable
      (if subMesh.geometry.isNone then 0 else state.1.length / 3)
    rw [decodeSubMesh, if_neg noName]
    simp only [readSubMesh, named.readBool, shared.readInt, counted.readBool, defined, bind,
      Except.bind, getD_some, vertices]
    cases isGeometry : subMesh.geometry with
    | none =>
      simp only [isGeometry, isNone_none, elim_none, nil_append, if_true] at indexed ⊢
      have ended := yields_subMeshEnd few subMesh.allowed follows indexed.stands
      have isShifted : shifted subMesh state =
          state.2 ++ subMesh.indices.values.map fun index => UInt32.ofNat (index + 0) := by
        simp [shifted, isGeometry]
      rw [isShifted]
      exact ended
    | some geometry =>
      simp only [isGeometry, isNone_some, elim_some, chunkBytes, append_assoc,
        Bool.false_eq_true, if_false] at indexed ⊢
      rw [isGeometry, elim_some, length_chunkBytes] at enough
      have isShifted : shifted subMesh state = state.2 ++ subMesh.indices.values.map
          fun index => UInt32.ofNat (index + state.1.length / 3) := by
        simp [shifted, isGeometry]
      have after : Follows AfterGeometry
          ((subMesh.parts.flatMap fun part => chunkBytes part.id part.payload) ++ rest) :=
        follows_chunks (fun part isPart => .inl (subMesh.allowed part isPart))
          (follows.mono fun _ => .inr)
      have short : geometry.payload.length < fuel := by omega
      have decoded := yields_geometry geometry short after indexed.intoChunk
      rw [isShifted, indexed.readChunk]
      simp only [ne_eq, not_true_eq_false, if_false]
      cases isDecoded : decodeGeometry geometry (state.1, state.2 ++
          subMesh.indices.values.map fun index => UInt32.ofNat (index + state.1.length / 3)) with
      | error failure =>
        rw [isDecoded] at decoded
        rw [show readGeometry fuel _ = .error failure from decoded]
        rfl
      | ok next =>
        rw [isDecoded] at decoded
        rcases decoded with ⟨reader', isRead, stands⟩
        rw [isRead]
        exact yields_subMeshEnd few subMesh.allowed follows stands

variable {payload : List UInt8}

theorem Ready.readFloats (count : Nat) (length : payload.length = 4 * count)
    (ready : Ready reader (payload ++ rest) state) :
    (∃ values : List UInt32, (reader.readFloats count).1 = values.map some) ∧
      Ready (reader.readFloats count).2 rest state := by
  induction count generalizing reader payload with
  | zero =>
    obtain rfl := List.length_eq_zero_iff.mp length
    exact ⟨⟨[], rfl⟩, ready⟩
  | succ count ih =>
    have first : (payload.take 4).length = 4 := by
      rw [length_take, length]
      omega
    have split : payload ++ rest = payload.take 4 ++ (payload.drop 4 ++ rest) := by
      rw [← append_assoc, take_append_drop]
    rw [split] at ready
    have number := ready.readNumber
    have after := ready.advance
    rw [first] at number after
    have isInt : reader.readInt =
        (some (UInt32.ofNat (ofBytes (payload.take 4))), reader.advance 4) := by
      simp [OgreMeshDeserializer.readInt, number]
    have others : (payload.drop 4).length = 4 * count := by
      rw [length_drop, length]
      omega
    rcases ih others after with ⟨⟨values, areValues⟩, ready'⟩
    simp only [OgreMeshDeserializer.readFloats, isInt]
    exact ⟨⟨_ :: values, by rw [areValues]; rfl⟩, ready'⟩

theorem mapM_defined {α : Type} (values : List α) :
    (values.map some).mapM defined = (.ok values : Except MeshFailure (List α)) := by
  induction values with
  | nil => rfl
  | cons value others ih =>
    rw [map_cons, mapM_cons, ih]
    rfl

theorem yields_bounds (length : payload.length = 28)
    (ready : Ready reader (payload ++ rest) state) :
    Yields reader.readBoundsInfo (.ok ((), state)) (Stands · rest ·) := by
  rcases ready.readFloats 7 length with ⟨⟨values, areValues⟩, after⟩
  have bounds : Ready { (reader.readFloats 7).2 with bounds := values } rest state :=
    ⟨after.flip, after.isAt, after.vertices, after.indices⟩
  refine ⟨_, ?_, bounds.stands⟩
  simp only [readBoundsInfo, areValues, mapM_defined, bind, Except.bind]

/-- What a part of a mesh adds. -/
def decodePart (part : MeshPart) (found : Unit × List UInt32 × List UInt32) :
    Except MeshFailure (Unit × List UInt32 × List UInt32) :=
  match part with
  | .geometry shared => decodeGeometry shared found.2
  | .subMesh entry => decodeSubMesh entry found.2
  | .option _ => .ok found

/-- What reading a mesh gives, part by part. -/
def decode (mesh : Mesh) : Except MeshFailure (Unit × List UInt32 × List UInt32) :=
  mesh.parts.foldlM (fun found part => decodePart part found) ((), [], [])

/-- Loop of `readMesh`. -/
def meshBody (fuel : Nat) (id : UInt16) (_ : Unit) (reader : OgreMeshDeserializer) :
    Except MeshFailure (Unit × OgreMeshDeserializer) :=
  if id = MeshChunkID.geometry then reader.readGeometry fuel
  else if id = MeshChunkID.subMesh then reader.readSubMesh fuel
  else if id = MeshChunkID.meshBounds then reader.readBoundsInfo
  else .ok ((), reader.skipChunk)

theorem yields_meshBody (part : MeshPart) (enough : part.payload.length < fuel)
    (follows : Follows (· ∈ MeshChunkID.ofMesh) rest)
    (ready : Ready reader (part.payload ++ rest) state)
    (isLength : reader.currentstreamLen = UInt32.ofNat (part.payload.length + 6)) :
    Yields (meshBody fuel part.id () reader) (decodePart part ((), state)) (Stands · rest ·) := by
  cases part with
  | geometry shared => exact yields_geometry shared enough (follows.mono fun _ => .inr) ready
  | subMesh entry =>
    have notGeometry : ¬ MeshChunkID.subMesh = MeshChunkID.geometry := by decide
    rw [meshBody, MeshPart.id, if_neg notGeometry, if_pos rfl]
    exact yields_subMesh entry enough follows ready
  | option part =>
    have apart : ∀ id ∈ MeshChunkID.skippedInMesh, ¬ id = MeshChunkID.geometry ∧
        ¬ id = MeshChunkID.subMesh ∧ ¬ id = MeshChunkID.meshBounds :=
      List.forall_iff_forall_mem.mp (by decide)
    have skipped := ready.skipChunk isLength part.fits
    rcases part.allowed with isSkipped | ⟨isBounds, length⟩
    · rcases apart part.id isSkipped with ⟨notGeometry, notSubMesh, notBounds⟩
      rw [meshBody, MeshPart.id, if_neg notGeometry, if_neg notSubMesh, if_neg notBounds]
      exact ⟨_, rfl, skipped.stands⟩
    · have notGeometry : ¬ MeshChunkID.meshBounds = MeshChunkID.geometry := by decide
      have notSubMesh : ¬ MeshChunkID.meshBounds = MeshChunkID.subMesh := by decide
      rw [meshBody, MeshPart.id, isBounds, if_neg notGeometry, if_neg notSubMesh, if_pos rfl]
      exact yields_bounds length ready

theorem payload_lt_of_mem {mesh : Mesh} {part : MeshPart} (isPart : part ∈ mesh.parts) :
    part.payload.length < mesh.bytes.length := by
  have inside := payload_length_le_chunks isPart MeshPart.id MeshPart.payload
  simp only [Mesh.bytes, length_append, length_cons, length_chunkBytes]
  omega

theorem parts_lt : mesh.parts.length < mesh.bytes.length := by
  have inside := length_le_chunks mesh.parts MeshPart.id MeshPart.payload
  simp only [Mesh.bytes, length_append, length_cons, length_chunkBytes]
  omega

theorem id_mem_ofMesh {mesh : Mesh} {part : MeshPart} (_ : part ∈ mesh.parts) :
    part.id ∈ MeshChunkID.ofMesh := by
  cases part with
  | geometry shared => simp [MeshPart.id, MeshChunkID.ofMesh]
  | subMesh entry => simp [MeshPart.id, MeshChunkID.ofMesh]
  | option part =>
    rcases part.allowed with isSkipped | ⟨isBounds, -⟩
    · exact mem_cons_of_mem _ (mem_cons_of_mem _ (mem_cons_of_mem _ isSkipped))
    · simp [MeshPart.id, MeshChunkID.ofMesh, isBounds]

theorem yields_mesh (enough : mesh.bytes.length < fuel)
    (ready : Ready reader (boolBytes mesh.skeletallyAnimated ++
      mesh.parts.flatMap fun part => chunkBytes part.id part.payload) ([], [])) :
    Yields (reader.readMesh fuel) (decode mesh) (Stands · [] ·) := by
  have isSeek : reader.stream.seek 1 = reader.stream.advance 1 := ready.isAt.seek_forward
  have inside := ready.afterBool
  have follows : Follows (fun _ => False) [] := .inl rfl
  have few : mesh.parts.length < fuel := Nat.lt_trans (parts_lt mesh) enough
  rw [← append_nil (mesh.parts.flatMap _)] at inside
  have turns : Yields (chunks MeshChunkID.ofMesh (meshBody fuel) fuel () (reader.advance 1))
      (mesh.parts.foldlM (fun found part => decodePart part found) ((), [], []))
      (Past · [] ·) := by
    refine chunks_yields (fun _ isNone => isNone.elim) follows (fun _ => id_mem_ofMesh) ?_ few ()
      inside
    intro part isPart found state reader rest' follows ready isLength
    apply yields_meshBody part (Nat.lt_trans (payload_lt_of_mem isPart) enough) _ ready isLength
    exact follows.mono fun _ isAfter => isAfter.resolve_right id
  have isRead : reader.readMesh fuel =
      (chunks MeshChunkID.ofMesh (meshBody fuel) fuel () (reader.advance 1)).bind fun found =>
        .ok ((), found.2.backpedalChunkHeader) := by
    have more : (reader.stream.advance 1).eof = false := inside.isAt.good.1
    simp only [readMesh, isSeek]
    rw [if_neg (by simp [more])]
    rfl
  rw [isRead]
  change Yields _ (mesh.parts.foldlM (fun found part => decodePart part found) ((), [], [])) _
  cases isDecoded : mesh.parts.foldlM (fun found part => decodePart part found) ((), [], []) with
  | error failure =>
    rw [isDecoded] at turns
    rw [show chunks MeshChunkID.ofMesh (meshBody fuel) fuel () (reader.advance 1) =
      .error failure from turns]
    rfl
  | ok found =>
    rw [isDecoded] at turns
    rcases turns with ⟨reader', isChunks, past⟩
    rw [isChunks]
    exact ⟨_, rfl, past.stands⟩

theorem Stands.readChunk_end (stands : Stands reader [] state) :
    reader.readChunk.2.stream.eof = true ∧ reader.readChunk.2.vertices = state.1 ∧
      reader.readChunk.2.indices = state.2 := by
  cases isEnd : reader.stream.eof with
  | false =>
    rcases (stands.ready isEnd).readChunk_end with ⟨isEnd', -, vertices, indices⟩
    exact ⟨isEnd', vertices, indices⟩
  | true =>
    simp [OgreMeshDeserializer.readChunk, OgreMeshDeserializer.readShort,
      OgreMeshDeserializer.readInt, OgreMeshDeserializer.readNumber, InputStream.read, isEnd,
      stands.vertices, stands.indices]

theorem determineEndianness_bytes :
    (opened mesh.bytes).determineEndianness = .ok (opened mesh.bytes) := by
  have isAt : (opened mesh.bytes).stream.At (shortBytes MeshChunkID.header ++ _) :=
    InputStream.at_opened mesh.bytes
  have read := isAt.read
  rw [length_shortBytes] at read
  simp only [determineEndianness, read, length_shortBytes, ne_eq, not_true_eq_false, if_false,
    ofBytes_shortBytes, if_true]
  rfl

theorem readFileHeader_bytes :
    ∃ reader, (opened mesh.bytes).readFileHeader = .ok reader ∧
      Ready reader (chunkBytes MeshChunkID.mesh (boolBytes mesh.skeletallyAnimated ++
        mesh.parts.flatMap fun part => chunkBytes part.id part.payload)) ([], []) := by
  have ready : Ready (opened mesh.bytes) mesh.bytes ([], []) :=
    ⟨rfl, InputStream.at_opened mesh.bytes, rfl, rfl⟩
  have isVersion : ogreMeshVersion ≠ [] ∧ newline ∉ ogreMeshVersion := by decide
  have named := Ready.afterShort ready
  rcases named.readString isVersion.1 isVersion.2 with ⟨isText, after⟩
  refine ⟨_, ?_, after⟩
  simp only [readFileHeader, Ready.readShort ready, defined, bind, Except.bind, isText, if_true,
    ne_eq, not_true_eq_false, if_false]

theorem deserialize_eq_readMesh (turns : Nat) :
    ∃ reader, Ready reader (boolBytes mesh.skeletallyAnimated ++
        mesh.parts.flatMap fun part => chunkBytes part.id part.payload) ([], []) ∧
      deserialize (turns + 2) mesh.bytes =
        (reader.readMesh (turns + 2)).bind fun found =>
          (fileLoop (turns + 2) (turns + 1) found.2.readChunk.1 found.2.readChunk.2).bind
            fun found => .ok found.2 := by
  rcases readFileHeader_bytes mesh with ⟨reader, isHeader, ready⟩
  have inside := Ready.intoChunk ready
  refine ⟨_, inside, ?_⟩
  simp only [deserialize, determineEndianness_bytes, isHeader, Ready.readChunk ready, bind,
    Except.bind, fileLoop, inside.isAt.good.1, Bool.false_eq_true, if_false, defined, if_true]
  cases readMesh (turns + 2) _ with
  | error failure => rfl
  | ok found => rfl

theorem deserialize_eq_decode (enough : mesh.bytes.length < fuel) :
    (∀ failure, decode mesh = .error failure → deserialize fuel mesh.bytes = .error failure) ∧
      ∀ vertices indices, decode mesh = .ok ((), vertices, indices) →
        ∃ reader, deserialize fuel mesh.bytes = .ok reader ∧ reader.vertices = vertices ∧
          reader.indices = indices := by
  have some : 2 ≤ mesh.bytes.length := by
    simp only [Mesh.bytes, length_append, length_shortBytes]
    omega
  obtain ⟨turns, rfl⟩ : ∃ turns, fuel = turns + 2 := ⟨fuel - 2, by omega⟩
  rcases deserialize_eq_readMesh mesh turns with ⟨reader, ready, isRead⟩
  have isMesh := yields_mesh mesh enough ready
  rw [isRead]
  constructor
  · intro failure isError
    rw [isError] at isMesh
    rw [show reader.readMesh (turns + 2) = .error failure from isMesh]
    rfl
  · intro vertices indices isOk
    rw [isOk] at isMesh
    rcases isMesh with ⟨reader', isRead', stands⟩
    rcases stands.readChunk_end with ⟨isEnd, areVertices, areIndices⟩
    refine ⟨reader'.readChunk.2, ?_, areVertices, areIndices⟩
    rw [isRead']
    simp only [Except.bind, fileLoop, isEnd, if_true]

end OgreMeshDeserializer

end Cyphesis.Simulation
