import Cyphesis.Foundation.InputStream

/-!
# Reading meshes

`OgreMeshDeserializer` takes vertices and indices out of a mesh file. A loop over chunks reads one
header too many and seeks back. What is not defined has no value. The loops are bounded.
-/

namespace Cyphesis.Simulation

open Cyphesis.Foundation

namespace MeshChunkID

def header : UInt16 := 0x1000
def otherEndianHeader : UInt16 := 0x0010
def mesh : UInt16 := 0x3000
def subMesh : UInt16 := 0x4000
def subMeshOperation : UInt16 := 0x4010
def subMeshBoneAssignment : UInt16 := 0x4100
def subMeshTextureAlias : UInt16 := 0x4200
def geometry : UInt16 := 0x5000
def geometryVertexDeclaration : UInt16 := 0x5100
def geometryVertexElement : UInt16 := 0x5110
def geometryVertexBuffer : UInt16 := 0x5200
def geometryVertexBufferData : UInt16 := 0x5210
def meshSkeletonLink : UInt16 := 0x6000
def meshBoneAssignment : UInt16 := 0x7000
def meshLodLevel : UInt16 := 0x8000
def meshBounds : UInt16 := 0x9000
def subMeshNameTable : UInt16 := 0xA000
def edgeLists : UInt16 := 0xB000
def poses : UInt16 := 0xC000
def animations : UInt16 := 0xD000
def tableExtremes : UInt16 := 0xE000

/-- What a geometry consists of. -/
def ofGeometry : List UInt16 :=
  [geometryVertexDeclaration, geometryVertexBuffer]

/-- What may follow in a submesh. -/
def ofSubMesh : List UInt16 :=
  [subMeshBoneAssignment, subMeshOperation, subMeshTextureAlias]

/-- What a mesh skips. -/
def skippedInMesh : List UInt16 :=
  [meshSkeletonLink, meshBoneAssignment, meshLodLevel, subMeshNameTable, edgeLists, poses,
    animations, tableExtremes]

/-- What a mesh consists of. -/
def ofMesh : List UInt16 :=
  geometry :: subMesh :: meshBounds :: skippedInMesh

end MeshChunkID

/-- `VES_POSITION` -/
def vesPosition : UInt16 := 1

/-- `VET_FLOAT3` -/
def vetFloat3 : UInt16 := 2

/-- `OGRE_MESH_VERSION` -/
def ogreMeshVersion : List UInt8 :=
  "[MeshSerializer_v1.100]".toList.map fun char => UInt8.ofNat char.toNat

def newline : UInt8 := 10

def textOf (bytes : List UInt8) : String :=
  String.ofList (bytes.map fun byte => Char.ofNat byte.toNat)

structure VertexElement where
  source : UInt16
  vType : UInt16
  vSemantic : UInt16
  offset : UInt16
  index : UInt16

inductive MeshFailure where
  | undefined
  | thrown (message : String)
  | outOfFuel

structure OgreMeshDeserializer where
  stream : InputStream
  flipEndian : Bool
  currentstreamLen : UInt32
  vertices : List UInt32
  indices : List UInt32
  /-- `m_bounds` and `m_radius` -/
  bounds : List UInt32

/-- Value of something that had to be read. -/
def defined {α : Type} (value : Option α) : Except MeshFailure α :=
  match value with
  | some value => .ok value
  | none => .error .undefined

namespace OgreMeshDeserializer

def opened (bytes : List UInt8) : OgreMeshDeserializer :=
  { stream := .opened bytes
    flipEndian := false
    currentstreamLen := 0
    vertices := []
    indices := []
    bounds := [] }

variable (reader : OgreMeshDeserializer)

def flipFromLittleEndian (data : List UInt8) : List UInt8 :=
  if reader.flipEndian then data.reverse else data

def readNumber (size : Nat) : Option Nat × OgreMeshDeserializer :=
  let (data, stream) := reader.stream.read size
  (if data.length = size then some (ofBytes (reader.flipFromLittleEndian data)) else none,
    { reader with stream := stream })

def readShort : Option UInt16 × OgreMeshDeserializer :=
  let (value, reader) := reader.readNumber 2
  (value.map UInt16.ofNat, reader)

def readInt : Option UInt32 × OgreMeshDeserializer :=
  let (value, reader) := reader.readNumber 4
  (value.map UInt32.ofNat, reader)

def readBool : Option Bool × OgreMeshDeserializer :=
  let (value, reader) := reader.readNumber 1
  (value.map fun byte => byte != 0, reader)

/-- `readShorts` and `readInts`, over zeros. -/
def readNumbers (size count : Nat) : List Nat × OgreMeshDeserializer :=
  let (data, stream) := reader.stream.read (size * count)
  let filled := data ++ List.replicate (size * count - data.length) 0
  ((groups size count filled).map fun bytes => ofBytes (reader.flipFromLittleEndian bytes),
    { reader with stream := stream })

/-- `readFloats`, one by one. -/
def readFloats (reader : OgreMeshDeserializer) : Nat → List (Option UInt32) × OgreMeshDeserializer
  | 0 => ([], reader)
  | count + 1 =>
    let (value, reader) := reader.readInt
    let (values, reader) := reader.readFloats count
    (value :: values, reader)

def readString : List UInt8 × OgreMeshDeserializer :=
  let (text, stream) := reader.stream.getUntil newline
  (text, { reader with stream := stream.seek 1 })

def readChunk : Option UInt16 × OgreMeshDeserializer :=
  let (id, reader) := reader.readShort
  let (length, reader) := reader.readInt
  (id, { reader with currentstreamLen := length.getD reader.currentstreamLen })

/-- `calcChunkHeaderSize` -/
def chunkHeaderSize : Nat := 6

def skipChunk : OgreMeshDeserializer :=
  { reader with
    stream := reader.stream.seek ((reader.currentstreamLen.toNat : Int) - chunkHeaderSize) }

def backpedalChunkHeader : OgreMeshDeserializer :=
  if reader.stream.eof then reader
  else { reader with stream := reader.stream.seek (-(chunkHeaderSize : Int)) }

/-- Loops over sub-chunks looked for. -/
def chunkLoop {α : Type} (ids : List UInt16)
    (body : UInt16 → α → OgreMeshDeserializer → Except MeshFailure (α × OgreMeshDeserializer)) :
    Nat → Option UInt16 → α → OgreMeshDeserializer → Except MeshFailure (α × OgreMeshDeserializer)
  | 0, _, _, _ => .error .outOfFuel
  | fuel + 1, streamID, found, reader =>
    if reader.stream.eof then .ok (found, reader)
    else do
      let id ← defined streamID
      if ids.contains id then
        let (found, reader) ← body id found reader
        if reader.stream.eof then chunkLoop ids body fuel streamID found reader
        else
          let (next, reader) := reader.readChunk
          chunkLoop ids body fuel next found reader
      else .ok (found, reader)

/-- A loop over sub-chunks. -/
def chunks {α : Type} (ids : List UInt16)
    (body : UInt16 → α → OgreMeshDeserializer → Except MeshFailure (α × OgreMeshDeserializer))
    (fuel : Nat) (found : α) (reader : OgreMeshDeserializer) :
    Except MeshFailure (α × OgreMeshDeserializer) :=
  let (streamID, reader) := reader.readChunk
  chunkLoop ids body fuel streamID found reader

def readGeometryVertexElement : VertexElement × OgreMeshDeserializer :=
  let (source, reader) := reader.readShort
  let (vType, reader) := reader.readShort
  let (vSemantic, reader) := reader.readShort
  let (offset, reader) := reader.readShort
  let (index, reader) := reader.readShort
  ({ source := source.getD 0, vType := vType.getD 0, vSemantic := vSemantic.getD 0,
     offset := offset.getD 0, index := index.getD 0 }, reader)

variable (fuel : Nat)

def readGeometryVertexDeclaration (reader : OgreMeshDeserializer) :
    Except MeshFailure (List VertexElement × OgreMeshDeserializer) :=
  if reader.stream.eof then .ok ([], reader)
  else do
    let (elements, reader) ← chunks [MeshChunkID.geometryVertexElement]
      (fun _ elements reader =>
        let (element, reader) := reader.readGeometryVertexElement
        .ok (elements ++ [element], reader)) fuel [] reader
    .ok (elements, reader.backpedalChunkHeader)

variable (vertexCount : UInt32)

def readGeometryVertexBuffer (reader : OgreMeshDeserializer) :
    Except MeshFailure (List UInt8 × OgreMeshDeserializer) := do
  let (_, reader) := reader.readShort
  let (vertexSize, reader) := reader.readShort
  let (headerID, reader) := reader.readChunk
  let headerID ← defined headerID
  if headerID ≠ MeshChunkID.geometryVertexBufferData then
    .error (.thrown "Can't find vertex buffer data area")
  else
    let vertexSize ← defined vertexSize
    let size := (vertexCount * vertexSize.toUInt32).toNat
    let (data, stream) := reader.stream.read size
    .ok (data ++ List.replicate (size - data.length) 0, { reader with stream := stream })

variable (buffer : List UInt8) (start : Nat)

/-- Float that starts at a byte of a buffer. -/
def floatAt : UInt32 :=
  UInt32.ofNat (ofBytes ((buffer.drop start).take 4))

/-- Three floats that start there. -/
def positionAt : List UInt32 :=
  [floatAt buffer start, floatAt buffer (start + 4), floatAt buffer (start + 8)]

/-- What the loop over vertices adds. -/
def pushPositions (vertexBuffer : List UInt8) (element : VertexElement)
    (vertices : List UInt32) : Except MeshFailure (List UInt32) :=
  let vertexSize := vertexBuffer.length / vertexCount.toNat
  (List.range vertexCount.toNat).foldlM (fun vertices i =>
    if element.vType = vetFloat3 then
      let start := i * vertexSize + element.offset.toNat
      if start + 12 ≤ vertexBuffer.length then .ok (vertices ++ positionAt vertexBuffer start)
      else .error .undefined
    else .ok vertices) vertices

/-- Loop over the elements. -/
def readPositions (vertexBuffers : List (List UInt8))
    (elements : List VertexElement) (vertices : List UInt32) :
    Except MeshFailure (List UInt32) :=
  elements.foldlM (fun vertices element =>
    if element.vSemantic = vesPosition then do
      let vertexBuffer ← defined vertexBuffers[element.source.toNat]?
      if vertexCount = 0 then .error .undefined
      else pushPositions vertexCount vertexBuffer element vertices
    else .ok vertices) vertices

def readGeometry (reader : OgreMeshDeserializer) :
    Except MeshFailure (Unit × OgreMeshDeserializer) :=
  let (read, reader) := reader.readInt
  let vertexCount := read.getD 0
  if reader.stream.eof then .ok ((), reader)
  else do
    let ((elements, vertexBuffers), reader) ← chunks MeshChunkID.ofGeometry
      (fun id (elements, vertexBuffers) reader =>
        if id = MeshChunkID.geometryVertexDeclaration then do
          let (elements, reader) ← reader.readGeometryVertexDeclaration fuel
          .ok ((elements, vertexBuffers), reader)
        else do
          let (vertexBuffer, reader) ← reader.readGeometryVertexBuffer vertexCount
          .ok ((elements, vertexBuffers ++ [vertexBuffer]), reader))
      fuel ([], []) reader
    let vertices ← readPositions vertexCount vertexBuffers elements reader.vertices
    .ok ((), { reader with vertices := vertices }.backpedalChunkHeader)

/-- Indices of a submesh. -/
def readIndices (indexCount : UInt32) (idx32bit : Bool) (offset : Nat)
    (reader : OgreMeshDeserializer) : OgreMeshDeserializer :=
  if indexCount > 0 then
    let (read, reader) := reader.readNumbers (if idx32bit then 4 else 2) indexCount.toNat
    { reader with
      indices := reader.indices ++ read.map fun index => UInt32.ofNat (index + offset) }
  else reader

def readSubMesh (reader : OgreMeshDeserializer) :
    Except MeshFailure (Unit × OgreMeshDeserializer) := do
  let (_, reader) := reader.readString
  let (useSharedVertices, reader) := reader.readBool
  let useSharedVertices ← defined useSharedVertices
  let offset := if useSharedVertices then 0 else reader.vertices.length / 3
  let (indexCount, reader) := reader.readInt
  let (idx32bit, reader) := reader.readBool
  let idx32bit ← defined idx32bit
  let reader := reader.readIndices (indexCount.getD 0) idx32bit offset
  let ((), reader) ←
    if useSharedVertices then .ok ((), reader)
    else do
      let (streamID, reader) := reader.readChunk
      let streamID ← defined streamID
      if streamID ≠ MeshChunkID.geometry then
        .error (.thrown "Missing geometry data in mesh file")
      else reader.readGeometry fuel
  if reader.stream.eof then .ok ((), reader)
  else do
    let ((), reader) ← chunks MeshChunkID.ofSubMesh
      (fun _ _ reader => .ok ((), reader.skipChunk)) fuel () reader
    .ok ((), reader.backpedalChunkHeader)

def readBoundsInfo : Except MeshFailure (Unit × OgreMeshDeserializer) := do
  let (values, reader) := reader.readFloats 7
  let values ← values.mapM defined
  .ok ((), { reader with bounds := values })

def readMesh (reader : OgreMeshDeserializer) : Except MeshFailure (Unit × OgreMeshDeserializer) :=
  let reader := { reader with stream := reader.stream.seek 1 }
  if reader.stream.eof then .ok ((), reader)
  else do
    let ((), reader) ← chunks MeshChunkID.ofMesh
      (fun id _ reader =>
        if id = MeshChunkID.geometry then reader.readGeometry fuel
        else if id = MeshChunkID.subMesh then reader.readSubMesh fuel
        else if id = MeshChunkID.meshBounds then reader.readBoundsInfo
        else .ok ((), reader.skipChunk)) fuel () reader
    .ok ((), reader.backpedalChunkHeader)

def determineEndianness : Except MeshFailure OgreMeshDeserializer :=
  let (data, _) := reader.stream.read 2
  if data.length ≠ 2 then
    .error (.thrown "Couldn't read 16 bit header value from input stream.")
  else if UInt16.ofNat (ofBytes data) = MeshChunkID.header then
    .ok { reader with flipEndian := false }
  else if UInt16.ofNat (ofBytes data) = MeshChunkID.otherEndianHeader then
    .ok { reader with flipEndian := true }
  else .error (.thrown "Header chunk didn't match either endian: Corrupted stream?")

def readFileHeader : Except MeshFailure OgreMeshDeserializer := do
  let (headerID, reader) := reader.readShort
  let headerID ← defined headerID
  if headerID = MeshChunkID.header then
    let (ver, reader) := reader.readString
    if ver ≠ ogreMeshVersion then
      .error (.thrown ("Invalid file: version incompatible, file reports " ++ textOf ver ++
        " Deserializer is version " ++ textOf ogreMeshVersion))
    else .ok reader
  else .error (.thrown "Invalid file: no header")

/-- Loop over the chunks of the file. -/
def fileLoop (limit : Nat) :
    Nat → Option UInt16 → OgreMeshDeserializer → Except MeshFailure (Unit × OgreMeshDeserializer)
  | 0, _, _ => .error .outOfFuel
  | fuel + 1, streamID, reader =>
    if reader.stream.eof then .ok ((), reader)
    else do
      let id ← defined streamID
      let ((), reader) ←
        if id = MeshChunkID.mesh then reader.readMesh limit else .ok ((), reader.skipChunk)
      let (next, reader) := reader.readChunk
      fileLoop limit fuel next reader

/-- `deserialize`, of a stream with these bytes. -/
def deserialize (bytes : List UInt8) : Except MeshFailure OgreMeshDeserializer := do
  let reader ← (opened bytes).determineEndianness
  let reader ← reader.readFileHeader
  let (streamID, reader) := reader.readChunk
  let ((), reader) ← fileLoop fuel fuel streamID reader
  .ok reader

end OgreMeshDeserializer

end Cyphesis.Simulation
