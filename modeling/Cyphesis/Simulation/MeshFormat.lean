import Cyphesis.Simulation.OgreMeshDeserializer

/-!
# The mesh format

A mesh as a tree, the bytes the format prescribes for it, and what should be read from them.
-/

namespace Cyphesis.Simulation

open Cyphesis.Foundation
open OgreMeshDeserializer (positionAt)

/-- The length includes the header. -/
def chunkBytes (id : UInt16) (payload : List UInt8) : List UInt8 :=
  shortBytes id ++ (intBytes (UInt32.ofNat (payload.length + 6)) ++ payload)

/-- A chunk with any data. -/
structure OptionalChunk where
  id : UInt16
  payload : List UInt8
  fits : payload.length + 6 < 2 ^ 32

structure VertexBuffer where
  bindIndex : UInt16
  vertexSize : UInt16
  data : List UInt8

def VertexElement.payload (element : VertexElement) : List UInt8 :=
  shortBytes element.source ++ (shortBytes element.vType ++ (shortBytes element.vSemantic ++
    (shortBytes element.offset ++ shortBytes element.index)))

inductive GeometryPart where
  | declaration (elements : List VertexElement)
  | buffer (entry : VertexBuffer)

namespace GeometryPart

def id : GeometryPart → UInt16
  | .declaration _ => MeshChunkID.geometryVertexDeclaration
  | .buffer _ => MeshChunkID.geometryVertexBuffer

def payload : GeometryPart → List UInt8
  | .declaration elements =>
    elements.flatMap fun element => chunkBytes MeshChunkID.geometryVertexElement element.payload
  | .buffer entry =>
    shortBytes entry.bindIndex ++ (shortBytes entry.vertexSize ++
      chunkBytes MeshChunkID.geometryVertexBufferData entry.data)

end GeometryPart

/-- A geometry, with its element and buffer. -/
structure MeshGeometry where
  vertexCount : UInt32
  elements : List VertexElement
  buffers : List VertexBuffer
  position : VertexElement
  positionBuffer : VertexBuffer
  sized : ∀ buffer ∈ buffers, buffer.data.length = vertexCount.toNat * buffer.vertexSize.toNat
  fits : ∀ buffer ∈ buffers, buffer.data.length + 6 < 2 ^ 32
  bound : (buffers.map VertexBuffer.bindIndex).Nodup
  onePosition : elements.filter (fun element => element.vSemantic = vesPosition) = [position]
  isFloat3 : position.vType = vetFloat3
  isBuffer : positionBuffer ∈ buffers
  isBound : positionBuffer.bindIndex = position.source
  inside : position.offset.toNat + 12 ≤ positionBuffer.vertexSize.toNat

namespace MeshGeometry

variable (geometry : MeshGeometry)

def parts : List GeometryPart :=
  .declaration geometry.elements :: geometry.buffers.map .buffer

def payload (geometry : MeshGeometry) : List UInt8 :=
  intBytes geometry.vertexCount ++
    geometry.parts.flatMap fun part => chunkBytes part.id part.payload

/-- Positions of the vertices in a buffer. -/
def positionsIn (buffer : VertexBuffer) : List UInt32 :=
  (List.range geometry.vertexCount.toNat).flatMap fun i =>
    positionAt buffer.data (i * buffer.vertexSize.toNat + geometry.position.offset.toNat)

def positions : List UInt32 :=
  geometry.positionsIn geometry.positionBuffer

end MeshGeometry

inductive MeshIndices where
  | shorts (indices : List UInt16)
  | ints (indices : List UInt32)

namespace MeshIndices

def values : MeshIndices → List Nat
  | .shorts indices => indices.map UInt16.toNat
  | .ints indices => indices.map UInt32.toNat

def bytes : MeshIndices → List UInt8
  | .shorts indices => indices.flatMap shortBytes
  | .ints indices => indices.flatMap intBytes

def idx32bit : MeshIndices → Bool
  | .shorts _ => false
  | .ints _ => true

end MeshIndices

def boolBytes (value : Bool) : List UInt8 :=
  [if value then 1 else 0]

/-- A submesh, perhaps with the shared geometry. -/
structure SubMesh where
  materialName : List UInt8
  indices : MeshIndices
  geometry : Option MeshGeometry
  parts : List OptionalChunk
  oneLine : newline ∉ materialName
  countable : indices.values.length < 2 ^ 32
  allowed : ∀ part ∈ parts, part.id ∈ MeshChunkID.ofSubMesh

namespace SubMesh

def payload (subMesh : SubMesh) : List UInt8 :=
  subMesh.materialName ++ newline :: (boolBytes subMesh.geometry.isNone ++
    (intBytes (UInt32.ofNat subMesh.indices.values.length) ++
      (boolBytes subMesh.indices.idx32bit ++ (subMesh.indices.bytes ++
        ((subMesh.geometry.elim [] fun geometry =>
          chunkBytes MeshChunkID.geometry geometry.payload) ++
          subMesh.parts.flatMap fun part => chunkBytes part.id part.payload)))))

def positions (subMesh : SubMesh) : List UInt32 :=
  subMesh.geometry.elim [] MeshGeometry.positions

def vertexCount (subMesh : SubMesh) : Nat :=
  subMesh.geometry.elim 0 fun geometry => geometry.vertexCount.toNat

/-- Indices, with the vertices before. -/
def indicesFrom (subMesh : SubMesh) (before : Nat) : List Nat :=
  subMesh.indices.values.map (· + if subMesh.geometry.isNone then 0 else before)

end SubMesh

/-- Any other chunk of a mesh. -/
structure MeshOption extends OptionalChunk where
  allowed : id ∈ MeshChunkID.skippedInMesh ∨ id = MeshChunkID.meshBounds ∧ payload.length = 28

inductive MeshPart where
  | geometry (shared : MeshGeometry)
  | subMesh (entry : SubMesh)
  | option (part : MeshOption)

namespace MeshPart

def id : MeshPart → UInt16
  | .geometry _ => MeshChunkID.geometry
  | .subMesh _ => MeshChunkID.subMesh
  | .option part => part.id

def payload : MeshPart → List UInt8
  | .geometry shared => shared.payload
  | .subMesh entry => entry.payload
  | .option part => part.payload

def positions : MeshPart → List UInt32
  | .geometry shared => shared.positions
  | .subMesh entry => entry.positions
  | .option _ => []

def vertexCount : MeshPart → Nat
  | .geometry shared => shared.vertexCount.toNat
  | .subMesh entry => entry.vertexCount
  | .option _ => 0

def indicesFrom (before : Nat) : MeshPart → List Nat
  | .geometry _ => []
  | .subMesh entry => entry.indicesFrom before
  | .option _ => []

/-- Indices of all parts. -/
def allIndices : Nat → List MeshPart → List Nat
  | _, [] => []
  | before, part :: rest => part.indicesFrom before ++ allIndices (before + part.vertexCount) rest

end MeshPart

/-- What follows the shared geometry. -/
inductive MeshContent where
  | subMesh (entry : SubMesh)
  | option (part : MeshOption)

def MeshContent.part : MeshContent → MeshPart
  | .subMesh entry => .subMesh entry
  | .option part => .option part

structure Mesh where
  skeletallyAnimated : Bool
  leading : List MeshOption
  shared : Option MeshGeometry
  contents : List MeshContent
  usable : shared = none → ∀ subMesh, .subMesh subMesh ∈ contents → subMesh.geometry.isSome

namespace Mesh

variable (mesh : Mesh)

def parts : List MeshPart :=
  mesh.leading.map .option ++ (mesh.shared.toList.map .geometry ++
    mesh.contents.map MeshContent.part)

/-- File of a mesh. -/
def bytes : List UInt8 :=
  shortBytes MeshChunkID.header ++ (ogreMeshVersion ++ newline ::
    chunkBytes MeshChunkID.mesh (boolBytes mesh.skeletallyAnimated ++
      mesh.parts.flatMap fun part => chunkBytes part.id part.payload))

def positions (mesh : Mesh) : List UInt32 :=
  mesh.parts.flatMap MeshPart.positions

def indices : List Nat :=
  MeshPart.allIndices 0 mesh.parts

end Mesh

end Cyphesis.Simulation
