import Cyphesis.Simulation.MeshDecoding
import Mathlib.Data.List.Forall2

/-!
# Which meshes are read as they are

The positions are taken from the buffer whose place is the number that the element names, and not
from the buffer that is bound to that number.
-/

namespace Cyphesis.Simulation

open Cyphesis.Foundation List
open OgreMeshDeserializer

theorem foldlM_append_if {pass : Nat → Prop} [DecidablePred pass] (failure : MeshFailure)
    (values : Nat → List UInt32) (places : List Nat) (found : List UInt32) :
    (places.foldlM (fun found place =>
        if pass place then .ok (found ++ values place) else .error failure) found :
          Except MeshFailure (List UInt32)) =
      if ∀ place ∈ places, pass place then .ok (found ++ places.flatMap values)
      else .error failure := by
  induction places generalizing found with
  | nil => simp [pure, Except.pure]
  | cons place others ih =>
    rw [foldlM_cons]
    by_cases passes : pass place
    · rw [if_pos passes]
      simp only [bind, Except.bind, ih, forall_mem_cons, passes, true_and,
        flatMap_cons, append_assoc]
    · rw [if_neg passes, if_neg (fun all => passes (all place mem_cons_self))]
      rfl

namespace MeshGeometry

variable (geometry : MeshGeometry)

/-- Read from the buffer it names. -/
def Reads (values : List UInt32) : Prop :=
  geometry.vertexCount ≠ 0 ∧
    ∃ buffer, geometry.buffers[geometry.position.source.toNat]? = some buffer ∧
      geometry.position.offset.toNat + 12 ≤ buffer.vertexSize.toNat ∧
      values = geometry.positionsIn buffer

theorem length_positionsIn (buffer : VertexBuffer) :
    (geometry.positionsIn buffer).length = 3 * geometry.vertexCount.toNat := by
  simp [positionsIn, positionAt, length_flatMap, map_const', Nat.mul_comm]

theorem Reads.length_eq {geometry : MeshGeometry} {values : List UInt32}
    (reads : geometry.Reads values) : values.length = 3 * geometry.vertexCount.toNat := by
  rcases reads with ⟨-, buffer, -, -, rfl⟩
  exact geometry.length_positionsIn buffer

theorem reads_positions_of_inOrder (vertices : geometry.vertexCount ≠ 0)
    (inOrder : ∀ (place : Nat) (buffer : VertexBuffer), geometry.buffers[place]? = some buffer →
      buffer.bindIndex.toNat = place) :
    geometry.Reads geometry.positions := by
  rcases List.mem_iff_getElem?.mp geometry.isBuffer with ⟨place, isPlace⟩
  have isNumber := inOrder place geometry.positionBuffer isPlace
  rw [geometry.isBound] at isNumber
  rw [← isNumber] at isPlace
  exact ⟨vertices, geometry.positionBuffer, isPlace, geometry.inside, rfl⟩

theorem inside_iff {count size offset : Nat} (some : 0 < count) :
    (∀ place ∈ List.range count, place * size + offset + 12 ≤ count * size) ↔
      offset + 12 ≤ size := by
  constructor
  · intro all
    have last := all (count - 1) (List.mem_range.mpr (by omega))
    have split : count * size = (count - 1) * size + size := by
      rw [← Nat.succ_mul, Nat.succ_eq_add_one, Nat.sub_add_cancel some]
    omega
  · intro fits place isPlace
    have next : (place + 1) * size ≤ count * size :=
      Nat.mul_le_mul_right size (List.mem_range.mp isPlace)
    rw [Nat.succ_mul] at next
    omega

theorem pushPositions_eq {buffer : VertexBuffer} (isBuffer : buffer ∈ geometry.buffers)
    (some : geometry.vertexCount ≠ 0) (vertices : List UInt32) :
    pushPositions geometry.vertexCount buffer.data geometry.position vertices =
      if geometry.position.offset.toNat + 12 ≤ buffer.vertexSize.toNat then
        .ok (vertices ++ geometry.positionsIn buffer)
      else .error .undefined := by
  have positive : 0 < geometry.vertexCount.toNat := by
    apply Nat.pos_of_ne_zero
    intro isZero
    exact some (UInt32.toNat_inj.mp isZero)
  have sized := geometry.sized buffer isBuffer
  have isSize : buffer.data.length / geometry.vertexCount.toNat = buffer.vertexSize.toNat := by
    rw [sized, Nat.mul_div_cancel_left _ positive]
  simp only [pushPositions, geometry.isFloat3, if_true, isSize]
  rw [foldlM_append_if, sized]
  simp only [inside_iff positive]
  rfl

theorem readPositions_eq (vertexBuffers : List (List UInt8)) (vertices : List UInt32) :
    readPositions geometry.vertexCount vertexBuffers geometry.elements vertices = (do
      let vertexBuffer ← defined vertexBuffers[geometry.position.source.toNat]?
      if geometry.vertexCount = 0 then .error .undefined
      else pushPositions geometry.vertexCount vertexBuffer geometry.position vertices) := by
  have filtered := @List.foldlM_filter (Except MeshFailure) _ _ _ _
    (fun element : VertexElement => decide (element.vSemantic = vesPosition))
    (fun (vertices : List UInt32) element => do
      let vertexBuffer ← defined vertexBuffers[element.source.toNat]?
      if geometry.vertexCount = 0 then .error .undefined
      else pushPositions geometry.vertexCount vertexBuffer element vertices)
    geometry.elements vertices
  simp only [decide_eq_true_eq] at filtered
  rw [readPositions]
  refine filtered.symm.trans ?_
  rw [geometry.onePosition, foldlM_cons]
  exact bind_pure _

theorem readPositions_ok_iff {vertices next : List UInt32} :
    readPositions geometry.vertexCount (geometry.buffers.map VertexBuffer.data) geometry.elements
        vertices = .ok next ↔
      ∃ values, geometry.Reads values ∧ next = vertices ++ values := by
  rw [readPositions_eq, getElem?_map]
  cases isBuffer : geometry.buffers[geometry.position.source.toNat]? with
  | none =>
    constructor
    · intro isOk
      cases isOk
    · rintro ⟨values, ⟨-, buffer, isSome, -⟩, -⟩
      simp [isBuffer] at isSome
  | some buffer =>
    simp only [Option.map_some, defined, bind, Except.bind]
    by_cases isZero : geometry.vertexCount = 0
    · rw [if_pos isZero]
      constructor
      · intro isOk
        cases isOk
      · rintro ⟨values, ⟨some, -⟩, -⟩
        exact absurd isZero some
    · rw [if_neg isZero, pushPositions_eq geometry (mem_of_getElem? isBuffer) isZero]
      by_cases inside : geometry.position.offset.toNat + 12 ≤ buffer.vertexSize.toNat
      · rw [if_pos inside]
        constructor
        · intro isOk
          refine ⟨geometry.positionsIn buffer, ⟨isZero, buffer, isBuffer, inside, rfl⟩, ?_⟩
          exact (Except.ok.inj isOk).symm
        · rintro ⟨values, ⟨-, found, isFound, -, rfl⟩, rfl⟩
          obtain rfl := Option.some.inj (isBuffer.symm.trans isFound)
          rfl
      · rw [if_neg inside]
        constructor
        · intro isOk
          cases isOk
        · rintro ⟨values, ⟨-, found, isFound, fits, -⟩, -⟩
          obtain rfl := Option.some.inj (isBuffer.symm.trans isFound)
          exact absurd fits inside

theorem decodeGeometry_ok_iff {state next : List UInt32 × List UInt32} :
    decodeGeometry geometry state = .ok ((), next) ↔
      ∃ values, geometry.Reads values ∧ next = (state.1 ++ values, state.2) := by
  have isRead := @readPositions_ok_iff geometry state.1
  rw [decodeGeometry]
  cases read : readPositions geometry.vertexCount (geometry.buffers.map VertexBuffer.data)
    geometry.elements state.1 with
  | error failure =>
    rw [read] at isRead
    constructor
    · intro isOk
      cases isOk
    · rintro ⟨values, reads, -⟩
      have isOk := isRead.mpr ⟨values, reads, rfl⟩
      cases isOk
  | ok vertices =>
    rw [read] at isRead
    constructor
    · intro isOk
      rcases isRead.mp rfl with ⟨values, reads, rfl⟩
      exact ⟨values, reads, (Prod.mk.inj (Except.ok.inj isOk)).2.symm⟩
    · rintro ⟨values, reads, rfl⟩
      have isOk := isRead.mpr ⟨values, reads, rfl⟩
      rw [Except.ok.inj isOk]
      rfl

end MeshGeometry

/-- A submesh has to have a material name. -/
def SubMesh.Reads (subMesh : SubMesh) (values : List UInt32) : Prop :=
  subMesh.materialName ≠ [] ∧
    subMesh.geometry.elim (values = []) fun geometry => geometry.Reads values

namespace MeshPart

/-- These positions are read for a part. -/
def Reads : MeshPart → List UInt32 → Prop
  | .geometry shared, values => shared.Reads values
  | .subMesh entry, values => entry.Reads values
  | .option _, values => values = []

theorem Reads.length_eq {part : MeshPart} {values : List UInt32} (reads : part.Reads values) :
    values.length = 3 * part.vertexCount := by
  cases part with
  | geometry shared => exact MeshGeometry.Reads.length_eq reads
  | subMesh entry =>
    have inside := reads.2
    rw [vertexCount, SubMesh.vertexCount]
    cases isGeometry : entry.geometry with
    | none =>
      rw [isGeometry] at inside
      exact congrArg List.length inside
    | some geometry =>
      rw [isGeometry] at inside
      exact MeshGeometry.Reads.length_eq inside
  | option part => exact congrArg List.length reads

theorem length_positions (part : MeshPart) : part.positions.length = 3 * part.vertexCount := by
  cases part with
  | geometry shared => exact shared.length_positionsIn shared.positionBuffer
  | subMesh entry =>
    rw [positions, SubMesh.positions, vertexCount, SubMesh.vertexCount]
    cases entry.geometry with
    | none => rfl
    | some geometry => exact geometry.length_positionsIn geometry.positionBuffer
  | option part => rfl

theorem shifted_eq (subMesh : SubMesh) (state : List UInt32 × List UInt32) :
    shifted subMesh state =
      state.2 ++ (subMesh.indicesFrom (state.1.length / 3)).map UInt32.ofNat := by
  simp [shifted, SubMesh.indicesFrom]

theorem decodePart_ok_iff (part : MeshPart) {state next : List UInt32 × List UInt32} :
    decodePart part ((), state) = .ok ((), next) ↔
      ∃ values, part.Reads values ∧ next = (state.1 ++ values,
        state.2 ++ (part.indicesFrom (state.1.length / 3)).map UInt32.ofNat) := by
  cases part with
  | geometry shared =>
    rw [decodePart, shared.decodeGeometry_ok_iff]
    simp [Reads, indicesFrom]
  | subMesh entry =>
    rw [decodePart, decodeSubMesh]
    by_cases noName : entry.materialName = []
    · rw [if_pos noName]
      constructor
      · intro isOk
        cases isOk
      · rintro ⟨values, ⟨named, -⟩, -⟩
        exact absurd noName named
    · rw [if_neg noName]
      simp only [Reads, SubMesh.Reads, indicesFrom, ← shifted_eq]
      cases isGeometry : entry.geometry with
      | none =>
        simp [noName, eq_comm]
      | some geometry =>
        simp only [geometry.decodeGeometry_ok_iff]
        simp [noName]
  | option part =>
    simp [decodePart, Reads, indicesFrom, eq_comm]

theorem foldlM_decodePart_ok_iff (parts : List MeshPart) {state next : List UInt32 × List UInt32} :
    parts.foldlM (fun found part => decodePart part found) ((), state) = .ok ((), next) ↔
      ∃ lists, List.Forall₂ Reads parts lists ∧ next = (state.1 ++ lists.flatten,
        state.2 ++ (allIndices (state.1.length / 3) parts).map UInt32.ofNat) := by
  induction parts generalizing state with
  | nil => simp [allIndices, pure, Except.pure, eq_comm, forall₂_nil_left_iff]
  | cons part others ih =>
    rw [foldlM_cons]
    constructor
    · intro isOk
      cases isPart : decodePart part ((), state) with
      | error failure =>
        rw [isPart] at isOk
        cases isOk
      | ok middle =>
        rcases middle with ⟨⟨⟩, middle⟩
        rw [isPart] at isOk
        rcases (decodePart_ok_iff part).mp isPart with ⟨values, reads, rfl⟩
        rcases ih.mp isOk with ⟨lists, all, rfl⟩
        refine ⟨values :: lists, .cons reads all, ?_⟩
        simp [allIndices, reads.length_eq, Nat.add_mul_div_left]
    · rintro ⟨lists, all, rfl⟩
      cases all with
      | @cons _ values _ lists reads all =>
        have isPart := (@decodePart_ok_iff part state _).mpr ⟨values, reads, rfl⟩
        rw [isPart]
        refine ih.mpr ⟨lists, all, ?_⟩
        simp [allIndices, reads.length_eq, Nat.add_mul_div_left]

variable {parts : List MeshPart}

theorem forall_reads_of_flatten {lists : List (List UInt32)}
    (all : List.Forall₂ Reads parts lists) (same : lists.flatten = parts.flatMap positions) :
    ∀ part ∈ parts, part.Reads part.positions := by
  induction all with
  | nil => simp
  | @cons part values others lists reads all ih =>
    rw [flatten_cons, flatMap_cons] at same
    have long : values.length = part.positions.length := by
      rw [reads.length_eq, part.length_positions]
    rcases append_inj same long with ⟨rfl, later⟩
    exact List.forall_mem_cons.mpr ⟨reads, ih later⟩

theorem forall₂_reads_positions
    (all : ∀ part ∈ parts, part.Reads part.positions) :
    List.Forall₂ Reads parts (parts.map positions) := by
  induction parts with
  | nil => exact .nil
  | cons part others ih =>
    rcases List.forall_mem_cons.mp all with ⟨reads, later⟩
    exact .cons reads (ih later)

end MeshPart

theorem map_toNat_ofNat_iff (values : List Nat) :
    (values.map UInt32.ofNat).map UInt32.toNat = values ↔ ∀ value ∈ values, value < 2 ^ 32 := by
  induction values with
  | nil => simp
  | cons value others ih =>
    rw [map_cons, map_cons, List.cons.injEq, ih, forall_mem_cons]
    refine and_congr_left fun _ => ?_
    rw [UInt32.toNat_ofNat']
    constructor
    · intro same
      rw [← same]
      exact Nat.mod_lt _ (by decide)
    · exact Nat.mod_eq_of_lt

namespace Mesh

variable (mesh : Mesh)

/-- All is read, with 32-bit indices. -/
def Readable : Prop :=
  (∀ part ∈ mesh.parts, part.Reads part.positions) ∧ ∀ index ∈ mesh.indices, index < 2 ^ 32

/-- What was read is what the mesh has. -/
def IsIn (reader : OgreMeshDeserializer) : Prop :=
  reader.vertices = mesh.positions ∧ reader.indices.map UInt32.toNat = mesh.indices

theorem decode_ok_iff {vertices indices : List UInt32} :
    decode mesh = .ok ((), vertices, indices) ↔
      ∃ lists, List.Forall₂ MeshPart.Reads mesh.parts lists ∧ vertices = lists.flatten ∧
        indices = mesh.indices.map UInt32.ofNat := by
  rw [decode, MeshPart.foldlM_decodePart_ok_iff]
  simp [Mesh.indices]

/-- The positions of a mesh are read into the bounding box exactly if each geometry finds its own
buffer. -/
theorem deserialize_isIn_iff (fuel : Nat) (enough : mesh.bytes.length < fuel) :
    (∃ reader, deserialize fuel mesh.bytes = .ok reader ∧ mesh.IsIn reader) ↔ mesh.Readable := by
  rcases deserialize_eq_decode mesh enough with ⟨fails, succeeds⟩
  constructor
  · rintro ⟨reader, isRead, areVertices, areIndices⟩
    cases decoded : decode mesh with
    | error failure => cases isRead.symm.trans (fails failure decoded)
    | ok found =>
      rcases found with ⟨⟨⟩, vertices, indices⟩
      rcases succeeds vertices indices decoded with ⟨same, isSame, rfl, rfl⟩
      obtain rfl := Except.ok.inj (isRead.symm.trans isSame)
      rcases mesh.decode_ok_iff.mp decoded with ⟨lists, all, isFlat, isMapped⟩
      constructor
      · exact MeshPart.forall_reads_of_flatten all (isFlat.symm.trans areVertices)
      · rw [isMapped] at areIndices
        exact (map_toNat_ofNat_iff _).mp areIndices
  · rintro ⟨all, narrow⟩
    have decoded : decode mesh = .ok ((), mesh.positions, mesh.indices.map UInt32.ofNat) :=
      mesh.decode_ok_iff.mpr ⟨_, MeshPart.forall₂_reads_positions all, rfl, rfl⟩
    rcases succeeds _ _ decoded with ⟨reader, isRead, areVertices, areIndices⟩
    refine ⟨reader, isRead, areVertices, ?_⟩
    rw [areIndices]
    exact (map_toNat_ofNat_iff _).mpr narrow

/-- Positions of a mesh with one vertex. -/
def boundFirst : VertexBuffer :=
  { bindIndex := 0, vertexSize := 12, data := List.replicate 12 0 }

/-- Something else about that vertex. -/
def boundSecond : VertexBuffer :=
  { bindIndex := 1, vertexSize := 12, data := List.replicate 12 1 }

def positionElement : VertexElement :=
  { source := 0, vType := vetFloat3, vSemantic := vesPosition, offset := 0, index := 0 }

/-- Buffers in some order. -/
def twoBuffers (buffers : List VertexBuffer) (order : buffers.Perm [boundFirst, boundSecond]) :
    MeshGeometry :=
  { vertexCount := 1
    elements := [positionElement]
    buffers := buffers
    position := positionElement
    positionBuffer := boundFirst
    sized := fun buffer isBuffer => by
      rcases List.mem_pair.mp (order.mem_iff.mp isBuffer) with rfl | rfl
      · rfl
      · rfl
    fits := fun buffer isBuffer => by
      rcases List.mem_pair.mp (order.mem_iff.mp isBuffer) with rfl | rfl
      · decide
      · decide
    bound := (order.map VertexBuffer.bindIndex).nodup_iff.mpr (by decide)
    onePosition := rfl
    isFloat3 := rfl
    isBuffer := order.mem_iff.mpr mem_cons_self
    isBound := rfl
    inside := by decide }

/-- A triangle of that vertex. -/
def triangle : SubMesh :=
  { materialName := [97]
    indices := .shorts [0, 0, 0]
    geometry := none
    parts := []
    oneLine := by decide
    countable := by decide
    allowed := by simp }

def withTriangle (geometry : MeshGeometry) : Mesh :=
  { skeletallyAnimated := false
    leading := []
    shared := some geometry
    contents := [.subMesh triangle]
    usable := nofun }

/-- Buffers in the order of their numbers. -/
def straight : Mesh :=
  withTriangle (twoBuffers [boundFirst, boundSecond] (.refl _))

/-- Buffers in the other order. -/
def crossed : Mesh :=
  withTriangle (twoBuffers [boundSecond, boundFirst] (.swap _ _ _))

theorem straight_readable : straight.Readable := by
  have reads : (twoBuffers [boundFirst, boundSecond] (.refl _)).Reads
      (twoBuffers [boundFirst, boundSecond] (.refl _)).positions := by
    apply MeshGeometry.reads_positions_of_inOrder
    · decide
    · intro place buffer isPlace
      rcases List.getElem?_eq_some_iff.mp isPlace with ⟨inRange, rfl⟩
      rcases place with - | - | place
      · rfl
      · rfl
      · exact absurd inRange (by simp [twoBuffers])
  have triangleReads : triangle.Reads triangle.positions := ⟨by decide, rfl⟩
  refine ⟨?_, by decide⟩
  intro part isPart
  rcases List.mem_pair.mp isPart with rfl | rfl
  · exact reads
  · exact triangleReads

theorem deserialize_isIn_straight :
    ∃ reader, deserialize (straight.bytes.length + 1) straight.bytes = .ok reader ∧
      straight.IsIn reader :=
  (straight.deserialize_isIn_iff _ (Nat.lt_add_one _)).mpr straight_readable

/-- The other buffer is taken for the positions. -/
theorem deserialize_crossed :
    ∃ reader, deserialize (crossed.bytes.length + 1) crossed.bytes = .ok reader ∧
      ¬ crossed.IsIn reader := by
  have reads : (twoBuffers [boundSecond, boundFirst] (.swap _ _ _)).Reads
      ((twoBuffers [boundSecond, boundFirst] (.swap _ _ _)).positionsIn boundSecond) :=
    ⟨by decide, boundSecond, rfl, by decide, rfl⟩
  have triangleReads : triangle.Reads [] := ⟨by decide, rfl⟩
  have decoded : decode crossed = .ok ((),
      (twoBuffers [boundSecond, boundFirst] (.swap _ _ _)).positionsIn boundSecond,
      crossed.indices.map UInt32.ofNat) :=
    crossed.decode_ok_iff.mpr ⟨[_, []], .cons reads (.cons triangleReads .nil), rfl, rfl⟩
  rcases (deserialize_eq_decode crossed (Nat.lt_add_one _)).2 _ _ decoded with
    ⟨reader, isRead, areVertices, -⟩
  refine ⟨reader, isRead, ?_⟩
  rintro ⟨same, -⟩
  rw [areVertices] at same
  revert same
  decide

end Mesh

end Cyphesis.Simulation
