import Cyphesis.Simulation.MeshFormat

/-!
# Reading what a mesh file consists of

How the reader moves through the numbers, strings and chunks of a file.
-/

namespace Cyphesis.Simulation

open Cyphesis.Foundation List

namespace OgreMeshDeserializer

variable {α π : Type} {reader : OgreMeshDeserializer} {rest : List UInt8}
  {state : List UInt32 × List UInt32}

/-- Left to read, and read. -/
structure Ready (reader : OgreMeshDeserializer) (rest : List UInt8)
    (state : List UInt32 × List UInt32) : Prop where
  flip : reader.flipEndian = false
  isAt : reader.stream.At rest
  vertices : reader.vertices = state.1
  indices : reader.indices = state.2

/-- The reader after something has been taken. -/
def advance (reader : OgreMeshDeserializer) (count : Nat) : OgreMeshDeserializer :=
  { reader with stream := reader.stream.advance count }

section

variable {taken : List UInt8} (ready : Ready reader (taken ++ rest) state)

include ready

theorem Ready.advance : Ready (reader.advance taken.length) rest state :=
  ⟨ready.flip, ready.isAt.advance, ready.vertices, ready.indices⟩

theorem Ready.readNumber :
    reader.readNumber taken.length = (some (ofBytes taken), reader.advance taken.length) := by
  unfold OgreMeshDeserializer.readNumber
  rw [ready.isAt.read]
  simp [flipFromLittleEndian, ready.flip, OgreMeshDeserializer.advance]

end

theorem Ready.readShort {value : UInt16} (ready : Ready reader (shortBytes value ++ rest) state) :
    reader.readShort = (some value, reader.advance 2) := by
  have read := ready.readNumber
  rw [length_shortBytes] at read
  simp [OgreMeshDeserializer.readShort, read]

theorem Ready.readInt {value : UInt32} (ready : Ready reader (intBytes value ++ rest) state) :
    reader.readInt = (some value, reader.advance 4) := by
  have read := ready.readNumber
  rw [length_intBytes] at read
  simp [OgreMeshDeserializer.readInt, read]

theorem Ready.afterShort {value : UInt16} (ready : Ready reader (shortBytes value ++ rest) state) :
    Ready (reader.advance 2) rest state := by
  simpa using ready.advance

theorem Ready.afterInt {value : UInt32} (ready : Ready reader (intBytes value ++ rest) state) :
    Ready (reader.advance 4) rest state := by
  simpa using ready.advance

section

variable {value : Bool} (ready : Ready reader (boolBytes value ++ rest) state)

include ready

theorem Ready.readBool : reader.readBool = (some value, reader.advance 1) := by
  have read := ready.readNumber
  simp only [boolBytes, length_singleton] at read
  rw [OgreMeshDeserializer.readBool, read]
  cases value with
  | false => rfl
  | true => rfl

theorem Ready.afterBool : Ready (reader.advance 1) rest state :=
  ready.advance

end

theorem Ready.readString {text : List UInt8}
    (ready : Ready reader (text ++ newline :: rest) state) (notNil : text ≠ [])
    (oneLine : newline ∉ text) :
    reader.readString.1 = text ∧ Ready reader.readString.2 rest state := by
  unfold OgreMeshDeserializer.readString
  rw [ready.isAt.getUntil notNil oneLine]
  have afterText : (reader.stream.advance text.length).At ([newline] ++ rest) :=
    ready.isAt.advance
  have isSeek : (reader.stream.advance text.length).seek 1 =
      (reader.stream.advance text.length).advance 1 := afterText.seek_forward
  refine ⟨rfl, ready.flip, ?_, ready.vertices, ready.indices⟩
  change ((reader.stream.advance text.length).seek 1).At rest
  rw [isSeek]
  exact afterText.advance

theorem Ready.readString_nil (ready : Ready reader (newline :: rest) state) :
    reader.readString.2.stream.failed = true := by
  unfold OgreMeshDeserializer.readString
  rw [ready.isAt.getUntil_nil]
  simp [InputStream.seek]

theorem readBool_of_failed (failed : reader.stream.failed = true) : reader.readBool.1 = none := by
  simp [OgreMeshDeserializer.readBool, OgreMeshDeserializer.readNumber, InputStream.read, failed]

/-- Nothing follows, or a chunk with such an id. -/
def Follows (allowed : UInt16 → Prop) (rest : List UInt8) : Prop :=
  rest = [] ∨ ∃ id length tail, allowed id ∧ rest = shortBytes id ++ (intBytes length ++ tail)

theorem Follows.mono {allowed wider : UInt16 → Prop} (follows : Follows allowed rest)
    (imp : ∀ id, allowed id → wider id) : Follows wider rest := by
  rcases follows with isEnd | ⟨id, length, tail, isAllowed, isRest⟩
  · exact .inl isEnd
  · exact .inr ⟨id, length, tail, imp id isAllowed, isRest⟩

theorem follows_chunks {allowed : UInt16 → Prop} {parts : List π} {idOf : π → UInt16}
    {payloadOf : π → List UInt8} (ids : ∀ part ∈ parts, allowed (idOf part))
    (follows : Follows allowed rest) :
    Follows allowed ((parts.flatMap fun part => chunkBytes (idOf part) (payloadOf part)) ++
      rest) := by
  cases parts with
  | nil => exact follows
  | cons part others =>
    refine .inr ⟨idOf part, UInt32.ofNat ((payloadOf part).length + 6),
      payloadOf part ++ ((others.flatMap fun other =>
        chunkBytes (idOf other) (payloadOf other)) ++ rest), ids part mem_cons_self, ?_⟩
    simp [chunkBytes]

/-- Reader after the header of a chunk. -/
def intoChunk (reader : OgreMeshDeserializer) (length : UInt32) : OgreMeshDeserializer :=
  { reader.advance 6 with currentstreamLen := length }

section

variable {id : UInt16} {length : UInt32}
  (ready : Ready reader (shortBytes id ++ (intBytes length ++ rest)) state)

include ready

theorem Ready.readChunk : reader.readChunk = (some id, reader.intoChunk length) := by
  rw [OgreMeshDeserializer.readChunk, ready.readShort]
  simp only
  rw [ready.afterShort.readInt]
  rfl

theorem Ready.intoChunk : Ready (reader.intoChunk length) rest state := by
  have after := ready.afterShort.afterInt
  exact ⟨after.flip, after.isAt, after.vertices, after.indices⟩

end

theorem Ready.readChunk_end (ready : Ready reader [] state) :
    reader.readChunk.2.stream.eof = true ∧ reader.readChunk.2.flipEndian = false ∧
      reader.readChunk.2.vertices = state.1 ∧ reader.readChunk.2.indices = state.2 := by
  have noShort := ready.isAt.read_nil (show 0 < 2 by decide)
  simp only [OgreMeshDeserializer.readChunk, OgreMeshDeserializer.readShort,
    OgreMeshDeserializer.readInt, OgreMeshDeserializer.readNumber, noShort]
  simp [InputStream.read, ready.flip, ready.vertices, ready.indices]

/-- The reader stands in order before these bytes, or at the end. -/
structure Stands (reader : OgreMeshDeserializer) (rest : List UInt8)
    (state : List UInt32 × List UInt32) : Prop where
  flip : reader.flipEndian = false
  isAt : reader.stream.At rest ∨ rest = [] ∧ reader.stream.eof = true
  vertices : reader.vertices = state.1
  indices : reader.indices = state.2

theorem Ready.stands (ready : Ready reader rest state) : Stands reader rest state :=
  ⟨ready.flip, .inl ready.isAt, ready.vertices, ready.indices⟩

theorem Stands.ready (stands : Stands reader rest state) (more : reader.stream.eof = false) :
    Ready reader rest state := by
  rcases stands.isAt with isAt | ⟨-, isEnd⟩
  · exact ⟨stands.flip, isAt, stands.vertices, stands.indices⟩
  · simp [more] at isEnd

theorem Stands.ready_of_ne_nil (stands : Stands reader rest state) (notNil : rest ≠ []) :
    Ready reader rest state := by
  rcases stands.isAt with isAt | ⟨isNil, -⟩
  · exact ⟨stands.flip, isAt, stands.vertices, stands.indices⟩
  · exact absurd isNil notNil

/-- A loop has read the header of what follows. -/
structure Past (reader : OgreMeshDeserializer) (rest : List UInt8)
    (state : List UInt32 × List UInt32) : Prop where
  flip : reader.flipEndian = false
  isPast : rest = [] ∧ reader.stream.eof = true ∨
    ∃ stream : InputStream, stream.At rest ∧ reader.stream = stream.advance 6
  vertices : reader.vertices = state.1
  indices : reader.indices = state.2

theorem Past.stands (past : Past reader rest state) :
    Stands reader.backpedalChunkHeader rest state := by
  unfold backpedalChunkHeader
  rcases past.isPast with ⟨isNil, isEnd⟩ | ⟨stream, isAt, isStream⟩
  · rw [if_pos isEnd]
    exact ⟨past.flip, .inr ⟨isNil, isEnd⟩, past.vertices, past.indices⟩
  · have more : reader.stream.eof = false := by
      rw [isStream]
      exact isAt.good.1
    have isBack : reader.stream.seek (-(chunkHeaderSize : Int)) = stream := by
      rw [isStream]
      exact isAt.seek_back 6
    rw [if_neg (by simp [more])]
    refine ⟨past.flip, .inl ?_, past.vertices, past.indices⟩
    rw [isBack]
    exact isAt

/-- Reading fails, or gives a result, as it should. -/
def Yields (result : Except MeshFailure (α × OgreMeshDeserializer))
    (expected : Except MeshFailure (α × List UInt32 × List UInt32))
    (leaves : OgreMeshDeserializer → List UInt32 × List UInt32 → Prop) : Prop :=
  match expected with
  | .error failure => result = .error failure
  | .ok (found, state) => ∃ reader, result = .ok (found, reader) ∧ leaves reader state

theorem chunkLoop_stops {ids : List UInt16}
    {body : UInt16 → α → OgreMeshDeserializer → Except MeshFailure (α × OgreMeshDeserializer)}
    {after : UInt16 → Prop} (unknown : ∀ id, after id → id ∉ ids) (follows : Follows after rest)
    (fuel : Nat) (streamID : Option UInt16) (found : α) (stands : Stands reader rest state) :
    Yields
      (if reader.stream.eof then chunkLoop ids body (fuel + 1) streamID found reader
        else chunkLoop ids body (fuel + 1) reader.readChunk.1 found reader.readChunk.2)
      (.ok (found, state)) (Past · rest ·) := by
  cases isEnd : reader.stream.eof with
  | true =>
    have isNil : rest = [] := by
      rcases stands.isAt with isAt | ⟨isNil, -⟩
      · simp [isAt.good.1] at isEnd
      · exact isNil
    refine ⟨reader, ?_, stands.flip, .inl ⟨isNil, isEnd⟩, stands.vertices, stands.indices⟩
    simp [chunkLoop, isEnd]
  | false =>
    have ready := stands.ready isEnd
    rcases follows with rfl | ⟨id, length, tail, isAfter, rfl⟩
    · rcases ready.readChunk_end with ⟨isEnd', flip, vertices, indices⟩
      refine ⟨reader.readChunk.2, ?_, flip, .inl ⟨rfl, isEnd'⟩, vertices, indices⟩
      simp [chunkLoop, isEnd']
    · have into := ready.intoChunk
      refine ⟨reader.intoChunk length, ?_, into.flip, .inr ⟨reader.stream, ready.isAt, rfl⟩,
        into.vertices, into.indices⟩
      simp [ready.readChunk, chunkLoop, into.isAt.good.1, defined, unknown id isAfter, bind,
        Except.bind]

section

variable {ids : List UInt16}
  {body : UInt16 → α → OgreMeshDeserializer → Except MeshFailure (α × OgreMeshDeserializer)}
  {step : π → α × List UInt32 × List UInt32 → Except MeshFailure (α × List UInt32 × List UInt32)}
  {idOf : π → UInt16} {payloadOf : π → List UInt8} {after : UInt16 → Prop}
  (unknown : ∀ id, after id → id ∉ ids) (follows : Follows after rest) {parts : List π}
  (known : ∀ part ∈ parts, idOf part ∈ ids)
  (reads : ∀ part ∈ parts, ∀ found state reader rest',
    Follows (fun id => id ∈ ids ∨ after id) rest' →
    Ready reader (payloadOf part ++ rest') state →
    reader.currentstreamLen = UInt32.ofNat ((payloadOf part).length + 6) →
    Yields (body (idOf part) found reader) (step part (found, state)) (Stands · rest' ·))
  {fuel : Nat} (enough : parts.length < fuel)

include unknown follows known reads enough

/-- What is done to each chunk. -/
theorem chunkLoop_yields (streamID : Option UInt16) (found : α)
    (stands : Stands reader
      ((parts.flatMap fun part => chunkBytes (idOf part) (payloadOf part)) ++ rest) state) :
    Yields
      (if reader.stream.eof then chunkLoop ids body fuel streamID found reader
        else chunkLoop ids body fuel reader.readChunk.1 found reader.readChunk.2)
      (parts.foldlM (fun found part => step part found) (found, state)) (Past · rest ·) := by
  induction parts generalizing fuel streamID found reader state with
  | nil =>
    obtain ⟨turns, rfl⟩ := Nat.exists_eq_succ_of_ne_zero (Nat.ne_of_gt enough)
    exact chunkLoop_stops unknown follows turns streamID found stands
  | cons part others ih =>
    obtain ⟨turns, rfl⟩ := Nat.exists_eq_succ_of_ne_zero (Nat.ne_of_gt (Nat.zero_lt_of_lt enough))
    have isRow : ((part :: others).flatMap fun part =>
        chunkBytes (idOf part) (payloadOf part)) ++ rest =
        shortBytes (idOf part) ++ (intBytes (UInt32.ofNat ((payloadOf part).length + 6)) ++
          (payloadOf part ++ ((others.flatMap fun other =>
            chunkBytes (idOf other) (payloadOf other)) ++ rest))) := by
      simp [chunkBytes]
    rw [isRow] at stands
    have ready := stands.ready_of_ne_nil (by simp [shortBytes, toBytes])
    have into := ready.intoChunk
    have isKnown := known part mem_cons_self
    have turn := reads part mem_cons_self found state _ _
      (follows_chunks (fun other isOther => .inl (known other (mem_cons_of_mem _ isOther)))
        (follows.mono fun _ => .inr)) into rfl
    rw [if_neg (by simp [ready.isAt.good.1]), foldlM_cons, ready.readChunk]
    simp only [chunkLoop, into.isAt.good.1, Bool.false_eq_true, if_false, defined, bind,
      Except.bind, contains_iff_mem, isKnown, if_true]
    cases isStep : step part (found, state) with
    | error failure =>
      rw [isStep] at turn
      rw [show body (idOf part) found _ = .error failure from turn]
      rfl
    | ok next =>
      rw [isStep] at turn
      rcases turn with ⟨reader', isBody, standsAfter⟩
      rw [isBody]
      have later := ih (fun other isOther => known other (mem_cons_of_mem _ isOther))
        (fun other isOther => reads other (mem_cons_of_mem _ isOther))
        (Nat.lt_of_succ_lt_succ enough) (some (idOf part)) next.1 standsAfter
      exact later

theorem chunks_yields (found : α)
    (ready : Ready reader
      ((parts.flatMap fun part => chunkBytes (idOf part) (payloadOf part)) ++ rest) state) :
    Yields (chunks ids body fuel found reader)
      (parts.foldlM (fun found part => step part found) (found, state)) (Past · rest ·) := by
  have turns := chunkLoop_yields unknown follows known reads enough none found ready.stands
  rw [if_neg (by simp [ready.isAt.good.1])] at turns
  exact turns

end

theorem Ready.skipChunk {payload : List UInt8} (ready : Ready reader (payload ++ rest) state)
    (isLength : reader.currentstreamLen = UInt32.ofNat (payload.length + 6))
    (fits : payload.length + 6 < 2 ^ 32) : Ready reader.skipChunk rest state := by
  have isOffset : (reader.currentstreamLen.toNat : Int) - chunkHeaderSize = payload.length := by
    rw [isLength, UInt32.toNat_ofNat_of_lt' fits, chunkHeaderSize]
    omega
  have isSeek := ready.isAt.seek_forward
  refine ⟨ready.flip, ?_, ready.vertices, ready.indices⟩
  rw [OgreMeshDeserializer.skipChunk, isOffset, isSeek]
  exact ready.isAt.advance

theorem length_chunkBytes (id : UInt16) (payload : List UInt8) :
    (chunkBytes id payload).length = payload.length + 6 := by
  simp only [chunkBytes, length_append, length_shortBytes, length_intBytes]
  omega

theorem length_le_chunks (parts : List π) (idOf : π → UInt16) (payloadOf : π → List UInt8) :
    parts.length ≤ (parts.flatMap fun part => chunkBytes (idOf part) (payloadOf part)).length := by
  induction parts with
  | nil => simp
  | cons part others ih =>
    simp only [flatMap_cons, length_append, length_cons, length_chunkBytes]
    omega

theorem payload_length_le_chunks {parts : List π} {part : π} (isPart : part ∈ parts)
    (idOf : π → UInt16) (payloadOf : π → List UInt8) :
    (payloadOf part).length ≤
      (parts.flatMap fun part => chunkBytes (idOf part) (payloadOf part)).length := by
  induction parts with
  | nil => simp at isPart
  | cons first others ih =>
    simp only [flatMap_cons, length_append, length_chunkBytes]
    rcases List.mem_cons.mp isPart with rfl | isOther
    · omega
    · have later := ih isOther
      omega

end OgreMeshDeserializer

end Cyphesis.Simulation
