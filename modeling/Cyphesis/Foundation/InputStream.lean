import Cyphesis.Foundation.LittleEndian

/-!
# Input streams

A stream of bytes with a position and the two state bits of a C++ `istream`.
-/

namespace Cyphesis.Foundation

structure InputStream where
  bytes : List UInt8
  position : Nat
  eof : Bool
  failed : Bool

namespace InputStream

variable {stream : InputStream} {taken rest : List UInt8}

def opened (bytes : List UInt8) : InputStream :=
  { bytes := bytes, position := 0, eof := false, failed := false }

/-- What could be read; less at the end. -/
def read (stream : InputStream) (count : Nat) : List UInt8 × InputStream :=
  if stream.eof || stream.failed then ([], { stream with failed := true })
  else
    let available := stream.bytes.drop stream.position
    if count ≤ available.length then
      (available.take count, { stream with position := stream.position + count })
    else
      (available, { stream with
        position := stream.position + available.length
        eof := true
        failed := true })

/-- `get` into a buffer, up to a delimiter. -/
def getUntil (stream : InputStream) (delimiter : UInt8) : List UInt8 × InputStream :=
  if stream.eof || stream.failed then ([], { stream with failed := true })
  else
    let available := stream.bytes.drop stream.position
    let taken := available.takeWhile (· != delimiter)
    (taken, { stream with
      position := stream.position + taken.length
      eof := taken.length == available.length
      failed := taken.isEmpty })

/-- `seekg` from the current position. -/
def seek (stream : InputStream) (offset : Int) : InputStream :=
  if stream.failed then { stream with eof := false }
  else if (stream.position : Int) + offset < 0 then { stream with eof := false, failed := true }
  else { stream with eof := false, position := ((stream.position : Int) + offset).toNat }

/-- The stream is in order, and these bytes are left. -/
structure At (stream : InputStream) (rest : List UInt8) : Prop where
  good : stream.eof = false ∧ stream.failed = false
  left : stream.bytes.drop stream.position = rest

theorem at_opened (bytes : List UInt8) : (opened bytes).At bytes :=
  ⟨⟨rfl, rfl⟩, rfl⟩

/-- Where it is afterwards. -/
def advance (stream : InputStream) (count : Nat) : InputStream :=
  { stream with position := stream.position + count }

theorem At.advance (isAt : stream.At (taken ++ rest)) : (stream.advance taken.length).At rest := by
  refine ⟨isAt.good, ?_⟩
  change stream.bytes.drop (stream.position + taken.length) = rest
  rw [← List.drop_drop, isAt.left, List.drop_left]

theorem At.read (isAt : stream.At (taken ++ rest)) :
    stream.read taken.length = (taken, stream.advance taken.length) := by
  unfold InputStream.read
  rw [isAt.good.1, isAt.good.2, isAt.left]
  simp [InputStream.advance, isAt.good]

theorem At.read_nil (isAt : stream.At []) {count : Nat} (positive : 0 < count) :
    stream.read count = ([], { stream with eof := true, failed := true }) := by
  unfold InputStream.read
  rw [isAt.good.1, isAt.good.2, isAt.left]
  have short : ¬ count ≤ ([] : List UInt8).length := Nat.not_le_of_lt positive
  simp only [Bool.or_self, Bool.false_eq_true, if_false, if_neg short]
  rfl

theorem At.getUntil {delimiter : UInt8} (isAt : stream.At (taken ++ delimiter :: rest))
    (notNil : taken ≠ []) (without : delimiter ∉ taken) :
    stream.getUntil delimiter = (taken, stream.advance taken.length) := by
  have isTaken : (taken ++ delimiter :: rest).takeWhile (· != delimiter) = taken := by
    rw [List.takeWhile_append_of_pos]
    · simp
    · intro byte isByte
      simpa using fun same : byte = delimiter => without (same ▸ isByte)
  unfold InputStream.getUntil
  rw [isAt.good.1, isAt.good.2, isAt.left]
  simp [isTaken, InputStream.advance, isAt.good, notNil]

theorem At.getUntil_nil {delimiter : UInt8} (isAt : stream.At (delimiter :: rest)) :
    stream.getUntil delimiter = ([], { stream with failed := true }) := by
  unfold InputStream.getUntil
  rw [isAt.good.1, isAt.good.2, isAt.left]
  simp

theorem At.seek_forward (isAt : stream.At (taken ++ rest)) :
    stream.seek taken.length = stream.advance taken.length := by
  have notNegative : ¬ (stream.position : Int) + taken.length < 0 := by omega
  unfold InputStream.seek
  rw [isAt.good.2, if_neg Bool.false_ne_true, if_neg notNegative]
  simp [InputStream.advance, isAt.good]
  rfl

theorem At.seek_back (isAt : stream.At rest) (count : Nat) :
    (stream.advance count).seek (-count) = stream := by
  have notNegative : ¬ ((stream.position + count : Nat) : Int) + -(count : Int) < 0 := by omega
  unfold InputStream.seek InputStream.advance
  rw [isAt.good.2, if_neg Bool.false_ne_true]
  dsimp only
  rw [if_neg notNegative]
  cases stream with
  | mk bytes position eof failed =>
    have isGood := isAt.good
    simp only at isGood
    simp [isGood]

end InputStream

end Cyphesis.Foundation
