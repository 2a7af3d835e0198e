import Cyphesis.Foundation.Run
import Mathlib.Data.List.Perm.Basic
import Mathlib.Data.List.Nodup
import Mathlib.Order.Lattice

/-!
# Relays of the world

The world registers a callback for the answer to a Relay, in a hash map by serial numbers.
-/

namespace Cyphesis.Simulation

open Cyphesis.Foundation List Option

variable {ρ : Type}

/-- A Relay to the world, with what it carries. -/
structure RelayOp (ρ : Type) where
  recipient : String
  sender : String
  refno : Option Int
  args : List (Option ρ)

/-- A call by its serial number. -/
structure RelayCall (ρ : Type) where
  serialNo : Int
  entityId : String
  answer : Option (RelayOp ρ)

structure WorldRelays (ρ : Type) where
  serialNumber : Int
  relays : List (Int × String)
  buckets : Nat
  /-- How often the map was rehashed. -/
  rehashes : Nat
  /-- Relays sent, each with one for later. -/
  sent : List (Int × String)
  calls : List (RelayCall ρ)

/-- A relay is sent, or one arrives and more are sent. -/
inductive WorldRelayEvent (ρ : Type) where
  | send (entity : String)
  | relay (op : RelayOp ρ) (sends : List String)

namespace WorldRelays

def initial (buckets : Nat) : WorldRelays ρ :=
  { serialNumber := 0, relays := [], buckets := buckets, rehashes := 0, sent := [], calls := [] }

variable (grow : Nat → Nat)

/-- `m_relays.emplace`, which may rehash. -/
def emplace (world : WorldRelays ρ) (relay : Int × String) : WorldRelays ρ :=
  if world.relays.length + 1 > world.buckets then
    { world with
      relays := world.relays ++ [relay]
      buckets := grow (world.relays.length + 1)
      rehashes := world.rehashes + 1 }
  else { world with relays := world.relays ++ [relay] }

def sendRelayToEntity (world : WorldRelays ρ) (entity : String) : WorldRelays ρ :=
  let serialNo := world.serialNumber + 1
  emplace grow
    { world with serialNumber := serialNo, sent := world.sent ++ [(serialNo, entity)] }
    (serialNo, entity)

/-- Call, and erase the position. -/
def callBack (world : WorldRelays ρ) (position : Int × String) (answer : Option (RelayOp ρ))
    (sends : List String) : Option (WorldRelays ρ) :=
  let called : WorldRelays ρ :=
    { world with calls := world.calls ++ [⟨position.1, position.2, answer⟩] }
  let after := run (sendRelayToEntity grow) called sends
  if after.rehashes = world.rehashes then
    some { after with relays := after.relays.erase position }
  else none

/-- `RelayOperation` as far as the call. -/
def callee (id : String) (world : WorldRelays ρ) (op : RelayOp ρ) :
    Option ((Int × String) × Option (RelayOp ρ)) :=
  if op.recipient = id ∧ op.sender = id ∧ op.refno.isSome then
    (world.relays.find? fun relay => op.refno = some relay.1).map fun relay => (relay, none)
  else
    match op.args with
    | [] => none
    | none :: _ => none
    | some _ :: _ =>
      -- Without a reference number an operation is for `Entity::RelayOperation`.
      match world.relays.find? fun relay => op.refno = some relay.1 with
      | none => none
      | some relay => if op.sender ≠ relay.2 then none else some (relay, some op)

def relayOperation (id : String) (world : WorldRelays ρ) (op : RelayOp ρ) (sends : List String) :
    Option (WorldRelays ρ) :=
  match callee id world op with
  | none => some world
  | some (position, answer) => callBack grow world position answer sends

/-- None after an access at an invalid one. -/
def step (id : String) (current : Option (WorldRelays ρ)) (event : WorldRelayEvent ρ) :
    Option (WorldRelays ρ) :=
  current.bind fun world =>
    match event with
    | .send entity => some (sendRelayToEntity grow world entity)
    | .relay op sends => relayOperation grow id world op sends

/-- A callback's relays have room. -/
def HasRoom (id : String) (world : WorldRelays ρ) : WorldRelayEvent ρ → Prop
  | .send _ => True
  | .relay op sends => (callee id world op).isSome → sends ≠ [] →
    world.relays.length + sends.length ≤ world.buckets

/-- Every relay is registered or called, once. -/
structure CallsOnce (world : WorldRelays ρ) : Prop where
  distinct : (world.sent.map Prod.fst).Nodup
  once : (world.calls.map (fun call => (call.serialNo, call.entityId)) ++ world.relays).Perm
    world.sent
  genuine : ∀ call ∈ world.calls, ∀ op, call.answer = some op →
    op.refno = some call.serialNo ∧ op.sender = call.entityId

/-- Operation to the world itself, or an answer. -/
def Settles (id : String) (op : RelayOp ρ) (relay : Int × String) : Prop :=
  op.refno = some relay.1 ∧ (op.recipient = id ∧ op.sender = id ∨
    op.sender = relay.2 ∧ ∃ content rest, op.args = some content :: rest)

variable {id entity : String} {world after : WorldRelays ρ} {position relay : Int × String}
  {answer : Option (RelayOp ρ)} {sends : List String} {op : RelayOp ρ}

/-- The invariant, perhaps during a callback. -/
structure Kept (running : List (Int × String)) (world : WorldRelays ρ) : Prop where
  known : ∀ relay ∈ world.sent, relay.1 ≤ world.serialNumber
  distinct : (world.sent.map Prod.fst).Nodup
  share : (world.calls.map (fun call => (call.serialNo, call.entityId)) ++ world.relays).Perm
    (world.sent ++ running)
  genuine : ∀ call ∈ world.calls, ∀ op, call.answer = some op →
    op.refno = some call.serialNo ∧ op.sender = call.entityId
  registered : ∀ relay ∈ running, relay ∈ world.relays

theorem sendRelayToEntity_parts (world : WorldRelays ρ) (entity : String) :
    (sendRelayToEntity grow world entity).serialNumber = world.serialNumber + 1 ∧
      (sendRelayToEntity grow world entity).sent =
        world.sent ++ [(world.serialNumber + 1, entity)] ∧
      (sendRelayToEntity grow world entity).calls = world.calls ∧
      (sendRelayToEntity grow world entity).relays =
        world.relays ++ [(world.serialNumber + 1, entity)] := by
  simp only [sendRelayToEntity, emplace]
  split <;> exact ⟨rfl, rfl, rfl, rfl⟩

theorem Kept.sendRelayToEntity {running : List (Int × String)} (kept : Kept running world) :
    Kept running (sendRelayToEntity grow world entity) := by
  rcases sendRelayToEntity_parts grow world entity with ⟨serialNumber, sent, calls, relays⟩
  constructor
  · intro relay member
    rw [serialNumber]
    rw [sent] at member
    rcases List.mem_append.mp member with old | new
    · have isKnown := kept.known relay old
      omega
    · rw [List.mem_singleton.mp new]
  · rw [sent, map_append]
    apply List.Nodup.append kept.distinct (nodup_singleton _)
    intro key old new
    rcases List.mem_map.mp old with ⟨relay, member, rfl⟩
    have isNew : relay.1 = world.serialNumber + 1 := List.mem_singleton.mp new
    have isKnown := kept.known relay member
    omega
  · have share := kept.share.append_right [(world.serialNumber + 1, entity)]
    rw [relays, sent, calls, ← append_assoc]
    apply share.trans
    rw [append_assoc, append_assoc]
    exact List.perm_append_comm.append_left world.sent
  · rw [calls]
    exact kept.genuine
  · intro relay member
    rw [relays]
    exact mem_append_left _ (kept.registered relay member)

theorem rehashes_run (world : WorldRelays ρ)
    (room : sends ≠ [] → world.relays.length + sends.length ≤ world.buckets) :
    (run (sendRelayToEntity grow) world sends).rehashes = world.rehashes := by
  induction sends generalizing world with
  | nil => rfl
  | cons entity rest ih =>
    have fits : ¬ world.relays.length + 1 > world.buckets := by
      have := room (cons_ne_nil _ _)
      rw [length_cons] at this
      omega
    have sent : sendRelayToEntity grow world entity =
        { world with
          serialNumber := world.serialNumber + 1
          sent := world.sent ++ [(world.serialNumber + 1, entity)]
          relays := world.relays ++ [(world.serialNumber + 1, entity)] } := by
      simp only [sendRelayToEntity, emplace, if_neg fits]
    rw [run_cons, ih, sent]
    intro _
    have := room (cons_ne_nil _ _)
    rw [sent]
    simp only [length_append, length_cons, length_nil] at this ⊢
    omega

theorem Kept.callBack (kept : Kept [] world) (isRegistered : position ∈ world.relays)
    (genuine : ∀ op, answer = some op → op.refno = some position.1 ∧ op.sender = position.2)
    (room : sends ≠ [] → world.relays.length + sends.length ≤ world.buckets) :
    ∃ after, callBack grow world position answer sends = some after ∧ Kept [] after ∧
      after.calls = world.calls ++ [⟨position.1, position.2, answer⟩] := by
  let called : WorldRelays ρ :=
    { world with calls := world.calls ++ [⟨position.1, position.2, answer⟩] }
  have start : Kept [position] called := by
    constructor
    · exact kept.known
    · exact kept.distinct
    · have share := kept.share.append_right [position]
      rw [append_nil] at share
      apply List.Perm.trans _ share
      simp only [called, map_append, append_assoc]
      exact List.perm_append_comm.append_left _
    · intro call member op isOp
      rcases List.mem_append.mp member with old | new
      · exact kept.genuine call old op isOp
      · cases List.mem_singleton.mp new
        exact genuine op isOp
    · intro relay member
      rw [List.mem_singleton.mp member]
      exact isRegistered
  -- The callback only sends relays.
  have sending : ∀ (current : WorldRelays ρ) entity,
      Kept [position] current ∧ current.calls = called.calls →
      Kept [position] (WorldRelays.sendRelayToEntity grow current entity) ∧
        (WorldRelays.sendRelayToEntity grow current entity).calls = called.calls := by
    intro current entity ⟨kept, calls⟩
    exact ⟨kept.sendRelayToEntity grow,
      (sendRelayToEntity_parts grow current entity).2.2.1.trans calls⟩
  rcases run_invariant_of_step _ sending ⟨start, rfl⟩ sends with ⟨later, calls⟩
  have valid := rehashes_run grow called room
  refine ⟨_, if_pos valid, ?_, calls⟩
  have isThere := later.registered position (mem_singleton_self _)
  constructor
  · exact later.known
  · exact later.distinct
  · have moved := ((perm_cons_erase isThere).append_left _).symm.trans later.share
    rw [append_nil]
    exact ((List.perm_middle.symm.trans moved).trans perm_append_comm).cons_inv
  · exact later.genuine
  · intro relay member
    cases member

theorem mem_of_find? (found : (world.relays.find? fun relay => op.refno = some relay.1) =
    some relay) : relay ∈ world.relays ∧ op.refno = some relay.1 :=
  ⟨mem_of_find?_eq_some found, by simpa using find?_some found⟩

theorem callee_genuine (calls : callee id world op = some (position, answer)) :
    position ∈ world.relays ∧
      ∀ answering, answer = some answering → answering = op ∧
        op.refno = some position.1 ∧ op.sender = position.2 := by
  unfold callee at calls
  split at calls
  · rcases Option.map_eq_some_iff.mp calls with ⟨relay, found, eq⟩
    cases eq
    exact ⟨(mem_of_find? found).1, fun _ none => nomatch none⟩
  split at calls
  · cases calls
  · cases calls
  split at calls
  · cases calls
  next found =>
    split at calls
    · cases calls
    next same =>
      cases calls
      rcases mem_of_find? found with ⟨member, isRefno⟩
      refine ⟨member, fun _ eq => ?_⟩
      cases eq
      exact ⟨rfl, isRefno, not_not.mp same⟩

theorem callee_of_settles (kept : Kept [] world) (isRegistered : relay ∈ world.relays)
    (settles : Settles id op relay) : ∃ answer, callee id world op = some (relay, answer) := by
  have subset : ∀ other ∈ world.relays, other ∈ world.sent := by
    intro other member
    have := kept.share.subset (mem_append_right _ member)
    rwa [append_nil] at this
  have found : (world.relays.find? fun other => op.refno = some other.1) = some relay := by
    cases search : world.relays.find? fun other => op.refno = some other.1 with
    | none =>
      have absent := List.find?_eq_none.mp search relay isRegistered
      simp [settles.1] at absent
    | some other =>
      rcases mem_of_find? search with ⟨member, isRefno⟩
      have same : other.1 = relay.1 := Option.some.inj (isRefno.symm.trans settles.1)
      rw [inj_on_of_nodup_map kept.distinct (subset other member) (subset relay isRegistered) same]
  unfold callee
  split
  · exact ⟨none, by rw [found]; rfl⟩
  next notOwn =>
    rcases settles.2 with own | ⟨same, content, rest, isArgs⟩
    · exact absurd ⟨own.1, own.2, by rw [settles.1]; rfl⟩ notOwn
    · exact ⟨some op, by simp only [isArgs, found, same, ne_eq, not_true_eq_false, if_false]⟩

/-- Callbacks of a relay that an event settles. -/
def Called (id : String) (world after : WorldRelays ρ) (event : WorldRelayEvent ρ) : Prop :=
  ∀ op sends, event = .relay op sends → ∀ relay ∈ world.sent, Settles id op relay →
    relay ∈ after.calls.map fun call => (call.serialNo, call.entityId)

theorem Kept.step {event : WorldRelayEvent ρ} (kept : Kept [] world)
    (room : HasRoom id world event) :
    ∃ after, step grow id (some world) event = some after ∧ Kept [] after ∧
      Called id world after event := by
  cases event with
  | send entity => exact ⟨_, rfl, kept.sendRelayToEntity grow, fun _ _ isRelay => nomatch isRelay⟩
  | relay op sends =>
    have share := kept.share
    rw [append_nil] at share
    cases calls : callee id world op with
    | none =>
      refine ⟨world, ?_, kept, ?_⟩
      · simp only [WorldRelays.step, bind_some, relayOperation, calls]
      · intro _ _ isRelay relay wasSent settles
        cases isRelay
        rcases List.mem_append.mp (share.symm.subset wasSent) with isCalled | isRegistered
        · exact isCalled
        · rcases callee_of_settles kept isRegistered settles with ⟨answer, answers⟩
          rw [calls] at answers
          cases answers
    | some called =>
      rcases callee_genuine calls with ⟨member, genuine⟩
      have genuine' : ∀ op, called.2 = some op →
          op.refno = some called.1.1 ∧ op.sender = called.1.2 := by
        intro answering eq
        rcases genuine answering eq with ⟨rfl, isGenuine⟩
        exact isGenuine
      rcases kept.callBack grow member genuine' (room (by rw [calls]; rfl)) with
        ⟨after, isAfter, keptAfter, isCalls⟩
      refine ⟨after, ?_, keptAfter, ?_⟩
      · simp only [WorldRelays.step, bind_some, relayOperation, calls, isAfter]
      · intro _ _ isRelay relay wasSent settles
        cases isRelay
        rw [isCalls, map_append]
        rcases List.mem_append.mp (share.symm.subset wasSent) with isCalled | isRegistered
        · exact mem_append_left _ isCalled
        · rcases callee_of_settles kept isRegistered settles with ⟨answer, answers⟩
          cases calls.symm.trans answers
          exact mem_append_right _ (mem_singleton_self _)

/-- Every relayed operation is called back once, as long as the table of relays is not rehashed. -/
theorem run_callsOnce (grow : Nat → Nat) (id : String) (buckets : Nat)
    (events : List (WorldRelayEvent ρ))
    (room : Admissible (step grow id)
      (fun current event => ∀ world, current = some world → HasRoom id world event)
      (some (initial buckets)) events) :
    ∃ world, run (step grow id) (some (initial buckets)) events = some world ∧ CallsOnce world ∧
      ∀ event, HasRoom id world event →
        ∃ after, step grow id (some world) event = some after ∧ Called id world after event := by
  have start : Kept [] (initial buckets : WorldRelays ρ) :=
    ⟨by simp [initial], nodup_nil, List.Perm.refl _, by simp [initial], by simp⟩
  have keeps : ∀ (current : Option (WorldRelays ρ)) event,
      (∃ world, current = some world ∧ Kept [] world) →
      (∀ world, current = some world → HasRoom id world event) →
      ∃ world, step grow id current event = some world ∧ Kept [] world := by
    rintro _ event ⟨world, rfl, kept⟩ room
    rcases kept.step grow (room world rfl) with ⟨after, isAfter, keptAfter, _⟩
    exact ⟨after, isAfter, keptAfter⟩
  rcases run_invariant _ keeps ⟨_, rfl, start⟩ room with ⟨world, isWorld, kept⟩
  have share := kept.share
  rw [append_nil] at share
  refine ⟨world, isWorld, ⟨kept.distinct, share, kept.genuine⟩, ?_⟩
  intro event room
  rcases kept.step grow room with ⟨after, isAfter, _, called⟩
  exact ⟨after, isAfter, called⟩

/-- Numbers of buckets that a map takes. -/
def primes (size : Nat) : Nat :=
  if size ≤ 13 then 13 else 29

/-- So many relays that the callback of one rehashes. -/
def prunedAmong (count : Nat) : List (WorldRelayEvent Unit) :=
  List.replicate count (.send "7") ++
    [.relay { recipient := "0", sender := "0", refno := some 2, args := [] } ["7"]]

theorem run_callsOnce_two :
    ∃ world, run (step primes "0") (some (initial 13)) (prunedAmong 2) = some world ∧
      CallsOnce world ∧ ∀ event, HasRoom "0" world event →
        ∃ after, step primes "0" (some world) event = some after ∧
          Called "0" world after event := by
  apply run_callsOnce
  refine ⟨fun _ _ => trivial, fun _ _ => trivial, ?_, trivial⟩
  rintro world isWorld - -
  cases isWorld
  decide

/-- With thirteen the map is rehashed. -/
theorem run_uses_invalid_position :
    run (step primes "0") (some (initial 13)) (prunedAmong 13) = none := by
  decide

end WorldRelays

end Cyphesis.Simulation
