import Cyphesis.Foundation.Run
import Cyphesis.Simulation.MindsProperty

/-!
# Relays to a mind

A Relay operation for an entity names one of its minds.
-/

namespace Cyphesis.Simulation

open Cyphesis.Atlas List
open Cyphesis.Foundation
open MindWorld

variable {δ : Type}

/-- What is sent, and what the mind holds then. -/
structure RelayResult (δ : Type) where
  toWorld : List (MindOp δ)
  toLink : List (MindOp δ)
  res : List (MindOp δ)
  relays : List (Int × RelayEntry)
  serialNumberNext : Int

/-- A mind by its id and that of its entity. -/
structure MindOf where
  id : String
  entity : String

namespace MindOf

variable (mind : MindOf)

/-- Operation that makes a sender stop waiting. -/
def noop (relay : RelayEntry) : MindOp δ :=
  let relayOp := MindOp.new .relay "relay" []
  { relayOp with
    header :=
      { relayOp.header with
        refno := relay.serialno, target := relay.sender, sender := some mind.entity }
    fields := { relayOp.fields with id := some relay.fromId } }

variable (next : Int) (relays : List (Int × RelayEntry))

/-- `RelayOperation` for a Relay to itself. -/
def prune (refno : Int) : RelayResult δ :=
  match relays.find? (·.1 = refno) with
  | none => ⟨[], [], [], relays, next⟩
  | some (_, relay) =>
    let answer := if relay.serialno.isSome ∨ relay.sender.isSome then [mind.noop relay] else []
    ⟨answer, [], [], relays.filter (·.1 ≠ refno), next⟩

/-- Operation that prunes a relay after a while. -/
def pruneOp (serialNo : Int) : MindOp δ :=
  let relayOp := MindOp.new .relay "relay" []
  { relayOp with
    header :=
      { relayOp.header with
        refno := some serialNo, target := some mind.entity, sender := some mind.entity
        futureSeconds := true }
    fields := { relayOp.fields with id := some mind.id } }

variable (op : MindOp δ)

/-- The relay to note down, and the operation that is passed on. -/
def relayed : Option (RelayEntry × MindOp δ) :=
  match op.header.serialno, op.fields.attributes.lookup "from_id", op.args with
  | some serialno, some (.string fromId), first :: _ =>
    match first.asOperation with
    | some relayedOp =>
      some (⟨op.header.sender, some serialno, op.fields.id, fromId⟩, relayedOp)
    | none => none
  | _, _, _ => none

/-- `RelayOperation`, noting a relay down. -/
def register : RelayResult δ :=
  match relayed op with
  | none => ⟨[], [], [], relays, next⟩
  | some (relay, relayedOp) =>
    let serialNo := next + 1
    let numbered :=
      { relayedOp with header := { relayedOp.header with serialno := some serialNo } }
    ⟨[], [numbered], [mind.pruneOp serialNo], relays ++ [(serialNo, relay)], serialNo⟩

/-- Is this a Relay of the entity to itself? -/
def isOwn : Bool :=
  op.header.target = some mind.entity ∧ op.header.sender = some mind.entity

def relayOperation :
    RelayResult δ :=
  match op.header.refno with
  | some refno =>
    if mind.isOwn op then mind.prune next relays refno
    else ⟨[], [op], [], relays, next⟩
  | none => mind.register next relays op

/-- Does a Relay operation reach the mind? -/
def isFor : Bool :=
  op.header.target.isSome ∧ op.header.sender.isSome ∧ op.fields.id = some mind.id

end MindOf

/-- What a mind holds.  The other fields are history. -/
structure RelayLog (δ : Type) where
  serialNumberNext : Int
  relays : List (Int × RelayEntry)
  registered : List (Int × RelayEntry)
  handled : List Int
  /-- What went to the world, with the number it settles and what the answer has to carry. -/
  sentBack : List (Option Int × List (AtlasObject δ) × MindOp δ)

/-- What reaches the entity that relays operations to a mind. -/
inductive RelayEvent (δ : Type) where
  /-- A Relay is delivered to the entity. -/
  | relay (op : MindOp δ)
  /-- The client sends an operation. -/
  | external (op : MindOp δ)
  /-- Another mind notes down a relay. -/
  | elsewhere

/-- Arguments of the answer that an event gives: the response of the client as it came, and none
when the relay is pruned. -/
def RelayEvent.response : RelayEvent δ → List (AtlasObject δ)
  | .external op => [op.object]
  | _ => []

namespace RelayLog

variable (mind : MindOf)

def start (next : Int) : RelayLog δ :=
  ⟨next, [], [], [], []⟩

/-- Number of a response or a prune operation. -/
def settles : RelayEvent δ → Option Int
  | .relay op => if mind.isFor op ∧ mind.isOwn op then op.header.refno else none
  | .external op => op.header.refno
  | .elsewhere => none

variable (log : RelayLog δ)

/-- Relay that an event notes down. -/
def registers : RelayEvent δ → Option (Int × RelayEntry)
  | .relay op =>
    if mind.isFor op ∧ op.header.refno.isNone then
      (MindOf.relayed op).map fun noted => (log.serialNumberNext + 1, noted.1)
    else none
  | _ => none

/-- What the mind does at an event. -/
def perform : RelayEvent δ → RelayResult δ
  | .relay op =>
    if mind.isFor op then mind.relayOperation log.serialNumberNext log.relays op
    else ⟨[], [], [], log.relays, log.serialNumberNext⟩
  | .external op =>
    match op.header.refno with
    | some refno =>
      let result := externalRelayedOperation log.relays refno op
      ⟨result.toWorld, result.toLink, [], result.relays, log.serialNumberNext⟩
    | none => ⟨[], [], [], log.relays, log.serialNumberNext⟩
  | .elsewhere => ⟨[], [], [], log.relays, log.serialNumberNext + 1⟩

/-- Event with its history. -/
def step (event : RelayEvent δ) : RelayLog δ :=
  let result := log.perform mind event
  let number := settles mind event
  { serialNumberNext := result.serialNumberNext
    relays := result.relays
    registered := log.registered ++ (log.registers mind event).toList
    handled := log.handled ++ number.toList.filter (log.registered.any fun entry => entry.1 = ·)
    sentBack := log.sentBack ++ result.toWorld.map (number, event.response, ·) }

end RelayLog

/-- Guards of both routes to an answer. -/
def Answerable (relay : RelayEntry) : Prop :=
  relay.sender.isSome ∧ relay.serialno.isSome ∧ relay.id.isSome

/-- The answer to a relay: a Relay to its sender that carries its serial number, with the given
arguments. -/
def IsAnswer (relay : RelayEntry) (args : List (AtlasObject δ)) (answer : MindOp δ) : Prop :=
  answer.header.classNo = .relay ∧ answer.args = args ∧
  (∃ sender, relay.sender = some sender ∧ answer.header.target = some sender) ∧
  (∃ serialno, relay.serialno = some serialno ∧ answer.header.refno = some serialno) ∧
  answer.fields.id = some relay.fromId

/-- Answered, and taken out. -/
def Settled (relays : List (Int × RelayEntry)) (key : Int) (args : List (AtlasObject δ))
    (toWorld : List (MindOp δ)) (remaining : List (Int × RelayEntry)) : Prop :=
  relays.find? (·.1 = key) = none ∧ toWorld = [] ∧ remaining = relays ∨
  ∃ relay, (key, relay) ∈ relays ∧ remaining = relays.filter (·.1 ≠ key) ∧
    (Answerable relay → ∃ answer, toWorld = [answer] ∧ IsAnswer relay args answer)

theorem mem_of_find?_key {relays : List (Int × RelayEntry)} {key : Int} {entry : Int × RelayEntry}
    (found : relays.find? (·.1 = key) = some entry) : (key, entry.2) ∈ relays := by
  have same : entry.1 = key := by simpa using find?_some found
  rw [← same]
  exact mem_of_find?_eq_some found

section

variable (mind : MindOf) (next : Int) (relays : List (Int × RelayEntry)) (key : Int)

theorem prune_settled :
    Settled relays key [] (mind.prune (δ := δ) next relays key).toWorld
      (mind.prune (δ := δ) next relays key).relays := by
  unfold MindOf.prune
  cases found : relays.find? (·.1 = key) with
  | none => exact .inl ⟨found, rfl, rfl⟩
  | some entry =>
    refine .inr ⟨entry.2, mem_of_find?_key found, rfl, ?_⟩
    intro answerable
    obtain ⟨sender, isSender⟩ := Option.isSome_iff_exists.mp answerable.1
    obtain ⟨serialno, isSerialno⟩ := Option.isSome_iff_exists.mp answerable.2.1
    refine ⟨mind.noop entry.2, ?_, rfl, rfl, ⟨sender, isSender, isSender⟩,
      ⟨serialno, isSerialno, isSerialno⟩, rfl⟩
    simp [isSender, isSerialno]

theorem serialNumberNext_prune : (mind.prune (δ := δ) next relays key).serialNumberNext = next := by
  unfold MindOf.prune
  split
  · rfl
  · rfl

end

theorem externalRelayedOperation_settled (relays : List (Int × RelayEntry)) (key : Int)
    (op : MindOp δ) :
    Settled relays key [op.object] (externalRelayedOperation relays key op).toWorld
      (externalRelayedOperation relays key op).relays := by
  unfold externalRelayedOperation
  cases found : relays.find? (·.1 = key) with
  | none => exact .inl ⟨found, rfl, rfl⟩
  | some entry =>
    refine .inr ⟨entry.2, mem_of_find?_key found, rfl, ?_⟩
    intro answerable
    obtain ⟨sender, isSender⟩ := Option.isSome_iff_exists.mp answerable.1
    obtain ⟨serialno, isSerialno⟩ := Option.isSome_iff_exists.mp answerable.2.1
    obtain ⟨id, isId⟩ := Option.isSome_iff_exists.mp answerable.2.2
    simp only [isSender, isSerialno, isId]
    exact ⟨_, rfl, rfl, rfl, ⟨sender, isSender, rfl⟩, ⟨serialno, isSerialno, rfl⟩, rfl⟩

theorem relayed_answerable {mind : MindOf} {op : MindOp δ} {noted : RelayEntry × MindOp δ}
    (isFor : mind.isFor op = true) (isNoted : MindOf.relayed op = some noted) :
    Answerable noted.1 := by
  have gates : op.header.target.isSome ∧ op.header.sender.isSome ∧
      op.fields.id = some mind.id := by
    simpa [MindOf.isFor] using isFor
  unfold MindOf.relayed at isNoted
  split at isNoted
  · split at isNoted
    · cases isNoted
      exact ⟨gates.2.1, rfl, by rw [gates.2.2]; rfl⟩
    · cases isNoted
  · cases isNoted

namespace RelayLog

variable (mind : MindOf)

/-- A relay is added, or settled, or neither. -/
theorem perform_cases (log : RelayLog δ) (event : RelayEvent δ) :
    (settles mind event = none ∧ log.registers mind event = none ∧
      (log.perform mind event).toWorld = [] ∧ (log.perform mind event).relays = log.relays ∧
      log.serialNumberNext ≤ (log.perform mind event).serialNumberNext) ∨
    (settles mind event = none ∧ ∃ relay, Answerable relay ∧
      log.registers mind event = some (log.serialNumberNext + 1, relay) ∧
      (log.perform mind event).toWorld = [] ∧
      (log.perform mind event).relays = log.relays ++ [(log.serialNumberNext + 1, relay)] ∧
      (log.perform mind event).serialNumberNext = log.serialNumberNext + 1) ∨
    (∃ key, settles mind event = some key ∧ log.registers mind event = none ∧
      (log.perform mind event).serialNumberNext = log.serialNumberNext ∧
      Settled log.relays key event.response (log.perform mind event).toWorld
        (log.perform mind event).relays) := by
  cases event with
  | elsewhere =>
    left
    exact ⟨rfl, rfl, rfl, rfl, Int.le_add_one (Int.le_refl _)⟩
  | external op =>
    cases refno : op.header.refno with
    | none =>
      left
      simp [settles, registers, perform, refno]
    | some key =>
      right
      right
      refine ⟨key, refno, rfl, ?_, ?_⟩
      · simp only [perform, refno]
      · simp only [perform, refno]
        exact externalRelayedOperation_settled log.relays key op
  | relay op =>
    by_cases isFor : mind.isFor op = true
    · cases refno : op.header.refno with
      | none =>
        cases noted : MindOf.relayed op with
        | none =>
          left
          simp [settles, registers, perform, isFor, refno, MindOf.relayOperation,
            MindOf.register, noted]
        | some pair =>
          right
          left
          refine ⟨?_, pair.1, relayed_answerable isFor noted, ?_, ?_, ?_, ?_⟩
          · simp [settles, refno]
          · simp [registers, isFor, refno, noted]
          · simp [perform, isFor, MindOf.relayOperation, MindOf.register, refno, noted]
          · simp [perform, isFor, MindOf.relayOperation, MindOf.register, refno, noted]
          · simp [perform, isFor, MindOf.relayOperation, MindOf.register, refno, noted]
      | some key =>
        by_cases isOwn : mind.isOwn op = true
        · right
          right
          have performed : log.perform mind (.relay op) =
              mind.prune log.serialNumberNext log.relays key := by
            simp only [perform, isFor, isOwn, refno, MindOf.relayOperation, if_true]
          refine ⟨key, ?_, ?_, ?_, ?_⟩
          · simp [settles, isFor, isOwn, refno]
          · simp [registers, refno]
          · rw [performed]
            exact serialNumberNext_prune mind _ _ _
          · rw [performed]
            exact prune_settled mind _ _ key
        · left
          simp [settles, registers, perform, isFor, isOwn, refno, MindOf.relayOperation]
    · left
      simp [settles, registers, perform, isFor]

/-- Relays held are those not settled. -/
structure Kept (log : RelayLog δ) : Prop where
  fresh : ∀ entry ∈ log.registered, entry.1 ≤ log.serialNumberNext
  distinct : ∀ entry ∈ log.registered, ∀ other ∈ log.registered, entry.1 = other.1 → entry = other
  answerable : ∀ entry ∈ log.registered, Answerable entry.2
  waiting : ∀ entry, entry ∈ log.relays ↔ entry ∈ log.registered ∧ entry.1 ∉ log.handled
  known : ∀ key ∈ log.handled, ∃ relay, (key, relay) ∈ log.registered
  sent : ∀ sent ∈ log.sentBack, ∃ key ∈ log.handled, sent.1 = some key
  answered : ∀ entry ∈ log.registered, entry.1 ∈ log.handled → ∃ args answer,
    log.sentBack.filter (·.1 = some entry.1) = [(some entry.1, args, answer)] ∧
      IsAnswer entry.2 args answer

theorem Kept.start (next : Int) : Kept (RelayLog.start next : RelayLog δ) := by
  constructor
  all_goals simp [RelayLog.start]

variable {mind}

theorem Kept.unsent {log : RelayLog δ} (kept : Kept log) {key : Int} (open' : key ∉ log.handled) :
    log.sentBack.filter (·.1 = some key) = [] := by
  rw [filter_eq_nil_iff]
  intro sent isSent isKey
  obtain ⟨other, isHandled, same⟩ := kept.sent sent isSent
  rw [same] at isKey
  have equal : other = key := by simpa using isKey
  exact open' (equal ▸ isHandled)

theorem mem_handled_step (log : RelayLog δ) (event : RelayEvent δ) (key : Int) :
    key ∈ (log.step mind event).handled ↔
      key ∈ log.handled ∨ settles mind event = some key ∧
        ∃ relay, (key, relay) ∈ log.registered := by
  have listed : (log.registered.any fun entry => entry.1 = key) = true ↔
      ∃ relay, (key, relay) ∈ log.registered := by
    rw [any_eq_true]
    constructor
    · rintro ⟨⟨other, relay⟩, isEntry, same⟩
      have equal : other = key := by simpa using same
      exact ⟨relay, equal ▸ isEntry⟩
    · rintro ⟨relay, isEntry⟩
      exact ⟨_, isEntry, by simp⟩
  unfold step
  simp only [mem_append, mem_filter, Option.mem_toList]
  rw [listed]

section

variable {log : RelayLog δ} (kept : Kept log)

include kept

variable {event : RelayEvent δ}

theorem Kept.idle (registers : log.registers mind event = none)
    (toWorld : (log.perform mind event).toWorld = [])
    (relays : (log.perform mind event).relays = log.relays)
    (next : log.serialNumberNext ≤ (log.perform mind event).serialNumberNext)
    (handled : ∀ key, key ∈ (log.step mind event).handled ↔ key ∈ log.handled) :
    Kept (log.step mind event) := by
  have registered : (log.step mind event).registered = log.registered := by
    simp [step, registers]
  have sentBack : (log.step mind event).sentBack = log.sentBack := by
    simp [step, toWorld]
  have held : (log.step mind event).relays = log.relays := relays
  constructor
  · intro entry isEntry
    rw [registered] at isEntry
    exact Int.le_trans (kept.fresh entry isEntry) next
  · rw [registered]
    exact kept.distinct
  · rw [registered]
    exact kept.answerable
  · intro entry
    rw [held, registered, handled]
    exact kept.waiting entry
  · intro key isHandled
    rw [registered]
    exact kept.known key ((handled key).mp isHandled)
  · intro sent isSent
    rw [sentBack] at isSent
    obtain ⟨key, isHandled, same⟩ := kept.sent sent isSent
    exact ⟨key, (handled key).mpr isHandled, same⟩
  · intro entry isEntry isHandled
    rw [registered] at isEntry
    rw [sentBack]
    exact kept.answered entry isEntry ((handled entry.1).mp isHandled)

theorem Kept.noted {relay : RelayEntry} (settles : settles mind event = none)
    (answerable : Answerable relay)
    (registers : log.registers mind event = some (log.serialNumberNext + 1, relay))
    (toWorld : (log.perform mind event).toWorld = []) (relays : (log.perform mind event).relays =
      log.relays ++ [(log.serialNumberNext + 1, relay)])
    (next : (log.perform mind event).serialNumberNext = log.serialNumberNext + 1) :
    Kept (log.step mind event) := by
  have registered : ∀ entry, entry ∈ (log.step mind event).registered ↔
      entry ∈ log.registered ∨ entry = (log.serialNumberNext + 1, relay) := by
    intro entry
    simp [step, registers]
  have sentBack : (log.step mind event).sentBack = log.sentBack := by
    simp [step, toWorld]
  have handled : ∀ key, key ∈ (log.step mind event).handled ↔ key ∈ log.handled := by
    intro key
    simp [mem_handled_step, settles]
  have isNew : ∀ entry ∈ log.registered, entry.1 ≠ log.serialNumberNext + 1 := by
    intro entry isEntry same
    have old := kept.fresh entry isEntry
    omega
  have unhandled : log.serialNumberNext + 1 ∉ log.handled := by
    intro isHandled
    obtain ⟨other, isOther⟩ := kept.known _ isHandled
    exact isNew _ isOther rfl
  constructor
  · intro entry isEntry
    have advanced : (log.step mind event).serialNumberNext = log.serialNumberNext + 1 := next
    rw [advanced]
    rcases (registered entry).mp isEntry with isOld | rfl
    · have old := kept.fresh entry isOld
      omega
    · exact Int.le_refl _
  · intro entry isEntry other isOther same
    rcases (registered entry).mp isEntry with isOld | rfl
    · rcases (registered other).mp isOther with isOld' | rfl
      · exact kept.distinct entry isOld other isOld' same
      · exact absurd same (isNew entry isOld)
    · rcases (registered other).mp isOther with isOld' | rfl
      · exact absurd same.symm (isNew other isOld')
      · rfl
  · intro entry isEntry
    rcases (registered entry).mp isEntry with isOld | rfl
    · exact kept.answerable entry isOld
    · exact answerable
  · intro entry
    have held : (log.step mind event).relays = log.relays ++ [(log.serialNumberNext + 1, relay)] :=
      relays
    rw [held, registered, handled, mem_append, mem_singleton, kept.waiting]
    constructor
    · rintro (⟨isEntry, isOpen⟩ | rfl)
      · exact ⟨.inl isEntry, isOpen⟩
      · exact ⟨.inr rfl, unhandled⟩
    · rintro ⟨isEntry | rfl, isOpen⟩
      · exact .inl ⟨isEntry, isOpen⟩
      · exact .inr rfl
  · intro key isHandled
    obtain ⟨other, isOther⟩ := kept.known key ((handled key).mp isHandled)
    exact ⟨other, (registered _).mpr (.inl isOther)⟩
  · intro sent isSent
    rw [sentBack] at isSent
    obtain ⟨key, isHandled, same⟩ := kept.sent sent isSent
    exact ⟨key, (handled key).mpr isHandled, same⟩
  · intro entry isEntry isHandled
    rw [sentBack]
    rcases (registered entry).mp isEntry with isOld | rfl
    · exact kept.answered entry isOld ((handled entry.1).mp isHandled)
    · exact absurd ((handled _).mp isHandled) unhandled

theorem Kept.settled {key : Int} {relay : RelayEntry} {answer : MindOp δ}
    (settles : settles mind event = some key) (registers : log.registers mind event = none)
    (next : (log.perform mind event).serialNumberNext = log.serialNumberNext)
    (isHeld : (key, relay) ∈ log.relays)
    (relays : (log.perform mind event).relays = log.relays.filter (·.1 ≠ key))
    (toWorld : (log.perform mind event).toWorld = [answer])
    (isAnswer : IsAnswer relay event.response answer) :
    Kept (log.step mind event) := by
  have registered : (log.step mind event).registered = log.registered := by
    simp [step, registers]
  have sentBack : (log.step mind event).sentBack =
      log.sentBack ++ [(some key, event.response, answer)] := by
    simp [step, toWorld, settles]
  obtain ⟨isRegistered, isOpen⟩ := (kept.waiting _).mp isHeld
  have handled : ∀ other, other ∈ (log.step mind event).handled ↔
      other ∈ log.handled ∨ other = key := by
    intro other
    rw [mem_handled_step, settles, Option.some.injEq]
    constructor
    · rintro (isHandled | ⟨same, -⟩)
      · exact .inl isHandled
      · exact .inr same.symm
    · rintro (isHandled | rfl)
      · exact .inl isHandled
      · exact .inr ⟨rfl, relay, isRegistered⟩
  constructor
  · intro entry isEntry
    have same : (log.step mind event).serialNumberNext = log.serialNumberNext := next
    rw [registered] at isEntry
    rw [same]
    exact kept.fresh entry isEntry
  · rw [registered]
    exact kept.distinct
  · rw [registered]
    exact kept.answerable
  · intro entry
    have held : (log.step mind event).relays = log.relays.filter (·.1 ≠ key) := relays
    rw [held, registered, handled, mem_filter, kept.waiting]
    simp only [decide_eq_true_eq, not_or, and_assoc]
  · intro other isHandled
    rw [registered]
    rcases (handled other).mp isHandled with isHandled | rfl
    · exact kept.known other isHandled
    · exact ⟨relay, isRegistered⟩
  · intro sent isSent
    rw [sentBack, mem_append, mem_singleton] at isSent
    rcases isSent with isSent | rfl
    · obtain ⟨other, isHandled, same⟩ := kept.sent sent isSent
      exact ⟨other, (handled other).mpr (.inl isHandled), same⟩
    · exact ⟨key, (handled key).mpr (.inr rfl), rfl⟩
  · intro entry isEntry isHandled
    rw [registered] at isEntry
    rw [sentBack, filter_append]
    by_cases same : entry.1 = key
    · have isRelay : entry = (key, relay) := kept.distinct _ isEntry _ isRegistered same
      subst isRelay
      refine ⟨event.response, answer, ?_, isAnswer⟩
      simp [kept.unsent isOpen]
    · have before : entry.1 ∈ log.handled := by
        rcases (handled entry.1).mp isHandled with before | isKey
        · exact before
        · exact absurd isKey same
      obtain ⟨args, earlier, sentOnce, isEarlier⟩ := kept.answered entry isEntry before
      refine ⟨args, earlier, ?_, isEarlier⟩
      have different : key ≠ entry.1 := Ne.symm same
      simp [sentOnce, different]

theorem Kept.step (event : RelayEvent δ) : Kept (log.step mind event) := by
  rcases log.perform_cases mind event with idle | noted | settled
  · obtain ⟨settles, registers, toWorld, relays, next⟩ := idle
    apply kept.idle registers toWorld relays next
    intro key
    simp [mem_handled_step, settles]
  · obtain ⟨settles, relay, answerable, registers, toWorld, relays, next⟩ := noted
    exact kept.noted settles answerable registers toWorld relays next
  · obtain ⟨key, settles, registers, next, absent | found⟩ := settled
    · obtain ⟨absent, toWorld, relays⟩ := absent
      apply kept.idle registers toWorld relays (Int.le_of_eq next.symm)
      intro other
      rw [mem_handled_step, settles, Option.some.injEq]
      constructor
      · rintro (isHandled | ⟨rfl, relay, isRegistered⟩)
        · exact isHandled
        · -- a number that is noted down and no longer held has been handled before
          by_contra isOpen
          have isHeld := (kept.waiting _).mpr ⟨isRegistered, isOpen⟩
          exact absurd (List.find?_eq_none.mp absent _ isHeld) (by simp)
      · intro isHandled
        exact .inl isHandled
    · obtain ⟨relay, isHeld, relays, answers⟩ := found
      have isRegistered := ((kept.waiting _).mp isHeld).1
      obtain ⟨answer, toWorld, isAnswer⟩ := answers (kept.answerable _ isRegistered)
      exact kept.settled settles registers next isHeld relays toWorld isAnswer

end

/-- A relay that is settled is held no longer and had one answer, which carries what settled it;
until then it is held and has none. -/
def AnsweredOnce (log : RelayLog δ) : Prop :=
  ∀ key relay, (key, relay) ∈ log.registered →
    (key ∈ log.handled → (∀ entry ∈ log.relays, entry.1 ≠ key) ∧ ∃ args answer,
      log.sentBack.filter (·.1 = some key) = [(some key, args, answer)] ∧
        IsAnswer relay args answer) ∧
    (key ∉ log.handled → (key, relay) ∈ log.relays ∧ log.sentBack.filter (·.1 = some key) = [])

variable (mind)

/-- The next event sends nothing, or the answer to a held relay that it settles, carrying the
response if it is one. -/
def SendsOnlyAnswers (log : RelayLog δ) : Prop :=
  ∀ event : RelayEvent δ,
    (log.perform mind event).toWorld = [] ∨
    ∃ key relay answer, settles mind event = some key ∧ (key, relay) ∈ log.relays ∧
      (log.perform mind event).toWorld = [answer] ∧ IsAnswer relay event.response answer

theorem Kept.answeredOnce {log : RelayLog δ} (kept : Kept log) : log.AnsweredOnce := by
  intro key relay isRegistered
  constructor
  · intro isHandled
    constructor
    · rintro entry isHeld rfl
      exact ((kept.waiting entry).mp isHeld).2 isHandled
    · exact kept.answered _ isRegistered isHandled
  · intro isOpen
    exact ⟨(kept.waiting _).mpr ⟨isRegistered, isOpen⟩, kept.unsent isOpen⟩

theorem Kept.sendsOnlyAnswers {log : RelayLog δ} (kept : Kept log) : log.SendsOnlyAnswers mind := by
  intro event
  rcases log.perform_cases mind event with idle | noted | settled
  · exact .inl idle.2.2.1
  · obtain ⟨-, relay, -, -, toWorld, -⟩ := noted
    exact .inl toWorld
  · obtain ⟨key, settles, -, -, absent | found⟩ := settled
    · exact .inl absent.2.1
    · obtain ⟨relay, isHeld, -, answers⟩ := found
      have isRegistered := ((kept.waiting _).mp isHeld).1
      obtain ⟨answer, toWorld, isAnswer⟩ := answers (kept.answerable _ isRegistered)
      exact .inr ⟨key, relay, answer, settles, isHeld, toWorld, isAnswer⟩

/-- Each relayed operation is answered at most once, with the response or with nothing after the
time is up, and nothing else is sent back. -/
theorem run_answeredOnce (next : Int) (events : List (RelayEvent δ)) :
    (run (step mind) (start next) events).AnsweredOnce ∧
    (run (step mind) (start next) events).SendsOnlyAnswers mind := by
  have kept : Kept (run (step mind) (start next) events) :=
    run_invariant_of_step Kept (fun _ event kept => kept.step event) (Kept.start next) events
  exact ⟨kept.answeredOnce, kept.sendsOnlyAnswers mind⟩

end RelayLog

end Cyphesis.Simulation
