import Cyphesis.Foundation.Run
import Mathlib.Data.List.Basic

/-!
# Teleports over a peer link

An entity is handed over by a Create operation with its identifier as number, and is deleted when
that is answered, unless ten seconds have passed. `request` tells the requests apart.
-/

namespace Cyphesis.Server

open Cyphesis.Foundation List
open Function

inductive PeerAuthState where
  | init
  | authenticating
  | authenticated
  | failed
  deriving DecidableEq

/-- State of a `TeleportState`. -/
inductive TeleportPhase where
  | none
  | requested
  | created
  deriving DecidableEq

/-- With the number of the request. -/
structure TeleportState where
  phase : TeleportPhase
  possessKey : String
  teleportTime : Nat
  request : Nat
  deriving DecidableEq

/-- A Delete operation, and its request. -/
structure DeleteOp where
  id : Nat
  request : Nat
  deriving DecidableEq

/-- `Peer`, and what it reads of the world. -/
structure Peer where
  state : PeerAuthState
  accountId : String
  teleports : Nat → Option TeleportState
  /-- Of the entities in the world. -/
  minds : Nat → Option (List String)
  now : Nat
  /-- How many requests have been sent. -/
  requests : Nat
  /-- The Delete operations that have been sent. -/
  deletes : List DeleteOp
  /-- Confirmed by the other server. -/
  confirmed : List Nat
  /-- Pending, and in the world. -/
  handedOver : List Nat
  /-- Those that were answered. -/
  settled : List Nat
  /-- When the teleports were cleaned up last. -/
  cleaned : Nat

/-- Argument, number, and request confirmed. -/
structure InfoOp where
  arg : Option String
  refno : Option Nat
  request : Option Nat

namespace Peer

def isRequested (teleport : TeleportState) : Bool :=
  teleport.phase = .requested

def isMind (teleport : TeleportState) : Bool :=
  teleport.possessKey ≠ ""

/-- Erase the state of a teleport. -/
def eraseTeleport (peer : Peer) (id : Nat) : Peer :=
  { peer with teleports := update peer.teleports id none }

/-- Send a Create, and note it down. -/
def addTeleport (peer : Peer) (id : Nat) (key : String) : Peer :=
  { peer with
    teleports := update peer.teleports id (some
      { phase := .requested
        possessKey := key
        teleportTime := peer.now
        request := peer.requests })
    requests := peer.requests + 1 }

/-- For an entity in the world. -/
def teleportEntity (peer : Peer) (id : Nat) (key : String) : Peer :=
  match peer.minds id with
  | none => peer
  | some minds =>
    if peer.state ≠ .authenticated then peer
    else if (peer.teleports id).isSome then peer
    else peer.addTeleport id (if minds.isEmpty then "" else key)

/-- The end of `Peer::peerTeleportResponse`. -/
def deleteEntity (peer : Peer) (id : Nat) (teleport : TeleportState) : Peer :=
  eraseTeleport { peer with deletes := peer.deletes ++ [⟨id, teleport.request⟩] } id

def peerTeleportResponse (peer : Peer) (op : InfoOp) : Peer :=
  match op.arg, op.refno with
  | some _, some id =>
    match peer.teleports id with
    | none => peer
    | some teleport =>
      let created := { peer with
        teleports := update peer.teleports id (some { teleport with phase := .created }) }
      match peer.minds id with
      | none => created.eraseTeleport id
      | some minds =>
        if isMind teleport ∧ minds = [] then created
        else created.deleteEntity id teleport
  | _, _ => peer

/-- What an Info refers to. -/
def pending (peer : Peer) (op : InfoOp) : Option (Nat × TeleportState) :=
  op.refno.bind fun id => (peer.teleports id).map fun teleport => (id, teleport)

/-- Pending, and the entity is there. -/
def handsOver (peer : Peer) (op : InfoOp) : Bool :=
  match peer.pending op with
  | some (id, teleport) => (peer.minds id).isSome && op.request = some teleport.request
  | none => false

/-- Note the answer. -/
def noteInfo (peer : Peer) (op : InfoOp) : Peer :=
  { peer with
    confirmed := peer.confirmed ++ op.request.toList
    handedOver := peer.handedOver ++ if peer.handsOver op then op.request.toList else []
    settled := peer.settled ++ op.request.toList }

/-- `Peer::operation` for an Info operation. -/
def infoOperation (peer : Peer) (op : InfoOp) : Peer :=
  match peer.state with
  | .authenticating =>
    match op.arg with
    | some id => { peer with accountId := id, state := .authenticated }
    | none => peer
  | .authenticated => peer.peerTeleportResponse op
  | _ => peer

/-- `Peer::operation` for an Error operation. -/
def errorOperation (peer : Peer) (request : Option Nat) : Peer :=
  { peer with state := .failed, settled := peer.settled ++ request.toList }

/-- Has a teleport failed? -/
def timedOut (now : Nat) (teleport : TeleportState) : Bool :=
  10 ≤ (now - teleport.teleportTime) / 1000000000

def cleanTeleports (peer : Peer) : Peer :=
  { peer with
    teleports := fun id => (peer.teleports id).filter fun teleport =>
      !(timedOut peer.now teleport && isRequested teleport)
    cleaned := peer.now }

/-- On the link, or in the world. -/
inductive Event where
  | teleport (id : Nat) (key : String)
  | info (op : InfoOp)
  | error (request : Option Nat)
  | cleanTeleports
  | tick (elapsed : Nat)
  /-- A mind comes or goes, or an entity comes. -/
  | setMinds (id : Nat) (minds : List String)
  /-- Perhaps by a sent operation. -/
  | delete (id : Nat)

def perform (peer : Peer) : Event → Peer
  | .teleport id key => peer.teleportEntity id key
  | .info op => (peer.noteInfo op).infoOperation op
  | .error request => peer.errorOperation request
  | .cleanTeleports => peer.cleanTeleports
  | .tick elapsed => { peer with now := peer.now + elapsed }
  | .setMinds id minds => { peer with minds := update peer.minds id (some minds) }
  | .delete id => { peer with minds := update peer.minds id none }

variable (state : PeerAuthState) (minds : Nat → Option (List String))

/-- A link over which nothing has been sent. -/
def create : Peer where
  state := state
  accountId := ""
  teleports _ := none
  minds := minds
  now := 0
  requests := 0
  deletes := []
  confirmed := []
  handedOver := []
  settled := []
  cleaned := 0

/-- Only what the other server confirmed is deleted, and what is handed over in time is so once.
What is meant are the `Delete` operations that are sent, not what becomes of them. -/
structure HandsOver (peer : Peer) : Prop where
  confirmed : ∀ delete ∈ peer.deletes, delete.request ∈ peer.confirmed
  once : ∀ request ∈ peer.handedOver, (peer.deletes.map (·.request)).count request = 1
  settled : ∀ id teleport, peer.teleports id = some teleport → teleport.request ∉ peer.settled
  timely : ∀ id teleport, peer.teleports id = some teleport → timedOut peer.cleaned teleport = false

/-- To a request, for its entity. -/
structure Answers (peer : Peer) (request : Nat) (refno : Option Nat) : Prop where
  sent : request < peer.requests
  refers : ∀ id teleport, peer.teleports id = some teleport → teleport.request = request →
    refno = some id

/-- An Info answers a pending request. -/
def Orderly (peer : Peer) : Event → Prop
  | .info op =>
    (∀ request, op.request = some request → peer.Answers request op.refno) ∧
      ∀ id teleport, peer.pending op = some (id, teleport) →
        peer.state = .authenticated ∧ op.arg.isSome = true ∧
          op.request = some teleport.request ∧
          ¬ (isMind teleport = true ∧ peer.minds id = some [])
  | .error request =>
    ∀ answered, request = some answered → answered < peer.requests ∧
      ∀ id teleport, peer.teleports id = some teleport → teleport.request ≠ answered
  | _ => True

/-- What else holds of the requests. -/
structure Numbered (peer : Peer) : Prop where
  requested : ∀ id teleport, peer.teleports id = some teleport → teleport.phase = .requested
  sent : ∀ id teleport, peer.teleports id = some teleport → teleport.request < peer.requests
  distinct : ∀ id other teleport otherTeleport, peer.teleports id = some teleport →
    peer.teleports other = some otherTeleport → teleport.request = otherTeleport.request →
    id = other
  settledSent : ∀ request ∈ peer.settled, request < peer.requests
  deletesSettled : ∀ delete ∈ peer.deletes, delete.request ∈ peer.settled
  handedOverSettled : ∀ request ∈ peer.handedOver, request ∈ peer.settled
  cleanedBefore : peer.cleaned ≤ peer.now

theorem create_handsOver : (create state minds).HandsOver ∧ (create state minds).Numbered := by
  constructor
  · constructor <;> simp [create]
  · constructor <;> simp [create]

variable {peer : Peer}

variable {teleport : TeleportState}

theorem pending_eq_some_iff {op : InfoOp} {id : Nat} :
    peer.pending op = some (id, teleport) ↔
      op.refno = some id ∧ peer.teleports id = some teleport := by
  unfold pending
  constructor
  · intro isPending
    obtain ⟨other, isRefno, isEntry⟩ := Option.bind_eq_some_iff.mp isPending
    obtain ⟨found, isFound, same⟩ := Option.map_eq_some_iff.mp isEntry
    cases same
    exact ⟨isRefno, isFound⟩
  · rintro ⟨isRefno, isFound⟩
    simp [isRefno, isFound]

/-- It ends a teleport or deletes its entity. -/
theorem info_cases {op : InfoOp} (orderly : peer.Orderly (.info op)) :
    (peer.pending op = none ∧ ∃ state accountId, peer.perform (.info op) =
        { peer.noteInfo op with state := state, accountId := accountId }) ∨
      ∃ id teleport, peer.pending op = some (id, teleport) ∧
        op.request = some teleport.request ∧
        (peer.minds id = none ∧ peer.perform (.info op) = (peer.noteInfo op).eraseTeleport id ∨
          (peer.minds id).isSome = true ∧
            peer.perform (.info op) = (peer.noteInfo op).deleteEntity id teleport) := by
  cases isPending : peer.pending op with
  | none =>
    left
    refine ⟨rfl, ?_⟩
    have noTeleport (id : Nat) (isRefno : op.refno = some id) : peer.teleports id = none := by
      rw [Option.eq_none_iff_forall_ne_some]
      intro teleport isFound
      rw [pending_eq_some_iff.mpr ⟨isRefno, isFound⟩] at isPending
      contradiction
    have performed : peer.perform (.info op) = (peer.noteInfo op).infoOperation op := rfl
    rw [performed]
    unfold infoOperation
    split
    · split
      · exact ⟨_, _, rfl⟩
      · exact ⟨_, _, rfl⟩
    · unfold peerTeleportResponse
      split
      next id _ isRefno =>
        have none : (peer.noteInfo op).teleports id = none := noTeleport id isRefno
        rw [none]
        exact ⟨_, _, rfl⟩
      · exact ⟨_, _, rfl⟩
    · exact ⟨_, _, rfl⟩
  | some pair =>
    obtain ⟨id, teleport⟩ := pair
    obtain ⟨authenticated, hasArg, isRequest, mindStays⟩ := orderly.2 id teleport isPending
    obtain ⟨isRefno, isFound⟩ := pending_eq_some_iff.mp isPending
    obtain ⟨arg, isArg⟩ := Option.isSome_iff_exists.mp hasArg
    right
    refine ⟨id, teleport, rfl, isRequest, ?_⟩
    have response : peer.perform (.info op) = (peer.noteInfo op).peerTeleportResponse op := by
      have state : (peer.noteInfo op).state = .authenticated := authenticated
      simp only [perform, infoOperation, state]
    have found : (peer.noteInfo op).teleports id = some teleport := isFound
    rw [response]
    unfold peerTeleportResponse
    simp only [isArg, isRefno, found]
    cases isHere : peer.minds id with
    | none =>
      have gone : (peer.noteInfo op).minds id = none := isHere
      left
      simp [gone, eraseTeleport]
    | some minds =>
      have here : (peer.noteInfo op).minds id = some minds := isHere
      right
      have stays : ¬ (isMind teleport = true ∧ minds = []) := by
        rintro ⟨mind, rfl⟩
        exact mindStays ⟨mind, isHere⟩
      simp [here, stays, deleteEntity, eraseTeleport]

/-- Invariant of orderly runs. -/
structure Good (peer : Peer) : Prop where
  handsOver : peer.HandsOver
  numbered : peer.Numbered

theorem addTeleport_teleports {id other : Nat} {key : String}
    (found : (peer.addTeleport id key).teleports other = some teleport) :
    (other = id ∧ teleport.phase = .requested ∧ teleport.teleportTime = peer.now ∧
        teleport.request = peer.requests) ∨
      other ≠ id ∧ peer.teleports other = some teleport := by
  by_cases same : other = id
  · simp only [addTeleport, same, update_self, Option.some.injEq] at found
    subst found
    exact .inl ⟨same, rfl, rfl, rfl⟩
  · simp only [addTeleport, update_of_ne same] at found
    exact .inr ⟨same, found⟩

section

variable (good : peer.Good)

include good

theorem Good.addTeleport (id : Nat) (key : String) : (peer.addTeleport id key).Good := by
  obtain ⟨handsOver, numbered⟩ := good
  constructor
  · refine ⟨handsOver.confirmed, handsOver.once, ?_, ?_⟩
    · intro other teleport found isSettled
      rcases addTeleport_teleports found with ⟨-, -, -, isNew⟩ | ⟨-, isOld⟩
      · exact absurd (numbered.settledSent _ isSettled) (by omega)
      · exact handsOver.settled other teleport isOld isSettled
    · intro other teleport found
      rcases addTeleport_teleports found with ⟨-, -, isNow, -⟩ | ⟨-, isOld⟩
      · have before : peer.cleaned - peer.now = 0 := Nat.sub_eq_zero_of_le numbered.cleanedBefore
        have cleaned : (peer.addTeleport id key).cleaned = peer.cleaned := rfl
        simp [timedOut, isNow, cleaned, before]
      · exact handsOver.timely other teleport isOld
  · have more : (peer.addTeleport id key).requests = peer.requests + 1 := rfl
    refine ⟨?_, ?_, ?_, ?_, numbered.deletesSettled, numbered.handedOverSettled,
      numbered.cleanedBefore⟩
    · intro other teleport found
      rcases addTeleport_teleports found with ⟨-, isRequested, -⟩ | ⟨-, isOld⟩
      · exact isRequested
      · exact numbered.requested other teleport isOld
    · intro other teleport found
      rcases addTeleport_teleports found with ⟨-, -, -, isNew⟩ | ⟨-, isOld⟩
      · omega
      · have sent := numbered.sent other teleport isOld
        omega
    · intro first second teleport otherTeleport foundFirst foundSecond same
      rcases addTeleport_teleports foundFirst with ⟨isFirst, -, -, newFirst⟩ | ⟨-, oldFirst⟩
      · rcases addTeleport_teleports foundSecond with ⟨isSecond, -⟩ | ⟨-, oldSecond⟩
        · exact isFirst.trans isSecond.symm
        · have sent := numbered.sent second otherTeleport oldSecond
          omega
      · rcases addTeleport_teleports foundSecond with ⟨-, -, -, newSecond⟩ | ⟨-, oldSecond⟩
        · have sent := numbered.sent first teleport oldFirst
          omega
        · exact numbered.distinct first second teleport otherTeleport oldFirst oldSecond same
    · intro request isSettled
      have sent := numbered.settledSent request isSettled
      omega

theorem Good.teleportEntity (id : Nat) (key : String) : (peer.teleportEntity id key).Good := by
  unfold Peer.teleportEntity
  split
  · exact good
  · split
    · exact good
    · split
      · exact good
      · exact good.addTeleport id _

theorem Good.not_settled {id : Nat} (found : peer.teleports id = some teleport) :
    (peer.deletes.map (·.request)).count teleport.request = 0 ∧
      teleport.request ∉ peer.handedOver := by
  have unsettled := good.handsOver.settled id teleport found
  constructor
  · rw [count_eq_zero]
    intro isMember
    obtain ⟨delete, isDelete, same⟩ := List.mem_map.mp isMember
    exact unsettled (same ▸ good.numbered.deletesSettled delete isDelete)
  · exact fun isHandedOver => unsettled (good.numbered.handedOverSettled _ isHandedOver)

/-- It ends, perhaps with a Delete. -/
theorem Good.ended {id : Nat} (found : peer.teleports id = some teleport) {after : Peer}
    (teleports : after.teleports = update peer.teleports id none)
    (requests : after.requests = peer.requests)
    (confirmed : after.confirmed = peer.confirmed ++ [teleport.request])
    (settled : after.settled = peer.settled ++ [teleport.request])
    (times : after.now = peer.now ∧ after.cleaned = peer.cleaned)
    (deletes : after.deletes = peer.deletes ∧ after.handedOver = peer.handedOver ∨
      after.deletes = peer.deletes ++ [⟨id, teleport.request⟩] ∧
      after.handedOver = peer.handedOver ++ [teleport.request]) : after.Good := by
  have isOld {other : Nat} {otherTeleport : TeleportState}
      (isFound : after.teleports other = some otherTeleport) :
      other ≠ id ∧ peer.teleports other = some otherTeleport := by
    rw [teleports] at isFound
    by_cases same : other = id
    · simp [same] at isFound
    · rw [update_of_ne same] at isFound
      exact ⟨same, isFound⟩
  obtain ⟨noDelete, notHandedOver⟩ := good.not_settled found
  obtain ⟨handsOver, numbered⟩ := good
  constructor
  · constructor
    · intro delete isDelete
      rw [confirmed]
      rcases deletes with ⟨same, -⟩ | ⟨more, -⟩
      · exact mem_append_left _ (handsOver.confirmed delete (same ▸ isDelete))
      · rw [more] at isDelete
        rcases List.mem_append.mp isDelete with isOldDelete | isNew
        · exact mem_append_left _ (handsOver.confirmed delete isOldDelete)
        · rw [List.mem_singleton.mp isNew]
          exact mem_append_right _ mem_cons_self
    · intro request isHandedOver
      rcases deletes with ⟨same, sameHandedOver⟩ | ⟨more, moreHandedOver⟩
      · rw [same]
        exact handsOver.once request (sameHandedOver ▸ isHandedOver)
      · rw [more, map_append, count_append]
        rw [moreHandedOver] at isHandedOver
        rcases List.mem_append.mp isHandedOver with isOldRequest | isNew
        · have different : teleport.request ≠ request := by
            rintro rfl
            exact notHandedOver isOldRequest
          rw [handsOver.once request isOldRequest]
          simp [different]
        · rw [List.mem_singleton.mp isNew, noDelete]
          simp
    · intro other otherTeleport isFound isSettled
      obtain ⟨different, wasFound⟩ := isOld isFound
      rw [settled] at isSettled
      rcases List.mem_append.mp isSettled with wasSettled | isNew
      · exact handsOver.settled other otherTeleport wasFound wasSettled
      · exact different (numbered.distinct other id otherTeleport teleport wasFound found
          (List.mem_singleton.mp isNew))
    · intro other otherTeleport isFound
      rw [times.2]
      exact handsOver.timely other otherTeleport (isOld isFound).2
  · constructor
    · exact fun other otherTeleport isFound =>
        numbered.requested other otherTeleport (isOld isFound).2
    · intro other otherTeleport isFound
      rw [requests]
      exact numbered.sent other otherTeleport (isOld isFound).2
    · exact fun first second teleport otherTeleport foundFirst foundSecond same =>
        numbered.distinct first second teleport otherTeleport (isOld foundFirst).2
          (isOld foundSecond).2 same
    · intro request isSettled
      rw [requests]
      rw [settled] at isSettled
      rcases List.mem_append.mp isSettled with wasSettled | isNew
      · exact numbered.settledSent request wasSettled
      · rw [List.mem_singleton.mp isNew]
        exact numbered.sent id teleport found
    · intro delete isDelete
      rw [settled]
      rcases deletes with ⟨same, -⟩ | ⟨more, -⟩
      · exact mem_append_left _ (numbered.deletesSettled delete (same ▸ isDelete))
      · rw [more] at isDelete
        rcases List.mem_append.mp isDelete with isOldDelete | isNew
        · exact mem_append_left _ (numbered.deletesSettled delete isOldDelete)
        · rw [List.mem_singleton.mp isNew]
          exact mem_append_right _ mem_cons_self
    · intro request isHandedOver
      rw [settled]
      rcases deletes with ⟨-, same⟩ | ⟨-, more⟩
      · exact mem_append_left _ (numbered.handedOverSettled request (same ▸ isHandedOver))
      · rw [more] at isHandedOver
        rcases List.mem_append.mp isHandedOver with wasHandedOver | isNew
        · exact mem_append_left _ (numbered.handedOverSettled request wasHandedOver)
        · exact mem_append_right _ isNew
    · rw [times.1, times.2]
      exact numbered.cleanedBefore

theorem Good.settle (requests : List Nat) {after : Peer}
    (sent : ∀ request ∈ requests, request < peer.requests)
    (notPending : ∀ request ∈ requests, ∀ id teleport, peer.teleports id = some teleport →
      teleport.request ≠ request) (teleports : after.teleports = peer.teleports)
    (sameRequests : after.requests = peer.requests) (confirmed : peer.confirmed ⊆ after.confirmed)
    (settled : after.settled = peer.settled ++ requests)
    (times : after.now = peer.now ∧ after.cleaned = peer.cleaned)
    (deletes : after.deletes = peer.deletes) (handedOver : after.handedOver = peer.handedOver) :
    after.Good := by
  obtain ⟨handsOver, numbered⟩ := good
  constructor
  · constructor
    · rw [deletes]
      exact fun delete isDelete => confirmed (handsOver.confirmed delete isDelete)
    · rw [deletes, handedOver]
      exact handsOver.once
    · rw [teleports, settled]
      intro id teleport found isSettled
      rcases List.mem_append.mp isSettled with wasSettled | isNew
      · exact handsOver.settled id teleport found wasSettled
      · exact notPending _ isNew id teleport found rfl
    · rw [teleports, times.2]
      exact handsOver.timely
  · constructor
    · rw [teleports]
      exact numbered.requested
    · rw [teleports, sameRequests]
      exact numbered.sent
    · rw [teleports]
      exact numbered.distinct
    · rw [settled, sameRequests]
      intro request isSettled
      rcases List.mem_append.mp isSettled with wasSettled | isNew
      · exact numbered.settledSent request wasSettled
      · exact sent request isNew
    · rw [deletes, settled]
      exact fun delete isDelete =>
        mem_append_left _ (numbered.deletesSettled delete isDelete)
    · rw [handedOver, settled]
      exact fun request isHandedOver =>
        mem_append_left _ (numbered.handedOverSettled request isHandedOver)
    · rw [times.1, times.2]
      exact numbered.cleanedBefore

theorem Good.info {op : InfoOp} (orderly : peer.Orderly (.info op)) :
    (peer.perform (.info op)).Good := by
  rcases info_cases orderly with
    ⟨isPending, state, accountId, performed⟩ | ⟨id, teleport, isPending, isRequest, ended⟩
  · rw [performed]
    have notHandedOver : peer.handsOver op = false := by simp [Peer.handsOver, isPending]
    refine good.settle op.request.toList ?_ ?_ rfl rfl ?_ rfl ⟨rfl, rfl⟩ rfl ?_
    · intro request isMember
      exact (orderly.1 request (by simpa using isMember)).sent
    · rintro request isMember id teleport found same
      have isRefno := (orderly.1 request (by simpa using isMember)).refers id teleport found same
      rw [pending_eq_some_iff.mpr ⟨isRefno, found⟩] at isPending
      contradiction
    · exact subset_append_left _ _
    · simp [noteInfo, notHandedOver]
  · have found := (pending_eq_some_iff.mp isPending).2
    rcases ended with ⟨gone, performed⟩ | ⟨here, performed⟩
    · have notHandedOver : peer.handsOver op = false := by simp [Peer.handsOver, isPending, gone]
      rw [performed]
      refine good.ended found rfl rfl ?_ ?_ ⟨rfl, rfl⟩ (.inl ⟨rfl, ?_⟩)
      · simp [eraseTeleport, noteInfo, isRequest]
      · simp [eraseTeleport, noteInfo, isRequest]
      · simp [eraseTeleport, noteInfo, notHandedOver]
    · have handedOver : peer.handsOver op = true := by
        simp [Peer.handsOver, isPending, here, isRequest]
      rw [performed]
      refine good.ended found rfl rfl ?_ ?_ ⟨rfl, rfl⟩ (.inr ⟨?_, ?_⟩)
      · simp [deleteEntity, eraseTeleport, noteInfo, isRequest]
      · simp [deleteEntity, eraseTeleport, noteInfo, isRequest]
      · simp [deleteEntity, eraseTeleport, noteInfo]
      · simp [deleteEntity, eraseTeleport, noteInfo, handedOver, isRequest]

theorem Good.error {request : Option Nat} (orderly : peer.Orderly (.error request)) :
    (peer.errorOperation request).Good := by
  refine good.settle request.toList ?_ ?_ rfl rfl (List.Subset.refl _) rfl ⟨rfl, rfl⟩ rfl rfl
  · intro answered isMember
    exact (orderly answered (by simpa using isMember)).1
  · intro answered isMember
    exact (orderly answered (by simpa using isMember)).2

theorem Good.cleanTeleports : peer.cleanTeleports.Good := by
  have isOld {id : Nat} {teleport : TeleportState}
      (found : peer.cleanTeleports.teleports id = some teleport) :
      peer.teleports id = some teleport ∧ timedOut peer.now teleport = false := by
    obtain ⟨isFound, stays⟩ := Option.filter_eq_some_iff.mp found
    have requested := good.numbered.requested id teleport isFound
    exact ⟨isFound, by simpa [isRequested, requested] using stays⟩
  obtain ⟨handsOver, numbered⟩ := good
  constructor
  · refine ⟨handsOver.confirmed, handsOver.once, ?_, ?_⟩
    · exact fun id teleport found => handsOver.settled id teleport (isOld found).1
    · exact fun id teleport found => (isOld found).2
  · refine ⟨?_, ?_, ?_, numbered.settledSent, numbered.deletesSettled,
      numbered.handedOverSettled, Nat.le_refl _⟩
    · exact fun id teleport found => numbered.requested id teleport (isOld found).1
    · exact fun id teleport found => numbered.sent id teleport (isOld found).1
    · exact fun first second teleport otherTeleport foundFirst foundSecond same =>
        numbered.distinct first second teleport otherTeleport (isOld foundFirst).1
          (isOld foundSecond).1 same

theorem Good.perform (event : Event) (orderly : peer.Orderly event) :
    (peer.perform event).Good := by
  cases event with
  | teleport id key => exact good.teleportEntity id key
  | info op => exact good.info orderly
  | error request => exact good.error orderly
  | cleanTeleports => exact good.cleanTeleports
  | tick elapsed =>
    obtain ⟨handsOver, numbered⟩ := good
    refine ⟨⟨handsOver.confirmed, handsOver.once, handsOver.settled, handsOver.timely⟩,
      numbered.requested, numbered.sent, numbered.distinct, numbered.settledSent,
      numbered.deletesSettled, numbered.handedOverSettled, ?_⟩
    exact Nat.le_trans numbered.cleanedBefore (Nat.le_add_right _ _)
  | setMinds id minds =>
    obtain ⟨handsOver, numbered⟩ := good
    exact ⟨⟨handsOver.confirmed, handsOver.once, handsOver.settled, handsOver.timely⟩,
      numbered.requested, numbered.sent, numbered.distinct, numbered.settledSent,
      numbered.deletesSettled, numbered.handedOverSettled, numbered.cleanedBefore⟩
  | delete id =>
    obtain ⟨handsOver, numbered⟩ := good
    exact ⟨⟨handsOver.confirmed, handsOver.once, handsOver.settled, handsOver.timely⟩,
      numbered.requested, numbered.sent, numbered.distinct, numbered.settledSent,
      numbered.deletesSettled, numbered.handedOverSettled, numbered.cleanedBefore⟩

end

/-- In runs of orderly events a teleported entity ends up on one of the two servers, whole. -/
theorem run_handsOver (state : PeerAuthState) (minds : Nat → Option (List String))
    (events : List Event) (orderly : Admissible perform Orderly (create state minds) events) :
    (run perform (create state minds) events).HandsOver := by
  have start : (create state minds).Good :=
    ⟨(create_handsOver state minds).1, (create_handsOver state minds).2⟩
  exact (run_invariant Good (fun peer event good meets => good.perform event meets) start
    orderly).handsOver

/-- Entity 5 is in the world, with a mind. -/
def travellerMinds : Nat → Option (List String) :=
  update (fun _ => none) 5 (some ["mind"])

/-- Sent, arrived, and deleted. -/
def travel : List Event :=
  [.teleport 5 "abcd", .info ⟨some "17", some 5, some 0⟩, .delete 5]

theorem run_handsOver_travel :
    (run perform (create .authenticated travellerMinds) travel).deletes = [⟨5, 0⟩] ∧
      (run perform (create .authenticated travellerMinds) travel).HandsOver := by
  refine ⟨by decide +kernel, run_handsOver .authenticated travellerMinds travel ?_⟩
  have isTraveller (id : Nat) (teleport : TeleportState)
      (found : ((create .authenticated travellerMinds).perform (.teleport 5 "abcd")).teleports id =
        some teleport) : id = 5 ∧ teleport = ⟨.requested, "abcd", 0, 0⟩ := by
    have teleports : ((create .authenticated travellerMinds).perform
        (.teleport 5 "abcd")).teleports =
          update (fun _ => none) 5 (some ⟨.requested, "abcd", 0, 0⟩) := by rfl
    rw [teleports] at found
    by_cases same : id = 5
    · rw [same, update_self] at found
      exact ⟨same, (Option.some.inj found).symm⟩
    · rw [update_of_ne same] at found
      cases found
  refine ⟨trivial, ⟨?_, ?_⟩, trivial, trivial⟩
  · intro request isRequest
    cases isRequest
    refine ⟨by decide +kernel, ?_⟩
    intro id teleport found _
    rw [(isTraveller id teleport found).1]
  · intro id teleport isPending
    obtain ⟨rfl, rfl⟩ := isTraveller id teleport (pending_eq_some_iff.mp isPending).2
    exact ⟨by rfl, rfl, rfl, by decide +kernel⟩

/-- Errors, late answers and lost minds go wrong. -/
theorem run_not_handsOver :
    ¬ (run perform (create .authenticated travellerMinds)
      [.teleport 5 "abcd", .error (some 0)]).HandsOver ∧
    ¬ (run perform (create .authenticated travellerMinds)
      [.teleport 5 "abcd", .tick 10000000000, .cleanTeleports, .teleport 5 "abcd",
        .info ⟨some "17", some 5, some 0⟩]).HandsOver ∧
    ¬ (run perform (create .authenticated travellerMinds)
      [.teleport 5 "abcd", .setMinds 5 [], .info ⟨some "17", some 5, some 0⟩]).HandsOver := by
  refine ⟨?_, ?_, ?_⟩
  · intro handsOver
    exact handsOver.settled 5 ⟨.requested, "abcd", 0, 0⟩ (by decide +kernel) (by decide +kernel)
  · intro handsOver
    exact absurd (handsOver.confirmed ⟨5, 1⟩ (by decide +kernel)) (by decide +kernel)
  · intro handsOver
    exact handsOver.settled 5 ⟨.created, "abcd", 0, 0⟩ (by decide +kernel) (by decide +kernel)

end Peer

end Cyphesis.Server
