import Cyphesis.Server.Sessions

/-!
# The tables agree

An account has a connection exactly when the connection has it among its routers, and then it is in
the lobby.
-/

namespace Cyphesis.Server

open Cyphesis.Foundation

/-- With connection and minds. -/
structure View where
  isAccount : Bool
  connection : Option Nat
  minds : List (Nat × Nat)

def Connectable.view : Connectable → View
  | .account state => ⟨true, state.connection, state.minds⟩
  | .juncture connection => ⟨false, connection, []⟩

/-- The mind is one of the object's. -/
def View.hasMind (view : View) (mind : Nat) : Prop :=
  ∃ entity, (entity, mind) ∈ view.minds

namespace ServerRouting

def view (server : ServerRouting) (id : Nat) : Option View :=
  (server.object id).map Connectable.view

/-- The tables agree, for the open connections. -/
structure Sound (opened : List Nat) (server : ServerRouting) : Prop where
  known : ∀ id view, server.view id = some view → id < server.nextId
  openKnown : ∀ connection ∈ opened, connection < server.nextId
  attached : ∀ id view connection, server.view id = some view →
    view.connection = some connection → connection ∈ opened
  connectable : ∀ connection ∈ opened, ∀ id,
    id ∈ (server.table connection).connectableRouters ↔
      ∃ view, server.view id = some view ∧ view.connection = some connection
  routers : ∀ connection ∈ opened, ∀ id, id ∈ (server.table connection).routers ↔
    (∃ view, server.view id = some view ∧ view.connection = some connection) ∨
      ∃ owner view, server.view owner = some view ∧ view.connection = some connection ∧
        view.hasMind id
  lobby : ∀ id, id ∈ server.lobby ↔
    ∃ view, server.view id = some view ∧ view.isAccount = true ∧ view.connection ≠ none
  idle : ∀ id view, server.view id = some view → view.connection = none → view.minds = []
  mindKnown : ∀ id view mind, server.view id = some view → view.hasMind mind →
    mind < server.nextId ∧ server.view mind = none
  mindOwner : ∀ id view other view' mind entity entity', server.view id = some view →
    server.view other = some view' → (entity, mind) ∈ view.minds → (entity', mind) ∈ view'.minds →
      id = other ∧ entity = entity'

/-- The object has the mind before a change. -/
def hadMind (server : ServerRouting) (id mind : Nat) : Prop :=
  ∃ view, server.view id = some view ∧ view.hasMind mind

/-- After one view has changed. -/
structure Updated (opened : List Nat) (server after : ServerRouting) (id : Nat) (changed : View) :
    Prop where
  view : after.view = Function.update server.view id (some changed)
  nextId : server.nextId ≤ after.nextId
  known : id < after.nextId
  /-- It is there already, or new. -/
  object : (∃ view, server.view id = some view) ∨ server.nextId ≤ id
  attached : ∀ connection, changed.connection = some connection → connection ∈ opened
  connectable : ∀ connection ∈ opened, ∀ x, x ∈ (after.table connection).connectableRouters ↔
    if x = id then changed.connection = some connection
    else x ∈ (server.table connection).connectableRouters
  routers : ∀ connection ∈ opened, ∀ x, x ∈ (after.table connection).routers ↔
    (x ≠ id ∧ ¬ server.hadMind id x ∧ x ∈ (server.table connection).routers) ∨
      (changed.connection = some connection ∧ (x = id ∨ changed.hasMind x))
  lobby : ∀ x, x ∈ after.lobby ↔
    if x = id then changed.isAccount = true ∧ changed.connection ≠ none else x ∈ server.lobby
  idle : changed.connection = none → changed.minds = []
  minds : ∀ entity mind, (entity, mind) ∈ changed.minds →
    (∃ view, server.view id = some view ∧ (entity, mind) ∈ view.minds) ∨
      (server.nextId ≤ mind ∧ mind < after.nextId ∧ mind ≠ id)
  mindsUnique : ∀ entity entity' mind, (entity, mind) ∈ changed.minds →
    (entity', mind) ∈ changed.minds → entity = entity'

namespace Updated

variable {opened : List Nat} {server after : ServerRouting} {id x : Nat} {changed view : View}

section

variable (updated : Updated opened server after id changed)

include updated

theorem here : after.view id = some changed := by
  rw [updated.view, Function.update_self]

theorem elsewhere (different : x ≠ id) : after.view x = server.view x := by
  rw [updated.view, Function.update_of_ne different]

theorem view_cases (isView : after.view x = some view) :
    (x = id ∧ view = changed) ∨ (x ≠ id ∧ server.view x = some view) := by
  by_cases same : x = id
  · subst same
    rw [updated.here] at isView
    exact .inl ⟨rfl, (Option.some.inj isView).symm⟩
  · rw [updated.elsewhere same] at isView
    exact .inr ⟨same, isView⟩

end

end Updated

namespace Sound

variable {opened : List Nat} {server after : ServerRouting} {id : Nat} {changed : View}

section

variable (sound : Sound opened server)

include sound

theorem of_same (view : after.view = server.view) (connectable : ∀ connection,
      (after.table connection).connectableRouters = (server.table connection).connectableRouters)
    (routers : ∀ connection, (after.table connection).routers = (server.table connection).routers)
    (lobby : after.lobby = server.lobby) (nextId : after.nextId = server.nextId) :
    Sound opened after := by
  constructor
  · rw [view, nextId]
    exact sound.known
  · rw [nextId]
    exact sound.openKnown
  · rw [view]
    exact sound.attached
  · intro connection isOpen
    rw [view, connectable]
    exact sound.connectable connection isOpen
  · intro connection isOpen
    rw [view, routers]
    exact sound.routers connection isOpen
  · rw [view, lobby]
    exact sound.lobby
  · rw [view]
    exact sound.idle
  · rw [view, nextId]
    exact sound.mindKnown
  · rw [view]
    exact sound.mindOwner

section

variable (updated : Updated opened server after id changed)

include updated

theorem not_mind {owner : Nat} {view : View}
    (isView : server.view owner = some view) : ¬ view.hasMind id := by
  intro hasMind
  obtain ⟨below, noView⟩ := sound.mindKnown owner view id isView hasMind
  rcases updated.object with ⟨old, isOld⟩ | above
  · rw [isOld] at noView
    cases noView
  · exact absurd below (not_lt.mpr above)

theorem update_connectable (connection : Nat)
    (isOpen : connection ∈ opened) (x : Nat) :
    x ∈ (after.table connection).connectableRouters ↔
      ∃ view, after.view x = some view ∧ view.connection = some connection := by
  rw [updated.connectable connection isOpen]
  by_cases same : x = id
  · subst same
    rw [updated.here, if_pos rfl]
    simp
  · rw [updated.elsewhere same, if_neg same]
    exact sound.connectable connection isOpen x

theorem update_lobby (x : Nat) :
    x ∈ after.lobby ↔
      ∃ view, after.view x = some view ∧ view.isAccount = true ∧ view.connection ≠ none := by
  rw [updated.lobby]
  by_cases same : x = id
  · subst same
    rw [updated.here, if_pos rfl]
    simp
  · rw [updated.elsewhere same, if_neg same]
    exact sound.lobby x

theorem update_routers (connection : Nat)
    (isOpen : connection ∈ opened) (x : Nat) :
    x ∈ (after.table connection).routers ↔
      (∃ view, after.view x = some view ∧ view.connection = some connection) ∨
        ∃ owner view, after.view owner = some view ∧ view.connection = some connection ∧
          view.hasMind x := by
  rw [updated.routers connection isOpen, sound.routers connection isOpen]
  constructor
  · rintro (⟨different, had,
      ⟨view, isView, connected⟩ | ⟨owner, view, isView, connected, hasMind⟩⟩ |
      ⟨connected, rfl | hasMind⟩)
    · exact .inl ⟨view, (updated.elsewhere different).trans isView, connected⟩
    · have elsewhere : owner ≠ id := by
        rintro rfl
        exact had ⟨view, isView, hasMind⟩
      exact .inr ⟨owner, view, (updated.elsewhere elsewhere).trans isView, connected, hasMind⟩
    · exact .inl ⟨changed, updated.here, connected⟩
    · exact .inr ⟨id, changed, updated.here, connected, hasMind⟩
  · rintro (⟨view, isView, connected⟩ | ⟨owner, view, isView, connected, hasMind⟩)
    · rcases updated.view_cases isView with ⟨rfl, rfl⟩ | ⟨different, old⟩
      · exact .inr ⟨connected, .inl rfl⟩
      · have had : ¬ server.hadMind id x := by
          rintro ⟨holder, isHolder, hasMind⟩
          rw [(sound.mindKnown id holder x isHolder hasMind).2] at old
          cases old
        exact .inl ⟨different, had, .inl ⟨view, old, connected⟩⟩
    · rcases updated.view_cases isView with ⟨rfl, rfl⟩ | ⟨different, old⟩
      · exact .inr ⟨connected, .inr hasMind⟩
      · have other : x ≠ id := by
          rintro rfl
          exact sound.not_mind updated old hasMind
        have had : ¬ server.hadMind id x := by
          rintro ⟨holder, isHolder, entity, member⟩
          obtain ⟨entity', member'⟩ := hasMind
          exact different
            (sound.mindOwner owner view id holder x entity' entity old isHolder member' member).1
        exact .inl ⟨other, had, .inr ⟨owner, view, old, connected, hasMind⟩⟩

theorem update_mindKnown (x : Nat) (view : View)
    (mind : Nat) (isView : after.view x = some view) (hasMind : view.hasMind mind) :
    mind < after.nextId ∧ after.view mind = none := by
  have old : ∀ owner view, server.view owner = some view → view.hasMind mind →
      mind < after.nextId ∧ after.view mind = none := by
    intro owner view isView hasMind
    obtain ⟨below, noView⟩ := sound.mindKnown owner view mind isView hasMind
    have different : mind ≠ id := by
      rintro rfl
      exact sound.not_mind updated isView hasMind
    exact ⟨lt_of_lt_of_le below updated.nextId, (updated.elsewhere different).trans noView⟩
  rcases updated.view_cases isView with ⟨rfl, rfl⟩ | ⟨_, isOld⟩
  · obtain ⟨entity, member⟩ := hasMind
    rcases updated.minds entity mind member with ⟨before, isBefore, held⟩ | ⟨new, below, different⟩
    · exact old x before isBefore ⟨entity, held⟩
    · apply And.intro below
      rw [updated.elsewhere different]
      -- Every identifier in use is below the next one.
      cases isView : server.view mind with
      | none => rfl
      | some taken => exact absurd (sound.known mind taken isView) (not_lt.mpr new)
  · exact old x view isOld hasMind

theorem update_mindOwner (x : Nat) (view : View)
    (y : Nat) (view' : View) (mind entity entity' : Nat) (isView : after.view x = some view)
    (isView' : after.view y = some view') (member : (entity, mind) ∈ view.minds)
    (member' : (entity', mind) ∈ view'.minds) : x = y ∧ entity = entity' := by
  have mixed : ∀ owner held first second, owner ≠ id → server.view owner = some held →
      (first, mind) ∈ held.minds → (second, mind) ∉ changed.minds := by
    intro owner held first second different isHeld member member'
    rcases updated.minds second mind member' with ⟨before, isBefore, had⟩ | ⟨new, _, _⟩
    · exact different
        (sound.mindOwner owner held id before mind first second isHeld isBefore member had).1
    · exact absurd (sound.mindKnown owner held mind isHeld ⟨first, member⟩).1 (not_lt.mpr new)
  rcases updated.view_cases isView with ⟨rfl, rfl⟩ | ⟨different, isOld⟩
  · rcases updated.view_cases isView' with ⟨rfl, rfl⟩ | ⟨different', isOld'⟩
    · exact ⟨rfl, updated.mindsUnique entity entity' mind member member'⟩
    · exact absurd member (mixed y view' entity' entity different' isOld' member')
  · rcases updated.view_cases isView' with ⟨rfl, rfl⟩ | ⟨different', isOld'⟩
    · exact absurd member' (mixed x view entity entity' different isOld member)
    · exact sound.mindOwner x view y view' mind entity entity' isOld isOld' member member'

theorem update :
    Sound opened after := by
  constructor
  · intro x view isView
    rcases updated.view_cases isView with ⟨rfl, _⟩ | ⟨_, isOld⟩
    · exact updated.known
    · exact lt_of_lt_of_le (sound.known x view isOld) updated.nextId
  · intro connection isOpen
    exact lt_of_lt_of_le (sound.openKnown connection isOpen) updated.nextId
  · intro x view connection isView connected
    rcases updated.view_cases isView with ⟨_, rfl⟩ | ⟨_, isOld⟩
    · exact updated.attached connection connected
    · exact sound.attached x view connection isOld connected
  · exact sound.update_connectable updated
  · exact sound.update_routers updated
  · exact sound.update_lobby updated
  · intro x view isView unconnected
    rcases updated.view_cases isView with ⟨_, rfl⟩ | ⟨_, isOld⟩
    · exact updated.idle unconnected
    · exact sound.idle x view isOld unconnected
  · exact sound.update_mindKnown updated
  · exact sound.update_mindOwner updated

end

end

variable {connection other x : Nat}

section

variable (sound : Sound opened server) (isOther : other ∈ opened) {view : View}
  (isView : server.view id = some view)

include sound isOther isView

theorem mem_routers_object : id ∈ (server.table other).routers ↔ view.connection = some other := by
  rw [sound.routers other isOther, isView]
  constructor
  · rintro (⟨shown, isShown, connected⟩ | ⟨owner, held, isHeld, _, hasMind⟩)
    · obtain rfl := Option.some.inj isShown
      exact connected
    · rw [(sound.mindKnown owner held id isHeld hasMind).2] at isView
      cases isView
  · intro connected
    exact .inl ⟨view, rfl, connected⟩

theorem mem_routers_mind (hasMind : view.hasMind x) :
    x ∈ (server.table other).routers ↔ view.connection = some other := by
  rw [sound.routers other isOther, (sound.mindKnown id view x isView hasMind).2]
  constructor
  · rintro (⟨shown, isShown, _⟩ | ⟨owner, held, isHeld, connected, entity, member⟩)
    · cases isShown
    · obtain ⟨entity', member'⟩ := hasMind
      obtain ⟨rfl, _⟩ :=
        sound.mindOwner owner held id view x entity entity' isHeld isView member member'
      rw [isView] at isHeld
      obtain rfl := Option.some.inj isHeld
      exact connected
  · intro connected
    exact .inr ⟨id, view, isView, connected, hasMind⟩

end

/-- It loses minds, or its connection. -/
theorem detach (sound : Sound opened server) {after : ServerRouting} {old changed : View}
    (isOld : server.view id = some old)
    (view : after.view = Function.update server.view id (some changed))
    (account : changed.isAccount = old.isAccount)
    (connection : changed.connection = old.connection ∨ changed.connection = none)
    (idle : changed.connection = none → changed.minds = []) (minds : changed.minds ⊆ old.minds)
    (connectable : ∀ other ∈ opened, ∀ x, x ∈ (after.table other).connectableRouters ↔
      x ∈ (server.table other).connectableRouters ∧ ¬ (x = id ∧ changed.connection = none))
    (routers : ∀ other ∈ opened, ∀ x, x ∈ (after.table other).routers ↔
      x ∈ (server.table other).routers ∧ ¬ (x = id ∧ changed.connection = none) ∧
        ¬ (old.hasMind x ∧ ¬ changed.hasMind x))
    (lobby : ∀ x, x ∈ after.lobby ↔ x ∈ server.lobby ∧ ¬ (x = id ∧ changed.connection = none))
    (nextId : after.nextId = server.nextId) : Sound opened after := by
  have had : ∀ x, server.hadMind id x ↔ old.hasMind x := by
    intro x
    rw [hadMind, isOld]
    simp
  have own : ∀ other ∈ opened,
      (id ∈ (server.table other).connectableRouters ↔ old.connection = some other) := by
    intro other isOther
    rw [sound.connectable other isOther, isOld]
    simp
  have shrinks : ∀ x, changed.hasMind x → old.hasMind x := by
    rintro x ⟨entity, member⟩
    exact ⟨entity, minds member⟩
  have connected : ∀ other, changed.connection = some other ↔
      old.connection = some other ∧ changed.connection ≠ none := by
    intro other
    rcases connection with same | gone
    · rw [same]
      constructor
      · intro isSome
        exact ⟨isSome, by simp [isSome]⟩
      · exact And.left
    · simp [gone]
  have updated : Updated opened server after id changed := by
    constructor
    case view => exact view
    case nextId => exact nextId.ge
    case known =>
      rw [nextId]
      exact sound.known id old isOld
    case object => exact .inl ⟨old, isOld⟩
    case attached =>
      intro other isSome
      exact sound.attached id old other isOld ((connected other).mp isSome).1
    case connectable =>
      intro other isOther x
      rw [connectable other isOther]
      by_cases same : x = id
      · subst same
        rw [own other isOther, if_pos rfl, connected]
        simp
      · simp [same]
    case routers =>
      intro other isOther x
      rw [routers other isOther, had]
      by_cases same : x = id
      · subst same
        have notMind : ¬ old.hasMind x := by
          intro hasMind
          rw [(sound.mindKnown x old x isOld hasMind).2] at isOld
          cases isOld
        rw [sound.mem_routers_object isOther isOld, connected]
        simp [notMind]
      · by_cases mine : old.hasMind x
        · have stays : changed.hasMind x → changed.connection ≠ none := by
            rintro ⟨entity, held⟩ gone
            rw [idle gone] at held
            cases held
          rw [sound.mem_routers_mind isOther isOld mine, connected]
          simp only [same, false_and, not_false_eq_true, true_and, mine, not_not, not_true_eq_false,
            and_false, false_or, ne_eq, and_assoc]
          exact and_congr_right fun _ => ⟨fun hasMind => ⟨stays hasMind, hasMind⟩, And.right⟩
        · have notNow : ¬ changed.hasMind x := fun hasMind => mine (shrinks x hasMind)
          simp [same, mine, notNow]
    case lobby =>
      intro x
      rw [lobby, sound.lobby]
      by_cases same : x = id
      · subst same
        rw [isOld, if_pos rfl]
        rcases connection with equal | gone
        · simp [account, equal]
        · simp [gone]
      · simp [same]
    case idle => exact idle
    case minds =>
      intro entity mind member
      exact .inl ⟨old, isOld, minds member⟩
    case mindsUnique =>
      intro entity entity' mind member member'
      exact (sound.mindOwner id old id old mind entity entity' isOld isOld (minds member)
        (minds member')).2
  exact sound.update updated

end Sound

end ServerRouting

end Cyphesis.Server
