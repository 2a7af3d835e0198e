import Cyphesis.Server.SessionTables

/-!
# The calls keep the tables together

A call which the handlers may make leaves the tables in agreement.
-/

namespace Cyphesis.Server

open Cyphesis.Foundation List

namespace ServerRouting

variable {opened : List Nat} {server : ServerRouting} {id connection other x : Nat}

theorem setObject_view (object : Connectable) :
    (server.setObject id object).view = Function.update server.view id (some object.view) := by
  funext y
  by_cases same : y = id
  · subst same
    simp [setObject, view]
  · simp [setObject, view, Function.update_of_ne same]

theorem setTable_table (table : ConnectionTable) :
    (server.setTable connection table).table other =
      if other = connection then table else server.table other := by
  simp only [setTable, Function.update_apply]

theorem removeMindRouters (server : ServerRouting) (held : Option Nat) (minds : List (Nat × Nat)) :
    minds.foldl (fun current mind => current.removeMindRouter held mind.2) server =
      { server with
        table := fun other =>
          if held = some other then
            { server.table other with
              routers := (server.table other).routers.filter (· ∉ minds.map Prod.snd) }
          else server.table other } := by
  induction minds generalizing server with
  | nil => simp
  | cons mind rest ih =>
    rw [foldl_cons, ih]
    cases held with
    | none => simp [removeMindRouter]
    | some connection =>
      simp only [removeMindRouter, removeRouter, setTable]
      congr 1
      funext other
      by_cases same : connection = other
      · subst same
        simp only [↓reduceIte, Function.update_self, filter_filter, map_cons,
          mem_cons, not_or, Bool.decide_and, Bool.and_comm]
      · have different : other ≠ connection := Ne.symm same
        simp [same, Function.update_of_ne different]

variable {state : AccountState} {object : Connectable}

theorem connectObject_view (isObject : server.object id = some object) :
    (server.connectObject connection id).view =
      Function.update server.view id (some { object.view with connection := some connection }) := by
  cases object with
  | account state =>
    rw [connectObject, isObject]
    exact setObject_view _
  | juncture held =>
    rw [connectObject, isObject]
    exact setObject_view _

theorem connectObject_table : (server.connectObject connection id).table = server.table := by
  unfold connectObject
  split <;> rfl

theorem connectObject_lobby : (server.connectObject connection id).lobby = server.lobby := by
  unfold connectObject
  split <;> rfl

theorem connectObject_nextId : (server.connectObject connection id).nextId = server.nextId := by
  unfold connectObject
  split <;> rfl

theorem addConnectableRouter_routers :
    x ∈ ((server.addConnectableRouter connection id).table other).routers ↔
      (other = connection ∧ x = id) ∨ x ∈ (server.table other).routers := by
  by_cases same : other = connection
  · subst same
    simp [addConnectableRouter, addRouter, setTable, connectObject_table,
      ExternalMindsManager.mem_insert]
  · simp [addConnectableRouter, addRouter, setTable, connectObject_table, same]

theorem addConnectableRouter_connectable :
    x ∈ ((server.addConnectableRouter connection id).table other).connectableRouters ↔
      (other = connection ∧ x = id) ∨ x ∈ (server.table other).connectableRouters := by
  by_cases same : other = connection
  · subst same
    simp [addConnectableRouter, addRouter, setTable, connectObject_table,
      ExternalMindsManager.mem_insert]
  · simp [addConnectableRouter, addRouter, setTable, connectObject_table, same]

theorem releaseObject_eq (isObject : server.object id = some object) :
    ∃ released : Connectable, released.view = ⟨object.view.isAccount, none, []⟩ ∧
      server.releaseObject id =
        { server with
          object := Function.update server.object id (some released)
          table := fun other =>
            if object.view.connection = some other then
              { server.table other with
                routers := (server.table other).routers.filter
                  (· ∉ object.view.minds.map Prod.snd) }
            else server.table other } := by
  cases object with
  | account state =>
    refine ⟨.account { state with minds := [], connection := none }, rfl, ?_⟩
    rw [releaseObject, isObject]
    simp only [removeMindRouters, setObject]
    rfl
  | juncture held =>
    refine ⟨.juncture none, rfl, ?_⟩
    rw [releaseObject, isObject]
    simp [setObject, Connectable.view]

/-- `addConnectableRouter`, without a connection. -/
theorem Sound.attach (sound : Sound opened server) {prepared after : ServerRouting}
    (isObject : prepared.object id = some object) (isOpen : connection ∈ opened)
    (noMinds : object.view.minds = [])
    (free : (∃ view, server.view id = some view ∧ view.connection = none) ∨ server.nextId ≤ id)
    (others : ∀ x, x ≠ id → prepared.view x = server.view x) (table : prepared.table = server.table)
    (nextId : server.nextId ≤ prepared.nextId) (isKnown : id < prepared.nextId)
    (view : after.view = (prepared.addConnectableRouter connection id).view)
    (afterTable : after.table = (prepared.addConnectableRouter connection id).table)
    (afterId : after.nextId = prepared.nextId)
    (lobby : ∀ x, x ∈ after.lobby ↔ (x = id ∧ object.view.isAccount = true) ∨ x ∈ server.lobby) :
    Sound opened after := by
  have notThere : ∀ view, server.view id = some view → view.connection = none := by
    intro v isView
    rcases free with ⟨w, isFree, unconnected⟩ | above
    · rw [isFree] at isView
      obtain rfl := Option.some.inj isView
      exact unconnected
    · exact absurd (sound.known id v isView) (not_lt.mpr above)
  have hadNone : ∀ mind, ¬ server.hadMind id mind := by
    rintro mind ⟨v, isView, entity, member⟩
    rw [sound.idle id v isView (notThere v isView)] at member
    cases member
  have notMember : ∀ other ∈ opened, id ∉ (server.table other).connectableRouters := by
    intro other isOther member
    obtain ⟨v, isView, connected⟩ := (sound.connectable other isOther id).mp member
    rw [notThere v isView] at connected
    cases connected
  have updated : Updated opened server after id
      { object.view with connection := some connection } := by
    constructor
    case view =>
      funext y
      rw [view]
      have shown : (prepared.addConnectableRouter connection id).view =
          (prepared.connectObject connection id).view := rfl
      rw [shown, connectObject_view isObject]
      by_cases same : y = id
      · subst same
        simp
      · rw [Function.update_of_ne same, Function.update_of_ne same, others y same]
    case nextId =>
      rw [afterId]
      exact nextId
    case known =>
      rw [afterId]
      exact isKnown
    case object =>
      rcases free with ⟨v, isFree, _⟩ | above
      · exact .inl ⟨v, isFree⟩
      · exact .inr above
    case attached =>
      intro other connected
      obtain rfl := Option.some.inj connected
      exact isOpen
    case connectable =>
      intro other isOther y
      rw [afterTable, addConnectableRouter_connectable, table]
      by_cases same : y = id
      · subst same
        simp [notMember other isOther, eq_comm]
      · simp [same]
    case routers =>
      intro other isOther y
      rw [afterTable, addConnectableRouter_routers, table]
      by_cases same : y = id
      · subst same
        have absent : y ∉ (server.table other).routers := by
          rw [sound.routers other isOther]
          rintro (⟨v, isView, connected⟩ | ⟨owner, v, isView, _, hasMind⟩)
          · rw [notThere v isView] at connected
            cases connected
          · obtain ⟨below, noView⟩ := sound.mindKnown owner v y isView hasMind
            rcases free with ⟨w, isFree, _⟩ | above
            · rw [isFree] at noView
              cases noView
            · exact absurd below (not_lt.mpr above)
        simp [absent, eq_comm]
      · simp [same, hadNone y, View.hasMind, noMinds]
    case lobby =>
      intro y
      rw [lobby]
      by_cases same : y = id
      · subst same
        have absent : y ∉ server.lobby := by
          rw [sound.lobby]
          rintro ⟨v, isView, _, connected⟩
          exact connected (notThere v isView)
        simp [absent]
      · simp [same]
    case idle =>
      intro unconnected
      cases unconnected
    case minds =>
      intro entity mind member
      simp [noMinds] at member
    case mindsUnique =>
      intro entity entity' mind member
      simp [noMinds] at member
  exact sound.update updated

theorem lobbyRemoveAccount_fst :
    (server.lobbyRemoveAccount id).1 = { server with lobby := server.lobby.filter (· ≠ id) } := by
  unfold lobbyRemoveAccount
  split
  · rfl
  next absent =>
    have same : server.lobby.filter (· ≠ id) = server.lobby := by
      apply List.filter_eq_self.mpr
      intro other member
      apply decide_eq_true
      rintro rfl
      exact absent member
    rw [same]

theorem disconnectObject_eq (connection : Nat) (isObject : server.object id = some object) :
    ∃ released : Connectable, released.view = ⟨object.view.isAccount, none, []⟩ ∧
      (server.disconnectObject connection id).1 =
        { server with
          object := Function.update server.object id (some released)
          lobby := server.lobby.filter (· ≠ id)
          table := fun other =>
            { server.table other with
              connectableRouters := (server.table other).connectableRouters.filter fun x =>
                ¬ (other = connection ∧ x = id)
              routers := (server.table other).routers.filter fun x =>
                ¬ (other = connection ∧ x = id) ∧
                  ¬ (object.view.connection = some other ∧
                    x ∈ object.view.minds.map Prod.snd) } } := by
  have kept : { server with lobby := server.lobby.filter (· ≠ id) }.object id = some object :=
    isObject
  obtain ⟨released, isReleased, eq⟩ := releaseObject_eq kept
  refine ⟨released, isReleased, ?_⟩
  simp only [disconnectObject, lobbyRemoveAccount_fst, eq, removeRouter, setTable]
  congr 1
  funext other
  by_cases same : other = connection
  · subst same
    by_cases held : object.view.connection = some other
    · simp [held, filter_filter]
    · simp [held]
  · by_cases held : object.view.connection = some other
    · simp [held, same]
    · simp [held, same]

/-- Without another connection. -/
theorem Sound.disconnectObject (sound : Sound opened server)
    (isObject : server.object id = some object)
    (own : object.view.connection = some connection ∨ object.view.connection = none) :
    Sound opened (server.disconnectObject connection id).1 ∧
      (server.disconnectObject connection id).1.view =
        Function.update server.view id (some ⟨object.view.isAccount, none, []⟩) := by
  have isView : server.view id = some object.view := by
    rw [view, isObject]
    rfl
  obtain ⟨released, isReleased, eq⟩ := disconnectObject_eq connection isObject
  have view : (server.disconnectObject connection id).1.view =
      Function.update server.view id (some ⟨object.view.isAccount, none, []⟩) := by
    rw [eq, ← isReleased]
    exact setObject_view released
  have others : ∀ other ∈ opened, other ≠ connection → object.view.connection ≠ some other := by
    intro other _ different connected
    rcases own with same | gone
    · rw [same] at connected
      exact different (Option.some.inj connected).symm
    · rw [gone] at connected
      cases connected
  refine ⟨?_, view⟩
  apply sound.detach isView view
  case account => rfl
  case connection => exact .inr rfl
  case idle => exact fun _ => rfl
  case minds => exact nil_subset _
  case connectable =>
    intro other isOther x
    rw [eq]
    by_cases same : x = id
    · subst same
      have absent : other ≠ connection → x ∉ (server.table other).connectableRouters := by
        intro different member
        obtain ⟨shown, isShown, connected⟩ := (sound.connectable other isOther x).mp member
        rw [isView] at isShown
        obtain rfl := Option.some.inj isShown
        exact others other isOther different connected
      simpa using fun member different => absent different member
    · simp [same]
  case routers =>
    intro other isOther x
    rw [eq]
    by_cases same : x = id
    · subst same
      have absent : other ≠ connection → x ∉ (server.table other).routers := by
        intro different member
        exact others other isOther different ((sound.mem_routers_object isOther isView).mp member)
      simp only [mem_filter, decide_eq_true_eq]
      constructor
      · rintro ⟨member, away, _⟩
        exact absurd member (absent fun isHere => away ⟨isHere, trivial⟩)
      · rintro ⟨_, away, _⟩
        exact absurd ⟨trivial, trivial⟩ away
    · have none : ∀ mind, ¬ (⟨object.view.isAccount, none, []⟩ : View).hasMind mind := by
        rintro mind ⟨entity, member⟩
        cases member
      have minds : x ∈ object.view.minds.map Prod.snd ↔ object.view.hasMind x := by
        simp [View.hasMind]
      simp only [mem_filter, decide_eq_true_eq, same, and_false, not_false_eq_true, true_and,
        minds, none, and_true]
      apply and_congr_right
      intro member
      constructor
      · intro notHere hasMind
        exact notHere ⟨(sound.mem_routers_mind isOther isView hasMind).mp member, hasMind⟩
      · rintro notMine ⟨_, hasMind⟩
        exact notMine hasMind
  case lobby =>
    intro x
    rw [eq]
    simp
  case nextId => rw [eq]

theorem account?_object (isAccount : server.account? id = some state) :
    server.object id = some (.account state) := by
  unfold account? at isAccount
  split at isAccount
  next found isObject =>
    rw [isObject, Option.some.inj isAccount]
  · cases isAccount

theorem account?_view (isAccount : server.account? id = some state) :
    server.view id = some ⟨true, state.connection, state.minds⟩ := by
  rw [view, account?_object isAccount]
  rfl

variable {change : AccountState → AccountState}

theorem modifyAccount_view
    (same : ∀ state, (Connectable.account (change state)).view = (Connectable.account state).view) :
    (server.modifyAccount id change).view = server.view := by
  unfold modifyAccount
  split
  next state isObject =>
    rw [setObject_view, same]
    funext y
    by_cases isId : y = id
    · subst isId
      rw [Function.update_self, view, isObject]
      rfl
    · rw [Function.update_of_ne isId]
  · rfl

theorem modifyAccount_frame (server : ServerRouting) (id : Nat)
    (change : AccountState → AccountState) :
    (server.modifyAccount id change).table = server.table ∧
      (server.modifyAccount id change).lobby = server.lobby ∧
      (server.modifyAccount id change).nextId = server.nextId ∧
      (server.modifyAccount id change).connections = server.connections := by
  unfold modifyAccount
  split
  · exact ⟨rfl, rfl, rfl, rfl⟩
  · exact ⟨rfl, rfl, rfl, rfl⟩

theorem Sound.modifyAccount (sound : Sound opened server)
    (same : ∀ state, (Connectable.account (change state)).view = (Connectable.account state).view) :
    Sound opened (server.modifyAccount id change) := by
  obtain ⟨table, lobby, nextId, _⟩ := modifyAccount_frame server id change
  apply sound.of_same (modifyAccount_view same)
  · rw [table]
    exact fun _ => rfl
  · rw [table]
    exact fun _ => rfl
  · exact lobby
  · exact nextId

theorem removeMind_eq (isAccount : server.account? id = some state) (entity : Nat) :
    server.removeMind id entity =
      { server with
        object := Function.update server.object id
          (some (.account { state with minds := state.minds.filter (·.1 ≠ entity) }))
        table := fun other =>
          if state.connection = some other then
            { server.table other with
              routers := (server.table other).routers.filter
                (· ∉ (state.minds.filter (·.1 = entity)).map Prod.snd) }
          else server.table other } := by
  simp only [removeMind, isAccount, removeMindRouters, modifyAccount, account?_object isAccount,
    setObject]

theorem Sound.goes (sound : Sound opened server) (isAccount : server.account? id = some state)
    (entity x : Nat) :
    x ∈ (state.minds.filter (·.1 = entity)).map Prod.snd ↔
      (⟨true, state.connection, state.minds⟩ : View).hasMind x ∧
        ¬ (⟨true, state.connection, state.minds.filter (·.1 ≠ entity)⟩ : View).hasMind x := by
  have isView := account?_view isAccount
  simp only [View.hasMind, mem_map, mem_filter, decide_eq_true_eq, Prod.exists]
  constructor
  · rintro ⟨_, _, ⟨member, rfl⟩, rfl⟩
    apply And.intro ⟨_, member⟩
    rintro ⟨other, member', different⟩
    exact different (sound.mindOwner id _ id _ _ other _ isView isView member' member).2
  · rintro ⟨⟨other, member⟩, gone⟩
    refine ⟨other, x, ⟨member, ?_⟩, rfl⟩
    by_contra different
    exact gone ⟨other, member, different⟩

theorem Sound.removeMind (sound : Sound opened server) (id entity : Nat) :
    Sound opened (server.removeMind id entity) := by
  cases isAccount : server.account? id with
  | none =>
    simp only [ServerRouting.removeMind, isAccount]
    exact sound
  | some state =>
    have isView := account?_view isAccount
    have eq := removeMind_eq isAccount entity
    have view : (server.removeMind id entity).view = Function.update server.view id
        (some ⟨true, state.connection, state.minds.filter (·.1 ≠ entity)⟩) := by
      rw [eq]
      exact setObject_view (.account { state with minds := state.minds.filter (·.1 ≠ entity) })
    cases connected : state.connection with
    | none =>
      have noMinds : state.minds = [] := sound.idle id _ isView connected
      apply sound.of_same
      · rw [view, connected, noMinds]
        rw [connected, noMinds] at isView
        exact Function.update_eq_self_iff.mpr isView.symm
      · simp [eq, connected]
      · simp [eq, connected]
      · rw [eq]
      · rw [eq]
    | some connection =>
      apply sound.detach isView view
      case account => rfl
      case connection => exact .inl rfl
      case idle => simp [connected]
      case minds => exact filter_subset_self _
      case connectable =>
        intro other _ x
        rw [eq]
        by_cases held : connection = other
        · simp [connected, held]
        · simp [connected, held]
      case routers =>
        intro other isOther x
        rw [← sound.goes isAccount entity x, eq]
        by_cases held : connection = other
        · simp [connected, held]
        · have stays : x ∈ (server.table other).routers →
              x ∉ (state.minds.filter (·.1 = entity)).map Prod.snd := by
            intro member goes
            have hasMind := ((sound.goes isAccount entity x).mp goes).1
            have here := (sound.mem_routers_mind isOther isView hasMind).mp member
            exact held (Option.some.inj (connected.symm.trans here))
          simpa [connected, held] using stays
      case lobby => simp [eq, connected]
      case nextId => rw [eq]

theorem connectCharacter_eq (isAccount : server.account? id = some state)
    (connected : state.connection = some connection) (entity : Nat) :
    server.connectCharacter id entity =
      { server with
        object := Function.update server.object id
          (some (.account { state with minds := state.minds ++ [(entity, server.nextId)] }))
        table := Function.update server.table connection
          { server.table connection with
            routers := ExternalMindsManager.insert server.nextId (server.table connection).routers }
        nextId := server.nextId + 1 } := by
  have kept : (server.addRouter connection server.nextId).object id = some (.account state) :=
    account?_object isAccount
  unfold connectCharacter
  simp only [isAccount]
  split
  next held isHeld =>
    obtain rfl := Option.some.inj (connected.symm.trans isHeld)
    simp only [modifyAccount, kept]
    rfl
  next gone =>
    rw [gone] at connected
    cases connected

section

variable (sound : Sound opened server)

include sound

/-- `connectCharacter`, with a new identifier. -/
theorem Sound.connectCharacter (id entity : Nat) :
    Sound opened (server.connectCharacter id entity) := by
  cases isAccount : server.account? id with
  | none =>
    simp only [ServerRouting.connectCharacter, isAccount]
    exact sound
  | some state =>
    cases connected : state.connection with
    | none =>
      simp only [ServerRouting.connectCharacter, isAccount, connected]
      exact sound
    | some connection =>
      have isView := account?_view isAccount
      have below : id < server.nextId := sound.known id _ isView
      have fresh : ∀ owner view, server.view owner = some view → ¬ view.hasMind server.nextId := by
        intro owner view isView hasMind
        exact lt_irrefl _ (sound.mindKnown owner view _ isView hasMind).1
      have noView : server.view server.nextId = none := by
        cases isView : server.view server.nextId with
        | none => rfl
        | some taken => exact absurd (sound.known _ taken isView) (lt_irrefl _)
      have eq := connectCharacter_eq isAccount connected entity
      have updated : Updated opened server (server.connectCharacter id entity) id
          ⟨true, some connection, state.minds ++ [(entity, server.nextId)]⟩ := by
        constructor
        case view =>
          rw [eq, ← connected]
          exact setObject_view
            (.account { state with minds := state.minds ++ [(entity, server.nextId)] })
        case nextId =>
          rw [eq]
          exact Nat.le_succ _
        case known =>
          rw [eq]
          exact lt_trans below (Nat.lt_succ_self _)
        case object => exact .inl ⟨_, isView⟩
        case attached =>
          intro other same
          exact sound.attached id _ other isView (connected.trans same)
        case connectable =>
          intro other isOther x
          have same : ((server.connectCharacter id entity).table other).connectableRouters =
              (server.table other).connectableRouters := by
            rw [eq]
            by_cases held : other = connection
            · subst held
              simp
            · simp [held]
          rw [same]
          split
          next isId =>
            rw [isId, sound.connectable other isOther, isView]
            simp [connected]
          · exact Iff.rfl
        case routers =>
          intro other isOther x
          have grown : x ∈ ((server.connectCharacter id entity).table other).routers ↔
              (other = connection ∧ x = server.nextId) ∨ x ∈ (server.table other).routers := by
            rw [eq]
            by_cases held : other = connection
            · subst held
              simp [ExternalMindsManager.mem_insert]
            · simp [held]
          rw [grown]
          constructor
          · rintro (⟨rfl, rfl⟩ | member)
            · exact .inr ⟨rfl, .inr ⟨entity, by simp⟩⟩
            · by_cases isId : x = id
              · subst isId
                have here := (sound.mem_routers_object isOther isView).mp member
                exact .inr ⟨connected.symm.trans here, .inl rfl⟩
              · by_cases mine : server.hadMind id x
                · obtain ⟨held, isHeld, entity', hasMind⟩ := mine
                  obtain rfl := Option.some.inj (isView.symm.trans isHeld)
                  have here := (sound.mem_routers_mind isOther isView ⟨entity', hasMind⟩).mp member
                  exact .inr ⟨connected.symm.trans here, .inr ⟨entity', mem_append_left _ hasMind⟩⟩
                · exact .inl ⟨isId, mine, member⟩
          · rintro (⟨_, _, member⟩ | ⟨same, rfl | ⟨entity', hasMind⟩⟩)
            · exact .inr member
            · exact .inr ((sound.mem_routers_object isOther isView).mpr (connected.trans same))
            · rcases List.mem_append.mp hasMind with held | new
              · exact .inr ((sound.mem_routers_mind isOther isView ⟨entity', held⟩).mpr
                  (connected.trans same))
              · obtain ⟨_, rfl⟩ := Prod.mk.inj (List.mem_singleton.mp new)
                exact .inl ⟨(Option.some.inj same).symm, rfl⟩
        case lobby =>
          intro x
          have same : (server.connectCharacter id entity).lobby = server.lobby := by rw [eq]
          rw [same]
          split
          next isId =>
            rw [isId, sound.lobby, isView]
            simp [connected]
          · exact Iff.rfl
        case idle => exact fun gone => absurd gone (by simp)
        case minds =>
          intro entity' mind member
          rcases List.mem_append.mp member with held | new
          · exact .inl ⟨_, isView, held⟩
          · obtain ⟨rfl, rfl⟩ := Prod.mk.inj (List.mem_singleton.mp new)
            rw [eq]
            exact .inr ⟨le_rfl, Nat.lt_succ_self _, below.ne'⟩
        case mindsUnique =>
          intro first second mind member member'
          rcases List.mem_append.mp member with held | new
          · rcases List.mem_append.mp member' with held' | new'
            · exact (sound.mindOwner id _ id _ mind first second isView isView held held').2
            · obtain ⟨rfl, rfl⟩ := Prod.mk.inj (List.mem_singleton.mp new')
              exact absurd ⟨first, held⟩ (fresh id _ isView)
          · rcases List.mem_append.mp member' with held' | new'
            · obtain ⟨rfl, rfl⟩ := Prod.mk.inj (List.mem_singleton.mp new)
              exact absurd ⟨second, held'⟩ (fresh id _ isView)
            · obtain ⟨rfl, rfl⟩ := Prod.mk.inj (List.mem_singleton.mp new)
              obtain ⟨rfl, _⟩ := Prod.mk.inj (List.mem_singleton.mp new')
              rfl
      exact sound.update updated

theorem Sound.openConnection (trusted : Bool) :
    Sound (opened ++ [server.nextId]) (server.perform (.openConnection trusted)).1 := by
  have notNew : ∀ connection ∈ opened, connection ≠ server.nextId := by
    rintro _ isOpen rfl
    exact lt_irrefl _ (sound.openKnown _ isOpen)
  have noneThere : ∀ id view, server.view id = some view →
      view.connection ≠ some server.nextId := by
    intro id view isView connected
    exact notNew _ (sound.attached id view _ isView connected) rfl
  have table : ∀ connection ∈ opened,
      (server.perform (.openConnection trusted)).1.table connection = server.table connection := by
    intro connection isOpen
    exact Function.update_of_ne (notNew connection isOpen) _ _
  have new : (server.perform (.openConnection trusted)).1.table server.nextId =
      ⟨trusted, [], [], []⟩ := Function.update_self ..
  constructor
  · intro id view isView
    exact lt_trans (sound.known id view isView) (Nat.lt_succ_self _)
  · intro connection isOpen
    rcases List.mem_append.mp isOpen with old | isNew
    · exact lt_trans (sound.openKnown connection old) (Nat.lt_succ_self _)
    · rw [List.mem_singleton.mp isNew]
      exact Nat.lt_succ_self _
  · intro id view connection isView connected
    exact mem_append_left _ (sound.attached id view connection isView connected)
  · intro connection isOpen id
    rcases List.mem_append.mp isOpen with old | isNew
    · rw [table connection old]
      exact sound.connectable connection old id
    · obtain rfl := List.mem_singleton.mp isNew
      rw [new]
      constructor
      · intro member
        cases member
      · rintro ⟨view, isView, connected⟩
        exact absurd connected (noneThere id view isView)
  · intro connection isOpen id
    rcases List.mem_append.mp isOpen with old | isNew
    · rw [table connection old]
      exact sound.routers connection old id
    · obtain rfl := List.mem_singleton.mp isNew
      rw [new]
      constructor
      · intro member
        cases member
      · rintro (⟨view, isView, connected⟩ | ⟨owner, view, isView, connected, _⟩)
        · exact absurd connected (noneThere id view isView)
        · exact absurd connected (noneThere owner view isView)
  · exact sound.lobby
  · exact sound.idle
  · intro id view mind isView hasMind
    obtain ⟨below, noView⟩ := sound.mindKnown id view mind isView hasMind
    exact ⟨lt_trans below (Nat.lt_succ_self _), noView⟩
  · exact sound.mindOwner

theorem Sound.shrink
    (unused : ∀ id view, server.view id = some view → view.connection ≠ some connection) :
    Sound (opened.filter (· ≠ connection)) server := by
  have fewer : opened.filter (· ≠ connection) ⊆ opened := filter_subset_self _
  constructor
  · exact sound.known
  · intro other isOther
    exact sound.openKnown other (fewer isOther)
  · intro id view other isView connected
    apply List.mem_filter.mpr
    apply And.intro (sound.attached id view other isView connected)
    apply decide_eq_true
    rintro rfl
    exact unused id view isView connected
  · intro other isOther
    exact sound.connectable other (fewer isOther)
  · intro other isOther
    exact sound.routers other (fewer isOther)
  · exact sound.lobby
  · exact sound.idle
  · exact sound.mindKnown
  · exact sound.mindOwner

end

/-- Disconnect one after the other. -/
def disconnectAll (server : ServerRouting) (connection : Nat) (ids : List Nat) : ServerRouting :=
  ids.foldl (fun current id => (current.disconnectObject connection id).1) server

theorem Sound.disconnectAll {ids : List Nat} (sound : Sound opened server)
    (own : ∀ id ∈ ids, ∃ view, server.view id = some view ∧
      (view.connection = some connection ∨ view.connection = none)) :
    Sound opened (server.disconnectAll connection ids) ∧
      ∀ id, (server.disconnectAll connection ids).view id =
        if id ∈ ids then (server.view id).map fun view => ⟨view.isAccount, none, []⟩
        else server.view id := by
  induction ids generalizing server with
  | nil => exact ⟨sound, fun _ => rfl⟩
  | cons first rest ih =>
    obtain ⟨view, isView, held⟩ := own first mem_cons_self
    obtain ⟨object, isObject, rfl⟩ := Option.map_eq_some_iff.mp isView
    obtain ⟨soundNext, viewNext⟩ := sound.disconnectObject isObject held
    have ownNext : ∀ id ∈ rest, ∃ view,
        (server.disconnectObject connection first).1.view id = some view ∧
          (view.connection = some connection ∨ view.connection = none) := by
      intro id member
      rw [viewNext]
      by_cases same : id = first
      · subst same
        exact ⟨_, Function.update_self .., .inr rfl⟩
      · rw [Function.update_of_ne same]
        exact own id (mem_cons_of_mem first member)
    obtain ⟨soundAll, viewAll⟩ := ih soundNext ownNext
    apply And.intro soundAll
    intro id
    have unfolded : server.disconnectAll connection (first :: rest) =
        (server.disconnectObject connection first).1.disconnectAll connection rest := rfl
    rw [unfolded, viewAll, viewNext]
    by_cases same : id = first
    · subst same
      by_cases again : id ∈ rest
      · simp [again, isView]
      · simp [again, isView]
    · simp [same]

section

variable (server)

theorem closeConnection_fst (connection : Nat) :
    (server.closeConnection connection).1 =
      ({ server with
          connections := server.connections.filter (· ≠ connection)
          manager := (server.table connection).possessionRouters.foldl
            (fun manager id => manager.removeConnection (toString id)) server.manager } :
        ServerRouting).disconnectAll connection (server.table connection).connectableRouters := by
  unfold closeConnection disconnectAll
  exact (foldl_hom Prod.fst fun _ _ => rfl).symm

theorem disconnectObject_connections (connection id : Nat) :
    (server.disconnectObject connection id).1.connections = server.connections := by
  have released : ∀ current : ServerRouting,
      (current.releaseObject id).connections = current.connections := by
    intro current
    unfold releaseObject
    split
    · simp only [removeMindRouters]
      rfl
    · rfl
    · rfl
  have eq : (server.disconnectObject connection id).1.connections =
      ((server.lobbyRemoveAccount id).1.releaseObject id).connections := rfl
  rw [eq, released, lobbyRemoveAccount_fst]

theorem disconnectAll_connections (connection : Nat) (ids : List Nat) :
    (server.disconnectAll connection ids).connections = server.connections := by
  have step : ∀ (current : ServerRouting) id, current.connections = server.connections →
      (current.disconnectObject connection id).1.connections = server.connections :=
    fun current id same => (disconnectObject_connections current connection id).trans same
  exact run_invariant_of_step
    (fun current : ServerRouting => current.connections = server.connections) step rfl ids

end

section

variable (sound : Sound opened server) (isOpen : connection ∈ opened)

include sound isOpen

theorem Sound.closeConnection_view :
    Sound opened (server.closeConnection connection).1 ∧
      ∀ id, (server.closeConnection connection).1.view id =
        if id ∈ (server.table connection).connectableRouters then
          (server.view id).map fun view => ⟨view.isAccount, none, []⟩
        else server.view id := by
  rw [closeConnection_fst]
  have same : ∀ manager, Sound opened { server with
      connections := server.connections.filter (· ≠ connection), manager := manager } :=
    fun _ => sound.of_same rfl (fun _ => rfl) (fun _ => rfl) rfl rfl
  apply (same _).disconnectAll
  intro id member
  obtain ⟨view, isView, connected⟩ := (sound.connectable connection isOpen id).mp member
  exact ⟨view, isView, .inl connected⟩

theorem Sound.closeConnection :
    Sound (opened.filter (· ≠ connection)) (server.closeConnection connection).1 := by
  obtain ⟨soundAll, viewAll⟩ := sound.closeConnection_view isOpen
  apply soundAll.shrink
  intro id view isView connected
  rw [viewAll] at isView
  split at isView
  · obtain ⟨_, _, rfl⟩ := Option.map_eq_some_iff.mp isView
    cases connected
  next absent =>
    exact absent ((sound.connectable connection isOpen id).mpr ⟨view, isView, connected⟩)

end

/-! ## Calls -/

/-- What handlers see to before. -/
def Permitted (server : ServerRouting) : SessionEffect → Prop
  | .createAccount connection _ _ _ => connection ∈ server.connections
  | .login connection id => connection ∈ server.connections ∧
      ∃ state, server.account? id = some state ∧ state.connection = none
  | .disconnectObject connection id => connection ∈ server.connections ∧
      id ∈ (server.table connection).connectableRouters
  | .createJuncture connection => connection ∈ server.connections
  | .setPossessionEnabled connection _ id =>
    ∃ state, server.account? id = some state ∧ state.connection = some connection
  | .closeConnection connection => connection ∈ server.connections
  | _ => True

/-- They agree, for its connections. -/
def Coherent (server : ServerRouting) : Prop :=
  Sound server.connections server

theorem setPossessionEnabled_eq (server : ServerRouting) (connection : Nat) (enabled : Bool)
    (id : Nat) :
    ∃ (manager : ExternalMindsManager) (possessionRouters : Nat → List Nat),
      server.setPossessionEnabled connection enabled id =
      { server with
        manager := manager
        table := fun other =>
          { server.table other with possessionRouters := possessionRouters other } } := by
  have same : ∀ manager, ∃ possessionRouters : Nat → List Nat,
      ({ server with manager := manager } : ServerRouting) =
      { server with
        manager := manager
        table := fun other =>
          { server.table other with possessionRouters := possessionRouters other } } :=
    fun manager => ⟨fun other => (server.table other).possessionRouters, rfl⟩
  simp only [setPossessionEnabled]
  split
  · split
    · refine ⟨(server.manager.addConnection ⟨toString id, connection⟩).1,
        fun other => if other = connection then (server.table connection).possessionRouters ++ [id]
          else (server.table other).possessionRouters, ?_⟩
      simp only [setTable]
      congr 1
      funext other
      by_cases here : other = connection
      · subst here
        simp
      · simp [here]
    · exact ⟨_, same _⟩
  · split
    · exact ⟨_, same _⟩
    · exact ⟨_, same server.manager⟩

section

variable (sound : Sound opened server)

include sound

theorem Sound.setPossessionEnabled (connection : Nat)
    (enabled : Bool) (id : Nat) :
    Sound opened (server.setPossessionEnabled connection enabled id) := by
  obtain ⟨manager, possessionRouters, eq⟩ :=
    setPossessionEnabled_eq server connection enabled id
  rw [eq]
  exact sound.of_same rfl (fun _ => rfl) (fun _ => rfl) rfl rfl

theorem Sound.login (isAccount : server.account? id = some state)
    (unconnected : state.connection = none) (isOpen : connection ∈ opened) :
    Sound opened (server.perform (.login connection id)).1 := by
  have isView := account?_view isAccount
  apply sound.attach (account?_object isAccount) isOpen
  case noMinds => exact sound.idle id _ isView unconnected
  case free => exact .inl ⟨_, isView, unconnected⟩
  case others => exact fun _ _ => rfl
  case table => rfl
  case nextId => exact le_rfl
  case isKnown => exact sound.known id _ isView
  case view => rfl
  case afterTable => rfl
  case afterId => exact connectObject_nextId
  case lobby =>
    intro x
    have eq : (server.perform (.login connection id)).1.lobby =
        ExternalMindsManager.insert id (server.connectObject connection id).lobby := rfl
    rw [eq, ExternalMindsManager.mem_insert, connectObject_lobby]
    simp [Connectable.view]

/-- Server with a new object. -/
def withObject (server : ServerRouting) (object : Connectable) (names : List (String × Nat)) :
    ServerRouting :=
  { server.setObject server.nextId object with names := names, nextId := server.nextId + 1 }

theorem Sound.create (object : Connectable)
    (names : List (String × Nat)) {after : ServerRouting} (noMinds : object.view.minds = [])
    (isOpen : connection ∈ opened)
    (view : after.view =
      ((server.withObject object names).addConnectableRouter connection server.nextId).view)
    (table : after.table =
      ((server.withObject object names).addConnectableRouter connection server.nextId).table)
    (nextId : after.nextId = server.nextId + 1)
    (lobby : after.lobby = if object.view.isAccount then
      ExternalMindsManager.insert server.nextId server.lobby else server.lobby) :
    Sound opened after := by
  have isObject : (server.withObject object names).object server.nextId = some object :=
    Function.update_self ..
  apply sound.attach isObject isOpen noMinds (.inr le_rfl)
  case others =>
    intro x different
    have shown : (server.withObject object names).view =
        (server.setObject server.nextId object).view := rfl
    rw [shown, setObject_view, Function.update_of_ne different]
  case table => rfl
  case nextId => exact Nat.le_succ _
  case isKnown => exact Nat.lt_succ_self _
  case view => exact view
  case afterTable => exact table
  case afterId => exact nextId
  case lobby =>
    intro x
    rw [lobby]
    cases account : object.view.isAccount
    · simp
    · simp [ExternalMindsManager.mem_insert]

theorem Sound.destroyEntity (entity : Nat) :
    Sound opened (server.perform (.destroyEntity entity)).1 := by
  refine run_invariant_of_step (Sound opened) ?_ sound server.names
  intro current name sound
  exact (sound.removeMind name.2 entity).modifyAccount fun _ => rfl

end

section

variable (server)

theorem addConnectableRouter_lobby (connection id : Nat) :
    (server.addConnectableRouter connection id).lobby = server.lobby :=
  connectObject_lobby

theorem addConnectableRouter_connections (connection id : Nat) :
    (server.addConnectableRouter connection id).connections = server.connections := by
  have eq : (server.addConnectableRouter connection id).connections =
      (server.connectObject connection id).connections := rfl
  rw [eq]
  unfold connectObject
  split <;> rfl

theorem removeMind_connections (id entity : Nat) :
    (server.removeMind id entity).connections = server.connections := by
  cases isAccount : server.account? id with
  | none => simp only [removeMind, isAccount]
  | some state => rw [removeMind_eq isAccount]

theorem connectCharacter_connections (id entity : Nat) :
    (server.connectCharacter id entity).connections = server.connections := by
  cases isAccount : server.account? id with
  | none => simp only [connectCharacter, isAccount]
  | some state =>
    cases connected : state.connection with
    | none => simp only [connectCharacter, isAccount, connected]
    | some connection => rw [connectCharacter_eq isAccount connected]

theorem perform_connections (effect : SessionEffect) :
    (server.perform effect).1.connections =
      match effect with
      | .openConnection _ => server.connections ++ [server.nextId]
      | .closeConnection connection => server.connections.filter (· ≠ connection)
      | _ => server.connections := by
  cases effect with
  | load id => exact (modifyAccount_frame server id _).2.2.2
  | createAccount connection type username hash => exact addConnectableRouter_connections ..
  | login connection id => exact addConnectableRouter_connections ..
  | disconnectObject connection id => exact disconnectObject_connections ..
  | createJuncture connection => exact addConnectableRouter_connections ..
  | connectCharacter id entity => exact connectCharacter_connections ..
  | removeMind id entity => exact removeMind_connections ..
  | setPossessionEnabled connection enabled id =>
    obtain ⟨manager, possessionRouters, eq⟩ :=
      setPossessionEnabled_eq server connection enabled id
    exact (congrArg ServerRouting.connections eq).trans rfl
  | addCharacter id entity => exact (modifyAccount_frame server id _).2.2.2
  | destroyEntity entity =>
    exact run_invariant_of_step
      (fun current : ServerRouting => current.connections = server.connections)
      (fun current name same =>
        (modifyAccount_frame _ _ _).2.2.2.trans ((removeMind_connections ..).trans same))
      rfl server.names
  | openConnection trusted => rfl
  | closeConnection connection =>
    exact (congrArg ServerRouting.connections (closeConnection_fst server connection)).trans
      (disconnectAll_connections ..)
  | disconnect connection => rfl
  | send connection reply => rfl
  | lobbyBroadcast reply => rfl

end

theorem Coherent.perform {effect : SessionEffect} (coherent : Coherent server)
    (permitted : server.Permitted effect) : Coherent (server.perform effect).1 := by
  have sound : Sound server.connections server := coherent
  rw [Coherent, perform_connections]
  cases effect with
  | load id => exact sound.modifyAccount fun _ => rfl
  | createAccount connection type username hash =>
    have lobby := addConnectableRouter_lobby (server.withObject
      (.account (newAccount type username hash connection))
      (server.names ++ [(username, server.nextId)])) connection server.nextId
    exact sound.create (.account (newAccount type username hash connection))
      (server.names ++ [(username, server.nextId)]) rfl permitted rfl rfl connectObject_nextId
      (congrArg (ExternalMindsManager.insert server.nextId) lobby)
  | login connection id =>
    obtain ⟨isOpen, state, isAccount, unconnected⟩ := permitted
    exact sound.login isAccount unconnected isOpen
  | disconnectObject connection id =>
    obtain ⟨isOpen, member⟩ := permitted
    obtain ⟨view, isView, connected⟩ := (sound.connectable connection isOpen id).mp member
    obtain ⟨object, isObject, rfl⟩ := Option.map_eq_some_iff.mp isView
    exact (sound.disconnectObject isObject (.inl connected)).1
  | createJuncture connection =>
    exact sound.create (.juncture (some connection)) server.names rfl permitted rfl rfl
      connectObject_nextId (addConnectableRouter_lobby ..)
  | connectCharacter id entity => exact sound.connectCharacter id entity
  | removeMind id entity => exact sound.removeMind id entity
  | setPossessionEnabled connection enabled id =>
    exact sound.setPossessionEnabled connection enabled id
  | addCharacter id entity => exact sound.modifyAccount fun _ => rfl
  | destroyEntity entity => exact sound.destroyEntity entity
  | openConnection trusted => exact sound.openConnection trusted
  | closeConnection connection => exact sound.closeConnection permitted
  | disconnect connection => exact sound
  | send connection reply => exact sound
  | lobbyBroadcast reply => exact sound

end ServerRouting

end Cyphesis.Server
