import Mathlib.Data.Option.Basic

/-!
# Mode data

`mode_data` holds what goes with the `mode` of an entity.
-/

namespace Cyphesis.Simulation

/-- `ModeProperty::Mode`. -/
inductive Mode where
  | planted
  | fixed
  | free
  | submerged
  | projectile
  | unknown
  deriving DecidableEq

/-- `ModeDataProperty`, without projectiles. -/
inductive ModeData where
  | null
  | planted (entityId : Option Int) (attachment : Option String)
  | projectile
  deriving DecidableEq

namespace ModeData

def getMode : ModeData → Mode
  | null => .unknown
  | planted _ _ => .planted
  | projectile => .projectile

/-- Entity that a planted one stands on. -/
def plantedOn : ModeData → Option Int
  | planted entityId _ => entityId
  | _ => none

/-- Left of an unplanted entity. -/
def plantOnEntity (data : ModeData) (entryPlantedOn : Option Int) : ModeData :=
  match data with
  | planted (some id) attachment =>
    if entryPlantedOn = some id then planted (some id) attachment
    else entryPlantedOn.elim null fun below => planted (some below) none
  | planted none _ => entryPlantedOn.elim null fun below => planted (some below) none
  | _ => entryPlantedOn.elim data fun below => planted (some below) none

end ModeData

end Cyphesis.Simulation
