import Cyphesis.Ruleset.RuleHandlers

/-!
# Processing rules

`installItem` installs a rule and then those that waited for it, or lets it wait.
-/

namespace Cyphesis.Ruleset

open Std (ExtTreeMap)
open Cyphesis.Foundation

/-- `std::map<std::string, Root>` -/
abbrev RootDict : Type :=
  ExtTreeMap String Description compare

namespace RuleBook

variable (book : RuleBook) (description : Description)

/-- `Ruleset::waitForRule`. -/
def waitForRule (dependent reason : String) :
    RuleBook :=
  { book with waitingRules := book.waitingRules ++ [(dependent, ⟨description, reason⟩)] }

/-- The first rule of each name waiting. -/
def readyRules (name : String) : RootDict :=
  (book.waitingRules.filter fun entry => entry.1 = name).foldl
    (fun ready entry => ready.insertIfNew entry.2.desc.id entry.2.desc) ∅

/-- `m_waitingRules.erase(name)` -/
def eraseWaiting (name : String) : RuleBook :=
  { book with waitingRules := book.waitingRules.filter fun entry => entry.1 ≠ name }

/-- `installItem`, with a bound. -/
def installItem : Nat → RuleBook × Changes → Description → RuleBook × Changes
  | 0, result, _ => result
  | depth + 1, (book, changes), description =>
    match book.installRuleInner changes description with
    | .failed => (book, changes)
    | .waits dependent reason => (book.waitForRule description dependent reason, changes)
    | .installed (book, changes) =>
      (book.readyRules description.id).foldl
        (fun result _ ready => installItem depth result ready)
        (book.eraseWaiting description.id, changes)

/-- All had been waiting at first. -/
def installDepth : Nat :=
  book.waitingRules.length + 1

variable (result : RuleBook × Changes)

/-- `installItem` as it is called from outside. -/
def install (description : Description) : RuleBook × Changes :=
  installItem result.1.installDepth result description

/-- Describe the changed types anew. -/
def publish (changes : Changes) : RuleBook :=
  changes.foldl (fun book name _ =>
    match book.atlasObjects[name]? with
    | none => book
    | some node => book.updateClass name node.privateDescription) book

/-- The new state, and the changes. -/
abbrev Outcome : Type :=
  RuleBook × Changes

/-- `Ruleset::installRule` -/
def installRule : Outcome :=
  match book.installRuleInner ∅ description with
  | .installed (book, changes) => (book.publish changes, changes)
  | _ => (book, ∅)

def modifyRule : Outcome :=
  match book.modifyRuleInner ∅ description with
  | some (book, changes) => (book.publish changes, changes)
  | none => (book, ∅)

/-- One rule of `processChangedRules`. -/
def processRule (description : Description) : RuleBook × Changes :=
  if result.1.hasClass description.id then
    (result.1.modifyRuleInner result.2 description).getD result
  else install result description

/-- `Ruleset::processChangedRules` -/
def processChangedRules (updatedRules : RootDict) : Outcome :=
  let result := updatedRules.foldl (fun result _ description => processRule result description)
    (book, ∅)
  (result.1.publish result.2, result.2)

/-- `loadRules` for the rules that were read from files. -/
def loadRules (ruleTable : RootDict) : Outcome :=
  ruleTable.foldl (fun result _ description => install result description) (book, ∅)

end RuleBook

end Cyphesis.Ruleset
