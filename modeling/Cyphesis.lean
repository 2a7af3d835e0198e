import Cyphesis.Ai.AwarenessRuns
import Cyphesis.Ai.CheckCursor
import Cyphesis.Ai.DeletedEntities
import Cyphesis.Ai.HeldOperations
import Cyphesis.Ai.MemRemoval
import Cyphesis.Ai.PossessionAccount
import Cyphesis.Ai.SharedTerrain
import Cyphesis.Ai.TerrainReports
import Cyphesis.Ai.TypeCycles
import Cyphesis.EntityFilter.Containment
import Cyphesis.EntityFilter.Precedence
import Cyphesis.Navigation.EntityClasses
import Cyphesis.Navigation.Obstacles
import Cyphesis.Navigation.Steering
import Cyphesis.Rules.NumericModifiers
import Cyphesis.Rules.ProtectedProperties
import Cyphesis.Rules.ReachPaths
import Cyphesis.Ruleset.Archetypes
import Cyphesis.Ruleset.ChangeReport
import Cyphesis.Ruleset.InstallOrder
import Cyphesis.Ruleset.PublishedDescriptions
import Cyphesis.Ruleset.TypeUpdate
import Cyphesis.Server.ArchetypeTrees
import Cyphesis.Server.Credentials
import Cyphesis.Server.Logouts
import Cyphesis.Server.Ownership
import Cyphesis.Server.PossessionSets
import Cyphesis.Server.Shutdown
import Cyphesis.Server.Teleports
import Cyphesis.Simulation.ActionsProperty
import Cyphesis.Simulation.Aliases
import Cyphesis.Simulation.Closeness
import Cyphesis.Simulation.ContainerObservers
import Cyphesis.Simulation.Delegates
import Cyphesis.Simulation.DomainProperty
import Cyphesis.Simulation.MeshPositions
import Cyphesis.Simulation.MindConfinement
import Cyphesis.Simulation.ModifySelf
import Cyphesis.Simulation.MoveChecks
import Cyphesis.Simulation.MoveRaces
import Cyphesis.Simulation.NestedContainers
import Cyphesis.Simulation.PartialMoves
import Cyphesis.Simulation.PerceptionToggles
import Cyphesis.Simulation.PhysicalCloseness
import Cyphesis.Simulation.PlantedRuns
import Cyphesis.Simulation.Relays
import Cyphesis.Simulation.RestingEntities
import Cyphesis.Simulation.StackJoining
import Cyphesis.Simulation.Suspension
import Cyphesis.Simulation.TaskTicks
import Cyphesis.Simulation.TasksProperty
import Cyphesis.Simulation.WieldEffects
import Cyphesis.Simulation.WorkListRuns
import Cyphesis.Simulation.WorldRelays
import Cyphesis.Tools.ExportRuns
import Cyphesis.Tools.ExportedDifferences
import Cyphesis.Tools.ImportRuns
import Cyphesis.Rules.VisibilityPaths
