import CocktailMaker.LabelledRun
import CocktailMaker.FiniteMap
import CocktailMaker.AscendingVector
import CocktailMaker.KeyedRows
import CocktailMaker.IntegralType
import CocktailMaker.SaturatingArithmetic
import CocktailMaker.Binary64
import CocktailMaker.Quantities
import CocktailMaker.Recipe
import CocktailMaker.Redistribution
import CocktailMaker.ScaleRecipe
import CocktailMaker.BoostRecipe
import CocktailMaker.BoostStrength
import CocktailMaker.JsonDocument
import CocktailMaker.JsonTokens
import CocktailMaker.ParseRecipe
import CocktailMaker.DoubleProcessing
import CocktailMaker.LoadableRecipes
import CocktailMaker.CommandIds
import CocktailMaker.StationConfig
import CocktailMaker.GlassStore
import CocktailMaker.CrashDuringSave
import CocktailMaker.GlassContextBridge
import CocktailMaker.OfferedGlasses
import CocktailMaker.IncrementalParsing
import CocktailMaker.FramedStream
import CocktailMaker.PodMessage
import CocktailMaker.FrameReader
import CocktailMaker.ReceiveBuffer
import CocktailMaker.ReadLoop
import CocktailMaker.Resynchronisation
import CocktailMaker.BufferLimit
import CocktailMaker.ResponseDispatch
import CocktailMaker.TransactionIds
import CocktailMaker.WriteLoop
import CocktailMaker.AsyncAlgorithms
import CocktailMaker.ExecuteRecipe
import CocktailMaker.CommandRows
import CocktailMaker.MixProgress
import CocktailMaker.ApplicationInit
import CocktailMaker.ReceiveResponse
import CocktailMaker.RetryOnTimeout
import CocktailMaker.ActionProgress
import CocktailMaker.PodAction
import CocktailMaker.RecipeProcessing
import CocktailMaker.FlagWaiters
import CocktailMaker.ManualCommandPopup
import CocktailMaker.PortTable
import CocktailMaker.SerialPodDiscovery
import CocktailMaker.OneSessionPerPod
import CocktailMaker.RefusedPods
import CocktailMaker.OperatorAuth
import CocktailMaker.MachineAuth
import CocktailMaker.PinAttempts
import CocktailMaker.MaintenanceAccess
import CocktailMaker.OperatorLockout
import CocktailMaker.PodUiModel
import CocktailMaker.CreateDispenser
import CocktailMaker.PodStates
import CocktailMaker.PodMirror
import CocktailMaker.PodMonitor
import CocktailMaker.StationPods
import CocktailMaker.CooperativeTasks
import CocktailMaker.SimulatedPod
import CocktailMaker.SimulatedDispense
import CocktailMaker.StationPodLink
import CocktailMaker.RefillHandling
import CocktailMaker.ConsecutiveRecipes
import CocktailMaker.RecipeOutcome
import CocktailMaker.ErrorPage
import CocktailMaker.RecipeOrder
import CocktailMaker.OrderOutcome
import CocktailMaker.OutcomePages
import CocktailMaker.LineAssembler
import CocktailMaker.StripAnsi
import CocktailMaker.UnterminatedSequences
import CocktailMaker.FirmwareLine
import CocktailMaker.DispenserCalibration
