import XrPanel.Elevation
import XrPanel.FormTable.Check
import XrPanel.Main
import XrPanel.Proofs.Numerals
import XrPanel.Store.Disk
import XrPanel.Store.Memory
import XrPanel.Proofs.DocumentRoundTrip
import XrPanel.Proofs.FileDurability
import XrPanel.Proofs.ControlRanges
import XrPanel.Proofs.HiveLookup
import XrPanel.Proofs.ScriptCourses
import XrPanel.Proofs.TableCoherence
import XrPanel.Proofs.ShownValues
import XrPanel.Proofs.StoredNumbers
import XrPanel.Proofs.FormWrites
import XrPanel.Proofs.PlannedChanges
import XrPanel.Proofs.FormActions
import XrPanel.Proofs.FormMirror
import XrPanel.Proofs.PersistedChange
import XrPanel.Proofs.HiveDistinct
import XrPanel.Proofs.ByteOrder
import XrPanel.Proofs.HiveHistory
import XrPanel.Proofs.OpenedFile
import XrPanel.Proofs.FormReach
import XrPanel.Proofs.ExclusiveMembers
import XrPanel.Proofs.HiveAlike
import XrPanel.Proofs.IndependentForms
import XrPanel.Proofs.StoreChanges
import XrPanel.Proofs.ReadOnlyForms
import XrPanel.Proofs.ReadOnlyCompanion
import XrPanel.Proofs.JsonGrammar
import XrPanel.Proofs.DocumentLexing
import XrPanel.Proofs.DocumentGrammar
import XrPanel.Proofs.StoreDocuments
import XrPanel.Proofs.CommandLines
import XrPanel.Proofs.ManifestPaths
import XrPanel.Proofs.RuntimeReading
import XrPanel.Proofs.RuntimeSelection
import XrPanel.Proofs.ReadingCommands
import XrPanel.Proofs.FailedWrites
import XrPanel.Proofs.FormLoading
import XrPanel.Proofs.Refusals
import XrPanel.Proofs.FailureNotices
import XrPanel.Proofs.HiveDeletions
import XrPanel.Proofs.RestoredDefaults
import XrPanel.Proofs.RestoredGroups
import XrPanel.Proofs.UnitConversion
import XrPanel.Proofs.TableValidity
import XrPanel.Proofs.SelectionEffects
import XrPanel.Proofs.HeldValues
import XrPanel.Proofs.SwitchedControls
import XrPanel.Proofs.TypedValues
import XrPanel.Proofs.FractionLabels
import XrPanel.Proofs.HeightLabels
