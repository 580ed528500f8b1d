import Timelocked.ByteCodec
import Timelocked.RunRules
import Timelocked.Blocks
import Timelocked.PathText
import Timelocked.FileTree
import Timelocked.Base
import Timelocked.ChunkFrame
import Timelocked.ProtectedStream
import Timelocked.PasswordProtection
import Timelocked.SuperblockBody
import Timelocked.Superblock
import Timelocked.Notice
import Timelocked.PayloadRegion
import Timelocked.ArtifactReader
import Timelocked.ArtifactWriter
import Timelocked.Recovery
import Timelocked.ExactRecovery
import Timelocked.DamageRecovery
import Timelocked.StructuralAgreement
import Timelocked.RepeatedSquaring
import Timelocked.PuzzleService
import Timelocked.OutputPath
import Timelocked.Unlock
import Timelocked.RecoveredPath
import Timelocked.UnlockEffects
import Timelocked.LockDifficulty
import Timelocked.Lock
import Timelocked.LockEffects
import Timelocked.LockedArtifact
import Timelocked.FailedLock
import Timelocked.RoundTrip
import Timelocked.LockForms
import Timelocked.BodySpelling
import Timelocked.RegionTiling
import Timelocked.RepairThreshold
import Timelocked.ReadSchedule
import Timelocked.PredictedLength
import Timelocked.Panics
import Timelocked.CancelledCallback
import Timelocked.PasswordAttempts
import Timelocked.PasswordRuns
import Timelocked.GuardedReader
import Timelocked.Reservations
import Timelocked.SilentOverwrite
import Timelocked.StreamGrammar
import Timelocked.FrameSpelling
import Timelocked.FrameArithmetic
import Timelocked.DurationSpec
import Timelocked.OutputNames
import Timelocked.LineEditor
import Timelocked.Channels
import Timelocked.TextFields
import Timelocked.TuiSession
import Timelocked.TuiKeys
import Timelocked.Dialogue
import Timelocked.PromptSystem
import Timelocked.SessionChanges
import Timelocked.PromptProtocol
import Timelocked.DeadWorker
import Timelocked.PromptLiveness
import Timelocked.OneWorker
import Timelocked.Inspection
import Timelocked.Browser
import Timelocked.Calibration
import Timelocked.Forms
import Timelocked.Application
import Timelocked.SuggestedOutput
import Timelocked.TraceRules
import Timelocked.Progress
import Timelocked.CommandLine
import Timelocked.VerifiedUnlock
import Timelocked.Benchmark
import Timelocked.DamagedUnlock
