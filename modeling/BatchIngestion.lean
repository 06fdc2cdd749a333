import BatchIngestion.Advance
import BatchIngestion.CatchUp
import BatchIngestion.ChangedConfigs
import BatchIngestion.Checkpoint
import BatchIngestion.Column
import BatchIngestion.Completion
import BatchIngestion.Config
import BatchIngestion.ConfigFactory
import BatchIngestion.ConnectionText
import BatchIngestion.DemoSeeding
import BatchIngestion.Directories
import BatchIngestion.DynamoMaximum
import BatchIngestion.Envelope
import BatchIngestion.EnvelopeUse
import BatchIngestion.FailureReport
import BatchIngestion.FileIngestion
import BatchIngestion.FractionalMaximum
import BatchIngestion.HandOff
import BatchIngestion.History
import BatchIngestion.InitOperator
import BatchIngestion.InlineMetric
import BatchIngestion.Isolation
import BatchIngestion.KafkaAdapter
import BatchIngestion.KafkaCatchUp
import BatchIngestion.KafkaHalt
import BatchIngestion.KafkaIngestion
import BatchIngestion.KafkaOffsets
import BatchIngestion.KafkaOverlap
import BatchIngestion.Landing
import BatchIngestion.Ledger
import BatchIngestion.Library.Components
import BatchIngestion.Library.Execution
import BatchIngestion.Library.Fallible
import BatchIngestion.Library.Greatest
import BatchIngestion.Library.Handlers
import BatchIngestion.Library.Literal
import BatchIngestion.Library.Log
import BatchIngestion.Library.Loop
import BatchIngestion.Library.Procedure
import BatchIngestion.Library.TextOrder
import BatchIngestion.Library.Tiling
import BatchIngestion.Library.Watermark
import BatchIngestion.MessageFormat
import BatchIngestion.MetricAdapter
import BatchIngestion.MetricOperator
import BatchIngestion.Metrics
import BatchIngestion.Monotone
import BatchIngestion.NoSqlAdapter
import BatchIngestion.NoSqlIngestion
import BatchIngestion.OpenBaoHook
import BatchIngestion.OperatorIngestion
import BatchIngestion.OperatorLanding
import BatchIngestion.OperatorQueues
import BatchIngestion.OperatorRefinement
import BatchIngestion.OperatorSink
import BatchIngestion.Operators
import BatchIngestion.PartitionGrowth
import BatchIngestion.Pipeline
import BatchIngestion.Placement
import BatchIngestion.PrimaryQueue
import BatchIngestion.Progress
import BatchIngestion.Python.Calendar
import BatchIngestion.Python.Dict
import BatchIngestion.Python.IntLimits
import BatchIngestion.Python.IsoFormat
import BatchIngestion.Python.IsoOrder
import BatchIngestion.Python.IsoRoundTrip
import BatchIngestion.Python.Json
import BatchIngestion.Python.JsonAscii
import BatchIngestion.Python.JsonRoundTrip
import BatchIngestion.Python.Lines
import BatchIngestion.Python.Loads
import BatchIngestion.Python.Numeral
import BatchIngestion.Python.PurePath
import BatchIngestion.Python.Text
import BatchIngestion.Python.Value
import BatchIngestion.Python.ValueRoundTrip
import BatchIngestion.QueryText
import BatchIngestion.ReadWindows
import BatchIngestion.Refinement
import BatchIngestion.Registration
import BatchIngestion.RegistrationRound
import BatchIngestion.Retries
import BatchIngestion.RunContext
import BatchIngestion.S3Settings
import BatchIngestion.SavedSchema
import BatchIngestion.Sequential
import BatchIngestion.Shadowing
import BatchIngestion.SparkAttempt
import BatchIngestion.SparkLog
import BatchIngestion.SparkRun
import BatchIngestion.SparkSession
import BatchIngestion.SqlAdapter
import BatchIngestion.SqlIngestion
import BatchIngestion.SqlTimestamps
import BatchIngestion.SqlWindows
import BatchIngestion.Stretch
import BatchIngestion.TemplateDag
import BatchIngestion.Tracking
import BatchIngestion.WritePath
