import ChargeBasis.ChargeConfig
import ChargeBasis.Encoding.Period
import ChargeBasis.Json.Writer

/-! Configurations as JSON text. -/

namespace ChargeBasis

open Json (Decoder Field)

namespace SummaryStrategy

/-- The strategies by name. -/
def choices : List (String × SummaryStrategy) :=
  [("AlwaysMonthly", alwaysMonthly), ("AlwaysDaily", alwaysDaily),
    ("ByLoanCategory", byLoanCategory)]

/-- The name of a strategy. -/
def label : SummaryStrategy → String
  | alwaysMonthly => "AlwaysMonthly"
  | alwaysDaily => "AlwaysDaily"
  | byLoanCategory => "ByLoanCategory"

/-- Reads a strategy from JSON. -/
def ofJson : Decoder SummaryStrategy :=
  .oneOf choices

end SummaryStrategy

namespace AveragingPolicy

/-- The averaging policies by name. -/
def choices : List (String × AveragingPolicy) :=
  [("WeightedSum", weightedSum), ("DailyAverage", dailyAverage)]

/-- The name of an averaging policy. -/
def label : AveragingPolicy → String
  | weightedSum => "WeightedSum"
  | dailyAverage => "DailyAverage"

/-- Reads an averaging policy from JSON. -/
def ofJson : Decoder AveragingPolicy :=
  .oneOf choices

end AveragingPolicy

namespace FailurePolicy

/-- The failure policies by name. -/
def choices : List (String × FailurePolicy) :=
  [("FailFast", failFast), ("CollectErrors", collectErrors)]

/-- The name of a failure policy. -/
def label : FailurePolicy → String
  | failFast => "FailFast"
  | collectErrors => "CollectErrors"

/-- Reads a failure policy from JSON. -/
def ofJson : Decoder FailurePolicy :=
  .oneOf choices

end FailurePolicy

namespace ChargeConfig

/-- The JSON object of a configuration. -/
def toJson (config : ChargeConfig) : Json :=
  .object [("period", config.period.toJson), ("summary_strategy", .text config.strategy.label),
    ("averaging_policy", .text config.averaging.label),
    ("failure_policy", .text config.failurePolicy.label),
    ("average_scale", .ofUInt32 config.averageScale)]

/-- The fields of a configuration. -/
def fields : List Field :=
  [.of "period" PeriodChoice.ofJson, .of "summary_strategy" SummaryStrategy.ofJson,
    .of "averaging_policy" AveragingPolicy.ofJson, .of "failure_policy" FailurePolicy.ofJson,
    .of "average_scale" Decoder.uint32]

/-- Reads a configuration from JSON. -/
def ofJson : Decoder ChargeConfig := fun j => do
  let record ← Json.Record.read fields j
  return {
    period := ← record.get "period" PeriodChoice.ofJson
    strategy := ← record.get "summary_strategy" SummaryStrategy.ofJson
    averaging := ← record.get "averaging_policy" AveragingPolicy.ofJson
    failurePolicy := ← record.get "failure_policy" FailurePolicy.ofJson
    averageScale := ← record.get "average_scale" Decoder.uint32 }

/-- The text of a configuration, one field a line. -/
def text (config : ChargeConfig) : String :=
  config.toJson.pretty

/-- Reads the text of a configuration. -/
def parse (s : String) : Except ChargeError ChargeConfig :=
  (Json.decodeText ofJson s).mapError .invalidConfiguration

end ChargeConfig

end ChargeBasis
