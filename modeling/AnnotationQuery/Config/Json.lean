import AnnotationQuery.Config
import AnnotationQuery.Json.Decoder

/-!
# Configurations in JSON

Every field may be left out and then has its default value.
-/

namespace AnnotationQuery.Config

open Decoder

def json (c : Config) : Json :=
  .object
    [("workdir", .ofOption .string c.workdir),
      ("parameterize", .bool c.parameterize),
      ("pause_tier", .string c.pauseTier),
      ("parallel_partitions", .bool c.parallelPartitions)]

def decode : Decoder Config :=
  record
    [field "workdir" .defaulted (option string) fun workdir c => { c with workdir },
      field "parameterize" .defaulted bool fun parameterize c => { c with parameterize },
      field "pause_tier" .defaulted string fun pauseTier c => { c with pauseTier },
      field "parallel_partitions" .defaulted bool fun parallelPartitions c =>
        { c with parallelPartitions }]
    default

end AnnotationQuery.Config
