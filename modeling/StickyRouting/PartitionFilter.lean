import StickyRouting.Metadata
import StickyRouting.Node

set_option autoImplicit false

namespace StickyRouting

def defaultPartition : String := "default"

structure PartitionFilter where
  fallback : String := defaultPartition
  deriving Repr, DecidableEq

namespace PartitionFilter

variable {ω τ : Type}

def partition (filter : PartitionFilter) (md : Metadata) : String :=
  md.partitionOr filter.fallback

def candidates (filter : PartitionFilter) (md : Metadata) (roster : List (Node ω τ)) :
    List (Node ω τ) :=
  roster.filter fun node => node.partition = filter.partition md

end PartitionFilter

end StickyRouting
