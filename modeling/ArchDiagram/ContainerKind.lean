import ArchDiagram.Text.Blank

namespace ArchDiagram

inductive ContainerKind
  | region
  | availabilityZone
  | tier
  | vpc
  | subnet
  | securityGroup
  | group
deriving DecidableEq, Repr

namespace ContainerKind

def all : List ContainerKind :=
  [.region, .availabilityZone, .tier, .vpc, .subnet, .securityGroup, .group]

/-- The name of a kind in diagram source. -/
def name : ContainerKind → String
  | .region => "region"
  | .availabilityZone => "availability-zone"
  | .tier => "tier"
  | .vpc => "vpc"
  | .subnet => "subnet"
  | .securityGroup => "security-group"
  | .group => "group"

/-- The kind that a text names, without regard to the case of ASCII letters and to white space
around it. -/
def ofName? (text : String) : Option ContainerKind :=
  all.find? (·.name == Text.folded text)

theorem mem_all (kind : ContainerKind) : kind ∈ all := by cases kind <;> decide

end ContainerKind

end ArchDiagram
