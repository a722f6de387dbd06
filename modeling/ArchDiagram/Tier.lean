import ArchDiagram.Icon

namespace ArchDiagram

/-- A coarse band of components. -/
inductive Tier
  | presentation
  | application
  | data
  | infrastructure
deriving DecidableEq, Repr

namespace Tier

def all : List Tier := [.presentation, .application, .data, .infrastructure]

def ofIcon : Icon → Tier
  | .user | .client | .browser | .mobile | .cdn | .dns => .presentation
  | .server | .api | .gateway | .loadBalancer | .function | .service | .auth | .payment | .email
  | .search | .analytics | .llm | .embedding => .application
  | .database | .cache | .queue | .storage | .vectorDb => .data
  | .firewall | .container | .kubernetes | .monitoring | .network => .infrastructure

/-- The identifier of a band. -/
def slug : Tier → String
  | .presentation => "presentation"
  | .application => "application"
  | .data => "data"
  | .infrastructure => "infrastructure"

def label : Tier → String
  | .presentation => "Presentation"
  | .application => "Application"
  | .data => "Data"
  | .infrastructure => "Infrastructure"

theorem mem_all (tier : Tier) : tier ∈ all := by cases tier <;> decide

end Tier

end ArchDiagram
