import ArchDiagram.Flow

namespace ArchDiagram

/-- The style of a described system. The order of declaration settles ties. -/
inductive Pattern
  | clientServer
  | layered
  | microservices
  | eventDriven
  | nTier
  | hubSpoke
  | distributed
  | enterprise
  | hybrid
  | ragLlm
  | pipeline
  | neuralNetwork
  | general
deriving DecidableEq, Repr

namespace Pattern

def all : List Pattern :=
  [.clientServer, .layered, .microservices, .eventDriven, .nTier, .hubSpoke, .distributed,
   .enterprise, .hybrid, .ragLlm, .pipeline, .neuralNetwork, .general]

/-- The name of a style in data. -/
def name : Pattern → String
  | .clientServer => "client-server"
  | .layered => "layered"
  | .microservices => "microservices"
  | .eventDriven => "event-driven"
  | .nTier => "n-tier"
  | .hubSpoke => "hub-spoke"
  | .distributed => "distributed"
  | .enterprise => "enterprise"
  | .hybrid => "hybrid"
  | .ragLlm => "rag-llm"
  | .pipeline => "pipeline"
  | .neuralNetwork => "neural-network"
  | .general => "general"

/-- The name of a style in titles. -/
def title : Pattern → String
  | .clientServer => "Client-Server"
  | .layered => "Layered"
  | .microservices => "Microservices"
  | .eventDriven => "Event-Driven"
  | .nTier => "N-Tier"
  | .hubSpoke => "Hub-and-Spoke"
  | .distributed => "Distributed"
  | .enterprise => "Enterprise"
  | .hybrid => "Hybrid Cloud"
  | .ragLlm => "RAG / LLM"
  | .pipeline => "Pipeline"
  | .neuralNetwork => "Neural Network"
  | .general => "System"

/-- The direction in which a style reads when the description gives none. -/
def naturalFlow : Pattern → Flow
  | .clientServer | .eventDriven | .hybrid | .ragLlm | .pipeline | .neuralNetwork => .leftRight
  | .layered | .microservices | .nTier | .hubSpoke | .distributed | .enterprise | .general =>
    .topDown

theorem mem_all (pattern : Pattern) : pattern ∈ all := by cases pattern <;> decide

end Pattern

end ArchDiagram
