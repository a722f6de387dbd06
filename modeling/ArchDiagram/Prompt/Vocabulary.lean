import ArchDiagram.ContainerKind
import ArchDiagram.Icon
import ArchDiagram.Pattern
import ArchDiagram.Scalar

namespace ArchDiagram.Prompt

/-- A phrase that names a known component. -/
structure Term where
  phrase : String
  name : String
  icon : Icon
deriving DecidableEq, Repr

/-- Phrases for components. All phrases that a description is searched for are in lower case. -/
def terms : List Term :=
  [⟨"user", "User", .user⟩, ⟨"users", "User", .user⟩, ⟨"end user", "User", .user⟩,
   ⟨"customer", "Customer", .user⟩, ⟨"customers", "Customer", .user⟩,
   ⟨"client", "Client", .client⟩, ⟨"clients", "Client", .client⟩,
   ⟨"browser", "Browser", .browser⟩, ⟨"web browser", "Browser", .browser⟩,
   ⟨"frontend", "Frontend", .client⟩, ⟨"front-end", "Frontend", .client⟩,
   ⟨"front end", "Frontend", .client⟩, ⟨"web app", "Web App", .client⟩,
   ⟨"web application", "Web App", .client⟩, ⟨"mobile app", "Mobile App", .mobile⟩,
   ⟨"mobile", "Mobile App", .mobile⟩, ⟨"api gateway", "API Gateway", .gateway⟩,
   ⟨"gateway", "Gateway", .gateway⟩, ⟨"api", "API", .api⟩, ⟨"apis", "API", .api⟩,
   ⟨"rest api", "API", .api⟩, ⟨"backend", "Backend", .server⟩, ⟨"back-end", "Backend", .server⟩,
   ⟨"web server", "Web Server", .server⟩, ⟨"app server", "App Server", .server⟩,
   ⟨"application server", "App Server", .server⟩, ⟨"server", "Server", .server⟩,
   ⟨"servers", "Server", .server⟩, ⟨"load balancer", "Load Balancer", .loadBalancer⟩,
   ⟨"load balancers", "Load Balancer", .loadBalancer⟩, ⟨"database", "Database", .database⟩,
   ⟨"databases", "Database", .database⟩, ⟨"db", "Database", .database⟩,
   ⟨"postgres", "PostgreSQL", .database⟩, ⟨"postgresql", "PostgreSQL", .database⟩,
   ⟨"mysql", "MySQL", .database⟩, ⟨"mongodb", "MongoDB", .database⟩,
   ⟨"dynamodb", "DynamoDB", .database⟩, ⟨"data warehouse", "Data Warehouse", .database⟩,
   ⟨"redis", "Redis", .cache⟩, ⟨"memcached", "Memcached", .cache⟩, ⟨"cache", "Cache", .cache⟩,
   ⟨"message queue", "Message Queue", .queue⟩, ⟨"queue", "Queue", .queue⟩,
   ⟨"kafka", "Kafka", .queue⟩, ⟨"rabbitmq", "RabbitMQ", .queue⟩, ⟨"sqs", "SQS", .queue⟩,
   ⟨"message broker", "Message Broker", .queue⟩, ⟨"event bus", "Event Bus", .queue⟩,
   ⟨"s3", "S3", .storage⟩, ⟨"object storage", "Object Storage", .storage⟩,
   ⟨"blob storage", "Blob Storage", .storage⟩, ⟨"storage", "Storage", .storage⟩,
   ⟨"cdn", "CDN", .cdn⟩, ⟨"dns", "DNS", .dns⟩, ⟨"firewall", "Firewall", .firewall⟩,
   ⟨"waf", "WAF", .firewall⟩, ⟨"lambda", "Lambda", .function⟩,
   ⟨"serverless function", "Function", .function⟩, ⟨"docker", "Docker", .container⟩,
   ⟨"kubernetes", "Kubernetes", .kubernetes⟩, ⟨"k8s", "Kubernetes", .kubernetes⟩,
   ⟨"monitoring", "Monitoring", .monitoring⟩, ⟨"prometheus", "Prometheus", .monitoring⟩,
   ⟨"grafana", "Grafana", .monitoring⟩, ⟨"auth", "Auth", .auth⟩,
   ⟨"authentication", "Auth", .auth⟩, ⟨"identity provider", "Identity Provider", .auth⟩,
   ⟨"elasticsearch", "Elasticsearch", .search⟩, ⟨"search", "Search", .search⟩,
   ⟨"analytics", "Analytics", .analytics⟩, ⟨"email", "Email", .email⟩,
   ⟨"payment", "Payment", .payment⟩, ⟨"payments", "Payment", .payment⟩,
   ⟨"stripe", "Stripe", .payment⟩, ⟨"llm", "LLM", .llm⟩, ⟨"language model", "LLM", .llm⟩,
   ⟨"gpt", "LLM", .llm⟩, ⟨"vector database", "Vector DB", .vectorDb⟩,
   ⟨"vector db", "Vector DB", .vectorDb⟩, ⟨"vector store", "Vector DB", .vectorDb⟩,
   ⟨"embedding model", "Embeddings", .embedding⟩, ⟨"embedding", "Embeddings", .embedding⟩,
   ⟨"embeddings", "Embeddings", .embedding⟩, ⟨"retriever", "Retriever", .service⟩,
   ⟨"vpn", "VPN", .network⟩]

/-- True when the word alone names a component. -/
def isTerm (word : String) : Bool := terms.any (·.phrase == word)

/-- Nouns that make a component of the word before them. -/
def systemNouns : List String :=
  ["service", "server", "system", "engine", "store", "worker", "manager", "processor", "handler"]

/-- Words that never name a component. -/
def stopwords : List String :=
  ["a", "an", "the", "this", "that", "which", "each", "every", "our", "their", "its", "my",
   "your", "one", "two", "three", "some", "any", "other", "another", "main", "new", "and", "or",
   "to", "from", "with", "of", "in", "on", "for", "by", "is", "are", "then", "via", "as"]

/-- How one component depends on another. -/
inductive RelationKind
  | dependency
  | dataFlow
  | communication
  | containment
deriving DecidableEq, Repr

namespace RelationKind

def all : List RelationKind := [.dependency, .dataFlow, .communication, .containment]

def name : RelationKind → String
  | .dependency => "dependency"
  | .dataFlow => "data-flow"
  | .communication => "communication"
  | .containment => "containment"

def strength {α : Type} [Scalar α] : RelationKind → α
  | .dependency => 0.6
  | .dataFlow => 0.8
  | .communication => 0.7
  | .containment => 1.0

end RelationKind

/-- Phrases between two components that relate them. The first one found counts, so that longer
phrases stand before their beginnings. -/
def relationTerms : List (String × RelationKind) :=
  [("sends data to", .dataFlow), ("sends requests to", .dataFlow),
   ("sends events to", .dataFlow), ("sends to", .dataFlow), ("writes to", .dataFlow),
   ("reads from", .dataFlow), ("streams to", .dataFlow), ("pushes to", .dataFlow),
   ("forwards to", .dataFlow), ("routes to", .dataFlow), ("loads into", .dataFlow),
   ("feeds", .dataFlow), ("connects to", .communication), ("talks to", .communication),
   ("communicates with", .communication), ("publishes to", .communication),
   ("subscribes to", .communication), ("notifies", .communication), ("calls", .communication),
   ("depends on", .dependency), ("relies on", .dependency), ("queries", .dependency),
   ("uses", .dependency), ("contains", .containment), ("hosts", .containment),
   ("includes", .containment), ("runs", .containment)]

def containerTerms : List (String × ContainerKind) :=
  [("region", .region), ("regions", .region), ("availability zone", .availabilityZone),
   ("availability zones", .availabilityZone), ("az", .availabilityZone), ("tier", .tier),
   ("tiers", .tier), ("layer", .tier), ("layers", .tier), ("vpc", .vpc), ("subnet", .subnet),
   ("subnets", .subnet), ("security group", .securityGroup),
   ("security groups", .securityGroup), ("group", .group), ("groups", .group)]

def layerTerms : List String := ["layer", "layers", "tier", "tiers"]

/-- Phrases by which one box stands inside another. -/
def nestingTerms : List String :=
  ["inside", "within", "nested", "contains", "across", "in each"]

def scaleTerms : List String :=
  ["million", "millions", "thousands", "global", "worldwide", "multi-region",
   "high availability", "scalable", "petabyte", "enterprise", "auto-scaling"]

/-- Phrases that say in which direction the drawing reads. -/
def flowTerms : List (String × Flow) :=
  [("left to right", .leftRight), ("left-to-right", .leftRight), ("horizontal", .leftRight),
   ("horizontally", .leftRight), ("right to left", .rightLeft), ("right-to-left", .rightLeft),
   ("top down", .topDown), ("top-down", .topDown), ("top to bottom", .topDown),
   ("vertical", .topDown), ("vertically", .topDown), ("bottom up", .bottomUp),
   ("bottom-up", .bottomUp), ("bottom to top", .bottomUp)]

/-- Keywords of a style with their weights. The general style has none. -/
def keywords : Pattern → List (String × Nat)
  | .clientServer =>
    [("client-server", 4), ("client", 2), ("clients", 2), ("server", 2), ("request", 1),
     ("requests", 1), ("response", 1), ("responses", 1), ("frontend", 1), ("backend", 1),
     ("browser", 1), ("user", 1), ("users", 1)]
  | .layered =>
    [("layered", 4), ("layer", 2), ("layers", 2), ("presentation", 1), ("business logic", 2),
     ("data access", 2), ("persistence", 1)]
  | .microservices =>
    [("microservices", 4), ("microservice", 3), ("service mesh", 3), ("api gateway", 2),
     ("kubernetes", 2), ("k8s", 2), ("docker", 2), ("container", 1), ("containers", 1),
     ("service", 1), ("services", 1)]
  | .eventDriven =>
    [("event-driven", 4), ("event driven", 4), ("event", 1), ("events", 2), ("publish", 2),
     ("publishes", 2), ("subscribe", 2), ("subscribes", 2), ("pub/sub", 3), ("kafka", 2),
     ("message broker", 2), ("event bus", 3), ("queue", 1), ("consumer", 1), ("consumers", 1),
     ("producer", 1), ("producers", 1)]
  | .nTier =>
    [("n-tier", 4), ("three-tier", 4), ("3-tier", 4), ("multi-tier", 4), ("two-tier", 3),
     ("tier", 2), ("tiers", 2)]
  | .hubSpoke =>
    [("hub-and-spoke", 4), ("hub and spoke", 4), ("hub", 3), ("spoke", 3), ("spokes", 3),
     ("central", 1), ("centralized", 1)]
  | .distributed =>
    [("distributed", 3), ("peer-to-peer", 3), ("p2p", 3), ("nodes", 1), ("replication", 2),
     ("replicated", 2), ("consensus", 2), ("sharded", 2), ("partition", 1), ("partitions", 1),
     ("cluster", 1)]
  | .enterprise =>
    [("enterprise", 4), ("erp", 3), ("crm", 2), ("esb", 3), ("service bus", 3), ("legacy", 2),
     ("mainframe", 2), ("compliance", 1), ("governance", 1)]
  | .hybrid =>
    [("hybrid", 4), ("hybrid cloud", 3), ("on-premise", 3), ("on-premises", 3), ("on-prem", 3),
     ("multi-cloud", 3), ("cloud", 1), ("data center", 2), ("datacenter", 2)]
  | .ragLlm =>
    [("rag", 4), ("retrieval", 3), ("retrieval-augmented", 4), ("llm", 3), ("embedding", 2),
     ("embeddings", 2), ("vector", 2), ("vector database", 3), ("prompt", 1), ("retriever", 2),
     ("chunks", 1)]
  | .pipeline =>
    [("pipeline", 4), ("pipelines", 4), ("etl", 3), ("ingest", 2), ("ingestion", 2),
     ("transform", 2), ("stage", 1), ("stages", 1), ("batch", 1), ("stream", 1),
     ("streaming", 1)]
  | .neuralNetwork =>
    [("neural network", 5), ("neural", 3), ("neuron", 2), ("neurons", 2), ("hidden layer", 3),
     ("input layer", 3), ("output layer", 3), ("perceptron", 3), ("activation", 1),
     ("weights", 1)]
  | .general => []

end ArchDiagram.Prompt
