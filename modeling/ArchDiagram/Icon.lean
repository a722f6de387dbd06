import ArchDiagram.Text.Blank

namespace ArchDiagram

inductive Icon
  | user
  | client
  | browser
  | mobile
  | server
  | api
  | gateway
  | loadBalancer
  | database
  | cache
  | queue
  | storage
  | cdn
  | dns
  | firewall
  | function
  | container
  | kubernetes
  | monitoring
  | auth
  | search
  | analytics
  | email
  | payment
  | llm
  | vectorDb
  | embedding
  | service
  | network
deriving DecidableEq, Repr

namespace Icon

def all : List Icon :=
  [.user, .client, .browser, .mobile, .server, .api, .gateway, .loadBalancer, .database, .cache,
   .queue, .storage, .cdn, .dns, .firewall, .function, .container, .kubernetes, .monitoring,
   .auth, .search, .analytics, .email, .payment, .llm, .vectorDb, .embedding, .service, .network]

/-- The name of an icon in diagram source. -/
def name : Icon → String
  | .user => "user"
  | .client => "client"
  | .browser => "browser"
  | .mobile => "mobile"
  | .server => "server"
  | .api => "api"
  | .gateway => "gateway"
  | .loadBalancer => "load-balancer"
  | .database => "database"
  | .cache => "cache"
  | .queue => "queue"
  | .storage => "storage"
  | .cdn => "cdn"
  | .dns => "dns"
  | .firewall => "firewall"
  | .function => "function"
  | .container => "container"
  | .kubernetes => "kubernetes"
  | .monitoring => "monitoring"
  | .auth => "auth"
  | .search => "search"
  | .analytics => "analytics"
  | .email => "email"
  | .payment => "payment"
  | .llm => "llm"
  | .vectorDb => "vector-db"
  | .embedding => "embedding"
  | .service => "service"
  | .network => "network"

/-- Short and joined spellings that name an icon too. -/
def aliases : List (String × Icon) :=
  [("loadbalancer", .loadBalancer), ("lb", .loadBalancer), ("db", .database),
   ("lambda", .function), ("docker", .container), ("k8s", .kubernetes), ("vectordb", .vectorDb)]

/-- The icon that a text names, without regard to the case of ASCII letters and to white space
around it. -/
def ofName? (text : String) : Option Icon :=
  let key := Text.folded text
  (aliases.lookup key).or (all.find? (·.name == key))

theorem mem_all (icon : Icon) : icon ∈ all := by cases icon <;> decide

end Icon

end ArchDiagram
