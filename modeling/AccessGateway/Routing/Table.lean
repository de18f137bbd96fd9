import AccessGateway.Routing.Search

/-!
# Tables of routes

A route gives the endpoints of one template: some by method, and maybe one for all other methods.
Adding to a template that is there joins the routes, and two templates that could not be told
apart are refused.  A path is served by the template that is found first.
-/

namespace AccessGateway

structure Route (ε : Type) where
  template : Template
  /-- The endpoints of single methods. -/
  handlers : List (String × ε)
  /-- The endpoint of all other methods. -/
  others : Option ε

namespace Route

variable {ε : Type}

/-- The endpoint of a method; `HEAD` is served like `GET`. -/
def endpoint? (route : Route ε) (method : String) : Option ε :=
  match route.handlers.lookup (if method = "HEAD" then "GET" else method) with
  | some endpoint => some endpoint
  | none => route.others

/-- Whether an answer to a method loses its body. -/
def dropsBody (route : Route ε) (method : String) : Bool :=
  method = "HEAD" && (route.handlers.lookup "GET").isSome

/-- The methods by name, unless every method has an endpoint. -/
def allowed? (route : Route ε) : Option String :=
  match route.others with
  | some _ => none
  | none =>
    some (",".intercalate ((route.handlers.map Prod.fst).flatMap fun method =>
      if method = "GET" then ["GET", "HEAD"] else [method]))

end Route

inductive RouteFault where
  | badTemplate (text : String)
  | clash (text other : String)
  /-- Both routes of one template have an endpoint for the same method, or for all others. -/
  | doubled (text : String)
  deriving DecidableEq, Repr

abbrev RouteTable (ε : Type) := List (Route ε)

namespace RouteTable

variable {ε : Type}

def join (a b : Route ε) : Except RouteFault (Route ε) :=
  if a.handlers.any (fun (method, _) => (b.handlers.lookup method).isSome) ||
      (a.others.isSome && b.others.isSome) then
    .error (.doubled a.template.text)
  else .ok ⟨a.template, a.handlers ++ b.handlers, a.others <|> b.others⟩

/-- Adds a route: joined with the one of the same template, or at the end. -/
def insert (route : Route ε) : RouteTable ε → Except RouteFault (RouteTable ε)
  | [] => .ok [route]
  | other :: rest =>
    if other.template.text = route.template.text then
      (join other route).map (· :: rest)
    else if Template.clashes other.template.pieces route.template.pieces then
      .error (.clash route.template.text other.template.text)
    else (insert route rest).map (other :: ·)

def add (table : RouteTable ε) (text : String) (handlers : List (String × ε))
    (others : Option ε := none) : Except RouteFault (RouteTable ε) :=
  match Template.parse? text with
  | none => .error (.badTemplate text)
  | some template => table.insert ⟨template, handlers, others⟩

def merge (table : RouteTable ε) : RouteTable ε → Except RouteFault (RouteTable ε)
  | [] => .ok table
  | route :: rest =>
    match table.insert route with
    | .ok table => merge table rest
    | .error fault => .error fault

/-- The templates of a table with their routes. -/
def branch (table : RouteTable ε) : Branch (Route ε) :=
  table.map fun route => (route.template.pieces, route)

def search (table : RouteTable ε) (path : String) : SearchEnd (Route ε) :=
  table.branch.search false path.toList

/-- The route that serves a path, with the values of its parameters. -/
def find? (table : RouteTable ε) (path : String) : Option (Route ε × List String) :=
  match table.search path with
  | .found route values => some (route, values)
  | .missed | .stopped => none

end RouteTable

end AccessGateway
