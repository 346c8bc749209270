import PathRouter.Factory

/-!
# Sessions

A session works with several tables, registries and recorders, one command after the other.  It
keeps under names what commands produce: tables, registries, snapshots of the routes of a table,
iterators over them, and registrations that are applied later.  Each command gives an answer or an
error, and the log records that were written meanwhile; after an error the session goes on.

Handlers and factories answer from what they are given.  Apart from recorders, which remember their
calls, they have no state, and they do not use the tables and registries of the session themselves.
-/

namespace PathRouter

/-- A registration that waits for its handler. -/
structure Registration where
  table : Nat
  method : String
  pattern : String
  deriving DecidableEq, Repr

/-- A command to one table. -/
inductive TableCommand where
  /-- Registers a route. -/
  | register (method pattern : String) (handler : Handler)
  /-- Registers a route and hands the handler back. -/
  | route (method pattern : String) (handler : Handler)
  /-- Keeps a registration for later. -/
  | keep (name method pattern : String)
  /-- Applies a kept registration to a handler and hands the handler back. -/
  | apply (name : String) (handler : Handler)
  /-- Freezes the table. -/
  | freeze
  /-- Asks for the routes. -/
  | routes
  /-- Keeps the routes of this moment. -/
  | snapshot (name : String)
  /-- Asks for kept routes. -/
  | read (name : String)
  /-- Keeps an iterator over the routes of this moment. -/
  | iterate (name : String)
  /-- Asks an iterator for its next route. -/
  | next (name : String)
  /-- Asks which route matches. -/
  | find (method path : Value)
  /-- Dispatches a request. -/
  | dispatch (method path : Value)
  /-- Asks for the calls of a recorder. -/
  | calls (recorder : String)

/-- A command. -/
inductive Command where
  /-- A command to a table. -/
  | table (name : String) (command : TableCommand)
  /-- Makes a table without routes. -/
  | create (name : String)
  /-- Adds a factory to the builder. -/
  | factory (typeUrl : String) (spec : FactorySpec)
  /-- Builds a registry. -/
  | build (name : String)
  /-- Makes a registry without factories. -/
  | emptyRegistry (name : String)
  /-- Asks for the handler types of a registry, and whether it has some given ones. -/
  | info (registry : String) (typeUrls : List String)
  /-- Loads a table from configuration data. -/
  | load (registry : String) (config : Value) (name : String)

/-- The answer to a command. -/
inductive Answer where
  | done
  | unchanged
  | chained
  | routes (rs : List (Route Handler))
  | snapshot (rs : List (Route Handler))
  | route (r? : Option (Route Handler))
  | hit (h? : Option (Hit Handler))
  | reply (r : Reply)
  | calls (ps : List Params)
  | count (n : Nat)
  | info (count : Nat) (typeUrls : List String) (contained : List Bool)
  | loaded (size : Nat) (frozen : Bool)

/-- What a command can fail with. -/
inductive SessionError where
  | router (e : RouterError)
  | config (e : ConfigError)
  | handler (e : HandlerError)
  | unknownName (name : String)

/-- What a session keeps.  Tables have numbers, and names refer to numbers: a name may come to mean
another table, but a registration stays with its own. -/
structure Session where
  tables : List (RouteTable Handler)
  tableNames : OrderedMap String Nat
  recorders : Recorders
  registrations : OrderedMap String Registration
  snapshots : OrderedMap String (List (Route Handler))
  iterators : OrderedMap String (List (Route Handler))
  builder : RegistryBuilder Handler
  registries : OrderedMap String (Registry Handler)

/-- What a command results in. -/
structure Step where
  answer : Except SessionError Answer
  log : List LogRecord
  session : Session

namespace Session

/-- The session at its beginning. -/
def empty : Session :=
  { tables := [], tableNames := ∅, recorders := ∅, registrations := ∅, snapshots := ∅,
    iterators := ∅, builder := RegistryBuilder.empty, registries := ∅ }

instance : EmptyCollection Session := ⟨empty⟩

/-- The table with a name. -/
def table? (s : Session) (name : String) : Option (RouteTable Handler) :=
  (s.tableNames.get? name).bind (s.tables[·]?)

/-- Adds a table under a name. -/
def addTable (s : Session) (name : String) (t : RouteTable Handler) : Session :=
  { s with
    tables := s.tables ++ [t]
    tableNames := s.tableNames.put name s.tables.length }

/-- An answer without log records. -/
def answer (s : Session) (a : Answer) : Step := ⟨.ok a, [], s⟩

/-- An error without log records. -/
def refuse (s : Session) (e : SessionError) : Step := ⟨.error e, [], s⟩

/-- Registers a route in the table with a number, and answers `a`. -/
def register (s : Session) (r : Registration) (handler : Handler) (a : Answer) : Step :=
  let s := { s with recorders := handler.prepare s.recorders }
  match (s.tables[r.table]?.getD ∅).register r.method r.pattern handler with
  | .error e => s.refuse (.router e)
  | .ok t => ⟨.ok a, t.lastRegistered, { s with tables := s.tables.set r.table t }⟩

/-- Dispatches a request to a table. -/
def dispatch (s : Session) (t : RouteTable Handler) (method path : Value) : Step :=
  let called (h : Handler) (ps : Params) : Step :=
    match h.invoke ps s.recorders with
    | (.ok r, rs) => { s with recorders := rs }.answer (.reply r)
    | (.error e, rs) => { s with recorders := rs }.refuse (.handler e)
  t.dispatch called ⟨.ok (.reply .notFound), [.noRoute method path], s⟩ method path

/-- Executes a command to the table with number `n`. -/
def tableStep (s : Session) (n : Nat) (t : RouteTable Handler) : TableCommand → Step
  | .register method pattern h => s.register ⟨n, method, pattern⟩ h .done
  | .route method pattern h => s.register ⟨n, method, pattern⟩ h .unchanged
  | .keep name method pattern =>
    { s with registrations := s.registrations.put name ⟨n, method, pattern⟩ }.answer .done
  | .apply name h =>
    match s.registrations.get? name with
    | none => s.refuse (.unknownName name)
    | some r => s.register r h .unchanged
  | .freeze => { s with tables := s.tables.set n t.freeze }.answer .done
  | .routes => s.answer (.routes t.routes)
  | .snapshot name => { s with snapshots := s.snapshots.put name t.routes }.answer .done
  | .read name =>
    match s.snapshots.get? name with
    | none => s.refuse (.unknownName name)
    | some rs => s.answer (.snapshot rs)
  | .iterate name => { s with iterators := s.iterators.put name t.routes }.answer .done
  | .next name =>
    match s.iterators.get? name with
    | none => s.refuse (.unknownName name)
    | some [] => s.answer (.route none)
    | some (r :: rs) => { s with iterators := s.iterators.put name rs }.answer (.route (some r))
  | .find method path => s.answer (.hit (t.lookup? method path))
  | .dispatch method path => s.dispatch t method path
  | .calls name =>
    match s.recorders.get? name with
    | none => s.refuse (.unknownName name)
    | some r => s.answer (.calls r.calls)

/-- Loads a table; a name keeps the table it had if the loading fails. -/
def load (s : Session) (r : Registry Handler) (config : Value) (name : String) : Step :=
  match RouteTableConfig.ofValue config with
  | .error e => s.refuse (.config e)
  | .ok c =>
    match r.load c with
    | (.error e, log) => ⟨.error (.router e), log, s⟩
    | (.ok t, log) => ⟨.ok (.loaded t.size t.frozen), log, s.addTable name t⟩

/-- Executes a command. -/
def step (s : Session) : Command → Step
  | .table name c =>
    match s.tableNames.get? name with
    | none => s.refuse (.unknownName name)
    | some n => s.tableStep n (s.tables[n]?.getD ∅) c
  | .create name => (s.addTable name ∅).answer .done
  | .factory typeUrl spec =>
    { s with builder := s.builder.handler typeUrl spec.make }.answer .chained
  | .build name =>
    let r := s.builder.build
    { s with registries := s.registries.put name r }.answer (.count r.count)
  | .emptyRegistry name =>
    { s with registries := s.registries.put name Registry.empty }.answer
      (.count (Registry.empty : Registry Handler).count)
  | .info name typeUrls =>
    match s.registries.get? name with
    | none => s.refuse (.unknownName name)
    | some r => s.answer (.info r.count r.typeUrls (typeUrls.map r.contains))
  | .load registry config name =>
    match s.registries.get? registry with
    | none => s.refuse (.unknownName registry)
    | some r => s.load r config name

/-- The steps of a run, one for each command. -/
def run (s : Session) : List Command → List Step
  | [] => []
  | c :: cs =>
    let st := s.step c
    st :: st.session.run cs

end Session

end PathRouter
