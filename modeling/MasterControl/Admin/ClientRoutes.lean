import MasterControl.Admin.Gates
import MasterControl.Clients.Roster

/-!
# The routes of the client roster

A request of a LAN client is identified by its header first: an unknown or disabled client is
turned away, and any other is touched and has to hold the capabilities of the route.  Six routes
then write the roster.  Each reads the id of a client from the path, or from the body, puts its
question about that very id, and calls the service with it.
-/

namespace MasterControl
namespace Admin

open Foundation Gateway Supervisor Clients Governance MasterControl.Configuration

/-! ## Paths -/

def startsWith (value start : String) : Bool := start.toList.isPrefixOf value.toList

def endsWith (value ending : String) : Bool := ending.toList.isSuffixOf value.toList

/-- `path.substr(start.size(), path.size() - start.size() - ending.size())`, where the number of
letters is computed in 64 bits: a path that is too short wraps it around, and everything after the
start is taken. -/
def between (path start ending : String) : String :=
  String.ofList <| (path.toList.drop start.length).take
    ((path.length + (2 ^ 64 - start.length) + (2 ^ 64 - ending.length)) % 2 ^ 64)

def clientsPath : String := "/api/clients"

def clientPathStart : String := "/api/clients/"

/-- The routes that write the roster, each with the id that it reads from its path. -/
inductive ClientRoute where
  | upsert
  | disable (clientId : String)
  | enable (clientId : String)
  | privileges (clientId : String)
  | autonomousMode (clientId : String)
  | delete (clientId : String)
  | elsewhere
  deriving DecidableEq

/-- The routes in their order. -/
def ClientRoute.of (method path : String) : ClientRoute :=
  if method = "POST" && path = clientsPath then .upsert
  else if method = "POST" && startsWith path clientPathStart && endsWith path "/disable" then
    .disable (between path clientPathStart "/disable")
  else if method = "POST" && startsWith path clientPathStart && endsWith path "/enable" then
    .enable (between path clientPathStart "/enable")
  else if method = "POST" && startsWith path clientPathStart && endsWith path "/privileges" then
    .privileges (between path clientPathStart "/privileges")
  else if method = "POST" && startsWith path clientPathStart &&
      endsWith path "/autonomous-mode" then
    .autonomousMode (between path clientPathStart "/autonomous-mode")
  else if method = "DELETE" && startsWith path clientPathStart then
    .delete (String.ofList (path.toList.drop clientPathStart.length))
  else .elsewhere

/-! ## Routes -/

/-- What the routes read from a body, each by its own rules. -/
structure ClientBody where
  client : Body LanClient := .malformed ""
  privileges : Except String LanClientPrivileges := .error ""
  enabled : Except String Bool := .error ""

/-- The clock, and how the write ends. -/
structure RosterEnvironment where
  timestampNowUtc : String
  persisted : Bool

section Routes

variable (clu : CommandLogicUnit) (context : AuthenticatedRequestContext)
  (env : RosterEnvironment) (roster : List LanClient)

def requireManageClients (next : Reply (List LanClient)) : Reply (List LanClient) :=
  requirePrivilege context context.privileges.canManageClients "canManageClients" roster next

/-- The service behind the gates. -/
def editRoster (edit : RosterEdit) (status : OperationResult → Nat) : Reply (List LanClient) :=
  let (result, roster) := edit.perform env.persisted roster
  { answer := .operation (status result) result, state := roster }

def okOrBadRequest (result : OperationResult) : Nat := if result.succeeded then 200 else 400

/-- A client that is not found has a status of its own. -/
def okOrNotFound (result : OperationResult) : Nat :=
  if result.succeeded then 200
  else if result.message = "LAN client not found." then 404
  else 400

/-- `POST /api/clients`. -/
def postClient (body : Body LanClient) : Reply (List LanClient) :=
  requireManageClients context roster <|
    match body with
    | .malformed exception =>
      enforceGovernance context clu .clientRegister "" "" roster <|
        badRequest roster ("Invalid LAN client payload: " ++ exception)
    | .unreadable newClientId exception =>
      enforceGovernance context clu .clientRegister newClientId "" roster <|
        badRequest roster ("Invalid LAN client payload: " ++ exception)
    | .value client =>
      enforceGovernance context clu .clientRegister client.clientId "" roster <|
        editRoster env roster (upsertClient env.timestampNowUtc client) okOrBadRequest

/-- `POST /api/clients/{id}/disable`. -/
def postDisable (clientId : String) : Reply (List LanClient) :=
  requireManageClients context roster <|
    enforceGovernance context clu .clientRevoke clientId "" roster <|
      editRoster env roster (disableClient env.timestampNowUtc clientId) okOrBadRequest

/-- `POST /api/clients/{id}/enable`. -/
def postEnable (clientId : String) : Reply (List LanClient) :=
  requireManageClients context roster <|
    enforceGovernance context clu .clientRegister clientId "" roster <|
      editRoster env roster (enableClient env.timestampNowUtc clientId) okOrBadRequest

/-- `POST /api/clients/{id}/privileges`. -/
def postPrivileges (clientId : String) (body : Except String LanClientPrivileges) :
    Reply (List LanClient) :=
  requireManageClients context roster <|
    enforceGovernance context clu .clientPrivilegeChange clientId "" roster <|
      match body with
      | .error exception => badRequest roster ("Invalid privileges payload: " ++ exception)
      | .ok privileges => editRoster env roster (setPrivileges clientId privileges) okOrNotFound

/-- `POST /api/clients/{id}/autonomous-mode`.  The body is read before the question. -/
def postAutonomousMode (clientId : String) (body : Except String Bool) :
    Reply (List LanClient) :=
  requireManageClients context roster <|
    match body with
    | .error exception => badRequest roster ("Invalid autonomous-mode payload: " ++ exception)
    | .ok enabled =>
      enforceGovernance context clu .clientAutonomousModeChange clientId
        (if enabled then "enable" else "disable") roster <|
        editRoster env roster (setAutonomousMode clientId enabled) okOrNotFound

/-- `DELETE /api/clients/{id}`. -/
def deleteClient (clientId : String) : Reply (List LanClient) :=
  requireManageClients context roster <|
    if clientId = "" || clientId.toList.contains '/' then { answer := .notFound, state := roster }
    else
      enforceGovernance context clu .clientRevoke clientId "" roster <|
        editRoster env roster (removeClient clientId) okOrNotFound

def serveClients (route : ClientRoute) (body : ClientBody) : Reply (List LanClient) :=
  match route with
  | .upsert => postClient clu context env roster body.client
  | .disable clientId => postDisable clu context env roster clientId
  | .enable clientId => postEnable clu context env roster clientId
  | .privileges clientId => postPrivileges clu context env roster clientId body.privileges
  | .autonomousMode clientId => postAutonomousMode clu context env roster clientId body.enabled
  | .delete clientId => deleteClient clu context env roster clientId
  | .elsewhere => { answer := .elsewhere, state := roster }

end Routes

/-! ## Identity -/

/-- A request that names its client. -/
structure ClientRequest where
  method : String
  path : String
  /-- `X-MCOS-Client-Id`, trimmed. -/
  headerClientId : String
  named : headerClientId ≠ ""
  body : ClientBody := {}

def isMutatingMethod (method : String) : Bool :=
  method = "POST" || method = "PUT" || method = "PATCH" || method = "DELETE"

def stripQuery (path : String) : String := String.ofList (path.toList.takeWhile (· ≠ '?'))

/-- The capabilities that the routes of the roster require. -/
def requiredCapabilitiesForRoute (method path : String) : List String :=
  if !isMutatingMethod method then []
  else if stripQuery path = clientsPath || startsWith (stripQuery path) clientPathStart then
    [kCapabilityClientsManage]
  else []

def ClientRequest.route (request : ClientRequest) : ClientRoute :=
  ClientRoute.of request.method request.path

/-- A mutating request that is not identified is turned away; any other goes on without a
client. -/
def unidentified (request : ClientRequest) (roster : List LanClient)
    (errorMessage actor : String) : Reply (List LanClient) where
  answer :=
    if isMutatingMethod request.method then .identityFailure errorMessage actor else .elsewhere
  state := roster

def handleClientRequest (clu : CommandLogicUnit) (env : RosterEnvironment)
    (request : ClientRequest) (roster : List LanClient) : Reply (List LanClient) :=
  match getClient request.headerClientId roster with
  | none => unidentified request roster "Unknown LAN client identity." "anonymous"
  | some client =>
    if !client.enabled then
      unidentified request roster ("LAN client is disabled: " ++ client.clientId) client.clientId
    else
      let roster := touchClient env.timestampNowUtc client.clientId "" roster
      let context := clientContext client
      let required := requiredCapabilitiesForRoute request.method request.path
      if required.all (hasCapability context.capabilities) then
        serveClients clu context env roster request.route request.body
      else { answer := .capabilityMissing context.actor required, state := roster }

end Admin
end MasterControl
