import Mathlib.Data.Prod.Lex
import R2RPC.Gateway.AccessCalls
import R2RPC.Lists.Pages
import R2RPC.Rbac.Service

/-!
# The paginated lists

The eight lists with their filters and their orders.  All but one sort by a primary key, alone or
behind the time of creation; the list of request logs sorts by the time of creation only.

Main results:

- Structure {lit}`Tables`: the tables with their primary keys.
- Theorem {lit}`pages_partition`: the pages of seven lists have every matching row once, those of
  the request logs exactly when no two pages share a moment.

Current gaps:

- Columns that no filter and no order reads are left out of the tables of this module.
-/

namespace R2RPC
namespace Lists

open Metrics Rbac Paging

/-! ## Tables -/

/-- A row of `system_logs`, its time in microseconds. -/
structure SystemLogRow where
  id : Nat
  name : String
  actorUsername : String
  action : String
  subject : String
  targetType : String
  targetName : Option String
  status : String
  createdAt : Int
deriving DecidableEq, Repr

/-- A row of `access_tokens` or `device_tokens`. -/
structure TokenRow where
  id : TokenId
  name : String
  status : TokenStatus
  deletedAt : Option Timestamp
deriving DecidableEq, Repr

/-- The tables of the lists, every one with its primary key. -/
structure Tables where
  requestLogs : List RequestLogRow
  systemLogs : List SystemLogRow
  accessTokens : List TokenRow
  accessTokenProjects : List (TokenId × ProjectId)
  deviceTokens : List TokenRow
  deviceTokenProjects : List (TokenId × ProjectId)
  users : List UserRow
  roles : List RoleRow
  permissions : List PermissionRow
  rolePermissions : List (RoleId × PermissionId)
  projects : List Gateway.ProjectRow
  requestLogs_pkey : (requestLogs.map (·.id)).Nodup
  systemLogs_pkey : (systemLogs.map (·.id)).Nodup
  accessTokens_pkey : (accessTokens.map (·.id)).Nodup
  deviceTokens_pkey : (deviceTokens.map (·.id)).Nodup
  users_pkey : (users.map (·.id)).Nodup
  roles_pkey : (roles.map (·.id)).Nodup
  permissions_pkey : (permissions.map (·.id)).Nodup
  projects_pkey : (projects.map (·.id)).Nodup

/-! ## Logs -/

/-- `PayloadState`, as the column has it. -/
def payloadStateText : PayloadState → String
  | .pending => "pending"
  | .indexed => "indexed"
  | .failed => "failed"
  | .unavailable => "unavailable"

/-- `ListFilter`. -/
structure ListFilter where
  project : Option String
  action : Option String
  clientId : Option String
  clientRequestId : Option String
  accessTokenId : Option Int
  status : Option String
  payloadState : Option String
  minimumLatencyMs : Option Int
  maximumLatencyMs : Option Int
  start : Option Int
  finish : Option Int

/-- `buildListConditions` of the request logs. -/
def buildListConditions (filter : ListFilter) : Option (RequestLogRow → Bool) :=
  compactConditions [
    eqIf (fun row => some row.projectName) filter.project,
    eqIf (fun row => some row.actionName) filter.action,
    eqIf (·.clientId) filter.clientId,
    eqIf (·.clientRequestId) filter.clientRequestId,
    eqNumberIf (·.accessTokenId) filter.accessTokenId,
    eqIf (fun row => some row.status) filter.status,
    eqIf (fun row => some (payloadStateText row.payloadState)) filter.payloadState,
    numberFilter (fun value row => row.latencyMs.any fun latency => value ≤ latency)
      filter.minimumLatencyMs,
    numberFilter (fun value row => row.latencyMs.any fun latency => latency ≤ value)
      filter.maximumLatencyMs,
    timeFilter (fun value row => value ≤ row.createdAt) filter.start,
    timeFilter (fun value row => row.createdAt ≤ value) filter.finish]

/-- `RequestLogsService.list`: `orderBy(desc(requestLogs.createdAt))`. -/
def requestLogList (filter : ListFilter) : Listing RequestLogRow Intᵒᵈ where
  whereClause := buildListConditions filter
  orderBy row := OrderDual.toDual row.createdAt

structure QuerySystemLogsDto where
  name : Option String
  actorUsername : Option String
  action : Option String
  subject : Option String
  targetType : Option String
  targetName : Option String
  status : Option String
  start : Option Int
  finish : Option Int

/-- `SystemLogsService.list`: `orderBy(desc(systemLogs.createdAt), desc(systemLogs.id))`. -/
def systemLogList (query : QuerySystemLogsDto) : Listing SystemLogRow (Lex (Intᵒᵈ × Natᵒᵈ)) where
  whereClause := compactConditions [
    eqIf (fun row => some row.name) query.name,
    eqIf (fun row => some row.actorUsername) query.actorUsername,
    eqIf (fun row => some row.action) query.action,
    eqIf (fun row => some row.subject) query.subject,
    eqIf (fun row => some row.targetType) query.targetType,
    eqIf (·.targetName) query.targetName,
    eqIf (fun row => some row.status) query.status,
    gteIf (·.createdAt) query.start,
    lteIf (·.createdAt) query.finish]
  orderBy row := toLex (OrderDual.toDual row.createdAt, OrderDual.toDual row.id)

/-! ## Tokens -/

structure QueryTokensDto where
  id : Option Int
  name : Option String
  project : Option String
  status : Option TokenStatus

section

variable (fold : Char → List Char) (t : Tables)

/-- `hasProjectNameMatch`. -/
def hasProjectNameMatch (tokenProjects : List (TokenId × ProjectId)) (projectName : String)
    (row : TokenRow) : Bool :=
  tokenProjects.any fun link => link.1 == row.id &&
    t.projects.any fun project => !project.deleted && project.id == link.2 &&
      project.name == projectName

/-- `eqIf` of a status. -/
def statusIf : Option TokenStatus → Filter TokenRow
  | none => .absent
  | some status => .condition fun row => row.status = status

/-- `list` of either kind of token: `orderBy(desc(id))`. -/
def tokenList (tokenProjects : List (TokenId × ProjectId)) (query : QueryTokensDto) :
    Listing TokenRow Natᵒᵈ where
  whereClause := alive (·.deletedAt.isSome) [
    eqNumberIf (fun row => some row.id) query.id,
    likeIf fold (·.name) query.name,
    statusIf query.status,
    textFilter (hasProjectNameMatch t tokenProjects) query.project]
  orderBy row := OrderDual.toDual row.id

/-- `AccessTokenService.list`. -/
def accessTokenList (query : QueryTokensDto) : Listing TokenRow Natᵒᵈ :=
  tokenList fold t t.accessTokenProjects query

/-- `DeviceTokenService.list`. -/
def deviceTokenList (query : QueryTokensDto) : Listing TokenRow Natᵒᵈ :=
  tokenList fold t t.deviceTokenProjects query

/-! ## Accounts and permissions -/

structure QueryUsersDto where
  username : Option String
  role : Option String
  enabled : Option Bool

/-- `UsersService.list`: `orderBy(desc(users.id))`. -/
def userList (query : QueryUsersDto) : Listing UserRow Intᵒᵈ where
  whereClause := alive (·.deletedAt.isSome) [
    likeIf fold (·.username) query.username,
    likeIf fold (·.role) query.role,
    enabledIf (·.enabled) query.enabled]
  orderBy row := OrderDual.toDual row.id

structure QueryPermissionGroupsDto where
  name : Option String
  permission : Option String

/-- The `EXISTS` of `buildRoleConditions`. -/
def hasPermission (permission : String) (row : RoleRow) : Bool :=
  t.rolePermissions.any fun link => link.1 == row.id &&
    t.permissions.any fun other => other.deletedAt.isNone && other.id == link.2 &&
      permissionMatches fold other.action other.subject permission = some true

/-- `RbacService.listRoles`: `orderBy(roles.id)`. -/
def roleList (query : QueryPermissionGroupsDto) : Listing RoleRow Int where
  whereClause := alive (·.deletedAt.isSome) [
    likeIf fold (·.name) query.name,
    textFilter (hasPermission fold t) query.permission]
  orderBy row := row.id

structure QueryPermissionsDto where
  action : Option String
  subject : Option String

/-- `RbacService.listPermissions`: `orderBy(permissions.id)`. -/
def permissionList (query : QueryPermissionsDto) : Listing PermissionRow Int where
  whereClause := alive (·.deletedAt.isSome) [
    likeIf fold (·.action) query.action,
    likeIf fold (·.subject) query.subject]
  orderBy row := row.id

structure QueryProjectsDto where
  name : Option String
  enabled : Option Bool

/-- `ProjectsService.listPaged`: `orderBy(projects.id)`. -/
def projectList (query : QueryProjectsDto) : Listing Gateway.ProjectRow Nat where
  whereClause := alive (·.deleted) [
    likeIf fold (·.name) query.name,
    enabledIf (·.enabled) query.enabled]
  orderBy row := row.id

end

/-! ## Pages -/

/-- A list that sorts by the primary key, or by it behind something else. -/
theorem pagesPartition_of_pkey {ρ ι ω : Type} [LinearOrder ω] {list : Listing ρ ω}
    {table : List ρ} {id : ρ → ι} (hpkey : (table.map id).Nodup)
    (horder : ∀ row other, list.orderBy other = list.orderBy row → id other = id row) {size : Nat}
    (hsize : 1 ≤ size) (hlimit : size ≤ 100)
    (htotal : (list.matching table).length ≤ 1000000 * size) : list.PagesPartition table size :=
  list.pagesPartition_of_injective hpkey.of_map
    (fun row hrow other hother h =>
      List.inj_on_of_nodup_map hpkey hother hrow (horder row other h))
    hsize hlimit htotal

/-- Over all tables and filters, for pages of every size: seven lists have every matching row
once.  The request logs do exactly when the rows of every moment are on one page. -/
theorem pages_partition (fold : Char → List Char) (t : Tables) {size : Nat} (hsize : 1 ≤ size)
    (hlimit : size ≤ 100) :
    (∀ filter, ((requestLogList filter).matching t.requestLogs).length ≤ 1000000 * size →
      ((requestLogList filter).PagesPartition t.requestLogs size ↔
        Separated (fun row => OrderDual.toDual row.createdAt) size
          ((requestLogList filter).matching t.requestLogs))) ∧
    (∀ query, ((systemLogList query).matching t.systemLogs).length ≤ 1000000 * size →
      (systemLogList query).PagesPartition t.systemLogs size) ∧
    (∀ query, ((accessTokenList fold t query).matching t.accessTokens).length ≤ 1000000 * size →
      (accessTokenList fold t query).PagesPartition t.accessTokens size) ∧
    (∀ query, ((deviceTokenList fold t query).matching t.deviceTokens).length ≤ 1000000 * size →
      (deviceTokenList fold t query).PagesPartition t.deviceTokens size) ∧
    (∀ query, ((userList fold query).matching t.users).length ≤ 1000000 * size →
      (userList fold query).PagesPartition t.users size) ∧
    (∀ query, ((roleList fold t query).matching t.roles).length ≤ 1000000 * size →
      (roleList fold t query).PagesPartition t.roles size) ∧
    (∀ query, ((permissionList fold query).matching t.permissions).length ≤ 1000000 * size →
      (permissionList fold query).PagesPartition t.permissions size) ∧
    ∀ query, ((projectList fold query).matching t.projects).length ≤ 1000000 * size →
      (projectList fold query).PagesPartition t.projects size := by
  refine ⟨fun filter htotal => ?_, fun query htotal => ?_, fun query htotal => ?_,
    fun query htotal => ?_, fun query htotal => ?_, fun query htotal => ?_, fun query htotal => ?_,
    fun query htotal => ?_⟩
  · exact Listing.pagesPartition_iff t.requestLogs_pkey.of_map hsize hlimit htotal
  · refine pagesPartition_of_pkey t.systemLogs_pkey (fun row other h => ?_) hsize hlimit htotal
    exact OrderDual.toDual_inj.mp (Prod.mk.inj (toLex_inj.mp h)).2
  · exact pagesPartition_of_pkey t.accessTokens_pkey (fun _ _ => OrderDual.toDual_inj.mp) hsize
      hlimit htotal
  · exact pagesPartition_of_pkey t.deviceTokens_pkey (fun _ _ => OrderDual.toDual_inj.mp) hsize
      hlimit htotal
  · exact pagesPartition_of_pkey t.users_pkey (fun _ _ => OrderDual.toDual_inj.mp) hsize hlimit
      htotal
  · exact pagesPartition_of_pkey t.roles_pkey (fun _ _ h => h) hsize hlimit htotal
  · exact pagesPartition_of_pkey t.permissions_pkey (fun _ _ h => h) hsize hlimit htotal
  · exact pagesPartition_of_pkey t.projects_pkey (fun _ _ h => h) hsize hlimit htotal

/-- Two calls of one moment, in pages of one row. -/
def twinRow (id : Nat) : RequestLogRow :=
  ⟨id, id, "billing", "quote", none, none, none, none, "ok", none, none, none, .indexed,
    1772150400000, none⟩

def twinTables : Tables where
  requestLogs := [twinRow 1, twinRow 2]
  systemLogs := []
  accessTokens := []
  accessTokenProjects := []
  deviceTokens := []
  deviceTokenProjects := []
  users := []
  roles := []
  permissions := []
  rolePermissions := []
  projects := []
  requestLogs_pkey := by decide
  systemLogs_pkey := .nil
  accessTokens_pkey := .nil
  deviceTokens_pkey := .nil
  users_pkey := .nil
  roles_pkey := .nil
  permissions_pkey := .nil
  projects_pkey := .nil

def noFilter : ListFilter :=
  ⟨none, none, none, none, none, none, none, none, none, none, none⟩

theorem pages_partition_sample :
    (requestLogList noFilter).PagesPartition twinTables.requestLogs 2 :=
  ((pages_partition (fun c => [c]) twinTables (show 1 ≤ 2 by decide) (show 2 ≤ 100 by decide)).1
    noFilter (by decide)).mpr (by decide)

/-- One of the two rows may be on both pages. -/
theorem twinRows_not_partitioned :
    ¬ (requestLogList noFilter).PagesPartition twinTables.requestLogs 1 := by
  rw [Listing.pagesPartition_iff (by decide) (by decide) (by decide) (by decide)]
  decide

end Lists
end R2RPC
