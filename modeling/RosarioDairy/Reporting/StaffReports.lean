import RosarioDairy.Foundations.Memo
import RosarioDairy.Reporting.ReportTotals
import RosarioDairy.Sales.History

/-!
# StaffReports — `get_report`, the history views, and what staff learn from them

Reports and histories are answered from caches that identify an answer by the user it was made for.  To
a staff member they say nothing about the sales of others: whatever the rest of the database holds, and
whatever has been cached of it, the answers are functions of the member's `StaffView`.
-/

namespace RosarioDairy

open Foundations

/-! ## Reports -/

inductive ReportType
  | dailySales
  | weeklySales
  | monthlySales
  | inventory
  | sarimaForecast
  | customer
  deriving DecidableEq, Repr

/-- `REPORT_TYPES` -/
def ReportType.ofName? : String → Option ReportType
  | "daily_sales" => some .dailySales
  | "weekly_sales" => some .weeklySales
  | "monthly_sales" => some .monthlySales
  | "inventory" => some .inventory
  | "sarima_forecast" => some .sarimaForecast
  | "customer" => some .customer
  | _ => none

/-- The reports; the ones of the sales carry whether a range was chosen. -/
inductive Report (F G : Type)
  | dailySales (report : DailySales F) (isCustomRange : Bool)
  | weeklySales (report : WeeklySales F) (isCustomRange : Bool)
  | monthlySales (report : MonthlySales F) (isCustomRange : Bool)
  | customer (report : CustomerReport)
  | general (report : G)

/-- What a cached report is identified by. -/
structure ReportIdentity where
  dataVersion : String
  settingsVersion : String
  scope : Scope
  reportType : ReportType
  period : String
  startDate : Option Int
  endDate : Option Int
  timezone : String
  today : Int
  deriving DecidableEq, Repr

/-- The request of a report: everything but the data. -/
structure ReportRequest where
  reportType : String
  forceRefresh : Bool
  visibleToStaff : Bool
  period : String
  startDate : Option Int
  endDate : Option Int
  deriving DecidableEq, Repr

/-- Whether a report is scoped to its user: an identified user's role decides. -/
def ReportRequest.visibility (request : ReportRequest) (user : Option User) : Bool :=
  match user with
  | some user => decide (user.role = .staff)
  | none => request.visibleToStaff

theorem ReportRequest.visibility_staff (request : ReportRequest) (user : Nat) :
    request.visibility (some { pk := user, role := .staff }) = true := rfl

/-- What a call reads of its surroundings: versions, which may have been rotated by any call, the time
zone and the date, and whether the cache can be reached. -/
structure Surroundings where
  dataVersion : String
  settingsVersion : String
  reach : Memo.Reach
  deriving DecidableEq, Repr

section Reports

/- `zoneOf` is the table of time zones; `general` builds the inventory and the forecast report, which
only admins are given. -/
variable {F G : Type} (E : Engine) (rounded : ℚ → F) (casefold : String → String)
  (zoneOf : String → Zone) (general : Database → ReportIdentity → G)

/-- `REPORT_BUILDERS[report_type](…)` -/
def buildReport (db : Database) (id : ReportIdentity) : Except Error (Report F G) :=
  let zone := zoneOf id.timezone
  match id.reportType with
  | .dailySales =>
      .ok (.dailySales (dailySales E rounded zone db id.scope id.today id.startDate id.endDate)
        id.startDate.isSome)
  | .weeklySales =>
      .ok (.weeklySales (weeklySales E rounded zone db id.scope id.today id.startDate id.endDate)
        id.startDate.isSome)
  | .monthlySales =>
      .ok (.monthlySales (monthlySales E rounded zone db id.scope id.today id.startDate id.endDate)
        id.startDate.isSome)
  | .customer =>
      .ok (.customer (customerReport E zone casefold db id.scope id.today id.startDate id.endDate))
  | .inventory => .ok (.general (general db id))
  | .sarimaForecast => .ok (.general (general db id))

/-- A cache of reports, as calls on the present data leave it. -/
abbrev ReportCache (db : Database) : Type :=
  Memo (buildReport E rounded casefold zoneOf general db)

variable {E rounded casefold zoneOf general}

/-- `get_report` -/
def getReport (db : Database) (cache : ReportCache E rounded casefold zoneOf general db)
    (surroundings : Surroundings) (timezone : String) (today : Int) (request : ReportRequest)
    (user : Option User) :
    Except Error (Report F G) × ReportCache E rounded casefold zoneOf general db :=
  match ReportType.ofName? request.reportType with
  | none => (.error (.valueError ("Unsupported report type: " ++ request.reportType)), cache)
  | some reportType =>
      if request.visibility user && user.isNone then
        (.error (.permissionDenied "Staff reports require an authenticated staff identity."), cache)
      else if request.visibility user && (decide (reportType = .sarimaForecast)
          || decide (reportType = .inventory)) then
        (.error (.permissionDenied
          "Global forecasts and inventory movement reports require an admin account."), cache)
      else
        cache.serve
          { surroundings.reach with reads := surroundings.reach.reads && !request.forceRefresh }
          { dataVersion := surroundings.dataVersion
            settingsVersion := surroundings.settingsVersion
            scope :=
              { visibleToStaff := request.visibility user
                staffUserId := if request.visibility user then user.map User.pk else none }
            reportType := reportType
            period := request.period
            startDate := request.startDate
            endDate := request.endDate
            timezone := timezone
            today := today }

end Reports

/-! ## Histories -/

inductive HistoryEndpoint
  | list
  | summary
  deriving DecidableEq, Repr

/-- What a cached history is identified by; resource, endpoint and query string make up the URI. -/
structure HistoryIdentity where
  dataVersion : String
  user : User
  resource : HistoryResource
  endpoint : HistoryEndpoint
  query : QueryDict
  timezone : String
  today : Int
  deriving DecidableEq, Repr

inductive HistoryAnswer
  | list (sales : List Transaction)
  | summary (totals : TransactionSummary)

section Histories

variable (E : Engine) (tables : CharTables) (zoneOf : String → Zone)

def historyAnswer (db : Database) (id : HistoryIdentity) :
    Except HistoryFilterError HistoryAnswer :=
  let zone := zoneOf id.timezone
  match id.endpoint with
  | .list => (historyList E tables zone db id.resource id.user id.query).map .list
  | .summary => (historySummary E tables zone db id.resource id.user id.query).map .summary

variable {E tables zoneOf}

/-- A history view under `cache_api_response`; a response with an error is not cached. -/
def getHistory (db : Database) (cache : Memo (historyAnswer E tables zoneOf db))
    (reach : Memo.Reach) (id : HistoryIdentity) :
    Except HistoryFilterError HistoryAnswer × Memo (historyAnswer E tables zoneOf db) :=
  cache.serve reach id

end Histories

/-! ## Answers to staff -/

/-- The identity under which a staff member's report is cached. -/
def staffReportIdentity (user : Nat) (reportType : ReportType) (surroundings : Surroundings)
    (timezone : String) (today : Int) (request : ReportRequest) : ReportIdentity :=
  { dataVersion := surroundings.dataVersion
    settingsVersion := surroundings.settingsVersion
    scope := Scope.staff user
    reportType := reportType
    period := request.period
    startDate := request.startDate
    endDate := request.endDate
    timezone := timezone
    today := today }

/-- The identity under which a staff member's history is cached. -/
def staffHistoryIdentity (user : Nat) (version : String) (resource : HistoryResource)
    (endpoint : HistoryEndpoint) (query : QueryDict) (timezone : String) (today : Int) :
    HistoryIdentity :=
  { dataVersion := version
    user :=
      { pk := user
        role := .staff }
    resource := resource
    endpoint := endpoint
    query := query
    timezone := timezone
    today := today }

section Answers

variable {F G : Type} {E : Engine} {rounded : ℚ → F} {casefold : String → String}
  {zoneOf : String → Zone} {general : Database → ReportIdentity → G}

/-- A staff member's sales report is the one built in the member's own scope, cached or not. -/
theorem getReport_staff {db : Database} {cache : ReportCache E rounded casefold zoneOf general db}
    {surroundings : Surroundings} {timezone : String} {today : Int} {request : ReportRequest}
    {user : Nat} {reportType : ReportType}
    (htype : ReportType.ofName? request.reportType = some reportType)
    (hforecast : reportType ≠ .sarimaForecast) (hinventory : reportType ≠ .inventory) :
    (getReport db cache surroundings timezone today request
        (some { pk := user, role := .staff })).1 =
      buildReport E rounded casefold zoneOf general db
        (staffReportIdentity user reportType surroundings timezone today request) := by
  have hallowed : (true && (decide (reportType = .sarimaForecast)
      || decide (reportType = .inventory))) = false := by simp [hforecast, hinventory]
  unfold getReport
  rw [htype]
  simp only [request.visibility_staff, Option.isNone_some, Bool.and_false, Bool.false_eq_true, if_false,
    hallowed, if_true, Option.map_some]
  exact Memo.serve_fst cache _ _

end Answers

/-! ## Functions of the view -/

section SameView

variable {F G : Type} {E : Engine} {rounded : ℚ → F} {casefold : String → String}
  {zoneOf : String → Zone} {general : Database → ReportIdentity → G} {tables : CharTables}
  {zone : Zone} {user : Nat} {db db' : Database}

theorem salesSummary_eq (hview : staffView user db = staffView user db') (startDate endDate : Int) :
    salesSummary zone db (Scope.staff user) startDate endDate =
      salesSummary zone db' (Scope.staff user) startDate endDate := by
  rw [salesSummary, salesSummary, visibleTransactions_eq hview]

theorem periodItems_eq (hview : staffView user db = staffView user db') (startDate endDate : Int) :
    periodItems zone db (Scope.staff user) startDate endDate =
      periodItems zone db' (Scope.staff user) startDate endDate :=
  visibleLines_eq hview _

theorem salesDrivers_eq (hview : staffView user db = staffView user db') (startDate endDate : Int) :
    salesDrivers E zone db (Scope.staff user) startDate endDate =
      salesDrivers E zone db' (Scope.staff user) startDate endDate := by
  rw [salesDrivers, salesDrivers, visibleTransactions_eq hview, periodItems_eq hview]

theorem topProducts_eq (hview : staffView user db = staffView user db') (startDate endDate : Int) :
    topProducts E zone db (Scope.staff user) startDate endDate =
      topProducts E zone db' (Scope.staff user) startDate endDate := by
  rw [topProducts, topProducts, periodItems_eq hview]

theorem dailySalesBreakdown_eq (hview : staffView user db = staffView user db')
    (startDate endDate : Int) :
    dailySalesBreakdown E zone db (Scope.staff user) startDate endDate =
      dailySalesBreakdown E zone db' (Scope.staff user) startDate endDate := by
  rw [dailySalesBreakdown, dailySalesBreakdown, visibleTransactions_eq hview]

theorem salesReport_eq (hview : staffView user db = staffView user db')
    (startDate endDate previousStart previousEnd : Int) :
    salesReport E rounded zone db (Scope.staff user) startDate endDate previousStart previousEnd =
      salesReport E rounded zone db' (Scope.staff user) startDate endDate previousStart
        previousEnd := by
  rw [salesReport, salesReport, salesSummary_eq hview, salesSummary_eq hview, salesDrivers_eq hview]

theorem dailySales_eq (hview : staffView user db = staffView user db') (today : Int)
    (startDate endDate : Option Int) :
    dailySales E rounded zone db (Scope.staff user) today startDate endDate =
      dailySales E rounded zone db' (Scope.staff user) today startDate endDate := by
  simp only [dailySales, salesReport_eq hview, visibleLines_eq hview]

theorem weeklySales_eq (hview : staffView user db = staffView user db') (today : Int)
    (startDate endDate : Option Int) :
    weeklySales E rounded zone db (Scope.staff user) today startDate endDate =
      weeklySales E rounded zone db' (Scope.staff user) today startDate endDate := by
  simp only [weeklySales, salesReport_eq hview, dailySalesBreakdown_eq hview, topProducts_eq hview]

theorem weekTotal_eq (hview : staffView user db = staffView user db') (startDate endDate : Int) :
    weekTotal zone db (Scope.staff user) startDate endDate =
      weekTotal zone db' (Scope.staff user) startDate endDate := by
  funext monday
  rw [weekTotal, weekTotal, salesSummary_eq hview]

theorem monthlySales_eq (hview : staffView user db = staffView user db') (today : Int)
    (startDate endDate : Option Int) :
    monthlySales E rounded zone db (Scope.staff user) today startDate endDate =
      monthlySales E rounded zone db' (Scope.staff user) today startDate endDate := by
  simp only [monthlySales, salesReport_eq hview, weekTotal_eq hview, topProducts_eq hview]

theorem customerReport_eq (hview : staffView user db = staffView user db') (today : Int)
    (startDate endDate : Option Int) :
    customerReport E zone casefold db (Scope.staff user) today startDate endDate =
      customerReport E zone casefold db' (Scope.staff user) today startDate endDate := by
  have hcustomers : db.customers = db'.customers := congrArg StaffView.customers hview
  simp only [customerReport, visibleTransactions_eq hview, hcustomers]

/-- The versions only name a cached report; they do not enter it. -/
theorem buildReport_versions {reportType : ReportType} {surroundings surroundings' : Surroundings}
    {timezone : String} {today : Int} {request : ReportRequest} (hinventory : reportType ≠ .inventory)
    (hforecast : reportType ≠ .sarimaForecast) :
    buildReport E rounded casefold zoneOf general db
        (staffReportIdentity user reportType surroundings timezone today request) =
      buildReport E rounded casefold zoneOf general db
        (staffReportIdentity user reportType surroundings' timezone today request) := by
  cases reportType with
  | dailySales => rfl
  | weeklySales => rfl
  | monthlySales => rfl
  | customer => rfl
  | inventory => exact absurd rfl hinventory
  | sarimaForecast => exact absurd rfl hforecast

/-- Every report that a staff member can be given is a function of the member's view. -/
theorem buildReport_eq (hview : staffView user db = staffView user db') {id : ReportIdentity}
    (hscope : id.scope = Scope.staff user) (hinventory : id.reportType ≠ .inventory)
    (hforecast : id.reportType ≠ .sarimaForecast) :
    buildReport E rounded casefold zoneOf general db id =
      buildReport E rounded casefold zoneOf general db' id := by
  unfold buildReport
  cases htype : id.reportType with
  | dailySales => simp only [hscope, dailySales_eq hview]
  | weeklySales => simp only [hscope, weeklySales_eq hview]
  | monthlySales => simp only [hscope, monthlySales_eq hview]
  | customer => simp only [hscope, customerReport_eq hview]
  | inventory => exact absurd htype hinventory
  | sarimaForecast => exact absurd htype hforecast

theorem accepts_eq (hview : staffView user db = staffView user db') (filter : HistoryFilter) :
    filter.accepts E zone db = filter.accepts E zone db' := by
  have hcustomers : db.customers = db'.customers := congrArg StaffView.customers hview
  have husers : db.users = db'.users := congrArg StaffView.users hview
  funext txn
  simp only [HistoryFilter.accepts, matchesSearch, customerNameOf, handlerName, hcustomers, husers]

theorem filterHistory_eq (hview : staffView user db = staffView user db')
    (queryset : List Transaction) (params : QueryDict) :
    filterHistory E tables zone db queryset params =
      filterHistory E tables zone db' queryset params := by
  simp only [filterHistory, accepts_eq hview]

theorem orderHistory_eq (hview : staffView user db = staffView user db')
    (queryset : List Transaction) (params : QueryDict) :
    orderHistory E db queryset params = orderHistory E db' queryset params := by
  have hcustomers : db.customers = db'.customers := congrArg StaffView.customers hview
  have husers : db.users = db'.users := congrArg StaffView.users hview
  simp only [orderHistory, orderByField, customerNameOf, handlerName, hcustomers, husers]

theorem historyQueryset_eq (hview : staffView user db = staffView user db')
    (resource : HistoryResource) :
    historyQueryset db resource
        { pk := user
          role := .staff } =
      historyQueryset db' resource
        { pk := user
          role := .staff } := by
  have hvisible := visibleTransactions_eq hview
  simp only [Scope.staff] at hvisible
  simp only [historyQueryset, decide_true, hvisible]

/-- Both histories of a staff member are functions of the member's view. -/
theorem historyAnswer_eq (hview : staffView user db = staffView user db') {id : HistoryIdentity}
    (huser : id.user = { pk := user, role := .staff }) :
    historyAnswer E tables zoneOf db id = historyAnswer E tables zoneOf db' id := by
  simp only [historyAnswer, historyList, historySummary, huser, historyQueryset_eq hview,
    filterHistory_eq hview, orderHistory_eq hview]

end SameView

/-! ## Noninterference -/

section Noninterference

variable {F G : Type} (E : Engine) (rounded : ℚ → F) (casefold : String → String)
  (zoneOf : String → Zone) (general : Database → ReportIdentity → G) (tables : CharTables)

/-- No report and no history, under any parameters, tells a staff member apart two databases with the
same view: they may differ in all other sales and items and in what has been cached, and the calls in
their surroundings. -/
structure StaffNoninterference (user : Nat) (db db' : Database) : Prop where
  reports : ∀ (cache : ReportCache E rounded casefold zoneOf general db)
    (cache' : ReportCache E rounded casefold zoneOf general db')
    (surroundings surroundings' : Surroundings) (timezone : String) (today : Int)
    (request : ReportRequest),
    (getReport db cache surroundings timezone today request
        (some { pk := user, role := .staff })).1 =
      (getReport db' cache' surroundings' timezone today request
        (some { pk := user, role := .staff })).1
  histories : ∀ (cache : Memo (historyAnswer E tables zoneOf db))
    (cache' : Memo (historyAnswer E tables zoneOf db')) (reach reach' : Memo.Reach)
    (version version' timezone : String) (today : Int) (resource : HistoryResource)
    (endpoint : HistoryEndpoint) (query : QueryDict),
    (getHistory db cache reach
        (staffHistoryIdentity user version resource endpoint query timezone today)).1 =
      (getHistory db' cache' reach'
        (staffHistoryIdentity user version' resource endpoint query timezone today)).1

/-- Staff learn nothing of the database beyond their view. -/
def StaffSeeOnlyTheirView : Prop :=
  ∀ (user : Nat) (db db' : Database), staffView user db = staffView user db' →
    StaffNoninterference E rounded casefold zoneOf general tables user db db'

theorem staff_noninterference :
    StaffSeeOnlyTheirView E rounded casefold zoneOf general tables := by
  intro user db db' hview
  refine
    { reports := ?_
      histories := ?_ }
  · intro cache cache' surroundings surroundings' timezone today request
    cases htype : ReportType.ofName? request.reportType with
    | none => simp only [getReport, htype]
    | some reportType =>
        by_cases hdenied : reportType = .sarimaForecast ∨ reportType = .inventory
        · rcases hdenied with rfl | rfl
          · simp [getReport, htype, ReportRequest.visibility_staff]
          · simp [getReport, htype, ReportRequest.visibility_staff]
        · have hforecast : reportType ≠ .sarimaForecast := fun h => hdenied (Or.inl h)
          have hinventory : reportType ≠ .inventory := fun h => hdenied (Or.inr h)
          rw [getReport_staff htype hforecast hinventory, getReport_staff htype hforecast hinventory,
            buildReport_eq hview rfl hinventory hforecast]
          exact buildReport_versions hinventory hforecast
  · intro cache cache' reach reach' version version' timezone today resource endpoint query
    rw [getHistory, getHistory, Memo.serve_fst, Memo.serve_fst, historyAnswer_eq hview rfl]
    rfl

end Noninterference

/-! ## Two databases with one view -/

/-- The items of the member's own sales. -/
def ownItems (user : Nat) (db : Database) : List TransactionItem :=
  db.items.rows.filter fun item =>
    (visibleTransactions db (Scope.staff user)).any fun txn => decide (item.transaction = txn.pk)

/-- The rows that a view is made of, compared one table after the other. -/
theorem staffView_eq {user : Nat} {db db' : Database} (husers : db.users = db'.users)
    (hcustomers : db.customers = db'.customers)
    (hcategories : db.store.categories = db'.store.categories)
    (hproducts : db.store.products = db'.store.products)
    (hbatches : db.store.batches.rows.map (fun batch => (batch.pk, batch.product)) =
      db'.store.batches.rows.map fun batch => (batch.pk, batch.product))
    (hsales : visibleTransactions db (Scope.staff user) =
      visibleTransactions db' (Scope.staff user))
    (hitems : ownItems user db = ownItems user db') : staffView user db = staffView user db' := by
  -- of a batch the view knows the product only
  have hproduct (db : Database) (k : Nat) :
      (db.store.batches.find k).map ProductBatch.product =
        ((db.store.batches.rows.map fun batch => (batch.pk, batch.product)).find? fun row =>
          decide (row.1 = k)).map Prod.snd := by
    rw [List.find?_map, Option.map_map]
    rfl
  have hown (db : Database) : { txn | OwnSale db user txn } =
      { txn | txn ∈ visibleTransactions db (Scope.staff user) } := by
    ext txn
    exact mem_visibleTransactions_staff.symm
  have hlines (db : Database) : { item | item ∈ db.items.rows ∧
      ∃ txn, OwnSale db user txn ∧ item.transaction = txn.pk } =
        { item | item ∈ ownItems user db } := by
    ext item
    simp [ownItems, mem_visibleTransactions_staff]
  simp only [staffView, husers, hcustomers, hcategories, hproducts, hproduct, hbatches, hown, hsales,
    hlines, hitems]

/-- A member sells so many milks on day 2. -/
def soldBy (user : Nat) (quantity : Int) : Call :=
  { now := 172800
    op := .checkout
      { items := [.priced 1 (.ofAmount quantity) (.ofAmount 150)]
        staffUser := { pk := user, role := .staff }
        paymentMethod := "online" } }

/-- Member 1 sells three milks; if `busy`, member 2 sells the other seven. -/
def counter (busy : Bool) : Database :=
  { store := replay (Deployment.plain fun _ => "")
      (Store.empty (receivedOnDayOne false).categories milkAndYogurt)
      (receivedUnits 1 1000 :: soldBy 1 300 :: if busy then [soldBy 2 700] else [])
    users := Table.empty
    customers := Table.empty }

-- what member 2 sells is in the store and in the reports of an admin, and nothing of it in the view of
-- member 1
example : staffView 1 (counter true) = staffView 1 (counter false) ∧
    (salesSummary Zone.fixed (counter true) (Scope.staff 1) 1 40).1 = 450 ∧
    (salesSummary Zone.fixed (counter true) Scope.everything 1 40).1 = 1500 ∧
    (salesSummary Zone.fixed (counter false) Scope.everything 1 40).1 = 450 :=
  ⟨staffView_eq rfl rfl rfl rfl (by decide +kernel)
    (by decide +kernel) (by decide +kernel), by decide +kernel, by decide +kernel, by decide +kernel⟩

end RosarioDairy
