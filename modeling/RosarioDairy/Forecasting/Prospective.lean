import Mathlib.Data.List.Sort
import Mathlib.Logic.Embedding.Basic
import RosarioDairy.Foundations.Checked
import RosarioDairy.Foundations.Table
import RosarioDairy.Forecasting.Learning

/-!
# Prospective — predictions saved in advance, reviewed outcomes and their scores

Provisional chart predictions are issued before their period starts.  A period's outcome is reviewed
by its exact rows, and an issue is scored against reviewed outcomes only; the report counts a score as
long as the rows are still the reviewed ones.  The digests of rows and of reviews are injective.
-/

namespace RosarioDairy
namespace Forecasting

open Foundations

/-! ## Periods -/

inductive Period
  | weekly
  | monthly
  | yearly
  deriving DecidableEq, Repr

def periods : List Period := [.weekly, .monthly, .yearly]

inductive View
  | regular
  | feeding
  | combined
  deriving DecidableEq, Repr

def views : List View := [.regular, .feeding, .combined]

/-- The segments a view is made of. -/
def View.segments : View → List Segment
  | .regular => [.regular]
  | .feeding => [.feeding]
  | .combined => [.regular, .feeding]

/-- `date.weekday()`, Monday being 0. -/
def weekday (day : Int) : Int := (day + 6) % 7

/-- The first date of the period a day lies in. -/
def boundary (day : Int) : Period → Int
  | .weekly => day - weekday day
  | .monthly => monthStart day
  | .yearly =>
      Day.ofYmd
        { year := Day.year day
          month := 1
          day := 1 }

/-- The date after a period. -/
def periodEnd (target : Int) : Period → Int
  | .weekly => target + 7
  | .monthly => shiftMonth target 1
  | .yearly => shiftMonth target 12

/-! ## Rows -/

/-- A point of a projection, with its values in centavos as they are saved. -/
structure ProjectedPoint where
  date : Int
  predicted : Int
  lowerBound : Int
  upperBound : Int
  basis : String
  intervalBasis : String
  deriving DecidableEq, Repr

/-- The findings of a provisional run without their own digest. -/
structure ProjectionFindings (D : Type) where
  targets : Period → List Int
  sourceRevisions : D × D
  points : Period → View → List ProjectedPoint

structure ProvisionalForecastRun (D : Type) where
  pk : Nat
  engineVersion : String
  sourceRevision : D
  findings : ProjectionFindings D
  artifactDigest : Option D
  createdAt : Int

structure IssueEvidence (D : Type) where
  artifactDigest : Option D
  sourceRevisions : D × D
  basis : String
  intervalBasis : String
  deriving DecidableEq, Repr

structure ProjectionIssue (D : Type) where
  pk : Nat
  run : Nat
  engineVersion : String
  period : Period
  view : View
  origin : Int
  target : Int
  horizon : Nat
  value : Int
  lowerBound : Int
  upperBound : Int
  baselineValue : Option Int
  evidence : IssueEvidence D
  issuedAt : Int
  deriving DecidableEq, Repr

structure ProjectionCoverage (D : Type) where
  pk : Nat
  period : Period
  segment : Segment
  target : Int
  actualRevision : D
  confirmedZero : Bool
  reviewedBy : Nat
  note : String
  deriving DecidableEq, Repr

structure ProjectionScore (D : Type) where
  pk : Nat
  issued : Nat
  actualRevision : D
  actual : Int
  error : Int
  absoluteError : Int
  baselineAbsoluteError : Option Int
  withinBounds : Bool
  deriving DecidableEq, Repr

instance (D : Type) : Row (ProvisionalForecastRun D) := ⟨ProvisionalForecastRun.pk⟩
instance (D : Type) : Row (ProjectionIssue D) := ⟨ProjectionIssue.pk⟩
instance (D : Type) : Row (ProjectionCoverage D) := ⟨ProjectionCoverage.pk⟩
instance (D : Type) : Row (ProjectionScore D) := ⟨ProjectionScore.pk⟩

/-- The tables of the prospective evidence, the recorded sales, the active administrators by user
name, what the primary fits contribute to the current inputs, and the clock. -/
structure Observatory (D : Type) where
  runs : Table (ProvisionalForecastRun D)
  issues : Table (ProjectionIssue D)
  coverage : Table (ProjectionCoverage D)
  scores : Table (ProjectionScore D)
  ledger : List LedgerSale
  administrators : String → Option Nat
  primary : D
  now : Int

inductive ProspectiveError
  | invalidTarget
  | invalidReview
  | notCompleted
  | doesNotExist
  | unresolved
  | unobserved
  | futureDate
  | corruptedArtifact
  | staleInputs
  | pastTarget
  | dateChanged
  | integrityError
  deriving DecidableEq, Repr

/-- The source of snapshots, the engine version of current runs, the digests, and the value of a
decimal that has been through a floating-point number. -/
structure Ledgers (D : Type) where
  source : Source D
  version : String
  rowsDigest : List RecordedSale ↪ D
  reviewsDigest : List (Segment × D × Nat) ↪ D
  contextDigest : D × D → (Period → List Int) → D → D
  findingsDigest : ProjectionFindings D → D
  throughFloat : Int → Int

section Prospective

variable {D : Type} [DecidableEq D] (L : Ledgers D)

def businessDay (t : Int) : Int := L.source.zone.localDate t

/-! ## Outcomes -/

/-- The rows of a period that count for a segment or are not classified. -/
def periodRows (snapshot : SalesSnapshot D) (period : Period) (target : Int) (segment : Segment) :
    List RecordedSale :=
  snapshot.sales.filter fun sale =>
    decide (target ≤ sale.day) && decide (sale.day < periodEnd target period)
      && (decide (sale.segment = segment) || decide (sale.segment = .unclassified))

/-- The rows in the order of their ids. -/
def sortedRows (rows : List RecordedSale) : List RecordedSale :=
  rows.insertionSort fun sale sale' => sale.id ≤ sale'.id

/-- The revenue of one segment. -/
def segmentTotal (rows : List RecordedSale) (segment : Segment) : Int :=
  ((rows.filter fun sale => decide (sale.segment = segment)).map RecordedSale.revenue).sum

structure Outcome (D : Type) where
  revision : D
  actual : Int
  isEmpty : Bool
  unresolved : Bool
  deriving DecidableEq, Repr

def outcome (snapshot : SalesSnapshot D) (period : Period) (target : Int) (segment : Segment) :
    Outcome D :=
  let rows := periodRows snapshot period target segment
  { revision := L.rowsDigest (sortedRows rows)
    actual := segmentTotal rows segment
    isEmpty := (rows.filter fun sale => decide (sale.segment = segment)).isEmpty
    unresolved := rows.any fun sale =>
      decide (sale.segment = .unclassified) && decide (sale.revenue ≠ 0) }

/-- What `attest` is called with. -/
structure Attestation where
  period : Period
  segment : Segment
  target : Int
  username : String
  note : String
  confirmZero : Bool
  deriving DecidableEq, Repr

/-- `attest`; `today` has been read before the lock is taken. -/
def attest (o : Observatory D) (today : Int) (a : Attestation) :
    Except ProspectiveError (Table (ProjectionCoverage D)) := do
  require (boundary a.target a.period = a.target) .invalidTarget
  require (a.segment ≠ .unclassified ∧ strip a.note ≠ "") .invalidReview
  require (periodEnd a.target a.period ≤ today) .notCompleted
  let reviewer ← demand (o.administrators a.username) .doesNotExist
  let result := outcome L (loadSnapshot L.source o.ledger today) a.period a.target a.segment
  require (result.unresolved = false) .unresolved
  require (result.isEmpty = true → a.confirmZero = true) .unobserved
  if o.coverage.rows.any (fun review => decide (review.period = a.period)
      && decide (review.segment = a.segment) && decide (review.target = a.target)
      && decide (review.actualRevision = result.revision)) then
    pure o.coverage
  else
    pure (o.coverage.create fun pk =>
      { pk := pk
        period := a.period
        segment := a.segment
        target := a.target
        actualRevision := result.revision
        confirmedZero := result.isEmpty
        reviewedBy := reviewer
        note := strip a.note })

/-! ## Issuing -/

/-- `context`: the weekly and the monthly snapshot and the targets of each period. -/
def currentTargets (today : Int) : Period → List Int
  | .weekly => (List.range 13).map fun n : Nat => boundary today .weekly + 7 * (n + 1)
  | .monthly => (List.range 12).map fun n : Nat => shiftMonth (monthStart today) (n + 1)
  | .yearly => [1, 2].map fun n =>
      Day.ofYmd
        { year := Day.year today + n
          month := 1
          day := 1 }

/-- The total of the latest period in which a segment has been sold. -/
def lastObserved (snapshot : SalesSnapshot D) (segment : Segment) (period : Period) : Option Int :=
  let sales := snapshot.sales.filter fun sale => decide (sale.segment = segment)
  (sales.map fun sale => boundary sale.day period).max?.map fun latest =>
    ((sales.filter fun sale => decide (boundary sale.day period = latest)).map
      RecordedSale.revenue).sum

def sumOptions (values : List (Option Int)) : Option Int :=
  values.foldr (fun value sum => value.bind fun value => sum.map fun sum => value + sum) (some 0)

/-- `baseline` -/
def baselineOf (weekly monthly : SalesSnapshot D) (view : View) (period : Period) : Option Int :=
  sumOptions (view.segments.map fun segment =>
    match period with
    | .weekly => (lastObserved weekly segment .weekly).map L.throughFloat
    | .monthly => (lastObserved monthly segment .monthly).map L.throughFloat
    | .yearly => (lastObserved monthly segment .monthly).map fun total => L.throughFloat total * 12)

/-- One saved prediction of the loop: the clock it is saved at, and what it is about. -/
structure IssueRequest (D : Type) where
  savedAt : Nat → Int
  run : ProvisionalForecastRun D
  period : Period
  view : View
  origin : Int
  reference : Option Int

/-- `ProjectionIssue.objects.get_or_create`, under the check constraint of the table. -/
def issuePoint (request : IssueRequest D) (horizon : Nat) (point : ProjectedPoint)
    (issues : Table (ProjectionIssue D)) : Except ProspectiveError (Table (ProjectionIssue D)) :=
  if issues.rows.any (fun issue => decide (issue.engineVersion = request.run.engineVersion)
      && decide (issue.period = request.period) && decide (issue.view = request.view)
      && decide (issue.origin = request.origin) && decide (issue.target = point.date)) then
    pure issues
  else do
    require (0 ≤ point.predicted ∧ 0 ≤ point.lowerBound ∧ point.lowerBound ≤ point.predicted
      ∧ point.predicted ≤ point.upperBound ∧ request.origin < point.date ∧ 1 ≤ horizon)
      .integrityError
    pure (issues.create fun pk =>
      { pk := pk
        run := request.run.pk
        engineVersion := request.run.engineVersion
        period := request.period
        view := request.view
        origin := request.origin
        target := point.date
        horizon := horizon
        value := point.predicted
        lowerBound := point.lowerBound
        upperBound := point.upperBound
        baselineValue := request.reference
        evidence :=
          { artifactDigest := request.run.artifactDigest
            sourceRevisions := request.run.findings.sourceRevisions
            basis := point.basis
            intervalBasis := point.intervalBasis }
        issuedAt := request.savedAt pk })

/-- The innermost loop of `issue_current`, over the points and their horizons. -/
def issuePoints (today : Int) (request : IssueRequest D) (targets : List Int) :
    Nat → List ProjectedPoint → Table (ProjectionIssue D) →
      Except ProspectiveError (Table (ProjectionIssue D))
  | _, [], issues => pure issues
  | horizon, point :: rest, issues => do
      require (boundary point.date request.period = point.date) .invalidTarget
      require (today < point.date ∧ point.date ∈ targets) .pastTarget
      let issues ← issuePoint request horizon point issues
      issuePoints today request targets (horizon + 1) rest issues

/-- The loops over periods and views. -/
def issueViews (today : Int) (requests : List (IssueRequest D)) (targets : Period → List Int)
    (issues : Table (ProjectionIssue D)) : Except ProspectiveError (Table (ProjectionIssue D)) :=
  requests.foldlM (fun issues request =>
    issuePoints today request (targets request.period) 1
      (request.run.findings.points request.period request.view) issues) issues

/-- The clock readings of a call: `timezone.now()` at its start, at each save, and at its end. -/
structure Readings where
  start : Int
  savedAt : Nat → Int
  finish : Int

/-- `issue_current` -/
def issueCurrent (o : Observatory D) (readings : Readings) :
    Except ProspectiveError (Table (ProjectionIssue D)) := do
  let today := businessDay L readings.start
  require (today ≤ businessDay L o.now) .futureDate
  let weekly := loadSnapshot L.source o.ledger (boundary today .weekly)
  let monthly := loadSnapshot L.source o.ledger (boundary today .monthly)
  let sources := (weekly.revision, monthly.revision)
  let targets := currentTargets today
  match o.runs.rows.find? (fun run => decide (run.engineVersion = L.version)
      && decide (run.sourceRevision = L.contextDigest sources targets o.primary)) with
  | none => pure o.issues
  | some run => do
      require (run.artifactDigest = some (L.findingsDigest run.findings)
        ∧ run.createdAt ≤ readings.start) .corruptedArtifact
      require ((∀ period ∈ periods, run.findings.targets period = targets period)
        ∧ run.findings.sourceRevisions = sources) .staleInputs
      let requests := periods.flatMap fun period => views.map fun view =>
        { savedAt := readings.savedAt
          run := run
          period := period
          view := view
          origin := boundary today period
          reference := baselineOf L weekly monthly view period }
      let issues ← issueViews today requests targets o.issues
      require (businessDay L readings.finish = today) .dateChanged
      pure issues

/-! ## Scoring -/

/-- The review of exactly these rows, `coverage.get((period, segment, target, revision))`. -/
def reviewOf (coverage : Table (ProjectionCoverage D)) (period : Period) (segment : Segment)
    (target : Int) (revision : D) : Option (ProjectionCoverage D) :=
  coverage.newest fun review => decide (review.period = period)
    && decide (review.segment = segment) && decide (review.target = target)
    && decide (review.actualRevision = revision)

/-- One segment of `reviewed_outcome`: its outcome and the review it has. -/
def reviewedSegment (o : Observatory D) (snapshot : SalesSnapshot D) (issued : ProjectionIssue D)
    (segment : Segment) : Option (Segment × Outcome D × Nat) :=
  let result := outcome L snapshot issued.period issued.target segment
  match reviewOf o.coverage issued.period segment issued.target result.revision with
  | none => none
  | some review =>
      if result.unresolved = true ∨ (result.isEmpty = true ∧ review.confirmedZero = false) then none
      else some (segment, result, review.pk)

/-- The issue was saved before its target started, in the bucket of its origin. -/
def savedInAdvance (o : Observatory D) (issued : ProjectionIssue D) : Bool :=
  let issuedDay := businessDay L issued.issuedAt
  decide (issuedDay < issued.target) && decide (boundary issuedDay issued.period = issued.origin)
    && (o.runs.find issued.run).any fun run => decide (run.createdAt ≤ issued.issuedAt)

/-- `reviewed_outcome`: the actual amount and the digest of the reviews it rests on. -/
def reviewedOutcome (o : Observatory D) (snapshot : SalesSnapshot D)
    (issued : ProjectionIssue D) : Option (Int × D) :=
  if snapshot.asOf < periodEnd issued.target issued.period then none
  else if savedInAdvance L o issued = false then none
  else
    (issued.view.segments.mapM (reviewedSegment L o snapshot issued)).map fun results =>
      ((results.map fun result => result.2.1.actual).sum,
        L.reviewsDigest (results.map fun result => (result.1, result.2.1.revision, result.2.2)))

/-- One round of the loop of `score_closed`. -/
def scoreIssueClosed (o : Observatory D) (snapshot : SalesSnapshot D)
    (scores : Table (ProjectionScore D)) (issued : ProjectionIssue D) :
    Table (ProjectionScore D) :=
  match reviewedOutcome L o snapshot issued with
  | none => scores
  | some (actual, revision) =>
      if scores.rows.any (fun score => decide (score.issued = issued.pk)
          && decide (score.actualRevision = revision)) then
        scores
      else
        scores.create fun pk =>
          { pk := pk
            issued := issued.pk
            actualRevision := revision
            actual := actual
            error := issued.value - actual
            absoluteError := |issued.value - actual|
            baselineAbsoluteError := issued.baselineValue.map fun value => |value - actual|
            withinBounds := decide (issued.lowerBound ≤ actual) && decide (actual ≤ issued.upperBound) }

/-- `score_closed` -/
def scoreClosed (o : Observatory D) : Table (ProjectionScore D) :=
  let snapshot := loadSnapshot L.source o.ledger (businessDay L o.now)
  (o.issues.rows.filter fun issued => decide (issued.target < snapshot.asOf)).foldl
    (scoreIssueClosed L o snapshot) o.scores

/-! ## The report -/

structure EvidenceGroup (D : Type) where
  engineVersion : String
  period : Period
  view : View
  horizon : Nat
  issuedCount : Nat
  awaitingOutcomeCount : Nat
  awaitingReviewOrScoringCount : Nat
  scores : List (ProjectionScore D)
  deriving DecidableEq, Repr

/-- The group's key is that of the issue. -/
def EvidenceGroup.isFor (group : EvidenceGroup D) (issued : ProjectionIssue D) : Bool :=
  decide (group.engineVersion = issued.engineVersion) && decide (group.period = issued.period)
    && decide (group.view = issued.view) && decide (group.horizon = issued.horizon)

def EvidenceGroup.fresh (issued : ProjectionIssue D) : EvidenceGroup D :=
  { engineVersion := issued.engineVersion
    period := issued.period
    view := issued.view
    horizon := issued.horizon
    issuedCount := 0
    awaitingOutcomeCount := 0
    awaitingReviewOrScoringCount := 0
    scores := [] }

/-- The score the report counts for an issue. -/
def countedScore (o : Observatory D) (snapshot : SalesSnapshot D) (issued : ProjectionIssue D) :
    Option (ProjectionScore D) :=
  (reviewedOutcome L o snapshot issued).bind fun result =>
    o.scores.newest fun score => decide (score.issued = issued.pk)
      && decide (score.actualRevision = result.2)

/-- The body of the report's loop for the group of an issue. -/
def EvidenceGroup.count (o : Observatory D) (snapshot : SalesSnapshot D)
    (issued : ProjectionIssue D) (group : EvidenceGroup D) : EvidenceGroup D :=
  if snapshot.asOf < periodEnd issued.target issued.period then
    { group with
      issuedCount := group.issuedCount + 1
      awaitingOutcomeCount := group.awaitingOutcomeCount + 1 }
  else
    match countedScore L o snapshot issued with
    | none =>
        { group with
          issuedCount := group.issuedCount + 1
          awaitingReviewOrScoringCount := group.awaitingReviewOrScoringCount + 1 }
    | some score =>
        { group with
          issuedCount := group.issuedCount + 1
          scores := group.scores ++ [score] }

/-- `groups.setdefault(key, …)` followed by the body. -/
def countIssue (o : Observatory D) (snapshot : SalesSnapshot D)
    (groups : List (EvidenceGroup D)) (issued : ProjectionIssue D) : List (EvidenceGroup D) :=
  if groups.any (fun group => group.isFor issued) then
    groups.map fun group => if group.isFor issued then group.count L o snapshot issued else group
  else
    groups ++ [(EvidenceGroup.fresh issued).count L o snapshot issued]

/-- The groups of `evidence_report` before they are summarised. -/
def evidenceGroups (o : Observatory D) : List (EvidenceGroup D) :=
  o.issues.rows.foldl
    (countIssue L o (loadSnapshot L.source o.ledger (businessDay L o.now))) []

/-- A row of the report: its statistics are decimals, in percent or in pesos. -/
structure EvidenceSummary where
  engineVersion : String
  period : Period
  view : View
  horizon : Nat
  issuedCount : Nat
  awaitingOutcomeCount : Nat
  awaitingReviewOrScoringCount : Nat
  scoredCount : Nat
  wape : Option ℚ
  mae : Option ℚ
  bias : Option ℚ
  baselinePairedCount : Nat
  baselineWape : Option ℚ
  modelPairedWape : Option ℚ
  withinBoundsCount : Nat
  deriving DecidableEq, Repr

/-- `wape`, before it is turned into a floating-point number. -/
def wapeOf (errors : List Int) (denominator : Int) : Option ℚ :=
  if denominator = 0 then none
  else some (decimalContext (decimalContext ((errors.sum : ℚ) / denominator) * 100))

def meanOf (errors : List Int) : Option ℚ :=
  if errors = [] then none else some (decimalContext ((errors.sum : ℚ) / 100 / errors.length))

def EvidenceGroup.summary (group : EvidenceGroup D) : EvidenceSummary :=
  let points := group.scores
  let paired := points.filter fun score => score.baselineAbsoluteError.isSome
  let actual := (points.map fun score => |score.actual|).sum
  let pairedActual := (paired.map fun score => |score.actual|).sum
  { engineVersion := group.engineVersion
    period := group.period
    view := group.view
    horizon := group.horizon
    issuedCount := group.issuedCount
    awaitingOutcomeCount := group.awaitingOutcomeCount
    awaitingReviewOrScoringCount := group.awaitingReviewOrScoringCount
    scoredCount := points.length
    wape := wapeOf (points.map ProjectionScore.absoluteError) actual
    mae := meanOf (points.map ProjectionScore.absoluteError)
    bias := meanOf (points.map ProjectionScore.error)
    baselinePairedCount := paired.length
    baselineWape := wapeOf (paired.filterMap ProjectionScore.baselineAbsoluteError) pairedActual
    modelPairedWape := wapeOf (paired.map ProjectionScore.absoluteError) pairedActual
    withinBoundsCount := points.countP ProjectionScore.withinBounds }

/-- The rows of `evidence_report`, up to their order. -/
def evidenceReport (o : Observatory D) : List EvidenceSummary :=
  (evidenceGroups L o).map EvidenceGroup.summary

end Prospective

end Forecasting
end RosarioDairy
