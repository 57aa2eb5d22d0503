import RosarioDairy.Forecasting.Prospective

/-!
# Prospective runs — what the report counts after any sequence of changes

Reviews and scores are bound to the recorded sales by digests only.  Whatever sales are added,
corrected, voided or reclassified between reviews, issues and scorings, a counted score is about an
issue saved in advance, and its amount is the total of the rows as they are now, which are the rows
that were reviewed.
-/

namespace RosarioDairy
namespace Forecasting

open Foundations

section ProspectiveRuns

variable {D : Type}

/-- No two issues are for the same engine, period, view, origin and target. -/
def DistinctIssues (issues : Table (ProjectionIssue D)) : Prop :=
  ∀ issue ∈ issues.rows, ∀ issue' ∈ issues.rows,
    issue.engineVersion = issue'.engineVersion → issue.period = issue'.period →
    issue.view = issue'.view → issue.origin = issue'.origin → issue.target = issue'.target →
      issue = issue'

/-- The later table has every issue of the earlier one as it was, and no second one for a key. -/
structure Extends (issues issues' : Table (ProjectionIssue D)) : Prop where
  kept : ∀ issue ∈ issues.rows, issue ∈ issues'.rows
  distinct : DistinctIssues issues → DistinctIssues issues'

theorem Extends.refl (issues : Table (ProjectionIssue D)) : Extends issues issues :=
  ⟨fun _ h => h, fun h => h⟩

theorem Extends.trans {issues issues' issues'' : Table (ProjectionIssue D)}
    (h : Extends issues issues') (h' : Extends issues' issues'') : Extends issues issues'' :=
  ⟨fun issue hissue => h'.kept issue (h.kept issue hissue),
    fun hdistinct => h'.distinct (h.distinct hdistinct)⟩

variable [DecidableEq D] (L : Ledgers D)

/-! ## Events -/

inductive ProspectiveEvent (D : Type)
  | attests (today : Int) (attestation : Attestation)
  | issues (readings : Readings)
  | scores
  | changes (runs : Table (ProvisionalForecastRun D)) (ledger : List LedgerSale)
      (administrators : String → Option Nat) (primary : D) (now : Int)

/-- What a call leaves in its table: what was there when it has failed. -/
def kept {α : Type} (table : α) (answer : Except ProspectiveError α) : α :=
  match answer with
  | .ok table => table
  | .error _ => table

def Observatory.act (o : Observatory D) : ProspectiveEvent D → Observatory D
  | .attests today attestation => { o with coverage := kept o.coverage (attest L o today attestation) }
  | .issues readings => { o with issues := kept o.issues (issueCurrent L o readings) }
  | .scores => { o with scores := scoreClosed L o }
  | .changes runs ledger administrators primary now =>
      { o with
        runs := runs
        ledger := ledger
        administrators := administrators
        primary := primary
        now := now }

def Observatory.run (o : Observatory D) (events : List (ProspectiveEvent D)) : Observatory D :=
  events.foldl (Observatory.act L) o

/-- Before anything has been reviewed or issued. -/
def Observatory.start (primary : D) : Observatory D :=
  { runs := .empty
    issues := .empty
    coverage := .empty
    scores := .empty
    ledger := []
    administrators := fun _ => none
    primary := primary
    now := 0 }

/-! ## What is kept -/

/-- The rows a review or a score is about. -/
def currentRows (o : Observatory D) (today : Int) (period : Period) (target : Int)
    (segment : Segment) : List RecordedSale :=
  periodRows (loadSnapshot L.source o.ledger today) period target segment

/-- A review was made of these rows when the books were in the state `past`. -/
structure AttestedIn (past : Observatory D) (review : ProjectionCoverage D)
    (rows : List RecordedSale) : Prop where
  revision : review.actualRevision = L.rowsDigest rows
  rows : ∃ today, rows
    = sortedRows (currentRows L past today review.period review.target review.segment)

/-- A score's amount is that of the rows its revision is the digest of. -/
def ScoredOn (score : ProjectionScore D) : Prop :=
  ∃ (segments : List Segment) (rows : Segment → List RecordedSale) (reviews : Segment → Nat),
    score.actualRevision = L.reviewsDigest (segments.map fun segment =>
      (segment, L.rowsDigest (rows segment), reviews segment))
    ∧ score.actual = (segments.map fun segment => segmentTotal (rows segment) segment).sum

/-- What holds between two events of a run through the states `Past`. -/
structure BookInvariant (Past : Observatory D → Prop) (o : Observatory D) : Prop where
  distinct : DistinctIssues o.issues
  reviewed : ∀ review ∈ o.coverage.rows, ∃ past rows, Past past ∧ AttestedIn L past review rows
  scored : ∀ score ∈ o.scores.rows, ScoredOn L score

/-! ## Soundness -/

/-- One segment of a counted score: it has a review of the rows that are recorded now, none of them
is an unclassified sale of some amount, and if it has no sales that has been confirmed. -/
def SegmentReviewed (Past : Observatory D → Prop) (o : Observatory D) (issued : ProjectionIssue D)
    (segment : Segment) : Prop :=
  let rows := currentRows L o (businessDay L o.now) issued.period issued.target segment
  ∃ review ∈ o.coverage.rows, (review.period = issued.period ∧ review.segment = segment
      ∧ review.target = issued.target)
    ∧ (∃ past, Past past ∧ AttestedIn L past review (sortedRows rows))
    ∧ (∀ sale ∈ rows, sale.segment = .unclassified → sale.revenue = 0)
    ∧ ((∀ sale ∈ rows, sale.segment ≠ segment) → review.confirmedZero = true)

/-- A score that a group of the report counts. -/
def CountedSoundly (Past : Observatory D → Prop) (o : Observatory D) (group : EvidenceGroup D)
    (score : ProjectionScore D) : Prop :=
  ∃ issued ∈ o.issues.rows, group.isFor issued = true ∧ score ∈ o.scores.rows
    ∧ score.issued = issued.pk
    ∧ (businessDay L issued.issuedAt < issued.target
      ∧ boundary (businessDay L issued.issuedAt) issued.period = issued.origin)
    ∧ score.actual = (issued.view.segments.map fun segment => segmentTotal
      (currentRows L o (businessDay L o.now) issued.period issued.target segment) segment).sum
    ∧ ∀ segment ∈ issued.view.segments, SegmentReviewed L Past o issued segment

/-- The prospective evidence after the events of a run. -/
structure SoundReport (start : Observatory D) (events : List (ProspectiveEvent D)) : Prop where
  kept : ∀ later, ∀ issue ∈ (start.run L events).issues.rows,
    issue ∈ (start.run L (events ++ later)).issues.rows
  distinct : DistinctIssues (start.run L events).issues
  counted : ∀ group ∈ evidenceGroups L (start.run L events), ∀ score ∈ group.scores,
    CountedSoundly L (fun past => ∃ before after, events = before ++ after
      ∧ past = start.run L before) (start.run L events) group score
  balanced : ∀ row ∈ evidenceReport L (start.run L events), row.issuedCount
    = row.awaitingOutcomeCount + row.awaitingReviewOrScoringCount + row.scoredCount

variable {L}

/-! ## Issues -/

omit [DecidableEq D] in
theorem extends_issuePoint {request : IssueRequest D} {horizon : Nat} {point : ProjectedPoint}
    {issues issues' : Table (ProjectionIssue D)}
    (h : issuePoint request horizon point issues = .ok issues') : Extends issues issues' := by
  unfold issuePoint at h
  split at h
  · cases pure_eq_ok.1 h
    exact Extends.refl issues
  next hnew =>
    obtain ⟨-, h⟩ := require_bind_eq_ok.1 h
    cases pure_eq_ok.1 h
    refine ⟨fun issue hissue => List.mem_append.2 (Or.inl hissue), ?_⟩
    intro hdistinct
    have hfresh : ∀ issue ∈ issues.rows, ¬ (issue.engineVersion = request.run.engineVersion
        ∧ issue.period = request.period ∧ issue.view = request.view
        ∧ issue.origin = request.origin ∧ issue.target = point.date) := by
      rintro issue hissue ⟨hengine, hperiod, hview, horigin, htarget⟩
      refine hnew (List.any_eq_true.2 ⟨issue, hissue, ?_⟩)
      simp [hengine, hperiod, hview, horigin, htarget]
    intro issue hissue issue' hissue' hengine hperiod hview horigin htarget
    rcases List.mem_append.1 hissue with hold | hlast
    · rcases List.mem_append.1 hissue' with hold' | hlast'
      · exact hdistinct issue hold issue' hold' hengine hperiod hview horigin htarget
      · rw [List.mem_singleton.1 hlast'] at hengine hperiod hview horigin htarget
        exact absurd ⟨hengine, hperiod, hview, horigin, htarget⟩ (hfresh issue hold)
    · rcases List.mem_append.1 hissue' with hold' | hlast'
      · rw [List.mem_singleton.1 hlast] at hengine hperiod hview horigin htarget
        exact absurd ⟨hengine.symm, hperiod.symm, hview.symm, horigin.symm, htarget.symm⟩
          (hfresh issue' hold')
      · rw [List.mem_singleton.1 hlast, List.mem_singleton.1 hlast']

omit [DecidableEq D] in
theorem extends_issuePoints {today : Int} {request : IssueRequest D} {targets : List Int}
    {points : List ProjectedPoint} {horizon : Nat} {issues issues' : Table (ProjectionIssue D)}
    (h : issuePoints today request targets horizon points issues = .ok issues') :
    Extends issues issues' := by
  induction points generalizing horizon issues with
  | nil =>
      cases pure_eq_ok.1 h
      exact Extends.refl _
  | cons point rest ih =>
      obtain ⟨-, h⟩ := require_bind_eq_ok.1 h
      obtain ⟨-, h⟩ := require_bind_eq_ok.1 h
      obtain ⟨between, hpoint, hrest⟩ := bind_eq_ok.1 h
      exact (extends_issuePoint hpoint).trans (ih hrest)

omit [DecidableEq D] in
theorem extends_issueViews {today : Int} {requests : List (IssueRequest D)}
    {targets : Period → List Int} {issues issues' : Table (ProjectionIssue D)}
    (h : issueViews today requests targets issues = .ok issues') : Extends issues issues' := by
  unfold issueViews at h
  induction requests generalizing issues with
  | nil =>
      cases pure_eq_ok.1 h
      exact Extends.refl _
  | cons request rest ih =>
      rw [List.foldlM_cons] at h
      obtain ⟨between, hpoints, hrest⟩ := bind_eq_ok.1 h
      exact (extends_issuePoints hpoints).trans (ih hrest)

theorem extends_issueCurrent {o : Observatory D} {readings : Readings}
    {issues : Table (ProjectionIssue D)} (h : issueCurrent L o readings = .ok issues) :
    Extends o.issues issues := by
  unfold issueCurrent at h
  obtain ⟨-, h⟩ := require_bind_eq_ok.1 h
  simp only at h
  split at h
  · cases pure_eq_ok.1 h
    exact Extends.refl o.issues
  next run hrun =>
    obtain ⟨-, h⟩ := require_bind_eq_ok.1 h
    obtain ⟨-, h⟩ := require_bind_eq_ok.1 h
    obtain ⟨between, hviews, h⟩ := bind_eq_ok.1 h
    obtain ⟨-, h⟩ := require_bind_eq_ok.1 h
    cases pure_eq_ok.1 h
    exact extends_issueViews hviews

theorem extends_act (o : Observatory D) (e : ProspectiveEvent D) :
    Extends o.issues (o.act L e).issues := by
  cases e with
  | issues readings =>
      cases h : issueCurrent L o readings with
      | ok issues =>
          simp only [Observatory.act, h, Forecasting.kept]
          exact extends_issueCurrent h
      | error e =>
          simp only [Observatory.act, h, Forecasting.kept]
          exact Extends.refl o.issues
  | attests today attestation => exact Extends.refl o.issues
  | scores => exact Extends.refl o.issues
  | changes runs ledger administrators primary now => exact Extends.refl o.issues

theorem extends_run (o : Observatory D) (events : List (ProspectiveEvent D)) :
    Extends o.issues (o.run L events).issues := by
  induction events generalizing o with
  | nil => exact Extends.refl o.issues
  | cons e rest ih => exact (extends_act o e).trans (ih (o.act L e))

/-! ## Reviews -/

theorem reviewed_attest {Past : Observatory D → Prop} {o : Observatory D} (hpast : Past o)
    {today : Int} {attestation : Attestation} {coverage : Table (ProjectionCoverage D)}
    (h : attest L o today attestation = .ok coverage)
    (hreviewed : ∀ review ∈ o.coverage.rows, ∃ past rows, Past past ∧ AttestedIn L past review rows) :
    ∀ review ∈ coverage.rows, ∃ past rows, Past past ∧ AttestedIn L past review rows := by
  unfold attest at h
  obtain ⟨-, h⟩ := require_bind_eq_ok.1 h
  obtain ⟨-, h⟩ := require_bind_eq_ok.1 h
  obtain ⟨-, h⟩ := require_bind_eq_ok.1 h
  obtain ⟨reviewer, -, h⟩ := bind_eq_ok.1 h
  obtain ⟨-, h⟩ := require_bind_eq_ok.1 h
  obtain ⟨-, h⟩ := require_bind_eq_ok.1 h
  split at h
  · cases pure_eq_ok.1 h
    exact hreviewed
  · cases pure_eq_ok.1 h
    intro review hreview
    rcases List.mem_append.1 hreview with hold | hnew
    · exact hreviewed review hold
    · rw [List.mem_singleton.1 hnew]
      exact ⟨o, _, hpast, rfl, today, rfl⟩

/-! ## Scores -/

/-- What a reviewed outcome says, with the reviews as a function of the segment. -/
theorem reviewedOutcome_spec {o : Observatory D} {snapshot : SalesSnapshot D}
    {issued : ProjectionIssue D} {actual : Int} {revision : D}
    (h : reviewedOutcome L o snapshot issued = some (actual, revision)) :
    savedInAdvance L o issued = true ∧ ∃ reviews : Segment → Nat,
      revision = L.reviewsDigest (issued.view.segments.map fun segment =>
        (segment, (outcome L snapshot issued.period issued.target segment).revision,
          reviews segment))
      ∧ actual = (issued.view.segments.map fun segment =>
        (outcome L snapshot issued.period issued.target segment).actual).sum
      ∧ ∀ segment ∈ issued.view.segments,
        (reviewedSegment L o snapshot issued segment).isSome = true := by
  unfold reviewedOutcome at h
  split at h
  · cases h
  split at h
  · cases h
  next hsaved =>
    obtain ⟨results, hresults, hpair⟩ := Option.map_eq_some_iff.1 h
    refine ⟨by simpa using hsaved, fun segment =>
      ((reviewedSegment L o snapshot issued segment).map fun result => result.2.2).getD 0, ?_⟩
    -- every result is that of its segment
    have hall : ∀ (segments : List Segment) (found : List (Segment × Outcome D × Nat)),
        segments.mapM (reviewedSegment L o snapshot issued) = some found →
        found = segments.map (fun segment =>
          (segment, outcome L snapshot issued.period issued.target segment,
            ((reviewedSegment L o snapshot issued segment).map fun result =>
              result.2.2).getD 0))
        ∧ ∀ segment ∈ segments,
          (reviewedSegment L o snapshot issued segment).isSome = true := by
      intro segments
      induction segments with
      | nil =>
          intro found hfound
          cases hfound
          exact ⟨rfl, fun segment hsegment => nomatch hsegment⟩
      | cons segment rest ih =>
          intro found hfound
          rw [List.mapM_cons] at hfound
          obtain ⟨result, hresult, hfound⟩ := Option.bind_eq_some_iff.1 hfound
          obtain ⟨others, hothers, hfound⟩ := Option.bind_eq_some_iff.1 hfound
          cases hfound
          obtain ⟨hmap, hsome⟩ := ih others hothers
          have hparts : result = (segment, outcome L snapshot issued.period issued.target segment,
              result.2.2) := by
            unfold reviewedSegment at hresult
            simp only at hresult
            split at hresult
            · cases hresult
            · split at hresult
              · cases hresult
              · cases hresult
                rfl
          refine ⟨?_, ?_⟩
          · rw [List.map_cons, hresult, ← hmap]
            simp only [Option.map_some, Option.getD_some]
            rw [← hparts]
          · intro segment' hsegment'
            rcases List.mem_cons.1 hsegment' with rfl | hrest
            · simp [hresult]
            · exact hsome segment' hrest
    obtain ⟨hmap, hsome⟩ := hall _ _ hresults
    rw [hmap] at hpair
    simp only [List.map_map, Prod.mk.injEq] at hpair
    exact ⟨hpair.2.symm, hpair.1.symm, hsome⟩

theorem segmentTotal_sortedRows (rows : List RecordedSale) (segment : Segment) :
    segmentTotal (sortedRows rows) segment = segmentTotal rows segment :=
  (((List.perm_insertionSort _ rows).filter _).map RecordedSale.revenue).sum_eq

theorem scored_scoreIssueClosed {o : Observatory D} {snapshot : SalesSnapshot D}
    {scores : Table (ProjectionScore D)} (h : ∀ score ∈ scores.rows, ScoredOn L score)
    (issued : ProjectionIssue D) :
    ∀ score ∈ (scoreIssueClosed L o snapshot scores issued).rows, ScoredOn L score := by
  unfold scoreIssueClosed
  cases houtcome : reviewedOutcome L o snapshot issued with
  | none => exact h
  | some result =>
      obtain ⟨actual, revision⟩ := result
      simp only
      split
      · exact h
      · intro score hscore
        rcases List.mem_append.1 hscore with hold | hnew
        · exact h score hold
        · rw [List.mem_singleton.1 hnew]
          obtain ⟨-, reviews, hrevision, hactual, -⟩ := reviewedOutcome_spec houtcome
          refine ⟨issued.view.segments,
            fun segment => sortedRows (periodRows snapshot issued.period issued.target segment),
            reviews, hrevision, ?_⟩
          simp only [segmentTotal_sortedRows]
          exact hactual

theorem scored_scoreClosed {o : Observatory D} (h : ∀ score ∈ o.scores.rows, ScoredOn L score) :
    ∀ score ∈ (scoreClosed L o).rows, ScoredOn L score := by
  have hloop : ∀ (issues : List (ProjectionIssue D)) (snapshot : SalesSnapshot D)
      (scores : Table (ProjectionScore D)), (∀ score ∈ scores.rows, ScoredOn L score) →
      ∀ score ∈ (issues.foldl (scoreIssueClosed L o snapshot) scores).rows, ScoredOn L score := by
    intro issues snapshot
    induction issues with
    | nil => exact fun _ hscores => hscores
    | cons issued rest ih =>
        exact fun scores hscores => ih _ (scored_scoreIssueClosed hscores issued)
  exact hloop _ _ _ h

/-! ## Runs -/

omit [DecidableEq D] in
theorem bookInvariant_start (Past : Observatory D → Prop) (primary : D) :
    BookInvariant L Past (.start primary) := by
  refine ⟨?_, ?_, ?_⟩
  · intro issue hissue
    cases hissue
  · intro review hreview
    cases hreview
  · intro score hscore
    cases hscore

omit [DecidableEq D] in
theorem BookInvariant.weaken {Past Past' : Observatory D → Prop} {o : Observatory D}
    (hpast : ∀ past, Past past → Past' past) (h : BookInvariant L Past o) :
    BookInvariant L Past' o := by
  refine ⟨h.distinct, ?_, h.scored⟩
  intro review hreview
  obtain ⟨past, rows, hpastPast, hattested⟩ := h.reviewed review hreview
  exact ⟨past, rows, hpast past hpastPast, hattested⟩

theorem bookInvariant_act {Past : Observatory D → Prop} {o : Observatory D} (hpast : Past o)
    (h : BookInvariant L Past o) (e : ProspectiveEvent D) : BookInvariant L Past (o.act L e) := by
  cases e with
  | attests today attestation =>
      refine ⟨h.distinct, ?_, h.scored⟩
      cases hattest : attest L o today attestation with
      | ok coverage =>
          simp only [Observatory.act, hattest, kept]
          exact reviewed_attest hpast hattest h.reviewed
      | error e =>
          simp only [Observatory.act, hattest, kept]
          exact h.reviewed
  | issues readings =>
      exact ⟨(extends_act o (.issues readings)).distinct h.distinct, h.reviewed, h.scored⟩
  | scores => exact ⟨h.distinct, h.reviewed, scored_scoreClosed h.scored⟩
  | changes runs ledger administrators primary now => exact ⟨h.distinct, h.reviewed, h.scored⟩

/-- The states a run has been in. -/
def VisitedIn (start : Observatory D) (events : List (ProspectiveEvent D))
    (past : Observatory D) : Prop :=
  ∃ before after, events = before ++ after ∧ past = start.run L before

theorem bookInvariant_run (primary : D) (events : List (ProspectiveEvent D)) :
    BookInvariant L (VisitedIn (L := L) (.start primary) events)
      ((Observatory.start primary).run L events) := by
  induction events using List.reverseRecOn with
  | nil => exact bookInvariant_start _ primary
  | append_singleton events e ih =>
      have hrun : (Observatory.start primary).run L (events ++ [e])
          = ((Observatory.start primary).run L events).act L e := by
        simp [Observatory.run]
      rw [hrun]
      refine bookInvariant_act ⟨events, [e], rfl, rfl⟩ (ih.weaken ?_) e
      rintro past ⟨before, after, rfl, rfl⟩
      exact ⟨before, after ++ [e], by simp, rfl⟩

/-! ## The report -/

/-- What a group holds while the report's loop is running. -/
structure GroupInvariant (o : Observatory D) (snapshot : SalesSnapshot D)
    (group : EvidenceGroup D) : Prop where
  balanced : group.issuedCount
    = group.awaitingOutcomeCount + group.awaitingReviewOrScoringCount + group.scores.length
  counted : ∀ score ∈ group.scores, ∃ issued ∈ o.issues.rows, group.isFor issued = true
    ∧ countedScore L o snapshot issued = some score

theorem groupInvariant_fresh (o : Observatory D) (snapshot : SalesSnapshot D)
    (issued : ProjectionIssue D) : GroupInvariant (L := L) o snapshot (.fresh issued) :=
  ⟨rfl, fun _ hscore => nomatch hscore⟩

/-- Each issue of a group is counted under exactly one heading. -/
theorem groupInvariant_count {o : Observatory D} {snapshot : SalesSnapshot D}
    {group : EvidenceGroup D} (h : GroupInvariant (L := L) o snapshot group)
    {issued : ProjectionIssue D} (hissued : issued ∈ o.issues.rows)
    (hfor : group.isFor issued = true) :
    GroupInvariant (L := L) o snapshot (group.count L o snapshot issued) := by
  have hbalanced := h.balanced
  unfold EvidenceGroup.count
  split
  · refine ⟨?_, h.counted⟩
    simp only
    omega
  · cases hscore : countedScore L o snapshot issued with
    | none =>
        refine ⟨?_, h.counted⟩
        simp only
        omega
    | some score =>
        refine ⟨?_, ?_⟩
        · simp only [List.length_append, List.length_singleton]
          omega
        · intro score' hscore'
          rcases List.mem_append.1 hscore' with hold | hnew
          · exact h.counted score' hold
          · rw [List.mem_singleton.1 hnew]
            exact ⟨issued, hissued, hfor, hscore⟩

omit [DecidableEq D] in
theorem fresh_isFor (issued : ProjectionIssue D) :
    (EvidenceGroup.fresh issued).isFor issued = true := by
  simp [EvidenceGroup.isFor, EvidenceGroup.fresh]

theorem groupInvariant_countIssue {o : Observatory D} {snapshot : SalesSnapshot D}
    {groups : List (EvidenceGroup D)}
    (h : ∀ group ∈ groups, GroupInvariant (L := L) o snapshot group)
    {issued : ProjectionIssue D} (hissued : issued ∈ o.issues.rows) :
    ∀ group ∈ countIssue L o snapshot groups issued, GroupInvariant (L := L) o snapshot group := by
  unfold countIssue
  split
  · intro group hgroup
    obtain ⟨old, hold, rfl⟩ := List.mem_map.1 hgroup
    split
    · next hfor => exact groupInvariant_count (h old hold) hissued hfor
    · exact h old hold
  · intro group hgroup
    rcases List.mem_append.1 hgroup with hold | hnew
    · exact h group hold
    · rw [List.mem_singleton.1 hnew]
      exact groupInvariant_count (groupInvariant_fresh o snapshot issued) hissued
        (fresh_isFor issued)

theorem groupInvariant_evidenceGroups (o : Observatory D) :
    ∀ group ∈ evidenceGroups L o,
      GroupInvariant (L := L) o (loadSnapshot L.source o.ledger (businessDay L o.now)) group := by
  have hloop : ∀ (issues : List (ProjectionIssue D)) (groups : List (EvidenceGroup D)),
      (∀ issued ∈ issues, issued ∈ o.issues.rows) →
      (∀ group ∈ groups, GroupInvariant (L := L) o
        (loadSnapshot L.source o.ledger (businessDay L o.now)) group) →
      ∀ group ∈ issues.foldl (countIssue L o
        (loadSnapshot L.source o.ledger (businessDay L o.now))) groups,
        GroupInvariant (L := L) o (loadSnapshot L.source o.ledger (businessDay L o.now)) group := by
    intro issues
    induction issues with
    | nil => exact fun _ _ h => h
    | cons issued rest ih =>
        intro groups hissues h
        exact ih _ (fun other hother => hissues other (List.mem_cons_of_mem issued hother))
          (groupInvariant_countIssue h (hissues issued List.mem_cons_self))
  exact hloop _ [] (fun _ h => h) (fun group hgroup => nomatch hgroup)

/-- A segment that has an outcome for a score is reviewed as recorded now. -/
theorem segmentReviewed_of_isSome {Past : Observatory D → Prop} {o : Observatory D}
    (h : BookInvariant L Past o) {issued : ProjectionIssue D} {segment : Segment}
    (hsome : (reviewedSegment L o (loadSnapshot L.source o.ledger (businessDay L o.now)) issued
      segment).isSome = true) : SegmentReviewed L Past o issued segment := by
  unfold reviewedSegment at hsome
  simp only at hsome
  split at hsome
  · cases hsome
  next review hreview =>
    split at hsome
    · cases hsome
    next haccepted =>
      simp only [not_or, not_and_or, Bool.not_eq_true, Bool.not_eq_false] at haccepted
      obtain ⟨hresolved, hobserved⟩ := haccepted
      obtain ⟨hmem, hkey⟩ := Table.newest_eq_some hreview
      simp only [Bool.and_eq_true, decide_eq_true_eq] at hkey
      obtain ⟨⟨⟨hperiod, hsegment⟩, htarget⟩, hrevision⟩ := hkey
      obtain ⟨past, rows, hpast, hattested⟩ := h.reviewed review hmem
      -- the digest of the attested rows is that of the rows recorded now
      have hrows : rows = sortedRows (currentRows L o (businessDay L o.now) issued.period
          issued.target segment) :=
        L.rowsDigest.injective (hattested.revision.symm.trans hrevision)
      refine ⟨review, hmem, ⟨hperiod, hsegment, htarget⟩, ⟨past, hpast, hrows ▸ hattested⟩,
        ?_, ?_⟩
      · intro sale hsale hunclassified
        have hnone := List.any_eq_false.1 hresolved sale hsale
        simpa [hunclassified] using hnone
      · intro hempty
        rcases hobserved with hsold | hzero
        · have hnil : (outcome L (loadSnapshot L.source o.ledger (businessDay L o.now))
              issued.period issued.target segment).isEmpty = true := by
            refine List.isEmpty_iff.2 (List.filter_eq_nil_iff.2 ?_)
            intro sale hsale
            simpa using hempty sale hsale
          rw [hnil] at hsold
          cases hsold
        · exact hzero

/-- The amount of a score with the digest of what is recorded now is what is recorded now. -/
theorem countedSoundly_of_counted {Past : Observatory D → Prop} {o : Observatory D}
    (h : BookInvariant L Past o) {group : EvidenceGroup D} {score : ProjectionScore D}
    {issued : ProjectionIssue D} (hissued : issued ∈ o.issues.rows)
    (hfor : group.isFor issued = true)
    (hcounted : countedScore L o (loadSnapshot L.source o.ledger (businessDay L o.now)) issued
      = some score) : CountedSoundly L Past o group score := by
  obtain ⟨⟨actual, revision⟩, houtcome, hnewest⟩ := Option.bind_eq_some_iff.1 hcounted
  obtain ⟨hmem, hkey⟩ := Table.newest_eq_some hnewest
  simp only [Bool.and_eq_true, decide_eq_true_eq] at hkey
  obtain ⟨hscoreIssued, hscoreRevision⟩ := hkey
  obtain ⟨hsaved, reviews, hrevision, -, hreviewed⟩ := reviewedOutcome_spec houtcome
  obtain ⟨segments, rows, reviews', hscoreDigest, hscoreActual⟩ := h.scored score hmem
  have hparts := L.reviewsDigest.injective
    (hscoreDigest.symm.trans (hscoreRevision.trans hrevision))
  have hsegments : segments = issued.view.segments := by
    have hfirst := congrArg (List.map Prod.fst) hparts
    simpa only [List.map_map, Function.comp_def, List.map_id'] using hfirst
  subst hsegments
  have hrows : ∀ segment ∈ issued.view.segments, rows segment
      = sortedRows (currentRows L o (businessDay L o.now) issued.period issued.target segment) := by
    intro segment hsegment
    have hpart := List.map_inj_left.1 hparts segment hsegment
    simp only [Prod.mk.injEq] at hpart
    exact L.rowsDigest.injective hpart.2.1
  simp only [savedInAdvance, Bool.and_eq_true, decide_eq_true_eq] at hsaved
  refine ⟨issued, hissued, hfor, hmem, hscoreIssued, hsaved.1, ?_, ?_⟩
  · rw [hscoreActual]
    refine congrArg List.sum (List.map_congr_left ?_)
    intro segment hsegment
    rw [hrows segment hsegment, segmentTotal_sortedRows]
  · intro segment hsegment
    exact segmentReviewed_of_isSome h (hreviewed segment hsegment)

/-- After every sequence of reviews, issues, scorings and other changes the prospective evidence is
sound. -/
theorem prospective_evidence_sound (primary : D) (events : List (ProspectiveEvent D)) :
    SoundReport L (.start primary) events := by
  have hinvariant := bookInvariant_run (L := L) primary events
  refine ⟨?_, hinvariant.distinct, ?_, ?_⟩
  · intro later issue hissue
    have hrun : (Observatory.start primary).run L (events ++ later)
        = ((Observatory.start primary).run L events).run L later := List.foldl_append
    rw [hrun]
    exact (extends_run _ later).kept issue hissue
  · intro group hgroup score hscore
    obtain ⟨issued, hissued, hfor, hcounted⟩ :=
      (groupInvariant_evidenceGroups _ group hgroup).counted score hscore
    exact countedSoundly_of_counted hinvariant hissued hfor hcounted
  · intro row hrow
    obtain ⟨group, hgroup, rfl⟩ := List.mem_map.1 hrow
    exact (groupInvariant_evidenceGroups _ group hgroup).balanced

end ProspectiveRuns

/-! ## A week with a score -/

/-- Digests that keep what they are made of. -/
inductive Kept
  | rows (sales : List RecordedSale)
  | nothing
  | review (segment : Segment) (digest : Kept) (pk : Nat) (rest : Kept)
  deriving DecidableEq

def Kept.reviews : List (Segment × Kept × Nat) → Kept
  | [] => .nothing
  | (segment, digest, pk) :: rest => .review segment digest pk (Kept.reviews rest)

theorem Kept.reviews_injective : Function.Injective Kept.reviews := by
  intro reviews
  induction reviews with
  | nil =>
      intro reviews' h
      cases reviews' with
      | nil => rfl
      | cons review rest => cases h
  | cons review rest ih =>
      intro reviews' h
      cases reviews' with
      | nil => cases h
      | cons review' rest' =>
          obtain ⟨hsegment, hdigest, hpk, hrest⟩ := Kept.review.inj h
          rw [ih hrest]
          exact congrArg (· :: rest') (Prod.ext hsegment (Prod.ext hdigest hpk))

def keptLedgers : Ledgers Kept :=
  { source :=
      { zone := .fixed
        casefold := id
        decision := fun _ => .dairy
        revision := fun _ sales => .rows sales }
    version := "chart-1"
    rowsDigest := ⟨.rows, fun _ _ h => Kept.rows.inj h⟩
    reviewsDigest := ⟨Kept.reviews, Kept.reviews_injective⟩
    contextDigest := fun _ _ primary => primary
    findingsDigest := fun _ => .nothing
    throughFloat := id }

/-- A run of day 1 that predicts the regular sales of the week of day 8. -/
def firstRun (pk : Nat) : ProvisionalForecastRun Kept :=
  { pk := pk
    engineVersion := "chart-1"
    sourceRevision := .nothing
    findings :=
      { targets := currentTargets 1
        sourceRevisions := (.rows [], .rows [])
        points := fun period view =>
          if period = .weekly ∧ view = .regular then
            [{ date := 8
               predicted := 50000
               lowerBound := 30000
               upperBound := 70000
               basis := "mean"
               intervalBasis := "" }]
          else [] }
    artifactDigest := some .nothing
    createdAt := 86400 }

/-- A sale on day 9. -/
def weekSale : LedgerSale :=
  { pk := 1
    createdAt := 9 * 86400
    isVoided := false
    customerId := none
    customerName := none
    sourceCustomerLabel := ""
    sourceReference := none
    sourceSalesSegment := some .regular
    totalAmount := 45000
    lines := [] }

/-- The week is predicted, then sold in, reviewed and scored. -/
def scoredWeek : List (ProspectiveEvent Kept) :=
  [.changes (Table.empty.create firstRun) [] (fun _ => some 1) .nothing 86400,
    .issues { start := 86400, savedAt := fun _ => 86400, finish := 86400 },
    .changes (Table.empty.create firstRun) [weekSale] (fun _ => some 1) .nothing (15 * 86400),
    .attests 15
      { period := .weekly
        segment := .regular
        target := 8
        username := "ana"
        note := "checked"
        confirmZero := false },
    .scores]

example : (evidenceReport keptLedgers ((Observatory.start .nothing).run keptLedgers scoredWeek)).map
    (fun row => (row.issuedCount, row.scoredCount)) = [(1, 1)] := by
  decide +kernel

end Forecasting
end RosarioDairy
