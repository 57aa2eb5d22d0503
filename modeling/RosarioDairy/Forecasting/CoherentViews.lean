import Mathlib.Data.List.Find
import RosarioDairy.Forecasting.GraphRange

/-!
# CoherentViews — combined predictions are sums of component predictions

Whatever a combined point shows, the regular and the feeding point of the same date show its parts.
The views of a chart are cut from one list, so this is a fact about each of its entries: for the centered
chart about the predictions of a period (`SoundResult`), from which the points of the seasonal outlook
and of a requested calendar are taken.
-/

namespace RosarioDairy
namespace Forecasting
namespace Graph

open Foundations

/-! ## Coherence -/

section Coherence

variable {D : Type}

/-- The three points show what one run issued. -/
def SameIssue (regular feeding combined : GraphPoint D) : Prop :=
  ∃ run, ∀ point ∈ [regular, feeding, combined],
    point.predictionBasis = "issued_forecast" ∧
      point.issuedProvenance.map IssueDetails.runId = some run

theorem sameIssue_iff {regular feeding combined : GraphPoint D} :
    SameIssue regular feeding combined ↔ ∃ run,
      (regular.predictionBasis = "issued_forecast" ∧
        regular.issuedProvenance.map IssueDetails.runId = some run) ∧
      (feeding.predictionBasis = "issued_forecast" ∧
        feeding.issuedProvenance.map IssueDetails.runId = some run) ∧
      combined.predictionBasis = "issued_forecast" ∧
        combined.issuedProvenance.map IssueDetails.runId = some run := by
  simp only [SameIssue, List.forall_mem_cons, List.not_mem_nil, false_implies, implies_true,
    and_true]

/-- A prediction of the combined point is the sum of the two component predictions: to the centavo, or
within one where all three were issued by the same run. -/
structure CoherentPoints (regular feeding combined : GraphPoint D) : Prop where
  regular_date : regular.date = combined.date
  feeding_date : feeding.date = combined.date
  past : ∀ value, combined.pastPrediction = some value → ∃ r f,
    regular.pastPrediction = some r ∧ feeding.pastPrediction = some f ∧
      if combined.predictionBasis = "issued_forecast" then
        SameIssue regular feeding combined ∧ (value - r - f).natAbs ≤ 1
      else value = r + f
  future : ∀ value, combined.futurePrediction = some value → ∃ r f,
    regular.futurePrediction = some r ∧ feeding.futurePrediction = some f ∧ value = r + f

/-- Every point of the combined view stands with the points of the same date in the other views. -/
def CoherentChart (points : View → List (GraphPoint D)) : Prop :=
  ∀ (n : Nat) (combined : GraphPoint D), (points .combined)[n]? = some combined →
    ∃ regular feeding : GraphPoint D, (points .regular)[n]? = some regular ∧
      (points .feeding)[n]? = some feeding ∧ CoherentPoints regular feeding combined

/-- Views that are cut from one list are coherent when each of its entries is. -/
theorem coherentChart_map {κ : Type} {entries : List κ} {point : View → κ → GraphPoint D}
    (h : ∀ entry ∈ entries,
      CoherentPoints (point .regular entry) (point .feeding entry) (point .combined entry)) :
    CoherentChart fun view => entries.map (point view) := by
  intro n combined hcombined
  rw [List.getElem?_map] at hcombined
  obtain ⟨entry, hentry, rfl⟩ := Option.map_eq_some_iff.1 hcombined
  refine ⟨point .regular entry, point .feeding entry, ?_, ?_, ?_⟩
  · rw [List.getElem?_map, hentry]
    rfl
  · rw [List.getElem?_map, hentry]
    rfl
  · exact h entry (List.mem_of_getElem? hentry)

/-- Looking up a date in a view finds the same entry in every view. -/
theorem byDate_map {κ : Type} {point : κ → GraphPoint D} {date : κ → Int} {entries : List κ}
    (hdate : ∀ entry ∈ entries, (point entry).date = date entry) (day : Int) :
    byDate (entries.map point) day =
      (entries.reverse.find? fun entry => decide (date entry = day)).map point := by
  unfold byDate
  rw [← List.map_reverse, List.find?_map]
  congr 1
  refine List.find?_congr ?_
  intro entry hentry
  simp only [Function.comp_apply, hdate entry (List.mem_reverse.1 hentry)]

theorem combine_eq_some {regular feeding : Option Int} {value : Int} :
    combine regular feeding = some value ↔
      ∃ r f, regular = some r ∧ feeding = some f ∧ value = r + f := by
  cases regular with
  | none => simp [combine]
  | some r =>
      cases feeding with
      | none => simp [combine]
      | some f => simp [combine, eq_comm]

end Coherence

/-! ## Issued predictions -/

section Issues

variable {D : Type} {zone : Zone}

/-- What is issued for a period: a bundle of one run, components only, or nothing. -/
inductive IssueCase (issued : View → Option (Option (Issued D))) : Prop
  | bundle (run : Nat) (value : View → Issued D)
      (hissued : ∀ view, issued view = some (some (value view)))
      (hrun : ∀ view, (value view).provenance.runId = run)
      (hsum : ((value .combined).value - (value .regular).value - (value .feeding).value).natAbs ≤ 1)
  | components (hcombined : issued .combined = some none)
  | nothing (hnone : ∀ view, issued view = none)

theorem bundleOf_spec {found : List (IssueRecord D)} {run : Nat} {bundle : Bundle D}
    (hbundle : bundleOf found run = some bundle) :
    (∀ view, (bundle.record view).run = run) ∧
      (bundle.combined.value - bundle.regular.value - bundle.feeding.value).natAbs ≤ 1 := by
  have hlast {view : View} {record : IssueRecord D}
      (h : (found.filter fun record =>
        decide (record.run = run) && decide (record.view = view)).getLast? = some record) :
      record.run = run := by
    have hmem := List.mem_of_getLast? h
    have hboth := (List.mem_filter.1 hmem).2
    simp only [Bool.and_eq_true, decide_eq_true_eq] at hboth
    exact hboth.1
  unfold bundleOf at hbundle
  obtain ⟨combined, hcombined, hbundle⟩ := Option.bind_eq_some_iff.1 hbundle
  obtain ⟨regular, hregular, hbundle⟩ := Option.bind_eq_some_iff.1 hbundle
  obtain ⟨feeding, hfeeding, hbundle⟩ := Option.bind_eq_some_iff.1 hbundle
  by_cases hsum : (combined.value - regular.value - feeding.value).natAbs ≤ 1
  · rw [if_pos hsum] at hbundle
    obtain rfl := Option.some.inj hbundle
    refine ⟨?_, hsum⟩
    intro view
    cases view with
    | regular => exact hlast hregular
    | feeding => exact hlast hfeeding
    | combined => exact hlast hcombined
  · rw [if_neg hsum] at hbundle
    cases hbundle

theorem issuedPredictions_case (records : List (IssueRecord D)) (period : Period)
    (target asOf : Int) : IssueCase (issuedPredictions zone records period target asOf) := by
  unfold issuedPredictions
  simp only
  split
  · next bundle hfound =>
      obtain ⟨run, -, hbundle⟩ := List.exists_of_findSome?_eq_some hfound
      obtain ⟨hrun, hsum⟩ := bundleOf_spec hbundle
      exact IssueCase.bundle run (fun view => issuedOf (bundle.record view) target period)
        (fun view => rfl) hrun hsum
  · cases hregular : newestIssue (eligibleIssues zone records period target asOf) target period
        .regular with
    | some issue => exact IssueCase.components (by simp [componentIssues])
    | none =>
        cases hfeeding : newestIssue (eligibleIssues zone records period target asOf) target period
            .feeding with
        | some issue => exact IssueCase.components (by simp [componentIssues])
        | none =>
            refine IssueCase.nothing ?_
            intro view
            cases view with
            | regular => rfl
            | feeding => rfl
            | combined => rfl

/-- What is issued once a period has begun is not counted for it. -/
theorem issuedPredictions_append {earlier later : List (IssueRecord D)} {period : Period}
    {target asOf : Int} (hlater : ∀ record ∈ later, target ≤ zone.localDate record.issuedAt) :
    issuedPredictions zone (earlier ++ later) period target asOf =
      issuedPredictions zone earlier period target asOf := by
  have hnone : later.filter (eligibleIssue zone period target asOf) = [] := by
    refine List.filter_eq_nil_iff.2 ?_
    intro record hrecord
    have hle := hlater record hrecord
    intro heligible
    simp only [eligibleIssue, Bool.and_eq_true, decide_eq_true_eq] at heligible
    have hlt := heligible.1.2
    omega
  have hfound : eligibleIssues zone (earlier ++ later) period target asOf =
      eligibleIssues zone earlier period target asOf := by
    unfold eligibleIssues
    rw [List.filter_append, hnone, List.append_nil]
  unfold issuedPredictions
  rw [hfound]

end Issues

/-! ## The centered chart -/

section Centered

variable {S W D : Type} [DecidableEq D] {M : Models S W} {zone : Zone}
  {records : List (IssueRecord D)} {ctx : Context S W D}

omit [DecidableEq D] in
variable (zone records ctx) in
theorem issued_case (target : Int) : IssueCase (ctx.issued zone records target) := by
  unfold Context.issued
  by_cases hscope : ctx.scope = .real
  · rw [if_pos hscope]
    exact issuedPredictions_case records ctx.period target ctx.asOf
  · rw [if_neg hscope]
    exact IssueCase.nothing fun _ => rfl

variable (zone records ctx) in
/-- The predictions of a period add up, unless it is completed and something was issued for it. -/
def SoundResult (result : TargetResult) : Prop :=
  (result.target < ctx.current → ∀ view, ctx.issued zone records result.target view = none) →
    ∀ value, result.predicted .combined = some value → ∃ r f,
      result.predicted .regular = some r ∧ result.predicted .feeding = some f ∧ value = r + f

omit [DecidableEq D] in
/-- Without an issue a period shows what was predicted. -/
theorem shownPrediction_nothing {target : Int} {predicted : Option Int} :
    shownPrediction ctx (none : Option (Option (Issued D))) target predicted =
      (predicted, if ctx.scope = .demo2026 then "fixed_origin_demo"
        else if target < ctx.current then "historical_test" else "forecast") := by
  unfold shownPrediction
  by_cases hpast : ctx.scope = .real ∧ target < ctx.current
  · simp only [if_pos hpast]
  · simp only [if_neg hpast]

omit [DecidableEq D] in
theorem graphPoint_past_nothing {result : TargetResult} (hpast : result.target < ctx.current)
    {view : View} (hnone : ctx.issued zone records result.target view = none) :
    (graphPoint ctx zone records view result).pastPrediction = result.predicted view := by
  simp only [graphPoint, if_pos hpast, hnone, shownPrediction_nothing]

omit [DecidableEq D] in
theorem graphPoint_future {result : TargetResult} (hfuture : ctx.current ≤ result.target)
    (view : View) :
    (graphPoint ctx zone records view result).futurePrediction = result.predicted view := by
  have hnot : ¬(ctx.scope = .real ∧ result.target < ctx.current) := fun h => by omega
  simp only [graphPoint, if_pos hfuture, shownPrediction, if_neg hnot]

omit [DecidableEq D] in
/-- The points of a sound result are coherent. -/
theorem graphPoint_coherent {result : TargetResult}
    (hsound : SoundResult zone records ctx result) :
    CoherentPoints (graphPoint ctx zone records .regular result)
      (graphPoint ctx zone records .feeding result)
      (graphPoint ctx zone records .combined result) := by
  by_cases hpast : result.target < ctx.current
  · -- before the current period only the past prediction is filled
    have hnoFuture : (graphPoint ctx zone records .combined result).futurePrediction = none := by
      simp only [graphPoint, if_neg (Int.not_le.2 hpast)]
    refine
      { regular_date := rfl
        feeding_date := rfl
        past := ?_
        future := ?_ }
    · intro value hvalue
      cases issued_case zone records ctx result.target with
      | bundle run issue hissued hrun hsum =>
          -- one issuance run fixed all three views, and each of them shows its own forecast
          have hreal : ctx.scope = .real := by
            by_contra hdemo
            have h := hissued .combined
            simp [Context.issued, hdemo] at h
          have hshown (view : View) :
              shownPrediction ctx (ctx.issued zone records result.target view) result.target
                  (result.predicted view) =
                (some (issue view).value, "issued_forecast") := by
            rw [hissued view]
            simp only [shownPrediction, if_pos (And.intro hreal hpast)]
          -- so the three views are read from the same run, whose values add up
          have hprediction (view : View) :
              (graphPoint ctx zone records view result).pastPrediction =
                some (issue view).value := by
            simp only [graphPoint, if_pos hpast, hshown]
          have hbasis (view : View) :
              (graphPoint ctx zone records view result).predictionBasis = "issued_forecast" := by
            simp only [graphPoint, hshown]
          have hprovenance (view : View) :
              (graphPoint ctx zone records view result).issuedProvenance.map IssueDetails.runId =
                some run := by
            simp only [graphPoint, hissued view, Option.bind_some, id_eq, Option.map_some, hrun]
          refine ⟨(issue .regular).value, (issue .feeding).value, hprediction .regular,
            hprediction .feeding, ?_⟩
          rw [if_pos (hbasis .combined)]
          rw [hprediction .combined] at hvalue
          obtain rfl := Option.some.inj hvalue
          refine ⟨sameIssue_iff.2 ⟨run, ?_, ?_, ?_⟩, hsum⟩
          · exact ⟨hbasis .regular, hprovenance .regular⟩
          · exact ⟨hbasis .feeding, hprovenance .feeding⟩
          · exact ⟨hbasis .combined, hprovenance .combined⟩
      | components hcombined =>
          -- only components were issued, and no combined forecast: nothing is shown
          have hreal : ctx.scope = .real := by
            by_contra hdemo
            simp [Context.issued, hdemo] at hcombined
          simp [graphPoint, hpast, hcombined, shownPrediction, hreal] at hvalue
      | nothing hnone =>
          -- nothing was issued: the predictions are those of the target's result
          rw [graphPoint_past_nothing hpast (hnone .combined)] at hvalue
          obtain ⟨r, f, hr, hf, hEq⟩ := hsound (fun _ => hnone) value hvalue
          refine ⟨r, f, ?_, ?_, ?_⟩
          · rw [graphPoint_past_nothing hpast (hnone .regular), hr]
          · rw [graphPoint_past_nothing hpast (hnone .feeding), hf]
          · have hbasis : (graphPoint ctx zone records .combined result).predictionBasis ≠
                "issued_forecast" := by
              simp only [graphPoint, hnone .combined, shownPrediction_nothing]
              by_cases hdemo : ctx.scope = .demo2026
              · rw [if_pos hdemo]
                decide
              · rw [if_neg hdemo, if_pos hpast]
                decide
            rw [if_neg hbasis]
            exact hEq
    · intro value hvalue
      rw [hnoFuture] at hvalue
      cases hvalue
  · -- from the current period on only the future prediction is filled
    have hfuture : ctx.current ≤ result.target := Int.not_lt.1 hpast
    have hnoPast : (graphPoint ctx zone records .combined result).pastPrediction = none := by
      simp only [graphPoint, if_neg hpast]
    refine
      { regular_date := rfl
        feeding_date := rfl
        past := ?_
        future := ?_ }
    · intro value hvalue
      rw [hnoPast] at hvalue
      cases hvalue
    · intro value hvalue
      rw [graphPoint_future hfuture] at hvalue
      obtain ⟨r, f, hr, hf, hEq⟩ := hsound (fun h => absurd h hpast) value hvalue
      exact ⟨r, f, by rw [graphPoint_future hfuture, hr], by rw [graphPoint_future hfuture, hf], hEq⟩

/-- The components' predictions of a period add up. -/
theorem predictTarget_sound {allowTraining : Bool} {artifacts artifacts' : Artifacts S D}
    {target : Int} {result : TargetResult}
    (hpredict : predictTarget M ctx allowTraining artifacts target = .ok (artifacts', result)) :
    SoundResult zone records ctx result := by
  obtain ⟨⟨artifacts₁, regular, regularDetails⟩, -, hpredict⟩ := bind_eq_ok.1 hpredict
  obtain ⟨⟨artifacts₂, feeding, feedingDetails⟩, -, hpredict⟩ := bind_eq_ok.1 hpredict
  obtain ⟨-, rfl⟩ := pure_pair_eq_ok.1 hpredict
  intro _ value hvalue
  exact combine_eq_some.1 hvalue

/-- A chart whose views are cut from sound results. -/
def BuiltFrom (zone : Zone) (records : List (IssueRecord D)) (ctx : Context S W D)
    (views : View → GraphView D) : Prop :=
  ∃ results : List TargetResult,
    (∀ view, (views view).points = results.map (graphPoint ctx zone records view)) ∧
      ∀ result ∈ results, SoundResult zone records ctx result

omit [DecidableEq D] in
theorem BuiltFrom.coherent {views : View → GraphView D} (h : BuiltFrom zone records ctx views) :
    CoherentChart fun view => (views view).points := by
  obtain ⟨results, hpoints, hsound⟩ := h
  simp only [hpoints]
  exact coherentChart_map fun result hresult => graphPoint_coherent (hsound result hresult)

/-- The loop over the calendar collects sound results, if every round does. -/
theorem build_builtFrom {artifacts : Artifacts S D} {allowTraining : Bool}
    {saved : Option (View → GraphView D)} {chart : GraphChart S D}
    (hround : ∀ (built : Artifacts S D × List TargetResult) (target : Int)
      (built' : Artifacts S D × List TargetResult),
      buildStep M ctx allowTraining saved built target = .ok built' →
      (∀ result ∈ built.2, SoundResult zone records ctx result) →
        ∀ result ∈ built'.2, SoundResult zone records ctx result)
    (hbuild : build M zone records ctx artifacts allowTraining saved = .ok chart) :
    BuiltFrom zone records ctx chart.views := by
  obtain ⟨⟨artifacts', results⟩, hloop, hbuild⟩ := bind_eq_ok.1 hbuild
  obtain rfl := pure_eq_ok.1 hbuild
  have hsound := foldlM_preserves
    (P := fun built : Artifacts S D × List TargetResult =>
      ∀ result ∈ built.2, SoundResult zone records ctx result)
    (fun target _ built built' hinv hstep => hround built target built' hstep hinv) hloop
    (by simp)
  exact ⟨results, fun _ => rfl, hsound⟩

theorem buildStep_fresh {allowTraining : Bool} {built built' : Artifacts S D × List TargetResult}
    {target : Int} (hstep : buildStep M ctx allowTraining none built target = .ok built')
    (hinv : ∀ result ∈ built.2, SoundResult zone records ctx result) :
    ∀ result ∈ built'.2, SoundResult zone records ctx result := by
  obtain ⟨⟨artifacts, result⟩, hpredict, hstep⟩ := bind_eq_ok.1 hstep
  obtain rfl := pure_eq_ok.1 hstep
  intro other hother
  rcases List.mem_append.1 hother with hother | hother
  · exact hinv other hother
  · obtain rfl := List.mem_singleton.1 hother
    exact predictTarget_sound hpredict

/-! ## Replayed charts -/

variable (zone records ctx) in
/-- A saved chart, with what `build` made it of: it is of the same period, scope and date, and whatever
has been issued since was issued in the current period or later. -/
structure SavedChart where
  models : Models S W
  origin : Context S W D
  earlier : List (IssueRecord D)
  later : List (IssueRecord D)
  artifacts : Artifacts S D
  chart : GraphChart S D
  period_eq : origin.period = ctx.period
  scope_eq : origin.scope = ctx.scope
  asOf_eq : origin.asOf = ctx.asOf
  records_eq : records = earlier ++ later
  onward : ∀ record ∈ later, ctx.current ≤ zone.localDate record.issuedAt
  built : build models zone earlier origin artifacts true none = .ok chart

def SavedChart.views (saved : SavedChart zone records ctx) : View → GraphView D := saved.chart.views

/-- The chart that a build of the same request made, over what was issued before `later`. -/
def SavedChart.ofBuild {models : Models S W} {earlier later : List (IssueRecord D)}
    {artifacts : Artifacts S D} {chart : GraphChart S D} (hrecords : records = earlier ++ later)
    (onward : ∀ record ∈ later, ctx.current ≤ zone.localDate record.issuedAt)
    (hbuild : build models zone earlier ctx artifacts true none = .ok chart) :
    SavedChart zone records ctx :=
  { models := models
    origin := ctx
    earlier := earlier
    later := later
    artifacts := artifacts
    chart := chart
    period_eq := rfl
    scope_eq := rfl
    asOf_eq := rfl
    records_eq := hrecords
    onward := onward
    built := hbuild }

variable (zone records ctx) in
/-- A chart is built for its request and saved. -/
def saveChart (models : Models S W) (artifacts : Artifacts S D) :
    Except Raised (SavedChart zone records ctx) :=
  match hbuild : build models zone records ctx artifacts true none with
  | .ok chart => pure (SavedChart.ofBuild (List.append_nil records).symm (by simp) hbuild)
  | .error raised => .error raised

theorem SavedChart.builtFrom (saved : SavedChart zone records ctx) :
    BuiltFrom zone saved.earlier saved.origin saved.views :=
  build_builtFrom (fun _ _ _ => buildStep_fresh) saved.built

theorem SavedChart.current_eq (saved : SavedChart zone records ctx) :
    saved.origin.current = ctx.current := by
  unfold Context.current
  rw [saved.asOf_eq, saved.period_eq]

/-- What was issued for a completed period when the chart was saved is what is issued for it now. -/
theorem SavedChart.issued_eq (saved : SavedChart zone records ctx) {target : Int}
    (hpast : target < ctx.current) :
    saved.origin.issued zone saved.earlier target = ctx.issued zone records target := by
  have happend : issuedPredictions zone (saved.earlier ++ saved.later) ctx.period target ctx.asOf =
      issuedPredictions zone saved.earlier ctx.period target ctx.asOf :=
    issuedPredictions_append fun record hrecord =>
      Int.le_trans (Int.le_of_lt hpast) (saved.onward record hrecord)
  rw [← saved.records_eq] at happend
  unfold Context.issued
  rw [saved.scope_eq, saved.period_eq, saved.asOf_eq, happend]

omit [DecidableEq D] in
theorem savedPrediction_eq {saved : View → GraphView D} {results : List TargetResult}
    {origin : Context S W D} {earlier : List (IssueRecord D)}
    (hpoints : ∀ view, (saved view).points = results.map (graphPoint origin zone earlier view))
    {target : Int} {view : View} {value : Option Int}
    (hsaved : savedPrediction ctx saved target view = .ok value) :
    ∃ result, results.find? (fun result => decide (result.target = target)) = some result ∧
      value = if target < ctx.current then
        (graphPoint origin zone earlier view result).pastPrediction
      else (graphPoint origin zone earlier view result).futurePrediction := by
  unfold savedPrediction at hsaved
  rw [hpoints view, List.find?_map] at hsaved
  have hdates : ((fun point : GraphPoint D => decide (point.date = target)) ∘
      graphPoint origin zone earlier view) = fun result => decide (result.target = target) := rfl
  rw [hdates] at hsaved
  cases hfound : results.find? fun result => decide (result.target = target) with
  | none => simp [hfound] at hsaved
  | some result =>
      simp only [hfound, Option.map_some] at hsaved
      exact ⟨result, rfl, (pure_eq_ok.1 hsaved).symm⟩

theorem replayTarget_sound {saved : SavedChart zone records ctx} {allowTraining : Bool}
    {artifacts artifacts' : Artifacts S D} {target : Int} {result : TargetResult}
    (hreplay : replayTarget M ctx allowTraining saved.views artifacts target =
      .ok (artifacts', result)) :
    SoundResult zone records ctx result := by
  obtain ⟨combined, hcombined, hreplay⟩ := bind_eq_ok.1 hreplay
  obtain ⟨regular, hregular, hreplay⟩ := bind_eq_ok.1 hreplay
  obtain ⟨feeding, hfeeding, hreplay⟩ := bind_eq_ok.1 hreplay
  -- the outlook of the year is computed anew, not replayed
  by_cases hannual : ctx.isAnnualOutlook target = true
  · rw [if_pos hannual] at hreplay
    exact predictTarget_sound hreplay
  · rw [if_neg hannual] at hreplay
    obtain ⟨-, rfl⟩ := pure_pair_eq_ok.1 hreplay
    obtain ⟨results, hpoints, hsound⟩ := saved.builtFrom
    obtain ⟨shown, hshown, hcombined⟩ := savedPrediction_eq hpoints hcombined
    obtain ⟨shown', hshown', hregular⟩ := savedPrediction_eq hpoints hregular
    obtain ⟨shown'', hshown'', hfeeding⟩ := savedPrediction_eq hpoints hfeeding
    -- the three saved views are cut from one result of the saved chart
    obtain rfl := Option.some.inj (hshown.symm.trans hshown')
    obtain rfl := Option.some.inj (hshown.symm.trans hshown'')
    have htarget : shown.target = target := by simpa using List.find?_some hshown
    have hsaved := hsound shown (List.mem_of_find?_eq_some hshown)
    subst htarget
    intro hnone value hvalue
    simp only at hnone hvalue ⊢
    by_cases hpast : shown.target < ctx.current
    · -- a past target of the saved chart has no issued forecast there either
      have hpast' : shown.target < saved.origin.current := by rw [saved.current_eq]; exact hpast
      have hissued (view : View) :
          saved.origin.issued zone saved.earlier shown.target view = none := by
        rw [saved.issued_eq hpast]
        exact hnone hpast view
      rw [if_pos hpast, graphPoint_past_nothing hpast' (hissued _)] at hcombined hregular hfeeding
      rw [hcombined] at hvalue
      rw [hregular, hfeeding]
      exact hsaved (fun _ => hissued) value hvalue
    · have hfuture : saved.origin.current ≤ shown.target := by
        rw [saved.current_eq]
        exact Int.not_lt.1 hpast
      rw [if_neg hpast, graphPoint_future hfuture] at hcombined hregular hfeeding
      rw [hcombined] at hvalue
      rw [hregular, hfeeding]
      exact hsaved (fun h => absurd h (Int.not_lt.2 hfuture)) value hvalue

theorem buildStep_replay {saved : SavedChart zone records ctx} {allowTraining : Bool}
    {built built' : Artifacts S D × List TargetResult} {target : Int}
    (hstep : buildStep M ctx allowTraining (some saved.views) built target = .ok built')
    (hinv : ∀ result ∈ built.2, SoundResult zone records ctx result) :
    ∀ result ∈ built'.2, SoundResult zone records ctx result := by
  obtain ⟨⟨artifacts, result⟩, hreplay, hstep⟩ := bind_eq_ok.1 hstep
  obtain rfl := pure_eq_ok.1 hstep
  intro other hother
  rcases List.mem_append.1 hother with hother | hother
  · exact hinv other hother
  · obtain rfl := List.mem_singleton.1 hother
    exact replayTarget_sound hreplay

/-- Every chart that is built is cut from sound results, fresh or replayed. -/
theorem build_sound {artifacts : Artifacts S D} {allowTraining : Bool}
    {saved : Option (SavedChart zone records ctx)} {chart : GraphChart S D}
    (hbuild : build M zone records ctx artifacts allowTraining (saved.map SavedChart.views) =
      .ok chart) :
    BuiltFrom zone records ctx chart.views := by
  cases saved with
  | none => exact build_builtFrom (fun _ _ _ => buildStep_fresh) hbuild
  | some saved => exact build_builtFrom (fun _ _ _ => buildStep_replay) hbuild

end Centered

/-! ## The seasonal outlook -/

section Seasonal

variable {S W D : Type} {M : Models S W} {zone : Zone} {records : List (IssueRecord D)}
  {ctx : Context S W D}

/-- The season starts with the current period. -/
theorem current_le_seasonDates (hperiod : ctx.period ≠ .yearly) {target : Int}
    (htarget : target ∈ ctx.seasonDates) : ctx.current ≤ target := by
  obtain ⟨n, -, rfl⟩ := List.mem_map.1 htarget
  unfold Context.current
  cases hcase : ctx.period with
  | weekly =>
      simp only [advance]
      omega
  | monthly =>
      simp only [advance, boundary]
      exact monthStart_le_shiftMonth ctx.asOf n
  | yearly => exact absurd hcase hperiod

/-- An accepted point repeats the prediction of the centered chart where that shows the date. -/
theorem readPoint_shown {cutoff : Int} {centered : List (GraphPoint D)} {target : Int} {n : Nat}
    {point : Json} {saved : SavedPoint}
    (hread : readPoint ctx cutoff centered target n point = .ok (some saved))
    {shown : GraphPoint D} (hshown : byDate centered target = some shown) :
    saved.futurePrediction = shown.futurePrediction := by
  unfold readPoint at hread
  cases hfields : point.fields with
  | none => simp [hfields] at hread
  | some fields =>
      simp only [hfields] at hread
      cases hvalue : fields.lookup "future_prediction" with
      | none => simp [hvalue] at hread
      | some value =>
          simp only [hvalue] at hread
          by_cases hdescribes : describesPoint ctx cutoff target n fields = false
          · simp [hdescribes] at hread
          · rw [if_neg hdescribes] at hread
            obtain ⟨prediction, -, hread⟩ := bind_eq_ok.1 hread
            cases prediction with
            | none => simp at hread
            | some prediction =>
                simp only [hshown, Option.all_some] at hread
                by_cases hEq : prediction = shown.futurePrediction
                · simp only [hEq, decide_true, if_true] at hread
                  obtain rfl := Option.some.inj (pure_eq_ok.1 hread)
                  rfl
                · simp [hEq] at hread

/-- The accepted points of a view belong to the dates one by one. -/
theorem readPoints_forall {cutoff : Int} {centered : List (GraphPoint D)} :
    ∀ {dates : List (Int × Nat)} {points : List Json} {saved : List SavedPoint},
      readPoints ctx cutoff centered dates points = .ok (some saved) →
        List.Forall₂ (fun (entry : Int × Nat) (point : SavedPoint) => ∀ shown,
          byDate centered entry.1 = some shown →
            point.futurePrediction = shown.futurePrediction) dates saved
  | [], [], saved, hread => by
      obtain rfl := Option.some.inj (pure_eq_ok.1 hread)
      exact List.Forall₂.nil
  | [], _ :: _, saved, hread => by simp [readPoints] at hread
  | _ :: _, [], saved, hread => by simp [readPoints] at hread
  | (target, n) :: dates, point :: points, saved, hread => by
      rw [readPoints] at hread
      obtain ⟨first, hfirst, hread⟩ := bind_eq_ok.1 hread
      cases first with
      | none => simp at hread
      | some first =>
          obtain ⟨rest, hrest, hread⟩ := bind_eq_ok.1 hread
          cases rest with
          | none => simp at hread
          | some rest =>
              obtain rfl := Option.some.inj (pure_eq_ok.1 hread)
              exact List.Forall₂.cons (fun shown hshown => readPoint_shown hfirst hshown)
                (readPoints_forall hrest)

/-- What a retained view owes the centered chart. -/
def Retained (ctx : Context S W D) (centered : List (GraphPoint D)) (points : List SavedPoint) :
    Prop :=
  List.Forall₂ (fun (entry : Int × Nat) (point : SavedPoint) => ∀ shown,
    byDate centered entry.1 = some shown → point.futurePrediction = shown.futurePrediction)
    ctx.seasonDates.zipIdx points

theorem retainedPoints_retained {data : View → GraphView D} {saved : Option Json} {view : View}
    {points : List SavedPoint} (hretained : retainedPoints ctx data saved view = .ok (some points)) :
    Retained ctx (data view).points points := by
  unfold retainedPoints at hretained
  simp only at hretained
  split at hretained
  · simp at hretained
  · split at hretained
    · exact readPoints_forall hretained
    · simp at hretained

theorem retainedPoints_nothing {data : View → GraphView D} {saved : Option Json} {view : View}
    (hnothing : nothingSaved saved = true) : retainedPoints ctx data saved view = .ok none := by
  cases saved with
  | none => rfl
  | some json =>
      cases json with
      | null => rfl
      | _ => simp [nothingSaved] at hnothing

theorem Retained.getElem? {centered : List (GraphPoint D)} {points : List SavedPoint}
    (h : Retained ctx centered points) {n : Nat} {entry : Int × Nat}
    (hentry : ctx.seasonDates.zipIdx[n]? = some entry) :
    ∃ point, points[n]? = some point ∧ ∀ shown, byDate centered entry.1 = some shown →
      point.futurePrediction = shown.futurePrediction := by
  obtain ⟨hn, hget⟩ := List.getElem?_eq_some_iff.1 hentry
  have hn' : n < points.length := by rw [← h.length_eq]; exact hn
  refine ⟨points[n], List.getElem?_eq_getElem hn', ?_⟩
  have hpoint := h.get hn hn'
  rw [List.get_eq_getElem, List.get_eq_getElem, hget] at hpoint
  exact hpoint

/-! ### Dropping an incoherent combined view -/

section Dropping

variable {retained : View → Option (List SavedPoint)}

theorem withoutIncoherent_component {view : View} (hview : view ≠ .combined) :
    withoutIncoherent retained view = retained view := by
  have hupdate : Function.update retained .combined none view = retained view :=
    Function.update_of_ne hview _ _
  unfold withoutIncoherent
  cases hregular : retained .regular with
  | none => exact hupdate
  | some regular =>
      cases hfeeding : retained .feeding with
      | none => exact hupdate
      | some feeding =>
          cases hcombined : retained .combined with
          | none => exact hupdate
          | some combined =>
              by_cases hsums : sumsUp regular feeding combined = true
              · simp only [hsums, if_true]
              · simp only [hsums]
                exact hupdate

/-- A combined view is kept only beside two component views that it is the sum of. -/
theorem withoutIncoherent_combined {combined : List SavedPoint}
    (hkept : withoutIncoherent retained .combined = some combined) :
    ∃ regular feeding, retained .regular = some regular ∧ retained .feeding = some feeding ∧
      retained .combined = some combined ∧ sumsUp regular feeding combined = true := by
  have hupdate : Function.update retained .combined none .combined = none :=
    Function.update_self _ _ _
  unfold withoutIncoherent at hkept
  cases hregular : retained .regular with
  | none => simp [hregular] at hkept
  | some regular =>
      cases hfeeding : retained .feeding with
      | none => simp [hregular, hfeeding] at hkept
      | some feeding =>
          cases hcombined : retained .combined with
          | none => simp [hregular, hfeeding, hcombined] at hkept
          | some combined' =>
              simp only [hregular, hfeeding, hcombined] at hkept
              by_cases hsums : sumsUp regular feeding combined' = true
              · rw [if_pos hsums, hcombined] at hkept
                obtain rfl := Option.some.inj hkept
                exact ⟨regular, feeding, rfl, rfl, rfl, hsums⟩
              · rw [if_neg hsums, hupdate] at hkept
                cases hkept

theorem sumsUp_getElem? {regular feeding combined : List SavedPoint}
    (hsums : sumsUp regular feeding combined = true) {n : Nat} {r f c : SavedPoint}
    (hr : regular[n]? = some r) (hf : feeding[n]? = some f) (hc : combined[n]? = some c) :
    c.futurePrediction = combine r.futurePrediction f.futurePrediction := by
  have hzip : ((regular.zip feeding).zip combined)[n]? = some ((r, f), c) := by
    simp [List.getElem?_zip_eq_some, hr, hf, hc]
  have hall := List.all_eq_true.1 hsums _ (List.mem_of_getElem? hzip)
  simpa using hall

end Dropping

/-! ### The points of the outlook -/

section Points

/-- The prediction of an outlook point: replayed, shown by the centered chart, or projected. -/
def outlookFuture (found : Option TargetResult) (replayed : Option SavedPoint)
    (projected : Segment → List (Int × Int)) (allowProjection : Bool) (view : View) (target : Int) :
    Option Int :=
  match replayed with
  | some saved => saved.futurePrediction
  | none =>
      if allowProjection then
        match found with
        | some result => result.predicted view
        | none => projectedValue projected view target
      else none

variable {data : View → GraphView D} {results : List TargetResult}
  {retained : View → Option (List SavedPoint)} {projected : Segment → List (Int × Int)}
  {allowProjection : Bool}

/-- The point of a date in every view comes from one result. -/
theorem byDate_results
    (hpoints : ∀ view, (data view).points = results.map (graphPoint ctx zone records view))
    (view : View) (day : Int) :
    byDate (data view).points day =
      (results.reverse.find? fun result => decide (result.target = day)).map
        (graphPoint ctx zone records view) := by
  rw [hpoints view]
  exact byDate_map (fun _ _ => rfl) day

variable (retained projected allowProjection) in
/-- No point of the outlook has a past prediction. -/
theorem outlookPoint_spec
    (hpoints : ∀ view, (data view).points = results.map (graphPoint ctx zone records view))
    (view : View) {entry : Int × Nat} (hentry : ctx.current ≤ entry.1) :
    let point := (outlookPoint ctx data retained projected allowProjection view entry).point
    point.date = entry.1 ∧ point.pastPrediction = none ∧
      point.futurePrediction =
        outlookFuture (results.reverse.find? fun result => decide (result.target = entry.1))
          ((retained view).bind fun points => points[entry.2]?) projected allowProjection view
          entry.1 := by
  have hshown := byDate_results hpoints view entry.1
  cases hsaved : (retained view).bind fun points => points[entry.2]? with
  | some saved => simp [outlookPoint, hsaved, freshPoint, outlookFuture]
  | none =>
      by_cases hallow : allowProjection = true
      · cases hfound : results.reverse.find? fun result => decide (result.target = entry.1) with
        | none =>
            rw [hfound] at hshown
            simp [outlookPoint, hsaved, hallow, hshown, freshPoint, outlookFuture]
        | some result =>
            rw [hfound, Option.map_some] at hshown
            have htarget : result.target = entry.1 := by simpa using List.find?_some hfound
            have hfuture : ctx.current ≤ result.target := by rw [htarget]; exact hentry
            have hpast : (graphPoint ctx zone records view result).pastPrediction = none := by
              simp only [graphPoint, if_neg (Int.not_lt.2 hfuture)]
            have hprediction : (graphPoint ctx zone records view result).futurePrediction =
                result.predicted view := graphPoint_future hfuture view
            have hdate : (graphPoint ctx zone records view result).date = entry.1 := htarget
            simp [outlookPoint, hsaved, hallow, hshown, outlookFuture, hpast, hprediction, hdate]
      · simp [outlookPoint, hsaved, hallow, freshPoint, outlookFuture]

end Points

/-! ### Projections -/

/-- Every amount of a projected path is in range. -/
theorem projectedPath_inCurrency {artifacts : Artifacts S D} {segment : Segment}
    {path : List (Int × Int)} (hpath : projectedPath M ctx artifacts segment = .ok path) :
    ∀ row ∈ path, inCurrency row.2 = true := by
  -- every way out but the last gives the empty path
  have hempty : ∀ {path : List (Int × Int)},
      (pure [] : Except Raised (List (Int × Int))) = .ok path →
        ∀ row ∈ path, inCurrency row.2 = true := by
    intro path hpath row hrow
    obtain rfl := pure_eq_ok.1 hpath
    cases hrow
  unfold projectedPath at hpath
  cases hcomponent : artifacts (ctx.inputs ctx.current segment).signature with
  | none =>
      rw [hcomponent] at hpath
      exact hempty hpath
  | some component =>
      simp only [hcomponent] at hpath
      by_cases hstate : component.state.isNone = true
      · rw [if_pos hstate] at hpath
        exact hempty hpath
      · rw [if_neg hstate] at hpath
        obtain ⟨attempted, -, hpath⟩ := bind_eq_ok.1 hpath
        cases attempted with
        | error message => exact hempty hpath
        | ok rows =>
            simp only at hpath
            -- the path is kept whole, with every value in the currency, or not at all
            by_cases hwhole : rows.map Prod.fst = ctx.seasonDates ∧
                rows.all (fun row => inCurrency row.2.predicted) = true
            · rw [if_pos hwhole] at hpath
              obtain rfl := pure_eq_ok.1 hpath
              intro row hrow
              obtain ⟨source, hsource, rfl⟩ := List.mem_map.1 hrow
              exact List.all_eq_true.1 hwhole.2 source hsource
            · rw [if_neg hwhole] at hpath
              exact hempty hpath

/-- What the outlook projects: amounts in range, and nothing beside a saved outlook. -/
structure Projection (saved : Option Json) (projected : Segment → List (Int × Int)) : Prop where
  inCurrency_of_mem : ∀ segment, ∀ row ∈ projected segment, inCurrency row.2 = true
  fresh : ∀ segment, projected segment ≠ [] → nothingSaved saved = true

theorem projectedPaths_projection {artifacts : Artifacts S D} {saved : Option Json}
    {allowProjection : Bool} {projected : Segment → List (Int × Int)}
    (hprojected : projectedPaths M ctx artifacts saved allowProjection = .ok projected) :
    Projection saved projected := by
  unfold projectedPaths at hprojected
  by_cases hfresh : (allowProjection && nothingSaved saved) = true
  · rw [if_pos hfresh] at hprojected
    obtain ⟨regularPath, hregular, hprojected⟩ := bind_eq_ok.1 hprojected
    obtain ⟨feedingPath, hfeeding, hprojected⟩ := bind_eq_ok.1 hprojected
    obtain rfl := pure_eq_ok.1 hprojected
    refine
      { inCurrency_of_mem := ?_
        fresh := fun _ _ => (Bool.and_eq_true_iff.1 hfresh).2 }
    intro segment
    cases segment with
    | regular => exact projectedPath_inCurrency hregular
    | feeding => exact projectedPath_inCurrency hfeeding
    | unclassified => simp
  · rw [if_neg hfresh] at hprojected
    obtain rfl := pure_eq_ok.1 hprojected
    exact
      { inCurrency_of_mem := by simp
        fresh := by simp }

theorem Projection.lookup {saved : Option Json} {projected : Segment → List (Int × Int)}
    (h : Projection saved projected) {segment : Segment} {target value : Int}
    (hvalue : (projected segment).lookup target = some value) :
    nothingSaved saved = true ∧
      ((projected segment).lookup target).filter inCurrency = some value := by
  have hmem : (target, value) ∈ projected segment := by
    obtain ⟨before, after, hpath, -⟩ := List.lookup_eq_some_iff.1 hvalue
    rw [hpath]
    exact List.mem_append_right _ List.mem_cons_self
  refine ⟨h.fresh segment ?_, ?_⟩
  · intro hempty
    rw [hempty] at hmem
    cases hmem
  · rw [hvalue, Option.filter_some, if_pos (h.inCurrency_of_mem segment _ hmem)]

/-- A combined projection is the sum of the two component projections. -/
theorem Projection.combined {saved : Option Json} {projected : Segment → List (Int × Int)}
    (h : Projection saved projected) {target value : Int}
    (hvalue : projectedValue projected .combined target = some value) :
    nothingSaved saved = true ∧ ∃ r f, projectedValue projected .regular target = some r ∧
      projectedValue projected .feeding target = some f ∧ value = r + f := by
  obtain ⟨hcombined, -⟩ := Option.filter_eq_some_iff.1 hvalue
  obtain ⟨r, f, hr, hf, hEq⟩ := combine_eq_some.1 hcombined
  exact ⟨(h.lookup hr).1, r, f, (h.lookup hr).2, (h.lookup hf).2, hEq⟩

/-! ### Coherence of the outlook -/

/-- The predictions of an outlook at one date add up. -/
theorem outlookFuture_combined {data : View → GraphView D} {results : List TargetResult}
    (hpoints : ∀ view, (data view).points = results.map (graphPoint ctx zone records view))
    (hsound : ∀ result ∈ results, SoundResult zone records ctx result)
    {saved : Option Json} {projected : Segment → List (Int × Int)}
    (hprojection : Projection saved projected) {retained : View → Option (List SavedPoint)}
    (hretained : ∀ view points, retained view = some points →
      nothingSaved saved = false ∧ Retained ctx (data view).points points)
    {allowProjection : Bool} {entry : Int × Nat} (hcurrent : ctx.current ≤ entry.1)
    (hentry : ctx.seasonDates.zipIdx[entry.2]? = some entry) {value : Int} :
    let future (view : View) : Option Int :=
      outlookFuture (results.reverse.find? fun result => decide (result.target = entry.1))
        ((withoutIncoherent retained view).bind fun points => points[entry.2]?) projected
        allowProjection view entry.1
    future .combined = some value →
      ∃ r f, future .regular = some r ∧ future .feeding = some f ∧ value = r + f := by
  intro future hvalue
  have hreplayed {view : View} {points : List SavedPoint} (hview : retained view = some points) :
      ∃ point, points[entry.2]? = some point ∧ ∀ result,
        results.reverse.find? (fun result => decide (result.target = entry.1)) = some result →
          point.futurePrediction = result.predicted view := by
    obtain ⟨point, hpoint, hshown⟩ := (hretained view points hview).2.getElem? hentry
    refine ⟨point, hpoint, ?_⟩
    intro result hresult
    have htarget : result.target = entry.1 := by simpa using List.find?_some hresult
    have hfuture : ctx.current ≤ result.target := by rw [htarget]; exact hcurrent
    rw [hshown _ (by rw [byDate_results hpoints, hresult, Option.map_some]),
      graphPoint_future hfuture]
  have hcomponent (view : View) (hview : view ≠ .combined) :
      future view = outlookFuture
        (results.reverse.find? fun result => decide (result.target = entry.1))
        ((retained view).bind fun points => points[entry.2]?) projected allowProjection view
        entry.1 := by
    simp only [future, withoutIncoherent_component hview]
  have hregular := hcomponent .regular (by decide)
  have hfeeding := hcomponent .feeding (by decide)
  cases hcombined : withoutIncoherent retained .combined with
  | some combined =>
      -- all three views are replayed, and the saved points have been compared
      obtain ⟨regular, feeding, hr, hf, hc, hsums⟩ := withoutIncoherent_combined hcombined
      obtain ⟨r, hr', -⟩ := hreplayed hr
      obtain ⟨f, hf', -⟩ := hreplayed hf
      obtain ⟨c, hc', -⟩ := hreplayed hc
      simp only [future, hcombined, Option.bind_some, hc', outlookFuture] at hvalue
      simp only [hr, Option.bind_some, hr', outlookFuture] at hregular
      simp only [hf, Option.bind_some, hf', outlookFuture] at hfeeding
      rw [sumsUp_getElem? hsums hr' hf' hc'] at hvalue
      rw [hregular, hfeeding]
      exact combine_eq_some.1 hvalue
  | none =>
      simp only [future, hcombined, Option.bind_none, outlookFuture] at hvalue
      by_cases hallow : allowProjection = true
      · rw [if_pos hallow] at hvalue
        cases hfound : results.reverse.find? fun result => decide (result.target = entry.1) with
        | some result =>
            -- the centered chart shows the date, and a replayed component repeats what it shows
            have hshown {view : View} (hview : view ≠ .combined) :
                future view = result.predicted view := by
              rw [hcomponent view hview, hfound]
              cases hkept : retained view with
              | none => simp only [Option.bind_none, outlookFuture, if_pos hallow]
              | some points =>
                  obtain ⟨point, hpoint, hEq⟩ := hreplayed hkept
                  simp only [Option.bind_some, hpoint, outlookFuture]
                  exact hEq result hfound
            have htarget : result.target = entry.1 := by simpa using List.find?_some hfound
            have hmem := List.mem_reverse.1 (List.mem_of_find?_eq_some hfound)
            rw [hfound] at hvalue
            rw [hshown (by decide), hshown (by decide)]
            exact hsound result hmem (fun hpast => by omega) value hvalue
        | none =>
            -- the combined amount is projected, so that nothing has been saved
            rw [hfound] at hvalue
            obtain ⟨hnothing, hparts⟩ := hprojection.combined hvalue
            have hprojected {view : View} (hview : view ≠ .combined) :
                future view = projectedValue projected view entry.1 := by
              rw [hcomponent view hview, hfound]
              cases hkept : retained view with
              | none => simp only [Option.bind_none, outlookFuture, if_pos hallow]
              | some points =>
                  have hsaved := (hretained view points hkept).1
                  rw [hnothing] at hsaved
                  cases hsaved
            rw [hprojected (by decide), hprojected (by decide)]
            exact hparts
      · rw [if_neg hallow] at hvalue
        cases hvalue

/-- The points of one date of an outlook: none has a past prediction, and the combined prediction is the
sum of the other two. -/
structure SoundEntry (day : Int) (point : View → GraphPoint D) : Prop where
  date : ∀ view, (point view).date = day
  past : ∀ view, (point view).pastPrediction = none
  future : ∀ value, (point .combined).futurePrediction = some value → ∃ r f,
    (point .regular).futurePrediction = some r ∧ (point .feeding).futurePrediction = some f ∧
      value = r + f

theorem SoundEntry.coherent {day : Int} {point : View → GraphPoint D} (h : SoundEntry day point) :
    CoherentPoints (point .regular) (point .feeding) (point .combined) := by
  refine
    { regular_date := by rw [h.date, h.date]
      feeding_date := by rw [h.date, h.date]
      past := ?_
      future := h.future }
  intro value hvalue
  rw [h.past] at hvalue
  cases hvalue

theorem outlookPoint_sound {data : View → GraphView D} {results : List TargetResult}
    (hpoints : ∀ view, (data view).points = results.map (graphPoint ctx zone records view))
    (hsound : ∀ result ∈ results, SoundResult zone records ctx result)
    {saved : Option Json} {projected : Segment → List (Int × Int)}
    (hprojection : Projection saved projected) {retained : View → Option (List SavedPoint)}
    (hretained : ∀ view points, retained view = some points →
      nothingSaved saved = false ∧ Retained ctx (data view).points points)
    {allowProjection : Bool} {entry : Int × Nat} (hcurrent : ctx.current ≤ entry.1)
    (hentry : ctx.seasonDates.zipIdx[entry.2]? = some entry) :
    SoundEntry entry.1 fun view =>
      (outlookPoint ctx data (withoutIncoherent retained) projected allowProjection view
        entry).point := by
  have hspec (view : View) := outlookPoint_spec (withoutIncoherent retained) projected
    allowProjection hpoints view hcurrent
  refine
    { date := fun view => (hspec view).1
      past := fun view => (hspec view).2.1
      future := ?_ }
  intro value hvalue
  rw [(hspec .combined).2.2] at hvalue
  rw [(hspec .regular).2.2, (hspec .feeding).2.2]
  exact outlookFuture_combined hpoints hsound hprojection hretained hcurrent hentry hvalue

/-- An outlook whose views are cut from one list of sound entries. -/
def OutlookFrom (outlook : Outlook D) : Prop :=
  ∃ (entries : List (Int × Nat)) (point : View → Int × Nat → OutlookPoint D),
    (∀ view, (outlook.views view).points = entries.map (point view)) ∧
      ∀ entry ∈ entries, SoundEntry entry.1 fun view => (point view entry).point

theorem OutlookFrom.coherent {outlook : Outlook D} (h : OutlookFrom outlook) :
    CoherentChart fun view => (outlook.views view).points.map OutlookPoint.point := by
  obtain ⟨entries, point, hpoints, hsound⟩ := h
  simp only [hpoints, List.map_map]
  exact coherentChart_map fun entry hentry => (hsound entry hentry).coherent

theorem retainedPoints_something {data : View → GraphView D} {saved : Option Json} {view : View}
    {points : List SavedPoint} (hretained : retainedPoints ctx data saved view = .ok (some points)) :
    nothingSaved saved = false := by
  cases hnothing : nothingSaved saved with
  | false => rfl
  | true =>
      rw [retainedPoints_nothing hnothing] at hretained
      cases hretained

/-- Every outlook that is built is cut from sound entries. -/
theorem outlook_sound {data : View → GraphView D} (hdata : BuiltFrom zone records ctx data)
    {artifacts : Artifacts S D} {saved : Option Json} {allowProjection : Bool} {outlook : Outlook D}
    (houtlook : buildSeasonalOutlook M ctx data artifacts saved allowProjection =
      .ok (some outlook)) :
    OutlookFrom outlook := by
  obtain ⟨results, hpoints, hsound⟩ := hdata
  unfold buildSeasonalOutlook at houtlook
  -- the chart of the years has no outlook
  by_cases hperiod : ctx.period = .yearly
  · rw [if_pos hperiod] at houtlook
    cases houtlook
  rw [if_neg hperiod] at houtlook
  obtain ⟨projected, hprojected, houtlook⟩ := bind_eq_ok.1 houtlook
  obtain ⟨combined, hcombined, houtlook⟩ := bind_eq_ok.1 houtlook
  obtain ⟨regular, hregular, houtlook⟩ := bind_eq_ok.1 houtlook
  obtain ⟨feeding, hfeeding, houtlook⟩ := bind_eq_ok.1 houtlook
  obtain rfl := Option.some.inj (pure_eq_ok.1 houtlook)
  have hprojection := projectedPaths_projection hprojected
  refine ⟨ctx.seasonDates.zipIdx, _, fun _ => rfl, ?_⟩
  intro entry hentry
  -- the point of an entry sits at the entry's own place
  have hget : ctx.seasonDates.zipIdx[entry.2]? = some entry := by
    obtain ⟨n, hn⟩ := List.mem_iff_getElem?.1 hentry
    have hindex : entry.2 = n := by
      rw [List.getElem?_zipIdx] at hn
      obtain ⟨day, -, rfl⟩ := Option.map_eq_some_iff.1 hn
      simp
    rw [hindex, hn]
  have hcurrent : ctx.current ≤ entry.1 :=
    current_le_seasonDates hperiod (List.fst_mem_of_mem_zipIdx hentry)
  refine outlookPoint_sound hpoints hsound hprojection ?_ hcurrent hget
  intro view points hview
  -- each view keeps the points of its own season
  cases view with
  | combined =>
      obtain rfl : combined = some points := hview
      exact ⟨retainedPoints_something hcombined, retainedPoints_retained hcombined⟩
  | regular =>
      obtain rfl : regular = some points := hview
      exact ⟨retainedPoints_something hregular, retainedPoints_retained hregular⟩
  | feeding =>
      obtain rfl : feeding = some points := hview
      exact ⟨retainedPoints_something hfeeding, retainedPoints_retained hfeeding⟩

end Seasonal

/-! ## The requested calendar -/

section Range

variable {S W D : Type} [DecidableEq D] {M : Models S W} {zone : Zone}
  {records : List (IssueRecord D)} {ctx : Context S W D}

omit [DecidableEq D] in
variable (ctx) in
theorem displayed_coherent (point : View → GraphPoint D)
    (h : CoherentPoints (point .regular) (point .feeding) (point .combined))
    (actual : View → Option Int) (target : Int) :
    let shown (view : View) := displayed ctx (actual view) target (point view)
    CoherentPoints (shown .regular) (shown .feeding) (shown .combined) := by
  refine
    { regular_date := h.regular_date
      feeding_date := h.feeding_date
      past := ?_
      future := h.future }
  intro value hvalue
  obtain ⟨r, f, hr, hf, hsum⟩ := h.past value hvalue
  refine ⟨r, f, hr, hf, ?_⟩
  simp only [sameIssue_iff] at hsum ⊢
  exact hsum

omit [DecidableEq D] in
variable (ctx) in
/-- Only the past prediction of a completed period is replaced. -/
theorem completed_frame (issue : Option (Option (Issued D))) (comparison : Option Int) (view : View)
    (point : GraphPoint D) :
    (completed ctx issue comparison view point).date = point.date ∧
      (completed ctx issue comparison view point).futurePrediction = point.futurePrediction := by
  unfold completed
  cases issue with
  | some issue =>
      cases issue with
      | some issue => exact ⟨rfl, rfl⟩
      | none => exact ⟨rfl, rfl⟩
  | none =>
      simp only
      cases if view = .regular ∧ point.pastPrediction = none then comparison else none with
      | none => exact ⟨rfl, rfl⟩
      | some predicted => exact ⟨rfl, rfl⟩

omit [DecidableEq D] in
/-- A point that shows a past prediction, and for which nothing was issued, is kept. -/
theorem completed_kept {comparison : Option Int} {view : View} {point : GraphPoint D} {value : Int}
    (hvalue : point.pastPrediction = some value) :
    completed ctx none comparison view point = point := by
  have hnot : ¬(view = .regular ∧ point.pastPrediction = none) := by simp [hvalue]
  simp only [completed, if_neg hnot]

omit [DecidableEq D] in
/-- Completed periods stay coherent: the views take over one issue, or drop the combined prediction, or
keep what they show. -/
theorem completed_coherent (point : View → GraphPoint D)
    (h : CoherentPoints (point .regular) (point .feeding) (point .combined))
    {issued : View → Option (Option (Issued D))} (hissued : IssueCase issued)
    (comparison : Option Int) :
    let shown (view : View) := completed ctx (issued view) comparison view (point view)
    CoherentPoints (shown .regular) (shown .feeding) (shown .combined) := by
  intro shown
  have hframe (view : View) :=
    completed_frame ctx (issued view) comparison view (point view)
  refine
    { regular_date := by rw [(hframe .regular).1, (hframe .combined).1, h.regular_date]
      feeding_date := by rw [(hframe .feeding).1, (hframe .combined).1, h.feeding_date]
      past := ?_
      future := ?_ }
  · intro value hvalue
    cases hissued with
    | bundle run issue hissue hrun hsum =>
        simp only [shown, hissue, completed] at hvalue ⊢
        obtain rfl := Option.some.inj hvalue
        refine ⟨(issue .regular).value, (issue .feeding).value, rfl, rfl, ?_⟩
        rw [if_pos trivial]
        refine ⟨sameIssue_iff.2 ⟨run, ⟨rfl, ?_⟩, ⟨rfl, ?_⟩, rfl, ?_⟩, hsum⟩
        · rw [Option.map_some, hrun]
        · rw [Option.map_some, hrun]
        · rw [Option.map_some, hrun]
    | components hcombined =>
        simp only [shown, hcombined, completed] at hvalue
        cases hvalue
    | nothing hnone =>
        -- a comparison stands only where the regular view has no prediction of its own
        have hcombined : (point .combined).pastPrediction = some value := by
          simpa [shown, hnone, completed] using hvalue
        obtain ⟨r, f, hr, hf, hsum⟩ := h.past value hcombined
        have hkept (view : View) (other : Int) (hother : (point view).pastPrediction = some other) :
            shown view = point view := by
          simp only [shown, hnone]
          exact completed_kept hother
        rw [hkept .regular r hr, hkept .feeding f hf, hkept .combined value hcombined]
        exact ⟨r, f, hr, hf, hsum⟩
  · intro value hvalue
    rw [(hframe .combined).2] at hvalue
    rw [(hframe .regular).2, (hframe .feeding).2]
    exact h.future value hvalue

omit [DecidableEq D] in
theorem rangeIssues_case (first last target : Int) :
    IssueCase (rangeIssues zone records ctx first last target) := by
  unfold rangeIssues
  simp only
  split
  · exact issuedPredictions_case records ctx.period target ctx.asOf
  · exact IssueCase.nothing fun _ => rfl

variable (zone records ctx) in
/-- A report whose chart and outlook are each cut from one list. -/
structure SoundReport (saved : Report S D) : Prop where
  chart : BuiltFrom zone records ctx saved.chart.views
  outlook : ∀ outlook, saved.outlook = some outlook → OutlookFrom outlook

omit [DecidableEq D] in
/-- The saved points of a date come from one entry of one list, or there are none. -/
theorem SoundReport.savedPoint_coherent {saved : Report S D}
    (h : SoundReport zone records ctx saved) (target : Int) :
    let point (view : View) := (savedPoint saved view target).getD (blankPoint ctx target)
    CoherentPoints (point .regular) (point .feeding) (point .combined) := by
  intro point
  obtain ⟨results, hpoints, hsound⟩ := h.chart
  have hchart (view : View) := byDate_results hpoints view target
  -- the target is a point of the chart, or it lies in the outlook
  cases hfound : results.reverse.find? fun result => decide (result.target = target) with
  | some result =>
      have hpoint (view : View) : point view = graphPoint ctx zone records view result := by
        simp only [point, savedPoint, hchart view, hfound, Option.map_some, Option.some_or,
          Option.getD_some]
      have hmem := List.mem_reverse.1 (List.mem_of_find?_eq_some hfound)
      rw [hpoint .regular, hpoint .feeding, hpoint .combined]
      exact graphPoint_coherent (hsound result hmem)
  | none =>
      -- where neither has it, every view shows the same blank point
      have hblank : CoherentPoints (blankPoint ctx target : GraphPoint D) (blankPoint ctx target)
          (blankPoint ctx target) := by
        refine
          { regular_date := rfl
            feeding_date := rfl
            past := ?_
            future := ?_ }
        · intro value hvalue
          cases hvalue
        · intro value hvalue
          cases hvalue
      cases houtlook : saved.outlook with
      | none =>
          have hpoint (view : View) : point view = blankPoint ctx target := by
            simp only [point, savedPoint, hchart view, hfound, houtlook, Option.map_none,
              Option.none_or, Option.bind_none, Option.getD_none]
          rw [hpoint .regular, hpoint .feeding, hpoint .combined]
          exact hblank
      | some outlook =>
          obtain ⟨entries, cut, hcut, hentries⟩ := h.outlook outlook houtlook
          -- the outlook is cut from one list of entries, so a date finds one entry
          have hdates (view : View) :
              byDate ((outlook.views view).points.map OutlookPoint.point) target =
                (entries.reverse.find? fun entry => decide (entry.1 = target)).map
                  fun entry => (cut view entry).point := by
            rw [hcut view, List.map_map]
            exact byDate_map (fun entry hentry => (hentries entry hentry).date view) target
          cases hentry : entries.reverse.find? fun entry => decide (entry.1 = target) with
          | none =>
              have hpoint (view : View) : point view = blankPoint ctx target := by
                simp only [point, savedPoint, hchart view, hfound, houtlook, Option.map_none,
                  Option.none_or, Option.bind_some, hdates view, hentry, Option.getD_none]
              rw [hpoint .regular, hpoint .feeding, hpoint .combined]
              exact hblank
          | some entry =>
              have hpoint (view : View) : point view = (cut view entry).point := by
                simp only [point, savedPoint, hchart view, hfound, houtlook, Option.map_none,
                  Option.none_or, Option.bind_some, hdates view, hentry, Option.map_some,
                  Option.getD_some]
              have hmem := List.mem_reverse.1 (List.mem_of_find?_eq_some hentry)
              rw [hpoint .regular, hpoint .feeding, hpoint .combined]
              exact (hentries entry hmem).coherent

omit [DecidableEq D] in
/-- The points of a date of the requested calendar add up. -/
theorem rangePoint_coherent {saved : Report S D} (h : SoundReport zone records ctx saved)
    (sales : List DisplayedSale) (comparisons : Int → Option Int) (first last target : Int) :
    let point (view : View) :=
      rangePoint zone records ctx saved sales comparisons first last view target
    CoherentPoints (point .regular) (point .feeding) (point .combined) := by
  intro point
  let actual : View → Option Int :=
    actualOf (segmentTotal (sales.filter fun sale => decide (sale.day ≤ ctx.asOf))
      (fun day => boundary day ctx.period) target)
  let shown (view : View) : GraphPoint D :=
    displayed ctx (actual view) target ((savedPoint saved view target).getD (blankPoint ctx target))
  have hshown : CoherentPoints (shown .regular) (shown .feeding) (shown .combined) :=
    displayed_coherent ctx (fun view => (savedPoint saved view target).getD (blankPoint ctx target))
      (h.savedPoint_coherent target) actual target
  by_cases hpast : target < ctx.current
  · simp only [point, rangePoint, if_pos hpast]
    exact completed_coherent shown hshown (rangeIssues_case first last target) _
  · simp only [point, rangePoint, if_neg hpast]
    exact hshown

/-- What `checked` returns of a run with a valid checksum: the views as they were built, and any
components and outlook. -/
def SavedChart.run (saved : SavedChart zone records ctx) (artifacts : Artifacts S D)
    (outlook : Option Json) : SavedRun S D :=
  { views := saved.views
    artifacts := artifacts
    seasonalOutlook := outlook }

theorem report_sound {saved : Option (SavedChart zone records ctx)} {artifacts : Artifacts S D}
    {outlook : Option Json} {shown : Report S D}
    (hreport : report M zone records ctx (saved.map fun saved => saved.run artifacts outlook) =
      .ok shown) :
    SoundReport zone records ctx shown := by
  obtain ⟨chart, hchart, hreport⟩ := bind_eq_ok.1 hreport
  obtain ⟨built, hbuilt, hreport⟩ := bind_eq_ok.1 hreport
  obtain rfl := pure_eq_ok.1 hreport
  have hviews : (saved.map fun saved => saved.run artifacts outlook).map SavedRun.views =
      saved.map SavedChart.views := by
    rw [Option.map_map]
    rfl
  rw [hviews] at hchart
  have hsound := build_sound hchart
  refine
    { chart := hsound
      outlook := ?_ }
  intro outlook houtlook
  obtain rfl : built = some outlook := houtlook
  exact outlook_sound hsound hbuilt

/-- The calendar of a request shows coherent points only. -/
theorem rangeReport_coherent {saved : Option (SavedChart zone records ctx)}
    {artifacts : Artifacts S D} {outlook : Option Json} {sales : List DisplayedSale}
    {comparisons : Int → Option Int} {startDate endDate : Int} {range : RangeReport D}
    (hrange : rangeReport M zone records ctx (saved.map fun saved => saved.run artifacts outlook)
      sales comparisons startDate endDate = .ok range) :
    CoherentChart fun view => (range.views view).points := by
  obtain ⟨dates, -, hrange⟩ := bind_eq_ok.1 hrange
  obtain ⟨shown, hreport, hrange⟩ := bind_eq_ok.1 hrange
  have hsound := report_sound hreport
  cases hfirst : dates.head? with
  | none => simp [hfirst] at hrange
  | some first =>
      cases hlast : dates.getLast? with
      | none => simp [hfirst, hlast] at hrange
      | some last =>
          simp only [hfirst, hlast] at hrange
          obtain rfl := pure_eq_ok.1 hrange
          exact coherentChart_map fun target _ =>
            rangePoint_coherent hsound sales comparisons first last target

/-- The three charts of a context, over one saved chart. -/
structure CoherentPredictions (M : Models S W) (saved : Option (SavedChart zone records ctx)) :
    Prop where
  centered : ∀ (artifacts : Artifacts S D) (allowTraining : Bool) (chart : GraphChart S D),
    build M zone records ctx artifacts allowTraining (saved.map SavedChart.views) = .ok chart →
      CoherentChart fun view => (chart.views view).points
  outlook : ∀ (artifacts : Artifacts S D) (allowTraining : Bool) (chart : GraphChart S D),
    build M zone records ctx artifacts allowTraining (saved.map SavedChart.views) = .ok chart →
      ∀ (components : Artifacts S D) (json : Option Json) (allowProjection : Bool)
        (outlook : Outlook D),
        buildSeasonalOutlook M ctx chart.views components json allowProjection =
          .ok (some outlook) →
        CoherentChart fun view => (outlook.views view).points.map OutlookPoint.point
  range : ∀ (artifacts : Artifacts S D) (json : Option Json) (sales : List DisplayedSale)
    (comparisons : Int → Option Int) (startDate endDate : Int) (range : RangeReport D),
    rangeReport M zone records ctx (saved.map fun saved => saved.run artifacts json) sales
      comparisons startDate endDate = .ok range →
      CoherentChart fun view => (range.views view).points

/-- Combined predictions are coherent in the centered chart, in the seasonal outlook and over every
requested calendar, whatever has been saved. -/
theorem combined_predictions_coherent (M : Models S W)
    (saved : Option (SavedChart zone records ctx)) : CoherentPredictions M saved := by
  refine
    { centered := ?_
      outlook := ?_
      range := ?_ }
  · intro artifacts allowTraining chart hbuild
    exact (build_sound hbuild).coherent
  · intro artifacts allowTraining chart hbuild components json allowProjection outlook houtlook
    exact (outlook_sound (build_sound hbuild) houtlook).coherent
  · intro artifacts json sales comparisons startDate endDate range hrange
    exact rangeReport_coherent hrange

/-- A business that a fitted component expects `1000.00` a month of, regular or feeding. -/
def evenModels : Models Int Unit :=
  { trainedThrough := id
    project := fun _ steps =>
      pure (List.replicate steps.toNat
        { predicted := 100000
          lowerBound := 90000
          upperBound := 110000 })
    weeklyInsufficient := fun _ => true
    weeklyComponent := fun _ => pure (Component.withoutState "unavailable" none)
    train := fun _ _ => pure (Component.withoutState "insufficient" none) }

/-- The monthly chart of April 15, 2026, over components fitted through March. -/
def aprilContext : Context Int Unit Segment :=
  { period := .monthly
    scope := .real
    asOf := shiftMonth demoOrigin 3 + 14
    inputs := fun _ segment =>
      { rows := []
        primary := some (shiftMonth demoOrigin 2)
        signature := segment
        weekly := none
        primaryRequired := false
        cutoff := shiftMonth demoOrigin 3
        sourceRevision := segment }
    sales := []
    revision := .regular }

-- a saved chart is shown again as it was built, with nothing trained: three months before April have no
-- forecast, April and the three months after it have the sum of the two segments
example : ((do
    let saved ← saveChart Zone.fixed [] aprilContext evenModels fun _ => none
    let chart ← build evenModels Zone.fixed [] aprilContext (fun _ => none) false (some saved.views)
    pure ((chart.views .combined).points.map GraphPoint.futurePrediction)) :
      Except Raised (List (Option Int))) =
    .ok [none, none, none, some 200000, some 200000, some 200000, some 200000] := by
  decide +kernel

end Range

end Graph
end Forecasting
end RosarioDairy
