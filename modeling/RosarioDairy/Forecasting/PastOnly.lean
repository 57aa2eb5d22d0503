import RosarioDairy.Forecasting.Training
import RosarioDairy.Foundations.Checked

/-!
# PastOnly — model selection and walk-forward predictions use only the past

A candidate is selected by the folds before the test window, and every fold is predicted from the rows
before its own period.  Both are read off what the training programs return: `TrainedFrom` says of one
result which validation it was selected by and how its folds were predicted, and two histories that
agree on the rows which these read give the same.
-/

namespace RosarioDairy
namespace Forecasting

open Foundations

/-! ## Rows before a period -/

/-- Two histories that agree before a period agree on each row before it. -/
theorem getElem?_of_take_eq {R : Type} {rows rows' : List R} {n i : Nat}
    (hagree : rows.take n = rows'.take n) (hi : i < n) : rows[i]? = rows'[i]? := by
  have h : (rows.take n)[i]? = (rows'.take n)[i]? := by rw [hagree]
  rwa [List.getElem?_take_of_lt hi, List.getElem?_take_of_lt hi] at h

theorem take_of_take_eq {R : Type} {rows rows' : List R} {n i : Nat}
    (hagree : rows.take n = rows'.take n) (hi : i ≤ n) : rows.take i = rows'.take i := by
  have h : (rows.take n).take i = (rows'.take n).take i := by rw [hagree]
  rwa [List.take_take, List.take_take, Nat.min_eq_left hi] at h

/-! ## Folds -/

section Folds

variable {R F : Type} (W : Walker R F)

theorem walkFold_congr {name : String} {rows rows' : List R} {n index : Nat}
    (hagree : rows.take n = rows'.take n) (hindex : index < n) :
    walkFold W name rows index = walkFold W name rows' index := by
  have hrow : rows[index]? = rows'[index]? := getElem?_of_take_eq hagree hindex
  have hbefore : rows[index - 1]? = rows'[index - 1]? := getElem?_of_take_eq hagree (by omega)
  have hpast : rows.take index = rows'.take index := take_of_take_eq hagree (by omega)
  unfold walkFold
  rw [hrow, hbefore, hpast]

/-- The folds before a period read no row from that period on. -/
theorem walk_congr {name : String} {rows rows' : List R} {start stop : Nat}
    (hagree : rows.take stop = rows'.take stop) :
    walk W name rows start stop = walk W name rows' start stop := by
  refine mapM_congr ?_
  intro index hindex
  have hlt : index < stop := by
    have h := List.mem_range'_1.1 hindex
    omega
  exact walkFold_congr W hagree hlt

/-- The fold of a period, dated as the period and predicted from the rows strictly before it. -/
structure PredictedFrom (name : String) (rows : List R) (index : Nat) (fold : Fold F) : Prop where
  dated : rows[index]?.map W.date = some fold.date
  forecast : W.forecast name (rows.take index) = .ok (fold.predicted, fold.diagnostics)

theorem walkFold_predictedFrom {name : String} {rows : List R} {index : Nat} {fold : Fold F}
    (hfold : walkFold W name rows index = .ok fold) : PredictedFrom W name rows index fold := by
  obtain ⟨⟨predicted, diagnostics⟩, hforecast, hfold⟩ := bind_eq_ok.1 hfold
  cases hrow : rows[index]? with
  | none => simp [hrow] at hfold
  | some row =>
      cases hbefore : rows[index - 1]? with
      | none => simp [hrow, hbefore] at hfold
      | some before =>
          simp only [hrow, hbefore] at hfold
          obtain rfl := pure_eq_ok.1 hfold
          exact
            { dated := by rw [hrow]; rfl
              forecast := hforecast }

/-- The folds of a walk stand in the order of their periods. -/
theorem walk_predictedFrom {name : String} {rows : List R} {start stop : Nat} {folds : List (Fold F)}
    (hwalk : walk W name rows start stop = .ok folds) {k : Nat} {fold : Fold F}
    (hfold : folds[k]? = some fold) : PredictedFrom W name rows (start + k) fold := by
  have hall := mapM_eq_ok.1 hwalk
  obtain ⟨hk, hget⟩ := List.getElem?_eq_some_iff.1 hfold
  have hk' : k < (List.range' start (stop - start)).length := by rw [hall.length_eq]; exact hk
  have h := hall.get hk' hk
  rw [List.get_eq_getElem, List.get_eq_getElem, List.getElem_range', hget, Nat.one_mul] at h
  exact walkFold_predictedFrom W h

/-- Two histories that agree before a period predict it alike. -/
theorem PredictedFrom.agree {name : String} {rows rows' : List R} {index : Nat} {fold fold' : Fold F}
    (hpast : rows.take index = rows'.take index) (h : PredictedFrom W name rows index fold)
    (h' : PredictedFrom W name rows' index fold') :
    fold.predicted = fold'.predicted ∧ fold.diagnostics = fold'.diagnostics := by
  have hEq : (fold.predicted, fold.diagnostics) = (fold'.predicted, fold'.diagnostics) := by
    have hforecast := h.forecast
    rw [hpast, h'.forecast] at hforecast
    exact (Except.ok.inj hforecast).symm
  exact ⟨congrArg Prod.fst hEq, congrArg Prod.snd hEq⟩

end Folds

/-! ## Reports -/

/-- The folds that a candidate reports for its validation and for its test. -/
def CandidateReport.validationRows {F : Type} (report : CandidateReport F) : List (Fold F) :=
  match report.validation with
  | .ok result => result.rows
  | .error _ => []

def CandidateReport.testRows {F : Type} (report : CandidateReport F) : List (Fold F) :=
  match report.test with
  | some (.ok result) => result.rows
  | _ => []

/-- The fold reported for a period, where the test window starts at `testStart`. -/
def CandidateReport.foldAt {F : Type} (report : CandidateReport F)
    (validationStart testStart period : Nat) : Option (Fold F) :=
  if period < validationStart then none
  else if period < testStart then report.validationRows[period - validationStart]?
  else report.testRows[period - testStart]?

section Reports

variable {R F : Type} [LinearOrder F] (W : Walker R F) (A : Arithmetic F)

/-- Every fold that a candidate reports is predicted from the rows before its own period. -/
structure ReportedFrom (rows : List R) (validationStart testStart : Nat)
    (report : CandidateReport F) : Prop where
  validation : ∀ k fold, report.validationRows[k]? = some fold →
    PredictedFrom W report.name rows (validationStart + k) fold
  test : ∀ k fold, report.testRows[k]? = some fold →
    PredictedFrom W report.name rows (testStart + k) fold

variable {W} in
omit [LinearOrder F] in
theorem ReportedFrom.foldAt {rows : List R} {validationStart testStart period : Nat}
    {report : CandidateReport F} (h : ReportedFrom W rows validationStart testStart report)
    {fold : Fold F} (hfold : report.foldAt validationStart testStart period = some fold) :
    PredictedFrom W report.name rows period fold := by
  unfold CandidateReport.foldAt at hfold
  by_cases hearly : period < validationStart
  · simp [hearly] at hfold
  · by_cases hvalidation : period < testStart
    · rw [if_neg hearly, if_pos hvalidation] at hfold
      have hpast := h.validation _ fold hfold
      rwa [Nat.add_sub_cancel' (by omega)] at hpast
    · rw [if_neg hearly, if_neg hvalidation] at hfold
      have hpast := h.test _ fold hfold
      rwa [Nat.add_sub_cancel' (by omega)] at hpast

theorem attempt_eq_ok {α : Type} {call : Except Raised α} {a : α} :
    attempt call = .ok (.ok a) ↔ call = .ok a := by
  cases call with
  | ok b => simp [attempt]
  | error e =>
      cases e with
      | caught reason => simp [attempt]
      | other error => simp [attempt]

theorem attempt_map_scored {rows : List R} {name : String} {start stop : Nat}
    {outcome : Except String (List (Fold F))} {result : Scored F}
    (houtcome : attempt (walk W name rows start stop) = .ok outcome)
    (hresult : outcome.map (scored A) = .ok result) :
    walk W name rows start stop = .ok result.rows := by
  cases outcome with
  | error reason => simp [Except.map] at hresult
  | ok folds =>
      have hEq : scored A folds = result := by simpa [Except.map] using hresult
      rw [attempt_eq_ok.1 houtcome, ← hEq]
      rfl

theorem validate_congr {primary names : List String} {rows rows' : List R} {start stop : Nat}
    (hagree : rows.take stop = rows'.take stop) :
    validate W A primary names rows start stop = validate W A primary names rows' start stop := by
  refine mapM_congr ?_
  intro name _
  rw [walk_congr W hagree]

theorem validate_reportedFrom {primary names : List String} {rows : List R} {start stop : Nat}
    {reports : List (CandidateReport F)}
    (hreports : validate W A primary names rows start stop = .ok reports) :
    ∀ report ∈ reports, ReportedFrom W rows start stop report := by
  intro report hreport
  obtain ⟨name, _, hname⟩ := mapM_mem hreports hreport
  obtain ⟨outcome, houtcome, hname⟩ := bind_eq_ok.1 hname
  obtain rfl := pure_eq_ok.1 hname
  refine
    { validation := ?_
      test := ?_ }
  · intro k fold hfold
    unfold CandidateReport.validationRows at hfold
    cases hmap : outcome.map (scored A) with
    | error reason => simp [hmap] at hfold
    | ok result =>
        simp only [hmap] at hfold
        exact walk_predictedFrom W (attempt_map_scored W A houtcome hmap) hfold
  · intro k fold hfold
    simp [CandidateReport.testRows] at hfold

theorem testEligible_reportedFrom {rows : List R} {start stop : Nat}
    {reports reports' : List (CandidateReport F)}
    (htest : testEligible W A rows stop reports = .ok reports')
    (hreports : ∀ report ∈ reports, ReportedFrom W rows start stop report) :
    ∀ report ∈ reports', ReportedFrom W rows start stop report := by
  intro report hreport
  obtain ⟨before, hbefore, hcall⟩ := mapM_mem htest hreport
  have hpast := hreports before hbefore
  by_cases heligible : before.eligible = true
  · rw [if_pos heligible] at hcall
    obtain ⟨outcome, houtcome, hcall⟩ := bind_eq_ok.1 hcall
    obtain rfl := pure_eq_ok.1 hcall
    refine
      { validation := hpast.validation
        test := ?_ }
    intro k fold hfold
    unfold CandidateReport.testRows at hfold
    cases hmap : outcome.map (scored A) with
    | error reason => simp [hmap] at hfold
    | ok result =>
        simp only [hmap] at hfold
        exact walk_predictedFrom W (attempt_map_scored W A houtcome hmap) hfold
  · rw [if_neg heligible] at hcall
    obtain rfl := pure_eq_ok.1 hcall
    exact hpast

end Reports

/-! ## What a training result was read off -/

section Selection

variable {R F S : Type} [LinearOrder F] (W : Walker R F) (A : Arithmetic F)

/-- The candidates a result names were selected by the folds before the test window, and the folds it
reports are predicted from the rows before them. -/
structure TrainedFrom (primary names baselines : List String) (rows : List R)
    (validationStart testStart : Nat) (result : TrainingResult F S) : Prop where
  selected : ∀ name, result.selectedCandidate = some name → ∃ reports,
    validate W A primary names rows validationStart testStart = .ok reports ∧
      bestOf primary reports = some name
  baseline : ∀ name, result.selectedBaseline = some name → ∃ reports,
    validate W A primary names rows validationStart testStart = .ok reports ∧
      bestOf baselines reports = some name
  reported : ∀ report ∈ result.candidates, ReportedFrom W rows validationStart testStart report

/-- A result that ends early and names at most the selected candidate. -/
theorem TrainedFrom.ended {primary names baselines : List String} {rows : List R}
    {validationStart testStart : Nat} {status : String} {selected reason : Option String}
    {reports reports' : List (CandidateReport F)}
    (hvalidate : validate W A primary names rows validationStart testStart = .ok reports)
    (hselected : ∀ name, selected = some name → bestOf primary reports = some name)
    (hreported : ∀ report ∈ reports', ReportedFrom W rows validationStart testStart report) :
    TrainedFrom W A primary names baselines rows validationStart testStart
      (TrainingResult.ended (S := S) status selected reason reports') := by
  refine
    { selected := ?_
      baseline := ?_
      reported := hreported }
  · intro name hname
    exact ⟨reports, hvalidate, hselected name hname⟩
  · intro name hname
    simp [TrainingResult.ended] at hname

/-- A result without candidates names none. -/
theorem TrainedFrom.insufficient {primary names baselines : List String} {rows : List R}
    {validationStart testStart : Nat} {status : String} :
    TrainedFrom W A primary names baselines rows validationStart testStart
      (TrainingResult.ended (S := S) status none none []) := by
  refine
    { selected := ?_
      baseline := ?_
      reported := ?_ }
  · intro name hname
    simp [TrainingResult.ended] at hname
  · intro name hname
    simp [TrainingResult.ended] at hname
  · intro report hreport
    simp [TrainingResult.ended] at hreport

theorem train_trainedFrom {M : MonthlyModels F S} {rows : List (MonthRow F)}
    {result : TrainingResult F S} (htrain : train A M rows = .ok result) :
    TrainedFrom (monthlyWalker M) A sarimaNames candidates benchmarks rows
      (rows.length - testMonths - validationMonths) (rows.length - testMonths) result := by
  unfold train at htrain
  -- too short a history ends without any report
  by_cases hlength : rows.length < minTrainingMonths
  · rw [if_pos hlength] at htrain
    obtain rfl := pure_eq_ok.1 htrain
    exact TrainedFrom.insufficient _ A
  · rw [if_neg hlength] at htrain
    by_cases hmissing : noMissingMonths rows = false
    · simp [hmissing] at htrain
    · rw [if_neg hmissing] at htrain
      obtain ⟨reports, hvalidate, htrain⟩ := bind_eq_ok.1 htrain
      -- every report of the validation comes from folds before the test
      have hreported := validate_reportedFrom (monthlyWalker M) A hvalidate
      cases hselected : bestOf sarimaNames reports with
      | none =>
          simp only [hselected] at htrain
          obtain rfl := pure_eq_ok.1 htrain
          exact TrainedFrom.ended _ A hvalidate (by simp) hreported
      | some selected =>
          simp only [hselected] at htrain
          cases hbaseline : bestOf benchmarks reports with
          | none =>
              simp only [hbaseline] at htrain
              obtain rfl := pure_eq_ok.1 htrain
              exact TrainedFrom.ended _ A hvalidate (fun _ h => hselected.trans h) hreported
          | some baseline =>
              simp only [hbaseline] at htrain
              obtain ⟨tested, htest, htrain⟩ := bind_eq_ok.1 htrain
              -- the test adds the folds of its own months to the reports
              have htested := testEligible_reportedFrom (monthlyWalker M) A htest hreported
              cases hscored : testOf tested selected with
              | none =>
                  simp only [hscored] at htrain
                  obtain rfl := pure_eq_ok.1 htrain
                  exact TrainedFrom.ended _ A hvalidate (fun _ h => hselected.trans h) htested
              | some selectedTest =>
                  simp only [hscored] at htrain
                  obtain ⟨refit, -, htrain⟩ := bind_eq_ok.1 htrain
                  -- the refit is of all rows and changes no report
                  cases refit with
                  | error reason =>
                      obtain rfl := pure_eq_ok.1 htrain
                      exact TrainedFrom.ended _ A hvalidate (fun _ h => hselected.trans h) htested
                  | ok fitted =>
                      obtain rfl := pure_eq_ok.1 htrain
                      exact
                        { selected := fun name h => ⟨reports, hvalidate, hselected.trans h⟩
                          baseline := fun name h => ⟨reports, hvalidate, hbaseline.trans h⟩
                          reported := htested }

theorem trainWeekly_trainedFrom {M : WeeklyModels F S} {rows : List (WeekRow F)}
    {result : TrainingResult F S} (htrain : trainWeekly A M rows = .ok result) :
    TrainedFrom (weeklyWalker A M) A weeklyConfigs (weeklyConfigs ++ weeklyBaselines) weeklyBaselines
      rows (rows.length - testWeeks - validationWeeks) (rows.length - testWeeks) result := by
  unfold trainWeekly at htrain
  by_cases hlength : rows.length < minWeeks
  · rw [if_pos hlength] at htrain
    obtain rfl := pure_eq_ok.1 htrain
    exact TrainedFrom.insufficient _ A
  · rw [if_neg hlength] at htrain
    obtain ⟨reports, hvalidate, htrain⟩ := bind_eq_ok.1 htrain
    -- the validation reports, from folds before the test
    have hreported := validate_reportedFrom (weeklyWalker A M) A hvalidate
    cases hselected : bestOf weeklyConfigs reports with
    | none =>
        simp only [hselected] at htrain
        obtain rfl := pure_eq_ok.1 htrain
        exact TrainedFrom.ended _ A hvalidate (by simp) hreported
    | some selected =>
        cases hbaseline : bestOf weeklyBaselines reports with
        | none =>
            simp only [hselected, hbaseline] at htrain
            obtain rfl := pure_eq_ok.1 htrain
            exact TrainedFrom.ended _ A hvalidate (by simp) hreported
        | some baseline =>
            simp only [hselected, hbaseline] at htrain
            obtain ⟨tested, htest, htrain⟩ := bind_eq_ok.1 htrain
            have htested := testEligible_reportedFrom (weeklyWalker A M) A htest hreported
            -- both ways of failing keep the selection and the reports
            have hfailed (reason : Option String) :
                TrainedFrom (weeklyWalker A M) A weeklyConfigs (weeklyConfigs ++ weeklyBaselines)
                  weeklyBaselines rows (rows.length - testWeeks - validationWeeks)
                  (rows.length - testWeeks)
                  (TrainingResult.ended (S := S) "selected_model_failed" (some selected) reason
                    tested) :=
              TrainedFrom.ended _ A hvalidate (fun _ h => hselected.trans h) htested
            cases hscored : testOf tested selected with
            | none =>
                simp only [hscored] at htrain
                obtain rfl := pure_eq_ok.1 htrain
                exact hfailed none
            | some selectedTest =>
                cases hcompared : testOf tested baseline with
                | none =>
                    simp only [hscored, hcompared] at htrain
                    obtain rfl := pure_eq_ok.1 htrain
                    exact hfailed none
                | some baselineTest =>
                    simp only [hscored, hcompared] at htrain
                    obtain ⟨refit, -, htrain⟩ := bind_eq_ok.1 htrain
                    cases refit with
                    | error reason =>
                        obtain rfl := pure_eq_ok.1 htrain
                        exact hfailed (some reason)
                    | ok fitted =>
                        obtain rfl := pure_eq_ok.1 htrain
                        exact
                          { selected := fun name h => ⟨reports, hvalidate, hselected.trans h⟩
                            baseline := fun name h => ⟨reports, hvalidate, hbaseline.trans h⟩
                            reported := htested }

end Selection

/-! ## Two histories -/

/-- Where both results name a candidate, they name the same one. -/
def SameWhereNamed (first second : Option String) : Prop :=
  ∀ name ∈ first, ∀ name' ∈ second, name = name'

/-- A training program with a walk-forward selects by the rows before its test window, and reports for
a period only what the rows strictly before it predict. -/
structure WalkForwardUsesPast {R F S : Type} (W : Walker R F) (validationPeriods testPeriods : Nat)
    (program : List R → Except Raised (TrainingResult F S)) : Prop where
  selection : ∀ rows rows' result result',
    rows.map W.date = rows'.map W.date →
    rows.take (rows.length - testPeriods) = rows'.take (rows.length - testPeriods) →
    program rows = .ok result → program rows' = .ok result' →
      SameWhereNamed result.selectedCandidate result'.selectedCandidate ∧
        SameWhereNamed result.selectedBaseline result'.selectedBaseline
  dated : ∀ rows result period, program rows = .ok result → ∀ report ∈ result.candidates, ∀ fold,
    report.foldAt (rows.length - testPeriods - validationPeriods) (rows.length - testPeriods) period =
        some fold →
      rows[period]?.map W.date = some fold.date
  predictions : ∀ rows rows' result result' period,
    rows.map W.date = rows'.map W.date →
    rows.take period = rows'.take period →
    program rows = .ok result → program rows' = .ok result' →
      ∀ report ∈ result.candidates, ∀ report' ∈ result'.candidates, report.name = report'.name →
      ∀ fold fold',
        report.foldAt (rows.length - testPeriods - validationPeriods) (rows.length - testPeriods)
            period = some fold →
        report'.foldAt (rows.length - testPeriods - validationPeriods) (rows.length - testPeriods)
            period = some fold' →
          fold.predicted = fold'.predicted ∧ fold.diagnostics = fold'.diagnostics

theorem length_eq_of_dates {R : Type} {date : R → Int} {rows rows' : List R}
    (hdates : rows.map date = rows'.map date) : rows.length = rows'.length := by
  simpa using congrArg List.length hdates

/-- Whatever program only returns such results uses only the past. -/
theorem walkForwardUsesPast_of_trainedFrom {R F S : Type} [LinearOrder F] {W : Walker R F}
    {A : Arithmetic F} {primary names baselines : List String} {validationPeriods testPeriods : Nat}
    {program : List R → Except Raised (TrainingResult F S)}
    (hprogram : ∀ rows result, program rows = .ok result →
      TrainedFrom W A primary names baselines rows (rows.length - testPeriods - validationPeriods)
        (rows.length - testPeriods) result) :
    WalkForwardUsesPast W validationPeriods testPeriods program := by
  refine
    { selection := ?_
      dated := ?_
      predictions := ?_ }
  · -- the choice is read from the validation, which does not see later rows
    intro rows rows' result result' hdates hagree hrun hrun'
    have h := hprogram rows result hrun
    have h' := hprogram rows' result' hrun'
    rw [← length_eq_of_dates hdates] at h'
    have hvalidate :
        validate W A primary names rows (rows.length - testPeriods - validationPeriods)
            (rows.length - testPeriods) =
          validate W A primary names rows' (rows.length - testPeriods - validationPeriods)
            (rows.length - testPeriods) :=
      validate_congr W A hagree
    constructor
    · intro name hname name' hname'
      obtain ⟨reports, hreports, hbest⟩ := h.selected name hname
      obtain ⟨reports', hreports', hbest'⟩ := h'.selected name' hname'
      rw [hvalidate, hreports'] at hreports
      obtain rfl := Except.ok.inj hreports
      exact Option.some.inj (hbest.symm.trans hbest')
    · intro name hname name' hname'
      obtain ⟨reports, hreports, hbest⟩ := h.baseline name hname
      obtain ⟨reports', hreports', hbest'⟩ := h'.baseline name' hname'
      rw [hvalidate, hreports'] at hreports
      obtain rfl := Except.ok.inj hreports
      exact Option.some.inj (hbest.symm.trans hbest')
  · -- a fold is dated by its rows
    intro rows result period hrun report hreport fold hfold
    exact (((hprogram rows result hrun).reported report hreport).foldAt hfold).dated
  · -- two runs that agree on the past agree on the folds of the past
    intro rows rows' result result' period hdates hpast hrun hrun' report hreport report' hreport'
      hname fold fold' hfold hfold'
    have h := ((hprogram rows result hrun).reported report hreport).foldAt hfold
    rw [length_eq_of_dates hdates] at hfold'
    have h' := ((hprogram rows' result' hrun').reported report' hreport').foldAt hfold'
    rw [← hname] at h'
    exact h.agree W hpast h'

/-! ## Provisional training -/

section Provisional

variable {F S : Type} [LinearOrder F] (A : Arithmetic F) (M : ProvisionalModels F S)

/-- The periods in which something has been recorded. -/
def observedPattern (rows : List (ObservedRow F)) : List Bool :=
  rows.map fun row => row.actual.isSome

omit [LinearOrder F] in
theorem observedIndices_eq_of_pattern {rows rows' : List (ObservedRow F)}
    (hpattern : observedPattern rows = observedPattern rows') :
    observedIndices rows = observedIndices rows' := by
  have hlength : rows.length = rows'.length := by
    simpa [observedPattern] using congrArg List.length hpattern
  unfold observedIndices
  rw [hlength]
  refine List.filter_congr ?_
  intro index _
  have hindex : (observedPattern rows)[index]? = (observedPattern rows')[index]? := by rw [hpattern]
  simp only [observedPattern, List.getElem?_map] at hindex
  cases hrow : rows[index]? with
  | none =>
      cases hrow' : rows'[index]? with
      | none => rfl
      | some row' => simp [hrow, hrow'] at hindex
  | some row =>
      cases hrow' : rows'[index]? with
      | none => simp [hrow, hrow'] at hindex
      | some row' => simpa [hrow, hrow'] using hindex

omit [LinearOrder F] in
theorem countP_take_of_pattern {rows rows' : List (ObservedRow F)} (n : Nat)
    (hpattern : observedPattern rows = observedPattern rows') :
    (rows.take n).countP (fun row => row.actual.isSome) =
      (rows'.take n).countP fun row => row.actual.isSome := by
  have hcount (rows : List (ObservedRow F)) :
      (rows.take n).countP (fun row => row.actual.isSome) =
        ((observedPattern rows).take n).countP id := by
    rw [observedPattern, ← List.map_take, List.countP_map]
    rfl
  rw [hcount, hcount, hpattern]

/-- The observed periods stand in order, so the validation window starts before the test window. -/
theorem observedIndices_pairwise {F : Type} (rows : List (ObservedRow F)) :
    (observedIndices rows).Pairwise (· < ·) :=
  List.Pairwise.filter _ List.pairwise_lt_range

theorem validationIndexOf_le_testIndexOf {F : Type} (rows : List (ObservedRow F)) :
    validationIndexOf rows ≤ testIndexOf rows := by
  unfold validationIndexOf testIndexOf
  by_cases hempty : (observedIndices rows).length = 0
  · have hnil : observedIndices rows = [] := List.eq_nil_of_length_eq_zero hempty
    simp [hnil]
  · have hholdout : 0 < holdoutOf (observedIndices rows).length := by
      unfold holdoutOf
      omega
    have htest : (observedIndices rows).length - holdoutOf (observedIndices rows).length <
        (observedIndices rows).length := by omega
    have hvalidation : (observedIndices rows).length - 2 * holdoutOf (observedIndices rows).length <
        (observedIndices rows).length := by omega
    simp only [List.getD_eq_getElem?_getD, List.getElem?_eq_getElem htest,
      List.getElem?_eq_getElem hvalidation, Option.getD_some]
    rcases Nat.lt_or_ge
        ((observedIndices rows).length - 2 * holdoutOf (observedIndices rows).length)
        ((observedIndices rows).length - holdoutOf (observedIndices rows).length) with hlt | hge
    · exact Nat.le_of_lt (List.pairwise_iff_getElem.1 (observedIndices_pairwise rows) _ _ _ _ hlt)
    · exact Nat.le_of_eq (getElem_congr_idx (by omega))

/-- The validation reads no amount from the test window on. -/
theorem validateProvisional_congr {rows rows' : List (ObservedRow F)} {weekly : Bool}
    {validationIndex testIndex season : Nat}
    (hpattern : observedPattern rows = observedPattern rows')
    (hagree : rows.take testIndex = rows'.take testIndex) (hle : validationIndex ≤ testIndex) :
    validateProvisional A M rows weekly validationIndex testIndex season =
      validateProvisional A M rows' weekly validationIndex testIndex season := by
  have hcandidates : provisionalCandidates rows validationIndex season =
      provisionalCandidates rows' validationIndex season := by
    unfold provisionalCandidates
    rw [countP_take_of_pattern validationIndex hpattern]
  have hfit : rows.take validationIndex = rows'.take validationIndex := take_of_take_eq hagree hle
  unfold validateProvisional
  rw [hcandidates, hfit, hagree]

theorem fitProvisional_name {F S : Type} (M : ProvisionalModels F S) {name : String}
    {rows : List (ObservedRow F)} {season : Nat} {state : ProvisionalState S}
    (hfit : fitProvisional M name rows season = .ok state) : state.name = name := by
  obtain ⟨fitted, -, hfit⟩ := bind_eq_ok.1 hfit
  cases hlast : rows.getLast? with
  | none => simp [hlast] at hfit
  | some last =>
      simp only [hlast] at hfit
      obtain rfl := pure_eq_ok.1 hfit
      rfl

/-- What names the candidate of a result: the validation of the rows before the test window. -/
theorem trainProvisional_named {rows : List (ObservedRow F)} {weekly : Bool}
    {result : ProvisionalResult F S} (htrain : trainProvisional A M rows weekly = .ok result)
    {name : String} (hname : result.named = some name) :
    ∃ results, validateProvisional A M rows weekly (validationIndexOf rows) (testIndexOf rows)
        (if weekly then 52 else 12) = .ok results ∧ rankedFirst results = some name := by
  unfold trainProvisional at htrain
  by_cases hobserved : (observedIndices rows).length < 6
  · simp only [hobserved, if_true] at htrain
    obtain rfl := pure_eq_ok.1 htrain
    simp [ProvisionalResult.named] at hname
  · simp only [hobserved, if_false] at htrain
    obtain ⟨results, hvalidate, htrain⟩ := bind_eq_ok.1 htrain
    refine ⟨results, hvalidate, ?_⟩
    cases hranked : rankedFirst results with
    | none =>
        simp only [hranked] at htrain
        obtain rfl := pure_eq_ok.1 htrain
        simp [ProvisionalResult.named] at hname
    | some first =>
        -- the state that is kept was fitted under the first name of the ranking
        simp only [hranked] at htrain
        obtain ⟨outcome, houtcome, htrain⟩ := bind_eq_ok.1 htrain
        cases outcome with
        | error reason =>
            obtain rfl := pure_eq_ok.1 htrain
            exact hname
        | ok tested =>
            obtain rfl := pure_eq_ok.1 htrain
            have hstate : tested.1.name = first := by
              obtain ⟨testState, -, htested⟩ := bind_eq_ok.1 (attempt_eq_ok.1 houtcome)
              obtain ⟨test, -, htested⟩ := bind_eq_ok.1 htested
              obtain ⟨state, hstate, htested⟩ := bind_eq_ok.1 htested
              obtain ⟨_, -, htested⟩ := bind_eq_ok.1 htested
              obtain rfl := pure_eq_ok.1 htested
              exact fitProvisional_name M hstate
            rw [← hstate]
            exact hname

/-- The provisional program selects by the amounts before its test window. -/
def ProvisionalUsesPast : Prop :=
  ∀ (weekly : Bool) (rows rows' : List (ObservedRow F)) (result result' : ProvisionalResult F S),
    rows.map ObservedRow.date = rows'.map ObservedRow.date →
    observedPattern rows = observedPattern rows' →
    rows.take (testIndexOf rows) = rows'.take (testIndexOf rows) →
    trainProvisional A M rows weekly = .ok result →
    trainProvisional A M rows' weekly = .ok result' →
      SameWhereNamed result.named result'.named

theorem provisionalUsesPast : ProvisionalUsesPast A M := by
  intro weekly rows rows' result result' _ hpattern hagree hrun hrun' name hname name' hname'
  obtain ⟨results, hresults, hranked⟩ := trainProvisional_named A M hrun hname
  obtain ⟨results', hresults', hranked'⟩ := trainProvisional_named A M hrun' hname'
  have hobserved := observedIndices_eq_of_pattern hpattern
  have htest : testIndexOf rows = testIndexOf rows' := by rw [testIndexOf, testIndexOf, hobserved]
  have hvalidation : validationIndexOf rows = validationIndexOf rows' := by
    rw [validationIndexOf, validationIndexOf, hobserved]
  rw [validateProvisional_congr A M hpattern hagree (validationIndexOf_le_testIndexOf rows), htest,
    hvalidation, hresults'] at hresults
  obtain rfl := Except.ok.inj hresults
  exact Option.some.inj (hranked.symm.trans hranked')

end Provisional

/-! ## The three programs -/

/-- Selection in all three programs, and every reported prediction of the two walk-forwards, uses only
the past, whatever the models are. -/
theorem model_selection_uses_past {F S T U : Type} [LinearOrder F] (A : Arithmetic F)
    (monthly : MonthlyModels F S) (weekly : WeeklyModels F T) (provisional : ProvisionalModels F U) :
    WalkForwardUsesPast (monthlyWalker monthly) validationMonths testMonths (train A monthly) ∧
      WalkForwardUsesPast (weeklyWalker A weekly) validationWeeks testWeeks (trainWeekly A weekly) ∧
      ProvisionalUsesPast A provisional :=
  ⟨walkForwardUsesPast_of_trainedFrom fun _ _ htrain => train_trainedFrom A htrain,
    walkForwardUsesPast_of_trainedFrom fun _ _ htrain => trainWeekly_trainedFrom A htrain,
    provisionalUsesPast A provisional⟩

end Forecasting
end RosarioDairy
