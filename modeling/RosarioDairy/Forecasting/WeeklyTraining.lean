import RosarioDairy.Forecasting.WeeklyModel

/-!
# Weekly training — a fit validates against its own history

The checks recompute, from the folds a training retains, the windows, scores, eligible candidates and
winners.  On the rows it was trained on they all agree, and the only thing that can make them fail is a
score that is not a number, which equals nothing; on rows with another length, another last date or
another value they fail.
-/

namespace RosarioDairy
namespace Forecasting
namespace Weekly

open Foundations

/-! ## Literals -/

theorem literal_eq {numerator : Int} {denominator n k : Nat}
    (hvalue : (numerator : ℚ) / denominator = n * 2 ^ k) (hn : n ≤ 2 ^ 53)
    (hmax : (n : ℚ) * 2 ^ k < 2 ^ 1024) :
    ∃ y : FiniteDouble, literal numerator denominator = .finite y ∧ y.value = n * 2 ^ k := by
  have hnonneg : (0 : ℚ) ≤ n * 2 ^ k := mul_nonneg (Nat.cast_nonneg n) (pow_nonneg zero_le_two k)
  have hgrid : OnGrid ((n : ℚ) * 2 ^ k) := ⟨n, k, hn, by omega, by norm_cast⟩
  have hnearest := nearest_onGrid hnonneg hgrid
  have hfits : nearest ((n : ℚ) * 2 ^ k) < 2 ^ 1024 := by
    rw [hnearest]
    exact hmax
  obtain ⟨y, hy, hyvalue⟩ := Double.ofRat_of_nonneg hnonneg hfits
  refine ⟨y, ?_, hyvalue.trans hnearest⟩
  rw [literal, hvalue, hy]

theorem two_pow_lt_of {n k : Nat} (hn : n ≤ 2 ^ 53) (hk : k < 900) : (n : ℚ) * 2 ^ k < 2 ^ 1024 := by
  have hexponent : 53 + k < 1024 := by omega
  calc (n : ℚ) * 2 ^ k ≤ 2 ^ 53 * 2 ^ k := by
        refine mul_le_mul_of_nonneg_right ?_ (by positivity)
        exact_mod_cast hn
    _ = 2 ^ (53 + k) := by ring
    _ < 2 ^ 1024 := pow_lt_pow_right₀ (by norm_num) hexponent

theorem zero_eq : ∃ y : FiniteDouble, zero = .finite y ∧ y.value = 0 := by
  obtain ⟨y, hy, hvalue⟩ := @literal_eq 0 1 0 0 (by norm_num) (by norm_num)
    (two_pow_lt_of (by norm_num) (by norm_num))
  exact ⟨y, hy, by simpa using hvalue⟩

theorem currencyLimit_eq :
    ∃ y : FiniteDouble, currencyLimit = .finite y ∧ y.value = ((7812499999999999 + 1 : ℕ) : ℚ) * 2 ^ 7 := by
  obtain ⟨y, hy, hvalue⟩ := @literal_eq (10 ^ 18) 1 (7812499999999999 + 1) 7 (by norm_num)
    (by norm_num) (two_pow_lt_of (by norm_num) (by norm_num))
  exact ⟨y, hy, hvalue⟩

theorem tolerance_eq :
    ∃ y : FiniteDouble, tolerance = .finite y ∧ y.value = (5764607523034235 : ℕ) * 2 ^ (-60 : Int) := by
  have hnearest : nearest (5 / 1000) = (5764607523034235 : ℕ) * 2 ^ (-60 : Int) := by decide +kernel
  have hfits : nearest (5 / 1000) < 2 ^ 1024 := by
    rw [hnearest]
    exact lt_of_lt_of_le (by norm_num : _ < (1 : ℚ)) (one_le_pow₀ (by norm_num))
  obtain ⟨y, hy, hvalue⟩ := Double.ofRat_of_nonneg (by norm_num) hfits
  refine ⟨y, ?_, hvalue.trans hnearest⟩
  rw [← hy, tolerance, literal]
  norm_num

/-- `.01` -/
def doubleTolerance : Double := literal 1 100

theorem doubleTolerance_eq : ∃ y : FiniteDouble, doubleTolerance = .finite y ∧
    y.value = (5764607523034235 : ℕ) * 2 ^ (-60 + 1 : Int) := by
  have hnearest : nearest (1 / 100) = (5764607523034235 : ℕ) * 2 ^ (-60 + 1 : Int) := by
    decide +kernel
  have hfits : nearest (1 / 100) < 2 ^ 1024 := by
    rw [hnearest]
    exact lt_of_lt_of_le (by norm_num : _ < (1 : ℚ)) (one_le_pow₀ (by norm_num))
  obtain ⟨y, hy, hvalue⟩ := Double.ofRat_of_nonneg (by norm_num) hfits
  refine ⟨y, ?_, hvalue.trans hnearest⟩
  rw [← hy, doubleTolerance, literal]
  norm_num

theorem isCurrency_iff (value : Double) : isCurrency value = true ↔
    ∃ y : FiniteDouble, value = .finite y ∧ 0 ≤ y.value ∧
      y.value < ((7812499999999999 + 1 : ℕ) : ℚ) * 2 ^ 7 := by
  obtain ⟨z, hz, hzero⟩ := zero_eq
  obtain ⟨c, hc, hlimit⟩ := currencyLimit_eq
  unfold isCurrency
  rw [hz, hc]
  cases value with
  | nan => simp [Double.isFinite]
  | infinity s => simp [Double.isFinite]
  | finite y =>
      simp only [Double.isFinite, Double.le, Double.lt, Double.beq, hzero, hlimit, Bool.true_and,
        Bool.and_eq_true, Bool.or_eq_true, decide_eq_true_eq, Double.finite.injEq, exists_eq_left',
        le_iff_lt_or_eq]

/-- What the conversion to currency lets through is an amount of currency. -/
theorem currency_ok {value result : Double} (h : currency value = .ok result) :
    isCurrency result = true := by
  unfold currency at h
  by_cases hbad : value.isFinite = false ∨ currencyLimit.le value = true
  · rw [if_pos hbad] at h
    cases h
  · rw [if_neg hbad, not_or] at *
    obtain ⟨hfinite, hlimit⟩ := hbad
    obtain ⟨z, hz, hzero⟩ := zero_eq
    obtain ⟨c, hc, hlimitValue⟩ := currencyLimit_eq
    cases value with
    | nan => simp [Double.isFinite] at hfinite
    | infinity s => simp [Double.isFinite] at hfinite
    | finite x =>
        rw [hc] at hlimit
        have hlt : x.value < ((7812499999999999 + 1 : ℕ) : ℚ) * 2 ^ 7 := by
          simp only [Double.le, Double.lt, Double.beq, Bool.or_eq_true, decide_eq_true_eq, not_or,
            hlimitValue] at hlimit
          exact lt_of_le_of_ne (not_lt.1 hlimit.1) fun hEq => hlimit.2 hEq.symm
        -- what is rounded is the value itself or zero
        obtain ⟨w, hw, hnonneg, hwlt⟩ : ∃ w : FiniteDouble,
            (if zero.lt (.finite x) then Double.finite x else zero) = .finite w ∧ 0 ≤ w.value ∧
              w.value < ((7812499999999999 + 1 : ℕ) : ℚ) * 2 ^ 7 := by
          by_cases hpos : zero.lt (.finite x) = true
          · refine ⟨x, by rw [if_pos hpos], ?_, hlt⟩
            rw [hz] at hpos
            have hposValue : z.value < x.value := of_decide_eq_true hpos
            rw [hzero] at hposValue
            exact hposValue.le
          · refine ⟨z, by rw [if_neg hpos, hz], hzero.ge, ?_⟩
            rw [hzero]
            positivity
        rw [hw] at h
        obtain ⟨y, hy, hynonneg, hyle⟩ := Double.roundPlaces_bounds 2 (by norm_num) (by norm_num)
          (two_pow_lt_of (by norm_num) (by norm_num)) hnonneg hwlt
        rw [hy] at h
        obtain rfl := Except.ok.inj h
        refine (isCurrency_iff _).2 ⟨y, rfl, hynonneg, hyle.trans_lt ?_⟩
        norm_num

/-! ## Fits and folds -/

/-- An artifact and a prediction that a fit of some rows may return. -/
structure Fitted (library : Statsmodels) (name : Config) (rows : List Row) (artifact : Artifact)
    (value : Double) : Prop where
  valid : validWeeklyArtifact library artifact = true
  name : artifact.name = name
  weeks : artifact.trainingWeeks = rows.length
  last : artifact.trainedThrough = (rowAt rows (rows.length - 1)).date
  history : ∀ entry ∈ artifact.normalizedHistory.zip rows,
    close (entry.1.mul artifact.scale) entry.2.revenue = true
  prediction : isCurrency value = true

/-- Fitting raises, or returns what may be returned. -/
def FitSpec (library : Statsmodels) (fit : Fit) : Prop :=
  ∀ name rows artifact value, fit name rows = .ok (artifact, value) →
    Fitted library name rows artifact value

/-- Rows whose revenues are numbers in range. -/
def FiniteRows (rows : List Row) : Prop := ∀ row ∈ rows, row.revenue.isFinite = true

section Folds

variable {library : Statsmodels} {fit : Fit}

theorem predict_currency (hfit : FitSpec library fit) {name : CandidateName} {rows : List Row}
    {value : Double} (h : predict fit name rows = .ok value) : isCurrency value = true := by
  cases name with
  | baseline name => exact currency_ok h
  | config name =>
      unfold predict at h
      cases hresult : fit name rows with
      | error reason =>
          simp only [hresult] at h
          cases h
      | ok result =>
          obtain ⟨artifact, prediction⟩ := result
          simp only [hresult] at h
          obtain rfl := Except.ok.inj h
          exact (hfit name rows artifact prediction hresult).prediction

theorem rowAt_mem {rows : List Row} {i : Nat} (hi : i < rows.length) : rowAt rows i ∈ rows := by
  unfold rowAt
  rw [List.getD_eq_getElem?_getD, List.getElem?_eq_getElem hi, Option.getD_some]
  exact List.getElem_mem hi

theorem foldAt_ok {name : CandidateName} {rows : List Row} {i : Nat} {fold : Fold}
    (h : foldAt fit name rows i = .ok fold) :
    ∃ value, predict fit name (rows.take i) = .ok value ∧
      fold = { date := (rowAt rows i).date
               trainedThrough := (rowAt rows (i - 1)).date
               actual := (rowAt rows i).revenue
               predicted := value } := by
  unfold foldAt at h
  obtain ⟨value, hvalue, h⟩ := bind_eq_ok.1 h
  exact ⟨value, hvalue, (pure_eq_ok.1 h).symm⟩

/-- A fold of the rows is valid for them. -/
theorem foldAt_valid (hfit : FitSpec library fit) {name : CandidateName} {rows : List Row}
    (hrows : FiniteRows rows) {i : Nat} (hi : i < rows.length) {fold : Fold}
    (h : foldAt fit name rows i = .ok fold) : validFold rows (fold, i) = true := by
  obtain ⟨value, hvalue, rfl⟩ := foldAt_ok h
  have hfinite := hrows _ (rowAt_mem hi)
  simp only [validFold, beq_self_eq_true, Bool.true_and, hfinite, close,
    Double.isClose_self hfinite, predict_currency hfit hvalue]

theorem mapM_foldAt_valid (hfit : FitSpec library fit) {name : CandidateName} {rows : List Row}
    (hrows : FiniteRows rows) : ∀ (weeks start : Nat) (folds : List Fold),
      start + weeks ≤ rows.length → (List.range' start weeks).mapM (foldAt fit name rows) = .ok folds →
        folds.length = weeks ∧ (folds.zipIdx start).all (validFold rows) = true
  | 0, start, folds, _, h => by
      obtain rfl := pure_eq_ok.1 h
      exact ⟨rfl, rfl⟩
  | weeks + 1, start, folds, hend, h => by
      rw [List.range'_succ, List.mapM_cons] at h
      obtain ⟨fold, hfold, h⟩ := bind_eq_ok.1 h
      obtain ⟨rest, hrest, h⟩ := bind_eq_ok.1 h
      obtain rfl := pure_eq_ok.1 h
      obtain ⟨hlength, hvalid⟩ := mapM_foldAt_valid hfit hrows weeks (start + 1) rest (by omega) hrest
      refine ⟨by rw [List.length_cons, hlength], ?_⟩
      rw [List.zipIdx_cons, List.all_cons, hvalid,
        foldAt_valid hfit hrows (by omega) hfold, Bool.true_and]

/-- What a walk retains is valid for the rows it walked over. -/
theorem walkWeekly_valid (hfit : FitSpec library fit) {name : CandidateName} {rows : List Row}
    (hrows : FiniteRows rows) {start weeks : Nat} (hend : start + weeks ≤ rows.length)
    {folds : List Fold} (h : walkWeekly fit name rows start weeks = .ok folds) :
    folds.length = weeks ∧ validFolds folds rows start weeks = true := by
  obtain ⟨hlength, hvalid⟩ := mapM_foldAt_valid hfit hrows weeks start folds hend h
  refine ⟨hlength, ?_⟩
  rw [validFolds, hlength, hvalid]
  simp

end Folds

/-! ## Scores -/

/-- None of the scores is something that is not a number. -/
def Metrics.IsNumber (metrics : Metrics) : Prop :=
  (∀ value ∈ metrics.wapePercent, value.isNaN = false) ∧
    (∀ value ∈ metrics.mae, value.isNaN = false) ∧ ∀ value ∈ metrics.bias, value.isNaN = false

theorem sameMetric_self (metric : Option Double) :
    sameMetric metric metric = true ↔ ∀ value ∈ metric, value.isNaN = false := by
  cases metric with
  | none => simp [sameMetric]
  | some value => simp [sameMetric, Double.beq_self_iff]

/-- Only scores that are not a number differ from themselves. -/
theorem Metrics.same_self (metrics : Metrics) : metrics.same metrics = true ↔ metrics.IsNumber := by
  simp only [Metrics.same, Metrics.IsNumber, beq_self_eq_true, Bool.true_and, Bool.and_eq_true,
    sameMetric_self, and_assoc]

/-! ## Candidates -/

section Candidates

variable {library : Statsmodels} {fit : Fit} {rows : List Row}

theorem tested_validation (name : CandidateName) :
    (tested fit rows name).validation = (validated fit rows name).validation ∧
      (tested fit rows name).validationRows = (validated fit rows name).validationRows := by
  unfold tested
  dsimp only
  split
  · split
    · exact ⟨rfl, rfl⟩
    · exact ⟨rfl, rfl⟩
  · exact ⟨rfl, rfl⟩

/-- A candidate failed in the validation weeks, or carries its folds there with their score. -/
theorem validated_cases (hfit : FitSpec library fit) (hrows : FiniteRows rows)
    (hlength : minWeeks ≤ rows.length) (name : CandidateName) :
    ((validated fit rows name).validation = none ∧ (validated fit rows name).validationRows = none) ∨
      ∃ folds, (validated fit rows name).validation = some (score folds) ∧
        (validated fit rows name).validationRows = some folds ∧ folds.length = validationWeeks ∧
        validFolds folds rows (rows.length - testWeeks - validationWeeks) validationWeeks = true := by
  unfold validated
  cases hwalk : walkWeekly fit name rows (rows.length - testWeeks - validationWeeks)
      validationWeeks with
  | error reason => exact Or.inl ⟨rfl, rfl⟩
  | ok folds =>
      have hend : rows.length - testWeeks - validationWeeks + validationWeeks ≤ rows.length := by
        unfold minWeeks minTrain validationWeeks testWeeks at *
        omega
      exact Or.inr ⟨folds, rfl, rfl, walkWeekly_valid hfit hrows hend hwalk⟩

theorem lookup_names (f : CandidateName → Candidate) (name : CandidateName) :
    (names.map fun name => (name, f name)).lookup name = some (f name) := by
  cases name with
  | config name =>
      cases name with
      | weeklySarima010 => rfl
      | weeklySarima100 => rfl
      | weeklySarima011 => rfl
  | baseline name =>
      cases name with
      | previousWeek => rfl
      | trailing4Mean => rfl
      | sameWeekLastYear => rfl

/-- The recomputed validation error is the one the training chose by. -/
theorem eligibleWape_tested (hfit : FitSpec library fit) (hrows : FiniteRows rows)
    (hlength : minWeeks ≤ rows.length) (name : CandidateName) :
    eligibleWape (names.map fun name => (name, tested fit rows name)) name =
      (validated fit rows name).wapePercent := by
  unfold eligibleWape Candidate.wapePercent
  rw [lookup_names, Option.bind_some, (tested_validation name).2]
  rcases validated_cases hfit hrows hlength name with ⟨hnone, hnoRows⟩ | ⟨folds, hsome, hfolds, hn, _⟩
  · rw [hnone, hnoRows]
    rfl
  · rw [hsome, hfolds]
    cases folds with
    | nil => cases hn
    | cons fold rest => rfl

/-- The loop over the candidates accepts one if its validation scores are numbers. -/
theorem validCandidate_tested (hfit : FitSpec library fit) (hrows : FiniteRows rows)
    (hlength : minWeeks ≤ rows.length) (name : CandidateName) :
    validCandidate rows (tested fit rows name) = true ↔
      ∀ metrics ∈ (tested fit rows name).validation, metrics.IsNumber := by
  unfold validCandidate
  rw [(tested_validation name).1, (tested_validation name).2]
  rcases validated_cases hfit hrows hlength name with
    ⟨hnone, hnoRows⟩ | ⟨folds, hsome, hfolds, hn, hvalid⟩
  · rw [hnone, hnoRows]
    simp
  · rw [hsome, hfolds]
    cases folds with
    | nil => cases hn
    | cons fold rest => simp [hvalid, Metrics.same_self]

/-- An eligible candidate carries its test folds with their score, unless it failed there. -/
theorem tested_test (hfit : FitSpec library fit) (hrows : FiniteRows rows)
    (hlength : minWeeks ≤ rows.length) {name : CandidateName} {metrics : Metrics}
    (h : (tested fit rows name).test = some metrics) :
    ∃ folds, (tested fit rows name).testRows = some folds ∧ metrics = score folds ∧
      validFolds folds rows (rows.length - testWeeks) testWeeks = true := by
  have hvalidated : (validated fit rows name).test = none := by
    unfold validated
    split
    · rfl
    · rfl
  unfold tested at h ⊢
  by_cases heligible : (validated fit rows name).wapePercent.isSome = true
  · simp only [heligible, if_true] at h ⊢
    cases hwalk : walkWeekly fit name rows (rows.length - testWeeks) testWeeks with
    | error reason =>
        simp only [hwalk, hvalidated] at h
        cases h
    | ok folds =>
        simp only [hwalk] at h ⊢
        have hend : rows.length - testWeeks + testWeeks ≤ rows.length := by
          unfold minWeeks minTrain validationWeeks testWeeks at *
          omega
        exact ⟨folds, rfl, (Option.some.inj h).symm, (walkWeekly_valid hfit hrows hend hwalk).2⟩
  · simp only [heligible, if_false, Bool.false_eq_true, hvalidated] at h
    cases h

/-- The check of a winner's test outcome accepts it if its scores are numbers. -/
theorem validTest_tested (hfit : FitSpec library fit) (hrows : FiniteRows rows)
    (hlength : minWeeks ≤ rows.length) {name : CandidateName} {metrics : Metrics}
    (h : (tested fit rows name).test = some metrics) :
    validTest (names.map fun name => (name, tested fit rows name)) rows name metrics = true ↔
      metrics.IsNumber := by
  obtain ⟨folds, hfolds, hmetrics, hvalid⟩ := tested_test hfit hrows hlength h
  unfold validTest
  rw [lookup_names]
  simp [hfolds, hvalid, h, ← hmetrics, Metrics.same_self]

end Candidates

/-! ## A successful training -/

theorem filterMap_config (p : CandidateName → Bool) :
    (names.filter p).filterMap CandidateName.config? = configs.filter fun name => p (.config name) := by
  have hconfigs : ∀ list : List Config, ((list.map CandidateName.config).filter p).filterMap
      CandidateName.config? = list.filter fun name => p (.config name) := by
    intro list
    rw [List.filter_map, List.filterMap_map]
    exact List.filterMap_some
  have hbaselines : ∀ list : List Baseline, ((list.map CandidateName.baseline).filter p).filterMap
      CandidateName.config? = [] := by
    intro list
    rw [List.filter_map, List.filterMap_map]
    exact List.filterMap_eq_nil_iff.2 fun _ _ => rfl
  rw [names, List.filter_append, List.filterMap_append, hconfigs, hbaselines, List.append_nil]

theorem filterMap_baseline (p : CandidateName → Bool) :
    (names.filter p).filterMap CandidateName.baseline? =
      baselines.filter fun name => p (.baseline name) := by
  have hconfigs : ∀ list : List Config, ((list.map CandidateName.config).filter p).filterMap
      CandidateName.baseline? = [] := by
    intro list
    rw [List.filter_map, List.filterMap_map]
    exact List.filterMap_eq_nil_iff.2 fun _ _ => rfl
  have hbaselines : ∀ list : List Baseline, ((list.map CandidateName.baseline).filter p).filterMap
      CandidateName.baseline? = list.filter fun name => p (.baseline name) := by
    intro list
    rw [List.filter_map, List.filterMap_map]
    exact List.filterMap_some
  rw [names, List.filter_append, List.filterMap_append, hconfigs, hbaselines, List.nil_append]

section Results

variable {D : Type} {digest : Artifact → D} {fit : Fit} {rows : List Row}

/-- What the findings of a training say of its rows. -/
structure TrainedOn (digest : Artifact → D) (fit : Fit) (rows : List Row) (findings : Findings D) :
    Prop where
  long : minWeeks ≤ rows.length
  engineVersion : findings.engineVersion = version
  selectionBasis : findings.selectionBasis = "earlier_validation_weekly_wape"
  trainingWeeks : findings.trainingWeeks = rows.length
  validationStart : findings.validationStart =
    (rowAt rows (rows.length - testWeeks - validationWeeks)).date
  validationEnd : findings.validationEnd = (rowAt rows (rows.length - testWeeks - 1)).date
  testStart : findings.testStart = (rowAt rows (rows.length - testWeeks)).date
  testEnd : findings.testEnd = (rowAt rows (rows.length - 1)).date
  candidates : findings.candidates = names.map fun name => (name, tested fit rows name)
  selected : minBy (fun name => ((validated fit rows (.config name)).wapePercent).getD .nan)
    (configs.filter fun name => (validated fit rows (.config name)).wapePercent.isSome) =
      some findings.selectedCandidate
  baseline : minBy (fun name => ((validated fit rows (.baseline name)).wapePercent).getD .nan)
    (baselines.filter fun name => (validated fit rows (.baseline name)).wapePercent.isSome) =
      some findings.selectedBaseline
  selectedTest : (tested fit rows (.config findings.selectedCandidate)).test =
    some findings.selectedTest
  baselineTest : (tested fit rows (.baseline findings.selectedBaseline)).test =
    some findings.baselineTest
  fitted : ∃ value, fit findings.selectedCandidate rows = .ok (findings.artifact, value)
  artifactSha256 : findings.artifactSha256 = digest findings.artifact

theorem trainWeekly_ok {findings : Findings D}
    (h : trainWeekly digest fit rows = .researchCandidate findings) :
    TrainedOn digest fit rows findings := by
  unfold trainWeekly at h
  by_cases hshort : rows.length < minWeeks
  · rw [if_pos hshort] at h
    cases h
  · rw [if_neg hshort] at h
    dsimp only at h
    rw [filterMap_config, filterMap_baseline] at h
    -- every branch but the last returns another status
    split at h
    · rename_i selected baseline hselected hbaseline
      split at h
      · rename_i selectedTest baselineTest folds hselectedTest hbaselineTest _
        split at h
        · cases h
        · rename_i artifact value hfit
          obtain rfl := Trained.researchCandidate.inj h
          exact
            { long := not_lt.1 hshort
              engineVersion := rfl
              selectionBasis := rfl
              trainingWeeks := rfl
              validationStart := rfl
              validationEnd := rfl
              testStart := rfl
              testEnd := rfl
              candidates := rfl
              selected := hselected
              baseline := hbaseline
              selectedTest := hselectedTest
              baselineTest := hbaselineTest
              fitted := ⟨value, hfit⟩
              artifactSha256 := rfl }
      · cases h
    · cases h

/-- None of the compared scores is something that is not a number. -/
def Findings.IsNumber (findings : Findings D) : Prop :=
  (∀ entry ∈ findings.candidates, ∀ metrics ∈ entry.2.validation, metrics.IsNumber) ∧
    findings.selectedTest.IsNumber ∧ findings.baselineTest.IsNumber

/-- The findings of a training are valid for its own rows unless a score is not a number. -/
theorem TrainedOn.valid_iff [DecidableEq D] {library : Statsmodels} (hfit : FitSpec library fit)
    (hrows : FiniteRows rows) {findings : Findings D} (h : TrainedOn digest fit rows findings) :
    validFindings library digest findings rows = true ↔ findings.IsNumber := by
  obtain ⟨value, hfitted⟩ := h.fitted
  have hartifact := hfit _ _ _ _ hfitted
  -- the normalized history was computed from these rows
  have hhistory : (findings.artifact.normalizedHistory.zip rows).all (fun entry =>
      close (entry.1.mul findings.artifact.scale) entry.2.revenue) = true :=
    List.all_eq_true.2 hartifact.history
  have hwape : eligibleWape findings.candidates = fun name => (validated fit rows name).wapePercent := by
    rw [h.candidates]
    funext name
    exact eligibleWape_tested hfit hrows h.long name
  have hselected := h.selected
  have hbaseline := h.baseline
  -- a saved candidate is valid when its numbers are, and so are both tests
  have hcandidates : (findings.candidates.all fun entry => validCandidate rows entry.2) = true ↔
      ∀ entry ∈ findings.candidates, ∀ metrics ∈ entry.2.validation, metrics.IsNumber := by
    rw [List.all_eq_true, h.candidates]
    constructor
    · intro hall entry hentry
      have hvalid := hall entry hentry
      obtain ⟨name, _, rfl⟩ := List.mem_map.1 hentry
      exact (validCandidate_tested hfit hrows h.long name).1 hvalid
    · intro hall entry hentry
      have hnumber := hall entry hentry
      obtain ⟨name, _, rfl⟩ := List.mem_map.1 hentry
      exact (validCandidate_tested hfit hrows h.long name).2 hnumber
  have hselectedTest : validTest findings.candidates rows (.config findings.selectedCandidate)
      findings.selectedTest = true ↔ findings.selectedTest.IsNumber := by
    rw [h.candidates]
    exact validTest_tested hfit hrows h.long h.selectedTest
  have hbaselineTest : validTest findings.candidates rows (.baseline findings.selectedBaseline)
      findings.baselineTest = true ↔ findings.baselineTest.IsNumber := by
    rw [h.candidates]
    exact validTest_tested hfit hrows h.long h.baselineTest
  -- every other check of the findings is an equality that the training made true
  unfold validFindings Findings.IsNumber
  simp only [Bool.and_eq_true, hcandidates, hselectedTest, hbaselineTest, h.engineVersion,
    h.selectionBasis, h.trainingWeeks, h.long, hartifact.valid, h.artifactSha256, hartifact.name,
    hartifact.weeks, hartifact.last, hhistory, h.validationStart, h.validationEnd, h.testStart,
    h.testEnd, beq_self_eq_true, decide_true, hwape, Function.comp_def, hselected, hbaseline,
    true_and, and_true, and_assoc]

/-! ## Other rows -/

/-- Rows that differ in length, in the last date, or in a value by more than a centavo. -/
def Differs (rows other : List Row) : Prop :=
  other.length ≠ rows.length ∨
    (rowAt other (other.length - 1)).date ≠ (rowAt rows (rows.length - 1)).date ∨
    ∃ i < rows.length,
      doubleTolerance.lt ((rowAt rows i).revenue.sub (rowAt other i).revenue).abs = true

theorem finite_of_close {x y : Double} (hy : y.isFinite = true) (h : close x y = true) :
    x.isFinite = true := by
  cases y with
  | nan => cases hy
  | infinity s => cases hy
  | finite y =>
      cases x with
      | nan => simp [close, Double.isClose, Double.beq, Double.isInfinite, Double.sub, Double.abs,
          Double.le, Double.lt] at h
      | infinity s => simp [close, Double.isClose, Double.beq, Double.isInfinite] at h
      | finite x => rfl

/-- Values close to a common one do not differ by more than a centavo. -/
theorem not_differs_of_close {x a b : Double} (ha : a.isFinite = true) (hxa : close x a = true)
    (hxb : close x b = true) : doubleTolerance.lt (a.sub b).abs = false := by
  have hx := finite_of_close ha hxa
  obtain ⟨t, ht, htvalue⟩ := tolerance_eq
  obtain ⟨t', ht', htvalue'⟩ := doubleTolerance_eq
  unfold close at hxa hxb
  rw [ht] at hxa hxb
  rw [ht']
  cases x with
  | nan => cases hx
  | infinity s => cases hx
  | finite v =>
      exact Double.isClose_double (by norm_num) (by norm_num) (by norm_num) (by norm_num) htvalue
        htvalue' hxa hxb

theorem mem_zip_rowAt {history : List Double} {rows : List Row} (hlength : history.length = rows.length)
    {i : Nat} (hi : i < rows.length) : (history.getD i .nan, rowAt rows i) ∈ history.zip rows := by
  have hih : i < history.length := by omega
  have hzip : i < (history.zip rows).length := by
    rw [List.length_zip]
    omega
  have hget : (history.zip rows)[i] = (history.getD i .nan, rowAt rows i) := by
    rw [List.getElem_zip, rowAt, List.getD_eq_getElem?_getD, List.getElem?_eq_getElem hih,
      List.getD_eq_getElem?_getD, List.getElem?_eq_getElem hi]
    rfl
  rw [← hget]
  exact List.getElem_mem hzip

theorem history_length {library : Statsmodels} {artifact : Artifact}
    (h : validWeeklyArtifact library artifact = true) :
    artifact.normalizedHistory.length = artifact.trainingWeeks := by
  unfold validWeeklyArtifact at h
  simp only [Bool.and_eq_true] at h
  exact eq_of_beq h.1.1.1.1.1.1.1.1.1.1.1.2

/-- The findings of a training are not valid for rows that differ from its own. -/
theorem TrainedOn.invalid [DecidableEq D] {library : Statsmodels} (hfit : FitSpec library fit)
    (hrows : FiniteRows rows) {findings : Findings D} (h : TrainedOn digest fit rows findings)
    {other : List Row} (hother : Differs rows other) :
    validFindings library digest findings other = false := by
  obtain ⟨value, hfitted⟩ := h.fitted
  have hartifact := hfit _ _ _ _ hfitted
  by_contra hvalid
  rw [Bool.not_eq_false] at hvalid
  unfold validFindings at hvalid
  simp only [Bool.and_eq_true] at hvalid
  obtain ⟨⟨⟨⟨⟨⟨⟨⟨⟨⟨⟨⟨⟨⟨⟨⟨⟨⟨-, -⟩, -⟩, hweeks⟩, -⟩, -⟩, -⟩, -⟩, hlast⟩, hhistory⟩, -⟩, -⟩, -⟩, -⟩, -⟩, -⟩,
    -⟩, -⟩, -⟩ := hvalid
  have hlength : other.length = rows.length := (eq_of_beq hweeks).symm.trans h.trainingWeeks
  rcases hother with hne | hdate | ⟨i, hi, hdiffers⟩
  · exact hne hlength
  · exact hdate ((eq_of_beq hlast).symm.trans hartifact.last)
  · have hhistoryLength := (history_length hartifact.valid).trans hartifact.weeks
    have hown := hartifact.history _ (mem_zip_rowAt hhistoryLength hi)
    have hothers := List.all_eq_true.1 hhistory _
      (mem_zip_rowAt (hhistoryLength.trans hlength.symm) (hlength.symm ▸ hi))
    rw [not_differs_of_close (hrows _ (rowAt_mem hi)) hown hothers] at hdiffers
    cases hdiffers

end Results

/-! ## Revenues of the size of currency -/

/-- Rows whose revenues are below the currency limit in magnitude. -/
def CurrencyRows (rows : List Row) : Prop :=
  ∀ row ∈ rows, row.revenue.abs.lt currencyLimit = true

theorem lt_two_pow_sixty : ((7812499999999999 + 1 : ℕ) : ℚ) * 2 ^ 7 < 2 ^ 60 := by norm_num

theorem within_of_abs_lt {x : Double} (h : x.abs.lt currencyLimit = true) : Double.Within 60 x := by
  obtain ⟨c, hc, hlimit⟩ := currencyLimit_eq
  rw [hc] at h
  cases x with
  | nan => cases h
  | infinity s => simp [Double.abs, Double.lt] at h
  | finite y =>
      have hlt : |y.value| < c.value := of_decide_eq_true h
      rw [hlimit] at hlt
      exact ⟨y, rfl, (hlt.trans lt_two_pow_sixty).le⟩

theorem within_of_isCurrency {x : Double} (h : isCurrency x = true) : Double.Within 60 x := by
  obtain ⟨y, rfl, hnonneg, hlt⟩ := (isCurrency_iff x).1 h
  refine ⟨y, rfl, ?_⟩
  rw [abs_of_nonneg hnonneg]
  exact (hlt.trans lt_two_pow_sixty).le

theorem within_literal {n : Int} (hnonneg : 0 ≤ n) (hn : n ≤ 2 ^ 60) : Double.Within 60 (literal n 1) := by
  apply Double.within_ofRat (by norm_num)
  rw [Nat.cast_one, div_one, abs_of_nonneg (by exact_mod_cast hnonneg)]
  exact_mod_cast hn

/-- Scores of amounts of this size are numbers. -/
theorem score_isNumber {folds : List Fold} (hlength : folds.length ≤ 100)
    (hfolds : ∀ fold ∈ folds, Double.Within 60 fold.actual ∧ Double.Within 60 fold.predicted) :
    (score folds).IsNumber := by
  -- bounded actuals and predictions give bounded sums
  have hactual : ∀ x ∈ folds.map (fun row => row.actual.abs), Double.Within 60 x := by
    intro x hx
    obtain ⟨fold, hfold, rfl⟩ := List.mem_map.1 hx
    exact (hfolds fold hfold).1.abs
  have hsub : ∀ x ∈ folds.map (fun row => row.predicted.sub row.actual), Double.Within 61 x := by
    intro x hx
    obtain ⟨fold, hfold, rfl⟩ := List.mem_map.1 hx
    exact Double.Within.sub (by norm_num) (hfolds fold hfold).2 (hfolds fold hfold).1
  have habs : ∀ x ∈ folds.map (fun row => (row.predicted.sub row.actual).abs), Double.Within 61 x := by
    intro x hx
    obtain ⟨fold, hfold, rfl⟩ := List.mem_map.1 hx
    exact (hsub _ (List.mem_map_of_mem hfold)).abs
  -- the sums stay bounded, since a test has at most a hundred weeks
  have htotal := Double.within_sum (by rw [List.length_map]; omega) hactual
  have herror := Double.within_sum (by rw [List.length_map]; omega) habs
  have hbias := Double.within_sum (by rw [List.length_map]; omega) hsub
  have hcount : Double.Within 60 (literal folds.length 1) :=
    within_literal (by omega) (by norm_num; omega)
  have hhundred : Double.Within 60 (literal 100 1) := within_literal (by norm_num) (by norm_num)
  refine ⟨?_, ?_, ?_⟩
  · -- each of the three errors is a quotient of such sums, or absent
    intro value hvalue
    unfold score at hvalue
    dsimp only at hvalue
    split at hvalue
    · cases hvalue
    · obtain rfl := Option.some.inj hvalue
      exact Double.isNaN_roundPlaces (Double.isNaN_div
        (Double.isNaN_mul hhundred.isFinite herror.isFinite) htotal.isFinite) 4
  · intro value hvalue
    unfold score at hvalue
    dsimp only at hvalue
    split at hvalue
    · cases hvalue
    · obtain rfl := Option.some.inj hvalue
      obtain ⟨y, hy, _⟩ := herror
      rw [hy]
      exact Double.isNaN_roundPlaces (Double.isNaN_div rfl hcount.isFinite) 2
  · intro value hvalue
    unfold score at hvalue
    dsimp only at hvalue
    split at hvalue
    · cases hvalue
    · obtain rfl := Option.some.inj hvalue
      obtain ⟨y, hy, _⟩ := hbias
      rw [hy]
      exact Double.isNaN_roundPlaces (Double.isNaN_div rfl hcount.isFinite) 2

section Currency

variable {library : Statsmodels} {fit : Fit} {rows : List Row}

theorem walkWeekly_isNumber (hfit : FitSpec library fit) (hrows : CurrencyRows rows)
    {name : CandidateName} {start weeks : Nat} (hweeks : weeks ≤ 100)
    (hend : start + weeks ≤ rows.length) {folds : List Fold}
    (h : walkWeekly fit name rows start weeks = .ok folds) : (score folds).IsNumber := by
  have hlength : folds.length = weeks := by
    rw [← (mapM_eq_ok.1 h).length_eq, List.length_range']
  apply score_isNumber (by omega)
  intro fold hfold
  obtain ⟨i, hi, hok⟩ := mapM_mem h hfold
  obtain ⟨value, hvalue, rfl⟩ := foldAt_ok hok
  have hilt : i < rows.length := by
    have := (List.mem_range'_1.1 hi).2
    omega
  exact ⟨within_of_abs_lt (hrows _ (rowAt_mem hilt)),
    within_of_isCurrency (predict_currency hfit hvalue)⟩

theorem validated_isNumber (hfit : FitSpec library fit) (hrows : CurrencyRows rows)
    (hlength : minWeeks ≤ rows.length) (name : CandidateName) :
    ∀ metrics ∈ (validated fit rows name).validation, metrics.IsNumber := by
  intro metrics hmetrics
  unfold validated at hmetrics
  split at hmetrics
  · rename_i folds hwalk
    obtain rfl := Option.some.inj hmetrics
    refine walkWeekly_isNumber hfit hrows (by decide) ?_ hwalk
    unfold minWeeks minTrain validationWeeks testWeeks at *
    omega
  · cases hmetrics

theorem tested_isNumber (hfit : FitSpec library fit) (hrows : CurrencyRows rows)
    (hlength : minWeeks ≤ rows.length) {name : CandidateName} {metrics : Metrics}
    (h : (tested fit rows name).test = some metrics) : metrics.IsNumber := by
  have hvalidated : (validated fit rows name).test = none := by
    unfold validated
    split
    · rfl
    · rfl
  unfold tested at h
  dsimp only at h
  split at h
  · split at h
    · rename_i folds hwalk
      obtain rfl := Option.some.inj h
      refine walkWeekly_isNumber hfit hrows (by decide) ?_ hwalk
      unfold minWeeks minTrain validationWeeks testWeeks at *
      omega
    · rw [hvalidated] at h
      cases h
  · rw [hvalidated] at h
    cases h

/-- Revenues of the size of currency give scores that are numbers. -/
theorem TrainedOn.isNumber {D : Type} {digest : Artifact → D} (hfit : FitSpec library fit)
    (hrows : CurrencyRows rows) {findings : Findings D} (h : TrainedOn digest fit rows findings) :
    findings.IsNumber := by
  refine ⟨?_, tested_isNumber hfit hrows h.long h.selectedTest,
    tested_isNumber hfit hrows h.long h.baselineTest⟩
  intro entry hentry metrics hmetrics
  rw [h.candidates] at hentry
  obtain ⟨name, _, rfl⟩ := List.mem_map.1 hentry
  rw [(tested_validation name).1] at hmetrics
  exact validated_isNumber hfit hrows h.long name metrics hmetrics

end Currency

/-! ## A fit that copies the history -/

/-- The parameters of the three models, as the library names them. -/
def parameterNames : Config → List String
  | .weeklySarima010 => ["ar.S.L52", "sigma2"]
  | .weeklySarima100 => ["intercept", "ar.L1", "ar.S.L52", "sigma2"]
  | .weeklySarima011 => ["ma.L1", "ar.S.L52", "sigma2"]

def statsmodels : Statsmodels :=
  { version := "0.14.6"
    parameterNames := parameterNames }

/-- An artifact that retains the history as it is. -/
def copied (name : Config) (rows : List Row) : Artifact :=
  { name := name
    family := "SARIMA"
    converged := true
    statsmodelsVersion := statsmodels.version
    trainingWeeks := rows.length
    normalizedHistory := rows.map Row.revenue
    scale := literal 1 1
    params := (parameterNames name).map fun _ => zero
    paramNames := some (parameterNames name)
    specification := name.specification
    trainedThrough := (rowAt rows (rows.length - 1)).date
    targetWeek := (rowAt rows (rows.length - 1)).date + 7 }

/-- What a history must be like to be copied. -/
def copies (rows : List Row) : Bool :=
  decide (minTrain ≤ rows.length) && weekday (rowAt rows (rows.length - 1)).date == 0 &&
    rows.all fun row => row.revenue.isFinite && zero.le row.revenue

def copyFit : Fit := fun name rows =>
  if copies rows then .ok (copied name rows, zero)
  else .error "Weekly regular-sales model could not converge."

theorem one_eq : ∃ y : FiniteDouble, literal 1 1 = .finite y ∧ y.value = 1 := by
  obtain ⟨y, hy, hvalue⟩ := @literal_eq 1 1 1 0 (by norm_num) (by norm_num)
    (two_pow_lt_of (by norm_num) (by norm_num))
  exact ⟨y, hy, by simpa using hvalue⟩

theorem mul_one_eq {x : Double} (hx : x.isFinite = true) (h : zero.le x = true) :
    x.mul (literal 1 1) = x := by
  obtain ⟨one, hone, honeValue⟩ := one_eq
  obtain ⟨z, hz, hzero⟩ := zero_eq
  rw [hone]
  cases x with
  | nan => cases hx
  | infinity s => cases hx
  | finite x =>
      have hnonneg : 0 ≤ x.value := by
        rw [hz] at h
        simpa only [Double.le, Double.lt, Double.beq, hzero, Bool.or_eq_true, decide_eq_true_eq,
          ← le_iff_lt_or_eq] using h
      have hgrid := x.onGrid
      have hlt := x.lt
      rw [abs_of_nonneg hnonneg] at hgrid hlt
      have hnearest := nearest_onGrid hnonneg hgrid
      have hfits : nearest x.value < 2 ^ 1024 := by
        rw [hnearest]
        exact hlt
      obtain ⟨y, hy, hvalue⟩ := Double.ofRat_of_nonneg hnonneg hfits
      rw [hnearest] at hvalue
      rw [Double.mul, honeValue, mul_one, hy]
      cases x
      cases y
      simp_all

theorem zero_parameters (name : Config) :
    (let params := (parameterNames name).map fun _ => zero
    let named := (parameterNames name).zip params
    params.all Double.isFinite && ((named.find? fun entry => entry.1 == "sigma2").any fun entry =>
      zero.le entry.2) && named.all fun entry =>
        !isLagParameter entry.1 || entry.2.abs.lt (literal 1 1)) = true := by
  cases name with
  | weeklySarima010 => decide +kernel
  | weeklySarima100 => decide +kernel
  | weeklySarima011 => decide +kernel

theorem validWeeklyArtifact_copied (name : Config) {rows : List Row} (h : copies rows = true) :
    validWeeklyArtifact statsmodels (copied name rows) = true := by
  unfold copies at h
  simp only [Bool.and_eq_true] at h
  obtain ⟨⟨hlong, hweekday⟩, hrows⟩ := h
  have hlong : minTrain ≤ rows.length := of_decide_eq_true hlong
  have hparameters := zero_parameters name
  simp only [Bool.and_eq_true] at hparameters
  obtain ⟨⟨hfinite, hsigma⟩, hcoefficients⟩ := hparameters
  have hscale : ((literal 1 1).isFinite && zero.lt (literal 1 1)) = true := by decide +kernel
  rw [Bool.and_eq_true] at hscale
  have hweek : (rowAt rows (rows.length - 1)).date + 7 - (rowAt rows (rows.length - 1)).date = 7 := by
    omega
  simp only [validWeeklyArtifact, copied, statsmodels, beq_self_eq_true, hlong, hweekday, hfinite,
    hsigma, hcoefficients, hscale.1, hscale.2, hweek, hrows, List.length_map, List.all_map,
    Option.getD_some, Function.comp_def, decide_true, Bool.and_self]

/-- The history that is copied fits, and so does the prediction. -/
theorem copyFit_spec : FitSpec statsmodels copyFit := by
  intro name rows artifact value h
  unfold copyFit at h
  by_cases hcopies : copies rows = true
  · rw [if_pos hcopies] at h
    obtain ⟨rfl, rfl⟩ := Prod.mk.inj (Except.ok.inj h)
    refine
      { valid := validWeeklyArtifact_copied name hcopies
        name := rfl
        weeks := rfl
        last := rfl
        history := ?_
        prediction := by decide +kernel }
    intro entry hentry
    have hzip : (copied name rows).normalizedHistory.zip rows =
        rows.map fun row => (row.revenue, row) := by
      rw [copied, ← List.zip_map', List.map_id']
    rw [hzip] at hentry
    obtain ⟨row, hrow, rfl⟩ := List.mem_map.1 hentry
    unfold copies at hcopies
    simp only [Bool.and_eq_true, List.all_eq_true] at hcopies
    obtain ⟨hfinite, hnonneg⟩ := hcopies.2 row hrow
    have hscaled : row.revenue.mul (copied name rows).scale = row.revenue := mul_one_eq hfinite hnonneg
    rw [hscaled]
    exact Double.isClose_self hfinite
  · rw [if_neg hcopies] at h
    cases h

/-- A hundred and thirty weeks from a Monday on. -/
def mondayRows (revenue : Nat → Double) : List Row :=
  (List.range 130).map fun (i : Nat) =>
    { date := 1 + 7 * (i : Int)
      revenue := revenue i }

def steady : Nat → Double := fun _ => literal 1 1

/-- The findings of a training that ended as a research candidate. -/
def Trained.findings? {D : Type} : Trained D → Option (Findings D)
  | .researchCandidate findings => some findings
  | _ => none

/-- Rows of consecutive weeks. -/
def Consecutive (rows : List Row) : Prop := rows.IsChain fun row next => next.date = row.date + 7

theorem mondayRows_consecutive (revenue : Nat → Double) : Consecutive (mondayRows revenue) := by
  refine List.isChain_iff_getElem.2 ?_
  intro i hi
  simp only [mondayRows, List.getElem_map, List.getElem_range]
  push_cast
  ring

theorem mondayRows_finite {revenue : Nat → Double} (h : ∀ i, (revenue i).isFinite = true) :
    FiniteRows (mondayRows revenue) := by
  intro row hrow
  obtain ⟨i, _, rfl⟩ := List.mem_map.1 hrow
  exact h i

theorem findings?_eq_some {D : Type} {trained : Trained D} {findings : Findings D}
    (h : trained.findings? = some findings) : trained = .researchCandidate findings := by
  cases trained with
  | researchCandidate found => exact congrArg _ (Option.some.inj h)
  | insufficientHistory available required => cases h
  | noValidCandidates candidates => cases h
  | selectedModelFailed selected reason candidates => cases h

/-! ## Bound to the own history -/

/-- A weekly fit validates against its own history unless a score is not a number, which takes revenues
beyond the size of currency, and against no other history. -/
theorem weekly_findings_bound {D : Type} [DecidableEq D] (library : Statsmodels)
    (digest : Artifact → D) (fit : Fit) (hfit : FitSpec library fit) (rows : List Row)
    (hrows : FiniteRows rows) (findings : Findings D)
    (h : trainWeekly digest fit rows = .researchCandidate findings) :
    (validFindings library digest findings rows = true ↔ findings.IsNumber) ∧
      (CurrencyRows rows → validFindings library digest findings rows = true) ∧
      ∀ other, Differs rows other → validFindings library digest findings other = false := by
  have htrained := trainWeekly_ok h
  have hvalid := htrained.valid_iff hfit hrows
  refine ⟨hvalid, ?_, fun other hother => htrained.invalid hfit hrows hother⟩
  intro hcurrency
  exact hvalid.2 (htrained.isNumber hfit hcurrency)

theorem steady_findings : (trainWeekly id copyFit (mondayRows steady)).findings?.isSome = true := by
  decide +kernel

theorem weekly_findings_bound_steady :
    ∃ findings, trainWeekly id copyFit (mondayRows steady) = .researchCandidate findings ∧
      validFindings statsmodels id findings (mondayRows steady) = true ∧
      validFindings statsmodels id findings ((mondayRows steady).drop 1) = false := by
  obtain ⟨findings, hfindings⟩ := Option.isSome_iff_exists.1 steady_findings
  have htrained := findings?_eq_some hfindings
  have hone : (literal 1 1).isFinite = true := by decide +kernel
  have hfinite : FiniteRows (mondayRows steady) := mondayRows_finite fun _ => hone
  have hcurrency : CurrencyRows (mondayRows steady) := by
    intro row hrow
    obtain ⟨i, _, rfl⟩ := List.mem_map.1 hrow
    exact (by decide +kernel : (literal 1 1).abs.lt currencyLimit = true)
  have hbound := weekly_findings_bound statsmodels id copyFit copyFit_spec (mondayRows steady) hfinite
    findings htrained
  refine ⟨findings, htrained, hbound.2.1 hcurrency, hbound.2.2 _ (Or.inl ?_)⟩
  rw [List.length_drop, mondayRows, List.length_map, List.length_range]
  decide

/-! ## Revenues beyond currency -/

/-- Two of the validation weeks add up to more than the largest number. -/
def overflowing : Nat → Double := fun i =>
  if i = 115 ∨ i = 116 then literal (10 ^ 308) 1 else literal 1 1

theorem overflowing_finite (i : Nat) : (overflowing i).isFinite = true := by
  unfold overflowing
  split
  · decide +kernel
  · decide +kernel

theorem overflowing_findings :
    ((trainWeekly id copyFit (mondayRows overflowing)).findings?.map fun findings =>
      validFindings statsmodels id findings (mondayRows overflowing)) = some false := by decide +kernel

/-- Every candidate whose walk succeeds has an error of infinity over infinity in the validation weeks,
and no check finds that equal to itself. -/
theorem own_history_rejected :
    ¬ ∀ (library : Statsmodels) (digest : Artifact → Artifact) (fit : Fit), FitSpec library fit →
      ∀ (rows : List Row) (findings : Findings Artifact), Consecutive rows → FiniteRows rows →
        trainWeekly digest fit rows = .researchCandidate findings →
          validFindings library digest findings rows = true ∧
            ∀ other, Consecutive other → Differs rows other →
              validFindings library digest findings other = false := by
  intro hclaim
  obtain ⟨findings, hfindings, hinvalid⟩ := Option.map_eq_some_iff.1 overflowing_findings
  have hvalid := (hclaim statsmodels id copyFit copyFit_spec (mondayRows overflowing) findings
    (mondayRows_consecutive overflowing) (mondayRows_finite overflowing_finite)
    (findings?_eq_some hfindings)).1
  rw [hinvalid] at hvalid
  cases hvalid

end Weekly
end Forecasting
end RosarioDairy
