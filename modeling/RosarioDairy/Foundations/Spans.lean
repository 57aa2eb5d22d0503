import Mathlib.Data.List.Dedup
import Mathlib.Data.List.DropRight
import Mathlib.Data.List.Induction
import Mathlib.Data.List.Sort
import Mathlib.Order.Basic

/-!
# Spans — consecutive periods, and the latest of them without a gap

A division of the calendar into periods, each known by its first day, the list of the periods between
two days, and the part of a list after its last gap.
-/

namespace RosarioDairy
namespace Foundations

/-! ## After the last gap -/

section Suffix

variable {A B : Type}

/-- The longest end of a list in which everything passes. -/
def LongestSuffix (p : A → Prop) (xs ys : List A) : Prop :=
  ys <:+ xs ∧ (∀ y ∈ ys, p y) ∧ ∀ zs, zs <:+ xs → (∀ z ∈ zs, p z) → zs <:+ ys

theorem rtakeWhile_append_of_all {p : A → Bool} {xs zs : List A} (h : ∀ z ∈ zs, p z = true) :
    (xs ++ zs).rtakeWhile p = xs.rtakeWhile p ++ zs := by
  induction zs using List.reverseRecOn with
  | nil => rw [List.append_nil, List.append_nil]
  | append_singleton zs z ih =>
      have hz : p z = true := h z (List.mem_append_right _ (List.mem_singleton_self z))
      have hzs : ∀ x ∈ zs, p x = true := fun x hx => h x (List.mem_append_left _ hx)
      rw [← List.append_assoc, List.rtakeWhile_concat_pos p _ z hz, ih hzs, List.append_assoc]

theorem LongestSuffix.congr {p q : A → Prop} {xs ys : List A} (h : LongestSuffix p xs ys)
    (hpq : ∀ x ∈ xs, p x ↔ q x) : LongestSuffix q xs ys := by
  obtain ⟨hsuffix, hall, hlongest⟩ := h
  refine ⟨hsuffix, fun y hy => (hpq y (hsuffix.subset hy)).1 (hall y hy), ?_⟩
  intro zs hzs hq
  exact hlongest zs hzs fun z hz => (hpq z (hzs.subset hz)).2 (hq z hz)

theorem longestSuffix_rtakeWhile (p : A → Bool) (xs : List A) :
    LongestSuffix (fun x => p x = true) xs (xs.rtakeWhile p) := by
  refine ⟨List.rtakeWhile_suffix p xs, fun y hy => List.mem_rtakeWhile_imp hy, ?_⟩
  rintro zs ⟨ys, rfl⟩ hzs
  rw [rtakeWhile_append_of_all hzs]
  exact ⟨_, rfl⟩

/-- One round of a loop that keeps what passes and starts again after what does not. -/
def restart (p : A → Bool) (f : A → B) (kept : List B) (x : A) : List B :=
  if p x then kept ++ [f x] else []

theorem foldl_restart (p : A → Bool) (f : A → B) (xs : List A) :
    xs.foldl (restart p f) [] = (xs.rtakeWhile p).map f := by
  induction xs using List.reverseRecOn with
  | nil => rfl
  | append_singleton xs x ih =>
      rw [List.foldl_append, List.foldl_cons, List.foldl_nil, ih, restart]
      by_cases h : p x = true
      · rw [if_pos h, List.rtakeWhile_concat_pos p xs x h, List.map_append]
        rfl
      · rw [if_neg h, List.rtakeWhile_concat_neg p xs x h]
        rfl

theorem rtakeWhile_map (p : B → Bool) (f : A → B) (xs : List A) :
    (xs.map f).rtakeWhile p = (xs.rtakeWhile (p ∘ f)).map f := by
  rw [List.rtakeWhile, List.rtakeWhile, ← List.map_reverse, List.takeWhile_map, List.map_reverse]

/-- The places of what does not pass. -/
def gaps (p : A → Bool) (xs : List A) : List Nat :=
  (xs.zipIdx.filter fun entry => !p entry.1).map Prod.snd

theorem gaps_lt {p : A → Bool} {xs : List A} {i : Nat} (h : i ∈ gaps p xs) : i < xs.length := by
  obtain ⟨⟨x, i⟩, hentry, rfl⟩ := List.mem_map.1 h
  have hplace := List.snd_lt_of_mem_zipIdx (List.mem_filter.1 hentry).1
  simpa using hplace

theorem gaps_concat (p : A → Bool) (xs : List A) (x : A) :
    gaps p (xs ++ [x]) = gaps p xs ++ if p x then [] else [xs.length] := by
  unfold gaps
  rw [List.zipIdx_append, List.filter_append, List.map_append]
  congr 1
  by_cases h : p x = true
  · simp [h]
  · simp [h]

/-- What follows the last place that does not pass is the longest end that passes. -/
theorem drop_gaps (p : A → Bool) (xs : List A) :
    xs.drop (((gaps p xs).max?.map (· + 1)).getD 0) = xs.rtakeWhile p := by
  induction xs using List.reverseRecOn with
  | nil => rfl
  | append_singleton xs x ih =>
      rw [gaps_concat]
      by_cases h : p x = true
      · have hbound : ((gaps p xs).max?.map (· + 1)).getD 0 ≤ xs.length := by
          cases hmax : (gaps p xs).max? with
          | none => exact Nat.zero_le _
          | some i => exact gaps_lt (List.max?_mem hmax)
        rw [if_pos h, List.append_nil, List.drop_append_of_le_length hbound, ih,
          List.rtakeWhile_concat_pos p xs x h]
      · have hlast : (gaps p xs ++ [xs.length]).max? = some xs.length := by
          refine List.max?_eq_some_iff.2 ⟨List.mem_append_right _ (List.mem_singleton_self _), ?_⟩
          intro i hi
          rcases List.mem_append.1 hi with hi | hi
          · exact (gaps_lt hi).le
          · exact (List.mem_singleton.1 hi).le
        rw [if_neg h, hlast, List.rtakeWhile_concat_neg p xs x h]
        exact List.drop_of_length_le (by simp)

/-- In a strictly increasing list, what follows the last gap is what has no gap after it. -/
theorem mem_rtakeWhile_of_sorted [LinearOrder A] {p : A → Bool} {xs : List A}
    (h : xs.Pairwise (· < ·)) {x : A} :
    x ∈ xs.rtakeWhile p ↔ x ∈ xs ∧ ∀ y ∈ xs, x ≤ y → p y = true := by
  -- from the right, as `rtakeWhile` cuts
  induction xs using List.reverseRecOn with
  | nil => simp
  | append_singleton xs last ih =>
      obtain ⟨hxs, _, hlast⟩ := List.pairwise_append.1 h
      have hlt : ∀ y ∈ xs, y < last := fun y hy => hlast y hy last (List.mem_singleton_self last)
      by_cases hp : p last = true
      · -- the last one is kept: whatever is kept before it must go through the last one too
        rw [List.rtakeWhile_concat_pos p xs last hp, List.mem_append, ih hxs, List.mem_append,
          List.mem_singleton]
        constructor
        · rintro (⟨hx, hafter⟩ | rfl)
          · refine ⟨Or.inl hx, fun y hy hle => ?_⟩
            rcases List.mem_append.1 hy with hy | hy
            · exact hafter y hy hle
            · rw [List.mem_singleton.1 hy]
              exact hp
          · refine ⟨Or.inr rfl, fun y hy hle => ?_⟩
            rcases List.mem_append.1 hy with hy | hy
            · exact absurd hle (not_le.2 (hlt y hy))
            · rw [List.mem_singleton.1 hy]
              exact hp
        · rintro ⟨hx | rfl, hafter⟩
          · exact Or.inl ⟨hx, fun y hy => hafter y (List.mem_append_left _ hy)⟩
          · exact Or.inr rfl
      · -- the last one is cut, and everything lies before it
        rw [List.rtakeWhile_concat_neg p xs last hp]
        refine iff_of_false List.not_mem_nil ?_
        rintro ⟨hx, hafter⟩
        have hle : x ≤ last := by
          rcases List.mem_append.1 hx with hx | hx
          · exact (hlt x hx).le
          · exact (List.mem_singleton.1 hx).le
        exact hp (hafter last (List.mem_append_right _ (List.mem_singleton_self last)) hle)

end Suffix

/-- Strictly increasing lists with the same elements are equal. -/
theorem eq_of_sorted_of_mem_iff {A : Type} [LinearOrder A] {xs ys : List A}
    (hxs : xs.Pairwise (· < ·)) (hys : ys.Pairwise (· < ·)) (h : ∀ x, x ∈ xs ↔ x ∈ ys) : xs = ys := by
  have hperm : xs.Perm ys := (List.perm_ext_iff_of_nodup (hxs.imp fun hlt => hlt.ne)
    (hys.imp fun hlt => hlt.ne)).2 h
  exact hperm.eq_of_pairwise (fun _ _ _ _ hxy hyx => absurd hxy hyx.not_gt) hxs hys

theorem sorted_dedup_mergeSort (xs : List Int) :
    (xs.dedup.mergeSort fun x y => decide (x ≤ y)).Pairwise (· < ·) := by
  have hsorted : (xs.dedup.mergeSort fun x y => decide (x ≤ y)).Pairwise fun x y =>
      decide (x ≤ y) = true := List.pairwise_mergeSort (by simp; omega) (by simp; omega) _
  have hnodup := (List.mergeSort_perm xs.dedup fun x y => decide (x ≤ y)).nodup_iff.2
    (List.nodup_dedup xs)
  refine (hsorted.and hnodup).imp ?_
  intro x y h
  exact lt_of_le_of_ne (of_decide_eq_true h.1) h.2

/-! ## Periods -/

/-- A division of the days into periods that follow one another. -/
structure Periods where
  IsStart : Int → Prop
  next : Int → Int
  isStart_next : ∀ {day}, IsStart day → IsStart (next day)
  lt_next : ∀ {day}, IsStart day → day < next day
  next_le : ∀ {day later}, IsStart day → IsStart later → day < later → next day ≤ later

namespace Periods

variable (P : Periods)

/-- The loop over the periods from one to another, with a bound on its rounds. -/
def walk (next : Int → Int) : Nat → Int → Int → List Int
  | 0, _, _ => []
  | rounds + 1, day, last => if day ≤ last then day :: walk next rounds (next day) last else []

/-- The periods from one to another. -/
def span (next : Int → Int) (first last : Int) : List Int :=
  walk next ((last - first).toNat + 1) first last

variable {P}

theorem mem_walk {rounds : Nat} {first last : Int} (hfirst : P.IsStart first)
    (hrounds : (last - first).toNat + 1 ≤ rounds) {day : Int} :
    day ∈ walk P.next rounds first last ↔ P.IsStart day ∧ first ≤ day ∧ day ≤ last := by
  induction rounds generalizing first with
  | zero => omega
  | succ rounds ih =>
      have hlt := P.lt_next hfirst
      rw [walk]
      by_cases hle : first ≤ last
      · rw [if_pos hle, List.mem_cons]
        by_cases hnext : P.next first ≤ last
        · -- the walk goes on from the next start, where the induction hypothesis applies
          rw [ih (P.isStart_next hfirst) (by omega)]
          constructor
          · rintro (rfl | ⟨hday, hge, hle⟩)
            · exact ⟨hfirst, le_rfl, hle⟩
            · exact ⟨hday, by omega, hle⟩
          · rintro ⟨hday, hge, hle⟩
            rcases hge.eq_or_lt with rfl | hgt
            · exact Or.inl rfl
            · exact Or.inr ⟨hday, P.next_le hfirst hday hgt, hle⟩
        · -- the walk stops here: `first` is the only start up to `last`
          have hnil : walk P.next rounds (P.next first) last = [] := by
            cases rounds with
            | zero => rfl
            | succ rounds => rw [walk, if_neg hnext]
          rw [hnil]
          constructor
          · rintro (rfl | hnone)
            · exact ⟨hfirst, le_rfl, hle⟩
            · cases hnone
          · rintro ⟨hday, hge, hle⟩
            rcases hge.eq_or_lt with rfl | hgt
            · exact Or.inl rfl
            · have := P.next_le hfirst hday hgt
              omega
      · -- the range is empty
        rw [if_neg hle]
        refine iff_of_false List.not_mem_nil ?_
        rintro ⟨_, hge, hle'⟩
        omega

theorem le_of_mem_walk {rounds : Nat} {first last day : Int} (hfirst : P.IsStart first)
    (h : day ∈ walk P.next rounds first last) : first ≤ day := by
  induction rounds generalizing first with
  | zero => cases h
  | succ rounds ih =>
      rw [walk] at h
      by_cases hle : first ≤ last
      · rw [if_pos hle] at h
        rcases List.mem_cons.1 h with rfl | hrest
        · exact le_rfl
        · exact (P.lt_next hfirst).le.trans (ih (P.isStart_next hfirst) hrest)
      · rw [if_neg hle] at h
        cases h

theorem sorted_walk {rounds : Nat} {first : Int} (last : Int) (hfirst : P.IsStart first) :
    (walk P.next rounds first last).Pairwise (· < ·) := by
  induction rounds generalizing first with
  | zero => exact List.Pairwise.nil
  | succ rounds ih =>
      rw [walk]
      by_cases hle : first ≤ last
      · rw [if_pos hle]
        refine List.pairwise_cons.2 ⟨?_, ih (P.isStart_next hfirst)⟩
        intro day hday
        exact (P.lt_next hfirst).trans_le (le_of_mem_walk (P.isStart_next hfirst) hday)
      · rw [if_neg hle]
        exact List.Pairwise.nil

/-- The loop meets every period of the span. -/
theorem mem_span {first last : Int} (hfirst : P.IsStart first) {day : Int} :
    day ∈ span P.next first last ↔ P.IsStart day ∧ first ≤ day ∧ day ≤ last :=
  mem_walk hfirst le_rfl

theorem sorted_span {first : Int} (last : Int) (hfirst : P.IsStart first) :
    (span P.next first last).Pairwise (· < ·) :=
  sorted_walk last hfirst

/-- The loop from the least to the greatest of some periods. -/
def fill {R : Type} (next : Int → Int) (keys : List Int) (row : Int → R) : List R :=
  match keys.min?, keys.max? with
  | some first, some last => (span next first last).map row
  | _, _ => []

/-- The loop makes a row for every period from the least to the greatest of the given ones. -/
theorem mem_fill {R : Type} {keys : List Int} (hkeys : ∀ key ∈ keys, P.IsStart key) {row : Int → R}
    {r : R} :
    r ∈ fill P.next keys row ↔ ∃ day, P.IsStart day ∧ (∃ key ∈ keys, key ≤ day) ∧
      (∃ key ∈ keys, day ≤ key) ∧ row day = r := by
  by_cases hnil : keys = []
  · subst hnil
    refine iff_of_false List.not_mem_nil ?_
    rintro ⟨day, _, ⟨key, hkey, _⟩, _⟩
    cases hkey
  · obtain ⟨first, hfirst⟩ := Option.isSome_iff_exists.1 (List.isSome_min?_iff.2 hnil)
    obtain ⟨last, hlast⟩ := Option.isSome_iff_exists.1 (List.isSome_max?_iff.2 hnil)
    obtain ⟨hfirstMem, hmin⟩ := List.min?_eq_some_iff.1 hfirst
    obtain ⟨hlastMem, hmax⟩ := List.max?_eq_some_iff.1 hlast
    rw [fill, hfirst, hlast, List.mem_map]
    constructor
    · rintro ⟨day, hday, rfl⟩
      obtain ⟨hstart, hge, hle⟩ := (mem_span (hkeys first hfirstMem)).1 hday
      exact ⟨day, hstart, ⟨first, hfirstMem, hge⟩, ⟨last, hlastMem, hle⟩, rfl⟩
    · rintro ⟨day, hstart, ⟨low, hlow, hge⟩, ⟨high, hhigh, hle⟩, rfl⟩
      exact ⟨day, (mem_span (hkeys first hfirstMem)).2
        ⟨hstart, (hmin low hlow).trans hge, hle.trans (hmax high hhigh)⟩, rfl⟩

/-! ## The latest run -/

/-- From this period on, every period up to the latest one is among the given ones. -/
def InLatestRun (P : Periods) (starts : List Int) (day : Int) : Prop :=
  day ∈ starts ∧ ∀ later, P.IsStart later → day ≤ later → (∃ start ∈ starts, later ≤ start) →
    later ∈ starts

/-- After the last gap of a span around the given periods stands their latest run. -/
theorem mem_rtakeWhile_span {starts : List Int} (hstarts : ∀ start ∈ starts, P.IsStart start)
    {first last : Int} (hfirst : P.IsStart first)
    (hbounds : ∀ start ∈ starts, first ≤ start ∧ start ≤ last) (hlast : ∃ start ∈ starts, last ≤ start)
    {day : Int} :
    day ∈ (span P.next first last).rtakeWhile (fun day => decide (day ∈ starts)) ↔
      P.InLatestRun starts day := by
  rw [mem_rtakeWhile_of_sorted (sorted_span last hfirst)]
  constructor
  · rintro ⟨hday, hafter⟩
    obtain ⟨_, hge, _⟩ := (mem_span hfirst).1 hday
    refine ⟨of_decide_eq_true (hafter day hday le_rfl), ?_⟩
    rintro later hlater hle ⟨start, hstart, hup⟩
    exact of_decide_eq_true (hafter later
      ((mem_span hfirst).2 ⟨hlater, hge.trans hle, hup.trans (hbounds start hstart).2⟩) hle)
  · rintro ⟨hday, hafter⟩
    refine ⟨(mem_span hfirst).2 ⟨hstarts day hday, hbounds day hday⟩, ?_⟩
    intro later hlater hle
    obtain ⟨hstart, _, hup⟩ := (mem_span hfirst).1 hlater
    obtain ⟨start, hmem, hge⟩ := hlast
    exact decide_eq_true (hafter later hstart hle ⟨start, hmem, hup.trans hge⟩)

theorem InLatestRun.congr {starts starts' : List Int} (h : ∀ day, day ∈ starts ↔ day ∈ starts')
    {day : Int} : P.InLatestRun starts day ↔ P.InLatestRun starts' day := by
  simp only [InLatestRun, h]

/-- After the last gap of what the loop makes stands the latest run of the periods that are no gap. -/
theorem rtakeWhile_fill {R : Type} {keys starts run : List Int} {row : Int → R} {p : R → Bool}
    (hkeys : ∀ key ∈ keys, P.IsStart key) (hstarts : ∀ start ∈ starts, start ∈ keys)
    (hcovered : ∀ key ∈ keys, ∃ start ∈ starts, key ≤ start)
    (hp : ∀ day, p (row day) = decide (day ∈ starts)) (hsorted : run.Pairwise (· < ·))
    (hrun : ∀ day, day ∈ run ↔ P.InLatestRun starts day) :
    (fill P.next keys row).rtakeWhile p = run.map row := by
  by_cases hnil : keys = []
  · subst hnil
    have hrunNil : run = [] := List.eq_nil_iff_forall_not_mem.2 fun day hday =>
      List.not_mem_nil (hstarts day ((hrun day).1 hday).1)
    rw [hrunNil]
    rfl
  · obtain ⟨first, hfirst⟩ := Option.isSome_iff_exists.1 (List.isSome_min?_iff.2 hnil)
    obtain ⟨last, hlast⟩ := Option.isSome_iff_exists.1 (List.isSome_max?_iff.2 hnil)
    obtain ⟨hfirstMem, hmin⟩ := List.min?_eq_some_iff.1 hfirst
    obtain ⟨hlastMem, hmax⟩ := List.max?_eq_some_iff.1 hlast
    have hstart := hkeys first hfirstMem
    have hcomp : p ∘ row = fun day => decide (day ∈ starts) := funext hp
    rw [fill, hfirst, hlast]
    dsimp only
    rw [rtakeWhile_map, hcomp]
    congr 1
    apply eq_of_sorted_of_mem_iff
      ((sorted_span last hstart).sublist (List.rtakeWhile_suffix _ _).sublist) hsorted
    intro day
    rw [hrun, mem_rtakeWhile_span (fun start hmem => hkeys start (hstarts start hmem)) hstart
      (fun start hmem => ⟨hmin start (hstarts start hmem), hmax start (hstarts start hmem)⟩)
      (hcovered last hlastMem)]

/-- The period after the latest one lengthens the run. -/
theorem inLatestRun_concat_next {starts : List Int} (hstarts : ∀ start ∈ starts, P.IsStart start)
    {previous : Int} (hprevious : previous ∈ starts) (hmax : ∀ start ∈ starts, start ≤ previous)
    {day : Int} :
    P.InLatestRun (starts ++ [P.next previous]) day ↔
      P.InLatestRun starts day ∨ day = P.next previous := by
  have hlt := P.lt_next (hstarts previous hprevious)
  simp only [InLatestRun, List.mem_append, List.mem_singleton]
  constructor
  · rintro ⟨hday | rfl, hafter⟩
    · -- an old day: its later periods reach at most `previous`, as before
      refine Or.inl ⟨hday, ?_⟩
      rintro later hlater hle ⟨start, hstart, hup⟩
      rcases hafter later hlater hle ⟨start, Or.inl hstart, hup⟩ with hmem | rfl
      · exact hmem
      · have := hmax start hstart
        omega
    · exact Or.inr rfl
  · rintro (⟨hday, hafter⟩ | rfl)
    · refine ⟨Or.inl hday, ?_⟩
      rintro later hlater hle ⟨start, hstart, hup⟩
      by_cases hold : later ≤ previous
      · exact Or.inl (hafter later hlater hle ⟨previous, hprevious, hold⟩)
      · -- nothing lies between the latest period and the next
        have hge := P.next_le (hstarts previous hprevious) hlater (not_le.1 hold)
        rcases hstart with hstart | rfl
        · have := hmax start hstart
          omega
        · exact Or.inr (le_antisymm hup hge)
    · refine ⟨Or.inr rfl, ?_⟩
      rintro later _ hle ⟨start, hstart | rfl, hup⟩
      · have := hmax start hstart
        omega
      · exact Or.inr (le_antisymm hup hle)

/-- Any later period starts the run again. -/
theorem inLatestRun_concat_gap {starts : List Int} (hstarts : ∀ start ∈ starts, P.IsStart start)
    {previous last : Int} (hprevious : previous ∈ starts) (hmax : ∀ start ∈ starts, start ≤ previous)
    (hlast : P.IsStart last) (hlt : previous < last) (hgap : last ≠ P.next previous) {day : Int} :
    P.InLatestRun (starts ++ [last]) day ↔ day = last := by
  have hnext := P.lt_next (hstarts previous hprevious)
  have hle := P.next_le (hstarts previous hprevious) hlast hlt
  simp only [InLatestRun, List.mem_append, List.mem_singleton]
  constructor
  · rintro ⟨hday | rfl, hafter⟩
    · have hday' := hmax day hday
      rcases hafter (P.next previous) (P.isStart_next (hstarts previous hprevious)) (by omega)
        ⟨last, Or.inr rfl, hle⟩ with hmem | rfl
      · have := hmax _ hmem
        omega
      · exact absurd rfl hgap
    · rfl
  · rintro rfl
    refine ⟨Or.inr rfl, ?_⟩
    rintro later _ hle' ⟨start, hstart | rfl, hup⟩
    · have := hmax start hstart
      omega
    · exact Or.inr (le_antisymm hup hle')

end Periods

end Foundations
end RosarioDairy
