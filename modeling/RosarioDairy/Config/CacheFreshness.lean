import RosarioDairy.Config.CacheEffects

/-!
# CacheFreshness — no stale and no uncommitted payloads

The programs of readers and writers, statement by statement, against everything that other threads
and the caches may do in between.
-/

namespace RosarioDairy
namespace CacheGuard

open Foundations

variable {K U ι : Type}

/-! ## The outline -/

def outline (env : Uuid4 K U) : Outline K Site (World K U ι) :=
  { inv := World.Sound env
    rely := Rely env
    does := fun _ _ _ _ => True }

theorem outline_preorder (env : Uuid4 K U) : (outline env : Outline K Site (World K U ι)).Preorder :=
  { refl := Rely.refl env
    trans := fun _ _ _ _ h h' => h.trans h' }

/-! ## What a reader has observed -/

section Assertions

variable (env : Uuid4 K U) (me : K)

/-- The reader still sees what it knew when it read the markers; its digest names the markers of its
own writes and every marker of a known write that is still there. -/
structure Observed (seen : Observation U) (s : World K U ι) : Prop where
  known : ∀ w ∈ seen.known, w ∈ s.visible me
  own : ∀ ids, seen.digest = .pending ids → ∀ w ∈ s.own me, w ∈ ids
  named : ∀ ids, seen.digest = .pending ids → ∀ w ∈ ids, w ∈ s.visible me
  kept : ∀ ids, seen.digest = .pending ids → ∀ w ∈ seen.known, w ∈ s.markers → w ∈ ids
  unique : ∀ u, seen.digest = .unique u → s.DrawnBy env me u
  pending : seen.inAtomicBlock = false → ∀ w ∈ seen.pending, w ∈ s.committed

/-- Nothing has been read for a digest of the reader's own. -/
def Unread (seen : Observation U) (s : World K U ι) : Prop :=
  ∀ u, seen.digest = .unique u → ∀ read ∈ s.reads, read.1.namespaceKey.digest ≠ .unique u

/-- Whatever has been read for the version and the digest of the reader has seen the known writes. -/
structure Keyed (seen : Observation U) (version : U) (s : World K U ι) : Prop where
  drawn : s.Drawn env version
  fresh : ∀ read ∈ s.reads, read.1.namespaceKey.version = version →
    read.1.namespaceKey.digest = seen.digest → ∀ w ∈ seen.known, w ∈ read.2

/-- The payload may be returned. -/
def Answers (known : List U) (payload : Payload U) (s : World K U ι) : Prop :=
  ∀ part ∈ payload, (∀ w ∈ known, w ∈ part) ∧ ∀ w ∈ part, w ∈ s.visible me

end Assertions

/-! ## Stability -/

section Stability

variable {env : Uuid4 K U} {me : K} {seen : Observation U} {s t : World K U ι}

theorem Observed.rely (h : Observed env me seen s) (hst : Rely env me s t) :
    Observed env me seen t := by
  refine
    { known := fun w hw => hst.visible (h.known w hw)
      own := fun ids hids w hw => h.own ids hids w (hst.own ▸ hw)
      named := fun ids hids w hw => hst.visible (h.named ids hids w hw)
      kept := ?_
      unique := fun u hu => (h.unique u hu).mono hst.drawn
      pending := fun hout w hw => hst.committed w (h.pending hout w hw) }
  intro ids hids w hw hmarker
  rcases List.mem_append.1 (h.known w hw) with hcommitted | hmine
  · exact h.kept ids hids w hw (hst.markers w hcommitted hmarker)
  · exact h.own ids hids w hmine

/-- The digest is nobody else's. -/
theorem Observed.not_other (h : Observed env me seen s) {u : U} (hu : seen.digest = .unique u) :
    ¬ ∃ k n, k ≠ me ∧ u = env.value (some k, n) := by
  rintro ⟨k, n, hk, hvalue⟩
  obtain ⟨n', _, hvalue'⟩ := h.unique u hu
  have hEq := env.injective (hvalue.symm.trans hvalue')
  simp only [Prod.mk.injEq, Option.some.injEq] at hEq
  exact hk hEq.1

theorem Unread.rely (hseen : Observed env me seen s) (h : Unread seen s) (hst : Rely env me s t) :
    Unread seen t := by
  intro u hu read hread hdigest
  rcases hst.reads read hread with hold | ⟨_, _, hunique⟩
  · exact h u hu read hold hdigest
  · exact hseen.not_other hu (hunique u hdigest)

theorem Keyed.rely {version : U} (hseen : Observed env me seen s) (h : Keyed env seen version s)
    (hst : Rely env me s t) : Keyed env seen version t := by
  refine
    { drawn := h.drawn.mono hst.drawn
      fresh := ?_ }
  intro read hread hversion hdigest w hw
  rcases hst.reads read hread with hold | ⟨hcommitted, hids, hunique⟩
  · exact h.fresh read hold hversion hdigest w hw
  · cases hcase : seen.digest with
    | unique u => exact absurd (hunique u (hdigest.trans hcase)) (hseen.not_other hcase)
    | pending ids =>
        rcases List.mem_append.1 (hseen.known w hw) with hold | hmine
        · exact hcommitted w hold
        · exact hids ids (hdigest.trans hcase) w (hseen.own ids hcase w hmine)

theorem World.Removable.rely {ids : List U} (h : s.Removable ids) (hst : Rely env me s t) :
    t.Removable ids := by
  refine
    { committed := fun w hw => hst.committed w (h.committed w hw)
      seen := ?_ }
  intro read hread hversion w hw
  rcases hst.reads read hread with hold | ⟨hcommitted, _, _⟩
  · exact h.seen read hold (hst.current read hold hversion) w hw
  · exact hcommitted w (h.committed w hw)

theorem Answers.rely {known : List U} {payload : Payload U} (h : Answers me known payload s)
    (hst : Rely env me s t) : Answers me known payload t := by
  intro part hpart
  obtain ⟨hknown, hvisible⟩ := h part hpart
  exact ⟨hknown, fun w hw => hst.visible (hvisible w hw)⟩

theorem World.ReadUnder.rely {key : PayloadKey U ι} {payload : Payload U}
    (h : s.ReadUnder key payload) (hst : Rely env me s t) : t.ReadUnder key payload :=
  fun part hpart => hst.kept _ (h part hpart)

/-- Before the version is known. -/
def Reading (env : Uuid4 K U) (me : K) (seen : Observation U) (s : World K U ι) : Prop :=
  Observed env me seen s ∧ Unread seen s

/-- With a version. -/
def Looking (env : Uuid4 K U) (me : K) (seen : Observation U) (version : U) (s : World K U ι) :
    Prop :=
  Reading env me seen s ∧ Keyed env seen version s

variable (env me seen)

theorem stable_reading : (outline env).Stable me (Reading (ι := ι) env me seen) :=
  fun _ _ h hst _ => ⟨h.1.rely hst, h.2.rely h.1 hst⟩

theorem stable_looking (version : U) :
    (outline env).Stable me (Looking (ι := ι) env me seen version) :=
  fun s t h hst ht => ⟨stable_reading env me seen s t h.1 hst ht, h.2.rely h.1.1 hst⟩

end Stability

/-! ## The version -/

section Version

variable {env : Uuid4 K U} {me : K} {α : Type}

theorem triple_keeps {P : World K U ι → Prop} {Q : α → World K U ι → Prop} {site : Site}
    {f : World K U ι → α × World K U ι} (hP : (outline env).Stable me P)
    (hQ : ∀ a, (outline env).Stable me (Q a))
    (h : ∀ s, s.Sound env → P s →
      Keeps env s (f s).2 ∧ (P (f s).2 → Q (f s).1 (f s).2)) :
    (outline env).Triple me P (.statement site f) (fun a s => P s ∧ Q a s) := by
  apply Outline.triple_kept hP hQ
  intro s hs hPs
  obtain ⟨⟨hsound, hrely⟩, hpost⟩ := h s hs hPs
  exact ⟨trivial, hsound, hrely, hpost (hP s _ hPs (hrely me) hsound)⟩

/-- A statement that keeps what the thread relies on and answers nothing of interest. -/
theorem triple_quiet {P : World K U ι → Prop} {site : Site} {f : World K U ι → α × World K U ι}
    (hP : (outline env).Stable me P) (h : ∀ s, s.Sound env → P s → Keeps env s (f s).2) :
    (outline env).Triple me P (.statement site f) (fun _ => P) := by
  have hkeeps : (outline env).Triple me P (.statement site f) (fun _ s => P s ∧ True) :=
    triple_keeps hP (fun _ => Outline.stable_const True)
      (fun s hs hPs => ⟨h s hs hPs, fun _ => trivial⟩)
  exact Outline.triple_weaken (fun _ _ h => h) (fun _ _ h => h.1) hkeeps

/-- Nothing has been read under a version that is drawn now. -/
theorem keyed_nextUuid {seen : Observation U} {s t : World K U ι} (hs : s.Sound env)
    (hreads : t.reads = s.reads) (hdrawn : t.Drawn env (s.nextUuid env (some me))) :
    Keyed env seen (s.nextUuid env (some me)) t := by
  refine
    { drawn := hdrawn
      fresh := ?_ }
  intro read hread hversion
  rw [hreads] at hread
  have hold := (hs.reads read hread).1
  rw [hversion] at hold
  exact absurd hold (nextUuid_not_drawn (some me))

variable [DecidableEq K]

theorem triple_rotate {P : World K U ι → Prop} {Q : U → World K U ι → Prop} (outcome : SetOutcome)
    (hP : (outline env).Stable me P) (hQ : ∀ v, (outline env).Stable me (Q v))
    (h : ∀ s t : World K U ι, s.Sound env → P s → P t →
      t = (s.draw (some me)).setVersion (some (s.nextUuid env (some me))) →
      Q (s.nextUuid env (some me)) t) :
    (outline env).Triple me P (rotate env me outcome)
      (fun version s => P s ∧ ∀ v, version = some v → Q v s) := by
  apply triple_keeps hP
  · intro version
    exact Outline.stable_forall fun v => Outline.stable_imp _ fun _ => hQ v
  · intro s hs hPs
    cases outcome with
    | done =>
        refine ⟨Keeps.setVersion_drawn hs (some me), ?_⟩
        rintro hPt v ⟨rfl⟩
        exact h s _ hs hPs hPt rfl
    | failed applied =>
        cases applied with
        | true =>
            refine ⟨Keeps.setVersion_drawn hs (some me), ?_⟩
            intro _ v hv
            cases hv
        | false =>
            refine ⟨Keeps.draw hs (some me), ?_⟩
            intro _ v hv
            cases hv

/-- What was committed before a rotation may be removed after it. -/
theorem removable_rotated {s : World K U ι} (hs : s.Sound env) (who : Option K) {ids : List U}
    (hids : ∀ w ∈ ids, w ∈ s.committed) :
    ((s.draw who).setVersion (some (s.nextUuid env who))).Removable ids := by
  refine
    { committed := hids
      seen := ?_ }
  intro read hread hversion
  have hold := (hs.reads read hread).1
  rw [← Option.some.inj hversion] at hold
  exact absurd hold (nextUuid_not_drawn who)

omit [DecidableEq K] in
theorem stable_removable (ids : List U) :
    (outline env).Stable me (World.Removable (K := K) (ι := ι) ids) :=
  fun _ _ h hst _ => h.rely hst

omit [DecidableEq K] in
theorem triple_removePending [DecidableEq U] {P : World K U ι → Prop} (ids : List U)
    (outcome : RemoveOutcome) (hP : (outline env).Stable me P) :
    (outline env).Triple me (fun s => P s ∧ s.Removable ids) (removePending ids outcome)
      (fun _ => P) := by
  have hkeeps : (outline env).Triple me (fun s => P s ∧ s.Removable ids)
      (removePending ids outcome) (fun _ s => P s ∧ s.Removable ids) := by
    apply triple_quiet (Outline.stable_and hP (stable_removable ids))
    rintro s hs ⟨_, hids⟩
    cases outcome with
    | deleted => exact Keeps.removeMarkers hs hids
    | retained => exact Keeps.refl hs
    | raised deleted =>
        cases deleted with
        | true => exact Keeps.removeMarkers hs hids
        | false => exact Keeps.refl hs
  exact Outline.triple_weaken (fun _ _ h => h) (fun _ _ h => h.1) hkeeps

variable {seen : Observation U}

theorem triple_drawVersion :
    (outline env).Triple me (Reading (ι := ι) env me seen) (drawVersion env me)
      (fun version => Looking env me seen version) := by
  have hkeeps : (outline env).Triple me (Reading (ι := ι) env me seen) (drawVersion env me)
      (fun version s => Reading env me seen s ∧ Looking env me seen version s) := by
    apply triple_keeps (stable_reading env me seen) (stable_looking env me seen)
    intro s hs _
    refine ⟨Keeps.draw hs (some me), ?_⟩
    intro hreading
    exact ⟨hreading, keyed_nextUuid hs rfl (nextUuid_drawn (some me))⟩
  exact Outline.triple_weaken (fun _ _ h => h) (fun _ _ h => h.2) hkeeps

omit [DecidableEq K] in
/-- The heart of it: a payload under the current version that lacks a known write finds the marker of
the write still there, so that the digest of the reader names it. -/
theorem Reading.looking {s : World K U ι} (hs : s.Sound env) (h : Reading env me seen s) {version : U}
    (hversion : s.version = some version) : Looking env me seen version s := by
  refine ⟨h, ?_⟩
  refine
    { drawn := hs.version version hversion
      fresh := ?_ }
  intro read hread hkey hdigest w hw
  cases hcase : seen.digest with
  | unique u => exact absurd (hdigest.trans hcase) (h.2 u hcase read hread)
  | pending ids =>
      obtain ⟨hids, _⟩ := hs.observed read hread ids (hdigest.trans hcase)
      rcases List.mem_append.1 (h.1.known w hw) with hcommitted | hmine
      · rcases hs.current read hread (hkey ▸ hversion) w hcommitted with hpart | hmarker
        · exact hpart
        · exact hids w (h.1.kept ids hcase w hw hmarker)
      · exact hids w (h.1.own ids hcase w hmine)

omit [DecidableEq K] in
theorem triple_getVersion (fails : Bool) :
    (outline env).Triple me (Reading (ι := ι) env me seen) (getVersion fails)
      (fun answer s => Reading env me seen s ∧
        ∀ version, answer = some (some version) → Looking env me seen version s) := by
  apply triple_keeps (stable_reading env me seen)
  · intro answer
    exact Outline.stable_forall fun version =>
      Outline.stable_imp _ fun _ => stable_looking env me seen version
  · intro s hs hreading
    refine ⟨Keeps.refl hs, ?_⟩
    intro _ version hanswer
    cases fails with
    | true => cases hanswer
    | false => exact hreading.looking hs (Option.some.inj hanswer)

theorem triple_addVersion {P : World K U ι → Prop} (outcome : SetOutcome)
    (hP : (outline env).Stable me P) :
    (outline env).Triple me P (addVersion env me outcome) (fun _ => P) := by
  apply triple_quiet hP
  intro s hs _
  cases hversion : s.version with
  | none =>
      cases outcome with
      | done => exact Keeps.setVersion_drawn hs (some me)
      | failed applied =>
          cases applied with
          | true => exact Keeps.setVersion_drawn hs (some me)
          | false => exact Keeps.draw hs (some me)
  | some version =>
      cases outcome with
      | done => exact Keeps.draw hs (some me)
      | failed applied =>
          cases applied with
          | true => exact Keeps.draw hs (some me)
          | false => exact Keeps.draw hs (some me)

theorem triple_recoverVersion [DecidableEq U] (faults : ReadFaults)
    (hout : seen.inAtomicBlock = false) :
    (outline env).Triple me (Reading (ι := ι) env me seen)
      (recoverVersion env me faults seen.pending) (fun version => Looking env me seen version) := by
  unfold recoverVersion
  apply Outline.triple_bind (outline_preorder env) _
    (triple_rotate (Q := fun version s => Looking env me seen version s ∧ s.Removable seen.pending)
      faults.rotate (stable_reading env me seen)
      (fun version => Outline.stable_and (stable_looking env me seen version)
        (stable_removable seen.pending)) ?_)
  · intro version
    cases version with
    | none => exact Outline.triple_weaken (fun _ _ h => h.1) (fun _ _ h => h) triple_drawVersion
    | some version =>
        apply Outline.triple_bind (outline_preorder env) (fun _ => Looking env me seen version)
        · exact Outline.triple_weaken (fun _ _ h => h.2 version rfl) (fun _ _ h => h)
            (triple_removePending seen.pending faults.remove (stable_looking env me seen version))
        · intro returned
          cases returned with
          | true =>
              exact Outline.triple_returns (stable_looking env me seen version) (fun _ _ h => h)
          | false =>
              exact Outline.triple_weaken (fun _ _ h => h.1) (fun _ _ h => h) triple_drawVersion
  · rintro s _ hs hreading ht rfl
    exact ⟨⟨ht, keyed_nextUuid hs rfl (nextUuid_drawn (some me))⟩,
      removable_rotated hs (some me) (hreading.1.pending hout)⟩

theorem triple_currentVersion (faults : ReadFaults) :
    (outline env).Triple me (Reading (ι := ι) env me seen) (currentVersion env me faults)
      (fun version => Looking env me seen version) := by
  unfold currentVersion
  apply Outline.triple_bind (outline_preorder env) _ (triple_getVersion faults.get)
  intro found
  have hdraw : (outline env).Triple me (fun s => Reading (ι := ι) env me seen s ∧
      ∀ version, found = some (some version) → Looking env me seen version s) (drawVersion env me)
      (fun version => Looking env me seen version) :=
    Outline.triple_weaken (fun _ _ h => h.1) (fun _ _ h => h) triple_drawVersion
  rcases found with _ | _ | version
  · exact hdraw
  · apply Outline.triple_bind (outline_preorder env) (fun _ => Reading env me seen)
    · exact Outline.triple_weaken (fun _ _ h => h.1) (fun _ _ h => h)
        (triple_addVersion faults.add (stable_reading env me seen))
    · intro added
      cases added with
      | false => exact triple_drawVersion
      | true =>
          apply Outline.triple_bind (outline_preorder env) _ (triple_getVersion faults.getAgain)
          intro again
          rcases again with _ | _ | version
          · exact Outline.triple_weaken (fun _ _ h => h.1) (fun _ _ h => h) triple_drawVersion
          · exact Outline.triple_weaken (fun _ _ h => h.1) (fun _ _ h => h) triple_drawVersion
          · exact Outline.triple_weaken (fun _ _ h => h.2 version rfl) (fun _ _ h => h)
              (Outline.triple_returns (stable_looking env me seen version) (fun _ _ h => h))
  · exact Outline.triple_weaken (fun _ _ h => h.2 version rfl) (fun _ _ h => h)
      (Outline.triple_returns (stable_looking env me seen version) (fun _ _ h => h))

theorem triple_cacheVersion [DecidableEq U] (faults : ReadFaults) :
    (outline env).Triple me (Reading (ι := ι) env me seen) (cacheVersion env me faults seen)
      (fun version => Looking env me seen version) := by
  unfold cacheVersion
  split
  · rename_i hpending
    exact triple_recoverVersion faults hpending.2
  · exact triple_currentVersion faults

end Version

/-! ## The query of the markers -/

section Query

variable {env : Uuid4 K U} {me : K} [LinearOrder U]

theorem mem_of_mem_pendingIds {s : World K U ι} {w : U} (h : w ∈ pendingIds me s) :
    w ∈ s.markers ∨ w ∈ s.own me := by
  have hmem := (List.mem_insertionSort _).1 (List.mem_of_mem_take h)
  exact List.mem_append.1 hmem

/-- Up to the batch size the query returns all markers. -/
theorem mem_pendingIds {s : World K U ι} (h : ¬ recoveryBatchSize < (pendingIds me s).length)
    {w : U} (hw : w ∈ s.markers ∨ w ∈ s.own me) : w ∈ pendingIds me s := by
  have hmem : w ∈ (s.markers ++ s.own me).insertionSort (· ≤ ·) :=
    (List.mem_insertionSort _).2 (List.mem_append.2 hw)
  have hlength : ((s.markers ++ s.own me).insertionSort (· ≤ ·)).length ≤ recoveryBatchSize + 1 := by
    unfold pendingIds at h
    rw [List.length_take] at h
    omega
  unfold pendingIds
  rw [List.take_of_length_le hlength]
  exact hmem

variable [DecidableEq K]

theorem triple_readPending :
    (outline env).Triple me (fun _ => True) (readPending env me)
      (fun seen => Reading (ι := ι) env me seen) := by
  apply Outline.triple_statement (Outline.stable_const True) (stable_reading env me)
  intro s hs _
  -- outside a transaction the ids read are ids of committed writes
  have hcommitted : (s.transactions me).isSome = false → ∀ w ∈ pendingIds me s,
      w ∈ s.committed := by
    intro hnone w hw
    rcases mem_of_mem_pendingIds hw with hmarker | hmine
    · exact hs.markers w hmarker
    · cases hopen : s.transactions me with
      | none =>
          rw [World.own, hopen] at hmine
          cases hmine
      | some writes =>
          rw [hopen] at hnone
          cases hnone
  by_cases hlarge : recoveryBatchSize < (pendingIds me s).length
  · -- more pending writes than one batch: a fresh unique digest stands for all of them
    simp only [hlarge, if_true]
    obtain ⟨hsound, hrely⟩ := Keeps.draw hs (some me)
    refine ⟨trivial, hsound, fun k _ => hrely k, ?_, ?_⟩
    · exact
        { known := fun w hw => hw
          own := fun ids hids => by cases hids
          named := fun ids hids => by cases hids
          kept := fun ids hids => by cases hids
          unique := by
            rintro u ⟨rfl⟩
            exact nextUuid_drawnBy me
          pending := fun hnone w hw => hcommitted hnone w (List.mem_of_mem_take hw) }
    · rintro u ⟨rfl⟩ read hread hdigest
      exact nextUuid_not_drawn (some me) ((hs.reads read hread).2 _ hdigest)
  · -- otherwise the digest names every pending write, our own among them
    simp only [hlarge, if_false]
    have hall : ∀ w, w ∈ s.markers ∨ w ∈ s.own me → w ∈ pendingIds me s := fun w hw =>
      mem_pendingIds hlarge hw
    obtain ⟨hsound, hrely⟩ := Keeps.refl hs
    refine ⟨trivial, hsound, fun k _ => hrely k, ?_, ?_⟩
    · exact
        { known := fun w hw => hw
          own := by
            rintro ids ⟨rfl⟩ w hw
            exact hall w (Or.inr hw)
          named := by
            rintro ids ⟨rfl⟩ w hw
            rcases mem_of_mem_pendingIds hw with hmarker | hmine
            · exact List.mem_append_left _ (hs.markers w hmarker)
            · exact List.mem_append_right _ hmine
          kept := by
            rintro ids ⟨rfl⟩ w _ hmarker
            exact hall w (Or.inl hmarker)
          unique := fun u hu => by cases hu
          pending := hcommitted }
    · intro u hu
      cases hu

end Query

/-! ## Payloads -/

section Payloads

variable {env : Uuid4 K U} {me : K} {seen : Observation U} {key : PayloadKey U ι}

/-- The key is made of the version and the digest of the reader. -/
def KeyOf (seen : Observation U) (key : PayloadKey U ι) : Prop :=
  key.namespaceKey.digest = seen.digest

/-- What the cache holds under the key of a reader may be returned to it. -/
theorem Looking.answers {s : World K U ι} (hs : s.Sound env)
    (h : Looking env me seen key.namespaceKey.version s) (hkey : KeyOf seen key)
    {payload : Payload U} (hread : s.ReadUnder key payload) :
    Answers me seen.known payload s := by
  obtain ⟨⟨hseen, hunread⟩, hkeyed⟩ := h
  intro part hpart
  have hmem := hread part hpart
  refine ⟨hkeyed.fresh _ hmem rfl hkey, ?_⟩
  cases hcase : seen.digest with
  | unique u => exact absurd (hkey.trans hcase) (hunread u hcase _ hmem)
  | pending ids =>
      intro w hw
      rcases (hs.observed _ hmem ids (hkey.trans hcase)).2 w hw with hcommitted | hid
      · exact List.mem_append_left _ hcommitted
      · exact hseen.named ids hcase w hid

/-- The payload was read under the key and may be returned. -/
def Holds (me : K) (seen : Observation U) (key : PayloadKey U ι) (payload : Payload U)
    (s : World K U ι) : Prop :=
  s.ReadUnder key payload ∧ Answers me seen.known payload s

theorem stable_holds (payload : Payload U) :
    (outline env).Stable me (Holds me seen key payload) :=
  fun _ _ h hst _ => ⟨h.1.rely hst, h.2.rely hst⟩

/-- While the handler reads, and afterwards. -/
def Handling (env : Uuid4 K U) (me : K) (seen : Observation U) (version : U) (s : World K U ι) :
    Prop :=
  Observed env me seen s ∧ Keyed env seen version s

theorem stable_handling (version : U) :
    (outline env).Stable me (Handling (ι := ι) env me seen version) :=
  fun _ _ h hst _ => ⟨h.1.rely hst, h.2.rely h.1 hst⟩

/-- A statement of the handler sees every known write and nothing foreign. -/
theorem triple_readData (hkey : KeyOf seen key) (before : Payload U) :
    (outline env).Triple me
      (fun s => Handling env me seen key.namespaceKey.version s ∧ Holds me seen key before s)
      (readData me key)
      (fun part s => Handling env me seen key.namespaceKey.version s ∧
        Holds me seen key (before ++ [part]) s) := by
  apply Outline.triple_statement (Outline.stable_and (stable_handling _) (stable_holds before))
  · intro part
    exact Outline.stable_and (stable_handling _) (stable_holds _)
  · rintro s hs ⟨⟨hseen, hkeyed⟩, hbefore, hanswers⟩
    have hsteps := Steps.noteRead hs hkeyed.drawn
      (fun ids hids => ⟨hseen.named ids (hkey.symm.trans hids), hseen.own ids (hkey.symm.trans hids)⟩)
      (fun u hu => hseen.unique u (hkey.symm.trans hu))
    refine ⟨trivial, hsteps.1, hsteps.2, ⟨{ hseen with }, ?_⟩, ?_, ?_⟩
    · refine { hkeyed with fresh := ?_ }
      -- a read is either an old one under this version, or the one just noted
      intro read hread hversion hdigest w hw
      rcases List.mem_append.1 hread with hold | hnew
      · exact hkeyed.fresh read hold hversion hdigest w hw
      · rw [List.mem_singleton.1 hnew]
        exact hseen.known w hw
    · intro part hpart
      rcases List.mem_append.1 hpart with hold | hnew
      · exact List.mem_append_left _ (hbefore part hold)
      · rw [List.mem_singleton.1 hnew]
        exact List.mem_append_right _ (List.mem_singleton_self _)
    · -- each part of the payload was read while what we know was visible
      intro part hpart
      rcases List.mem_append.1 hpart with hold | hnew
      · exact hanswers part hold
      · rw [List.mem_singleton.1 hnew]
        exact ⟨hseen.known, fun w hw => hw⟩

theorem triple_handle (hkey : KeyOf seen key) : ∀ (n : Nat) (before : Payload U),
    (outline env).Triple me
      (fun s => Handling env me seen key.namespaceKey.version s ∧ Holds me seen key before s)
      (handle me key n) (fun rest s => Holds me seen key (before ++ rest) s)
  | 0, before => by
      refine Outline.triple_returns ?_ ?_
      · exact Outline.stable_and (stable_handling _) (stable_holds before)
      · intro s _ h
        rw [List.append_nil]
        exact h.2
  | n + 1, before => by
      apply Outline.triple_bind (outline_preorder env) _ (triple_readData hkey before)
      intro part
      apply Outline.triple_bind (outline_preorder env) _ (triple_handle hkey n (before ++ [part]))
      intro rest
      refine Outline.triple_returns (stable_holds _) ?_
      intro s _ h
      rw [List.append_assoc] at h
      exact h

variable [DecidableEq U] [DecidableEq ι]

theorem triple_setMemory (host : Nat) {P : World K U ι → Prop} {payload : Payload U}
    (hP : (outline env).Stable me P)
    (hread : ∀ s, P s → s.ReadUnder key payload) :
    (outline env).Triple me P (setMemory host key payload) (fun _ => P) := by
  apply triple_quiet hP
  intro s hs hPs
  refine Keeps.setMemory hs ?_
  rintro p ⟨rfl⟩
  exact hread s hPs

/-- A hit may be returned. -/
theorem triple_getPayload (host : Nat) (hkey : KeyOf seen key) (fails : Bool) :
    (outline env).Triple me (Looking env me seen key.namespaceKey.version)
      (getPayload host key fails)
      (fun found s => Looking env me seen key.namespaceKey.version s ∧
        ∀ payload, found = some payload → Holds me seen key payload s) := by
  -- what other workers do keeps the answer: a payload that holds goes on holding
  have hstable : ∀ found : Option (Payload U), (outline env).Stable me (fun s : World K U ι =>
      ∀ payload, found = some payload → Holds me seen key payload s) := fun found =>
    Outline.stable_forall fun payload => Outline.stable_imp _ fun _ => stable_holds payload
  have hlooking := stable_looking (ι := ι) env me seen key.namespaceKey.version
  unfold getPayload
  apply Outline.triple_bind (outline_preorder env)
    (fun found s => Looking env me seen key.namespaceKey.version s ∧
      ∀ payload, found = some payload → Holds me seen key payload s)
  · -- first this process's own memory
    apply triple_keeps hlooking hstable
    intro s hs _
    refine ⟨Keeps.refl hs, ?_⟩
    intro hlook payload hpayload
    have hread : s.ReadUnder key payload := hs.memory host key payload hpayload
    exact ⟨hread, hlook.answers hs hkey hread⟩
  · intro found
    cases found with
    | some payload =>
        exact Outline.triple_returns (Outline.stable_and hlooking (hstable _)) (fun _ _ h => h)
    | none =>
        -- then the shared cache, which may fail and then answers nothing
        apply Outline.triple_bind (outline_preorder env)
          (fun found s => Looking env me seen key.namespaceKey.version s ∧
            ∀ payload, found = some payload → Holds me seen key payload s)
        · refine Outline.triple_weaken (fun _ _ h => h.1) (fun _ _ h => h)
            (triple_keeps hlooking hstable ?_)
          intro s hs _
          refine ⟨Keeps.refl hs, ?_⟩
          intro hlook payload hpayload
          cases fails with
          | true => cases hpayload
          | false =>
              have hread : s.ReadUnder key payload := hs.cache key payload hpayload
              exact ⟨hread, hlook.answers hs hkey hread⟩
        · intro found
          cases found with
          | none =>
              exact Outline.triple_returns (Outline.stable_and hlooking (hstable _)) (fun _ _ h => h)
          | some payload =>
              -- a payload found there is copied into the memory of this process
              apply Outline.triple_bind (outline_preorder env)
                (fun _ s => Looking env me seen key.namespaceKey.version s ∧
                  ∀ p, some payload = some p → Holds me seen key p s)
              · exact triple_setMemory host (Outline.stable_and hlooking (hstable _))
                  (fun s h => (h.2 payload rfl).1)
              · intro _
                exact Outline.triple_returns (Outline.stable_and hlooking (hstable _))
                  (fun _ _ h => h)

theorem triple_setPayload (host : Nat) (payload : Payload U) (outcome : SetOutcome) :
    (outline env).Triple me (Holds me seen key payload) (setPayload host key payload outcome)
      (fun _ => Holds me seen key payload) := by
  unfold setPayload
  apply Outline.triple_bind (outline_preorder env) (fun _ => Holds me seen key payload)
  · apply triple_quiet (stable_holds payload)
    intro s hs h
    have hread : ∀ p, some payload = some p → s.ReadUnder key p := by
      rintro p ⟨rfl⟩
      exact h.1
    cases outcome with
    | done => exact Keeps.setPayload hs hread
    | failed applied =>
        cases applied with
        | true => exact Keeps.setPayload hs hread
        | false => exact Keeps.refl hs
  · intro returned
    cases returned with
    | true => exact triple_setMemory host (stable_holds payload) (fun s h => h.1)
    | false => exact Outline.triple_returns (stable_holds payload) (fun _ _ h => h)

omit [DecidableEq U] [DecidableEq ι] in
theorem triple_respond (payload : Payload U) :
    (outline env).Triple me (Holds me seen key payload) (respond me seen.known payload)
      (fun _ _ => True) := by
  have hquiet : (outline env).Triple me (Holds me seen key payload)
      (respond me seen.known payload) (fun _ => Holds me seen key payload) := by
    apply triple_quiet (stable_holds payload)
    intro s hs h
    exact Keeps.respond hs h.2
  exact Outline.triple_weaken (fun _ _ h => h) (fun _ _ _ => trivial) hquiet

end Payloads

/-! ## Programs -/

section Programs

variable {env : Uuid4 K U} {me : K} [DecidableEq K] [LinearOrder U] [DecidableEq ι]

omit [DecidableEq K] in
theorem triple_answer {seen : Observation U} {key : PayloadKey U ι} (hkey : KeyOf seen key)
    (request : ReadRequest ι) :
    (outline env).Triple me (Looking env me seen key.namespaceKey.version)
      (answer me request seen.known key) (fun _ _ => True) := by
  unfold answer
  apply Outline.triple_bind (outline_preorder env) _
    (triple_getPayload request.host hkey request.faults.lookup)
  intro found
  cases found with
  | some payload =>
      exact Outline.triple_weaken (fun _ _ h => h.2 payload rfl) (fun _ _ h => h)
        (triple_respond payload)
  | none =>
      apply Outline.triple_bind (outline_preorder env)
        (fun payload => Holds me seen key payload)
      · have hnothing : ∀ s : World K U ι, Holds me seen key [] s := fun s =>
          ⟨fun part hpart => absurd hpart List.not_mem_nil,
            fun part hpart => absurd hpart List.not_mem_nil⟩
        exact Outline.triple_weaken (fun s _ h => ⟨⟨h.1.1.1, h.1.2⟩, hnothing s⟩) (fun _ _ h => h)
          (triple_handle hkey request.statements [])
      · intro payload
        split
        · apply Outline.triple_bind (outline_preorder env) _
            (triple_setPayload request.host payload request.faults.store)
          intro _
          exact triple_respond payload
        · exact triple_respond payload

theorem triple_cacheApiResponse (request : ReadRequest ι) :
    (outline env).Triple me (fun _ => True) (cacheApiResponse env me request)
      (fun _ _ => True) := by
  unfold cacheApiResponse
  apply Outline.triple_bind (outline_preorder env) _ triple_readPending
  intro seen
  apply Outline.triple_bind (outline_preorder env) _ (triple_cacheVersion request.faults)
  intro version
  have hkey : KeyOf seen
      { namespaceKey :=
          { version := version
            digest := seen.digest }
        identity := request.identity } := rfl
  exact triple_answer hkey request

/-! ## Writers -/

section Writers

omit [LinearOrder U] [DecidableEq ι]

omit [DecidableEq K] in
/-- A statement on the transaction of its own thread. -/
theorem triple_transaction {α : Type} {site : Site} {f : World K U ι → α × World K U ι}
    (h : ∀ s, s.Sound env → Steps env me s (f s).2) :
    (outline env).Triple me (fun _ => True) (.statement site f) (fun _ _ => True) := by
  apply Outline.triple_statement (Outline.stable_const True) (fun _ => Outline.stable_const True)
  intro s hs _
  obtain ⟨hsound, hrely⟩ := h s hs
  exact ⟨trivial, hsound, hrely, trivial⟩

/-- A write is drawn for its transaction. -/
theorem Steps.write {s : World K U ι} (h : s.Sound env) {writes : List U}
    (hopen : s.transactions me = some writes) :
    Steps env me s ((s.draw (some me)).setTransaction me
      (some (writes ++ [s.nextUuid env (some me)]))) := by
  obtain ⟨hsound, hrely⟩ := Keeps.draw h (some me)
  have hset : Steps env me (s.draw (some me)) ((s.draw (some me)).setTransaction me
      (some (writes ++ [s.nextUuid env (some me)]))) := by
    refine Steps.setTransaction hsound ?_
    intro w hw
    rcases List.mem_append.1 hw with hold | hnew
    · refine hsound.own me w ?_
      have hown : (s.draw (some me)).own me = writes := by
        simp [World.own, World.draw, hopen]
      rw [hown]
      exact hold
    · rw [List.mem_singleton.1 hnew]
      refine ⟨nextUuid_drawnBy me, ?_⟩
      intro hmem
      exact nextUuid_not_drawn (some me) (h.committed _ hmem)
  exact ⟨hset.1, fun k hk => (hrely k).trans (hset.2 k hk)⟩

theorem triple_invalidate [DecidableEq U] (outcome : SetOutcome × RemoveOutcome) {P : List U}
    {marker : U} (hmarker : marker ∈ P) :
    (outline env).Triple me (fun s : World K U ι => ∀ w ∈ P, w ∈ s.committed)
      (invalidate env me outcome marker) (fun _ s => ∀ w ∈ P, w ∈ s.committed) := by
  have hstable : (outline env).Stable me (fun s : World K U ι => ∀ w ∈ P, w ∈ s.committed) :=
    fun _ _ h hst _ w hw => hst.committed w (h w hw)
  unfold invalidate
  apply Outline.triple_bind (outline_preorder env) _
    (triple_rotate (Q := fun _ s => s.Removable [marker]) outcome.1 hstable
      (fun _ => stable_removable [marker]) ?_)
  · intro version
    cases version with
    | none =>
        exact Outline.triple_weaken (fun _ _ h => h.1) (fun _ _ h => h)
          (Outline.triple_returns hstable (fun _ _ h => h))
    | some version =>
        exact Outline.triple_weaken (fun _ _ h => ⟨h.1, h.2 version rfl⟩) (fun _ _ h => h)
          (triple_removePending [marker] outcome.2 hstable)
  · rintro s _ hs hcommitted _ rfl
    refine removable_rotated hs (some me) ?_
    intro w hw
    rw [List.mem_singleton.1 hw]
    exact hcommitted marker hmarker

/-- The hooks run after the commit of everything they invalidate. -/
theorem triple_runHooks [DecidableEq U] (outcome : U → SetOutcome × RemoveOutcome) :
    ∀ writes : List U,
      (outline env).Triple me (fun s : World K U ι => ∀ w ∈ writes, w ∈ s.committed)
        (runHooks env me outcome writes) (fun _ _ => True)
  | [] => Outline.triple_weaken (fun _ _ _ => trivial) (fun _ _ h => h)
      (Outline.triple_returns (Q := fun _ _ => True) (Outline.stable_const True) (fun _ _ h => h))
  | marker :: rest => by
      unfold runHooks
      apply Outline.triple_bind (outline_preorder env) _
        (triple_invalidate (outcome marker) List.mem_cons_self)
      intro returned
      cases returned with
      | true =>
          exact Outline.triple_weaken (fun _ _ h w hw => h w (List.mem_cons_of_mem _ hw))
            (fun _ _ h => h) (triple_runHooks outcome rest)
      | false =>
          exact Outline.triple_weaken (fun _ _ _ => trivial) (fun _ _ h => h)
            (Outline.triple_returns (Q := fun _ _ => True) (Outline.stable_const True)
              (fun _ _ h => h))

theorem triple_commitAtomic :
    (outline env).Triple me (fun _ => True) (commitAtomic me)
      (fun writes (s : World K U ι) => ∀ w ∈ writes, w ∈ s.committed) := by
  apply Outline.triple_statement (Outline.stable_const True)
  · intro writes
    exact fun _ _ h hst _ w hw => hst.committed w (h w hw)
  · intro s hs _
    have hsteps : Steps env me s _ := Steps.commit hs
    obtain ⟨hsound, hrely⟩ := hsteps
    exact ⟨trivial, hsound, hrely, fun w hw => List.mem_append_right _ hw⟩

end Writers

theorem triple_exec (command : Command U ι) :
    (outline env).Triple me (fun _ => True) (command.exec env me) (fun _ _ => True) := by
  cases command with
  | begin =>
      apply triple_transaction
      intro s hs
      exact Steps.setTransaction hs (fun w hw => hs.own me w hw)
  | write =>
      apply triple_transaction
      -- outside a transaction the write runs by itself, inside one it is added to its writes
      intro s hs
      cases hopen : s.transactions me with
      | none =>
          obtain ⟨hsound, hrely⟩ := Keeps.refl hs
          exact ⟨hsound, fun k _ => hrely k⟩
      | some writes => exact Steps.write hs hopen
  | rollbackTo kept =>
      apply triple_transaction
      intro s hs
      -- rolling back to a savepoint keeps a part of the transaction's own writes
      refine Steps.setTransaction hs ?_
      intro w hw
      refine hs.own me w ?_
      cases hopen : s.transactions me with
      | none =>
          rw [hopen] at hw
          cases hw
      | some writes =>
          rw [hopen] at hw
          rw [World.own, hopen]
          exact List.mem_of_mem_take hw
  | rollback =>
      apply triple_transaction
      intro s hs
      exact Steps.setTransaction hs (fun w hw => absurd hw List.not_mem_nil)
  | commit outcome =>
      apply Outline.triple_bind (outline_preorder env) _ triple_commitAtomic
      intro writes
      exact triple_runHooks outcome writes
  | read request => exact triple_cacheApiResponse request

theorem triple_script : ∀ commands : List (Command U ι),
    (outline env).Triple me (fun _ => True) (script env me commands) (fun _ _ => True)
  | [] => Outline.triple_returns (Outline.stable_const True) (fun _ _ h => h)
  | command :: rest => by
      apply Outline.triple_bind (outline_preorder env) _ (triple_exec command)
      intro _
      exact triple_script rest

end Programs

/-! ## Every interleaving -/

section Runs

variable [DecidableEq K] [LinearOrder U] [DecidableEq ι] (env : Uuid4 K U)

/-- Neither a crash nor what the caches do by themselves breaks what the threads rely on. -/
theorem machine_follows : (machine (K := K) (ι := ι) env).Follows (outline env) :=
  { preorder := outline_preorder env
    program := fun _ commands s hs => triple_script commands s hs trivial
    release := fun _ _ hs => Steps.setTransaction hs (fun w hw => absurd hw List.not_mem_nil)
    ambient := by
      intro e s hs
      cases e with
      | evictVersion => exact Keeps.setVersion_none hs
      | evictPayload key => exact Keeps.setPayload hs (fun p hp => by cases hp)
      | evictMemory host key => exact Keeps.setMemory hs (fun p hp => by cases hp)
      | lateVersion => exact Keeps.setVersion_drawn hs none }

omit [DecidableEq K] [LinearOrder U] [DecidableEq ι] in
theorem empty_sound : (World.empty : World K U ι).Sound env :=
  { markers := fun w hw => hw
    committed := fun w hw => absurd hw List.not_mem_nil
    own := fun _ w hw => absurd hw List.not_mem_nil
    version := fun v hv => by cases hv
    reads := fun read hread => absurd hread List.not_mem_nil
    current := fun read hread => absurd hread List.not_mem_nil
    observed := fun read hread => absurd hread List.not_mem_nil
    cache := fun key payload hp => by cases hp
    memory := fun host key payload hp => by cases hp
    deliveries := fun d hd => absurd hd List.not_mem_nil }

/-- Every response there ever was: its payload has seen every write that was visible to the reader
when it read the markers, and nothing but writes that are committed or the reader's own. -/
def World.CacheFresh (s : World K U ι) : Prop := ∀ delivery ∈ s.deliveries, delivery.Sound

/-- Cache freshness, for every interleaving of any number of readers and writers, every pattern of
failures, crashes and evictions, and every supply of distinct identifiers. -/
theorem cache_fresh (events : List (Event K (List (Command U ι)) (CacheEvent U ι))) :
    (reached env events).CacheFresh :=
  (run_sound (machine_follows env) (sound_start (empty_sound env)) events).inv.deliveries

end Runs

/-! ## A sample run -/

/-- Even numbers for the thread, odd ones for late calls. -/
def sampleUuids : Uuid4 Unit Nat :=
  { value := fun p => p.1.elim (2 * p.2 + 1) fun _ => 2 * p.2
    injective := by
      rintro ⟨_ | who, n⟩ ⟨_ | who', n'⟩ h
      · have hEq : 2 * n + 1 = 2 * n' + 1 := h
        have hn : n = n' := by omega
        rw [hn]
      · have hEq : 2 * n + 1 = 2 * n' := h
        omega
      · have hEq : 2 * n = 2 * n' + 1 := h
        omega
      · have hEq : 2 * n = 2 * n' := h
        have hn : n = n' := by omega
        rw [hn] }

def plainRead : ReadRequest Unit :=
  { host := 0
    identity := ()
    statements := 1
    succeeds := true
    faults :=
      { rotate := .done
        remove := .deleted
        get := false
        add := .done
        getAgain := false
        lookup := false
        store := .done } }

/-- The rotation after the commit fails: the first reader recovers, the second one stores, and the
third one is answered from memory with what the second one has read. -/
example : ((reached sampleUuids
    (.starts () [.begin, .write, .commit fun _ => (.failed false, .deleted), .read plainRead,
      .read plainRead, .read plainRead] :: List.replicate 31 (.steps ()))).reads.map Prod.snd,
    (reached sampleUuids
      (.starts () [.begin, .write, .commit fun _ => (.failed false, .deleted), .read plainRead,
        .read plainRead, .read plainRead] :: List.replicate 31 (.steps ()))).deliveries.map
          Delivery.payload) = ([[0], [0]], [[[0]], [[0]], [[0]]]) := by
  decide +kernel

end CacheGuard
end RosarioDairy
