import RosarioDairy.Config.CacheNamespace

/-!
# CacheEffects — what the steps of readers and writers keep

A version key that is current has been so since it was set, for no value is set twice.  So as long as
it is current, a committed write that some payload under it lacks still has its marker: whoever
deletes a marker has rotated the key after the marker was committed.  A reader that knows of the write
therefore has the marker in its digest, and a payload under such a digest does not lack the write.
-/

namespace RosarioDairy
namespace CacheGuard

open Foundations

variable {K U ι : Type}

/-! ## Drawn values -/

section Drawn

variable (env : Uuid4 K U)

/-- The value has been drawn, by whomever. -/
def World.Drawn (s : World K U ι) (value : U) : Prop :=
  ∃ who n, n < s.drawn who ∧ value = env.value (who, n)

def World.DrawnBy (me : K) (s : World K U ι) (value : U) : Prop :=
  ∃ n, n < s.drawn (some me) ∧ value = env.value (some me, n)

variable {env} {s t : World K U ι}

theorem World.DrawnBy.drawn {me : K} {value : U} (h : s.DrawnBy env me value) :
    s.Drawn env value := by
  obtain ⟨n, hn, hvalue⟩ := h
  exact ⟨some me, n, hn, hvalue⟩

theorem World.Drawn.mono {value : U} (h : s.Drawn env value)
    (hle : ∀ who, s.drawn who ≤ t.drawn who) : t.Drawn env value := by
  obtain ⟨who, n, hn, hvalue⟩ := h
  exact ⟨who, n, Nat.lt_of_lt_of_le hn (hle who), hvalue⟩

theorem World.DrawnBy.mono {me : K} {value : U} (h : s.DrawnBy env me value)
    (hle : ∀ who, s.drawn who ≤ t.drawn who) : t.DrawnBy env me value := by
  obtain ⟨n, hn, hvalue⟩ := h
  exact ⟨n, Nat.lt_of_lt_of_le hn (hle (some me)), hvalue⟩

theorem nextUuid_not_drawn (who : Option K) : ¬ s.Drawn env (s.nextUuid env who) := by
  rintro ⟨who', n, hn, hvalue⟩
  have hEq := env.injective hvalue
  simp only [Prod.mk.injEq] at hEq
  obtain ⟨rfl, rfl⟩ := hEq
  exact Nat.lt_irrefl _ hn

variable [DecidableEq K]

theorem drawn_le_draw (who who' : Option K) : s.drawn who' ≤ (s.draw who).drawn who' := by
  by_cases h : who' = who
  · subst h
    simp [World.draw]
  · simp [World.draw, Function.update_of_ne h]

theorem nextUuid_drawn (who : Option K) : (s.draw who).Drawn env (s.nextUuid env who) :=
  ⟨who, s.drawn who, by simp [World.draw], rfl⟩

theorem nextUuid_drawnBy (me : K) :
    (s.draw (some me)).DrawnBy env me (s.nextUuid env (some me)) :=
  ⟨s.drawn (some me), by simp [World.draw], rfl⟩

end Drawn

/-! ## What holds of the whole world -/

section Invariant

variable (env : Uuid4 K U)

/-- The two parts of the promise, for one delivery. -/
def Delivery.Sound (delivery : Delivery K U) : Prop :=
  ∀ part ∈ delivery.payload,
    (∀ write ∈ delivery.known, write ∈ part) ∧ ∀ write ∈ part, write ∈ delivery.visible

/-- What holds between two steps. -/
structure World.Sound (s : World K U ι) : Prop where
  markers : ∀ w ∈ s.markers, w ∈ s.committed
  committed : ∀ w ∈ s.committed, s.Drawn env w
  own : ∀ k, ∀ w ∈ s.own k, s.DrawnBy env k w ∧ w ∉ s.committed
  version : ∀ v, s.version = some v → s.Drawn env v
  reads : ∀ read ∈ s.reads, s.Drawn env read.1.namespaceKey.version ∧
    ∀ u, read.1.namespaceKey.digest = .unique u → s.Drawn env u
  current : ∀ read ∈ s.reads, s.version = some read.1.namespaceKey.version →
    ∀ w ∈ s.committed, w ∈ read.2 ∨ w ∈ s.markers
  observed : ∀ read ∈ s.reads, ∀ ids, read.1.namespaceKey.digest = .pending ids →
    (∀ w ∈ ids, w ∈ read.2) ∧ ∀ w ∈ read.2, w ∈ s.committed ∨ w ∈ ids
  cache : ∀ key payload, s.cache key = some payload → ∀ part ∈ payload, (key, part) ∈ s.reads
  memory : ∀ host key payload, s.memory host key = some payload →
    ∀ part ∈ payload, (key, part) ∈ s.reads
  deliveries : ∀ delivery ∈ s.deliveries, delivery.Sound

/-- What a thread relies on while others take their steps: its transaction is its own, no committed
write gets a marker again, a version that is current again has stayed so, and what is read has seen
every committed write and what its digest names. -/
structure Rely (me : K) (s t : World K U ι) : Prop where
  transaction : t.transactions me = s.transactions me
  drawn : ∀ who, s.drawn who ≤ t.drawn who
  committed : ∀ w ∈ s.committed, w ∈ t.committed
  markers : ∀ w ∈ s.committed, w ∈ t.markers → w ∈ s.markers
  kept : ∀ read ∈ s.reads, read ∈ t.reads
  current : ∀ read ∈ s.reads, t.version = some read.1.namespaceKey.version →
    s.version = some read.1.namespaceKey.version
  reads : ∀ read ∈ t.reads, read ∈ s.reads ∨
    (∀ w ∈ s.committed, w ∈ read.2) ∧
    (∀ ids, read.1.namespaceKey.digest = .pending ids → ∀ w ∈ ids, w ∈ read.2) ∧
    ∀ u, read.1.namespaceKey.digest = .unique u → ∃ k n, k ≠ me ∧ u = env.value (some k, n)

end Invariant

section Rely

variable {env : Uuid4 K U} {me : K} {s t : World K U ι}

variable (env) in
theorem Rely.refl (me : K) (s : World K U ι) : Rely env me s s :=
  { transaction := rfl
    drawn := fun _ => Nat.le_refl _
    committed := fun _ hw => hw
    markers := fun _ _ hw => hw
    kept := fun _ hread => hread
    current := fun _ _ hversion => hversion
    reads := fun _ hread => Or.inl hread }

theorem Rely.trans {u : World K U ι} (h : Rely env me s t) (h' : Rely env me t u) :
    Rely env me s u :=
  { transaction := h'.transaction.trans h.transaction
    drawn := fun who => Nat.le_trans (h.drawn who) (h'.drawn who)
    committed := fun w hw => h'.committed w (h.committed w hw)
    markers := fun w hw hmarker => h.markers w hw (h'.markers w (h.committed w hw) hmarker)
    kept := fun read hread => h'.kept read (h.kept read hread)
    current := fun read hread hversion =>
      h.current read hread (h'.current read (h.kept read hread) hversion)
    reads := by
      intro read hread
      rcases h'.reads read hread with hold | ⟨hcommitted, hids, hunique⟩
      · exact h.reads read hold
      · exact Or.inr ⟨fun w hw => hcommitted w (h.committed w hw), hids, hunique⟩ }

theorem Rely.own (h : Rely env me s t) : t.own me = s.own me := by
  unfold World.own
  rw [h.transaction]

theorem Rely.visible (h : Rely env me s t) {w : U} (hw : w ∈ s.visible me) : w ∈ t.visible me := by
  unfold World.visible at hw ⊢
  rw [h.own]
  rcases List.mem_append.1 hw with hcommitted | hown
  · exact List.mem_append_left _ (h.committed w hcommitted)
  · exact List.mem_append_right _ hown

end Rely

/-! ## What a step does -/

section Effects

variable {env : Uuid4 K U} {me : K} {s : World K U ι}

/-- A step of the thread `me`: the world is sound afterwards, and the others can go on relying on
it. -/
def Steps (env : Uuid4 K U) (me : K) (s t : World K U ι) : Prop :=
  t.Sound env ∧ ∀ k, k ≠ me → Rely env k s t

/-- A step that keeps what the thread itself relies on as well. -/
def Keeps (env : Uuid4 K U) (s t : World K U ι) : Prop := t.Sound env ∧ ∀ k, Rely env k s t

theorem Keeps.refl (h : s.Sound env) : Keeps env s s := ⟨h, fun k => Rely.refl env k s⟩

theorem Keeps.setVersion_none (h : s.Sound env) : Keeps env s (s.setVersion none) := by
  refine ⟨{ h with version := ?_, current := ?_ }, fun k => { Rely.refl env k s with current := ?_ }⟩
  · intro v hv
    cases hv
  · intro read _ hv
    cases hv
  · intro read _ hv
    cases hv

theorem Keeps.respond (h : s.Sound env) {delivery : Delivery K U} (hsound : delivery.Sound) :
    Keeps env s (s.respond delivery) := by
  refine ⟨{ h with deliveries := ?_ }, fun k => { Rely.refl env k s with }⟩
  intro d hd
  rcases List.mem_append.1 hd with hold | hnew
  · exact h.deliveries d hold
  · rw [List.mem_singleton.1 hnew]
    exact hsound

section Payloads

variable [DecidableEq U] [DecidableEq ι]

/-- A payload that has been read under its key, or none. -/
def World.ReadUnder (key : PayloadKey U ι) (payload : Payload U) (s : World K U ι) : Prop :=
  ∀ part ∈ payload, (key, part) ∈ s.reads

theorem Keeps.setPayload (h : s.Sound env) {key : PayloadKey U ι} {payload : Option (Payload U)}
    (hread : ∀ p, payload = some p → s.ReadUnder key p) : Keeps env s (s.setPayload key payload) := by
  refine ⟨{ h with cache := ?_ }, fun k => { Rely.refl env k s with }⟩
  intro key' p hp
  by_cases hkey : key' = key
  · subst hkey
    simp only [World.setPayload, Function.update_self] at hp
    exact hread p hp
  · simp only [World.setPayload, Function.update_of_ne hkey] at hp
    exact h.cache key' p hp

theorem Keeps.setMemory (h : s.Sound env) {host : Nat}
    {key : PayloadKey U ι} {payload : Option (Payload U)}
    (hread : ∀ p, payload = some p → s.ReadUnder key p) :
    Keeps env s (s.setMemory host key payload) := by
  refine ⟨{ h with memory := ?_ }, fun k => { Rely.refl env k s with }⟩
  intro host' key' p hp
  by_cases hhost : host' = host
  · subst hhost
    simp only [World.setMemory, Function.update_self] at hp
    by_cases hkey : key' = key
    · subst hkey
      rw [Function.update_self] at hp
      exact hread p hp
    · rw [Function.update_of_ne hkey] at hp
      exact h.memory host' key' p hp
  · simp only [World.setMemory, Function.update_of_ne hhost] at hp
    exact h.memory host' key' p hp

end Payloads

/-- The markers that are deleted belong to committed writes, and no payload under the current version
lacks one of these. -/
structure World.Removable (ids : List U) (s : World K U ι) : Prop where
  committed : ∀ w ∈ ids, w ∈ s.committed
  seen : ∀ read ∈ s.reads, s.version = some read.1.namespaceKey.version → ∀ w ∈ ids, w ∈ read.2

theorem Keeps.removeMarkers [DecidableEq U] (h : s.Sound env) {ids : List U}
    (hids : s.Removable ids) : Keeps env s (s.removeMarkers ids) := by
  have hsub : ∀ w ∈ (s.removeMarkers ids).markers, w ∈ s.markers := fun w hw =>
    List.mem_of_mem_filter hw
  refine ⟨{ h with markers := fun w hw => h.markers w (hsub w hw), current := ?_ },
    fun k => { Rely.refl env k s with markers := fun w _ hw => hsub w hw }⟩
  intro read hread hversion w hw
  by_cases hid : w ∈ ids
  · exact Or.inl (hids.seen read hread hversion w hid)
  · rcases h.current read hread hversion w hw with hpart | hmarker
    · exact Or.inl hpart
    · exact Or.inr (List.mem_filter.2 ⟨hmarker, decide_eq_true hid⟩)

/-- A reader reads under a key of its own version and digest. -/
theorem Steps.noteRead (h : s.Sound env) {key : PayloadKey U ι}
    (hversion : s.Drawn env key.namespaceKey.version)
    (hids : ∀ ids, key.namespaceKey.digest = .pending ids →
      (∀ w ∈ ids, w ∈ s.visible me) ∧ ∀ w ∈ s.own me, w ∈ ids)
    (hunique : ∀ u, key.namespaceKey.digest = .unique u → s.DrawnBy env me u) :
    Steps env me s (s.noteRead key (s.visible me)) := by
  -- the only new read is the one noted now
  have hcases : ∀ read ∈ (s.noteRead key (s.visible me)).reads,
      read ∈ s.reads ∨ read = (key, s.visible me) := by
    intro read hread
    rcases List.mem_append.1 hread with hold | hnew
    · exact Or.inl hold
    · exact Or.inr (List.mem_singleton.1 hnew)
  refine ⟨{ h with reads := ?_, current := ?_, observed := ?_, cache := ?_, memory := ?_ },
    fun k hk => { Rely.refl env k s with kept := ?_, reads := ?_ }⟩
  · intro read hread
    rcases hcases read hread with hold | rfl
    · exact h.reads read hold
    · exact ⟨hversion, fun u hu => (hunique u hu).drawn⟩
  · -- whoever reads under the current version has seen every committed write
    intro read hread hcurrent w hw
    rcases hcases read hread with hold | rfl
    · exact h.current read hold hcurrent w hw
    · exact Or.inl (List.mem_append_left _ hw)
  · intro read hread ids hdigest
    rcases hcases read hread with hold | rfl
    · exact h.observed read hold ids hdigest
    · obtain ⟨hvisible, hown⟩ := hids ids hdigest
      refine ⟨hvisible, ?_⟩
      intro w hw
      rcases List.mem_append.1 hw with hcommitted | hmine
      · exact Or.inl hcommitted
      · exact Or.inr (hown w hmine)
  · intro key' payload hpayload part hpart
    exact List.mem_append_left _ (h.cache key' payload hpayload part hpart)
  · intro host key' payload hpayload part hpart
    exact List.mem_append_left _ (h.memory host key' payload hpayload part hpart)
  · -- the other workers keep their own reads, and the new one is this worker's
    intro read hread
    exact List.mem_append_left _ hread
  · intro read hread
    rcases hcases read hread with hold | rfl
    · exact Or.inl hold
    · refine Or.inr ⟨fun w hw => List.mem_append_left _ hw, fun ids hdigest =>
        (hids ids hdigest).1, ?_⟩
      intro u hu
      obtain ⟨n, _, hvalue⟩ := hunique u hu
      exact ⟨me, n, hk.symm, hvalue⟩

variable [DecidableEq K]

theorem Keeps.draw (h : s.Sound env) (who : Option K) : Keeps env s (s.draw who) := by
  have hle := drawn_le_draw (s := s) who
  refine ⟨{ h with committed := ?_, own := ?_, version := ?_, reads := ?_ },
    fun k => { Rely.refl env k s with drawn := hle }⟩
  · intro w hw
    exact (h.committed w hw).mono hle
  · intro k w hw
    exact ⟨(h.own k w hw).1.mono hle, (h.own k w hw).2⟩
  · intro v hv
    exact (h.version v hv).mono hle
  · intro read hread
    obtain ⟨hversion, hunique⟩ := h.reads read hread
    exact ⟨hversion.mono hle, fun u hu => (hunique u hu).mono hle⟩

/-- Nothing has been read under a version that was only drawn now. -/
theorem Keeps.setVersion_drawn (h : s.Sound env) (who : Option K) :
    Keeps env s ((s.draw who).setVersion (some (s.nextUuid env who))) := by
  have hfresh : ∀ read ∈ s.reads, s.nextUuid env who ≠ read.1.namespaceKey.version := by
    intro read hread hEq
    have hdrawn := (h.reads read hread).1
    rw [← hEq] at hdrawn
    exact nextUuid_not_drawn who hdrawn
  obtain ⟨hsound, hrely⟩ := Keeps.draw h who
  refine ⟨{ hsound with version := ?_, current := ?_ },
    fun k => { hrely k with current := ?_ }⟩
  · intro v hv
    cases hv
    exact nextUuid_drawn who
  · intro read hread hv
    exact absurd (Option.some.inj hv) (hfresh read hread)
  · intro read hread hv
    exact absurd (Option.some.inj hv) (hfresh read hread)

theorem own_setTransaction (writes : Option (List U)) (k : K) :
    (s.setTransaction me writes).own k = if k = me then writes.getD [] else s.own k := by
  unfold World.own World.setTransaction
  by_cases hk : k = me
  · subst hk
    simp
  · simp [hk]

/-- A thread may put what it has drawn itself into its transaction. -/
theorem Steps.setTransaction (h : s.Sound env) {writes : Option (List U)}
    (hwrites : ∀ w ∈ writes.getD [], s.DrawnBy env me w ∧ w ∉ s.committed) :
    Steps env me s (s.setTransaction me writes) := by
  refine ⟨{ h with own := ?_ }, fun k hk => { Rely.refl env k s with transaction := ?_ }⟩
  · intro k w hw
    rw [own_setTransaction] at hw
    by_cases hk : k = me
    · subst hk
      rw [if_pos rfl] at hw
      exact hwrites w hw
    · rw [if_neg hk] at hw
      exact h.own k w hw
  · exact Function.update_of_ne hk _ _

/-- The writes and their markers come in together. -/
theorem Steps.commit (h : s.Sound env) :
    Steps env me s ((s.commitWrites (s.own me)).setTransaction me none) := by
  have hleft : ∀ w ∈ s.committed, w ∈ s.committed ++ s.own me := fun w hw =>
    List.mem_append_left _ hw
  -- ids are drawn by their writer, so no other transaction holds one of ours
  have hothers : ∀ k, k ≠ me → ∀ w ∈ s.own k, w ∉ s.own me := by
    intro k hk w hw hmine
    obtain ⟨n, _, hvalue⟩ := (h.own k w hw).1
    obtain ⟨n', _, hvalue'⟩ := (h.own me w hmine).1
    have hEq := env.injective (hvalue.symm.trans hvalue')
    simp only [Prod.mk.injEq, Option.some.injEq] at hEq
    exact hk hEq.1
  refine ⟨{ h with markers := ?_, committed := ?_, own := ?_, current := ?_, observed := ?_ },
    fun k hk => { Rely.refl env k s with transaction := ?_, committed := hleft, markers := ?_ }⟩
  · intro w hw
    rcases List.mem_append.1 hw with hmarker | hmine
    · exact hleft w (h.markers w hmarker)
    · exact List.mem_append_right _ hmine
  · intro w hw
    rcases List.mem_append.1 hw with hold | hmine
    · exact h.committed w hold
    · exact (h.own me w hmine).1.drawn
  · -- this transaction has no writes any more, the others keep theirs
    intro k w hw
    rw [own_setTransaction] at hw
    by_cases hk : k = me
    · rw [if_pos hk] at hw
      cases hw
    · rw [if_neg hk] at hw
      obtain ⟨hdrawn, hnew⟩ := h.own k w hw
      refine ⟨hdrawn, ?_⟩
      intro hmem
      rcases List.mem_append.1 hmem with hold | hmine
      · exact hnew hold
      · exact hothers k hk w hw hmine
  · -- a write that this commit adds stands behind its marker
    intro read hread hversion w hw
    rcases List.mem_append.1 hw with hold | hmine
    · rcases h.current read hread hversion w hold with hpart | hmarker
      · exact Or.inl hpart
      · exact Or.inr (List.mem_append_left _ hmarker)
    · exact Or.inr (List.mem_append_right _ hmine)
  · intro read hread ids hdigest
    obtain ⟨hids, hpart⟩ := h.observed read hread ids hdigest
    refine ⟨hids, ?_⟩
    intro w hw
    rcases hpart w hw with hcommitted | hid
    · exact Or.inl (hleft w hcommitted)
    · exact Or.inr hid
  · exact Function.update_of_ne hk _ _
  · -- what the others wrote was not in our transaction, so no marker of theirs appears
    intro w hw hmarker
    rcases List.mem_append.1 hmarker with hold | hmine
    · exact hold
    · exact absurd hw (h.own me w hmine).2

end Effects

end CacheGuard
end RosarioDairy
