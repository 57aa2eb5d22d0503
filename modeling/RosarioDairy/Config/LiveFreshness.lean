import Mathlib.Data.List.Induction
import RosarioDairy.Config.CacheFreshness
import RosarioDairy.Config.LiveEvents

/-!
# LiveFreshness — no change is lost on its way to a connected client

A frame that announces a version stands for what the client reads under it.  A check that finds this
version again has read the markers after everything it knows of was committed, so that what was read
under the version has seen all of it.
-/

namespace RosarioDairy
namespace LiveEvents

open Foundations CacheGuard

variable {K U ι : Type}

/-! ## Connections -/

section Connections

variable {me : K} {identity : Identity} {client client' : Client U} {s t : Connections K U}

/-- What was sent so far stays as it is while others run; messages may come and go. -/
def Undisturbed (me : K) (s t : Connections K U) : Prop :=
  ∀ c, s me = some c → ∃ c', t me = some c' ∧ c'.identity = c.identity ∧ c'.sent = c.sent

/-- Every connection sends what its client can follow. -/
def Faithful (s : Connections K U) : Prop := ∀ k c, s k = some c → c.Faithful

/-- The thread serves a stream for `identity`, whose frames have led the client to a state. -/
def Serving (me : K) (identity : Identity) (client : Client U) (s : Connections K U) : Prop :=
  ∃ c, s me = some c ∧ c.identity = identity ∧ client.Received identity c.sent

theorem Undisturbed.refl (me : K) (s : Connections K U) : Undisturbed me s s :=
  fun c hc => ⟨c, hc, rfl, rfl⟩

theorem Undisturbed.trans {u : Connections K U} (h : Undisturbed me s t)
    (h' : Undisturbed me t u) : Undisturbed me s u := by
  intro c hc
  obtain ⟨c', hc', hidentity, hsent⟩ := h c hc
  obtain ⟨c'', hc'', hidentity', hsent'⟩ := h' c' hc'
  exact ⟨c'', hc'', hidentity'.trans hidentity, hsent'.trans hsent⟩

theorem Serving.undisturbed (h : Serving me identity client s) (hst : Undisturbed me s t) :
    Serving me identity client t := by
  obtain ⟨c, hc, rfl, hreceived⟩ := h
  obtain ⟨c', hc', hidentity, hsent⟩ := hst c hc
  exact ⟨c', hc', hidentity, hsent ▸ hreceived⟩

/-- Where every connection stays what it was, up to its queue, all of them stay faithful. -/
theorem Faithful.undisturbed (h : Faithful s)
    (hst : ∀ k c, t k = some c → ∃ c', s k = some c' ∧ c'.identity = c.identity ∧ c'.sent = c.sent) :
    Faithful t := by
  intro k c hc
  obtain ⟨c', hc', hidentity, hsent⟩ := hst k c hc
  obtain ⟨client, hreceived⟩ := h k c' hc'
  exact ⟨client, hidentity ▸ hsent ▸ hreceived⟩

theorem Faithful.publish (h : Faithful s) (reaches : K → Bool) (change : U) :
    Faithful (s.publish reaches change) := by
  refine h.undisturbed ?_
  intro k c hc
  obtain ⟨c', hc', rfl⟩ := Option.map_eq_some_iff.1 hc
  refine ⟨c', hc', ?_⟩
  split
  · exact ⟨rfl, rfl⟩
  · exact ⟨rfl, rfl⟩

theorem Undisturbed.publish (reaches : K → Bool) (change : U) (k : K) :
    Undisturbed k s (s.publish reaches change) := by
  intro c hc
  refine ⟨_, congrArg (Option.map _) hc, ?_⟩
  split
  · exact ⟨rfl, rfl⟩
  · exact ⟨rfl, rfl⟩

variable [DecidableEq K]

theorem Undisturbed.update (value : Option (Connection U)) {k : K} (hk : k ≠ me) :
    Undisturbed k s (Function.update s me value) :=
  fun c hc => ⟨c, (Function.update_of_ne hk _ _).trans hc, rfl, rfl⟩

theorem Undisturbed.setQueue (queue : Option (List U)) (k : K) :
    Undisturbed k s (s.setQueue me queue) := by
  by_cases hk : k = me
  · subst hk
    intro c hc
    exact ⟨{ c with queue := queue }, by simp [Connections.setQueue, hc], rfl, rfl⟩
  · exact Undisturbed.update _ hk

theorem Faithful.setQueue (h : Faithful s) (queue : Option (List U)) :
    Faithful (s.setQueue me queue) := by
  refine h.undisturbed ?_
  intro k c hc
  by_cases hk : k = me
  · subst hk
    rw [Connections.setQueue, Function.update_self] at hc
    obtain ⟨c', hc', rfl⟩ := Option.map_eq_some_iff.1 hc
    exact ⟨c', hc', rfl, rfl⟩
  · rw [Connections.setQueue, Function.update_of_ne hk] at hc
    exact ⟨c, hc, rfl, rfl⟩

/-- One connection changes, into a faithful one. -/
theorem Faithful.update (h : Faithful s) {c : Connection U} (hc : c.Faithful) :
    Faithful (Function.update s me (some c)) := by
  intro k c' hc'
  by_cases hk : k = me
  · subst hk
    rw [Function.update_self] at hc'
    exact Option.some.inj hc' ▸ hc
  · rw [Function.update_of_ne hk] at hc'
    exact h k c' hc'

/-- The next frame leads the client on. -/
theorem Serving.send (h : Serving me identity client s) {sent : Sent U}
    (hnext : client.Receives identity sent client') :
    Serving me identity client' (s.send me sent) := by
  obtain ⟨c, hc, rfl, hreceived⟩ := h
  exact ⟨{ c with sent := c.sent ++ [sent] }, by simp [Connections.send, hc], rfl,
    hreceived.snoc hnext⟩

theorem Faithful.send (h : Faithful s) (hserving : Serving me identity client s) {sent : Sent U}
    (hnext : client.Receives identity sent client') : Faithful (s.send me sent) := by
  obtain ⟨c, hc, rfl, hreceived⟩ := hserving
  rw [Connections.send, hc]
  exact h.update ⟨client', hreceived.snoc hnext⟩

end Connections

/-! ## The outline -/

section Outline

variable (env : Uuid4 K U)

/-- The outline of the caches, beside faithful connections. -/
def liveOutline : Outline K (Site ⊕ LiveSite) (Live K U ι) :=
  (outline env).extended LiveSite Faithful Undisturbed

theorem liveOutline_preorder :
    (liveOutline env : Outline K (Site ⊕ LiveSite) (Live K U ι)).Preorder :=
  Outline.extended_preorder (outline_preorder env) Undisturbed.refl
    (fun _ _ _ _ h h' => h.trans h')

variable {env} {me : K} {α : Type}

/-- What is proved of a program of readers and writers holds beside the connections. -/
theorem triple_world {A : World K U ι → Prop} {P : Connections K U → Prop}
    {B : α → World K U ι → Prop} {p : Session K U ι α}
    (hP : ∀ s t, P s → Undisturbed me s t → P t) (h : (outline env).Triple me A p B) :
    (liveOutline env).Triple me (fun s => A s.1 ∧ P s.2) p.onFirst (fun a s => B a s.1 ∧ P s.2) :=
  Outline.triple_onFirst Undisturbed.refl hP h

/-- A statement that changes at most the queue of its own connection. -/
theorem triple_queue [DecidableEq K] {A : World K U ι → Prop} {P : Connections K U → Prop}
    {site : LiveSite} (answer : Connections K U → α) (queue : Connections K U → Option (List U))
    (hA : (outline env).Stable me A) (hP : ∀ s t, P s → Undisturbed me s t → P t) :
    (liveOutline env).Triple me (fun s => A s.1 ∧ P s.2)
      (.statement (.inr site) fun s => (answer s.2, (s.1, s.2.setQueue me (queue s.2))))
      (fun _ s => A s.1 ∧ P s.2) := by
  refine Outline.triple_onSecond (outline_preorder env) (Q := fun _ => P)
    (f := fun s => (answer s.2, s.2.setQueue me (queue s.2))) hA hP (fun _ => hP) ?_
  intro s _ _ hI hPs
  exact ⟨hI.setQueue _, fun j _ => Undisturbed.setQueue _ j,
    hP _ _ hPs (Undisturbed.setQueue _ me)⟩

variable [DecidableEq K] {identity : Identity} {client : Client U}

theorem triple_send {A : World K U ι → Prop} (hA : (outline env).Stable me A)
    (client' : Client U) (frame : Frame U) (account : Option Identity) (remaining : Option ℚ)
    (known : List U) (hnext : ∀ s, A s → ∀ visible, client.Receives identity
      { frame := frame
        account := account
        remaining := remaining
        known := known
        visible := visible } client') :
    (liveOutline env).Triple me (fun s => A s.1 ∧ Serving me identity client s.2)
      (send me frame account remaining known)
      (fun _ s => A s.1 ∧ Serving me identity client' s.2) := by
  refine Outline.triple_onSecond (outline_preorder env) (Q := fun _ => Serving me identity client')
    (f := fun s => ((), s.2.send me
      { frame := frame
        account := account
        remaining := remaining
        known := known
        visible := s.1.visible me })) hA
    (fun _ _ h hst => h.undisturbed hst) (fun _ _ _ h hst => h.undisturbed hst) ?_
  intro s _ hAs hI hserving
  have hreceives := hnext s.1 hAs (s.1.visible me)
  exact ⟨hI.send hserving hreceives, fun j hj => Undisturbed.update _ hj, hserving.send hreceives⟩

/-- The announced version has been read by what was visible then. -/
def Announced (address : ι) (version : NamespaceKey U) (visible : Snapshot U) (s : World K U ι) :
    Prop :=
  ({ namespaceKey := version
     identity := address }, visible) ∈ s.reads

omit [DecidableEq K] in
theorem stable_announced (address : ι) (version : NamespaceKey U) (visible : Snapshot U) :
    (outline env).Stable me (Announced (K := K) address version visible) :=
  fun _ _ h hst _ => hst.kept _ h

/-- A connection that follows the data, at some announcement. -/
def Following (me : K) (identity : Identity) (address : ι) (version : NamespaceKey U)
    (s : Live K U ι) : Prop :=
  ∃ visible, Announced address version visible s.1 ∧
    Serving me identity (.following version visible) s.2

/-- A version that was looked up may be announced. -/
theorem triple_announce (address : ι) {version : NamespaceKey U} {seen : Observation U}
    (hdigest : version.digest = seen.digest) (frame : Frame U) (account : Identity)
    (remaining : Option ℚ) (known : List U)
    (hnext : ∀ visible, client.Receives identity
      { frame := frame
        account := some account
        remaining := remaining
        known := known
        visible := visible } (.following version visible)) :
    (liveOutline env).Triple me
      (fun s => Looking env me seen version.version s.1 ∧ Serving me identity client s.2)
      (announce me address version frame account remaining known)
      (fun _ => Following me identity address version) := by
  apply Outline.triple_statement
  · exact Outline.stable_and (Outline.stable_first (stable_looking env me seen version.version))
      (Outline.stable_second fun _ _ h hst => h.undisturbed hst)
  · rintro _ s t ⟨visible, hannounced, hserving⟩ hst ht
    exact ⟨visible, stable_announced address version visible _ _ hannounced hst.1 ht.1,
      hserving.undisturbed hst.2⟩
  · rintro s ⟨hs, hI⟩ ⟨⟨⟨hseen, _⟩, hkeyed⟩, hserving⟩
    let key : PayloadKey U ι :=
      { namespaceKey := version
        identity := address }
    have hsteps : Steps env me s.1 (s.1.noteRead key (s.1.visible me)) :=
      Steps.noteRead hs hkeyed.drawn
        (fun ids hids => ⟨hseen.named ids (hdigest.symm.trans hids),
          hseen.own ids (hdigest.symm.trans hids)⟩)
        (fun u hu => hseen.unique u (hdigest.symm.trans hu))
    have hreceives := hnext (s.1.visible me)
    refine ⟨fun _ _ => trivial, ⟨hsteps.1, hI.send hserving hreceives⟩,
      fun j hj => ⟨hsteps.2 j hj, Undisturbed.update _ hj⟩, s.1.visible me, ?_,
      hserving.send hreceives⟩
    exact List.mem_append_right _ (List.mem_singleton_self _)

end Outline

/-! ## What a check leaves alone -/

section Preserves

variable [DecidableEq K] {R : World K U ι → Prop} (env : Uuid4 K U) (me : K)

theorem preserves_readPending [LinearOrder U] (hR : ∀ s t : World K U ι, t.reads = s.reads → R s → R t) :
    (readPending env me : Session K U ι (Observation U)).Preserves R := by
  refine Program.preserves_statement ?_
  intro s hs
  split
  · exact hR s _ rfl hs
  · exact hs

theorem preserves_rotate (hR : ∀ s t : World K U ι, t.reads = s.reads → R s → R t)
    (outcome : SetOutcome) : (rotate env me outcome : Session K U ι (Option U)).Preserves R := by
  refine Program.preserves_statement ?_
  intro s hs
  refine hR s _ ?_ hs
  rcases outcome with _ | _ | _
  · rfl
  · rfl
  · rfl

omit [DecidableEq K] in
theorem preserves_removePending [DecidableEq U]
    (hR : ∀ s t : World K U ι, t.reads = s.reads → R s → R t) (ids : List U)
    (outcome : RemoveOutcome) : (removePending ids outcome : Session K U ι Bool).Preserves R := by
  refine Program.preserves_statement ?_
  intro s hs
  refine hR s _ ?_ hs
  rcases outcome with _ | _ | _ | _
  · rfl
  · rfl
  · rfl
  · rfl

theorem preserves_drawVersion (hR : ∀ s t : World K U ι, t.reads = s.reads → R s → R t) :
    (drawVersion env me : Session K U ι U).Preserves R :=
  Program.preserves_statement fun s hs => hR s _ rfl hs

omit [DecidableEq K] in
theorem preserves_getVersion (fails : Bool) :
    (getVersion fails : Session K U ι (Option (Option U))).Preserves R :=
  Program.preserves_statement fun _ hs => hs

theorem preserves_addVersion (hR : ∀ s t : World K U ι, t.reads = s.reads → R s → R t)
    (outcome : SetOutcome) : (addVersion env me outcome : Session K U ι Bool).Preserves R := by
  refine Program.preserves_statement ?_
  intro s hs
  refine hR s _ ?_ hs
  cases s.version with
  | none => rcases outcome with _ | _ | _ <;> rfl
  | some version => rcases outcome with _ | _ | _ <;> rfl

/-- What depends on the noted reads only outlives a check. -/
theorem preserves_cacheVersion [DecidableEq U]
    (hR : ∀ s t : World K U ι, t.reads = s.reads → R s → R t) (faults : ReadFaults)
    (seen : Observation U) : (cacheVersion env me faults seen : Session K U ι U).Preserves R := by
  have hdraw : (drawVersion env me : Session K U ι U).Preserves R := preserves_drawVersion env me hR
  unfold cacheVersion
  split
  · refine (preserves_rotate env me hR faults.rotate).bind ?_
    rintro (_ | version)
    · exact hdraw
    · refine (preserves_removePending hR seen.pending faults.remove).bind ?_
      rintro (_ | _)
      · exact hdraw
      · exact Program.preserves_returns version
  · refine (preserves_getVersion faults.get).bind ?_
    rintro (_ | _ | version)
    · exact hdraw
    · refine (preserves_addVersion env me hR faults.add).bind ?_
      rintro (_ | _)
      · exact hdraw
      · refine (preserves_getVersion faults.getAgain).bind ?_
        rintro (_ | _ | version)
        · exact hdraw
        · exact hdraw
        · exact Program.preserves_returns version
    · exact Program.preserves_returns version

end Preserves

/-! ## Checks -/

section Checks

variable [DecidableEq K] [LinearOrder U] {env : Uuid4 K U} {me : K} {identity : Identity}

theorem expectIdentity_ok {authentication : Authentication} {found : Identity}
    (h : expectIdentity (some identity) authentication = .ok found) : found = identity := by
  unfold expectIdentity at h
  cases hfound : identityOf authentication with
  | error failure =>
      rw [hfound] at h
      cases h
  | ok other =>
      simp only [hfound] at h
      split at h
      · cases h
      · rename_i hsame
        exact (Except.ok.inj h).symm.trans (not_not.1 hsame)

/-- What a check of a stream has found. -/
structure Found (env : Uuid4 K U) (me : K) (expected : Option Identity) (checked : Checked U)
    (s : World K U ι) : Prop where
  identity : ∀ opened, expected = some opened → checked.identity = opened
  digest : checked.version.digest = checked.seen.digest
  looking : Looking env me checked.seen checked.version.version s

omit [DecidableEq K] [LinearOrder U] in
theorem stable_found (expected : Option Identity) (checked : Checked U) :
    (outline env).Stable me (Found (ι := ι) env me expected checked) :=
  fun s t h hst ht => { h with looking := stable_looking env me _ _ s t h.looking hst ht }

/-- A check looks the version up anew; what is announced so far stays announced. -/
theorem triple_state {R : World K U ι → Prop} {P : Connections K U → Prop}
    (hR : (outline env).Stable me R) (hreads : ∀ s t : World K U ι, t.reads = s.reads → R s → R t)
    (hP : ∀ s t, P s → Undisturbed me s t → P t) (expected : Option Identity) (check : Check) :
    (liveOutline env).Triple me (fun s => R s.1 ∧ P s.2) (state env me expected check)
      (fun answer s => (R s.1 ∧ ∀ checked, answer = .ok checked → Found env me expected checked s.1)
        ∧ P s.2) := by
  have hstable : ∀ answer : Except Failure (Checked U), (outline env).Stable me
      (fun s : World K U ι => R s ∧ ∀ checked, answer = .ok checked →
        Found env me expected checked s) := fun answer =>
    Outline.stable_and hR (Outline.stable_forall fun checked =>
      Outline.stable_imp _ fun _ => stable_found expected checked)
  have hfails : ∀ failure, (liveOutline env).Triple me (fun s => R s.1 ∧ P s.2)
      (.returns (Except.error failure : Except Failure (Checked U)))
      (fun answer s => (R s.1 ∧ ∀ checked, answer = .ok checked →
        Found env me expected checked s.1) ∧ P s.2) := by
    intro failure
    refine Outline.triple_returns ?_ ?_
    · exact Outline.stable_and (Outline.stable_first hR) (Outline.stable_second hP)
    · rintro s _ ⟨hRs, hPs⟩
      exact ⟨⟨hRs, fun checked h => by cases h⟩, hPs⟩
  unfold state
  cases hidentity : expectIdentity expected check.authentication with
  | error failure => exact hfails failure
  | ok identity =>
      by_cases hquery : check.queryFails = true
      · simp only [hquery, if_true]
        exact hfails .other
      · simp only [hquery]
        refine Outline.triple_bind (liveOutline_preorder env)
          (fun seen s => (Reading env me seen s.1 ∧ R s.1) ∧ P s.2) ?_ ?_
        · -- the query of the markers, in the frame of what was announced
          have hpending : (outline env).Triple me (fun s => True ∧ R s) (readPending env me)
              (fun seen s => Reading env me seen s ∧ R s) :=
            Outline.triple_frame hR (preserves_readPending env me hreads) triple_readPending
          exact Outline.triple_weaken (fun s _ h => ⟨⟨trivial, h.1⟩, h.2⟩) (fun _ _ h => h)
            (triple_world hP hpending)
        · intro seen
          refine Outline.triple_bind (liveOutline_preorder env)
            (fun version s => (Looking env me seen version s.1 ∧ R s.1) ∧ P s.2) ?_ ?_
          · exact triple_world hP (Outline.triple_frame hR
              (preserves_cacheVersion env me hreads check.faults seen)
              (triple_cacheVersion check.faults))
          · intro version
            refine Outline.triple_returns ?_ ?_
            · exact Outline.stable_and (Outline.stable_first (Outline.stable_and
                (stable_looking env me seen version) hR)) (Outline.stable_second hP)
            · rintro s _ ⟨⟨hlooking, hRs⟩, hPs⟩
              refine ⟨⟨hRs, ?_⟩, hPs⟩
              rintro checked ⟨rfl⟩
              refine
                { identity := ?_
                  digest := rfl
                  looking := hlooking }
              rintro opened rfl
              exact expectIdentity_ok hidentity

end Checks

/-! ## Streams -/

section Streams

variable [DecidableEq K] [LinearOrder U] {env : Uuid4 K U} {me : K} {identity : Identity}

omit [LinearOrder U] in
theorem triple_close {A : World K U ι → Prop} {P : Connections K U → Prop}
    (hA : (outline env).Stable me A) (hP : ∀ s t, P s → Undisturbed me s t → P t) :
    (liveOutline env).Triple me (fun s => A s.1 ∧ P s.2) (close me)
      (fun _ s => A s.1 ∧ P s.2) :=
  triple_queue (fun _ => ()) (fun _ => none) hA hP

omit [LinearOrder U] in
theorem triple_receive {A : World K U ι → Prop} {P : Connections K U → Prop}
    (hA : (outline env).Stable me A) (hP : ∀ s t, P s → Undisturbed me s t → P t) :
    (liveOutline env).Triple me (fun s => A s.1 ∧ P s.2) (receive me)
      (fun _ s => A s.1 ∧ P s.2) :=
  triple_queue (fun s => (s.waiting me).head?)
    (fun s => ((s me).bind Connection.queue).map List.tail) hA hP

omit [LinearOrder U] in
/-- However the wakeups come, they change nothing but the queue. -/
theorem triple_drain {A : World K U ι → Prop} {P : Connections K U → Prop}
    (hA : (outline env).Stable me A) (hP : ∀ s t, P s → Undisturbed me s t → P t)
    (fails : Nat → Bool) : ∀ n, (liveOutline env).Triple me (fun s => A s.1 ∧ P s.2)
      (drain me fails n) (fun _ s => A s.1 ∧ P s.2) := by
  have hstable : (liveOutline env).Stable me (fun s : Live K U ι => A s.1 ∧ P s.2) :=
    Outline.stable_and (Outline.stable_first hA) (Outline.stable_second hP)
  intro n
  induction n with
  | zero => exact Outline.triple_returns hstable (fun _ _ h => h)
  | succ n ih =>
      unfold drain
      split
      · exact Outline.triple_returns hstable (fun _ _ h => h)
      · refine Outline.triple_bind (liveOutline_preorder env) _ (triple_receive hA hP) ?_
        rintro (_ | change)
        · exact Outline.triple_returns hstable (fun _ _ h => h)
        · exact ih

omit [LinearOrder U] in
theorem triple_awaitChange {A : World K U ι → Prop} {P : Connections K U → Prop}
    (hA : (outline env).Stable me A) (hP : ∀ s t, P s → Undisturbed me s t → P t) (turn : Turn) :
    (liveOutline env).Triple me (fun s => A s.1 ∧ P s.2) (awaitChange me turn)
      (fun _ s => A s.1 ∧ P s.2) := by
  have hstable : (liveOutline env).Stable me (fun s : Live K U ι => A s.1 ∧ P s.2) :=
    Outline.stable_and (Outline.stable_first hA) (Outline.stable_second hP)
  unfold awaitChange
  split
  · exact Outline.triple_returns hstable (fun _ _ h => h)
  · refine Outline.triple_bind (liveOutline_preorder env) _ (triple_receive hA hP) ?_
    rintro (_ | change)
    · exact Outline.triple_returns hstable (fun _ _ h => h)
    · exact triple_drain hA hP turn.drainFails 100

omit [LinearOrder U] in
/-- A last frame, and the connection is closed. -/
theorem triple_last {A : World K U ι → Prop} {client : Client U} (hA : (outline env).Stable me A)
    (frame : Frame U) (remaining : Option ℚ)
    (hlast : ∀ visible, client.Receives identity
      { frame := frame
        account := none
        remaining := remaining
        known := []
        visible := visible } .closed) :
    (liveOutline env).Triple me (fun s => A s.1 ∧ Serving me identity client s.2)
      (send me frame none remaining [] >>= fun _ => close me) (fun _ _ => True) := by
  refine Outline.triple_bind (liveOutline_preorder env) _
    (triple_send hA .closed frame none remaining [] (fun _ _ => hlast)) ?_
  intro _
  exact Outline.triple_weaken (fun _ _ h => h) (fun _ _ _ => trivial)
    (triple_close hA (fun _ _ h hst => h.undisturbed hst))

omit [LinearOrder U] in
theorem triple_interrupted {A : World K U ι → Prop} {client : Client U}
    (hA : (outline env).Stable me A) (remaining : Option ℚ) (failure : Failure)
    (hlast : ∀ sent : Sent U, sent.frame = .authRequired ∨ sent.frame = .unavailable →
      client.Receives identity sent .closed) :
    (liveOutline env).Triple me (fun s => A s.1 ∧ Serving me identity client s.2)
      (interrupted me remaining failure) (fun _ _ => True) := by
  cases failure with
  | authenticationFailed => exact triple_last hA _ _ (fun _ => hlast _ (Or.inl rfl))
  | permissionDenied => exact triple_last hA _ _ (fun _ => hlast _ (Or.inl rfl))
  | other => exact triple_last hA _ _ (fun _ => hlast _ (Or.inr rfl))

omit [DecidableEq K] [LinearOrder U] in
/-- A check that finds the announced version again knows of nothing that was not visible when it was
announced. -/
theorem Found.covered {expected : Option Identity} {checked : Checked U} {address : ι}
    {visible : Snapshot U} {s : World K U ι} (h : Found env me expected checked s)
    (hannounced : Announced address checked.version visible s) :
    ∀ w ∈ checked.seen.known, w ∈ visible :=
  h.looking.2.fresh _ hannounced rfl h.digest

/-- One turn after the other keeps the client in step. -/
theorem triple_serve (address : ι) (started : ℚ) (turns : List Turn) :
    ∀ version : NamespaceKey U, (liveOutline env).Triple me
      (Following (ι := ι) me identity address version)
      (serve env me identity address started turns version) (fun _ _ => True) := by
  induction turns with
  | nil =>
      intro version s _ _ t _ _
      trivial
  | cons turn rest ih =>
      intro version
      refine Outline.triple_exists fun visible => ?_
      have hserving : ∀ s t, Serving me identity (.following version visible) s →
          Undisturbed me s t → Serving me identity (.following version visible) t :=
        fun _ _ h hst => h.undisturbed hst
      have hannounced : (outline env).Stable me (Announced address version visible) :=
        stable_announced address version visible
      have hinterrupted : ∀ sent : Sent U, sent.frame = .authRequired ∨ sent.frame = .unavailable →
          (Client.following version visible).Receives identity sent .closed :=
        fun sent h => .interrupted sent version visible h
      unfold serve
      by_cases hover : remainingSeconds identity started turn ≤ 0
      · simp only [hover, if_true]
        exact triple_last hannounced .reconnect _ (fun _ => .reconnect _ version visible _ rfl rfl hover)
      · have hpositive : 0 < remainingSeconds identity started turn := not_le.1 hover
        simp only [hover, if_false]
        refine Outline.triple_bind (liveOutline_preorder env) _
          (triple_awaitChange hannounced hserving turn) ?_
        rintro (_ | _)
        · exact triple_interrupted hannounced _ .other hinterrupted
        · refine Outline.triple_bind (liveOutline_preorder env) _
            (triple_state hannounced (fun s t hreads h => by
              unfold Announced at h ⊢
              rwa [hreads]) hserving (some identity) turn.check) ?_
          rintro (failure | checked)
          · exact Outline.triple_weaken (fun s _ h => ⟨h.1.1, h.2⟩) (fun _ _ h => h)
              (triple_interrupted hannounced _ failure hinterrupted)
          · refine Outline.triple_fact (fun s h => (h.1.2 checked rfl).identity identity rfl) ?_
            intro haccount
            by_cases hversion : checked.version ≠ version
            · -- another version is announced, whatever made it another one
              simp only [if_pos hversion]
              refine Outline.triple_fact (fun s h => (h.1.2 checked rfl).digest) fun hdigest => ?_
              refine Outline.triple_bind (liveOutline_preorder env) _ (Outline.triple_weaken
                (fun s _ h => ⟨(h.1.2 checked rfl).looking, h.2⟩) (fun _ _ h => h)
                (triple_announce address hdigest _ checked.identity _ checked.seen.known ?_)) ?_
              · exact fun later => .dataChanged _ version checked.version visible _ rfl hversion
                  (congrArg some haccount) rfl hpositive
              · exact fun _ => ih checked.version
            · -- the version is the announced one, so its readers have seen everything known now
              simp only [if_neg hversion]
              have hsame : checked.version = version := not_not.1 hversion
              refine Outline.triple_bind (liveOutline_preorder env) _ (Outline.triple_weaken
                (fun s _ h => ⟨⟨h.1.1, h.1.2 checked rfl⟩, h.2⟩) (fun _ _ h => h)
                (triple_send (Outline.stable_and hannounced (stable_found _ checked))
                  (.following version visible) _ _ _ _ ?_)) ?_
              · rintro s ⟨hvisible, hfound⟩ later
                exact .heartbeat _ version visible _ rfl (congrArg some haccount) rfl hpositive
                  (hfound.covered (hsame ▸ hvisible))
              · intro _
                exact Outline.triple_weaken (fun s _ h => ⟨visible, h.1.1, h.2⟩) (fun _ _ h => h)
                  (ih version)

theorem triple_changeStream (stream : Stream ι) :
    (liveOutline env).Triple me (fun s => Serving me identity .connecting s.2)
      (changeStream env me identity stream) (fun _ _ => True) := by
  have htrue : (outline env).Stable me (fun _ : World K U ι => True) := Outline.stable_const True
  have hserving : ∀ s t : Connections K U, Serving me identity .connecting s →
      Undisturbed me s t → Serving me identity .connecting t :=
    fun _ _ h hst => h.undisturbed hst
  have hrefused : ∀ sent : Sent U, sent.frame = .authRequired ∨ sent.frame = .unavailable →
      (Client.connecting : Client U).Receives identity sent .closed := fun sent h => .refused sent h
  have hinterrupted : ∀ failure, (liveOutline env).Triple me
      (fun s : Live K U ι => True ∧ Serving me identity .connecting s.2)
      (interrupted me none failure) (fun _ _ => True) :=
    fun failure => triple_interrupted htrue none failure hrefused
  refine Outline.triple_weaken (fun s _ h => (⟨trivial, h⟩ : True ∧ _)) (fun _ _ h => h) ?_
  unfold changeStream
  split
  · refine Outline.triple_bind (liveOutline_preorder env) _
      (triple_queue (fun _ => ()) (fun _ => some []) htrue hserving) ?_
    intro _
    split
    · refine Outline.triple_bind (liveOutline_preorder env) _
        (triple_state htrue (fun _ _ _ h => h) hserving (some identity) stream.baseline) ?_
      rintro (failure | checked)
      · exact Outline.triple_weaken (fun s _ h => ⟨h.1.1, h.2⟩) (fun _ _ h => h)
          (hinterrupted failure)
      · refine Outline.triple_fact (fun s h => (h.1.2 checked rfl).identity identity rfl) ?_
        intro haccount
        refine Outline.triple_fact (fun s h => (h.1.2 checked rfl).digest) fun hdigest => ?_
        refine Outline.triple_bind (liveOutline_preorder env) _ (Outline.triple_weaken
          (fun s _ h => ⟨h.1.2 checked rfl, h.2⟩) (fun _ _ h => h)
          (triple_send (stable_found _ checked) .connected .retry none none []
            (fun _ _ _ => .retry _ rfl))) ?_
        intro _
        refine Outline.triple_bind (liveOutline_preorder env) _ (Outline.triple_weaken
          (fun s _ h => ⟨h.1.looking, h.2⟩) (fun _ _ h => h)
          (triple_announce stream.address hdigest _ checked.identity none checked.seen.known
            (fun _ => .ready _ checked.version rfl (congrArg some haccount)))) ?_
        exact fun _ => triple_serve stream.address stream.started stream.turns checked.version
    · exact hinterrupted .other
  · exact hinterrupted .other

theorem triple_events (request : Request) (stream : Stream ι) :
    (liveOutline env).Triple me (fun _ => True) (events env me request stream)
      (fun _ _ => True) := by
  have htrue : (outline env).Stable me (fun _ : World K U ι => True) := Outline.stable_const True
  have hreturns : ∀ status : Nat, (liveOutline env).Triple me (fun _ : Live K U ι => True)
      (.returns status) (fun _ _ => True) :=
    fun status => Outline.triple_returns (Outline.stable_const True) (fun _ _ h => h)
  unfold events
  split
  · exact hreturns 405
  · refine Outline.triple_bind (liveOutline_preorder env) (fun _ _ => True) ?_ ?_
    · exact Outline.triple_weaken (fun _ _ _ => (⟨trivial, trivial⟩ : True ∧ True))
        (fun _ _ _ => trivial)
        (triple_state htrue (fun _ _ _ h => h) (P := fun _ => True) (fun _ _ _ _ => trivial) none
          request.opening)
    · rintro ((_ | _ | _) | checked)
      · exact hreturns 401
      · exact hreturns 403
      · exact hreturns 503
      · dsimp only
        split
        · exact hreturns 503
        · refine Outline.triple_bind (liveOutline_preorder env)
            (fun _ s => Serving me checked.identity .connecting s.2) ?_ ?_
          · -- a new connection has sent nothing yet
            refine Outline.triple_statement (Outline.stable_const True)
              (fun _ => Outline.stable_second fun _ _ h hst => h.undisturbed hst) ?_
            rintro s ⟨hs, hI⟩ _
            refine ⟨fun _ _ => trivial, ⟨hs, hI.update ⟨.connecting, .nil⟩⟩,
              fun j hj => ⟨Rely.refl env j s.1, Undisturbed.update _ hj⟩, ?_⟩
            exact ⟨_, Function.update_self _ _ _, rfl, .nil⟩
          · intro _
            refine Outline.triple_bind (liveOutline_preorder env) _ (triple_changeStream stream) ?_
            exact fun _ => hreturns 200

end Streams

/-! ## Writers -/

section Writers

variable [DecidableEq K] [LinearOrder U] {env : Uuid4 K U} {me : K}

omit [DecidableEq K] [LinearOrder U] in
theorem triple_publishBusinessChange {A : World K U ι → Prop} (hA : (outline env).Stable me A)
    (reaches : K → Bool) (change : U) :
    (liveOutline env).Triple me (fun s => A s.1) (publishBusinessChange reaches change)
      (fun _ s => A s.1) := by
  refine Outline.triple_statement (Outline.stable_first hA) (fun _ => Outline.stable_first hA) ?_
  rintro s ⟨hs, hI⟩ hAs
  exact ⟨fun _ _ => trivial, ⟨hs, hI.publish reaches change⟩,
    fun j _ => ⟨Rely.refl env j s.1, Undisturbed.publish reaches change j⟩, hAs⟩

omit [DecidableEq K] [LinearOrder U] in
/-- A program of readers and writers alone. -/
theorem triple_alone {α : Type} {A : World K U ι → Prop} {B : α → World K U ι → Prop}
    {p : Session K U ι α} (h : (outline env).Triple me A p B) :
    (liveOutline env).Triple me (fun s => A s.1) p.onFirst (fun a s => B a s.1) :=
  Outline.triple_weaken (fun _ _ h => ⟨h, trivial⟩) (fun _ _ h => h.1)
    (triple_world (P := fun _ => True) (fun _ _ _ _ => trivial) h)

/-- Each hook invalidates what is committed, and publishes it. -/
theorem triple_runHooks (outcome : U → SetOutcome × RemoveOutcome) (reaches : U → K → Bool) :
    ∀ writes : List U, (liveOutline env).Triple me
      (fun s : Live K U ι => ∀ w ∈ writes, w ∈ s.1.committed)
      (runHooks env me outcome reaches writes) (fun _ _ => True)
  | [] => fun _ _ _ _ _ _ => trivial
  | change :: rest => by
      have hstable : (outline env).Stable me
          (fun s : World K U ι => ∀ w ∈ change :: rest, w ∈ s.committed) :=
        fun _ _ h hst _ w hw => hst.committed w (h w hw)
      unfold runHooks
      refine Outline.triple_bind (liveOutline_preorder env) _
        (triple_alone (triple_invalidate (outcome change) List.mem_cons_self)) ?_
      rintro (_ | _)
      · exact fun _ _ _ _ _ _ => trivial
      · refine Outline.triple_bind (liveOutline_preorder env) _
          (triple_publishBusinessChange hstable (reaches change) change) ?_
        intro _
        exact Outline.triple_weaken (fun _ _ h w hw => h w (List.mem_cons_of_mem _ hw))
          (fun _ _ h => h) (triple_runHooks outcome reaches rest)

theorem triple_liveScript [DecidableEq ι] : ∀ commands : List (LiveCommand K U ι),
    (liveOutline env).Triple me (fun _ => True) (liveScript env me commands) (fun _ _ => True)
  | [] => fun _ _ _ _ _ _ => trivial
  | command :: rest => by
      refine Outline.triple_bind (liveOutline_preorder env) (fun _ _ => True) ?_
        (fun _ => triple_liveScript rest)
      cases command with
      | silent command => exact triple_alone (triple_exec command)
      | commit outcome reaches =>
          exact Outline.triple_bind (liveOutline_preorder env) _ (triple_alone triple_commitAtomic)
            (triple_runHooks outcome reaches)

end Writers

/-! ## Every interleaving -/

section Runs

variable [DecidableEq K] [LinearOrder U] [DecidableEq ι] (env : Uuid4 K U)

theorem triple_task (me : K) (task : Task K U ι) :
    (liveOutline env).Triple me (fun _ => True) (task.program env me) (fun _ _ => True) := by
  cases task with
  | script commands =>
      refine Outline.triple_bind (liveOutline_preorder env) _ (triple_liveScript commands) ?_
      exact fun _ _ _ _ _ _ _ => trivial
  | events request stream =>
      refine Outline.triple_bind (liveOutline_preorder env) _ (triple_events request stream) ?_
      exact fun _ _ _ _ _ _ _ => trivial

theorem machine_follows : (machine (K := K) (U := U) (ι := ι) env).Follows (liveOutline env) :=
  { preorder := liveOutline_preorder env
    program := fun me task s hs => triple_task env me task s hs trivial
    release := by
      rintro me s ⟨hs, hI⟩
      have hsteps : Steps env me s.1 (s.1.setTransaction me none) :=
        Steps.setTransaction hs (fun w hw => absurd hw List.not_mem_nil)
      exact ⟨⟨hsteps.1, hI.setQueue none⟩,
        fun j hj => ⟨hsteps.2 j hj, Undisturbed.setQueue none j⟩⟩
    ambient := by
      rintro (e | ⟨k, queue⟩) s ⟨hs, hI⟩
      · have hkeeps : Keeps env s.1 (e.happen env s.1) := (CacheGuard.machine_follows env).ambient e s.1 hs
        exact ⟨⟨hkeeps.1, hI⟩, fun j => ⟨hkeeps.2 j, Undisturbed.refl j s.2⟩⟩
      · exact ⟨⟨hs, hI.setQueue queue⟩,
          fun j => ⟨Rely.refl env j s.1, Undisturbed.setQueue queue j⟩⟩ }

theorem reached_inv (happened : List (Event K (Task K U ι) (LiveEvent K U ι))) :
    (liveOutline env).inv (reached env happened) := by
  have hstart : (liveOutline env).inv ((World.empty, fun _ => none) : Live K U ι) := by
    refine ⟨empty_sound env, ?_⟩
    intro k c hc
    cases hc
  exact (run_sound (machine_follows env) (sound_start hstart) happened).inv

/-- In every interleaving of changes, reads and streams, with lost messages, failures and crashes, each
stream sends what a client can follow. -/
theorem streams_faithful (happened : List (Event K (Task K U ι) (LiveEvent K U ι))) :
    Faithful (reached env happened).2 :=
  (reached_inv env happened).2

end Runs

/-! ## Heartbeats -/

section Heartbeats

variable {identity : Identity} {client : Client U}

theorem Client.Received.prefix {before after : List (Sent U)}
    (h : client.Received identity (before ++ after)) :
    ∃ client' : Client U, client'.Received identity before := by
  induction after using List.reverseRecOn generalizing client with
  | nil => exact ⟨client, List.append_nil before ▸ h⟩
  | append_singleton after sent ih =>
      rw [← List.append_assoc] at h
      generalize hall : before ++ after ++ [sent] = all at h
      cases h with
      | nil => exact absurd hall (by simp)
      | snoc h' _ =>
          obtain ⟨rfl, -⟩ := List.append_inj' hall rfl
          exact ih h'

theorem Client.Received.last {before : List (Sent U)} {sent : Sent U}
    (h : client.Received identity (before ++ [sent])) :
    ∃ client' : Client U, client'.Received identity before ∧
      client'.Receives identity sent client := by
  generalize hall : before ++ [sent] = all at h
  cases h with
  | nil => exact absurd hall (by simp)
  | @snoc before' client' _ sent' h' hnext =>
      obtain ⟨rfl, hsent⟩ := List.append_inj' hall rfl
      cases hsent
      exact ⟨client', h', hnext⟩

/-- A frame that tells the client to read. -/
def Sent.Announces (sent : Sent U) : Prop :=
  ∃ groups version, sent.frame = .ready groups version ∨ sent.frame = .dataChanged groups version

/-- A client that follows the data was told to read it, and has had nothing but heartbeats since. -/
theorem Client.Received.announced {before : List (Sent U)} {version : NamespaceKey U}
    {visible : List U} (h : (Client.following version visible).Received identity before) :
    ∃ earlier announcement later, before = earlier ++ announcement :: later ∧
      announcement.Announces ∧ announcement.visible = visible ∧
      ∀ sent ∈ later, sent.frame = .heartbeat := by
  generalize hclient : Client.following version visible = client at h
  induction h with
  | nil => cases hclient
  | @snoc before client client' sent h hnext ih =>
      subst hclient
      cases hnext with
      | ready _ _ hframe _ =>
          exact ⟨before, sent, [], rfl, ⟨_, _, Or.inl hframe⟩, rfl,
            fun _ hmem => absurd hmem List.not_mem_nil⟩
      | dataChanged _ _ _ _ _ hframe _ _ _ _ =>
          exact ⟨before, sent, [], rfl, ⟨_, _, Or.inr hframe⟩, rfl,
            fun _ hmem => absurd hmem List.not_mem_nil⟩
      | heartbeat _ _ _ _ hframe _ _ _ _ =>
          obtain ⟨earlier, announcement, later, rfl, hannounces, hvisible, hlater⟩ := ih rfl
          refine ⟨earlier, announcement, later ++ [sent], by simp, hannounces, hvisible, ?_⟩
          intro x hx
          rcases List.mem_append.1 hx with hold | hnew
          · exact hlater x hold
          · rw [List.mem_singleton.1 hnew]
            exact hframe

/-- No connection keeps a change from its client: what the check before a heartbeat knew of was visible
when the client was last told to read. -/
def NoChangeLost (s : Connections K U) : Prop :=
  ∀ k c before beat after, s k = some c → c.sent = before ++ beat :: after → beat.frame = .heartbeat →
    ∃ earlier announcement later, before = earlier ++ announcement :: later ∧
      announcement.Announces ∧ (∀ sent ∈ later, sent.frame = .heartbeat) ∧
      ∀ w ∈ beat.known, w ∈ announcement.visible

/-- Every write that a heartbeat's check knew of was visible when the last announcement was sent, for
every interleaving, every pattern of failures and every loss of messages. -/
theorem no_change_lost [DecidableEq K] [LinearOrder U] [DecidableEq ι] (env : Uuid4 K U)
    (happened : List (Event K (Task K U ι) (LiveEvent K U ι))) :
    NoChangeLost (reached env happened).2 := by
  intro k c before beat after hc hsent hbeat
  obtain ⟨client, hreceived⟩ := (reached_inv env happened).2 k c hc
  rw [hsent, List.append_cons] at hreceived
  obtain ⟨client', hprefix⟩ := hreceived.prefix
  obtain ⟨client'', hbefore, hnext⟩ := hprefix.last
  cases hnext with
  | heartbeat _ version visible _ _ _ _ _ hcovered =>
      obtain ⟨earlier, announcement, later, hsplit, hannounces, rfl, hlater⟩ := hbefore.announced
      exact ⟨earlier, announcement, later, hsplit, hannounces, hlater, hcovered⟩
  | retry _ hframe => exact absurd (hbeat.symm.trans hframe) (by simp)
  | ready _ _ hframe _ => exact absurd (hbeat.symm.trans hframe) (by simp)
  | dataChanged _ _ _ _ _ hframe _ _ _ _ => exact absurd (hbeat.symm.trans hframe) (by simp)
  | reconnect _ _ _ _ hframe _ _ => exact absurd (hbeat.symm.trans hframe) (by simp)
  | refused _ hframe => simp [hbeat] at hframe
  | interrupted _ _ _ hframe => simp [hbeat] at hframe

end Heartbeats

/-! ## A sample stream -/

def plainCheck : Check :=
  { authentication := .user 7 "admin" 900
    queryFails := false
    faults := plainRead.faults }

def turnAt (seconds : ℚ) : Turn :=
  { monotonic := seconds
    time := seconds
    waitFails := false
    drainFails := fun _ => false
    check := plainCheck }

def sampleStream : Task Unit Nat Unit :=
  .events
    { method := "GET"
      opening := plainCheck
      asgi := true
      redis := true }
    { address := ()
      started := 0
      connects := true
      acknowledged := true
      baseline := plainCheck
      turns := [turnAt 15, turnAt 30, turnAt 300] }

/-- The version is evicted during the second turn, so that turn announces another one; after five
minutes the client is to connect again. -/
example : (((reached sampleUuids (.starts () sampleStream :: List.replicate 15 (.steps ()) ++
    .ambient (.cache .evictVersion) :: List.replicate 12 (.steps ()))).2 ()).map
      fun c => c.sent.map Sent.frame) =
    some [.retry,
      .ready (commonGroups ++ ["users"]) { version := 0, digest := .pending [] },
      .heartbeat,
      .dataChanged (commonGroups ++ ["users"]) { version := 2, digest := .pending [] },
      .reconnect] := by
  decide +kernel

end LiveEvents
end RosarioDairy
