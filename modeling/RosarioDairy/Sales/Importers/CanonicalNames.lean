import RosarioDairy.Sales.Importers.CustomerNames

/-!
# CanonicalNames — when the canonical name of a canonical name is itself

The names of the tables are their own canonical names.  Any other name is what the removals leave of a
label, and removing one annotation may expose another: such a name is its own canonical name exactly if
none of the rules applies to it once more.
-/

namespace RosarioDairy
namespace CustomerNames

open Foundations

/-! ## Lengths -/

theorem cleanLabel_cleanLabel (label : List Char) : cleanLabel (cleanLabel label) = cleanLabel label :=
  collapse_collapse (by decide) label

theorem length_cleanLabel_le (label : List Char) : (cleanLabel label).length ≤ label.length :=
  length_collapse_le label

theorem dropCancelled_sublist (label : List Char) : (dropCancelled label).Sublist label :=
  (trim_sublist _ _).trans (cancelled.delete_sublist label)

theorem dropNumber_sublist (label : List Char) : (dropNumber label).Sublist label :=
  (trim_sublist _ _).trans (siNumber.delete_sublist label)

theorem dropWalkIn_sublist (T : Unicode) (label : List Char) : (dropWalkIn T label).Sublist label :=
  (trim_sublist _ _).trans ((slashWalkIn T).delete_sublist label)

/-- An event that is cut out of a label is shorter than the label. -/
theorem length_eventOf_lt {label event : List Char} (h : eventOf label = some event) :
    event.length < label.length := by
  rcases Option.or_eq_some_iff.1 h with hday | ⟨_, hdated⟩
  · exact Pattern.length_group_lt (by decide +kernel) hday
  · exact Pattern.length_group_lt (by decide +kernel) hdated

theorem eventOf_initial {label event : List Char} (h : eventOf label = some event) :
    event <+: label := by
  rcases Option.or_eq_some_iff.1 h with hday | ⟨_, hdated⟩
  · exact Pattern.group_initial hday
  · exact Pattern.group_initial hdated

/-! ## The names of the tables -/

def canonicalNames : List (List Char) :=
  (["Outlet Sales", "Walk-in", "Ala Eh Festival"] ++ groups.map Prod.fst ++
    customerAliases.map Prod.snd).map String.toList

/-- A name in which the removals find nothing, whatever the word characters. -/
def isPlain (name : List Char) : Bool :=
  name.all isAscii && decide (cleanLabel name = name) && decide (dropCancelled name = name) &&
    decide (dropNumber name = name) && name.all (fun c => !(c == '/')) &&
    decide (trim isSpace name = name) && (eventOf name).isNone

theorem canonicalNames_plain : ∀ name ∈ canonicalNames, isPlain name = true ∧
    canonicalCustomer Unicode.ascii name = some name := by
  decide +kernel

section Ascii

variable (T : Unicode)

theorem startsWith_ascii {label : List Char} (h : label.all isAscii = true) (start : String) :
    startsWith T start label = startsWith Unicode.ascii start label := by
  rw [startsWith, T.lower_ascii label h]
  rfl

theorem aliasOf_ascii {label : List Char} (h : label.all isAscii = true) :
    aliasOf T label = aliasOf Unicode.ascii label := by
  rw [aliasOf, T.casefold_ascii label h]
  rfl

theorem formattingKey_ascii {label : List Char} (h : label.all isAscii = true) :
    formattingKey T label = formattingKey Unicode.ascii label := by
  rw [formattingKey, T.casefold_ascii]
  · rfl
  · exact List.all_eq_true.2 fun c hc => List.all_eq_true.1 h c (List.mem_filter.1 hc).1

theorem groups_ascii : ∀ group ∈ groups, ∀ label ∈ group.1 :: group.2,
    label.toList.all isAscii = true := by
  decide +kernel

theorem groupAliases_ascii : groupAliases T = groupAliases Unicode.ascii := by
  unfold groupAliases
  congr 1
  apply List.flatMap_congr
  intro group hgroup
  apply List.map_congr_left
  intro label hlabel
  rw [formattingKey_ascii T (groups_ascii group hgroup label hlabel)]

theorem groupOf_ascii {label : List Char} (h : label.all isAscii = true) :
    groupOf T label = groupOf Unicode.ascii label := by
  rw [groupOf, groupAliases_ascii, formattingKey_ascii T h]
  rfl

variable {T} {name : List Char} (h : isPlain name = true)
include h

theorem plain_facts : name.all isAscii = true ∧ cleanLabel name = name ∧ dropCancelled name = name ∧
    dropNumber name = name ∧ dropWalkIn T name = name ∧ eventOf name = none := by
  unfold isPlain at h
  simp only [Bool.and_eq_true, decide_eq_true_eq, Option.isNone_iff_eq_none] at h
  obtain ⟨⟨⟨⟨⟨⟨hascii, hclean⟩, hcancelled⟩, hnumber⟩, hslash⟩, htrim⟩, hevent⟩ := h
  refine ⟨hascii, hclean, hcancelled, hnumber, ?_, hevent⟩
  have hdelete : (slashWalkIn T).delete name = name := by
    apply ((slashWalkIn T).delete_eq_self_iff name).2
    apply Pattern.occursIn_of_not_mem
    intro c hc
    simpa using List.all_eq_true.1 hslash c hc
  rw [dropWalkIn, hdelete, htrim]

theorem consolidatedName_plain :
    consolidatedName T name = consolidatedName Unicode.ascii name := by
  obtain ⟨hascii, hclean, _, _, _, hevent⟩ := plain_facts h (T := T)
  unfold consolidatedName
  simp only [hclean, hevent, Option.getD_none, groupOf_ascii T hascii]

end Ascii

theorem mem_of_lookup {table : List (List Char × List Char)} {key value : List Char}
    (h : table.lookup key = some value) : ∃ entry ∈ table, entry.2 = value := by
  obtain ⟨before, after, rfl, _⟩ := List.lookup_eq_some_iff.1 h
  exact ⟨(key, value), by simp, rfl⟩

theorem groupOf_mem {T : Unicode} {label name : List Char} (h : groupOf T label = some name) :
    name ∈ canonicalNames := by
  obtain ⟨entry, hentry, rfl⟩ := mem_of_lookup h
  obtain ⟨group, hgroup, hmem⟩ := List.mem_flatMap.1 (List.mem_reverse.1 hentry)
  obtain ⟨label, _, rfl⟩ := List.mem_map.1 hmem
  exact List.mem_map.2 ⟨group.1, List.mem_append_left _ (List.mem_append_right _
    (List.mem_map_of_mem hgroup)), rfl⟩

theorem aliasOf_mem {T : Unicode} {label name : List Char} (h : aliasOf T label = some name) :
    name ∈ canonicalNames := by
  have htable : ∀ key, (customerAliases.map fun entry => (entry.1.toList, entry.2.toList)).lookup key =
      some name → name ∈ canonicalNames := by
    intro key hlookup
    obtain ⟨entry, hentry, rfl⟩ := mem_of_lookup hlookup
    obtain ⟨row, hrow, rfl⟩ := List.mem_map.1 hentry
    exact List.mem_map.2 ⟨row.2, List.mem_append_right _ (List.mem_map_of_mem hrow), rfl⟩
  rcases Option.or_eq_some_iff.1 h with hfirst | ⟨_, hsecond⟩
  · exact htable _ hfirst
  · exact htable _ hsecond

theorem festival_mem : "Ala Eh Festival".toList ∈ canonicalNames :=
  List.mem_map.2 ⟨"Ala Eh Festival", by simp, rfl⟩

/-- A name of the tables is consolidated into one of them. -/
theorem consolidatedName_mem (T : Unicode) {name : List Char} (hname : name ∈ canonicalNames) :
    consolidatedName T name ∈ canonicalNames := by
  obtain ⟨hplain, _⟩ := canonicalNames_plain name hname
  obtain ⟨_, hclean, _, _, _, hevent⟩ := plain_facts hplain (T := T)
  unfold consolidatedName
  simp only [hclean, hevent, Option.getD_none]
  split
  · exact festival_mem
  · cases hgroup : groupOf T name with
    | none => exact hname
    | some group => exact groupOf_mem hgroup

/-- The names of the tables are their own canonical names. -/
theorem canonicalCustomer_name (T : Unicode) {name : List Char} (hname : name ∈ canonicalNames) :
    canonicalCustomer T name = some name := by
  obtain ⟨hplain, hcanonical⟩ := canonicalNames_plain name hname
  obtain ⟨hascii, hclean, hcancelled, hnumber, hwalkIn, _⟩ := plain_facts hplain (T := T)
  obtain ⟨_, _, _, _, hwalkInAscii, _⟩ := plain_facts hplain (T := Unicode.ascii)
  have hconsolidated : consolidatedName T ((aliasOf Unicode.ascii name).getD name) =
      consolidatedName Unicode.ascii ((aliasOf Unicode.ascii name).getD name) := by
    cases halias : aliasOf Unicode.ascii name with
    | none => exact consolidatedName_plain hplain
    | some target => exact consolidatedName_plain (canonicalNames_plain target (aliasOf_mem halias)).1
  refine Eq.trans ?_ hcanonical
  unfold canonicalCustomer isOutlet isWalkIn
  simp only [hclean, hcancelled, hnumber, hwalkIn, hwalkInAscii, startsWith_ascii T hascii,
    aliasOf_ascii T hascii, hconsolidated]

/-! ## What the removals leave -/

section Labels

variable (T : Unicode)

/-- The label after the removals of 'cancelled' and of the invoice number. -/
def afterNumber (raw : List Char) : List Char := dropNumber (dropCancelled (cleanLabel raw))

/-- The label after all removals, with single blanks. -/
def afterRemovals (raw : List Char) : List Char := cleanLabel (dropWalkIn T (afterNumber raw))

/-- What the removals leave of a label, without a day or date of an event. -/
def remnant (raw : List Char) : List Char :=
  (eventOf (afterRemovals T raw)).getD (afterRemovals T raw)

/-- A rule names the label from a table: a prefix, an alias, the festival or a group of names. -/
def isNamed (raw : List Char) : Bool :=
  isOutlet T (afterNumber raw) || isWalkIn T (afterNumber raw) ||
    (aliasOf T (dropWalkIn T (afterNumber raw))).isSome || ala.fullMatch (afterRemovals T raw) ||
    (groupOf T (remnant T raw)).isSome

/-- No rule applies to a name: it contains none of what is removed, does not start or end with a
separator, has none of the prefixes, is no alias and names no event. -/
structure Undisturbed (name : List Char) : Prop where
  cancelled : cancelled.occursIn name = false
  number : siNumber.occursIn name = false
  walkIn : (slashWalkIn T).occursIn name = false
  first : ∀ c ∈ name.head?, c ≠ ' ' ∧ c ≠ '-' ∧ c ≠ '_' ∧ c ≠ '/'
  last : ∀ c ∈ name.getLast?, c ≠ ' ' ∧ c ≠ '-' ∧ c ≠ '_' ∧ c ≠ '/'
  notOutlet : isOutlet T name = false
  notWalkIn : isWalkIn T name = false
  noAlias : aliasOf T name = none
  noFestival : ala.fullMatch name = false
  noEvent : eventOf name = none

/-- A name of the tables, or one that no rule applies to. -/
def Settled (name : List Char) : Prop := name ∈ canonicalNames ∨ Undisturbed T name

variable {T}

theorem canonicalCustomer_eq (raw : List Char) : canonicalCustomer T raw =
    if cleanLabel raw = [] then none
    else if afterNumber raw = [] then none
    else if isOutlet T (afterNumber raw) = true then some "Outlet Sales".toList
    else if isWalkIn T (afterNumber raw) = true then some "Walk-in".toList
    else some (consolidatedName T ((aliasOf T (dropWalkIn T (afterNumber raw))).getD
      (dropWalkIn T (afterNumber raw)))) := rfl

theorem consolidatedName_dropWalkIn (raw : List Char) :
    consolidatedName T (dropWalkIn T (afterNumber raw)) =
      if ala.fullMatch (afterRemovals T raw) = true then "Ala Eh Festival".toList
      else (groupOf T (remnant T raw)).getD (remnant T raw) := rfl

/-- A label that no rule names is called what the removals leave of it. -/
theorem canonicalCustomer_unnamed {raw : List Char} (hnamed : isNamed T raw = false)
    (hclean : cleanLabel raw ≠ []) (hnumber : afterNumber raw ≠ []) :
    canonicalCustomer T raw = some (remnant T raw) := by
  unfold isNamed at hnamed
  simp only [Bool.or_eq_false_iff, Option.isSome_eq_false_iff, Option.isNone_iff_eq_none] at hnamed
  obtain ⟨⟨⟨⟨houtlet, hwalkIn⟩, halias⟩, hfestival⟩, hgroup⟩ := hnamed
  rw [canonicalCustomer_eq, if_neg hclean, if_neg hnumber, if_neg (ne_true_of_eq_false houtlet),
    if_neg (ne_true_of_eq_false hwalkIn), halias, Option.getD_none, consolidatedName_dropWalkIn,
    if_neg (ne_true_of_eq_false hfestival), hgroup, Option.getD_none]

/-- A label that a rule names is called by a name of the tables. -/
theorem canonicalCustomer_named {raw name : List Char} (hnamed : isNamed T raw = true)
    (h : canonicalCustomer T raw = some name) : name ∈ canonicalNames := by
  rw [canonicalCustomer_eq] at h
  split at h
  · cases h
  · split at h
    · cases h
    · split at h
      · rw [← Option.some.inj h]
        exact List.mem_map.2 ⟨"Outlet Sales", by simp, rfl⟩
      · split at h
        · rw [← Option.some.inj h]
          exact List.mem_map.2 ⟨"Walk-in", by simp, rfl⟩
        · rename_i houtlet hwalkIn
          rw [← Option.some.inj h]
          cases halias : aliasOf T (dropWalkIn T (afterNumber raw)) with
          | some target => exact consolidatedName_mem T (aliasOf_mem halias)
          | none =>
              rw [Option.getD_none, consolidatedName_dropWalkIn]
              split
              · exact festival_mem
              · rename_i hfestival
                cases hgroup : groupOf T (remnant T raw) with
                | some group => exact groupOf_mem hgroup
                | none =>
                    simp [isNamed, houtlet, hwalkIn, halias, hfestival, hgroup] at hnamed

theorem canonicalCustomer_ne_nil {raw name : List Char} (h : canonicalCustomer T raw = some name) :
    cleanLabel raw ≠ [] ∧ afterNumber raw ≠ [] := by
  rw [canonicalCustomer_eq] at h
  constructor
  · intro hnil
    rw [if_pos hnil] at h
    cases h
  · intro hnil
    rw [if_pos hnil] at h
    split at h
    · cases h
    · cases h

/-! ## Names that no rule applies to -/

theorem squeezed_getD_eventOf {label : List Char} (h : Squeezed isSpace ' ' label) :
    Squeezed isSpace ' ' ((eventOf label).getD label) := by
  cases hevent : eventOf label with
  | none => exact h
  | some event => exact h.of_isInfix (eventOf_initial hevent).isInfix

theorem squeezed_remnant (raw : List Char) : Squeezed isSpace ' ' (remnant T raw) :=
  squeezed_getD_eventOf (squeezed_collapse (by decide) _)

theorem separator_eq_false_iff (c : Char) :
    (c == ' ' || c == '-' || c == '_' || c == '/') = false ↔
      c ≠ ' ' ∧ c ≠ '-' ∧ c ≠ '_' ∧ c ≠ '/' := by
  simp only [Bool.or_eq_false_iff, beq_eq_false_iff_ne, and_assoc]

/-- A name that no rule applies to is its own canonical name. -/
theorem Undisturbed.canonicalCustomer_eq {name : List Char} (h : Undisturbed T name)
    (hsqueezed : Squeezed isSpace ' ' name) (hgroup : groupOf T name = none) (hname : name ≠ []) :
    canonicalCustomer T name = some name := by
  have hends : trim isSpace name = name := by
    refine (trim_eq_self_iff _ _).2 ⟨fun c hc => ?_, fun c hc => ?_⟩
    · by_contra hspace
      rw [Bool.not_eq_false] at hspace
      exact (h.first c hc).1 (hsqueezed.1 c (List.mem_of_mem_head? hc) hspace)
    · by_contra hspace
      rw [Bool.not_eq_false] at hspace
      exact (h.last c hc).1 (hsqueezed.1 c (List.mem_of_mem_getLast? hc) hspace)
  have hclean : cleanLabel name = name := hsqueezed.collapse_eq.trans hends
  have hcancelled : dropCancelled name = name := by
    rw [dropCancelled, (Pattern.delete_eq_self_iff _ _).2 h.cancelled]
    exact (trim_eq_self_iff _ _).2 ⟨fun c hc => (separator_eq_false_iff c).2 (h.first c hc),
      fun c hc => (separator_eq_false_iff c).2 (h.last c hc)⟩
  have hnumber : dropNumber name = name := by
    rw [dropNumber, (Pattern.delete_eq_self_iff _ _).2 h.number, hends]
  have hwalkIn : dropWalkIn T name = name := by
    rw [dropWalkIn, (Pattern.delete_eq_self_iff _ _).2 h.walkIn, hends]
  have hafter : afterNumber name = name := by rw [afterNumber, hclean, hcancelled, hnumber]
  have hremovals : afterRemovals T name = name := by rw [afterRemovals, hafter, hwalkIn, hclean]
  have hremnant : remnant T name = name := by
    rw [remnant, hremovals, h.noEvent, Option.getD_none]
  have hnamed : isNamed T name = false := by
    rw [isNamed, hafter, hwalkIn, hremovals, hremnant, h.notOutlet, h.notWalkIn, h.noAlias,
      h.noFestival, hgroup]
    rfl
  rw [canonicalCustomer_unnamed hnamed (hclean.symm ▸ hname) (hafter.symm ▸ hname), hremnant]

/-- A removal that gives a text back found nothing in it, and nothing at its ends. -/
theorem occursIn_of_trim_delete {p : Char → Bool} {q : Pattern} {s : List Char}
    (h : trim p (q.delete s) = s) : q.occursIn s = false ∧ trim p s = s := by
  have hdelete : q.delete s = s := by
    apply (q.delete_sublist s).eq_of_length_le
    calc s.length = (trim p (q.delete s)).length := by rw [h]
      _ ≤ (q.delete s).length := (trim_sublist p _).length_le
  refine ⟨(q.delete_eq_self_iff s).1 hdelete, ?_⟩
  rwa [hdelete] at h

/-- If the removals give a name back, no rule applies to it. -/
theorem undisturbed_of_remnant {name : List Char} (hnamed : isNamed T name = false)
    (h : remnant T name = name) : Undisturbed T name := by
  have hcleanLength := length_cleanLabel_le name
  have hcancelledSub := dropCancelled_sublist (cleanLabel name)
  have hnumberSub : (afterNumber name).Sublist (dropCancelled (cleanLabel name)) :=
    dropNumber_sublist _
  have hwalkInSub := dropWalkIn_sublist T (afterNumber name)
  have hlength : (afterRemovals T name).length ≤ (dropWalkIn T (afterNumber name)).length :=
    length_cleanLabel_le _
  have hevent : eventOf (afterRemovals T name) = none := by
    cases hevent : eventOf (afterRemovals T name) with
    | none => rfl
    | some event =>
        have hlt := length_eventOf_lt hevent
        rw [remnant, hevent, Option.getD_some] at h
        rw [h] at hlt
        have := hcancelledSub.length_le
        have := hnumberSub.length_le
        have := hwalkInSub.length_le
        omega
  have hremovals : afterRemovals T name = name := by
    rw [remnant, hevent, Option.getD_none] at h
    exact h
  -- nothing gets shorter on the way
  rw [hremovals] at hlength
  have hwalkIn : dropWalkIn T (afterNumber name) = afterNumber name := by
    apply hwalkInSub.eq_of_length_le
    have := hcancelledSub.length_le
    have := hnumberSub.length_le
    omega
  have hnumber : afterNumber name = dropCancelled (cleanLabel name) := by
    apply hnumberSub.eq_of_length_le
    have := hcancelledSub.length_le
    have := hwalkInSub.length_le
    omega
  have hcancelled : dropCancelled (cleanLabel name) = cleanLabel name := by
    apply hcancelledSub.eq_of_length_le
    have := hnumberSub.length_le
    have := hwalkInSub.length_le
    omega
  have hclean : cleanLabel name = name := by
    rw [afterRemovals, hwalkIn, hnumber, hcancelled, cleanLabel_cleanLabel] at hremovals
    exact hremovals
  have hafter : afterNumber name = name := by rw [hnumber, hcancelled, hclean]
  rw [hafter] at hwalkIn hnumber
  rw [hclean] at hcancelled hnumber
  rw [hcancelled] at hnumber
  have hnumberSelf : dropNumber name = name := by
    have hself : afterNumber name = dropNumber (dropCancelled (cleanLabel name)) := rfl
    rw [hclean, hcancelled, hafter] at hself
    exact hself.symm
  obtain ⟨hnoCancelled, hends⟩ := occursIn_of_trim_delete hcancelled
  obtain ⟨hfirst, hlast⟩ := (trim_eq_self_iff _ _).1 hends
  unfold isNamed at hnamed
  simp only [hafter, hwalkIn, hremovals, Bool.or_eq_false_iff, Option.isSome_eq_false_iff,
    Option.isNone_iff_eq_none] at hnamed
  obtain ⟨⟨⟨⟨houtlet, hwalkInPrefix⟩, halias⟩, hfestival⟩, _⟩ := hnamed
  exact
    { cancelled := hnoCancelled
      number := (occursIn_of_trim_delete hnumberSelf).1
      walkIn := (occursIn_of_trim_delete hwalkIn).1
      first := fun c hc => (separator_eq_false_iff c).1 (hfirst c hc)
      last := fun c hc => (separator_eq_false_iff c).1 (hlast c hc)
      notOutlet := houtlet
      notWalkIn := hwalkInPrefix
      noAlias := halias
      noFestival := hfestival
      noEvent := hremovals ▸ hevent }

/-! ## Canonical names of canonical names -/

/-- A canonical name is its own canonical name, under the same key, exactly if the label is named by a
rule, or what the removals leave of it is a name of the tables or one that no rule applies to. -/
theorem canonical_idempotent_iff (T : Unicode) (raw name : List Char)
    (h : canonicalCustomer T raw = some name) (hname : name ≠ []) :
    (canonicalCustomer T name = some name ∧ customerKey T name = customerKey T raw) ↔
      isNamed T raw = true ∨ Settled T (remnant T raw) := by
  -- an equal name has an equal key, so the second conjunct comes with the first
  have hkey : canonicalCustomer T name = some name → customerKey T name = customerKey T raw := by
    intro hsame
    rw [customerKey, customerKey, hsame, h]
  rw [and_iff_left_of_imp hkey]
  cases hnamed : isNamed T raw with
  | true =>
      -- a named customer is spelled by the table, and those names are settled
      refine iff_of_true ?_ (Or.inl rfl)
      exact canonicalCustomer_name T (canonicalCustomer_named hnamed h)
  | false =>
      -- otherwise the canonical name is the remnant itself
      obtain ⟨hclean, hnumber⟩ := canonicalCustomer_ne_nil h
      obtain rfl : remnant T raw = name :=
        Option.some.inj ((canonicalCustomer_unnamed hnamed hclean hnumber).symm.trans h)
      have hgroup : groupOf T (remnant T raw) = none := by
        unfold isNamed at hnamed
        simp only [Bool.or_eq_false_iff, Option.isSome_eq_false_iff,
          Option.isNone_iff_eq_none] at hnamed
        exact hnamed.2
      constructor
      · intro hsame
        refine Or.inr ?_
        -- cleaning the remnant once more either names it or leaves it undisturbed
        cases hagain : isNamed T (remnant T raw) with
        | true => exact Or.inl (canonicalCustomer_named hagain hsame)
        | false =>
            obtain ⟨hclean', hnumber'⟩ := canonicalCustomer_ne_nil hsame
            exact Or.inr (undisturbed_of_remnant hagain (Option.some.inj
              ((canonicalCustomer_unnamed hagain hclean' hnumber').symm.trans hsame)))
      · rintro (hfalse | hmem | hundisturbed)
        · cases hfalse
        · exact canonicalCustomer_name T hmem
        · exact hundisturbed.canonicalCustomer_eq (squeezed_remnant raw) hgroup hname

end Labels

theorem canonical_idempotent_iff_azad :
    canonicalCustomer Unicode.ascii "AZAAD".toList = some "AZAAD".toList ∧
      customerKey Unicode.ascii "AZAAD".toList = customerKey Unicode.ascii "Azad (cancelled)".toList :=
  (canonical_idempotent_iff Unicode.ascii "Azad (cancelled)".toList "AZAAD".toList
    (by decide +kernel) (by decide +kernel)).2 (Or.inl (by decide +kernel))

/-- Without '/walk-in', the label of a store ends with the separator that stood before it; the
canonical name of that name has lost it, and so has its key. -/
theorem canonical_separator_kept :
    ¬ ∀ (T : Unicode) (raw name : List Char), canonicalCustomer T raw = some name → name ≠ [] →
      canonicalCustomer T name = some name ∧ customerKey T name = customerKey T raw := by
  intro hclaim
  have hsame := (hclaim Unicode.ascii "Lares -/walk-in".toList "Lares -".toList (by decide +kernel)
    (by decide +kernel)).1
  exact absurd hsame (by decide +kernel)

end CustomerNames
end RosarioDairy
