import Mathlib.Data.List.Induction
import Mathlib.Data.List.Nodup
import Debugger.Settings.Check

/-! # Switching filter patterns on and off

Each switch edits both lists of patterns: it takes every copy of the pattern out of one and appends the
pattern to the other unless it is there.  Whatever is switched, in whatever order, no pattern is doubled,
none is in both lists and none gets lost.
-/

namespace Debugger

namespace FilterSettings

/-- The patterns that are switched on, or those that are switched off. -/
def side (s : FilterSettings) : Bool → List String
  | true => s.active
  | false => s.inactive

/-- No pattern is doubled and none is in both lists. -/
structure Partitioned (s : FilterSettings) : Prop where
  nodup (on : Bool) : (s.side on).Nodup
  apart : ∀ p ∈ s.active, p ∉ s.inactive

instance (s : FilterSettings) : Decidable s.Partitioned :=
  decidable_of_iff (s.active.Nodup ∧ s.inactive.Nodup ∧ ∀ p ∈ s.active, p ∉ s.inactive)
    ⟨fun h => ⟨Bool.rec h.2.1 h.1, h.2.2⟩, fun h => ⟨h.nodup true, h.nodup false, h.apart⟩⟩

end FilterSettings

/-- A pattern switched on or off. -/
structure Toggle where
  on : Bool
  pattern : String
  deriving DecidableEq, Repr

namespace Toggle

open FilterSettings (Partitioned side)

/-- What a switch makes of the settings. -/
def apply (s : FilterSettings) (t : Toggle) : FilterSettings :=
  if t.on then s.activate t.pattern else s.deactivate t.pattern

/-- What several switches, one after the other, make of the settings. -/
def applyAll (s : FilterSettings) (ts : List Toggle) : FilterSettings := ts.foldl apply s

/-- Which way a pattern was switched last. -/
def last (ts : List Toggle) (p : String) : Option Bool :=
  (ts.reverse.find? (·.pattern == p)).map on

variable (s : FilterSettings) (t : Toggle) (ts : List Toggle) (p : String)

@[simp] theorem applyAll_nil : applyAll s [] = s := rfl

@[simp] theorem applyAll_append_singleton : applyAll s (ts ++ [t]) = apply (applyAll s ts) t := by
  simp [applyAll]

@[simp] theorem last_nil : last [] p = none := rfl

@[simp] theorem last_append_singleton :
    last (ts ++ [t]) p = if t.pattern = p then some t.on else last ts p := by
  by_cases h : t.pattern = p <;> simp [last, h]

theorem last_eq_none_iff : last ts p = none ↔ p ∉ ts.map pattern := by
  simp [last]

/-! ## One switch -/

theorem apply_side_joined :
    (apply s t).side t.on =
      if t.pattern ∈ s.side t.on then s.side t.on else s.side t.on ++ [t.pattern] := by
  obtain ⟨on, p⟩ := t
  cases on <;> simp only [← List.contains_iff_mem] <;> rfl

theorem apply_side_left :
    (apply s t).side (!t.on) = (s.side (!t.on)).filter (· != t.pattern) := by
  obtain ⟨on, p⟩ := t
  cases on <;> rfl

/-- A switch decides where its pattern is, and of no other pattern. -/
theorem mem_apply_side (on : Bool) :
    p ∈ (apply s t).side on ↔ if t.pattern = p then t.on = on else p ∈ s.side on := by
  by_cases hon : on = t.on
  · subst hon
    rw [apply_side_joined]
    by_cases hp : t.pattern = p
    · subst hp
      by_cases hmem : t.pattern ∈ s.side t.on <;> simp [hmem]
    · by_cases hmem : t.pattern ∈ s.side t.on <;> simp [hmem, hp, Ne.symm hp]
  · have hoff : on = !t.on := Bool.eq_not.mpr hon
    rw [hoff, apply_side_left]
    by_cases hp : t.pattern = p
    · simp [hp]
    · simp [hp, Ne.symm hp]

theorem nodup_apply_side {s : FilterSettings} (h : ∀ on, (s.side on).Nodup) (on : Bool) :
    ((apply s t).side on).Nodup := by
  by_cases hon : on = t.on
  · subst hon
    rw [apply_side_joined]
    by_cases hmem : t.pattern ∈ s.side t.on
    · rw [if_pos hmem]
      apply h
    · rw [if_neg hmem, ← List.concat_eq_append]
      apply (h _).concat hmem
  · have hoff : on = !t.on := Bool.eq_not.mpr hon
    rw [hoff, apply_side_left]
    apply (h _).filter

/-- The two lists stay apart, since the pattern that joins one leaves the other. -/
theorem partitioned_apply {s : FilterSettings} (h : s.Partitioned) : (apply s t).Partitioned := by
  apply Partitioned.mk (nodup_apply_side t h.nodup)
  intro p hon hoff
  have hon := (mem_apply_side s t p true).mp hon
  have hoff := (mem_apply_side s t p false).mp hoff
  by_cases hp : t.pattern = p
  · simp_all
  · rw [if_neg hp] at hon hoff
    apply h.apart p hon hoff

/-- Among patterns that do not count, the switched one is one, a switch changes nothing. -/
theorem filter_apply_side (keep : String → Bool) (h : keep t.pattern = false) (on : Bool) :
    ((apply s t).side on).filter keep = (s.side on).filter keep := by
  by_cases hon : on = t.on
  · subst hon
    rw [apply_side_joined]
    split <;> simp [h]
  · have hoff : on = !t.on := Bool.eq_not.mpr hon
    rw [hoff, apply_side_left, List.filter_filter]
    apply List.filter_congr
    intro p _
    by_cases hp : p = t.pattern <;> simp [hp, h]

/-! ## Any number of switches -/

theorem partitioned_applyAll {s : FilterSettings} (h : s.Partitioned) :
    (applyAll s ts).Partitioned := by
  induction ts using List.reverseRecOn with
  | nil => exact h
  | append_singleton ts t ih =>
    rw [applyAll_append_singleton]
    apply partitioned_apply t ih

/-- The last switch of a pattern decides where it is; one that was never switched is where it was. -/
theorem mem_applyAll_side (on : Bool) :
    p ∈ (applyAll s ts).side on ↔
      match last ts p with
      | some lastOn => lastOn = on
      | none => p ∈ s.side on := by
  induction ts using List.reverseRecOn with
  | nil => rfl
  | append_singleton ts t ih =>
    rw [applyAll_append_singleton, mem_apply_side, last_append_singleton]
    by_cases hp : t.pattern = p
    · simp [hp]
    · simpa only [if_neg hp] using ih

theorem filter_applyAll_side (keep : String → Bool) (on : Bool)
    (h : ∀ p ∈ ts.map pattern, keep p = false) :
    ((applyAll s ts).side on).filter keep = (s.side on).filter keep := by
  induction ts using List.reverseRecOn with
  | nil => rfl
  | append_singleton ts t ih =>
    rw [applyAll_append_singleton, filter_apply_side _ t keep (h _ (by simp))]
    apply ih
    intro p hp
    apply h p
    simp only [List.map_append, List.mem_append]
    exact .inl hp

end Toggle

/-! ## What the check reports -/

theorem bothLists_not_mem_badPatterns (list : String) (patterns : List String) (p : String) :
    Doubt.bothLists p ∉ badPatterns list patterns := by
  intro h
  obtain ⟨⟨pattern, index⟩, -, hdoubt⟩ := List.mem_filterMap.mp h
  cases hparse : Glob.parse pattern <;> simp [hparse] at hdoubt

/-- The check reports exactly the patterns that are in both lists. -/
theorem Settings.bothLists_mem_doubts (s : Settings) (p : String) :
    Doubt.bothLists p ∈ s.doubts ↔ p ∈ s.stepFilters.active ∧ p ∈ s.stepFilters.inactive := by
  have htail (c : Prop) [Decidable c] (d : Doubt) (hd : d ≠ .bothLists p) :
      Doubt.bothLists p ∉ (if c then [d] else []) := by
    split <;> simp [hd.symm]
  simp only [Settings.doubts, List.mem_append, bothLists_not_mem_badPatterns, false_or,
    htail _ _ (by simp : Doubt.zeroSuspend ≠ .bothLists p),
    htail _ _ (by simp : Doubt.zeroRequest ≠ .bothLists p),
    htail _ _ (by simp : Doubt.slowPoll ≠ .bothLists p), or_false, List.mem_map, List.mem_filter,
    List.contains_iff_mem, Doubt.bothLists.injEq, exists_eq_right]

namespace Toggle

open FilterSettings (Partitioned)

/-- However patterns are switched, the two lists stay a partition of the patterns there were and those
that were switched: each switched one is where its last switch put it, the others are where they were,
in the order they had, and the check finds no pattern in both lists. -/
theorem applyAll_partition {s : FilterSettings} (h : s.Partitioned) (ts : List Toggle) :
    (applyAll s ts).Partitioned ∧
      (∀ p, p ∈ (applyAll s ts).active ∨ p ∈ (applyAll s ts).inactive ↔
        (p ∈ s.active ∨ p ∈ s.inactive) ∨ p ∈ ts.map pattern) ∧
      (∀ p, last ts p = some true → p ∈ (applyAll s ts).active) ∧
      (∀ p, last ts p = some false → p ∈ (applyAll s ts).inactive) ∧
      (applyAll s ts).active.filter (· ∉ ts.map pattern) =
        s.active.filter (· ∉ ts.map pattern) ∧
      (applyAll s ts).inactive.filter (· ∉ ts.map pattern) =
        s.inactive.filter (· ∉ ts.map pattern) ∧
      ∀ settings : Settings, settings.stepFilters = applyAll s ts →
        ∀ p, Doubt.bothLists p ∉ settings.doubts := by
  have hpart := partitioned_applyAll ts h
  have hmem (p : String) (on : Bool) := mem_applyAll_side s ts p on
  refine ⟨hpart, ?all, ?on, ?off, ?active, ?inactive, ?doubts⟩
  case all =>
    intro p
    have hon := hmem p true
    have hoff := hmem p false
    have hnone := last_eq_none_iff ts p
    simp only [FilterSettings.side] at hon hoff
    cases hlast : last ts p with
    | none => simp_all
    | some on => cases on <;> simp_all
  case on =>
    intro p hlast
    have hon := hmem p true
    rw [hlast] at hon
    apply hon.mpr rfl
  case off =>
    intro p hlast
    have hoff := hmem p false
    rw [hlast] at hoff
    apply hoff.mpr rfl
  case active =>
    apply filter_applyAll_side s ts _ true
    simp
  case inactive =>
    apply filter_applyAll_side s ts _ false
    simp
  case doubts =>
    intro settings hfilters p hdoubt
    rw [Settings.bothLists_mem_doubts, hfilters] at hdoubt
    apply hpart.apart p hdoubt.1 hdoubt.2

/-- The settings as they are at first, with a pattern of theirs switched on and off again and a new one
switched on twice. -/
theorem applyAll_partition_default :
    FilterSettings.Partitioned {} ∧
      (applyAll {} [⟨true, "java.*"⟩, ⟨true, "a.*"⟩, ⟨false, "java.*"⟩, ⟨true, "a.*"⟩]).Partitioned ∧
      "java.*" ∈
        (applyAll {} [⟨true, "java.*"⟩, ⟨true, "a.*"⟩, ⟨false, "java.*"⟩, ⟨true, "a.*"⟩]).inactive ∧
      (applyAll {} [⟨true, "java.*"⟩, ⟨true, "a.*"⟩, ⟨false, "java.*"⟩, ⟨true, "a.*"⟩]).active =
        ["a.*"] :=
  have h : FilterSettings.Partitioned {} := by decide
  have hall := applyAll_partition h [⟨true, "java.*"⟩, ⟨true, "a.*"⟩, ⟨false, "java.*"⟩, ⟨true, "a.*"⟩]
  ⟨h, hall.1, hall.2.2.2.1 _ (by decide), by decide⟩

end Toggle

end Debugger
