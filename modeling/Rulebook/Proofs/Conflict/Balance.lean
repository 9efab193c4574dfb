/-
**The counts of a report balance.**

A summary counts the conflicts of a report three times over: by grade, by kind, and by whether they
are settled.  It is made in one pass, which puts every conflict into all three counts at once, so
that after any number of conflicts the counts are those of the conflicts seen so far.  Each of the
first two lists what occurs, with the number of times it does, and a conflict is either settled or
not; therefore all three come to the number of conflicts.  What the counts of a list have to be does
not depend on its order, and for two lists together they have to be the sums of the counts of each.
As there is only one summary with the counts of a list, this is how it is with the summaries that
are made.

In the report of a scan a conflict is settled for one of its two rules, and then the id of this rule
is given, or it is left to the user, and then none is.  This is seen at the one place where rulings
are put in words.

Main definitions:

* `Rulebook.Conflict.Tallies` — a map of counts is right;
* `Rulebook.Conflict.Summary.Counts` — the counts of a summary are those of a list of conflicts;
* `Rulebook.Conflict.Summary.add` — two summaries together;
* `Rulebook.Conflict.Summary.Balances` — a summary is right for a list of conflicts;
* `Rulebook.Conflict.Entry.Accountable` — a conflict is settled for one of its rules, or left open.

Main results:

* `Rulebook.Conflict.Tallies.update`, `Rulebook.Conflict.Tallies.sum_eq` — counts stay right when
  something is counted, and come to the number of things counted;
* `Rulebook.Conflict.Summary.Counts.count`, `Rulebook.Conflict.Summary.Counts.foldl` — the counts of
  a summary stay right when a conflict is counted, and so in any run;
* `Rulebook.Conflict.Summary.Balances.eq_of_perm`, `Rulebook.Conflict.Summary.Balances.add` — there
  is only one summary that is right, and two together are right for two lists together;
* `Rulebook.Conflict.accountable_resolve` — what every ruling says;
* `Rulebook.Conflict.summary_balances` — **the counts balance**, and those of a report agree with
  its conflicts.
-/

import Mathlib.Algebra.BigOperators.Group.List.Lemmas
import Mathlib.Algebra.GroupWithZero.Nat
import Rulebook.Proofs.Conflict.Grounds
import Rulebook.Proofs.SortedMap

set_option autoImplicit false

namespace Rulebook

namespace Conflict

/-! ### Counts -/

section Counts

variable {κ : Type} [Ord κ] [Std.TransOrd κ] [Std.LawfulEqOrd κ] [DecidableEq κ]
  {counts more : SortedMap κ Nat} {found others : List κ}

/-- A map says of everything that occurs in a list how often it does, and has nothing else. -/
def Tallies (counts : SortedMap κ Nat) (found : List κ) : Prop :=
  ∀ a n, counts.get? a = some n ↔ n = found.count a ∧ 0 < n

/-- How often something occurs, according to a map of counts. -/
def countIn (counts : SortedMap κ Nat) (a : κ) : Nat := (counts.get? a).getD 0

/-- Two maps of counts together: every count of the second one is added to the first one. -/
def addCounts (counts more : SortedMap κ Nat) : SortedMap κ Nat :=
  more.entries.foldl (fun m entry => m.update entry.1 0 (· + entry.2)) counts

/-- What a map of counts has counted. -/
def counted (counts : SortedMap κ Nat) : List κ :=
  counts.entries.flatMap fun entry => List.replicate entry.2 entry.1

omit [Std.TransOrd κ] [Std.LawfulEqOrd κ] in
theorem tallies_empty : Tallies (.empty : SortedMap κ Nat) [] := by
  intro a n
  simp only [SortedMap.get?_empty, List.count_nil, reduceCtorEq, false_iff]
  omega

omit [Std.TransOrd κ] [Std.LawfulEqOrd κ] in
theorem tallies_iff_keeps : Tallies counts found ↔ counts.Keeps 0 found.count := by
  simp only [Tallies, SortedMap.Keeps, Nat.pos_iff_ne_zero]

omit [Std.TransOrd κ] [Std.LawfulEqOrd κ] in
/-- Counts that are right tell of everything how often it occurs. -/
theorem Tallies.countIn_eq (h : Tallies counts found) (a : κ) :
    countIn counts a = found.count a :=
  (tallies_iff_keeps.mp h).getD_get? a

omit [Std.TransOrd κ] [Std.LawfulEqOrd κ] in
theorem Tallies.of_perm (h : Tallies counts found) (hperm : found.Perm others) :
    Tallies counts others := by
  intro a n
  rw [h a n, hperm.count_eq]

/-- There is only one map with the counts of a list, in any order. -/
theorem Tallies.eq_of_perm (h : Tallies counts found) (h' : Tallies more others)
    (hperm : found.Perm others) : counts = more := by
  refine SortedMap.ext_get? fun a => Option.ext fun n => ?_
  rw [(h.of_perm hperm) a n, h' a n]

/-- **Counts stay right** when something is counted, once or several times. -/
theorem Tallies.update (h : Tallies counts found) (a : κ) {n : Nat} (hn : 0 < n) :
    Tallies (counts.update a 0 (· + n)) (found ++ List.replicate n a) := by
  have hcount : (found ++ List.replicate n a).count =
      fun b => if b = a then found.count a + n else found.count b := by
    funext b
    rw [List.count_append, List.count_replicate]
    by_cases hb : b = a
    · simp [hb]
    · simp [hb, Ne.symm hb]
  rw [tallies_iff_keeps] at h ⊢
  rw [hcount]
  exact h.update a (Nat.ne_of_gt (Nat.add_pos_right _ hn))

theorem Tallies.foldl_update (h : Tallies counts found) {entries : List (κ × Nat)}
    (hpos : ∀ entry ∈ entries, 0 < entry.2) :
    Tallies (entries.foldl (fun m entry => m.update entry.1 0 (· + entry.2)) counts)
      (found ++ entries.flatMap fun entry => List.replicate entry.2 entry.1) := by
  induction entries generalizing counts found with
  | nil => simpa using h
  | cons entry rest ih =>
      obtain ⟨hentry, hrest⟩ := List.forall_mem_cons.mp hpos
      simpa using ih (h.update entry.1 hentry) hrest

theorem count_counted (counts : SortedMap κ Nat) (a : κ) :
    (counted counts).count a = countIn counts a := by
  have hother : ∀ entry ∈ counts.entries, entry.1 ≠ a →
      (List.replicate entry.2 entry.1).filter (· == a) = [] := by
    intro entry _ hne
    refine List.filter_eq_nil_iff.mpr fun b hb => ?_
    rw [(List.mem_replicate.mp hb).2]
    simpa using hne
  rw [List.count_eq_length_filter, counted, List.filter_flatMap,
    SortedMap.flatMap_entries counts a _ hother, countIn]
  cases counts.get? a <;> simp

/-- What was counted according to counts that are right is what there is, in another order. -/
theorem Tallies.perm (h : Tallies counts found) : (counted counts).Perm found := by
  rw [List.perm_iff_count]
  intro a
  rw [count_counted, h.countIn_eq]

/-- **Counts that are right come to the number of things counted.** -/
theorem Tallies.sum_eq (h : Tallies counts found) : counts.values.sum = found.length := by
  rw [← h.perm.length_eq, counted, List.length_flatMap, SortedMap.values]
  simp

/-- **The counts of two lists add up.** -/
theorem Tallies.add (h : Tallies counts found) (h' : Tallies more others) :
    Tallies (addCounts counts more) (found ++ others) := by
  have hpos : ∀ entry ∈ more.entries, 0 < entry.2 := by
    intro entry hentry
    exact ((h' entry.1 entry.2).mp ((more.mem_entries_iff _ _).mp hentry)).2
  exact (h.foldl_update hpos).of_perm (h'.perm.append_left found)

end Counts

/-! ### Summaries -/

namespace Summary

/-- The counts of a summary are those of a list of conflicts. -/
structure Counts (s : Summary) (seen : List Entry) : Prop where
  /-- The grades that occur are counted. -/
  grades : Tallies s.byGrade (seen.map (·.conflict.grade))
  /-- The kinds that occur are counted. -/
  kinds : Tallies s.byKind (seen.map (·.conflict.kind))
  /-- The conflicts that are settled are counted. -/
  resolved_eq : s.resolved = seen.countP (·.resolution.isResolved)
  /-- So are those that are not. -/
  unresolved_eq : s.unresolved = seen.countP fun entry => !entry.resolution.isResolved

/-- A summary is right for a list of conflicts, and its counts come to the same. -/
structure Balances (s : Summary) (entries : List Entry) : Prop extends s.Counts entries where
  /-- The total is the number of conflicts. -/
  total_eq : s.total = entries.length
  /-- The counts of the grades come to the total. -/
  sum_grades : s.byGrade.values.sum = s.total
  /-- The counts of the kinds come to the total. -/
  sum_kinds : s.byKind.values.sum = s.total
  /-- So do the conflicts that are settled and those that are not. -/
  resolved_add_unresolved : s.resolved + s.unresolved = s.total

/-- Two summaries together. -/
def add (s s' : Summary) : Summary where
  total := s.total + s'.total
  byGrade := addCounts s.byGrade s'.byGrade
  byKind := addCounts s.byKind s'.byKind
  resolved := s.resolved + s'.resolved
  unresolved := s.unresolved + s'.unresolved

variable {s s' : Summary} {seen entries entries' : List Entry}

theorem counts_start (total : Nat) : (start total).Counts [] :=
  ⟨tallies_empty, tallies_empty, rfl, rfl⟩

/-- **The counts stay right when a conflict is counted.** -/
theorem Counts.count (h : s.Counts seen) (entry : Entry) :
    (s.count entry).Counts (seen ++ [entry]) := by
  have hgrades : Tallies (s.byGrade.update entry.conflict.grade 0 (· + 1))
      ((seen ++ [entry]).map (·.conflict.grade)) := by
    rw [List.map_append]
    exact h.grades.update _ Nat.one_pos
  have hkinds : Tallies (s.byKind.update entry.conflict.kind 0 (· + 1))
      ((seen ++ [entry]).map (·.conflict.kind)) := by
    rw [List.map_append]
    exact h.kinds.update _ Nat.one_pos
  rw [Summary.count]
  cases hresolved : entry.resolution.isResolved <;>
    exact ⟨hgrades, hkinds, by simp [h.resolved_eq, hresolved],
      by simp [h.unresolved_eq, hresolved]⟩

/-- **The counts stay right in any run.** -/
theorem Counts.foldl (h : s.Counts seen) (entries : List Entry) :
    (entries.foldl Summary.count s).Counts (seen ++ entries) := by
  induction entries generalizing s seen with
  | nil => simpa using h
  | cons entry rest ih => simpa using ih (h.count entry)

theorem total_count (s : Summary) (entry : Entry) : (s.count entry).total = s.total := by
  rw [Summary.count]
  split <;> rfl

theorem total_foldl (s : Summary) (entries : List Entry) :
    (entries.foldl Summary.count s).total = s.total := by
  induction entries generalizing s with
  | nil => rfl
  | cons entry rest ih => rw [List.foldl_cons, ih, total_count]

/-- Counts that are right come to the number of conflicts. -/
theorem Counts.balances (h : s.Counts entries) (htotal : s.total = entries.length) :
    s.Balances entries := by
  refine ⟨h, htotal, ?_, ?_, ?_⟩
  · rw [h.grades.sum_eq, List.length_map, htotal]
  · rw [h.kinds.sum_eq, List.length_map, htotal]
  · have hparts := entries.length_eq_countP_add_countP (·.resolution.isResolved)
    rw [h.resolved_eq, h.unresolved_eq, htotal, hparts]
    simp

/-- **There is only one summary that is right for a list**, in any order. -/
theorem Balances.eq_of_perm (h : s.Balances entries) (h' : s'.Balances entries')
    (hperm : entries.Perm entries') : s = s' := by
  have htotal : s.total = s'.total := by rw [h.total_eq, h'.total_eq, hperm.length_eq]
  have hgrades : s.byGrade = s'.byGrade := h.grades.eq_of_perm h'.grades (hperm.map _)
  have hkinds : s.byKind = s'.byKind := h.kinds.eq_of_perm h'.kinds (hperm.map _)
  have hresolved : s.resolved = s'.resolved := by
    rw [h.resolved_eq, h'.resolved_eq, hperm.countP_eq]
  have hunresolved : s.unresolved = s'.unresolved := by
    rw [h.unresolved_eq, h'.unresolved_eq, hperm.countP_eq]
  cases s
  cases s'
  simp_all

/-- **Two summaries together are right for two lists together.** -/
theorem Balances.add (h : s.Balances entries) (h' : s'.Balances entries') :
    (s.add s').Balances (entries ++ entries') := by
  refine Counts.balances ⟨?_, ?_, ?_, ?_⟩ ?_
  · rw [List.map_append]
    exact h.grades.add h'.grades
  · rw [List.map_append]
    exact h.kinds.add h'.kinds
  · rw [List.countP_append, ← h.resolved_eq, ← h'.resolved_eq, Summary.add]
  · rw [List.countP_append, ← h.unresolved_eq, ← h'.unresolved_eq, Summary.add]
  · rw [List.length_append, ← h.total_eq, ← h'.total_eq, Summary.add]

end Summary

theorem balances_summarize (entries : List Entry) : (summarize entries).Balances entries := by
  have hcounts : (summarize entries).Counts entries :=
    (Summary.counts_start entries.length).foldl entries
  exact hcounts.balances (Summary.total_foldl _ entries)

theorem summarize_eq_of_perm {entries entries' : List Entry} (h : entries.Perm entries') :
    summarize entries = summarize entries' :=
  (balances_summarize entries).eq_of_perm (balances_summarize entries') h

theorem summarize_append (entries more : List Entry) :
    summarize (entries ++ more) = (summarize entries).add (summarize more) :=
  (balances_summarize (entries ++ more)).eq_of_perm
    ((balances_summarize entries).add (balances_summarize more)) (.refl _)

/-! ### Rulings -/

/-- A conflict is settled for one of its two rules, which is named, or it is left open, and then no
rule is. -/
structure Entry.Accountable (entry : Entry) : Prop where
  /-- It is settled exactly if a rule is named. -/
  isResolved_eq : entry.resolution.isResolved = entry.resolution.appliedRule.isSome
  /-- The rule that is named is one of the two. -/
  applied : ∀ id, entry.resolution.appliedRule = some id →
    id = entry.conflict.first.id ∨ id = entry.conflict.second.id
  /-- The two are not joined. -/
  not_merged : entry.resolution.outcome ≠ .merge

/-- **Every ruling names the rule that it is for.** -/
theorem accountable_resolve (config : Configuration) (categories : List Category) (c : Conflict) :
    (Entry.mk c (c.resolve config categories)).Accountable := by
  rw [resolve]
  cases ruling? config categories c.first c.second with
  | none =>
      refine ⟨rfl, fun id h => ?_, ?_⟩
      · cases h
      · exact Outcome.noConfusion
  | some ruling =>
      obtain ⟨side, ground⟩ := ruling
      cases side with
      | first => exact ⟨rfl, fun id h => Or.inl (Option.some.inj h).symm, Outcome.noConfusion⟩
      | second => exact ⟨rfl, fun id h => Or.inr (Option.some.inj h).symm, Outcome.noConfusion⟩

theorem accountable_of_mem_scan {registry : Registry} {config : Configuration}
    {os : Option Overrides} {asked : Option (List Category)} {entry : Entry}
    (h : entry ∈ (scan registry config os asked).entries) : entry.Accountable := by
  obtain ⟨-, hresolution⟩ := mem_entries_scan.mp h
  obtain ⟨c, resolution⟩ := entry
  obtain rfl : resolution = c.resolve config (scanned config asked) := hresolution
  exact accountable_resolve config _ c

/-! ### The counts -/

/-- **The counts balance.**  The summary of a list of conflicts counts each of them once by grade,
once by kind, and once as settled or not, and each count lists what occurs and nothing else; it is
the same for any order of the list, and the summary of two lists joined is the sum of theirs.  In
the report of a scan, the conflicts that count as settled are those for which a rule is named; it is
one of the two rules in conflict, and these are never joined. -/
theorem summary_balances :
    (∀ entries : List Entry, (summarize entries).Balances entries) ∧
    (∀ entries entries' : List Entry, entries.Perm entries' →
      summarize entries = summarize entries') ∧
    (∀ entries more : List Entry,
      summarize (entries ++ more) = (summarize entries).add (summarize more)) ∧
    ∀ (registry : Registry) (config : Configuration) (os : Option Overrides)
      (asked : Option (List Category)),
      let report := scan registry config os asked
      report.summary.Balances report.entries ∧
      report.summary.resolved =
        report.entries.countP (fun entry => entry.resolution.appliedRule.isSome) ∧
      ∀ entry ∈ report.entries, entry.Accountable := by
  refine ⟨balances_summarize, fun _ _ => summarize_eq_of_perm, summarize_append, ?_⟩
  intro registry config os asked report
  have haccountable : ∀ entry ∈ report.entries, entry.Accountable :=
    fun _ => accountable_of_mem_scan
  have hbalances : report.summary.Balances report.entries := balances_summarize report.entries
  refine ⟨hbalances, ?_, haccountable⟩
  refine hbalances.resolved_eq.trans (List.countP_congr fun entry hentry => ?_)
  rw [(haccountable entry hentry).isResolved_eq]

/-- Three rules about the heap: the first two are for kernels and forbid and allow it, and the third
one, for all projects, allows it as well. -/
def ledgerRules : List Rule :=
  let rule (id description : String) (category : Category) : Rule :=
    ⟨id, id, description, "", [category], .error, true, .none, none, none⟩
  [rule "kernel-memory-heap" "Forbid the heap." .kernel,
    rule "kernel-memory-pools" "Allow pools on the heap." .kernel,
    rule "universal-memory" "Allow the heap." .universal]

/-- Of the two conflicts of the rules one is settled, and the counts are the same for the conflicts
in the opposite order. -/
theorem ledgerRules_balance :
    let report := scan (.ofRules ledgerRules) .standard none (some [.kernel])
    (report.entries.Perm report.entries.reverse ∧
      summarize report.entries = summarize report.entries.reverse) ∧
    (∃ entry ∈ report.entries, entry.Accountable ∧
      entry.resolution.appliedRule = some "kernel-memory-heap") ∧
    (report.summary.resolved, report.summary.unresolved) = (1, 1) := by
  intro report
  have hperm : report.entries.Perm report.entries.reverse :=
    (List.reverse_perm report.entries).symm
  obtain ⟨-, horder, -, hscan⟩ := summary_balances
  obtain ⟨-, -, haccountable⟩ := hscan (.ofRules ledgerRules) .standard none (some [.kernel])
  have happlied : ∃ entry ∈ report.entries,
      entry.resolution.appliedRule = some "kernel-memory-heap" := by
    decide +kernel
  obtain ⟨entry, hentry, happlied⟩ := happlied
  refine ⟨⟨hperm, horder _ _ hperm⟩, ⟨entry, hentry, haccountable entry hentry, happlied⟩, ?_⟩
  decide +kernel

end Conflict

end Rulebook
