import TaskQuery.Proofs.Search.Algebra
import TaskQuery.Settings.Reader

/-!
# A search filters and then cuts

What a search finds is the list of all tasks that are kept and match, cut after as many as
the limit allows (`mostResults?`).  A task that cannot be judged makes the search fail only
if it is reached, that is if there was still room for a result in front of it
(`FailsAt`).

## Strategy

`collect` is one loop with four ways to go on at a kept task: a fault, a miss, a hit that
fills the last place and a hit with room behind it.  There is a lemma for each
(`collect_cons_of_fault` to `collect_cons_of_hit`), and one induction principle
(`collect_induction`) in which the number of results found so far grows; the two facts about
whole searches, `collect_eq_error_iff` and `eq_of_collect_eq_ok`, go along it.  Searches with two limits are then compared by what
they find, not by how they run.
-/

namespace TaskQuery.SearchService

/-! ## Room for results -/

/-- The most results that a search may have: without bound for the limit -1, else as many as
the limit says, and one for a limit that says none or less. -/
def mostResults? (service : SearchService) : Option ℕ :=
  if service.limit = -1 then none
  else if 1 ≤ service.limit then some service.limit.toNat
  else some 1

/-- After so many results there may be another one. -/
def HasRoom (service : SearchService) (count : ℕ) : Prop :=
  ∀ most ∈ service.mostResults?, count < most

/-- The first elements of a list, up to a number if one is given. -/
def cutTo {α : Type} (most : Option ℕ) (xs : List α) : List α :=
  match most with
  | none => xs
  | some most => xs.take most

variable {service : SearchService} {query : Query} {now : DateTime}

theorem hasRoom_zero (service : SearchService) : service.HasRoom 0 := by
  intro most hmost
  unfold mostResults? at hmost
  split_ifs at hmost with hnone hpositive
  · simp at hmost
  · obtain rfl := Option.some.inj hmost
    omega
  · obtain rfl := Option.some.inj hmost
    exact Nat.one_pos

theorem isEnough_succ_iff (service : SearchService) (found : ℕ) :
    service.isEnough (found + 1) = true ↔ ¬ service.HasRoom (found + 1) := by
  unfold isEnough HasRoom mostResults?
  split_ifs with hnone hpositive
  · simp [hnone]
  · simp [hnone]
  · simp [hnone]
    omega

/-! ## One task -/

/-- Whether a task is judged to match. -/
def hits (service : SearchService) (query : Query) (now : DateTime) (task : Task) : Bool :=
  decide (query.matches task service.snapshot.sections now = .ok true)

section Step

variable {task : Task}

theorem collect_cons_of_fault {fault : MatchFault} (hkeeps : service.keeps task = true)
    (hfault : query.matches task service.snapshot.sections now = .error fault) (found : ℕ)
    (tasks : List Task) :
    service.collect query now found (task :: tasks) = .error fault := by
  rw [collect, if_neg (not_skipped_of_keeps hkeeps), hfault]
  rfl

theorem collect_cons_of_miss (hkeeps : service.keeps task = true)
    (hmiss : query.matches task service.snapshot.sections now = .ok false) (found : ℕ)
    (tasks : List Task) :
    service.collect query now found (task :: tasks) = service.collect query now found tasks := by
  rw [collect, if_neg (not_skipped_of_keeps hkeeps), hmiss]
  rfl

theorem collect_cons_of_last_hit (hkeeps : service.keeps task = true)
    (hhit : query.matches task service.snapshot.sections now = .ok true) {found : ℕ}
    (hfull : ¬ service.HasRoom (found + 1)) (tasks : List Task) :
    service.collect query now found (task :: tasks) = .ok [task] := by
  rw [collect, if_neg (not_skipped_of_keeps hkeeps), hhit,
    (isEnough_succ_iff service found).mpr hfull]
  rfl

theorem collect_cons_of_hit (hkeeps : service.keeps task = true)
    (hhit : query.matches task service.snapshot.sections now = .ok true) {found : ℕ}
    (hroom : service.HasRoom (found + 1)) (tasks : List Task) :
    service.collect query now found (task :: tasks) =
      (service.collect query now (found + 1) tasks).map (task :: ·) := by
  have hmore : service.isEnough (found + 1) = false := by
    rw [Bool.eq_false_iff, ne_eq, isEnough_succ_iff, not_not]
    exact hroom
  rw [collect, if_neg (not_skipped_of_keeps hkeeps), hhit, hmore]
  cases service.collect query now (found + 1) tasks <;> rfl

end Step

/-- Induction along a search that starts with room for a result.  A task is passed over, or it
is kept and at fault, a miss, a hit that fills the last place or a hit with room behind it. -/
@[elab_as_elim]
theorem collect_induction (query : Query) (now : DateTime) {motive : ℕ → List Task → Prop}
    (nil : ∀ found, motive found [])
    (skip : ∀ found task tasks, service.HasRoom found → service.keeps task = false →
      motive found tasks → motive found (task :: tasks))
    (fault : ∀ found task tasks fault, service.HasRoom found → service.keeps task = true →
      query.matches task service.snapshot.sections now = .error fault →
      motive found (task :: tasks))
    (miss : ∀ found task tasks, service.HasRoom found → service.keeps task = true →
      query.matches task service.snapshot.sections now = .ok false →
      motive found tasks → motive found (task :: tasks))
    (last : ∀ found task tasks, service.HasRoom found → service.keeps task = true →
      query.matches task service.snapshot.sections now = .ok true →
      ¬ service.HasRoom (found + 1) → motive found (task :: tasks))
    (hit : ∀ found task tasks, service.HasRoom found → service.keeps task = true →
      query.matches task service.snapshot.sections now = .ok true →
      service.HasRoom (found + 1) → motive (found + 1) tasks → motive found (task :: tasks))
    {found : ℕ} (hroom : service.HasRoom found) (tasks : List Task) : motive found tasks := by
  induction tasks generalizing found with
  | nil => exact nil found
  | cons task tasks ih =>
      cases hkeeps : service.keeps task with
      | false => exact skip found task tasks hroom hkeeps (ih hroom)
      | true =>
          cases hmatches : query.matches task service.snapshot.sections now with
          | error cause => exact fault found task tasks cause hroom hkeeps hmatches
          | ok judged =>
              cases judged with
              | false => exact miss found task tasks hroom hkeeps hmatches (ih hroom)
              | true =>
                  by_cases hmore : service.HasRoom (found + 1)
                  · exact hit found task tasks hroom hkeeps hmatches hmore (ih hmore)
                  · exact last found task tasks hroom hkeeps hmatches hmore

/-! ## Faults -/

/-- The tasks have a kept one that cannot be judged, every kept task in front of it can, and
behind the `found` results from before and the hits in front of it there is still room. -/
def FailsAt (service : SearchService) (query : Query) (now : DateTime) (found : ℕ)
    (tasks : List Task) (fault : MatchFault) : Prop :=
  ∃ before task after, tasks = before ++ task :: after ∧ service.keeps task = true ∧
    query.matches task service.snapshot.sections now = .error fault ∧
    (∀ earlier ∈ before, service.keeps earlier = true →
      ∃ judged, query.matches earlier service.snapshot.sections now = .ok judged) ∧
    service.HasRoom (found + (service.select (service.hits query now) before).length)

theorem HasRoom.mono {fewer more : ℕ} (hroom : service.HasRoom more) (hle : fewer ≤ more) :
    service.HasRoom fewer :=
  fun most hmost => hle.trans_lt (hroom most hmost)

theorem select_cons (holds : Task → Bool) (task : Task) (tasks : List Task) :
    service.select holds (task :: tasks) =
      service.select holds [task] ++ service.select holds tasks :=
  List.filter_append [task] tasks

theorem select_singleton_of_hit {task : Task} (hkeeps : service.keeps task = true)
    (hhit : query.matches task service.snapshot.sections now = .ok true) :
    service.select (service.hits query now) [task] = [task] :=
  List.filter_cons_of_pos (by simp [hkeeps, hits, hhit])

theorem select_singleton_of_not_keeps {holds : Task → Bool} {task : Task}
    (hkeeps : service.keeps task = false) : service.select holds [task] = [] :=
  List.filter_cons_of_neg (by simp [hkeeps])

theorem select_singleton_of_miss {task : Task}
    (hmiss : query.matches task service.snapshot.sections now = .ok false) :
    service.select (service.hits query now) [task] = [] :=
  List.filter_cons_of_neg (by simp [hits, hmiss])

theorem not_failsAt_nil {found : ℕ} {fault : MatchFault} :
    ¬ service.FailsAt query now found [] fault := by
  rintro ⟨before, task, after, hnil, -⟩
  simp at hnil

/-- The first task is at fault, or it is passed over or judged and a later one is at fault. -/
theorem failsAt_cons_iff {found : ℕ} {task : Task} {tasks : List Task} {fault : MatchFault} :
    service.FailsAt query now found (task :: tasks) fault ↔
      (service.keeps task = true ∧ service.HasRoom found ∧
        query.matches task service.snapshot.sections now = .error fault) ∨
      ((service.keeps task = true →
          ∃ judged, query.matches task service.snapshot.sections now = .ok judged) ∧
        service.FailsAt query now
          (found + (service.select (service.hits query now) [task]).length) tasks fault) := by
  have hcount (before : List Task) :
      found + (service.select (service.hits query now) (task :: before)).length =
        found + (service.select (service.hits query now) [task]).length +
          (service.select (service.hits query now) before).length := by
    rw [select_cons, List.length_append, Nat.add_assoc]
  constructor
  · rintro ⟨before, other, after, heq, hkeeps, hfault, hbefore, hroom⟩
    -- the task at fault is the first one exactly if nothing is in front of it
    cases before with
    | nil =>
        obtain ⟨rfl, rfl⟩ := List.cons.inj heq
        exact Or.inl ⟨hkeeps, hroom, hfault⟩
    | cons first before =>
        obtain ⟨rfl, rfl⟩ := List.cons.inj heq
        obtain ⟨hfirst, hbefore⟩ := List.forall_mem_cons.mp hbefore
        rw [hcount] at hroom
        exact Or.inr ⟨hfirst, before, other, after, rfl, hkeeps, hfault, hbefore, hroom⟩
  · rintro (⟨hkeeps, hroom, hfault⟩ |
      ⟨hfirst, before, other, after, rfl, hkeeps, hfault, hbefore, hroom⟩)
    · exact ⟨[], task, tasks, rfl, hkeeps, hfault, List.forall_mem_nil _, hroom⟩
    · rw [← hcount] at hroom
      exact ⟨task :: before, other, after, rfl, hkeeps, hfault,
        List.forall_mem_cons.mpr ⟨hfirst, hbefore⟩, hroom⟩

/-- A search fails exactly if a task that it reaches cannot be judged. -/
theorem collect_eq_error_iff {found : ℕ} (hroom : service.HasRoom found) {tasks : List Task}
    {fault : MatchFault} :
    service.collect query now found tasks = .error fault ↔
      service.FailsAt query now found tasks fault := by
  refine collect_induction query now ?nil ?skip ?fault ?miss ?last ?hit hroom tasks
  case nil =>
    intro found
    exact iff_of_false (by simp [collect]) not_failsAt_nil
  case skip =>
    intro found task tasks _ hkeeps ih
    rw [collect_cons_of_not_keeps hkeeps, ih, failsAt_cons_iff,
      select_singleton_of_not_keeps hkeeps]
    simp [hkeeps]
  case fault =>
    intro found task tasks cause hroom hkeeps hfault
    rw [collect_cons_of_fault hkeeps hfault, failsAt_cons_iff]
    simp [hkeeps, hfault, hroom]
  case miss =>
    intro found task tasks _ hkeeps hmiss ih
    rw [collect_cons_of_miss hkeeps hmiss, ih, failsAt_cons_iff, select_singleton_of_miss hmiss]
    simp [hmiss]
  case last =>
    -- the last place is taken, and no later task is reached
    intro found task tasks _ hkeeps hhit hfull
    rw [collect_cons_of_last_hit hkeeps hhit hfull, failsAt_cons_iff,
      select_singleton_of_hit hkeeps hhit]
    refine iff_of_false (by simp) ?_
    rintro (⟨-, -, hfault⟩ | ⟨-, before, other, after, -, -, -, -, hreached⟩)
    · rw [hhit] at hfault
      cases hfault
    · exact hfull (hreached.mono (Nat.le_add_right _ _))
  case hit =>
    intro found task tasks _ hkeeps hhit hroom ih
    rw [collect_cons_of_hit hkeeps hhit hroom, failsAt_cons_iff,
      select_singleton_of_hit hkeeps hhit, List.length_singleton, ← ih]
    cases service.collect query now (found + 1) tasks <;> simp [Except.map, hhit]

/-! ## Results -/

/-- The places that are left after the `found` results from before. -/
def placesLeft (service : SearchService) (found : ℕ) : Option ℕ :=
  service.mostResults?.map (· - found)

theorem cutTo_placesLeft_cons {found : ℕ} (hroom : service.HasRoom found) (task : Task)
    (tasks : List Task) :
    cutTo (service.placesLeft found) (task :: tasks) =
      task :: cutTo (service.placesLeft (found + 1)) tasks := by
  unfold placesLeft HasRoom at *
  cases hmost : service.mostResults? with
  | none => rfl
  | some most =>
      have hlt : found < most := hroom most hmost
      show (task :: tasks).take (most - found) = task :: tasks.take (most - (found + 1))
      rw [List.take_cons (by omega), Nat.sub_sub]

theorem cutTo_placesLeft_of_not_hasRoom {found : ℕ} (hfull : ¬ service.HasRoom found)
    (tasks : List Task) : cutTo (service.placesLeft found) tasks = [] := by
  unfold placesLeft HasRoom at *
  cases hmost : service.mostResults? with
  | none => simp [hmost] at hfull
  | some most =>
      have hle : most ≤ found := by simpa [hmost] using hfull
      show tasks.take (most - found) = []
      rw [Nat.sub_eq_zero_of_le hle, List.take_zero]

/-- A search that does not fail finds the first of the tasks that are kept and match. -/
theorem eq_of_collect_eq_ok {found : ℕ} (hroom : service.HasRoom found) (tasks : List Task) :
    ∀ results, service.collect query now found tasks = .ok results →
      results = cutTo (service.placesLeft found)
        (service.select (service.hits query now) tasks) := by
  refine collect_induction query now ?nil ?skip ?fault ?miss ?last ?hit hroom tasks
  case nil =>
    intro found results hcollect
    obtain rfl := Except.ok.inj hcollect
    cases service.placesLeft found <;> simp [cutTo, select]
  case skip =>
    intro found task tasks _ hkeeps ih results hcollect
    rw [collect_cons_of_not_keeps hkeeps] at hcollect
    rw [select_cons, select_singleton_of_not_keeps hkeeps]
    exact ih results hcollect
  case fault =>
    intro found task tasks cause _ hkeeps hfault results hcollect
    rw [collect_cons_of_fault hkeeps hfault] at hcollect
    cases hcollect
  case miss =>
    intro found task tasks _ hkeeps hmiss ih results hcollect
    rw [collect_cons_of_miss hkeeps hmiss] at hcollect
    rw [select_cons, select_singleton_of_miss hmiss]
    exact ih results hcollect
  case last =>
    intro found task tasks hroom hkeeps hhit hfull results hcollect
    rw [collect_cons_of_last_hit hkeeps hhit hfull] at hcollect
    rw [select_cons, select_singleton_of_hit hkeeps hhit, List.singleton_append,
      cutTo_placesLeft_cons hroom, cutTo_placesLeft_of_not_hasRoom hfull]
    exact (Except.ok.inj hcollect).symm
  case hit =>
    intro found task tasks hroom hkeeps hhit hmore ih results hcollect
    rw [collect_cons_of_hit hkeeps hhit hmore] at hcollect
    rw [select_cons, select_singleton_of_hit hkeeps hhit, List.singleton_append,
      cutTo_placesLeft_cons hroom]
    cases hrest : service.collect query now (found + 1) tasks with
    | error cause =>
        rw [hrest] at hcollect
        cases hcollect
    | ok others =>
        rw [hrest] at hcollect
        obtain rfl := Except.ok.inj hcollect
        rw [← ih others hrest]

/-! ## Whole searches -/

variable {last : Option String} {text : String}

theorem results_eq_error_iff {fault : MatchFault} :
    (service.remembering last).results text now = .error fault ↔
      service.FailsAt (Query.parse text) now 0 service.snapshot.tasks fault := by
  rw [results, (remembers_remembering service last).search_eq]
  exact collect_eq_error_iff (hasRoom_zero _)

theorem eq_of_results_eq_ok {found : List Task}
    (hfound : (service.remembering last).results text now = .ok found) :
    found = cutTo service.mostResults?
      (service.select (service.hits (Query.parse text) now) service.snapshot.tasks) := by
  rw [results, (remembers_remembering service last).search_eq] at hfound
  have hcut := eq_of_collect_eq_ok (hasRoom_zero _) _ _ hfound
  have hleft : service.placesLeft 0 = service.mostResults? := by
    simp [placesLeft]
  rw [← hleft]
  exact hcut

/-- A search that does not fail has results. -/
theorem results_eq_ok_iff_cut {found : List Task} :
    (service.remembering last).results text now = .ok found ↔
      (∀ fault, ¬ service.FailsAt (Query.parse text) now 0 service.snapshot.tasks fault) ∧
        found = cutTo service.mostResults?
          (service.select (service.hits (Query.parse text) now) service.snapshot.tasks) := by
  constructor
  · intro hfound
    refine ⟨fun fault hfails => ?_, eq_of_results_eq_ok hfound⟩
    rw [results_eq_error_iff.mpr hfails] at hfound
    cases hfound
  · rintro ⟨hnever, rfl⟩
    cases hresults : (service.remembering last).results text now with
    | error fault => exact absurd (results_eq_error_iff.mp hresults) (hnever fault)
    | ok found => rw [eq_of_results_eq_ok hresults]

/-! ## Two limits -/

/-- The service with another limit. -/
def withLimit (service : SearchService) (limit : ℤ) : SearchService :=
  { service with limit }

theorem mostResults?_withLimit {limit : ℕ} (hpositive : 1 ≤ limit) :
    (service.withLimit limit).mostResults? = some limit := by
  have hlimit : (service.withLimit limit).limit = limit := rfl
  unfold mostResults?
  rw [hlimit, if_neg (by omega), if_pos (by omega), Int.toNat_natCast]

/-- With less room fewer tasks are reached. -/
theorem FailsAt.of_le {fewer more : ℕ} (hfewer : 1 ≤ fewer) (hle : fewer ≤ more) {found : ℕ}
    {tasks : List Task} {fault : MatchFault}
    (hfails : (service.withLimit fewer).FailsAt query now found tasks fault) :
    (service.withLimit more).FailsAt query now found tasks fault := by
  obtain ⟨before, task, after, heq, hkeeps, hfault, hbefore, hroom⟩ := hfails
  refine ⟨before, task, after, heq, hkeeps, hfault, hbefore, fun most hmost => ?_⟩
  rw [mostResults?_withLimit (hfewer.trans hle)] at hmost
  obtain rfl := Option.some.inj hmost
  exact (hroom fewer (mostResults?_withLimit hfewer)).trans_le hle

/-- What a search finds with a limit starts with what it finds with a smaller one. -/
theorem results_withLimit_of_le {fewer more : ℕ} (hfewer : 1 ≤ fewer) (hle : fewer ≤ more)
    {found : List Task}
    (hfound : ((service.withLimit more).remembering last).results text now = .ok found) :
    ((service.withLimit fewer).remembering last).results text now = .ok (found.take fewer) := by
  rw [results_eq_ok_iff_cut, mostResults?_withLimit (hfewer.trans hle)] at hfound
  rw [results_eq_ok_iff_cut, mostResults?_withLimit hfewer]
  obtain ⟨hnever, rfl⟩ := hfound
  refine ⟨fun fault hfails => hnever fault (hfails.of_le hfewer hle), ?_⟩
  show (List.take more _).take fewer = List.take fewer _
  rw [List.take_take, Nat.min_eq_left hle]
  rfl

/-- **A search filters and then cuts.**  Whatever the service remembers, its search for a text
fails with the fault of the first task that it keeps and cannot judge, unless the limit is
used up by matching tasks in front of it, and otherwise finds the tasks that it keeps and
that match, in the order of the snapshot, cut after as many as the limit allows.  So with a
smaller limit the search has an answer where it has one with a greater limit, and finds the
first of the same tasks.  The limits that stand for one result are not allowed in
settings. -/
theorem results_filter_cut (service : SearchService) (last : Option String) (text : String)
    (now : DateTime) :
    (∀ fault, (service.remembering last).results text now = .error fault ↔
        service.FailsAt (Query.parse text) now 0 service.snapshot.tasks fault) ∧
      (∀ found, (service.remembering last).results text now = .ok found ↔
        (∀ fault, ¬ service.FailsAt (Query.parse text) now 0 service.snapshot.tasks fault) ∧
          found = cutTo service.mostResults?
            (service.select (service.hits (Query.parse text) now) service.snapshot.tasks)) ∧
      (∀ fewer more : ℕ, 1 ≤ fewer → fewer ≤ more → ∀ found,
        ((service.withLimit more).remembering last).results text now = .ok found →
          ∃ first, ((service.withLimit fewer).remembering last).results text now = .ok first ∧
            first <+: found ∧ first.length = min fewer found.length) ∧
      (∀ settings : SearchSettings, settings.limit ≠ -1 ∧ settings.limit < 1 ↔
        SettingsReader.checkSearch settings = .error .limitOutOfRange) := by
  refine ⟨fun fault => results_eq_error_iff, fun found => results_eq_ok_iff_cut,
    fun fewer more hfewer hle found hfound => ?_, fun settings => ?_⟩
  · exact ⟨_, results_withLimit_of_le hfewer hle hfound, List.take_prefix fewer found,
      List.length_take⟩
  · unfold SettingsReader.checkSearch
    split_ifs with hlimit
    · exact iff_of_true (by omega) rfl
    · exact iff_of_false (by omega) (by simp)

/-- Half an hour before the end of the year 9999 a due date further east cannot be compared
with today.  Behind two tasks that are due today such a task matters to a search without a
limit, but not to one for two tasks, nor to one for a single task. -/
theorem exists_results_prefix :
    ∃ (service : SearchService) (now : DateTime) (first second : Task),
      service.results "due:today" now = .error .dateOutOfRange ∧
        ((service.withLimit 2).remembering none).results "due:today" now =
          .ok [first, second] ∧
        ((service.withLimit 1).remembering none).results "due:today" now = .ok [first] := by
  let lastDay : Date := ⟨9999, 12, 31, by decide⟩
  let east : Zone := { offset := ⟨3600, by decide⟩ }
  let first : Task := { id := "1", title := "Pay rent", dueDate := some (.startOf lastDay) }
  let second : Task := { id := "2", title := "Call Ann", dueDate := some (.startOf lastDay) }
  let third : Task := {
    id := "3", title := "Buy tea", dueDate := some { DateTime.startOf lastDay with zone := east } }
  let service : SearchService :=
    { snapshot := { tasks := [first, { id := "0", title := "Sleep" }, second, third] } }
  let now : DateTime :=
    { date := lastDay, time := ⟨23, 30, 0, 0, by decide⟩, zone := some { offset := .zero } }
  have hunlimited : service.results "due:today" now = .error .dateOutOfRange := by
    decide +kernel
  have hfound : ((service.withLimit (2 : ℕ)).remembering none).results "due:today" now =
      .ok [first, second] := by
    decide +kernel
  obtain ⟨found, hfewer, hprefix, hlength⟩ :=
    (results_filter_cut service none "due:today" now).2.2.1 1 2 (by decide) (by decide) _ hfound
  have hfirst : found = [first] := by
    rw [List.prefix_iff_eq_take.mp hprefix, hlength]
    rfl
  exact ⟨service, now, first, second, hunlimited, hfound, hfirst ▸ hfewer⟩

end TaskQuery.SearchService
