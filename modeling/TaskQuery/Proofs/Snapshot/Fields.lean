import TaskQuery.Proofs.Snapshot.RoundTrip
import TaskQuery.Proofs.Value.Field

/-!
# What the fields of records stand for

A field of a record may be missing, may be null, or has a value of one of several types that
stands for what the field is about.  For each field this file says which values stand for
what, and which fault is reported of a value that stands for nothing.

A field has one check, which holds if what is under its key stands for anything.  So that a
reader is decided by the check of its field is a case distinction over the values, once for
each field (`decided_readId` to `decided_readSectionId`).  The message about a fault has the
place of the check in it, unless the fault comes from a number that cannot be converted or a
day after the last one (`Located`).
-/

namespace TaskQuery

open Text

/-! ## What values stand for -/

/-- A text: any value that can be turned into it. -/
def StandsForText (value : Value) (text : String) : Prop :=
  value.toText? = some text

/-- An identifier: the text of a value that is neither null nor a truth value, if it is not
blank. -/
def StandsForId (value : Option Value) (id : String) : Prop :=
  ∃ given, value = some given ∧ given ≠ .null ∧ (∀ truth, given ≠ .scalar (.bool truth)) ∧
    StandsForText given id ∧ (trim id.toList).isEmpty = false

/-- A priority: by the number of a level or its name, with none for null or no value. -/
inductive StandsForPriority : Option Value → Priority → Prop
  | missing : StandsForPriority none .none
  | null : StandsForPriority (some .null) .none
  | level (priority : Priority) :
      StandsForPriority (some (.scalar (.int priority.level))) priority
  | name (text : String) (priority : Priority)
      (hname : String.ofList (upper (trim text.toList)) = priority.capitalName) :
      StandsForPriority (some (.string text)) priority

/-- A description: a string, with an empty one for a void value or none. -/
inductive StandsForDescription : Option Value → String → Prop
  | missing : StandsForDescription none ""
  | void (value : Value) (hvoid : value.isVoid = true) : StandsForDescription (some value) ""
  | text (text : String) : StandsForDescription (some (.string text)) text

/-- An amount: a number that is not too large for a floating-point number. -/
inductive StandsForAmount : Value → Binary64 → Prop
  | float (amount : Binary64) : StandsForAmount (.scalar (.float amount)) amount
  | whole (number : Int) (hfinite : ∀ negative, Binary64.ofInt number ≠ .infinite negative) :
      StandsForAmount (.scalar (.int number)) (.ofInt number)

/-- A due date: a moment, a day for its start, or ISO 8601 text that is read as a moment. -/
inductive StandsForDueDate (readMoment : MomentReader) : Value → DateTime → Prop
  | moment (moment : DateTime) : StandsForDueDate readMoment (.scalar (.dateTime moment)) moment
  | day (date : Date) : StandsForDueDate readMoment (.scalar (.date date)) (.startOf date)
  | text (text : String) (moment : DateTime)
      (hread : readMoment (trim text.toList) = .ok moment) :
      StandsForDueDate readMoment (.string text) moment

/-! ## The checks of the fields -/

/-- A fault of a number that cannot be converted or of a day that does not exist, which is
reported without its place. -/
def SnapshotFault.Unplaced (fault : SnapshotFault) : Prop :=
  fault = .longNumber ∨ fault = .amountTooLarge ∨ fault = .dueDateOutOfRange

namespace SnapshotReader

/-- What is under the key stands for something. -/
def fieldCheck {α : Type} (place key : String) (Means : α → Prop) (fault : SnapshotFault) :
    Check SnapshotFault :=
  ⟨Value.entryPlace place key, ∃ content, Means content, fault⟩

/-- The fault of a value that is no identifier. -/
def idFault (place : String) (value : Value) : SnapshotFault :=
  if value.hasLong then .longNumber else .missingId place

/-- The fault of a value that is no priority. -/
def priorityFault : Value → PriorityFault
  | .scalar (.int number) => if Number.isLong number then .longNumber else .noLevel number
  | value => if value.hasLong then .longNumber else .unknown value.shown

/-- The fault of a value that is no amount. -/
def amountFault (place : String) : Value → SnapshotFault
  | .scalar (.int _) => .amountTooLarge
  | _ => .type ⟨place, .number⟩

/-- The fault of a value that is no due date. -/
def dueDateFault (readMoment : MomentReader) (place : String) : Value → SnapshotFault
  | .scalar (.string text) =>
    if readMoment (trim text.toList) = .error .outOfRange then .dueDateOutOfRange
    else .dueDate place text
  | _ => .type ⟨place, .isoString⟩

section Checks

variable (entries : Entries) (place : String)

/-- There is an identifier. -/
def idCheck : Check SnapshotFault :=
  fieldCheck place "id" (StandsForId (entries.get? "id"))
    (idFault place ((entries.get? "id").getD .null))

/-- The title is a string, if there is one. -/
def titleCheck : Check SnapshotFault :=
  (Value.stringCheck (Value.entryPlace place "title")
    ((entries.get? "title").getD (.string ""))).mapFault .type

/-- The place in the order is a whole number, if there is one. -/
def sortOrderCheck : Check SnapshotFault :=
  (Value.intCheck (Value.entryPlace place "sort_order")
    ((entries.get? "sort_order").getD (.scalar (.int 0)))).mapFault .type

/-- The priority is one of the levels. -/
def priorityCheck : Check SnapshotFault :=
  fieldCheck place "priority" (StandsForPriority (entries.get? "priority"))
    (.priority place (priorityFault ((entries.get? "priority").getD .null)))

/-- The description is a string or void. -/
def descriptionCheck : Check SnapshotFault :=
  fieldCheck place "description" (StandsForDescription (entries.get? "description"))
    (.type ⟨Value.entryPlace place "description", .string⟩)

/-- The text under a key is a string, if there is one. -/
def textCheck (key : String) : Check SnapshotFault :=
  fieldCheck place key (Option.Rel (· = .string ·) (entries.present? key))
    (.type ⟨Value.entryPlace place key, .string⟩)

/-- The amount is a number that is not too large, if there is one. -/
def amountCheck : Check SnapshotFault :=
  fieldCheck place "amount" (Option.Rel StandsForAmount (entries.present? "amount"))
    (amountFault (Value.entryPlace place "amount") ((entries.get? "amount").getD .null))

/-- The completion mark is a truth value, if there is one. -/
def completedCheck : Check SnapshotFault :=
  (Value.boolCheck (Value.entryPlace place "completed")
    ((entries.get? "completed").getD (.scalar (.bool false)))).mapFault .type

/-- The due date is a moment, if there is one. -/
def dueDateCheck (readMoment : MomentReader) : Check SnapshotFault :=
  fieldCheck place "due_date"
    (Option.Rel (StandsForDueDate readMoment) (entries.present? "due_date"))
    (dueDateFault readMoment (Value.entryPlace place "due_date")
      ((entries.get? "due_date").getD .null))

/-- The section identifier can be turned into text, if there is one. -/
def sectionIdCheck : Check SnapshotFault :=
  fieldCheck place "section_id" (Option.Rel StandsForText (entries.present? "section_id"))
    .longNumber

end Checks

/-! ## The readers of the fields -/

theorem typed_eq_mapError {α : Type} (outcome : Except TypeFault α) :
    typed outcome = outcome.mapError SnapshotFault.type := by
  cases outcome <;> rfl

variable (entries : Entries) (place : String)

/-- A check of a type decides the same as a check of a snapshot. -/
theorem decided_typed {α : Type} {outcome : Except TypeFault α} {check : Check TypeFault}
    {Result : α → Prop} (hdecided : Decided outcome [check] Result) :
    Decided (typed outcome) [check.mapFault .type] Result := by
  rw [typed_eq_mapError]
  exact hdecided.mapError SnapshotFault.type

theorem standsForId_some_iff {value : Value} (hnull : value ≠ .null)
    (hbool : ∀ truth, value ≠ .scalar (.bool truth)) (id : String) :
    StandsForId (some value) id ↔
      value.toText? = some id ∧ (trim id.toList).isEmpty = false := by
  constructor
  · rintro ⟨given, hgiven, -, -, hid⟩
    cases hgiven
    exact hid
  · intro hid
    exact ⟨value, rfl, hnull, hbool, hid⟩

theorem decided_readId : Decided (readId entries place)
    [idCheck entries place] (StandsForId (entries.get? "id")) := by
  unfold readId idCheck
  split
  · rename_i hmissing
    rcases Entries.present?_eq_none_iff.mp hmissing with hget | hget
    · rw [hget]
      refine .ofError rfl ?_
      rintro id ⟨value, ⟨⟩, -⟩
    · rw [hget]
      refine .ofError rfl ?_
      rintro id ⟨value, ⟨⟩, hnull, -⟩
      exact hnull rfl
  · rename_i truth hbool
    rw [(Entries.present?_eq_some_iff.mp hbool).1]
    refine .ofError rfl ?_
    rintro id ⟨value, ⟨⟩, -, hne, -⟩
    exact hne truth rfl
  · rename_i value hne hpresent
    obtain ⟨hget, hnull⟩ := Entries.present?_eq_some_iff.mp hpresent
    have hiff := standsForId_some_iff hnull hne
    rw [hget]
    unfold idText
    by_cases hlong : value.hasLong = true
    · have htext : value.toText? = none := if_pos hlong
      rw [htext]
      refine .ofError (if_pos hlong) fun id hid => ?_
      rw [hiff, htext] at hid
      cases hid.1
    · have htext : value.toText? = some value.toText := if_neg hlong
      simp only [htext, Option.some.injEq] at hiff
      rw [htext]
      by_cases hblank : (trim value.toText.toList).isEmpty = true
      · show Decided (if _ then _ else _) _ _
        rw [if_pos hblank]
        refine .ofError (if_neg hlong) fun id hid => ?_
        obtain ⟨rfl, hid⟩ := (hiff id).mp hid
        rw [hblank] at hid
        cases hid
      · show Decided (if _ then _ else _) _ _
        rw [if_neg hblank]
        refine .ofOk fun id => (hiff id).trans ?_
        constructor
        · rintro ⟨rfl, -⟩
          rfl
        · rintro rfl
          exact ⟨rfl, Bool.eq_false_iff.mpr hblank⟩

/-- The level with a number is the only one with that number. -/
theorem ofLevel?_eq_some_iff {number : Int} {priority : Priority} :
    Priority.ofLevel? number = some priority ↔ number = priority.level := by
  unfold Priority.ofLevel? Priority.levels
  constructor
  · intro hfound
    have hlevel := List.find?_some hfound
    exact (beq_iff_eq.mp hlevel).symm
  · rintro rfl
    cases priority <;> rfl

/-- The level with a name is the only one with that name. -/
theorem ofName?_eq_some_iff {name : String} {priority : Priority} :
    Priority.ofName? name = some priority ↔
      String.ofList (upper (trim name.toList)) = priority.capitalName := by
  unfold Priority.ofName? Priority.levels
  dsimp only
  generalize String.ofList (upper (trim name.toList)) = capital
  constructor
  · intro hfound
    have hname := List.find?_some hfound
    exact (beq_iff_eq.mp hname).symm
  · rintro rfl
    cases priority <;> decide

theorem ofValue_eq_ok_iff {value : Option Value} {priority : Priority} :
    Priority.ofValue value = .ok priority ↔ StandsForPriority value priority := by
  constructor
  · intro hread
    unfold Priority.ofValue at hread
    split at hread
    · cases hread
      exact .missing
    · cases hread
      exact .null
    · rename_i number
      split at hread
      · rename_i found hfound
        cases hread
        rw [ofLevel?_eq_some_iff.mp hfound]
        exact .level _
      · cases hread
    · rename_i name
      split at hread
      · rename_i found hfound
        cases hread
        exact .name name _ (ofName?_eq_some_iff.mp hfound)
      · cases hread
    · split at hread
      · cases hread
      · cases hread
  · intro hstands
    cases hstands with
    | missing => rfl
    | null => rfl
    | level => simp only [Priority.ofValue, ofLevel?_eq_some_iff.mpr rfl]
    | name text _ hname => simp only [Value.string, Priority.ofValue, ofName?_eq_some_iff.mpr hname]

theorem eq_priorityFault {value : Option Value} {fault : PriorityFault}
    (hread : Priority.ofValue value = .error fault) :
    fault = priorityFault (value.getD .null) := by
  unfold Priority.ofValue at hread
  split at hread
  · cases hread
  · cases hread
  · split at hread
    · cases hread
    · obtain rfl := Except.error.inj hread
      simp only [Option.getD_some, priorityFault]
  · split at hread
    · cases hread
    · obtain rfl := Except.error.inj hread
      rfl
  · rename_i given hnull hint hstring
    have hfault : priorityFault given =
        if given.hasLong then .longNumber else .unknown given.shown := by
      unfold priorityFault
      split
      · exact (hint _ rfl).elim
      · rfl
    rw [Option.getD_some, hfault]
    unfold Value.shown? at hread
    by_cases hlong : given.hasLong = true
    · rw [if_pos hlong] at hread ⊢
      exact (Except.error.inj hread).symm
    · rw [if_neg hlong] at hread ⊢
      exact (Except.error.inj hread).symm

theorem decided_readTitle : Decided (readTitle entries place) [titleCheck entries place]
    (fun title => (entries.get? "title").getD (.string "") = .string title) :=
  decided_typed (Value.decided_expectString _ _)

theorem decided_readPriority : Decided (readPriority entries place)
    [priorityCheck entries place] (StandsForPriority (entries.get? "priority")) := by
  unfold readPriority
  cases hread : Priority.ofValue (entries.get? "priority") with
  | ok priority =>
      refine .ofOk fun other => ?_
      rw [← ofValue_eq_ok_iff, hread, Except.ok.injEq]
      exact eq_comm
  | error fault =>
      refine .ofError (by rw [eq_priorityFault hread]) fun other => ?_
      rw [← ofValue_eq_ok_iff, hread]
      rintro ⟨⟩

theorem decided_readDescription : Decided (readDescription entries place)
    [descriptionCheck entries place]
    (StandsForDescription (entries.get? "description")) := by
  unfold readDescription descriptionCheck
  cases hget : entries.get? "description" with
  | none =>
      refine .ofOk fun other => ?_
      constructor
      · rintro ⟨⟩
        rfl
      · rintro rfl
        exact .missing
  | some value =>
      dsimp only
      split
      · rename_i hvoid
        refine .ofOk fun other => ?_
        constructor
        · intro hother
          cases hother with
          | void => rfl
          | text text => exact String.isEmpty_iff.mp hvoid
        · rintro rfl
          exact .void value hvoid
      · rename_i hvoid
        unfold Value.expectString
        split
        · rename_i text
          refine .ofOk fun other => ?_
          constructor
          · intro hother
            cases hother with
            | void _ hempty => exact absurd hempty hvoid
            | text => rfl
          · rintro rfl
            exact .text _
        · rename_i hstring
          refine .ofError rfl fun other hother => ?_
          cases hother with
          | void _ hempty => exact hvoid hempty
          | text => exact hstring _ rfl

/-! A field that may be missing or null stands for nothing then, and else for what its value
stands for. -/

section Nullable

variable {α : Type} {Means : Value → α → Prop} {value : Value} {content : α}
  {result : Option α}

theorem rel_none_iff : Option.Rel Means none result ↔ result = none := by
  cases result <;> simp

theorem rel_some_iff_of (hmeans : ∀ other, Means value other ↔ other = content) :
    Option.Rel Means (some value) result ↔ result = some content := by
  cases result <;> simp [hmeans]

theorem not_rel_some_of (hmeans : ∀ other, ¬ Means value other) :
    ¬ Option.Rel Means (some value) result := by
  cases result <;> simp [hmeans]

end Nullable

theorem decided_readText (key : String) : Decided (readText entries key place)
    [textCheck entries place key] (Option.Rel (· = .string ·) (entries.present? key)) := by
  unfold readText textCheck
  cases entries.present? key with
  | none => exact .ofOk fun other => rel_none_iff
  | some value =>
      dsimp only
      unfold Value.expectString
      split
      · exact .ofOk fun other => rel_some_iff_of fun text => by simp [Value.string, eq_comm]
      · rename_i hstring
        exact .ofError rfl fun other => not_rel_some_of hstring

/-- A whole number is an amount unless it is too large. -/
theorem amountOfInt_eq (number : Int) :
    (∃ negative, Binary64.ofInt number = .infinite negative) ∧
        amountOfInt number = .error .amountTooLarge ∨
      (∀ negative, Binary64.ofInt number ≠ .infinite negative) ∧
        amountOfInt number = .ok (.ofInt number) := by
  -- the reader is opened as a function: with a number put in, the conversion would be computed
  generalize hread : amountOfInt = read
  delta amountOfInt at hread
  subst hread
  dsimp only
  generalize Binary64.ofInt number = amount
  cases amount with
  | infinite negative => exact Or.inl ⟨⟨negative, rfl⟩, rfl⟩
  | finite => exact Or.inr ⟨fun negative => by rintro ⟨⟩, rfl⟩
  | nan => exact Or.inr ⟨fun negative => by rintro ⟨⟩, rfl⟩

section Amount

variable {amount : Binary64}

theorem standsForAmount_float_iff {value : Binary64} :
    StandsForAmount (.scalar (.float value)) amount ↔ amount = value := by
  constructor
  · intro hamount
    cases hamount with
    | float => rfl
  · rintro rfl
    exact .float amount

theorem standsForAmount_whole_iff {number : Int} :
    StandsForAmount (.scalar (.int number)) amount ↔
      (∀ negative, Binary64.ofInt number ≠ .infinite negative) ∧ amount = .ofInt number := by
  constructor
  · intro hamount
    cases hamount with
    | whole _ hfinite => exact ⟨hfinite, rfl⟩
  · rintro ⟨hfinite, rfl⟩
    exact .whole number hfinite

end Amount

theorem decided_readAmount : Decided (readAmount entries place)
    [amountCheck entries place]
    (Option.Rel StandsForAmount (entries.present? "amount")) := by
  unfold readAmount amountCheck
  split
  · rename_i hmissing
    rw [hmissing]
    exact .ofOk fun other => rel_none_iff
  · rename_i number hpresent
    rw [hpresent, (Entries.present?_eq_some_iff.mp hpresent).1]
    rcases amountOfInt_eq number with ⟨⟨negative, hinfinite⟩, hread⟩ | ⟨hfinite, hread⟩
    · rw [hread]
      refine .ofError rfl fun other => not_rel_some_of fun amount hamount => ?_
      exact (standsForAmount_whole_iff.mp hamount).1 negative hinfinite
    · rw [hread]
      refine .ofOk fun other => rel_some_iff_of fun amount => ?_
      exact standsForAmount_whole_iff.trans (and_iff_right hfinite)
  · rename_i amount hpresent
    rw [hpresent]
    exact .ofOk fun other => rel_some_iff_of fun amount => standsForAmount_float_iff
  · rename_i value hint hfloat hpresent
    rw [hpresent, (Entries.present?_eq_some_iff.mp hpresent).1]
    refine .ofError ?_ fun other => not_rel_some_of fun amount hamount => ?_
    · unfold amountFault
      split
      · rename_i hvalue
        exact (hint _ hvalue).elim
      · rfl
    · cases hamount with
      | float => exact hfloat _ rfl
      | whole => exact hint _ rfl

theorem decided_readCompleted : Decided (readCompleted entries place)
    [completedCheck entries place]
    (fun completed => (entries.get? "completed").getD (.scalar (.bool false)) =
      .scalar (.bool completed)) := by
  have hread : readCompleted entries place =
      typed (((entries.get? "completed").getD (.scalar (.bool false))).expectBool
        (Value.entryPlace place "completed")) := by
    unfold readCompleted
    cases entries.get? "completed" <;> rfl
  rw [hread]
  exact decided_typed (Value.decided_expectBool _ _)

section DueDate

variable {readMoment : MomentReader} {found : DateTime}

theorem standsForDueDate_moment_iff {moment : DateTime} :
    StandsForDueDate readMoment (.scalar (.dateTime moment)) found ↔ found = moment := by
  constructor
  · intro hfound
    cases hfound with
    | moment => rfl
  · rintro rfl
    exact .moment found

theorem standsForDueDate_day_iff {date : Date} :
    StandsForDueDate readMoment (.scalar (.date date)) found ↔ found = .startOf date := by
  constructor
  · intro hfound
    cases hfound with
    | day => rfl
  · rintro rfl
    exact .day date

theorem standsForDueDate_text_iff {text : String} :
    StandsForDueDate readMoment (.scalar (.string text)) found ↔
      readMoment (trim text.toList) = .ok found := by
  constructor
  · intro hfound
    cases hfound with
    | text _ _ hread => exact hread
  · exact .text text found

end DueDate

theorem decided_readDueDate (readMoment : MomentReader) :
    Decided (readDueDate readMoment entries place) [dueDateCheck entries place readMoment]
      (Option.Rel (StandsForDueDate readMoment) (entries.present? "due_date")) := by
  unfold readDueDate dueDateCheck
  dsimp only
  split
  · rename_i hmissing
    rw [hmissing]
    exact .ofOk fun other => rel_none_iff
  · rename_i moment hpresent
    rw [hpresent]
    exact .ofOk fun other => rel_some_iff_of fun found => standsForDueDate_moment_iff
  · rename_i date hpresent
    rw [hpresent]
    exact .ofOk fun other => rel_some_iff_of fun found => standsForDueDate_day_iff
  · rename_i text hpresent
    rw [hpresent, (Entries.present?_eq_some_iff.mp hpresent).1]
    split
    · rename_i moment hread
      refine .ofOk fun other => rel_some_iff_of fun found => ?_
      rw [standsForDueDate_text_iff, hread, Except.ok.injEq]
      exact eq_comm
    · rename_i hread
      refine .ofError ?_ fun other => not_rel_some_of fun found => ?_
      · simp [dueDateFault, hread]
      · simp [standsForDueDate_text_iff, hread]
    · rename_i hread
      refine .ofError ?_ fun other => not_rel_some_of fun found => ?_
      · simp [dueDateFault, hread]
      · simp [standsForDueDate_text_iff, hread]
  · rename_i value hmoment hdate hstring hpresent
    rw [hpresent, (Entries.present?_eq_some_iff.mp hpresent).1]
    refine .ofError ?_ fun other => not_rel_some_of fun found hfound => ?_
    · unfold dueDateFault
      split
      · rename_i hvalue
        exact (hstring _ hvalue).elim
      · rfl
    · cases hfound with
      | moment => exact hmoment _ rfl
      | day => exact hdate _ rfl
      | text => exact hstring _ rfl

theorem decided_readSectionId : Decided (readSectionId entries)
    [sectionIdCheck entries place]
    (Option.Rel StandsForText (entries.present? "section_id")) := by
  unfold readSectionId sectionIdCheck
  cases entries.present? "section_id" with
  | none => exact .ofOk fun other => rel_none_iff
  | some value =>
      dsimp only
      unfold idText
      split
      · rename_i text htext
        exact .ofOk fun other => rel_some_iff_of fun text => by simp [StandsForText, htext, eq_comm]
      · rename_i hlong
        exact .ofError rfl fun other => not_rel_some_of fun text => by simp [StandsForText, hlong]

/-! ## Places in messages -/

section Located

/-- The check names its place if its fault is reported with any. -/
def Located (check : Check SnapshotFault) : Prop :=
  check.fault.Unplaced ∨ Mentions check.fault.message check.place

theorem located_of_type {place : String} {Holds : Prop} {expected : Expected} :
    Located ⟨place, Holds, .type ⟨place, expected⟩⟩ :=
  Or.inr (TypeFault.mentions_place ⟨place, expected⟩)

variable (place : String)

theorem located_id {Means : String → Prop} (value : Value) :
    Located (fieldCheck place "id" Means (idFault place value)) := by
  unfold idFault
  split
  · exact Or.inl (Or.inl rfl)
  · refine Or.inr ⟨"Missing required field: ", "", ?_⟩
    have hkey : ".id" = "." ++ "id" := by decide
    show "Missing required field: " ++ place ++ ".id" =
      "Missing required field: " ++ (place ++ "." ++ "id") ++ ""
    rw [hkey, String.append_empty, String.append_assoc, String.append_assoc]

theorem located_priority {Means : Priority → Prop} (fault : PriorityFault) :
    Located (fieldCheck place "priority" Means (.priority place fault)) := by
  refine Or.inr ⟨"", ": " ++ fault.message, ?_⟩
  have hkey : ".priority: " = "." ++ ("priority" ++ ": ") := by decide
  show place ++ ".priority: " ++ fault.message =
    "" ++ (place ++ "." ++ "priority") ++ (": " ++ fault.message)
  simp only [hkey, String.append_assoc, String.empty_append]

theorem located_amount {Means : Option Binary64 → Prop} (value : Value) :
    Located (fieldCheck place "amount" Means
      (amountFault (Value.entryPlace place "amount") value)) := by
  unfold amountFault
  split
  · exact Or.inl (Or.inr (Or.inl rfl))
  · exact located_of_type

theorem located_dueDate {Means : Option DateTime → Prop} (readMoment : MomentReader)
    (value : Value) :
    Located (fieldCheck place "due_date" Means
      (dueDateFault readMoment (Value.entryPlace place "due_date") value)) := by
  unfold dueDateFault
  split
  · split
    · exact Or.inl (Or.inr (Or.inr rfl))
    · rename_i text _
      refine Or.inr ⟨"", " is not a valid ISO-8601 date: " ++ text, ?_⟩
      show Value.entryPlace place "due_date" ++ " is not a valid ISO-8601 date: " ++ text =
        "" ++ Value.entryPlace place "due_date" ++ (" is not a valid ISO-8601 date: " ++ text)
      rw [String.empty_append, String.append_assoc]
  · exact located_of_type

end Located

end SnapshotReader

end TaskQuery
