import Mathlib.Data.List.Induction
import Mathlib.Data.List.ModifyLast
import TaskQuery.Proofs.Number.Padded
import TaskQuery.Proofs.Text.Lines
import TaskQuery.Proofs.Text.Trim
import TaskQuery.Report

/-!
# Every task has its block

The report of several tasks is put together from lines, trimmed at its end, and cut into lines
again where it is shown.  This file says that nothing is lost on the way (`text_blocks`): the
report has one block of lines for each task, an empty line between two blocks and nowhere else,
and every block has the heading of its task in full and the line of its due date.

## Strategy

A line of a block starts with the number of its task or with a label, and both have a character
that is not blank (`not_blank_of_mem_block`).  So trimming reaches no further than the last line
of the last block, of which it leaves the beginning (`text_concat`).  The last line stands behind
a heading and a due date, which ends in no blank itself (`exists_modifyLast_block`).  Everything else
about a block is read off its lines, and no line but the one of the due date starts with its
label (`not_startsDue_of_isPrefix`).
-/

namespace TaskQuery

open Text

/-- A text without a line end in it. -/
def Text.SingleLine (text : String) : Prop :=
  ∀ c ∈ text.toList, isLineEnd c = false

instance (text : String) : Decidable (SingleLine text) :=
  decidable_of_iff (text.toList.all (!isLineEnd ·) = true) (by simp [SingleLine])

/-- A task without a line end in any of its texts. -/
structure Task.SingleLined (task : Task) : Prop where
  title : SingleLine task.title
  description : SingleLine task.description
  emailSubject : ∀ subject ∈ task.emailSubject, SingleLine subject
  emailSender : ∀ sender ∈ task.emailSender, SingleLine sender

namespace Report

variable {sections : List Section} {number : ℕ} {task : Task} {tasks : List Task}
  {line : List Char}

/-! ## The lines of a block -/

/-- The lines between the heading of a task and its due date. -/
def linesBeforeDue (sections : List Section) (task : Task) : List (List Char) :=
  labelled "Section" (task.sectionTitle sections) String.toList
    ++ labelled "Priority" (if task.priority = .none then none else some task.priority)
      (·.displayName.toList)
    ++ labelled "Amount" task.amount (fun amount => '$' :: amount.twoPlaces)

/-- The line of the due date of a task. -/
def dueLine (task : Task) : List Char :=
  "   Due: ".toList ++ dueText task.dueDate

/-- The lines behind the due date of a task. -/
def linesAfterDue (task : Task) : List (List Char) :=
  labelled "Email" (task.emailSubject.bind nonempty) (emailText task.emailSender)
    ++ labelled "Notes" (nonempty task.description) String.toList

theorem block_eq_parts (sections : List Section) (number : ℕ) (task : Task) :
    block sections number task =
      heading number task :: linesBeforeDue sections task ++ dueLine task :: linesAfterDue task := by
  have hdue : labelled "Due" (some task.dueDate) dueText = [dueLine task] := rfl
  rw [block, hdue, linesBeforeDue, linesAfterDue]
  simp only [List.append_assoc, List.cons_append, List.nil_append]

theorem heading_eq (number : ℕ) (task : Task) :
    heading number task =
      (toString number ++ ". [" ++ (if task.completed then "x" else " ") ++ "] "
        ++ task.title).toList := by
  have hnumber : (toString number).toList = Nat.toDigits 10 number := String.toList_ofList
  have hmark : (if task.completed then "x" else " ").toList =
      [if task.completed then 'x' else ' '] := by
    cases task.completed <;> rfl
  rw [heading, String.toList_append, String.toList_append, String.toList_append,
    String.toList_append, hnumber, hmark, List.append_assoc _ [_], List.singleton_append]

/-- A heading goes on with a point behind its number. -/
theorem exists_heading_eq (number : ℕ) (task : Task) :
    ∃ rest, heading number task = Nat.toDigits 10 number ++ '.' :: rest := by
  refine ⟨" [".toList ++ ((if task.completed then 'x' else ' ') :: "] ".toList
    ++ task.title.toList), ?_⟩
  rw [heading, List.append_assoc, List.append_assoc]
  rfl

/-- A line with a label is the label and what is written behind it. -/
theorem mem_labelled_iff {α : Type} {label : String} {value : Option α} {write : α → List Char} :
    line ∈ labelled label value write ↔
      ∃ found ∈ value, line = ("   " ++ label ++ ": ").toList ++ write found := by
  simp [labelled, eq_comm]

/-- Lines that start with one of several labels. -/
def StartWith (labels : List String) (shown : List (List Char)) : Prop :=
  ∀ line ∈ shown, ∃ label ∈ labels, ("   " ++ label ++ ": ").toList <+: line

theorem startWith_labelled {α : Type} {label : String} {labels : List String}
    (hlabel : label ∈ labels) (value : Option α) (write : α → List Char) :
    StartWith labels (labelled label value write) := by
  intro line hline
  obtain ⟨found, -, rfl⟩ := mem_labelled_iff.mp hline
  exact ⟨label, hlabel, List.prefix_append ..⟩

theorem StartWith.append {labels : List String} {first second : List (List Char)}
    (hfirst : StartWith labels first) (hsecond : StartWith labels second) :
    StartWith labels (first ++ second) := by
  intro line hline
  rcases List.mem_append.mp hline with hline | hline
  · exact hfirst line hline
  · exact hsecond line hline

/-- The labels of all attributes but the due date. -/
def otherLabels : List String :=
  ["Section", "Priority", "Amount", "Email", "Notes"]

theorem startWith_linesBeforeDue (sections : List Section) (task : Task) :
    StartWith otherLabels (linesBeforeDue sections task) :=
  ((startWith_labelled (by decide) _ _).append (startWith_labelled (by decide) _ _)).append
    (startWith_labelled (by decide) _ _)

theorem startWith_linesAfterDue (task : Task) : StartWith otherLabels (linesAfterDue task) :=
  (startWith_labelled (by decide) _ _).append (startWith_labelled (by decide) _ _)

/-! ### Only one line is that of the due date -/

/-- A line that starts with another label does not start with the one of the due date, nor does
the beginning of such a line. -/
theorem not_startsDue_of_isPrefix {shown : List (List Char)} (hshown : StartWith otherLabels shown)
    {full : List Char} (hfull : full ∈ shown) (hstarts : line <+: full) :
    ¬ "   Due: ".toList <+: line := by
  intro hdue
  obtain ⟨label, hlabel, hstart⟩ := hshown full hfull
  have hdiffer : ∀ label ∈ otherLabels,
      "   Due: ".toList.length ≤ ("   " ++ label ++ ": ").toList.length ∧
        ¬ "   Due: ".toList <+: ("   " ++ label ++ ": ").toList := by
    decide
  obtain ⟨hlength, hnot⟩ := hdiffer label hlabel
  exact hnot (List.prefix_of_prefix_length_le (hdue.trans hstarts) hstart hlength)

/-- A heading starts with a digit. -/
theorem not_startsDue_heading (number : ℕ) (task : Task) :
    ¬ "   Due: ".toList <+: heading number task := by
  obtain ⟨rest, hheading⟩ := exists_heading_eq number task
  obtain ⟨digit, digits, hdigits⟩ :=
    List.exists_cons_of_ne_nil (Nat.toDigits_ne_nil (b := 10) (n := number))
  have hdigit : Number.isDigit digit = true := by
    refine Number.isDigit_of_mem_toDigits (n := number) ?_
    rw [hdigits]
    exact List.mem_cons_self ..
  rintro ⟨tail, htail⟩
  rw [hheading, hdigits] at htail
  obtain rfl : ' ' = digit := (List.cons.inj htail).1
  exact absurd hdigit (by decide)

/-! ### No line is blank -/

/-- A line of a block has a character that is not blank. -/
theorem not_blank_of_mem_block (hline : line ∈ block sections number task) :
    ∃ c ∈ line, isBlank c = false := by
  have hcolon : ∀ {shown : List (List Char)}, StartWith otherLabels shown → line ∈ shown →
      ∃ c ∈ line, isBlank c = false := by
    intro shown hshown hline
    obtain ⟨label, -, hstart⟩ := hshown line hline
    have hcolon : ':' ∈ ("   " ++ label ++ ": ").toList := by
      rw [String.toList_append]
      exact List.mem_append_right _ (by decide)
    exact ⟨':', hstart.subset hcolon, by decide⟩
  rw [block_eq_parts] at hline
  simp only [List.cons_append, List.mem_cons, List.mem_append] at hline
  rcases hline with rfl | hbefore | rfl | hafter
  · obtain ⟨rest, hheading⟩ := exists_heading_eq number task
    rw [hheading]
    exact ⟨'.', List.mem_append_right _ (List.mem_cons_self ..), by decide⟩
  · exact hcolon (startWith_linesBeforeDue sections task) hbefore
  · exact ⟨':', List.mem_append_left _ (by decide), by decide⟩
  · exact hcolon (startWith_linesAfterDue task) hafter

theorem block_ne_nil (sections : List Section) (number : ℕ) (task : Task) :
    block sections number task ≠ [] := by
  rw [block_eq_parts]
  exact List.cons_ne_nil _ _

theorem nil_notMem_block (sections : List Section) (number : ℕ) (task : Task) :
    [] ∉ block sections number task := by
  intro hempty
  obtain ⟨c, hc, -⟩ := not_blank_of_mem_block hempty
  exact List.not_mem_nil hc

/-! ### No line has a line end in it -/

theorem isLineEnd_of_isDigit {c : Char} (hc : Number.isDigit c = true) : isLineEnd c = false := by
  obtain ⟨hlow, hhigh⟩ := Number.isDigit_eq_true_iff.mp hc
  simp only [isLineEnd, Bool.or_eq_false_iff, Bool.and_eq_false_iff, decide_eq_false_iff_not,
    beq_eq_false_iff_ne]
  omega

theorem isBlank_of_isDigit {c : Char} (hc : Number.isDigit c = true) : isBlank c = false := by
  obtain ⟨hlow, hhigh⟩ := Number.isDigit_eq_true_iff.mp hc
  simp only [isBlank, Bool.or_eq_false_iff, Bool.and_eq_false_iff, decide_eq_false_iff_not,
    beq_eq_false_iff_ne]
  omega

theorem isLineEnd_of_mem_toDigits {c : Char} (hc : c ∈ Nat.toDigits 10 number) :
    isLineEnd c = false :=
  isLineEnd_of_isDigit (Number.isDigit_of_mem_toDigits hc)

theorem isLineEnd_of_mem_twoPlaces (amount : Binary64) :
    ∀ c ∈ amount.twoPlaces, isLineEnd c = false := by
  have hsign : ∀ negative : Bool, ∀ c ∈ if negative then ['-'] else [], isLineEnd c = false := by
    intro negative
    cases negative <;> exact isLineEnd_of_all (by decide)
  cases amount with
  | nan => exact isLineEnd_of_all (by decide)
  | infinite negative =>
      exact List.forall_mem_append.mpr ⟨hsign negative, isLineEnd_of_all (by decide)⟩
  | finite negative significand exponent canonical =>
      refine List.forall_mem_append.mpr ⟨hsign negative, List.forall_mem_append.mpr ⟨?_, ?_⟩⟩
      · exact fun c hc => isLineEnd_of_mem_toDigits hc
      · refine List.forall_mem_cons.mpr ⟨by decide, ?_⟩
        split_ifs
        · exact List.forall_mem_cons.mpr ⟨by decide, fun c hc => isLineEnd_of_mem_toDigits hc⟩
        · exact fun c hc => isLineEnd_of_mem_toDigits hc

theorem isLineEnd_of_mem_paddedNumber {width : ℕ} {c : Char} (hc : c ∈ paddedNumber width number) :
    isLineEnd c = false :=
  isLineEnd_of_isDigit (Number.isDigit_of_mem_paddedNumber hc)

theorem isLineEnd_of_mem_dueText (dueDate : Option DateTime) :
    ∀ c ∈ dueText dueDate, isLineEnd c = false := by
  cases dueDate with
  | none => exact isLineEnd_of_all (by decide)
  | some due =>
      have hnumber : ∀ width number, ∀ c ∈ paddedNumber width number, isLineEnd c = false :=
        fun _ _ c hc => isLineEnd_of_mem_paddedNumber hc
      have hlater : ∀ number, ∀ c ∈ '-' :: paddedNumber 2 number, isLineEnd c = false :=
        fun number => List.forall_mem_cons.mpr ⟨by decide, hnumber 2 number⟩
      exact List.forall_mem_append.mpr
        ⟨List.forall_mem_append.mpr ⟨hnumber 1 _, hlater _⟩, hlater _⟩

/-- A line with a label has no line end if neither the label nor what is written has one. -/
theorem isLineEnd_of_mem_labelled {α : Type} {label : String} (hlabel : SingleLine label)
    {value : Option α} {write : α → List Char}
    (hwrite : ∀ found ∈ value, ∀ c ∈ write found, isLineEnd c = false) :
    ∀ line ∈ labelled label value write, ∀ c ∈ line, isLineEnd c = false := by
  intro line hline
  obtain ⟨found, hfound, rfl⟩ := mem_labelled_iff.mp hline
  rw [String.toList_append, String.toList_append]
  refine List.forall_mem_append.mpr ⟨List.forall_mem_append.mpr ⟨?_, ?_⟩, hwrite found hfound⟩
  · exact List.forall_mem_append.mpr ⟨isLineEnd_of_all (by decide), hlabel⟩
  · exact isLineEnd_of_all (by decide)

theorem singleLine_of_mem_nonempty {text found : String} (htext : SingleLine text)
    (hfound : found ∈ nonempty text) : SingleLine found := by
  unfold nonempty at hfound
  split_ifs at hfound
  · cases hfound
  · cases hfound
    exact htext

theorem isLineEnd_of_mem_emailText {sender : Option String} {subject : String}
    (hsender : ∀ found ∈ sender, SingleLine found) (hsubject : SingleLine subject) :
    ∀ c ∈ emailText sender subject, isLineEnd c = false := by
  have hshown : SingleLine ((sender.bind nonempty).getD "-") := by
    cases hfound : sender.bind nonempty with
    | none => decide
    | some found =>
        obtain ⟨whole, hwhole, hnonempty⟩ := Option.bind_eq_some_iff.mp hfound
        exact singleLine_of_mem_nonempty (hsender whole hwhole) hnonempty
  refine List.forall_mem_append.mpr ⟨List.forall_mem_append.mpr ⟨?_, hshown⟩, ?_⟩
  · exact List.forall_mem_append.mpr ⟨hsubject, isLineEnd_of_all (by decide)⟩
  · exact isLineEnd_of_all (by decide)

theorem singleLine_of_mem_sectionTitle (hsections : ∀ known ∈ sections, SingleLine known.title)
    {title : String} (htitle : title ∈ task.sectionTitle sections) : SingleLine title := by
  obtain ⟨known, hknown, rfl⟩ := Option.map_eq_some_iff.mp htitle
  obtain ⟨id, -, hfind⟩ := Option.bind_eq_some_iff.mp hknown
  exact hsections known (List.mem_of_find?_eq_some hfind)

/-- No line of a block has a line end in it if no text of the task and its section has. -/
theorem isLineEnd_of_mem_block (hsections : ∀ known ∈ sections, SingleLine known.title)
    (htask : task.SingleLined) (number : ℕ) :
    ∀ line ∈ block sections number task, ∀ c ∈ line, isLineEnd c = false := by
  have hheading : ∀ c ∈ heading number task, isLineEnd c = false := by
    refine List.forall_mem_append.mpr ⟨List.forall_mem_append.mpr ⟨?_, ?_⟩, htask.title⟩
    · exact List.forall_mem_append.mpr
        ⟨fun c hc => isLineEnd_of_mem_toDigits hc, isLineEnd_of_all (by decide)⟩
    · cases task.completed <;> exact isLineEnd_of_all (by decide)
  rw [block]
  simp only [List.forall_mem_append, List.forall_mem_singleton]
  refine ⟨⟨⟨⟨⟨⟨hheading, ?_⟩, ?_⟩, ?_⟩, ?_⟩, ?_⟩, ?_⟩
  · exact isLineEnd_of_mem_labelled (by decide)
      fun _ hfound => singleLine_of_mem_sectionTitle hsections hfound
  · refine isLineEnd_of_mem_labelled (by decide) fun priority _ => ?_
    cases priority <;> exact isLineEnd_of_all (by decide)
  · exact isLineEnd_of_mem_labelled (by decide) fun amount _ =>
      List.forall_mem_cons.mpr ⟨by decide, isLineEnd_of_mem_twoPlaces amount⟩
  · exact isLineEnd_of_mem_labelled (by decide) fun dueDate _ => isLineEnd_of_mem_dueText dueDate
  · refine isLineEnd_of_mem_labelled (by decide) fun subject hfound => ?_
    obtain ⟨whole, hwhole, hnonempty⟩ := Option.bind_eq_some_iff.mp hfound
    exact isLineEnd_of_mem_emailText htask.emailSender
      (singleLine_of_mem_nonempty (htask.emailSubject whole hwhole) hnonempty)
  · exact isLineEnd_of_mem_labelled (by decide)
      fun _ hfound => singleLine_of_mem_nonempty htask.description hfound

/-! ## The whole report -/

/-- The blocks of several tasks, numbered from `number` on. -/
def taskBlocks (sections : List Section) (number : ℕ) (tasks : List Task) :
    List (List (List Char)) :=
  tasks.mapIdx fun index task => block sections (number + index) task

theorem blocks_eq_flatMap (sections : List Section) (number : ℕ) (tasks : List Task) :
    blocks sections number tasks = (taskBlocks sections number tasks).flatMap (· ++ [[]]) := by
  induction tasks generalizing number with
  | nil => rfl
  | cons task tasks ih =>
      have hlater : taskBlocks sections (number + 1) tasks =
          tasks.mapIdx fun index task => block sections (number + (index + 1)) task := by
        simp only [taskBlocks, Nat.add_assoc, Nat.add_comm 1]
      rw [blocks, ih, hlater, taskBlocks, List.mapIdx_cons, List.flatMap_cons, List.append_assoc]
      rfl

theorem text_of_ne_nil (htasks : tasks ≠ []) (sections : List Section) :
    text sections tasks = trimEnd (['\n'].intercalate (blocks sections 1 tasks)) ++ ['\n'] := by
  cases tasks with
  | nil => exact absurd rfl htasks
  | cons task tasks => rfl

theorem taskBlocks_concat (sections : List Section) (number : ℕ) (tasks : List Task) (task : Task) :
    taskBlocks sections number (tasks ++ [task]) =
      taskBlocks sections number tasks ++ [block sections (number + tasks.length) task] :=
  List.mapIdx_concat

/-- Trimming takes the empty line behind the last block and the blanks at the end of the last
line of this block. -/
theorem text_concat {earlier : List Task} {last : Task} {front : List (List Char)}
    (hlast : block sections (1 + earlier.length) last = front ++ [line]) :
    text sections (earlier ++ [last]) =
      ([[]].intercalate (taskBlocks sections 1 earlier ++ [front ++ [trimEnd line]])).flatMap
        (· ++ ['\n']) := by
  have hline : ∃ c ∈ line ++ ['\n'], isBlank c = false := by
    have hmem : line ∈ block sections (1 + earlier.length) last := by
      rw [hlast]
      exact List.mem_append_right _ (List.mem_singleton_self line)
    obtain ⟨c, hc, hblank⟩ := not_blank_of_mem_block hmem
    exact ⟨c, List.mem_append_left _ hc, hblank⟩
  have hblocks : blocks sections 1 (earlier ++ [last]) =
      ((taskBlocks sections 1 earlier).flatMap (· ++ [[]]) ++ front) ++ [line] ++ [[]] := by
    rw [blocks_eq_flatMap, taskBlocks_concat, List.flatMap_append, List.flatMap_singleton, hlast]
    simp only [List.append_assoc]
  rw [text_of_ne_nil (by simp), hblocks, intercalate_concat _ (taskBlocks sections 1 earlier),
    ← List.append_assoc]
  generalize (taskBlocks sections 1 earlier).flatMap (· ++ [[]]) ++ front = before
  rw [intercalate_concat, List.append_nil, List.flatMap_append, List.flatMap_append,
    List.flatMap_singleton, List.flatMap_singleton, trimEnd_append_of_not_blank hline,
    trimEnd_append_blanks (List.all_eq_true.mp (by decide)), List.append_assoc]

/-! ### The parts of the blocks that are shown -/

/-- The line of a due date ends in a digit or a dash. -/
theorem trimEnd_dueLine (task : Task) : trimEnd (dueLine task) = dueLine task := by
  unfold dueLine
  cases task.dueDate with
  | none =>
      have hdash : ∀ c ∈ ['-'], isBlank c = false := List.forall_mem_singleton.mpr rfl
      exact trimEnd_append_of_no_blank (List.cons_ne_nil _ _) hdash _
  | some due =>
      have hday : paddedNumber 2 due.date.day ≠ [] := by
        obtain ⟨c, digits, hcons, -⟩ := Number.exists_paddedNumber_eq_cons 2 due.date.day
        rw [hcons]
        exact List.cons_ne_nil c digits
      have hblank : ∀ c ∈ paddedNumber 2 due.date.day, isBlank c = false :=
        fun c hc => isBlank_of_isDigit (Number.isDigit_of_mem_paddedNumber hc)
      rw [dueText, Date.plainChars, List.append_cons _ '-' (paddedNumber 2 due.date.day),
        ← List.append_assoc]
      exact trimEnd_append_of_no_blank hday hblank _

/-- The last line of a block stands behind its due date or is the line of the due date, which
ends in no blank. -/
theorem exists_modifyLast_block (sections : List Section) (number : ℕ) (task : Task) :
    ∃ after, (block sections number task).modifyLast trimEnd =
        heading number task :: linesBeforeDue sections task ++ dueLine task :: after ∧
      ∀ line ∈ after, ¬ "   Due: ".toList <+: line := by
  rw [block_eq_parts, List.modifyLast_append_of_right_ne_nil _ _ _ (List.cons_ne_nil _ _)]
  obtain hafter | ⟨front, line, hafter⟩ := List.eq_nil_or_concat (linesAfterDue task)
  · refine ⟨[], ?_, List.forall_mem_nil _⟩
    rw [hafter, ← List.nil_append [dueLine task], List.modifyLast_concat, trimEnd_dueLine]
  · rw [List.concat_eq_append] at hafter
    refine ⟨front ++ [trimEnd line], ?_, ?_⟩
    · rw [hafter, ← List.cons_append, List.modifyLast_concat]
      rfl
    · intro shown hshown
      have hlabels := startWith_linesAfterDue task
      rw [hafter] at hlabels
      rcases List.mem_append.mp hshown with hfront | hlast
      · exact not_startsDue_of_isPrefix hlabels (List.mem_append_left _ hfront) List.prefix_rfl
      · rw [List.mem_singleton.mp hlast]
        exact not_startsDue_of_isPrefix hlabels (List.mem_append_right _ (List.mem_singleton_self _))
          (trimEnd_isPrefix line)

/-- Blocks of lines that show tasks. -/
structure Shows (sections : List Section) (tasks : List Task)
    (shown : List (List (List Char))) : Prop where
  /-- There is one block for each task. -/
  length_eq : shown.length = tasks.length
  /-- Every block has a line, and no line is empty. -/
  noEmptyLine : ∀ piece ∈ shown, piece ≠ [] ∧ [] ∉ piece
  /-- A block starts with the number, the mark and the whole title of its task.  One line and no
  other is that of the due date, and it stands between the other attributes. -/
  parts : ∀ index task, tasks[index]? = some task → ∃ head before after,
    shown[index]? = some (head :: before ++ dueLine task :: after) ∧
      head = (toString (index + 1) ++ ". [" ++ (if task.completed then "x" else " ") ++ "] "
        ++ task.title).toList ∧
      before = linesBeforeDue sections task ∧
      ∀ line ∈ head :: before ++ after, ¬ "   Due: ".toList <+: line
  /-- Of all lines of the tasks, the blocks lack the empty line at the end and the blanks at the
  end of the line in front of it. -/
  trimmed : ∃ earlier front line,
    blocks sections 1 tasks = [[]].intercalate (earlier ++ [front ++ [line]]) ++ [[]] ∧
      shown = earlier ++ [front ++ [trimEnd line]]

/-- A block as it is or without the blanks at its end has the parts that show its task. -/
theorem exists_parts {shown : List (List Char)}
    (hshown : shown = block sections number task ∨
      shown = (block sections number task).modifyLast trimEnd) :
    ∃ after, shown = heading number task :: linesBeforeDue sections task ++ dueLine task :: after ∧
      ∀ line ∈ heading number task :: linesBeforeDue sections task ++ after,
        ¬ "   Due: ".toList <+: line := by
  obtain ⟨after, hparts, hafter⟩ : ∃ after,
      shown = heading number task :: linesBeforeDue sections task ++ dueLine task :: after ∧
        ∀ line ∈ after, ¬ "   Due: ".toList <+: line := by
    rcases hshown with rfl | rfl
    · exact ⟨linesAfterDue task, block_eq_parts .., fun line hline =>
        not_startsDue_of_isPrefix (startWith_linesAfterDue task) hline List.prefix_rfl⟩
    · exact exists_modifyLast_block sections number task
  refine ⟨after, hparts, List.forall_mem_append.mpr ⟨List.forall_mem_cons.mpr ⟨?_, ?_⟩, hafter⟩⟩
  · exact not_startsDue_heading number task
  · exact fun line hline =>
      not_startsDue_of_isPrefix (startWith_linesBeforeDue sections task) hline List.prefix_rfl

/-- The blocks of tasks, the last one without the blanks at its end, show the tasks. -/
theorem shows_concat {earlier : List Task} {last : Task} {front : List (List Char)}
    (hlast : block sections (1 + earlier.length) last = front ++ [line]) :
    Shows sections (earlier ++ [last])
      (taskBlocks sections 1 earlier ++ [front ++ [trimEnd line]]) where
  length_eq := by simp [taskBlocks]
  noEmptyLine := by
    refine List.forall_mem_append.mpr ⟨fun piece hpiece => ?_, List.forall_mem_singleton.mpr ?_⟩
    · obtain ⟨index, hindex, rfl⟩ := List.mem_mapIdx.mp hpiece
      exact ⟨block_ne_nil _ _ _, nil_notMem_block _ _ _⟩
    · refine ⟨List.append_ne_nil_of_right_ne_nil front (List.cons_ne_nil _ _), fun hempty => ?_⟩
      rcases List.mem_append.mp hempty with hfront | hline
      · apply nil_notMem_block sections (1 + earlier.length) last
        rw [hlast]
        exact List.mem_append_left _ hfront
      · have hmem : line ∈ block sections (1 + earlier.length) last := by
          rw [hlast]
          exact List.mem_append_right _ (List.mem_singleton_self line)
        obtain ⟨front, c, hconcat, -⟩ := exists_trimEnd_eq_concat (not_blank_of_mem_block hmem)
        rw [hconcat, List.mem_singleton] at hline
        exact List.append_ne_nil_of_right_ne_nil front (List.cons_ne_nil c []) hline.symm
  parts := by
    intro index task htask
    obtain ⟨shown, hindex, hshown⟩ : ∃ shown,
        (taskBlocks sections 1 earlier ++ [front ++ [trimEnd line]])[index]? = some shown ∧
          (shown = block sections (index + 1) task ∨
            shown = (block sections (index + 1) task).modifyLast trimEnd) := by
      have hlength : (taskBlocks sections 1 earlier).length = earlier.length := List.length_mapIdx
      rcases Nat.lt_trichotomy index earlier.length with hlt | rfl | hgt
      · rw [List.getElem?_append_left hlt] at htask
        refine ⟨_, ?_, Or.inl rfl⟩
        rw [List.getElem?_append_left (hlength ▸ hlt), taskBlocks, List.getElem?_mapIdx, htask,
          Nat.add_comm]
        rfl
      · rw [List.getElem?_concat_length] at htask
        cases htask
        refine ⟨_, hlength ▸ List.getElem?_concat_length, Or.inr ?_⟩
        rw [Nat.add_comm, hlast, List.modifyLast_concat]
      · rw [List.getElem?_eq_none (by rw [List.length_append, List.length_singleton]; omega)] at htask
        cases htask
    obtain ⟨after, rfl, hdue⟩ := exists_parts hshown
    exact ⟨_, _, after, hindex, heading_eq .., rfl, hdue⟩
  trimmed := by
    refine ⟨_, front, line, ?_, rfl⟩
    rw [blocks_eq_flatMap, taskBlocks_concat, hlast, List.flatMap_append, List.flatMap_singleton,
      intercalate_concat, ← List.append_assoc, ← List.append_assoc]

theorem lines_text_concat (hsections : ∀ known ∈ sections, SingleLine known.title)
    {earlier : List Task} {last : Task} (htasks : ∀ task ∈ earlier ++ [last], task.SingleLined)
    {front : List (List Char)}
    (hlast : block sections (1 + earlier.length) last = front ++ [line]) :
    lines (text sections (earlier ++ [last])) =
      [[]].intercalate (taskBlocks sections 1 earlier ++ [front ++ [trimEnd line]]) := by
  rw [text_concat hlast, lines_flatMap]
  obtain ⟨hearlier, hlater⟩ := List.forall_mem_append.mp htasks
  have hclean := isLineEnd_of_mem_block hsections (List.forall_mem_singleton.mp hlater)
    (1 + earlier.length)
  rw [hlast] at hclean
  obtain ⟨hfront, hline⟩ := List.forall_mem_append.mp hclean
  rw [intercalate_concat]
  refine List.forall_mem_append.mpr ⟨?_, List.forall_mem_append.mpr ⟨hfront, ?_⟩⟩
  · intro shown hshown
    obtain ⟨whole, hwhole, hmem⟩ := List.mem_flatMap.mp hshown
    obtain ⟨index, hindex, rfl⟩ := List.mem_mapIdx.mp hwhole
    rcases List.mem_append.mp hmem with hblock | hempty
    · exact isLineEnd_of_mem_block hsections (hearlier _ (List.getElem_mem hindex)) _ shown hblock
    · rw [List.mem_singleton.mp hempty]
      exact List.forall_mem_nil _
  · refine List.forall_mem_singleton.mpr fun c hc => ?_
    exact List.forall_mem_singleton.mp hline c ((trimEnd_isPrefix line).subset hc)

/-- The first heading keeps a report from being blank. -/
theorem not_blank_report (htasks : tasks ≠ []) (sections : List Section) :
    ∃ c ∈ ['\n'].intercalate (blocks sections 1 tasks), isBlank c = false := by
  obtain ⟨task, others, rfl⟩ := List.exists_cons_of_ne_nil htasks
  have hheading : heading 1 task ∈ block sections 1 task := by
    rw [block_eq_parts]
    exact List.mem_cons_self ..
  obtain ⟨c, hc, hblank⟩ := not_blank_of_mem_block hheading
  have hstart : ∀ rest, heading 1 task <+: ['\n'].intercalate (heading 1 task :: rest) := by
    intro rest
    have hstarts := intercalate_isPrefix ['\n'] [heading 1 task] rest
    rwa [List.intercalate_singleton] at hstarts
  rw [blocks, block_eq_parts]
  exact ⟨c, (hstart _).subset hc, hblank⟩

theorem blocks_append (sections : List Section) (number : ℕ) (tasks more : List Task) :
    blocks sections number (tasks ++ more) =
      blocks sections number tasks ++ blocks sections (number + tasks.length) more := by
  induction tasks generalizing number with
  | nil => rfl
  | cons task tasks ih =>
      rw [List.cons_append, blocks, ih, blocks, List.append_assoc, List.length_cons,
        Nat.add_right_comm, Nat.add_assoc]
      rfl

/-- What is left of a report without the blanks at its end is the beginning of every report that
goes on with more tasks. -/
theorem trimEnd_text_isPrefix (htasks : tasks ≠ []) (sections : List Section) (more : List Task) :
    trimEnd (text sections tasks) <+: text sections (tasks ++ more) := by
  have hmore : tasks ++ more ≠ [] := by simp [htasks]
  obtain ⟨back, hback⟩ := intercalate_isPrefix ['\n'] (blocks sections 1 tasks)
    (blocks sections (1 + tasks.length) more)
  rw [text_of_ne_nil htasks, text_of_ne_nil hmore, trimEnd_append_blanks (List.all_eq_true.mp (by decide)),
    trimEnd_trimEnd, blocks_append, ← hback]
  exact (trimEnd_prefix_trimEnd_append _ back).trans (List.prefix_append ..)

/-- **Every task has its block.**  The report of at least one task ends in one line feed and no
other blank, and without its end it is the beginning of every report that goes on with more
tasks.  If no text of a task and no title of a section has a line end in it, the lines of the
report are blocks that show the tasks, with one empty line between two of them. -/
theorem text_blocks (htasks : tasks ≠ []) (sections : List Section) :
    ((∀ known ∈ sections, SingleLine known.title) → (∀ task ∈ tasks, task.SingleLined) →
      ∃ shown, lines (text sections tasks) = [[]].intercalate shown ∧
        Shows sections tasks shown) ∧
    (∃ body last, text sections tasks = body ++ [last, '\n'] ∧ isBlank last = false) ∧
    ∀ more, trimEnd (text sections tasks) <+: text sections (tasks ++ more) := by
  refine ⟨?_, ?_, trimEnd_text_isPrefix htasks sections⟩
  · intro hsections hsingle
    obtain ⟨earlier, last, rfl⟩ := (List.eq_nil_or_concat' tasks).resolve_left htasks
    obtain ⟨front, line, hlast⟩ :=
      (List.eq_nil_or_concat' (block sections (1 + earlier.length) last)).resolve_left
        (block_ne_nil _ _ _)
    exact ⟨_, lines_text_concat hsections hsingle hlast, shows_concat hlast⟩
  · obtain ⟨body, last, hbody, hlast⟩ := exists_trimEnd_eq_concat (not_blank_report htasks sections)
    refine ⟨body, last, ?_, hlast⟩
    rw [text_of_ne_nil htasks, hbody, List.append_assoc]
    rfl

/-- A report of two tasks, of which the first is done and the second has blanks behind its notes.
The title of the first keeps its blank, and the notes of the second do not. -/
theorem exists_text_blocks :
    ∃ (sections : List Section) (tasks : List Task) (shown : List (List (List Char))),
      tasks ≠ [] ∧ (∀ known ∈ sections, SingleLine known.title) ∧
        (∀ task ∈ tasks, task.SingleLined) ∧
        lines (text sections tasks) = [[]].intercalate shown ∧ Shows sections tasks shown ∧
        (lines (text sections tasks)).map String.ofList = [
          "1. [x] Pay rent ", "   Section: Home", "   Priority: High", "   Due: -", "",
          "2. [ ] Call", "   Due: 987-06-05", "   Email: Re: (-)", "   Notes: ask"] := by
  let sections : List Section := [{ id := "h", title := "Home" }]
  let due : DateTime := DateTime.startOf ⟨987, 6, 5, by decide⟩
  let tasks : List Task := [
    { id := "1", title := "Pay rent ", priority := .high, completed := true,
      sectionId := some "h" },
    { id := "2", title := "Call", description := "ask \t ", emailSubject := some "Re:",
      dueDate := some due }]
  have hsections : ∀ known ∈ sections, SingleLine known.title :=
    List.forall_mem_singleton.mpr (by decide)
  have htasks : ∀ task ∈ tasks, task.SingleLined := by
    refine List.forall_mem_cons.mpr ⟨?_, List.forall_mem_singleton.mpr ?_⟩
    · exact ⟨by decide, by decide, by decide, by decide⟩
    · exact ⟨by decide, by decide, by decide, by decide⟩
  obtain ⟨shown, hlines, hshows⟩ :=
    (text_blocks (List.cons_ne_nil _ _) sections).1 hsections htasks
  exact ⟨sections, tasks, shown, List.cons_ne_nil _ _, hsections, htasks, hlines, hshows,
    by decide +kernel⟩

end Report

end TaskQuery
