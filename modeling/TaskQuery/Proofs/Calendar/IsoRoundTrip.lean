import TaskQuery.Calendar.IsoReader
import TaskQuery.Proofs.Calendar.DayNumber
import TaskQuery.Proofs.Number.Padded
import TaskQuery.Proofs.Outcome
import TaskQuery.Proofs.Text.Trim

/-!
# Reading a written moment

A reader of ISO 8601 texts may take many more forms than the one in which moments are
written.  What matters for reading back what was written are two laws
(`MomentReader.Lawful`): a written moment is read as itself, provided that its offset is a
whole number of minutes, and no moment with another offset is read.  The seconds of an
offset are written, but no form that is read has them.

This file shows that the reader of this program keeps the laws (`DateTime.lawful_ofIso`).

## Strategy

The reader peels the parts off one by one.  For each part there is a lemma that says what
is read from the written part with an arbitrary rest behind it.  The last part is the
offset, or nothing, and `Clock.endOr_offsetChars` deals with both; it is used with and
without a fraction of a second in front.

That only offsets of whole minutes are found is a property of readers of clocks,
`FindsMinutes`, which each part of the scanner takes over from the part behind it.
-/

namespace TaskQuery

open Number Text IsoReader

/-! ## Offsets of whole minutes -/

/-- An offset of a whole number of minutes. -/
def UtcOffset.InMinutes (offset : UtcOffset) : Prop :=
  60 ∣ offset.seconds

/-- A moment whose offset, if it has one, is a whole number of minutes. -/
def DateTime.InMinutes (moment : DateTime) : Prop :=
  ∀ offset ∈ moment.offset, offset.InMinutes

/-- A moment in the zone without a tag that has the offset of its own zone: all that can be
written of the moment. -/
def DateTime.untagged (moment : DateTime) : DateTime :=
  { moment with zone := moment.offset.map fun offset => { offset } }

/-- What is relied on of a reader of ISO 8601 texts, where moments are written. -/
structure MomentReader.Lawful (read : MomentReader) : Prop where
  /-- The written form has an offset of whole minutes or none, and is read in some zone with this
  offset. -/
  reads_isoChars : ∀ moment : DateTime, moment.InMinutes →
    ∃ again, read (moment.isoChars 'T') = .ok again ∧ again.untagged = moment.untagged
  /-- The forms of an offset are a mark for universal time, hours, and hours with minutes. -/
  inMinutes : ∀ text moment, read text = .ok moment → moment.InMinutes

/-- The written offset of a moment. -/
def offsetChars : Option UtcOffset → List Char
  | none => []
  | some offset => offset.isoChars

theorem DateTime.isoChars_eq (separator : Char) (moment : DateTime) :
    moment.isoChars separator = moment.date.isoChars ++
      separator :: (moment.time.isoChars ++ offsetChars moment.offset) := by
  unfold isoChars
  cases moment.offset <;> simp [offsetChars]

namespace IsoReader

theorem offsetSpan?_written {hours minutes : ℕ} (hhours : hours ≤ 23) (hminutes : minutes ≤ 59) :
    offsetSpan? (paddedNumber 2 hours ++ ':' :: paddedNumber 2 minutes) =
      some (hours, minutes) := by
  have hlast := takeNumber?_paddedNumber_append (show 0 < 2 by omega)
    (show minutes < 10 ^ 2 by omega) []
  rw [List.append_nil] at hlast
  unfold offsetSpan?
  rw [takeNumber?_paddedNumber_append (by omega) (by omega)]
  simp [hlast, hhours, hminutes]

/-- An offset of whole minutes is written as a sign, hours and minutes. -/
theorem isoChars_of_inMinutes {offset : UtcOffset} (hminutes : offset.InMinutes) :
    offset.isoChars = (if offset.seconds < 0 then '-' else '+') ::
      (paddedNumber 2 (offset.seconds.natAbs / 3600) ++
        ':' :: paddedNumber 2 (offset.seconds.natAbs / 60 % 60)) := by
  have hwhole : offset.seconds.natAbs % 60 = 0 := by
    unfold UtcOffset.InMinutes at hminutes
    omega
  dsimp only [UtcOffset.isoChars]
  rw [if_pos hwhole, List.append_nil]
  rfl

theorem offset?_plus (span : List Char) :
    offset? ('+' :: span) = (offsetSpan? span).bind fun found =>
      UtcOffset.of? ((found.1 * 60 + found.2) * 60) := by
  rw [offset?]
  rfl

theorem offset?_minus (span : List Char) :
    offset? ('-' :: span) = (offsetSpan? span).bind fun found =>
      UtcOffset.of? (-((found.1 * 60 + found.2) * 60)) := by
  rw [offset?]
  rfl

theorem offset?_isoChars {offset : UtcOffset} (hminutes : offset.InMinutes) :
    offset? offset.isoChars = some offset := by
  have hbounded := offset.bounded
  have hspan : offsetSpan? (paddedNumber 2 (offset.seconds.natAbs / 3600) ++
      ':' :: paddedNumber 2 (offset.seconds.natAbs / 60 % 60)) =
      some (offset.seconds.natAbs / 3600, offset.seconds.natAbs / 60 % 60) :=
    offsetSpan?_written (by omega) (by omega)
  have hof : UtcOffset.of? offset.seconds = some offset := dif_pos offset.bounded
  rw [isoChars_of_inMinutes hminutes]
  unfold UtcOffset.InMinutes at hminutes
  by_cases hnegative : offset.seconds < 0
  · rw [if_pos hnegative, offset?_minus, hspan, Option.bind_some, ← hof]
    congr 1
    omega
  · rw [if_neg hnegative, offset?_plus, hspan, Option.bind_some, ← hof]
    congr 1
    omega

/-! ## The end of a time -/

theorem Clock.endOr_of_not_mark {clock : Clock} {c : Char} (hmark : marksOffset c = false)
    (rest : List Char) (more : List Char → Option Clock) :
    clock.endOr (c :: rest) more = more (c :: rest) := by
  unfold Clock.endOr
  dsimp only
  rw [hmark]
  rfl

/-- A time ends where its offset or the end of the text follows. -/
theorem Clock.endOr_offsetChars {clock : Clock} (hnone : clock.offset = none)
    {offset : Option UtcOffset} (hminutes : ∀ found ∈ offset, found.InMinutes)
    (more : List Char → Option Clock) :
    clock.endOr (offsetChars offset) more = some { clock with offset } := by
  cases offset with
  | none =>
      show some clock = _
      rw [← hnone]
  | some offset =>
      have hread := offset?_isoChars (hminutes offset rfl)
      obtain ⟨sign, span, hchars, hsign⟩ : ∃ sign span, offset.isoChars = sign :: span ∧
          marksOffset sign = true := by
        refine ⟨_, _, isoChars_of_inMinutes (hminutes offset rfl), ?_⟩
        split <;> rfl
      show clock.endOr offset.isoChars more = _
      rw [hchars] at hread ⊢
      unfold Clock.endOr
      dsimp only
      rw [hsign, hread]
      rfl

/-- A digit does not begin an offset. -/
theorem marksOffset_of_isDigit {c : Char} (hdigit : isDigit c = true) : marksOffset c = false := by
  have hne : ∀ mark : Char, isDigit mark = false → (c == mark) = false := by
    intro mark hmark
    rw [beq_eq_false_iff_ne]
    rintro rfl
    rw [hdigit] at hmark
    cases hmark
  rw [marksOffset, hne '-' rfl, hne '+' rfl, hne 'Z' rfl, hne 'z' rfl]
  rfl

/-! ## The parts of a time -/

theorem head?_offsetChars_not_digit (offset : Option UtcOffset) :
    ∀ next ∈ (offsetChars offset).head?, isDigit next = false := by
  intro next hnext
  cases offset with
  | none => cases hnext
  | some offset =>
      obtain rfl : (if offset.seconds < 0 then '-' else '+') = next := Option.some.inj hnext
      split <;> rfl

theorem fraction?_written {clock : Clock} (hnone : clock.offset = none)
    {offset : Option UtcOffset} (hminutes : ∀ found ∈ offset, found.InMinutes)
    {microsecond : ℕ} (hfits : microsecond < 10 ^ 6) :
    fraction? clock ('.' :: (paddedNumber 6 microsecond ++ offsetChars offset)) =
      some { clock with microsecond, offset } := by
  have hlength := length_paddedNumber (show 0 < 6 by omega) hfits
  have hdigits : ¬(paddedNumber 6 microsecond).isEmpty = true := by
    rw [List.isEmpty_iff_length_eq_zero]
    omega
  have hkept : (paddedNumber 6 microsecond).take 6 = paddedNumber 6 microsecond :=
    List.take_of_length_le (by omega)
  simp only [fraction?]
  rw [cutDigits_paddedNumber_append (head?_offsetChars_not_digit offset),
    if_neg (by simp [hdigits]), hkept, hlength, digitsValue_paddedNumber, Nat.sub_self,
    Nat.pow_eq, Nat.pow_zero, Nat.mul_one]
  have hbefore : ({ clock with microsecond } : Clock).offset = none := hnone
  exact Clock.endOr_offsetChars hbefore hminutes _

/-- The fraction of a second is written only if it is not zero. -/
theorem endOr_fraction {clock : Clock} (hnone : clock.offset = none)
    (hzero : clock.microsecond = 0) {offset : Option UtcOffset}
    (hminutes : ∀ found ∈ offset, found.InMinutes) {microsecond : ℕ}
    (hfits : microsecond < 10 ^ 6) :
    clock.endOr
        ((if microsecond = 0 then [] else '.' :: paddedNumber 6 microsecond) ++ offsetChars offset)
        (fraction? clock) = some { clock with microsecond, offset } := by
  split
  · rename_i hnothing
    rw [List.nil_append, Clock.endOr_offsetChars hnone hminutes, hnothing, ← hzero]
  · rw [List.cons_append, Clock.endOr_of_not_mark rfl]
    exact fraction?_written hnone hminutes hfits

theorem second?_written {clock : Clock} {second : ℕ} (hfits : second < 10 ^ 2)
    (rest : List Char) :
    second? true clock (':' :: (paddedNumber 2 second ++ rest)) =
      Clock.endOr { clock with second } rest (fraction? { clock with second }) := by
  simp only [second?, if_true, Option.bind_eq_bind, Option.bind_some]
  rw [takeNumber?_paddedNumber_append (by omega) hfits, Option.bind_some]

theorem minute?_written {clock : Clock} {minute : ℕ} (hfits : minute < 10 ^ 2)
    (rest : List Char) :
    minute? clock (':' :: (paddedNumber 2 minute ++ rest)) =
      Clock.endOr { clock with minute } rest (second? true { clock with minute }) := by
  simp only [minute?, Option.bind_eq_bind]
  rw [takeNumber?_paddedNumber_append (by omega) hfits, Option.bind_some]

theorem clock?_written {hour : ℕ} (hfits : hour < 10 ^ 2) (rest : List Char) :
    clock? (paddedNumber 2 hour ++ rest) =
      Clock.endOr { hour } rest (minute? { hour }) := by
  have hlength := length_paddedNumber (show 0 < 2 by omega) hfits
  obtain ⟨c, digits, hcons, hdigit⟩ := exists_paddedNumber_eq_cons 2 hour
  unfold clock?
  rw [if_neg (by rw [List.length_append]; omega)]
  conv_lhs => rw [hcons, List.cons_append, Clock.endOr_of_not_mark (marksOffset_of_isDigit hdigit),
    ← List.cons_append, ← hcons]
  rw [takeNumber?_paddedNumber_append (by omega) hfits]
  rfl

/-- The clock that shows a time of day. -/
def Clock.ofTime (time : TimeOfDay) (offset : Option UtcOffset) : Clock where
  hour := time.hour
  minute := time.minute
  second := time.second
  microsecond := time.microsecond
  offset := offset

theorem clock?_isoChars (time : TimeOfDay) {offset : Option UtcOffset}
    (hminutes : ∀ found ∈ offset, found.InMinutes) :
    clock? (time.isoChars ++ offsetChars offset) = some (Clock.ofTime time offset) := by
  obtain ⟨hhour, hminute, hsecond, hmicrosecond⟩ := time.valid
  have hcolon : marksOffset ':' = false := rfl
  simp only [TimeOfDay.isoChars, List.append_assoc, List.cons_append]
  rw [clock?_written (by omega), Clock.endOr_of_not_mark hcolon, minute?_written (by omega),
    Clock.endOr_of_not_mark hcolon, second?_written (by omega),
    endOr_fraction rfl rfl hminutes (by omega)]
  rfl

theorem endsDay_ofTime (time : TimeOfDay) (offset : Option UtcOffset) :
    (Clock.ofTime time offset).endsDay = false :=
  beq_eq_false_iff_ne.mpr (Nat.ne_of_lt time.valid.1)

theorem timeOfDay?_ofTime (time : TimeOfDay) (offset : Option UtcOffset) :
    (Clock.ofTime time offset).timeOfDay? = some time := by
  unfold Clock.timeOfDay?
  rw [endsDay_ofTime, if_neg Bool.false_ne_true]
  exact dif_pos time.valid

/-! ## Days -/

theorem commonDay?_isoChars (date : Date) (rest : List Char) :
    commonDay? (date.isoChars ++ rest) = some ((date.year, date.month, date.day), rest) := by
  obtain ⟨⟨-, hyear⟩, ⟨-, hmonth⟩, -, hday⟩ := date.valid
  have hshort : date.day < 10 ^ 2 := by
    have := daysInMonth_le date.year date.month
    omega
  simp only [Date.isoChars, List.append_assoc, List.cons_append, commonDay?, Option.bind_eq_bind]
  rw [takeNumber?_paddedNumber_append (by omega) (by omega), Option.bind_some]
  simp only [List.isEmpty_cons, takeHyphen, Bool.false_eq_true, if_false]
  rw [takeNumber?_paddedNumber_append (by omega) (by omega), Option.bind_some]
  simp only [List.isEmpty_cons, Bool.false_eq_true, if_false, if_true, ne_eq,
    not_true_eq_false]
  rw [takeNumber?_paddedNumber_append (by omega) hshort, Option.bind_some]
  rfl

theorem moment_written (date : Date) (time : TimeOfDay) {offset : Option UtcOffset}
    (hminutes : ∀ found ∈ offset, found.InMinutes) (separator : Char) :
    moment (some date) (separator :: (time.isoChars ++ offsetChars offset)) =
      .ok { date, time, zone := offset.map fun offset => { offset } } := by
  refine bind_eq_ok_iff.mpr ⟨Clock.ofTime time offset, ?_, ?_⟩
  · simp only [clock?_isoChars time hminutes, required]
  refine bind_eq_ok_iff.mpr ⟨time, ?_, bind_eq_ok_iff.mpr ⟨date, rfl, ?_⟩⟩
  · rw [timeOfDay?_ofTime, required]
  · rw [endsDay_ofTime, if_neg Bool.false_ne_true]
    rfl

end IsoReader

/-! ## Moments -/

namespace DateTime

open IsoReader

/-- A digit, or one of the marks between the numbers of a moment. -/
def IsIsoChar (c : Char) : Prop :=
  isDigit c = true ∨ c ∈ ['-', ':', '.', '+', 'T']

theorem isIsoChar_of_mem_paddedNumber {width n : ℕ} :
    ∀ c ∈ paddedNumber width n, IsIsoChar c :=
  fun _ hc => Or.inl (isDigit_of_mem_paddedNumber hc)

theorem isIsoChar_of_mem_date (date : Date) : ∀ c ∈ date.isoChars, IsIsoChar c := by
  have hnumber := @isIsoChar_of_mem_paddedNumber
  simp only [Date.isoChars, List.forall_mem_append, List.forall_mem_cons]
  exact ⟨⟨hnumber, Or.inr (by decide), hnumber⟩, Or.inr (by decide), hnumber⟩

theorem isIsoChar_of_mem_time (time : TimeOfDay) : ∀ c ∈ time.isoChars, IsIsoChar c := by
  have hnumber := @isIsoChar_of_mem_paddedNumber
  simp only [TimeOfDay.isoChars, List.forall_mem_append, List.forall_mem_cons]
  refine ⟨⟨⟨hnumber, Or.inr (by decide), hnumber⟩, Or.inr (by decide), hnumber⟩, ?_⟩
  split
  · exact List.forall_mem_nil _
  · exact List.forall_mem_cons.mpr ⟨Or.inr (by decide), hnumber⟩

theorem isIsoChar_of_mem_offset (offset : UtcOffset) : ∀ c ∈ offset.isoChars, IsIsoChar c := by
  have hnumber := @isIsoChar_of_mem_paddedNumber
  simp only [UtcOffset.isoChars, List.forall_mem_append, List.forall_mem_cons]
  refine ⟨⟨⟨?_, hnumber⟩, Or.inr (by decide), hnumber⟩, ?_⟩
  · split
    · exact Or.inr (by decide)
    · exact Or.inr (by decide)
  · split
    · exact List.forall_mem_nil _
    · exact List.forall_mem_cons.mpr ⟨Or.inr (by decide), hnumber⟩

theorem isIsoChar_of_mem_isoChars (moment : DateTime) :
    ∀ c ∈ moment.isoChars 'T', IsIsoChar c := by
  rw [isoChars_eq, List.forall_mem_append, List.forall_mem_cons, List.forall_mem_append]
  refine ⟨isIsoChar_of_mem_date _, Or.inr (by decide), isIsoChar_of_mem_time _, ?_⟩
  cases moment.offset with
  | none => exact List.forall_mem_nil _
  | some offset => exact isIsoChar_of_mem_offset offset

theorem IsIsoChar.ascii {c : Char} (hc : IsIsoChar c) : c.toNat < 0x80 := by
  rcases hc with hdigit | hmark
  · have hupper := (isDigit_eq_true_iff.mp hdigit).2
    omega
  · simp only [List.mem_cons, List.not_mem_nil, or_false] at hmark
    rcases hmark with rfl | rfl | rfl | rfl | rfl <;> decide

theorem IsIsoChar.not_isBlank {c : Char} (hc : IsIsoChar c) : isBlank c = false := by
  rcases hc with hdigit | hmark
  · obtain ⟨hlower, hupper⟩ := isDigit_eq_true_iff.mp hdigit
    simp only [isBlank, Bool.or_eq_false_iff, Bool.and_eq_false_iff, decide_eq_false_iff_not,
      beq_eq_false_iff_ne]
    omega
  · simp only [List.mem_cons, List.not_mem_nil, or_false] at hmark
    rcases hmark with rfl | rfl | rfl | rfl | rfl <;> decide

theorem trim_isoChars (moment : DateTime) :
    trim (moment.isoChars 'T') = moment.isoChars 'T' :=
  (trimmed_of_no_blank fun c hc => (isIsoChar_of_mem_isoChars moment c hc).not_isBlank).trim_eq

theorem ofIso_isoChars {moment : DateTime} (hminutes : moment.InMinutes) :
    ofIso (moment.isoChars 'T') = .ok moment.untagged := by
  have hascii : (moment.isoChars 'T').all (·.toNat < 0x80) = true := by
    rw [List.all_eq_true]
    intro c hc
    exact decide_eq_true (isIsoChar_of_mem_isoChars moment c hc).ascii
  have hdate : Date.of? moment.date.year moment.date.month moment.date.day = some moment.date :=
    Date.of?_eq_some moment.date.valid
  unfold ofIso
  rw [hascii, Bool.not_true, if_neg Bool.false_ne_true, isoChars_eq, commonDay?_isoChars]
  dsimp only
  rw [hdate]
  exact moment_written moment.date moment.time hminutes 'T'

end DateTime

/-! ## What is read has an offset of whole minutes -/

namespace IsoReader

theorem inMinutes_of_of? {seconds : ℤ} (hminutes : 60 ∣ seconds) {offset : UtcOffset}
    (hof : UtcOffset.of? seconds = some offset) : offset.InMinutes := by
  unfold UtcOffset.of? at hof
  split at hof
  · cases hof
    exact hminutes
  · cases hof

theorem inMinutes_of_offset? {text : List Char} {offset : UtcOffset}
    (hread : offset? text = some offset) : offset.InMinutes := by
  unfold offset? at hread
  split at hread
  · cases hread
    exact ⟨0, rfl⟩
  · cases hread
    exact ⟨0, rfl⟩
  · obtain ⟨found, -, hof⟩ := Option.bind_eq_some_iff.mp hread
    exact inMinutes_of_of? (Int.dvd_mul_left ..) hof
  · obtain ⟨found, -, hof⟩ := Option.bind_eq_some_iff.mp hread
    exact inMinutes_of_of? (Int.dvd_neg.mpr (Int.dvd_mul_left ..)) hof
  · cases hread

/-- A clock whose offset, if it has one, is a whole number of minutes. -/
def Clock.InMinutes (clock : Clock) : Prop :=
  ∀ offset ∈ clock.offset, offset.InMinutes

/-- A reader of clocks that finds only offsets of whole minutes. -/
def FindsMinutes (read : List Char → Option Clock) : Prop :=
  ∀ text clock, read text = some clock → clock.InMinutes

theorem inMinutes_of_endOr {clock : Clock} (hclock : clock.InMinutes)
    {more : List Char → Option Clock} (hmore : FindsMinutes more) {text : List Char}
    {found : Clock} (hfound : clock.endOr text more = some found) : found.InMinutes := by
  unfold Clock.endOr at hfound
  split at hfound
  · cases hfound
    exact hclock
  · split at hfound
    · obtain ⟨offset, hoffset, rfl⟩ := Option.map_eq_some_iff.mp hfound
      intro other hother
      cases hother
      exact inMinutes_of_offset? hoffset
    · exact hmore _ _ hfound

theorem findsMinutes_fraction? {clock : Clock} (hclock : clock.InMinutes) :
    FindsMinutes (fraction? clock) := by
  intro text found hfound
  cases text with
  | nil => cases hfound
  | cons mark rest =>
      dsimp only [fraction?] at hfound
      split at hfound
      · cases hfound
      · have hnext : ∀ microsecond, ({ clock with microsecond } : Clock).InMinutes :=
          fun _ => hclock
        have hnothing : FindsMinutes fun _ => none := fun _ _ hnone => by cases hnone
        exact inMinutes_of_endOr (hnext _) hnothing hfound

theorem findsMinutes_second? {clock : Clock} (hclock : clock.InMinutes) (colons : Bool) :
    FindsMinutes (second? colons clock) := by
  intro text found hfound
  -- the number is read in the same way with a colon in front and without
  have hnumber : ∀ digits, ((takeNumber? 2 digits).bind fun parts =>
      Clock.endOr { clock with second := parts.1 } parts.2
        (fraction? { clock with second := parts.1 })) = some found → found.InMinutes := by
    intro digits hread
    obtain ⟨⟨second, rest⟩, -, hread⟩ := Option.bind_eq_some_iff.mp hread
    have hnext : ({ clock with second } : Clock).InMinutes := hclock
    exact inMinutes_of_endOr hnext (findsMinutes_fraction? hnext) hread
  unfold second? at hfound
  split at hfound
  · split at hfound
    · exact hnumber _ hfound
    · cases hfound
  · exact hnumber _ hfound

theorem findsMinutes_minute? {clock : Clock} (hclock : clock.InMinutes) :
    FindsMinutes (minute? clock) := by
  intro text found hfound
  unfold minute? at hfound
  obtain ⟨⟨minute, rest⟩, -, hfound⟩ := Option.bind_eq_some_iff.mp hfound
  have hnext : ({ clock with minute } : Clock).InMinutes := hclock
  exact inMinutes_of_endOr hnext (findsMinutes_second? hnext _) hfound

theorem findsMinutes_clock? : FindsMinutes clock? := by
  intro text found hfound
  unfold clock? at hfound
  split at hfound
  · cases hfound
  · have hstart : ∀ hour, ({ hour } : Clock).InMinutes := fun _ _ h => by cases h
    refine inMinutes_of_endOr (hstart 0) ?_ hfound
    intro rest found hfound
    obtain ⟨⟨hour, rest⟩, -, hfound⟩ := Option.bind_eq_some_iff.mp hfound
    exact inMinutes_of_endOr (hstart hour) (findsMinutes_minute? (hstart hour)) hfound

theorem Clock.InMinutes.moment {clock : Clock} (hclock : clock.InMinutes) (date : Date)
    (time : TimeOfDay) :
    ({ date, time, zone := clock.offset.map fun offset => { offset } } :
      DateTime).InMinutes := by
  intro offset hoffset
  apply hclock offset
  rwa [DateTime.offset, Option.map_map, Function.comp_def, Option.map_id'] at hoffset

theorem inMinutes_of_moment {day : Option Date} {text : List Char} {found : DateTime}
    (hread : moment day text = .ok found) : found.InMinutes := by
  cases text with
  | nil =>
      obtain ⟨clock, hclock, hread⟩ := bind_eq_ok_iff.mp hread
      cases hclock
      obtain ⟨time, -, hread⟩ := bind_eq_ok_iff.mp hread
      obtain ⟨date, -, hread⟩ := bind_eq_ok_iff.mp hread
      cases hread
      intro offset hoffset
      cases hoffset
  | cons separator text =>
      obtain ⟨clock, hclock, hread⟩ := bind_eq_ok_iff.mp hread
      have hminutes : clock.InMinutes := by
        unfold required at hclock
        split at hclock
        · rename_i hfound
          cases hclock
          exact findsMinutes_clock? _ _ hfound
        · cases hclock
      obtain ⟨time, -, hread⟩ := bind_eq_ok_iff.mp hread
      obtain ⟨date, -, hread⟩ := bind_eq_ok_iff.mp hread
      split at hread
      · split at hread
        · cases hread
          exact hminutes.moment _ _
        · cases hread
      · cases hread
        exact hminutes.moment _ _

end IsoReader

theorem DateTime.inMinutes_of_ofIso {text : List Char} {moment : DateTime}
    (hread : ofIso text = .ok moment) : moment.InMinutes := by
  unfold ofIso at hread
  split at hread
  · cases hread
  · split at hread
    · exact inMinutes_of_moment hread
    · obtain ⟨⟨date, rest⟩, -, hread⟩ := bind_eq_ok_iff.mp hread
      exact inMinutes_of_moment hread

theorem DateTime.untagged_untagged (moment : DateTime) :
    moment.untagged.untagged = moment.untagged := by
  unfold untagged offset
  cases moment.zone <;> rfl

/-- The reader of this program keeps the laws. -/
theorem DateTime.lawful_ofIso : MomentReader.Lawful ofIso where
  reads_isoChars moment hminutes :=
    ⟨moment.untagged, ofIso_isoChars hminutes, moment.untagged_untagged⟩
  inMinutes _ _ := inMinutes_of_ofIso

end TaskQuery
