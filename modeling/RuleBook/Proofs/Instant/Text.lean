import RuleBook.Instant.Text
import RuleBook.Proofs.Instant.Calendar
import RuleBook.Proofs.Text.Run

/-!
# Reading back the text of an instant

Instants of the years 0 to 9999 are written with a year of four digits, and such a
text is read as the instant it was written from.  Within the text every number has a
fixed width, so each one ends where the next mark stands.
-/

namespace RuleBook.Instant

structure IsPadded (width n : Nat) (digits : List Char) : Prop where
  length : digits.length = width
  all : ∀ c ∈ digits, c.isDigit = true
  value : Nat.ofDigitChars 10 digits 0 = n

theorem isDigit_padded (width n : Nat) : ∀ c ∈ padded width n, c.isDigit = true := by
  intro c hc
  rcases List.mem_append.1 hc with hc | hc
  · obtain rfl := List.eq_of_mem_replicate hc
    rfl
  · exact Nat.isDigit_of_mem_toDigits (by decide) (by decide) hc

theorem padded_ne_nil (width n : Nat) : padded width n ≠ [] := by
  simp [padded, Nat.toDigits_ne_nil]

theorem isPadded_padded (width n : Nat) (hwidth : 0 < width) (hn : n < 10 ^ width) :
    IsPadded width n (padded width n) where
  length := by
    have hle := (Nat.length_toDigits_le_iff (b := 10) (by decide) hwidth).2 hn
    simp only [padded, List.length_append, List.length_replicate]
    omega
  all := isDigit_padded width n
  value := by
    simp [padded, Nat.ofDigitChars_append, Nat.ofDigitChars_ten_toDigits]

variable {width n : Nat} {digits : List Char}

theorem IsPadded.takeNumber? (h : IsPadded width n digits) (least : Nat)
    (hleast : least ≤ width) (rest : List Char) :
    takeNumber? least (some width) (digits ++ rest) = some (n, rest) := by
  have htake : ((digits ++ rest).takeWhile Char.isDigit).take width = digits := by
    rw [List.takeWhile_append_of_pos h.all, List.take_append_of_le_length (Nat.le_of_eq h.length.symm),
      List.take_of_length_le (Nat.le_of_eq h.length)]
  simp only [Instant.takeNumber?, htake]
  rw [if_neg (by rw [h.length]; omega), h.value, List.drop_left]

theorem IsPadded.head (h : IsPadded (width + 1) n digits) :
    ∃ c more, digits = c :: more ∧ c.isDigit = true := by
  cases hd : digits with
  | nil =>
      have := h.length
      simp [hd] at this
  | cons c more => exact ⟨c, more, rfl, h.all c (by simp [hd])⟩

theorem isDigit_plain {c : Char} (h : c.isDigit = true) :
    Text.isBlank c = false ∧ c ≠ '-' ∧ c ≠ '+' :=
  Text.forall_isDigit (P := fun c => Text.isBlank c = false ∧ c ≠ '-' ∧ c ≠ '+') (by decide) h

theorem IsPadded.trimStart (h : IsPadded (width + 1) n digits) (rest : List Char) :
    Text.trimStart (digits ++ rest) = digits ++ rest := by
  obtain ⟨c, more, rfl, hc⟩ := h.head
  simp [Text.trimStart, (isDigit_plain hc).1]

theorem IsPadded.takeYear? (h : IsPadded 4 n digits) (rest : List Char) :
    takeYear? (digits ++ rest) = some ((n : Int), rest) := by
  have hnumber := h.takeNumber? 1 (by decide) rest
  obtain ⟨c, more, rfl, hc⟩ := h.head
  obtain ⟨-, hminus, hplus⟩ := isDigit_plain hc
  unfold Instant.takeYear?
  split
  · simp_all
  · simp_all
  · rw [hnumber]
    rfl

variable {t : Instant}

theorem dateText_eq (hyear : 0 ≤ t.date.year ∧ t.date.year ≤ 9999) :
    ∃ year month day, dateText t.date = year ++ '-' :: month ++ '-' :: day ∧
      IsPadded 4 t.date.year.toNat year ∧ IsPadded 2 t.date.month month ∧
      IsPadded 2 t.date.day day := by
  have hmonth := CalendarDate.month_ofDays_le (t.seconds / 86400)
  have hday := CalendarDate.day_ofDays_le (t.seconds / 86400)
  refine ⟨padded 4 t.date.year.toNat, padded 2 t.date.month, padded 2 t.date.day, ?_,
    isPadded_padded _ _ (by decide) (by omega),
    isPadded_padded _ _ (by decide) (Nat.lt_of_le_of_lt hmonth (by decide)),
    isPadded_padded _ _ (by decide) (Nat.lt_of_le_of_lt hday (by decide))⟩
  rw [dateText, yearText, if_pos hyear]

theorem ofParts?_self (t : Instant) : ofParts? t.seconds t.nanos = some t := by
  rw [ofParts?, dif_pos t.valid]

theorem ofDate?_date (h : t.isMidnight = true) : ofDate? t.date = some t := by
  simp only [isMidnight, secondOfDay, Bool.and_eq_true, beq_iff_eq] at h
  have hseconds : t.date.toDays * 86400 = t.seconds := by
    rw [date, CalendarDate.toDays_ofDays]
    omega
  rw [ofDate?, hseconds, ← h.2, ofParts?_self]

theorem readDate?_dateText (hyear : 0 ≤ t.date.year ∧ t.date.year ≤ 9999)
    (h : t.isMidnight = true) : readDate? (dateText t.date) = some t := by
  obtain ⟨year, month, day, htext, hy, hm, hd⟩ := dateText_eq hyear
  have hcalendar : CalendarDate.ofYearMonthDay? t.date.year t.date.month t.date.day =
      some t.date := CalendarDate.ofYearMonthDay?_ofDays _
  have hcast : (t.date.year.toNat : Int) = t.date.year := by omega
  have hday := hd.takeNumber? 1 (by decide) []
  have htrim := hd.trimStart []
  rw [List.append_nil] at hday htrim
  rw [htext, List.append_assoc, readDate?, hy.trimStart, hy.takeYear?]
  simp only [List.cons_append, Option.bind_eq_bind, Option.bind_some,
    takeChar?, if_true, hm.trimStart, hm.takeNumber? 1 (by decide), htrim, hday,
    hcast, hcalendar, ofDate?_date h]

theorem fractionText_cases (nanos : Nat) :
    fractionText nanos = [] ∨ ∃ digits, fractionText nanos = '.' :: digits ∧ digits ≠ [] ∧
      ∀ c ∈ digits, c.isDigit = true := by
  unfold fractionText
  split
  · exact .inl rfl
  split
  · exact .inr ⟨_, rfl, padded_ne_nil _ _, isDigit_padded _ _⟩
  split
  · exact .inr ⟨_, rfl, padded_ne_nil _ _, isDigit_padded _ _⟩
  · exact .inr ⟨_, rfl, padded_ne_nil _ _, isDigit_padded _ _⟩

def shownSecond (t : Instant) : Nat := t.secondOfDay % 60 + if 1000000000 ≤ t.nanos then 1 else 0

def shownNanos (t : Instant) : Nat :=
  if 1000000000 ≤ t.nanos then t.nanos - 1000000000 else t.nanos

private theorem shownSecond_le (t : Instant) : t.shownSecond ≤ 60 := by
  rw [shownSecond]
  split <;> omega

private theorem shownNanos_lt (t : Instant) : t.shownNanos < 1000000000 := by
  have := t.valid.2.2
  rw [shownNanos]
  split <;> omega

private theorem secondOfDay_lt (t : Instant) : t.secondOfDay < 86400 := by
  rw [secondOfDay]
  omega

private theorem isPadded_hour (t : Instant) :
    IsPadded 2 (t.secondOfDay / 3600) (padded 2 (t.secondOfDay / 3600)) :=
  have := secondOfDay_lt t
  isPadded_padded _ _ (by decide) (by omega)

private theorem isPadded_minute (t : Instant) :
    IsPadded 2 (t.secondOfDay / 60 % 60) (padded 2 (t.secondOfDay / 60 % 60)) :=
  isPadded_padded _ _ (by decide) (by omega)

private theorem isPadded_second (t : Instant) :
    IsPadded 2 t.shownSecond (padded 2 t.shownSecond) :=
  isPadded_padded _ _ (by decide) (Nat.lt_of_le_of_lt (shownSecond_le t) (by decide))

private theorem timestampText_parts (t : Instant) :
    t.timestampText = dateText t.date ++ 'T' :: (padded 2 (t.secondOfDay / 3600) ++ ':' ::
      (padded 2 (t.secondOfDay / 60 % 60) ++ ':' ::
        (padded 2 t.shownSecond ++ (fractionText t.shownNanos ++ ['Z'])))) := by
  simp only [timestampText, shownSecond, shownNanos, List.append_assoc, List.cons_append]

theorem timestampText_eq (t : Instant) :
    ∃ hour minute second nanos, t.timestampText = dateText t.date ++ 'T' :: (hour ++ ':' ::
      (minute ++ ':' :: (second ++ (fractionText nanos ++ ['Z'])))) ∧
      (∃ n, IsPadded 2 n hour) ∧ (∃ n, IsPadded 2 n minute) ∧ ∃ n, IsPadded 2 n second :=
  ⟨_, _, _, _, timestampText_parts t, ⟨_, isPadded_hour t⟩, ⟨_, isPadded_minute t⟩,
    ⟨_, isPadded_second t⟩⟩

theorem shortText_eq_append (t : Instant) :
    ∃ more, t.shortText = yearText t.date.year ++ more := by
  unfold shortText
  split
  · exact ⟨_, by rw [dateText, List.append_assoc]⟩
  · obtain ⟨_, _, _, _, htime, -⟩ := timestampText_eq t
    exact ⟨_, by rw [htime, dateText, List.append_assoc, List.append_assoc]⟩

private theorem takeFraction?_padded {width n : Nat} (hwidth : 0 < width) (hn : n < 10 ^ width)
    (hnine : width ≤ 9) {c : Char} (hdigit : c.isDigit = false) (rest : List Char) :
    takeFraction? ('.' :: padded width n ++ c :: rest) =
      some (n * Nat.pow 10 (9 - width), c :: rest) := by
  have hp := isPadded_padded width n hwidth hn
  have htake : (padded width n ++ c :: rest).takeWhile Char.isDigit = padded width n :=
    Text.takeWhile_append hp.all (by simpa using hdigit)
  simp only [takeFraction?, List.cons_append, htake]
  rw [if_neg (padded_ne_nil width n), List.take_of_length_le (by rw [hp.length]; exact hnine),
    hp.value, List.drop_left, hp.length]

theorem takeFraction?_fractionText {nanos : Nat} (h : nanos < 1000000000) {c : Char}
    (hdigit : c.isDigit = false) (hpoint : c ≠ '.') (rest : List Char) :
    takeFraction? (fractionText nanos ++ c :: rest) = some (nanos, c :: rest) := by
  rw [fractionText]
  split
  · next hzero =>
    rw [hzero, List.nil_append, takeFraction?]
    intro text heq
    exact hpoint (List.cons.inj heq).1
  split
  · next hmilli =>
    have hback : nanos / 1000000 * Nat.pow 10 (9 - 3) = nanos := by
      rw [Nat.pow_eq]
      omega
    rw [takeFraction?_padded (by decide) (by omega) (by decide) hdigit, hback]
  split
  · next hmicro =>
    have hback : nanos / 1000 * Nat.pow 10 (9 - 6) = nanos := by
      rw [Nat.pow_eq]
      omega
    rw [takeFraction?_padded (by decide) (by omega) (by decide) hdigit, hback]
  · rw [takeFraction?_padded (by decide) (by omega) (by decide) hdigit]
    exact congrArg (fun n => some (n, c :: rest)) (Nat.mul_one nanos)

private theorem takeChar?_self (c : Char) (text : List Char) :
    takeChar? c (c :: text) = some text := by rw [takeChar?, if_pos rfl]

private theorem takeOffset?_utc (text : List Char) : takeOffset? ('Z' :: text) = some (0, text) := by
  rw [takeOffset?, if_pos (.inl rfl)]

def ofClock? (date : CalendarDate) (hour minute second nanos : Nat) : Option Instant :=
  let minutes := date.toDays * 1440 + hour * 60 + minute
  if second = 60 then ofParts? (minutes * 60 + 59) (nanos + 1000000000)
  else ofParts? (minutes * 60 + second) nanos

private theorem readAfterYear?_utc {year : Int} {date : CalendarDate}
    {month day hour minute second nanos : Nat} {months days hours minutes seconds : List Char}
    (hmonth : IsPadded 2 month months) (hday : IsPadded 2 day days)
    (hhour : IsPadded 2 hour hours) (hminute : IsPadded 2 minute minutes)
    (hsecond : IsPadded 2 second seconds) (hnanos : nanos < 1000000000)
    (hdate : CalendarDate.ofYearMonthDay? year month day = some date)
    (hrange : hour ≤ 23 ∧ minute ≤ 59 ∧ second ≤ 60) :
    readAfterYear? year ('-' :: (months ++ '-' :: (days ++ 'T' :: (hours ++ ':' ::
      (minutes ++ ':' :: (seconds ++ (fractionText nanos ++ ['Z']))))))) =
      ofClock? date hour minute second nanos := by
  have hfraction := takeFraction?_fractionText hnanos (c := 'Z') (by decide) (by decide) []
  rw [readAfterYear?, takeChar?_self]
  dsimp only [Option.bind_eq_bind, Option.bind_some]
  rw [hmonth.takeNumber? 2 le_rfl]
  dsimp only [Option.bind_some]
  rw [takeChar?_self]
  dsimp only [Option.bind_some]
  rw [hday.takeNumber? 2 le_rfl]
  dsimp only [Option.bind_some, List.head?_cons, Option.map_some, List.tail_cons]
  rw [if_neg (by simp), hhour.takeNumber? 2 le_rfl]
  dsimp only [Option.bind_some]
  rw [takeChar?_self]
  dsimp only [Option.bind_some]
  rw [hminute.takeNumber? 2 le_rfl]
  dsimp only [Option.bind_some]
  rw [takeChar?_self]
  dsimp only [Option.bind_some]
  rw [hsecond.takeNumber? 2 le_rfl]
  dsimp only [Option.bind_some]
  rw [hfraction]
  dsimp only [Option.bind_some]
  rw [takeOffset?_utc]
  dsimp only [Option.bind_some]
  rw [hdate]
  dsimp only [Option.bind_some]
  rw [if_pos ⟨rfl, hrange⟩, ofClock?, Int.sub_zero, Int.sub_zero]

private theorem ofClock?_shown (t : Instant) :
    ofClock? t.date (t.secondOfDay / 3600) (t.secondOfDay / 60 % 60) t.shownSecond
      t.shownNanos = some t := by
  have hdays : t.date.toDays = t.seconds / 86400 := by rw [date, CalendarDate.toDays_ofDays]
  have hsplit : ((t.secondOfDay / 3600 : Nat) : Int) * 3600 +
      ((t.secondOfDay / 60 % 60 : Nat) : Int) * 60 + ((t.secondOfDay % 60 : Nat) : Int) =
      t.seconds % 86400 := by
    rw [secondOfDay]
    omega
  rw [ofClock?]
  by_cases hleap : 1000000000 ≤ t.nanos
  · -- The nanoseconds go over a second only in the last second of a minute.
    have hlast : t.secondOfDay % 60 = 59 := by
      have := t.valid.2.2
      rw [secondOfDay]
      omega
    have hsixty : t.shownSecond = 60 := by rw [shownSecond, if_pos hleap, hlast]
    have hback : t.shownNanos + 1000000000 = t.nanos := by
      rw [shownNanos, if_pos hleap]
      omega
    rw [if_pos hsixty, hback]
    convert ofParts?_self t using 2
    omega
  · have hplain : t.shownSecond = t.secondOfDay % 60 := by rw [shownSecond, if_neg hleap]; rfl
    have hback : t.shownNanos = t.nanos := by rw [shownNanos, if_neg hleap]
    rw [if_neg (by omega), hback, hplain]
    convert ofParts?_self t using 2
    omega

theorem readTimestamp?_timestampText (hyear : 0 ≤ t.date.year ∧ t.date.year ≤ 9999) :
    readTimestamp? t.timestampText = some t := by
  obtain ⟨year, month, day, htext, hy, hm, hd⟩ := dateText_eq hyear
  have hcalendar : CalendarDate.ofYearMonthDay? t.date.year t.date.month t.date.day =
      some t.date := CalendarDate.ofYearMonthDay?_ofDays _
  have hcast : (t.date.year.toNat : Int) = t.date.year := by omega
  have hrange : t.secondOfDay / 3600 ≤ 23 ∧ t.secondOfDay / 60 % 60 ≤ 59 ∧
      t.shownSecond ≤ 60 := by
    have := secondOfDay_lt t
    exact ⟨by omega, by omega, shownSecond_le t⟩
  rw [timestampText_parts, htext, List.append_assoc, List.append_assoc, List.cons_append,
    List.cons_append, readTimestamp?, hy.takeNumber? 4 le_rfl]
  dsimp only [Option.bind_eq_bind, Option.bind_some]
  rw [hcast, readAfterYear?_utc hm hd (isPadded_hour t) (isPadded_minute t) (isPadded_second t)
    (shownNanos_lt t) hcalendar hrange, ofClock?_shown]

private theorem utf8ByteSize_ofList (text : List Char) :
    text.length ≤ (String.ofList text).utf8ByteSize ∧
      ((∀ c ∈ text, c.utf8Size = 1) → (String.ofList text).utf8ByteSize = text.length) := by
  induction text with
  | nil => simp
  | cons c text ih =>
      have hpos := c.utf8Size_pos
      rw [String.ofList_cons, String.utf8ByteSize_append, String.utf8ByteSize_singleton,
        List.length_cons]
      refine ⟨by omega, fun h => ?_⟩
      have hc := h c (by simp)
      have htext := ih.2 fun d hd => h d (by simp [hd])
      omega

private theorem utf8Size_digit {c : Char} (h : c.isDigit = true) : c.utf8Size = 1 :=
  Text.forall_isDigit (P := fun c => c.utf8Size = 1) (by decide) h

private theorem length_dateText (hyear : 0 ≤ t.date.year ∧ t.date.year ≤ 9999) :
    (dateText t.date).length = 10 ∧ ∀ c ∈ dateText t.date, c.utf8Size = 1 := by
  obtain ⟨year, month, day, htext, hy, hm, hd⟩ := dateText_eq hyear
  rw [htext]
  refine ⟨by simp [hy.length, hm.length, hd.length], fun c hc => ?_⟩
  simp only [List.mem_append, List.mem_cons] at hc
  rcases hc with (hc | rfl | hc) | rfl | hc
  · exact utf8Size_digit (hy.all c hc)
  · rfl
  · exact utf8Size_digit (hm.all c hc)
  · rfl
  · exact utf8Size_digit (hd.all c hc)

theorem ofText?_shortText (hyear : 0 ≤ t.date.year ∧ t.date.year ≤ 9999) :
    ofText? t.shortText = some t := by
  obtain ⟨hlength, hsize⟩ := length_dateText hyear
  unfold shortText
  split
  · next h =>
    rw [ofText?, if_pos, readDate?_dateText hyear h]
    rw [(utf8ByteSize_ofList _).2 hsize, hlength]
  · have hlong : 10 < t.timestampText.length := by
      simp only [timestampText, List.length_append, hlength, List.length_cons]
      omega
    rw [ofText?, if_neg, readTimestamp?_timestampText hyear]
    have := (utf8ByteSize_ofList t.timestampText).1
    omega

end RuleBook.Instant
