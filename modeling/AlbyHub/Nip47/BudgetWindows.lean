import AlbyHub.Go.Calendar
import AlbyHub.Nip47.EventHandler
import AlbyHub.Transactions.Budget

/-!
# The windows of a budget

In a zone with a fixed offset the starts that `getStartOfBudget` answers are those of windows that
tile the time: days, weeks from Monday on, months and years of the calendar. The renewal that
`GetBudgetRenewsAt` tells is the start of the next window, unless its `uint64` wraps. The usage
counts what was created after the start, and so leaves out what was created at it.
-/

namespace AlbyHub

open Go Calendar EventHandler

/-- The nanoseconds of a day. Reference: Go `time.Hour`. -/
def dayNanos : Int := 86400 * 1000000000

/-- The nanoseconds from the first day of the calendar to the epoch, at the offset in seconds east
of UTC. Reference: Go `time.FixedZone`. -/
def zoneShift (offset : Int) : Int := (719528 * 86400 + offset) * 1000000000

/-- The day of an instant in the zone. Reference: Go `time.Time.Date`. -/
def localDay (offset : Int) (t : Time) : Int := (t + zoneShift offset) / dayNanos

/-- Reference: Go `time.Time.Date` and `time.Time.Weekday`. -/
def civilAt (offset : Int) (t : Time) : Civil :=
  let n := localDay offset t
  ⟨yearOf n, monthOf n % 12 + 1, n - monthStart (monthOf n) + 1, ((n + 6) % 7).toNat⟩

/-- The midnight at which the day begins; the month and the day may be out of their ranges.
Reference: Go `time.Date`. -/
def dateAt (offset year month day : Int) : Time :=
  (monthStart (12 * year + (month - 1)) + (day - 1)) * dayNanos - zoneShift offset

/-- `t.AddDate(0, 0, n)`: the date is moved and the time of the day is kept. Reference: Go
`time.Time.AddDate`. -/
def addDaysAt (offset : Int) (t : Time) (n : Int) : Time :=
  let c := civilAt offset t
  dateAt offset c.year c.month (c.day + n) + (t + zoneShift offset) % dayNanos

/-- The world with the calendar of a zone of fixed offset. Reference: Go `time.FixedZone`. -/
def World.inZone (W : World) (offset : Int) : World :=
  { W with civil := civilAt offset, date := dateAt offset, addDays := addDaysAt offset }

/-- The renewals that have an end. Reference: `constants/constants.go:14
BUDGET_RENEWAL_DAILY`. -/
inductive Period where
  | daily
  | weekly
  | monthly
  | yearly

/-- Reference: `constants/constants.go:14 BUDGET_RENEWAL_DAILY`. -/
def Period.renewal : Period → String
  | daily => "daily"
  | weekly => "weekly"
  | monthly => "monthly"
  | yearly => "yearly"

/-- The windows, in days. Reference: none. -/
def Period.days : Period → Tiling
  | daily => Calendar.days
  | weekly => weeks
  | monthly => months
  | yearly => years

/-- The window that holds a day. Reference: none. -/
def Period.window : Period → Int → Int
  | daily => id
  | weekly => weekOf
  | monthly => monthOf
  | yearly => yearOf

theorem dayNanos_pos : 0 < dayNanos := by decide

/-- The windows of a zone, in instants. Reference: none. -/
def Period.windows (period : Period) (offset : Int) : Tiling :=
  period.days.scaled dayNanos (zoneShift offset) dayNanos_pos

/-- The instant at which the window of `now` begins. Reference: none. -/
def Period.windowStart (period : Period) (offset : Int) (now : Time) : Time :=
  (period.windows offset).start (period.window (localDay offset now))

/-- The instant at which the window of `now` ends. Reference: none. -/
def Period.windowEnd (period : Period) (offset : Int) (now : Time) : Time :=
  (period.windows offset).start (period.window (localDay offset now) + 1)

/-- Whether the query counts the row. Reference: `db/queries/get_budget_usage.go:18
GetBudgetUsageMsat`. -/
def AppPermission.Counts (p : AppPermission) (W : World) (now : Time) (r : Transaction) : Prop :=
  r.SpentBy p.appId ∧ p.start W now < r.createdAt

instance (p : AppPermission) (W : World) (now : Time) (r : Transaction) :
    Decidable (p.Counts W now r) := inferInstanceAs (Decidable (_ ∧ _))

/-- The window of a budget at `now`: it has begun and is not over; the renewal is the start of the
next window, and all instants between the two starts have one start; the usage is what the query
counts; and a payment that was created since the start is counted at the instants of this window and
at no others. Reference: `db/queries/get_budget_usage.go:11 GetBudgetUsageMsat`, `:25
getStartOfBudget`, `:49 GetBudgetRenewsAt`. -/
structure BudgetWindow (W : World) (p : AppPermission) (t : Table) (now : Time) : Prop where
  begun : p.start W now ≤ now
  renews : ∃ renewsAt : Nat, GetBudgetRenewsAt W now p.budgetRenewal = some renewsAt ∧
    now < Time.unix renewsAt ∧ p.start W (Time.unix renewsAt) = Time.unix renewsAt ∧
    ∀ τ, p.start W now ≤ τ → τ < Time.unix renewsAt → p.start W τ = p.start W now
  usage : ∀ usageMsat, GetBudgetUsageMsat W now t p = .ok usageMsat →
    usageMsat = ((t.rows.filter fun r => p.Counts W now r).map (·.charge)).sum
  counted : ∀ r ∈ t.rows, r.SpentBy p.appId → p.start W now ≤ r.createdAt → r.createdAt ≤ now →
    ∀ τ, r.createdAt ≤ τ → (p.Counts W τ r ↔ p.start W τ = p.start W now)

section
variable {W : World} {offset : Int} {t now : Time} {n k : Int} {period : Period}

/-! ## The calendar of the zone -/

theorem localDay_start : localDay offset (n * dayNanos - zoneShift offset) = n := by
  unfold localDay
  rw [Int.sub_add_cancel]
  exact Int.mul_ediv_cancel _ dayNanos_pos.ne'

/-- The month of a date, counted through. Reference: Go `time.Time.Date`. -/
theorem civilAt_month (offset : Int) (t : Time) :
    12 * (civilAt offset t).year + ((civilAt offset t).month - 1) =
      monthOf (localDay offset t) := by
  have hdiv := monthOf_div (localDay offset t)
  unfold civilAt
  dsimp only
  omega

/-- The date of a day is its midnight. Reference: Go `time.Date`. -/
theorem dateAt_civilAt (offset : Int) (t : Time) (d : Int) :
    dateAt offset (civilAt offset t).year (civilAt offset t).month ((civilAt offset t).day + d) =
      (localDay offset t + d) * dayNanos - zoneShift offset := by
  unfold dateAt
  rw [civilAt_month]
  unfold civilAt
  dsimp only
  congr 2
  omega

/-- A date with the day 1 is the start of a month. Reference: Go `time.Date`. -/
theorem dateAt_first {y m : Int} (h : 12 * y + (m - 1) = k) :
    dateAt offset y m 1 = monthStart k * dayNanos - zoneShift offset := by
  unfold dateAt
  rw [h, Int.sub_self, Int.add_zero]

/-- Days have one length. Reference: Go `time.Time.AddDate` in a zone of fixed offset. -/
theorem addDaysAt_eq (offset : Int) (t : Time) (d : Int) :
    addDaysAt offset t d = t + d * dayNanos := by
  have hday : localDay offset t * dayNanos + (t + zoneShift offset) % dayNanos =
      t + zoneShift offset := by
    rw [Int.mul_comm]
    exact Int.mul_ediv_add_emod _ _
  unfold addDaysAt
  dsimp only
  rw [dateAt_civilAt, Int.add_mul, sub_add_eq_add_sub, add_right_comm, hday, add_right_comm,
    add_sub_cancel_right]

theorem localDay_add (d : Int) : localDay offset (t + d * dayNanos) = localDay offset t + d := by
  unfold localDay
  rw [Int.add_right_comm]
  exact Int.add_mul_ediv_right _ _ dayNanos_pos.ne'

/-! ## The start and the renewal -/

/-- The window of a day holds the instants of the day. Reference: none. -/
theorem Period.window_at (period : Period) (offset : Int) (t : Time) :
    (period.windows offset).At (period.window (localDay offset t)) t :=
  (Tiling.at_scaled dayNanos_pos).2 <|
    match period with
    | daily => days_at _
    | weekly => weeks_at _
    | monthly => months_at _
    | yearly => years_at _

/-- The Monday of the week, from the weekday on which Sunday is 0. Reference:
`db/queries/get_budget_usage.go:31 getStartOfBudget`. -/
theorem civilAt_monday (offset : Int) (t : Time) :
    localDay offset (if (civilAt offset t).weekday = 0 then addDaysAt offset t (-6)
      else addDaysAt offset t (-(civilAt offset t).weekday + 1)) =
      weeks.start (weekOf (localDay offset t)) := by
  have hweekday : (civilAt offset t).weekday = ((localDay offset t + 6) % 7).toNat := rfl
  simp only [addDaysAt_eq, weeks, weekOf]
  split
  · rw [localDay_add]
    omega
  · rw [localDay_add]
    omega

/-- The start is that of the window of the day. Reference: `db/queries/get_budget_usage.go:25
getStartOfBudget`. -/
theorem getStartOfBudget_eq (W : World) (offset : Int) (now : Time) (period : Period) :
    getStartOfBudget (W.inZone offset) now period.renewal = period.windowStart offset now := by
  have hmidnight := fun t => dateAt_civilAt offset t 0
  simp only [Int.add_zero] at hmidnight
  cases period with
  | daily => exact hmidnight now
  | weekly =>
    exact (hmidnight _).trans
      (congrArg (· * dayNanos - zoneShift offset) (civilAt_monday offset now))
  | monthly => exact dateAt_first (civilAt_month offset now)
  | yearly =>
    refine (dateAt_first (Int.add_zero _)).trans ?_
    rw [monthStart_year]
    rfl

/-- The date of the start of a month. Reference: Go `time.Time.Date`. -/
theorem civilAt_first (offset k : Int) :
    let c := civilAt offset (monthStart k * dayNanos - zoneShift offset)
    12 * c.year + (c.month - 1) = k ∧ c.day = 1 := by
  refine ⟨(civilAt_month offset _).trans ?_, ?_⟩
  · rw [localDay_start, monthOf_start]
  · unfold civilAt
    rw [localDay_start]
    dsimp only
    rw [monthOf_start]
    omega

/-- A month added to the first day of one. Reference: Go `time.Time.AddDate`. -/
theorem dateAt_monthAfter (offset k : Int) :
    let c := civilAt offset (monthStart k * dayNanos - zoneShift offset)
    dateAt offset c.year (c.month + 1) c.day =
      monthStart (k + 1) * dayNanos - zoneShift offset := by
  obtain ⟨hmonth, hday⟩ := civilAt_first offset k
  dsimp only
  rw [hday]
  exact dateAt_first (by omega)

/-- A year added to the first day of one. Reference: Go `time.Time.AddDate`. -/
theorem dateAt_yearAfter (offset y : Int) :
    let c := civilAt offset (yearStart y * dayNanos - zoneShift offset)
    dateAt offset (c.year + 1) c.month c.day =
      yearStart (y + 1) * dayNanos - zoneShift offset := by
  obtain ⟨hmonth, hday⟩ := civilAt_first offset (12 * y)
  rw [monthStart_year] at hmonth hday
  dsimp only
  rw [hday, ← monthStart_year (y + 1)]
  exact dateAt_first (by omega)

/-- Days added to a midnight. Reference: Go `time.Time.AddDate`. -/
theorem addDaysAt_start (offset n d : Int) :
    addDaysAt offset (n * dayNanos - zoneShift offset) d =
      (n + d) * dayNanos - zoneShift offset := by
  rw [addDaysAt_eq, Int.add_mul, sub_add_eq_add_sub]

/-- The renewal is the start of the next window, as a `uint64`. Reference:
`db/queries/get_budget_usage.go:49 GetBudgetRenewsAt`. -/
theorem GetBudgetRenewsAt_eq (W : World) (offset : Int) (now : Time) (period : Period) :
    GetBudgetRenewsAt (W.inZone offset) now period.renewal =
      some (uint64OfInt (period.windowEnd offset now).toUnix) := by
  unfold GetBudgetRenewsAt
  rw [getStartOfBudget_eq]
  let told : Time → Option Nat := fun renewal => some (uint64OfInt renewal.toUnix)
  cases period with
  | daily => exact congrArg told (addDaysAt_start offset _ 1)
  | weekly =>
    refine congrArg told ((addDaysAt_start offset _ 7).trans ?_)
    exact congrArg (· * dayNanos - zoneShift offset) (weeks_next _).symm
  | monthly => exact congrArg told (dateAt_monthAfter offset _)
  | yearly => exact congrArg told (dateAt_yearAfter offset _)

/-- A midnight is at a whole second. Reference: Go `time.Time.Unix`. -/
theorem unix_toUnix (offset n : Int) :
    Time.unix (Time.toUnix (n * dayNanos - zoneShift offset)) =
      n * dayNanos - zoneShift offset := by
  have hwhole : n * dayNanos - zoneShift offset =
      (n * 86400 - (719528 * 86400 + offset)) * 1000000000 := by
    unfold dayNanos zoneShift
    rw [Int.sub_mul, Int.mul_assoc]
  unfold Time.unix Time.toUnix
  rw [hwhole, Int.mul_ediv_cancel _ (by decide)]

theorem Period.windowEnd_unix (period : Period) (offset : Int) (now : Time) :
    Time.unix (period.windowEnd offset now).toUnix = period.windowEnd offset now :=
  unix_toUnix offset _

/-- The renewal is told as it is exactly when it fits. Reference:
`db/queries/get_budget_usage.go:53 GetBudgetRenewsAt`. -/
theorem unix_uint64_iff {renewal : Time} (h : Time.unix renewal.toUnix = renewal) :
    Time.unix (uint64OfInt renewal.toUnix) = renewal ↔
      0 ≤ renewal ∧ renewal < Time.unix (2 ^ 64) := by
  have hwrap : ∀ sec : Int, ((sec % 2 ^ 64).toNat : Int) * 1000000000 = sec * 1000000000 ↔
      0 ≤ sec * 1000000000 ∧ sec * 1000000000 < 2 ^ 64 * 1000000000 := by
    intro sec
    omega
  generalize renewal.toUnix = sec at h ⊢
  subst h
  unfold Time.unix uint64OfInt
  exact hwrap sec

/-- The function of the instants that the queries call locates the windows. Reference:
`db/queries/get_budget_usage.go:25 getStartOfBudget`. -/
theorem AppPermission.locates {p : AppPermission} (hp : p.budgetRenewal = period.renewal)
    (W : World) (offset : Int) :
    (period.windows offset).Locates (p.start (W.inZone offset)) := by
  intro τ
  refine ⟨_, period.window_at offset τ, ?_⟩
  unfold AppPermission.start
  rw [hp, getStartOfBudget_eq]
  rfl

/-- The windows of a budget are as they should be exactly when the renewal fits its `uint64` and no
payment was created at the very start. Reference: `db/queries/get_budget_usage.go:18
GetBudgetUsageMsat`. -/
theorem budget_windows_iff (W : World) (offset : Int) (p : AppPermission) (t : Table) (now : Time)
    (period : Period) (hp : p.budgetRenewal = period.renewal) :
    BudgetWindow (W.inZone offset) p t now ↔
      (0 ≤ period.windowEnd offset now ∧ period.windowEnd offset now < Time.unix (2 ^ 64)) ∧
        ∀ r ∈ t.rows, r.SpentBy p.appId → r.createdAt ≠ period.windowStart offset now := by
  have hloc := AppPermission.locates hp W offset
  have hat := period.window_at offset now
  have hstart : p.start (W.inZone offset) now = period.windowStart offset now := hloc.eq hat
  have hrenews : GetBudgetRenewsAt (W.inZone offset) now p.budgetRenewal =
      some (uint64OfInt (period.windowEnd offset now).toUnix) := by
    rw [hp]
    exact GetBudgetRenewsAt_eq W offset now period
  have hfits := unix_uint64_iff (period.windowEnd_unix offset now)
  constructor
  · rintro ⟨-, ⟨renewsAt, htold, hnext⟩, -, hcounted⟩
    cases Option.some.inj (htold.symm.trans hrenews)
    refine ⟨hfits.1 ((hloc.next_iff hat).1 hnext), ?_⟩
    intro r hr hspent heq
    have hcreated : p.start (W.inZone offset) now = r.createdAt := hstart.trans heq.symm
    have hnow : r.createdAt ≤ now := hcreated ▸ hloc.le now
    refine (hloc.after_iff hat hcreated.le hnow).1 (fun τ hτ => ?_) hcreated.symm
    rw [← hcounted r hr hspent hcreated.le hnow τ hτ]
    exact (and_iff_right hspent).symm
  · rintro ⟨hfit, hne⟩
    refine ⟨hloc.le now, ⟨_, hrenews, (hloc.next_iff hat).2 (hfits.2 hfit)⟩, ?_, ?_⟩
    · intro usageMsat hu
      exact (GetBudgetUsageMsat_ok hu).trans
        (sum_filter (fun r => p.Counts (W.inZone offset) now r) (·.charge) t.rows).symm
    · intro r hr hspent hle hnow τ hτ
      have hcreated : r.createdAt ≠ p.start (W.inZone offset) now := hstart ▸ hne r hr hspent
      exact (and_iff_right hspent).trans ((hloc.after_iff hat hle hnow).2 hcreated τ hτ)

end

/-- A daily budget. Reference: `db/queries/get_budget_usage_test.go`. -/
def dailyBudget : AppPermission :=
  { appId := 1, scope := "pay_invoice", maxAmountSat := 10, budgetRenewal := "daily" }

/-- A table with one pending payment. Reference: `db/queries/get_budget_usage_test.go`. -/
def paidAt (createdAt : Time) : Table :=
  Table.empty.create createdAt
    { appId := some 1, type := .outgoing, state := .pending, amountMsat := 10000 }

/-- A payment of the first nanosecond after midnight. Reference: none. -/
theorem budget_windows_iff_after :
    BudgetWindow (demo.inZone 0) dailyBudget (paidAt (demoNow + 1)) (demoNow + 1) :=
  (budget_windows_iff demo 0 dailyBudget _ _ .daily rfl).2
    ⟨by decide +kernel, by decide +kernel⟩

/-- A payment of midnight itself: at that instant the budget is spent, and none of it is counted.
Reference: `db/queries/get_budget_usage.go:18 GetBudgetUsageMsat`. -/
theorem midnight_not_counted :
    GetBudgetUsageMsat (demo.inZone 0) demoNow (paidAt demoNow) dailyBudget = .ok 0 ∧
      ¬ BudgetWindow (demo.inZone 0) dailyBudget (paidAt demoNow) demoNow := by
  refine ⟨by decide +kernel, fun h => ?_⟩
  obtain ⟨r, hr, hspent, hcreated⟩ : ∃ r ∈ (paidAt demoNow).rows,
      r.SpentBy dailyBudget.appId ∧ r.createdAt = demoNow := by decide +kernel
  have hstart : dailyBudget.start (demo.inZone 0) demoNow = demoNow := by decide +kernel
  obtain ⟨-, hlt⟩ := (h.counted r hr hspent (by rw [hstart, hcreated]) hcreated.le demoNow
    hcreated.le).2 rfl
  rw [hstart, hcreated] at hlt
  exact absurd hlt (lt_irrefl _)

end AlbyHub
