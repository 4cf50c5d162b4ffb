import Mathlib.Algebra.BigOperators.Group.Multiset.Basic
import Mathlib.Algebra.Ring.Nat

/-!
# Accounts with holds

An account has receipts, payments and holds, each an amount under a key. A hold sets an amount aside
for a payment whose cost is not known yet: it is released, or the payment is booked in its place. A
ledger is a family of accounts, a journal the list of the postings to them (`Journal`). What a
journal does to an account is read off its postings (`Journal.receipts`, `Journal.payments`,
`Journal.holds`, `Journal.balance`), and no key is received or paid twice (`Journal.valid`).
-/

namespace Accounting

/-- An account, with the amounts under their keys. Reference: none. -/
structure Account (K : Type) where
  receipts : Multiset (K × Nat)
  payments : Multiset (K × Nat)
  holds : Multiset (K × Nat)

/-- The sum of the amounts. Reference: none. -/
def amount {K : Type} (entries : Multiset (K × Nat)) : Nat := (entries.map Prod.snd).sum

/-- What may be spent: the receipts without the payments and what is held. Reference: none. -/
def Account.balance {K : Type} (a : Account K) : Int :=
  amount a.receipts - (amount a.payments + amount a.holds : Nat)

/-- What is booked: a receipt, a hold, its release, the payment that it was for, or a payment that
nothing is held for. Reference: none. -/
inductive Booking (K : Type) where
  | receive (key : K) (amount : Nat)
  | hold (key : K) (amount : Nat)
  | release (key : K) (held : Nat)
  | pay (key : K) (held amount : Nat)
  | payUnheld (key : K) (amount : Nat)
  deriving DecidableEq

namespace Booking

variable {K : Type}

/-- The receipts that the booking adds. Reference: none. -/
def receipts : Booking K → Multiset (K × Nat)
  | receive key amount => {(key, amount)}
  | _ => 0

/-- The payments that the booking adds. Reference: none. -/
def payments : Booking K → Multiset (K × Nat)
  | pay key _ amount | payUnheld key amount => {(key, amount)}
  | _ => 0

/-- The holds that the booking opens. Reference: none. -/
def opened : Booking K → Multiset (K × Nat)
  | hold key amount => {(key, amount)}
  | _ => 0

/-- The holds that the booking closes. Reference: none. -/
def closed : Booking K → Multiset (K × Nat)
  | release key held | pay key held _ => {(key, held)}
  | _ => 0

/-- What the booking adds to the balance. Reference: none. -/
def effect : Booking K → Int
  | receive _ amount => amount
  | hold _ amount | payUnheld _ amount => -amount
  | release _ held => held
  | pay _ held amount => held - amount

end Booking

/-- The key has no entry. Reference: none. -/
def Fresh {K : Type} (key : K) (entries : Multiset (K × Nat)) : Prop := key ∉ entries.map Prod.fst

/-- The account after a booking. Nothing is received or paid twice under one key, nothing is held
under the key of a hold or of a payment, and only what is held is released. Reference: none. -/
inductive Account.Books {K : Type} (a : Account K) : Booking K → Account K → Prop
  | receive {key : K} {amount : Nat} : Fresh key a.receipts →
    Books a (.receive key amount) { a with receipts := (key, amount) ::ₘ a.receipts }
  | hold {key : K} {amount : Nat} : Fresh key a.holds → Fresh key a.payments →
    Books a (.hold key amount) { a with holds := (key, amount) ::ₘ a.holds }
  | release {key : K} {held : Nat} {holds : Multiset (K × Nat)} : a.holds = (key, held) ::ₘ holds →
    Books a (.release key held) { a with holds := holds }
  | pay {key : K} {held amount : Nat} {holds : Multiset (K × Nat)} :
    a.holds = (key, held) ::ₘ holds → Fresh key a.payments →
    Books a (.pay key held amount)
      { a with holds := holds, payments := (key, amount) ::ₘ a.payments }
  | payUnheld {key : K} {amount : Nat} : Fresh key a.holds → Fresh key a.payments →
    Books a (.payUnheld key amount) { a with payments := (key, amount) ::ₘ a.payments }

/-- Every key is received, paid and held at most once, and what is paid is not held. Reference:
none. -/
structure Account.Valid {K : Type} (a : Account K) : Prop where
  receipts : (a.receipts.map Prod.fst).Nodup
  payments : (a.payments.map Prod.fst).Nodup
  holds : (a.holds.map Prod.fst).Nodup
  paid : ∀ key ∈ a.payments.map Prod.fst, Fresh key a.holds

section
variable {K : Type} {a a' : Account K} {b : Booking K} {key : K} {n : Nat}
variable {entries : Multiset (K × Nat)}

@[simp] theorem amount_zero : amount (0 : Multiset (K × Nat)) = 0 := rfl

@[simp] theorem amount_cons : amount ((key, n) ::ₘ entries) = n + amount entries := by
  simp [amount]

@[simp] theorem amount_singleton : amount ({(key, n)} : Multiset (K × Nat)) = n := by
  simp [amount]

@[simp] theorem amount_add {entries' : Multiset (K × Nat)} :
    amount (entries + entries') = amount entries + amount entries' := by
  simp [amount]

theorem fresh_cons {key' : K} :
    Fresh key ((key', n) ::ₘ entries) ↔ key ≠ key' ∧ Fresh key entries := by
  rw [Fresh, Multiset.map_cons, Multiset.mem_cons, not_or]
  rfl

theorem nodup_keys_cons : (((key, n) ::ₘ entries).map Prod.fst).Nodup ↔
    Fresh key entries ∧ (entries.map Prod.fst).Nodup := by
  rw [Multiset.map_cons, Multiset.nodup_cons]
  rfl

theorem cons_eq_add : (key, n) ::ₘ entries = entries + {(key, n)} := by
  rw [← Multiset.singleton_add, add_comm]

/-- What a booking does to each part of the account. Reference: none. -/
theorem Account.Books.parts (h : a.Books b a') :
    a'.receipts = a.receipts + b.receipts ∧ a'.payments = a.payments + b.payments ∧
      a'.holds + b.closed = a.holds + b.opened := by
  cases h with
  | receive => exact ⟨cons_eq_add, (add_zero _).symm, rfl⟩
  | hold => exact ⟨(add_zero _).symm, (add_zero _).symm, (add_zero _).trans cons_eq_add⟩
  | release he =>
    have hh := (he.trans cons_eq_add).symm.trans (add_zero _).symm
    exact ⟨(add_zero _).symm, (add_zero _).symm, hh⟩
  | pay he =>
    exact ⟨(add_zero _).symm, cons_eq_add, (he.trans cons_eq_add).symm.trans (add_zero _).symm⟩
  | payUnheld => exact ⟨(add_zero _).symm, cons_eq_add, rfl⟩

theorem Booking.effect_eq : b.effect = (amount b.receipts + amount b.closed : Nat) -
    (amount b.payments + amount b.opened : Nat) := by
  cases b <;> simp [effect, receipts, payments, opened, closed]

/-- What a booking does to the balance. Reference: none. -/
theorem Account.Books.balance (h : a.Books b a') : a'.balance = a.balance + b.effect := by
  obtain ⟨hr, hp, hh⟩ := h.parts
  have hheld := congrArg amount hh
  rw [amount_add, amount_add] at hheld
  rw [Account.balance, Account.balance, hr, hp, amount_add, amount_add, Booking.effect_eq]
  omega

/-- A booking keeps the account valid. Reference: none. -/
theorem Account.Books.valid (h : a.Books b a') (ha : a.Valid) : a'.Valid := by
  cases h with
  | receive hf => exact { ha with receipts := nodup_keys_cons.2 ⟨hf, ha.receipts⟩ }
  | @hold key n hf hp =>
    refine { ha with holds := nodup_keys_cons.2 ⟨hf, ha.holds⟩, paid := fun k hk => ?_ }
    exact fresh_cons.2 ⟨fun heq => hp (heq ▸ hk), ha.paid k hk⟩
  | release he =>
    have hn := ha.holds
    rw [he, nodup_keys_cons] at hn
    refine { ha with holds := hn.2, paid := fun k hk => ?_ }
    have hfresh := ha.paid k hk
    rw [he, fresh_cons] at hfresh
    exact hfresh.2
  | @pay key held n holds he hf =>
    have hn := ha.holds
    rw [he, nodup_keys_cons] at hn
    refine { ha with
      payments := nodup_keys_cons.2 ⟨hf, ha.payments⟩, holds := hn.2, paid := fun k hk => ?_ }
    rw [Multiset.map_cons, Multiset.mem_cons] at hk
    rcases hk with rfl | hk
    · exact hn.1
    · have hfresh := ha.paid k hk
      rw [he, fresh_cons] at hfresh
      exact hfresh.2
  | @payUnheld key n hh hf =>
    refine { ha with payments := nodup_keys_cons.2 ⟨hf, ha.payments⟩, paid := fun k hk => ?_ }
    rw [Multiset.map_cons, Multiset.mem_cons] at hk
    rcases hk with rfl | hk
    · exact hh
    · exact ha.paid k hk

end

/-- What an account says about a key. Reference: none. -/
inductive Entry where
  | none
  | received (amount : Nat)
  | held (amount : Nat)
  | paid (amount : Nat)
  deriving DecidableEq

/-- How an entry may change: it is made, a hold is released or paid, and nothing else is lost.
Reference: none. -/
inductive Entry.Step : Entry → Entry → Prop
  | same {e : Entry} : Step e e
  | make {e : Entry} : Step .none e
  | release {n : Nat} : Step (.held n) .none
  | pay {held n : Nat} : Step (.held held) (.paid n)

namespace Entry

variable {K : Type}

/-- The receipt of the entry. Reference: none. -/
def receipts (key : K) : Entry → Multiset (K × Nat)
  | received amount => {(key, amount)}
  | _ => 0

/-- The payment of the entry. Reference: none. -/
def payments (key : K) : Entry → Multiset (K × Nat)
  | paid amount => {(key, amount)}
  | _ => 0

/-- The hold of the entry. Reference: none. -/
def holds (key : K) : Entry → Multiset (K × Nat)
  | held amount => {(key, amount)}
  | _ => 0

end Entry

/-- The account that entries under keys make up. Reference: none. -/
def Account.ofEntries {K : Type} (es : List (K × Entry)) : Account K where
  receipts := (es.map fun e => e.2.receipts e.1).sum
  payments := (es.map fun e => e.2.payments e.1).sum
  holds := (es.map fun e => e.2.holds e.1).sum

section
variable {K : Type} {es es₁ es₂ : List (K × Entry)} {key : K} {e e' : Entry}

theorem amount_sum {α : Type} {f : α → Multiset (K × Nat)} {l : List α} :
    amount (l.map f).sum = (l.map fun x => amount (f x)).sum := by
  induction l with
  | nil => rfl
  | cons x l ih => rw [List.map_cons, List.sum_cons, amount_add, ih, List.map_cons, List.sum_cons]

/-- The account with the entry beside what it has. Reference: none. -/
def Account.withEntry (base : Account K) (key : K) (e : Entry) : Account K where
  receipts := e.receipts key + base.receipts
  payments := e.payments key + base.payments
  holds := e.holds key + base.holds

/-- No part of the account has an entry under the key. Reference: none. -/
structure Account.Lacks (base : Account K) (key : K) : Prop where
  receipts : Fresh key base.receipts
  payments : Fresh key base.payments
  holds : Fresh key base.holds

@[simp] theorem Account.withEntry_none {base : Account K} : base.withEntry key .none = base := by
  simp [withEntry, Entry.receipts, Entry.payments, Entry.holds]

@[simp] theorem Account.withEntry_received {base : Account K} :
    base.withEntry key (.received n) = { base with receipts := (key, n) ::ₘ base.receipts } := by
  simp [withEntry, Entry.receipts, Entry.payments, Entry.holds]

@[simp] theorem Account.withEntry_held {base : Account K} :
    base.withEntry key (.held n) = { base with holds := (key, n) ::ₘ base.holds } := by
  simp [withEntry, Entry.receipts, Entry.payments, Entry.holds]

@[simp] theorem Account.withEntry_paid {base : Account K} :
    base.withEntry key (.paid n) = { base with payments := (key, n) ::ₘ base.payments } := by
  simp [withEntry, Entry.receipts, Entry.payments, Entry.holds]

/-- A change of an entry is no booking, or one. Reference: none. -/
theorem Account.Lacks.books {base : Account K} (hl : base.Lacks key) (h : e.Step e') :
    base.withEntry key e' = base.withEntry key e ∨
      ∃ b, (base.withEntry key e).Books b (base.withEntry key e') := by
  cases h with
  | same => exact .inl rfl
  | make =>
    cases e' with
    | none => exact .inl rfl
    | received n =>
      rw [withEntry_none, withEntry_received]
      exact .inr ⟨_, .receive hl.receipts⟩
    | held n =>
      rw [withEntry_none, withEntry_held]
      exact .inr ⟨_, .hold hl.holds hl.payments⟩
    | paid n =>
      rw [withEntry_none, withEntry_paid]
      exact .inr ⟨_, .payUnheld hl.holds hl.payments⟩
  | release =>
    rw [withEntry_none, withEntry_held]
    exact .inr ⟨_, .release rfl⟩
  | pay =>
    rw [withEntry_held, withEntry_paid]
    exact .inr ⟨_, .pay rfl hl.payments⟩

/-- Every entry of the key has an account of its own. Reference: none. -/
theorem Account.ofEntries_split :
    Account.ofEntries (es₁ ++ (key, e) :: es₂) = (ofEntries (es₁ ++ es₂)).withEntry key e := by
  simp only [ofEntries, withEntry, List.map_append, List.map_cons, List.sum_append, List.sum_cons,
    Account.mk.injEq]
  exact ⟨add_left_comm _ _ _, add_left_comm _ _ _, add_left_comm _ _ _⟩

/-- A key without an entry is in no part of the account. Reference: none. -/
theorem Account.lacks_ofEntries (h : key ∉ es.map Prod.fst) : (ofEntries es).Lacks key := by
  induction es with
  | nil => exact ⟨Multiset.notMem_zero _, Multiset.notMem_zero _, Multiset.notMem_zero _⟩
  | cons x es ih =>
    obtain ⟨k, e⟩ := x
    rw [List.map_cons, List.mem_cons, not_or] at h
    obtain ⟨hr, hp, hh⟩ := ih h.2
    rw [← List.nil_append ((k, e) :: es), ofEntries_split, List.nil_append]
    have hfresh : ∀ {n : Nat} {entries : Multiset (K × Nat)}, Fresh key entries →
        Fresh key ({(k, n)} + entries) := fun hf =>
      Multiset.singleton_add _ _ ▸ fresh_cons.2 ⟨h.1, hf⟩
    have hzero : ∀ {entries : Multiset (K × Nat)}, Fresh key entries → Fresh key (0 + entries) :=
      fun hf => by rwa [zero_add]
    cases e with
    | none => exact ⟨hzero hr, hzero hp, hzero hh⟩
    | received => exact ⟨hfresh hr, hzero hp, hzero hh⟩
    | held => exact ⟨hzero hr, hzero hp, hfresh hh⟩
    | paid => exact ⟨hzero hr, hfresh hp, hzero hh⟩

/-- Where one entry changes, the account changes by one booking at most. Reference: none. -/
theorem Account.ofEntries_books (hk : key ∉ (es₁ ++ es₂).map Prod.fst) (h : e.Step e') :
    ofEntries (es₁ ++ (key, e') :: es₂) = ofEntries (es₁ ++ (key, e) :: es₂) ∨
      ∃ b, (ofEntries (es₁ ++ (key, e) :: es₂)).Books b (ofEntries (es₁ ++ (key, e') :: es₂)) := by
  rw [ofEntries_split, ofEntries_split]
  exact (lacks_ofEntries hk).books h

theorem Account.ofEntries_append_none : ofEntries (es ++ [(key, .none)]) = ofEntries es := by
  rw [ofEntries_split, withEntry_none, List.append_nil]

/-- A new entry under a new key is one booking at most. Reference: none. -/
theorem Account.ofEntries_append (hk : key ∉ es.map Prod.fst) :
    ofEntries (es ++ [(key, e)]) = ofEntries es ∨
      ∃ b, (ofEntries es).Books b (ofEntries (es ++ [(key, e)])) := by
  have hk' : key ∉ (es ++ []).map Prod.fst := by rwa [List.append_nil]
  have h := ofEntries_books hk' (.make : Entry.none.Step e)
  rwa [ofEntries_append_none] at h

/-- Where the keys are distinct the account is valid. Reference: none. -/
theorem Account.valid_ofEntries (h : (es.map Prod.fst).Nodup) : (ofEntries es).Valid := by
  induction es with
  | nil =>
    exact ⟨Multiset.nodup_zero, Multiset.nodup_zero, Multiset.nodup_zero, fun _ hk =>
      absurd hk (Multiset.notMem_zero _)⟩
  | cons x es ih =>
    obtain ⟨k, e⟩ := x
    rw [List.map_cons, List.nodup_cons] at h
    have hv := ih h.2
    have hk : k ∉ ([] ++ es).map Prod.fst := h.1
    rcases Account.ofEntries_books hk (.make : Entry.none.Step e) with heq | ⟨b, hb⟩
    · rw [List.nil_append] at heq
      rw [heq, ofEntries_split, Account.withEntry_none]
      exact hv
    · rw [ofEntries_split (e := .none), Account.withEntry_none] at hb
      exact hb.valid hv

end

/-- A ledger reaches another one by the postings of the list, each a booking on one account.
Reference: none. -/
inductive Journal {A K : Type} (l : A → Account K) : List (A × Booking K) → (A → Account K) → Prop
  | nil : Journal l [] l
  | post {js : List (A × Booking K)} {l₁ l₂ : A → Account K} {a : A} {b : Booking K} :
    Journal l js l₁ → (l₁ a).Books b (l₂ a) → (∀ a', a' ≠ a → l₂ a' = l₁ a') →
    Journal l (js ++ [(a, b)]) l₂

section
variable {A K M : Type} {l l' : A → Account K} {js : List (A × Booking K)} {a : A}

/-- The sum of what the bookings on an account are worth. Reference: none. -/
def posted [DecidableEq A] [AddCommMonoid M] (f : Booking K → M) (a : A)
    (js : List (A × Booking K)) : M :=
  (js.map fun j => if j.1 = a then f j.2 else 0).sum

variable [DecidableEq A]

@[simp] theorem posted_nil [AddCommMonoid M] {f : Booking K → M} : posted f a [] = 0 := rfl

theorem posted_post [AddCommMonoid M] {f : Booking K → M} {a' : A} {b : Booking K} :
    posted f a (js ++ [(a', b)]) = posted f a js + if a' = a then f b else 0 := by
  simp [posted]

/-- What holds of an account and what was posted to it, if every booking keeps it. Reference:
none. -/
theorem Journal.induction [AddCommMonoid M] {f : Booking K → M} {P : Account K → M → Prop}
    (h0 : P (l a) 0) (hstep : ∀ c b c' m, P c m → c.Books b c' → P c' (m + f b))
    (h : Journal l js l') : P (l' a) (posted f a js) := by
  induction h with
  | nil => exact h0
  | @post js l₁ l₂ a' b _ hb hn ih =>
    rw [posted_post]
    by_cases he : a' = a
    · subst he
      rw [if_pos rfl]
      exact hstep _ _ _ _ ih hb
    · rw [if_neg he, add_zero, hn a fun heq => he heq.symm]
      exact ih

/-- The receipts of an account after a journal. Reference: none. -/
theorem Journal.receipts (h : Journal l js l') :
    (l' a).receipts = (l a).receipts + posted Booking.receipts a js :=
  h.induction (P := fun c m => c.receipts = (l a).receipts + m) (add_zero _).symm
    fun c b c' m hc hb => by rw [hb.parts.1, hc, add_assoc]

/-- The payments of an account after a journal. Reference: none. -/
theorem Journal.payments (h : Journal l js l') :
    (l' a).payments = (l a).payments + posted Booking.payments a js :=
  h.induction (P := fun c m => c.payments = (l a).payments + m) (add_zero _).symm
    fun c b c' m hc hb => by rw [hb.parts.2.1, hc, add_assoc]

/-- The balance of an account after a journal. Reference: none. -/
theorem Journal.balance (h : Journal l js l') :
    (l' a).balance = (l a).balance + posted Booking.effect a js :=
  h.induction (P := fun c m => c.balance = (l a).balance + m) (add_zero _).symm
    fun c b c' m hc hb => by rw [hb.balance, hc, add_assoc]

omit [DecidableEq A] in
theorem Journal.trans {l'' : A → Account K} {js' : List (A × Booking K)} (h : Journal l js l')
    (h' : Journal l' js' l'') : Journal l (js ++ js') l'' := by
  induction h' with
  | nil => rw [List.append_nil]; exact h
  | post _ hb hn ih =>
    rw [← List.append_assoc]
    exact .post ih hb hn

omit [DecidableEq A] in
/-- A journal keeps every account valid. Reference: none. -/
theorem Journal.valid (h : Journal l js l') (ha : ∀ a, (l a).Valid) (a : A) : (l' a).Valid := by
  induction h generalizing a with
  | nil => exact ha a
  | @post js l₁ l₂ a' b _ hb hn ih =>
    by_cases he : a = a'
    · subst he
      exact hb.valid (ih a)
    · rw [hn a he]
      exact ih a

/-- The holds of an account after a journal. Reference: none. -/
theorem Journal.holds (h : Journal l js l') : (l' a).holds + posted Booking.closed a js =
    (l a).holds + posted Booking.opened a js := by
  induction h with
  | nil => rfl
  | @post js l₁ l₂ a' b _ hb hn ih =>
    rw [posted_post, posted_post]
    by_cases he : a' = a
    · subst he
      rw [if_pos rfl, if_pos rfl, add_comm (posted _ _ _), ← add_assoc, hb.parts.2.2,
        add_right_comm, ih, add_assoc]
    · rw [if_neg he, if_neg he, add_zero, add_zero, hn a fun heq => he heq.symm]
      exact ih

/-- No key of an account is received or paid twice by a journal. Reference: none. -/
theorem Journal.once (h : Journal l js l') (ha : ∀ a, (l a).Valid) (a : A) :
    ((posted Booking.receipts a js).map Prod.fst).Nodup ∧
      ((posted Booking.payments a js).map Prod.fst).Nodup := by
  obtain ⟨hr, hp, -, -⟩ := h.valid ha a
  rw [h.receipts, Multiset.map_add] at hr
  rw [h.payments, Multiset.map_add] at hp
  exact ⟨Multiset.nodup_of_le (Multiset.le_add_left _ _) hr,
    Multiset.nodup_of_le (Multiset.le_add_left _ _) hp⟩

end

end Accounting
