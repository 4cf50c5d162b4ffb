import AlbyHub.Swaps.AutoSwap
import AlbyHub.Swaps.Stops

/-!
# What the auto swap loop does

A loop that is inside a tick has either not created its swap yet (`Preparing`) or is in the swap's
listener (`Listening`), and it waits again when the listener has recorded an end, has failed to, or
has seen that the context is done (`TickOver`). It creates a swap with a derived address only after
Esplora was asked about it in the same tick.
-/

namespace AlbyHub.AutoSwap

open Interaction

/-! ## Ticks -/

/-- What a loop has done since it last waited, latest first. Reference: `swaps/swaps_service.go:186
EnableAutoSwapOut`. -/
def sinceWait : List AutoCall → List AutoCall
  | [] => []
  | ⟨.wait _, _⟩ :: _ => []
  | call :: h => call :: sinceWait h

/-- The last wait of a loop was ended by its timer. Reference: `swaps/swaps_service.go:187
EnableAutoSwapOut`. -/
def Ticked : List AutoCall → Bool
  | [] => false
  | ⟨.wait _, fired⟩ :: _ => fired
  | _ :: h => Ticked h

/-- The creation of the row has succeeded. Reference: `swaps/swaps_service.go:301 SwapOut`. -/
def CreatesRow (id : Nat) : AutoCall → Prop
  | ⟨.createReverseSwap _ _ _ _, .ok (id', _)⟩ => id' = id
  | _ => False

/-- The loop has created the row in this tick. Reference: `swaps/swaps_service.go:301 SwapOut`. -/
def Created (h : List AutoCall) (id : Nat) : Prop := ∃ call ∈ sinceWait h, CreatesRow id call

/-- A call of the listener of the row. Reference: none. -/
def OnRow (P : Call SwapCmd SwapCmd.Ans → Prop) (id : Nat) : AutoCall → Prop
  | ⟨.listen id' c, r⟩ => id' = id ∧ P ⟨c, r⟩
  | _ => False

/-- A state that was not recorded, or an error that is forgotten. Reference:
`swaps/swaps_service.go:606`, `:1288`, `:1297`. -/
def Lost : Call SwapCmd SwapCmd.Ans → Prop
  | ⟨.updates u, .error _⟩ => u.state ≠ none
  | ⟨.check .voutValue, .error _⟩ | ⟨.getFeeRate, .error _⟩ => True
  | _ => False

/-- The context of the service is done. Reference: `swaps/swaps_service.go:1152`. -/
def Cancelled : Call SwapCmd SwapCmd.Ans → Prop
  | ⟨.select, .done⟩ => True
  | _ => False

/-- The listener of every row that the tick has created has come to an end. Reference:
`swaps/swaps_service.go:370 SwapOut`. -/
def TickOver (h : List AutoCall) : Prop :=
  ∀ id, Created h id →
    ∃ call ∈ sinceWait h, OnRow (fun c => Records c ∨ Lost c ∨ Cancelled c) id call

/-- What a call does. Reference: `swaps/swaps_service.go:79`, `:186`, `:239`, `:885`. -/
def AutoOk (op : AutoSpawn) (h : List AutoCall) : AutoCmd → Prop
  | .newSwapsService proc => proc = op.proc ∧ h = []
  | .wait _ => Ticked h = true → TickOver h
  | .createReverseSwap _ destination _ usedXpubDerivation =>
    Ticked h = true ∧ (∀ id, ¬ Created h id) ∧ (usedXpubDerivation = true →
      (⟨.checkAddressHasTransactions destination, .ok false⟩ : AutoCall) ∈ sinceWait h)
  | .listen _ (.updates u) => u.state ≠ some .pending
  | _ => True

/-- A command that a discipline says nothing about. Reference: none. -/
def AutoCmd.Plain : AutoCmd → Prop
  | .newSwapsService _ | .wait _ | .createReverseSwap _ _ _ _ | .listen _ _ => False
  | _ => True

/-- A command inside a tick that creates nothing. Reference: none. -/
def AutoCmd.Inner : AutoCmd → Prop
  | .wait _ | .createReverseSwap _ _ _ _ => False
  | _ => True

section
variable {op : AutoSpawn} {h h' : List AutoCall} {c : AutoCmd} {r : c.Ans} {α : Type} {id : Nat}

theorem AutoCmd.Plain.inner (hc : c.Plain) : c.Inner := by
  cases c <;> first | exact trivial | exact hc.elim

theorem AutoOk.of_plain (hc : c.Plain) : AutoOk op h c := by
  cases c <;> first | exact trivial | exact hc.elim

theorem sinceWait_cons (hc : ∀ ctx, c ≠ .wait ctx) :
    sinceWait (⟨c, r⟩ :: h) = ⟨c, r⟩ :: sinceWait h := by
  cases c <;> first | rfl | exact absurd rfl (hc _)

theorem ticked_cons (hc : ∀ ctx, c ≠ .wait ctx) : Ticked (⟨c, r⟩ :: h) = Ticked h := by
  cases c <;> first | rfl | exact absurd rfl (hc _)

theorem AutoCmd.Inner.ne_wait (hc : c.Inner) (ctx : Nat) : c ≠ .wait ctx := by
  rintro rfl
  exact hc

/-- A command that creates nothing leaves the created rows as they are. Reference: none. -/
theorem created_cons_iff (hw : ∀ ctx, c ≠ .wait ctx) (hc : ∀ id, ¬ CreatesRow id ⟨c, r⟩) :
    Created (⟨c, r⟩ :: h) id ↔ Created h id := by
  unfold Created
  rw [sinceWait_cons hw]
  refine ⟨?_, fun ⟨call, hmem, hcall⟩ => ⟨call, List.mem_cons_of_mem _ hmem, hcall⟩⟩
  rintro ⟨call, hmem, hcall⟩
  rcases List.mem_cons.1 hmem with rfl | hmem
  · exact absurd hcall (hc id)
  · exact ⟨call, hmem, hcall⟩

theorem AutoCmd.Inner.not_creates (hc : c.Inner) (id : Nat) : ¬ CreatesRow id ⟨c, r⟩ := by
  cases c <;> first | exact fun he => he | exact hc.elim

theorem created_cons (hc : c.Inner) : Created (⟨c, r⟩ :: h) id ↔ Created h id :=
  created_cons_iff hc.ne_wait hc.not_creates

theorem sinceWait_subset : sinceWait h ⊆ h := by
  induction h with
  | nil => exact fun _ hmem => hmem
  | cons call h ih =>
    obtain ⟨c, r⟩ := call
    intro call hmem
    by_cases hw : ∃ ctx, c = .wait ctx
    · obtain ⟨ctx, rfl⟩ := hw
      cases hmem
    · rw [sinceWait_cons fun ctx he => hw ⟨ctx, he⟩] at hmem
      rcases List.mem_cons.1 hmem with rfl | hmem
      · exact List.mem_cons_self
      · exact List.mem_cons_of_mem _ (ih hmem)

theorem OnRow.mono {P Q : Call SwapCmd SwapCmd.Ans → Prop} {call : AutoCall} (hc : OnRow P id call)
    (hPQ : ∀ call, P call → Q call) : OnRow Q id call := by
  obtain ⟨c, r⟩ := call
  cases c with
  | listen id' c => exact ⟨hc.1, hPQ _ hc.2⟩
  | _ => exact hc.elim

theorem OnRow.or {P Q : Call SwapCmd SwapCmd.Ans → Prop} {call : AutoCall}
    (hc : OnRow (fun c => P c ∨ Q c) id call) : OnRow P id call ∨ OnRow Q id call := by
  obtain ⟨c, r⟩ := call
  cases c with
  | listen id' c =>
    obtain ⟨hid, hc | hc⟩ := hc
    · exact .inl ⟨hid, hc⟩
    · exact .inr ⟨hid, hc⟩
  | _ => exact hc.elim

/-- A call of a listener that is not the new one is an old one. Reference: none. -/
theorem onRow_of_cons {P : Call SwapCmd SwapCmd.Ans → Prop} {call₀ : AutoCall}
    (hc : ∃ call ∈ call₀ :: h, OnRow P id call) : OnRow P id call₀ ∨ ∃ call ∈ h,
    OnRow P id call := by
  obtain ⟨call, hmem, hcall⟩ := hc
  rcases List.mem_cons.1 hmem with rfl | hmem
  · exact .inl hcall
  · exact .inr ⟨call, hmem, hcall⟩

theorem mem_sinceWait_cons {call : AutoCall} (hc : c.Inner) (hmem : call ∈ sinceWait h) :
    call ∈ sinceWait (⟨c, r⟩ :: h) := by
  rw [sinceWait_cons hc.ne_wait]
  exact List.mem_cons_of_mem _ hmem

/-- A loop may wait: it is not inside a tick, or the tick is over. Reference: none. -/
def Ready (h : List AutoCall) : Prop := Ticked h = true → TickOver h

/-- A loop is inside a tick and has not created a swap. Reference: none. -/
def Preparing (h : List AutoCall) : Prop := Ticked h = true ∧ ∀ id, ¬ Created h id

/-- A loop is inside a tick and in the listener of the row. Reference: none. -/
def Listening (id : Nat) (h : List AutoCall) : Prop :=
  Ticked h = true ∧ ∀ id', Created h id' → id' = id

theorem Ready.cons (hr : Ready h) (hc : c.Inner) : Ready (⟨c, r⟩ :: h) := by
  intro ht id hcreated
  rw [ticked_cons hc.ne_wait] at ht
  obtain ⟨call, hmem, hcall⟩ := hr ht id ((created_cons hc).1 hcreated)
  exact ⟨call, mem_sinceWait_cons hc hmem, hcall⟩

theorem Preparing.cons (hp : Preparing h) (hc : c.Inner) : Preparing (⟨c, r⟩ :: h) := by
  refine ⟨?_, fun id hcreated => hp.2 id ((created_cons hc).1 hcreated)⟩
  rw [ticked_cons hc.ne_wait]
  exact hp.1

theorem Preparing.ready (hp : Preparing h) : Ready h :=
  fun _ id hcreated => absurd hcreated (hp.2 id)

theorem Listening.cons (hl : Listening id h) (hc : c.Inner) : Listening id (⟨c, r⟩ :: h) := by
  refine ⟨?_, fun id' hcreated => hl.2 id' ((created_cons hc).1 hcreated)⟩
  rw [ticked_cons hc.ne_wait]
  exact hl.1

/-- The rule of a plain command. Reference: none. -/
theorem follows_plain {f : c.Ans → AutoProg α} {post : List AutoCall → α → Prop} (hc : c.Plain)
    (hf : ∀ r, Follows (AutoOk op) post (⟨c, r⟩ :: h) (f r)) :
    Follows (AutoOk op) post h (c.issue >>= f) :=
  ⟨AutoOk.of_plain hc, hf⟩

end

/-! ## The listener -/

/-- A listener leaves its loop only where the context is done. Reference:
`swaps/swaps_service.go:1152`. -/
def Stays (hs : SwapHistory) : Turn → Prop
  | .leave exit => exit = .cancelled ∧ ∃ call ∈ hs, Cancelled call
  | _ => True

/-- Where a listener has left its loop, its context is done. Reference:
`swaps/swaps_service.go:1152`. -/
def LeftCancelled (hs : SwapHistory) (exit : SwapExit) : Prop :=
  exit = .cancelled → ∃ call ∈ hs, Cancelled call

/-- A part of a turn after which the listener goes on or stops. Reference: none. -/
abbrev Remains (hs : SwapHistory) (p : Swp Turn) : Prop :=
  Follows (fun _ _ => True) (fun _ t => ∀ exit, t ≠ .leave exit) hs p

section
variable {hs : SwapHistory} {swap : Swap} {update : SwapMessage} {n : Nat}

theorem Remains.stays {p : Swp Turn} (hp : Remains hs p) :
    Follows (fun _ _ => True) Stays hs p := by
  refine hp.mono (fun _ _ h => h) fun h' t _ ht => ?_
  cases t with
  | leave exit => exact absurd rfl (ht exit)
  | again swap => trivial
  | stop err => trivial

theorem remains_claimPoll : Remains hs (claimPoll swap) := by
  unfold claimPoll
  split
  · exact nofun
  · refine .call trivial fun r => ?_
    match r with
    | .error e => exact nofun
    | .ok false => exact nofun
    | .ok true =>
      refine follows_any.seq fun h' _ _ => ?_
      refine follows_any.seq fun h'' _ _ => ?_
      exact ⟨trivial, fun _ => nofun⟩

theorem remains_sendClaim {claimAmountSat : Nat} : Remains hs (sendClaim swap claimAmountSat) := by
  refine .call trivial fun r => ?_
  match r with
  | .error e => exact nofun
  | .ok () =>
    refine follows_any.seq fun h' r _ => ?_
    match r with
    | .error e => exact nofun
    | .ok claimTxId =>
      refine .call trivial fun r => ?_
      match r with
      | .error e => exact nofun
      | .ok () => exact nofun

theorem remains_claimLockup : Remains hs (claimLockup swap update) := by
  refine .call trivial fun r => ?_
  match r with
  | .error e => exact nofun
  | .ok () =>
    refine .call trivial fun r => ?_
    match r with
    | .error e => exact nofun
    | .ok () =>
      refine follows_any.seq fun h' r _ => ?_
      match r with
      | .error e => exact nofun
      | .ok () =>
        refine .call trivial fun r => ?_
        match r with
        | .error e => exact nofun
        | .ok claimAmountSat => exact remains_sendClaim

theorem remains_lockupDetected : Remains hs (lockupDetected swap update) := by
  refine follows_any.seq fun h' r _ => ?_
  match r with
  | .error e => exact nofun
  | .ok () =>
    have claims : ∀ swap : Swap, Remains h'
        (if swap.claimTxId ≠ "" then return .again swap else claimLockup swap update) := by
      intro swap
      split
      · exact nofun
      · exact remains_claimLockup
    exact claims _

theorem remains_swapOutUpdate : Remains hs (swapOutUpdate swap update) := by
  unfold swapOutUpdate
  split
  · exact ⟨trivial, fun _ => nofun⟩
  · exact remains_lockupDetected
  · exact remains_lockupDetected
  · exact nofun
  · exact nofun
  · exact nofun

theorem stays_swapOutTurn : Follows (fun _ _ => True) Stays hs (swapOutTurn swap) := by
  refine .call trivial fun signal => ?_
  match signal with
  | .done => exact ⟨rfl, _, List.mem_cons_self, trivial⟩
  | .paymentError e => trivial
  | .claimTicker => exact remains_claimPoll.stays
  | .closed => trivial
  | .update update =>
    simp only
    split
    · trivial
    · exact remains_swapOutUpdate.stays

theorem left_cleanup {err : Option String} :
    Follows (fun _ _ => True) LeftCancelled hs (cleanup err) := by
  cases err with
  | none => exact nofun
  | some e => exact follows_any.seq fun h' _ _ => nofun

theorem left_listen : Follows (fun _ _ => True) LeftCancelled hs (listen swapOutTurn n swap) := by
  induction n generalizing hs swap with
  | zero => exact nofun
  | succ n ih =>
    refine stays_swapOutTurn.bind fun h' t _ ht => ?_
    cases t with
    | again swap => exact ih
    | leave exit => exact fun _ => ht.2
    | stop err => exact left_cleanup

theorem left_startSwapOutListener :
    Follows (fun _ _ => True) LeftCancelled hs (startSwapOutListener n swap) := by
  refine .call trivial fun r => ?_
  match r with
  | .error e => exact left_cleanup
  | .ok () =>
    refine .call trivial fun r => ?_
    match r with
    | .error e => exact left_cleanup
    | .ok () => exact left_listen

end

/-! ## Discipline -/

section
variable {op : AutoSpawn} {h h' : List AutoCall} {α : Type} {id : Nat}

/-- The listener's calls are among those since the last wait. Reference: none. -/
def Seen (id : Nat) (hs : SwapHistory) (h : List AutoCall) : Prop :=
  ∀ call ∈ hs, call.cmd ≠ .bumpAutoswapXpubIndex →
    (⟨.listen id call.cmd, call.answer⟩ : AutoCall) ∈ sinceWait h

/-- What a call on the row keeps, and what it has done. Reference: none. -/
def AtRow (P : List AutoCall → Prop) (id : Nat) (hs : SwapHistory) (h : List AutoCall) : Prop :=
  P h ∧ Seen id hs h

theorem listenCmd_eq {c : SwapCmd} (hc : c ≠ .bumpAutoswapXpubIndex) :
    listenCmd id c = AutoCmd.issue (.listen id c) := by
  cases c <;> first | rfl | exact absurd rfl hc

/-- Reference: `swaps/swaps_service.go:1392 bumpAutoswapXpubIndex`. -/
theorem follows_bump {P : List AutoCall → Prop}
    (hP : ∀ h (c : AutoCmd) r, c.Plain → P h → P (⟨c, r⟩ :: h)) (h0 : P h) :
    Follows (AutoOk op) (fun h' _ => P h') h bumpAutoswapXpubIndex := by
  refine follows_plain trivial fun r => ?_
  have h1 := hP _ (.get .AutoSwapXpubIndexStart) r trivial h0
  match r with
  | .error e => exact h1
  | .ok indexStr =>
    simp only
    split
    · exact h1
    · exact follows_plain trivial fun r => hP _ _ r trivial h1

/-- A call of the swaps service on the row. Reference: `swaps/swaps_service.go:885`, `:1053`. -/
theorem follows_onRow {swapOp : SwapOp} {post : SwapHistory → α → Prop} {p : Swp α}
    {P : List AutoCall → Prop}
    (hP : ∀ h (c : AutoCmd) r, (c.Plain ∨ ∃ id c', c = .listen id c') → P h → P (⟨c, r⟩ :: h))
    (hp : Follows swapOp.Ok post [] p) (h0 : P h) :
    Follows (AutoOk op) (fun h' a => ∃ hs, AtRow P id hs h' ∧ post hs a) h (onRow id p) := by
  have hstart : AtRow P id [] h := ⟨h0, nofun⟩
  refine hp.through hstart ?_
  rintro c hs h ⟨hph, hseen⟩ hok
  by_cases hc : c = .bumpAutoswapXpubIndex
  · subst hc
    refine (follows_bump (P := AtRow P id hs) ?_ ⟨hph, hseen⟩).mono (fun _ _ h => h)
      fun h' _ _ hpost => ⟨hpost.1, fun call hmem hne => ?_⟩
    · rintro h c r hc ⟨hph, hseen⟩
      exact ⟨hP h c r (.inl hc) hph,
        fun call hmem hne => mem_sinceWait_cons hc.inner (hseen call hmem hne)⟩
    · rcases List.mem_cons.1 hmem with rfl | hmem
      · exact absurd rfl hne
      · exact hpost.2 call hmem hne
  · rw [listenCmd_eq hc]
    have hcmd : AutoOk op h (.listen id c) := by
      cases c with
      | updates u =>
        intro he
        simp only [SwapOp.Ok, he] at hok
      | _ => trivial
    refine ⟨hcmd, fun r => ⟨hP h _ r (.inr ⟨id, c, rfl⟩) hph, fun call hmem hne => ?_⟩⟩
    rcases List.mem_cons.1 hmem with rfl | hmem
    · exact List.mem_cons_self
    · exact List.mem_cons_of_mem _ (hseen call hmem hne)

/-- A listener that has returned has ended the tick. Reference: `swaps/swaps_service.go:370
SwapOut`. -/
theorem tickOver_of_left {n : Nat} {swap : Swap} {hs : SwapHistory} {exit : SwapExit}
    (hrow : AtRow (Listening id) id hs h) (hleft : (SwapOp.swapOut n swap).Left hs exit)
    (hcancelled : LeftCancelled hs exit) (hrun : exit ≠ .running) : TickOver h := by
  intro id' hcreated
  rw [hrow.1.2 id' hcreated]
  have hends : ∃ call ∈ hs, Records call ∨ Lost call ∨ Cancelled call := by
    cases exit with
    | running => exact absurd rfl hrun
    | cancelled =>
      obtain ⟨call, hmem, hcall⟩ := hcancelled rfl
      exact ⟨call, hmem, .inr (.inr hcall)⟩
    | returned err =>
      have hlost : ∀ state call, Unrecorded state call → Lost call := by
        rintro state ⟨c, r⟩ hu
        cases c with
        | updates u =>
          cases r with
          | error e =>
            intro he
            have hstate : u.state = some state := hu
            rw [he] at hstate
            cases hstate
          | ok a => cases a; exact hu.elim
        | _ => exact hu.elim
      obtain ⟨call, hmem, hcall | hcall | hcall | hcall⟩ := hleft err rfl
      · exact ⟨call, hmem, .inl hcall⟩
      · exact ⟨call, hmem, .inr (.inl (hlost _ call hcall))⟩
      · exact ⟨call, hmem, .inr (.inl (hlost _ call hcall))⟩
      · refine ⟨call, hmem, .inr (.inl ?_)⟩
        obtain ⟨c, r⟩ := call
        cases c with
        | check what =>
          cases r with
          | error e => cases what <;> trivial
          | ok a => cases a; cases what <;> exact hcall.elim
        | getFeeRate =>
          cases r with
          | error e => trivial
          | ok a => cases a; exact hcall.elim
        | _ => exact hcall.elim
  obtain ⟨call, hmem, hcall⟩ := hends
  refine ⟨_, hrow.2 call hmem ?_, rfl, hcall⟩
  intro he
  obtain ⟨c, r⟩ := call
  obtain rfl : c = .bumpAutoswapXpubIndex := he
  rcases hcall with hcall | hcall | hcall <;> exact hcall

/-- How a part of a tick leaves the loop: where it has returned, the loop may wait. Reference:
`swaps/swaps_service.go:186 EnableAutoSwapOut`. -/
def EndedReady (h : List AutoCall) (e : Ended) : Prop := e = .returned → Ready h

/-- Reference: `swaps/swaps_service.go:239 SwapOut`. -/
theorem follows_SwapOut {n amountSat : Nat} {destination : String} {used : Bool} (hp : Preparing h)
    (hused : used = true →
      (⟨.checkAddressHasTransactions destination, .ok false⟩ : AutoCall) ∈ sinceWait h) :
    Follows (AutoOk op) EndedReady h (SwapOut n amountSat destination used) := by
  refine .call ⟨hp.1, hp.2, hused⟩ fun r => ?_
  match r with
  | .error e =>
    rintro - ht id ⟨call, hmem, hcall⟩
    rcases List.mem_cons.1 hmem with rfl | hmem
    · exact hcall.elim
    · exact absurd ⟨call, hmem, hcall⟩ (hp.2 id)
  | .ok (id, swap) =>
    have hlistening : Listening id
        (⟨.createReverseSwap amountSat destination true used, .ok (id, swap)⟩ :: h) := by
      refine ⟨hp.1, fun id' ⟨call, hmem, hcall⟩ => ?_⟩
      rcases List.mem_cons.1 hmem with rfl | hmem
      · exact hcall.symm
      · exact absurd ⟨call, hmem, hcall⟩ (hp.2 id')
    have hlistener : Follows (SwapOp.swapOut n swap).Ok
        (fun hs exit => (SwapOp.swapOut n swap).Left hs exit ∧ LeftCancelled hs exit) []
        (startSwapOutListener n swap) :=
      ((swapBody_follows (.swapOut n swap)).and left_startSwapOutListener).mono
        (fun _ _ h => h.1) (fun _ _ _ h => ⟨h.1 rfl, h.2⟩)
    refine (follows_onRow (P := Listening id) ?_ hlistener hlistening).bind ?_
    · rintro h c r (hc | ⟨id', c', rfl⟩) hl
      · exact hl.cons hc.inner
      · exact hl.cons trivial
    · rintro h' exit - ⟨hs, hrow, hleft, hcancelled⟩
      match exit with
      | .running => exact nofun
      | .cancelled =>
        exact fun _ _ => tickOver_of_left hrow hleft hcancelled nofun
      | .returned err =>
        exact fun _ _ => tickOver_of_left hrow hleft hcancelled nofun

/-- The loop over the addresses. The one that it answers was looked up in this tick. Reference:
`swaps/swaps_service.go:1545 getNextUnusedAddressFromXpub`. -/
def UnusedAddress (h : List AutoCall) (r : Except AddressErr String) : Prop :=
  Preparing h ∧ ∀ address, r = .ok address → address ≠ "" ∧
    (⟨.checkAddressHasTransactions address, .ok false⟩ : AutoCall) ∈ sinceWait h

variable {derive : String → Nat → Except String String}

theorem follows_firstUnused {xpub : String} {is : List Nat}
    (hderive : ∀ xpub i, derive xpub i ≠ .ok "") (hp : Preparing h) :
    Follows (AutoOk op) UnusedAddress h (firstUnused derive xpub is) := by
  induction is generalizing h with
  | nil => exact ⟨hp, nofun⟩
  | cons i is ih =>
    unfold firstUnused
    split
    · exact ⟨hp, nofun⟩
    · next address hd =>
      refine follows_plain trivial fun r => ?_
      have hp' : Preparing (⟨.checkAddressHasTransactions address, r⟩ :: h) := hp.cons trivial
      match r with
      | .error e => exact ⟨hp', nofun⟩
      | .ok true => exact ih hp'
      | .ok false =>
        refine ⟨hp', fun address' he => ?_⟩
        cases he
        exact ⟨fun he => hderive xpub i (he ▸ hd), List.mem_cons_self⟩

/-- Reference: `swaps/swaps_service.go:1484 getNextUnusedAddressFromXpub`. -/
theorem follows_getNextUnusedAddressFromXpub (hderive : ∀ xpub i, derive xpub i ≠ .ok "")
    (hp : Preparing h) :
    Follows (AutoOk op) UnusedAddress h (getNextUnusedAddressFromXpub derive) := by
  refine follows_plain trivial fun destination => ?_
  have h1 : Preparing (⟨.decryptedXpub, destination⟩ :: h) := hp.cons trivial
  split
  · exact ⟨h1, nofun⟩
  · refine follows_plain trivial fun r => ?_
    have h2 : Preparing (⟨.get .AutoSwapXpubIndexStart, r⟩ :: _) := h1.cons trivial
    match r with
    | .error e => exact ⟨h2, nofun⟩
    | .ok indexStr =>
      simp only
      split
      · exact ⟨h2, nofun⟩
      · exact follows_firstUnused hderive h2

/-- Reference: `swaps/swaps_service.go:239 SwapOut`. -/
theorem follows_swapOutTo {n : Nat} {w : Workflow} {destination : String} {used : Bool}
    (hp : Preparing h) (hused : used = true → destination ≠ "" ∧
      (⟨.checkAddressHasTransactions destination, .ok false⟩ : AutoCall) ∈ sinceWait h) :
    Follows (AutoOk op) EndedReady h (swapOutTo n w destination used) := by
  unfold swapOutTo swapOutDestination
  split
  · next hempty =>
    refine follows_plain trivial fun r => ?_
    have hp' : Preparing (⟨.getNewOnchainAddress, r⟩ :: h) := hp.cons trivial
    match r with
    | .error e => exact fun _ => hp'.ready
    | .ok address => exact follows_SwapOut hp' fun hu => absurd hempty (hused hu).1
  · exact follows_SwapOut hp fun hu => (hused hu).2

/-- Reference: `swaps/swaps_service.go:187 EnableAutoSwapOut`. -/
theorem follows_tick {n : Nat} {w : Workflow} (hderive : ∀ xpub i, derive xpub i ≠ .ok "")
    (hp : Preparing h) : Follows (AutoOk op) EndedReady h (tick derive n w) := by
  refine follows_plain trivial fun r => ?_
  have h1 : Preparing (⟨.getBalances w.ctx, r⟩ :: h) := hp.cons trivial
  match r with
  | .error e => exact fun _ => h1.ready
  | .ok totalSpendableMsat =>
    simp only
    split
    · exact fun _ => h1.ready
    · refine follows_plain trivial fun decryptedXpub => ?_
      have h2 : Preparing (⟨.decryptedXpub, decryptedXpub⟩ :: _) := h1.cons trivial
      split
      · exact follows_swapOutTo h2 nofun
      · refine (follows_getNextUnusedAddressFromXpub hderive h2).bind fun h' r _ hr => ?_
        match r with
        | .error e => exact fun _ => hr.1.ready
        | .ok actualDestination => exact follows_swapOutTo hr.1 fun _ => hr.2 _ rfl

/-- What a call has done by the time that it returns does not matter. Reference: none. -/
def anyPost {α : Type} (_ : List AutoCall) (_ : α) : Prop := True

/-- The turns of the goroutine. Reference: `swaps/swaps_service.go:184 EnableAutoSwapOut`. -/
theorem follows_workflow {n m : Nat} {w : Workflow} (hderive : ∀ xpub i, derive xpub i ≠ .ok "")
    (hr : Ready h) : Follows (AutoOk op) anyPost h (workflow derive n w m) := by
  induction m generalizing h with
  | zero => trivial
  | succ m ih =>
    refine ⟨hr, fun fired => ?_⟩
    cases fired with
    | false => trivial
    | true =>
      have hp : Preparing (⟨.wait w.ctx, true⟩ :: h) := by
        refine ⟨rfl, fun id ⟨call, hmem, _⟩ => ?_⟩
        cases hmem
      refine (follows_tick hderive hp).bind fun h' e _ he => ?_
      cases e with
      | running => trivial
      | returned => exact ih (he rfl)

theorem follows_getText {key : ConfigKey} (hr : Ready h) :
    Follows (AutoOk op) (fun h' _ => Ready h') h (getText key) := by
  refine follows_plain trivial fun r => ?_
  have h1 : Ready (⟨.get key, r⟩ :: h) := hr.cons trivial
  match r with
  | .error e => exact h1
  | .ok value => exact h1

/-- Reference: `swaps/swaps_service.go:154 EnableAutoSwapOut`. -/
theorem follows_loadDestination (hr : Ready h) :
    Follows (AutoOk op) (fun h' _ => Ready h') h loadDestination := by
  refine follows_plain trivial fun r => ?_
  have h1 : Ready (⟨.get .AutoSwapDestinationKey, r⟩ :: h) := hr.cons trivial
  match r with
  | .error e => exact h1
  | .ok swapDestination =>
    simp only
    split
    · exact h1
    · refine follows_plain trivial fun valid => ?_
      have h2 : Ready (⟨.validateXpub swapDestination, valid⟩ :: _) := h1.cons trivial
      cases valid with
      | false => exact h2
      | true => exact follows_plain trivial fun _ => h2.cons trivial

/-- Reference: `swaps/swaps_service.go:146 EnableAutoSwapOut`. -/
theorem follows_EnableAutoSwapOut (hr : Ready h) :
    Follows (AutoOk op) (fun h' _ => Ready h') h EnableAutoSwapOut := by
  have hcancelled : ∀ {h : List AutoCall} {ctx : Nat} {r : Except String (Option Workflow)},
      Ready h → Follows (AutoOk op) (fun h' _ => Ready h') h (cancelled ctx r) :=
    fun {_ ctx _} hr => follows_plain trivial fun _ => hr.cons (c := .cancel ctx) trivial
  have hstop : Follows (AutoOk op) (fun h' _ => Ready h') h StopAutoSwapOut :=
    follows_plain trivial fun _ => ⟨trivial, fun _ =>
      (hr.cons (c := .callCancelFn) trivial).cons (c := .setDecryptedXpub "") trivial⟩
  refine hstop.bind fun h1 _ _ hr => ?_
  refine follows_plain trivial fun ctx => ?_
  refine follows_plain trivial fun _ => ?_
  have hr : Ready (⟨.setDecryptedXpub "", ()⟩ :: ⟨.withCancel, ctx⟩ :: h1) :=
    (hr.cons (c := .withCancel) trivial).cons (c := .setDecryptedXpub "") trivial
  refine (follows_loadDestination hr).bind fun h2 _ _ hr => ?_
  refine (follows_getText hr).bind fun h3 balanceThresholdStr _ hr => ?_
  refine (follows_getText hr).bind fun h4 amountStr _ hr => ?_
  split
  · exact hcancelled hr
  · split
    · exact hcancelled hr
    · split
      · exact hcancelled hr
      · next amountSat _ =>
        exact follows_plain trivial fun _ => hr.cons (c := .setCancelFn ctx) trivial

/-- Reference: `swaps/swaps_service.go:146 EnableAutoSwapOut`. -/
theorem follows_enableAutoSwapOut {n : Nat} (hderive : ∀ xpub i, derive xpub i ≠ .ok "")
    (hr : Ready h) : Follows (AutoOk op) anyPost h (enableAutoSwapOut derive n) := by
  refine (follows_EnableAutoSwapOut hr).bind fun h' r _ hr => ?_
  match r with
  | .error e => trivial
  | .ok none => trivial
  | .ok (some w) => exact follows_workflow hderive hr

/-- Reference: `swaps/swaps_service.go:858 subscribePendingSwaps`. -/
theorem follows_resumeSwap {n amountSat : Nat} :
    Follows (AutoOk op) anyPost h (resumeSwap n amountSat id) := by
  refine follows_plain trivial fun row => ?_
  have hrow : ∀ {h : List AutoCall} (swapOp : SwapOp),
      Follows (AutoOk op) anyPost h (onRow id (swapBody swapOp)) := fun swapOp =>
    (follows_onRow (P := fun _ => True) (fun _ _ _ _ _ => trivial) (swapBody_follows swapOp)
      trivial).mono (fun _ _ h => h) fun _ _ _ _ => trivial
  match row with
  | none => trivial
  | some swap =>
    simp only
    split
    · exact hrow (.swapIn amountSat n swap)
    · exact hrow (.swapOut n swap)

/-- What a call does. Reference: `swaps/swaps_service.go:79`, `:135`, `:146`, `:858`. -/
theorem follows_autoBody (hderive : ∀ xpub i, derive xpub i ≠ .ok "") (call : AutoSpawn) :
    Follows (AutoOk call) anyPost [] (autoBody derive call) := by
  have hnew : Ready [] := nofun
  unfold autoBody
  split
  · next n =>
    refine ⟨⟨rfl, rfl⟩, fun _ => follows_enableAutoSwapOut hderive (hnew.cons trivial)⟩
  · exact follows_enableAutoSwapOut hderive hnew
  · exact ⟨trivial, fun _ => ⟨trivial, fun _ => trivial⟩⟩
  · exact follows_plain trivial fun _ => trivial
  · exact follows_resumeSwap
  · exact follows_plain trivial fun _ => trivial

end

end AlbyHub.AutoSwap
