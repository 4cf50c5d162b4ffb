import AlbyHub.Swaps.Creation
import Mathlib.Data.List.Nodup

/-!
# Creations do not touch each other

A call holds on to the id of its row: as long as it has not returned it may still mark the row as
failed, and once its request was sent its key is taken. Two calls never hold on to the same id,
provided that an insert does not get an id that an earlier call holds on to; postgres gives no id
twice. A committed row belongs to the call that holds on to its id, and this is the only one that
may mark it.
-/

namespace AlbyHub.Creation

open Interaction

/-! ## Discipline -/

/-- The id of the swap whose key a request carries. Reference: `swaps/swaps_service.go:312 SwapOut`,
`:484 SwapIn`. -/
def CreateCmd.sends : CreateCmd → Option Nat
  | .createReverseSwap claimPublicKey _ _ => some claimPublicKey.swapID
  | .createSwap refundPublicKey _ => some refundPublicKey.swapID
  | _ => none

/-- The call has inserted the row. Reference: `swaps/swaps_service.go:302 SwapOut`, `:474
SwapIn`. -/
def SavedIn (h : List CreateCall) (id : Nat) : Prop :=
  ∃ row, (⟨.save row, .ok id⟩ : CreateCall) ∈ h

/-- The call has sent a request with the key of the id. Reference: `swaps/swaps_service.go:323
SwapOut`, `:484 SwapIn`. -/
def SentIn (h : List CreateCall) (id : Nat) : Prop := ∃ call ∈ h, call.cmd.sends = some id

/-- The commands that need a history. Reference: `swaps/swaps_service.go:301 SwapOut`, `:473
SwapIn`, `:597 markSwapState`. -/
def CreateOk (h : List CreateCall) : CreateCmd → Prop
  | .save _ => ∀ call ∈ h, ∀ row, call.cmd ≠ .save row
  | .createReverseSwap claimPublicKey _ _ =>
    SavedIn h claimPublicKey.swapID ∧ ∀ call ∈ h, call.cmd.sends = none
  | .createSwap refundPublicKey _ =>
    SavedIn h refundPublicKey.swapID ∧ ∀ call ∈ h, call.cmd.sends = none
  | .commit id => SavedIn h id ∧ SentIn h id ∧ ∀ call ∈ h, ∀ id', call.cmd ≠ .commit id'
  | .updateState id _ => SavedIn h id
  | _ => True

/-- A command that needs no history and leaves no trace in it. Reference: none. -/
def CreateCmd.Plain : CreateCmd → Prop
  | .save _ | .createReverseSwap _ _ _ | .createSwap _ _ | .commit _ | .updateState _ _ => False
  | _ => True

section
variable {h : List CreateCall} {c : CreateCmd} {α β : Type} {id : Nat}

theorem SavedIn.cons {call : CreateCall} (hs : SavedIn h id) : SavedIn (call :: h) id := by
  obtain ⟨row, hmem⟩ := hs
  exact ⟨row, List.mem_cons_of_mem _ hmem⟩

theorem SentIn.cons {call : CreateCall} (hs : SentIn h id) : SentIn (call :: h) id := by
  obtain ⟨call', hmem, he⟩ := hs
  exact ⟨call', List.mem_cons_of_mem _ hmem, he⟩

theorem CreateOk.of_plain (hc : c.Plain) : CreateOk h c := by
  cases c with
  | save row => exact hc.elim
  | createReverseSwap key preimageHash onchainAmount => exact hc.elim
  | createSwap key invoice => exact hc.elim
  | commit id => exact hc.elim
  | updateState id state => exact hc.elim
  | _ => trivial

theorem CreateCmd.Plain.sends_eq (hc : c.Plain) : c.sends = none := by
  cases c with
  | createReverseSwap key preimageHash onchainAmount => exact hc.elim
  | createSwap key invoice => exact hc.elim
  | _ => rfl

/-- The rule of a plain command. Reference: none. -/
theorem follows_plain {f : c.Ans → CreateProg β} {post : List CreateCall → β → Prop} (hc : c.Plain)
    (hf : ∀ r, Follows CreateOk post (⟨c, r⟩ :: h) (f r)) :
    Follows CreateOk post h (c.issue >>= f) :=
  ⟨CreateOk.of_plain hc, hf⟩

/-- The transaction is open and no request was sent. Reference: `swaps/swaps_service.go:307
SwapOut`, `:479 SwapIn`. -/
structure Begun (h : List CreateCall) (id : Nat) : Prop where
  saved : SavedIn h id
  unsent : ∀ call ∈ h, call.cmd.sends = none
  uncommitted : ∀ call ∈ h, ∀ id', call.cmd ≠ .commit id'

/-- The transaction is open and Boltz was asked. Reference: `swaps/swaps_service.go:325 SwapOut`,
`:493 SwapIn`. -/
structure Asked (h : List CreateCall) (id : Nat) : Prop where
  saved : SavedIn h id
  sent : SentIn h id
  uncommitted : ∀ call ∈ h, ∀ id', call.cmd ≠ .commit id'

theorem Begun.cons {r : c.Ans} (hb : Begun h id) (hc : c.Plain) : Begun (⟨c, r⟩ :: h) id := by
  refine ⟨hb.saved.cons, fun call hcall => ?_, fun call hcall id' he => ?_⟩
  · rcases List.mem_cons.1 hcall with rfl | hcall
    · exact hc.sends_eq
    · exact hb.unsent call hcall
  · rcases List.mem_cons.1 hcall with rfl | hcall
    · have hcommit : c = .commit id' := he
      rw [hcommit] at hc
      exact hc
    · exact hb.uncommitted call hcall id' he

theorem Asked.cons {r : c.Ans} (ha : Asked h id) (hc : c.Plain) : Asked (⟨c, r⟩ :: h) id := by
  refine ⟨ha.saved.cons, ha.sent.cons, fun call hcall id' he => ?_⟩
  rcases List.mem_cons.1 hcall with rfl | hcall
  · have hcommit : c = .commit id' := he
    rw [hcommit] at hc
    exact hc
  · exact ha.uncommitted call hcall id' he

/-- A request turns an open transaction into one that Boltz was asked in. Reference:
`swaps/swaps_service.go:323 SwapOut`, `:484 SwapIn`. -/
theorem Begun.asked {r : c.Ans} (hb : Begun h id) (hc : c.sends = some id)
    (hcommit : ∀ id', c ≠ .commit id') : Asked (⟨c, r⟩ :: h) id := by
  refine ⟨hb.saved.cons, ⟨_, List.mem_cons_self, hc⟩, fun call hcall id' => ?_⟩
  rcases List.mem_cons.1 hcall with rfl | hcall
  · exact hcommit id'
  · exact hb.uncommitted call hcall id'

/-- What the deferred function works on was inserted by the call. Reference:
`swaps/swaps_service.go:294 SwapOut`. -/
def CreatedPost (h : List CreateCall) (created : Created) : Prop :=
  created.id ≠ 0 → SavedIn h created.id

theorem follows_rollback {swapId err : String} (hs : SavedIn h id) :
    Follows CreateOk CreatedPost h (rollback id swapId err) :=
  follows_plain trivial fun _ _ => hs.cons

theorem follows_complete {swap : BoltzSwap} {u : SwapDetails} (ha : Asked h id) :
    Follows CreateOk CreatedPost h (complete id swap u) := by
  refine follows_plain trivial fun r => ?_
  have ha₁ := ha.cons (c := .updates id u) (r := r) trivial
  cases r with
  | error e => exact follows_rollback ha₁.saved
  | ok _ =>
    refine ⟨⟨ha₁.saved, ha₁.sent, ha₁.uncommitted⟩, fun r => ?_⟩
    cases r with
    | error e => exact follows_rollback ha₁.saved.cons
    | ok _ => exact fun _ => ha₁.saved.cons

/-- The history of a call that has not begun its transaction. Reference: none. -/
def Before (h : List CreateCall) : Prop := ∀ call ∈ h, call.cmd.Plain

theorem Before.cons {r : c.Ans} (hb : Before h) (hc : c.Plain) : Before (⟨c, r⟩ :: h) := by
  intro call hcall
  rcases List.mem_cons.1 hcall with rfl | hcall
  · exact hc
  · exact hb call hcall

theorem Before.save {row : SwapRow} (hb : Before h) : CreateOk h (.save row) := by
  intro call hcall row' he
  have hplain := hb call hcall
  rw [he] at hplain
  exact hplain

theorem Before.begun {row : SwapRow} (hb : Before h) : Begun (⟨.save row, .ok id⟩ :: h) id := by
  refine ⟨⟨row, List.mem_cons_self⟩, fun call hcall => ?_, fun call hcall id' he => ?_⟩
  · rcases List.mem_cons.1 hcall with rfl | hcall
    · rfl
    · exact (hb call hcall).sends_eq
  · rcases List.mem_cons.1 hcall with rfl | hcall
    · cases he
    · have hplain := hb call hcall
      rw [he] at hplain
      exact hplain

theorem follows_swapOutTransaction {dbSwap : SwapRow} {preimageHash : String}
    {amountSat claimFeeSat : Nat} (hb : Before h) :
    Follows CreateOk CreatedPost h
      (swapOutTransaction dbSwap preimageHash amountSat claimFeeSat) := by
  refine ⟨hb.save, fun r => ?_⟩
  cases r with
  | error e => exact fun hne => absurd rfl hne
  | ok id =>
    have hbegun : Begun (⟨.save dbSwap, .ok id⟩ :: h) id := hb.begun
    refine follows_plain trivial fun r => ?_
    have hb₁ := hbegun.cons (c := .getSwapKey id) (r := r) trivial
    cases r with
    | error e => exact follows_rollback hb₁.saved
    | ok _ =>
      refine ⟨⟨hb₁.saved, hb₁.unsent⟩, fun r => ?_⟩
      have ha := hb₁.asked (c := .createReverseSwap ⟨id⟩ preimageHash (amountSat + claimFeeSat))
        (r := r) rfl nofun
      cases r with
      | error e => exact follows_rollback ha.saved
      | ok swap =>
        refine follows_plain trivial fun r => ?_
        have ha₁ := ha.cons (c := .marshalTree) (r := r) trivial
        cases r with
        | error e => exact follows_rollback ha₁.saved
        | ok _ =>
          refine follows_plain trivial fun r => ?_
          have ha₂ := ha₁.cons
            (c := .verifySwapOutInvoice swap.invoice dbSwap.paymentHash amountSat) (r := r) trivial
          cases r with
          | error e => exact follows_rollback ha₂.saved
          | ok sendAmountSat => exact follows_complete ha₂

theorem follows_swapInTransaction {dbSwap : SwapRow} (hb : Before h) :
    Follows CreateOk CreatedPost h (swapInTransaction dbSwap) := by
  refine ⟨hb.save, fun r => ?_⟩
  cases r with
  | error e => exact fun hne => absurd rfl hne
  | ok id =>
    have hbegun : Begun (⟨.save dbSwap, .ok id⟩ :: h) id := hb.begun
    refine follows_plain trivial fun r => ?_
    have hb₁ := hbegun.cons (c := .getSwapKey id) (r := r) trivial
    cases r with
    | error e => exact follows_rollback hb₁.saved
    | ok _ =>
      refine ⟨⟨hb₁.saved, hb₁.unsent⟩, fun r => ?_⟩
      have ha := hb₁.asked (c := .createSwap ⟨id⟩ dbSwap.invoice) (r := r) rfl nofun
      cases r with
      | error e => exact follows_rollback ha.saved
      | ok swap =>
        refine follows_plain trivial fun r => ?_
        have ha₁ := ha.cons (c := .marshalTree) (r := r) trivial
        cases r with
        | error e => exact follows_rollback ha₁.saved
        | ok _ => exact follows_complete ha₁

/-- Any return. Reference: none. -/
def anyPost {α : Type} (_ : List CreateCall) (_ : α) : Prop := True

theorem follows_fail {swapId err : String} (hs : id ≠ 0 → SavedIn h id) :
    Follows CreateOk anyPost h (fail id swapId err : CreateProg (Except String α)) := by
  unfold fail
  split
  · trivial
  · next hne =>
    refine follows_plain trivial fun marked => ?_
    cases marked with
    | true => trivial
    | false => exact ⟨(hs hne).cons, fun r => trivial⟩

/-- The rule of a plain step that can fail. Reference: none. -/
theorem follows_andThen {p : CreateProg (Except String α)} {text : String}
    {f : α → CreateProg (Except String β)} {post : List CreateCall → Except String α → Prop}
    (hp : Follows CreateOk post h p) (hf : ∀ h' a, post h' (.ok a) →
    Follows CreateOk anyPost h' (f a)) :
    Follows CreateOk anyPost h (p.andThen text f) := by
  refine hp.bind fun h' r _ hm => ?_
  cases r with
  | error e => trivial
  | ok a => exact hf h' a hm

/-- A plain command that can fail, before the transaction. Reference: none. -/
theorem follows_ask {c : CreateCmd} (hb : Before h) (hc : c.Plain) :
    Follows CreateOk (fun h' _ => Before h') h c.issue :=
  ⟨CreateOk.of_plain hc, fun _ => hb.cons hc⟩

theorem follows_SwapOut {amountSat : Nat} {destination : String}
    {autoSwap usedXpubDerivation : Bool}
    (hb : Before h) :
    Follows CreateOk anyPost h (SwapOut amountSat destination autoSwap usedXpubDerivation) := by
  have hdestination : Follows CreateOk (fun h' _ =>
    Before h') h (swapOutDestination destination) := by
    unfold swapOutDestination
    split
    · have hask : Follows CreateOk (fun h' _ => Before h') h CreateCmd.getNewOnchainAddress.issue :=
        follows_ask hb trivial
      refine hask.bind fun h' r _ hb' => ?_
      cases r with
      | error e => exact hb'
      | ok destination => exact hb'
    · exact hb
  refine follows_andThen hdestination fun h' destination hb' => ?_
  refine follows_andThen (follows_ask hb' trivial) fun h' random hb' => ?_
  refine follows_andThen (follows_ask hb' trivial) fun h' claimFeeSat hb' => ?_
  refine (follows_swapOutTransaction hb').bind fun h' created _ hc => ?_
  cases created.result with
  | error e => exact follows_fail hc
  | ok swap => trivial

theorem follows_SwapIn {amountSat : Nat} {autoSwap : Bool} (hb : Before h) :
    Follows CreateOk anyPost h (SwapIn amountSat autoSwap) := by
  refine follows_andThen (follows_ask hb trivial) fun h' invoice hb' => ?_
  refine follows_andThen (follows_ask hb' trivial) fun h' _ hb' => ?_
  refine (follows_swapInTransaction hb').bind fun h' created _ hc => ?_
  cases created.result with
  | error e => exact follows_fail hc
  | ok swap =>
    refine follows_plain trivial fun r => ?_
    cases r with
    | error e => exact follows_fail fun hne => (hc hne).cons
    | ok _ => trivial

/-- Every call follows the discipline. Reference: `swaps/swaps_service.go:59 SwapsService`. -/
theorem follows_createBody (op : CreateOp) : Follows CreateOk anyPost [] (createBody op) := by
  have hb : Before [] := nofun
  cases op with
  | swapOut amountSat destination autoSwap usedXpubDerivation => exact follows_SwapOut hb
  | swapIn amountSat autoSwap => exact follows_SwapIn hb

end

/-! ## The invariant -/

/-- The call holds on to the id: it may still mark the row, or its key is taken. Reference: none. -/
def Live (id : Nat) (t : CreateThread) : Prop :=
  SavedIn t.hist id ∧ (t.rest.done = false ∨ SentIn t.hist id)

/-- On sqlite no insert gets an id that a call holds on to. Reference: `swaps/swaps_service.go:302
SwapOut`, `:474 SwapIn`. -/
def NoReuse (postgres : Bool) (cfg : CreatePool) : CreateLabel → Prop
  | .spawn _ => True
  | .run i _ => postgres = false → ∀ op h row k,
    cfg.threads[i]? = some ⟨op, h, .cmd (.save row) k⟩ →
    ∀ t ∈ cfg.threads, ¬ Live (cfg.state.seq + 1) t
  | .restart => False

/-- Each id is held on to by one call, and a committed row belongs to it. Reference:
`swaps/swaps_service.go:301 SwapOut`, `:473 SwapIn`. -/
structure Isolated (postgres : Bool) (s : SwapsDb) (ts : List CreateThread) : Prop where
  follows : ∀ t ∈ ts, Follows CreateOk anyPost t.hist t.rest
  obeys : ∀ t ∈ ts, Obeys CreateOk t.hist
  live : ∀ id, Unique (Live id) ts
  numbered : postgres = true → ∀ t ∈ ts, ∀ id, SavedIn t.hist id → id ≤ s.seq
  rowsLe : ∀ row ∈ s.rows, row.id ≤ s.seq
  owner : ∀ row ∈ s.rows, (∃ t ∈ ts, SavedIn t.hist row.id ∧ SentIn t.hist row.id ∧
      (⟨.commit row.id, .ok ()⟩ : CreateCall) ∈ t.hist) ∨ ∀ t ∈ ts, ¬ SavedIn t.hist row.id
  ids : (s.rows.map (·.id)).Nodup

section
variable {postgres : Bool} {s s' : SwapsDb} {ts : List CreateThread} {op : CreateOp}
variable {h : List CreateCall} {c : CreateCmd} {r : c.Ans} {i id : Nat} {t : CreateThread}
variable {k : c.Ans → CreateProg (Except String SwapResponse)}

theorem SavedIn.of_cons (hs : SavedIn (⟨c, r⟩ :: h) id) (hc : ∀ row, c ≠ .save row) :
    SavedIn h id := by
  obtain ⟨row, hmem⟩ := hs
  refine ⟨row, ?_⟩
  rcases List.mem_cons.1 hmem with he | hmem
  · cases he
    exact absurd rfl (hc row)
  · exact hmem

/-- A call that inserts no row holds on to no new id. Reference: none. -/
theorem Live.of_step (hc : SavedIn (⟨c, r⟩ :: h) id → SavedIn h id)
    (hl : Live id ⟨op, ⟨c, r⟩ :: h, k r⟩) : Live id ⟨op, h, .cmd c k⟩ :=
  ⟨hc hl.1, .inl rfl⟩

/-- A command that neither inserts nor commits a row leaves the ids and their sequence. Reference:
none. -/
theorem createExec_frame {env : CreateEnv} (hsave : ∀ row, c ≠ .save row)
    (hcommit : ∀ id, c ≠ .commit id) (hx : createExec postgres s c env = some (r, s')) :
    s'.seq = s.seq ∧ s'.rows.map (·.id) = s.rows.map (·.id) := by
  cases c with
  | save row => exact absurd rfl (hsave row)
  | commit id => exact absurd rfl (hcommit id)
  | updateState id state =>
    simp only [createExec] at hx
    split at hx
    · cases hx
    · split at hx
      · cases hx
        exact ⟨rfl, rfl⟩
      · cases hx
        refine ⟨rfl, ?_⟩
        rw [List.map_map]
        refine List.map_congr_left fun row _ => ?_
        simp only [Function.comp_apply]
        split <;> rfl
  | updates id u =>
    simp only [createExec] at hx
    split at hx
    · cases hx
      exact ⟨rfl, rfl⟩
    · cases hx
      exact ⟨rfl, rfl⟩
  | findInState id swapId state =>
    simp only [createExec] at hx
    split at hx
    · cases hx
      exact ⟨rfl, rfl⟩
    · cases hx
      exact ⟨rfl, rfl⟩
  | _ =>
    cases hx
    exact ⟨rfl, rfl⟩

namespace Isolated

theorem issues (hn : Isolated postgres s ts) (hi : ts[i]? = some ⟨op, h, .cmd c k⟩) :
    CreateOk h c :=
  (hn.follows _ (List.mem_of_getElem? hi)).1

theorem follows_set (hn : Isolated postgres s ts) (hi : ts[i]? = some ⟨op, h, .cmd c k⟩) :
    ∀ t ∈ ts.set i ⟨op, ⟨c, r⟩ :: h, k r⟩, Follows CreateOk anyPost t.hist t.rest := by
  intro t ht
  rcases Config.mem_set ht with rfl | ht
  · exact (hn.follows _ (List.mem_of_getElem? hi)).2 r
  · exact hn.follows t ht

theorem obeys_set (hn : Isolated postgres s ts) (hi : ts[i]? = some ⟨op, h, .cmd c k⟩) :
    ∀ t ∈ ts.set i ⟨op, ⟨c, r⟩ :: h, k r⟩, Obeys CreateOk t.hist := by
  intro t ht
  rcases Config.mem_set ht with rfl | ht
  · exact ⟨hn.issues hi, hn.obeys _ (List.mem_of_getElem? hi)⟩
  · exact hn.obeys t ht

/-- A row keeps its owner, and one without an owner gets none from a call that does not insert its
id. Reference: none. -/
theorem owner_set {row : SwapRow} (hn : Isolated postgres s ts) (hrow : row ∈ s.rows)
    (hi : ts[i]? = some ⟨op, h, .cmd c k⟩)
    (hsave : SavedIn (⟨c, r⟩ :: h) row.id → SavedIn h row.id) :
    (∃ t ∈ ts.set i ⟨op, ⟨c, r⟩ :: h, k r⟩, SavedIn t.hist row.id ∧ SentIn t.hist row.id ∧
      (⟨.commit row.id, .ok ()⟩ : CreateCall) ∈ t.hist) ∨
    ∀ t ∈ ts.set i ⟨op, ⟨c, r⟩ :: h, k r⟩, ¬ SavedIn t.hist row.id := by
  rcases hn.owner row hrow with ⟨t, ht, hsaved, hsent, hcommit⟩ | hnone
  · have hset : (t = ⟨op, h, .cmd c k⟩ ∧ (⟨op, ⟨c, r⟩ :: h, k r⟩ : CreateThread) ∈ ts.set i _) ∨
        t ∈ ts.set i ⟨op, ⟨c, r⟩ :: h, k r⟩ := exists_mem_set hi ht
    rcases hset with ⟨rfl, hnew⟩ | hset
    · exact .inl ⟨_, hnew, hsaved.cons, hsent.cons, List.mem_cons_of_mem _ hcommit⟩
    · exact .inl ⟨t, hset, hsaved, hsent, hcommit⟩
  · refine .inr fun t ht hs => ?_
    rcases Config.mem_set ht with rfl | ht
    · exact hnone _ (List.mem_of_getElem? hi) (hsave hs)
    · exact hnone t ht hs

/-- A step that inserts and commits no row keeps the invariant. Reference: none. -/
theorem quiet (hn : Isolated postgres s ts) (hi : ts[i]? = some ⟨op, h, .cmd c k⟩)
    (hc : ∀ id, SavedIn (⟨c, r⟩ :: h) id → SavedIn h id) (hseq : s'.seq = s.seq)
    (hrows : s'.rows.map (·.id) = s.rows.map (·.id)) :
    Isolated postgres s' (ts.set i ⟨op, ⟨c, r⟩ :: h, k r⟩) := by
  have hold : ∀ row' ∈ s'.rows, ∃ row ∈ s.rows, row.id = row'.id := by
    intro row' hrow'
    have hmem := List.mem_map_of_mem (f := (·.id)) hrow'
    rw [hrows] at hmem
    obtain ⟨row, hrow, he⟩ := List.mem_map.1 hmem
    exact ⟨row, hrow, he⟩
  refine ⟨hn.follows_set hi, hn.obeys_set hi, fun id => (hn.live id).set hi (Live.of_step (hc id)),
    fun hp t ht id hs => ?_, fun row' hrow' => ?_, fun row' hrow' => ?_, ?_⟩
  · rw [hseq]
    rcases Config.mem_set ht with rfl | ht
    · exact hn.numbered hp _ (List.mem_of_getElem? hi) id (hc id hs)
    · exact hn.numbered hp t ht id hs
  · obtain ⟨row, hrow, he⟩ := hold row' hrow'
    rw [hseq, ← he]
    exact hn.rowsLe row hrow
  · obtain ⟨row, hrow, he⟩ := hold row' hrow'
    rw [← he]
    exact hn.owner_set hrow hi (hc row.id)
  · rw [hrows]
    exact hn.ids

/-- A row is inserted under an id that no call holds on to. Reference: `swaps/swaps_service.go:302
SwapOut`, `:474 SwapIn`. -/
theorem save {row : SwapRow} {k : Except String Nat → CreateProg (Except String SwapResponse)}
    (hn : Isolated postgres s ts) (hi : ts[i]? = some ⟨op, h, .cmd (.save row) k⟩)
    (hfree : ∀ t ∈ ts, ¬ Live (s.seq + 1) t) (hrows : s'.rows = s.rows)
    (hseq : s'.seq = if postgres then s.seq + 1 else s.seq) :
    Isolated postgres s' (ts.set i ⟨op, ⟨.save row, .ok (s.seq + 1)⟩ :: h,
      k (.ok (s.seq + 1))⟩) := by
  have hmem := List.mem_of_getElem? hi
  have hle : s.seq ≤ s'.seq := by
    rw [hseq]
    split <;> omega
  -- the new id is the only one that the call has
  have hself : ∀ id, SavedIn (⟨.save row, .ok (s.seq + 1)⟩ :: h) id → id = s.seq + 1 := by
    rintro id ⟨row', hsaved⟩
    rcases List.mem_cons.1 hsaved with he | hsaved
    · cases he
      rfl
    · exact absurd rfl (hn.issues hi _ hsaved row')
  refine ⟨hn.follows_set hi, hn.obeys_set hi, fun id => ?_, fun hp t ht id hs => ?_,
    fun row' hrow' => ?_,
    fun row' hrow' => ?_, ?_⟩
  · by_cases hid : id = s.seq + 1
    · rw [hid]
      exact Unique.set_of_none fun j t hj _ => hfree t (List.mem_of_getElem? hj)
    · exact (hn.live id).set hi fun hl => absurd (hself id hl.1) hid
  · rcases Config.mem_set ht with rfl | ht
    · rw [hself id hs, hseq, hp]
      exact Nat.le_refl _
    · exact Nat.le_trans (hn.numbered hp t ht id hs) hle
  · rw [hrows] at hrow'
    exact Nat.le_trans (hn.rowsLe row' hrow') hle
  · rw [hrows] at hrow'
    refine hn.owner_set hrow' hi fun hs => ?_
    have hid := hself row'.id hs
    have hbound := hn.rowsLe row' hrow'
    omega
  · rw [hrows]
    exact hn.ids

/-- A transaction is committed. Reference: `swaps/swaps_service.go:352 SwapOut`, `:513 SwapIn`. -/
theorem commit {row : SwapRow} {k : Except String Unit → CreateProg (Except String SwapResponse)}
    (hn : Isolated postgres s ts) (hi : ts[i]? = some ⟨op, h, .cmd (.commit id) k⟩)
    (hrow : row.id = id)
    (hrows : s'.rows = s.rows ++ [row]) (hseq : s'.seq = max s.seq id) :
    Isolated postgres s' (ts.set i ⟨op, ⟨.commit id, .ok ()⟩ :: h, k (.ok ())⟩) := by
  have hmem := List.mem_of_getElem? hi
  obtain ⟨hsaved, hsent, hnot⟩ := hn.issues hi
  have hc : ∀ row', CreateCmd.commit id ≠ .save row' := nofun
  have hlive : Live id ⟨op, h, .cmd (.commit id) k⟩ := ⟨hsaved, .inl rfl⟩
  -- no other call has committed the id
  have hnew : ∀ row' ∈ s.rows, row'.id ≠ id := by
    intro row' hrow' he
    rcases hn.owner row' hrow' with ⟨t, ht, hsaved', hsent', hcommit⟩ | hnone
    · rw [he] at hsaved' hsent' hcommit
      obtain ⟨j, hj⟩ := List.mem_iff_getElem?.1 ht
      have hij := hn.live id j i t _ hj hi ⟨hsaved', .inr hsent'⟩ hlive
      rw [hij, hi] at hj
      cases hj
      exact hnot _ hcommit id rfl
    · rw [he] at hnone
      exact hnone _ hmem hsaved
  refine ⟨hn.follows_set hi, hn.obeys_set hi,
    fun id' => (hn.live id').set hi (Live.of_step fun hs => hs.of_cons hc),
    fun hp t ht id' hs => ?_, fun row' hrow' => ?_, fun row' hrow' => ?_, ?_⟩
  · rw [hseq]
    refine Nat.le_trans ?_ (Nat.le_max_left _ _)
    rcases Config.mem_set ht with rfl | ht
    · exact hn.numbered hp _ hmem id' (hs.of_cons hc)
    · exact hn.numbered hp t ht id' hs
  · rw [hseq]
    rw [hrows] at hrow'
    rcases List.mem_append.1 hrow' with hrow' | hrow'
    · exact Nat.le_trans (hn.rowsLe row' hrow') (Nat.le_max_left _ _)
    · rw [List.mem_singleton.1 hrow', hrow]
      exact Nat.le_max_right _ _
  · rw [hrows] at hrow'
    rcases List.mem_append.1 hrow' with hrow' | hrow'
    · exact hn.owner_set hrow' hi fun hs => hs.of_cons hc
    · rw [List.mem_singleton.1 hrow', hrow]
      exact .inl ⟨_, mem_set_self hi, hsaved.cons, hsent.cons, List.mem_cons_self⟩
  · rw [hrows, List.map_append, List.nodup_append]
    refine ⟨hn.ids, List.nodup_singleton _, fun a ha b hb => ?_⟩
    obtain ⟨row', hrow', rfl⟩ := List.mem_map.1 ha
    rw [List.mem_singleton.1 hb]
    exact fun he => hnew row' hrow' (he.trans hrow)

/-- A step that meets the condition keeps the invariant. Reference: `swaps/swaps_service.go`. -/
theorem step {cfg cfg' : CreatePool} {l : CreateLabel}
    (hn : Isolated postgres cfg.state cfg.threads)
    (ha : NoReuse postgres cfg l) (hs : cfg.step (createExec postgres) createBody l = some cfg') :
    Isolated postgres cfg'.state cfg'.threads := by
  cases l with
  | spawn op =>
    cases hs
    have hnew : ∀ t ∈ cfg.threads ++ [⟨op, [], createBody op⟩],
        t ∈ cfg.threads ∨ t = ⟨op, [], createBody op⟩ := fun t ht => by
      rcases List.mem_append.1 ht with ht | ht
      · exact .inl ht
      · exact .inr (List.mem_singleton.1 ht)
    have hempty : ∀ id, ¬ SavedIn [] id := fun id ⟨_, hmem⟩ => nomatch hmem
    refine ⟨fun t ht => ?_, fun t ht => ?_, fun id => (hn.live id).append fun hl => hempty id hl.1,
      fun hp t ht id hs => ?_, hn.rowsLe, fun row hrow => ?_, hn.ids⟩
    · rcases hnew t ht with ht | rfl
      · exact hn.follows t ht
      · exact follows_createBody op
    · rcases hnew t ht with ht | rfl
      · exact hn.obeys t ht
      · trivial
    · rcases hnew t ht with ht | rfl
      · exact hn.numbered hp t ht id hs
      · exact absurd hs (hempty id)
    · rcases hn.owner row hrow with ⟨t, ht, hown⟩ | hnone
      · exact .inl ⟨t, List.mem_append_left _ ht, hown⟩
      · refine .inr fun t ht hs => ?_
        rcases hnew t ht with ht | rfl
        · exact hnone t ht hs
        · exact hempty row.id hs
  | restart => exact ha.elim
  | run i env =>
    obtain ⟨op, h, c, k, r, s', hi, hx, rfl⟩ := Config.step_run hs
    by_cases hsave : ∃ row, c = .save row
    · obtain ⟨row, rfl⟩ := hsave
      simp only [createExec] at hx
      split at hx
      · cases hx
      · split at hx
        · cases hx
          refine hn.quiet hi (fun id hs => ?_) rfl rfl
          obtain ⟨row', hmem⟩ := hs
          refine ⟨row', ?_⟩
          rcases List.mem_cons.1 hmem with he | hmem
          · cases he
          · exact hmem
        · cases hx
          refine hn.save hi (fun t ht hl => ?_) rfl rfl
          cases hp : postgres with
          | false => exact ha hp op h row k hi t ht hl
          | true =>
            have hle := hn.numbered hp t ht _ hl.1
            omega
    have hsave' : ∀ row, c ≠ .save row := fun row he => hsave ⟨row, he⟩
    by_cases hcommit : ∃ id, c = .commit id
    · obtain ⟨id, rfl⟩ := hcommit
      simp only [createExec] at hx
      split at hx
      · cases hx
        exact hn.quiet hi (fun id hs => hs.of_cons hsave') rfl rfl
      · cases hx
        exact hn.quiet hi (fun id hs => hs.of_cons hsave') rfl rfl
      · next row _ hfind =>
        cases hx
        have hid := List.find?_some hfind
        exact hn.commit hi (of_decide_eq_true hid) rfl rfl
    have hframe := createExec_frame hsave' (fun id he => hcommit ⟨id, he⟩) hx
    exact hn.quiet hi (fun id hs => hs.of_cons hsave') hframe.1 hframe.2

end Isolated

/-- Every state of a run that meets the condition keeps the invariant. Reference:
`swaps/swaps_service.go`. -/
theorem Isolated.reach {cfg : CreatePool}
    (hr : Reach (createExec postgres) createBody FreshSwaps (NoReuse postgres) cfg) :
    Isolated postgres cfg.state cfg.threads := by
  refine Reach.induction (P := fun cfg => Isolated postgres cfg.state cfg.threads) ?_
    (fun cfg l cfg' _ hn ha hs => hn.step ha hs) hr
  rintro cfg ⟨hthreads, -, hids, hle⟩
  rw [hthreads]
  exact ⟨nofun, nofun, fun id => nofun, fun _ => nofun, hle, fun row _ => .inr nofun, hids⟩

/-! ## The calls -/

/-- The ids whose keys went to Boltz, with every request that was sent. Reference:
`swaps/swaps_service.go:323 SwapOut`, `:484 SwapIn`. -/
def sentIds (cfg : CreatePool) : List Nat :=
  cfg.threads.flatMap fun t => t.hist.filterMap (·.cmd.sends)

/-- The next step of a call changes no row but one that the call itself has committed. Reference:
`swaps/swaps_service.go:597 markSwapState`. -/
def TouchesOwn (postgres : Bool) (cfg : CreatePool) : Prop :=
  ∀ (i : Nat) t env cfg', cfg.threads[i]? = some t →
    cfg.step (createExec postgres) createBody (.run i env) = some cfg' →
    ∀ row ∈ cfg.state.rows, (⟨.commit row.id, .ok ()⟩ : CreateCall) ∉ t.hist → row ∈ cfg'.state.rows

/-- A call sends at most one request. Reference: `swaps/swaps_service.go:323 SwapOut`, `:484
SwapIn`. -/
theorem nodup_sends (ho : Obeys CreateOk h) : (h.filterMap (·.cmd.sends)).Nodup := by
  induction h with
  | nil => exact List.nodup_nil
  | cons call h ih =>
    rw [List.filterMap_cons]
    cases hsends : call.cmd.sends with
    | none => exact ih ho.2
    | some id =>
      have hunsent : ∀ call' ∈ h, call'.cmd.sends = none := by
        have hok := ho.1
        unfold CreateCmd.sends at hsends
        split at hsends
        · next hcmd =>
          rw [hcmd] at hok
          exact hok.2
        · next hcmd =>
          rw [hcmd] at hok
          exact hok.2
        · cases hsends
      rw [List.filterMap_eq_nil_iff.2 hunsent]
      exact List.nodup_singleton id

/-- A request carries the key of the row that its call has inserted. Reference:
`swaps/swaps_service.go:307 SwapOut`, `:479 SwapIn`. -/
theorem SentIn.saved (ho : Obeys CreateOk h) (hs : SentIn h id) : SavedIn h id := by
  obtain ⟨call, hcall, hsends⟩ := hs
  obtain ⟨h', hsuffix, hok⟩ := ho.of_mem hcall
  have hsaved : SavedIn h' id := by
    unfold CreateCmd.sends at hsends
    split at hsends
    · next hcmd =>
      rw [hcmd] at hok
      cases hsends
      exact hok.1
    · next hcmd =>
      rw [hcmd] at hok
      cases hsends
      exact hok.1
    · cases hsends
  obtain ⟨row, hmem⟩ := hsaved
  exact ⟨row, hsuffix.mem hmem⟩

/-- In a run in which no insert gets an id that an earlier call holds on to, the requests carry the
keys of distinct ids, the rows have distinct ids, and no call changes a row that it has not
committed. Reference: `swaps/swaps_service.go:283 SwapOut`, `:456 SwapIn`, `:597 markSwapState`. -/
theorem creation_isolated {cfg : CreatePool}
    (hr : Reach (createExec postgres) createBody FreshSwaps (NoReuse postgres) cfg) :
    (sentIds cfg).Nodup ∧ (cfg.state.rows.map (·.id)).Nodup ∧ TouchesOwn postgres cfg := by
  have hn := Isolated.reach hr
  refine ⟨?_, hn.ids, fun i t env cfg' hi hs row hrow hcommit => ?_⟩
  · refine List.nodup_flatMap.2 ⟨fun t ht => nodup_sends (hn.obeys t ht), ?_⟩
    refine List.pairwise_iff_getElem.2 fun i j hi hj hlt => ?_
    intro id hid hid'
    have hsent : ∀ (i : Nat) (hi : i < cfg.threads.length),
        id ∈ (cfg.threads[i]).hist.filterMap (·.cmd.sends) → Live id cfg.threads[i] := by
      intro i hi hmem
      obtain ⟨call, hcall, hsends⟩ := List.mem_filterMap.1 hmem
      have hs : SentIn cfg.threads[i].hist id := ⟨call, hcall, hsends⟩
      exact ⟨hs.saved (hn.obeys _ (List.getElem_mem hi)), .inr hs⟩
    have hij := hn.live id i j _ _ (List.getElem?_eq_getElem hi) (List.getElem?_eq_getElem hj)
      (hsent i hi hid) (hsent j hj hid')
    omega
  · obtain ⟨op, h, c, k, r, s', hi', hx, rfl⟩ := Config.step_run hs
    rw [hi] at hi'
    cases hi'
    cases c with
    | updateState id state =>
      simp only [createExec] at hx
      split at hx
      · cases hx
      · split at hx
        · cases hx
          exact hrow
        · cases hx
          refine List.mem_map.2 ⟨row, hrow, if_neg fun he => ?_⟩
          -- a row with this id is the call's own
          have hsaved : SavedIn h id := hn.issues hi
          rw [← he] at hsaved
          rcases hn.owner row hrow with ⟨t, ht, hsaved', hsent', hcommit'⟩ | hnone
          · obtain ⟨j, hj⟩ := List.mem_iff_getElem?.1 ht
            have hij := hn.live row.id j i t _ hj hi ⟨hsaved', .inr hsent'⟩ ⟨hsaved, .inl rfl⟩
            rw [hij, hi] at hj
            cases hj
            exact hcommit hcommit'
          · exact hnone _ (List.mem_of_getElem? hi) hsaved
    | save row' =>
      simp only [createExec] at hx
      split at hx
      · cases hx
      · split at hx
        · cases hx
          exact hrow
        · cases hx
          exact hrow
    | commit id =>
      simp only [createExec] at hx
      split at hx
      · cases hx
        exact hrow
      · cases hx
        exact hrow
      · cases hx
        exact List.mem_append_left _ hrow
    | updates id u =>
      simp only [createExec] at hx
      split at hx
      · cases hx
        exact hrow
      · cases hx
        exact hrow
    | findInState id swapId state =>
      simp only [createExec] at hx
      split at hx
      · cases hx
        exact hrow
      · cases hx
        exact hrow
    | _ =>
      cases hx
      exact hrow

end

/-- A step that inserts nothing is always allowed. Reference: none. -/
theorem NoReuse.of_other {postgres : Bool} {cfg : CreatePool} {i : Nat} {env : CreateEnv}
    {op : CreateOp}
    {h : List CreateCall} {c : CreateCmd} {k : c.Ans → CreateProg (Except String SwapResponse)}
    (hi : cfg.threads[i]? = some ⟨op, h, .cmd c k⟩) (hc : ∀ row, c ≠ .save row) :
    NoReuse postgres cfg (.run i env) := by
  intro _ op' h' row k' hi'
  rw [hi] at hi'
  cases hi'
  exact absurd rfl (hc row)

/-- No swap was created yet. Reference: `swaps/swaps_service.go:79 NewSwapsService`. -/
def noSwaps : CreatePool := ⟨⟨[], [], 0⟩, []⟩

/-- A swap-out is created on sqlite. Reference: `swaps/swaps_service.go:239 SwapOut`. -/
theorem creation_isolated_once : ∃ cfg : CreatePool, sentIds cfg = [1] ∧
    cfg.state.rows.map (·.swapId) = ["swap"] ∧
    (sentIds cfg).Nodup ∧ (cfg.state.rows.map (·.id)).Nodup ∧ TouchesOwn false cfg := by
  have h0 : Reach (createExec false) createBody FreshSwaps (NoReuse false) noSwaps :=
    .start ⟨rfl, rfl, List.nodup_nil, nofun⟩
  have h1 := Reach.step (l := Label.spawn (CreateOp.swapOut 50000 "bc1" false false)) h0 trivial rfl
  have h2 := h1.run (i := 0) (e := {}) rfl (.of_other rfl nofun) rfl
  have h3 := h2.run (i := 0) (e := {}) rfl (.of_other rfl nofun) rfl
  have h4 := h3.run (i := 0) (e := {}) rfl (fun _ op h row k hi t ht => by
    obtain rfl := List.mem_singleton.1 ht
    rintro ⟨⟨row', hmem⟩, -⟩
    simp at hmem) rfl
  have h5 := h4.run (i := 0) (e := {}) rfl (.of_other rfl nofun) rfl
  have h6 := h5.run (i := 0) (e := { swap := ⟨"swap", "", 0, "", 0, "", ""⟩ }) rfl
    (.of_other rfl nofun) rfl
  have h7 := h6.run (i := 0) (e := {}) rfl (.of_other rfl nofun) rfl
  have h8 := h7.run (i := 0) (e := {}) rfl (.of_other rfl nofun) rfl
  have h9 := h8.run (i := 0) (e := {}) rfl (.of_other rfl nofun) rfl
  have h10 := h9.run (i := 0) (e := {}) rfl (.of_other rfl nofun) rfl
  exact ⟨_, rfl, rfl, creation_isolated h10⟩

/-- Some steps of a call in which nothing fails. Reference: none. -/
def creates (i n : Nat) : List CreateLabel := List.replicate n (.run i {})

/-- Boltz does not answer the first call in time. Before it marks its row as failed, another call
inserts a row under the same id, sends its request with the same key and commits. Reference:
`swaps/swaps_service.go:294 SwapOut`. -/
def reuseRun : List CreateLabel :=
  [.spawn (.swapOut 50000 "bc1" false false), .spawn (.swapOut 60000 "bc1" false false)] ++
    creates 0 4 ++ [.run 0 { fault := some "timeout" }] ++ creates 0 1 ++ creates 1 9 ++ creates 0 1

/-- What is seen of a run: the ids whose keys were sent, whether the first call has committed, and
the rows before and after its next step. Reference: none. -/
def reuseLook (cfg : CreatePool) :
    List Nat × Option Bool × List SwapRow × Option (List SwapRow) :=
  (sentIds cfg, (cfg.threads[0]?).map fun t => t.hist.any fun call => call.cmd = .commit 1,
    cfg.state.rows, (cfg.step (createExec false) createBody (.run 0 {})).map (·.state.rows))

/-- The row of the second call. Reference: `swaps/swaps_service.go:278 SwapOut`. -/
def otherRow : SwapRow :=
  { id := 1, type := .swapOut, receiveAmountSat := 60000, destinationAddress := "bc1" }

/-- On sqlite two requests carry the key of one id, and the call that failed marks the row of the
other one. Reference: `swaps/swaps_service.go:294 SwapOut`, `:597 markSwapState`. -/
theorem creation_reuses_id : ∃ cfg,
    Reach (createExec false) createBody FreshSwaps (fun _ _ => True) cfg ∧
    ¬ (sentIds cfg).Nodup ∧ ¬ TouchesOwn false cfg := by
  have h0 : Reach (createExec false) createBody FreshSwaps (fun _ _ => True) noSwaps :=
    .start ⟨rfl, rfl, List.nodup_nil, nofun⟩
  have hlook : (noSwaps.run (createExec false) createBody reuseRun).map reuseLook =
      some ([1, 1], some false, [otherRow], some [{ otherRow with state := .failed }]) := by
    decide +kernel
  obtain ⟨cfg, hafter, hcfg⟩ := Option.map_eq_some_iff.1 hlook
  simp only [reuseLook, Prod.mk.injEq] at hcfg
  obtain ⟨hsent, hthread, hrows, hnext⟩ := hcfg
  obtain ⟨t, ht, hany⟩ := Option.map_eq_some_iff.1 hthread
  obtain ⟨cfg', hstep, hrows'⟩ := Option.map_eq_some_iff.1 hnext
  refine ⟨cfg, h0.of_run (by decide +kernel) hafter, fun hnodup => ?_, fun htouches => ?_⟩
  · rw [hsent] at hnodup
    revert hnodup
    decide
  · have hrow : otherRow ∈ cfg.state.rows := by
      rw [hrows]
      exact List.mem_singleton_self _
    have hkept := htouches 0 t {} cfg' ht hstep otherRow hrow fun hcommit => by
      have hno := List.any_eq_false.1 hany _ hcommit
      exact hno rfl
    rw [hrows'] at hkept
    revert hkept
    decide

end AlbyHub.Creation
