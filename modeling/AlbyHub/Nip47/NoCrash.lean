import AlbyHub.Nip47.EventHandler
import AlbyHub.Nip47.Results

/-!
# When the event handler crashes

Three error paths of `HandleEvent` publish their response even where it could not be created, and
two controllers read what need not be there. `handleEvent_harmless_iff` says exactly when no answers
of the outside lead to a panic.
-/

namespace AlbyHub.EventHandler

open Go Interaction Panicking

/-- What the outside of the handler may answer. Every command is answered somehow; what the
transactions service reads is as in every reachable state of its database (`exec_answersReadable`),
and a connection is created as the apps service does. Reference: none. -/
structure Surroundings where
  may : (c : EventCmd) → c.Ans → Prop
  answered : ∀ c, ∃ a, may c a
  readable : ∀ c a, may (.service c) a → AnswersReadable ⟨c, a⟩
  created : ∀ params a, may (.createConnection params) a →
    ∃ env r, a = (AlbyHub.HandleCreateConnectionEvent env params r).map (·.1)

/-! ## The condition -/

/-- The encryption that the event names. Reference: `nip47/event_handler.go:111 HandleEvent`. -/
def encryptionOf (L : Library) (event : NostrEvent) : String :=
  match L.findTag event.tags "encryption" with
  | none => "nip04"
  | some encryptionTag => encryptionTag.getD 1 ""

/-- The cipher of the request. Reference: `nip47/event_handler.go:117 HandleEvent`. -/
def requestCipher (L : Library) (x : Context) : Except String Nip47Cipher :=
  NewNip47Cipher L.toNostr (encryptionOf L x.event) x.app.appPubkey x.appWalletPrivKey

/-- The event is signed, it is stored, its app is found, and the app's key is derived. Reference:
`nip47/event_handler.go:34 HandleEvent`. -/
structure Admitted (L : Library) (S : Surroundings) (lnClientStarted : Bool) (x : Context) :
    Prop where
  signed : L.checkSignature x.event = .ok true
  started : lnClientStarted = true
  stored : S.may (.createRequestEvent x.event.id) (.ok x.requestEventId)
  found : S.may (.firstApp x.event.pubKey) (.ok x.app)
  derived : AlbyHub.appWalletPrivKey L.toNostr x.app = .ok x.appWalletPrivKey

/-- The errors that are published without a look at whether their response was created. Reference:
`nip47/event_handler.go:158`, `:185`, `:247 HandleEvent`. -/
inductive Unchecked (L : Library) (S : Surroundings) (x : Context) : Nip47Cipher → Nip47Error → Prop
  | encryption {cipher : Nip47Cipher} {e : String} : requestCipher L x = .error e →
      nip44Cipher L x = .ok cipher → Unchecked L S x cipher ⟨"UNSUPPORTED_ENCRYPTION", e⟩
  | save {cipher : Nip47Cipher} {e : Err} : requestCipher L x = .ok cipher →
      S.may (.updateRequestApp x.requestEventId x.app.id) (.error e) →
      Unchecked L S x cipher ⟨"INTERNAL", "Failed to save app to nostr event: " ++ e.error⟩
  | decrypt {cipher cipher' : Nip47Cipher} {e : String} : requestCipher L x = .ok cipher →
      S.may (.updateRequestApp x.requestEventId x.app.id) (.ok ()) →
      Decrypt L cipher x.event.content = .error e → nip44Cipher L x = .ok cipher' →
      Unchecked L S x cipher' ⟨"BAD_REQUEST", "failed to decrypt: " ++ e⟩

/-- The response can be encoded, encrypted and signed. Reference: `nip47/event_handler.go:452
CreateResponse`. -/
def Creatable (L : Library) (S : Surroundings) (x : Context) (cipher : Nip47Cipher)
    (error : Nip47Error) : Prop :=
  ∀ turn, S.may .turn turn → ∃ payload msg appWalletPubKey resp,
    L.marshalResponse { error := some error } = .ok payload ∧
    cipher.Encrypt L.toNostr (turn.random cipher.encryption) payload = .ok msg ∧
    L.getPublicKey x.appWalletPrivKey = .ok appWalletPubKey ∧
    L.sign {
      pubKey := appWalletPubKey
      createdAt := turn.now.toUnix
      kind := 23195
      tags := [["p", x.event.pubKey], ["e", x.event.id]]
      content := msg } x.appWalletPrivKey = .ok resp

/-- The permission check lets the request pass. Reference: `nip47/event_handler.go:335
HandleEvent`. -/
def Permitted (S : Surroundings) (x : Context) (request : Request) : Prop :=
  request.method ∈ GetAlwaysGrantedMethods ∨
    ∃ scope, RequestMethodToScope request.method = .ok scope ∧
      (∃ now, S.may (.service .now) now ∧ isStale now x.event scope = false) ∧
      ∃ turn, S.may .turn turn ∧ (HasPermission turn x.app scope).1 = true

/-- The request is decrypted, decoded and handed to its controller. Reference:
`nip47/event_handler.go:170 HandleEvent`. -/
def Dispatched (L : Library) (S : Surroundings) (x : Context) (request : Request) : Prop :=
  ∃ cipher payload, requestCipher L x = .ok cipher ∧
    S.may (.updateRequestApp x.requestEventId x.app.id) (.ok ()) ∧
    Decrypt L cipher x.event.content = .ok payload ∧
    L.unmarshalRequest payload = .ok request ∧ Permitted S x request

/-- The app's metadata is not the JSON `null`, and the sub-wallet's lightning address in it is a
text. Reference: `nip47/controllers/get_info_controller.go:50 HandleGetInfoEvent`. -/
def InfoFits (L : Library) (app : AppRow) : Prop :=
  appMetadata L app ≠ none ∧
    (app.isolated = true → hasSubwalletAddress (appMetadata L app) = true →
      ∃ address, lookupKey "lud16" (appMetadata L app) = some (.string address))

/-- The controller of the request reads nothing that is not there: a keysend's preimage has 32 bytes
(or is none at all), and the metadata of `get_info` fits. Reference: `nip47/controllers`. -/
def Request.Fits (L : Library) (app : AppRow) (request : Request) : Prop :=
  match request.method with
  | "pay_keysend" =>
    ∀ params, L.payKeysendParams request.params = .ok params → KeysendPreimageFits params.preimage
  | "multi_pay_keysend" => ∀ keysends, L.multiPayKeysendParams request.params = .ok keysends →
    ∀ keysend ∈ keysends, KeysendPreimageFits keysend.preimage
  | "get_info" => InfoFits L app
  | _ => True

/-- Every unchecked response is created, and every request that is dispatched fits. Reference:
none. -/
def Context.Safe (L : Library) (S : Surroundings) (x : Context) : Prop :=
  (∀ cipher error, Unchecked L S x cipher error → Creatable L S x cipher error) ∧
    ∀ request, Dispatched L S x request → request.Fits L x.app

section
variable {L : Library} {W : World} {S : Surroundings} {x : Context} {request : Request}
variable {requestEventId : Nat} {app : AppRow} {respond : PublishFunc} {cipher : Nip47Cipher}
variable {α : Type}

/-! ## The answers -/

/-- Reference: none. -/
theorem harmless_service {p : Svc α} : Harmless S.may (service p) :=
  harmless_relabel (R := EventCmd.Ans) (f := EventCmd.service) p

/-- What the service returns is what its discipline says, and its answers are readable. Reference:
none. -/
theorem follows_service {post : History → α → Prop} {p : Svc α} {a : α}
    (hp : Follows (fun _ _ => True) (fun (h : History) a => h.Readable → post h a) [] p)
    (ha : MayReturn S.may (service p) a) : ∃ h, post h a := by
  obtain ⟨h, hmay, hpost⟩ := MayReturn.of_follows (R := EventCmd.Ans) (f := EventCmd.service) hp ha
  refine ⟨h, hpost fun call hc => ?_⟩
  rcases hmay call hc with hc | hc
  · cases hc
  · exact S.readable call.cmd call.answer hc

/-- The rule of one command. Reference: none. -/
theorem harmless_ask_bind {c : EventCmd} {f : c.Ans → Handler α} :
    Harmless S.may (ask c >>= f) ↔ ∀ r, S.may c r → Harmless S.may (f r) := harmless_issue_bind

/-- The rule of a command whose answer does not matter to what follows. Reference: none. -/
theorem harmless_ask_iff {c : EventCmd} {f : c.Ans → Handler α} {P : Prop}
    (hf : ∀ r, S.may c r → (Harmless S.may (f r) ↔ P)) : Harmless S.may (ask c >>= f) ↔ P :=
  harmless_issue.bind_iff S.answered fun r hr => hf r (mayReturn_issue.1 hr)

/-- The rule of a command whose answer is dropped. Reference: none. -/
theorem harmless_ask_seq {c : EventCmd} {q : Handler α} :
    Harmless S.may (do let _ ← ask c; q) ↔ Harmless S.may q :=
  Harmless.seq_iff harmless_issue S.answered

/-- The rule of a call of the service. Reference: none. -/
theorem harmless_service_bind {β : Type} {p : Svc α} {f : α → Handler β}
    (hf : ∀ a, MayReturn S.may (service p) a → Harmless S.may (f a)) :
    Harmless S.may (service p >>= f) := harmless_bind.2 ⟨harmless_service, hf⟩

/-! ## Responses -/

/-- Reference: `nip47/event_handler.go:486 publishResponseEvent`. -/
theorem harmless_publishResponseEvent {resp : Option NostrEvent} :
    Harmless S.may (publishResponseEvent requestEventId resp) ↔ resp.isSome = true := by
  cases resp with
  | none => exact iff_of_false id nofun
  | some resp =>
    refine iff_of_true ?_ rfl
    unfold publishResponseEvent
    rw [deref_some, Panicking.pure_bind, harmless_ask_bind]
    intro stored _
    cases stored with
    | error e => trivial
    | ok responseEventId =>
      refine harmless_ask_bind.2 fun results _ => ?_
      split
      · exact harmless_ask_bind.2 fun _ _ => harmless_issue
      · exact harmless_issue

/-- A created response is published, a failed creation is not. Reference:
`nip47/event_handler.go:286`, `publishResponse`. -/
theorem harmless_publishResponse {nip47Response : Response} {tags : List (List String)} :
    Harmless S.may (publishResponse L x cipher nip47Response tags) := by
  unfold publishResponse CreateResponse
  refine harmless_bind.2 ⟨harmless_ask_bind.2 fun _ _ => trivial, fun created _ => ?_⟩
  cases created with
  | error e => exact harmless_ask_bind.2 fun _ _ => trivial
  | ok resp =>
    refine harmless_bind.2 ⟨harmless_bind.2 ⟨harmless_publishResponseEvent.2 rfl, ?_⟩, ?_⟩
    · exact fun _ _ => trivial
    · exact fun _ _ => harmless_ask_bind.2 fun _ _ => trivial

/-- The response event is created exactly where each of its four steps succeeds. Reference:
`nip47/event_handler.go:452 CreateResponse`. -/
theorem responseEvent_isSome {turn : AppTurn} {error : Nip47Error} :
    (responseEvent L turn x.event { error := some error } [] cipher
        x.appWalletPrivKey).toOption.isSome = true ↔
      ∃ payload msg appWalletPubKey resp,
        L.marshalResponse { error := some error } = .ok payload ∧
        cipher.Encrypt L.toNostr (turn.random cipher.encryption) payload = .ok msg ∧
        L.getPublicKey x.appWalletPrivKey = .ok appWalletPubKey ∧
        L.sign {
          pubKey := appWalletPubKey
          createdAt := turn.now.toUnix
          kind := 23195
          tags := [["p", x.event.pubKey], ["e", x.event.id]]
          content := msg } x.appWalletPrivKey = .ok resp := by
  constructor
  · intro hsome
    obtain ⟨resp, hresp⟩ := Option.isSome_iff_exists.1 hsome
    cases hcreated : responseEvent L turn x.event { error := some error } [] cipher
        x.appWalletPrivKey with
    | error e =>
      rw [hcreated] at hresp
      cases hresp
    | ok resp =>
      obtain ⟨payload, hpayload, hcreated⟩ := ok_of_bind hcreated
      obtain ⟨msg, hmsg, hcreated⟩ := ok_of_bind hcreated
      obtain ⟨appWalletPubKey, hkey, hsigned⟩ := ok_of_bind hcreated
      exact ⟨payload, msg, appWalletPubKey, resp, hpayload, hmsg, hkey, hsigned⟩
  · rintro ⟨payload, msg, appWalletPubKey, resp, hpayload, hmsg, hkey, hsigned⟩
    unfold responseEvent
    rw [hpayload]
    show (cipher.Encrypt L.toNostr _ payload >>= _).toOption.isSome = true
    rw [hmsg]
    show (L.getPublicKey x.appWalletPrivKey >>= _).toOption.isSome = true
    rw [hkey]
    show (L.sign _ _).toOption.isSome = true
    rw [hsigned]
    rfl

/-- An unchecked response is published without a panic exactly where it is created. Reference:
`nip47/event_handler.go:158 HandleEvent`. -/
theorem harmless_publishError {error : Nip47Error} :
    Harmless S.may (publishError L x cipher error) ↔ Creatable L S x cipher error := by
  unfold publishError CreateResponse Creatable
  simp only [← responseEvent_isSome]
  rw [harmless_bind]
  have hpublish : ∀ resp : Option NostrEvent,
      Harmless S.may (do let _ ← publishResponseEvent x.requestEventId resp) ↔
        resp.isSome = true := by
    intro resp
    rw [harmless_bind, harmless_publishResponseEvent]
    exact and_iff_left fun _ _ => trivial
  constructor
  · intro hp turn hturn
    exact (hpublish _).1 (hp.2 _ ⟨turn, hturn, rfl⟩)
  · intro hp
    refine ⟨harmless_ask_bind.2 fun _ _ => trivial, ?_⟩
    rintro created ⟨turn, hturn, rfl⟩
    exact (hpublish _).2 (hp turn hturn)

/-! ## Controllers -/

/-- Every response is published without a panic. Reference: none. -/
def Responds (S : Surroundings) (respond : PublishFunc) : Prop :=
  ∀ response tags, Harmless S.may (respond response tags)

/-- A row whose preimage is there is converted. Reference: `nip47/models/transactions.go:13
ToNip47Transaction`. -/
theorem harmless_convert {row : Transaction} (hrow : row.Readable) :
    Harmless S.may (convert W row) :=
  harmless_ask_bind.2 fun now _ => harmless_deref.2 (hrow.toNip47Transaction now)

/-- A controller is harmless exactly where it is for the parameters that it decodes. Reference:
`nip47/controllers/decode_request.go:12 decodeRequest`. -/
theorem harmless_withParams {unmarshal : String → Except String α} {k : α → Handler Unit}
    {tags : List (List String)} (hr : Responds S respond) :
    Harmless S.may (withParams request respond unmarshal tags k) ↔
      ∀ params, unmarshal request.params = .ok params → Harmless S.may (k params) := by
  unfold withParams decodeRequest
  cases unmarshal request.params with
  | error e => exact iff_of_true (hr _ _) nofun
  | ok params => exact ⟨fun hp _ hok => Except.ok.inj hok ▸ hp, fun hp => hp params rfl⟩

/-- A call of the service whose row is converted. Reference:
`nip47/controllers/make_invoice_controller.go:66 HandleMakeInvoiceEvent`. -/
theorem harmless_respondTransaction {p : Svc (Except Err Transaction)} (hr : Responds S respond)
    (hp : Follows (fun _ _ => True)
      (fun (h : History) r => h.Readable → ∀ t, r = .ok t → t.Readable) [] p) :
    Harmless S.may (do
      match ← service p with
      | .error e => respond (request.failed (mapNip47Error e)) []
      | .ok transaction => do
        let nip47Transaction ← convert W transaction
        respond (request.succeeded (.transaction nip47Transaction)) []) := by
  refine harmless_service_bind fun r ha => ?_
  obtain ⟨h, hread⟩ := follows_service hp ha
  cases r with
  | error e => exact hr _ _
  | ok transaction =>
    exact harmless_bind.2 ⟨harmless_convert (hread transaction rfl), fun _ _ => hr _ _⟩

/-- Reference: `nip47/controllers/pay_invoice_controller.go:55 pay`. -/
theorem harmless_pay {bolt11 : String} {amount : Option Nat} {metadata : Option Metadata}
    {tags : List (List String)} (hr : Responds S respond) :
    Harmless S.may (pay W request requestEventId app respond bolt11 amount metadata tags) := by
  refine harmless_service_bind fun r ha => ?_
  obtain ⟨h, hpreimage⟩ := follows_service preimage_sendPaymentSync ha
  cases r with
  | error e => exact hr _ _
  | ok transaction =>
    exact harmless_bind.2 ⟨harmless_deref.2 (hpreimage transaction rfl), fun _ _ => hr _ _⟩

/-- Reference: `nip47/controllers/pay_invoice_controller.go:23 HandlePayInvoiceEvent`. -/
theorem harmless_handlePayInvoice {tags : List (List String)} (hr : Responds S respond) :
    Harmless S.may (HandlePayInvoiceEvent L W request requestEventId app respond tags) := by
  refine (harmless_withParams hr).2 fun payParams _ => ?_
  dsimp only
  split
  · exact hr _ _
  · exact harmless_pay hr

/-- Reference: `nip47/controllers/multi_pay_invoice_controller.go:39 HandleMultiPayInvoiceEvent`. -/
theorem harmless_payInvoiceElement {invoiceInfo : MultiPayInvoiceElement}
    (hr : Responds S respond) :
    Harmless S.may (payInvoiceElement W request requestEventId app respond invoiceInfo) := by
  unfold payInvoiceElement
  dsimp only
  split
  · exact hr _ _
  · exact harmless_pay hr

/-- The elements one after another: all of them are harmless. Reference: none. -/
theorem harmless_forM {l : List α} {f : α → Handler Unit} :
    Harmless S.may (l.forM f) ↔ ∀ a ∈ l, Harmless S.may (f a) := by
  induction l with
  | nil => exact iff_of_true trivial nofun
  | cons a l ih =>
    show Harmless S.may (do f a; l.forM f) ↔ _
    rw [List.forall_mem_cons, ← ih]
    constructor
    · intro hp
      have ha := (harmless_bind.1 hp).1
      exact ⟨ha, (Harmless.seq_iff ha S.answered).1 hp⟩
    · exact fun ⟨ha, hl⟩ => (Harmless.seq_iff ha S.answered).2 hl

/-- Reference: `nip47/controllers/multi_pay_invoice_controller.go:27 HandleMultiPayInvoiceEvent`. -/
theorem harmless_handleMultiPayInvoice (hr : Responds S respond) :
    Harmless S.may (HandleMultiPayInvoiceEvent L W request requestEventId app respond) := by
  refine (harmless_withParams hr).2 fun invoices _ => ?_
  exact harmless_forM.2 fun _ _ => harmless_payInvoiceElement hr

/-- A keysend is answered exactly where its preimage fits. Reference:
`nip47/controllers/pay_keysend_controller.go:37 payKeysend`. -/
theorem harmless_payKeysend {params : PayKeysendParams} {tags : List (List String)}
    (hr : Responds S respond) :
    Harmless S.may (payKeysend W request requestEventId app respond params tags) ↔
      KeysendPreimageFits params.preimage := by
  unfold payKeysend
  constructor
  · intro hp
    by_contra hfits
    obtain ⟨hne, hmisfit⟩ := not_or.1 hfits
    obtain ⟨bytes, hmisfit⟩ := not_forall.1 hmisfit
    obtain ⟨hbytes, hlength⟩ := Classical.not_imp.1 hmisfit
    rw [sendKeysend_refused W _ _ _ _ _ hne hbytes hlength] at hp
    exact hp
  · intro hfits
    refine harmless_service_bind fun r ha => ?_
    obtain ⟨h, hpreimage⟩ := follows_service (preimage_sendKeysend hfits) ha
    cases r with
    | error e => exact hr _ _
    | ok transaction =>
      obtain ⟨transaction, rfl, hsome⟩ := hpreimage transaction rfl
      exact harmless_bind.2 ⟨harmless_deref.2 rfl, fun t ht => by
        cases mayReturn_deref.1 ht
        exact harmless_bind.2 ⟨harmless_deref.2 hsome, fun _ _ => hr _ _⟩⟩

/-- Reference: `nip47/controllers/pay_keysend_controller.go:27 HandlePayKeysendEvent`. -/
theorem harmless_handlePayKeysend {tags : List (List String)} (hr : Responds S respond) :
    Harmless S.may (HandlePayKeysendEvent L W request requestEventId app respond tags) ↔
      ∀ params, L.payKeysendParams request.params = .ok params →
        KeysendPreimageFits params.preimage := by
  exact (harmless_withParams hr).trans (forall₂_congr fun _ _ => harmless_payKeysend hr)

/-- Reference: `nip47/controllers/multi_pay_keysend_controller.go:21 HandleMultiPayKeysendEvent`. -/
theorem harmless_handleMultiPayKeysend (hr : Responds S respond) :
    Harmless S.may (HandleMultiPayKeysendEvent L W request requestEventId app respond) ↔
      ∀ keysends, L.multiPayKeysendParams request.params = .ok keysends →
        ∀ keysend ∈ keysends, KeysendPreimageFits keysend.preimage := by
  refine (harmless_withParams hr).trans (forall₂_congr fun keysends _ => ?_)
  exact harmless_forM.trans (forall₂_congr fun _ _ => harmless_payKeysend hr)

/-- Reference: `nip47/controllers/get_balance_controller.go:24 HandleGetBalanceEvent`. -/
theorem harmless_handleGetBalance (hr : Responds S respond) :
    Harmless S.may (HandleGetBalanceEvent request app respond) := by
  refine harmless_bind.2 ⟨?_, fun balance _ => ?_⟩
  · split
    · exact harmless_issue
    · exact harmless_issue
  · cases balance with
    | error e => exact hr _ _
    | ok balanceMsat => exact hr _ _

/-- Reference: `nip47/controllers/get_budget_controller.go:25 HandleGetBudgetEvent`. -/
theorem harmless_handleGetBudget (hr : Responds S respond) :
    Harmless S.may (HandleGetBudgetEvent W request app respond) := by
  refine harmless_ask_bind.2 fun found _ => ?_
  match found with
  | .error e => exact hr _ _
  | .ok none => exact hr _ _
  | .ok (some appPermission) =>
    simp only
    split
    · exact hr _ _
    · refine harmless_ask_bind.2 fun used _ => ?_
      cases used with
      | error e => exact hr _ _
      | ok usedBudgetMsat => exact harmless_ask_bind.2 fun _ _ => hr _ _

/-- Reference: `nip47/controllers/make_invoice_controller.go:23 HandleMakeInvoiceEvent`. -/
theorem harmless_handleMakeInvoice (hr : Responds S respond) :
    Harmless S.may (HandleMakeInvoiceEvent L W request requestEventId app respond) := by
  refine (harmless_withParams hr).2 fun params _ => ?_
  exact harmless_respondTransaction hr readable_makeInvoice

/-- Reference: `nip47/controllers/make_hold_invoice_controller.go:26 HandleMakeHoldInvoiceEvent`. -/
theorem harmless_handleMakeHoldInvoice (hr : Responds S respond) :
    Harmless S.may (HandleMakeHoldInvoiceEvent L W request requestEventId app respond) := by
  refine (harmless_withParams hr).2 fun params _ => ?_
  split
  · exact hr _ _
  · exact harmless_respondTransaction hr readable_makeHoldInvoice

/-- Reference: `nip47/controllers/lookup_invoice_controller.go:25 HandleLookupInvoiceEvent`. -/
theorem harmless_handleLookupInvoice (hr : Responds S respond) :
    Harmless S.may (HandleLookupInvoiceEvent L W request app respond) := by
  refine (harmless_withParams hr).2 fun params _ => ?_
  split
  · exact hr _ _
  · exact harmless_respondTransaction hr readable_lookupTransaction

/-- Reference: `nip47/controllers/list_transactions_controller.go:59
HandleListTransactionsEvent`. -/
theorem harmless_convertEach {rows : List Transaction} {converted : List Nip47Transaction}
    (hrows : ∀ row ∈ rows, row.Readable) :
    Harmless S.may (List.mapM.loop (convert W) rows converted) := by
  induction rows generalizing converted with
  | nil => trivial
  | cons row rows ih =>
    obtain ⟨hrow, hrows⟩ := List.forall_mem_cons.1 hrows
    exact harmless_bind.2 ⟨harmless_convert hrow, fun _ _ => ih hrows⟩

/-- Reference: `nip47/controllers/list_transactions_controller.go:29
HandleListTransactionsEvent`. -/
theorem harmless_handleListTransactions (hr : Responds S respond) :
    Harmless S.may (HandleListTransactionsEvent L W request app respond) := by
  refine (harmless_withParams hr).2 fun listParams _ => ?_
  refine harmless_service_bind fun r ha => ?_
  obtain ⟨h, hread⟩ := follows_service readable_listTransactions ha
  cases r with
  | error e => exact hr _ _
  | ok listed =>
    exact harmless_bind.2 ⟨harmless_convertEach (hread listed rfl), fun _ _ => hr _ _⟩

/-- Reference: `nip47/controllers/sign_message_controller.go:21 HandleSignMessageEvent`. -/
theorem harmless_handleSignMessage (hr : Responds S respond) :
    Harmless S.may (HandleSignMessageEvent L request respond) := by
  refine (harmless_withParams hr).2 fun message _ => ?_
  refine harmless_ask_bind.2 fun signed _ => ?_
  cases signed with
  | error e => exact hr _ _
  | ok signature => exact hr _ _

/-- A new app has a wallet public key. Reference: `apps/apps_service.go:153 CreateApp`. -/
theorem createAppTx_walletPubkey {env : AppsEnv} {app app' : AppRow} {maxAmountSat : Nat}
    {budgetRenewal : String} {expiresAt : Option Time} {scopes : List String} {r r' : Registry}
    (h : createAppTx env app maxAmountSat budgetRenewal expiresAt scopes r = .ok (app', r')) :
    app'.walletPubkey.isSome = true := by
  obtain ⟨_, -, h⟩ := ok_of_bind h
  obtain ⟨_, -, h⟩ := ok_of_bind h
  obtain ⟨_, -, h⟩ := ok_of_bind h
  obtain ⟨walletPubkey, -, h⟩ := ok_of_bind h
  split at h
  · cases h
  · cases h
    rfl

/-- A connection that is created has a wallet public key. Reference:
`nip47/controllers/create_connection_controller.go:147 HandleCreateConnectionEvent`. -/
theorem createConnection_walletPubkey {env : AppsEnv} {params : CreateConnectionParams}
    {r r' : Registry} {key : Option String}
    (h : AlbyHub.HandleCreateConnectionEvent env params r = .ok (key, r')) :
    key.isSome = true := by
  obtain ⟨_, -, h⟩ := ok_of_bind h
  obtain ⟨⟨⟨app, secret⟩, r₁⟩, hcreate, h⟩ := ok_of_bind h
  cases h
  have h := ok_of_mapError hcreate
  obtain ⟨_, -, h⟩ := ok_of_bind h
  obtain ⟨_, -, h⟩ := ok_of_bind h
  obtain ⟨_, -, h⟩ := ok_of_bind h
  obtain ⟨_, -, h⟩ := ok_of_bind h
  obtain ⟨_, -, h⟩ := ok_of_bind h
  obtain ⟨_, -, h⟩ := ok_of_bind h
  obtain ⟨_, -, h⟩ := ok_of_bind h
  obtain ⟨_, htx, h⟩ := ok_of_bind h
  cases h
  exact createAppTx_walletPubkey htx

/-- Reference: `nip47/controllers/create_connection_controller.go:34
HandleCreateConnectionEvent`. -/
theorem harmless_handleCreateConnection (hr : Responds S respond) :
    Harmless S.may (HandleCreateConnectionEvent L request respond) := by
  refine (harmless_withParams hr).2 fun params _ => ?_
  refine harmless_ask_bind.2 fun created hmay => ?_
  obtain ⟨env, r, hcreated⟩ := S.created params created hmay
  cases created with
  | error e => exact hr _ _
  | ok walletPubkey =>
    cases hconnection : AlbyHub.HandleCreateConnectionEvent env params r with
    | error e =>
      rw [hconnection] at hcreated
      cases hcreated
    | ok connection =>
      rw [hconnection] at hcreated
      cases hcreated
      exact harmless_bind.2
        ⟨harmless_deref.2 (createConnection_walletPubkey hconnection), fun _ _ => hr _ _⟩

/-- Reference: `nip47/controllers/cancel_hold_invoice_controller.go:17
HandleCancelHoldInvoiceEvent`. -/
theorem harmless_handleCancelHoldInvoice (hr : Responds S respond) :
    Harmless S.may (HandleCancelHoldInvoiceEvent L request respond) := by
  refine (harmless_withParams hr).2 fun params _ => ?_
  refine harmless_service_bind fun r _ => ?_
  cases r with
  | error e => exact hr _ _
  | ok _ => exact hr _ _

/-- Reference: `nip47/controllers/settle_hold_invoice_controller.go:17
HandleSettleHoldInvoiceEvent`. -/
theorem harmless_handleSettleHoldInvoice (hr : Responds S respond) :
    Harmless S.may (HandleSettleHoldInvoiceEvent L W request respond) := by
  refine (harmless_withParams hr).2 fun params _ => ?_
  refine harmless_service_bind fun r _ => ?_
  cases r with
  | error e => exact hr _ _
  | ok _ => exact hr _ _

/-! ## The metadata of an app -/

/-- Only the assigned element of a map changes. Reference: the Go language, assignments to maps. -/
theorem lookupKey_assigned {fields : Metadata} {key key' : String} {value : Json}
    (hne : key' ≠ key) :
    lookupKey key' (some (fields.filter (·.1 ≠ key) ++ [(key, value)])) =
      lookupKey key' (some fields) := by
  simp only [lookupKey]
  rw [List.find?_append, List.find?_filter]
  have hlast : [(key, value)].find? (·.1 = key') = none := by simp [Ne.symm hne]
  rw [hlast, Option.or_none]
  congr 2
  funext field
  by_cases hfield : field.1 = key'
  · simp [hfield, hne]
  · simp [hfield]

/-- An element is assigned exactly where the map is there. Reference:
`nip47/controllers/get_info_controller.go:50 HandleGetInfoEvent`. -/
theorem harmless_assignDefault {metadata : Option Metadata} {key : String} {value : Json} :
    Harmless S.may (assignDefault metadata key value) ↔ metadata ≠ none := by
  cases metadata with
  | none => exact iff_of_false id fun hne => hne rfl
  | some fields =>
    refine iff_of_true ?_ nofun
    unfold assignDefault
    split
    · exact harmless_bind.2 ⟨harmless_deref.2 rfl, fun _ _ => trivial⟩
    · trivial

/-- The map stays there, and its other elements are as before. Reference:
`nip47/controllers/get_info_controller.go:50 HandleGetInfoEvent`. -/
theorem mayReturn_assignDefault {metadata metadata' : Option Metadata} {key : String} {value : Json}
    (hm : MayReturn S.may (assignDefault metadata key value) metadata') (hne : metadata ≠ none) :
    metadata' ≠ none ∧ ∀ key', key' ≠ key → lookupKey key' metadata' = lookupKey key' metadata := by
  unfold assignDefault at hm
  split at hm
  · obtain ⟨fields, hfields, rfl⟩ := mayReturn_bind.1 hm
    rw [mayReturn_deref.1 hfields]
    exact ⟨nofun, fun key' hkey => lookupKey_assigned hkey⟩
  · rw [mayReturn_pure.1 hm]
    exact ⟨hne, fun _ _ => rfl⟩

/-- The sub-wallet's address is read exactly where it is a text. Reference:
`nip47/controllers/get_info_controller.go:59 HandleGetInfoEvent`. -/
theorem harmless_infoLightningAddress {metadata : Option Metadata} :
    Harmless S.may (infoLightningAddress app metadata) ↔
      (app.isolated = true → hasSubwalletAddress metadata = true →
        ∃ address, lookupKey "lud16" metadata = some (.string address)) := by
  unfold infoLightningAddress
  split
  · next hisolated =>
    exact iff_of_true (harmless_ask_bind.2 fun _ _ => trivial) (by simp [hisolated])
  · next hisolated =>
    have hisolated : app.isolated = true := by simpa using hisolated
    split
    · next hsub =>
      refine Iff.trans ?_ ⟨fun hstring _ _ => hstring, fun hstring => hstring hisolated hsub⟩
      unfold assertString
      split
      · next address haddress => exact iff_of_true trivial ⟨address, haddress⟩
      · next hother => exact iff_of_false id fun ⟨address, haddress⟩ => hother address haddress
    · next hsub => exact iff_of_true trivial fun _ h => absurd h hsub

/-- Reference: `nip47/controllers/get_info_controller.go:28 HandleGetInfoEvent`. -/
theorem harmless_handleGetInfo (hr : Responds S respond) :
    Harmless S.may (HandleGetInfoEvent L W request app respond) ↔ InfoFits L app := by
  refine harmless_ask_iff fun turn _ => harmless_ask_iff fun turn' _ =>
    harmless_ask_iff fun supportedMethods _ => ?_
  by_cases hmetadata : appMetadata L app = none
  · refine iff_of_false (fun hp => ?_) fun hfits => hfits.1 hmetadata
    exact harmless_assignDefault.1 (harmless_bind.1 hp).1 hmetadata
  · refine (harmless_assignDefault.2 hmetadata).bind_iff S.answered fun m₁ hm₁ => ?_
    obtain ⟨hne₁, hkeep₁⟩ := mayReturn_assignDefault hm₁ hmetadata
    refine (harmless_assignDefault.2 hne₁).bind_iff S.answered fun m₂ hm₂ => ?_
    obtain ⟨-, hkeep₂⟩ := mayReturn_assignDefault hm₂ hne₁
    have hkeep : ∀ key, key ≠ "id" → key ≠ "name" →
        lookupKey key m₂ = lookupKey key (appMetadata L app) := fun key hid hname =>
      (hkeep₂ key hname).trans (hkeep₁ key hid)
    have haddress := hkeep "lud16" (by decide) (by decide)
    have happId := hkeep "app_store_app_id" (by decide) (by decide)
    have hsub : hasSubwalletAddress m₂ = hasSubwalletAddress (appMetadata L app) := by
      unfold hasSubwalletAddress
      rw [happId, haddress]
    rw [harmless_bind, harmless_infoLightningAddress, hsub, haddress]
    refine and_comm.trans (and_congr (iff_of_true (fun _ _ => ?_) hmetadata) Iff.rfl)
    refine harmless_ask_bind.2 fun turn _ => ?_
    dsimp only
    split
    · exact hr _ _
    · refine harmless_ask_bind.2 fun info _ => ?_
      cases info with
      | error e => exact hr _ _
      | ok info => exact hr _ _

/-! ## The handler -/

/-- Reference: `nip47/event_handler.go:395 HandleEvent`. -/
theorem harmless_dispatch (hr : Responds S respond) :
    Harmless S.may (dispatch L W request requestEventId app respond) ↔ request.Fits L app := by
  unfold dispatch Request.Fits
  split
  case h_1 hm => rw [hm]; exact iff_of_true (harmless_handleMultiPayInvoice hr) trivial
  case h_2 hm => rw [hm]; exact harmless_handleMultiPayKeysend hr
  case h_3 hm => rw [hm]; exact iff_of_true (harmless_handlePayInvoice hr) trivial
  case h_4 hm => rw [hm]; exact harmless_handlePayKeysend hr
  case h_5 hm => rw [hm]; exact iff_of_true (harmless_handleGetBalance hr) trivial
  case h_6 hm => rw [hm]; exact iff_of_true (harmless_handleGetBudget hr) trivial
  case h_7 hm => rw [hm]; exact iff_of_true (harmless_handleMakeInvoice hr) trivial
  case h_8 hm => rw [hm]; exact iff_of_true (harmless_handleLookupInvoice hr) trivial
  case h_9 hm => rw [hm]; exact iff_of_true (harmless_handleListTransactions hr) trivial
  case h_10 hm => rw [hm]; exact harmless_handleGetInfo hr
  case h_11 hm => rw [hm]; exact iff_of_true (harmless_handleSignMessage hr) trivial
  case h_12 hm => rw [hm]; exact iff_of_true (harmless_handleCreateConnection hr) trivial
  case h_13 hm => rw [hm]; exact iff_of_true (harmless_handleMakeHoldInvoice hr) trivial
  case h_14 hm => rw [hm]; exact iff_of_true (harmless_handleCancelHoldInvoice hr) trivial
  case h_15 hm => rw [hm]; exact iff_of_true (harmless_handleSettleHoldInvoice hr) trivial
  case h_16 =>
    -- an unknown method is answered, and is none of those that may crash
    split
    · contradiction
    · contradiction
    · contradiction
    · exact iff_of_true (hr _ _) trivial

/-- Reference: `nip47/event_handler.go:335 HandleEvent`. -/
theorem harmless_handleRequest :
    Harmless S.may (handleRequest L W x cipher request) ↔
      (Permitted S x request → request.Fits L x.app) := by
  have hr : Responds S (publishResponse L x cipher) := fun _ _ => harmless_publishResponse
  unfold handleRequest
  by_cases hgranted : request.method ∈ GetAlwaysGrantedMethods
  · simp only [if_pos hgranted]
    rw [harmless_dispatch hr]
    exact ⟨fun hfits _ => hfits, fun hfits => hfits (.inl hgranted)⟩
  · simp only [if_neg hgranted]
    cases hscope : RequestMethodToScope request.method with
    | error e =>
      refine iff_of_true (hr _ _) ?_
      rintro (hin | ⟨scope, hok, -⟩)
      · exact absurd hin hgranted
      · rw [hscope] at hok
        cases hok
    | ok scope =>
      constructor
      · rintro hp (hin | ⟨scope', hok, ⟨now, hnow, hfresh⟩, turn, hturn, hperm⟩)
        · exact absurd hin hgranted
        · rw [hscope] at hok
          cases hok
          have hp := harmless_ask_bind.1 hp now hnow
          rw [hfresh, if_neg Bool.false_ne_true] at hp
          have hp := harmless_ask_bind.1 hp turn hturn
          generalize HasPermission turn x.app scope = answer at hp hperm
          obtain ⟨hasPermission, code, message⟩ := answer
          cases hperm
          exact (harmless_dispatch hr).1 hp
      · intro hfits
        refine harmless_ask_bind.2 fun now hnow => ?_
        split
        · trivial
        · next hfresh =>
          refine harmless_ask_bind.2 fun turn hturn => ?_
          split
          · next hperm =>
            have hpassed : (HasPermission turn x.app scope).1 = true := by rw [hperm]
            refine (harmless_dispatch hr).2 (hfits (.inr ⟨scope, hscope, ?_, turn, hturn, hpassed⟩))
            exact ⟨now, hnow, Bool.eq_false_iff.2 hfresh⟩
          · exact harmless_ask_bind.2 fun _ _ => hr _ _

/-- A tag that is found has a value. Reference: `nip47/event_handler.go:111 HandleEvent`. -/
theorem requestEncryption_eq {event : NostrEvent} :
    requestEncryption L event = pure (encryptionOf L event) := by
  unfold requestEncryption encryptionOf
  cases hfound : L.findTag event.tags "encryption" with
  | none => rfl
  | some encryptionTag =>
    match encryptionTag, L.findTag_value _ _ _ hfound with
    | _ :: encryption :: _, _ => rfl

/-- Reference: `nip47/event_handler.go:170 HandleEvent`. -/
theorem harmless_handleContent (hc : requestCipher L x = .ok cipher) :
    Harmless S.may (handleContent L W x cipher) ↔ x.Safe L S := by
  constructor
  · intro hp
    have hsaved := harmless_ask_bind.1 hp
    constructor
    · intro cipher' error hunchecked
      cases hunchecked with
      | encryption he =>
        rw [hc] at he
        cases he
      | save hok hmay =>
        rw [hc] at hok
        cases hok
        exact harmless_publishError.1 (harmless_bind.1 (hsaved _ hmay)).1
      | decrypt hok hmay hdecrypt hnip44 =>
        rw [hc] at hok
        cases hok
        have hp := hsaved _ hmay
        simp only [hdecrypt] at hp
        have hp := harmless_ask_seq.1 hp
        simp only [hnip44] at hp
        exact harmless_publishError.1 hp
    · rintro request ⟨cipher', payload, hok, hmay, hdecrypt, hdecoded, hpermitted⟩
      rw [hc] at hok
      cases hok
      have hp := hsaved _ hmay
      simp only [hdecrypt, hdecoded] at hp
      exact harmless_handleRequest.1 (harmless_ask_seq.1 hp) hpermitted
  · rintro ⟨hcreatable, hfits⟩
    refine harmless_ask_bind.2 fun saved hmay => ?_
    cases saved with
    | error e =>
      refine harmless_bind.2 ⟨harmless_publishError.2 (hcreatable _ _ (.save hc hmay)), ?_⟩
      exact fun _ _ => harmless_ask_bind.2 fun _ _ => trivial
    | ok _ =>
      simp only
      split
      · next e hdecrypt =>
        refine harmless_ask_seq.2 ?_
        split
        · trivial
        · next hnip44 =>
          exact harmless_publishError.2 (hcreatable _ _ (.decrypt hc hmay hdecrypt hnip44))
      · next payload hdecrypt =>
        split
        · exact harmless_ask_bind.2 fun _ _ => trivial
        · next request hdecoded =>
          refine harmless_ask_seq.2 (harmless_handleRequest.2 fun hpermitted => ?_)
          exact hfits request ⟨cipher, payload, hc, hmay, hdecrypt, hdecoded, hpermitted⟩

/-- Reference: `nip47/event_handler.go:111 HandleEvent`. -/
theorem harmless_handleEncrypted :
    Harmless S.may (handleEncrypted L W x) ↔ x.Safe L S := by
  unfold handleEncrypted
  rw [requestEncryption_eq, Panicking.pure_bind]
  cases hc : requestCipher L x with
  | ok cipher =>
    unfold requestCipher at hc
    simp only [hc]
    exact harmless_handleContent hc
  | error e =>
    have hc' := hc
    unfold requestCipher at hc'
    simp only [hc']
    rw [harmless_ask_seq]
    constructor
    · intro hp
      constructor
      · intro cipher error hunchecked
        cases hunchecked with
        | encryption he hnip44 =>
          rw [hc] at he
          cases he
          simp only [hnip44] at hp
          exact harmless_publishError.1 hp
        | save hok | decrypt hok =>
          rw [hc] at hok
          cases hok
      · rintro request ⟨cipher, payload, hok, -⟩
        rw [hc] at hok
        cases hok
    · intro hsafe
      split
      · trivial
      · next hnip44 => exact harmless_publishError.2 (hsafe.1 _ _ (.encryption hc hnip44))

/-- Reference: `nip47/event_handler.go:34 HandleEvent`. -/
theorem Admitted.safe_of_harmless {lnClientStarted : Bool} (hx : Admitted L S lnClientStarted x)
    (hp : Harmless S.may (HandleEvent L W lnClientStarted x.event)) : x.Safe L S := by
  obtain ⟨hsigned, hstarted, hstored, hfound, hderived⟩ := hx
  unfold HandleEvent at hp
  rw [hsigned] at hp
  simp only [hstarted, Bool.true_eq_false, if_false] at hp
  have hp := harmless_ask_bind.1 (harmless_ask_bind.1 hp _ hstored) _ hfound
  obtain ⟨now, hnow⟩ := S.answered (.service .now)
  have hp := harmless_ask_seq.1 (harmless_ask_bind.1 hp now hnow)
  simp only [hderived] at hp
  exact harmless_handleEncrypted.1 hp

/-- The handler does not crash exactly where, whichever app is found, every unchecked response is
created and every dispatched request fits its controller. Reference: `nip47/event_handler.go:26
HandleEvent`. -/
theorem handleEvent_harmless_iff (L : Library) (W : World) (S : Surroundings)
    (lnClientStarted : Bool) (event : NostrEvent) :
    Harmless S.may (HandleEvent L W lnClientStarted event) ↔
      ∀ x, x.event = event → Admitted L S lnClientStarted x → x.Safe L S := by
  constructor
  · rintro hp x rfl hx
    exact hx.safe_of_harmless hp
  · intro hsafe
    unfold HandleEvent
    split
    · trivial
    · trivial
    · next hsigned =>
      split
      · trivial
      · next hstarted =>
        refine harmless_ask_bind.2 fun stored hstored => ?_
        cases stored with
        | error e => trivial
        | ok requestEventId =>
          refine harmless_ask_bind.2 fun found hfound => ?_
          cases found with
          | error e => trivial
          | ok app =>
            refine harmless_ask_bind.2 fun now _ => harmless_ask_seq.2 ?_
            split
            · trivial
            · next appWalletPrivKey hderived =>
              refine harmless_handleEncrypted.2 (hsafe _ rfl ?_)
              exact ⟨hsigned, Bool.of_not_eq_false hstarted, hstored, hfound, hderived⟩

/-! ## An encryption that is too long to be answered -/

/-- NIP-44 refuses texts of more than 65535 bytes. Reference: go-nostr `nip44.Encrypt`. -/
def Library.LimitsNip44 (L : Library) : Prop :=
  ∀ random message key, 65535 < message.utf8ByteSize →
    ∃ e, L.encryptNip44 random message key = .error e

/-- The JSON of a response contains the message of its error. Reference: Go `encoding/json`. -/
def Library.MarshalsMessages (L : Library) : Prop :=
  ∀ response error payload, response.error = some error → L.marshalResponse response = .ok payload →
    error.message.utf8ByteSize ≤ payload.utf8ByteSize

/-- Reference: `nip47/cipher/cipher.go:24 NewNip47Cipher`. -/
theorem encryption_of_nip44Cipher (hc : nip44Cipher L x = .ok cipher) :
    cipher.encryption = "nip44_v2" := by
  unfold nip44Cipher NewNip47Cipher at hc
  rw [if_neg (by decide), if_neg (by decide)] at hc
  obtain ⟨ck, -, hc⟩ := ok_of_bind hc
  cases hc
  rfl

/-- An encryption of more than 65535 bytes crashes the handler: its response repeats it. Reference:
`nip47/event_handler.go:158 HandleEvent`. -/
theorem not_harmless_of_longEncryption {lnClientStarted : Bool} (hlimit : L.LimitsNip44)
    (hmarshal : L.MarshalsMessages) (hx : Admitted L S lnClientStarted x)
    (hlong : 65535 < (encryptionOf L x.event).utf8ByteSize) (hc : nip44Cipher L x = .ok cipher) :
    ¬Harmless S.may (HandleEvent L W lnClientStarted x.event) := by
  intro hp
  have hunsupported : isEncryptionSupported (encryptionOf L x.event) = false := by
    unfold isEncryptionSupported
    rw [Bool.or_eq_false_iff, decide_eq_false_iff_not, decide_eq_false_iff_not]
    constructor
    · intro heq
      rw [heq] at hlong
      exact absurd hlong (by decide)
    · intro heq
      rw [heq] at hlong
      exact absurd hlong (by decide)
  have herror : requestCipher L x =
      .error ("invalid encryption: " ++ encryptionOf L x.event) := if_pos hunsupported
  obtain ⟨turn, hturn⟩ := S.answered .turn
  obtain ⟨payload, msg, -, -, hpayload, hmsg, -⟩ :=
    (hx.safe_of_harmless hp).1 _ _ (.encryption herror hc) turn hturn
  have hsize := hmarshal _ _ _ rfl hpayload
  rw [String.utf8ByteSize_append] at hsize
  obtain ⟨e, he⟩ := hlimit (turn.random cipher.encryption) payload cipher.conversationKey (by omega)
  unfold Nip47Cipher.Encrypt at hmsg
  rw [encryption_of_nip44Cipher hc, if_neg (by decide), ← encryption_of_nip44Cipher hc, he] at hmsg
  cases hmsg

end

/-- Libraries whose NIP-44 encryption has its limit; texts are not changed by an encryption, and
no parameters can be decoded. Reference: none. -/
def demoLibrary : Library where
  nostrSecretKey := "secret"
  getAppWalletKey _ := .ok "secret"
  getPublicKey key := .ok key
  computeSharedSecret _ _ := .ok []
  encryptNip04 _ message _ := .ok message
  generateConversationKey _ _ := .ok []
  encryptNip44 _ message _ :=
    if 65535 < message.utf8ByteSize then .error "invalid plaintext: must be between 1b and 64kB"
    else .ok message
  sign event _ := .ok event
  marshal _ := .ok ""
  checkSignature _ := .ok true
  findTag tags key := tags.find? fun tag => 2 ≤ tag.length ∧ tag.head? = some key
  findTag_value tags key tag hfound := by
    have htag := List.find?_some hfound
    exact (of_decide_eq_true htag).1
  decryptNip04 content _ := .ok content
  decryptNip44 content _ := .ok content
  marshalResponse response := .ok (match response.error with
    | none => "\x7b\"result_type\":\"" ++ response.resultType ++ "\"\x7d"
    | some error => "\x7b\"error\":\x7b\"code\":\"" ++ error.code ++ "\",\"message\":\"" ++
      error.message ++ "\"\x7d,\"result_type\":\"" ++ response.resultType ++ "\"\x7d")
  unmarshalRequest _ := .error "unexpected end of JSON input"
  unmarshalMetadata _ := (some [], none)
  payInvoiceParams _ := .error "unexpected end of JSON input"
  multiPayInvoiceParams _ := .error "unexpected end of JSON input"
  payKeysendParams _ := .error "unexpected end of JSON input"
  multiPayKeysendParams _ := .error "unexpected end of JSON input"
  makeInvoiceParams _ := .error "unexpected end of JSON input"
  makeHoldInvoiceParams _ := .error "unexpected end of JSON input"
  lookupInvoiceParams _ := .error "unexpected end of JSON input"
  listTransactionsParams _ := .error "unexpected end of JSON input"
  signMessageParams _ := .error "unexpected end of JSON input"
  createConnectionParams _ := .error "unexpected end of JSON input"
  settleHoldInvoiceParams _ := .error "unexpected end of JSON input"
  cancelHoldInvoiceParams _ := .error "unexpected end of JSON input"

/-- A transactions service without rows or a node. Reference: none. -/
def demoServiceAnswer : (c : Cmd) → c.Ans
  | .now => 0
  | .randomBytes => .ok (List.replicate 32 0)
  | .find _ _ | .lookup _ _ _ => .ok none
  | .findPendingSince _ | .listRows _ => .ok []
  | .countRows _ => .ok 0
  | .isIsolated _ => .ok false
  | .takeApp _ | .create _ | .sendPaymentTx _ | .sendKeysendTx _
  | .markTransactionSettledTx _ _ _ _ | .createSettledTransactionTx _ _ _ _
  | .markPaymentFailedTx _ _ | .markHoldInvoiceAcceptedTx _ _ _ _ | .updateMetadata _ _
  | .lnSendPaymentSync _ _ | .lnSendKeysend _ _ _ _ | .lnMakeInvoice _ _ _ _ _
  | .lnMakeHoldInvoice _ _ _ _ _ _ | .lnSettleHoldInvoice _ | .lnCancelHoldInvoice _
  | .lnLookupInvoice _ | .lnGetInfo | .lnGetBalances | .isolatedBalance _ =>
    .error (.message "not available")
  | .publish _ => ()
  | .registerSubscriber => 0
  | .receiveHoldUpdate _ _ => .canceled { type := .incoming, state := .failed }

/-- Reference: none. -/
theorem demoServiceAnswer_readable (c : Cmd) : AnswersReadable ⟨c, demoServiceAnswer c⟩ := by
  cases c <;> simp [AnswersReadable, answeredRows, demoServiceAnswer]

/-- A database that does not fail, and a relay that takes every event; the app of each key is the
app 1. Reference: none. -/
def demoAnswer : (c : EventCmd) → c.Ans
  | .service c => demoServiceAnswer c
  | .turn => { now := 0, permissions := [] }
  | .createRequestEvent _ | .createResponseEvent _ _ => .ok 1
  | .budgetUsage _ => .ok 0
  | .firstApp appPubkey => .ok { id := 1, name := "alice", isolated := false, appPubkey }
  | .updateLastUsedAt _ _ | .updateRequestState _ _ | .updateRequestApp _ _
  | .updateRequestContent _ _ _ | .updateResponseEvent _ _ _ => .ok ()
  | .publishMany _ => [.ok ()]
  | .publishPermissionDenied _ _ _ _ => ()
  | .firstPermission _ _ => .ok none
  | .supportedMethods => []
  | .lightningAddress | .signMessage _ | .getInfo => .error (.message "not available")
  | .createConnection params => (AlbyHub.HandleCreateConnectionEvent {} params .empty).map (·.1)

/-- Reference: none. -/
def demoSurroundings : Surroundings where
  may c a := a = demoAnswer c
  answered c := ⟨demoAnswer c, rfl⟩
  readable c _ ha := ha ▸ demoServiceAnswer_readable c
  created _ _ ha := ⟨{}, .empty, ha⟩

/-- An event that names its encryption. Reference: `nip47/event_handler.go:111 HandleEvent`. -/
def encryptedEvent (encryption : String) : NostrEvent :=
  { pubKey := "alice", createdAt := 0, kind := 23194, tags := [["encryption", encryption]]
    content := "" }

/-- The event, with its app. Reference: none. -/
def demoContext (encryption : String) : Context where
  event := encryptedEvent encryption
  requestEventId := 1
  app := { id := 1, name := "alice", isolated := false, appPubkey := "alice" }
  appWalletPrivKey := "secret"

theorem demoContext_admitted (encryption : String) :
    Admitted demoLibrary demoSurroundings true (demoContext encryption) :=
  ⟨rfl, rfl, rfl, rfl, rfl⟩

theorem utf8ByteSize_ofList_replicate (n : Nat) :
    (String.ofList (List.replicate n 'x')).utf8ByteSize = n := by
  induction n with
  | zero => rfl
  | succ n ih =>
    rw [List.replicate_succ, String.ofList_cons, String.utf8ByteSize_append, ih]
    show 1 + n = n + 1
    omega

/-- An app crashes the hub with an event whose encryption tag is 70000 bytes long, although the
database and the relay do what they should. Reference: `nip47/event_handler.go:158 HandleEvent`. -/
theorem long_encryption_crashes : demoLibrary.LimitsNip44 ∧
    ¬Harmless demoSurroundings.may (HandleEvent demoLibrary demo true
      (encryptedEvent (String.ofList (List.replicate 70000 'x')))) := by
  have hlimit : demoLibrary.LimitsNip44 := fun _ _ _ hlong => ⟨_, if_pos hlong⟩
  have hmarshal : demoLibrary.MarshalsMessages := by
    intro response error payload herror hpayload
    cases hpayload
    rw [herror]
    simp only [String.utf8ByteSize_append]
    omega
  refine ⟨hlimit, ?_⟩
  refine not_harmless_of_longEncryption hlimit hmarshal (demoContext_admitted _) ?_ rfl
  show 65535 < (String.ofList (List.replicate 70000 'x')).utf8ByteSize
  rw [utf8ByteSize_ofList_replicate]
  decide

end AlbyHub.EventHandler
