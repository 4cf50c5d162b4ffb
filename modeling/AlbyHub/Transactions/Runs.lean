import AlbyHub.Transactions.Calls

/-!
# Runs that are computed

A run of the hub is computed from the list of its steps (`Pool.after`), and it is a run of the model
when its steps are allowed (`Reachable.of_after`). The world `demo` answers like the real functions
on the invoices and the preimage of the repository's tests; results that need a hypothesis are
instantiated in it, and failures are shown in it.
-/

namespace AlbyHub

open Go Interaction

/-- The pool after the steps; the pool itself where a step is not possible. Reference: none. -/
def Pool.after (W : World) (cfg : Pool) (labels : List PoolLabel) : Pool :=
  (cfg.run (exec W) (body W) labels).getD cfg

/-- Whether all steps are possible. Reference: none. -/
def Pool.runs (W : World) (cfg : Pool) (labels : List PoolLabel) : Bool :=
  (cfg.run (exec W) (body W) labels).isSome

section
variable {W : World} {init : Pool → Prop} {allowed : Pool → PoolLabel → Prop} {cfg : Pool}

/-- A computed run of allowed steps is a run. Reference: none. -/
theorem Reachable.of_after {labels : List PoolLabel} (h : Reachable W init allowed cfg)
    (ha : cfg.Allows (exec W) (body W) allowed labels) (hr : cfg.runs W labels = true) :
    Reachable W init allowed (cfg.after W labels) := by
  obtain ⟨cfg', hc⟩ := Option.isSome_iff_exists.1 hr
  rw [Pool.after, hc]
  exact h.of_run ha hc

/-- The step that a computed run takes. Reference: none. -/
theorem Pool.step_after {l : PoolLabel} (hr : cfg.runs W [l] = true) :
    cfg.step (exec W) (body W) l = some (cfg.after W [l]) := by
  obtain ⟨cfg', hc⟩ := Option.isSome_iff_exists.1 hr
  rw [Pool.after, hc]
  obtain ⟨cfg₁, hs, hc⟩ := Option.bind_eq_some_iff.1 hc
  cases hc
  exact hs

theorem Config.allows_any {labels : List PoolLabel} :
    cfg.Allows (exec W) (body W) anyStep labels := Config.allows_true

end

/-- A policy that is decided on the command that a call executes next; starting a call and a restart
are decided on the pool. Reference: none. -/
structure Policy where
  spawn : Pool → Op → Prop := fun _ _ => True
  call : Op → History → Hub → Cmd → Env → Prop := fun _ _ _ _ _ => True
  restart : Pool → Prop := fun _ => True

/-- The steps that a policy allows. Reference: none. -/
def Policy.allowed (P : Policy) (cfg : Pool) : PoolLabel → Prop
  | .spawn op => P.spawn cfg op
  | .run i e => ∀ op h c k, cfg.threads[i]? = some ⟨op, h, .cmd c k⟩ → P.call op h cfg.state c e
  | .restart => P.restart cfg

section
variable {P : Policy} [∀ cfg op, Decidable (P.spawn cfg op)] [∀ cfg, Decidable (P.restart cfg)]
variable [∀ op h s c env, Decidable (P.call op h s c env)]

instance Policy.decidableAllowed : ∀ (cfg : Pool) (l : PoolLabel), Decidable (P.allowed cfg l)
  | cfg, .spawn op => inferInstanceAs (Decidable (P.spawn cfg op))
  | cfg, .restart => inferInstanceAs (Decidable (P.restart cfg))
  | cfg, .run i e =>
    match hi : cfg.threads[i]? with
    | some ⟨op, h, .cmd c _⟩ =>
      decidable_of_iff (P.call op h cfg.state c e)
        ⟨fun hp _ _ _ _ ht => by rw [hi] at ht; cases ht; exact hp, fun hp => hp _ _ _ _ hi⟩
    | some ⟨_, _, .ret _⟩ => isTrue fun _ _ _ _ ht => by rw [hi] at ht; cases ht
    | none => isTrue fun _ _ _ _ ht => by rw [hi] at ht; cases ht

end

/-- An invoice of 1000 sat and a hold invoice of 1100 sat with the same payment hash, and the
preimage. Reference: `transactions/self_hold_payments_test.go:105 TestWrappedInvoice`. -/
def charlieInvoice : String :=
  "lnbcrt10u1p5cammypp53u7058xu7xw7fdhah8kr8xm5wrnjf5x82kmuw45pvn2a7x" ++
  "msafhqdqqcqzzsxq97zvuqsp5k9qse5srd9mfaxlgucr0p2gzf9464xte5xtqgjxyxj7794jxav9q9qxpqysgqnvwx0j9qxk" ++
  "x6k9efetdr0vdkrnp4vn23ud4gwpm0k28vf3v0rcmzfnued907r7ju6d86wr25ypt366szd0f7s28nzrvwmp4rck4358spfr" ++
  "9vx9"

/-- Reference: `transactions/self_hold_payments_test.go:180 TestWrappedInvoice`. -/
def bobHoldInvoice : String :=
  "lnbcrt11u1p5cama7pp53u7058xu7xw7fdhah8kr8xm5wrnjf5x82kmuw45pvn2a7x" ++
  "msafhqdqqcqzzsxq97zvuqsp5mtvgejxel3yjyk55e58dgjg9v2mnxva9xn83yg05mducwz3ujhrq9qxpqysgqp48sr0r7x6" ++
  "hj5vcefn3wtj7g8r33agyp4aqfasyr2fptxp066wzppmr7rw9my3frezy65hw7u5l0tnqh7393x2km7tf2tk3efdl0c7qpta" ++
  "n9m9"

/-- Reference: `transactions/self_hold_payments_test.go:170 TestWrappedInvoice`. -/
def wrappedPreimage : String := "fcf200c74d9900dc77af17eb1f57c02eec0f94b5b169d3eee23df9a216a3411b"

/-- Reference: `transactions/self_hold_payments_test.go:171 TestWrappedInvoice`. -/
def wrappedHash : String := "8f3cfa1cdcf19de4b6fdb9ec339b7470e724d0c755b7c7568164d5df1b70ea6e"

/-- An invoice of 123 sat. Reference: `tests/mock_ln_client.go:15 MockInvoice`. -/
def mockInvoice : String :=
  "lntbs1230n1pnkqautdqyw3jsnp4q09a0z84kg4a2m38zjllw43h953fx5zvqe8qxfgw694" ++
  "ymkq26u8zcpp5yvnh6hsnlnj4xnuh2trzlnunx732dv8ta2wjr75pdfxf6p2vlyassp5hyeg97a3ft5u769kjwsn7p0e85h7" ++
  "9pzz8kladmnqhpcypz2uawjs9qyysgqcqpcxq8zals8sq9yeg2pa9eywkgj50cyzxd5elatujuc0c0wh6j9nat5mn34pgk8u" ++
  "9ufpgs99tw9ldlfk42cqlkr48au3lmuh09269prg4qkggh4a8cyqpfl0y6j"

/-- Reference: `tests/mock_ln_client.go:16 MockPaymentHash`. -/
def mockHash : String := "23277d5e13fce5534f9752c62fcf9337a2a6b0ebea9d21fa816a4c9d054cf93b"

theorem toLower_mockInvoice : toLower (fun c => c) mockInvoice = mockInvoice := by
  unfold mockInvoice
  rw [toLower_append, toLower_append, toLower_append]
  refine congrArg₂ _ (congrArg₂ _ (congrArg₂ _ ?_ ?_) ?_) ?_
  all_goals exact toLower_ofList (by decide +kernel)

/-- An invoice without an amount. Reference: `tests/mock_ln_client.go:18 MockZeroAmountInvoice`. -/
def zeroAmountInvoice : String :=
  "lntbs1pnkjfgudqjd3hkueeqv4u8q6tj0ynp4qws83mqzuqptu5kfvxeles7qmyh" ++
  "sj6u2s6zyuft26mcr4tdmcupuupp533y9nwnsaktr9zlvyxmv97ta23faerygh3t9xvsfwytsr28lgggssp5mku3023z3kdx" ++
  "lpx6vrwtfxvvrxpffrquy6veex4ndk7rxhdtslhq9qyysgqcqpcxqxfvltyqva6y7k89jwtcljx399jl6wsq4lkq29vnm3rj" ++
  "4jxmapc6vcs358sx8mtpgh93rdc6ccqpxwwfga59zrla5m55zwzck2y2rsrxumu852sqkvpcm7"

/-- Reference: `tests/mock_ln_client.go:19 MockZeroAmountPaymentHash`. -/
def zeroAmountHash : String := "8c4859ba70ed96328bec21b6c2f97d5453dc8c88bc56533209711701a8ff4211"

/-- The invoices of the tests, decoded. Reference: `decodepay.Decodepay`. -/
def demoInvoices : List (String × Bolt11) := [
  (charlieInvoice, ⟨1000000, wrappedHash, "", "", 1770975076, 31536000⟩),
  (bobHoldInvoice, ⟨1100000, wrappedHash, "", "", 1770975166, 31536000⟩),
  (mockInvoice, ⟨123000, mockHash, "te", "", 1734375307, 3153600000⟩),
  (zeroAmountInvoice, ⟨0, zeroAmountHash, "long expiry", "", 1734944028, 315600000⟩)]

/-- A world on the invoices and the preimage of the tests. The node does not tell of received
payments in `polling` ones. Reference: `tests/mock_ln_client.go`. -/
def demoWorld (notificationTypes : List String) : World where
  decodepay s := match demoInvoices.lookup s with
    | some decoded => .ok decoded
    | none => .error "invalid bech32 string"
  sha256 bytes := if hexEncodeToString bytes = wrappedPreimage then
    (hexDecodeString wrappedHash).getD [] else []
  marshal _ := .ok "{}"
  unmarshal _ := (some [], none)
  boostagramMessage _ := none
  text _ := ""
  sqlLower s := toLower (fun c => c) s
  userLabels _ := []
  lowerNonAscii c := c
  civil _ := ⟨2026, 3, 1, 0⟩
  date _ _ _ := Time.unix 1772323200
  addDays t n := t + Time.unix (n * 86400)
  pubkey := "123pubkey"
  notificationTypes := notificationTypes
  postgres := false

/-- A node that tells of received payments. Reference: `lnclient/ldk/ldk.go`,
`GetSupportedNIP47NotificationTypes`. -/
def demo : World := demoWorld ["payment_received", "payment_sent"]

/-- An instant at which none of the invoices has expired. Reference: none. -/
def demoNow : Time := Time.unix 1772323200

/-- The hub with the apps 1 and 2, both isolated and with the permission to pay, over a table.
Reference: `tests/create_test_service.go`. -/
def demoDB (t : Table) : DB where
  transactions := t
  apps := [⟨1, "alice", true, none⟩, ⟨2, "bob", true, none⟩]
  permissions := [{ appId := 1, scope := "pay_invoice" }, { appId := 2, scope := "pay_invoice" }]
  apps_nodup := by decide

/-- The hub before its first call. Reference: none. -/
def demoPool (t : Table) : Pool := ⟨⟨demoDB t, []⟩, []⟩

/-- `n` steps of the call `i` in the environment `e`. Reference: none. -/
def steps (i n : Nat) (e : Env) : List PoolLabel := List.replicate n (.run i e)

/-- A keysend to the own node, which settles two rows. Reference:
`transactions/keysend_test.go`. -/
def demoKeysend : Op := .sendKeysend 1000 "123pubkey" [] wrappedPreimage none none

/-- The steps of one such keysend by call `i`. Reference: none. -/
def demoKeysendRun (i : Nat) : List PoolLabel :=
  .spawn demoKeysend :: steps i 7 { now := demoNow }

end AlbyHub
