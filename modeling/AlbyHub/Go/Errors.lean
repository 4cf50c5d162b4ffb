import AlbyHub.Interaction.Solo

/-!
# Programs that stop at an error

A program that may fail is continued only where it does not (`andThen`). `Ends` says of one that
nobody interferes with exactly when it succeeds, what holds then, and what holds where it fails. It
has a rule for a returned value (`Ends.ret`, `Ends.fail`), for one command (`Ends.call`), for
sequencing (`Ends.andThen`) and for weakening (`Ends.mono`).
-/

namespace Go

open Interaction

section
variable {S E C : Type} {R : C → Type} {α β : Type}
variable {exec : S → (c : C) → E → Option (R c × S)} {env : C → E} {s : S}
variable {ok ok' : Prop} {post post' : α → S → Prop} {out : β → S → Prop}
variable {failed failed' : S → Prop}

/-- `if err := …; err != nil { return fmt.Errorf("…: %w", err) }`. Reference: the Go language. -/
def andThen (p : Prog C R (Except String α)) (text : String) (k : α → Prog C R (Except String β)) :
    Prog C R (Except String β) :=
  p >>= fun
    | .error e => .ret (.error (text ++ e))
    | .ok a => k a

/-- The program, started in `s`, succeeds exactly where `ok` holds. It leaves `post` where it
succeeds and `failed` where it does not. Reference: none. -/
def Ends (exec : S → (c : C) → E → Option (R c × S)) (env : C → E) (ok : Prop) (post : α → S → Prop)
    (failed : S → Prop) (p : Prog C R (Except String α)) (s : S) : Prop :=
  (ok ∧ ∃ a s', p.play exec (fun _ s => s) env s = some (.ok a, s') ∧ post a s') ∨
    (¬ok ∧ ∃ e s', p.play exec (fun _ s => s) env s = some (.error e, s') ∧ failed s')

/-- The rule of a returned value. Reference: none. -/
theorem Ends.ret {a : α} (hok : ok) (hpost : post a s) :
    Ends exec env ok post failed (.ret (.ok a)) s :=
  .inl ⟨hok, a, s, rfl, hpost⟩

/-- The rule of a returned error. Reference: none. -/
theorem Ends.fail {e : String} (hok : ¬ok) (hfailed : failed s) :
    Ends exec env ok post failed (.ret (.error e)) s :=
  .inr ⟨hok, e, s, rfl, hfailed⟩

/-- The rule of weakening. Reference: none. -/
theorem Ends.mono {p : Prog C R (Except String α)} (hp : Ends exec env ok post failed p s)
    (hok : ok ↔ ok') (hpost : ok → ∀ a s', post a s' → post' a s')
    (hfailed : ¬ok → ∀ s', failed s' → failed' s') : Ends exec env ok' post' failed' p s := by
  rcases hp with ⟨h, a, s', hplay, hs⟩ | ⟨h, e, s', hplay, hs⟩
  · exact .inl ⟨hok.1 h, a, s', hplay, hpost h a s' hs⟩
  · exact .inr ⟨fun h' => h (hok.2 h'), e, s', hplay, hfailed h s' hs⟩

/-- The rule of sequencing. Reference: none. -/
theorem Ends.andThen {p : Prog C R (Except String α)} {text : String}
    {k : α → Prog C R (Except String β)} (hp : Ends exec env ok post failed p s)
    (hk : ok → ∀ a s', post a s' → Ends exec env ok' out failed (k a) s') :
    Ends exec env (ok ∧ ok') out failed (Go.andThen p text k) s := by
  rcases hp with ⟨hok, a, s₁, hplay, hs₁⟩ | ⟨hok, e, s₁, hplay, hs₁⟩
  · have hrun : (Go.andThen p text k).play exec (fun _ s => s) env s =
        (k a).play exec (fun _ s => s) env s₁ := by
      rw [Go.andThen, Prog.play_bind, hplay]
      rfl
    rcases hk hok a s₁ hs₁ with ⟨hok', b, s', hk, hs'⟩ | ⟨hok', e, s', hk, hs'⟩
    · exact .inl ⟨⟨hok, hok'⟩, b, s', hrun.trans hk, hs'⟩
    · exact .inr ⟨fun h => hok' h.2, e, s', hrun.trans hk, hs'⟩
  · refine .inr ⟨fun h => hok h.1, text ++ e, s₁, ?_, hs₁⟩
    rw [Go.andThen, Prog.play_bind, hplay]
    rfl

end

end Go
