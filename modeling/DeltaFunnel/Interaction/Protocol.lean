import DeltaFunnel.Interaction.Program

/-! Protocols: which operations a state of the environment allows, which replies it can
give, and how it moves on. `Meets` is the weakest precondition of a program over one. -/

namespace Interaction

variable {σ : Signature} {S α β : Type}

structure Protocol (σ : Signature) (S : Type) where
  allowed : S → σ.Op → Prop
  possible : S → (op : σ.Op) → σ.Reply op → Prop
  next : S → (op : σ.Op) → σ.Reply op → S

namespace Protocol

def after (A : Protocol σ S) (s : S) : List (Event σ) → S
  | [] => s
  | e :: trace => A.after (A.next s e.op e.reply) trace

/-- Every reply of the trace is one the environment can give. -/
def Follows (A : Protocol σ S) (s : S) : List (Event σ) → Prop
  | [] => True
  | e :: trace => A.possible s e.op e.reply ∧ A.Follows (A.next s e.op e.reply) trace

/-- Every operation of the trace is allowed where it is issued. -/
def Respects (A : Protocol σ S) (s : S) : List (Event σ) → Prop
  | [] => True
  | e :: trace => A.allowed s e.op ∧ A.Respects (A.next s e.op e.reply) trace

/-- From `s`, `p` issues allowed operations only, and returns in states satisfying `Q`. -/
def Meets (A : Protocol σ S) : Program σ α → S → (α → S → Prop) → Prop
  | .ret a, s, Q => Q a s
  | .call op next, s, Q =>
    A.allowed s op ∧ ∀ reply, A.possible s op reply → A.Meets (next reply) (A.next s op reply) Q

variable {A : Protocol σ S} {s : S} {Q R : α → S → Prop}

@[simp] theorem after_nil : A.after s [] = s := rfl

@[simp] theorem after_cons {e : Event σ} {trace : List (Event σ)} :
    A.after s (e :: trace) = A.after (A.next s e.op e.reply) trace := rfl

theorem after_append (first second : List (Event σ)) :
    A.after s (first ++ second) = A.after (A.after s first) second := by
  induction first generalizing s with
  | nil => rfl
  | cons e first ih => exact ih

theorem follows_append {first second : List (Event σ)} :
    A.Follows s (first ++ second) ↔ A.Follows s first ∧ A.Follows (A.after s first) second := by
  induction first generalizing s with
  | nil => exact ⟨fun h => ⟨trivial, h⟩, fun h => h.2⟩
  | cons e first ih =>
    show A.possible s e.op e.reply ∧ A.Follows _ (first ++ second) ↔ _
    rw [ih, ← and_assoc]
    rfl

@[simp] theorem meets_ret {a : α} : A.Meets (.ret a) s Q ↔ Q a s := Iff.rfl

@[simp] theorem meets_call {op : σ.Op} {next : σ.Reply op → Program σ α} :
    A.Meets (.call op next) s Q ↔ A.allowed s op ∧
      ∀ reply, A.possible s op reply → A.Meets (next reply) (A.next s op reply) Q := Iff.rfl

theorem meets_bind {p : Program σ α} {f : α → Program σ β} {Q : β → S → Prop} :
    A.Meets (p >>= f) s Q ↔ A.Meets p s fun a t => A.Meets (f a) t Q := by
  induction p generalizing s with
  | ret a => rfl
  | call op next ih => simp only [Program.call_bind, meets_call, ih]

theorem Meets.mono {p : Program σ α} (h : A.Meets p s Q) (hQR : ∀ a t, Q a t → R a t) :
    A.Meets p s R := by
  induction p generalizing s with
  | ret a => exact hQR a s h
  | call op next ih => exact ⟨h.1, fun reply hreply => ih reply (h.2 reply hreply)⟩

theorem Meets.bind {p : Program σ α} {f : α → Program σ β} {Q' : β → S → Prop}
    (h : A.Meets p s Q) (hf : ∀ a t, Q a t → A.Meets (f a) t Q') : A.Meets (p >>= f) s Q' :=
  meets_bind.2 (h.mono hf)

theorem Meets.steps {p q : Program σ α} {trace : List (Event σ)} (h : A.Meets p s Q)
    (hsteps : Steps p trace q) (hfollows : A.Follows s trace) :
    A.Respects s trace ∧ A.Meets q (A.after s trace) Q := by
  induction hsteps generalizing s with
  | refl p => exact ⟨trivial, h⟩
  | call rest ih =>
    obtain ⟨hrespects, hmeets⟩ := ih (h.2 _ hfollows.1) hfollows.2
    exact ⟨⟨h.1, hrespects⟩, hmeets⟩

/-- **Soundness.** A run whose replies are possible respects the protocol and ends in `Q`. -/
theorem Meets.sound {p : Program σ α} {trace : List (Event σ)} {a : α} (h : A.Meets p s Q)
    (hruns : Runs p trace a) (hfollows : A.Follows s trace) :
    A.Respects s trace ∧ Q a (A.after s trace) := h.steps hruns hfollows

theorem Respects.at_event {before after : List (Event σ)} {e : Event σ}
    (h : A.Respects s (before ++ e :: after)) : A.allowed (A.after s before) e.op := by
  induction before generalizing s with
  | nil => exact h.1
  | cons e' before ih => exact ih h.2

/-- The same environment, with other operations allowed. -/
def allowing (A : Protocol σ S) (allowed : S → σ.Op → Prop) : Protocol σ S :=
  { A with allowed }

theorem after_allowing {allowed : S → σ.Op → Prop} (s : S) (trace : List (Event σ)) :
    (A.allowing allowed).after s trace = A.after s trace := by
  induction trace generalizing s with
  | nil => rfl
  | cons e trace ih => exact ih _

theorem follows_allowing {allowed : S → σ.Op → Prop} {trace : List (Event σ)} :
    (A.allowing allowed).Follows s trace ↔ A.Follows s trace := by
  induction trace generalizing s with
  | nil => rfl
  | cons e trace ih => exact and_congr_right fun _ => ih

theorem Meets.uses {allowed : S → σ.Op → Prop} {P : σ.Op → Prop} {p : Program σ α}
    (h : (A.allowing allowed).Meets p s Q) (huses : p.Uses P) :
    (A.allowing fun t op => allowed t op ∧ P op).Meets p s Q := by
  induction p generalizing s with
  | ret a => exact h
  | call op next ih =>
    exact ⟨⟨h.1, huses.1⟩, fun reply hreply => ih reply (h.2 reply hreply) (huses.2 reply)⟩

theorem Meets.weaken {allowed allowed' : S → σ.Op → Prop} {p : Program σ α}
    (h : (A.allowing allowed).Meets p s Q) (hallowed : ∀ t op, allowed t op → allowed' t op) :
    (A.allowing allowed').Meets p s Q := by
  induction p generalizing s with
  | ret a => exact h
  | call op next ih =>
    exact ⟨hallowed _ _ h.1, fun reply hreply => ih reply (h.2 reply hreply)⟩

theorem Meets.always {I : S → Prop} {p q : Program σ α} {trace : List (Event σ)}
    (h : (A.allowing fun t _ => I t).Meets p s fun _ t => I t) (hsteps : Steps p trace q)
    (hfollows : A.Follows s trace) : I (A.after s trace) := by
  have hrest := (h.steps hsteps (follows_allowing.2 hfollows)).2
  rw [after_allowing] at hrest
  cases q with
  | ret a => exact hrest
  | call op next => exact hrest.1

/-- The run in which `answer` decides every reply. -/
def drive (A : Protocol σ S) (answer : S → (op : σ.Op) → σ.Reply op) :
    Program σ α → S → List (Event σ) × α
  | .ret a, _ => ([], a)
  | .call op next, s =>
    let reply := answer s op
    let rest := A.drive answer (next reply) (A.next s op reply)
    (⟨op, reply⟩ :: rest.1, rest.2)

variable {answer : S → (op : σ.Op) → σ.Reply op}

theorem drive_runs (p : Program σ α) (s : S) :
    Runs p (A.drive answer p s).1 (A.drive answer p s).2 := by
  induction p generalizing s with
  | ret a => exact .refl _
  | call op next ih => exact .call (ih _ _)

theorem drive_follows (hanswer : ∀ s op, A.possible s op (answer s op)) (p : Program σ α) (s : S) :
    A.Follows s (A.drive answer p s).1 := by
  induction p generalizing s with
  | ret a => trivial
  | call op next ih => exact ⟨hanswer s op, ih _ _⟩

end Protocol
end Interaction
