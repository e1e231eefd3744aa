import Mathlib.Data.List.Basic
import Mathlib.Tactic.Cases

/-! Programs that reach their environment only through named operations, and the
traces of operations and replies they leave behind. -/

namespace Interaction

/-- Operations of an environment, each with the type of its replies. -/
structure Signature where
  Op : Type
  Reply : Op → Type

variable {σ τ : Signature} {α β γ : Type}

inductive Program (σ : Signature) (α : Type) where
  | ret (a : α)
  | call (op : σ.Op) (next : σ.Reply op → Program σ α)

namespace Program

def bind : Program σ α → (α → Program σ β) → Program σ β
  | .ret a, f => f a
  | .call op next, f => .call op fun reply => bind (next reply) f

instance : Monad (Program σ) where
  pure := .ret
  bind := Program.bind

def perform (op : σ.Op) : Program σ (σ.Reply op) := .call op .ret

/-- Answers every operation of `p` by a program over another signature. -/
def handle (h : (op : σ.Op) → Program τ (σ.Reply op)) : Program σ α → Program τ α
  | .ret a => .ret a
  | .call op next => h op >>= fun reply => handle h (next reply)

@[simp] theorem pure_eq_ret (a : α) : (pure a : Program σ α) = .ret a := rfl

@[simp] theorem ret_bind (a : α) (f : α → Program σ β) : (Program.ret a >>= f) = f a := rfl

@[simp] theorem call_bind (op : σ.Op) (next : σ.Reply op → Program σ α) (f : α → Program σ β) :
    (Program.call op next >>= f) = .call op fun reply => next reply >>= f := rfl

@[simp] theorem perform_bind (op : σ.Op) (f : σ.Reply op → Program σ β) :
    (perform op >>= f) = .call op f := rfl

theorem bind_bind (p : Program σ α) (f : α → Program σ β) (g : β → Program σ γ) :
    ((p >>= f) >>= g) = p >>= fun a => f a >>= g := by
  induction p with
  | ret a => rfl
  | call op next ih => simp only [call_bind, ih]

@[simp] theorem handle_ret (h : (op : σ.Op) → Program τ (σ.Reply op)) (a : α) :
    handle h (.ret a) = .ret a := rfl

@[simp] theorem handle_call (h : (op : σ.Op) → Program τ (σ.Reply op)) (op : σ.Op)
    (next : σ.Reply op → Program σ α) :
    handle h (.call op next) = h op >>= fun reply => handle h (next reply) := rfl

theorem handle_bind (h : (op : σ.Op) → Program τ (σ.Reply op)) (p : Program σ α)
    (f : α → Program σ β) :
    handle h (p >>= f) = handle h p >>= fun a => handle h (f a) := by
  induction p with
  | ret a => rfl
  | call op next ih => simp only [call_bind, handle_call, bind_bind, ih]

/-- The result of a program that has nothing left to do. -/
def returned : Program σ α → Option α
  | .ret a => some a
  | .call _ _ => none

theorem returned_eq_some {p : Program σ α} {a : α} : p.returned = some a ↔ p = .ret a := by
  cases p with
  | ret b => simp [returned]
  | call op next => simp [returned]

end Program

/-- One operation together with the reply it received. -/
structure Event (σ : Signature) where
  op : σ.Op
  reply : σ.Reply op

/-- `Steps p trace q`: answering the operations of `p` as in `trace` leaves `q` to run. -/
inductive Steps : Program σ α → List (Event σ) → Program σ α → Prop
  | refl (p : Program σ α) : Steps p [] p
  | call {op : σ.Op} {next : σ.Reply op → Program σ α} {reply : σ.Reply op}
      {trace : List (Event σ)} {q : Program σ α} (rest : Steps (next reply) trace q) :
      Steps (.call op next) (⟨op, reply⟩ :: trace) q

/-- `Runs p trace a`: `p` returns `a` after exactly the operations of `trace`. -/
def Runs (p : Program σ α) (trace : List (Event σ)) (a : α) : Prop := Steps p trace (.ret a)

theorem Steps.split {p q : Program σ α} {first second : List (Event σ)}
    (h : Steps p (first ++ second) q) : ∃ rest, Steps p first rest ∧ Steps rest second q := by
  induction first generalizing p with
  | nil => exact ⟨p, .refl p, h⟩
  | cons e first ih =>
    cases h with
    | call hrest =>
      obtain ⟨rest, hfirst, hsecond⟩ := ih hrest
      exact ⟨rest, .call hfirst, hsecond⟩

@[simp] theorem runs_ret {a b : α} {trace : List (Event σ)} :
    Runs (.ret a) trace b ↔ trace = [] ∧ b = a := by
  constructor
  · intro h
    cases h
    exact ⟨rfl, rfl⟩
  · rintro ⟨rfl, rfl⟩
    exact .refl _

@[simp] theorem runs_call {op : σ.Op} {next : σ.Reply op → Program σ α}
    {trace : List (Event σ)} {b : α} :
    Runs (.call op next) trace b ↔
      ∃ reply rest, trace = ⟨op, reply⟩ :: rest ∧ Runs (next reply) rest b := by
  constructor
  · intro h
    cases h with
    | call rest => exact ⟨_, _, rfl, rest⟩
  · rintro ⟨reply, rest, rfl, h⟩
    exact .call h

theorem runs_bind {p : Program σ α} {f : α → Program σ β} {trace : List (Event σ)} {b : β} :
    Runs (p >>= f) trace b ↔
      ∃ first a second, trace = first ++ second ∧ Runs p first a ∧ Runs (f a) second b := by
  induction p generalizing trace with
  | ret a =>
    constructor
    · intro h
      exact ⟨[], a, trace, rfl, .refl _, h⟩
    · rintro ⟨first, a', second, rfl, h, h'⟩
      obtain ⟨rfl, rfl⟩ := runs_ret.1 h
      exact h'
  | call op next ih =>
    rw [Program.call_bind, runs_call]
    constructor
    · rintro ⟨reply, rest, rfl, h⟩
      obtain ⟨first, a, second, rfl, hp, hf⟩ := (ih reply).1 h
      exact ⟨⟨op, reply⟩ :: first, a, second, rfl, .call hp, hf⟩
    · rintro ⟨first, a, second, rfl, hp, hf⟩
      obtain ⟨reply, rest, rfl, hnext⟩ := runs_call.1 hp
      exact ⟨reply, rest ++ second, rfl, (ih reply).2 ⟨rest, a, second, rfl, hnext, hf⟩⟩

/-- Every operation the program can issue satisfies `P`, whatever the replies. -/
def Program.Uses (P : σ.Op → Prop) : Program σ α → Prop
  | .ret _ => True
  | .call op next => P op ∧ ∀ reply, (next reply).Uses P

theorem Program.Uses.bind {P : σ.Op → Prop} {p : Program σ α} {f : α → Program σ β}
    (hp : p.Uses P) (hf : ∀ a, (f a).Uses P) : (p >>= f).Uses P := by
  induction p with
  | ret a => exact hf a
  | call op next ih => exact ⟨hp.1, fun reply => ih reply (hp.2 reply)⟩

theorem Program.Uses.bind_except {ε : Type} {P : σ.Op → Prop} {p : Program σ (Except ε α)}
    {f : Except ε α → Program σ β} (hp : p.Uses P) (herror : ∀ error, (f (.error error)).Uses P)
    (hok : ∀ a, (f (.ok a)).Uses P) : (p >>= f).Uses P := by
  apply hp.bind
  intro result
  cases result with
  | error error => exact herror error
  | ok a => exact hok a

theorem Program.Uses.mem {P : σ.Op → Prop} {p : Program σ α} {trace : List (Event σ)} {a : α}
    (huses : p.Uses P) (hruns : Runs p trace a) : ∀ e ∈ trace, P e.op := by
  induction p generalizing trace with
  | ret b => simp [(runs_ret.1 hruns).1]
  | call op next ih =>
    obtain ⟨reply, rest, rfl, hrest⟩ := runs_call.1 hruns
    intro e he
    rcases List.mem_cons.1 he with rfl | he
    · exact huses.1
    · exact ih reply (huses.2 reply) hrest e he

/-- Every result of the program satisfies `P`, whatever the replies. -/
def Program.Returns (P : α → Prop) : Program σ α → Prop
  | .ret a => P a
  | .call _ next => ∀ reply, (next reply).Returns P

theorem Program.Returns.mono {P Q : α → Prop} {p : Program σ α} (hp : p.Returns P)
    (hPQ : ∀ a, P a → Q a) : p.Returns Q := by
  induction p with
  | ret a => exact hPQ a hp
  | call op next ih => exact fun reply => ih reply (hp reply)

theorem Program.returns_of_forall {P : α → Prop} (hP : ∀ a, P a) (p : Program σ α) :
    p.Returns P := by
  induction p with
  | ret a => exact hP a
  | call op next ih => exact ih

theorem Program.Returns.bind {P : α → Prop} {Q : β → Prop} {p : Program σ α}
    {f : α → Program σ β} (hp : p.Returns P) (hf : ∀ a, P a → (f a).Returns Q) :
    (p >>= f).Returns Q := by
  induction p with
  | ret a => exact hf a hp
  | call op next ih => exact fun reply => ih reply (hp reply)

/-- Every operation the program can issue satisfies `P`, and every result `Q`. -/
def Program.Within (P : σ.Op → Prop) (Q : α → Prop) (p : Program σ α) : Prop :=
  p.Uses P ∧ p.Returns Q

theorem Program.Uses.within {P : σ.Op → Prop} {p : Program σ α} (hp : p.Uses P) :
    p.Within P fun _ => True := ⟨hp, p.returns_of_forall fun _ => trivial⟩

theorem Program.Within.bind {P : σ.Op → Prop} {Q : α → Prop} {R : β → Prop} {p : Program σ α}
    {f : α → Program σ β} (hp : p.Within P Q) (hf : ∀ a, Q a → (f a).Within P R) :
    (p >>= f).Within P R := by
  refine ⟨?_, hp.2.bind fun a ha => (hf a ha).2⟩
  obtain ⟨huses, hreturns⟩ := hp
  induction p with
  | ret a => exact (hf a hreturns).1
  | call op next ih => exact ⟨huses.1, fun reply => ih reply (huses.2 reply) (hreturns reply)⟩

theorem Program.Within.mono {P : σ.Op → Prop} {Q R : α → Prop} {p : Program σ α}
    (hp : p.Within P Q) (hQR : ∀ a, Q a → R a) : p.Within P R := ⟨hp.1, hp.2.mono hQR⟩

theorem Program.Returns.handle {P : α → Prop} {p : Program σ α} (hp : p.Returns P)
    (h : (op : σ.Op) → Program τ (σ.Reply op)) : (p.handle h).Returns P := by
  induction p with
  | ret a => exact hp
  | call op next ih =>
    exact (Program.returns_of_forall (fun _ => trivial) (h op)).bind
      fun reply _ => ih reply (hp reply)

theorem Program.Returns.of_runs {P : α → Prop} {p : Program σ α} {trace : List (Event σ)} {a : α}
    (hp : p.Returns P) (hruns : Runs p trace a) : P a := by
  induction p generalizing trace with
  | ret b =>
    rw [(runs_ret.1 hruns).2]
    exact hp
  | call op next ih =>
    obtain ⟨reply, rest, rfl, hrest⟩ := runs_call.1 hruns
    exact ih reply (hp reply) hrest

/-- `Expands h trace expanded`: answering each operation of `trace` by its program in `h`,
with the reply recorded, leaves `expanded`. -/
inductive Expands (h : (op : σ.Op) → Program τ (σ.Reply op)) :
    List (Event σ) → List (Event τ) → Prop
  | nil : Expands h [] []
  | cons {op : σ.Op} {reply : σ.Reply op} {trace : List (Event σ)}
      {first second : List (Event τ)} (head : Runs (h op) first reply)
      (tail : Expands h trace second) : Expands h (⟨op, reply⟩ :: trace) (first ++ second)

variable {h : (op : σ.Op) → Program τ (σ.Reply op)}

theorem Runs.expands {p : Program σ α} {expanded : List (Event τ)} {a : α}
    (hruns : Runs (p.handle h) expanded a) :
    ∃ trace, Runs p trace a ∧ Expands h trace expanded := by
  induction p generalizing expanded with
  | ret b =>
    obtain ⟨rfl, rfl⟩ := runs_ret.1 hruns
    exact ⟨[], .refl _, .nil⟩
  | call op next ih =>
    obtain ⟨first, reply, second, rfl, hhead, hrest⟩ := runs_bind.1 hruns
    obtain ⟨trace, htrace, hexpands⟩ := ih reply hrest
    exact ⟨⟨op, reply⟩ :: trace, .call htrace, .cons hhead hexpands⟩

theorem Expands.of_cons {e : Event σ} {trace : List (Event σ)} {expanded : List (Event τ)}
    (hexpands : Expands h (e :: trace) expanded) :
    ∃ first second, expanded = first ++ second ∧ Runs (h e.op) first e.reply ∧
      Expands h trace second := by
  cases hexpands with
  | cons head tail => exact ⟨_, _, rfl, head, tail⟩

theorem Expands.append {before after : List (Event σ)} {first second : List (Event τ)}
    (hfirst : Expands h before first) (hsecond : Expands h after second) :
    Expands h (before ++ after) (first ++ second) := by
  induction hfirst with
  | nil => exact hsecond
  | cons head _ ih =>
    rw [List.append_assoc]
    exact .cons head ih

theorem Expands.of_append {before after : List (Event σ)} {expanded : List (Event τ)}
    (hexpands : Expands h (before ++ after) expanded) :
    ∃ first second, expanded = first ++ second ∧ Expands h before first ∧
      Expands h after second := by
  induction before generalizing expanded with
  | nil => exact ⟨[], expanded, rfl, .nil, hexpands⟩
  | cons e before ih =>
    obtain ⟨head, tail, rfl, hhead, htail⟩ := hexpands.of_cons
    obtain ⟨first, second, rfl, hfirst, hsecond⟩ := ih htail
    exact ⟨head ++ first, second, (List.append_assoc _ _ _).symm, .cons hhead hfirst, hsecond⟩

theorem Expands.returns {P : (op : σ.Op) → σ.Reply op → Prop} {trace : List (Event σ)}
    {expanded : List (Event τ)} (hexpands : Expands h trace expanded)
    (hP : ∀ op, (h op).Returns (P op)) : ∀ e ∈ trace, P e.op e.reply := by
  induction hexpands with
  | nil => exact nofun
  | cons head tail ih =>
    intro e he
    rcases List.mem_cons.1 he with rfl | he
    · exact (hP _).of_runs head
    · exact ih e he

theorem Expands.forall_mem {P : Event τ → Prop} {trace : List (Event σ)}
    {expanded : List (Event τ)} (hexpands : Expands h trace expanded)
    (hP : ∀ e ∈ trace, ∀ first, Runs (h e.op) first e.reply → ∀ e' ∈ first, P e') :
    ∀ e' ∈ expanded, P e' := by
  induction hexpands with
  | nil => simp
  | cons head tail ih =>
    intro e' he'
    rcases List.mem_append.1 he' with hfirst | hsecond
    · exact hP _ (List.mem_cons_self ..) _ head e' hfirst
    · exact ih (fun e he => hP e (List.mem_cons_of_mem _ he)) e' hsecond

theorem split_unique {β : Type} {P : β → Prop} {pre post before after : List β} {x y : β}
    (hpre : ∀ z ∈ pre, ¬P z) (hpost : ∀ z ∈ post, ¬P z) (hy : P y)
    (heq : pre ++ x :: post = before ++ y :: after) : pre = before ∧ x = y ∧ post = after := by
  induction pre generalizing before with
  | nil =>
    cases before with
    | nil =>
      obtain ⟨rfl, rfl⟩ := List.cons.inj heq
      exact ⟨rfl, rfl, rfl⟩
    | cons b before =>
      obtain ⟨-, htail⟩ := List.cons.inj heq
      have hmem : y ∈ post := by rw [htail]; simp
      exact absurd hy (hpost y hmem)
  | cons z pre ih =>
    cases before with
    | nil =>
      obtain ⟨rfl, -⟩ := List.cons.inj heq
      exact absurd hy (hpre z (List.mem_cons_self ..))
    | cons b before =>
      obtain ⟨rfl, htail⟩ := List.cons.inj heq
      obtain ⟨rfl, hrest⟩ := ih (fun w hw => hpre w (List.mem_cons_of_mem _ hw)) htail
      exact ⟨rfl, hrest⟩

end Interaction
