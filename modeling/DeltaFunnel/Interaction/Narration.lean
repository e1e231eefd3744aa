import DeltaFunnel.Interaction.Protocol

/-! Programs that announce what they do. Leaving the announcements out gives back the operations,
so a narrated program does what its silent one does. -/

namespace Interaction

variable {E α β : Type} {σ : Signature}

section Signature
variable (E σ)

inductive NarratedOp where
  | say (event : E)
  | act (op : σ.Op)

/-- Operations, and announcements that nobody replies to. -/
@[reducible] def narrated : Signature where
  Op := NarratedOp E σ
  Reply
    | .say _ => Unit
    | .act op => σ.Reply op

end Signature

abbrev Narrated (E : Type) (σ : Signature) (α : Type) := Program (narrated E σ) α

namespace Narrated

def say (event : E) : Narrated E σ Unit := .call (NarratedOp.say event) .ret

def acting : Program σ α → Narrated E σ α
  | .ret a => .ret a
  | .call op next => .call (NarratedOp.act op) fun reply => acting (next reply)

def silent : Narrated E σ α → Program σ α
  | .ret a => .ret a
  | .call (.say _) next => silent (next ())
  | .call (.act op) next => .call op fun reply => silent (next reply)

theorem silent_bind (p : Narrated E σ α) (f : α → Narrated E σ β) :
    silent (p >>= f) = silent p >>= fun a => silent (f a) := by
  induction p with
  | ret a => rfl
  | call op next ih =>
    cases op with
    | say event => exact ih ()
    | act op =>
      show Program.call op _ = Program.call op _
      congr 1
      funext reply
      exact ih reply

@[simp] theorem silent_ret (a : α) : silent (.ret a : Narrated E σ α) = .ret a := rfl

@[simp] theorem silent_pure (a : α) : silent (pure a : Narrated E σ α) = pure a := rfl

@[simp] theorem silent_say_bind (event : E) (f : Unit → Narrated E σ α) :
    silent (say event >>= f) = silent (f ()) := rfl

@[simp] theorem silent_acting (p : Program σ α) : silent (acting p : Narrated E σ α) = p := by
  induction p with
  | ret a => rfl
  | call op next ih =>
    show Program.call op _ = Program.call op _
    congr 1
    funext reply
    exact ih reply

end Narrated

def sayings (trace : List (Event (narrated E σ))) : List E :=
  trace.filterMap fun event =>
    match event with
    | ⟨.say told, _⟩ => some told
    | ⟨.act _, _⟩ => none

def actions (trace : List (Event (narrated E σ))) : List (Event σ) :=
  trace.filterMap fun event =>
    match event with
    | ⟨.say _, _⟩ => none
    | ⟨.act op, reply⟩ => some ⟨op, reply⟩

theorem Runs.silent {p : Narrated E σ α} {trace : List (Event (narrated E σ))} {a : α}
    (hruns : Runs p trace a) : Runs p.silent (actions trace) a := by
  induction p generalizing trace with
  | ret b =>
    obtain ⟨rfl, rfl⟩ := runs_ret.1 hruns
    exact .refl _
  | call op next ih =>
    obtain ⟨reply, rest, rfl, hrest⟩ := runs_call.1 hruns
    cases op with
    | say event =>
      have hsilent := ih () hrest
      exact hsilent
    | act op => exact .call (ih reply hrest)

theorem Runs.narrated {p : Narrated E σ α} {trace : List (Event σ)} {a : α}
    (hruns : Runs p.silent trace a) : ∃ told, Runs p told a ∧ actions told = trace ∧
      ∀ told' a', Runs p told' a' → actions told' = trace → told' = told := by
  induction p generalizing trace with
  | ret b =>
    obtain ⟨rfl, rfl⟩ := runs_ret.1 hruns
    refine ⟨[], .refl _, rfl, fun told' a' htold' _ => (runs_ret.1 htold').1⟩
  | call op next ih =>
    cases op with
    | say event =>
      obtain ⟨told, htold, hactions, hunique⟩ := ih () hruns
      refine ⟨⟨NarratedOp.say event, ()⟩ :: told, .call htold, hactions, ?_⟩
      intro told' a' htold' hactions'
      obtain ⟨reply, rest, rfl, hrest⟩ := runs_call.1 htold'
      rw [hunique rest a' hrest hactions']
    | act op =>
      obtain ⟨reply, rest, rfl, hrest⟩ := runs_call.1 hruns
      obtain ⟨told, htold, hactions, hunique⟩ := ih reply hrest
      refine ⟨⟨NarratedOp.act op, reply⟩ :: told, .call htold, ?_, ?_⟩
      · rw [← hactions]
        rfl
      · intro told' a' htold' hactions'
        obtain ⟨reply', rest', rfl, hrest'⟩ := runs_call.1 htold'
        obtain ⟨hhead, htail⟩ := List.cons.inj hactions'
        cases hhead
        rw [hunique rest' a' hrest' htail]

/-- Every operation of the program satisfies `P`, and every result `Q`, whatever the replies. -/
def Program.Does (P : σ.Op → Prop) (Q : α → Prop) : Program σ α → Prop
  | .ret a => Q a
  | .call op next => P op ∧ ∀ reply, (next reply).Does P Q

theorem Program.Does.mono {P : σ.Op → Prop} {Q R : α → Prop} {p : Program σ α} (h : p.Does P Q)
    (hQR : ∀ a, Q a → R a) : p.Does P R := by
  induction p with
  | ret a => exact hQR a h
  | call op next ih => exact ⟨h.1, fun reply => ih reply (h.2 reply)⟩

namespace Protocol
variable {S : Type} {A : Protocol (narrated E σ) S} {s : S} {Q : α → S → Prop}

theorem meets_say {event : E} {f : Unit → Narrated E σ α}
    (hallowed : A.allowed s (.say event))
    (hrest : A.Meets (f ()) (A.next s (.say event) ()) Q) :
    A.Meets (Narrated.say event >>= f) s Q := ⟨hallowed, fun _ _ => hrest⟩

theorem meets_acting {P : σ.Op → Prop} {p : Program σ α} (hdoes : p.Does P fun a => Q a s)
    (hallowed : ∀ op, P op → A.allowed s (.act op))
    (hnext : ∀ op reply, P op → A.next s (.act op) reply = s) :
    A.Meets (Narrated.acting p) s Q := by
  induction p with
  | ret a => exact hdoes
  | call op next ih =>
    refine ⟨hallowed op hdoes.1, ?_⟩
    intro reply _
    rw [hnext op reply hdoes.1]
    exact ih reply (hdoes.2 reply)

end Protocol
end Interaction
